import RelayStore.Proofs.Filter.Reader
import RelayStore.Proofs.Plan.Terms
import RelayStore.Proofs.Tag.Insertions

/-!
Filters that constrain nothing. Main statement: a plan leaves nothing but deleted rows out exactly
for such a filter, and then reads the base table.
-/
namespace RelayStore

/-- No field has a value that an event must have. A limit does not constrain, and neither do names
without values or a search for blanks. -/
structure Filter.ConstrainsNothing (f : Filter) : Prop where
  ids : f.ids = []
  authors : f.authors = []
  kinds : f.kinds = []
  tags : ∀ name, f.tags.held name = []
  since : f.since = none
  upTo : f.upTo = none
  search : ∀ term ∈ f.search, ∀ c ∈ term.toList, Text.isBlank c = true

/-- The filters there are: the tags of one are given by calls, or it is read from a text. -/
inductive Filter.Obtained (f : Filter) : Prop where
  | built (tags : f.tags.Built)
  | parsed {text : String} (read : Filter.ofJson text = .ok f)

theorem Filter.Obtained.built_tags {f : Filter} (obtained : f.Obtained) : f.tags.Built := by
  cases obtained with
  | built tags => exact tags
  | parsed read => exact ofJson_built read

/-- There are no entries exactly if no name has a value. -/
theorem TagConstraints.WellFormed.held_eq_nil_iff {c : TagConstraints} (h : c.WellFormed) :
    (∀ name, c.held name = []) ↔ c.knownNames = [] ∧ c.other = [] := by
  constructor
  · intro none
    refine ⟨List.eq_nil_iff_forall_not_mem.mpr fun n mem => ?_, ?_⟩
    · rw [mem_knownNames, ← held_text] at mem
      exact mem (none n.text)
    · apply List.map_eq_nil_iff.mp
      apply List.eq_nil_iff_forall_not_mem.mpr
      intro name mem
      exact (h.mem_other_iff.mp mem).2 (none name)
  · rintro ⟨known, other⟩ name
    by_contra some
    cases unknown : TagName.ofText? name with
    | none =>
      have mem := h.mem_other_iff.mpr ⟨unknown, some⟩
      rw [other] at mem
      contradiction
    | some n =>
      obtain rfl := TagName.ofText?_eq_some.mp unknown
      rw [held_text, ← Ne, ← mem_knownNames, known] at some
      contradiction

namespace Plan

variable {f : Filter}

/-! What leaves a condition, and what does not. -/

@[simp] theorem anyText_eq_nil {column : Column} {values : List String} :
    anyText column values = [] ↔ values = [] := by
  unfold anyText
  split_ifs with none <;> simp [none]

@[simp] theorem anyKind_eq_nil {kinds : List UInt16} : anyKind kinds = [] ↔ kinds = [] := by
  unfold anyKind
  split_ifs with none <;> simp [none]

@[simp] theorem bound_eq_nil {condition : Param → Condition} {limit : Option UInt32} :
    bound condition limit = [] ↔ limit = none := by
  cases limit <;> simp [bound]

theorem search_eq_nil {term : String} :
    search term = [] ↔ ∀ c ∈ term.toList, Text.isBlank c = true := by
  constructor
  · intro none
    have conditions := termConditions_search term
    rw [none] at conditions
    -- The conditions are taken apart by how the term is searched for, not by how many they are.
    generalize empty : ([] : List Predicate) = ps at conditions
    cases conditions with
    | words some listed =>
      have tokens := distinct_words_ne_nil.mpr some
      rw [← listed.unique (Text.firstWords_distinct term)] at tokens
      exact absurd (List.map_eq_nil_iff.mp empty.symm) tokens
    | part => contradiction
    | blank all => exact all
  · intro all
    exact (termConditions_iff.mp (.blank all)).symm

/-- Only the first condition is about deleted rows. -/
theorem unconstrained_iff (built : f.tags.Built) : (ofFilter f).unconstrained = true ↔
    (ofFilter f).predicates = [⟨.deleted, .equals (.number 0)⟩] := by
  have other : ∀ entry ∈ f.tags.other, entry.2 ≠ [] :=
    fun entry held => (built.wellFormed.entries entry held).2.2
  have own : ∀ n, route f = .byTag n → ∀ m, f.tags.get m ≠ [] → m = n :=
    fun n view => (route_eq_byTag.mp view).alone
  obtain ⟨rest, shape, proper⟩ := predicatesFor_eq_cons other own
  have predicates : (ofFilter f).predicates = ⟨.deleted, .equals (.number 0)⟩ :: rest := shape
  rw [unconstrained, predicates, List.all_eq_true, List.forall_mem_cons, List.cons.injEq]
  constructor
  · rintro ⟨-, deleted⟩
    refine ⟨rfl, List.eq_nil_iff_forall_not_mem.mpr fun p mem => ?_⟩
    exact (proper p mem).kept (by simpa using deleted p mem)
  · rintro ⟨-, rfl⟩
    exact ⟨rfl, nofun⟩

theorem predicates_eq_singleton : (ofFilter f).predicates = [⟨.deleted, .equals (.number 0)⟩] ↔
    f.ids = [] ∧ f.authors = [] ∧ f.kinds = [] ∧ f.since = none ∧ f.upTo = none ∧
      f.tags.knownNames = [] ∧ f.tags.other = [] ∧
      ∀ term ∈ f.search, ∀ c ∈ term.toList, Text.isBlank c = true := by
  have searched : (f.search.map search).getD [] = [] ↔
      ∀ term ∈ f.search, ∀ c ∈ term.toList, Text.isBlank c = true := by
    cases f.search with
    | none => simp
    | some term => simpa using search_eq_nil
  rw [← searched]
  simp [ofFilter, predicatesFor]

/-- Without names that have values there is no view to read. -/
theorem route_of_unconstrained (ids : f.ids = []) (authors : f.authors = []) (kinds : f.kinds = [])
    (known : f.tags.knownNames = []) : route f = .events := by
  simp [route, ids, authors, kinds, TagConstraints.single?, known]

/-- Whether a filter constrains anything can be told from the conditions of its plan. -/
theorem unconstrained_iff_constrainsNothing (obtained : f.Obtained) :
    ((ofFilter f).unconstrained = true ↔ f.ConstrainsNothing) ∧
      (f.ConstrainsNothing → (ofFilter f).table = .events) := by
  have built := obtained.built_tags
  have tags := built.wellFormed.held_eq_nil_iff
  constructor
  · rw [unconstrained_iff built, predicates_eq_singleton]
    constructor
    · rintro ⟨ids, authors, kinds, since, upTo, known, other, search⟩
      exact ⟨ids, authors, kinds, tags.mpr ⟨known, other⟩, since, upTo, search⟩
    · intro nothing
      obtain ⟨known, other⟩ := tags.mp nothing.tags
      exact ⟨nothing.ids, nothing.authors, nothing.kinds, nothing.since, nothing.upTo, known, other,
        nothing.search⟩
  · intro nothing
    exact route_of_unconstrained nothing.ids nothing.authors nothing.kinds (tags.mp nothing.tags).1

end Plan
end RelayStore

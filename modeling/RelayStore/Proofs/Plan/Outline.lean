import RelayStore.Proofs.Plan.Fitting

/-!
The text of a statement comes from the shape of its filter. Main statement: the statements of two
filters of one shape have the same text and differ in the values of their holes only.
-/
namespace RelayStore

/-! Values erased. -/

/-- The value that stands for all values. -/
def Param.erased : Param := .number 0

def Condition.erase : Condition → Condition
  | equals _ => equals .erased
  | oneOf vs => oneOf (vs.map fun _ => .erased)
  | atLeast _ => atLeast .erased
  | atMost _ => atMost .erased
  | hasAny _ => hasAny .erased
  | hasToken _ => hasToken .erased
  | contains _ => contains .erased
  | tagEntry _ _ => tagEntry .erased .erased

def Predicate.erase (p : Predicate) : Predicate := ⟨p.column, p.condition.erase⟩

def Piece.erase : Piece → Piece
  | text s => text s
  | hole _ => hole .erased

def Statement.erase (s : Statement) : Statement := ⟨s.pieces.map Piece.erase⟩

def Plan.erase (p : Plan) : Plan := { p with predicates := p.predicates.map Predicate.erase }

@[simp] theorem Piece.sql_erase (p : Piece) : p.erase.sql = p.sql := by cases p <;> rfl

@[simp] theorem Statement.sql_erase (s : Statement) : s.erase.sql = s.sql := by
  simp [sql, erase, Function.comp_def]

namespace Statement

/-- Statements that differ in the values of their holes only. -/
def SameText (s t : Statement) : Prop := s.sql = t.sql ∧ s.erase = t.erase

theorem sameText_of_erase {s t : Statement} (same : s.erase = t.erase) : s.SameText t :=
  ⟨by rw [← s.sql_erase, same, t.sql_erase], same⟩

theorem sameText_of_map {x y : Except EmptyList Statement}
    (same : x.map erase = y.map erase) (written : ∃ s, x = .ok s) :
    ∃ s t, x = .ok s ∧ y = .ok t ∧ s.SameText t := by
  obtain ⟨s, rfl⟩ := written
  obtain ⟨t, rfl, erased⟩ := map_eq_ok.mp same.symm
  exact ⟨s, t, rfl, rfl, sameText_of_erase erased.symm⟩

end Statement

/-! Writing a plan down and erasing its values go in either order. -/

theorem holes_erase (vs : List Param) :
    holes (vs.map fun _ => .erased) = (holes vs).map Piece.erase := by
  induction vs with
  | nil => rfl
  | cons v vs ih =>
    cases vs with
    | nil => rfl
    | cons w ws => exact congrArg (.hole .erased :: .text ", " :: ·) ih

theorem Predicate.pieces_erase (p : Predicate) :
    p.erase.pieces = p.pieces.map (List.map Piece.erase) := by
  obtain ⟨column, condition⟩ := p
  cases condition with
  | oneOf vs =>
    cases vs with
    | nil => rfl
    | cons v vs =>
      have list : holes (.erased :: vs.map fun _ => .erased) = _ := holes_erase (v :: vs)
      simp only [erase, Condition.erase, pieces, List.map_cons, list, map_ok, List.map_append]
      rfl
  | _ => rfl

theorem conjunction_erase (word : String) (ps : List Predicate) :
    conjunction word (ps.map Predicate.erase) =
      (conjunction word ps).map (List.map Piece.erase) := by
  induction ps generalizing word with
  | nil => rfl
  | cons p ps ih =>
    rw [List.map_cons, conjunction, conjunction, Predicate.pieces_erase, ih]
    cases p.pieces with
    | error e => rfl
    | ok first =>
      cases conjunction " AND " ps with
      | error e => rfl
      | ok rest => simp [Except.map, bind, Except.bind, pure, Except.pure, Piece.erase]

namespace Plan

theorem source_erase (p : Plan) (database : String) :
    (p.source database).map Piece.erase = p.source database := by
  unfold source
  split_ifs <;> rfl

theorem select_erase (p : Plan) (database : String) :
    p.erase.select database = (p.select database).map Statement.erase := by
  rw [select, select, conditions, conditions, erase, conjunction_erase]
  cases conjunction " WHERE " p.predicates with
  | error e => rfl
  | ok pieces =>
    have source := source_erase p database
    simp only [Except.map, bind, Except.bind, pure, Except.pure, Statement.erase, List.map_append,
      source]
    rfl

theorem count_erase (p : Plan) (database : String) (approximate : Bool) :
    p.erase.count database approximate = (p.count database approximate).map Statement.erase := by
  rw [count, count, conditions, conditions, erase, conjunction_erase]
  cases conjunction " WHERE " p.predicates with
  | error e => rfl
  | ok pieces =>
    have source := source_erase p database
    simp only [Except.map, bind, Except.bind, pure, Except.pure, Statement.erase, List.map_append,
      source]
    rfl

end Plan

/-! The shape of a filter. -/

namespace Filter

/-- The words that are searched for. -/
def searchWords (f : Filter) : List String :=
  (f.search.map fun term => Text.distinct (Text.words term)).getD []

/-- Nothing is searched for. -/
def unsearched (f : Filter) : Bool := f.search.all Text.isBlankText

/-- Two filters that ask for values of the same kinds, and for equally many where a statement lists
them one by one. -/
structure SameShape (f g : Filter) : Prop where
  ids : f.ids.length = g.ids.length
  authors : f.authors.length = g.authors.length
  kinds : f.kinds.length = g.kinds.length
  since : f.since.isSome = g.since.isSome
  upTo : f.upTo.isSome = g.upTo.isSome
  indexed : ∀ n, f.tags.get n = [] ↔ g.tags.get n = []
  identifiers : (f.tags.get .d).length = (g.tags.get .d).length
  viewed : ∀ n, Plan.route f = .byTag n → (f.tags.get n).length = (g.tags.get n).length
  other : f.tags.other.length = g.tags.other.length
  words : f.searchWords.length = g.searchWords.length
  phrase : f.searchWords = [] → f.unsearched = g.unsearched
  limit : effectiveLimit f.limit = effectiveLimit g.limit

end Filter

namespace Plan

variable {f g : Filter}

theorem nil_iff_of_length {α β : Type} {xs : List α} {ys : List β} (same : xs.length = ys.length) :
    xs = [] ↔ ys = [] := by
  rw [← List.length_eq_zero_iff, same, List.length_eq_zero_iff]

/-- Where values are listed one by one only their number is left. -/
theorem erase_oneOf {α β : Type} (column : Column) {xs : List α} {ys : List β}
    (same : xs.length = ys.length) (p : α → Param) (q : β → Param) :
    (Predicate.mk column (.oneOf (xs.map p))).erase =
      (Predicate.mk column (.oneOf (ys.map q))).erase := by
  simp [Predicate.erase, Condition.erase, Function.comp_def, List.map_const', same]

theorem erase_anyText (column : Column) {xs ys : List String} (same : xs.length = ys.length) :
    (anyText column xs).map Predicate.erase = (anyText column ys).map Predicate.erase := by
  unfold anyText
  rw [if_congr (nil_iff_of_length same) rfl rfl]
  split_ifs
  · rfl
  · rw [List.map_singleton, List.map_singleton, erase_oneOf column same]

theorem erase_anyKind {xs ys : List UInt16} (same : xs.length = ys.length) :
    (anyKind xs).map Predicate.erase = (anyKind ys).map Predicate.erase := by
  unfold anyKind
  rw [if_congr (nil_iff_of_length same) rfl rfl]
  split_ifs
  · rfl
  · rw [List.map_singleton, List.map_singleton, erase_oneOf .kind same]

theorem erase_bound (condition : Param → Condition)
    (erased : ∀ v, (condition v).erase = condition .erased) {x y : Option UInt32}
    (same : x.isSome = y.isSome) :
    (bound condition x).map Predicate.erase = (bound condition y).map Predicate.erase := by
  cases x <;> cases y <;> simp_all [bound, Predicate.erase]

theorem erase_tagPredicate (table : Table) (n : TagName) {xs ys : List String}
    (listed : table = .byTag n ∨ n = .d → xs.length = ys.length) :
    (tagPredicate table n xs).erase = (tagPredicate table n ys).erase := by
  unfold tagPredicate
  split_ifs with view single
  · exact erase_oneOf _ (listed (.inl view)) _ _
  · exact erase_oneOf _ (listed (.inr single)) _ _
  · rfl

theorem erase_otherTags {xs ys : List (String × List String)} (same : xs.length = ys.length) :
    (xs.map otherTag).map Predicate.erase = (ys.map otherTag).map Predicate.erase := by
  have erased (zs : List (String × List String)) : (zs.map otherTag).map Predicate.erase =
      List.replicate zs.length ⟨.tags, .tagEntry .erased .erased⟩ := by
    rw [List.map_map, ← List.map_const']
    rfl
  rw [erased, erased, same]

/-- A search leaves one condition for each word, or one for a phrase without words. -/
theorem erase_searches (f : Filter) :
    ((f.search.map search).getD []).map Predicate.erase =
      if f.searchWords = [] then
        if f.unsearched then [] else [⟨.content, .contains .erased⟩]
      else List.replicate f.searchWords.length ⟨.content, .hasToken .erased⟩ := by
  unfold Filter.unsearched Filter.searchWords
  cases f.search with
  | none => rfl
  | some term =>
    simp only [Option.map_some, Option.getD_some, Option.all_some]
    unfold search
    split
    next none =>
      rw [if_pos none]
      split_ifs <;> rfl
    next words some =>
      rw [if_neg some, List.map_map, ← List.map_const']
      rfl

end Plan

namespace Filter.SameShape

variable {f g : Filter}

theorem knownNames (same : f.SameShape g) : f.tags.knownNames = g.tags.knownNames := by
  unfold TagConstraints.knownNames
  exact List.filter_congr fun n _ => decide_eq_decide.mpr (not_congr (same.indexed n))

theorem route (same : f.SameShape g) : Plan.route f = Plan.route g := by
  have ids := Plan.nil_iff_of_length same.ids
  have authors := Plan.nil_iff_of_length same.authors
  have kinds := Plan.nil_iff_of_length same.kinds
  have count : f.tags.count = g.tags.count := by
    rw [TagConstraints.count, TagConstraints.count, same.knownNames, same.other]
  have single : f.tags.single? = g.tags.single? := by
    rw [TagConstraints.single?, TagConstraints.single?, count, same.knownNames]
  simp only [Plan.route, ne_eq, ids, authors, kinds, single]

theorem searches (same : f.SameShape g) :
    ((f.search.map Plan.search).getD []).map Predicate.erase =
      ((g.search.map Plan.search).getD []).map Predicate.erase := by
  rw [Plan.erase_searches, Plan.erase_searches, same.words]
  by_cases none : f.searchWords = []
  · rw [if_pos none, if_pos ((Plan.nil_iff_of_length same.words).mp none), same.phrase none]
  · rw [if_neg none, if_neg (mt (Plan.nil_iff_of_length same.words).mpr none)]

/-- Nothing but the values of a filter is lost with them. -/
theorem erase_ofFilter (same : f.SameShape g) :
    (Plan.ofFilter f).erase = (Plan.ofFilter g).erase := by
  have known : (f.tags.knownNames.map fun n =>
        Plan.tagPredicate (Plan.route f) n (f.tags.get n)).map Predicate.erase =
      (g.tags.knownNames.map fun n =>
        Plan.tagPredicate (Plan.route g) n (g.tags.get n)).map Predicate.erase := by
    rw [← same.knownNames, ← same.route, List.map_map, List.map_map]
    refine List.map_congr_left fun n _ => Plan.erase_tagPredicate _ n ?_
    rintro (view | rfl)
    · exact same.viewed n view
    · exact same.identifiers
  simp only [Plan.erase, Plan.ofFilter, Plan.predicatesFor, List.map_append,
    Plan.erase_anyText .id same.ids, Plan.erase_anyText .pubkey same.authors,
    Plan.erase_anyKind same.kinds, Plan.erase_bound .atLeast (fun _ => rfl) same.since,
    Plan.erase_bound .atMost (fun _ => rfl) same.upTo, known,
    Plan.erase_otherTags same.other, same.searches, same.limit]
  rw [same.route]

end Filter.SameShape

namespace Plan

/-- A plan never lists no values. -/
theorem ne_nil_of_mem_ofFilter (f : Filter) :
    ∀ p ∈ (ofFilter f).predicates, p.condition ≠ .oneOf [] := by
  have listed {ps : List Predicate} (proper : ∀ p ∈ ps, p.Proper .events) :
      ∀ p ∈ ps, p.condition ≠ .oneOf [] :=
    fun p held => Column.ne_nil_of_admits (proper p held).admitted
  show ∀ p ∈ predicatesFor (route f) f, p.condition ≠ .oneOf []
  simp only [predicatesFor, List.forall_mem_append, List.forall_mem_map, List.forall_mem_singleton,
    TagConstraints.mem_knownNames, and_assoc]
  refine ⟨by simp, listed (proper_anyText (.inl rfl) f.ids),
    listed (proper_anyText (.inr rfl) f.authors), listed (proper_anyKind f.kinds),
    listed (proper_bound (fun _ => rfl) f.since), listed (proper_bound (fun _ => rfl) f.upTo),
    ?_, ?_, ?_⟩
  · intro n some
    unfold tagPredicate
    split_ifs <;> simp [some]
  · simp [otherTag]
  · cases f.search with
    | none => simp
    | some term => exact listed (proper_search term)

variable {f g : Filter}

/-- No value of a filter has an influence on the text of its statements. -/
theorem sameText_of_sameShape (same : f.SameShape g) (database : String) :
    (∃ s t, (ofFilter f).select database = .ok s ∧ (ofFilter g).select database = .ok t ∧
      s.SameText t) ∧
    ∀ approximate, ∃ s t, (ofFilter f).count database approximate = .ok s ∧
      (ofFilter g).count database approximate = .ok t ∧ s.SameText t := by
  have listed := ne_nil_of_mem_ofFilter f
  have erased := same.erase_ofFilter
  constructor
  · refine Statement.sameText_of_map ?_ (exists_select listed database)
    rw [← select_erase, ← select_erase, erased]
  · intro approximate
    refine Statement.sameText_of_map ?_ (exists_count listed database approximate)
    rw [← count_erase, ← count_erase, erased]

/-- A filter, and one of its shape whose values read like parts of a statement. -/
def plainFilter : Filter where
  ids := ["a", "b"]
  tags := ⟨((PerTag.const []).set .e ["x"]).set .d ["y"], [("q", ["z"])]⟩
  since := some 1
  limit := some 0
  search := some "red fox, red den"

def hostileFilter : Filter where
  ids := ["' OR 1 = 1 --", "?"]
  tags := ⟨((PerTag.const []).set .e ["?, ?", "x"]).set .d ["\n"], [("t[2]", ["", "') FINAL"])]⟩
  since := some 4294967295
  limit := some 9999
  search := some "DROP table; drop, DROP"

theorem sameText_hostileFilter :
    plainFilter.SameShape hostileFilter ∧
      ∃ s t, (ofFilter plainFilter).select "nostr" = .ok s ∧
        (ofFilter hostileFilter).select "nostr" = .ok t ∧ s.SameText t := by
  have same : plainFilter.SameShape hostileFilter := by
    refine ⟨rfl, rfl, rfl, rfl, rfl, ?_, rfl, ?_, rfl, by decide, by decide, by decide⟩
    · intro n
      cases n <;> decide
    · intro n view
      contradiction
  exact ⟨same, (sameText_of_sameShape same "nostr").1⟩

end Plan
end RelayStore

import RelayStore.Proofs.Except
import RelayStore.Proofs.Plan.TagView

/-! Every plan fits the tables: its columns are there, its conditions suit what they hold, and the
statements made of it are complete. -/
namespace RelayStore
open Column (Content)

namespace Table

/-- The columns that all tables of events have. -/
def sharedColumns : List (String × Content) :=
  [("id", .text), ("pubkey", .text), ("created_at", .number), ("kind", .number),
    ("content", .text), ("sig", .text), ("tags", .tagLists)]

/-- The columns of a table as the database has them. -/
def columns : Table → List (String × Content)
  | byTag n => sharedColumns ++
    [("tag_" ++ n.text ++ "_value", .text), ("version", .number), ("deleted", .number)]
  | events | byAuthor | byKind => sharedColumns ++
    [("tag_e", .texts), ("tag_p", .texts), ("tag_a", .texts), ("tag_t", .texts), ("tag_d", .text),
      ("tag_g", .texts), ("tag_r", .texts), ("relay_received_at", .number), ("version", .number),
      ("deleted", .number)]

theorem mem_all (t : Table) : t ∈ all := by
  cases t with
  | byTag n => exact List.mem_append_right _ (List.mem_map_of_mem (TagName.mem_all n))
  | _ => decide

end Table

theorem Column.mem_all (c : Column) : c ∈ all := by
  cases c with
  | tag n =>
    exact List.mem_append_left _ (List.mem_append_right _ (List.mem_map_of_mem (TagName.mem_all n)))
  | tagValue n => exact List.mem_append_right _ (List.mem_map_of_mem (TagName.mem_all n))
  | _ => decide

/-- A column that a table has is there under its name, with what it holds, and no other is. -/
theorem Table.mem_columns (t : Table) (c : Column) :
    if t.hasColumn c then (c.name, c.holds) ∈ t.columns else c.name ∉ t.columns.map Prod.fst := by
  have h : ∀ t ∈ all, ∀ c ∈ Column.all,
      if t.hasColumn c then (c.name, c.holds) ∈ t.columns
      else c.name ∉ t.columns.map Prod.fst := by decide
  exact h t t.mem_all c c.mem_all

theorem Table.hasColumn_tagValue {t : Table} {n : TagName} :
    t.hasColumn (.tagValue n) = true ↔ t = .byTag n := by
  cases t <;> simp [hasColumn]

/-- Whether a bound value is one of those that a column holds. -/
def Param.isOf : Content → Param → Bool
  | .text, .text _ | .number, .number _ | .texts, .texts _ => true
  | _, _ => false

/-- Whether the operator of a condition takes what a column holds, and its values are of that kind
too. -/
def Condition.suits (type : Content) : Condition → Bool
  | equals v | atLeast v | atMost v => v.isOf type
  | oneOf vs => vs.all (·.isOf type)
  | hasAny v => type = .texts && v.isOf .texts
  | hasToken v | contains v => type = .text && v.isOf .text
  | tagEntry name values => type = .tagLists && name.isOf .text && values.isOf .texts

/-- The conditions that a plan may put on a column. A list of accepted values is never empty. -/
def Column.admits : Column → Condition → Bool
  | deleted, .equals v => v = .number 0
  | id, .oneOf vs | pubkey, .oneOf vs | tag .d, .oneOf vs | tagValue _, .oneOf vs =>
    vs ≠ [] && vs.all (·.isOf .text)
  | kind, .oneOf vs => vs ≠ [] && vs.all (·.isOf .number)
  | createdAt, .atLeast v | createdAt, .atMost v => v.isOf .number
  | content, .hasToken v | content, .contains v => v.isOf .text
  | tag n, .hasAny v => n ≠ .d && v.isOf .texts && v ≠ .texts []
  | tags, .tagEntry name values => name.isOf .text && values.isOf .texts && values ≠ .texts []
  | _, _ => false

theorem Column.suits_of_admits {c : Column} {condition : Condition}
    (h : c.admits condition = true) : condition.suits c.holds = true := by
  unfold Column.admits at h
  split at h <;> simp_all [Condition.suits, Column.holds, Param.isOf]

theorem Column.ne_nil_of_admits {c : Column} {condition : Condition}
    (h : c.admits condition = true) : condition ≠ .oneOf [] := by
  rintro rfl
  unfold Column.admits at h
  split at h <;> simp_all

/-- A condition that a plan may have on a table, the one on deleted rows apart. -/
structure Predicate.Proper (t : Table) (p : Predicate) : Prop where
  present : t.hasColumn p.column = true
  admitted : p.column.admits p.condition = true
  kept : p.column ≠ .deleted

namespace Plan

variable {t : Table}

theorem mem_anyText {column : Column} {values : List String} {p : Predicate} :
    p ∈ anyText column values ↔ values ≠ [] ∧ p = ⟨column, .oneOf (values.map .text)⟩ := by
  unfold anyText
  split_ifs with none <;> simp [none]

theorem mem_anyKind {kinds : List UInt16} {p : Predicate} : p ∈ anyKind kinds ↔
    kinds ≠ [] ∧ p = ⟨.kind, .oneOf (kinds.map fun k => .number k.toNat)⟩ := by
  unfold anyKind
  split_ifs with none <;> simp [none]

theorem mem_bound {condition : Param → Condition} {limit : Option UInt32} {p : Predicate} :
    p ∈ bound condition limit ↔
      ∃ n, limit = some n ∧ p = ⟨.createdAt, condition (.number n.toNat)⟩ := by
  cases limit <;> simp [bound]

theorem proper_anyText {column : Column} (key : column = .id ∨ column = .pubkey)
    (values : List String) : ∀ p ∈ anyText column values, p.Proper t := by
  intro p held
  obtain ⟨some, rfl⟩ := mem_anyText.mp held
  rcases key with rfl | rfl <;>
    exact ⟨by cases t <;> rfl, by simpa [Column.admits, Param.isOf] using some, by simp⟩

theorem proper_anyKind (kinds : List UInt16) : ∀ p ∈ anyKind kinds, p.Proper t := by
  intro p held
  obtain ⟨some, rfl⟩ := mem_anyKind.mp held
  exact ⟨by cases t <;> rfl, by simpa [Column.admits, Param.isOf] using some, by simp⟩

theorem proper_bound {condition : Param → Condition}
    (orders : ∀ n, Column.createdAt.admits (condition (.number n)) = true) (limit : Option UInt32) :
    ∀ p ∈ bound condition limit, p.Proper t := by
  intro p held
  obtain ⟨n, -, rfl⟩ := mem_bound.mp held
  exact ⟨by cases t <;> rfl, orders n.toNat, by simp⟩

/-- A view is asked for the values of its own name only. -/
theorem proper_tagPredicate {n : TagName} {values : List String} (some : values ≠ [])
    (own : ∀ m, t = .byTag m → n = m) : (tagPredicate t n values).Proper t := by
  unfold tagPredicate
  split
  next view =>
    subst view
    exact ⟨by simp [Table.hasColumn], by simpa [Column.admits, Param.isOf] using some, by simp⟩
  next full =>
    have present : t.hasColumn (.tag n) = true := by
      cases t with
      | byTag m => exact absurd (own m rfl ▸ rfl) full
      | _ => rfl
    split
    next single =>
      subst single
      exact ⟨present, by simpa [Column.admits, Param.isOf] using some, by simp⟩
    next list =>
      exact ⟨present, by simp [Column.admits, Param.isOf, list, some], by simp⟩

theorem proper_otherTag {entry : String × List String} (some : entry.2 ≠ []) :
    (otherTag entry).Proper t :=
  ⟨by cases t <;> rfl, by simp [otherTag, Column.admits, Param.isOf, some], by simp [otherTag]⟩

/-- A search is about the content alone. -/
theorem search_content (term : String) :
    ∀ p ∈ search term, p.column = .content ∧ Column.content.admits p.condition = true := by
  intro p held
  unfold search at held
  split at held
  · split at held
    · contradiction
    · obtain rfl := List.mem_singleton.mp held
      exact ⟨rfl, rfl⟩
  · obtain ⟨word, -, rfl⟩ := List.mem_map.mp held
    exact ⟨rfl, rfl⟩

theorem proper_search (term : String) : ∀ p ∈ search term, p.Proper t := by
  intro p held
  obtain ⟨column, admitted⟩ := search_content term p held
  exact ⟨by rw [column]; cases t <;> rfl, by rwa [column], by simp [column]⟩

/-- The first condition leaves out the deleted rows, and no other one is about them. -/
theorem predicatesFor_eq_cons {f : Filter} (other : ∀ entry ∈ f.tags.other, entry.2 ≠ [])
    (own : ∀ n, t = .byTag n → ∀ m, f.tags.get m ≠ [] → m = n) :
    ∃ rest, predicatesFor t f = ⟨.deleted, .equals (.number 0)⟩ :: rest ∧
      ∀ p ∈ rest, p.Proper t := by
  refine ⟨anyText .id f.ids ++ anyText .pubkey f.authors ++ anyKind f.kinds ++
    bound .atLeast f.since ++ bound .atMost f.upTo ++
    (f.tags.knownNames.map fun n => tagPredicate t n (f.tags.get n)) ++
    f.tags.other.map otherTag ++ (f.search.map search).getD [], by simp [predicatesFor], ?_⟩
  simp only [List.forall_mem_append, List.forall_mem_map, TagConstraints.mem_knownNames, and_assoc]
  refine ⟨proper_anyText (.inl rfl) f.ids, proper_anyText (.inr rfl) f.authors,
    proper_anyKind f.kinds, proper_bound (fun _ => rfl) f.since,
    proper_bound (fun _ => rfl) f.upTo, ?_, ?_, ?_⟩
  · intro n some
    exact proper_tagPredicate some fun m view => own m view n some
  · intro entry held
    exact proper_otherTag (other entry held)
  · cases f.search with
    | none => simp
    | some term => exact proper_search term

end Plan

theorem TagConstraints.single?_eq_some {c : TagConstraints} {n : TagName} :
    c.single? = some n ↔ c.knownNames = [n] ∧ c.other = [] := by
  constructor
  · intro h
    unfold single? at h
    split at h
    next one =>
      obtain ⟨rest, names⟩ := List.head?_eq_some_iff.mp h
      simp only [count, names, List.length_cons] at one
      have none : rest.length = 0 ∧ c.other.length = 0 := by omega
      rw [names, List.length_eq_zero_iff.mp none.1]
      exact ⟨rfl, List.length_eq_zero_iff.mp none.2⟩
    · contradiction
  · rintro ⟨names, other⟩
    simp [single?, count, names, other]

namespace Plan

variable {f : Filter}

theorem route_eq_byTag {n : TagName} : route f = .byTag n ↔ f.OnlyTag n := by
  constructor
  · intro h
    unfold route at h
    split_ifs at h with ids authors kinds
    split at h
    next m single =>
      obtain rfl := Table.byTag.inj h
      obtain ⟨names, other⟩ := TagConstraints.single?_eq_some.mp single
      have constrained (k : TagName) : f.tags.get k ≠ [] ↔ k = m := by
        rw [← TagConstraints.mem_knownNames, names, List.mem_singleton]
      refine ⟨?_, ?_, ?_, (constrained m).mpr rfl, fun k => (constrained k).mp, other⟩
      · simpa using ids
      · simpa using authors
      · simpa using kinds
    · contradiction
  · exact Filter.OnlyTag.route

/-- A plan that the database can run. -/
structure Fits (p : Plan) : Prop where
  /-- Deleted rows are left out first, and no other condition is about them. -/
  kept : ∃ rest, p.predicates = ⟨.deleted, .equals (.number 0)⟩ :: rest ∧
    ∀ c ∈ rest, c.column ≠ .deleted
  typed : ∀ c ∈ p.predicates, ∃ type, (c.column.name, type) ∈ p.table.columns ∧
    c.condition.suits type = true
  admitted : ∀ c ∈ p.predicates, c.column.admits c.condition = true
  /-- A view has the value column of its own name, and no other tag column. -/
  view : ∀ c ∈ p.predicates, ∀ n, (c.column = .tagValue n → p.table = .byTag n) ∧
    (p.table = .byTag n → ∀ m, c.column ≠ .tag m)
  limited : 1 ≤ p.limit.toNat ∧ p.limit.toNat ≤ 5000

end Plan

theorem effectiveLimit_bounds (limit : Option UInt32) :
    1 ≤ (effectiveLimit limit).toNat ∧ (effectiveLimit limit).toNat ≤ 5000 := by
  unfold effectiveLimit
  split
  next n =>
    split
    next within => exact ⟨UInt32.lt_iff_toNat_lt.mp within.1, UInt32.le_iff_toNat_le.mp within.2⟩
    · decide
  · decide

/-- Only an empty list of accepted values cannot be written down. -/
theorem Predicate.exists_pieces {p : Predicate} (some : p.condition ≠ .oneOf []) :
    ∃ pieces, p.pieces = .ok pieces := by
  unfold pieces
  split
  case h_2 none => exact absurd none some
  all_goals exact ⟨_, rfl⟩

theorem exists_conjunction {ps : List Predicate} (some : ∀ p ∈ ps, p.condition ≠ .oneOf [])
    (word : String) : ∃ pieces, conjunction word ps = .ok pieces := by
  induction ps generalizing word with
  | nil => exact ⟨[], rfl⟩
  | cons p ps ih =>
    obtain ⟨some, more⟩ := List.forall_mem_cons.mp some
    obtain ⟨first, h⟩ := Predicate.exists_pieces some
    obtain ⟨rest, hs⟩ := ih more " AND "
    exact ⟨.text word :: first ++ rest, bind_eq_ok.mpr ⟨first, h, bind_eq_ok.mpr ⟨rest, hs, rfl⟩⟩⟩

namespace Plan

variable {p : Plan}

theorem exists_select (some : ∀ c ∈ p.predicates, c.condition ≠ .oneOf []) (database : String) :
    ∃ s, p.select database = .ok s := by
  obtain ⟨pieces, h⟩ := exists_conjunction some " WHERE "
  exact ⟨_, bind_eq_ok.mpr ⟨pieces, h, rfl⟩⟩

theorem exists_count (some : ∀ c ∈ p.predicates, c.condition ≠ .oneOf []) (database : String)
    (approximate : Bool) : ∃ s, p.count database approximate = .ok s := by
  obtain ⟨pieces, h⟩ := exists_conjunction some " WHERE "
  exact ⟨_, bind_eq_ok.mpr ⟨pieces, h, rfl⟩⟩

theorem fits_ofFilter {f : Filter} (built : f.tags.Built) : (ofFilter f).Fits := by
  have other : ∀ entry ∈ f.tags.other, entry.2 ≠ [] :=
    fun entry held => (built.wellFormed.entries entry held).2.2
  have own : ∀ n, route f = .byTag n → ∀ m, f.tags.get m ≠ [] → m = n :=
    fun n view => (route_eq_byTag.mp view).alone
  obtain ⟨rest, shape, proper⟩ := predicatesFor_eq_cons other own
  have present : ∀ c ∈ (ofFilter f).predicates,
      (route f).hasColumn c.column = true ∧ c.column.admits c.condition = true := by
    show ∀ c ∈ predicatesFor (route f) f, _
    rw [shape]
    refine List.forall_mem_cons.mpr ⟨⟨?_, rfl⟩, fun c held => ?_⟩
    · cases route f <;> rfl
    · exact ⟨(proper c held).present, (proper c held).admitted⟩
  refine ⟨⟨rest, shape, fun c held => (proper c held).kept⟩, ?_, fun c held => (present c held).2,
    ?_, effectiveLimit_bounds f.limit⟩
  · intro c held
    obtain ⟨has, admitted⟩ := present c held
    have column := (route f).mem_columns c.column
    rw [if_pos has] at column
    exact ⟨c.column.holds, column, Column.suits_of_admits admitted⟩
  · intro c held n
    have has := (present c held).1
    constructor
    · intro value
      rw [value] at has
      exact Table.hasColumn_tagValue.mp has
    · intro view m tag
      rw [tag, show route f = .byTag n from view] at has
      contradiction

/-- The route of every filter, what its plan asks of the table there, and that the plan can be
written down. -/
theorem runnable {f : Filter} (built : f.tags.Built) :
    (∀ n, (ofFilter f).table = .byTag n ↔ f.OnlyTag n) ∧ (ofFilter f).Fits ∧
      ∀ database, (∃ s, (ofFilter f).select database = .ok s) ∧
        ∀ approximate, ∃ s, (ofFilter f).count database approximate = .ok s := by
  have fits := fits_ofFilter built
  have some : ∀ c ∈ (ofFilter f).predicates, c.condition ≠ .oneOf [] :=
    fun c held => Column.ne_nil_of_admits (fits.admitted c held)
  exact ⟨fun n => route_eq_byTag, fits, fun database => ⟨exists_select some database,
    fun approximate => exists_count some database approximate⟩⟩

/-- A name that is asked for without a value is not constrained. -/
def oneName : Filter where
  tags := (TagConstraints.addKnown {} .e []).addKnown .r ["", "x"]
  since := some 5
  limit := some 0
  search := some " — "

theorem runnable_oneName :
    oneName.tags.Built ∧ oneName.OnlyTag .r ∧ (ofFilter oneName).Fits ∧
      (ofFilter oneName).predicates =
        [⟨.deleted, .equals (.number 0)⟩, ⟨.createdAt, .atLeast (.number 5)⟩,
          ⟨.tagValue .r, .oneOf [.text "", .text "x"]⟩, ⟨.content, .contains (.text "—")⟩] ∧
      ∃ s, (ofFilter oneName).select "nostr" = .ok s := by
  have built : oneName.tags.Built := (TagConstraints.Built.empty.addKnown .e []).addKnown .r _
  obtain ⟨route, fits, render⟩ := runnable built
  exact ⟨built, (route .r).mp (by decide), fits, by decide, (render "nostr").1⟩

end Plan

end RelayStore

import RelayStore.Proofs.Plan.Selection

/-! The views of the tag names. A filter on one name alone finds in its view what it finds in the
full rows of each kind, but for events whose identifier is empty. -/
namespace RelayStore

/-- A row of the view of a tag name. -/
structure TagRow where
  id : String
  pubkey : String
  createdAt : UInt32
  kind : UInt16
  content : String
  sig : String
  tags : List Tag
  value : String
  version : Nat
  deleted : UInt8
  deriving DecidableEq, Repr

def TagRow.record (n : TagName) (row : TagRow) : Record
  | .id => some (.text row.id)
  | .pubkey => some (.text row.pubkey)
  | .kind => some (.number row.kind.toNat)
  | .createdAt => some (.number row.createdAt.toNat)
  | .content => some (.text row.content)
  | .deleted => some (.number row.deleted.toNat)
  | .tags => some (.tagLists row.tags)
  | .tag _ => none
  | .tagValue m => if n = m then some (.text row.value) else none

theorem TagRow.record_isSome (n : TagName) (row : TagRow) (column : Column) :
    (row.record n column).isSome = (Table.byTag n).hasColumn column := by
  cases column with
  | tagValue m => by_cases same : n = m <;> simp [record, Table.hasColumn, same]
  | _ => rfl

namespace EventRow

/-- The values that have a row in the view of a name. An empty identifier has none. -/
def viewValues (row : EventRow) : TagName → List String
  | .e => Text.distinct row.tagE
  | .p => Text.distinct row.tagP
  | .a => Text.distinct row.tagA
  | .t => Text.distinct row.tagT
  | .d => if row.tagD ≠ "" then [row.tagD] else []
  | .g => Text.distinct row.tagG
  | .r => Text.distinct row.tagR

def tagRow (row : EventRow) (value : String) : TagRow where
  id := row.id
  pubkey := row.pubkey
  createdAt := row.createdAt
  kind := row.kind
  content := row.content
  sig := row.sig
  tags := row.tags
  value := value
  version := row.version
  deleted := row.deleted

/-- What the view of a name derives from a row. -/
def tagRows (n : TagName) (row : EventRow) : List TagRow := (row.viewValues n).map row.tagRow

theorem mem_viewValues_ofEvent (e : Event) (receivedAt : UInt32) (version : Nat) {n : TagName}
    (list : n ≠ .d) {value : String} :
    value ∈ (ofEvent e receivedAt version).viewValues n ↔ value ∈ valuesOf n.text e.tags := by
  cases n with
  | d => contradiction
  | _ => simp only [viewValues, ofEvent, Text.mem_distinct, Projections.get_ofTags]

theorem mem_viewValues_identifier (e : Event) (receivedAt : UInt32) (version : Nat)
    {value : String} :
    value ∈ (ofEvent e receivedAt version).viewValues .d ↔
      value = e.identifier ∧ e.identifier ≠ "" := by
  have tagD : (ofEvent e receivedAt version).tagD = e.identifier := Projections.identifier_ofTags _
  rw [viewValues, tagD]
  by_cases empty : e.identifier = "" <;> simp [empty]

end EventRow

namespace Filter

/-- The filter asks for one indexed name, and for no id, author, kind or other name. -/
structure OnlyTag (f : Filter) (n : TagName) : Prop where
  ids : f.ids = []
  authors : f.authors = []
  kinds : f.kinds = []
  asked : f.tags.get n ≠ []
  alone : ∀ m, f.tags.get m ≠ [] → m = n
  other : f.tags.other = []

/-- The time of an event lies within the bounds, and its content has what is searched for. -/
def Fits (fns : TextFunctions) (f : Filter) (createdAt : UInt32) (content : String) : Prop :=
  (∀ t, f.since = some t → t ≤ createdAt) ∧ (∀ t, f.upTo = some t → createdAt ≤ t) ∧
    ∀ term, f.search = some term → Searched fns term content

variable {fns : TextFunctions} {f : Filter} {n : TagName}

theorem OnlyTag.knownNames (only : f.OnlyTag n) : f.tags.knownNames = [n] := by
  have same : ∀ m ∈ TagName.all, decide (f.tags.get m ≠ []) = decide (m = n) := by
    intro m _
    rw [decide_eq_decide]
    exact ⟨only.alone m, fun h => h ▸ only.asked⟩
  unfold TagConstraints.knownNames
  rw [List.filter_congr same]
  cases n <;> rfl

theorem OnlyTag.route (only : f.OnlyTag n) : Plan.route f = .byTag n := by
  have single : f.tags.single? = some n := by
    simp [TagConstraints.single?, TagConstraints.count, only.knownNames, only.other]
  simp [Plan.route, only.ids, only.authors, only.kinds, single]

theorem OnlyTag.route_kinds (only : f.OnlyTag n) (kind : UInt16) :
    Plan.route { f with kinds := [kind] } = .byKind := by
  simp [Plan.route, only.ids, only.authors]

/-- Besides the kinds there is one constraint on a tag. -/
theorem OnlyTag.accepts_iff (only : f.OnlyTag n) (kinds : List UInt16) {record : Record}
    {createdAt : UInt32} {content : String} (kept : record .deleted = some (.number 0))
    (time : record .createdAt = some (.number createdAt.toNat))
    (text : record .content = some (.text content)) :
    (Plan.ofFilter { f with kinds := kinds }).accepts fns record = true ↔
      (Plan.anyKind kinds).all (·.holds fns record) = true ∧
      (Plan.tagPredicate (Plan.route { f with kinds := kinds }) n (f.tags.get n)).holds fns record =
        true ∧
      f.Fits fns createdAt content := by
  have deleted : (Predicate.mk .deleted (.equals (.number 0))).holds fns record = true := by
    simp [Predicate.holds, Condition.holds, Cell.equals, kept]
  have tag (table : Table) : (∀ m, f.tags.get m ≠ [] →
      (Plan.tagPredicate table m (f.tags.get m)).holds fns record = true) ↔
        (Plan.tagPredicate table n (f.tags.get n)).holds fns record = true := by
    constructor
    · intro h
      exact h n only.asked
    · intro h m constrained
      obtain rfl := only.alone m constrained
      exact h
  rw [Plan.accepts_ofFilter, Plan.holds_atLeast time, Plan.holds_atMost time,
    Plan.holds_searches text, tag]
  simp [deleted, only.ids, only.authors, only.other, Plan.anyText, Fits, and_left_comm]

/-- The plan for the view reads the value column. -/
theorem OnlyTag.accepts_view (only : f.OnlyTag n) {row : TagRow} (kept : row.deleted = 0) :
    (Plan.ofFilter f).accepts fns (row.record n) = true ↔
      row.value ∈ f.tags.get n ∧ f.Fits fns row.createdAt row.content := by
  have cell : row.record n (.tagValue n) = some (.text row.value) := if_pos rfl
  have deleted : row.record n .deleted = some (.number 0) := by
    rw [TagRow.record, kept]
    rfl
  have unchanged : { f with kinds := [] } = f := by rw [← only.kinds]
  have h : (Plan.ofFilter { f with kinds := [] }).accepts fns (row.record n) = true ↔ _ :=
    only.accepts_iff [] deleted rfl rfl
  rw [unchanged, only.route, Plan.tagPredicate, if_pos rfl, Plan.holds_oneOf cell] at h
  simpa [Plan.anyKind] using h

/-- The plan for the full rows of the event's kind reads the column of the name. -/
theorem OnlyTag.accepts_kind (only : f.OnlyTag n) (e : Event) (receivedAt : UInt32)
    (version : Nat) :
    (Plan.ofFilter { f with kinds := [e.kind] }).accepts fns
        (EventRow.ofEvent e receivedAt version).record = true ↔
      (if n = .d then e.identifier ∈ f.tags.get n
        else ∃ value ∈ valuesOf n.text e.tags, value ∈ f.tags.get n) ∧
      f.Fits fns e.createdAt e.content := by
  have kind : (Plan.anyKind [e.kind]).all
      (·.holds fns (EventRow.ofEvent e receivedAt version).record) = true :=
    (Plan.holds_anyKind rfl [e.kind]).mpr (.inr List.mem_cons_self)
  have full : Plan.route { f with kinds := [e.kind] } ≠ .byTag n := by simp [only.route_kinds]
  rw [only.accepts_iff [e.kind] rfl rfl rfl, Plan.holds_tagPredicate full]
  exact and_iff_right kind

/-- The route and what is found on it. A view has no row for an empty identifier, so an event
without one is found by its kind alone. -/
theorem OnlyTag.same_answer (only : f.OnlyTag n) (e : Event) (receivedAt : UInt32)
    (version : Nat) :
    (Plan.ofFilter f).table = .byTag n ∧
      (Plan.ofFilter { f with kinds := [e.kind] }).table = .byKind ∧
      ((∃ row ∈ (EventRow.ofEvent e receivedAt version).tagRows n,
          (Plan.ofFilter f).accepts fns (row.record n) = true) ↔
        (Plan.ofFilter { f with kinds := [e.kind] }).accepts fns
            (EventRow.ofEvent e receivedAt version).record = true ∧
          (n = .d → (EventRow.ofEvent e receivedAt version).tagD ≠ "")) := by
  have tagD : (EventRow.ofEvent e receivedAt version).tagD = e.identifier :=
    Projections.identifier_ofTags _
  refine ⟨only.route, only.route_kinds e.kind, ?_⟩
  rw [only.accepts_kind, tagD]
  have view (value : String) :
      (Plan.ofFilter f).accepts fns
          (((EventRow.ofEvent e receivedAt version).tagRow value).record n) = true ↔
        value ∈ f.tags.get n ∧ f.Fits fns e.createdAt e.content := only.accepts_view rfl
  simp only [EventRow.tagRows, List.mem_map, exists_exists_and_eq_and, view]
  by_cases single : n = .d
  · subst single
    simp only [EventRow.mem_viewValues_identifier, if_true, true_imp_iff]
    constructor
    · rintro ⟨value, ⟨rfl, named⟩, accepted, fits⟩
      exact ⟨⟨accepted, fits⟩, named⟩
    · rintro ⟨⟨accepted, fits⟩, named⟩
      exact ⟨e.identifier, ⟨rfl, named⟩, accepted, fits⟩
  · simp only [EventRow.mem_viewValues_ofEvent e receivedAt version single, if_neg single]
    constructor
    · rintro ⟨value, found, accepted, fits⟩
      exact ⟨⟨⟨value, found, accepted⟩, fits⟩, fun h => absurd h single⟩
    · rintro ⟨⟨⟨value, found, accepted⟩, fits⟩, -⟩
      exact ⟨value, found, accepted, fits⟩

/-- Events whose identifier is empty. -/
def anonymous : Filter := { tags := ⟨(PerTag.const []).set .d [""], []⟩ }

theorem anonymous_onlyTag : anonymous.OnlyTag .d where
  ids := rfl
  authors := rfl
  kinds := rfl
  asked := by decide
  alone m h := by
    cases m with
    | d => rfl
    | _ => exact absurd rfl h
  other := rfl

/-- An event without tags is in no view, and its kind's rows answer. -/
theorem view_lacks_anonymous :
    ¬ ∀ (fns : TextFunctions) (f : Filter) (n : TagName), f.OnlyTag n →
      ∀ (e : Event) (receivedAt : UInt32) (version : Nat),
        (∃ row ∈ (EventRow.ofEvent e receivedAt version).tagRows n,
            (Plan.ofFilter f).accepts fns (row.record n) = true) ↔
          (Plan.ofFilter { f with kinds := [e.kind] }).accepts fns
            (EventRow.ofEvent e receivedAt version).record = true := by
  intro claim
  have h := claim ⟨fun _ _ => false, fun _ _ => 0⟩ anonymous .d anonymous_onlyTag {} 0 1
  obtain ⟨row, held, -⟩ := h.mpr (by decide)
  have none : (EventRow.ofEvent {} 0 1).tagRows .d = [] := by decide
  simp [none] at held

theorem same_answer_repeated :
    ∃ (f : Filter) (e : Event), f.OnlyTag .t ∧
      ((EventRow.ofEvent e 7 1).tagRows .t).map TagRow.value = ["", "x"] ∧
      ∃ row ∈ (EventRow.ofEvent e 7 1).tagRows .t,
        (Plan.ofFilter f).accepts ⟨fun _ _ => true, fun _ _ => 1⟩ (row.record .t) = true := by
  let f : Filter := { tags := ⟨(PerTag.const []).set .t ["y", "x"], []⟩, since := some 5 }
  let e : Event := { createdAt := 5, tags := [["t", ""], ["t", "x"], ["t"], ["t", "x", "z"]] }
  have only : f.OnlyTag .t := by
    refine ⟨rfl, rfl, rfl, by decide, ?_, rfl⟩
    intro m h
    cases m with
    | t => rfl
    | _ => exact absurd rfl h
  exact ⟨f, e, only, by decide, (only.same_answer e 7 1).2.2.mpr ⟨by decide, by decide⟩⟩

end Filter
end RelayStore

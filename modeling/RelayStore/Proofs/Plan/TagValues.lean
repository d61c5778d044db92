import RelayStore.Proofs.Plan.Fitting
import RelayStore.Proofs.Tag.Insertions

/-!
What a tag constraint asks of an event. Main statement: an event with a row that a plan accepts has
for each name a tag with an accepted value, unless the empty text is accepted too.
-/
namespace RelayStore

/-- A tag of the event has the name, and its value is among the accepted ones. -/
def Event.HasValue (e : Event) (name : String) (values : List String) : Prop :=
  ∃ tag ∈ e.tags, ∃ value rest, tag = name :: value :: rest ∧ value ∈ values

theorem Event.hasValue_iff {e : Event} {name : String} {values : List String} :
    e.HasValue name values ↔ ∃ value ∈ valuesOf name e.tags, value ∈ values := by
  constructor
  · rintro ⟨tag, held, value, rest, shape, accepted⟩
    exact ⟨value, mem_valuesOf.mpr ⟨tag, held, rest, shape⟩, accepted⟩
  · rintro ⟨value, found, accepted⟩
    obtain ⟨tag, held, rest, shape⟩ := mem_valuesOf.mp found
    exact ⟨tag, held, value, rest, shape, accepted⟩

/-- An event without a value of `d` counts as one with the empty identifier. -/
theorem Event.identifier_cases (e : Event) :
    e.identifier ∈ valuesOf "d" e.tags ∨ valuesOf "d" e.tags = [] ∧ e.identifier = "" := by
  rw [identifier]
  cases found : valuesOf "d" e.tags with
  | nil => exact .inr ⟨rfl, rfl⟩
  | cons value rest =>
    left
    rw [List.getLastD_cons]
    exact List.getLastD_mem_cons

/-- The rows in a table that come from a full row. -/
def EventRow.recordsIn (row : EventRow) : Table → List Record
  | .byTag n => (row.tagRows n).map (·.record n)
  | .events | .byAuthor | .byKind => [row.record]

theorem EventRow.mem_recordsIn_full {row : EventRow} {table : Table}
    (full : ∀ n, table ≠ .byTag n) {record : Record} :
    record ∈ row.recordsIn table ↔ record = row.record := by
  cases table with
  | byTag n => exact absurd rfl (full n)
  | events | byAuthor | byKind => exact List.mem_singleton

namespace Plan

variable {fns : TextFunctions} {f : Filter} {e : Event} {receivedAt : UInt32} {version : Nat}
  {record : Record}

theorem holds_tag (accepted : (ofFilter f).accepts fns record = true) {n : TagName}
    (asked : f.tags.get n ≠ []) :
    (tagPredicate (ofFilter f).table n (f.tags.get n)).holds fns record = true := by
  obtain ⟨-, -, -, -, -, -, known, -⟩ := (accepts_ofFilter f).mp accepted
  exact known n asked

theorem holds_other (accepted : (ofFilter f).accepts fns record = true)
    {entry : String × List String} (asked : entry ∈ f.tags.other) :
    (otherTag entry).holds fns record = true := by
  obtain ⟨-, -, -, -, -, -, -, other, -⟩ := (accepts_ofFilter f).mp accepted
  exact List.all_eq_true.mp other _ (List.mem_map_of_mem asked)

/-- A row of the view of a name has one of the values that the event has. -/
theorem hasValue_of_view {n : TagName} (view : (ofFilter f).table = .byTag n)
    (stored : record ∈ (EventRow.ofEvent e receivedAt version).recordsIn (.byTag n))
    (accepted : (ofFilter f).accepts fns record = true) (asked : f.tags.get n ≠ []) :
    e.HasValue n.text (f.tags.get n) := by
  obtain ⟨row, derived, rfl⟩ := List.mem_map.mp stored
  obtain ⟨value, found, rfl⟩ := List.mem_map.mp derived
  have held := holds_tag accepted asked
  rw [view, tagPredicate, if_pos rfl, holds_oneOf (if_pos rfl)] at held
  refine Event.hasValue_iff.mpr ⟨value, ?_, held⟩
  by_cases single : n = .d
  · subst single
    obtain ⟨rfl, named⟩ := (EventRow.mem_viewValues_identifier e receivedAt version).mp found
    rcases e.identifier_cases with among | ⟨-, empty⟩
    · exact among
    · exact absurd empty named
  · exact (EventRow.mem_viewValues_ofEvent e receivedAt version single).mp found

/-- A full row has one of the values that the event has, or the empty identifier. -/
theorem hasValue_of_full {n : TagName} (full : (ofFilter f).table ≠ .byTag n)
    (accepted : (ofFilter f).accepts fns (EventRow.ofEvent e receivedAt version).record = true)
    (asked : f.tags.get n ≠ []) :
    e.HasValue n.text (f.tags.get n) ∨
      n = .d ∧ valuesOf "d" e.tags = [] ∧ "" ∈ f.tags.get n := by
  have held := (holds_tagPredicate full e receivedAt version _).mp (holds_tag accepted asked)
  split at held
  next single =>
    subst single
    rcases e.identifier_cases with among | ⟨none, empty⟩
    · exact .inl (Event.hasValue_iff.mpr ⟨e.identifier, among, held⟩)
    · exact .inr ⟨rfl, none, empty ▸ held⟩
  next list => exact .inl (Event.hasValue_iff.mpr held)

/-- An entry of the tag list has the name. Without a value it counts as having the empty one. -/
theorem hasValue_of_other {entry : String × List String} (named : entry.1 ≠ "")
    (cell : record .tags = some (.tagLists e.tags))
    (held : (otherTag entry).holds fns record = true) :
    e.HasValue entry.1 entry.2 ∨ [entry.1] ∈ e.tags ∧ "" ∈ entry.2 := by
  obtain ⟨tag, among, first, second⟩ := (holds_otherTag cell entry).mp held
  obtain ⟨rest, rfl⟩ := List.head?_eq_some_iff.mp ((getD_zero_eq named).mp first)
  cases rest with
  | nil => exact .inr ⟨among, second⟩
  | cons value rest => exact .inl ⟨_, among, value, rest, rfl, second⟩

/-- An event of which a plan accepts a row has for each name a tag with an accepted value. Only
where the empty text is accepted there may be none: for the identifier, unless its own view is read,
and for a name without an index, of which there is a tag then all the same. -/
theorem hasValue_of_accepts (built : f.tags.Built)
    (stored : record ∈ (EventRow.ofEvent e receivedAt version).recordsIn (ofFilter f).table)
    (accepted : (ofFilter f).accepts fns record = true) {name : String}
    (asked : f.tags.held name ≠ []) :
    e.HasValue name (f.tags.held name) ∨ "" ∈ f.tags.held name ∧
      (name = "d" ∧ valuesOf "d" e.tags = [] ∧ (ofFilter f).table ≠ .byTag .d ∨
        TagName.ofText? name = none ∧ [name] ∈ e.tags) := by
  cases known : TagName.ofText? name with
  | some n =>
    obtain rfl := TagName.ofText?_eq_some.mp known
    rw [TagConstraints.held_text] at asked ⊢
    by_cases view : (ofFilter f).table = .byTag n
    · rw [view] at stored
      exact .inl (hasValue_of_view view stored accepted asked)
    -- The view of another name is not read, for it would be the only one asked for.
    have full : ∀ m, (ofFilter f).table ≠ .byTag m := by
      intro m other
      have only : f.OnlyTag m := route_eq_byTag.mp other
      obtain rfl := only.alone n asked
      exact view other
    obtain rfl := (EventRow.mem_recordsIn_full full).mp stored
    rcases hasValue_of_full view accepted asked with value | ⟨rfl, none, empty⟩
    · exact .inl value
    · exact .inr ⟨empty, .inl ⟨rfl, none, view⟩⟩
  | none =>
    obtain ⟨entry, among, rfl⟩ :=
      List.mem_map.mp (built.wellFormed.mem_other_iff.mpr ⟨known, asked⟩)
    have full : ∀ m, (ofFilter f).table ≠ .byTag m := by
      intro m view
      have only : f.OnlyTag m := route_eq_byTag.mp view
      rw [only.other] at among
      contradiction
    obtain rfl := (EventRow.mem_recordsIn_full full).mp stored
    have named := (built.wellFormed.entries entry among).1
    rw [built.wellFormed.held_of_mem among]
    rcases hasValue_of_other named rfl (holds_other accepted among) with value | ⟨bare, empty⟩
    · exact .inl value
    · exact .inr ⟨empty, .inr ⟨rfl, bare⟩⟩

/-- An event with one tag that has no value and one that has the empty one. -/
def emptyReference : Event where
  createdAt := 5
  tags := [["r"], ["r", "", "x"]]

theorem hasValue_emptyReference :
    oneName.tags.Built ∧ (ofFilter oneName).table = .byTag .r ∧
      ((EventRow.ofEvent emptyReference 7 1).tagRows .r).map TagRow.value = [""] ∧
      emptyReference.HasValue "r" ["", "x"] := by
  have built : oneName.tags.Built := (TagConstraints.Built.empty.addKnown .e []).addKnown .r _
  let row : TagRow := (EventRow.ofEvent emptyReference 7 1).tagRow ""
  have stored : row.record .r ∈
      (EventRow.ofEvent emptyReference 7 1).recordsIn (ofFilter oneName).table :=
    List.mem_singleton_self _
  have accepted : (ofFilter oneName).accepts ⟨fun _ _ => false, fun _ _ => 1⟩ (row.record .r) =
      true := by decide
  have asked : oneName.tags.held "r" ≠ [] := by decide
  refine ⟨built, by decide, by decide, ?_⟩
  rcases hasValue_of_accepts built stored accepted asked with
    value | ⟨-, ⟨name, -⟩ | ⟨other, -⟩⟩
  · exact value
  · exact absurd name (by decide)
  · exact absurd other (by decide)

/-- Events of kind 1 with the identifier `x` or none. -/
def looseFilter : Filter where
  kinds := [1]
  tags := ⟨(PerTag.const []).set .d ["", "x"], []⟩

/-- An event without tags is accepted for its empty identifier. -/
theorem accepts_untagged :
    ¬ ∀ (fns : TextFunctions) (f : Filter), f.tags.Built → ∀ (e : Event) (receivedAt : UInt32)
      (version : Nat), ∀ record ∈ (EventRow.ofEvent e receivedAt version).recordsIn
        (ofFilter f).table, (ofFilter f).accepts fns record = true →
          ∀ name, f.tags.held name ≠ [] → e.HasValue name (f.tags.held name) := by
  intro claim
  have built : looseFilter.tags.Built := TagConstraints.Built.empty.addKnown .d ["", "x"]
  obtain ⟨tag, held, -⟩ := claim ⟨fun _ _ => false, fun _ _ => 0⟩ looseFilter built { kind := 1 } 0
    1 _ (List.mem_singleton_self _) (by decide) "d" (by decide)
  contradiction

end Plan
end RelayStore

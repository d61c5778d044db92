import RelayStore.Proofs.Plan.Meaning

/-! A plan for the full rows selects the events that its filter describes. -/
namespace RelayStore

/-- The value of the last `d` tag that has one. -/
def Event.identifier (e : Event) : String := (valuesOf "d" e.tags).getLastD ""

/-- What a filter says of an event, read off the event's own fields and tags. -/
structure Filter.Selects (fns : TextFunctions) (f : Filter) (e : Event) : Prop where
  ids : f.ids = [] ∨ e.id ∈ f.ids
  authors : f.authors = [] ∨ e.pubkey ∈ f.authors
  kinds : f.kinds = [] ∨ e.kind ∈ f.kinds
  since : ∀ t, f.since = some t → t ≤ e.createdAt
  upTo : ∀ t, f.upTo = some t → e.createdAt ≤ t
  indexed : ∀ n, n ≠ .d → f.tags.get n ≠ [] →
    ∃ tag ∈ e.tags, ∃ value rest, tag = n.text :: value :: rest ∧ value ∈ f.tags.get n
  identifier : f.tags.get .d ≠ [] → e.identifier ∈ f.tags.get .d
  /-- A tag without a value counts as one with the empty value. -/
  other : ∀ entry ∈ f.tags.other,
    ∃ tag ∈ e.tags, tag.head? = some entry.1 ∧ tag.getD 1 "" ∈ entry.2
  search : ∀ term, f.search = some term → Searched fns term e.content

namespace EventRow

theorem record_tag_ofEvent (e : Event) (receivedAt : UInt32) (version : Nat) {n : TagName}
    (list : n ≠ .d) :
    (ofEvent e receivedAt version).record (.tag n) = some (.texts (valuesOf n.text e.tags)) := by
  cases n with
  | d => contradiction
  | _ => simp only [record, ofEvent, Projections.get_ofTags]

theorem record_identifier_ofEvent (e : Event) (receivedAt : UInt32) (version : Nat) :
    (ofEvent e receivedAt version).record (.tag .d) = some (.text e.identifier) := by
  simp only [record, ofEvent, Projections.identifier_ofTags, Event.identifier]

end EventRow

variable {fns : TextFunctions}

/-- A constraint on an indexed name, asked of a full row. -/
theorem Plan.holds_tagPredicate {table : Table} {n : TagName} (full : table ≠ .byTag n) (e : Event)
    (receivedAt : UInt32) (version : Nat) (values : List String) :
    (tagPredicate table n values).holds fns (EventRow.ofEvent e receivedAt version).record = true ↔
      if n = .d then e.identifier ∈ values
      else ∃ value ∈ valuesOf n.text e.tags, value ∈ values := by
  unfold tagPredicate
  rw [if_neg full]
  split
  next single =>
    subst single
    exact holds_oneOf (EventRow.record_identifier_ofEvent e receivedAt version) values
  next list => exact holds_hasAny (EventRow.record_tag_ofEvent e receivedAt version list) values

/-- A name is not empty, so an empty tag does not have it. -/
theorem getD_zero_eq {tag : Tag} {name : String} (named : name ≠ "") :
    tag.getD 0 "" = name ↔ tag.head? = some name := by
  cases tag with
  | nil => simpa using named.symm
  | cons first rest => simp

theorem Plan.accepts_iff_selects (f : Filter) (built : f.tags.Built)
    (full : ∀ n, (ofFilter f).table ≠ .byTag n) (e : Event) (receivedAt : UInt32)
    (version : Nat) :
    (ofFilter f).accepts fns (EventRow.ofEvent e receivedAt version).record = true ↔
      f.Selects fns e := by
  have named := built.wellFormed.entries
  have deleted : (Predicate.mk .deleted (.equals (.number 0))).holds fns
      (EventRow.ofEvent e receivedAt version).record = true := rfl
  rw [accepts_ofFilter, holds_anyText (s := e.id) rfl, holds_anyText (s := e.pubkey) rfl,
    holds_anyKind (k := e.kind) rfl, holds_atLeast (c := e.createdAt) rfl,
    holds_atMost (c := e.createdAt) rfl, holds_otherTags (l := e.tags) rfl,
    holds_searches (s := e.content) rfl]
  constructor
  · rintro ⟨-, ids, authors, kinds, since, upTo, known, other, search⟩
    refine ⟨ids, authors, kinds, since, upTo, ?_, ?_, ?_, search⟩
    · intro n list some
      have h := (holds_tagPredicate (full n) e receivedAt version _).mp (known n some)
      rw [if_neg list] at h
      obtain ⟨value, found, accepted⟩ := h
      obtain ⟨tag, held, rest, shape⟩ := mem_valuesOf.mp found
      exact ⟨tag, held, value, rest, shape, accepted⟩
    · intro some
      have h := (holds_tagPredicate (full .d) e receivedAt version _).mp (known .d some)
      rwa [if_pos rfl] at h
    · intro entry held
      obtain ⟨tag, among, first, second⟩ := other entry held
      exact ⟨tag, among, (getD_zero_eq (named entry held).1).mp first, second⟩
  · rintro ⟨ids, authors, kinds, since, upTo, indexed, identifier, other, search⟩
    refine ⟨deleted, ids, authors, kinds, since, upTo, ?_, ?_, search⟩
    · intro n some
      refine (holds_tagPredicate (full n) e receivedAt version _).mpr ?_
      split
      next single => exact single ▸ identifier (single ▸ some)
      next list =>
        obtain ⟨tag, held, value, rest, shape, accepted⟩ := indexed n list some
        exact ⟨value, mem_valuesOf.mpr ⟨tag, held, rest, shape⟩, accepted⟩
    · intro entry held
      obtain ⟨tag, among, first, second⟩ := other entry held
      exact ⟨tag, among, (getD_zero_eq (named entry held).1).mpr first, second⟩

/-- Events without an identifier that have a tag `u` without a value. -/
def unnamedFilter : Filter where
  kinds := [1, 6]
  tags := ⟨((PerTag.const []).set .t ["x"]).set .d ["", "y"], [("u", ["", "z"])]⟩
  since := some 10
  search := some "hi, hi!"

def unnamedEvent : Event where
  createdAt := 10
  kind := 6
  tags := [["t", "x", "d"], [], ["t"], ["u"], ["d"]]
  content := "hi"

theorem accepts_unnamedEvent :
    unnamedFilter.tags.Built ∧ (∀ n, (Plan.ofFilter unnamedFilter).table ≠ .byTag n) ∧
      unnamedFilter.Selects ⟨fun s word => s = word, fun _ _ => 0⟩ unnamedEvent := by
  have known : TagConstraints.Built _ :=
    (TagConstraints.Built.empty.addKnown .t ["x"]).addKnown .d ["", "y"]
  have built : unnamedFilter.tags.Built :=
    known.insert (rfl : TagConstraints.insert _ "u" ["", "z"] = .ok unnamedFilter.tags)
  have full : ∀ n, (Plan.ofFilter unnamedFilter).table ≠ .byTag n := by
    intro n h
    contradiction
  exact ⟨built, full, (Plan.accepts_iff_selects unnamedFilter built full unnamedEvent 7 1).mp
    (by decide)⟩

end RelayStore

import RelayStore.Proofs.Tag.Projection
import RelayStore.Tag.Constraints
import Mathlib.Data.List.Nodup

/-! Tag constraints as they come to be: from none, by insertions that succeed. -/
namespace RelayStore.TagConstraints

/-- What can be made of no constraints. -/
inductive Built : TagConstraints → Prop where
  | empty : Built {}
  | addKnown {c : TagConstraints} (built : Built c) (n : TagName) (values : List String) :
      Built (c.addKnown n values)
  | insert {c c' : TagConstraints} (built : Built c) {name : String} {values : List String}
      (accepted : c.insert name values = .ok c') : Built c'

/-- What a caller has that gives up if an insertion is refused. -/
theorem insert_eq (c : TagConstraints) (name : String) (values : List String) :
    c.insert name values =
      if name = "" then .error .emptyName
      else if values = [] then .ok c
      else match TagName.ofText? name with
        | some n => .ok (c.addKnown n values)
        | none =>
          if c.hasOther name then .ok { c with other := extend name values c.other }
          else if maxOtherTags ≤ c.other.length then .error .tooManyNames
          else .ok { c with other := c.other ++ [(name, values)] } := by
  unfold TagConstraints.insert tryInsert
  cases TagName.ofText? name <;> split_ifs <;> rfl

theorem insert_eq_ok_iff {c c' : TagConstraints} {name : String} {values : List String} :
    c.insert name values = .ok c' ↔ c.tryInsert name values = (.ok (), c') := by
  rcases tried : c.tryInsert name values with ⟨_ | _, c'⟩ <;>
    simp [TagConstraints.insert, tried, Except.map]

/-- An insertion that is refused leaves the constraints as they are. -/
theorem tryInsert_refused {c : TagConstraints} {name : String} {values : List String}
    {refusal : TagRefusal} (refused : (c.tryInsert name values).1 = .error refusal) :
    (c.tryInsert name values).2 = c := by
  unfold tryInsert at refused ⊢
  cases known : TagName.ofText? name <;> rw [known] at refused <;>
    split_ifs at refused ⊢ <;> rfl

/-- How an insertion that succeeds has ended. -/
theorem insert_eq_ok {c c' : TagConstraints} {name : String} {values : List String}
    (h : c.insert name values = .ok c') :
    name ≠ "" ∧ ((values = [] ∧ c' = c) ∨
      (∃ n : TagName, name = n.text ∧ c' = c.addKnown n values) ∨
      (values ≠ [] ∧ TagName.ofText? name = none ∧ c.hasOther name = true ∧
        c' = { c with other := extend name values c.other }) ∨
      (values ≠ [] ∧ TagName.ofText? name = none ∧ c.hasOther name = false ∧
        c.other.length < maxOtherTags ∧ c' = { c with other := c.other ++ [(name, values)] })) := by
  rw [insert_eq] at h
  split at h
  · contradiction
  next named =>
    refine ⟨named, ?_⟩
    split at h
    next none => exact .inl ⟨none, (Except.ok.inj h).symm⟩
    next some =>
      cases known : TagName.ofText? name with
      | some n =>
        rw [known] at h
        exact .inr (.inl ⟨n, TagName.ofText?_eq_some.mp known, (Except.ok.inj h).symm⟩)
      | none =>
        rw [known] at h
        cases held : c.hasOther name with
        | true =>
          rw [held] at h
          exact .inr (.inr (.inl ⟨some, rfl, rfl, (Except.ok.inj h).symm⟩))
        | false =>
          rw [held] at h
          by_cases full : maxOtherTags ≤ c.other.length
          · simp [full] at h
          · simp only [full, if_false] at h
            exact .inr (.inr (.inr ⟨some, rfl, rfl, by omega, (Except.ok.inj h).symm⟩))

/-- The entries of names without an index: each has a name of its own, and values. -/
structure WellFormed (c : TagConstraints) : Prop where
  entries : ∀ entry ∈ c.other,
    entry.1 ≠ "" ∧ TagName.ofText? entry.1 = none ∧ entry.2 ≠ []
  distinct : (c.other.map Prod.fst).Nodup
  few : c.other.length ≤ maxOtherTags

theorem map_fst_extend (name : String) (values : List String)
    (entries : List (String × List String)) :
    (extend name values entries).map Prod.fst = entries.map Prod.fst := by
  induction entries with
  | nil => rfl
  | cons entry rest ih =>
    unfold extend
    split
    · rfl
    · simp [ih]

theorem mem_extend {name : String} {values : List String} {entries : List (String × List String)}
    {entry : String × List String} (h : entry ∈ extend name values entries) :
    ∃ old ∈ entries, entry.1 = old.1 ∧ old.2 <+: entry.2 := by
  induction entries with
  | nil => simp [extend] at h
  | cons first rest ih =>
    unfold extend at h
    split at h
    · rcases List.mem_cons.mp h with rfl | h
      · exact ⟨first, List.mem_cons_self, rfl, List.prefix_append _ _⟩
      · exact ⟨entry, List.mem_cons_of_mem _ h, rfl, List.prefix_rfl⟩
    · rcases List.mem_cons.mp h with rfl | h
      · exact ⟨first, List.mem_cons_self, rfl, List.prefix_rfl⟩
      · obtain ⟨old, held, more⟩ := ih h
        exact ⟨old, List.mem_cons_of_mem _ held, more⟩

theorem hasOther_eq_false {c : TagConstraints} {name : String} :
    c.hasOther name = false ↔ name ∉ c.other.map Prod.fst := by
  simp only [hasOther, List.any_eq_false, decide_eq_true_eq, List.mem_map, not_exists, not_and]

theorem WellFormed.insert {c c' : TagConstraints} (h : c.WellFormed) {name : String}
    {values : List String} (accepted : c.insert name values = .ok c') : c'.WellFormed := by
  obtain ⟨entries, distinct, few⟩ := h
  obtain ⟨named, ⟨-, rfl⟩ | ⟨n, -, rfl⟩ | ⟨-, -, -, rfl⟩ | ⟨some, unknown, fresh, room, rfl⟩⟩ :=
    insert_eq_ok accepted
  · exact ⟨entries, distinct, few⟩
  · exact ⟨entries, distinct, few⟩
  · have names := map_fst_extend name values c.other
    refine ⟨?_, names ▸ distinct, ?_⟩
    · intro entry held
      obtain ⟨old, held, same, longer⟩ := mem_extend held
      have := entries old held
      refine ⟨same ▸ this.1, same ▸ this.2.1, fun none => this.2.2 ?_⟩
      exact List.prefix_nil.mp (none ▸ longer)
    · have := congrArg List.length names
      simp only [List.length_map] at this
      exact this ▸ few
  · refine ⟨?_, ?_, ?_⟩
    · intro entry held
      rcases List.mem_append.mp held with held | held
      · exact entries entry held
      · obtain rfl := List.mem_singleton.mp held
        exact ⟨named, unknown, some⟩
    · rw [List.map_append, List.map_singleton, ← List.concat_eq_append]
      exact distinct.concat (hasOther_eq_false.mp fresh)
    · rw [List.length_append, List.length_singleton]
      exact room

theorem Built.wellFormed {c : TagConstraints} (built : c.Built) : c.WellFormed := by
  induction built with
  | empty => exact ⟨by simp, List.nodup_nil, Nat.zero_le _⟩
  | addKnown built n values ih => exact ⟨ih.entries, ih.distinct, ih.few⟩
  | insert built accepted ih => exact ih.insert accepted

theorem mem_knownNames {c : TagConstraints} {n : TagName} :
    n ∈ c.knownNames ↔ c.get n ≠ [] := by
  simp [knownNames, TagName.mem_all]

end RelayStore.TagConstraints

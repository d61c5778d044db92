import RelayStore.Proofs.Tag.Constraints
import RelayStore.Proofs.Text.Distinct
import Mathlib.Data.Set.Card

/-!
Tag constraints as a map from names to accepted values. Main statement: after any calls, failures
being passed over, each name has the values of the calls for it that succeeded, and at most four
names without an index have any.
-/
namespace RelayStore.TagConstraints

/-- The values accepted for a name, be it indexed or not. -/
def held (c : TagConstraints) (name : String) : List String :=
  match TagName.ofText? name with
  | some n => c.get n
  | none => (c.other.lookup name).getD []

theorem held_text (c : TagConstraints) (n : TagName) : c.held n.text = c.get n := by
  rw [held, TagName.ofText?_text]

theorem held_other {c : TagConstraints} {name : String} (other : TagName.ofText? name = none) :
    c.held name = (c.other.lookup name).getD [] := by
  rw [held, other]

/-! Entries of names without an index. -/

theorem lookup_extend (name other : String) (values : List String)
    (entries : List (String × List String)) :
    (extend name values entries).lookup other =
      (entries.lookup other).map fun vs => if name = other then vs ++ values else vs := by
  induction entries with
  | nil => rfl
  | cons entry rest ih =>
    obtain ⟨n, vs⟩ := entry
    rw [extend]
    by_cases here : n = name
    · subst here
      by_cases same : other = n
      · simp [same]
      · have apart : (other == n) = false := by simpa using same
        have apart' : n ≠ other := Ne.symm same
        simp [List.lookup_cons, apart, apart']
    · by_cases same : other = n
      · have apart : name ≠ other := fun h => here (h ▸ same).symm
        simp [here, same, Ne.symm here]
      · have apart : (other == n) = false := by simpa using same
        simp [here, List.lookup_cons, apart, ih]

theorem lookup_eq_none {c : TagConstraints} {name : String} (absent : c.hasOther name = false) :
    c.other.lookup name = none := by
  rw [List.lookup_eq_none_iff]
  intro entry mem
  have apart : entry.1 ≠ name := by
    intro same
    exact hasOther_eq_false.mp absent (same ▸ List.mem_map_of_mem mem)
  simpa using apart.symm

/-- An entry has all the values of its name. -/
theorem WellFormed.held_of_mem {c : TagConstraints} (h : c.WellFormed)
    {entry : String × List String} (mem : entry ∈ c.other) : c.held entry.1 = entry.2 := by
  rw [held_other (h.entries entry mem).2.1]
  cases found : c.other.lookup entry.1 with
  | none =>
    have apart := List.lookup_eq_none_iff.mp found entry mem
    simp at apart
  | some values =>
    obtain ⟨before, after, split, -⟩ := List.lookup_eq_some_iff.mp found
    have inside : (entry.1, values) ∈ c.other := by simp [split]
    have same := List.inj_on_of_nodup_map h.distinct inside mem rfl
    rw [← same]
    rfl

/-- The names without an index that have values are the ones in the list. -/
theorem WellFormed.mem_other_iff {c : TagConstraints} (h : c.WellFormed) {name : String} :
    name ∈ c.other.map Prod.fst ↔ TagName.ofText? name = none ∧ c.held name ≠ [] := by
  constructor
  · intro mem
    obtain ⟨entry, among, rfl⟩ := List.mem_map.mp mem
    obtain ⟨-, unknown, some⟩ := h.entries entry among
    rw [h.held_of_mem among]
    exact ⟨unknown, some⟩
  · rintro ⟨unknown, some⟩
    by_contra absent
    rw [held_other unknown, lookup_eq_none (hasOther_eq_false.mpr absent)] at some
    exact some rfl

/-! Calls. -/

/-- A call that adds accepted values for a name. -/
inductive Call where
  | insert (name : String) (values : List String)
  | addKnown (n : TagName) (values : List String)
  deriving DecidableEq, Repr

namespace Call

def name : Call → String
  | insert name _ => name
  | addKnown n _ => n.text

def values : Call → List String
  | insert _ values => values
  | addKnown _ values => values

/-- The result of the call, and what it makes of constraints. -/
def run (c : TagConstraints) : Call → Except TagRefusal Unit × TagConstraints
  | insert name values => c.tryInsert name values
  | addKnown n values => (.ok (), c.addKnown n values)

/-- What the call adds to the values of a name. -/
def valuesFor (call : Call) (name : String) : List String :=
  if call.name = name then call.values else []

/-- Whether the call gives values to a name without an index. -/
def givesOther (call : Call) : Bool := TagName.ofText? call.name = none && call.values ≠ []

end Call

/-- The names without an index that calls give values, each at its first such call. -/
def otherNames (calls : List Call) : List String :=
  Text.distinct ((calls.filter Call.givesOther).map Call.name)

theorem otherNames_concat (calls : List Call) (call : Call) :
    otherNames (calls ++ [call]) =
      if call.givesOther = true ∧ call.name ∉ otherNames calls then otherNames calls ++ [call.name]
      else otherNames calls := by
  cases gives : call.givesOther with
  | false => simp [otherNames, gives]
  | true =>
    have listed : call.name ∈ otherNames calls ↔
        call.name ∈ (calls.filter Call.givesOther).map Call.name := Text.mem_distinct
    have split : otherNames (calls ++ [call]) = Text.distinct
        ((calls.filter Call.givesOther).map Call.name ++ [call.name]) := by
      simp [otherNames, gives]
    rw [split, Text.distinct_concat]
    by_cases again : call.name ∈ otherNames calls
    · rw [if_pos (listed.mp again), if_neg fun fresh => fresh.2 again, List.append_nil]
      rfl
    · rw [if_neg fun known => again (listed.mpr known), if_pos ⟨rfl, again⟩]
      rfl

/-! What one call does. -/

theorem held_addKnown (c : TagConstraints) (n : TagName) (values : List String) (name : String) :
    (c.addKnown n values).held name = c.held name ++ if n.text = name then values else [] := by
  cases known : TagName.ofText? name with
  | some m =>
    obtain rfl := TagName.ofText?_eq_some.mp known
    rw [held_text, held_text, get, addKnown, PerTag.get_set]
    by_cases same : n = m
    · simp [same, get]
    · have apart : n.text ≠ m.text := by
        intro text
        have := TagName.ofText?_text n
        rw [text, TagName.ofText?_text] at this
        exact same (Option.some.inj this).symm
      simp [same, apart, get]
  | none =>
    have apart : n.text ≠ name := by
      rintro rfl
      rw [TagName.ofText?_text] at known
      contradiction
    rw [held_other known, held_other known, if_neg apart, List.append_nil]
    rfl

/-- Entries of a name without an index leave the indexed names alone. -/
theorem held_changeOther (c : TagConstraints) {key : String} {values : List String}
    (unknown : TagName.ofText? key = none) {entries : List (String × List String)}
    (added : ∀ name, (entries.lookup name).getD [] =
      (c.other.lookup name).getD [] ++ if key = name then values else []) (name : String) :
    held { c with other := entries } name = c.held name ++ if key = name then values else [] := by
  cases known : TagName.ofText? name with
  | some n =>
    have apart : key ≠ name := by
      rintro rfl
      rw [known] at unknown
      contradiction
    simp [held, known, apart, get]
  | none =>
    rw [held_other known, held_other known]
    exact added name

/-- A call that succeeds adds its values to those of its name, and changes no other name. -/
theorem Call.held_run {c c' : TagConstraints} {call : Call} (done : call.run c = (.ok (), c'))
    (name : String) : c'.held name = c.held name ++ call.valuesFor name := by
  cases call with
  | addKnown n values =>
    obtain rfl := (Prod.mk.inj done).2
    exact held_addKnown c n values name
  | insert key values =>
    obtain ⟨-, ⟨rfl, rfl⟩ | ⟨n, rfl, rfl⟩ | ⟨-, unknown, present, rfl⟩ |
      ⟨-, unknown, absent, -, rfl⟩⟩ := insert_eq_ok (insert_eq_ok_iff.mpr done)
    · simp [valuesFor, Call.values]
    · exact held_addKnown c n values name
    · refine held_changeOther c unknown (fun other => ?_) name
      rw [lookup_extend]
      by_cases same : key = other
      · subst same
        have listed : (c.other.lookup key).isSome := by
          obtain ⟨entry, mem, same⟩ := List.any_eq_true.mp present
          rw [List.lookup_isSome_iff]
          exact ⟨entry, mem, by simpa using (of_decide_eq_true same).symm⟩
        obtain ⟨vs, found⟩ := Option.isSome_iff_exists.mp listed
        simp [found, Call.values]
      · simp [same]
    · refine held_changeOther c unknown (fun other => ?_) name
      rw [List.lookup_append]
      by_cases same : key = other
      · subst same
        simp [lookup_eq_none absent, Call.values]
      · have apart : (other == key) = false := by simpa using Ne.symm same
        simp [List.lookup_cons, apart, same]

/-- A call that succeeds enters its name if it is a new one without an index and has values. -/
theorem Call.other_run {c c' : TagConstraints} {call : Call} (done : call.run c = (.ok (), c')) :
    c'.other.map Prod.fst =
      if call.givesOther = true ∧ call.name ∉ c.other.map Prod.fst
      then c.other.map Prod.fst ++ [call.name] else c.other.map Prod.fst := by
  cases call with
  | addKnown n values =>
    obtain rfl := (Prod.mk.inj done).2
    have indexed : (addKnown n values).givesOther = false := by
      simp [givesOther, Call.name, TagName.ofText?_text]
    simp [indexed, TagConstraints.addKnown]
  | insert key values =>
    obtain ⟨-, ⟨rfl, rfl⟩ | ⟨n, rfl, rfl⟩ | ⟨some, unknown, present, rfl⟩ |
      ⟨some, unknown, absent, -, rfl⟩⟩ := insert_eq_ok (insert_eq_ok_iff.mpr done)
    · have none : (insert key []).givesOther = false := by simp [givesOther, Call.values]
      simp [none]
    · have indexed : (insert n.text values).givesOther = false := by
        simp [givesOther, Call.name, TagName.ofText?_text]
      simp [indexed, TagConstraints.addKnown]
    · have listed : key ∈ c.other.map Prod.fst := by
        by_contra absent
        rw [hasOther_eq_false.mpr absent] at present
        contradiction
      rw [map_fst_extend, if_neg fun fresh => fresh.2 listed]
    · have fresh := hasOther_eq_false.mp absent
      have gives : (insert key values).givesOther = true := by
        simp [givesOther, Call.name, Call.values, unknown, some]
      rw [if_pos ⟨gives, fresh⟩, List.map_append]
      rfl

theorem WellFormed.run {c c' : TagConstraints} (h : c.WellFormed) {call : Call}
    (done : call.run c = (.ok (), c')) : c'.WellFormed := by
  cases call with
  | addKnown n values =>
    obtain rfl := (Prod.mk.inj done).2
    exact ⟨h.entries, h.distinct, h.few⟩
  | insert name values => exact h.insert (insert_eq_ok_iff.mpr done)

/-- A call that is refused leaves the constraints as they are. -/
theorem Call.run_refused {c : TagConstraints} {call : Call} {refusal : TagRefusal}
    (refused : (call.run c).1 = .error refusal) : (call.run c).2 = c := by
  cases call with
  | addKnown n values => contradiction
  | insert name values => exact tryInsert_refused refused

/-- Why a call is refused: its name is empty, or it is one name too many. -/
theorem WellFormed.refuses_iff {c : TagConstraints} (h : c.WellFormed) {call : Call}
    {refusal : TagRefusal} :
    (call.run c).1 = .error refusal ↔
      call.name = "" ∧ refusal = .emptyName ∨
      call.name ≠ "" ∧ call.values ≠ [] ∧ TagName.ofText? call.name = none ∧
        c.held call.name = [] ∧ c.other.length = maxOtherTags ∧ refusal = .tooManyNames := by
  cases call with
  | addKnown n values =>
    have named : n.text ≠ "" := by cases n <;> decide
    simp [Call.run, Call.name, named, TagName.ofText?_text]
  | insert name values =>
    have full : maxOtherTags ≤ c.other.length ↔ c.other.length = maxOtherTags :=
      ⟨fun least => Nat.le_antisymm h.few least, fun same => same.ge⟩
    simp only [Call.run, Call.name, Call.values, tryInsert]
    by_cases named : name = ""
    · simp [named, eq_comm (a := refusal)]
    by_cases none : values = []
    · simp [named, none]
    cases known : TagName.ofText? name with
    | some n => simp [named, none]
    | none =>
      have absent : c.held name = [] ↔ c.hasOther name = false := by
        rw [hasOther_eq_false, h.mem_other_iff]
        simp [known]
      rw [absent]
      cases listed : c.hasOther name with
      | true => simp [named, none]
      | false =>
        by_cases most : c.other.length = maxOtherTags <;>
          simp [named, none, full, most, eq_comm (a := refusal)]

/-! How many names have values. -/

/-- The names that have values. -/
def constrained (c : TagConstraints) : List String :=
  c.knownNames.map TagName.text ++ c.other.map Prod.fst

theorem text_injective : Function.Injective TagName.text := by
  intro m n same
  have h := TagName.ofText?_text m
  rw [same, TagName.ofText?_text] at h
  exact (Option.some.inj h).symm

theorem WellFormed.mem_constrained {c : TagConstraints} (h : c.WellFormed) {name : String} :
    name ∈ c.constrained ↔ c.held name ≠ [] := by
  rw [constrained, List.mem_append, h.mem_other_iff, List.mem_map]
  cases known : TagName.ofText? name with
  | some n =>
    obtain rfl := TagName.ofText?_eq_some.mp known
    simp only [reduceCtorEq, false_and, or_false, held_text]
    constructor
    · rintro ⟨m, mem, same⟩
      exact text_injective same ▸ mem_knownNames.mp mem
    · intro some
      exact ⟨n, mem_knownNames.mpr some, rfl⟩
  | none =>
    have indexed : ¬ ∃ n ∈ c.knownNames, n.text = name := by
      rintro ⟨n, -, rfl⟩
      rw [TagName.ofText?_text] at known
      contradiction
    simp [indexed]

theorem WellFormed.nodup_constrained {c : TagConstraints} (h : c.WellFormed) :
    c.constrained.Nodup := by
  have known : c.knownNames.Nodup := by
    have all : TagName.all.Nodup := by decide
    exact all.filter _
  refine (known.map text_injective).append h.distinct ?_
  intro name indexed listed
  obtain ⟨n, -, rfl⟩ := List.mem_map.mp indexed
  have other := (h.mem_other_iff.mp listed).1
  rw [TagName.ofText?_text] at other
  contradiction

/-- The count is the number of names that have values. -/
theorem WellFormed.encard_constrained {c : TagConstraints} (h : c.WellFormed) :
    {name | c.held name ≠ []}.encard = c.count := by
  have names : {name | c.held name ≠ []} = (c.constrained.toFinset : Set String) := by
    ext name
    rw [Finset.mem_coe, List.mem_toFinset, h.mem_constrained]
    rfl
  rw [names, Set.encard_coe_eq_coe_finsetCard, List.toFinset_card_of_nodup h.nodup_constrained]
  simp [constrained, count]

theorem single?_iff {c : TagConstraints} {n : TagName} :
    c.single? = some n ↔ c.count = 1 ∧ c.held n.text ≠ [] := by
  rw [held_text, ← mem_knownNames, single?]
  by_cases one : c.count = 1
  · rw [if_pos one]
    have few : c.knownNames.length ≤ 1 := by
      rw [← one]
      exact Nat.le_add_right _ _
    constructor
    · intro first
      exact ⟨one, List.mem_of_mem_head? first⟩
    · rintro ⟨-, mem⟩
      have alone : c.knownNames.length = 1 := by
        have := List.length_pos_of_mem mem
        omega
      obtain ⟨m, names⟩ := List.length_eq_one_iff.mp alone
      rw [names] at mem ⊢
      rw [List.mem_singleton.mp mem]
      rfl
  · simp [one]

/-! Many calls. -/

/-- Constraints, and the calls that have succeeded on them so far. -/
structure Journal where
  constraints : TagConstraints := {}
  succeeded : List Call := []

namespace Journal

/-- Makes a call, and goes on with what it has made of the constraints, be it refused or not. -/
def add (j : Journal) (call : Call) : Journal :=
  let (result, c) := call.run j.constraints
  ⟨c, if result.isOk then j.succeeded ++ [call] else j.succeeded⟩

/-- Calls on empty constraints one after the other, also after some are refused. -/
def ofCalls (calls : List Call) : Journal := calls.foldl add {}

theorem add_of_refused {j : Journal} {call : Call} {refusal : TagRefusal}
    (refused : (call.run j.constraints).1 = .error refusal) : j.add call = j := by
  have unchanged := Call.run_refused refused
  rcases done : call.run j.constraints with ⟨result, c⟩
  rw [done] at refused unchanged
  subst refused unchanged
  rw [add, done]
  rfl

/-- What each call keeps: the constraints are what the calls that succeeded say. -/
structure Sound (j : Journal) : Prop where
  wellFormed : j.constraints.WellFormed
  values : ∀ name, j.constraints.held name = j.succeeded.flatMap (·.valuesFor name)
  names : j.constraints.other.map Prod.fst = otherNames j.succeeded

theorem Sound.empty : Sound {} where
  wellFormed := Built.empty.wellFormed
  values name := by
    cases known : TagName.ofText? name <;> simp [held, known, get]
  names := rfl

theorem Sound.add {j : Journal} (h : j.Sound) (call : Call) : (j.add call).Sound := by
  rcases done : call.run j.constraints with ⟨refusal | _, c⟩
  · rw [add_of_refused (congrArg Prod.fst done)]
    exact h
  · have added : j.add call = ⟨c, j.succeeded ++ [call]⟩ := by
      rw [Journal.add, done]
      rfl
    rw [added]
    refine ⟨h.wellFormed.run done, fun name => ?_, ?_⟩
    · rw [Call.held_run done, h.values, List.flatMap_append, List.flatMap_singleton]
    · rw [Call.other_run done, h.names, otherNames_concat]

theorem sound_ofCalls (calls : List Call) : (ofCalls calls).Sound := by
  suffices ∀ j : Journal, j.Sound → (calls.foldl Journal.add j).Sound from this {} .empty
  induction calls with
  | nil =>
    intro j h
    exact h
  | cons call calls ih =>
    intro j h
    exact ih _ (h.add call)

/-- The constraints are the map that the calls which succeeded describe. -/
structure IsMultimap (j : Journal) : Prop where
  /-- A name has the values of the calls for it, in the order of the calls. -/
  values : ∀ name, j.constraints.held name = j.succeeded.flatMap (·.valuesFor name)
  /-- The names without an index stand in the order of their first values. -/
  other : j.constraints.other =
    (otherNames j.succeeded).map fun name => (name, j.constraints.held name)
  present : ∀ name, name ∈ j.constraints.other.map Prod.fst ↔
    TagName.ofText? name = none ∧ j.constraints.held name ≠ []
  once : (j.constraints.other.map Prod.fst).Nodup
  few : j.constraints.other.length ≤ 4
  entries : ∀ entry ∈ j.constraints.other,
    entry.1 ≠ "" ∧ TagName.ofText? entry.1 = none ∧ entry.2 ≠ []
  count : {name | j.constraints.held name ≠ []}.encard = j.constraints.count
  single : ∀ n : TagName, j.constraints.single? = some n ↔
    j.constraints.count = 1 ∧ j.constraints.held n.text ≠ []

theorem Sound.isMultimap {j : Journal} (h : j.Sound) : j.IsMultimap where
  values := h.values
  other := by
    rw [← h.names, List.map_map]
    refine (List.map_id' _).symm.trans (List.map_congr_left fun entry mem => ?_)
    show entry = (entry.1, j.constraints.held entry.1)
    rw [h.wellFormed.held_of_mem mem]
  present name := h.wellFormed.mem_other_iff
  once := h.wellFormed.distinct
  few := h.wellFormed.few
  entries := h.wellFormed.entries
  count := h.wellFormed.encard_constrained
  single n := single?_iff

/-- After any calls the constraints are the map that the successful ones describe. A next call is
refused exactly if its name is empty or is one name without an index too many, and then nothing has
changed. -/
theorem ofCalls_isMultimap (calls : List Call) :
    (ofCalls calls).IsMultimap ∧ ∀ (call : Call) (refusal : TagRefusal),
      ((call.run (ofCalls calls).constraints).1 = .error refusal ↔
        call.name = "" ∧ refusal = .emptyName ∨
        call.name ≠ "" ∧ call.values ≠ [] ∧ TagName.ofText? call.name = none ∧
          (ofCalls calls).constraints.held call.name = [] ∧
          (ofCalls calls).constraints.other.length = 4 ∧ refusal = .tooManyNames) ∧
      ((call.run (ofCalls calls).constraints).1 = .error refusal →
        (call.run (ofCalls calls).constraints).2 = (ofCalls calls).constraints ∧
          ofCalls (calls ++ [call]) = ofCalls calls) := by
  have sound := sound_ofCalls calls
  refine ⟨sound.isMultimap, fun call refusal => ⟨sound.wellFormed.refuses_iff, fun refused => ?_⟩⟩
  refine ⟨Call.run_refused refused, ?_⟩
  rw [ofCalls, List.foldl_append]
  exact add_of_refused refused

/-- There is no room for `y`, but there still is for more values of `u`. -/
example :
    (ofCalls [.insert "u" ["1"], .insert "v" ["2"], .insert "w" [], .insert "e" ["3"],
        .insert "w" ["4"], .insert "x" ["5"], .insert "y" ["6"],
        .insert "u" ["7"]]).constraints.other =
      [("u", ["1", "7"]), ("v", ["2"]), ("w", ["4"]), ("x", ["5"])] := by
  decide

end Journal
end RelayStore.TagConstraints

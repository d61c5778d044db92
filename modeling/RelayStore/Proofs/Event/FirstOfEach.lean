import Mathlib.Data.List.Induction
import RelayStore.Event
import RelayStore.Proofs.Text.Distinct

/-! Of the events with one id the first is kept, in its place. -/
namespace RelayStore.Event

abbrev ids (events : List Event) : List String := events.map Event.id

/-- The events whose id no event before them has. -/
def unrepeated (events : List Event) : List Event :=
  (events.zipIdx.filter fun e => e.1.id ∉ ids (events.take e.2)).map Prod.fst

namespace firstOfEach

variable {seen : List String} {events : List Event}

theorem ids_go (seen : List String) (events : List Event) :
    ids (go seen events) = Text.distinct.go seen (ids events) := by
  induction events generalizing seen with
  | nil => rfl
  | cons e events ih =>
    have first : ids (e :: events) = e.id :: ids events := rfl
    rw [go, first, Text.distinct.go]
    split_ifs with known
    · exact ih seen
    · exact congrArg (e.id :: ·) (ih _)

theorem mem_ids_go {i : String} : i ∈ ids (go seen events) ↔ i ∈ ids events ∧ i ∉ seen := by
  rw [ids_go, Text.mem_distinct_go]

/-- An event that is kept is the first with its id. -/
theorem find?_of_mem_go {e : Event} (kept : e ∈ go seen events) :
    events.find? (fun x => x.id = e.id) = some e := by
  induction events generalizing seen with
  | nil => cases kept
  | cons x events ih =>
    have others {seen : List String} (known : x.id ∈ seen) (kept : e ∈ go seen events) :
        (x :: events).find? (fun x => x.id = e.id) = some e := by
      have fresh : e.id ∉ seen := (mem_ids_go.mp (List.mem_map_of_mem kept)).2
      have other : x.id ≠ e.id := fun same => fresh (same ▸ known)
      rw [List.find?_cons_of_neg (by simpa using other), ih kept]
    unfold go at kept
    split at kept
    next known => exact others known kept
    next =>
      rcases List.mem_cons.mp kept with rfl | kept
      · exact List.find?_cons_of_pos (by simp)
      · exact others List.mem_cons_self kept

/-- Only which ids have been seen counts. -/
theorem go_congr {seen' : List String} (same : ∀ i, i ∈ seen ↔ i ∈ seen') :
    go seen events = go seen' events := by
  induction events generalizing seen seen' with
  | nil => rfl
  | cons e events ih =>
    unfold go
    rw [if_congr (same e.id) (ih same) rfl]
    split
    · rfl
    · have same (i : String) : i ∈ e.id :: seen ↔ i ∈ e.id :: seen' := by
        rw [List.mem_cons, List.mem_cons, same]
      rw [ih same]

theorem go_append (seen : List String) (events later : List Event) :
    go seen (events ++ later) = go seen events ++ go (ids events ++ seen) later := by
  induction events generalizing seen with
  | nil => rfl
  | cons e events ih =>
    rw [List.cons_append, go, go]
    split
    next known =>
      rw [ih]
      refine congrArg _ (go_congr fun i => ?_)
      by_cases same : i = e.id <;> simp [same, known]
    next =>
      rw [ih, List.cons_append]
      refine congrArg (e :: ·) (congrArg _ (go_congr fun i => ?_))
      simp [or_left_comm]

/-- What has been dropped before would have been dropped later. -/
theorem go_go {seen' : List String} (less : seen' ⊆ seen) :
    go seen (go seen' events) = go seen events := by
  induction events generalizing seen seen' with
  | nil => rfl
  | cons e events ih =>
    by_cases early : e.id ∈ seen'
    · rw [go, if_pos early, ih less, go, if_pos (less early)]
    · rw [go, if_neg early, go, go]
      split
      next known => exact ih (List.cons_subset.mpr ⟨known, less⟩)
      next => rw [ih (List.cons_subset_cons _ less)]

theorem go_flatten (seen : List String) (groups : List (List Event)) :
    go seen (groups.map firstOfEach).flatten = go seen groups.flatten := by
  induction groups generalizing seen with
  | nil => rfl
  | cons events groups ih =>
    rw [List.map_cons, List.flatten_cons, List.flatten_cons, go_append, go_append, ih,
      firstOfEach, go_go (List.nil_subset _)]
    refine congrArg _ (go_congr fun i => ?_)
    rw [List.mem_append, List.mem_append, mem_ids_go]
    simp

end firstOfEach

variable {events : List Event}

theorem mem_ids_firstOfEach {i : String} : i ∈ ids (firstOfEach events) ↔ i ∈ ids events := by
  simp [firstOfEach, firstOfEach.mem_ids_go]

theorem nodup_ids_firstOfEach (events : List Event) : (ids (firstOfEach events)).Nodup := by
  rw [firstOfEach, firstOfEach.ids_go]
  exact Text.nodup_distinct_go [] _

/-- Dropping repetitions group by group first makes no difference. -/
theorem firstOfEach_flatten (groups : List (List Event)) :
    firstOfEach (groups.map firstOfEach).flatten = firstOfEach groups.flatten :=
  firstOfEach.go_flatten [] groups

/-- Doing it again changes nothing. -/
theorem firstOfEach_firstOfEach (events : List Event) :
    firstOfEach (firstOfEach events) = firstOfEach events :=
  firstOfEach.go_go (List.nil_subset _)

theorem firstOfEach_append (events later : List Event) :
    firstOfEach (firstOfEach events ++ firstOfEach later) = firstOfEach (events ++ later) := by
  have groups := firstOfEach_flatten [events, later]
  simpa using groups

/-- An event has no influence if its id has come before. -/
theorem firstOfEach_skip {e : Event} {later : List Event} (known : e.id ∈ ids events) :
    firstOfEach (events ++ e :: later) = firstOfEach (events ++ later) := by
  rw [firstOfEach, firstOfEach, firstOfEach.go_append, firstOfEach.go_append, firstOfEach.go,
    if_pos (List.mem_append_left _ known)]

theorem unrepeated_sublist (events : List Event) : (unrepeated events).Sublist events := by
  have kept := (List.filter_sublist (p := fun e : Event × Nat =>
    e.1.id ∉ ids (events.take e.2)) (l := events.zipIdx)).map Prod.fst
  rwa [List.zipIdx_map_fst] at kept

theorem unrepeated_concat (events : List Event) (e : Event) :
    unrepeated (events ++ [e]) =
      unrepeated events ++ if e.id ∈ ids events then [] else [e] := by
  have before : ∀ x ∈ events.zipIdx,
      decide (x.1.id ∉ ids ((events ++ [e]).take x.2)) = decide (x.1.id ∉ ids (events.take x.2)) := by
    rintro ⟨x, i⟩ held
    have bound : i < events.length := by simpa using (List.mem_zipIdx held).2.1
    rw [List.take_append_of_le_length (Nat.le_of_lt bound)]
  rw [unrepeated, List.zipIdx_append, List.filter_append, List.filter_congr before,
    List.map_append]
  refine congrArg _ ?_
  split_ifs with known <;> simp [known]

theorem firstOfEach_eq_unrepeated (events : List Event) :
    firstOfEach events = unrepeated events := by
  induction events using List.reverseRecOn with
  | nil => rfl
  | append_singleton events e ih =>
    rw [unrepeated_concat, ← ih, firstOfEach, firstOfEach.go_append]
    simp [firstOfEach.go, firstOfEach]

end RelayStore.Event

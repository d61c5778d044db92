import Mathlib.Data.List.Chain
import Mathlib.Data.List.Induction
import Mathlib.Data.UInt
import RelayStore.Version

/-!
Versions under any clock. Main statement: they strictly increase, keep up with the readings, and run
ahead of the largest reading by at most one for each call. So they fit into 64 bits as long as there
are no more than `2 ^ 63` calls.
-/
namespace RelayStore.VersionClock

variable {c : VersionClock} {micros bound : Int} {readings : List Int}

/-- The clock after a sequence of readings. -/
def after (c : VersionClock) (readings : List Int) : VersionClock :=
  readings.foldl (fun c micros => (c.next micros).2) c

/-- The largest reading, or 0 if all are negative. -/
def largest (readings : List Int) : Int := readings.foldl max 0

/-- Readings of 64 bits as numbers. -/
abbrev numbers (readings : List Int64) : List Int := readings.map Int64.toInt

/-- The next version counted in words of 64 bits, whose addition wraps. -/
def nextWord (last : UInt64) (micros : Int64) : UInt64 :=
  max micros.toNatClampNeg.toUInt64 (last + 1)

def issueWords (last : UInt64) : List Int64 → List UInt64
  | [] => []
  | micros :: rest => nextWord last micros :: issueWords (nextWord last micros) rest

/-! One call. -/

theorem last_lt_next : c.last < (c.next micros).1 := by
  simp only [next]
  omega

theorem reading_le_next : micros ≤ (c.next micros).1 := by
  simp only [next]
  omega

/-- A call adds at most one to what the versions are ahead of the largest reading. -/
theorem next_le {top : Int} {calls : Nat} (nonneg : 0 ≤ top) (ahead : c.last ≤ top + calls) :
    (c.next micros).1 ≤ max top micros + (calls + 1 : Nat) := by
  simp only [next]
  omega

/-! A sequence of calls. -/

theorem after_concat : c.after (readings ++ [micros]) = ((c.after readings).next micros).2 := by
  rw [after, List.foldl_append, ← after]
  rfl

theorem largest_concat : largest (readings ++ [micros]) = max (largest readings) micros := by
  rw [largest, List.foldl_append, ← largest]
  rfl

theorem largest_le_iff :
    largest readings ≤ bound ↔ 0 ≤ bound ∧ ∀ micros ∈ readings, micros ≤ bound := by
  induction readings using List.reverseRecOn with
  | nil => simp [largest]
  | append_singleton readings micros ih =>
    rw [largest_concat, Int.max_le, ih, and_assoc, List.forall_mem_append,
      List.forall_mem_singleton]

theorem largest_nonneg : 0 ≤ largest readings := (largest_le_iff.mp (Int.le_refl _)).1

/-- The last version is ahead of the largest reading by no more than the number of calls. -/
theorem last_after_le (readings : List Int) :
    (after {} readings).last ≤ largest readings + readings.length := by
  induction readings using List.reverseRecOn with
  | nil => exact Int.le_refl 0
  | append_singleton readings micros ih =>
    rw [after_concat, largest_concat, List.length_append, List.length_singleton]
    exact next_le largest_nonneg ih

theorem length_issue : (c.issue readings).length = readings.length := by
  induction readings generalizing c with
  | nil => rfl
  | cons micros rest ih => simp [issue, ih]

/-- Each version is what the clock holds after its call. -/
theorem issue_getElem? {k : Nat} (h : k < readings.length) :
    (c.issue readings)[k]? = some (c.after (readings.take (k + 1))).last := by
  induction readings generalizing c k with
  | nil => exact absurd h (Nat.not_lt_zero k)
  | cons micros rest ih =>
    cases k with
    | zero => rfl
    | succ k => exact ih (Nat.lt_of_succ_lt_succ h)

/-- A fresh clock answers each reading with a version that is not before it, and not further above
the largest reading so far than calls were made. -/
theorem exists_issue {k : Nat} (h : k < readings.length) :
    ∃ reading v, readings[k]? = some reading ∧ (issue {} readings)[k]? = some v ∧ reading ≤ v ∧
      v ≤ largest (readings.take (k + 1)) + (k + 1 : Nat) := by
  refine ⟨readings[k], _, List.getElem?_eq_getElem h, issue_getElem? h, ?_, ?_⟩
  · rw [List.take_succ_eq_append_getElem h, after_concat]
    exact reading_le_next
  · have ahead := last_after_le (readings.take (k + 1))
    rwa [List.length_take, Nat.min_eq_left h] at ahead

/-- The versions strictly increase, from above the last one before them. -/
theorem increasing_issue : (c.last :: c.issue readings).Pairwise (· < ·) := by
  rw [← List.isChain_iff_pairwise]
  induction readings generalizing c with
  | nil => exact List.isChain_singleton _
  | cons micros rest ih => exact .cons_cons last_lt_next ih

/-! Words of 64 bits. -/

/-- Where readings are below `2 ^ 63` and calls are no more than that, each call finds room for one
more version. -/
theorem last_after_lt (small : ∀ micros ∈ readings, micros < 2 ^ 63) {k : Nat} (few : k < 2 ^ 63) :
    (after {} (readings.take k)).last + 1 < 2 ^ 64 := by
  have top : largest (readings.take k) ≤ 2 ^ 63 - 1 := by
    refine largest_le_iff.mpr ⟨by decide, fun micros mem => ?_⟩
    exact Int.le_sub_one_of_lt (small micros (List.mem_of_mem_take mem))
  have ahead := last_after_le (readings.take k)
  rw [List.length_take] at ahead
  omega

theorem toNat_nextWord {last : UInt64} (micros : Int64) (room : last.toNat + 1 < 2 ^ 64) :
    (nextWord last micros).toNat = (next ⟨last.toNat⟩ micros.toInt).1 := by
  have small : micros.toNatClampNeg < UInt64.size :=
    Nat.lt_trans micros.toNatClampNeg_lt (by decide)
  rw [nextWord, UInt64.toNat_max, UInt64.toNat_add, UInt64.toNat_ofNat_of_lt' small,
    UInt64.toNat_one, Nat.mod_eq_of_lt room, next, Int64.toNat_toInt]

/-- Where no version needs more than 64 bits, words hold the same versions. The room that is needed
grows with no call: a call either adds one or goes on from a reading below `2 ^ 63`. -/
theorem toNat_issueWords {last : UInt64} {readings : List Int64} (few : readings.length ≤ 2 ^ 63)
    (room : last.toNat + readings.length < 2 ^ 64) :
    (issueWords last readings).map UInt64.toNat =
      issue ⟨last.toNat⟩ (numbers readings) := by
  induction readings generalizing last with
  | nil => rfl
  | cons micros rest ih =>
    rw [List.length_cons] at few room
    have word : (nextWord last micros).toNat = (next ⟨last.toNat⟩ micros.toInt).1 :=
      toNat_nextWord micros (by omega)
    have left : (nextWord last micros).toNat + rest.length < 2 ^ 64 := by
      have small := micros.toInt_lt
      simp only [word, next]
      omega
    rw [issueWords, List.map_cons, ih (by omega) left, word]
    rfl

/-! The whole. -/

/-- Whatever the clock reads, the versions strictly increase from above 0. Each is at least its
reading and at most as far above the largest reading so far as calls were made. One can be added to
the last version at every call without leaving 64 bits, so words with an addition that wraps issue
the same versions. -/
theorem issue_keeps_pace (readings : List Int64) (few : readings.length ≤ 2 ^ 63) :
    (issue {} (numbers readings)).length = readings.length ∧
      (issue {} (numbers readings)).Pairwise (· < ·) ∧
      (∀ v ∈ issue {} (numbers readings), 0 < v) ∧
      (∀ k < readings.length, ∃ reading v, (numbers readings)[k]? = some reading ∧
        (issue {} (numbers readings))[k]? = some v ∧ reading ≤ v ∧
        v ≤ largest ((numbers readings).take (k + 1)) + (k + 1 : Nat) ∧
        (after {} ((numbers readings).take k)).last + 1 < 2 ^ 64) ∧
      (issueWords 0 readings).map UInt64.toNat = issue {} (numbers readings) := by
  have same : (numbers readings).length = readings.length := List.length_map _
  have increasing : (0 :: issue {} (numbers readings)).Pairwise (· < ·) := increasing_issue
  obtain ⟨positive, increasing⟩ := List.pairwise_cons.mp increasing
  have small : ∀ micros ∈ numbers readings, micros < 2 ^ 63 := by
    intro micros mem
    obtain ⟨word, -, rfl⟩ := List.mem_map.mp mem
    exact word.toInt_lt
  have room : (0 : UInt64).toNat + readings.length < 2 ^ 64 :=
    Nat.lt_of_le_of_lt (Nat.add_le_add_left few _) (by decide)
  refine ⟨length_issue.trans same, increasing, positive, ?_, toNat_issueWords few room⟩
  intro k h
  obtain ⟨reading, v, given, issued, kept, near⟩ := exists_issue (same.symm ▸ h)
  exact ⟨reading, v, given, issued, kept, near, last_after_lt small (Nat.lt_of_lt_of_le h few)⟩

/-- A reading before 1970, then the last one there is, again and again, and one far behind it. -/
def lastReadings : List Int64 := [-7, Int64.maxValue, Int64.maxValue, 40]

theorem keeps_pace_lastReadings :
    lastReadings.length ≤ 2 ^ 63 ∧
      issue {} (numbers lastReadings) = [1, 2 ^ 63 - 1, 2 ^ 63, 2 ^ 63 + 1] ∧
      (issue {} (numbers lastReadings)).Pairwise (· < ·) ∧
      (issueWords 0 lastReadings).map UInt64.toNat = issue {} (numbers lastReadings) := by
  have few : lastReadings.length ≤ 2 ^ 63 := by decide
  obtain ⟨-, increasing, -, -, words⟩ := issue_keeps_pace lastReadings few
  exact ⟨few, by decide, increasing, words⟩

end RelayStore.VersionClock

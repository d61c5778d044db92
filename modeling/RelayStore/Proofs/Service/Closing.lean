import RelayStore.Proofs.Ingest.Ending
import RelayStore.Service.Schedule

/-! Calls that close the service. Any number of them may be on their way while the ingestor makes
its moves in any order. A call that returns has seen the end, unless it came while another call
still waits for it. -/
namespace RelayStore

namespace Ingest

/-- The row of an event whose submission has succeeded. -/
def Notice.accepted? : Notice → Option EventRow
  | submitted _ row .queued => some row
  | settled row .written => some row
  | _ => none

/-- The rows of an insert that the store has answered. -/
def Notice.answeredInsert? : Notice → Option (List EventRow)
  | answered rows _ => some rows
  | settled row .written => some [row]
  | settled row .failed => some [row]
  | _ => none

abbrev Log.accepted (log : Log) : List EventRow := of Notice.accepted? log

abbrev Log.answeredInserts (log : Log) : List (List EventRow) := of Notice.answeredInsert? log

/-- Ingestion has stopped: the last flush is answered, and the store has answered for every event
that was accepted. -/
structure Stopped (log : Log) (i : Ingestor) : Prop where
  ended : i.phase = .ended
  completed : Completed log i
  handedOver : ∀ row ∈ log.accepted,
    ∃ rows ∈ log.inserts, row ∈ rows ∧ rows ∈ log.answeredInserts

variable {s : IngestSettings} {log : Log} {i : Ingestor}

theorem Notice.accepted?_eq_some {n : Notice} {row : EventRow} :
    n.accepted? = some row ↔ n.queued? = some row ∨ n = .settled row .written := by
  cases n with
  | submitted e r answer => cases answer <;> simp [accepted?, queued?]
  | settled r outcome => cases outcome <;> simp [accepted?, queued?]
  | _ => simp [accepted?, queued?]

theorem Log.mem_accepted {row : EventRow} :
    row ∈ log.accepted ↔ row ∈ log.queued ∨ .settled row .written ∈ log := by
  simp only [Log.accepted, Log.queued, Log.of, List.mem_filterMap, Notice.accepted?_eq_some]
  grind

/-- A batch that was answered has been sent. -/
theorem Completed.answers_subset (completed : Completed log i) {rows : List EventRow}
    (answered : rows ∈ log.answers) : rows ∈ log.inserts ∧ rows ∈ log.answeredInserts := by
  constructor
  · obtain ⟨b, sent, rfl⟩ := List.mem_map.mp (completed.answered ▸ answered)
    have batch : b.rows ∈ log.batches.map Batch.rows := List.mem_map_of_mem sent
    exact log.inserts_perm.mem_iff.mpr (List.mem_append_left _ batch)
  · obtain ⟨n, seen, view⟩ := List.mem_filterMap.mp answered
    cases n with
    | answered r ok => exact List.mem_filterMap.mpr ⟨_, seen, view⟩
    | _ => contradiction

theorem Run.stopped (run : Run s log i) (ended : i.phase = .ended)
    (fits : Ingestor.Allocatable s.batchSize) : Stopped log i := by
  have completed := run.completed ended fits
  refine ⟨ended, completed, ?_⟩
  intro row accepted
  rcases Log.mem_accepted.mp accepted with queued | written
  · obtain ⟨rows, answered, held⟩ := List.mem_flatten.mp (completed.inOrder ▸ queued)
    obtain ⟨sent, settled⟩ := completed.answers_subset answered
    exact ⟨rows, sent, held, settled⟩
  · have settled : row ∈ log.settled := List.mem_filterMap.mpr ⟨_, written, rfl⟩
    have alone : row ∈ log.alone := run.alone_perm.mem_iff.mpr (List.mem_append_left _ settled)
    have single : [row] ∈ log.alone.map fun r => [r] := List.mem_map_of_mem alone
    exact ⟨[row], log.inserts_perm.mem_iff.mpr (List.mem_append_right _ single),
      List.mem_singleton_self row, List.mem_filterMap.mpr ⟨_, written, rfl⟩⟩

end Ingest

open Ingest

namespace Service

/-- What happens while the service is used and closed. A call for the end waits until it comes: that
one is given up while it waits does not happen here. -/
inductive Happening where
  | ingest (m : Move)
  /-- Somebody calls for the end. -/
  | call (name : String)
  /-- A call has its turn. -/
  | turn (i : Nat)

/-- The state after something has happened, and what it shows of the ingestor. -/
def happens? (v : Service) : Happening → Option (Log × Service)
  | .ingest m => (v.ingest.move? m).map fun (n, i) => ([n], { v with ingest := i })
  | .call name => some ([], { v with jobs := v.jobs ++ [(name, .running .close)] })
  | .turn i =>
    match v.jobs[i]? with
    | some (_, .running .close) => some ([.stopped], v.runTask (.call i))
    | some (_, .running .awaitEnd) => some ([], v.runTask (.call i))
    | _ => none

/-- A sequence of happenings with what they show. -/
def happen? (v : Service) : List Happening → Option (Log × Service)
  | [] => some ([], v)
  | h :: hs => do
    let (shown, w) ← v.happens? h
    let (log, x) ← w.happen? hs
    return (shown ++ log, x)

/-- The states that the service comes to in any order of moves and calls. -/
inductive Course (settings : StorageSettings) (wallSeconds : UInt32) (wallMicros : Int) :
    Log → Service → Prop where
  | start : Course settings wallSeconds wallMicros [] (.start settings wallSeconds wallMicros)
  | next {log shown : Log} {v w : Service} {h : Happening}
      (course : Course settings wallSeconds wallMicros log v)
      (happens : v.happens? h = some (shown, w)) :
      Course settings wallSeconds wallMicros (log ++ shown) w

theorem Course.happen {settings : StorageSettings} {wallSeconds : UInt32} {wallMicros : Int}
    {log later : Log} {v w : Service} (course : Course settings wallSeconds wallMicros log v)
    (hs : List Happening) (h : v.happen? hs = some (later, w)) :
    Course settings wallSeconds wallMicros (log ++ later) w := by
  induction hs generalizing v log later with
  | nil =>
    obtain ⟨rfl, rfl⟩ : [] = later ∧ v = w := by simpa [happen?] using h
    simpa using course
  | cons x hs ih =>
    simp only [happen?, Option.bind_eq_bind, Option.bind_eq_some_iff, Option.pure_def,
      Option.some.injEq, Prod.mk.injEq] at h
    obtain ⟨⟨shown, u⟩, first, ⟨rest, y⟩, others, rfl, rfl⟩ := h
    simpa using ih (course.next first) others

/-- A call waits for the worker to end. -/
def Waits (v : Service) (i : Nat) : Prop := ∃ name, v.jobs[i]? = some (name, .running .awaitEnd)

def HasReturned (v : Service) (i : Nat) : Prop := ∃ name r, v.jobs[i]? = some (name, .over r)

/-! What a call does. -/

@[simp] theorem wake_ingest (v : Service) (t : TaskId) : (v.wake t).ingest = v.ingest := by
  unfold wake
  split <;> rfl

@[simp] theorem wake_ending (v : Service) (t : TaskId) : (v.wake t).ending = v.ending := by
  unfold wake
  split <;> rfl

@[simp] theorem wake_jobs (v : Service) (t : TaskId) : (v.wake t).jobs = v.jobs := by
  unfold wake
  split <;> rfl

/-- The service after somebody has asked for the end. -/
def asked (v : Service) : Service :=
  if v.idle then { v with ingest := v.ingest.stop }.wake .worker
  else { v with ingest := v.ingest.stop }

@[simp] theorem asked_ingest (v : Service) : v.asked.ingest = v.ingest.stop := by
  unfold asked
  split <;> simp

@[simp] theorem asked_ending (v : Service) : v.asked.ending = v.ending := by
  unfold asked
  split <;> simp

@[simp] theorem asked_jobs (v : Service) : v.asked.jobs = v.jobs := by
  unfold asked
  split <;> simp

theorem stop_eq (v : Service) (owner : TaskId) :
    v.stop owner =
      if v.ending.isSome ∨ v.ingest.phase = .ended then (v.asked, false)
      else ({ v.asked with ending := some owner }, true) := by
  show (if v.asked.ending.isSome ∨ v.asked.ingest.phase = .ended then (v.asked, false)
    else ({ v.asked with ending := some owner }, true)) = _
  rw [asked_ending, asked_ingest]
  rfl

theorem runTask_call {v : Service} {i : Nat} {name : String} {j : Job}
    (running : v.jobs[i]? = some (name, .running j)) :
    v.runTask (.call i) = { (v.run (.call i) j).1 with
      jobs := (v.run (.call i) j).1.jobs.set i (name, (v.run (.call i) j).2) } := by
  simp [runTask, running]

/-- What something that happens does to the ingestor, to the place of the one who waits and to the
calls. -/
inductive Effect (v w : Service) : Happening → Log → Prop where
  | move {m : Move} {n : Notice} (move : v.ingest.move? m = some (n, w.ingest))
      (ending : w.ending = v.ending) (jobs : w.jobs = v.jobs) : Effect v w (.ingest m) [n]
  | call {name : String} (ingest : w.ingest = v.ingest) (ending : w.ending = v.ending)
      (jobs : w.jobs = v.jobs ++ [(name, .running .close)]) : Effect v w (.call name) []
  | wait {i : Nat} {name : String} (begins : v.jobs[i]? = some (name, .running .close))
      (first : v.ending = none) (going : v.ingest.phase ≠ .ended)
      (ingest : w.ingest = v.ingest.stop) (ending : w.ending = some (.call i))
      (jobs : w.jobs = v.jobs.set i (name, .running .awaitEnd)) : Effect v w (.turn i) [.stopped]
  | pass {i : Nat} {name : String} (begins : v.jobs[i]? = some (name, .running .close))
      (late : v.ending.isSome ∨ v.ingest.phase = .ended) (ingest : w.ingest = v.ingest.stop)
      (ending : w.ending = v.ending)
      (jobs : w.jobs = v.jobs.set i (name, .over (.ok .closed))) : Effect v w (.turn i) [.stopped]
  | stay {i : Nat} {name : String} (waits : v.jobs[i]? = some (name, .running .awaitEnd))
      (going : v.ingest.phase ≠ .ended) (ingest : w.ingest = v.ingest)
      (ending : w.ending = v.ending)
      (jobs : w.jobs = v.jobs.set i (name, .running .awaitEnd)) : Effect v w (.turn i) []
  | leave {i : Nat} {name : String} (waits : v.jobs[i]? = some (name, .running .awaitEnd))
      (ended : v.ingest.phase = .ended) (ingest : w.ingest = v.ingest)
      (ending : w.ending = v.ending)
      (jobs : w.jobs = v.jobs.set i (name, .over (.ok .closed))) : Effect v w (.turn i) []

theorem Effect.of_happens {v w : Service} {h : Happening} {shown : Log}
    (happens : v.happens? h = some (shown, w)) : Effect v w h shown := by
  cases h with
  | ingest m =>
    obtain ⟨n, i, move, rfl, rfl⟩ := by simpa [happens?] using happens
    exact .move move rfl rfl
  | call name =>
    obtain ⟨rfl, rfl⟩ := by simpa [happens?] using happens
    exact .call rfl rfl rfl
  | turn i =>
    simp only [happens?] at happens
    split at happens
    next name begins =>
      obtain ⟨rfl, rfl⟩ := by simpa using happens
      rw [runTask_call begins]
      by_cases late : v.ending.isSome ∨ v.ingest.phase = .ended
      · apply Effect.pass begins late <;> simp [run, stop_eq, late]
      · obtain ⟨first, going⟩ := not_or.mp late
        apply Effect.wait begins (by simpa using first) going <;> simp [run, stop_eq, late]
    next name waits =>
      obtain ⟨rfl, rfl⟩ := by simpa using happens
      rw [runTask_call waits]
      by_cases ended : v.ingest.phase = .ended
      · apply Effect.leave waits ended <;> simp [run, ended]
      · apply Effect.stay waits ended <;> simp [run, ended]
    next => contradiction

variable {settings : StorageSettings} {wallSeconds : UInt32} {wallMicros : Int} {log shown : Log}
  {v w : Service}

/-- The ingestor of the service makes a run of its own. -/
theorem Course.run (course : Course settings wallSeconds wallMicros log v) :
    Run settings.ingest log v.ingest := by
  induction course with
  | start => exact .start
  | @next log shown v w h course happens ih =>
    have stop : v.ingest.move? .stop = some (.stopped, v.ingest.stop) := rfl
    cases Effect.of_happens happens with
    | move move => exact ih.next move
    | wait _ _ _ ingest => exact ingest ▸ ih.next stop
    | pass _ _ ingest => exact ingest ▸ ih.next stop
    | call ingest => rw [List.append_nil, ingest]; exact ih
    | stay _ _ ingest => rw [List.append_nil, ingest]; exact ih
    | leave _ _ ingest => rw [List.append_nil, ingest]; exact ih

/-- Whoever took the place of the one who waits is still waiting, or the worker has ended. -/
def Attended (v : Service) : Prop :=
  ∀ t, v.ending = some t → v.ingest.phase = .ended ∨ ∃ k, t = .call k ∧ v.Waits k

theorem Waits.set_other {i k : Nat} {entry : String × JobState} (waits : v.Waits k) (other : k ≠ i)
    (jobs : w.jobs = v.jobs.set i entry) : w.Waits k := by
  obtain ⟨name, found⟩ := waits
  exact ⟨name, by rw [jobs, List.getElem?_set_ne (Ne.symm other), found]⟩

theorem waits_set_self {i : Nat} {name : String} {entry : String × JobState}
    (before : v.jobs[i]? = some entry)
    (jobs : w.jobs = v.jobs.set i (name, .running .awaitEnd)) : w.Waits i :=
  ⟨name, by rw [jobs, List.getElem?_set_self (List.getElem?_eq_some_iff.mp before).1]⟩

theorem Course.attended (course : Course settings wallSeconds wallMicros log v) : Attended v := by
  induction course with
  | start => exact fun t taken => nomatch taken
  | @next log shown v w h course happens ih =>
    intro t taken
    cases Effect.of_happens happens with
    | move move ending jobs =>
      rcases ih t (ending ▸ taken) with ended | ⟨k, owner, waits⟩
      · have idle := (course.run.emptied.ended ended).1
        exact .inl ((Change.of_move move).still ended idle).ended
      · exact .inr ⟨k, owner, by simpa [Waits, jobs] using waits⟩
    | call ingest ending jobs =>
      rcases ih t (ending ▸ taken) with ended | ⟨k, owner, name, found⟩
      · exact .inl (ingest ▸ ended)
      · have bound := (List.getElem?_eq_some_iff.mp found).1
        exact .inr ⟨k, owner, name, by rw [jobs, List.getElem?_append_left bound, found]⟩
    | @wait i name begins first going ingest ending jobs =>
      exact .inr ⟨i, Option.some.inj (taken.symm.trans ending), waits_set_self begins jobs⟩
    | @pass i name begins late ingest ending jobs =>
      rcases ih t (ending ▸ taken) with ended | ⟨k, owner, waits⟩
      · exact .inl (ingest ▸ ended)
      · have other : k ≠ i := by
          rintro rfl
          obtain ⟨name', found⟩ := waits
          simp [begins] at found
        exact .inr ⟨k, owner, waits.set_other other jobs⟩
    | @stay i name waiting going ingest ending jobs =>
      rcases ih t (ending ▸ taken) with ended | ⟨k, owner, waits⟩
      · exact absurd ended going
      · by_cases same : k = i
        · exact .inr ⟨k, owner, same ▸ waits_set_self waiting jobs⟩
        · exact .inr ⟨k, owner, waits.set_other same jobs⟩
    | leave waiting ended ingest => exact .inl (ingest ▸ ended)

/-- Where the buffer can be had, ingestion has stopped at the moment a call returns, unless the call
has only now had its first turn and another call still waits. -/
theorem Course.returned_stopped_or_overtook {i : Nat}
    (course : Course settings wallSeconds wallMicros log v)
    (fits : Ingestor.Allocatable settings.ingest.batchSize)
    (happens : v.happens? (.turn i) = some (shown, w)) (back : w.HasReturned i) :
    Stopped (log ++ shown) w.ingest ∨
      (∃ name, v.jobs[i]? = some (name, .running .close)) ∧ ∃ k, k ≠ i ∧ w.Waits k := by
  have run := (course.next happens).run
  obtain ⟨name', r, found⟩ := back
  cases Effect.of_happens happens with
  | @wait _ name begins first going ingest ending jobs =>
    rw [jobs, List.getElem?_set_self (List.getElem?_eq_some_iff.mp begins).1] at found
    simp at found
  | @stay _ name waits going ingest ending jobs =>
    rw [jobs, List.getElem?_set_self (List.getElem?_eq_some_iff.mp waits).1] at found
    simp at found
  | leave waits ended ingest ending jobs => exact .inl (run.stopped (ingest ▸ ended) fits)
  | @pass _ name begins late ingest ending jobs =>
    have stopped (ended : v.ingest.phase = .ended) := run.stopped (ingest ▸ ended) fits
    rcases late with taken | ended
    · obtain ⟨t, taken⟩ := Option.isSome_iff_exists.mp taken
      rcases course.attended t taken with ended | ⟨k, owner, waits⟩
      · exact .inl (stopped ended)
      · have other : k ≠ i := by
          rintro rfl
          obtain ⟨name', found⟩ := waits
          simp [begins] at found
        exact .inr ⟨⟨name, begins⟩, k, other, waits.set_other other jobs⟩
    · exact .inl (stopped ended)

/-- An event is saved, two callers ask for the end, and the last flush begins. -/
def overlapping : List Happening :=
  [.ingest (.work false), .ingest (.submit { id := "a" } 7 50), .call "first", .call "second",
    .turn 0, .ingest (.work false), .ingest (.work false), .ingest (.work false)]

theorem returned_overlapping :
    ∃ log v shown w, Course {} 0 0 log v ∧ v.happens? (.turn 0) = some (shown, w) ∧
      w.HasReturned 0 ∧ log.accepted.map EventRow.id = ["a"] ∧
      Stopped (log ++ shown) w.ingest := by
  have course : Course {} 0 0 _ _ :=
    Course.start.happen (overlapping ++ [.turn 1, .ingest (.answer false)]) rfl
  have back := course.returned_stopped_or_overtook (i := 0) (by decide) rfl ⟨"first", _, rfl⟩
  refine ⟨_, _, _, _, course, rfl, ⟨"first", _, rfl⟩, rfl, back.resolve_right ?_⟩
  rintro ⟨⟨name, begins⟩, -⟩
  cases begins

/-- The second of two callers is let go while the store still has the last flush. -/
theorem overlapping_call_unfinished :
    ∃ log v shown w, Course {} 0 0 log v ∧ v.happens? (.turn 1) = some (shown, w) ∧
      w.HasReturned 1 ∧ w.ingest.writing = some .ending ∧
      w.ingest.buffer.map EventRow.id = ["a"] ∧ ¬ Stopped (log ++ shown) w.ingest := by
  have course : Course {} 0 0 _ _ := Course.start.happen overlapping rfl
  refine ⟨_, _, _, _, course, rfl, ⟨"second", _, rfl⟩, rfl, rfl, ?_⟩
  intro stopped
  exact nomatch stopped.ended

end Service
end RelayStore

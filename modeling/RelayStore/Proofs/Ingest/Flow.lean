import RelayStore.Proofs.Ingest.Run
import Mathlib.Data.List.Nodup

/-! Where the rows of a run are: in the queue, in the buffer, with the store, answered or lost. -/
namespace RelayStore.Ingest

namespace Notice

/-- The row that a submission made, whatever became of it. -/
def issued? : Notice → Option EventRow
  | submitted _ row _ => some row
  | _ => none

def queued? : Notice → Option EventRow
  | submitted _ row .queued => some row
  | _ => none

def refused? : Notice → Option EventRow
  | submitted _ row .closed => some row
  | _ => none

def alone? : Notice → Option EventRow
  | submitted _ _ (.alone row) => some row
  | _ => none

def settled? : Notice → Option EventRow
  | settled row _ => some row
  | _ => none

def answered? : Notice → Option (List EventRow)
  | answered rows _ => some rows
  | _ => none

def lost? : Notice → Option (List EventRow)
  | brokeOff rows => some rows
  | _ => none

end Notice

/-- A batch insert, and the step of the worker that sent it. -/
structure Batch where
  step : Step
  rows : List EventRow
  deriving DecidableEq, Repr

def Notice.batch? : Notice → Option Batch
  | batch step rows => some ⟨step, rows⟩
  | _ => none

/-- What the store is asked to insert: a batch, or one row by itself. -/
def Notice.insert? : Notice → Option (List EventRow)
  | batch _ rows => some rows
  | submitted _ _ (.alone row) => some [row]
  | _ => none

namespace Log

/-- What a log shows of one kind, in order. -/
def of {α : Type} (view : Notice → Option α) (log : Log) : List α := log.filterMap view

@[simp] theorem of_nil {α : Type} (view : Notice → Option α) : of view [] = [] := rfl

@[simp] theorem of_append {α : Type} (view : Notice → Option α) (log : Log) (n : Notice) :
    of view (log ++ [n]) = of view log ++ (view n).toList := by
  cases h : view n <;> simp [of, h]

abbrev issued (log : Log) : List EventRow := of Notice.issued? log

/-- The rows that entered the queue, in its order. -/
abbrev queued (log : Log) : List EventRow := of Notice.queued? log

abbrev refused (log : Log) : List EventRow := of Notice.refused? log

/-- The rows that were given to the store by themselves. -/
abbrev alone (log : Log) : List EventRow := of Notice.alone? log

abbrev settled (log : Log) : List EventRow := of Notice.settled? log

/-- The batches that were answered, well or not. -/
abbrev answers (log : Log) : List (List EventRow) := of Notice.answered? log

/-- The rows of the batches that were answered. -/
abbrev answered (log : Log) : List EventRow := (of Notice.answered? log).flatten

/-- The rows that were in the queue when the worker broke off. -/
abbrev lost (log : Log) : List EventRow := (of Notice.lost? log).flatten

/-- The batch inserts in the order of their calls. -/
abbrev batches (log : Log) : List Batch := of Notice.batch? log

/-- All inserts in the order of their calls. -/
abbrev inserts (log : Log) : List (List EventRow) := of Notice.insert? log

end Log

variable {s : IngestSettings} {log : Log} {i : Ingestor}

theorem allocatable_max {n : Nat} : Ingestor.Allocatable (max n 1) ↔ Ingestor.Allocatable n := by
  simp only [Ingestor.Allocatable, Ingestor.rowRoom]
  omega

/-- Rows are lost only where the worker breaks off, and it does so only if no batch can be held. -/
structure Intact (s : IngestSettings) (log : Log) (i : Ingestor) : Prop where
  batchSize : i.batchSize = max s.batchSize 1
  ended : log.lost ≠ [] → i.phase = .ended
  none : Ingestor.Allocatable s.batchSize → log.lost = []

theorem Intact.change {j : Ingestor} {n : Notice} (h : Intact s log i) (change : Change i n j) :
    Intact s (log ++ [n]) j := by
  obtain ⟨batchSize, ended, none⟩ := h
  have kept : (Notice.lost? n = .none → j.batchSize = i.batchSize →
      (i.phase = .ended → j.phase = .ended) → Intact s (log ++ [n]) j) := fun silent same still =>
    ⟨same.trans batchSize, fun lost => still (ended (by simpa [silent] using lost)),
      fun fits => by simpa [silent] using none fits⟩
  cases change with
  | breakOff idle unstarted huge =>
    refine ⟨batchSize, fun _ => rfl, fun fits => absurd ?_ huge⟩
    rw [batchSize]
    exact allocatable_max.mpr fits
  | answer busy ok => exact kept rfl rfl fun finished => by simp [finished]
  | allocate _ phase | close _ phase => exact kept rfl rfl (by simp [phase])
  | finish => exact kept rfl rfl fun _ => rfl
  | _ => exact kept rfl rfl id

theorem Run.intact (run : Run s log i) : Intact s log i := by
  induction run with
  | start => exact ⟨rfl, by simp, fun _ => rfl⟩
  | next run move ih => exact ih.change (.of_move move)

/-- While the queue is open nothing is lost. -/
theorem Run.lost_eq_nil (run : Run s log i) (going : i.phase ≠ .ended) : log.lost = [] :=
  by_contra fun lost => going (run.intact.ended lost)

theorem Phase.ne_ended_of_isOpen {p : Phase} (accepting : p.isOpen) : p ≠ .ended := by
  rintro rfl
  contradiction

/-- A queued row is answered for, or in the buffer, or still in the queue, or lost. -/
theorem Run.queued_eq (run : Run s log i) :
    log.queued = log.answered ++ i.buffer ++ i.queue ++ log.lost := by
  induction run with
  | start => rfl
  | next run move ih =>
    have lost := run.lost_eq_nil
    cases Change.of_move move with
    | queue accepting =>
      have none := lost (Phase.ne_ended_of_isOpen accepting)
      simp [ih, none, Log.answered, Log.lost, Notice.queued?, Notice.answered?, Notice.lost?]
    | breakOff _ unstarted =>
      have none := lost (by simp [unstarted])
      simp [ih, none, Log.answered, Log.lost, Notice.queued?, Notice.answered?, Notice.lost?]
    | take _ _ first | fill _ _ first =>
      simp [ih, first, Log.answered, Log.lost, Notice.queued?, Notice.answered?, Notice.lost?]
    | _ => simp [ih, Log.answered, Log.lost, Notice.queued?, Notice.answered?, Notice.lost?]

/-- The store answers the batches in the order in which it got them. -/
theorem Run.batches_answers (run : Run s log i) :
    log.batches.map Batch.rows = log.answers ++ if i.writing.isSome then [i.buffer] else [] := by
  induction run with
  | start => rfl
  | next run move ih =>
    cases Change.of_move move with
    | answer busy ok => simp [ih, busy, Notice.batch?, Notice.answered?]
    | _ => simp_all [Notice.batch?, Notice.answered?]

/-- The rows of the batch inserts are those that were answered for, and the buffer while the store
has it. -/
theorem Run.batches_eq (run : Run s log i) :
    log.batches.flatMap Batch.rows = log.answered ++ if i.writing.isSome then i.buffer else [] := by
  rw [List.flatMap_def, run.batches_answers, List.flatten_append]
  split <;> simp

/-- A row that was given to the store by itself is settled, or its caller still waits. -/
theorem Run.alone_perm (run : Run s log i) : log.alone.Perm (log.settled ++ i.alone) := by
  induction run with
  | start => rfl
  | @next log i _ _ _ run move ih =>
    cases Change.of_move move with
    | writeAlone => simpa [Notice.alone?, Notice.settled?] using ih.append_right _
    | accept pending =>
      have settle := (List.perm_cons_erase pending).append_left log.settled
      simpa [Notice.alone?, Notice.settled?] using ih.trans settle
    | giveUp pending =>
      have settle := (List.perm_cons_erase pending).append_left log.settled
      simpa [Notice.alone?, Notice.settled?] using ih.trans settle
    | _ => simpa [Notice.alone?, Notice.settled?] using ih

/-- What became of every submission. -/
theorem Run.issued_perm (run : Run s log i) :
    log.issued.Perm (log.queued ++ log.alone ++ log.refused) := by
  simp only [List.perm_iff_count, List.count_append, Log.issued, Log.queued, Log.alone,
    Log.refused]
  induction run with
  | start => intro row; rfl
  | next run move ih =>
    intro row
    have := ih row
    cases Change.of_move move with
    | queue | writeAlone | refuse =>
      simp only [Log.of_append, List.count_append, Notice.issued?, Notice.queued?, Notice.alone?,
        Notice.refused?, Option.toList_some, Option.toList_none, List.count_nil]
      omega
    | _ => simpa [Notice.issued?, Notice.queued?, Notice.alone?, Notice.refused?] using this

theorem versions_snoc {rows : List EventRow} {row : EventRow} {last : Nat}
    (h : rows.Pairwise (fun a b => a.version < b.version) ∧ ∀ r ∈ rows, r.version ≤ last)
    (newer : last < row.version) :
    (rows ++ [row]).Pairwise (fun a b => a.version < b.version) ∧
      ∀ r ∈ rows ++ [row], r.version ≤ row.version := by
  obtain ⟨sorted, bounded⟩ := h
  constructor
  · rw [List.pairwise_append]
    refine ⟨sorted, List.pairwise_singleton _ _, ?_⟩
    intro r hr r' hr'
    rw [List.mem_singleton.mp hr']
    exact Nat.lt_of_le_of_lt (bounded r hr) newer
  · intro r hr
    rcases List.mem_append.mp hr with hr | hr
    · exact Nat.le_trans (bounded r hr) (Nat.le_of_lt newer)
    · exact Nat.le_of_eq (congrArg EventRow.version (List.mem_singleton.mp hr))

/-- Versions grow with every submission, and the clock keeps the last. -/
theorem Run.versions (run : Run s log i) :
    log.issued.Pairwise (fun a b => a.version < b.version) ∧
      ∀ row ∈ log.issued, row.version ≤ i.clock.last := by
  induction run with
  | start => simp
  | next run move ih =>
    rw [Log.issued, Log.of_append]
    cases Change.of_move move with
    | queue _ _ newer => exact versions_snoc ih newer
    | writeAlone _ _ newer => exact versions_snoc ih newer
    | refuse _ newer => exact versions_snoc ih newer
    | _ => simpa [Notice.issued?] using ih

theorem Run.issued_nodup (run : Run s log i) : log.issued.Nodup :=
  run.versions.1.imp fun h he => Nat.ne_of_lt h (congrArg EventRow.version he)

theorem Run.queued_alone_nodup (run : Run s log i) : (log.queued ++ log.alone).Nodup :=
  (run.issued_perm.nodup_iff.mp run.issued_nodup).of_append_left

/-- A worker that has not begun has taken nothing, and one that has ended, or waits for its last
flush, has left nothing in the queue. -/
structure Emptied (i : Ingestor) : Prop where
  unstarted : i.phase = .unstarted → i.writing = none ∧ i.buffer = []
  ended : i.phase = .ended → i.writing = none ∧ i.buffer = [] ∧ i.queue = []
  ending : i.writing = some .ending → i.phase = .draining ∧ i.queue = []

theorem Working.ne {i : Ingestor} (going : Working i) :
    i.phase ≠ .unstarted ∧ i.phase ≠ .ended := by
  rcases going with ⟨serving, -⟩ | draining
  · simp [serving]
  · simp [draining]

theorem Emptied.change {i j : Ingestor} {n : Notice} (h : Emptied i) (change : Change i n j) :
    Emptied j := by
  obtain ⟨unstarted, ended, ending⟩ := h
  cases change with
  | queue accepting =>
    refine ⟨unstarted, fun finished => absurd finished (Phase.ne_ended_of_isOpen accepting),
      fun busy => ?_⟩
    simp [(ending busy).1, Phase.isOpen] at accepting
  | allocate idle => exact ⟨by simp, by simp, by simp [idle]⟩
  | breakOff idle first =>
    exact ⟨by simp, fun _ => ⟨idle, (unstarted first).2, rfl⟩, by simp [idle]⟩
  | close idle => exact ⟨by simp, by simp, by simp [idle]⟩
  | take idle going =>
    exact ⟨fun first => absurd first going.ne.1, fun finished => absurd finished going.ne.2,
      by simp [idle]⟩
  | fill idle going =>
    exact ⟨fun first => absurd first going.ne.1, fun finished => absurd finished going.ne.2,
      by simp⟩
  | tick idle serving => exact ⟨by simp [serving], by simp [serving], by simp⟩
  | finish idle draining drained empty =>
    exact ⟨by simp, fun _ => ⟨idle, empty, drained⟩, by simp [idle]⟩
  | flush idle draining drained held =>
    exact ⟨by simp [draining], by simp [draining], fun _ => ⟨draining, drained⟩⟩
  | @answer cause _ busy ok =>
    refine ⟨fun first => ⟨rfl, rfl⟩, fun finished => ⟨rfl, rfl, ?_⟩, by simp⟩
    by_cases last : cause = .ending
    · exact (ending (last ▸ busy)).2
    · have finished : i.phase = .ended := by simpa [last] using finished
      simp [(ended finished).1] at busy
  | _ => exact ⟨unstarted, ended, ending⟩

theorem Run.emptied (run : Run s log i) : Emptied i := by
  induction run with
  | start => exact ⟨fun _ => ⟨rfl, rfl⟩, fun _ => ⟨rfl, rfl, rfl⟩, by simp [Ingestor.start]⟩
  | next run move ih => exact ih.change (.of_move move)

end RelayStore.Ingest

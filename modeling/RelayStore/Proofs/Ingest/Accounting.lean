import RelayStore.Proofs.Ingest.Flow

/-! Accounting. In every state the counters say what has become of the events that were accepted:
they are stored, dropped, in the buffer or in the queue. Only what is lost when the worker breaks
off is in no counter. -/
namespace RelayStore.Ingest

namespace Notice

/-- The rows of a batch that the store took. -/
def flushed? : Notice → Option (List EventRow)
  | answered rows true => some rows
  | _ => none

/-- The rows of a batch that the store did not take. -/
def dropped? : Notice → Option (List EventRow)
  | answered rows false => some rows
  | _ => none

/-- A row that was written by itself before its deadline. -/
def written? : Notice → Option EventRow
  | settled row .written => some row
  | _ => none

end Notice

theorem Notice.written?_settled {row : EventRow} {outcome : Outcome}
    (unwritten : outcome ≠ .written) : (settled row outcome).written? = none := by
  cases outcome with
  | written => contradiction
  | failed => rfl
  | late => rfl

namespace Log

abbrev flushed (log : Log) : List (List EventRow) := of Notice.flushed? log

abbrev dropped (log : Log) : List (List EventRow) := of Notice.dropped? log

abbrev written (log : Log) : List EventRow := of Notice.written? log

theorem length_of_append {α : Type} (view : Notice → Option α) (log : Log) (n : Notice) :
    (of view (log ++ [n])).length = (of view log).length + (view n).toList.length := by
  rw [of_append, List.length_append]

theorem length_flatten_of_append {α : Type} (view : Notice → Option (List α)) (log : Log)
    (n : Notice) : (of view (log ++ [n])).flatten.length =
      (of view log).flatten.length + (view n).toList.flatten.length := by
  rw [of_append, List.flatten_append, List.length_append]

end Log

variable {s : IngestSettings} {log : Log} {i : Ingestor}

/-- What each counter counts, and where the accepted events are. -/
structure Accounted (log : Log) (i : Ingestor) : Prop where
  submitted : i.counters.submitted = log.written.length + i.queue.length + i.counters.buffered +
    i.counters.flushed + i.counters.dropped + log.lost.length
  buffered : i.counters.buffered = i.buffer.length
  flushed : i.counters.flushed = log.flushed.flatten.length
  dropped : i.counters.dropped = log.dropped.flatten.length
  flushes : i.counters.flushes = log.answers.length
  failedFlushes : i.counters.failedFlushes = log.dropped.length
  singleWrites : i.counters.singleWrites = log.alone.length

theorem Accounted.start (s : IngestSettings) : Accounted [] (.start s) where
  submitted := rfl
  buffered := rfl
  flushed := rfl
  dropped := rfl
  flushes := rfl
  failedFlushes := rfl
  singleWrites := rfl

/-- It is enough that the counters grow by what a notice adds to the logs, and that the sums on both
sides of the balance change alike. -/
theorem Accounted.snoc {j : Ingestor} {n : Notice} (h : Accounted log i)
    (submitted : j.counters.submitted + i.queue.length + i.buffer.length + i.counters.flushed +
        i.counters.dropped = i.counters.submitted + n.written?.toList.length + j.queue.length +
        j.buffer.length + j.counters.flushed + j.counters.dropped +
        n.lost?.toList.flatten.length)
    (buffered : j.counters.buffered = j.buffer.length)
    (flushed : j.counters.flushed = i.counters.flushed + n.flushed?.toList.flatten.length)
    (dropped : j.counters.dropped = i.counters.dropped + n.dropped?.toList.flatten.length)
    (flushes : j.counters.flushes = i.counters.flushes + n.answered?.toList.length)
    (failedFlushes : j.counters.failedFlushes =
      i.counters.failedFlushes + n.dropped?.toList.length)
    (singleWrites : j.counters.singleWrites = i.counters.singleWrites + n.alone?.toList.length) :
    Accounted (log ++ [n]) j where
  submitted := by
    have balance := h.submitted
    rw [Log.written, Log.lost, h.buffered] at balance
    rw [Log.written, Log.lost, Log.length_of_append, Log.length_flatten_of_append, buffered]
    omega
  buffered := buffered
  flushed := by rw [Log.length_flatten_of_append, flushed, h.flushed]
  dropped := by rw [Log.length_flatten_of_append, dropped, h.dropped]
  flushes := by rw [Log.length_of_append, flushes, h.flushes]
  failedFlushes := by rw [Log.length_of_append, failedFlushes, h.failedFlushes]
  singleWrites := by rw [Log.length_of_append, singleWrites, h.singleWrites]

theorem Accounted.change {j : Ingestor} {n : Notice} (h : Accounted log i) (change : Change i n j) :
    Accounted (log ++ [n]) j := by
  have buffered := h.buffered
  cases change with
  | queue =>
    refine h.snoc ?_ buffered rfl rfl rfl rfl rfl
    simp only [Notice.written?, Notice.lost?, Option.toList_none, List.flatten_nil, List.length_nil,
      List.length_append, List.length_singleton]
    omega
  | writeAlone => exact h.snoc rfl buffered rfl rfl rfl rfl rfl
  | breakOff idle unstarted huge =>
    refine h.snoc ?_ buffered rfl rfl rfl rfl rfl
    simp only [Notice.written?, Notice.lost?, Option.toList_none, Option.toList_some,
      List.flatten_singleton, List.length_nil]
    omega
  | take idle going first short =>
    refine h.snoc ?_ (by simp) rfl rfl rfl rfl rfl
    simp only [first, Notice.written?, Notice.lost?, Option.toList_none, List.flatten_nil,
      List.length_nil, List.length_cons, List.length_append]
    omega
  | fill idle going first full =>
    refine h.snoc ?_ (by simp) rfl rfl rfl rfl rfl
    simp only [first, Notice.written?, Notice.lost?, Option.toList_none, List.flatten_nil,
      List.length_nil, List.length_cons, List.length_append]
    omega
  | answer busy ok =>
    cases ok with
    | true =>
      refine h.snoc ?_ rfl ?_ rfl rfl rfl rfl
      · simp only [Notice.written?, Notice.lost?, Option.toList_none, List.flatten_nil,
          List.length_nil, if_true]
        omega
      · simp [Notice.flushed?]
    | false =>
      refine h.snoc ?_ rfl rfl ?_ rfl rfl rfl
      · simp only [Notice.written?, Notice.lost?, Option.toList_none, List.flatten_nil,
          List.length_nil, Bool.false_eq_true, if_false]
        omega
      · simp [Notice.dropped?]
  | accept pending =>
    refine h.snoc ?_ buffered rfl rfl rfl rfl rfl
    simp [Notice.written?, Notice.lost?]
  | giveUp pending unwritten =>
    refine h.snoc ?_ buffered rfl rfl rfl rfl rfl
    simp [Notice.written?_settled unwritten, Notice.lost?]
  | _ => exact h.snoc rfl buffered rfl rfl rfl rfl rfl

theorem Run.accounted (run : Run s log i) : Accounted log i := by
  induction run with
  | start => exact .start s
  | next run move ih => exact ih.change (.of_move move)

/-- The balance in every state, and the shorter one when nothing is on its way any more. Where the
buffer can be had, no row is lost. -/
theorem Run.accounts (run : Run s log i) :
    Accounted log i ∧
      (log.batches.map Batch.rows = log.answers ++ if i.writing.isSome then [i.buffer] else []) ∧
      (i.phase = .ended → i.counters.submitted =
        i.counters.flushed + i.counters.dropped + log.written.length + log.lost.length) ∧
      (Ingestor.Allocatable s.batchSize → log.lost = []) := by
  refine ⟨run.accounted, run.batches_answers, ?_, run.intact.none⟩
  intro finished
  obtain ⟨-, buffer, queue⟩ := run.emptied.ended finished
  have balance := run.accounted.submitted
  rw [run.accounted.buffered, buffer, queue] at balance
  simp only [List.length_nil] at balance
  omega

/-- Two single writes of which one is late, a batch that fails, a tick, and an event that is taken
after the request to stop. -/
def mixedFates : List Move :=
  let e (id : String) : Event := { id := id }
  [.submit (e "a") 7 50, .submit (e "b") 7 50, .submit (e "c") 8 40, .work false, .work false,
    .settle (.ofEvent (e "b") 7 51) .written, .submit (e "d") 8 60, .work false,
    .settle (.ofEvent (e "c") 8 52) .late, .answer false, .submit (e "f") 9 61, .work false,
    .work true, .stop, .submit (e "g") 9 61, .answer true, .work true, .work false, .work false]

theorem accounts_mixedFates :
    ∃ log i, Run { batchSize := 2, queueCapacity := 1 } log i ∧
      i.writing = some .ending ∧ i.counters =
        { submitted := 5, flushed := 1, dropped := 2, flushes := 2, failedFlushes := 1,
          singleWrites := 2, buffered := 1 } ∧
      i.counters.submitted = log.written.length + i.queue.length + i.counters.buffered +
        i.counters.flushed + i.counters.dropped := by
  obtain ⟨log, i, run, writing, counters⟩ :
      ∃ log i, Run { batchSize := 2, queueCapacity := 1 } log i ∧ i.writing = some .ending ∧
        i.counters = { submitted := 5, flushed := 1, dropped := 2, flushes := 2, failedFlushes := 1,
                       singleWrites := 2, buffered := 1 } :=
    ⟨_, _, .of_moves mixedFates rfl, rfl, rfl⟩
  obtain ⟨accounted, -, -, none⟩ := run.accounts
  have balance := accounted.submitted
  rw [none (by decide), List.length_nil, Nat.add_zero] at balance
  exact ⟨log, i, run, writing, counters, balance⟩

/-- An event comes before the worker's first turn, in which no memory can hold a batch. -/
def hugeBatch : IngestSettings := { batchSize := UInt64.size - 1 }

def beforeTheFirstTurn : List Move := [.submit { id := "a" } 7 50, .work false]

/-- The event counts as submitted, and in no other way. -/
theorem uncounted_hugeBatch :
    ∃ log i, Run hugeBatch log i ∧ i.phase = .ended ∧
      i.counters.submitted ≠ log.written.length + i.queue.length + i.counters.buffered +
        i.counters.flushed + i.counters.dropped := by
  have run : Run hugeBatch _ _ := .of_moves beforeTheFirstTurn rfl
  exact ⟨_, _, run, rfl, by decide⟩

end RelayStore.Ingest

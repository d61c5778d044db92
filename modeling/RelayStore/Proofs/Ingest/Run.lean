import RelayStore.Ingest.Ingestor
import Mathlib.Data.List.Basic

/-! Runs of an ingestor. Callers submit, the worker takes its steps and the store answers in any
order, and of every move a notice is kept. Code between two waits is one move. -/
namespace RelayStore
namespace Ingest

/-- How a write of a single row ends for the caller that waits for it. -/
inductive Outcome where
  | written
  | failed
  /-- The deadline came first. -/
  | late
  deriving DecidableEq, Repr

/-- What can happen next. -/
inductive Move where
  | submit (e : Event) (receivedAt : UInt32) (micros : Int)
  | work (tickDue : Bool)
  | answer (ok : Bool)
  | settle (row : EventRow) (outcome : Outcome)
  | stop
  deriving DecidableEq, Repr

/-- What is seen of a move. A submission that finds the queue full writes its row by itself. -/
inductive Notice where
  | submitted (e : Event) (row : EventRow) (answer : Submission)
  /-- A step of the worker that asks nothing of the store. -/
  | worked (step : Step)
  /-- A step of the worker that gives a batch to the store. -/
  | batch (step : Step) (rows : List EventRow)
  /-- The worker cannot have its buffer, and these rows of the queue are lost. -/
  | brokeOff (rows : List EventRow)
  | answered (rows : List EventRow) (ok : Bool)
  | settled (row : EventRow) (outcome : Outcome)
  | stopped
  deriving DecidableEq, Repr

abbrev Log := List Notice

end Ingest

open Ingest

namespace Ingestor

/-- The row that a submission makes. -/
def rowOf (i : Ingestor) (e : Event) (receivedAt : UInt32) (micros : Int) : EventRow :=
  .ofEvent e receivedAt (i.clock.next micros).1

/-- What a worker's step is seen as. -/
def noticeOf (i : Ingestor) (step : Step) : Notice :=
  if step = .allocate ∧ ¬ Allocatable i.batchSize then .brokeOff i.queue
  else if (i.step step).writing.isSome then .batch step (i.step step).buffer
  else .worked step

/-- A move with its notice. Where it cannot happen there is none: the store answers what it was
asked, and the worker does what comes next. -/
def move? (i : Ingestor) : Move → Option (Notice × Ingestor)
  | .submit e receivedAt micros =>
    let (answer, j) := i.submit e receivedAt micros
    some (.submitted e (i.rowOf e receivedAt micros) answer, j)
  | .work tickDue => (i.next? tickDue).map fun step => (i.noticeOf step, i.step step)
  | .answer ok => if i.writing.isSome then some (.answered i.buffer ok, i.answered ok) else none
  | .settle row outcome =>
    if row ∈ i.alone then
      some (.settled row outcome, i.settleAlone row (decide (outcome = .written)))
    else none
  | .stop => some (.stopped, i.stop)

/-- A sequence of moves with their notices. -/
def moves? (i : Ingestor) : List Move → Option (Log × Ingestor)
  | [] => some ([], i)
  | m :: ms => do
    let (n, j) ← i.move? m
    let (log, k) ← j.moves? ms
    return (n :: log, k)

end Ingestor

namespace Ingest

/-- The states that an ingestor comes to from its start, with the notices on the way. -/
inductive Run (s : IngestSettings) : Log → Ingestor → Prop where
  | start : Run s [] (.start s)
  | next {log : Log} {i j : Ingestor} {m : Move} {n : Notice} (run : Run s log i)
      (move : i.move? m = some (n, j)) : Run s (log ++ [n]) j

theorem Run.moves {s : IngestSettings} {log log' : Log} {i j : Ingestor} {ms : List Move}
    (run : Run s log i) (h : i.moves? ms = some (log', j)) : Run s (log ++ log') j := by
  induction ms generalizing i log log' with
  | nil =>
    obtain ⟨rfl, rfl⟩ : [] = log' ∧ i = j := by simpa [Ingestor.moves?] using h
    simpa using run
  | cons m ms ih =>
    simp only [Ingestor.moves?, Option.bind_eq_bind, Option.bind_eq_some_iff, Option.pure_def,
      Option.some.injEq, Prod.mk.injEq] at h
    obtain ⟨⟨n, k⟩, hm, ⟨rest, l⟩, hs, rfl, rfl⟩ := h
    simpa using ih (run.next hm) hs

theorem Run.of_moves {s : IngestSettings} {log : Log} {i : Ingestor} (ms : List Move)
    (h : (Ingestor.start s).moves? ms = some (log, i)) : Run s log i := by
  simpa using Run.start.moves h

/-! What a move changes. -/

/-- The worker takes rows: nobody has asked for the end, or the queue is closed. -/
def Working (i : Ingestor) : Prop :=
  i.phase = .serving ∧ i.stopping = false ∨ i.phase = .draining

/-- The state after a move and its notice, written out. What is measured on the way is left open. -/
inductive Change (i : Ingestor) : Notice → Ingestor → Prop where
  | queue {e : Event} {receivedAt : UInt32} {v : Nat} {m : Measurements}
      (accepting : i.phase.isOpen) (room : i.queue.length < i.capacity)
      (newer : i.clock.last < v) :
      Change i (.submitted e (.ofEvent e receivedAt v) .queued) { i with
        clock := ⟨v⟩
        queue := i.queue ++ [.ofEvent e receivedAt v]
        counters := { i.counters with submitted := i.counters.submitted + 1 }
        measurements := m }
  | writeAlone {e : Event} {receivedAt : UInt32} {v : Nat} {m : Measurements}
      (accepting : i.phase.isOpen) (full : i.capacity ≤ i.queue.length)
      (newer : i.clock.last < v) :
      Change i (.submitted e (.ofEvent e receivedAt v) (.alone (.ofEvent e receivedAt v))) { i with
        clock := ⟨v⟩
        alone := i.alone ++ [.ofEvent e receivedAt v]
        counters := { i.counters with singleWrites := i.counters.singleWrites + 1 }
        measurements := m }
  | refuse {e : Event} {receivedAt : UInt32} {v : Nat} (shut : i.phase.isOpen = false)
      (newer : i.clock.last < v) :
      Change i (.submitted e (.ofEvent e receivedAt v) .closed) { i with clock := ⟨v⟩ }
  | allocate (idle : i.writing = none) (unstarted : i.phase = .unstarted)
      (room : Ingestor.Allocatable i.batchSize) :
      Change i (.worked .allocate) { i with phase := .serving }
  | breakOff (idle : i.writing = none) (unstarted : i.phase = .unstarted)
      (huge : ¬ Ingestor.Allocatable i.batchSize) :
      Change i (.brokeOff i.queue) { i with phase := .ended, queue := [] }
  | close (idle : i.writing = none) (serving : i.phase = .serving) (asked : i.stopping = true) :
      Change i (.worked .close) { i with phase := .draining }
  | take {row : EventRow} {rest : List EventRow} {m : Measurements} (idle : i.writing = none)
      (going : Working i)
      (first : i.queue = row :: rest) (short : i.buffer.length + 1 < i.batchSize) :
      Change i (.worked .take) { i with
        queue := rest
        buffer := i.buffer ++ [row]
        counters := { i.counters with buffered := i.buffer.length + 1 }
        measurements := m }
  | fill {row : EventRow} {rest : List EventRow} {m : Measurements} (idle : i.writing = none)
      (going : Working i)
      (first : i.queue = row :: rest) (full : i.batchSize ≤ i.buffer.length + 1) :
      Change i (.batch .take (i.buffer ++ [row])) { i with
        queue := rest
        buffer := i.buffer ++ [row]
        writing := some .size
        counters := { i.counters with buffered := i.buffer.length + 1 }
        measurements := m }
  | pass (idle : i.writing = none) (serving : i.phase = .serving) (unasked : i.stopping = false)
      (drained : i.queue = []) (empty : i.buffer = []) : Change i (.worked .tick) i
  | tick (idle : i.writing = none) (serving : i.phase = .serving) (unasked : i.stopping = false)
      (drained : i.queue = []) (held : i.buffer ≠ []) :
      Change i (.batch .tick i.buffer) { i with writing := some .tick }
  | finish (idle : i.writing = none) (draining : i.phase = .draining) (drained : i.queue = [])
      (empty : i.buffer = []) : Change i (.worked .finish) { i with phase := .ended }
  | flush (idle : i.writing = none) (draining : i.phase = .draining) (drained : i.queue = [])
      (held : i.buffer ≠ []) :
      Change i (.batch .finish i.buffer) { i with writing := some .ending }
  | answer {cause : Cause} {m : Measurements} (busy : i.writing = some cause) (ok : Bool) :
      Change i (.answered i.buffer ok) { i with
        buffer := []
        writing := none
        phase := if cause = .ending then .ended else i.phase
        counters := { i.counters with
          flushes := i.counters.flushes + 1
          flushed := i.counters.flushed + if ok then i.buffer.length else 0
          dropped := i.counters.dropped + if ok then 0 else i.buffer.length
          failedFlushes := i.counters.failedFlushes + if ok then 0 else 1
          buffered := 0 }
        measurements := m }
  | accept {row : EventRow} {m : Measurements} (pending : row ∈ i.alone) :
      Change i (.settled row .written) { i with
        alone := i.alone.erase row
        counters := { i.counters with submitted := i.counters.submitted + 1 }
        measurements := m }
  | giveUp {row : EventRow} {outcome : Outcome} (pending : row ∈ i.alone)
      (unwritten : outcome ≠ .written) :
      Change i (.settled row outcome) { i with alone := i.alone.erase row }
  | stop : Change i .stopped { i with stopping := true }

theorem Change.of_submit (i : Ingestor) (e : Event) (receivedAt : UInt32) (micros : Int) :
    Change i (.submitted e (i.rowOf e receivedAt micros) (i.submit e receivedAt micros).1)
      (i.submit e receivedAt micros).2 := by
  have newer : i.clock.last < (i.clock.next micros).1 := by
    simp only [VersionClock.next]
    omega
  cases accepting : i.phase.isOpen with
  | true =>
    by_cases room : i.queue.length < i.capacity
    · have h : i.submit e receivedAt micros = (.queued, ({ i with
          clock := (i.clock.next micros).2
          queue := i.queue ++ [i.rowOf e receivedAt micros] } : Ingestor).accept) := by
        simp [Ingestor.submit, Ingestor.rowOf, accepting, room]
      rw [h]
      exact .queue accepting room newer
    · have h : i.submit e receivedAt micros = (.alone (i.rowOf e receivedAt micros), { i with
          clock := (i.clock.next micros).2
          alone := i.alone ++ [i.rowOf e receivedAt micros]
          counters := { i.counters with singleWrites := i.counters.singleWrites + 1 }
          measurements := i.measurements.count .syncWrites 1 }) := by
        simp [Ingestor.submit, Ingestor.rowOf, accepting, room]
      rw [h]
      exact .writeAlone accepting (Nat.le_of_not_lt room) newer
  | false =>
    have h : i.submit e receivedAt micros = (.closed, { i with
        clock := (i.clock.next micros).2 }) := by
      simp [Ingestor.submit, accepting]
    rw [h]
    exact .refuse accepting newer

/-- When a step of the worker can be the next one. -/
def Ready (i : Ingestor) : Step → Prop
  | .allocate => i.phase = .unstarted
  | .close => i.phase = .serving ∧ i.stopping = true
  | .take => Working i ∧ i.queue ≠ []
  | .tick => i.phase = .serving ∧ i.stopping = false ∧ i.queue = []
  | .finish => i.phase = .draining ∧ i.queue = []

theorem next?_eq_some {i : Ingestor} {tickDue : Bool} {step : Step}
    (due : i.next? tickDue = some step) : i.writing = none ∧ Ready i step := by
  unfold Ingestor.next? at due
  split at due
  · contradiction
  next busy =>
    refine ⟨by simpa using busy, ?_⟩
    cases hp : i.phase <;> simp only [hp] at due <;> grind [Ready, Working]

theorem Change.of_allocate {i : Ingestor} (idle : i.writing = none)
    (unstarted : i.phase = .unstarted) :
    Change i (i.noticeOf .allocate) (i.step .allocate) := by
  by_cases room : Ingestor.Allocatable i.batchSize
  · simpa [Ingestor.step, Ingestor.allocate, Ingestor.noticeOf, room, idle] using
      Change.allocate idle unstarted room
  · simpa [Ingestor.step, Ingestor.allocate, Ingestor.noticeOf, room] using
      Change.breakOff idle unstarted room

theorem Change.of_take {i : Ingestor} (idle : i.writing = none) (going : Working i)
    (more : i.queue ≠ []) : Change i (i.noticeOf .take) (i.step .take) := by
  obtain ⟨row, rest, first⟩ := List.exists_cons_of_ne_nil more
  by_cases full : i.batchSize ≤ i.buffer.length + 1
  · have h : i.step .take = { i with
        queue := rest
        buffer := i.buffer ++ [row]
        writing := some .size
        counters := { i.counters with buffered := i.buffer.length + 1 }
        measurements := i.measurements.set .bufferEvents (i.buffer.length + 1) } := by
      simp [Ingestor.step, first, Ingestor.setBuffered, Ingestor.write, full]
    have hn : i.noticeOf .take = .batch .take (i.buffer ++ [row]) := by
      simp [Ingestor.noticeOf, h]
    rw [hn, h]
    exact .fill idle going first full
  · have h : i.step .take = { i with
        queue := rest
        buffer := i.buffer ++ [row]
        counters := { i.counters with buffered := i.buffer.length + 1 }
        measurements := i.measurements.set .bufferEvents (i.buffer.length + 1) } := by
      simp [Ingestor.step, first, Ingestor.setBuffered, full]
    have hn : i.noticeOf .take = .worked .take := by
      simp [Ingestor.noticeOf, h, idle]
    rw [hn, h]
    exact .take idle going first (Nat.lt_of_not_le full)

theorem Change.of_step {i : Ingestor} {tickDue : Bool} {step : Step}
    (due : i.next? tickDue = some step) : Change i (i.noticeOf step) (i.step step) := by
  obtain ⟨idle, h⟩ := next?_eq_some due
  cases step with
  | allocate => exact .of_allocate idle h
  | close =>
    simpa [Ingestor.step, Ingestor.noticeOf, idle] using Change.close idle h.1 h.2
  | take => exact .of_take idle h.1 h.2
  | tick =>
    obtain ⟨serving, unasked, drained⟩ := h
    by_cases empty : i.buffer = []
    · simpa [Ingestor.step, Ingestor.write, Ingestor.noticeOf, idle, empty] using
        Change.pass idle serving unasked drained empty
    · simpa [Ingestor.step, Ingestor.write, Ingestor.noticeOf, empty] using
        Change.tick idle serving unasked drained empty
  | finish =>
    obtain ⟨draining, drained⟩ := h
    by_cases empty : i.buffer = []
    · simpa [Ingestor.step, Ingestor.noticeOf, idle, empty] using
        Change.finish idle draining drained empty
    · simpa [Ingestor.step, Ingestor.write, Ingestor.noticeOf, empty] using
        Change.flush idle draining drained empty

theorem Change.of_answered {i : Ingestor} (busy : i.writing.isSome) (ok : Bool) :
    Change i (.answered i.buffer ok) (i.answered ok) := by
  obtain ⟨cause, busy⟩ := Option.isSome_iff_exists.mp busy
  cases ok with
  | true => simpa [Ingestor.answered, Ingestor.setBuffered, busy] using Change.answer busy true
  | false => simpa [Ingestor.answered, Ingestor.setBuffered, busy] using Change.answer busy false

theorem Change.of_settled {i : Ingestor} {row : EventRow} (pending : row ∈ i.alone)
    (outcome : Outcome) :
    Change i (.settled row outcome) (i.settleAlone row (decide (outcome = .written))) := by
  by_cases written : outcome = .written
  · subst written
    exact .accept pending
  · have h : i.settleAlone row (decide (outcome = .written)) = { i with
        alone := i.alone.erase row } := by
      simp [Ingestor.settleAlone, written]
    rw [h]
    exact .giveUp pending written

theorem Change.of_move {i j : Ingestor} {m : Move} {n : Notice} (h : i.move? m = some (n, j)) :
    Change i n j := by
  cases m with
  | submit e receivedAt micros =>
    obtain ⟨rfl, rfl⟩ := by simpa [Ingestor.move?] using h
    exact .of_submit i e receivedAt micros
  | work tickDue =>
    obtain ⟨step, due, rfl, rfl⟩ := by simpa [Ingestor.move?] using h
    exact .of_step due
  | answer ok =>
    obtain ⟨busy, rfl, rfl⟩ := by simpa [Ingestor.move?] using h
    exact .of_answered busy ok
  | settle row outcome =>
    obtain ⟨pending, rfl, rfl⟩ := by simpa [Ingestor.move?] using h
    exact .of_settled pending outcome
  | stop =>
    obtain ⟨rfl, rfl⟩ := by simpa [Ingestor.move?] using h
    exact .stop

end Ingest
end RelayStore

import RelayStore.Metric
import RelayStore.Row
import RelayStore.Settings
import RelayStore.Version

/-! Batched writing of events: a bounded queue, and a worker that moves its rows into a buffer and
the buffer into the store. Between two steps of this machine others may take theirs. -/
namespace RelayStore

namespace Ingest

structure Counters where
  /-- Events that were accepted. -/
  submitted : Nat := 0
  flushed : Nat := 0
  dropped : Nat := 0
  flushes : Nat := 0
  failedFlushes : Nat := 0
  /-- Rows written by themselves because the queue was full. -/
  singleWrites : Nat := 0
  buffered : Nat := 0
  deriving DecidableEq, Repr

inductive Phase where
  /-- The worker has not had a turn. The queue is open. -/
  | unstarted
  | serving
  /-- The queue is closed; what is left in it is still taken. -/
  | draining
  | ended
  deriving DecidableEq, Repr

/-- Whether the queue takes rows. -/
def Phase.isOpen : Phase → Bool
  | unstarted | serving => true
  | draining | ended => false

/-- Why the buffer is written. -/
inductive Cause where
  | size
  | tick
  | ending
  deriving DecidableEq, Repr

/-- What the worker does next. -/
inductive Step where
  /-- Makes the buffer. -/
  | allocate
  | close
  | take
  | tick
  | finish
  deriving DecidableEq, Repr

inductive Submission where
  | queued
  /-- The queue is full: the row has to be written by itself. -/
  | alone (row : EventRow)
  | closed
  deriving DecidableEq, Repr

end Ingest

open Ingest

structure Ingestor where
  batchSize : Nat
  capacity : Nat
  clock : VersionClock := {}
  queue : List EventRow := []
  buffer : List EventRow := []
  phase : Phase := .unstarted
  /-- Set while the store has the rows of the buffer. -/
  writing : Option Cause := none
  stopping : Bool := false
  /-- Rows that are being written by themselves. -/
  alone : List EventRow := []
  counters : Counters := {}
  measurements : Measurements := {}
  deriving DecidableEq, Repr

namespace Ingestor

/-- The most rows that a queue may be made for. -/
def largestQueue : Nat := UInt64.size / 8 - 1

/-- The bytes that a row takes in the buffer. -/
def rowRoom : Nat := 312

/-- An ingestor whose worker has not had a turn. One with a queue that cannot be made is never
started. -/
def start (s : IngestSettings) : Ingestor where
  batchSize := max s.batchSize 1
  capacity := max s.queueCapacity 1

/-- Whether a buffer of this size can be asked for at all. -/
def Allocatable (batchSize : Nat) : Prop := rowRoom * batchSize < 1 <<< 63

instance : DecidablePred Allocatable := fun n =>
  inferInstanceAs (Decidable (rowRoom * n < 1 <<< 63))

/-- Counts an accepted event. -/
def accept (i : Ingestor) : Ingestor :=
  { i with
    counters := { i.counters with submitted := i.counters.submitted + 1 }
    measurements := i.measurements.count .submitted 1 }

/-- Gives an event its version and a place in the queue, or hands it back if there is none. -/
def submit (i : Ingestor) (e : Event) (receivedAt : UInt32) (micros : Int) :
    Submission × Ingestor :=
  let (version, clock) := i.clock.next micros
  let row := EventRow.ofEvent e receivedAt version
  let i := { i with clock := clock }
  if !i.phase.isOpen then (.closed, i)
  else if i.queue.length < i.capacity then (.queued, { i with queue := i.queue ++ [row] }.accept)
  else
    (.alone row, { i with
      alone := i.alone ++ [row]
      counters := { i.counters with singleWrites := i.counters.singleWrites + 1 }
      measurements := i.measurements.count .syncWrites 1 })

/-- A row that was written by itself, in time or not. -/
def settleAlone (i : Ingestor) (row : EventRow) (written : Bool) : Ingestor :=
  let i := { i with alone := i.alone.erase row }
  if written then i.accept else i

def stop (i : Ingestor) : Ingestor := { i with stopping := true }

/-- First the buffer is made. Then the end goes before the queue, and the queue before a tick. While
a batch is written the worker waits. -/
def next? (i : Ingestor) (tickDue : Bool) : Option Step :=
  if i.writing.isSome then none
  else match i.phase with
    | .unstarted => some .allocate
    | .serving =>
      if i.stopping then some .close
      else if i.queue ≠ [] then some .take
      else if tickDue then some .tick
      else none
    | .draining => if i.queue ≠ [] then some .take else some .finish
    | .ended => none

def setBuffered (i : Ingestor) (n : Nat) : Ingestor :=
  { i with
    counters := { i.counters with buffered := n }
    measurements := i.measurements.set .bufferEvents n }

/-- Begins to write the buffer unless it is empty. -/
def write (i : Ingestor) (cause : Cause) : Ingestor :=
  if i.buffer = [] then i else { i with writing := some cause }

/-- A worker that cannot have its buffer breaks off, and the rows in the queue are lost with it. -/
def allocate (i : Ingestor) : Ingestor :=
  if Allocatable i.batchSize then { i with phase := .serving }
  else { i with phase := .ended, queue := [] }

def step (i : Ingestor) : Step → Ingestor
  | .allocate => i.allocate
  | .close => { i with phase := .draining }
  | .take =>
    match i.queue with
    | [] => i
    | row :: rest =>
      let i := { i with queue := rest, buffer := i.buffer ++ [row] }
      let i := i.setBuffered i.buffer.length
      if i.batchSize ≤ i.buffer.length then i.write .size else i
  | .tick => i.write .tick
  | .finish => if i.buffer = [] then { i with phase := .ended } else i.write .ending

/-- The store has answered. A batch that failed is lost. -/
def answered (i : Ingestor) (ok : Bool) : Ingestor :=
  let n := i.buffer.length
  let c := i.counters
  let m := (i.measurements.count .flushes 1).sample .flushDuration
  let ended := decide (i.writing = some .ending)
  let i := if ok then { i with
      counters := { c with flushes := c.flushes + 1, flushed := c.flushed + n }
      measurements := m.count .flushed n }
    else { i with
      counters := { c with flushes := c.flushes + 1, dropped := c.dropped + n
                           failedFlushes := c.failedFlushes + 1 }
      measurements := (m.count .flushErrors 1).count .dropped n }
  { i with buffer := [], writing := none, phase := if ended then .ended else i.phase }.setBuffered 0

end Ingestor
end RelayStore

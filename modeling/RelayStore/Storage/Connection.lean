import RelayStore.Hot.Refresh
import RelayStore.Ingest.Ingestor
import RelayStore.Server.Client
import RelayStore.Storage.Outcome
import RelayStore.Ticker

/-! Storage on a database server, for one caller at a time. -/
namespace RelayStore.Storage
open Server

/-- The worker that writes events, with its ticks. -/
structure Worker where
  ingest : Ingestor
  ticker : Ticker
  deriving DecidableEq, Repr

/-- The way to the database server, and the time. -/
structure Surroundings (m : Type → Type) where
  transport : Transport m
  /-- Microseconds since 1970. -/
  clock : m Nat
  /-- The value of a computation, unless it takes too long. -/
  within : {α : Type} → Decimal.Span → m α → m (Option α)

structure Connection (m : Type → Type) extends Surroundings m where
  client : Client
  queryTimeout : Option Decimal.Span := none
  writeTimeout : Decimal.Span := .ofSecs 30

namespace Connection
variable {m : Type → Type} [Monad m]

/-- A call that ends in time or fails. -/
def limited {α : Type} (c : Connection m) (operation : String) (limit : Option Decimal.Span)
    (call : m (Except Error α)) : m (Except Error α) :=
  match limit with
  | none => call
  | some limit => do
    match ← c.within limit call with
    | some r => pure r
    | none => pure (.error (.timeout operation limit))

def query (c : Connection m) (f : Filter) : m (Except Error (List Event)) := do
  let p := Plan.ofFilter f
  let rows ← c.limited "query" c.queryTimeout (c.client.query c.transport p)
  pure (queryOutcome p rows)

def count (c : Connection m) (f : Filter) : m (Except Error EventCount) := do
  let p := Plan.ofFilter f
  let n ← c.limited "count" c.queryTimeout (c.client.count c.transport p p.unconstrained)
  pure (countOutcome p n)

def ping (c : Connection m) (limit : Option Decimal.Span) : m (Except Error Unit) := do
  let r ← c.limited "ping" limit (c.client.ping c.transport)
  pure (pingOutcome r)

def seconds (micros : Nat) : UInt32 := .ofNat (min (micros / 1000000) (UInt32.size - 1))

/-- Ranks the posts of the window anew, and gives their number. -/
def refresh (c : Connection m) (s : HotSettings) (runs : VersionClock) :
    m (Except Error Nat × VersionClock) := do
  let micros ← c.clock
  match ← c.client.engagement c.transport (Hot.horizon s (seconds micros)) with
  | .error e => pure (.error (Hot.readFailure e), runs)
  | .ok rows =>
    let (r, runs) := Hot.replacement s runs micros (seconds micros) rows
    match ← c.client.replaceHot c.transport r.rows r.runId r.horizon with
    | .error e => pure (.error (Hot.replaceFailure e), runs)
    | .ok () => pure (.ok r.rows.length, runs)

/-! Saving. The worker has its turn after every event. -/

def startWorker (c : Connection m) (s : IngestSettings) : m Worker := do
  let period := max s.flushInterval.millis 1
  let micros ← c.clock
  pure ⟨.start s, ⟨period, micros / 1000 + period⟩⟩

/-- Writes the buffer. One written because of its size starts the interval anew. -/
def write (c : Connection m) (now : Nat) (w : Worker) : m Worker := do
  let r ← c.client.insert c.transport w.ingest.buffer
  let bySize := decide (w.ingest.writing = some .size)
  pure ⟨w.ingest.answered r.isOk, if bySize then w.ticker.reset now else w.ticker⟩

/-- A step of the worker. What it gives to the store is written at once. -/
def turn (c : Connection m) (now : Nat) (step : Ingest.Step) (w : Worker) : m Worker :=
  let ticker := if step = .tick then w.ticker.tick .delay now else w.ticker
  let w : Worker := ⟨w.ingest.step step, ticker⟩
  if w.ingest.writing.isSome then c.write now w else pure w

/-- Runs the worker until it has to wait. -/
def work (c : Connection m) (now : Nat) : Nat → Worker → m Worker
  | 0, w => pure w
  | fuel + 1, w =>
    match w.ingest.next? (w.ticker.due ≤ now) with
    | none => pure w
    | some step => do
      let w ← c.turn now step w
      c.work now fuel w

/-- Steps enough for everything that is queued, a tick and the end. -/
def workFuel (w : Worker) : Nat := w.ingest.queue.length + 8

def save (c : Connection m) (w : Worker) (e : Event) : m (Except Error Unit × Worker) := do
  let micros ← c.clock
  let now := micros / 1000
  let (submission, ingest) := w.ingest.submit e (seconds micros) micros
  let w := { w with ingest := ingest }
  match submission with
  | .closed => pure (.error .ingestClosed, w)
  | .queued => do
    let w ← c.work now (workFuel w) w
    pure (.ok (), w)
  | .alone row => do
    let r ← c.limited "insert" c.writeTimeout (c.client.insert c.transport [row])
    let w := { w with ingest := w.ingest.settleAlone row r.isOk }
    pure (r.mapError fun e => e.during Table.events.name "insert", w)

def saveAll (c : Connection m) : List Event → Worker → m Worker
  | [], w => pure w
  | e :: rest, w => do
    let (_, w) ← c.save w e
    c.saveAll rest w

/-- Writes what is left. -/
def close (c : Connection m) (w : Worker) : m Worker := do
  let micros ← c.clock
  c.work (micros / 1000) (workFuel w) { w with ingest := w.ingest.stop }

end Connection
end RelayStore.Storage

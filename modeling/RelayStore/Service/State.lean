import RelayStore.Service.Alarm
import RelayStore.Service.Job
import RelayStore.Ticker

/-! The running service: the worker, the ranking of hot posts and the jobs of callers. -/
namespace RelayStore

namespace Service

/-- A ticker, with the alarm for its next tick once somebody waits for it. -/
structure Ticking where
  ticker : Ticker
  alarm : Option Nat := none
  deriving DecidableEq, Repr

/-- A task that refreshes the ranking at its interval. -/
structure RankingTask where
  ticking : Ticking
  reading : Option (UInt32 × Read) := none
  /-- A replacement whose answer is held back, with its ticket. -/
  replacing : Option (Except Error Nat × Nat) := none
  stopping : Bool := false
  /-- Set at the end: whether it came because the task was asked to stop. -/
  ended : Option Bool := none
  deriving Repr

inductive JobState where
  | running (j : Job)
  | over (r : Except Error Result)

end Service

open Service

/-- Times are milliseconds since the start. The wall clock is read apart from them. -/
structure Service where
  settings : StorageSettings
  wallSeconds : UInt32
  wallMicros : Int
  now : Nat := 0
  alarms : Alarms := {}
  store : MemoryStore := {}
  ingest : Ingestor
  ticking : Ticking
  /-- The worker waits for an event, a tick or the end. -/
  idle : Bool := false
  /-- A new event wakes the worker. -/
  listening : Bool := false
  /-- The batch that is being written. -/
  batch : Option Nat := none
  rankings : List RankingTask := []
  /-- The task that a stop is for: the one that was started last. -/
  ranking : Option Nat := none
  runs : VersionClock := {}
  /-- Whether somebody already waits for the worker to end, and who. -/
  ending : Option TaskId := none
  cancelled : List String := []
  jobs : List (String × JobState) := []
  ready : List TaskId := [.worker]
  /-- The tasks that go on when the others have had their turn. -/
  deferred : List TaskId := []
  measurements : Measurements := {}

namespace Service

def start (settings : StorageSettings) (wallSeconds : UInt32) (wallMicros : Int) : Service :=
  let period := max settings.ingest.flushInterval.millis 1
  { settings := settings
    wallSeconds := wallSeconds
    wallMicros := wallMicros
    ingest := .start settings.ingest
    ticking := ⟨⟨period, period⟩, none⟩ }

/-- Lets a task run, after those that are already to run. -/
def wake (s : Service) (t : TaskId) : Service :=
  if t ∈ s.ready then s else { s with ready := s.ready ++ [t] }

def wakeAll (s : Service) (ts : List TaskId) : Service := ts.foldl wake s

/-- The first time at which a span from now is over. -/
def after (s : Service) (limit : Decimal.Span) : Nat := s.now + (limit.nanos + 999999) / 1000000

def leaveInserts (s : Service) (ticket : Nat) (used : Bool) : Service :=
  let (owner, gate) := s.store.inserts.leave ticket used
  { s with store := { s.store with inserts := gate } }.wakeAll owner.toList

def leaveReads (s : Service) (ticket : Nat) (used : Bool) : Service :=
  let (owner, gate) := s.store.reads.leave ticket used
  { s with store := { s.store with reads := gate } }.wakeAll owner.toList

def leaveReplaces (s : Service) (ticket : Nat) (used : Bool) : Service :=
  let (owner, gate) := s.store.replaces.leave ticket used
  { s with store := { s.store with replaces := gate } }.wakeAll owner.toList

def removeAlarm (s : Service) (key : Option Nat) : Service :=
  { s with alarms := key.elim s.alarms s.alarms.remove }

/-- Waits for a tick. If it has come, the ticker goes on to the next one. -/
def awaitTick (s : Service) (owner : TaskId) (late : Ticker.Late) (t : Ticking) :
    Bool × Ticking × Service :=
  let (alarm, alarms) := match t.alarm with
    | some key => (some key, s.alarms)
    | none => s.alarms.set owner t.ticker.due
  let s := { s with alarms := alarms }
  if alarm.all alarms.hasRung then (true, ⟨t.ticker.tick late s.now, none⟩, s)
  else (false, { t with alarm := alarm }, s)

/-! The worker. -/

/-- Starts the interval anew. An alarm that has not rung is put off. -/
def restartTicks (s : Service) : Service :=
  let ticker := s.ticking.ticker.reset s.now
  match s.ticking.alarm.filter fun key => !s.alarms.hasRung key with
  | some key =>
    { s with ticking := ⟨ticker, some key⟩, alarms := s.alarms.postpone key ticker.due }
  | none =>
    let (alarm, alarms) := s.alarms.set .worker ticker.due
    { s with ticking := ⟨ticker, alarm⟩, alarms := alarms }

/-- A batch written because of its size starts the interval anew. -/
def batchAnswered (s : Service) (ok : Bool) : Service :=
  let bySize := decide (s.ingest.writing = some .size)
  let s := { s with ingest := s.ingest.answered ok, batch := none }
  if bySize then s.restartTicks else s

/-- Gives the buffer to the store. -/
def writeBatch (s : Service) : Service :=
  let (begun, store) := s.store.beginInsert .worker s.ingest.buffer
  let s := { s with store := store }
  match begun with
  | .answered r => s.batchAnswered r.isOk
  | .parked ticket => { s with batch := some ticket }

/-- Goes on when the store has let the batch through; nothing while it is held back. -/
def withBatchWritten (s : Service) : Option Service :=
  match s.batch with
  | none => some s
  | some ticket =>
    if s.store.inserts.isAdmitted ticket then
      some ((s.leaveInserts ticket true).batchAnswered true)
    else none

/-- A step of the worker, with what has to be written after it. -/
def workerStep (s : Service) (step : Ingest.Step) : Service :=
  let s := { s with ingest := s.ingest.step step }
  if s.ingest.writing.isSome then s.writeBatch else s

/-- Makes the buffer in the worker's first turn. -/
def beginWork (s : Service) : Service :=
  if s.ingest.next? false = some .allocate then s.workerStep .allocate else s

/-- Closes the queue as soon as somebody asks for the end. -/
def closeQueue (s : Service) : Service :=
  if s.ingest.next? false = some .close then s.workerStep .close else s

/-- Runs the worker until it has to wait. It takes no more than its share in one turn. -/
def runWorker (share : Nat) (s : Service) : Service :=
  match s.withBatchWritten with
  | none => s
  | some s =>
    let s := s.beginWork
    if s.ingest.phase = .ended then s.wakeAll s.ending.toList
    else match share with
    | 0 => { s with deferred := s.deferred ++ [.worker] }
    | share + 1 =>
      let s := s.closeQueue
      match s.ingest.next? false with
      | some step => runWorker share (s.workerStep step)
      | none =>
        match s.awaitTick .worker .delay s.ticking with
        | (true, ticking, s) => runWorker share ({ s with ticking := ticking }.workerStep .tick)
        | (false, ticking, s) => { s with ticking := ticking, idle := true, listening := true }

/-- How many rows and ticks a task takes before the others have their turn. -/
def taskShare : Nat := 128

/-! Reads. -/

/-- Goes on with a read, and gives its outcome if there is one. -/
def read (s : Service) (owner : TaskId) (r : Read) :
    Service × Read × Option (Except Error Answer) :=
  let cancelled := r.guard.token.any fun t => s.cancelled.contains t
  match r.place with
  | .parked ticket alarm =>
    let answer :=
      if s.store.reads.isAdmitted ticket then some (s.store.answer ticket r.request) else none
    match r.guard.outcome cancelled answer (alarm.any s.alarms.hasRung) with
    | some o => ((s.removeAlarm alarm).leaveReads ticket (answer.isSome && !cancelled), r, some o)
    | none => (s, r, none)
  | .unstarted =>
    if cancelled then (s, r, r.guard.outcome true none false)
    else
      let (begun, store) := s.store.beginRead owner r.request
      let s := { s with store := store }
      match begun with
      | .answered a => (s, r, r.guard.outcome false (some a) false)
      | .parked ticket =>
        match r.guard.limit with
        | none => (s, { r with place := .parked ticket none }, none)
        | some limit =>
          let (alarm, alarms) := s.alarms.set owner (s.after limit)
          let s := { s with alarms := alarms }
          match r.guard.outcome false (none : Option (Except Error Answer)) alarm.isNone with
          | some o => (s.leaveReads ticket false, r, some o)
          | none => (s, { r with place := .parked ticket alarm }, none)

/-- Takes a read that nobody waits for any more out of the line. -/
def drop (s : Service) (r : Read) : Service :=
  match r.place with
  | .parked ticket alarm => (s.removeAlarm alarm).leaveReads ticket false
  | .unstarted => s

def rowsOf : Answer → List QueryRow
  | .rows rows => rows
  | _ => []

def numberOf : Answer → Nat
  | .number n => n
  | _ => 0

def engagementOf : Answer → List Engagement
  | .engagement rows => rows
  | _ => []

def measured (s : Service) (p : Plan) (o : Except Error Answer) : Service :=
  { s with measurements := Storage.measure s.measurements p o.isOk }

/-- A query that is over. -/
def finishQuery (s : Service) (p : Plan) (o : Except Error Answer) :
    Service × Except Error (List Event) :=
  let s := s.measured p o
  let rows := o.map rowsOf
  let s := match rows with
    | .ok rows => { s with measurements := Storage.measureRows s.measurements rows }
    | .error _ => s
  (s, Storage.queryOutcome p rows)

/-- A refresh is over. The ranking of so many rows may be in place. -/
def ranked (s : Service) : Except Error Nat → Service
  | .ok n => { s with measurements := (s.measurements.count .hotRefreshes 1).set .hotPosts n }
  | .error _ => s

/-- How far a refresh has come when the engagement has been read: it is over, or the store holds
back its answer to the replacement. -/
inductive Replaced where
  | over (r : Except Error Nat)
  | held (answer : Except Error Nat) (ticket : Nat)

/-- What a refresh makes of the store's answer to its replacement. -/
def replaceOutcome (answer : Except Error Nat) : Except Error Nat :=
  answer.mapError Hot.replaceFailure

/-- The engagement has been read: replaces the ranking. -/
def finishRefresh (s : Service) (owner : TaskId) (now : UInt32) (o : Except Error Answer) :
    Service × Replaced :=
  match o with
  | .error e => (s, .over (.error (Hot.readFailure e)))
  | .ok a =>
    let (r, runs) := Hot.replacement s.settings.hot s.runs s.wallMicros now (engagementOf a)
    let (answer, ticket, store) := s.store.beginReplace owner r.rows r.runId r.horizon
    let s := { s with runs := runs, store := store }
    let answer := answer.map fun () => r.rows.length
    match ticket with
    | none => (s.ranked answer, .over (replaceOutcome answer))
    | some ticket => (s, .held answer ticket)

/-- The alarm of a refresh that goes on to its replacement, and whether its deadline has passed. The
alarm is the one that its read has, or is set now if the read did not have to wait. -/
def keepAlarm (s : Service) (owner : TaskId) (r : Read) : Option Nat × Bool × Alarms :=
  match r.place, r.guard.limit with
  | .parked _ alarm, _ => (alarm, alarm.any s.alarms.hasRung, s.alarms)
  | .unstarted, none => (none, false, s.alarms)
  | .unstarted, some limit =>
    let (alarm, alarms) := s.alarms.set owner (s.after limit)
    (alarm, alarm.isNone, alarms)

/-- Waits for the answer to a replacement. -/
def holdReplacement (s : Service) (owner : TaskId) (r : Read) (answer : Except Error Nat)
    (ticket : Nat) : Service × (Job ⊕ Except Error Nat) :=
  let (alarm, passed, alarms) := s.keepAlarm owner r
  let s := { s with alarms := alarms }
  match r.guard.outcome false (none : Option (Except Error Nat)) passed with
  | some o => (s.leaveReplaces ticket false, .inr o)
  | none => (s, .inl (.replacing answer { r with place := .parked ticket alarm }))

/-- Goes on with a replacement whose answer is held back. -/
def awaitReplacement (s : Service) (answer : Except Error Nat) (r : Read) :
    Service × Option (Except Error Nat) :=
  let cancelled := r.guard.token.any fun t => s.cancelled.contains t
  match r.place with
  | .unstarted => (s, none)
  | .parked ticket alarm =>
    let told :=
      if s.store.replaces.isAdmitted ticket then some (replaceOutcome answer) else none
    match r.guard.outcome cancelled told (alarm.any s.alarms.hasRung) with
    | none => (s, none)
    | some o =>
      (((s.removeAlarm alarm).leaveReplaces ticket (told.isSome && !cancelled)).ranked o, some o)

/-! The ranking tasks. -/

def setRanking (s : Service) (i : Nat) (t : RankingTask) : Service :=
  { s with rankings := s.rankings.set i t }

/-- Runs a ranking task until it has to wait. An interval of zero cannot be waited for. -/
def runRanking : Nat → Nat → Service → Service
  | 0, _, s => s
  | fuel + 1, i, s =>
    match s.rankings[i]? with
    | none => s
    | some t =>
      if t.ended.isSome then s
      else if t.ticking.ticker.period = 0 then s.setRanking i { t with ended := some false }
      else match t.replacing, t.reading with
      | some (answer, ticket), _ =>
        if s.store.replaces.isAdmitted ticket then
          let s := (s.leaveReplaces ticket true).ranked answer
          runRanking fuel i (s.setRanking i { t with replacing := none })
        else s
      | none, some (now, r) =>
        match s.read (.ranking i) r with
        | (s, r, none) => s.setRanking i { t with reading := some (now, r) }
        | (s, _, some o) =>
          match s.finishRefresh (.ranking i) now o with
          | (s, .over _) => runRanking fuel i (s.setRanking i { t with reading := none })
          | (s, .held answer ticket) =>
            s.setRanking i { t with reading := none, replacing := some (answer, ticket) }
      | none, none =>
        if t.stopping then
          (s.removeAlarm t.ticking.alarm).setRanking i { t with ended := some true }
        else match s.awaitTick (.ranking i) .skip t.ticking with
        | (false, ticking, s) => s.setRanking i { t with ticking := ticking }
        | (true, ticking, s) =>
          let now := s.wallSeconds
          let horizon := Hot.horizon s.settings.hot now
          let r : Read := ⟨⟨"", none, none⟩, .engagement horizon, .unstarted⟩
          runRanking fuel i (s.setRanking i { t with ticking := ticking, reading := some (now, r) })

/-! Jobs. -/

/-- A row written by itself is over, in time or not. -/
def aloneOver (s : Service) (row : EventRow) (ok : Bool) : Service :=
  { s with ingest := s.ingest.settleAlone row ok }

def writeTimeout (s : Service) : Error := .timeout "insert" s.settings.ingest.writeTimeout

/-- Submits an event. Where the queue is full it is written by itself, under a deadline. -/
def submit (s : Service) (owner : TaskId) (e : Event) :
    Service × (AloneWrite ⊕ Except Error Unit) :=
  let (submission, ingest) := s.ingest.submit e s.wallSeconds s.wallMicros
  let s := { s with ingest := ingest }
  match submission with
  | .queued =>
    (if s.listening then { s with listening := false }.wake .worker else s, .inr (.ok ()))
  | .closed => (s, .inr (.error .ingestClosed))
  | .alone row =>
    let (begun, store) := s.store.beginInsert owner [row]
    let s := { s with store := store }
    match begun with
    | .answered (.ok ()) => (s.aloneOver row true, .inr (.ok ()))
    | .answered (.error e) => (s.aloneOver row false, .inr (.error (e.during "events" "insert")))
    | .parked ticket =>
      match s.alarms.set owner (s.after s.settings.ingest.writeTimeout) with
      | (none, _) =>
        ((s.leaveInserts ticket false).aloneOver row false, .inr (.error s.writeTimeout))
      | (some alarm, alarms) => ({ s with alarms := alarms }, .inl ⟨row, ticket, alarm⟩)

/-- Saves one event after the other until one has to wait. -/
def saveAll (owner : TaskId) :
    List (Nat × Event) → List (Nat × Error) → Service → Service × (Job ⊕ List (Nat × Error))
  | [], failed, s => (s, .inr failed)
  | (i, e) :: rest, failed, s =>
    match s.submit owner e with
    | (s, .inl w) => (s, .inl (.save ((i, e) :: rest) (some w) failed))
    | (s, .inr (.ok ())) => saveAll owner rest failed s
    | (s, .inr (.error error)) => saveAll owner rest (failed ++ [(i, error)]) s

/-- Up to so many queries the first failure that is seen ends them all. Of more, a failure counts
when all queries before it are over. -/
def looseParts : Nat := 30

/-- Goes on with the queries of several filters, each in its turn. `counts` says whether a failure
of the first one ends them all. -/
def readParts (owner : TaskId) (ordered : Bool) :
    (counts : Bool) → List Part → Service → Service × Except Error (List Part)
  | _, [], s => (s, .ok [])
  | counts, .over events :: rest, s =>
    let (s, parts) := readParts owner ordered counts rest s
    (s, parts.map (.over events :: ·))
  | counts, .failed e :: rest, s =>
    if counts then ((Job.queries rest).reads.foldl drop s, .error e)
    else
      let (s, parts) := readParts owner ordered counts rest s
      (s, parts.map (.failed e :: ·))
  | counts, .running p r :: rest, s =>
    match s.read owner r with
    | (s, r, none) =>
      match readParts owner ordered (!ordered) rest s with
      | (s, .ok parts) => (s, .ok (.running p r :: parts))
      | (s, .error e) => (s.drop r, .error e)
    | (s, _, some o) =>
      match s.finishQuery p o with
      | (s, .ok events) =>
        let (s, parts) := readParts owner ordered counts rest s
        (s, parts.map (.over events :: ·))
      | (s, .error e) =>
        if counts then ((Job.queries rest).reads.foldl drop s, .error e)
        else
          let (s, parts) := readParts owner ordered counts rest s
          (s, parts.map (.failed e :: ·))

def eventsOf (parts : List Part) : Option (List (List Event)) :=
  parts.mapM fun
    | .over events => some events
    | _ => none

/-- Asks the worker to end. Only the first that asks waits for it. -/
def stop (s : Service) (owner : TaskId) : Service × Bool :=
  let s := { s with ingest := s.ingest.stop }
  let s := if s.idle then s.wake .worker else s
  if s.ending.isSome ∨ s.ingest.phase = .ended then (s, false)
  else ({ s with ending := some owner }, true)

/-- Goes on with a job, and gives its result if there is one. -/
def run (s : Service) (owner : TaskId) : Job → Service × JobState
  | .save todo (some w) failed =>
    if s.store.inserts.isAdmitted w.ticket then
      let s := ((s.removeAlarm w.alarm).leaveInserts w.ticket true).aloneOver w.row true
      match saveAll owner (todo.drop 1) failed s with
      | (s, .inl j) => (s, .running j)
      | (s, .inr failed) => (s, .over (.ok (.saved failed)))
    else if s.alarms.hasRung w.alarm then
      let s := (s.leaveInserts w.ticket false).aloneOver w.row false
      let failed := failed ++ (todo.take 1).map fun (i, _) => (i, s.writeTimeout)
      match saveAll owner (todo.drop 1) failed s with
      | (s, .inl j) => (s, .running j)
      | (s, .inr failed) => (s, .over (.ok (.saved failed)))
    else (s, .running (.save todo (some w) failed))
  | .save todo none failed =>
    match saveAll owner todo failed s with
    | (s, .inl j) => (s, .running j)
    | (s, .inr failed) => (s, .over (.ok (.saved failed)))
  | .query p r =>
    match s.read owner r with
    | (s, r, none) => (s, .running (.query p r))
    | (s, _, some o) =>
      let (s, events) := s.finishQuery p o
      (s, .over (events.map .events))
  | .queries parts =>
    match readParts owner (decide (looseParts < parts.length)) true parts s with
    | (s, .error e) => (s, .over (.error e))
    | (s, .ok parts) =>
      match eventsOf parts with
      | some answers => (s, .over (.ok (.events (Storage.merge answers))))
      | none => (s, .running (.queries parts))
  | .count p r =>
    match s.read owner r with
    | (s, r, none) => (s, .running (.count p r))
    | (s, _, some o) =>
      (s.measured p o, .over ((Storage.countOutcome p (o.map numberOf)).map .counted))
  | .ping r =>
    match s.read owner r with
    | (s, r, none) => (s, .running (.ping r))
    | (s, _, some o) => (s, .over ((Storage.pingOutcome (o.map fun _ => ())).map fun _ => .reached))
  | .refresh now r =>
    let alarms := s.alarms
    match s.read owner r with
    | (s, r, none) => (s, .running (.refresh now r))
    | (s, _, some o) =>
      match s.finishRefresh owner now o with
      | (s, .over n) => (s, .over (n.map .ranked))
      | (s, .held answer ticket) =>
        match { s with alarms := alarms }.holdReplacement owner r answer ticket with
        | (s, .inl j) => (s, .running j)
        | (s, .inr n) => (s, .over (n.map .ranked))
  | .replacing answer r =>
    match s.awaitReplacement answer r with
    | (s, none) => (s, .running (.replacing answer r))
    | (s, some n) => (s, .over (n.map .ranked))
  | .health method r =>
    match s.read owner r with
    | (s, r, none) => (s, .running (.health method r))
    | (s, _, some o) =>
      let response := Http.health (Storage.pingOutcome (o.map fun _ => ()))
      (s, .over (.ok (.response (response.forMethod method))))
  | .stats method => (s, .over (.ok (.response ((Http.stats s.ingest.counters).forMethod method))))
  | .respond r => (s, .over (.ok (.response r)))
  | .close =>
    match s.stop owner with
    | (s, true) => (s, .running .awaitEnd)
    | (s, false) => (s, .over (.ok .closed))
  | .awaitEnd =>
    (s, if s.ingest.phase = .ended then .over (.ok .closed) else .running .awaitEnd)
  | .awaitRanking i =>
    match s.rankings[i]?.bind RankingTask.ended with
    | some ok => (s, .over (.ok (.joined ok)))
    | none => (s, .running (.awaitRanking i))

end Service
end RelayStore

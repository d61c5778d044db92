import RelayStore.Service.State

/-! Which task runs when. One task runs at a time, until it has to wait; the clock stands still
while any task can run. -/
namespace RelayStore.Service

/-- Runs one task. -/
def runTask (s : Service) : TaskId → Service
  | .worker => runWorker taskShare { s with idle := false }
  | .ranking i => runRanking 64 i s
  | .foreground => s
  | .call i =>
    match s.jobs[i]? with
    | some (name, .running j) =>
      let (s, state) := s.run (.call i) j
      { s with jobs := s.jobs.set i (name, state) }
    | _ => s

/-- No task can run, and no alarm is to be looked at. -/
def quiet (s : Service) : Bool := s.ready = [] && s.deferred = [] && s.alarms.seen = s.now

/-- Looks at the alarms up to now. The tasks that rang go before those that let others go first. -/
def lookAtAlarms (s : Service) : Service :=
  let (woken, alarms) := s.alarms.passTo s.now
  { { s with alarms := alarms }.wakeAll (woken ++ s.deferred) with deferred := [] }

/-- Runs the tasks that can run, in the order in which they were woken. -/
def settle : Nat → Service → Service
  | 0, s => s
  | fuel + 1, s =>
    if s.quiet then s
    else match s.ready with
    | [] => settle fuel s.lookAtAlarms
    | t :: rest => settle fuel ({ s with ready := rest }.runTask t)

/-- How many steps a caller is waited for. -/
def patience : Nat := 1000000

def settled (s : Service) : Service := settle patience s

/-- Lets time pass at once. -/
def advance (s : Service) (millis : Nat) : Service := { s with now := s.now + millis }.settled

/-- Runs a job to its end. Other tasks run only while it waits, and the clock moves to the next
alarm only when no task can run. -/
def await : Nat → Service → Job → Service × Option (Except Error Result)
  | 0, s, _ => (s, none)
  | fuel + 1, s, j =>
    match s.run .foreground j with
    | (s, .over r) => (s, some r)
    | (s, .running j) =>
      if !s.quiet then await fuel s.settled j
      else match s.alarms.next? with
        | none => (s, none)
        | some t => await fuel { s with now := max s.now t }.lookAtAlarms j

/-- The result of a job that its caller waits for. If time has passed everything runs that can. -/
def call (s : Service) (j : Job) : Service × Option (Except Error Result) :=
  let (after, r) := await patience s j
  (if after.now = s.now then after else after.settled, r)

/-- Starts a job in the background, under a name. -/
def spawn (s : Service) (name : String) (j : Job) : Service :=
  let id := s.jobs.length
  ({ s with jobs := s.jobs ++ [(name, JobState.running j)] }.wake (.call id)).settled

/-- The result of a background job, if it is over. -/
def result? (s : Service) (name : String) : Option (Except Error Result) :=
  match s.jobs.reverse.find? fun j => j.1 = name with
  | some (_, .over r) => some r
  | _ => none

/-- Cancels a token for good. -/
def cancel (s : Service) (token : String) : Service :=
  let waits : JobState → Bool
    | .running j => j.reads.any fun r => r.guard.token = some token
    | .over _ => false
  let waiting := (s.jobs.zipIdx.filter fun j => waits j.1.2).map fun j => TaskId.call j.2
  { s with cancelled := token :: s.cancelled }.wakeAll waiting

/-- Admits inserts that are held back. -/
def releaseInserts (s : Service) (n : Nat) : Service :=
  let (owners, gate) := Gate.release n s.store.inserts
  { s with store := { s.store with inserts := gate } }.wakeAll owners

def releaseReads (s : Service) (n : Nat) : Service :=
  let (owners, gate) := Gate.release n s.store.reads
  { s with store := { s.store with reads := gate } }.wakeAll owners

/-- Starts a ranking task. Those that run already go on. -/
def startRanking (s : Service) : Service :=
  let i := s.rankings.length
  let period := s.settings.hot.refreshInterval.millis
  ({ s with
    rankings := s.rankings ++ [({ ticking := ⟨⟨period, s.now⟩, none⟩ } : RankingTask)]
    ranking := some i }.wake (.ranking i)).settled

/-- Asks the ranking task that was started last to end, and waits for it. -/
def stopRanking (s : Service) : Service × Option (Except Error Result) :=
  match s.ranking with
  | none => (s, some (.ok (.joined false)))
  | some i =>
    let s := { s with
      rankings := s.rankings.modify i fun t => { t with stopping := true }
      ranking := none }
    (s.wake (.ranking i)).call (.awaitRanking i)

/-- Everything that was measured. -/
def allMeasurements (s : Service) : Measurements := s.ingest.measurements.merge s.measurements

end RelayStore.Service

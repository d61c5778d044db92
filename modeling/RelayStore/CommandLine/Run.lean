import RelayStore.CommandLine.Arguments
import RelayStore.CommandLine.Dotenv
import RelayStore.Filter.Reader
import RelayStore.Http
import RelayStore.Import.Run
import RelayStore.Storage.Connection

/-! What the program does for its arguments. -/
namespace RelayStore.CommandLine
open Server Storage

/-- Why a command failed. -/
inductive Failure where
  | dotenv (r : Dotenv.Refusal)
  /-- The file of variables cannot be read as a file. -/
  | dotenvBarred (reason : String)
  | settings (e : Error)
  /-- A queue larger than any that can be made. -/
  | queue (capacity : Nat)
  | filter (e : Error)
  | ranking (e : Error)
  | binding (address : String)
  | storage (e : Error)
  /-- The program goes on for ever, and nobody hears of it. -/
  | endless
  deriving DecidableEq, Repr

namespace Failure

def message : Failure → String
  | dotenv r => r.message
  | dotenvBarred reason => reason
  | settings _ => "Invalid configuration"
  | queue capacity => "a queue cannot hold " ++ toString capacity ++ " events"
  | filter _ => "Invalid filter"
  | ranking _ => "Hot posts refresh failed"
  | binding address => "Failed to bind " ++ address
  | storage e => e.message
  | endless => ""

/-- The messages behind that of the failure, the nearest first. -/
def causes : Failure → List String
  | settings e | filter e | ranking e => e.message :: e.causes
  | storage e => e.causes
  | _ => []

/-- Whether the program breaks off instead of reporting the failure. -/
def isFatal : Failure → Bool
  | dotenv (.nul _) | queue _ => true
  | _ => false

end Failure

/-- How the program ends. -/
structure Outcome where
  /-- There is none if it does not end. -/
  exit : Option Nat
  output : List String := []
  failure : Option Failure := none
  /-- The file of variables that was read. -/
  loaded : Option String := none
  deriving DecidableEq, Repr

/-- What a server does as long as it runs. -/
structure Duty (m : Type → Type) where
  /-- Answers a method and a target. -/
  respond : String → String → m Http.Response
  refresh : VersionClock → m VersionClock
  refreshInterval : Decimal.Span

/-- What the program runs on. -/
structure Machine (m : Type → Type) extends Surroundings m where
  environment : Environment
  files : FileTree
  /-- Serves at an address until a signal comes; false if it cannot be listened on. -/
  serve : String → Duty m → m Bool

variable {m : Type → Type} [Monad m]

abbrev Answer := Except Failure (List String)

def eventLines (events : List Event) : List String := events.map Event.text

def countLine (c : EventCount) : String :=
  (Json.Value.object [("count", .nat c.count), ("approximate", .bool c.approximate)]).text

def readFilter (text : String) : Except Failure Filter := (Filter.parse text).mapError .filter

def query (c : Connection m) (text : String) : m Answer :=
  match readFilter text with
  | .error e => pure (.error e)
  | .ok f => do
    let events ← c.query f
    pure ((events.map eventLines).mapError .storage)

def count (c : Connection m) (text : String) : m Answer :=
  match readFilter text with
  | .error e => pure (.error e)
  | .ok f => do
    let n ← c.count f
    pure ((n.map fun n => [countLine n]).mapError .storage)

def refreshHot (c : Connection m) (s : HotSettings) : m Answer := do
  let (r, _) ← c.refresh s {}
  pure ((r.map fun _ => []).mapError .ranking)

/-- Keeps every event. -/
def collect : Import.Handler (List Event) := fun e seen => (.ok true, e :: seen)

/-- Saves events. The worker is asked to end if no more will come. -/
def saveEvents (c : Connection m) (s : IngestSettings) (events : List Event) (ends : Bool) :
    m Worker := do
  let w ← c.startWorker s
  let w ← c.saveAll events w
  if ends then c.close w else pure w

/-- Saves the events that can be read, also if the import fails in the end. Events that cannot be
saved are passed over. -/
def importFiles (c : Connection m) (files : FileTree) (s : IngestSettings) (input : String)
    (o : Import.Options) : m Answer := do
  let (r, events) := Import.run o files input collect []
  let _ ← saveEvents c s events.reverse r.isSome
  pure (match r with
    | none => .error .endless
    | some r => (r.map fun _ => []).mapError .storage)

def respond (c : Connection m) (method target : String) : m Http.Response :=
  match Http.route method target with
  | .health => do
    let r ← c.ping (some Http.pingLimit)
    pure ((Http.health r).forMethod method)
  | .stats => pure ((Http.stats {}).forMethod method)
  | .unknown => pure ⟨404, ""⟩
  | .notAllowed => pure ⟨405, ""⟩

def serve (machine : Machine m) (c : Connection m) (s : Settings) : m Answer := do
  let refresh (runs : VersionClock) : m VersionClock := do
    let (_, runs) ← c.refresh s.storage.hot runs
    pure runs
  let served ← machine.serve s.bindAddress ⟨respond c, refresh, s.hotRefreshInterval⟩
  pure (if served then .ok [] else .error (.binding s.bindAddress))

def command (machine : Machine m) (s : Settings) : Command → m Answer :=
  let c : Connection m := {
    machine.toSurroundings with
    client := ⟨s.databaseUrl, s.database⟩
    queryTimeout := s.storage.queryTimeout
    writeTimeout := s.storage.ingest.writeTimeout }
  fun
  | .serve => serve machine c s
  | .query text => query c text
  | .count text => count c text
  | .refreshHot => refreshHot c s.storage.hot
  | .importFiles input skipValidation stopOnError limit =>
    importFiles c machine.files s.storage.ingest input ⟨!skipValidation, !stopOnError, limit⟩

/-- Adds the variables of a file to the environment, if there is such a file. -/
def loadDotenv (env : Environment) (files : FileTree) (path : String) :
    Except Failure (Environment × Option String) :=
  match files.locate path with
  | none => .ok (env, none)
  | some names =>
    if ¬ files.isThere names then .ok (env, none)
    else match files.barred? names, files.contents? names with
      | some reason, _ => .error (.dotenvBarred reason)
      | none, some bytes =>
        ((Dotenv.load env bytes).map fun env => (env, some path)).mapError .dotenv
      | none, none => .error (.dotenvBarred "Is a directory (os error 21)")

/-- The path of the file of variables: that of the option, of the environment, or the usual one. -/
def dotenvPath? (env : Environment) : Option String → Option String
  | some path => some path
  | none => if env.any fun v => v.1 = "DOTENV_PATH" then env.text? "DOTENV_PATH" else some ".env"

def ended (loaded : Option String) : Answer → Outcome
  | .ok lines => ⟨some 0, lines, none, loaded⟩
  | .error .endless => ⟨none, [], none, loaded⟩
  | .error f => if f.isFatal then ⟨some 101, [], none, loaded⟩ else ⟨some 1, [], some f, loaded⟩

def runCommand (machine : Machine m) (path : String) (c : Command) : m Outcome :=
  match loadDotenv machine.environment machine.files path with
  | .error f => pure (ended none (.error f))
  | .ok (env, loaded) =>
    match Settings.ofEnvironment env with
    | .error e => pure (ended loaded (.error (.settings e)))
    | .ok s =>
      if Ingestor.largestQueue < s.queueCapacity then
        pure (ended loaded (.error (.queue s.queueCapacity)))
      else do
        let a ← command machine s c
        pure (ended loaded a)

/-- Runs the program. Wrong usage ends with 2, a failure with 1, and a fatal one with 101. -/
def run (machine : Machine m) (args : List String) : m Outcome :=
  match Usage.ofArguments args with
  | .wrong => pure { exit := some 2 }
  | .help t => pure { exit := some 0, output := t.page machine.environment }
  | .version => pure { exit := some 0, output := [programName ++ " " ++ Http.version] }
  | .run dotenv c =>
    match dotenvPath? machine.environment dotenv with
    | none => pure { exit := some 2 }
    | some path => runCommand machine path c

end RelayStore.CommandLine

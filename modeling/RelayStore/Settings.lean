import RelayStore.Error
import RelayStore.Text.Blank

/-! The settings of the service, read from the environment. -/
namespace RelayStore

/-- Variables with the bytes they are set to. -/
abbrev Environment := List (String × List UInt8)

/-- The text of a variable. One that is not UTF-8 counts as unset. -/
def Environment.text? (env : Environment) (key : String) : Option String := do
  let (_, bytes) ← env.find? fun v => v.1 = key
  String.fromUTF8? ⟨bytes.toArray⟩

structure IngestSettings where
  batchSize : Nat := 1000
  flushInterval : Decimal.Span := .ofSecs 1
  queueCapacity : Nat := 4096
  /-- How long an event may take that is written by itself because the queue is full. -/
  writeTimeout : Decimal.Span := .ofSecs 30
  deriving DecidableEq, Repr

structure HotSettings where
  window : Decimal.Span := .ofSecs (48 * 3600)
  maxPosts : Nat := 1000
  refreshInterval : Decimal.Span := .ofSecs 300
  deriving DecidableEq, Repr

structure StorageSettings where
  ingest : IngestSettings := {}
  hot : HotSettings := {}
  /-- How long a read may take that does not say so itself. -/
  queryTimeout : Option Decimal.Span := none
  deriving DecidableEq, Repr

structure Settings where
  databaseUrl : String := "http://localhost:8123"
  database : String := "nostr"
  batchSize : Nat := 1000
  flushInterval : Decimal.Span := .ofMillis 1000
  queueCapacity : Nat := 4096
  queryTimeout : Option Decimal.Span := some (.ofSecs 30)
  hotRefreshInterval : Decimal.Span := .ofSecs 300
  hotMaxPosts : Nat := 1000
  statsInterval : Option Decimal.Span := some (.ofSecs 30)
  bindAddress : String := "0.0.0.0:8080"
  metricsPort : Nat := 9090
  deriving DecidableEq, Repr

namespace Settings

/-- An unsigned decimal below a bound, with or without a plus sign. -/
def readNat? (bound : Nat) (text : List Char) : Option Nat :=
  let digits := match text with
    | '+' :: rest => rest
    | _ => text
  if digits = [] ∨ digits.any (fun c => !c.isDigit) then none
  else
    let n := digits.foldl (fun n c => 10 * n + (c.toNat - 48)) 0
    if n < bound then some n else none

/-- A numeric variable; blanks around the number do not count. -/
def number (env : Environment) (key : String) (bound default : Nat) : Except Error Nat :=
  match env.text? key with
  | none => .ok default
  | some raw =>
    match readNat? bound (Text.trimList raw.toList) with
    | some n => .ok n
    | none => .error (.config (key ++ ": invalid value " ++ Text.quoted raw))

/-- Zero seconds switch a deadline or an interval off. -/
def optionalSecs (n : Nat) : Option Decimal.Span := if n = 0 then none else some (.ofSecs n)

/-- What the settings lack to be run with. -/
def fault? (s : Settings) : Option String :=
  if s.databaseUrl = "" then some "CLICKHOUSE_URL must not be empty"
  else if s.database = "" then some "CLICKHOUSE_DATABASE must not be empty"
  else if s.batchSize = 0 then some "batch size must be positive"
  else if s.flushInterval.nanos = 0 then some "flush interval must be positive"
  else if s.queueCapacity = 0 then some "queue capacity must be positive"
  else if s.hotRefreshInterval.nanos = 0 then some "hot refresh interval must be positive"
  else none

/-- Every variable may be unset. Numbers are read first, in this order, and then the whole is
checked. -/
def ofEnvironment (env : Environment) : Except Error Settings := do
  let s : Settings := {
    databaseUrl := (env.text? "CLICKHOUSE_URL").getD "http://localhost:8123"
    database := (env.text? "CLICKHOUSE_DATABASE").getD "nostr"
    batchSize := ← number env "STORE_BATCH_SIZE" UInt64.size 1000
    flushInterval := .ofMillis (← number env "STORE_FLUSH_INTERVAL_MS" UInt64.size 1000)
    queueCapacity := ← number env "STORE_QUEUE_CAPACITY" UInt64.size 4096
    queryTimeout := optionalSecs (← number env "STORE_QUERY_TIMEOUT_SECS" UInt64.size 30)
    hotRefreshInterval := .ofSecs (← number env "STORE_HOT_REFRESH_SECS" UInt64.size 300)
    hotMaxPosts := ← number env "STORE_HOT_MAX_POSTS" UInt64.size 1000
    statsInterval := optionalSecs (← number env "STORE_STATS_INTERVAL_SECS" UInt64.size 30)
    bindAddress := (env.text? "STORE_BIND_ADDR").getD "0.0.0.0:8080"
    metricsPort := ← number env "STORE_METRICS_PORT" UInt16.size 9090 }
  match s.fault? with
  | some reason => .error (.config reason)
  | none => return s

/-- The part of the settings that storage runs with. A single write has the deadline of a query. -/
def storage (s : Settings) : StorageSettings where
  ingest := {
    batchSize := s.batchSize
    flushInterval := s.flushInterval
    queueCapacity := s.queueCapacity
    writeTimeout := s.queryTimeout.getD (.ofSecs 30) }
  hot := { maxPosts := s.hotMaxPosts, refreshInterval := s.hotRefreshInterval }
  queryTimeout := s.queryTimeout

end Settings
end RelayStore

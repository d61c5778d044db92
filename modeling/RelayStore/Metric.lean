/-! What the service counts and measures. -/
namespace RelayStore

inductive Metric where
  | submitted
  | flushed
  | dropped
  | flushes
  | flushErrors
  | syncWrites
  | bufferEvents
  | flushDuration
  | queries
  | queryErrors
  | queryDuration
  | tagParseErrors
  | hotRefreshes
  | hotPosts
  | running
  deriving DecidableEq, Repr

namespace Metric

inductive Kind where
  | counter
  | gauge
  | histogram
  deriving DecidableEq, Repr

def all : List Metric :=
  [submitted, flushed, dropped, flushes, flushErrors, syncWrites, bufferEvents, flushDuration,
    queries, queryErrors, queryDuration, tagParseErrors, hotRefreshes, hotPosts, running]

def name : Metric → String
  | submitted => "store_events_submitted_total"
  | flushed => "store_events_flushed_total"
  | dropped => "store_events_dropped_total"
  | flushes => "store_flushes_total"
  | flushErrors => "store_flush_errors_total"
  | syncWrites => "store_sync_writes_total"
  | bufferEvents => "store_buffer_events"
  | flushDuration => "store_flush_duration_seconds"
  | queries => "store_queries_total"
  | queryErrors => "store_query_errors_total"
  | queryDuration => "store_query_duration_seconds"
  | tagParseErrors => "store_tag_parse_errors_total"
  | hotRefreshes => "store_hot_refresh_total"
  | hotPosts => "store_hot_posts"
  | running => "store_running"

def kind : Metric → Kind
  | bufferEvents | hotPosts | running => .gauge
  | flushDuration | queryDuration => .histogram
  | _ => .counter

def description : Metric → String
  | submitted => "Events accepted by save_event"
  | flushed => "Events written to the store by batch flushes"
  | dropped => "Events lost because their batch flush failed"
  | flushes => "Batch flushes attempted"
  | flushErrors => "Batch flushes that failed"
  | syncWrites => "Single-row writes taken because the ingest queue was full"
  | bufferEvents => "Events waiting in the flush buffer"
  | flushDuration => "Time spent writing one batch"
  | queries => "Queries executed (label: table)"
  | queryErrors => "Queries that failed"
  | queryDuration => "Time spent executing one query"
  | tagParseErrors => "Result rows whose tags could not be parsed and were returned empty"
  | hotRefreshes => "Hot score refresh runs"
  | hotPosts => "Rows written by the last hot score refresh"
  | running => "1 while the store service is running"

end Metric

/-- Values of metrics by their full names, sorted by name. Only what was touched is listed. -/
structure Measurements where
  counters : List (String × Nat) := []
  gauges : List (String × Nat) := []
  samples : List (String × Nat) := []
  deriving DecidableEq, Repr

namespace Measurements

/-- Changes the value of a name in a sorted list; a new name starts from 0. -/
def update (name : String) (f : Nat → Nat) : List (String × Nat) → List (String × Nat)
  | [] => [(name, f 0)]
  | (n, v) :: rest =>
    if name < n then (name, f 0) :: (n, v) :: rest
    else if name = n then (n, f v) :: rest
    else (n, v) :: update name f rest

def count (m : Measurements) (metric : Metric) (n : Nat) : Measurements :=
  { m with counters := update metric.name (· + n) m.counters }

/-- A counter kept apart for a value of a label. -/
def countLabelled (m : Measurements) (metric : Metric) (label value : String) (n : Nat) :
    Measurements :=
  let name := metric.name ++ "\x7b" ++ label ++ "=" ++ value ++ "\x7d"
  { m with counters := update name (· + n) m.counters }

def set (m : Measurements) (metric : Metric) (n : Nat) : Measurements :=
  { m with gauges := update metric.name (fun _ => n) m.gauges }

/-- The measurements of two parts of the service, which have no name in common. -/
def merge (a b : Measurements) : Measurements :=
  let join (x y : List (String × Nat)) := y.foldl (fun l p => update p.1 (fun _ => p.2) l) x
  ⟨join a.counters b.counters, join a.gauges b.gauges, join a.samples b.samples⟩

/-- Adds one measured duration. -/
def sample (m : Measurements) (metric : Metric) : Measurements :=
  { m with samples := update metric.name (· + 1) m.samples }

end Measurements
end RelayStore

import RelayStore.Hot.Refresh
import RelayStore.Http
import RelayStore.Service.MemoryStore
import RelayStore.Storage.Outcome

/-! What callers ask of the service, and how far it has come. -/
namespace RelayStore.Service
open Storage

inductive Place where
  | unstarted
  | parked (ticket : Nat) (alarm : Option Nat)
  deriving DecidableEq, Repr

/-- A read of the store that is guarded. One that is parked under a deadline has an alarm. -/
structure Read where
  guard : Guard
  request : Request
  place : Place := .unstarted
  deriving DecidableEq, Repr

/-- A row that is being written by itself. -/
structure AloneWrite where
  row : EventRow
  ticket : Nat
  alarm : Nat
  deriving DecidableEq, Repr

/-- The queries of several filters: those that are over have their events. A failure is kept while
it does not count yet. -/
inductive Part where
  | running (p : Plan) (r : Read)
  | over (events : List Event)
  | failed (e : Error)
  deriving DecidableEq, Repr

inductive Job where
  /-- Saves events one after the other, under their numbers. -/
  | save (todo : List (Nat × Event)) (writing : Option AloneWrite) (failed : List (Nat × Error))
  | query (p : Plan) (r : Read)
  | queries (parts : List Part)
  | count (p : Plan) (r : Read)
  | ping (r : Read)
  | refresh (now : UInt32) (r : Read)
  /-- The ranking has been replaced by so many rows, or could not be, and the store holds this
  answer back. -/
  | replacing (answer : Except Error Nat) (r : Read)
  | health (method : String) (r : Read)
  | stats (method : String)
  | respond (r : Http.Response)
  | close
  | awaitEnd
  | awaitRanking (i : Nat)
  deriving Repr

inductive Result where
  /-- The events that were not saved. -/
  | saved (failed : List (Nat × Error))
  | events (es : List Event)
  | counted (c : EventCount)
  | reached
  | ranked (n : Nat)
  | response (r : Http.Response)
  | closed
  /-- Whether the task came to its end. -/
  | joined (ok : Bool)
  deriving DecidableEq, Repr

/-- Options that a caller gives with a read. -/
structure Context where
  limit : Option Decimal.Span := none
  token : Option String := none
  deriving DecidableEq, Repr

namespace Read

def ofQuery (s : StorageSettings) (c : Context) (p : Plan) : Read :=
  ⟨⟨"query", c.limit.or s.queryTimeout, c.token⟩, .query p, .unstarted⟩

def ofCount (s : StorageSettings) (c : Context) (p : Plan) : Read :=
  ⟨⟨"count", c.limit.or s.queryTimeout, c.token⟩, .count p p.unconstrained, .unstarted⟩

def ofPing (s : StorageSettings) (c : Context) : Read :=
  ⟨⟨"ping", c.limit.or s.queryTimeout, c.token⟩, .ping, .unstarted⟩

/-- A refresh has no deadline unless its caller sets one. -/
def ofRefresh (s : StorageSettings) (c : Context) (now : UInt32) : Read :=
  ⟨⟨"refresh_hot_posts", c.limit, c.token⟩, .engagement (Hot.horizon s.hot now), .unstarted⟩

end Read

namespace Job

def ofEvents (events : List Event) : Job := save (events.zipIdx.map fun (e, i) => (i, e)) none []

def ofFilter (s : StorageSettings) (c : Context) (f : Filter) : Job :=
  let p := Plan.ofFilter f
  query p (.ofQuery s c p)

def ofFilters (s : StorageSettings) (c : Context) (fs : List Filter) : Job :=
  queries (fs.map fun f => let p := Plan.ofFilter f; .running p (.ofQuery s c p))

def ofCount (s : StorageSettings) (c : Context) (f : Filter) : Job :=
  let p := Plan.ofFilter f
  count p (.ofCount s c p)

def ofRefresh (s : StorageSettings) (c : Context) (now : UInt32) : Job :=
  refresh now (.ofRefresh s c now)

def ofRequest (s : StorageSettings) (method target : String) : Job :=
  match Http.route method target with
  | .health => health method (.ofPing s ⟨some Http.pingLimit, none⟩)
  | .stats => stats method
  | .unknown => respond ⟨404, ""⟩
  | .notAllowed => respond ⟨405, ""⟩

/-- The guarded calls of the store that are parked. -/
def reads : Job → List Read
  | query _ r | count _ r | ping r | refresh _ r | replacing _ r | health _ r => [r]
  | queries parts => parts.filterMap fun
    | .running _ r => some r
    | _ => none
  | _ => []

end Job
end RelayStore.Service

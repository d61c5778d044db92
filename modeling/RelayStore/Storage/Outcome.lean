import RelayStore.Assembly
import RelayStore.Error
import RelayStore.Metric
import RelayStore.Plan.Planner

/-! What a read of the storage comes to. -/
namespace RelayStore.Storage

/-- Who may end a read before the store has answered it. -/
structure Guard where
  operation : String
  limit : Option Decimal.Span := none
  token : Option String := none
  deriving DecidableEq, Repr

/-- How a read ends, if it does: a cancellation goes before the store's answer, and the answer
before the deadline. -/
def Guard.outcome {α : Type} (g : Guard) (cancelled : Bool) (answer : Option (Except Error α))
    (expired : Bool) : Option (Except Error α) :=
  if cancelled then some (.error (.cancelled g.operation))
  else match answer, g.limit with
    | some r, _ => some r
    | none, some limit => if expired then some (.error (.timeout g.operation limit)) else none
    | none, none => none

structure EventCount where
  count : Nat
  approximate : Bool
  deriving DecidableEq, Repr

def queryOutcome (p : Plan) (r : Except Error (List QueryRow)) : Except Error (List Event) :=
  match r with
  | .ok rows => .ok (Event.firstOfEach (Assembly.ofRows rows).events)
  | .error e => .error (e.during p.table.name "query")

/-- A filter that constrains nothing is counted by an estimate. -/
def countOutcome (p : Plan) (r : Except Error Nat) : Except Error EventCount :=
  match r with
  | .ok n => .ok ⟨n, p.unconstrained⟩
  | .error e => .error (e.during p.table.name "count")

def pingOutcome (r : Except Error Unit) : Except Error Unit :=
  r.mapError fun e => e.during Table.events.name "ping"

/-- The events of several filters, in the order of the filters. -/
def merge (answers : List (List Event)) : List Event := Event.firstOfEach answers.flatten

/-- Measures a query or a count of a plan. -/
def measure (m : Measurements) (p : Plan) (ok : Bool) : Measurements :=
  let m := (m.countLabelled .queries "table" p.table.name 1).sample .queryDuration
  if ok then m else m.count .queryErrors 1

/-- Counts the rows whose tags could not be read. -/
def measureRows (m : Measurements) (rows : List QueryRow) : Measurements :=
  match (Assembly.ofRows rows).recovered with
  | 0 => m
  | n => m.count .tagParseErrors n

end RelayStore.Storage

import RelayStore.Error
import RelayStore.Ingest.Ingestor
import RelayStore.Json.Value

/-! The service's answers over HTTP. -/
namespace RelayStore.Http

structure Response where
  status : Nat
  body : String := ""
  deriving DecidableEq, Repr

inductive Route where
  | health
  | stats
  | unknown
  | notAllowed
  deriving DecidableEq, Repr

/-- What follows the scheme and the host of a target that names them. -/
def behindHost : List Char → Option (List Char)
  | ':' :: '/' :: '/' :: rest => some (rest.dropWhile fun c => c ≠ '/' ∧ c ≠ '?' ∧ c ≠ '#')
  | _ :: rest => behindHost rest
  | [] => none

/-- The path of a target, without the host before it and the query behind it. A target that begins
with neither a path nor a scheme is a host alone. -/
def path (target : String) : String :=
  let cs := target.toList
  let rest := if cs.head? = some '/' then cs else (behindHost cs).getD []
  String.ofList (rest.takeWhile fun c => c ≠ '?' ∧ c ≠ '#')

/-- Both paths can only be read. -/
def route (method target : String) : Route :=
  let p := path target
  if p ≠ "/health" ∧ p ≠ "/stats" then .unknown
  else if method ≠ "GET" ∧ method ≠ "HEAD" then .notAllowed
  else if p = "/health" then .health
  else .stats

def version : String := "0.1.0"

/-- How long the store may take to answer before it counts as unreachable. -/
def pingLimit : Decimal.Span := .ofSecs 2

def health : Except Error Unit → Response
  | .ok () =>
    ⟨200, (Json.Value.object [("status", .string "ok"), ("version", .string version)]).text⟩
  | .error e =>
    ⟨503, (Json.Value.object [("status", .string "unavailable"), ("version", .string version),
      ("error", .string e.message)]).text⟩

def countersValue (c : Ingest.Counters) : Json.Value :=
  .object [
    ("submitted", .nat c.submitted), ("flushed", .nat c.flushed), ("dropped", .nat c.dropped),
    ("flushes", .nat c.flushes), ("failed_flushes", .nat c.failedFlushes),
    ("sync_writes", .nat c.singleWrites), ("buffered", .nat c.buffered)]

def stats (c : Ingest.Counters) : Response := ⟨200, (countersValue c).text⟩

/-- A request for the head alone has the status of the full one. -/
def Response.forMethod (r : Response) (method : String) : Response :=
  if method = "HEAD" then { r with body := "" } else r

end RelayStore.Http

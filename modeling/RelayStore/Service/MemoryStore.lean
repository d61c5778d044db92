import RelayStore.Error
import RelayStore.Plan.Planner
import RelayStore.Row
import RelayStore.Service.Gate

/-! A store in memory. What it answers, which calls fail and which are held back is set from
outside, and it records the calls. -/
namespace RelayStore.Service

inductive CallKind where
  | insert
  | query
  | count
  | engagement
  | replace
  | ping
  deriving DecidableEq, Repr

/-- A call with what was asked of the store. -/
inductive Call where
  | insert (rows : List EventRow) (ok : Bool)
  | query (p : Plan)
  | count (p : Plan) (approximate : Bool)
  | engagement (since : UInt32)
  | replace (rows : List HotPost) (runId : Nat) (horizon : UInt32) (ok : Bool)
  | ping

/-- The calls that only read. -/
inductive Request where
  | query (p : Plan)
  | count (p : Plan) (approximate : Bool)
  | engagement (since : UInt32)
  | ping
  deriving DecidableEq, Repr

inductive Answer where
  | rows (rows : List QueryRow)
  | number (n : Nat)
  | engagement (rows : List Engagement)
  | done
  deriving DecidableEq, Repr

namespace Request

def kind : Request → CallKind
  | query _ => .query
  | count _ _ => .count
  | engagement _ => .engagement
  | ping => .ping

def call : Request → Call
  | query p => .query p
  | count p approximate => .count p approximate
  | engagement since => .engagement since
  | ping => .ping

end Request

/-- What a single read is answered where it differs from what others are. -/
structure OwnAnswer where
  failure : Option Error := none
  rows : Option (List QueryRow) := none
  number : Option Nat := none
  engagement : Option (List Engagement) := none

structure MemoryStore where
  /-- The rows that a table answers with; those of `none` are for the tables without their own. -/
  rows : List (Option Table × List QueryRow) := []
  number : Nat := 0
  engagement : List Engagement := []
  failing : Option ((CallKind → Bool) × Error) := none
  /-- By the tickets of the reads. -/
  own : Nat → OwnAnswer := fun _ => {}
  /-- Whether the answer to a replacement that has failed can be held back as well. -/
  holdsFailures : Bool := false
  inserts : Gate := {}
  reads : Gate := {}
  replaces : Gate := {}
  /-- The calls so far, the latest first. -/
  calls : List Call := []
  tickets : Nat := 0

namespace MemoryStore

def failure? (s : MemoryStore) (k : CallKind) : Option Error :=
  s.failing.bind fun (fails, e) => if fails k then some e else none

def setRows (s : MemoryStore) (table : Option Table) (rows : List QueryRow) : MemoryStore :=
  { s with rows := (table, rows) :: s.rows.filter fun p => p.1 ≠ table }

def rowsOf (s : MemoryStore) (t : Table) : List QueryRow :=
  let find (key : Option Table) := (s.rows.find? fun p => p.1 = key).map Prod.snd
  ((find (some t)).or (find none)).getD []

def record (s : MemoryStore) (c : Call) : MemoryStore := { s with calls := c :: s.calls }

/-- A number for a call, different from all others. -/
def ticket (s : MemoryStore) : Nat × MemoryStore := (s.tickets, { s with tickets := s.tickets + 1 })

/-- How far a call has come when it has been made. -/
inductive Begun (α : Type) where
  | answered (r : Except Error α)
  | parked (ticket : Nat)

/-- Whether an insert fails is decided at once, and one that fails is never held back. -/
def beginInsert (s : MemoryStore) (owner : TaskId) (rows : List EventRow) :
    Begun Unit × MemoryStore :=
  match s.failure? .insert with
  | some e => (.answered (.error e), s.record (.insert rows false))
  | none =>
    let (ticket, s) := (s.record (.insert rows true)).ticket
    let (pass, gate) := s.inserts.enter ticket owner
    (if pass then .answered (.ok ()) else .parked ticket, { s with inserts := gate })

/-- What the read with a ticket is answered. It is decided when the read goes on, not when it is
made. -/
def answer (s : MemoryStore) (ticket : Nat) (r : Request) : Except Error Answer :=
  let own := s.own ticket
  match own.failure.or (s.failure? r.kind) with
  | some e => .error e
  | none => .ok <| match r with
    | .query p => .rows (own.rows.getD (s.rowsOf p.table))
    | .count _ _ => .number (own.number.getD s.number)
    | .engagement since =>
      .engagement ((own.engagement.getD s.engagement).filter fun e => since ≤ e.createdAt)
    | .ping => .done

def beginRead (s : MemoryStore) (owner : TaskId) (r : Request) : Begun Answer × MemoryStore :=
  let (ticket, s) := (s.record r.call).ticket
  let (pass, gate) := s.reads.enter ticket owner
  let s := { s with reads := gate }
  (if pass then .answered (s.answer ticket r) else .parked ticket, s)

/-- How a replacement ends that is made now. -/
def replaceAnswer (s : MemoryStore) : Except Error Unit :=
  match s.failure? .replace with
  | some e => .error e
  | none => .ok ()

/-- A replacement is done or fails at once, and this is its answer. There is a ticket if the answer
is held back. -/
def beginReplace (s : MemoryStore) (owner : TaskId) (rows : List HotPost) (runId : Nat)
    (horizon : UInt32) : Except Error Unit × Option Nat × MemoryStore :=
  let answer := s.replaceAnswer
  let s := s.record (.replace rows runId horizon answer.isOk)
  if answer.isOk || s.holdsFailures then
    let (ticket, s) := s.ticket
    let (pass, gate) := s.replaces.enter ticket owner
    (answer, if pass then none else some ticket, { s with replaces := gate })
  else (answer, none, s)

/-- The recorded calls in their order, which are then forgotten. -/
def takeCalls (s : MemoryStore) : List Call × MemoryStore :=
  (s.calls.reverse, { s with calls := [] })

end MemoryStore
end RelayStore.Service

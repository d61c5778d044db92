/-! A gate that holds calls back until they are let through, the oldest first. -/
namespace RelayStore.Service

/-- The tasks of the service. -/
inductive TaskId where
  | worker
  | ranking (i : Nat)
  | call (i : Nat)
  | foreground
  deriving DecidableEq, Repr

structure Parked where
  ticket : Nat
  owner : TaskId
  admitted : Bool := false
  deriving DecidableEq, Repr

structure Gate where
  /-- How many of the next calls are held back. -/
  holding : Nat := 0
  /-- How many calls may pass although they are to be held back. -/
  permits : Nat := 0
  line : List Parked := []
  deriving DecidableEq, Repr

namespace Gate

/-- Lets a call pass, or parks it under its ticket. -/
def enter (g : Gate) (ticket : Nat) (owner : TaskId) : Bool × Gate :=
  if g.holding = 0 then (true, g)
  else
    let g := { g with holding := g.holding - 1 }
    if 0 < g.permits then (true, { g with permits := g.permits - 1 })
    else (false, { g with line := g.line ++ [⟨ticket, owner, false⟩] })

/-- Admits the oldest of those that wait. -/
def admitFirst : List Parked → Option (TaskId × List Parked)
  | [] => none
  | p :: rest =>
    if p.admitted then (admitFirst rest).map fun (owner, rest) => (owner, p :: rest)
    else some (p.owner, { p with admitted := true } :: rest)

/-- One permit, for the oldest that waits or for a later call. -/
def permit (g : Gate) : Option TaskId × Gate :=
  match admitFirst g.line with
  | some (owner, line) => (some owner, { g with line := line })
  | none => (none, { g with permits := g.permits + 1 })

/-- Several permits, and the tasks they admit in their order. -/
def release : Nat → Gate → List TaskId × Gate
  | 0, g => ([], g)
  | n + 1, g =>
    let (owner, g) := g.permit
    let (owners, g) := release n g
    (owner.toList ++ owners, g)

def isAdmitted (g : Gate) (ticket : Nat) : Bool :=
  g.line.any fun p => p.ticket = ticket && p.admitted

/-- Takes a call out of the line; one that was admitted passes its permit on unless it used it. -/
def leave (g : Gate) (ticket : Nat) (used : Bool) : Option TaskId × Gate :=
  let admitted := g.isAdmitted ticket
  let g := { g with line := g.line.filter fun p => p.ticket ≠ ticket }
  if admitted && !used then g.permit else (none, g)

end Gate
end RelayStore.Service

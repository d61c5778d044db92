import RelayStore.Service.Gate

/-! Alarms that wake tasks. An alarm is filed by the highest digit to base 64 in which its time
differs from the present one. It is looked at when this digit is reached, and then rings or is filed
anew. -/
namespace RelayStore.Service

structure Alarm where
  key : Nat
  owner : TaskId
  due : Nat
  /-- When it is looked at next. -/
  look : Nat
  deriving DecidableEq, Repr

structure Alarms where
  /-- The time up to which the alarms have been looked at. -/
  seen : Nat := 0
  /-- The alarms that have not rung, in the order in which they were filed. -/
  filed : List Alarm := []
  keys : Nat := 0
  deriving DecidableEq, Repr

namespace Alarms

/-- The highest digit in which two times differ. The sixth stands for all above it. -/
def digit (seen due : Nat) : Nat := min 5 (((seen ^^^ due) ||| 63).log2 / 6)

/-- When a time has the digit of the due one, for the first time from now on. -/
def lookFor (seen due : Nat) : Nat :=
  let unit := 1 <<< (6 * digit seen due)
  let cycle := 64 * unit
  let first := seen / cycle * cycle + due / unit % 64 * unit
  if seen < first then first else first + cycle

/-- Files an alarm, and gives its key. One that is due rings at once and has none. -/
def set (a : Alarms) (owner : TaskId) (due : Nat) : Option Nat × Alarms :=
  if due ≤ a.seen then (none, a)
  else (some a.keys, { a with
    filed := a.filed ++ [⟨a.keys, owner, due, lookFor a.seen due⟩]
    keys := a.keys + 1 })

def hasRung (a : Alarms) (key : Nat) : Bool := a.filed.all fun x => x.key ≠ key

def remove (a : Alarms) (key : Nat) : Alarms :=
  { a with filed := a.filed.filter fun x => x.key ≠ key }

/-- Gives an alarm a later time. It is looked at when it would have been. -/
def postpone (a : Alarms) (key due : Nat) : Alarms :=
  { a with filed := a.filed.map fun x => if x.key = key then { x with due := due } else x }

/-- When an alarm is to be looked at next. -/
def next? (a : Alarms) : Option Nat := (a.filed.map Alarm.look).min?

/-- Looks at the alarms of a time: those that are due ring, the others are filed anew. -/
def lookAt (a : Alarms) (time : Nat) : List TaskId × Alarms :=
  let (looked, rest) := a.filed.partition fun x => x.look ≤ time
  let (due, later) := looked.partition fun x => x.due ≤ time
  (due.map Alarm.owner,
    { a with
      seen := time
      filed := rest ++ later.map fun x => { x with look := lookFor time x.due } })

/-- Looks at the alarms up to now, and gives the tasks to wake in their order. Every look is later
than the one before, which the first number counts. -/
def pass : Nat → Nat → Alarms → List TaskId × Alarms
  | 0, now, a => ([], { a with seen := now })
  | fuel + 1, now, a =>
    match a.next? with
    | none => ([], { a with seen := now })
    | some time =>
      if now < time then ([], { a with seen := now })
      else
        let (woken, a) := a.lookAt time
        let (others, a) := pass fuel now a
        (woken ++ others, a)

/-- All alarms up to now. -/
def passTo (a : Alarms) (now : Nat) : List TaskId × Alarms := pass (now - a.seen + 1) now a

end Alarms
end RelayStore.Service

/-! Ticks at a fixed interval, in milliseconds. -/
namespace RelayStore

structure Ticker where
  period : Nat
  due : Nat
  deriving DecidableEq, Repr

namespace Ticker

/-- What happens to the ticks after one that is late. -/
inductive Late where
  /-- They follow at the interval from now. -/
  | delay
  /-- They keep to the multiples of the interval; those that are over are left out. -/
  | skip
  deriving DecidableEq, Repr

/-- How late a tick may be without a change of those after it. -/
def tolerance : Nat := 5

/-- The ticker after a tick that is handled now. -/
def tick (t : Ticker) (late : Late) (now : Nat) : Ticker :=
  if now ≤ t.due + tolerance then { t with due := t.due + t.period }
  else match late with
    | .delay => { t with due := now + t.period }
    | .skip => { t with due := now + t.period - (now - t.due) % t.period }

/-- Starts the interval anew. -/
def reset (t : Ticker) (now : Nat) : Ticker := { t with due := now + t.period }

end Ticker
end RelayStore

/-! Versions of rows: microseconds of the clock, made strictly increasing. -/
namespace RelayStore

structure VersionClock where
  last : Nat := 0
  deriving DecidableEq, Repr

/-- The next version at a reading of the clock. A reading before 1970 counts as 0. -/
def VersionClock.next (c : VersionClock) (micros : Int) : Nat × VersionClock :=
  let v := max micros.toNat (c.last + 1)
  (v, ⟨v⟩)

/-- The versions at a sequence of readings. -/
def VersionClock.issue (c : VersionClock) : List Int → List Nat
  | [] => []
  | micros :: rest =>
    let (v, c) := c.next micros
    v :: c.issue rest

end RelayStore

/-! Spans of time in nanoseconds, and how a message writes them. -/
namespace RelayStore.Decimal

/-- A number of nanoseconds. -/
structure Span where
  nanos : Nat
  deriving DecidableEq, Repr

namespace Span

def ofMillis (n : Nat) : Span := ⟨n * 1000000⟩

def ofSecs (n : Nat) : Span := ⟨n * 1000000000⟩

def millis (s : Span) : Nat := s.nanos / 1000000

/-- A whole part and the digits of a fraction of `10 ^ places` parts, without trailing zeros. -/
def decimal (whole part places : Nat) : String :=
  let digits := Nat.toDigits 10 part
  let padded := List.replicate (places - digits.length) '0' ++ digits
  let kept := (padded.reverse.dropWhile (· = '0')).reverse
  toString whole ++ if part = 0 then "" else String.ofList ('.' :: kept)

/-- The largest unit of which the span holds at least one, with the rest as a fraction. -/
def text (s : Span) : String :=
  let n := s.nanos
  if 1000000000 ≤ n then decimal (n / 1000000000) (n % 1000000000) 9 ++ "s"
  else if 1000000 ≤ n then decimal (n / 1000000) (n % 1000000) 6 ++ "ms"
  else if 1000 ≤ n then decimal (n / 1000) (n % 1000) 3 ++ "µs"
  else toString n ++ "ns"

end Span
end RelayStore.Decimal

/-! JSON numbers: the parts of a literal, and the number a literal stands for. -/
namespace RelayStore.Json

/-- Why a text is not JSON: it stops too early, or it goes on in a way no JSON text does. -/
inductive Fault where
  | ended
  | malformed
  deriving DecidableEq, Repr

/-- The fault of a place as it is reported when the value there is read, and when it is skipped. -/
structure Flaw where
  reading : Fault
  skipping : Fault
  deriving DecidableEq, Repr

namespace Flaw

def ended : Flaw := ⟨.ended, .ended⟩

def malformed : Flaw := ⟨.malformed, .malformed⟩

end Flaw

/-- A number: a whole number below `2 ^ 64`, a negative one from `-2 ^ 63`, or else a double, kept
as its bits. -/
inductive Number where
  | whole (n : Nat)
  | negative (n : Nat)
  | real (bits : UInt64)
  deriving DecidableEq, Repr

/-- The parts of a number literal. -/
structure Literal where
  negative : Bool
  whole : List Char
  fraction : Option (List Char)
  exponent : Option (Bool × List Char)
  deriving DecidableEq, Repr

def digitsOf (cs : List Char) : List Char × List Char :=
  (cs.takeWhile Char.isDigit, cs.dropWhile Char.isDigit)

/-- A missing digit: where the text ends, only reading takes it for an end. -/
def missingDigit (rest : List Char) : Flaw :=
  if rest = [] then ⟨.ended, .malformed⟩ else .malformed

def scanExponent (cs : List Char) : Except Flaw (Option (Bool × List Char) × List Char) :=
  match cs with
  | c :: r =>
    if c = 'e' ∨ c = 'E' then
      let signed : Bool × List Char := match r with
        | '+' :: r' => (false, r')
        | '-' :: r' => (true, r')
        | _ => (false, r)
      match digitsOf signed.2 with
      | ([], rest) => .error (missingDigit rest)
      | (ds, rest) => .ok (some (signed.1, ds), rest)
    else .ok (none, cs)
  | [] => .ok (none, cs)

def scanFraction (cs : List Char) : Except Flaw (Option (List Char) × List Char) :=
  match cs with
  | '.' :: r =>
    match digitsOf r with
    | ([], rest) => .error (missingDigit rest)
    | (ds, rest) => .ok (some ds, rest)
  | _ => .ok (none, cs)

/-- The whole part: `0`, or digits that do not start with `0`. -/
def scanWhole (cs : List Char) : Except Flaw (List Char × List Char) :=
  match digitsOf cs with
  | ([], rest) => .error (missingDigit rest)
  | (['0'], rest) => .ok (['0'], rest)
  | ('0' :: _ :: _, _) => .error .malformed
  | (ds, rest) => .ok (ds, rest)

def scanUnsigned (negative : Bool) (cs : List Char) : Except Flaw (Literal × List Char) := do
  let (whole, r₁) ← scanWhole cs
  let (fraction, r₂) ← scanFraction r₁
  let (exponent, r₃) ← scanExponent r₂
  return (⟨negative, whole, fraction, exponent⟩, r₃)

/-- A number literal and the text after it. -/
def scanNumber (cs : List Char) : Except Flaw (Literal × List Char) :=
  match cs with
  | '-' :: r => scanUnsigned true r
  | _ => scanUnsigned false cs

def digitValue (c : Char) : Nat := c.toNat - 48

/-- Digits collected into a significand of 64 bits; the digits that no longer fit are left over. -/
def collect (significand : Nat) : List Char → Nat × List Char
  | [] => (significand, [])
  | c :: r =>
    let next := significand * 10 + digitValue c
    if next < UInt64.size then collect next r else (significand, c :: r)

/-- The value of an exponent, clamped where it cannot matter any more. -/
def exponentValue (digits : List Char) : Nat :=
  digits.foldl (fun e c => min (e * 10 + digitValue c) (UInt32.size / 2)) 0

def powerOfTen (n : Nat) : Float := Float.ofScientific 1 false n

/-- `f * 10 ^ e` by one multiplication or by divisions through at most `10 ^ 308`; none when the
result is too large for a double. -/
def scaleByTen : Nat → Float → Int → Option Float
  | 0, _, _ => none
  | fuel + 1, f, e =>
    if e.natAbs ≤ 308 then
      let g := if 0 ≤ e then f * powerOfTen e.natAbs else f / powerOfTen e.natAbs
      if g.isInf then none else some g
    else if f == 0.0 then some f
    else if 0 ≤ e then none
    else scaleByTen fuel (f / powerOfTen 308) (e + 308)

/-- The double of a significand and a power of ten. -/
def real? (negative : Bool) (significand : Nat) (e : Int) : Option Number :=
  let f := (UInt64.ofNat significand).toFloat
  let scaled := if significand = 0 then some 0.0
    else if e < -2000 then some 0.0 else scaleByTen 10 f e
  scaled.map fun g => .real (if negative then (-g).toBits else g.toBits)

/-- The number of a literal, none when it is too large for a double. A whole number that fits 64
bits stays exact; of any other the significand keeps the leading digits that fit 64 bits. -/
def Literal.value (l : Literal) : Option Number :=
  let (head, left) := collect 0 l.whole
  match l.fraction, l.exponent, left with
  | none, none, [] =>
    if !l.negative then some (.whole head)
    else if 0 < head ∧ head ≤ UInt64.size / 2 then some (.negative head)
    else some (.real (-(UInt64.ofNat head).toFloat).toBits)
  | fraction, exponent, left =>
    let (significand, after) := collect head (fraction.getD [])
    let kept := (fraction.getD []).length - after.length
    let shift : Int := (left.length : Int) - kept
    match exponent with
    | none => real? l.negative significand shift
    | some (below, digits) =>
      let e := exponentValue digits
      if UInt32.size / 2 ≤ e then
        if significand ≠ 0 && !below then none else real? l.negative 0 0
      else real? l.negative significand (if below then shift - e else shift + e)

end RelayStore.Json

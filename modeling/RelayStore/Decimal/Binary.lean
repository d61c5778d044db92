/-! Finite doubles as exact fractions, and quotients rounded to the nearest whole number. -/
namespace RelayStore.Decimal

/-- What a double stands for: `mantissa * 2 ^ exponent` with a sign, an infinity or no number. -/
inductive Binary where
  | finite (negative : Bool) (mantissa : Nat) (exponent : Int)
  | infinite (negative : Bool)
  | undefined
  deriving DecidableEq, Repr

def Binary.ofBits (bits : UInt64) : Binary :=
  let negative := decide (UInt64.size / 2 ≤ bits.toNat)
  let biased : Nat := (bits.toNat >>> 52) % 2048
  let fraction : Nat := bits.toNat % (1 <<< 52)
  if biased = 2047 then
    if fraction = 0 then .infinite negative else .undefined
  else if biased = 0 then .finite negative fraction (-1074)
  else .finite negative ((1 <<< 52) + fraction) (biased - 1075)

/-- Numerator and denominator of `mantissa * 2 ^ exponent`. -/
def fraction (mantissa : Nat) (exponent : Int) : Nat × Nat :=
  if 0 ≤ exponent then (mantissa <<< exponent.toNat, 1) else (mantissa, 1 <<< (-exponent).toNat)

/-- The quotient rounded to the nearest whole number, a tie to the even one. -/
def roundDiv (num den : Nat) : Nat :=
  let q := num / den
  let twice := 2 * (num % den)
  if twice < den then q else if den < twice then q + 1 else if q % 2 = 0 then q else q + 1

/-- The `e` with `10 ^ e ≤ num / den < 10 ^ (e + 1)`, searched upwards from a lower bound. -/
def exponentFrom : Nat → Int → Nat → Nat → Int
  | 0, e, _, _ => e
  | fuel + 1, e, num, den =>
    let above := if 0 ≤ e + 1 then decide (num < den * Nat.pow 10 (e + 1).toNat)
      else decide (num * Nat.pow 10 (-(e + 1)).toNat < den)
    if above then e else exponentFrom fuel (e + 1) num den

/-- The decimal exponent of a positive fraction that is a double. -/
def decimalExponent (num den : Nat) : Int := exponentFrom 700 (-330) num den

/-- `num / den * 10 ^ shift` as a fraction. -/
def scale (num den : Nat) (shift : Int) : Nat × Nat :=
  if 0 ≤ shift then (num * Nat.pow 10 shift.toNat, den) else (num, den * Nat.pow 10 (-shift).toNat)

end RelayStore.Decimal

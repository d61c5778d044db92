import RelayStore.Decimal.Binary

/-! Doubles with a fixed number of significant digits, in scientific notation. -/
namespace RelayStore.Decimal

/-- Digits and exponent of a positive fraction rounded to `places + 1` significant digits. -/
def significant (places : Nat) (num den : Nat) : Nat × Int :=
  let e := decimalExponent num den
  let scaled := scale num den (places - e)
  let m := roundDiv scaled.1 scaled.2
  if m < Nat.pow 10 (places + 1) then (m, e) else (m / 10, e + 1)

def pointed (places m : Nat) : String :=
  let digits := Nat.toDigits 10 m
  let padded := List.replicate (places + 1 - digits.length) '0' ++ digits
  String.ofList (padded.take 1 ++ (if places = 0 then [] else '.' :: padded.drop 1))

/-- One digit, a point, `places` digits and the exponent; a tie goes to the even digit. -/
def scientific (places : Nat) (x : Float) : String :=
  match Binary.ofBits x.toBits with
  | .undefined => "NaN"
  | .infinite negative => if negative then "-inf" else "inf"
  | .finite negative mantissa exponent =>
    let sign := if negative then "-" else ""
    if mantissa = 0 then sign ++ pointed places 0 ++ "e0"
    else
      let f := fraction mantissa exponent
      let r := significant places f.1 f.2
      sign ++ pointed places r.1 ++ "e" ++ toString r.2

end RelayStore.Decimal

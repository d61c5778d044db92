import RelayStore.Decimal.Binary

/-! The shortest decimal that reads back as a double, and the notation it is written in. -/
namespace RelayStore.Decimal

/-- The reals that round to a double: both ends over one denominator, with or without the ends. -/
structure Interval where
  low : Nat
  high : Nat
  den : Nat
  closed : Bool

/-- The reals nearer to `mantissa * 2 ^ exponent` than to a neighbour. The neighbour below is half
as far away at a power of two. -/
def interval (mantissa : Nat) (exponent : Int) : Interval :=
  let narrow := mantissa = 1 <<< 52 && decide (-1074 < exponent)
  let f := fraction 1 (exponent - 2)
  { low := (4 * mantissa - if narrow then 1 else 2) * f.1
    high := (4 * mantissa + 2) * f.1
    den := f.2
    closed := mantissa % 2 = 0 }

/-- Whether `digits * 10 ^ grid` lies in the interval. -/
def Interval.holds (i : Interval) (digits : Nat) (grid : Int) : Bool :=
  let at_ := scale digits 1 grid
  let low := i.low * at_.2
  let high := i.high * at_.2
  let point := at_.1 * i.den
  if i.closed then decide (low ≤ point) && decide (point ≤ high)
  else decide (low < point) && decide (point < high)

/-- The nearer of the value's two neighbours on the grid of multiples of `10 ^ grid`, if it is in
the interval, else the other one. -/
def onGrid? (i : Interval) (num den : Nat) (grid : Int) : Option Nat :=
  let scaled := scale num den (-grid)
  let near := roundDiv scaled.1 scaled.2
  let below := scaled.1 / scaled.2
  let far := if near = below then below + 1 else below
  if i.holds near grid then some near else if i.holds far grid then some far else none

/-- The first grid, from coarse to fine, with a point in the interval. -/
def firstGrid (i : Interval) (num den : Nat) : Nat → Int → Nat × Int
  | 0, grid => (num / den, grid)
  | fuel + 1, grid =>
    match onGrid? i num den grid with
    | some digits => (digits, grid)
    | none => firstGrid i num den fuel (grid - 1)

/-- Trailing zeros moved into the exponent. -/
def stripZeros : Nat → Nat → Int → Nat × Int
  | 0, digits, grid => (digits, grid)
  | fuel + 1, digits, grid =>
    if digits % 10 = 0 then stripZeros fuel (digits / 10) (grid + 1) else (digits, grid)

/-- Digits `d` and exponent `k` of the shortest `d * 10 ^ k` that rounds to the double. -/
def shortest (mantissa : Nat) (exponent : Int) : Nat × Int :=
  let f := fraction mantissa exponent
  let r := firstGrid (interval mantissa exponent) f.1 f.2 18 (decimalExponent f.1 f.2 + 1)
  stripZeros 20 r.1 r.2

def zeros (n : Nat) : List Char := List.replicate n '0'

/-- Positional from `1e-5` up to below `1e16`, always with a fraction; else one digit before the
point and a signed exponent. -/
def written (digits : List Char) (k : Int) : List Char :=
  let point : Int := digits.length + k
  if 0 ≤ k && decide (point ≤ 16) then digits ++ zeros k.toNat ++ ['.', '0']
  else if 0 < point && decide (point ≤ 16) then
    digits.take point.toNat ++ '.' :: digits.drop point.toNat
  else if -5 < point && decide (point ≤ 0) then ['0', '.'] ++ zeros (-point).toNat ++ digits
  else
    let rest := digits.drop 1
    let power := point - 1
    digits.take 1 ++ (if rest = [] then [] else '.' :: rest) ++
      (if power < 0 then ['e', '-'] else ['e', '+']) ++ Nat.toDigits 10 power.natAbs

/-- The text of a double in a message or a document. -/
def text (x : Float) : String :=
  match Binary.ofBits x.toBits with
  | .undefined => "NaN"
  | .infinite negative => if negative then "-inf" else "inf"
  | .finite negative mantissa exponent =>
    let sign := if negative then ['-'] else []
    if mantissa = 0 then String.ofList (sign ++ ['0', '.', '0'])
    else
      let s := shortest mantissa exponent
      String.ofList (sign ++ written (Nat.toDigits 10 s.1) s.2)

end RelayStore.Decimal

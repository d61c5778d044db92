/-! Labels of any characters in ASCII: the ASCII characters first, then where the others go. -/
namespace RelayStore.Domain.Punycode

def digitChar (n : Nat) : Char := if n < 26 then Char.ofNat (97 + n) else Char.ofNat (22 + n)

def digitValue? (c : Char) : Option Nat :=
  let n := c.toLower.toNat
  if 97 ≤ n ∧ n ≤ 122 then some (n - 97)
  else if 48 ≤ n ∧ n ≤ 57 then some (n - 22)
  else none

/-- A digit below this one is the last of its number. -/
def threshold (position bias : Nat) : Nat :=
  if position ≤ bias then 1 else if bias + 26 ≤ position then 26 else position - bias

theorem threshold_pos (position bias : Nat) : 0 < threshold position bias := by
  unfold threshold
  split
  · omega
  · split <;> omega

/-- Divides until few digits are enough, and counts the positions. -/
def shrink (delta position : Nat) : Nat × Nat :=
  if 455 < delta then shrink (delta / 35) (position + 36) else (delta, position)
termination_by delta

/-- The bias for the next number after one that was written with `length` characters in place. -/
def adapt (delta length : Nat) (isFirst : Bool) : Nat :=
  let delta := if isFirst then delta / 700 else delta / 2
  let (delta, position) := shrink (delta + delta / length) 0
  position + 36 * delta / (delta + 38)

structure State where
  /-- The position in the text, counted on over all code points. -/
  place : Nat := 0
  codePoint : Nat := 128
  bias : Nat := 72
  deriving DecidableEq, Repr

/-! Writing. -/

def writeNumber (bias position n : Nat) : List Char :=
  let t := threshold position bias
  if n < t then [digitChar n]
  else digitChar (t + (n - t) % (36 - t)) :: writeNumber bias (position + 36) ((n - t) / (36 - t))
termination_by n
decreasing_by
  have := threshold_pos position bias
  have := Nat.div_le_self (n - threshold position bias) (36 - threshold position bias)
  omega

/-- Writes where one code point stands among the smaller ones. `delta` counts the places passed
over, `length` the characters in place. -/
def writePlaces (codePoint ascii : Nat) :
    List Char → (delta length bias : Nat) → List Char × Nat × Nat × Nat
  | [], delta, length, bias => ([], delta, length, bias)
  | c :: rest, delta, length, bias =>
    if c.toNat < codePoint then writePlaces codePoint ascii rest (delta + 1) length bias
    else if c.toNat = codePoint then
      let number := writeNumber bias 36 delta
      let bias := adapt delta (length + 1) (length = ascii)
      let (others, last) := writePlaces codePoint ascii rest 0 (length + 1) bias
      (number ++ others, last)
    else writePlaces codePoint ascii rest delta length bias

/-- Writes all code points, the smallest first. -/
def writeAll (text : List Char) (ascii : Nat) :
    List Nat → (next delta length bias : Nat) → List Char
  | [], _, _, _, _ => []
  | codePoint :: others, next, delta, length, bias =>
    let delta := delta + (codePoint - next) * (length + 1)
    let (written, delta, length, bias) := writePlaces codePoint ascii text delta length bias
    written ++ writeAll text ascii others (codePoint + 1) (delta + 1) length bias

def isAscii (c : Char) : Bool := c.toNat < 128

def encode (text : List Char) : List Char :=
  let ascii := text.filter isAscii
  let codePoints := (((text.filter fun c => !isAscii c).map Char.toNat).mergeSort).eraseDups
  ascii ++ (if ascii = [] then [] else ['-']) ++
    writeAll text ascii.length codePoints 128 0 ascii.length 72

/-! Reading. Numbers stay below the size of 32 bits. -/

def bounded? (n : Nat) : Option Nat := if n < UInt32.size then some n else none

/-- Adds a number to a place, and gives the digits behind it. -/
def readNumber? (bias : Nat) : (position weight place : Nat) → List Char → Option (Nat × List Char)
  | _, _, _, [] => none
  | position, weight, place, c :: rest => do
    let digit ← digitValue? c
    let place ← bounded? (place + digit * weight)
    let t := threshold position bias
    if digit < t then return (place, rest)
    let weight ← bounded? (weight * (36 - t))
    readNumber? bias (position + 36) weight place rest

/-- Puts in the characters that the digits tell. Every number has a digit at least, which the first
number counts. -/
def readAll? : Nat → State → List Char → List Char → Option (List Char)
  | 0, _, _, _ => none
  | _ + 1, _, text, [] => some text
  | fuel + 1, s, text, digits => do
    let (place, digits) ← readNumber? s.bias 36 1 s.place digits
    let length := text.length + 1
    let codePoint := s.codePoint + place / length
    if ¬ codePoint.isValidChar then none
    let spot := place % length
    let bias := adapt (place - s.place) length (s.place = 0)
    readAll? fuel ⟨spot + 1, codePoint, bias⟩ (text.insertIdx spot (Char.ofNat codePoint)) digits

/-- The ASCII characters stand before the last hyphen, if one is behind them. -/
def decode? (text : List Char) : Option (List Char) :=
  let ascii := ((text.reverse.dropWhile (· ≠ '-')).drop 1).reverse
  let digits := if ascii = [] then text else text.drop (ascii.length + 1)
  readAll? (digits.length + 1) {} ascii digits

end RelayStore.Domain.Punycode

import RelayStore.Text.Hex
import RelayStore.Text.Pieces

/-! Network addresses that are numbers. -/
namespace RelayStore.Url

/-! Four bytes. -/

/-- A decimal number; an octal one with a zero in front, a hexadecimal one with `0x`. The prefix
alone is zero. -/
def readNumber? (text : List Char) : Option Nat :=
  let (base, digits) := match text with
    | '0' :: 'x' :: rest | '0' :: 'X' :: rest => (16, rest)
    | '0' :: c :: rest => (8, c :: rest)
    | _ => (10, text)
  if text = [] then none
  else digits.foldlM (fun n c => do
    let d ← Text.hexDigitValue? c
    if d < base then some (base * n + d) else none) 0

/-- The parts of a name without the empty one behind a last point. -/
def numberParts (name : List Char) : List (List Char) :=
  let parts := Text.pieces (· = '.') name
  if parts.getLast? = some [] then parts.dropLast else parts

/-- Whether a name has to be an address, which its last part decides. -/
def endsInNumber (name : List Char) : Bool :=
  match (numberParts name).getLast? with
  | none => false
  | some last => (last ≠ [] && last.all Char.isDigit) || (readNumber? last).isSome

/-- Up to four numbers. All but the last are bytes; the last one stands for what is left. -/
def readFour? (name : List Char) : Option Nat := do
  let numbers ← (numberParts name).mapM readNumber?
  let last ← numbers.getLast?
  let bytes := numbers.dropLast
  if 3 < bytes.length ∨ bytes.any (255 < ·) ∨ 1 <<< (8 * (4 - bytes.length)) ≤ last then none
  return (bytes.zipIdx.map fun (n, i) => n <<< (8 * (3 - i))).foldl (· + ·) last

def fourText (n : Nat) : String :=
  String.intercalate "." ([24, 16, 8, 0].map fun k => toString (n >>> k % 256))

/-! Eight pairs of bytes. -/

/-- Up to four hexadecimal digits. -/
def readPair? (text : List Char) : Option Nat :=
  if text = [] ∨ 4 < text.length then none
  else text.foldlM (fun n c => (Text.hexDigitValue? c).map fun d => 16 * n + d) 0

/-- A byte in decimal without a leading zero. -/
def readByte? (text : List Char) : Option Nat :=
  if text = [] ∨ text.any (fun c => !c.isDigit) ∨ (text.head? = some '0' ∧ text ≠ ['0']) then none
  else
    let n := text.foldl (fun n c => 10 * n + (c.toNat - 48)) 0
    if n < 256 then some n else none

/-- Pairs between colons. The last two may be written as four bytes. -/
def readPairs? : List (List Char) → Option (List Nat)
  | [] => some []
  | [last] =>
    if last.contains '.' then do
      match ← (Text.pieces (· = '.') last).mapM readByte? with
      | [a, b, c, d] => some [256 * a + b, 256 * c + d]
      | _ => none
    else (readPair? last).map fun n => [n]
  | first :: rest => do
    let n ← readPair? first
    let others ← readPairs? rest
    return n :: others

/-- The text before and after the first two colons in a row. -/
def cutGap (before : List Char) : List Char → Option (List Char × List Char)
  | ':' :: ':' :: rest => some (before.reverse, rest)
  | c :: rest => cutGap (c :: before) rest
  | [] => none

def readSide? (text : List Char) : Option (List Nat) :=
  if text = [] then some [] else readPairs? (Text.pieces (· = ':') text)

/-- Eight pairs. A gap stands for at least one pair of zero, and four bytes only at the end. -/
def readEight? (text : List Char) : Option (List Nat) :=
  match cutGap [] text with
  | none => do
    let pairs ← readSide? text
    if pairs.length = 8 then some pairs else none
  | some (left, right) => do
    if left.contains '.' then none
    let left ← readSide? left
    let right ← readSide? right
    if 7 < left.length + right.length then none
    return left ++ List.replicate (8 - left.length - right.length) 0 ++ right

/-- The length of the run of zeros that begins a list. -/
def zeros (pairs : List Nat) : Nat := (pairs.takeWhile (· = 0)).length

/-- The first of the longest runs of zeros, if it has two at least. -/
def longestGap? (pairs : List Nat) : Option Nat :=
  let runs := (List.range pairs.length).map fun i => zeros (pairs.drop i)
  match runs.max? with
  | some longest => if longest < 2 then none else runs.findIdx? (· = longest)
  | none => none

def pairText (n : Nat) : String := String.ofList (Nat.toDigits 16 n)

def pairsText (pairs : List Nat) : String := String.intercalate ":" (pairs.map pairText)

/-- The longest run of zeros is written as a gap. -/
def eightText (pairs : List Nat) : String :=
  match longestGap? pairs with
  | none => pairsText pairs
  | some i => pairsText (pairs.take i) ++ "::" ++ pairsText (pairs.drop (i + zeros (pairs.drop i)))

end RelayStore.Url

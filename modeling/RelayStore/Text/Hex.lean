/-! Bytes as pairs of hexadecimal digits. -/
namespace RelayStore.Text

def hexDigitValue? (c : Char) : Option Nat :=
  let n := c.toNat
  if 48 ≤ n ∧ n ≤ 57 then some (n - 48)
  else if 65 ≤ n ∧ n ≤ 70 then some (n - 55)
  else if 97 ≤ n ∧ n ≤ 102 then some (n - 87)
  else none

def hexDigitChar (n : Nat) : Char :=
  if n < 10 then Char.ofNat (48 + n) else Char.ofNat (87 + n)

def encodeHexList : List UInt8 → List Char
  | [] => []
  | b :: bs => hexDigitChar (b.toNat / 16) :: hexDigitChar (b.toNat % 16) :: encodeHexList bs

/-- Two lower-case digits for each byte. -/
def encodeHex (bytes : List UInt8) : String := String.ofList (encodeHexList bytes)

def decodeHexList? : List Char → Option (List UInt8)
  | [] => some []
  | a :: b :: rest => do
    let high ← hexDigitValue? a
    let low ← hexDigitValue? b
    let bytes ← decodeHexList? rest
    return UInt8.ofNat (16 * high + low) :: bytes
  | [_] => none

/-- Digits may be of either case. -/
def decodeHex? (s : String) : Option (List UInt8) := decodeHexList? s.toList

end RelayStore.Text

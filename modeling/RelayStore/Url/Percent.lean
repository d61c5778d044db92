import RelayStore.Text.Hex

/-! Bytes written as percent signs with two digits. -/
namespace RelayStore.Url

def percentByte (b : UInt8) : List Char :=
  ['%', (Text.hexDigitChar (b.toNat / 16)).toUpper, (Text.hexDigitChar (b.toNat % 16)).toUpper]

/-- Writes the ASCII characters as they are that need not be encoded. -/
def percentEncode (isEncoded : Char → Bool) (text : List Char) : List Char :=
  (String.ofList text).toUTF8.toList.flatMap fun b =>
    let c := Char.ofNat b.toNat
    if b.toNat < 128 ∧ !isEncoded c then [c] else percentByte b

/-- A percent sign without two digits behind it stands for itself. -/
def percentDecode : List UInt8 → List UInt8
  | [] => []
  | [a] => [a]
  | [a, b] => [a, b]
  | a :: b :: c :: rest =>
    match decide (a.toNat = 37), Text.hexDigitValue? (Char.ofNat b.toNat),
      Text.hexDigitValue? (Char.ofNat c.toNat) with
    | true, some high, some low => .ofNat (16 * high + low) :: percentDecode rest
    | _, _, _ => a :: percentDecode (b :: c :: rest)

def isControl (c : Char) : Bool := decide (c.toNat < 32) || decide (127 ≤ c.toNat)

/-- What is encoded in a fragment, in a path, and in the name and password of a user. -/
def isEncodedInFragment (c : Char) : Bool :=
  isControl c || " \"<>".toList.contains c || c.toNat = 0x60

def isEncodedInPath (c : Char) : Bool := isEncodedInFragment c || "#?".toList.contains c ||
  c.toNat = 0x7b || c.toNat = 0x7d

def isEncodedInUser (c : Char) : Bool := isEncodedInPath c || "/:;=@[\\]^|".toList.contains c

end RelayStore.Url

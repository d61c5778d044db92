import RelayStore.Binary.LittleEndian
import RelayStore.Compress.Checksum
import RelayStore.Compress.Deflate

/-! Files in the gzip format: members one after the other, each with its own checksum. -/
namespace RelayStore.Compress.Gzip
open Binary

inductive Refusal where
  | notGzip
  | ended
  | incomplete
  | corrupt
  | longText
  | wrongChecksum
  deriving DecidableEq, Repr

def Refusal.message : Refusal → String
  | .notGzip => "invalid gzip header"
  | .ended => "unexpected end of file"
  | .incomplete => "incomplete deflate stream"
  | .corrupt => "corrupt deflate stream"
  | .longText => "gzip header field too long"
  | .wrongChecksum => "corrupt gzip stream does not have a matching checksum"

/-- What stops reading before the end of a file. -/
structure Stop where
  refusal : Refusal
  /-- Whether every further attempt to read is refused likewise. Otherwise the file ends there. -/
  repeats : Bool
  deriving DecidableEq, Repr

structure Contents where
  /-- The bytes that can be read. -/
  bytes : List UInt8 := []
  stop : Option Stop := none
  deriving DecidableEq, Repr

/-- Splits off the first bytes. -/
def takeBytes (n : Nat) (bytes : List UInt8) : Except Refusal (List UInt8 × List UInt8) :=
  if bytes.length < n then .error .ended else .ok (bytes.splitAt n)

/-- The most bytes that a text in a header may have. -/
def longestText : Nat := 65535

/-- Drops a text up to and with the zero behind it. -/
def skipText (bytes : List UInt8) : Except Refusal (List UInt8) :=
  let size := (bytes.takeWhile (· ≠ 0)).length
  if longestText < size then .error .longText
  else match bytes.drop size with
    | [] => .error .ended
    | _ :: rest => .ok rest

/-- The optional parts of the header, which the flags name. -/
def skipOptions (flags : Nat) (header rest : List UInt8) : Except Refusal (List UInt8) := do
  let start := header ++ rest
  let rest ← if flags.testBit 2 then do
      let (size, rest) ← takeBytes 2 rest
      (takeBytes (ofLittleEndian size) rest).map (·.2)
    else pure rest
  let rest ← if flags.testBit 3 then skipText rest else pure rest
  let rest ← if flags.testBit 4 then skipText rest else pure rest
  if flags.testBit 1 then
    let (sum, rest') ← takeBytes 2 rest
    let whole := checksum (start.take (start.length - rest.length))
    if ofLittleEndian sum ≠ whole.toNat % UInt16.size then .error .wrongChecksum
    return rest'
  else return rest

/-- The deflated data behind the header of a member. -/
def skipHeader (bytes : List UInt8) : Except Refusal (List UInt8) := do
  let (header, rest) ← takeBytes 10 bytes
  let flags := (header.getD 3 0).toNat
  if header.take 3 ≠ [0x1f, 0x8b, 8] ∨ 32 ≤ flags then .error .notGzip
  skipOptions flags header rest

/-- How many bytes of a file are read together. -/
def intake : Nat := 32768

/-- How many bytes are inflated together. -/
def window : Nat := 32768

/-- How many inflated bytes are asked for together. -/
def portion : Nat := 8192

/-- Why inflating pauses after some output. -/
inductive Pause where
  | inputUsed (out : Nat)
  | windowFull (out : Nat)
  deriving DecidableEq, Repr

def Pause.out : Pause → Nat
  | inputUsed n => n
  | windowFull n => n

/-- The output that is safe after a pause. A window that is full before a portion is does not end
the request that fills it. -/
def Pause.settle (safe : Nat) : Pause → Nat
  | inputUsed n => n
  | windowFull n => if portion ≤ n - safe then n else safe

/-- The pauses before a fault behind `total` bytes of output. The deflated data starts at an offset
in the file, and what is read together ends at the multiples of the intake. -/
def pauses (offset : Nat) (deflated : List UInt8) (total : Nat) : List Pause :=
  let inputs := (List.range ((offset + deflated.length) / intake + 1)).filterMap fun k =>
    let p := inflate (deflated.take (k * intake - offset))
    if p.flaw = some .ended then some (Pause.inputUsed p.out.size) else none
  let windows := (List.range ((total - 1) / window)).map fun k =>
    Pause.windowFull ((k + 1) * window)
  (inputs ++ windows).mergeSort fun a b => a.out ≤ b.out

/-- The output before a fault that is handed over. The fault takes back what goes with it. -/
def handedOver (offset : Nat) (deflated : List UInt8) (total : Nat) : Nat :=
  (pauses offset deflated total).foldl Pause.settle 0

/-- One member at an offset in the file, and the bytes behind it. A reader does not come past what
is wrong, but for the header of the first member and the checksum of any. -/
def member (offset : Nat) (bytes : List UInt8) : Contents × List UInt8 :=
  match skipHeader bytes with
  | .error r => (⟨[], some ⟨r, 0 < offset⟩⟩, [])
  | .ok deflated =>
    let p := inflate deflated
    let out := p.out.toList
    match p.flaw with
    | some .corrupt =>
      let start := offset + (bytes.length - deflated.length)
      (⟨out.take (handedOver start deflated out.length), some ⟨.corrupt, true⟩⟩, [])
    | some .ended => (⟨out, some ⟨.incomplete, true⟩⟩, [])
    | none =>
      match takeBytes 8 (deflated.drop (deflated.length - p.bits.length / 8)) with
      | .error r => (⟨out, some ⟨r, true⟩⟩, [])
      | .ok (trailer, rest) =>
        let size := out.length % UInt32.size
        if ofLittleEndian trailer = (checksum out).toNat + UInt32.size * size then
          (⟨out, none⟩, rest)
        else (⟨out, some ⟨.wrongChecksum, false⟩⟩, [])

/-- All members from an offset on. Each has bytes of its own, which the first number counts. -/
def members : Nat → (offset : Nat) → List UInt8 → Contents
  | 0, _, _ => {}
  | fuel + 1, offset, bytes =>
    let (c, rest) := member offset bytes
    if c.stop.isSome ∨ rest = [] then c
    else
      let d := members fuel (offset + (bytes.length - rest.length)) rest
      ⟨c.bytes ++ d.bytes, d.stop⟩

/-- The contents of a file, which has one member at least. -/
def decode (bytes : List UInt8) : Contents := members (bytes.length + 1) 0 bytes

/-- A member of its own, without a name or a time. -/
def encode (bytes : List UInt8) : List UInt8 :=
  [0x1f, 0x8b, 8, 0, 0, 0, 0, 0, 0, 0xff] ++ deflate bytes ++
    littleEndian 4 (checksum bytes).toNat ++ littleEndian 4 bytes.length

end RelayStore.Compress.Gzip

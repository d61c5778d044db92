import RelayStore.Compress.CodeTree

/-! Reading of deflated data. -/
namespace RelayStore.Compress

/-- The bits of bytes, the lowest bit of a byte first. -/
def bitsOf : List UInt8 → List Bool
  | [] => []
  | b :: rest => (List.range 8).map b.toNat.testBit ++ bitsOf rest

/-- The number of `n` bits, the lowest first. -/
def readBits : Nat → List Bool → Except Flaw (Nat × List Bool)
  | 0, bits => .ok (0, bits)
  | _ + 1, [] => .error .ended
  | n + 1, bit :: bits => do
    let (v, rest) ← readBits n bits
    return (2 * v + bit.toNat, rest)

/-- Where reading stopped: all bytes so far and the bits behind them, or what is wrong there. -/
structure Progress where
  out : Array UInt8 := #[]
  bits : List Bool
  flaw : Option Flaw := none

namespace Progress

def fail (p : Progress) (f : Flaw) : Progress := { p with flaw := some f }

/-- Repeats what was written `distance` bytes ago. Before the first byte there are zeros. -/
def copy (distance : Nat) : Nat → Array UInt8 → Array UInt8
  | 0, out => out
  | n + 1, out =>
    copy distance n (out.push (if distance ≤ out.size then out.getD (out.size - distance) 0 else 0))

def lengthBase : Array Nat :=
  #[3, 4, 5, 6, 7, 8, 9, 10, 11, 13, 15, 17, 19, 23, 27, 31, 35, 43, 51, 59, 67, 83, 99, 115, 131,
    163, 195, 227, 258]

def lengthExtra : Array Nat :=
  #[0, 0, 0, 0, 0, 0, 0, 0, 1, 1, 1, 1, 2, 2, 2, 2, 3, 3, 3, 3, 4, 4, 4, 4, 5, 5, 5, 5, 0]

def distanceBase : Array Nat :=
  #[1, 2, 3, 4, 5, 7, 9, 13, 17, 25, 33, 49, 65, 97, 129, 193, 257, 385, 513, 769, 1025, 1537, 2049,
    3073, 4097, 6145, 8193, 12289, 16385, 24577]

def distanceExtra : Array Nat :=
  #[0, 0, 0, 0, 1, 1, 2, 2, 3, 3, 4, 4, 5, 5, 6, 6, 7, 7, 8, 8, 9, 9, 10, 10, 11, 11, 12, 12, 13,
    13]

/-- A base with the extra bits of its symbol. -/
def readExtended (base extra : Array Nat) (symbol : Nat) (bits : List Bool) :
    Except Flaw (Nat × List Bool) :=
  match base[symbol]?, extra[symbol]? with
  | some b, some n => do
    let (v, bits) ← readBits n bits
    return (b + v, bits)
  | _, _ => .error .corrupt

/-- A length and the distance behind it. -/
def readMatch (distances : CodeTree) (symbol : Nat) (bits : List Bool) :
    Except Flaw (Nat × Nat × List Bool) := do
  let (length, bits) ← readExtended lengthBase lengthExtra symbol bits
  let (s, bits) ← distances.read bits
  let (distance, bits) ← readExtended distanceBase distanceExtra s bits
  return (length, distance, bits)

/-- Symbols up to the end of the block. Each takes a bit at least, which the first number counts. -/
def symbols (literals distances : CodeTree) : Nat → Progress → Progress
  | 0, p => p.fail .ended
  | fuel + 1, p =>
    match literals.read p.bits with
    | .error f => p.fail f
    | .ok (s, bits) =>
      if s < 256 then
        symbols literals distances fuel { p with out := p.out.push (.ofNat s), bits := bits }
      else if s = 256 then { p with bits := bits }
      else match readMatch distances (s - 257) bits with
        | .error f => p.fail f
        | .ok (length, distance, bits) =>
          symbols literals distances fuel { p with out := copy distance length p.out, bits := bits }

def readBytes : Nat → List Bool → Except Flaw (List UInt8 × List Bool)
  | 0, bits => .ok ([], bits)
  | n + 1, bits => do
    let (b, bits) ← readBits 8 bits
    let (rest, bits) ← readBytes n bits
    return (.ofNat b :: rest, bits)

/-- The bits from the next byte on. -/
def align (bits : List Bool) : List Bool := bits.drop (bits.length % 8)

/-- Bytes as they are, after their number and its complement. -/
def stored (p : Progress) : Progress :=
  match readBits 16 (align p.bits) >>= fun (n, bits) => (readBits 16 bits).map fun r => (n, r) with
  | .error f => p.fail f
  | .ok (n, complement, bits) =>
    if n + complement ≠ 0xffff then p.fail .corrupt
    else
      let taken := min n (bits.length / 8)
      match readBytes taken bits with
      | .error f => p.fail f
      | .ok (bytes, rest) =>
        let q := { p with out := p.out ++ bytes.toArray, bits := rest }
        if taken < n then q.fail .ended else q

def fixedLiterals : List Nat :=
  List.replicate 144 8 ++ List.replicate 112 9 ++ List.replicate 24 7 ++ List.replicate 8 8

/-- The order in which a block gives the lengths of its code of lengths. -/
def lengthOrder : List Nat := [16, 17, 18, 0, 8, 7, 9, 6, 10, 5, 11, 4, 12, 3, 13, 2, 14, 1, 15]

def readLengthCode : List Nat → Nat → Array Nat → List Bool → Except Flaw (Array Nat × List Bool)
  | position :: order, n + 1, lengths, bits => do
    let (v, bits) ← readBits 3 bits
    readLengthCode order n (lengths.setIfInBounds position v) bits
  | _, _, lengths, bits => .ok (lengths, bits)

/-- Lengths of code words, runs of them shortened, until there are `count`. -/
def readLengths (code : CodeTree) (count : Nat) :
    Nat → Array Nat → List Bool → Except Flaw (Array Nat × List Bool)
  | 0, _, _ => .error .ended
  | fuel + 1, lengths, bits =>
    if lengths.size = count then .ok (lengths, bits)
    else if count < lengths.size then .error .corrupt
    else do
      let (s, bits) ← code.read bits
      if s < 16 then readLengths code count fuel (lengths.push s) bits
      else if s = 16 then
        match lengths.back? with
        | none => .error .corrupt
        | some last =>
          let (n, bits) ← readBits 2 bits
          readLengths code count fuel (lengths ++ Array.replicate (n + 3) last) bits
      else
        let (n, bits) ← if s = 17 then readBits 3 bits
          else (readBits 7 bits).map fun r => (r.1 + 8, r.2)
        readLengths code count fuel (lengths ++ Array.replicate (n + 3) 0) bits

/-- The two codes of a block that brings its own. -/
def readCodes (bits : List Bool) : Except Flaw (CodeTree × CodeTree × List Bool) := do
  let (literals, bits) ← readBits 5 bits
  let (distances, bits) ← readBits 5 bits
  let (n, bits) ← readBits 4 bits
  if 29 < literals ∨ 29 < distances then .error .corrupt
  let (lengths, bits) ← readLengthCode lengthOrder (n + 4) (Array.replicate 19 0) bits
  if ¬ CodeTree.isComplete lengths.toList then .error .corrupt
  let code ← CodeTree.ofLengths lengths.toList
  let literals := literals + 257
  let count := literals + distances + 1
  let (lengths, bits) ← readLengths code count (count + 1) #[] bits
  let lengths := lengths.toList
  return (← CodeTree.ofLengths (lengths.take literals),
    ← CodeTree.ofLengths (lengths.drop literals), bits)

def codes (kind : Nat) (bits : List Bool) : Except Flaw (CodeTree × CodeTree × List Bool) :=
  if kind = 1 then do
    return (← CodeTree.ofLengths fixedLiterals, ← CodeTree.ofLengths (List.replicate 32 5), bits)
  else if kind = 2 then readCodes bits
  else .error .corrupt

/-- One block, and whether it is the last one. -/
def block (p : Progress) : Progress × Bool :=
  match readBits 1 p.bits >>= fun (last, bits) => (readBits 2 bits).map fun r => (last, r) with
  | .error f => (p.fail f, true)
  | .ok (last, kind, bits) =>
    let p := { p with bits := bits }
    if kind = 0 then (p.stored, last = 1)
    else match codes kind bits with
      | .error f => (p.fail f, true)
      | .ok (literals, distances, bits) =>
        (symbols literals distances (bits.length + 1) { p with bits := bits }, last = 1)

def blocks : Nat → Progress → Progress
  | 0, p => p.fail .ended
  | fuel + 1, p =>
    let (q, last) := p.block
    if q.flaw.isSome ∨ last then q else blocks fuel q

end Progress

/-- The bytes that are deflated at the start of the given ones. The rest starts at a whole byte. -/
def inflate (bytes : List UInt8) : Progress :=
  let bits := bitsOf bytes
  let p := Progress.blocks (bits.length + 1) { bits := bits }
  { p with bits := Progress.align p.bits }

end RelayStore.Compress

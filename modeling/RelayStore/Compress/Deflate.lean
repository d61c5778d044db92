import RelayStore.Compress.Inflate
import RelayStore.Compress.Matches

/-! Deflating of data, in one block. -/
namespace RelayStore.Compress

/-! Lengths of code words, short ones for frequent symbols. -/

/-- Symbols brought together, with the lengths of their words below the common node. -/
structure Cluster where
  weight : Nat
  depths : List Nat

/-- Takes the lighter head of two queues, on a tie that of the first. -/
def Cluster.pop : List Cluster → List Cluster → Option (Cluster × List Cluster × List Cluster)
  | a :: as, b :: bs => if b.weight < a.weight then some (b, a :: as, bs) else some (a, as, b :: bs)
  | a :: as, [] => some (a, as, [])
  | [], b :: bs => some (b, [], bs)
  | [], [] => none

/-- Brings the two lightest together until one is left. -/
def Cluster.depthsOf : Nat → List Cluster → List Cluster → List Nat
  | 0, _, _ => []
  | fuel + 1, leaves, nodes =>
    match pop leaves nodes with
    | none => []
    | some (a, leaves, nodes) =>
      match pop leaves nodes with
      | none => a.depths
      | some (b, leaves, nodes) =>
        let c := ⟨a.weight + b.weight, (a.depths ++ b.depths).map (· + 1)⟩
        depthsOf fuel leaves (nodes ++ [c])

/-- Lengthens the longest word below the limit, so that a word of the longest length is free. -/
def makeRoom (limit : Nat) (counts : Array Nat) : Array Nat :=
  match ((List.range limit).filter fun i => 0 < i ∧ 0 < counts.getD i 0).getLast? with
  | none => counts
  | some i =>
    let counts := counts.modify limit (· - 1)
    (counts.modify i (· - 1)).modify (i + 1) (· + 2)

/-- How many words there are of each length, none above the limit. -/
def countsOf (limit : Nat) (depths : List Nat) : Array Nat :=
  let counts := depths.foldl (fun c d => c.modify (min d limit) (· + 1))
    (Array.replicate (limit + 1) 0)
  let space := (depths.map fun d => 1 <<< (limit - min d limit)).foldl (· + ·) 0
  if depths.length ≤ 1 then counts else Nat.repeat (makeRoom limit) (space - (1 <<< limit)) counts

/-- The lengths of the words of symbols that occur so often. -/
def codeLengths (limit : Nat) (occurrences : List Nat) : List Nat :=
  let used := ((occurrences.zipIdx.filter fun p => 0 < p.1).mergeSort fun a b => a.1 ≤ b.1)
  let leaves := used.map fun p => Cluster.mk p.1 [0]
  let depths := match used with
    | [_] => [1]
    | _ => Cluster.depthsOf (used.length + 1) leaves []
  let counts := countsOf limit depths
  let lengths := (List.range (limit + 1)).flatMap fun n => List.replicate (counts.getD n 0) n
  ((used.reverse.zip lengths).foldl (fun a p => a.setIfInBounds p.1.2 p.2)
    (Array.replicate occurrences.length 0)).toList

/-- The words by their symbols. -/
def codeBook (lengths : List Nat) : Array (List Bool) :=
  (CodeTree.words lengths).foldl (fun a w => a.setIfInBounds w.2 w.1)
    (Array.replicate lengths.length [])

/-! Blocks. -/

/-- The `n` lowest bits of a number, the lowest first. -/
def bitsOfNat (n v : Nat) : List Bool := (List.range n).map v.testBit

/-- The last place whose base is not above a value, and the rest of the value. -/
def placeOf (base : Array Nat) (v : Nat) : Nat × Nat :=
  let i := base.toList.countP (· ≤ v) - 1
  (i, v - base.getD i 0)

/-- The symbols of a token, each with its extra bits: of literals and lengths, of distances. -/
def Token.symbols : Token → (Nat × List Bool) × Option (Nat × List Bool)
  | literal b => ((b.toNat, []), none)
  | repetition length distance =>
    let (l, lengthRest) := placeOf Progress.lengthBase length
    let (d, distanceRest) := placeOf Progress.distanceBase distance
    ((257 + l, bitsOfNat (Progress.lengthExtra.getD l 0) lengthRest),
      some (d, bitsOfNat (Progress.distanceExtra.getD d 0) distanceRest))

def occurrences (size : Nat) (symbols : List Nat) : List Nat :=
  (symbols.foldl (fun (a : Array Nat) s => a.modify s (· + 1)) (Array.replicate size 0)).toList

def endOfBlock : Nat := 256

/-- Tokens in the words of two codes, up to the end of the block. -/
def writeTokens (literals distances : Array (List Bool)) (tokens : List Token) : List Bool :=
  tokens.flatMap (fun t =>
    let ((s, extra), distance) := t.symbols
    literals.getD s [] ++ extra ++ match distance with
      | some (d, extra) => distances.getD d [] ++ extra
      | none => []) ++ literals.getD endOfBlock []

/-- A run of `n` lengths, in parts of at most 6, or 138 of zeros, as symbols with extra bits. -/
def runSymbols (length : Nat) : Nat → Nat → List (Nat × List Bool)
  | 0, _ => []
  | fuel + 1, n =>
    if n = 0 then []
    else if n < 3 then List.replicate n (length, [])
    else if length = 0 then
      let part := min n 138
      (if part ≤ 10 then (17, bitsOfNat 3 (part - 3)) else (18, bitsOfNat 7 (part - 11))) ::
        runSymbols length fuel (n - part)
    else
      let part := min n 6
      (16, bitsOfNat 2 (part - 3)) :: runSymbols length fuel (n - part)

/-- Lengths with their runs shortened. What is not 0 stands once before its repetitions. -/
def packLengths (lengths : List Nat) : List (Nat × List Bool) :=
  (lengths.splitBy (· == ·)).flatMap fun run =>
    match run with
    | [] => []
    | 0 :: _ => runSymbols 0 run.length run.length
    | length :: rest => (length, []) :: runSymbols length rest.length rest.length

/-- The list without zeros at its end, but with `least` elements. -/
def trimZeros (least : Nat) (xs : List Nat) : List Nat :=
  xs.take (max least (xs.length - (xs.reverse.takeWhile (· = 0)).length))

/-- A block with the code that everything knows. -/
def fixedBlock (tokens : List Token) : List Bool :=
  bitsOfNat 2 1 ++
    writeTokens (codeBook Progress.fixedLiterals) (codeBook (List.replicate 32 5)) tokens

/-- A block with a code of its own. -/
def ownBlock (tokens : List Token) : List Bool :=
  let symbols := tokens.map Token.symbols
  let literals := codeLengths 15 (occurrences 286 (endOfBlock :: symbols.map fun s => s.1.1))
  let distances := codeLengths 15 (occurrences 30 (symbols.filterMap fun s => s.2.map Prod.fst))
  let literals := trimZeros 257 literals
  let distances := trimZeros 1 distances
  let packed := packLengths (literals ++ distances)
  let lengths := codeLengths 7 (occurrences 19 (packed.map Prod.fst))
  let shown := trimZeros 4 (Progress.lengthOrder.map fun i => lengths.getD i 0)
  let words := codeBook lengths
  bitsOfNat 2 2 ++ bitsOfNat 5 (literals.length - 257) ++ bitsOfNat 5 (distances.length - 1) ++
    bitsOfNat 4 (shown.length - 4) ++ shown.flatMap (bitsOfNat 3) ++
    packed.flatMap (fun p => words.getD p.1 [] ++ p.2) ++
    writeTokens (codeBook literals) (codeBook distances) tokens

/-- Bytes as they are. They follow at the next whole byte, three bits being taken. -/
def storedBlock (bytes : List UInt8) : List Bool :=
  bitsOfNat 7 0 ++ bitsOfNat 16 bytes.length ++ bitsOfNat 16 (0xffff - bytes.length) ++ bitsOf bytes

/-- The bytes of bits, the last one filled up with zeros. -/
def bytesOf (bits : List Bool) : List UInt8 :=
  go bits.length bits
where
  go : Nat → List Bool → List UInt8
    | 0, _ => []
    | _ + 1, [] => []
    | fuel + 1, bits =>
      .ofNat ((bits.take 8).foldr (fun b n => b.toNat + 2 * n) 0) :: go fuel (bits.drop 8)

/-- A code of its own pays from 48 bytes on; data that does not shrink stays as it is. -/
def deflate (bytes : List UInt8) : List UInt8 :=
  let tokens := Token.ofBytes bytes
  let block := if bytes.length < 48 then fixedBlock tokens else ownBlock tokens
  let grows := bytes ≠ [] ∧ bytes.length ≤ (block.length + 1) / 8 + 1
  bytesOf (true :: if grows then storedBlock bytes else block)

end RelayStore.Compress

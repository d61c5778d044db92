/-! Codes in which no code word begins another one, given by the lengths of the words. -/
namespace RelayStore.Compress

/-- Why compressed data cannot be read. -/
inductive Flaw where
  | ended
  | corrupt
  deriving DecidableEq, Repr

inductive CodeTree where
  | empty
  | leaf (symbol : Nat)
  | node (zero one : CodeTree)
  deriving DecidableEq, Repr

namespace CodeTree

def read : CodeTree → List Bool → Except Flaw (Nat × List Bool)
  | empty, _ => .error .corrupt
  | leaf s, bits => .ok (s, bits)
  | node _ _, [] => .error .ended
  | node zero one, bit :: bits => (if bit then one else zero).read bits

def insert (symbol : Nat) : List Bool → CodeTree → CodeTree
  | [], _ => leaf symbol
  | bit :: bits, node zero one =>
    if bit then node zero (one.insert symbol bits) else node (zero.insert symbol bits) one
  | bit :: bits, _ =>
    if bit then node empty (empty.insert symbol bits) else node (empty.insert symbol bits) empty

/-- The `length` lowest bits of a number, the highest first. -/
def word : (length : Nat) → Nat → List Bool
  | 0, _ => []
  | n + 1, code => code.testBit n :: word n code

/-- The longest code word. -/
def maxLength : Nat := 15

/-- The first code word of each length: the words of a length follow those of the shorter ones. -/
def firstWords (lengths : List Nat) : List Nat :=
  (List.range maxLength).scanl (fun code n => 2 * (code + lengths.countP (· = n + 1))) 0

/-- Words with their symbols, in the order of the symbols. A length of 0 means no word. -/
def words (lengths : List Nat) : List (List Bool × Nat) :=
  (go (firstWords lengths).toArray 0 lengths)
where
  go (next : Array Nat) (symbol : Nat) : List Nat → List (List Bool × Nat)
    | [] => []
    | length :: rest =>
      if length = 0 then go next (symbol + 1) rest
      else
        let code := next.getD (length - 1) 0
        (word length code, symbol) ::
          go (next.setIfInBounds (length - 1) (code + 1)) (symbol + 1) rest

/-- How much of the space of words is taken, in units of the longest word. -/
def taken (lengths : List Nat) : Nat :=
  (lengths.map fun n => if n = 0 then 0 else 1 <<< (maxLength - n)).foldl (· + ·) 0

/-- No word is left over, and none could be added. -/
def isComplete (lengths : List Nat) : Bool := taken lengths = 1 <<< maxLength

/-- A code is complete, has no words, or has a single word of one bit. Where there are no words, one
bit shows that a word is wanted. -/
def ofLengths (lengths : List Nat) : Except Flaw CodeTree :=
  match lengths.filter (0 < ·) with
  | [] => .ok (node empty empty)
  | used =>
    if isComplete lengths ∨ used = [1] then
      .ok ((words lengths).foldl (fun t w => t.insert w.2 w.1) empty)
    else .error .corrupt

end CodeTree
end RelayStore.Compress

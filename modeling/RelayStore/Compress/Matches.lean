/-! Finding of repetitions in data. -/
namespace RelayStore.Compress

inductive Token where
  | literal (b : UInt8)
  | repetition (length distance : Nat)
  deriving DecidableEq, Repr

namespace Token

def maxMatch : Nat := 258

/-- Data with, for each position, the last one before it that starts alike; 0 is none. -/
structure Chains where
  data : Array UInt8
  previous : Array Nat

/-- A hash of three bytes with 15 bits. -/
def hash (a b c : UInt8) : Nat := (a.toNat <<< 10 ^^^ b.toNat <<< 5 ^^^ c.toNat) % 32768

def Chains.ofData (data : Array UInt8) : Chains :=
  let link (s : Array Nat × Array Nat) (p : Nat) : Array Nat × Array Nat :=
    let h := hash (data.getD p 0) (data.getD (p + 1) 0) (data.getD (p + 2) 0)
    (s.1.setIfInBounds h p, s.2.push (s.1.getD h 0))
  ⟨data, ((List.range (data.size - 2)).foldl link (Array.replicate 32768 0, #[])).2⟩

/-- How many bytes at two positions agree, up to a limit. -/
def agreement (data : Array UInt8) (p q : Nat) : Nat → Nat
  | 0 => 0
  | n + 1 => if data[p]? = data[q]? then agreement data (p + 1) (q + 1) n + 1 else 0

/-- A length and a distance. A distance of 0 stands for no repetition. -/
abbrev Found := Nat × Nat

/-- Follows a chain from `q` for something longer than `best` at `p`, three places at a time. -/
def Chains.search (c : Chains) (p longest reach : Nat) (groups places q : Nat) (best : Found) :
    Found :=
  match places with
  | 0 => if groups ≤ 1 then best else c.search p longest reach (groups - 1) 3 q best
  | places + 1 =>
    let q := c.previous.getD q 0
    if q = 0 ∨ reach < p - q then best
    else if c.data[q + best.1]? ≠ c.data[p + best.1]? ∨
        c.data[q + best.1 - 1]? ≠ c.data[p + best.1 - 1]? then
      c.search p longest reach groups places q best
    else
      let length := agreement c.data p q longest
      let best := if best.1 < length then (length, p - q) else best
      if best.1 = longest then best else c.search p longest reach groups 0 q best
termination_by 4 * groups + places

/-- The best repetition at a position that is longer than `known`. Short ones from far away are not
worth it, and none reaches back to the very start. -/
def Chains.find (c : Chains) (p known : Nat) : Found :=
  let longest := min maxMatch (c.data.size - p)
  if longest ≤ known then (known, 0)
  else
    let found := c.search p longest (min p (32768 - longest)) (if known < 32 then 44 else 12) 0 p
      (known, 0)
    if found.1 = 3 ∧ 8192 ≤ found.2 ∨ found.2 = p % 32768 then (0, 0) else found

/-- Cuts data from a position on. A repetition is used once the next position has no longer one. -/
def Chains.cut (c : Chains) : Nat → Nat → Option Found → List Token
  | 0, _, _ => []
  | fuel + 1, p, kept =>
    if c.data.size ≤ p then []
    else
      let byte (p : Nat) := literal (c.data.getD p 0)
      match kept, c.find p ((kept.map Prod.fst).getD 2) with
      | none, (length, distance) =>
        if distance = 0 then byte p :: c.cut fuel (p + 1) none
        else if 128 ≤ length then repetition length distance :: c.cut fuel (p + length) none
        else c.cut fuel (p + 1) (some (length, distance))
      | some (l, d), (length, distance) =>
        if l < length then
          if 128 ≤ length then
            byte (p - 1) :: repetition length distance :: c.cut fuel (p + length) none
          else byte (p - 1) :: c.cut fuel (p + 1) (some (length, distance))
        else repetition l d :: c.cut fuel (p + l - 1) none

def ofBytes (bytes : List UInt8) : List Token :=
  let data := bytes.toArray
  (Chains.ofData data).cut (data.size + 1) 0 none

end Token
end RelayStore.Compress

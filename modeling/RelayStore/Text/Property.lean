import RelayStore.Text.Hex
import RelayStore.Text.Pieces

/-! Properties of characters, written down as the places where their values change. -/
namespace RelayStore.Text

/-- The value from a character on: a mark with numbers behind it. -/
structure Change where
  first : Nat
  mark : Char
  numbers : List Nat
  deriving DecidableEq, Repr, Inhabited

/-- The number of hexadecimal digits. Other characters count as zeros. -/
def hexNumber (digits : List Char) : Nat :=
  digits.foldl (fun n c => 16 * n + (hexDigitValue? c).getD 0) 0

/-- A place in hexadecimal, a mark, and numbers in hexadecimal between points. -/
def Change.ofWord? (word : List Char) : Option Change :=
  let isDigit (c : Char) : Bool := c.isDigit || (decide ('a' ≤ c) && decide (c ≤ 'f'))
  match word.dropWhile isDigit with
  | [] => none
  | mark :: rest =>
    some ⟨hexNumber (word.takeWhile isDigit), mark,
      if rest = [] then [] else (pieces (· = '.') rest).map hexNumber⟩

structure Property where
  changes : Array Change
  deriving Inhabited

namespace Property

/-- The changes are words in the order of their places. -/
def ofText (text : String) : Property :=
  ⟨((pieces (fun c => c = ' ' || c = '\n') text.toList).filterMap Change.ofWord?).toArray⟩

/-- How many of `count` changes from `low` on are not behind a place, and all before them. -/
def countUpTo (p : Property) (place low count : Nat) : Nat :=
  if count = 0 then low
  else
    let half := count / 2
    if p.changes[low + half]!.first ≤ place then
      p.countUpTo place (low + half + 1) (count - half - 1)
    else p.countUpTo place low half
termination_by count

/-- The last change that is not behind a character. -/
def find? (p : Property) (c : Char) : Option Change :=
  match p.countUpTo c.toNat 0 p.changes.size with
  | 0 => none
  | n + 1 => p.changes[n]?

/-- The mark of a character's value. -/
def mark? (p : Property) (c : Char) : Option Char := (p.find? c).map Change.mark

end Property
end RelayStore.Text

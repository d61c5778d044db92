import RelayStore.Domain.Direction
import RelayStore.Domain.Joining
import RelayStore.Domain.Mapping
import RelayStore.Domain.Punycode

/-! Domain names of any characters, and their form in ASCII. -/
namespace RelayStore.Domain

/-- A label in ASCII, and the characters that it stands for. -/
structure Label where
  ascii : List Char
  text : List Char
  deriving DecidableEq, Repr

def escape : List Char := "xn--".toList

/-- The longest label that is encoded, and the longest one that is decoded. -/
def longestText : Nat := 1000
def longestCode : Nat := 2000

/-- A label begins with no mark, and has its joiners where they belong. -/
def isWellFormed (text : List Char) : Bool := !text.head?.any isMark && areJoinersRight [] text

/-- A label with an escape has to stand for a text that cannot be written without it. -/
def decodeLabel? (label : List Char) : Option Label := do
  let code := label.drop escape.length
  if longestCode < code.length ∨ !label.all Punycode.isAscii then none
  let text ← Punycode.decode? code
  if text.all Punycode.isAscii ∨ escape.isPrefixOf text then none
  if !text.all isValid ∨ normalized text ≠ text ∨ !isWellFormed text then none
  return ⟨label, text⟩

def Label.ofText? (text : List Char) : Option Label :=
  if escape.isPrefixOf text then decodeLabel? text
  else if text.all Punycode.isAscii then some ⟨text, text⟩
  else if text.length ≤ longestText ∧ isWellFormed text then
    some ⟨escape ++ Punycode.encode text, text⟩
  else none

/-- Controls, blanks and the characters that part a URL. -/
def isForbidden (c : Char) : Bool :=
  decide (c.toNat ≤ 32) || c.toNat = 127 || "#/:<>?@[\\]^|%".toList.contains c

/-- The labels of a name. -/
def labels? (text : List Char) : Option (List Label) := do
  let text := normalized (← meaningOf? text)
  if text.any isForbidden then none
  let labels ← (Text.pieces (· = '.') text).mapM Label.ofText?
  let texts := labels.map Label.text
  if texts.any turnsLeft ∧ !texts.all isOneWay then none
  return labels

/-- A name in ASCII. -/
def ascii? (text : List Char) : Option (List Char) :=
  (labels? text).map fun labels => (labels.map Label.ascii).intersperse ['.'] |>.flatten

end RelayStore.Domain

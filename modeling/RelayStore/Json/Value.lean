import RelayStore.Json.Number
import RelayStore.Decimal.Shortest
import RelayStore.Text.Hex

/-! JSON values and the compact text they are written as. -/
namespace RelayStore.Json

inductive Value where
  | null
  | bool (b : Bool)
  | number (n : Number)
  | string (s : String)
  | array (items : List Value)
  | object (members : List (String × Value))
  deriving Repr

namespace Value

def nat (n : Nat) : Value := .number (.whole n)

def strings (xs : List String) : Value := .array (xs.map .string)

end Value

/-- A character inside a string literal: only quotes, backslashes and the characters below U+0020
are escaped. -/
def escapeChar (c : Char) : List Char :=
  if c = '"' then ['\\', '"']
  else if c = '\\' then ['\\', '\\']
  else if c.toNat = 8 then ['\\', 'b']
  else if c.toNat = 9 then ['\\', 't']
  else if c.toNat = 10 then ['\\', 'n']
  else if c.toNat = 12 then ['\\', 'f']
  else if c.toNat = 13 then ['\\', 'r']
  else if c.toNat < 32 then
    ['\\', 'u', '0', '0', Text.hexDigitChar (c.toNat / 16), Text.hexDigitChar (c.toNat % 16)]
  else [c]

def printString (s : String) : List Char := '"' :: s.toList.flatMap escapeChar ++ ['"']

def Number.print : Number → List Char
  | .whole n => Nat.toDigits 10 n
  | .negative n => '-' :: Nat.toDigits 10 n
  | .real bits => (Decimal.text (Float.ofBits bits)).toList

mutual

def Value.print : Value → List Char
  | .null => ['n', 'u', 'l', 'l']
  | .bool true => ['t', 'r', 'u', 'e']
  | .bool false => ['f', 'a', 'l', 's', 'e']
  | .number n => n.print
  | .string s => printString s
  | .array [] => ['[', ']']
  | .array (v :: vs) => '[' :: v.print ++ printItems vs
  | .object [] => ['\x7b', '\x7d']
  | .object ((k, v) :: ms) => '\x7b' :: printString k ++ ':' :: v.print ++ printMembers ms

/-- The items after the first and the closing bracket. -/
def printItems : List Value → List Char
  | [] => [']']
  | v :: vs => ',' :: v.print ++ printItems vs

def printMembers : List (String × Value) → List Char
  | [] => ['\x7d']
  | (k, v) :: ms => ',' :: printString k ++ ':' :: v.print ++ printMembers ms

end

/-- The compact text of a value: no blanks, members in their order. -/
def Value.text (v : Value) : String := String.ofList v.print

end RelayStore.Json

import RelayStore.Domain.Name
import RelayStore.Url.Number
import RelayStore.Url.Percent

/-! Hosts of URLs. -/
namespace RelayStore.Url

/-- Why a text is no URL. -/
inductive Fault where
  | noScheme
  | noHost
  | badDomain
  | badFour
  | badEight
  | badCharacter
  | badSocket
  deriving DecidableEq, Repr

def Fault.message : Fault → String
  | .noScheme => "relative URL without a base"
  | .noHost => "empty host"
  | .badDomain => "invalid international domain name"
  | .badFour => "invalid IPv4 address"
  | .badEight => "invalid IPv6 address"
  | .badCharacter => "invalid domain character"
  | .badSocket => "invalid port number"

inductive Host where
  | name (text : String)
  | four (number : Nat)
  | eight (pairs : List Nat)
  deriving DecidableEq, Repr

namespace Host

/-- An address of eight pairs stands in brackets. -/
def text : Host → String
  | name s => s
  | four n => fourText n
  | eight pairs => "[" ++ eightText pairs ++ "]"

/-- The text to look up. -/
def bare : Host → String
  | eight pairs => eightText pairs
  | h => h.text

def ofBrackets (text : List Char) : Except Fault Host :=
  if text.getLast? = some ']' then
    match readEight? (text.drop 1).dropLast with
    | some pairs => .ok (eight pairs)
    | none => .error .badEight
  else .error .badEight

/-- A name that can be looked up, or an address. -/
def ofText (text : List Char) : Except Fault Host :=
  if text.head? = some '[' then ofBrackets text
  else
    let bytes := percentDecode (String.ofList text).toUTF8.toList
    match (String.fromUTF8? ⟨bytes.toArray⟩).bind fun s => Domain.ascii? s.toList with
    | none => .error .badDomain
    | some [] => .error .noHost
    | some ascii =>
      if endsInNumber ascii then
        match readFour? ascii with
        | some n => .ok (four n)
        | none => .error .badFour
      else .ok (name (String.ofList ascii))

def isForbidden (c : Char) : Bool := c.toNat = 0 || " #/:<>?@[\\]^|".toList.contains c

/-- A name for schemes that nothing is known about. It may be empty. -/
def ofOpaque (text : List Char) : Except Fault Host :=
  if text.head? = some '[' then ofBrackets text
  else if text.any isForbidden then .error .badCharacter
  else .ok (name (String.ofList (percentEncode isControl text)))

end Host
end RelayStore.Url

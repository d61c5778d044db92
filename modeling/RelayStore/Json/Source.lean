import RelayStore.Json.Number
import RelayStore.Text.Hex

/-!
A JSON text read from left to right into a tree that keeps the place where it is broken. A reader of
records walks the tree in the order of the text, so of several problems it meets the first one; a
part it has no use for is only skipped, and a skipped part is held to fewer rules.
-/
namespace RelayStore.Json

/-- A value of the text. `none` as a number is one too large for a double; a string that can only be
skipped holds its fault; `stop` is the flaw that broke a list off. -/
inductive Node where
  | null
  | bool (b : Bool)
  | number (n : Option Number)
  | string (s : Except Fault String)
  | array (items : List Node) (stop : Option Flaw)
  | object (members : List (Except Fault String × Node)) (stop : Option Flaw)
  | broken (flaw : Flaw)

def isSpace (c : Char) : Bool := c = ' ' || c = '\t' || c = '\n' || c = '\r'

def skipSpace (cs : List Char) : List Char := cs.dropWhile isSpace

def utf8Length (cs : List Char) : Nat := (cs.map Char.utf8Size).foldl (· + ·) 0

/-- The four hexadecimal digits of an escape. The text has ended too early when fewer than four
bytes are left. -/
def hexEscape (cs : List Char) : Except Fault (Nat × List Char) :=
  match cs with
  | a :: b :: c :: d :: r =>
    match Text.hexDigitValue? a, Text.hexDigitValue? b, Text.hexDigitValue? c,
      Text.hexDigitValue? d with
    | some a, some b, some c, some d => .ok (((a * 16 + b) * 16 + c) * 16 + d, r)
    | _, _, _, _ => .error .malformed
  | short => .error (if utf8Length short < 4 then .ended else .malformed)

/-- The character of an escape of one letter. -/
def shortEscape? (c : Char) : Option Char :=
  if c = '"' ∨ c = '\\' ∨ c = '/' then some c
  else if c = 'b' then some (Char.ofNat 8)
  else if c = 'f' then some (Char.ofNat 12)
  else if c = 'n' then some (Char.ofNat 10)
  else if c = 'r' then some (Char.ofNat 13)
  else if c = 't' then some (Char.ofNat 9)
  else none

/-- The character of an escape of four digits; a high surrogate needs the escape of a low one
right after it. -/
def unicodeEscape (cs : List Char) : Except Fault (Char × List Char) := do
  let (n, r) ← hexEscape cs
  if 0xdc00 ≤ n ∧ n ≤ 0xdfff then .error .malformed
  else if n < 0xd800 ∨ 0xdfff < n then return (Char.ofNat n, r)
  else match r with
    | '\\' :: 'u' :: r' =>
      let (m, r'') ← hexEscape r'
      if 0xdc00 ≤ m ∧ m ≤ 0xdfff then
        return (Char.ofNat (0x10000 + (n - 0xd800) * 0x400 + (m - 0xdc00)), r'')
      else .error .malformed
    | [] => .error .ended
    | ['\\'] => .error .ended
    | _ => .error .malformed

/-- One character of a string literal and the text after it, or the closing quote. -/
def readChar (cs : List Char) : Except Fault (Option Char × List Char) :=
  match cs with
  | [] => .error .ended
  | c :: r =>
    if c = '"' then .ok (none, r)
    else if c = '\\' then
      match r with
      | [] => .error .ended
      | e :: r' =>
        if e = 'u' then (unicodeEscape r').map fun p => (some p.1, p.2)
        else match shortEscape? e with
          | some c => .ok (some c, r')
          | none => .error .malformed
    else if c.toNat < 32 then .error .malformed
    else .ok (some c, r)

/-- The rest of a string literal after its opening quote. Every character takes one unit of fuel, as
a text needs no more than it has characters. -/
def readChars : Nat → List Char → Except Fault (List Char × List Char)
  | 0, _ => .error .ended
  | fuel + 1, cs => do
    match ← readChar cs with
    | (none, r) => return ([], r)
    | (some c, r) =>
      let (s, rest) ← readChars fuel r
      return (c :: s, rest)

/-- As `readChar`, but an escape of four digits may be any. -/
def skipChar (cs : List Char) : Except Fault (Bool × List Char) :=
  match cs with
  | [] => .error .ended
  | c :: r =>
    if c = '"' then .ok (true, r)
    else if c = '\\' then
      match r with
      | [] => .error .ended
      | e :: r' =>
        if e = 'u' then (hexEscape r').map fun p => (false, p.2)
        else match shortEscape? e with
          | some _ => .ok (false, r')
          | none => .error .malformed
    else if c.toNat < 32 then .error .malformed
    else .ok (false, r)

def skipChars : Nat → List Char → Except Fault (List Char)
  | 0, _ => .error .ended
  | fuel + 1, cs => do
    match ← skipChar cs with
    | (true, r) => return r
    | (false, r) => skipChars fuel r

def stringValue (fuel : Nat) (cs : List Char) : Except Fault String :=
  (readChars fuel cs).map fun p => String.ofList p.1

def faultOf {α : Type} (r : Except Fault α) (otherwise : Fault) : Fault :=
  match r with
  | .error f => f
  | .ok _ => otherwise

/-- The letters of `null`, `true` and `false` after the first. -/
def expect : List Char → List Char → Except Fault (List Char)
  | [], cs => .ok cs
  | _ :: _, [] => .error .ended
  | e :: es, c :: cs => if e = c then expect es cs else .error .malformed

def word (node : Node) (letters cs : List Char) : Node × Option (List Char) :=
  match expect letters cs with
  | .ok rest => (node, some rest)
  | .error f => (.broken ⟨f, f⟩, none)

def stringNode (fuel : Nat) (cs : List Char) : Node × Option (List Char) :=
  match skipChars fuel cs with
  | .ok rest => (.string (stringValue fuel cs), some rest)
  | .error f => (.broken ⟨faultOf (readChars fuel cs) f, f⟩, none)

def numberNode (cs : List Char) : Node × Option (List Char) :=
  match scanNumber cs with
  | .ok (l, rest) => (.number l.value, some rest)
  | .error flaw => (.broken flaw, none)

mutual

/-- A value and the text after it, none when the text is broken inside. -/
def readNode : Nat → List Char → Node × Option (List Char)
  | 0, _ => (.broken .ended, none)
  | fuel + 1, cs =>
    match skipSpace cs with
    | [] => (.broken .ended, none)
    | c :: r =>
      if c = 'n' then word .null ['u', 'l', 'l'] r
      else if c = 't' then word (.bool true) ['r', 'u', 'e'] r
      else if c = 'f' then word (.bool false) ['a', 'l', 's', 'e'] r
      else if c = '"' then stringNode fuel r
      else if c = '-' ∨ c.isDigit then numberNode (c :: r)
      else if c = '[' then
        match skipSpace r with
        | ']' :: r' => (.array [] none, some r')
        | _ =>
          let (items, stop, rest) := readItems fuel r
          (.array items stop, rest)
      else if c = '\x7b' then
        match skipSpace r with
        | '\x7d' :: r' => (.object [] none, some r')
        | _ =>
          let (members, stop, rest) := readMembers fuel r
          (.object members stop, rest)
      else (.broken .malformed, none)

/-- The items of an array from one item on. -/
def readItems : Nat → List Char → List Node × Option Flaw × Option (List Char)
  | 0, _ => ([], some .ended, none)
  | fuel + 1, cs =>
    match readNode fuel cs with
    | (v, none) => ([v], none, none)
    | (v, some r) =>
      match skipSpace r with
      | [] => ([v], some .ended, none)
      | c :: r' =>
        if c = ']' then ([v], none, some r')
        else if c = ',' then
          let (vs, stop, rest) := readItems fuel r'
          (v :: vs, stop, rest)
        else ([v], some .malformed, none)

/-- The members of an object from one key on. -/
def readMembers : Nat → List Char →
    List (Except Fault String × Node) × Option Flaw × Option (List Char)
  | 0, _ => ([], some .ended, none)
  | fuel + 1, cs =>
    match skipSpace cs with
    | [] => ([], some .ended, none)
    | q :: r =>
      if q = '"' then
        match skipChars fuel r with
        | .error f => ([], some ⟨faultOf (readChars fuel r) f, f⟩, none)
        | .ok r₁ =>
          let key := stringValue fuel r
          match skipSpace r₁ with
          | [] => ([(key, .broken .ended)], none, none)
          | c :: r₂ =>
            if c = ':' then
              match readNode fuel r₂ with
              | (v, none) => ([(key, v)], none, none)
              | (v, some r₃) =>
                match skipSpace r₃ with
                | [] => ([(key, v)], some .ended, none)
                | d :: r₄ =>
                  if d = '\x7d' then ([(key, v)], none, some r₄)
                  else if d = ',' then
                    let (ms, stop, rest) := readMembers fuel r₄
                    ((key, v) :: ms, stop, rest)
                  else ([(key, v)], some .malformed, none)
            else ([(key, .broken .malformed)], none, none)
      else ([], some .malformed, none)

end

/-- A whole text: its value, and the fault of what follows the value. -/
structure Source where
  root : Node
  after : Option Fault

def Source.ofList (cs : List Char) : Source :=
  match readNode (2 * cs.length + 2) cs with
  | (root, none) => ⟨root, none⟩
  | (root, some rest) => ⟨root, if skipSpace rest = [] then none else some .malformed⟩

def Source.ofString (s : String) : Source := .ofList s.toList

end RelayStore.Json

import RelayStore.Settings
import RelayStore.Text.WordChar

/-! Files of variables, a name and a value on each line. -/
namespace RelayStore.CommandLine.Dotenv

inductive Refusal where
  | line (text : List Char) (index : Nat)
  | notText
  /-- A NUL in a value that has to be set. -/
  | nul (name : String)
  deriving DecidableEq, Repr

def Refusal.message : Refusal → String
  | .line text index =>
    "Error parsing line: '" ++ String.ofList text ++ "', error at line index: " ++ toString index
  | .notText => "stream did not contain valid UTF-8"
  | .nul name => "failed to set environment variable " ++ Text.quoted name

/-! Lines. A quoted value may go on over several of them. -/

/-- Where in a line the reader is. -/
inductive Place where
  | complete
  | escape
  | strong
  | strongEscape
  | weak
  | weakEscape
  | blank
  deriving DecidableEq, Repr

def Place.next : Place → Char → Place
  | .escape, _ => .complete
  | .weak, c => if c = '\\' then .weakEscape else if c = '"' then .complete else .weak
  | .weakEscape, _ => .weak
  | .strong, c => if c = '\\' then .strongEscape else if c.toNat = 0x27 then .complete else .strong
  | .strongEscape, _ => .strong
  | p, c =>
    if c = '\\' then .escape
    else if c = '"' then .weak
    else if c.toNat = 0x27 then .strong
    else if p = .complete ∧ Text.isBlank c ∧ c ≠ '\n' ∧ c ≠ '\r' then .blank
    else .complete

/-- Follows a line to its end, or to a comment: what stands before it and the place, if the line has
not ended with a comment. -/
def follow : Place → List Char → List Char × Option Place
  | p, [] => ([], some p)
  | p, c :: rest =>
    if p = .blank ∧ c = '#' then ([], none)
    else
      let (text, stop) := follow (p.next c) rest
      (c :: text, stop)

/-- Bytes cut behind each newline. -/
def cut (reversed : List UInt8) : List UInt8 → List (List UInt8)
  | [] => if reversed = [] then [] else [reversed.reverse]
  | b :: rest =>
    if b = 10 then (b :: reversed).reverse :: cut [] rest else cut (b :: reversed) rest

def dropEnd (text : List Char) : List Char :=
  match text.reverse with
  | '\n' :: '\r' :: rest => rest.reverse
  | '\n' :: rest => rest.reverse
  | _ => text

def size (text : List Char) : Nat := (text.map Char.utf8Size).foldl (· + ·) 0

/-- Joins the lines that belong together. The first that cannot be read ends the list. -/
def join : Place → List Char → List (List UInt8) → List (Except Refusal (List Char))
  | p, text, [] => if p = .complete then [] else [.error (.line text (size text))]
  | p, text, bytes :: rest =>
    match String.fromUTF8? ⟨bytes.toArray⟩ with
    | none => [.error .notText]
    | some s =>
      let whole := text ++ s.toList
      if (whole.dropWhile Text.isBlank).head? = some '#' then .ok [] :: join .complete [] rest
      else match follow p s.toList with
        | (before, none) => .ok (text ++ before) :: join .complete [] rest
        | (_, some .complete) => .ok (dropEnd whole) :: join .complete [] rest
        | (_, some p) => join p whole rest

/-! Values. -/

inductive Naming where
  | none
  | plain
  | braced
  deriving DecidableEq, Repr

/-- What has been read of a value; texts are in reverse. -/
structure Draft where
  strong : Bool := false
  weak : Bool := false
  escaped : Bool := false
  ending : Bool := false
  naming : Naming := .none
  name : List Char := []
  out : List Char := []

namespace Draft

/-- Puts the value of the named variable in the place of its name. -/
def substitute (d : Draft) (lookup : String → String) : Draft :=
  { d with out := (lookup (String.ofList d.name.reverse)).toList.reverse ++ d.out, name := [] }

def push (d : Draft) (c : Char) : Draft := { d with out := c :: d.out }

def escapable (c : Char) : Bool :=
  c = '\\' || c.toNat = 0x27 || c = '"' || c = '$' || c = ' '

/-- A character of the name of a variable, or behind it. -/
def nameChar (d : Draft) (lookup : String → String) (c : Char) : Draft :=
  if Text.isWordChar c then { d with name := c :: d.name }
  else if d.naming = .braced then
    if c = '\x7d' then { d with naming := .none }.substitute lookup
    else { d with name := c :: d.name }
  else if c = '\x7b' ∧ d.name = [] then { d with naming := .braced }
  else
    let d := d.substitute lookup
    if c = '$' then d else { d with naming := .none }.push c

/-- One more character; `none` where it cannot stand. -/
def step (d : Draft) (lookup : String → String) (c : Char) : Option Draft :=
  if d.escaped then
    let d := { d with escaped := false }
    if escapable c then some (d.push c) else if c = 'n' then some (d.push '\n') else none
  else if d.strong then
    some (if c.toNat = 0x27 then { d with strong := false } else d.push c)
  else if d.naming ≠ .none then some (d.nameChar lookup c)
  else if c = '$' then some { d with naming := .plain }
  else if c = '\\' then some { d with escaped := true }
  else if c = '"' then some { d with weak := !d.weak }
  else if d.weak then some (d.push c)
  else if c.toNat = 0x27 then some { d with strong := true }
  else if c = ' ' ∨ c = '\t' then some { d with ending := true }
  else some (d.push c)

/-- Reads to the end of the value, or gives the index of the character that cannot stand there.
Behind a blank only a comment may follow. -/
def read (lookup : String → String) : Nat → List Char → Draft → Except Nat Draft
  | _, [], d => .ok d
  | i, c :: rest, d =>
    if d.ending then
      if c = ' ' ∨ c = '\t' then read lookup (i + 1) rest d
      else if c = '#' then .ok d
      else .error i
    else match d.step lookup c with
      | some d => read lookup (i + 1) rest d
      | none => .error i

end Draft

def readValue (lookup : String → String) (text : List Char) : Except Refusal String :=
  match Draft.read lookup 0 text {} with
  | .error i => .error (.line text i)
  | .ok d =>
    if d.naming = .braced ∨ d.strong ∨ d.weak then .error (.line text (size text - 1))
    else .ok (String.ofList (d.substitute lookup).out.reverse)

/-! Definitions. -/

def isNameStart (c : Char) : Bool := c.isAlpha || c = '_'

def isNameChar (c : Char) : Bool := c.isAlphanum || c = '_' || c = '.'

/-- A line with the rest of it that is still to be read. -/
structure Cursor where
  line : List Char
  rest : List Char

namespace Cursor

/-- Refuses the line at the place that has been reached. -/
def refuse {α : Type} (c : Cursor) : Except Refusal α :=
  let kept := (c.line.reverse.dropWhile Text.isBlank).reverse
  .error (.line c.line (size kept - size c.rest))

def skipBlanks (c : Cursor) : Cursor := { c with rest := c.rest.dropWhile Text.isBlank }

def name (c : Cursor) : Except Refusal (String × Cursor) :=
  if c.rest.head?.any isNameStart then
    .ok (String.ofList (c.rest.takeWhile isNameChar),
      { c with rest := c.rest.dropWhile isNameChar })
  else c.refuse

def equals? (c : Cursor) : Option Cursor :=
  match c.rest with
  | '=' :: rest => some { c with rest := rest }
  | _ => none

def equals (c : Cursor) : Except Refusal Cursor :=
  match c.equals? with
  | some c => .ok c
  | none => c.refuse

/-- A name up to the equals sign behind it. The word for exports may stand before it. -/
def definition (c : Cursor) : Except Refusal (String × Cursor) := do
  let (key, c) ← c.name
  let c := c.skipBlanks
  if key = "export" then
    match c.equals? with
    | some c => return (key, c)
    | none =>
      let (key, c) ← c.name
      return (key, ← c.skipBlanks.equals)
  else return (key, ← c.equals)

end Cursor

/-- The definition on a line, if it has one. -/
def readLine (lookup : String → String) (line : List Char) :
    Except Refusal (Option (String × String)) := do
  let c : Cursor := (Cursor.mk line (line.reverse.dropWhile Text.isBlank).reverse).skipBlanks
  if c.rest = [] ∨ c.rest.head? = some '#' then return none
  let (key, c) ← c.definition
  let rest := c.skipBlanks.rest
  if rest = [] ∨ rest.head? = some '#' then return some (key, "")
  return some (key, ← readValue lookup rest)

/-- Variables by name, the latest definition first. -/
abbrev Definitions := List (String × String)

/-- The value of a variable: that of the environment goes before that of the file. -/
def lookup (env : Environment) (defined : Definitions) (name : String) : String :=
  ((env.text? name).or ((defined.find? fun d => d.1 = name).map (·.2))).getD ""

/-- Adds the definitions of lines to the environment. What is set there already stays. -/
def addLines : List (Except Refusal (List Char)) → Environment → Definitions →
    Except Refusal Environment
  | [], env, _ => .ok env
  | line :: rest, env, defined => do
    match ← readLine (lookup env defined) (← line) with
    | none => addLines rest env defined
    | some (key, value) =>
      let defined := (key, value) :: defined
      if (env.text? key).isSome then addLines rest env defined
      else if value.toList.any fun c => c.toNat = 0 then throw (.nul key)
      else addLines rest ((key, value.toUTF8.toList) :: env.filter fun v => v.1 ≠ key) defined

/-- The environment with the variables of a file. A byte order mark at its start does not count. -/
def load (env : Environment) (bytes : List UInt8) : Except Refusal Environment :=
  let bytes := match bytes with
    | 0xef :: 0xbb :: 0xbf :: rest => rest
    | _ => bytes
  addLines (join .complete [] (cut [] bytes)) env []

end RelayStore.CommandLine.Dotenv

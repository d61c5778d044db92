import RelayStore.Json.Source
import RelayStore.Json.Value
import RelayStore.Text.Quoted

/-! Reading typed data out of a JSON text, and the ways in which the data can be wrong. -/
namespace RelayStore.Json

/-- What a message says was found. -/
inductive Found where
  | null
  | bool (b : Bool)
  | integer (n : Int)
  | real (bits : UInt64)
  | string (s : String)
  | sequence
  | map
  deriving DecidableEq, Repr

def Found.text : Found → String
  | .null => "null"
  | .bool b => "boolean `" ++ (if b then "true" else "false") ++ "`"
  | .integer n => "integer `" ++ toString n ++ "`"
  | .real bits => "floating point `" ++ Decimal.text (Float.ofBits bits) ++ "`"
  | .string s => "string " ++ Text.quoted s
  | .sequence => "sequence"
  | .map => "map"

/-- Data that are JSON but not the data asked for. -/
inductive Mismatch where
  | wrongType (found : Found) (wanted : String)
  | outOfRange (n : Int) (wanted : String)
  | missing (field : String)
  | duplicate (field : String)
  | wrongLength (n : Nat) (wanted : String)
  | refused (reason : String)
  deriving DecidableEq, Repr

def Mismatch.message : Mismatch → String
  | .wrongType found wanted => "invalid type: " ++ found.text ++ ", expected " ++ wanted
  | .outOfRange n wanted => "invalid value: integer `" ++ toString n ++ "`, expected " ++ wanted
  | .missing field => "missing field `" ++ field ++ "`"
  | .duplicate field => "duplicate field `" ++ field ++ "`"
  | .wrongLength n wanted => "invalid length " ++ toString n ++ ", expected " ++ wanted
  | .refused reason => reason

/-- The first problem of a text: it is not JSON, or its data do not fit. -/
inductive Failure where
  | fault (f : Fault)
  | data (m : Mismatch)
  deriving DecidableEq, Repr

abbrev Result (α : Type) := Except Failure α

def ofFault {α : Type} (r : Except Fault α) : Result α := r.mapError .fault

def Number.found : Number → Found
  | .whole n => .integer n
  | .negative n => .integer (-n)
  | .real bits => .real bits

namespace Value

def found : Value → Found
  | null => .null
  | bool b => .bool b
  | number n => n.found
  | string s => .string s
  | array _ => .sequence
  | object _ => .map

def toString? : Value → Except Mismatch String
  | string s => .ok s
  | v => .error (.wrongType v.found "a string")

def toStrings? : Value → Except Mismatch (List String)
  | array vs => vs.mapM toString?
  | v => .error (.wrongType v.found "a sequence")

end Value

namespace Node

/-- The kind of a value. A list is known by its opening bracket, all else is read to its end. -/
def found : Node → Except Fault Found
  | null => .ok .null
  | bool b => .ok (.bool b)
  | number (some n) => .ok n.found
  | number none => .error .malformed
  | string (.ok s) => .ok (.string s)
  | string (.error f) => .error f
  | array _ _ => .ok .sequence
  | object _ _ => .ok .map
  | broken flaw => .error flaw.reading

def mismatch {α : Type} (v : Node) (wanted : String) : Result α :=
  match v.found with
  | .ok got => .error (.data (.wrongType got wanted))
  | .error f => .error (.fault f)

def toString? (v : Node) : Result String :=
  match v with
  | string (.ok s) => .ok s
  | v => v.mismatch "a string"

/-- A whole number below a bound. -/
def toNat? (bound : Nat) (wanted : String) (v : Node) : Result Nat :=
  match v with
  | number (some (.whole n)) =>
    if n < bound then .ok n else .error (.data (.outOfRange n wanted))
  | number (some (.negative n)) => .error (.data (.outOfRange (-n) wanted))
  | v => v.mismatch wanted

def toUInt16? (v : Node) : Result UInt16 := (v.toNat? UInt16.size "u16").map UInt16.ofNat

def toUInt32? (v : Node) : Result UInt32 := (v.toNat? UInt32.size "u32").map UInt32.ofNat

/-- A value that may be `null`. -/
def toOption? {α : Type} (item : Node → Result α) (v : Node) : Result (Option α) :=
  match v with
  | null => .ok none
  | v => (item v).map some

def items? {α : Type} (item : Node → Result α) : List Node → Option Flaw → Result (List α)
  | [], none => .ok []
  | [], some flaw => .error (.fault flaw.reading)
  | v :: vs, stop => do
    let a ← item v
    let as ← items? item vs stop
    return a :: as

def toList? {α : Type} (item : Node → Result α) (v : Node) : Result (List α) :=
  match v with
  | array vs stop => items? item vs stop
  | v => v.mismatch "a sequence"

def toStrings? (v : Node) : Result (List String) := v.toList? toString?

mutual

/-- Any value, read to its end; arrays and objects may be nested `depth` deep. -/
def value (depth : Nat) : Node → Except Fault Value
  | null => .ok .null
  | bool b => .ok (.bool b)
  | number (some n) => .ok (.number n)
  | number none => .error .malformed
  | string (.ok s) => .ok (.string s)
  | string (.error f) => .error f
  | array vs stop => match depth with
    | 0 => .error .malformed
    | d + 1 => (itemValues d vs stop).map .array
  | object ms stop => match depth with
    | 0 => .error .malformed
    | d + 1 => (memberValues d ms stop).map .object
  | broken flaw => .error flaw.reading

def itemValues (depth : Nat) : List Node → Option Flaw → Except Fault (List Value)
  | [], none => .ok []
  | [], some flaw => .error flaw.reading
  | v :: vs, stop => do
    let a ← v.value depth
    let as ← itemValues depth vs stop
    return a :: as

def memberValues (depth : Nat) :
    List (Except Fault String × Node) → Option Flaw → Except Fault (List (String × Value))
  | [], none => .ok []
  | [], some flaw => .error flaw.reading
  | (k, v) :: ms, stop => do
    let k ← k
    let a ← v.value depth
    let as ← memberValues depth ms stop
    return (k, a) :: as

end

mutual

/-- Passes over a value. Only the place where the text breaks off can be wrong with it. -/
def skip : Node → Except Fault Unit
  | array vs stop => skipItems vs stop
  | object ms stop => skipMembers ms stop
  | broken flaw => .error flaw.skipping
  | _ => .ok ()

def skipItems : List Node → Option Flaw → Except Fault Unit
  | [], none => .ok ()
  | [], some flaw => .error flaw.skipping
  | v :: vs, stop => do
    v.skip
    skipItems vs stop

def skipMembers : List (Except Fault String × Node) → Option Flaw → Except Fault Unit
  | [], none => .ok ()
  | [], some flaw => .error flaw.skipping
  | (_, v) :: ms, stop => do
    v.skip
    skipMembers ms stop

end

end Node

/-- Reads the root, then demands that nothing follows it. -/
def Source.decode {α : Type} (s : Source) (root : Node → Result α) : Result α := do
  let a ← root s.root
  match s.after with
  | none => return a
  | some f => .error (.fault f)

/-- How deep the arrays and objects of a text may be nested, the outermost counted. -/
def maxDepth : Nat := 127

end RelayStore.Json

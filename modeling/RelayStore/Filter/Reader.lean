import RelayStore.Error
import RelayStore.Text.Blank

/-! Filters in their JSON form: tag names are keys that start with `#`. -/
namespace RelayStore.Filter
open Json

/-- The fields of a filter object as far as it has been read; other keys are kept with their values,
the last one of each key, in the order of the keys. -/
structure Draft where
  ids : Option (List String) := none
  authors : Option (List String) := none
  kinds : Option (List UInt16) := none
  since : Option (Option UInt32) := none
  upTo : Option (Option UInt32) := none
  limit : Option (Option UInt32) := none
  search : Option (Option String) := none
  others : List (String × Value) := []

/-- Sets the value of a key in a list sorted by key. -/
def setKey {α : Type} (key : String) (value : α) : List (String × α) → List (String × α)
  | [] => [(key, value)]
  | (k, v) :: rest =>
    if key < k then (key, value) :: (k, v) :: rest
    else if key = k then (key, value) :: rest
    else (k, v) :: setKey key value rest

/-- A field that may be given once. -/
def once {α : Type} (name : String) (held : Option α) (value : Result α) : Result (Option α) :=
  if held.isSome then .error (.data (.duplicate name)) else value.map some

def Draft.read (d : Draft) (key : String) (v : Node) : Result Draft :=
  if key = "ids" then do
    return { d with ids := ← once key d.ids (v.toStrings?) }
  else if key = "authors" then do
    return { d with authors := ← once key d.authors (v.toStrings?) }
  else if key = "kinds" then do
    return { d with kinds := ← once key d.kinds (v.toList? Node.toUInt16?) }
  else if key = "since" then do
    return { d with since := ← once key d.since (v.toOption? Node.toUInt32?) }
  else if key = "until" then do
    return { d with upTo := ← once key d.upTo (v.toOption? Node.toUInt32?) }
  else if key = "limit" then do
    return { d with limit := ← once key d.limit (v.toOption? Node.toUInt32?) }
  else if key = "search" then do
    return { d with search := ← once key d.search (v.toOption? Node.toString?) }
  else do
    let value ← ofFault (v.value (maxDepth - 1))
    return { d with others := setKey key value d.others }

def Draft.readMembers (d : Draft) :
    List (Except Fault String × Node) → Option Flaw → Result Draft
  | [], none => .ok d
  | [], some flaw => .error (.fault flaw.reading)
  | (key, v) :: rest, stop => do
    let key ← ofFault key
    let d ← d.read key v
    d.readMembers rest stop

/-- Why the filter refuses what an object says. -/
inductive Refusal where
  | tag (r : TagRefusal)
  | values (key : String) (m : Mismatch)
  deriving DecidableEq, Repr

def Refusal.message : Refusal → String
  | .tag r => r.message
  | .values key m => "values for '" ++ key ++ "' must be strings: " ++ m.message

def Refusal.error (r : Refusal) : Error := .invalidFilter r.message

/-- The constraint of one key: none when the key names no tag. -/
def addKey (c : TagConstraints) (key : String) (v : Value) : Except Refusal TagConstraints :=
  match key.toList with
  | '#' :: name => do
    let values ← v.toStrings?.mapError (Refusal.values key)
    (c.insert (String.ofList name) values).mapError .tag
  | _ => .ok c

def addKeys (c : TagConstraints) : List (String × Value) → Except Refusal TagConstraints
  | [] => .ok c
  | (key, v) :: rest => do
    let c ← addKey c key v
    addKeys c rest

def Draft.finish (d : Draft) : Except Refusal Filter := do
  let tags ← addKeys {} d.others
  return {
    ids := d.ids.getD []
    authors := d.authors.getD []
    kinds := d.kinds.getD []
    tags := tags
    since := d.since.getD none
    upTo := d.upTo.getD none
    limit := d.limit.getD none
    search := (d.search.getD none).filter fun s => !Text.isBlankText s }

/-- A filter from its object. A refusal is a fault of the data like any other. -/
def ofNode (v : Node) : Result Filter :=
  match v with
  | .object ms stop => do
    let d ← Draft.readMembers {} ms stop
    d.finish.mapError fun r => .data (.refused r.error.message)
  | v => v.mismatch "struct RawFilter"

def ofJson (text : String) : Result Filter := (Source.ofString text).decode ofNode

/-- A filter from its text. Whatever is wrong with the text is an error of its JSON. -/
def parse (text : String) : Except Error Filter := (ofJson text).mapError .json

end RelayStore.Filter

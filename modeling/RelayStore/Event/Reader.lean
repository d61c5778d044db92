import RelayStore.Error
import RelayStore.Event
import RelayStore.Json.Decode

/-! Events from their JSON form: an object, or an array of the fields in their order. -/
namespace RelayStore.Event
open Json

/-- How narrow the fields of a text have to be, and whether tags and content may be left out. -/
structure Form where
  timeBound : Nat
  timeName : String
  kindBound : Nat
  kindName : String
  defaults : Bool

/-- Events as they are stored. -/
def Form.stored : Form := ⟨UInt32.size, "u32", UInt16.size, "u16", true⟩

def fieldNames : List String := ["id", "pubkey", "created_at", "kind", "tags", "content", "sig"]

/-- The fields that have been read. -/
structure Draft where
  id : Option String := none
  pubkey : Option String := none
  createdAt : Option Nat := none
  kind : Option Nat := none
  tags : Option (List Tag) := none
  content : Option String := none
  sig : Option String := none
  deriving DecidableEq, Repr

/-- The fields of a complete text. -/
structure Fields where
  id : String
  pubkey : String
  createdAt : Nat
  kind : Nat
  tags : List Tag
  content : String
  sig : String
  deriving DecidableEq, Repr

namespace Draft

def holds (d : Draft) (name : String) : Bool :=
  match name with
  | "id" => d.id.isSome
  | "pubkey" => d.pubkey.isSome
  | "created_at" => d.createdAt.isSome
  | "kind" => d.kind.isSome
  | "tags" => d.tags.isSome
  | "content" => d.content.isSome
  | _ => d.sig.isSome

/-- Reads the field of a name. -/
def set (form : Form) (d : Draft) (name : String) (v : Node) : Result Draft :=
  match name with
  | "id" => do return { d with id := some (← v.toString?) }
  | "pubkey" => do return { d with pubkey := some (← v.toString?) }
  | "created_at" => do return { d with createdAt := some (← v.toNat? form.timeBound form.timeName) }
  | "kind" => do return { d with kind := some (← v.toNat? form.kindBound form.kindName) }
  | "tags" => do return { d with tags := some (← v.toList? Node.toStrings?) }
  | "content" => do return { d with content := some (← v.toString?) }
  | _ => do return { d with sig := some (← v.toString?) }

/-- Reads a member of an object: a field once, anything else is passed over. -/
def member (form : Form) (d : Draft) (key : String) (v : Node) : Result Draft :=
  if key ∈ fieldNames then
    if d.holds key then .error (.data (.duplicate key)) else d.set form key v
  else do
    ofFault v.skip
    return d

def members (form : Form) (d : Draft) :
    List (Except Fault String × Node) → Option Flaw → Result Draft
  | [], none => .ok d
  | [], some flaw => .error (.fault flaw.reading)
  | (key, v) :: rest, stop => do
    let key ← ofFault key
    let d ← d.member form key v
    d.members form rest stop

/-- Reads the items of an array for the names that are left. No item may follow the last one. -/
def items (form : Form) (d : Draft) : List String → List Node → Option Flaw → Result Draft
  | [], _ :: _, _ => .error (.fault .malformed)
  | name :: names, v :: vs, stop => do
    let d ← d.set form name v
    d.items form names vs stop
  | _, [], some flaw => .error (.fault flaw.reading)
  | _, [], none => .ok d

/-- The complete fields, or the name and place of the first one that is missing. -/
def fields (form : Form) (d : Draft) : Except (String × Nat) Fields := do
  let need {α : Type} (o : Option α) (name : String) (place : Nat) : Except (String × Nat) α :=
    match o with
    | some a => .ok a
    | none => .error (name, place)
  let orElse {α : Type} (o : Option α) (default : α) : Option α :=
    if form.defaults then some (o.getD default) else o
  return {
    id := ← need d.id "id" 0
    pubkey := ← need d.pubkey "pubkey" 1
    createdAt := ← need d.createdAt "created_at" 2
    kind := ← need d.kind "kind" 3
    tags := ← need (orElse d.tags []) "tags" 4
    content := ← need (orElse d.content "") "content" 5
    sig := ← need d.sig "sig" 6 }

end Draft

def Fields.ofNode (form : Form) (v : Node) : Result Fields :=
  match v with
  | .object ms stop => do
    let d ← Draft.members form {} ms stop
    (d.fields form).mapError fun m => .data (.missing m.1)
  | .array vs stop => do
    let d ← Draft.items form {} fieldNames vs stop
    (d.fields form).mapError fun m => .data (.wrongLength m.2 "struct Event with 7 elements")
  | v => v.mismatch "struct Event"

def Fields.ofJson (form : Form) (text : String) : Result Fields :=
  (Source.ofString text).decode (Fields.ofNode form)

def isHexDigit (c : Char) : Bool := (Text.hexDigitValue? c).isSome

/-- A field that has to consist of a number of hexadecimal digits. -/
def checkHex (field value : String) (length : Nat) : Except Error Unit :=
  if value.utf8ByteSize ≠ length then
    .error (.invalidField field
      ("expected " ++ toString length ++ " hex characters, got " ++ toString value.utf8ByteSize))
  else if value.toList.all isHexDigit then .ok ()
  else .error (.invalidField field "not hex")

/-- Ids and keys are 32 bytes long, signatures 64. -/
def check (e : Event) : Except Error Unit := do
  checkHex "id" e.id 64
  checkHex "pubkey" e.pubkey 64
  checkHex "sig" e.sig 128

def ofFields (f : Fields) : Event :=
  ⟨f.id, f.pubkey, .ofNat f.createdAt, .ofNat f.kind, f.tags, f.content, f.sig⟩

/-- An event whose id and signature are taken on trust. -/
def ofJson (text : String) : Except Error Event := do
  let f ← (Fields.ofJson .stored text).mapError .json
  let e := ofFields f
  e.check
  return e

end RelayStore.Event

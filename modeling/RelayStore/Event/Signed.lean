import RelayStore.Crypto.Schnorr
import RelayStore.Event.Printer
import RelayStore.Event.Reader

/-! Events that are accepted only with the right id and a valid signature of their author. -/
namespace RelayStore

/-- A signed event: its id, key and signature as bytes, its time as wide as the text allows. -/
structure SignedEvent where
  id : List UInt8
  pubkey : List UInt8
  createdAt : Nat
  kind : UInt16
  tags : List Tag
  content : String
  sig : List UInt8
  deriving DecidableEq, Repr

namespace SignedEvent
open Event

/-- Signed events name every field. A kind may be written wider than it is; its lowest 16 bits
count. -/
def form : Form := ⟨UInt64.size, "u64", UInt64.size, "an unsigned number", false⟩

def bytes? (length : Nat) (text : String) : Option (List UInt8) :=
  (Text.decodeHex? text).filter fun b => b.length = length

/-- A tag has a name. -/
def ofFields? (f : Fields) : Option SignedEvent := do
  let id ← bytes? 32 f.id
  let pubkey ← bytes? 32 f.pubkey
  let sig ← bytes? 64 f.sig
  if f.tags.any List.isEmpty then none
  return ⟨id, pubkey, f.createdAt, .ofNat f.kind, f.tags, f.content, sig⟩

def ofJson? (text : String) : Option SignedEvent :=
  match Fields.ofJson form text with
  | .ok f => ofFields? f
  | .error _ => none

/-- The text whose digest is the id. -/
def preimage (e : SignedEvent) : Json.Value :=
  .array [.nat 0, .string (Text.encodeHex e.pubkey), .nat e.createdAt, .nat e.kind.toNat,
    Tag.list e.tags, .string e.content]

def digest (e : SignedEvent) : List UInt8 := Crypto.sha256 e.preimage.text.toUTF8.toList

def verify (e : SignedEvent) : Except SignatureError Unit :=
  if e.digest ≠ e.id then .error .wrongId
  else if Crypto.verifies e.pubkey e.id e.sig then .ok ()
  else .error .wrongSignature

/-- The event as it is stored, its time in 32 bits. -/
def event (e : SignedEvent) : Except Error Event :=
  if e.createdAt < UInt32.size then
    .ok ⟨Text.encodeHex e.id, Text.encodeHex e.pubkey, .ofNat e.createdAt, e.kind, e.tags,
      e.content, Text.encodeHex e.sig⟩
  else .error (.invalidField "created_at" (toString e.createdAt ++ " does not fit in 32 bits"))

end SignedEvent

/-- An event whose id and signature are verified. -/
def Event.ofSignedJson (text : String) : Except Error Event := do
  match SignedEvent.ofJson? text with
  | none => .error (.signature .unreadable)
  | some e =>
    e.verify.mapError .signature
    e.event

end RelayStore

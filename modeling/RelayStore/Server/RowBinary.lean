import RelayStore.Binary.LittleEndian
import RelayStore.Error
import RelayStore.Row

/-! Rows as the server sends and takes them: field after field, texts and lists behind a length. -/
namespace RelayStore.Server.RowBinary
open Binary

/-! Writing. -/

def writeText (s : String) : List UInt8 :=
  let bytes := s.toUTF8.toList
  varint bytes.length ++ bytes

def writeList {α : Type} (f : α → List UInt8) (xs : List α) : List UInt8 :=
  varint xs.length ++ xs.flatMap f

def writeTexts (xs : List String) : List UInt8 := writeList writeText xs

/-- A column with its value in a row. -/
abbrev Field := String × List UInt8

def eventFields (r : EventRow) : List Field :=
  [("id", writeText r.id), ("pubkey", writeText r.pubkey),
    ("created_at", littleEndian 4 r.createdAt.toNat), ("kind", littleEndian 2 r.kind.toNat),
    ("content", writeText r.content), ("sig", writeText r.sig),
    ("tags", writeList writeTexts r.tags),
    ("tag_e", writeTexts r.tagE), ("tag_p", writeTexts r.tagP), ("tag_a", writeTexts r.tagA),
    ("tag_t", writeTexts r.tagT), ("tag_d", writeText r.tagD), ("tag_g", writeTexts r.tagG),
    ("tag_r", writeTexts r.tagR), ("relay_received_at", littleEndian 4 r.receivedAt.toNat),
    ("version", littleEndian 8 r.version), ("deleted", littleEndian 1 r.deleted.toNat)]

def hotPostFields (p : HotPost) : List Field :=
  let e := p.engagement
  [("event_id", writeText e.eventId), ("pubkey", writeText e.pubkey),
    ("kind", littleEndian 2 e.kind.toNat), ("created_at", littleEndian 4 e.createdAt.toNat),
    ("score", littleEndian 8 p.score.toBits.toNat), ("replies", littleEndian 8 e.replies.toNat),
    ("reactions", littleEndian 8 e.reactions.toNat), ("reposts", littleEndian 8 e.reposts.toNat),
    ("zaps", littleEndian 8 e.zaps.toNat), ("zap_msats", littleEndian 8 e.zapMillisats.toNat),
    ("computed_at", littleEndian 4 p.computedAt.toNat), ("run_id", littleEndian 8 p.runId)]

/-! Reading. -/

abbrev Reader (α : Type) := StateT (List UInt8) (Except DatabaseError) α

def readBytes (n : Nat) : Reader (List UInt8) := fun bytes =>
  if bytes.length < n then .error .shortAnswer else .ok (bytes.splitAt n)

def readNumber (size : Nat) : Reader Nat := return ofLittleEndian (← readBytes size)

/-- A number of seven bits to a byte, in ten bytes at most. -/
def readVarint : (size : Nat) → Reader Nat
  | 0 => throw .shortAnswer
  | size + 1 => do
    let b ← readNumber 1
    if b < 128 then return b
    return b - 128 + 128 * (← readVarint size)

def readText : Reader String := do
  let bytes ← readBytes (← readVarint 10)
  match String.fromUTF8? ⟨bytes.toArray⟩ with
  | some s => return s
  | none => throw .notText

def readQueryRow : Reader QueryRow := do
  return { id := ← readText
           pubkey := ← readText
           createdAt := .ofNat (← readNumber 4)
           kind := .ofNat (← readNumber 2)
           content := ← readText
           sig := ← readText
           tagsJson := ← readText }

def readEngagement : Reader Engagement := do
  return { eventId := ← readText
           pubkey := ← readText
           kind := .ofNat (← readNumber 2)
           createdAt := .ofNat (← readNumber 4)
           replies := .ofNat (← readNumber 8)
           reactions := .ofNat (← readNumber 8)
           reposts := .ofNat (← readNumber 8)
           zaps := .ofNat (← readNumber 8)
           zapMillisats := .ofNat (← readNumber 8) }

/-- Rows up to the end of the bytes. Each has bytes of its own, which the first number counts. -/
def readRows {α : Type} (row : Reader α) : Nat → List UInt8 → Except DatabaseError (List α)
  | 0, _ => .ok []
  | _ + 1, [] => .ok []
  | fuel + 1, bytes => do
    let (a, rest) ← row bytes
    return a :: (← readRows row fuel rest)

def readAll {α : Type} (row : Reader α) (bytes : List UInt8) : Except DatabaseError (List α) :=
  readRows row bytes.length bytes

/-- The first row of an answer that has to have one. -/
def readOne {α : Type} (row : Reader α) (bytes : List UInt8) : Except DatabaseError α :=
  if bytes = [] then .error .noRow else (row bytes).map (·.1)

end RelayStore.Server.RowBinary

import RelayStore.Event
import RelayStore.Tag.Projection

/-! Rows of the database's tables. -/
namespace RelayStore

/-- A stored event with its tag columns. Of the rows with one id, the one with the highest version
counts. -/
structure EventRow where
  id : String
  pubkey : String
  createdAt : UInt32
  kind : UInt16
  content : String
  sig : String
  tags : List Tag
  tagE : List String
  tagP : List String
  tagA : List String
  tagT : List String
  tagD : String
  tagG : List String
  tagR : List String
  receivedAt : UInt32
  version : Nat
  deleted : UInt8
  deriving DecidableEq, Repr

def EventRow.ofEvent (e : Event) (receivedAt : UInt32) (version : Nat) : EventRow :=
  let p := Projections.ofTags e.tags
  { id := e.id
    pubkey := e.pubkey
    createdAt := e.createdAt
    kind := e.kind
    content := e.content
    sig := e.sig
    tags := p.tags
    tagE := p.get .e
    tagP := p.get .p
    tagA := p.get .a
    tagT := p.get .t
    tagD := p.identifier
    tagG := p.get .g
    tagR := p.get .r
    receivedAt := receivedAt
    version := version
    deleted := 0 }

/-- A row of an answer to a query; the tags come as JSON. -/
structure QueryRow where
  id : String
  pubkey : String
  createdAt : UInt32
  kind : UInt16
  content : String
  sig : String
  tagsJson : String
  deriving DecidableEq, Repr

/-- How much attention an event has had. -/
structure Engagement where
  eventId : String
  pubkey : String
  kind : UInt16
  createdAt : UInt32
  replies : UInt64
  reactions : UInt64
  reposts : UInt64
  zaps : UInt64
  zapMillisats : UInt64
  deriving DecidableEq, Repr

/-- A place in the ranking of hot posts, with the run that gave it. -/
structure HotPost where
  engagement : Engagement
  score : Float
  computedAt : UInt32
  runId : Nat

end RelayStore

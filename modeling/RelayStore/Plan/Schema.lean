import RelayStore.Tag.Name

/-! The tables and columns that queries run against. -/
namespace RelayStore

/-- The base table, the copies of it sorted by author and by kind, and for every indexed tag name a
view with one row for each event and tag value. -/
inductive Table where
  | events
  | byAuthor
  | byKind
  | byTag (n : TagName)
  deriving DecidableEq, Repr

inductive Column where
  | id
  | pubkey
  | kind
  | createdAt
  | content
  | deleted
  | tags
  | tag (n : TagName)
  | tagValue (n : TagName)
  deriving DecidableEq, Repr

namespace Table

def name : Table → String
  | events => "events"
  | byAuthor => "events_by_author"
  | byKind => "events_by_kind"
  | byTag n => "events_by_tag_" ++ n.text

def all : List Table := [events, byAuthor, byKind] ++ TagName.all.map byTag

def ofName? (s : String) : Option Table := all.find? fun t => t.name = s

end Table

namespace Column

def name : Column → String
  | id => "id"
  | pubkey => "pubkey"
  | kind => "kind"
  | createdAt => "created_at"
  | content => "content"
  | deleted => "deleted"
  | tags => "tags"
  | tag n => "tag_" ++ n.text
  | tagValue n => "tag_" ++ n.text ++ "_value"

def all : List Column :=
  [id, pubkey, kind, createdAt, content, deleted, tags] ++ TagName.all.map tag ++
    TagName.all.map tagValue

def ofName? (s : String) : Option Column := all.find? fun c => c.name = s

/-- What a column holds. -/
inductive Content where
  | text
  | number
  | texts
  | tagLists
  deriving DecidableEq, Repr

/-- The identifier of replaceable events is a single text, the other tag columns are lists. -/
def holds : Column → Content
  | id | pubkey | content | tagValue _ | tag .d => .text
  | kind | createdAt | deleted => .number
  | tag _ => .texts
  | tags => .tagLists

end Column

/-- The view of a tag has the value column of its own name in place of the tag columns. -/
def Table.hasColumn : Table → Column → Bool
  | .byTag n, .tagValue m => n = m
  | .byTag _, .tag _ => false
  | _, .tagValue _ => false
  | _, _ => true

end RelayStore

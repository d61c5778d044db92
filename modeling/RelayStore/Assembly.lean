import RelayStore.Json.Decode
import RelayStore.Row

/-! Rows of an answer turned back into events. -/
namespace RelayStore

/-- The tags of a row. A row without a text has none; a text that is not a list of lists of texts
cannot be read. -/
def QueryRow.tags? (r : QueryRow) : Option (List Tag) :=
  if r.tagsJson = "" then some []
  else ((Json.Source.ofString r.tagsJson).decode (Json.Node.toList? Json.Node.toStrings?)).toOption

/-- The event of a row, without tags where they cannot be read. -/
def QueryRow.event (r : QueryRow) : Event :=
  ⟨r.id, r.pubkey, r.createdAt, r.kind, r.tags?.getD [], r.content, r.sig⟩

/-- Events in the order of their rows, and how many of them lost their tags. -/
structure Assembly where
  events : List Event
  recovered : Nat
  deriving DecidableEq, Repr

def Assembly.ofRows (rows : List QueryRow) : Assembly :=
  ⟨rows.map QueryRow.event, rows.countP fun r => r.tags?.isNone⟩

end RelayStore

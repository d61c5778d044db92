import RelayStore.Event
import RelayStore.Json.Value

/-! Events as JSON objects, in one line. -/
namespace RelayStore

def Tag.list (tags : List Tag) : Json.Value := .array (tags.map Json.Value.strings)

/-- The fields of an event in their order. -/
def Event.value (e : Event) : Json.Value :=
  .object [
    ("id", .string e.id), ("pubkey", .string e.pubkey), ("created_at", .nat e.createdAt.toNat),
    ("kind", .nat e.kind.toNat), ("tags", Tag.list e.tags), ("content", .string e.content),
    ("sig", .string e.sig)]

def Event.text (e : Event) : String := e.value.text

end RelayStore

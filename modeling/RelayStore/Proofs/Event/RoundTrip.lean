import RelayStore.Event.Printer
import RelayStore.Event.Reader
import RelayStore.Proofs.Json.RoundTrip

/-! An event is read back from the text it is written as. -/
namespace RelayStore
open Json

/-! Tags. -/

theorem Tag.exact_list (tags : List Tag) : (Tag.list tags).Exact := by
  simp [Tag.list, Value.Exact, exactItems_iff, Value.exact_strings]

@[simp] theorem Tag.toList?_node_list (tags : List Tag) :
    (Tag.list tags).node.toList? Node.toStrings? = .ok tags := by
  have items : (Tag.list tags).node =
      .array (tags.map fun t => (Value.strings t).node) none := by
    simp [Tag.list, Value.node]
  rw [items]
  exact Node.items?_map Value.toStrings?_node_strings tags

namespace Event

/-- The fields that the text of an event has. -/
def fields (e : Event) : Fields :=
  ⟨e.id, e.pubkey, e.createdAt.toNat, e.kind.toNat, e.tags, e.content, e.sig⟩

@[simp] theorem ofFields_fields (e : Event) : ofFields e.fields = e := by
  simp [ofFields, fields]

theorem exact_value (e : Event) : e.value.Exact := by
  have time : e.createdAt.toNat < UInt64.size := Nat.lt_trans e.createdAt.toNat_lt (by decide)
  have kind : e.kind.toNat < UInt64.size := Nat.lt_trans e.kind.toNat_lt (by decide)
  simp only [value, Value.Exact, ExactMembers, Value.nat, Number.Exact]
  exact ⟨trivial, trivial, time, kind, Tag.exact_list e.tags, trivial, trivial, trivial⟩

theorem node_value (e : Event) :
    e.value.node = .object [
      (.ok "id", .string (.ok e.id)), (.ok "pubkey", .string (.ok e.pubkey)),
      (.ok "created_at", .number (some (.whole e.createdAt.toNat))),
      (.ok "kind", .number (some (.whole e.kind.toNat))), (.ok "tags", (Tag.list e.tags).node),
      (.ok "content", .string (.ok e.content)), (.ok "sig", .string (.ok e.sig))] none := rfl

/-- Each field is there once and fits. -/
theorem ofNode_value {form : Form} {e : Event} (time : e.createdAt.toNat < form.timeBound)
    (kind : e.kind.toNat < form.kindBound) :
    Fields.ofNode form e.value.node = .ok e.fields := by
  rw [node_value]
  simp [Fields.ofNode, Draft.members, Draft.member, Draft.set, Draft.holds, fieldNames, ofFault,
    Node.toString?, Node.toNat?, time, kind, Draft.fields, fields]

theorem ofJson_text_fields {form : Form} {e : Event} (time : e.createdAt.toNat < form.timeBound)
    (kind : e.kind.toNat < form.kindBound) : Fields.ofJson form e.text = .ok e.fields := by
  rw [Fields.ofJson, text, Source.ofString_text e.exact_value, Source.decode,
    ofNode_value time kind]
  rfl

/-- An event that is stored can be read again. -/
theorem ofJson_text {e : Event} (sound : e.check = .ok ()) : ofJson e.text = .ok e := by
  have read : Fields.ofJson .stored e.text = .ok e.fields :=
    ofJson_text_fields e.createdAt.toNat_lt e.kind.toNat_lt
  simp [ofJson, read, sound]

end Event
end RelayStore

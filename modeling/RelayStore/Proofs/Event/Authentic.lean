import RelayStore.Event.Signed
import RelayStore.Proofs.Event.RoundTrip

/-! An event that was accepted with its signature is accepted again as it is stored. -/
namespace RelayStore
open Json

namespace SignedEvent

/-- What reading makes sure of. -/
structure Sound (s : SignedEvent) : Prop where
  id : s.id.length = 32
  pubkey : s.pubkey.length = 32
  sig : s.sig.length = 64
  tags : s.tags.any List.isEmpty = false

theorem bytes?_encodeHex {n : Nat} {bytes : List UInt8} (length : bytes.length = n) :
    bytes? n (Text.encodeHex bytes) = some bytes := by
  simp [bytes?, Option.filter, length]

theorem bytes?_eq_some {n : Nat} {text : String} {bytes : List UInt8} :
    bytes? n text = some bytes ↔ Text.decodeHex? text = some bytes ∧ bytes.length = n := by
  simp [bytes?]

theorem ofFields?_eq_some {f : Event.Fields} {s : SignedEvent} (read : ofFields? f = some s) :
    bytes? 32 f.id = some s.id ∧ bytes? 32 f.pubkey = some s.pubkey ∧
      bytes? 64 f.sig = some s.sig ∧ s.tags.any List.isEmpty = false ∧
      s.createdAt = f.createdAt ∧ s.kind = .ofNat f.kind ∧ s.tags = f.tags ∧
      s.content = f.content := by
  simp only [ofFields?, Option.bind_eq_bind, Option.bind_eq_some_iff] at read
  obtain ⟨id, hasId, pubkey, hasKey, sig, hasSig, rest⟩ := read
  split at rest
  · contradiction
  · next named =>
    obtain rfl := Option.some.inj rest
    exact ⟨hasId, hasKey, hasSig, Bool.eq_false_iff.2 named, rfl, rfl, rfl, rfl⟩

theorem sound_of_ofFields? {f : Event.Fields} {s : SignedEvent} (read : ofFields? f = some s) :
    s.Sound := by
  obtain ⟨id, pubkey, sig, tags, -⟩ := ofFields?_eq_some read
  exact ⟨(bytes?_eq_some.1 id).2, (bytes?_eq_some.1 pubkey).2, (bytes?_eq_some.1 sig).2, tags⟩

theorem sound_of_ofJson? {text : String} {s : SignedEvent} (read : ofJson? text = some s) :
    s.Sound := by
  unfold ofJson? at read
  split at read
  · exact sound_of_ofFields? read
  · contradiction

theorem verify_eq_ok {s : SignedEvent} :
    s.verify = .ok () ↔ s.digest = s.id ∧ Crypto.verifies s.pubkey s.id s.sig = true := by
  unfold verify
  split_ifs <;> simp_all

theorem event_eq_ok {s : SignedEvent} {e : Event} :
    s.event = .ok e ↔ s.createdAt < UInt32.size ∧
      (⟨Text.encodeHex s.id, Text.encodeHex s.pubkey, .ofNat s.createdAt, s.kind, s.tags, s.content,
        Text.encodeHex s.sig⟩ : Event) = e := by
  unfold event
  split_ifs with fits <;> simp [fits]

/-- The text of the stored event is read as the event that was signed. -/
theorem ofJson?_text {s : SignedEvent} {e : Event} (sound : s.Sound) (stored : s.event = .ok e) :
    ofJson? e.text = some s := by
  obtain ⟨fits, rfl⟩ := event_eq_ok.1 stored
  have time : (UInt32.ofNat s.createdAt).toNat = s.createdAt := UInt32.toNat_ofNat_of_lt' fits
  rw [ofJson?, Event.ofJson_text_fields]
  · simp [ofFields?, Event.fields, bytes?_encodeHex sound.id, bytes?_encodeHex sound.pubkey,
      bytes?_encodeHex sound.sig, sound.tags, time]
  · exact Nat.lt_trans (UInt32.toNat_lt _) (by decide)
  · exact Nat.lt_trans (UInt16.toNat_lt _) (by decide)

end SignedEvent

namespace Event

/-- The text whose digest is the id, from the fields of the stored event. -/
def preimage (e : Event) : Json.Value :=
  .array [.nat 0, .string e.pubkey, .nat e.createdAt.toNat, .nat e.kind.toNat, Tag.list e.tags,
    .string e.content]

/-- What the stored fields of an event show by themselves: the id is their digest, and the author
signed it. -/
structure Signed (e : Event) (id pubkey sig : List UInt8) : Prop where
  idDigits : e.id = Text.encodeHex id ∧ id.length = 32
  keyDigits : e.pubkey = Text.encodeHex pubkey ∧ pubkey.length = 32
  sigDigits : e.sig = Text.encodeHex sig ∧ sig.length = 64
  digest : Crypto.sha256 e.preimage.text.toUTF8.toList = id
  valid : Crypto.verifies pubkey id sig = true

end Event

namespace SignedEvent

/-- What was checked on the event as it was read holds of the event as it is stored. -/
theorem Sound.signed {s : SignedEvent} {e : Event} (sound : s.Sound)
    (verified : s.verify = .ok ()) (stored : s.event = .ok e) : e.Signed s.id s.pubkey s.sig := by
  obtain ⟨fits, rfl⟩ := event_eq_ok.1 stored
  obtain ⟨digest, valid⟩ := verify_eq_ok.1 verified
  have time : (UInt32.ofNat s.createdAt).toNat = s.createdAt := UInt32.toNat_ofNat_of_lt' fits
  have same : Event.preimage ⟨Text.encodeHex s.id, Text.encodeHex s.pubkey, .ofNat s.createdAt, s.kind,
      s.tags, s.content, Text.encodeHex s.sig⟩ = s.preimage := by
    simp [Event.preimage, preimage, time]
  exact ⟨⟨rfl, sound.id⟩, ⟨rfl, sound.pubkey⟩, ⟨rfl, sound.sig⟩, by rw [same]; exact digest, valid⟩

end SignedEvent

namespace Event

theorem ofSignedJson_eq_ok {text : String} {e : Event} :
    ofSignedJson text = .ok e ↔
      ∃ s, SignedEvent.ofJson? text = some s ∧ s.verify = .ok () ∧ s.event = .ok e := by
  unfold ofSignedJson
  split
  next unread => simp [unread]
  next s read =>
    simp only [bind_eq_ok, mapError_eq_ok, read, Option.some.injEq, exists_eq_left']
    constructor
    · rintro ⟨⟨⟩, verified, stored⟩
      exact ⟨verified, stored⟩
    · rintro ⟨verified, stored⟩
      exact ⟨(), verified, stored⟩

/-- An accepted event is accepted again from its own text, and its stored fields carry the whole
proof of who wrote them. -/
theorem ofSignedJson_text {text : String} {e : Event} (accepted : ofSignedJson text = .ok e) :
    ofSignedJson e.text = .ok e ∧ ∃ id pubkey sig, e.Signed id pubkey sig := by
  obtain ⟨s, read, verified, stored⟩ := ofSignedJson_eq_ok.1 accepted
  have sound := SignedEvent.sound_of_ofJson? read
  have again := SignedEvent.ofJson?_text sound stored
  exact ⟨ofSignedJson_eq_ok.2 ⟨s, again, verified, stored⟩,
    s.id, s.pubkey, s.sig, sound.signed verified stored⟩

/-- An event in lower-case digits. -/
def signedSample : Event where
  id := "d25be0925daf7fad666fac8fc1f32b5ea5307cd51c86917faa31655a4c5bfbfd"
  pubkey := "f9308a019258c31049344f85f89d5229b531c845836f99b08601f113bce036f9"
  createdAt := 1700000000
  kind := 1
  tags := [["t", "x"]]
  content := "\"é\"\n"
  sig :=
    "2f8bde4d1a07209355b4a7250a5c5128e88b84bddc619ab7cba8d569b240efe4" ++
    "296a8ed9572b0e9d73c76a2a1b5ab7b969d529642019627e4e4d91cefced83fc"

/-- The same event from elsewhere: its digits in upper case, its fields in another order. -/
def shuffledSample : Json.Value :=
  .object [
    ("sig", .string signedSample.sig),
    ("content", .string signedSample.content),
    ("tags", Tag.list signedSample.tags), ("kind", .nat 1), ("created_at", .nat 1700000000),
    ("pubkey", .string "F9308A019258C31049344F85F89D5229B531C845836F99B08601F113BCE036F9"),
    ("id", .string "D25BE0925DAF7FAD666FAC8FC1F32B5EA5307CD51C86917FAA31655A4C5BFBFD")]

theorem exact_shuffledSample : shuffledSample.Exact := by
  simp [shuffledSample, Value.Exact, ExactMembers, Tag.exact_list, Value.nat, Number.Exact,
    UInt64.size]

theorem fields_shuffledSample :
    Fields.ofJson SignedEvent.form shuffledSample.text = .ok
      ⟨"D25BE0925DAF7FAD666FAC8FC1F32B5EA5307CD51C86917FAA31655A4C5BFBFD",
        "F9308A019258C31049344F85F89D5229B531C845836F99B08601F113BCE036F9", 1700000000, 1,
        signedSample.tags, signedSample.content, signedSample.sig⟩ := by
  rw [Fields.ofJson, Source.ofString_text exact_shuffledSample]
  rfl

theorem accepts_shuffledSample : ofSignedJson shuffledSample.text = .ok signedSample := by
  apply toOption_eq_some.1
  rw [ofSignedJson, SignedEvent.ofJson?, fields_shuffledSample]
  -- What is left after reading is to compute the digest and the signature.
  decide +kernel

theorem ofSignedJson_shuffledSample :
    ofSignedJson shuffledSample.text = .ok signedSample ∧
      ofSignedJson signedSample.text = .ok signedSample ∧
      ∃ id pubkey sig, signedSample.Signed id pubkey sig :=
  ⟨accepts_shuffledSample, ofSignedJson_text accepts_shuffledSample⟩

end Event
end RelayStore

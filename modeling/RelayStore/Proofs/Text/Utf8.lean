import Mathlib.Data.List.Basic
import Mathlib.Data.String.Basic

/-! The bytes of a text, and the text of bytes. -/
namespace RelayStore.Text

theorem toListLoop_eq (bytes : ByteArray) (i : Nat) (reversed : List UInt8) :
    ByteArray.toList.loop bytes i reversed = reversed.reverse ++ bytes.data.toList.drop i := by
  fun_induction ByteArray.toList.loop bytes i reversed with
  | case1 i reversed more ih =>
    have inside : i < bytes.data.toList.length := by simpa using more
    rw [ih, List.drop_eq_getElem_cons inside]
    simp [ByteArray.get!, more]
  | case2 i reversed past =>
    have outside : bytes.data.toList.length ≤ i := by simpa using Nat.le_of_not_lt past
    rw [List.drop_eq_nil_of_le outside, List.append_nil]

theorem toList_eq_data (bytes : ByteArray) : bytes.toList = bytes.data.toList := by
  simp [ByteArray.toList, toListLoop_eq]

theorem toList_toUTF8 (s : String) : s.toUTF8.toList = s.toList.flatMap String.utf8EncodeChar := by
  rw [toList_eq_data, String.toUTF8, ← String.utf8Encode_toList, List.utf8Encode,
    List.toList_data_toByteArray]

theorem toList_toUTF8_append (s t : String) :
    (s ++ t).toUTF8.toList = s.toUTF8.toList ++ t.toUTF8.toList := by
  simp only [toList_toUTF8, String.toList_append, List.flatMap_append]

/-- The bytes of a text are the text again. -/
theorem fromUTF8?_toUTF8 (s : String) :
    String.fromUTF8? ⟨s.toUTF8.toList.toArray⟩ = some s := by
  have bytes : (⟨s.toUTF8.toList.toArray⟩ : ByteArray) = s.toByteArray := by
    rw [toList_eq_data, Array.toArray_toList]
    rfl
  rw [bytes, String.fromUTF8?, dif_pos s.isValidUTF8]
  rfl

theorem toUTF8_of_fromUTF8? {bytes : List UInt8} {s : String}
    (read : String.fromUTF8? ⟨bytes.toArray⟩ = some s) : s.toUTF8.toList = bytes := by
  unfold String.fromUTF8? at read
  split_ifs at read
  obtain rfl := Option.some.inj read
  rw [toList_eq_data]
  rfl

theorem toUTF8_toList_inj {s t : String} : s.toUTF8.toList = t.toUTF8.toList ↔ s = t := by
  constructor
  · intro same
    have read := fromUTF8?_toUTF8 s
    rw [same, fromUTF8?_toUTF8] at read
    exact (Option.some.inj read).symm
  · rintro rfl
    rfl

theorem utf8Len_eq_length {cs : List Char} (single : ∀ c ∈ cs, c.utf8Size = 1) :
    String.utf8Len cs = cs.length := by
  induction cs with
  | nil => rfl
  | cons c cs ih =>
    obtain ⟨first, others⟩ := List.forall_mem_cons.mp single
    rw [String.utf8Len_cons, ih others, first, List.length_cons]

/-- No byte of a printable character is a control character. -/
theorem printable_utf8EncodeChar {c : Char} (printable : 32 ≤ c.toNat) :
    ∀ b ∈ String.utf8EncodeChar c, 32 ≤ b.toNat := by
  have size : c.val.toNat = c.toNat := rfl
  unfold String.utf8EncodeChar
  dsimp only
  rw [size]
  split_ifs
  all_goals
    simp only [List.forall_mem_cons, UInt8.toNat_ofNat', List.not_mem_nil, false_implies,
      implies_true, and_true]
    omega

theorem printable_toUTF8 {s : String} (printable : ∀ c ∈ s.toList, 32 ≤ c.toNat) :
    ∀ b ∈ s.toUTF8.toList, 32 ≤ b.toNat := by
  intro b mem
  rw [toList_toUTF8, List.mem_flatMap] at mem
  obtain ⟨c, inside, encoded⟩ := mem
  exact printable_utf8EncodeChar (printable c inside) b encoded

end RelayStore.Text

import RelayStore.Text.Hex
import Mathlib.Data.List.Basic

/-! Bytes survive being written in hexadecimal digits, and digits survive being read but for their
case. -/
namespace RelayStore.Text

theorem hexDigitValue?_hexDigitChar {n : Nat} (h : n < 16) :
    hexDigitValue? (hexDigitChar n) = some n := by
  have all : ∀ n < 16, hexDigitValue? (hexDigitChar n) = some n := by decide
  exact all n h

@[simp] theorem decodeHexList?_encodeHexList (bytes : List UInt8) :
    decodeHexList? (encodeHexList bytes) = some bytes := by
  induction bytes with
  | nil => rfl
  | cons b bytes ih =>
    have high : b.toNat / 16 < 16 := by
      have := b.toNat_lt
      omega
    have low : b.toNat % 16 < 16 := Nat.mod_lt _ (by decide)
    have whole : UInt8.ofNat (16 * (b.toNat / 16) + b.toNat % 16) = b := by
      rw [Nat.div_add_mod]
      exact UInt8.ofNat_toNat
    simp only [encodeHexList, decodeHexList?, hexDigitValue?_hexDigitChar high,
      hexDigitValue?_hexDigitChar low, ih, Option.bind_eq_bind, Option.bind_some, Option.pure_def,
      whole]

@[simp] theorem decodeHex?_encodeHex (bytes : List UInt8) :
    decodeHex? (encodeHex bytes) = some bytes := by
  rw [decodeHex?, encodeHex, String.toList_ofList, decodeHexList?_encodeHexList]

theorem hexDigitValue?_eq_some {c : Char} {n : Nat} (digit : hexDigitValue? c = some n) :
    n < 16 ∧ hexDigitChar n = c.toLower ∧ c.utf8Size = 1 := by
  have small : c.toNat < 103 := by
    unfold hexDigitValue? at digit
    dsimp only at digit
    split_ifs at digit <;> omega
  have all : ∀ code < 103, ∀ n ∈ hexDigitValue? (Char.ofNat code),
      n < 16 ∧ hexDigitChar n = (Char.ofNat code).toLower ∧ (Char.ofNat code).utf8Size = 1 := by
    decide
  have here := all c.toNat small
  rw [Char.ofNat_toNat] at here
  exact here n digit

theorem decodeHexList?_eq_some {cs : List Char} {bytes : List UInt8}
    (read : decodeHexList? cs = some bytes) :
    (∀ c ∈ cs, (hexDigitValue? c).isSome = true) ∧ cs.length = 2 * bytes.length ∧
      encodeHexList bytes = cs.map Char.toLower := by
  fun_induction decodeHexList? cs generalizing bytes with
  | case1 =>
    obtain rfl := Option.some.inj read
    simp [encodeHexList]
  | case2 a b rest ih =>
    simp only [Option.bind_eq_bind, Option.bind_eq_some_iff, Option.pure_def,
      Option.some.injEq] at read
    obtain ⟨high, first, low, second, bytes, others, rfl⟩ := read
    obtain ⟨digits, length, written⟩ := ih others
    obtain ⟨highSmall, highChar, -⟩ := hexDigitValue?_eq_some first
    obtain ⟨lowSmall, lowChar, -⟩ := hexDigitValue?_eq_some second
    have byte : (UInt8.ofNat (16 * high + low)).toNat = 16 * high + low := by
      rw [UInt8.toNat_ofNat']
      omega
    have upper : (16 * high + low) / 16 = high := by omega
    have lower : (16 * high + low) % 16 = low := by omega
    refine ⟨?_, ?_, ?_⟩
    · simp only [List.forall_mem_cons, first, second, Option.isSome_some, true_and]
      exact digits
    · rw [List.length_cons, List.length_cons, List.length_cons, length]
      omega
    · rw [encodeHexList, byte, upper, lower, highChar, lowChar, written]
      rfl
  | case3 => contradiction

/-- Bytes are written in lower-case digits, whatever they were read from. -/
theorem encodeHex_of_decodeHex? {s : String} {bytes : List UInt8}
    (read : decodeHex? s = some bytes) : encodeHex bytes = s.toLower := by
  obtain ⟨-, -, written⟩ := decodeHexList?_eq_some read
  apply String.toList_inj.mp
  rw [encodeHex, String.toList_ofList, written]
  exact String.toList_map.symm

end RelayStore.Text

import RelayStore.Proofs.Text.Runs
import RelayStore.Proofs.Text.Utf8

/-!
The tokens of a text: the runs of its bytes that are letters or digits of ASCII, or beyond ASCII.
Main statement: they are the bytes of its runs of such characters.
-/
namespace RelayStore.Text

def isTokenByte (b : UInt8) : Bool := 128 ≤ b.toNat || (Char.ofNat b.toNat).isAlphanum

def isTokenChar (c : Char) : Bool := 128 ≤ c.toNat || c.isAlphanum

theorem isTokenChar_of_isWordChar {c : Char} (letter : isWordChar c = true) :
    isTokenChar c = true := by
  by_cases ascii : c.toNat < 128
  · rw [isWordChar_ascii ascii] at letter
    simp [isTokenChar, letter]
  · simp [isTokenChar, Nat.le_of_not_lt ascii]

/-- A character is a token character exactly if all its bytes are, and it has one byte otherwise. -/
theorem isTokenByte_utf8EncodeChar (c : Char) :
    if isTokenChar c then ∀ b ∈ String.utf8EncodeChar c, isTokenByte b = true
    else ∃ b, String.utf8EncodeChar c = [b] ∧ isTokenByte b = false := by
  have size : c.val.toNat = c.toNat := rfl
  by_cases ascii : c.toNat ≤ 127
  · have byte : (UInt8.ofNat c.toNat).toNat = c.toNat := by
      rw [UInt8.toNat_ofNat']
      omega
    have one : String.utf8EncodeChar c = [UInt8.ofNat c.toNat] := by
      rw [String.utf8EncodeChar]
      exact if_pos ascii
    have same : isTokenByte (UInt8.ofNat c.toNat) = isTokenChar c := by
      rw [isTokenByte, isTokenChar, byte, Char.ofNat_toNat]
    split
    next token => simpa [one, same] using token
    next token => exact ⟨_, one, by simpa [same] using token⟩
  · have token : isTokenChar c = true := by
      have above : 128 ≤ c.toNat := Nat.lt_of_not_le ascii
      simp [isTokenChar, above]
    rw [if_pos token]
    have beyond : ∀ b ∈ String.utf8EncodeChar c, 128 ≤ b.toNat := by
      unfold String.utf8EncodeChar
      dsimp only
      rw [size, if_neg ascii]
      split_ifs
      all_goals
        simp only [List.forall_mem_cons, UInt8.toNat_ofNat', List.not_mem_nil, false_implies,
          implies_true, and_true]
        omega
    intro b mem
    simp [isTokenByte, beyond b mem]

theorem isEmpty_encoded (cs : List Char) :
    (cs.flatMap String.utf8EncodeChar).isEmpty = cs.isEmpty := by
  cases cs with
  | nil => rfl
  | cons c cs => simp [String.utf8EncodeChar_ne_nil]

theorem runs_encoded (cs : List Char) :
    runs isTokenByte (cs.flatMap String.utf8EncodeChar) =
      (runs isTokenChar cs).map fun run => run.flatMap String.utf8EncodeChar := by
  have bytes : ∀ cs : List Char, (∀ c ∈ cs, isTokenChar c = true) →
      ∀ b ∈ cs.flatMap String.utf8EncodeChar, isTokenByte b = true := by
    intro cs all b mem
    obtain ⟨c, inside, encoded⟩ := List.mem_flatMap.mp mem
    have char := isTokenByte_utf8EncodeChar c
    rw [if_pos (all c inside)] at char
    exact char b encoded
  induction cs using runs_induction (p := isTokenChar) with
  | all cs all =>
    rw [runs_of_all all, runs_of_all (bytes cs all), isEmpty_encoded]
    cases cs.isEmpty <;> rfl
  | separated first c rest all lacks ih =>
    have char := isTokenByte_utf8EncodeChar c
    rw [if_neg (by simp [lacks])] at char
    obtain ⟨b, one, outside⟩ := char
    rw [List.flatMap_append, List.flatMap_cons, one, List.singleton_append,
      runs_append (bytes first all) outside, runs_append all lacks, isEmpty_encoded, ih]
    cases first.isEmpty <;> rfl

/-- The tokens of a text are the bytes of its runs of token characters. -/
theorem isRun_token {word s : String} :
    IsRun isTokenByte word.toUTF8.toList s.toUTF8.toList ↔
      IsRun isTokenChar word.toList s.toList := by
  rw [← mem_runs, ← mem_runs, toList_toUTF8 s, runs_encoded, List.mem_map]
  constructor
  · rintro ⟨run, mem, same⟩
    have word' : word = String.ofList run := by
      rw [← toUTF8_toList_inj, toList_toUTF8 (String.ofList run), String.toList_ofList]
      exact same.symm
    rwa [word', String.toList_ofList]
  · intro mem
    exact ⟨word.toList, mem, (toList_toUTF8 word).symm⟩

end RelayStore.Text

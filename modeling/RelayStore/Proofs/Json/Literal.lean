import RelayStore.Json.Source
import RelayStore.Json.Value
import RelayStore.Proofs.Except
import RelayStore.Proofs.Text.Hex

/-! String literals are read as what they were written for, whatever follows them. -/
namespace RelayStore.Json

/-- Four hexadecimal digits and their number. -/
inductive FourDigits : Nat → List Char → Prop where
  | mk {a b c d : Char} {i j k l : Nat} (first : Text.hexDigitValue? a = some i)
      (second : Text.hexDigitValue? b = some j) (third : Text.hexDigitValue? c = some k)
      (fourth : Text.hexDigitValue? d = some l) :
      FourDigits (((i * 16 + j) * 16 + k) * 16 + l) [a, b, c, d]

/-- The letters that stand for a character after a backslash, and these characters. -/
def shortEscapes : List (Char × Char) :=
  [('"', '"'), ('\\', '\\'), ('/', '/'), ('b', '\x08'), ('f', '\x0c'), ('n', '\n'), ('r', '\r'),
    ('t', '\t')]

theorem shortEscape?_eq_some {c e : Char} : shortEscape? e = some c ↔ (e, c) ∈ shortEscapes := by
  constructor
  · intro meaning
    unfold shortEscape? at meaning
    split_ifs at meaning with same b f n r t
    · cases meaning
      rcases same with rfl | rfl | rfl <;> decide
    all_goals
      cases meaning
      subst e
      decide
  · intro listed
    simp only [shortEscapes, List.mem_cons, Prod.mk.injEq, List.not_mem_nil, or_false] at listed
    rcases listed with h | h | h | h | h | h | h | h <;> obtain ⟨rfl, rfl⟩ := h <;> rfl

/-- The ways in which a character is spelled inside a string literal. -/
inductive Spelling : Char → List Char → Prop where
  | short {c e : Char} (letter : (e, c) ∈ shortEscapes) : Spelling c ['\\', e]
  | long {n : Nat} {digits : List Char} (number : FourDigits n digits)
      (whole : n < 0xd800 ∨ 0xdfff < n) : Spelling (Char.ofNat n) ('\\' :: 'u' :: digits)
  | pair {n m : Nat} {high low : List Char} (first : FourDigits n high)
      (second : FourDigits m low) (upper : 0xd800 ≤ n ∧ n ≤ 0xdbff)
      (lower : 0xdc00 ≤ m ∧ m ≤ 0xdfff) :
      Spelling (Char.ofNat (0x10000 + (n - 0xd800) * 0x400 + (m - 0xdc00)))
        ('\\' :: 'u' :: (high ++ '\\' :: 'u' :: low))
  | plain {c : Char} (quote : c ≠ '"') (backslash : c ≠ '\\') (printable : 32 ≤ c.toNat) :
      Spelling c [c]

theorem eq_ofNat {c : Char} {n : Nat} (h : c.toNat = n) : Char.ofNat n = c := by
  rw [← h, Char.ofNat_toNat]

theorem spelling_escapeChar (c : Char) : Spelling c (escapeChar c) := by
  unfold escapeChar
  split_ifs with quote backslash h8 h9 h10 h12 h13 control
  · subst quote
    exact .short (by decide)
  · subst backslash
    exact .short (by decide)
  · exact .short (shortEscape?_eq_some.1 (congrArg some (eq_ofNat h8)))
  · exact .short (shortEscape?_eq_some.1 (congrArg some (eq_ofNat h9)))
  · exact .short (shortEscape?_eq_some.1 (congrArg some (eq_ofNat h10)))
  · exact .short (shortEscape?_eq_some.1 (congrArg some (eq_ofNat h12)))
  · exact .short (shortEscape?_eq_some.1 (congrArg some (eq_ofNat h13)))
  · have high : c.toNat / 16 < 16 := by omega
    have low : c.toNat % 16 < 16 := Nat.mod_lt _ (by decide)
    have zero : Text.hexDigitValue? '0' = some 0 := rfl
    have digits := FourDigits.mk zero zero (Text.hexDigitValue?_hexDigitChar high)
      (Text.hexDigitValue?_hexDigitChar low)
    have number : ((0 * 16 + 0) * 16 + c.toNat / 16) * 16 + c.toNat % 16 = c.toNat := by omega
    rw [number] at digits
    have spelled := Spelling.long digits (.inl (by omega))
    rwa [Char.ofNat_toNat] at spelled
  · exact .plain quote backslash (by omega)

theorem hexEscape_iff {n : Nat} {cs rest : List Char} :
    hexEscape cs = .ok (n, rest) ↔ ∃ digits, FourDigits n digits ∧ cs = digits ++ rest := by
  constructor
  · intro read
    unfold hexEscape at read
    split at read
    next a b c d r =>
      split at read
      next i j k l first second third fourth =>
        obtain ⟨rfl, rfl⟩ := Prod.mk.inj (Except.ok.inj read)
        exact ⟨_, .mk first second third fourth, rfl⟩
      · cases read
    · cases read
  · rintro ⟨_, ⟨first, second, third, fourth⟩, rfl⟩
    simp only [List.cons_append, List.nil_append, hexEscape, first, second, third, fourth]

theorem FourDigits.hexEscape {n : Nat} {digits : List Char} (h : FourDigits n digits)
    (rest : List Char) : Json.hexEscape (digits ++ rest) = .ok (n, rest) :=
  hexEscape_iff.2 ⟨digits, h, rfl⟩

theorem shortEscapes_letter :
    ∀ p ∈ shortEscapes, p.1 ≠ 'u' ∧ 32 ≤ p.1.toNat := by decide

theorem Spelling.readChar {c : Char} {spelled : List Char} (h : Spelling c spelled)
    (rest : List Char) : Json.readChar (spelled ++ rest) = .ok (some c, rest) := by
  cases h with
  | short letter =>
    simp [Json.readChar, (shortEscapes_letter _ letter).1, shortEscape?_eq_some.2 letter]
  | @long n digits number whole =>
    have below : ¬ (0xdc00 ≤ n ∧ n ≤ 0xdfff) := by omega
    have read : unicodeEscape (digits ++ rest) = .ok (Char.ofNat n, rest) := by
      rw [unicodeEscape, number.hexEscape, ok_bind]
      simp [below, whole]
    simp [Json.readChar, read]
  | @pair n m high low first second upper lower =>
    have below : ¬ (0xdc00 ≤ n ∧ n ≤ 0xdfff) := by omega
    have half : ¬ (n < 0xd800 ∨ 0xdfff < n) := by omega
    have read : unicodeEscape (high ++ '\\' :: 'u' :: (low ++ rest)) =
        .ok (Char.ofNat (0x10000 + (n - 0xd800) * 0x400 + (m - 0xdc00)), rest) := by
      rw [unicodeEscape, first.hexEscape, ok_bind]
      simp [below, half, second.hexEscape, lower]
    simp [Json.readChar, read]
  | plain quote backslash printable =>
    have : ¬ c.toNat < 32 := by omega
    simp [Json.readChar, quote, backslash, this]

theorem Spelling.length_pos {c : Char} {spelled : List Char} (h : Spelling c spelled) :
    0 < spelled.length := by
  cases h <;> simp

theorem printable_of_hexDigitValue? {c : Char} {n : Nat} (value : Text.hexDigitValue? c = some n) :
    32 ≤ c.toNat := by
  unfold Text.hexDigitValue? at value
  by_contra below
  have : ¬ 48 ≤ c.toNat ∧ ¬ 65 ≤ c.toNat ∧ ¬ 97 ≤ c.toNat := by omega
  simp [this] at value

theorem FourDigits.printable {n : Nat} {digits : List Char} (h : FourDigits n digits) :
    ∀ x ∈ digits, 32 ≤ x.toNat := by
  obtain ⟨first, second, third, fourth⟩ := h
  simpa using ⟨printable_of_hexDigitValue? first, printable_of_hexDigitValue? second,
    printable_of_hexDigitValue? third, printable_of_hexDigitValue? fourth⟩

/-- Nothing that would break a line is left in a literal. -/
theorem Spelling.printable {c : Char} {spelled : List Char} (h : Spelling c spelled) :
    ∀ x ∈ spelled, 32 ≤ x.toNat := by
  have backslash : 32 ≤ '\\'.toNat := by decide
  have u : 32 ≤ 'u'.toNat := by decide
  cases h with
  | short letter => simpa using (shortEscapes_letter _ letter).2
  | long number whole =>
    exact List.forall_mem_cons.2 ⟨backslash, List.forall_mem_cons.2 ⟨u, number.printable⟩⟩
  | pair first second upper lower =>
    simp only [List.forall_mem_cons, List.forall_mem_append]
    exact ⟨backslash, u, first.printable, backslash, u, second.printable⟩
  | plain quote backslash printable => simpa using printable

/-- The text between the quotes of a string literal. -/
inductive Spelled : List Char → List Char → Prop where
  | nil : Spelled [] []
  | cons {c : Char} {s spelled text : List Char} (first : Spelling c spelled)
      (others : Spelled s text) : Spelled (c :: s) (spelled ++ text)

theorem spelled_flatMap_escapeChar (s : List Char) : Spelled s (s.flatMap escapeChar) := by
  induction s with
  | nil => exact .nil
  | cons c s ih => exact .cons (spelling_escapeChar c) ih

theorem Spelled.printable {s text : List Char} (h : Spelled s text) :
    ∀ x ∈ text, 32 ≤ x.toNat := by
  induction h with
  | nil => simp
  | cons first _ ih => exact List.forall_mem_append.2 ⟨first.printable, ih⟩

theorem Spelled.length_le {s text : List Char} (h : Spelled s text) : s.length ≤ text.length := by
  induction h with
  | nil => exact Nat.le_refl _
  | cons first _ ih =>
    have := first.length_pos
    simp only [List.length_cons, List.length_append]
    omega

theorem Spelled.readChars {s text : List Char} (h : Spelled s text) (rest : List Char)
    {fuel : Nat} (room : s.length < fuel) :
    Json.readChars fuel (text ++ '"' :: rest) = .ok (s, rest) := by
  induction h generalizing fuel with
  | nil =>
    obtain ⟨fuel, rfl⟩ := Nat.exists_eq_add_one_of_ne_zero (Nat.ne_of_gt room)
    simp [Json.readChars, readChar]
  | @cons c s spelled text first others ih =>
    obtain ⟨fuel, rfl⟩ := Nat.exists_eq_add_one_of_ne_zero (Nat.ne_zero_of_lt room)
    rw [List.append_assoc, Json.readChars, first.readChar, ok_bind]
    simp [ih (Nat.lt_of_succ_lt_succ room)]

/-! Passing over a literal. -/

/-- A part of a literal that is passed over at once. -/
inductive Unread : List Char → Prop where
  | short {c e : Char} (letter : (e, c) ∈ shortEscapes) : Unread ['\\', e]
  | long {n : Nat} {digits : List Char} (number : FourDigits n digits) :
      Unread ('\\' :: 'u' :: digits)
  | plain {c : Char} (quote : c ≠ '"') (backslash : c ≠ '\\') (printable : 32 ≤ c.toNat) :
      Unread [c]

/-- The text between the quotes of a literal that is only passed over, and its number of parts. An
escape of four digits may be any. -/
inductive Passed : Nat → List Char → Prop where
  | nil : Passed 0 []
  | cons {n : Nat} {part text : List Char} (first : Unread part) (others : Passed n text) :
      Passed (n + 1) (part ++ text)

theorem Passed.length_le {n : Nat} {text : List Char} (h : Passed n text) : n ≤ text.length := by
  induction h with
  | nil => exact Nat.le_refl _
  | cons first _ ih =>
    cases first <;> simp only [List.length_append, List.length_cons] <;> omega

theorem Unread.skipChar {part : List Char} (h : Unread part) (rest : List Char) :
    Json.skipChar (part ++ rest) = .ok (false, rest) := by
  cases h with
  | short letter =>
    simp [Json.skipChar, (shortEscapes_letter _ letter).1, shortEscape?_eq_some.2 letter]
  | long number => simp [Json.skipChar, number.hexEscape]
  | plain quote backslash printable =>
    have : ¬ _ < 32 := Nat.not_lt.2 printable
    simp [Json.skipChar, quote, backslash, this]

theorem skipChar_iff {last : Bool} {cs rest : List Char} :
    skipChar cs = .ok (last, rest) ↔
      (last = true ∧ cs = '"' :: rest) ∨
        ∃ part, last = false ∧ Unread part ∧ cs = part ++ rest := by
  constructor
  · intro skip
    unfold skipChar at skip
    split at skip
    · cases skip
    next x r =>
      split_ifs at skip with quote backslash control
      · cases skip
        exact .inl ⟨rfl, by rw [quote]⟩
      · split at skip
        · cases skip
        next e r' =>
          subst backslash
          split_ifs at skip with u
          · obtain ⟨⟨n, tail⟩, escape, same⟩ := map_eq_ok.1 skip
            cases same
            obtain ⟨digits, number, rfl⟩ := hexEscape_iff.1 escape
            exact .inr ⟨_, rfl, .long number, by simp [u]⟩
          · split at skip
            next c meaning =>
              cases skip
              exact .inr ⟨_, rfl, .short (shortEscape?_eq_some.1 meaning), rfl⟩
            · cases skip
      · cases skip
        exact .inr ⟨[x], rfl, .plain quote backslash (Nat.not_lt.1 control), rfl⟩
  · rintro (⟨rfl, rfl⟩ | ⟨part, rfl, unread, rfl⟩)
    · rfl
    · exact unread.skipChar rest

theorem skipChars_iff {fuel : Nat} {cs rest : List Char} :
    skipChars fuel cs = .ok rest ↔
      ∃ n text, n < fuel ∧ Passed n text ∧ cs = text ++ '"' :: rest := by
  induction fuel generalizing cs with
  | zero => simp [skipChars]
  | succ fuel ih =>
    rw [skipChars, bind_eq_ok]
    constructor
    · rintro ⟨⟨last, r⟩, first, skip⟩
      rcases skipChar_iff.1 first with ⟨rfl, rfl⟩ | ⟨part, rfl, unread, rfl⟩
      · cases skip
        exact ⟨0, [], Nat.succ_pos fuel, .nil, rfl⟩
      · obtain ⟨n, text, room, passed, rfl⟩ := ih.1 skip
        exact ⟨n + 1, part ++ text, Nat.succ_lt_succ room, .cons unread passed, by simp⟩
    · rintro ⟨_, _, room, passed, rfl⟩
      cases passed with
      | nil => exact ⟨(true, rest), rfl, rfl⟩
      | @cons n part text first others =>
        refine ⟨(false, text ++ '"' :: rest), ?_,
          ih.2 ⟨n, text, Nat.lt_of_succ_lt_succ room, others, rfl⟩⟩
        rw [List.append_assoc, first.skipChar]

/-- Passing over a literal takes the two halves of a pair one by one. -/
theorem Spelled.passed {s text : List Char} (h : Spelled s text) : ∃ n, Passed n text := by
  induction h with
  | nil => exact ⟨0, .nil⟩
  | cons first _ ih =>
    obtain ⟨n, others⟩ := ih
    cases first with
    | short letter => exact ⟨_, .cons (.short letter) others⟩
    | long number => exact ⟨_, .cons (.long number) others⟩
    | @pair _ _ high low first second =>
      have halves := Passed.cons (.long first) (.cons (.long second) others)
      exact ⟨_, by simpa using halves⟩
    | plain quote backslash printable => exact ⟨_, .cons (.plain quote backslash printable) others⟩

theorem Spelled.skipChars {s text : List Char} (h : Spelled s text) (rest : List Char)
    {fuel : Nat} (room : text.length < fuel) :
    Json.skipChars fuel (text ++ '"' :: rest) = .ok rest := by
  obtain ⟨n, passed⟩ := h.passed
  exact skipChars_iff.2 ⟨n, text, Nat.lt_of_le_of_lt passed.length_le room, passed, rfl⟩

/-- Where a literal that can be passed over starts with no character, it is malformed there. -/
theorem Passed.spelling {n : Nat} {part text : List Char} (first : Unread part)
    (others : Passed n text) :
    (∃ c spelled text' m, Spelling c spelled ∧ Passed m text' ∧ m ≤ n ∧
      part ++ text = spelled ++ text') ∨
    ∀ rest, readChar (part ++ text ++ '"' :: rest) = .error .malformed := by
  cases first with
  | short letter => exact .inl ⟨_, _, text, n, .short letter, others, Nat.le_refl n, rfl⟩
  | plain quote backslash printable =>
    exact .inl ⟨_, _, text, n, .plain quote backslash printable, others, Nat.le_refl n, rfl⟩
  | @long u digits number =>
    by_cases whole : u < 0xd800 ∨ 0xdfff < u
    · exact .inl ⟨_, _, text, n, .long number whole, others, Nat.le_refl n, rfl⟩
    by_cases lower : 0xdc00 ≤ u ∧ u ≤ 0xdfff
    · right
      intro rest
      simp [readChar, unicodeEscape, number.hexEscape, lower, Except.map]
    -- A high surrogate is half of a character, so what comes next decides.
    have half (rest : List Char)
        (after : rest ≠ [] ∧ rest ≠ ['\\'] ∧ ∀ r, rest ≠ '\\' :: 'u' :: r) :
        readChar ('\\' :: 'u' :: (digits ++ rest)) = .error .malformed := by
      have read : unicodeEscape (digits ++ rest) = .error .malformed := by
        rw [unicodeEscape, number.hexEscape, ok_bind]
        dsimp only
        rw [if_neg lower, if_neg whole]
        split
        next r => exact absurd rfl (after.2.2 r)
        · exact absurd rfl after.1
        · exact absurd rfl after.2.1
        · rfl
      simp [readChar, read, Except.map]
    cases others with
    | nil => exact .inr fun rest => by simpa using half ('"' :: rest) (by simp)
    | @cons n part text next others =>
      cases next with
      | @short c e letter =>
        have other := (shortEscapes_letter _ letter).1
        exact .inr fun rest => by
          simpa using half ('\\' :: e :: (text ++ '"' :: rest)) (by simp [other])
      | @plain c quote backslash printable =>
        exact .inr fun rest => by
          simpa using half (c :: (text ++ '"' :: rest)) (by simp [backslash])
      | @long v low second =>
        by_cases paired : 0xdc00 ≤ v ∧ v ≤ 0xdfff
        · exact .inl ⟨_, _, text, n, .pair number second (by omega) paired, others, Nat.le_succ n,
            by simp⟩
        · right
          intro rest
          simp [readChar, unicodeEscape, number.hexEscape, second.hexEscape, lower, whole, paired,
            Except.map]

theorem Passed.readChars {n : Nat} {text : List Char} (h : Passed n text) :
    (∃ s, Spelled s text ∧ s.length ≤ n) ∨
      ∀ fuel rest, n < fuel → Json.readChars fuel (text ++ '"' :: rest) = .error .malformed := by
  induction n using Nat.strongRecOn generalizing text with
  | ind n ih =>
    cases h with
    | nil => exact .inl ⟨[], .nil, Nat.le_refl 0⟩
    | @cons n part text first others =>
      rcases Passed.spelling first others with
        ⟨c, spelled, text', m, spelling, rest', less, same⟩ | bad
      · rw [same]
        rcases ih m (Nat.lt_succ_of_le less) rest' with ⟨s, spells, short⟩ | bad
        · exact .inl ⟨c :: s, .cons spelling spells, Nat.succ_le_succ (Nat.le_trans short less)⟩
        · refine .inr fun fuel rest room => ?_
          obtain ⟨fuel, rfl⟩ := Nat.exists_eq_add_one_of_ne_zero (Nat.ne_zero_of_lt room)
          rw [List.append_assoc, Json.readChars, spelling.readChar, ok_bind]
          simp only
          rw [bad fuel rest (by omega)]
          rfl
      · refine .inr fun fuel rest room => ?_
        obtain ⟨fuel, rfl⟩ := Nat.exists_eq_add_one_of_ne_zero (Nat.ne_zero_of_lt room)
        rw [Json.readChars, bad]
        rfl

/-! Literals as values. -/

theorem Spelled.stringNode {s text : List Char} (h : Spelled s text) (rest : List Char)
    {fuel : Nat} (room : text.length < fuel) :
    Json.stringNode fuel (text ++ '"' :: rest) = (.string (.ok (String.ofList s)), some rest) := by
  simp [Json.stringNode, stringValue, h.skipChars rest room,
    h.readChars rest (Nat.lt_of_le_of_lt h.length_le room)]

theorem Passed.stringNode {n : Nat} {text : List Char} (h : Passed n text)
    (none : ∀ s, ¬ Spelled s text) (rest : List Char) {fuel : Nat} (room : text.length < fuel) :
    Json.stringNode fuel (text ++ '"' :: rest) = (.string (.error .malformed), some rest) := by
  have few := Nat.lt_of_le_of_lt h.length_le room
  have bad := h.readChars.resolve_left fun ⟨s, spells, _⟩ => none s spells
  rw [Json.stringNode, skipChars_iff.2 ⟨n, text, few, h, rfl⟩, stringValue, bad fuel rest few]
  rfl

/-- Reading and passing over a literal agree on where it ends. -/
theorem passed_of_stringNode {fuel : Nat} {cs : List Char} {k : Except Fault String}
    {r : Option (List Char)} (node : stringNode fuel cs = (.string k, r)) :
    ∃ n text rest, Passed n text ∧ r = some rest ∧ cs = text ++ '"' :: rest ∧
      ((∃ s : String, Spelled s.toList text ∧ k = .ok s) ∨
        (∀ s, ¬ Spelled s text) ∧ k = .error .malformed) := by
  unfold stringNode at node
  split at node
  next rest skip =>
    cases node
    obtain ⟨n, text, room, passed, rfl⟩ := skipChars_iff.1 skip
    refine ⟨n, text, rest, passed, rfl, rfl, ?_⟩
    rcases passed.readChars with ⟨s, spells, short⟩ | bad
    · refine .inl ⟨String.ofList s, by simpa using spells, ?_⟩
      rw [stringValue, spells.readChars rest (by omega)]
      rfl
    · refine .inr ⟨fun s spells => ?_, by rw [stringValue, bad fuel rest room]; rfl⟩
      have read := spells.readChars rest (Nat.lt_succ_of_le (Nat.le_max_left s.length n))
      rw [bad _ rest (Nat.lt_succ_of_le (Nat.le_max_right s.length n))] at read
      cases read
  · cases node

theorem spelled_of_stringNode {fuel : Nat} {cs : List Char} {s : String} {r : Option (List Char)}
    (node : stringNode fuel cs = (.string (.ok s), r)) :
    ∃ text rest, Spelled s.toList text ∧ r = some rest ∧ cs = text ++ '"' :: rest := by
  obtain ⟨n, text, rest, -, rfl, rfl, ⟨s', spells, same⟩ | ⟨-, absurd⟩⟩ := passed_of_stringNode node
  · cases same
    exact ⟨text, rest, spells, rfl, rfl⟩
  · cases absurd

theorem length_printString (s : String) :
    (printString s).length = (s.toList.flatMap escapeChar).length + 2 := by
  simp [printString]

theorem skipChars_print (s : String) (rest : List Char) {fuel : Nat}
    (room : (printString s).length ≤ fuel) :
    skipChars fuel (s.toList.flatMap escapeChar ++ '"' :: rest) = .ok rest := by
  rw [length_printString] at room
  exact (spelled_flatMap_escapeChar s.toList).skipChars rest (by omega)

theorem stringValue_print (s : String) (rest : List Char) {fuel : Nat}
    (room : (printString s).length ≤ fuel) :
    stringValue fuel (s.toList.flatMap escapeChar ++ '"' :: rest) = .ok s := by
  rw [length_printString] at room
  have spells := spelled_flatMap_escapeChar s.toList
  have short := spells.length_le
  have read := spells.readChars rest (show _ < fuel by omega)
  simp [stringValue, read]

theorem stringNode_print (s : String) (rest : List Char) {fuel : Nat}
    (room : (printString s).length ≤ fuel + 1) :
    stringNode fuel (s.toList.flatMap escapeChar ++ '"' :: rest) =
      (.string (.ok s), some rest) := by
  rw [length_printString] at room
  have read := (spelled_flatMap_escapeChar s.toList).stringNode rest (show _ < fuel by omega)
  rwa [String.ofList_toList] at read

end RelayStore.Json

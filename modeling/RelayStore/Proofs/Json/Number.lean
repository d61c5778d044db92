import Mathlib.Data.List.Induction
import Mathlib.Data.List.TakeWhile
import RelayStore.Json.Source
import RelayStore.Json.Value
import RelayStore.Proofs.Except

/-!
The texts of numbers, by their grammar. Main statement: a whole number is written by its digits and
in no other way.
-/
namespace RelayStore.Json

/-! The grammar. -/

def Digits (ds : List Char) : Prop := ds ≠ [] ∧ ∀ c ∈ ds, c.isDigit = true

/-- Digits of which the first is zero only if it is the only one. -/
def WholeText (ds : List Char) : Prop := Digits ds ∧ (ds.head? = some '0' → ds = ['0'])

inductive FractionText : Option (List Char) → List Char → Prop where
  | absent : FractionText none []
  | present {ds : List Char} (digits : Digits ds) : FractionText (some ds) ('.' :: ds)

/-- The sign of an exponent, and whether it says that the exponent is negative. -/
inductive SignText : Bool → List Char → Prop where
  | absent : SignText false []
  | plus : SignText false ['+']
  | minus : SignText true ['-']

inductive ExponentText : Option (Bool × List Char) → List Char → Prop where
  | absent : ExponentText none []
  | present {e : Char} {below : Bool} {sign ds : List Char} (letter : e = 'e' ∨ e = 'E')
      (signed : SignText below sign) (digits : Digits ds) :
      ExponentText (some (below, ds)) (e :: (sign ++ ds))

def LiteralText (l : Literal) (text : List Char) : Prop :=
  ∃ fraction exponent, WholeText l.whole ∧ FractionText l.fraction fraction ∧
    ExponentText l.exponent exponent ∧
    text = (if l.negative then ['-'] else []) ++ (l.whole ++ (fraction ++ exponent))

/-! What is scanned is of the grammar. -/

theorem eq_of_digitsOf {cs ds rest : List Char} (scan : digitsOf cs = (ds, rest)) :
    (∀ c ∈ ds, c.isDigit = true) ∧ cs = ds ++ rest := by
  obtain ⟨rfl, rfl⟩ := Prod.mk.inj scan
  exact ⟨fun _ mem => List.mem_takeWhile_imp mem, List.takeWhile_append_dropWhile.symm⟩

theorem scanWhole_sound {cs ds rest : List Char} (scan : scanWhole cs = .ok (ds, rest)) :
    WholeText ds ∧ cs = ds ++ rest := by
  unfold scanWhole at scan
  split at scan
  · cases scan
  next digits =>
    cases scan
    obtain ⟨all, rfl⟩ := eq_of_digitsOf digits
    exact ⟨⟨⟨by simp, all⟩, fun _ => rfl⟩, rfl⟩
  · cases scan
  next filled _ more digits =>
    cases scan
    obtain ⟨all, rfl⟩ := eq_of_digitsOf digits
    refine ⟨⟨⟨filled, all⟩, fun first => ?_⟩, rfl⟩
    -- Further digits behind a zero have been refused.
    obtain ⟨c, tail, rfl⟩ := List.exists_cons_of_ne_nil filled
    cases first
    cases tail with
    | nil => rfl
    | cons d tail => exact (more d tail rfl).elim

theorem scanFraction_sound {cs rest : List Char} {o : Option (List Char)}
    (scan : scanFraction cs = .ok (o, rest)) : ∃ text, FractionText o text ∧ cs = text ++ rest := by
  unfold scanFraction at scan
  split at scan
  · split at scan
    · cases scan
    next ds r filled digits =>
      cases scan
      obtain ⟨all, rfl⟩ := eq_of_digitsOf digits
      exact ⟨_, .present ⟨filled, all⟩, rfl⟩
  · cases scan
    exact ⟨[], .absent, rfl⟩

/-- The sign in front of the digits of an exponent. -/
def splitSign (cs : List Char) : Bool × List Char :=
  match cs with
  | '+' :: r => (false, r)
  | '-' :: r => (true, r)
  | _ => (false, cs)

theorem splitSign_sound (cs : List Char) :
    ∃ sign, SignText (splitSign cs).1 sign ∧ cs = sign ++ (splitSign cs).2 := by
  unfold splitSign
  split
  · exact ⟨_, .plus, rfl⟩
  · exact ⟨_, .minus, rfl⟩
  · exact ⟨_, .absent, rfl⟩

theorem scanExponent_cons {e : Char} (letter : e = 'e' ∨ e = 'E') (cs : List Char) :
    scanExponent (e :: cs) = match digitsOf (splitSign cs).2 with
      | ([], rest) => .error (missingDigit rest)
      | (ds, rest) => .ok (some ((splitSign cs).1, ds), rest) := by
  unfold scanExponent
  exact if_pos letter

theorem scanExponent_sound {cs rest : List Char} {o : Option (Bool × List Char)}
    (scan : scanExponent cs = .ok (o, rest)) : ∃ text, ExponentText o text ∧ cs = text ++ rest := by
  cases cs with
  | nil =>
    cases scan
    exact ⟨[], .absent, rfl⟩
  | cons e cs =>
    by_cases letter : e = 'e' ∨ e = 'E'
    · rw [scanExponent_cons letter] at scan
      obtain ⟨sign, signed, same⟩ := splitSign_sound cs
      split at scan
      · cases scan
      next ds r filled digits =>
        cases scan
        obtain ⟨all, after⟩ := eq_of_digitsOf digits
        rw [after] at same
        exact ⟨_, .present letter signed ⟨filled, all⟩, by simp [same]⟩
    · unfold scanExponent at scan
      dsimp only at scan
      rw [if_neg letter] at scan
      cases scan
      exact ⟨[], .absent, rfl⟩

theorem scanUnsigned_sound {negative : Bool} {cs rest : List Char} {l : Literal}
    (scan : scanUnsigned negative cs = .ok (l, rest)) :
    l.negative = negative ∧
      ∃ text, LiteralText l ((if negative then ['-'] else []) ++ text) ∧ cs = text ++ rest := by
  obtain ⟨⟨whole, r₁⟩, first, scan⟩ := bind_eq_ok.1 scan
  obtain ⟨⟨fraction, r₂⟩, second, scan⟩ := bind_eq_ok.1 scan
  obtain ⟨⟨exponent, r₃⟩, third, same⟩ := bind_eq_ok.1 scan
  cases same
  obtain ⟨whole_text, rfl⟩ := scanWhole_sound first
  obtain ⟨ft, fraction_text, rfl⟩ := scanFraction_sound second
  obtain ⟨et, exponent_text, rfl⟩ := scanExponent_sound third
  exact ⟨rfl, whole ++ (ft ++ et), ⟨ft, et, whole_text, fraction_text, exponent_text, rfl⟩,
    by simp⟩

theorem scanNumber_sound {cs rest : List Char} {l : Literal}
    (scan : scanNumber cs = .ok (l, rest)) : ∃ text, LiteralText l text ∧ cs = text ++ rest := by
  unfold scanNumber at scan
  split at scan
  · obtain ⟨-, text, literal, rfl⟩ := scanUnsigned_sound scan
    exact ⟨_, literal, rfl⟩
  · obtain ⟨-, text, literal, rfl⟩ := scanUnsigned_sound scan
    exact ⟨_, literal, rfl⟩

/-! What is of the grammar is scanned. -/

/-- A text that does not go on with a number in front of it. -/
def Apart (rest : List Char) : Prop :=
  ∀ c ∈ rest.head?, c.isDigit = false ∧ c ≠ '.' ∧ c ≠ 'e' ∧ c ≠ 'E'

theorem digitsOf_append {ds rest : List Char} (digits : ∀ c ∈ ds, c.isDigit = true)
    (stop : ∀ c ∈ rest.head?, c.isDigit = false) : digitsOf (ds ++ rest) = (ds, rest) := by
  have stop : rest.takeWhile Char.isDigit = [] ∧ rest.dropWhile Char.isDigit = rest := by
    cases rest with
    | nil => simp
    | cons c r => simp [stop c rfl]
  rw [digitsOf, List.takeWhile_append_of_pos digits, List.dropWhile_append_of_pos digits,
    stop.1, stop.2, List.append_nil]

theorem WholeText.scanWhole {ds rest : List Char} (whole : WholeText ds)
    (stop : ∀ c ∈ rest.head?, c.isDigit = false) :
    Json.scanWhole (ds ++ rest) = .ok (ds, rest) := by
  obtain ⟨⟨filled, digits⟩, zero⟩ := whole
  rw [Json.scanWhole, digitsOf_append digits stop]
  split
  next same => exact absurd (Prod.mk.inj same).1 filled
  next same =>
    cases same
    rfl
  next same =>
    cases same
    cases zero rfl
  next same =>
    cases same
    rfl

theorem FractionText.scanFraction {o : Option (List Char)} {text rest : List Char}
    (fraction : FractionText o text) (stop : ∀ c ∈ rest.head?, c.isDigit = false ∧ c ≠ '.') :
    Json.scanFraction (text ++ rest) = .ok (o, rest) := by
  cases fraction with
  | absent =>
    rw [List.nil_append]
    unfold Json.scanFraction
    split
    next r => exact absurd rfl (stop '.' rfl).2
    · rfl
  | @present ds digits =>
    rw [List.cons_append, Json.scanFraction, digitsOf_append digits.2 fun c first => (stop c first).1]
    split
    next same => exact absurd (Prod.mk.inj same).1 digits.1
    next same =>
      cases same
      rfl

theorem Digits.start {ds : List Char} (digits : Digits ds) (rest : List Char) :
    ∃ c cs, ds ++ rest = c :: cs ∧ c.isDigit = true := by
  obtain ⟨c, cs, rfl⟩ := List.exists_cons_of_ne_nil digits.1
  exact ⟨c, cs ++ rest, rfl, digits.2 c List.mem_cons_self⟩

theorem SignText.splitSign {below : Bool} {sign cs : List Char} (signed : SignText below sign)
    (digit : ∃ c r, cs = c :: r ∧ c.isDigit = true) : Json.splitSign (sign ++ cs) = (below, cs) := by
  obtain ⟨c, r, rfl, digit⟩ := digit
  cases signed with
  | absent =>
    rw [List.nil_append]
    unfold Json.splitSign
    split
    next same =>
      cases same
      cases digit
    next same =>
      cases same
      cases digit
    · rfl
  | plus => rfl
  | minus => rfl

theorem ExponentText.scanExponent {o : Option (Bool × List Char)} {text rest : List Char}
    (exponent : ExponentText o text) (apart : Apart rest) :
    Json.scanExponent (text ++ rest) = .ok (o, rest) := by
  cases exponent with
  | absent =>
    cases rest with
    | nil => rfl
    | cons c r => simp [Json.scanExponent, (apart c rfl).2.2.1, (apart c rfl).2.2.2]
  | @present e below sign ds letter signed digits =>
    rw [List.cons_append, List.append_assoc, scanExponent_cons letter,
      signed.splitSign (digits.start rest),
      digitsOf_append digits.2 fun c first => (apart c first).1]
    split
    next same => exact absurd (Prod.mk.inj same).1 digits.1
    next same =>
      cases same
      rfl

theorem ExponentText.stops {o : Option (Bool × List Char)} {text rest : List Char}
    (exponent : ExponentText o text) (apart : Apart rest) :
    ∀ c ∈ (text ++ rest).head?, c.isDigit = false ∧ c ≠ '.' := by
  cases exponent with
  | absent => exact fun c first => ⟨(apart c first).1, (apart c first).2.1⟩
  | present letter =>
    rintro c ⟨⟩
    rcases letter with rfl | rfl <;> decide

theorem FractionText.stops {o : Option (List Char)} {text rest : List Char}
    (fraction : FractionText o text) (stop : ∀ c ∈ rest.head?, c.isDigit = false ∧ c ≠ '.') :
    ∀ c ∈ (text ++ rest).head?, c.isDigit = false := by
  cases fraction with
  | absent => exact fun c first => (stop c first).1
  | present =>
    rintro c ⟨⟩
    decide

/-- A number ends where nothing follows that could belong to it. -/
theorem LiteralText.scanNumber {l : Literal} {text : List Char} (literal : LiteralText l text)
    {rest : List Char} (apart : Apart rest) : Json.scanNumber (text ++ rest) = .ok (l, rest) := by
  obtain ⟨negative, whole, fraction, exponent⟩ := l
  obtain ⟨ft, et, whole_text, fraction_text, exponent_text, rfl⟩ := literal
  have stop := exponent_text.stops apart
  have scan : scanUnsigned negative (whole ++ (ft ++ (et ++ rest))) =
      .ok (⟨negative, whole, fraction, exponent⟩, rest) := by
    simp [scanUnsigned, whole_text.scanWhole (fraction_text.stops stop),
      fraction_text.scanFraction stop, exponent_text.scanExponent apart]
  cases negative with
  | true => simpa [Json.scanNumber] using scan
  | false =>
    obtain ⟨c, cs, rfl⟩ := List.exists_cons_of_ne_nil whole_text.1.1
    have digit := whole_text.1.2 c List.mem_cons_self
    have minus : c ≠ '-' := by rintro rfl; cases digit
    simpa [Json.scanNumber, minus] using scan

theorem LiteralText.start {l : Literal} {text : List Char} (literal : LiteralText l text) :
    ∃ c cs, text = c :: cs ∧ (c = '-' ∨ c.isDigit = true) := by
  obtain ⟨negative, whole, fraction, exponent⟩ := l
  obtain ⟨ft, et, whole_text, -, -, rfl⟩ := literal
  cases negative with
  | true => exact ⟨'-', _, rfl, .inl rfl⟩
  | false =>
    obtain ⟨c, cs, rfl⟩ := List.exists_cons_of_ne_nil whole_text.1.1
    exact ⟨c, _, rfl, .inr (whole_text.1.2 c List.mem_cons_self)⟩

theorem LiteralText.numberNode {l : Literal} {text : List Char} (literal : LiteralText l text)
    {rest : List Char} (apart : Apart rest) :
    Json.numberNode (text ++ rest) = (.number l.value, some rest) := by
  rw [Json.numberNode, literal.scanNumber apart]

theorem literal_of_numberNode {cs : List Char} {n : Option Number} {r : Option (List Char)}
    (node : numberNode cs = (.number n, r)) :
    ∃ l text rest, LiteralText l text ∧ n = l.value ∧ r = some rest ∧ cs = text ++ rest := by
  unfold numberNode at node
  split at node
  next l rest scan =>
    cases node
    obtain ⟨text, literal, rfl⟩ := scanNumber_sound scan
    exact ⟨l, text, rest, literal, rfl, rfl, rfl⟩
  · cases node

/-! Whole numbers. -/

theorem isDigit_of_mem_toDigits {n : Nat} : ∀ c ∈ Nat.toDigits 10 n, c.isDigit = true :=
  fun _ => Nat.isDigit_of_mem_toDigits (by decide) (by decide)

theorem toDigits_eq_cons (n : Nat) : ∃ c cs, Nat.toDigits 10 n = c :: cs ∧ c.isDigit = true := by
  obtain ⟨c, cs, digits⟩ := List.exists_cons_of_ne_nil (Nat.toDigits_ne_nil (n := n) (b := 10))
  exact ⟨c, cs, digits, isDigit_of_mem_toDigits c (digits ▸ List.mem_cons_self)⟩

/-- Only zero is written with a leading zero. -/
theorem head?_toDigits {n : Nat} (pos : 0 < n) : (Nat.toDigits 10 n).head? ≠ some '0' := by
  induction n using Nat.strongRecOn with
  | ind n ih =>
    by_cases small : n < 10
    · have all : ∀ n < 10, 0 < n → (Nat.toDigits 10 n).head? ≠ some '0' := by decide
      exact all n small pos
    · have shorter := ih (n / 10) (by omega) (by omega)
      rw [Nat.toDigits_of_base_le (by decide) (by omega)]
      cases h : Nat.toDigits 10 (n / 10) with
      | nil => exact absurd h Nat.toDigits_ne_nil
      | cons c cs => simpa [h] using shorter

theorem wholeText_toDigits (n : Nat) : WholeText (Nat.toDigits 10 n) := by
  refine ⟨⟨Nat.toDigits_ne_nil, isDigit_of_mem_toDigits⟩, fun zero => ?_⟩
  rcases Nat.eq_zero_or_pos n with rfl | pos
  · rfl
  · exact absurd zero (head?_toDigits pos)

theorem le_ofDigitChars (ds : List Char) (start : Nat) : start ≤ Nat.ofDigitChars 10 ds start := by
  rw [Nat.ofDigitChars_eq_ofDigitChars_zero]
  exact Nat.le_add_right_of_le (Nat.le_mul_of_pos_left start (Nat.pow_pos (by decide)))

theorem collect_eq {ds : List Char} {start : Nat}
    (fits : Nat.ofDigitChars 10 ds start < UInt64.size) :
    collect start ds = (Nat.ofDigitChars 10 ds start, []) := by
  induction ds generalizing start with
  | nil => rfl
  | cons c ds ih =>
    rw [Nat.ofDigitChars_cons, Nat.mul_comm] at fits ⊢
    have room : start * 10 + digitValue c < UInt64.size :=
      Nat.lt_of_le_of_lt (le_ofDigitChars ds _) fits
    rw [collect, if_pos room]
    exact ih fits

theorem eq_of_collect {ds : List Char} {start n : Nat} (fits : start < UInt64.size)
    (all : collect start ds = (n, [])) : n = Nat.ofDigitChars 10 ds start ∧ n < UInt64.size := by
  induction ds generalizing start with
  | nil =>
    cases all
    exact ⟨rfl, fits⟩
  | cons c ds ih =>
    rw [collect] at all
    split_ifs at all with room
    · rw [Nat.ofDigitChars_cons, Nat.mul_comm]
      exact ih room all
    · cases all

theorem collect_toDigits {n : Nat} (fits : n < UInt64.size) :
    collect 0 (Nat.toDigits 10 n) = (n, []) := by
  have value : Nat.ofDigitChars 10 (Nat.toDigits 10 n) 0 = n := Nat.ofDigitChars_ten_toDigits
  rw [collect_eq (value.symm ▸ fits), value]

theorem digitChar_digitValue {c : Char} (digit : c.isDigit = true) :
    digitValue c < 10 ∧ (digitValue c).digitChar = c := by
  have range : 48 ≤ c.toNat ∧ c.toNat ≤ 57 := by
    simpa [Char.isDigit, UInt32.le_iff_toNat_le] using digit
  have all : ∀ n < 10, Nat.digitChar n = Char.ofNat (n + 48) := by decide
  have small : digitValue c < 10 := by
    unfold digitValue
    omega
  have back : digitValue c + 48 = c.toNat := by
    unfold digitValue
    omega
  exact ⟨small, by rw [all _ small, back, Char.ofNat_toNat]⟩

/-- Digits without a needless zero are those of their number. -/
theorem WholeText.toDigits_ofDigitChars {ds : List Char} (whole : WholeText ds) :
    Nat.toDigits 10 (Nat.ofDigitChars 10 ds 0) = ds := by
  induction ds using List.reverseRecOn with
  | nil => exact absurd rfl whole.1.1
  | append_singleton ds c ih =>
    obtain ⟨⟨-, digits⟩, zero⟩ := whole
    obtain ⟨small, same⟩ := digitChar_digitValue (digits c (by simp))
    have last : Nat.ofDigitChars 10 (ds ++ [c]) 0 =
        10 * Nat.ofDigitChars 10 ds 0 + digitValue c := by
      rw [Nat.ofDigitChars_append, Nat.ofDigitChars_cons, Nat.ofDigitChars_nil]
      rfl
    have single := Nat.toDigits_of_lt_base small
    rw [same] at single
    rw [last]
    by_cases empty : ds = []
    · rw [empty, Nat.ofDigitChars_nil, Nat.mul_zero, Nat.zero_add, single]
      rfl
    · have first : ds.head? ≠ some '0' := by
        obtain ⟨d, tail, rfl⟩ := List.exists_cons_of_ne_nil empty
        rintro ⟨⟩
        simpa using zero rfl
      have front := ih ⟨⟨empty, fun d mem => digits d (by simp [mem])⟩, fun h => absurd h first⟩
      have pos : 0 < Nat.ofDigitChars 10 ds 0 := by
        refine Nat.pos_of_ne_zero fun none => first ?_
        rw [← front, none]
        rfl
      rw [← Nat.toDigits_append_toDigits (by decide) pos small, front, single]

theorem real?_ne_whole (negative : Bool) (significand : Nat) (e : Int) (n : Nat) :
    real? negative significand e ≠ some (.whole n) := by
  simp [real?]

/-- Only digits stand for a whole number. -/
theorem Literal.eq_of_value_eq_whole {l : Literal} {n : Nat} (value : l.value = some (.whole n)) :
    l = ⟨false, l.whole, none, none⟩ ∧ n = Nat.ofDigitChars 10 l.whole 0 ∧ n < UInt64.size := by
  obtain ⟨negative, whole, fraction, exponent⟩ := l
  unfold Literal.value at value
  dsimp only at value
  split at value
  next head left scan plain =>
    split_ifs at value with positive
    · cases value
      obtain ⟨same, fits⟩ := eq_of_collect (by decide) (Prod.ext rfl plain)
      exact ⟨by simpa using positive, same, fits⟩
    all_goals cases value
  · split at value
    · exact absurd value (real?_ne_whole _ _ _ _)
    · split_ifs at value
      all_goals first | cases value | exact absurd value (real?_ne_whole _ _ _ _)

/-- A whole number has one text. -/
theorem literalText_whole_iff {n : Nat} {text : List Char} :
    (∃ l, LiteralText l text ∧ l.value = some (.whole n)) ↔
      n < UInt64.size ∧ text = Nat.toDigits 10 n := by
  constructor
  · rintro ⟨l, ⟨fraction, exponent, whole, fractionText, exponentText, rfl⟩, value⟩
    obtain ⟨same, rfl, fits⟩ := Literal.eq_of_value_eq_whole value
    rw [same] at fractionText exponentText ⊢
    cases fractionText
    cases exponentText
    exact ⟨fits, by simp [whole.toDigits_ofDigitChars]⟩
  · rintro ⟨fits, rfl⟩
    refine ⟨⟨false, Nat.toDigits 10 n, none, none⟩,
      ⟨[], [], wholeText_toDigits n, .absent, .absent, by simp⟩, ?_⟩
    simp [Literal.value, collect_toDigits fits]

/-- The numbers that are written digit by digit. -/
def Number.Exact : Number → Prop
  | .whole n => n < UInt64.size
  | .negative n => 0 < n ∧ n ≤ UInt64.size / 2
  | .real _ => False

theorem Number.literalText_print {n : Number} (exact : n.Exact) :
    ∃ l, LiteralText l n.print ∧ l.value = some n := by
  cases n with
  | whole n => exact literalText_whole_iff.2 ⟨exact, rfl⟩
  | negative n =>
    have fits : n < UInt64.size := Nat.lt_of_le_of_lt exact.2 (by decide)
    refine ⟨⟨true, Nat.toDigits 10 n, none, none⟩,
      ⟨[], [], wholeText_toDigits n, .absent, .absent, by simp [Number.print]⟩, ?_⟩
    simp [Literal.value, collect_toDigits fits, exact.1, exact.2]
  | real bits => exact exact.elim

theorem numberNode_print {n : Number} (exact : n.Exact) {rest : List Char} (apart : Apart rest) :
    numberNode (n.print ++ rest) = (.number (some n), some rest) := by
  obtain ⟨l, literal, value⟩ := Number.literalText_print exact
  rw [literal.numberNode apart, value]

end RelayStore.Json

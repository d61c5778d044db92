import RelayStore.Proofs.Text.Distinct
import RelayStore.Proofs.Text.Runs
import RelayStore.Text.Blank
import Mathlib.Data.List.Pairwise

/-!
The words of a text as they first occur in it, and what is left of a text between its blank ends.
-/
namespace RelayStore.Text

variable {s : String} {ws vs : List String}

/-- A word of a text begins in it before another one begins for the first time. -/
def BeginsBefore (s u v : String) : Prop :=
  ∃ i, IsRunAt isWordChar i u.toList s.toList ∧
    ∀ j, IsRunAt isWordChar j v.toList s.toList → i < j

/-- The words of a text, each listed once, in the order in which they first occur. -/
structure FirstWords (s : String) (ws : List String) : Prop where
  nodup : ws.Nodup
  mem_iff : ∀ w, w ∈ ws ↔ IsRun isWordChar w.toList s.toList
  ordered : ws.Pairwise (BeginsBefore s)

theorem not_beginsBefore_of_beginsBefore {u v : String} (before : BeginsBefore s u v) :
    ¬ BeginsBefore s v u := by
  rintro ⟨j, place, first⟩
  obtain ⟨i, place', first'⟩ := before
  have less := first' j place
  have more := first i place'
  omega

/-- There is only one such list. -/
theorem FirstWords.unique (listed : FirstWords s ws) (other : FirstWords s vs) : ws = vs := by
  have same : ws.Perm vs := by
    apply (List.perm_ext_iff_of_nodup listed.nodup other.nodup).mpr
    intro w
    rw [listed.mem_iff, other.mem_iff]
  apply same.eq_of_pairwise _ listed.ordered other.ordered
  intro u v _ _ before after
  exact absurd after (not_beginsBefore_of_beginsBefore before)

theorem firstWords_distinct (s : String) : FirstWords s (distinct (words s)) := by
  obtain ⟨placed, same, ordered, places⟩ := exists_placed isWordChar s.toList
  let texts := placed.map fun run => (String.ofList run.1, run.2)
  have placed_iff : ∀ w i, (w, i) ∈ texts ↔ IsRunAt isWordChar i w.toList s.toList := by
    intro w i
    rw [← places, List.mem_map]
    constructor
    · rintro ⟨⟨run, j⟩, mem, same⟩
      obtain ⟨rfl, rfl⟩ := Prod.mk.inj same
      simpa using mem
    · intro mem
      exact ⟨(w.toList, i), mem, by simp⟩
  have words_eq_map : words s = texts.map Prod.fst := by
    rw [words_eq, ← same, List.map_map, List.map_map]
    rfl
  have ordered' : texts.Pairwise fun a b => a.2 < b.2 := List.pairwise_map.mpr ordered
  refine ⟨nodup_distinct _, fun w => by rw [mem_distinct, mem_words], ?_⟩
  rw [words_eq_map]
  refine (pairwise_distinct ordered').imp ?_
  rintro u v ⟨i, mem, first⟩
  exact ⟨i, (placed_iff u i).mp mem, fun j place => first j ((placed_iff v j).mpr place)⟩

theorem words_eq_nil : words s = [] ↔ ∀ c ∈ s.toList, isWordChar c = false := by
  rw [words_eq, List.map_eq_nil_iff]
  induction s.toList using runs_induction (p := isWordChar) with
  | all xs all =>
    rw [runs_of_all all]
    cases xs with
    | nil => simp
    | cons c cs => simp [all c]
  | separated first x rest all lacks ih =>
    rw [runs_append all lacks]
    cases first with
    | nil => simp [ih, lacks]
    | cons c cs => simp [all c]

/-! Words that are joined again. -/

theorem toList_intercalate_cons (w v : String) (ws : List String) :
    (" ".intercalate (w :: v :: ws)).toList =
      w.toList ++ ' ' :: (" ".intercalate (v :: ws)).toList := by
  simp [String.intercalate_cons_cons]

theorem words_of_all {w : String} (some : w ≠ "") (all : ∀ c ∈ w.toList, isWordChar c = true) :
    words w = [w] := by
  have chars : w.toList.isEmpty = false := by simpa using some
  rw [words_eq, runs_of_all all, chars]
  simp

/-- Words with spaces between them are the words of what they make up. -/
theorem words_intercalate (each : ∀ w ∈ ws, w ≠ "" ∧ ∀ c ∈ w.toList, isWordChar c = true) :
    words (" ".intercalate ws) = ws := by
  induction ws with
  | nil => rfl
  | cons w ws ih =>
    obtain ⟨⟨some, all⟩, rest⟩ := List.forall_mem_cons.mp each
    cases ws with
    | nil => rw [String.intercalate_singleton, words_of_all some all]
    | cons v ws =>
      have chars : w.toList.isEmpty = false := by simpa using some
      have joined := ih rest
      rw [words_eq] at joined
      rw [words_eq, toList_intercalate_cons, runs_append all (by decide), chars, if_neg (by simp),
        List.map_cons, joined, String.ofList_toList]

/-! Blank characters. -/

def blanks : List Nat :=
  [9, 10, 11, 12, 13, 0x20, 0x85, 0xa0, 0x1680, 0x2000, 0x2001, 0x2002, 0x2003, 0x2004, 0x2005,
    0x2006, 0x2007, 0x2008, 0x2009, 0x200a, 0x2028, 0x2029, 0x202f, 0x205f, 0x3000]

theorem mem_blanks {c : Char} (blank : isBlank c = true) : c.toNat ∈ blanks := by
  simp only [isBlank, Bool.or_eq_true, Bool.and_eq_true, decide_eq_true_eq, beq_iff_eq] at blank
  simp only [blanks, List.mem_cons, List.not_mem_nil, or_false]
  omega

/-- No blank character is one of a word. -/
theorem isWordChar_of_isBlank {c : Char} (blank : isBlank c = true) : isWordChar c = false := by
  have none : ∀ n ∈ blanks, isWordChar (Char.ofNat n) = false := by decide +kernel
  have outside := none _ (mem_blanks blank)
  rwa [Char.ofNat_toNat] at outside

theorem isBlankText_iff : isBlankText s = true ↔ ∀ c ∈ s.toList, isBlank c = true := by
  rw [isBlankText, List.all_eq_true]

/-- A text without the blank characters at its two ends. -/
structure IsTrimmed (part s : String) : Prop where
  between : ∃ before after, s.toList = before ++ part.toList ++ after ∧
    (∀ c ∈ before, isBlank c = true) ∧ ∀ c ∈ after, isBlank c = true
  begins : ∀ c ∈ part.toList.head?, isBlank c = false
  ends : ∀ c ∈ part.toList.getLast?, isBlank c = false

theorem isTrimmed_trim (s : String) : IsTrimmed (trim s) s := by
  have front := List.takeWhile_append_dropWhile (p := isBlank) (l := s.toList)
  generalize behind : s.toList.dropWhile isBlank = rest at front
  have back := List.takeWhile_append_dropWhile (p := isBlank) (l := rest.reverse)
  have trimmed : (trim s).toList = (rest.reverse.dropWhile isBlank).reverse := by
    rw [trim, String.toList_ofList, trimList, behind]
  have split : rest = (trim s).toList ++ (rest.reverse.takeWhile isBlank).reverse := by
    rw [trimmed, ← List.reverse_append, back, List.reverse_reverse]
  refine ⟨⟨s.toList.takeWhile isBlank, (rest.reverse.takeWhile isBlank).reverse, ?_, ?_, ?_⟩,
    ?_, ?_⟩
  · rw [List.append_assoc, ← split, front]
  · intro c mem
    exact List.mem_takeWhile_imp mem
  · intro c mem
    exact List.mem_takeWhile_imp (List.mem_reverse.mp mem)
  · intro c first
    have head := List.head?_dropWhile_not isBlank s.toList
    rw [behind, split, List.head?_append, Option.mem_def.mp first] at head
    simpa using head
  · intro c last
    have head := List.head?_dropWhile_not isBlank rest.reverse
    rw [trimmed, List.getLast?_reverse] at last
    rw [Option.mem_def.mp last] at head
    simpa using head

/-- There is only one such part of a text. -/
theorem IsTrimmed.eq_trim {part s : String} (trimmed : IsTrimmed part s) : part = trim s := by
  obtain ⟨⟨before, after, split, front, back⟩, begins, ends⟩ := trimmed
  have dropped : ∀ xs : List Char, (∀ c ∈ xs.head?, isBlank c = false) →
      xs.dropWhile isBlank = xs := by
    intro xs first
    cases xs with
    | nil => rfl
    | cons c xs => rw [List.dropWhile_cons, first c rfl, if_neg Bool.false_ne_true]
  have behind : ∀ c ∈ after.reverse, isBlank c = true := by simpa using back
  have ends' : ∀ c ∈ part.toList.reverse.head?, isBlank c = false := by
    rwa [List.head?_reverse]
  rw [trim, trimList, split, List.append_assoc, List.dropWhile_append_of_pos front]
  by_cases none : part.toList = []
  · rw [none, List.nil_append, List.dropWhile_eq_nil_iff.mpr back]
    exact String.toList_eq_nil_iff.mp none
  have begins' : ∀ c ∈ (part.toList ++ after).head?, isBlank c = false := by
    intro c first
    rw [List.head?_append_of_ne_nil _ none] at first
    exact begins c first
  rw [dropped _ begins', List.reverse_append, List.dropWhile_append_of_pos behind, dropped _ ends',
    List.reverse_reverse, String.ofList_toList]

end RelayStore.Text

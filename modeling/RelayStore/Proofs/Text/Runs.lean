import RelayStore.Text.Words
import Mathlib.Data.List.TakeWhile

/-!
The runs of a list: its longest parts all of whose items have a property. Main statement: the words
of a text are its runs of letters and digits.
-/
namespace RelayStore.Text

variable {α : Type}

/-- A part of a list all of whose items have a property, with no such item on either side of it. -/
def IsRun (p : α → Bool) (run xs : List α) : Prop :=
  run ≠ [] ∧ (∀ x ∈ run, p x = true) ∧ ∃ before after, xs = before ++ run ++ after ∧
    (∀ x ∈ before.getLast?, p x = false) ∧ ∀ x ∈ after.head?, p x = false

/-- A run of a list together with the place at which it begins. -/
def IsRunAt (p : α → Bool) (place : Nat) (run xs : List α) : Prop :=
  run ≠ [] ∧ (∀ x ∈ run, p x = true) ∧ ∃ before after, xs = before ++ run ++ after ∧
    before.length = place ∧ (∀ x ∈ before.getLast?, p x = false) ∧ ∀ x ∈ after.head?, p x = false

/-- The runs of a list in their order. -/
def runs (p : α → Bool) (xs : List α) : List (List α) :=
  (xs.splitOnP fun x => !p x).filter fun run => !run.isEmpty

section

variable {p : α → Bool}

/-- A list either has the property everywhere, or there is a first item that lacks it. -/
theorem runs_induction {motive : List α → Prop}
    (all : ∀ xs, (∀ x ∈ xs, p x = true) → motive xs)
    (separated : ∀ first x rest, (∀ y ∈ first, p y = true) → p x = false → motive rest →
      motive (first ++ x :: rest)) (xs : List α) : motive xs := by
  induction size : xs.length using Nat.strongRecOn generalizing xs with
  | ind n ih =>
    have whole := List.takeWhile_append_dropWhile (p := p) (l := xs)
    have first : ∀ y ∈ xs.takeWhile p, p y = true := fun y mem => List.mem_takeWhile_imp mem
    cases last : xs.dropWhile p with
    | nil =>
      rw [last, List.append_nil] at whole
      exact all xs (whole ▸ first)
    | cons x rest =>
      have lacks : p x = false := by
        have head := List.head?_dropWhile_not p xs
        rwa [last] at head
      rw [last] at whole
      have shorter : rest.length < n := by
        have := congrArg List.length whole
        simp only [List.length_append, List.length_cons] at this
        omega
      rw [← whole]
      exact separated _ x rest first lacks (ih _ shorter rest rfl)

theorem runs_of_all {xs : List α} (all : ∀ x ∈ xs, p x = true) :
    runs p xs = if xs.isEmpty then [] else [xs] := by
  have inside : ∀ x ∈ xs, (!p x) = false := fun x mem => by rw [all x mem, Bool.not_true]
  rw [runs, List.splitOnP_eq_singleton inside]
  cases xs <;> rfl

theorem runs_append {first : List α} (all : ∀ y ∈ first, p y = true) {x : α} (lacks : p x = false)
    (rest : List α) :
    runs p (first ++ x :: rest) = if first.isEmpty then runs p rest else first :: runs p rest := by
  have inside : ∀ y ∈ first, (!p y) = false := fun y mem => by rw [all y mem, Bool.not_true]
  have outside : (!p x) = true := by rw [lacks, Bool.not_false]
  rw [runs, List.splitOnP_append_cons_of_forall_mem inside x outside, List.filter_cons]
  cases first <;> rfl

theorem eq_nil_of_getLast? {xs : List α} (ends : ∀ x ∈ xs.getLast?, p x = false)
    (all : ∀ x ∈ xs, p x = true) : xs = [] := by
  by_contra some
  have last := List.getLast?_eq_some_getLast some
  have lacks := ends _ last
  rw [all _ (List.getLast_mem some)] at lacks
  contradiction

theorem eq_nil_of_head? {xs : List α} (begins : ∀ x ∈ xs.head?, p x = false)
    (all : ∀ x ∈ xs, p x = true) : xs = [] := by
  cases xs with
  | nil => rfl
  | cons x xs =>
    have lacks := begins x rfl
    rw [all x List.mem_cons_self] at lacks
    contradiction

theorem isRun_iff_exists {run xs : List α} :
    IsRun p run xs ↔ ∃ place, IsRunAt p place run xs := by
  constructor
  · rintro ⟨some, inside, before, after, split, ends, begins⟩
    exact ⟨before.length, some, inside, before, after, split, rfl, ends, begins⟩
  · rintro ⟨place, some, inside, before, after, split, -, ends, begins⟩
    exact ⟨some, inside, before, after, split, ends, begins⟩

theorem isRunAt_of_all {place : Nat} {run xs : List α} (all : ∀ x ∈ xs, p x = true) :
    IsRunAt p place run xs ↔ run = xs ∧ xs ≠ [] ∧ place = 0 := by
  constructor
  · rintro ⟨some, -, before, after, rfl, rfl, ends, begins⟩
    obtain rfl : before = [] := eq_nil_of_getLast? ends fun x mem => all x (by simp [mem])
    obtain rfl : after = [] := eq_nil_of_head? begins fun x mem => all x (by simp [mem])
    simp [some]
  · rintro ⟨rfl, some, rfl⟩
    exact ⟨some, all, [], [], by simp, rfl, by simp, by simp⟩

theorem isRunAt_append {first : List α} (all : ∀ y ∈ first, p y = true) {x : α}
    (lacks : p x = false) {place : Nat} {run rest : List α} :
    IsRunAt p place run (first ++ x :: rest) ↔ (run = first ∧ first ≠ [] ∧ place = 0) ∨
      ∃ later, IsRunAt p later run rest ∧ place = first.length + 1 + later := by
  constructor
  · rintro ⟨some, inside, before, after, split, rfl, ends, begins⟩
    have apart : x ∉ run := fun mem => by simp [inside x mem] at lacks
    rw [List.append_assoc] at split
    rcases List.append_eq_append_iff.mp split with ⟨more, rfl, tail⟩ | ⟨more, rfl, tail⟩
    · -- The run lies behind the first item that lacks the property.
      cases more with
      | nil =>
        obtain ⟨y, run', rfl⟩ := List.exists_cons_of_ne_nil some
        obtain ⟨rfl, -⟩ := List.cons.inj tail
        exact absurd List.mem_cons_self apart
      | cons y more =>
        obtain ⟨rfl, rfl⟩ := List.cons.inj tail
        refine .inr ⟨more.length, ⟨some, inside, more, after, by simp, rfl, ?_, begins⟩, ?_⟩
        · intro z last
          refine ends z ?_
          rw [List.getLast?_append, List.getLast?_cons, Option.mem_def.mp last]
          rfl
        · rw [List.length_append, List.length_cons]
          omega
    · -- It begins before that item, so it is all there is before it.
      obtain rfl : before = [] := eq_nil_of_getLast? ends fun y mem => all y (by simp [mem])
      rcases List.append_eq_append_iff.mp tail with ⟨more', rfl, tail'⟩ | ⟨more', rfl, tail'⟩
      · obtain rfl : more' = [] := by
          subst tail'
          cases more' with
          | nil => rfl
          | cons y more' =>
            have lacks' := begins y rfl
            rw [all y (by simp)] at lacks'
            contradiction
        exact .inl ⟨by simp, by simpa using some, rfl⟩
      · cases more' with
        | nil => exact .inl ⟨by simp, by simpa using some, rfl⟩
        | cons y more' =>
          obtain ⟨rfl, -⟩ := List.cons.inj tail'
          exact absurd (by simp) apart
  · rintro (⟨rfl, some, rfl⟩ | ⟨later, ⟨some, inside, before, after, rfl, rfl, ends, begins⟩, rfl⟩)
    · exact ⟨some, all, [], x :: rest, by simp, rfl, by simp, by simp [lacks]⟩
    · refine ⟨some, inside, first ++ x :: before, after, by simp, by simp; omega, ?_, begins⟩
      intro y last
      rw [List.getLast?_append, List.getLast?_cons] at last
      cases behind : before.getLast? with
      | none =>
        rw [behind] at last
        obtain rfl := Option.some.inj last
        exact lacks
      | some z =>
        rw [behind] at last
        obtain rfl := Option.some.inj last
        exact ends _ behind

/-- The runs of a list, one behind the other, are the runs at their places. -/
theorem exists_placed (p : α → Bool) (xs : List α) : ∃ placed : List (List α × Nat),
    placed.map Prod.fst = runs p xs ∧ placed.Pairwise (fun a b => a.2 < b.2) ∧
      ∀ run place, (run, place) ∈ placed ↔ IsRunAt p place run xs := by
  induction xs using runs_induction (p := p) with
  | all xs all =>
    refine ⟨if xs.isEmpty then [] else [(xs, 0)], ?_⟩
    rw [runs_of_all all]
    simp only [isRunAt_of_all all]
    cases xs <;> simp
  | separated first x rest all lacks ih =>
    obtain ⟨placed, same, ordered, places⟩ := ih
    -- What stands behind the separator begins later by all that stands before it.
    refine ⟨(if first.isEmpty then [] else [(first, 0)]) ++
      placed.map fun a => (a.1, first.length + 1 + a.2), ?_, ?_, ?_⟩
    · rw [runs_append all lacks, ← same]
      cases first <;> simp
    · refine List.pairwise_append.mpr ⟨by split_ifs <;> simp, ?_, ?_⟩
      · refine List.pairwise_map.mpr (ordered.imp ?_)
        intro a b less
        exact Nat.add_lt_add_left less _
      · intro a mem b mem'
        obtain ⟨b, -, rfl⟩ := List.mem_map.mp mem'
        split_ifs at mem
        · contradiction
        · obtain rfl := List.mem_singleton.mp mem
          dsimp only
          omega
    · intro run place
      rw [isRunAt_append all lacks]
      simp only [← places, List.mem_append, List.mem_map, Prod.mk.injEq, Prod.exists]
      cases first <;> grind

theorem mem_runs {run xs : List α} : run ∈ runs p xs ↔ IsRun p run xs := by
  obtain ⟨placed, same, -, places⟩ := exists_placed p xs
  rw [← same, List.mem_map, isRun_iff_exists]
  simp only [← places, Prod.exists, exists_eq_right, exists_and_right]

end

/-! Words. -/

theorem wordsFrom_eq (reversed cs : List Char) (begun : ∀ c ∈ reversed, isWordChar c = true) :
    wordsFrom reversed cs = runs isWordChar (reversed.reverse ++ cs) := by
  induction cs generalizing reversed with
  | nil =>
    have begun' : ∀ c ∈ reversed.reverse, isWordChar c = true := by simpa using begun
    rw [wordsFrom, emit, List.append_nil, runs_of_all begun']
    cases reversed <;> simp
  | cons c cs ih =>
    rw [wordsFrom]
    cases letter : isWordChar c with
    | true =>
      have more : ∀ d ∈ c :: reversed, isWordChar d = true :=
        List.forall_mem_cons.mpr ⟨letter, begun⟩
      rw [if_pos rfl, ih _ more, List.reverse_cons, List.append_assoc, List.singleton_append]
    | false =>
      have begun' : ∀ c ∈ reversed.reverse, isWordChar c = true := by simpa using begun
      rw [if_neg Bool.false_ne_true, ih [] (by simp), emit, runs_append begun' letter]
      cases reversed <;> simp

/-- The words of a text are its runs of letters and digits. -/
theorem words_eq (s : String) : words s = (runs isWordChar s.toList).map String.ofList := by
  rw [words, wordsFrom_eq [] s.toList (by simp)]
  rfl

theorem mem_words {word s : String} : word ∈ words s ↔ IsRun isWordChar word.toList s.toList := by
  rw [words_eq, List.mem_map, ← mem_runs]
  constructor
  · rintro ⟨run, mem, rfl⟩
    rwa [String.toList_ofList]
  · intro mem
    exact ⟨word.toList, mem, String.ofList_toList⟩

end RelayStore.Text

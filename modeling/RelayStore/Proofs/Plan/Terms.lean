import RelayStore.Proofs.Plan.Search
import RelayStore.Proofs.Text.FirstWords

/-!
What a search term is taken apart into. Main statement: a plan asks for the words of the term, each
once and as they first occur, for the trimmed term if it has no words, and for nothing if it is
blank.
-/
namespace RelayStore.Plan
open Text

variable {f : Filter} {term : String}

/-- The conditions on the content that a term stands for. -/
inductive TermConditions (term : String) : List Predicate → Prop where
  | words {tokens : List String} (some : ∃ c ∈ term.toList, isWordChar c = true)
      (listed : FirstWords term tokens) :
      TermConditions term (tokens.map fun word => ⟨.content, .hasToken (.text word)⟩)
  | part {part : String} (none : ∀ c ∈ term.toList, isWordChar c = false)
      (some : ∃ c ∈ term.toList, isBlank c = false) (trimmed : IsTrimmed part term) :
      TermConditions term [⟨.content, .contains (.text part)⟩]
  | blank (all : ∀ c ∈ term.toList, isBlank c = true) : TermConditions term []

/-! The two ways to search, and the one not to. -/

theorem search_of_words (some : distinct (words term) ≠ []) :
    search term = (distinct (words term)).map fun word => ⟨.content, .hasToken (.text word)⟩ := by
  unfold search
  split
  next none => contradiction
  next => rfl

theorem search_of_no_words (none : ∀ c ∈ term.toList, isWordChar c = false) :
    search term =
      if isBlankText term then [] else [⟨.content, .contains (.text (trim term))⟩] := by
  rw [search, distinct_eq_nil.mpr (words_eq_nil.mpr none)]

theorem distinct_words_ne_nil :
    distinct (words term) ≠ [] ↔ ∃ c ∈ term.toList, isWordChar c = true := by
  rw [Ne, distinct_eq_nil, words_eq_nil]
  push Not
  simp only [Bool.not_eq_false]

theorem termConditions_search (term : String) : TermConditions term (search term) := by
  by_cases some : ∃ c ∈ term.toList, isWordChar c = true
  · rw [search_of_words (distinct_words_ne_nil.mpr some)]
    exact .words some (firstWords_distinct term)
  have none : ∀ c ∈ term.toList, isWordChar c = false := by simpa using some
  rw [search_of_no_words none]
  by_cases all : ∀ c ∈ term.toList, isBlank c = true
  · rw [if_pos (isBlankText_iff.mpr all)]
    exact .blank all
  · rw [if_neg (mt isBlankText_iff.mp all)]
    exact .part none (by simpa using all) (isTrimmed_trim term)

/-- The conditions are those of the plan and no others. -/
theorem termConditions_iff {ps : List Predicate} : TermConditions term ps ↔ ps = search term := by
  constructor
  · intro conditions
    cases conditions with
    | words some listed =>
      rw [search_of_words (distinct_words_ne_nil.mpr some),
        listed.unique (firstWords_distinct term)]
    | part none some trimmed =>
      have visible : ¬ isBlankText term = true := by
        rw [isBlankText_iff]
        simpa using some
      rw [search_of_no_words none, if_neg visible, trimmed.eq_trim]
    | blank all =>
      have none : ∀ c ∈ term.toList, isWordChar c = false :=
        fun c mem => isWordChar_of_isBlank (all c mem)
      rw [search_of_no_words none, if_pos (isBlankText_iff.mpr all)]
  · rintro rfl
    exact termConditions_search term

/-- Two terms with the same words, of which there are some, are searched for alike. -/
theorem search_congr {other : String} (some : distinct (words term) ≠ [])
    (same : distinct (words other) = distinct (words term)) : search other = search term := by
  rw [search_of_words some, search_of_words (same ▸ some), same]

/-- The words of a term with spaces between them are searched for like the term. -/
theorem search_intercalate {tokens : List String} (some : tokens ≠ [])
    (given : FirstWords term tokens ∨ tokens = words term) :
    search (" ".intercalate tokens) = search term := by
  have each : ∀ w ∈ tokens, w ≠ "" ∧ ∀ c ∈ w.toList, isWordChar c = true := by
    intro w mem
    have run : IsRun isWordChar w.toList term.toList := by
      rcases given with listed | rfl
      · exact (listed.mem_iff w).mp mem
      · exact mem_words.mp mem
    exact ⟨by simpa using run.1, run.2.1⟩
  have same : distinct tokens = distinct (words term) := by
    rcases given with listed | rfl
    · rw [distinct_of_nodup listed.nodup]
      exact listed.unique (firstWords_distinct term)
    · rfl
  apply search_congr
  · rwa [← same, Ne, distinct_eq_nil]
  · rw [words_intercalate each, same]

/-! Looking for a word. -/

theorem TermConditions.needle {ps : List Predicate} (conditions : TermConditions term ps)
    {needle : Param} (mem : .hasToken needle ∈ ps.map Predicate.condition) :
    ∃ word, needle = .text word ∧ IsRun isWordChar word.toList term.toList ∧
      (ps.map Predicate.condition).count (.hasToken needle) = 1 := by
  cases conditions with
  | @words tokens some listed =>
    have conditions : (tokens.map fun word => (⟨.content, .hasToken (.text word)⟩ : Predicate)).map
        Predicate.condition = tokens.map fun word => .hasToken (.text word) := by
      rw [List.map_map]
      rfl
    rw [conditions] at mem ⊢
    obtain ⟨word, held, same⟩ := List.mem_map.mp mem
    obtain rfl := Condition.hasToken.inj same
    have apart : (tokens.map fun word => Condition.hasToken (.text word)).Nodup := by
      apply listed.nodup.map
      intro u v equal
      exact Param.text.inj (Condition.hasToken.inj equal)
    exact ⟨word, rfl, (listed.mem_iff word).mp held, List.count_eq_one_of_mem apart mem⟩
  | part none some trimmed => simp at mem
  | blank all => contradiction

theorem isAlphanum_of_isRun {word : String} (run : IsRun isWordChar word.toList term.toList) :
    ∀ c ∈ word.toList, c.toNat < 128 → c.isAlphanum = true := by
  intro c mem ascii
  rw [← isWordChar_ascii ascii]
  exact run.2.1 c mem

theorem count_condition_unsearched (f : Filter) (needle : Param) :
    ((unsearched f).map Predicate.condition).count (.hasToken needle) = 0 := by
  rw [List.count_eq_zero, List.mem_map]
  rintro ⟨p, mem, same⟩
  exact (aside_unsearched p mem).2 needle same

theorem filter_content (f : Filter) (term : String) :
    ((ofFilter (f.searchFor term)).predicates.filter fun p => p.column = .content) =
      search term := by
  have others : (unsearched f).filter (fun p => p.column = .content) = [] := by
    rw [List.filter_eq_nil_iff]
    intro p mem
    simpa using (aside_unsearched p mem).1
  have own : (search term).filter (fun p => p.column = .content) = search term := by
    rw [List.filter_eq_self]
    intro p mem
    simpa using (search_content term p mem).1
  rw [predicates_searchFor, List.filter_append, others, own, List.nil_append]

/-- On the content, a plan has just the conditions that the term stands for. Each word it looks for
is looked for once, is not empty, and has no character of ASCII that parts words. The words of a
term with spaces between them make up a term for the same plan. -/
theorem searchFor_conditions (f : Filter) (term : String) :
    (∀ ps, TermConditions term ps ↔
      ps = (ofFilter (f.searchFor term)).predicates.filter fun p => p.column = .content) ∧
    (∀ needle, .hasToken needle ∈ (ofFilter (f.searchFor term)).predicates.map Predicate.condition →
      ∃ word, needle = .text word ∧ word ≠ "" ∧
        (∀ c ∈ word.toList, c.toNat < 128 → c.isAlphanum = true) ∧
        ((ofFilter (f.searchFor term)).predicates.map Predicate.condition).count
          (.hasToken needle) = 1) ∧
    ∀ tokens, tokens ≠ [] → FirstWords term tokens ∨ tokens = words term →
      (ofFilter (f.searchFor (" ".intercalate tokens))).predicates =
        (ofFilter (f.searchFor term)).predicates := by
  refine ⟨fun ps => by rw [filter_content, termConditions_iff], ?_, ?_⟩
  · intro needle mem
    rw [predicates_searchFor, List.map_append, List.mem_append] at mem
    rw [predicates_searchFor, List.map_append, List.count_append, count_condition_unsearched,
      Nat.zero_add]
    rcases mem with mem | mem
    · exact absurd mem (List.count_eq_zero.mp (count_condition_unsearched f needle))
    · obtain ⟨word, rfl, run, once⟩ := (termConditions_search term).needle mem
      exact ⟨word, rfl, by simpa using run.1, isAlphanum_of_isRun run, once⟩
  · intro tokens some given
    rw [predicates_searchFor, predicates_searchFor, search_intercalate some given]

/-- The second "go" is not looked for again. -/
theorem searchFor_goStopGo :
    TermConditions " go: stop, go!"
      [⟨.content, .hasToken (.text "go")⟩, ⟨.content, .hasToken (.text "stop")⟩] ∧
    ((ofFilter (oneName.searchFor " go: stop, go!")).predicates.map Predicate.condition).count
      (.hasToken (.text "go")) = 1 ∧
    FirstWords " go: stop, go!" ["go", "stop"] ∧
    (ofFilter (oneName.searchFor "go stop")).predicates =
      (ofFilter (oneName.searchFor " go: stop, go!")).predicates := by
  have listed : FirstWords " go: stop, go!" ["go", "stop"] := by
    have tokens : distinct (words " go: stop, go!") = ["go", "stop"] := by decide +kernel
    exact tokens ▸ firstWords_distinct " go: stop, go!"
  obtain ⟨conditions, needles, joined⟩ := searchFor_conditions oneName " go: stop, go!"
  obtain ⟨word, -, -, -, once⟩ := needles (.text "go") (by decide +kernel)
  have content : ((ofFilter (oneName.searchFor " go: stop, go!")).predicates.filter
      fun p => p.column = .content) =
        [⟨.content, .hasToken (.text "go")⟩, ⟨.content, .hasToken (.text "stop")⟩] := by
    decide +kernel
  exact ⟨(conditions _).mpr content.symm, once, listed,
    joined ["go", "stop"] (by decide) (.inl listed)⟩

end RelayStore.Plan

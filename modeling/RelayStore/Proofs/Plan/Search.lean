import RelayStore.Proofs.Plan.TagValues
import RelayStore.Proofs.Text.Tokens
import Mathlib.Data.List.Infix

/-!
What a search finds, if the database reads texts as it says it does. Main statement: a text is found
when it is searched for, exactly if each of its words stands in it as a token.
-/
namespace RelayStore
open Text

/-- The database looks words up among the tokens of a text, and other terms in its bytes. -/
structure TextFunctions.Documented (fns : TextFunctions) : Prop where
  hasToken : ∀ s word, fns.hasToken s word = true ↔
    IsRun isTokenByte word.toUTF8.toList s.toUTF8.toList
  position : ∀ s part, 0 < fns.position s part ↔ part.toUTF8.toList <:+: s.toUTF8.toList

/-- Functions that compute what is documented. -/
def TextFunctions.byTokens : TextFunctions where
  hasToken s word := decide (word.toUTF8.toList ∈ runs isTokenByte s.toUTF8.toList)
  position s part :=
    ((s.toUTF8.toList.tails.findIdx? part.toUTF8.toList.isPrefixOf).map (· + 1)).getD 0

theorem TextFunctions.byTokens_documented : byTokens.Documented := by
  constructor
  · intro s word
    rw [byTokens, decide_eq_true_iff, mem_runs]
  · intro s part
    have found : (s.toUTF8.toList.tails.findIdx? part.toUTF8.toList.isPrefixOf).isSome = true ↔
        part.toUTF8.toList <:+: s.toUTF8.toList := by
      simp only [List.findIdx?_isSome, List.any_eq_true, List.mem_tails, List.isPrefixOf_iff_prefix,
        List.infix_iff_prefix_suffix, and_comm]
    rw [← found]
    dsimp only [byTokens]
    generalize s.toUTF8.toList.tails.findIdx? part.toUTF8.toList.isPrefixOf = place
    cases place <;> simp

theorem Text.trimList_isInfix (cs : List Char) : trimList cs <:+: cs := by
  have front : cs.dropWhile isBlank <:+ cs := List.dropWhile_suffix _
  have back : trimList cs <+: cs.dropWhile isBlank := by
    rw [← List.reverse_suffix, trimList, List.reverse_reverse]
    exact List.dropWhile_suffix _
  exact back.isInfix.trans front.isInfix

theorem Text.isInfix_trim (s : String) : (trim s).toUTF8.toList <:+: s.toUTF8.toList := by
  obtain ⟨before, after, whole⟩ := trimList_isInfix s.toList
  rw [toList_toUTF8, toList_toUTF8, trim, String.toList_ofList]
  refine ⟨before.flatMap String.utf8EncodeChar, after.flatMap String.utf8EncodeChar, ?_⟩
  rw [← List.flatMap_append, ← List.flatMap_append, whole]

/-- The words of a text are tokens if all its characters beyond ASCII are letters or digits. -/
theorem Text.isRun_of_mem_words {s : String}
    (beyond : ∀ c ∈ s.toList, 128 ≤ c.toNat → isWordChar c = true) {word : String}
    (mem : word ∈ words s) : IsRun isTokenChar word.toList s.toList := by
  have same : ∀ c ∈ s.toList, isTokenChar c = isWordChar c := by
    intro c inside
    by_cases ascii : c.toNat < 128
    · rw [isWordChar_ascii ascii]
      simp [isTokenChar, ascii]
    · rw [beyond c inside (Nat.le_of_not_lt ascii)]
      exact isTokenChar_of_isWordChar (beyond c inside (Nat.le_of_not_lt ascii))
  obtain ⟨some, letters, before, after, split, ends, begins⟩ := mem_words.mp mem
  refine ⟨some, fun c inside => isTokenChar_of_isWordChar (letters c inside), before, after, split,
    ?_, ?_⟩
  · intro c last
    rw [same c (by simp [split, List.mem_of_getLast? last])]
    exact ends c last
  · intro c first
    rw [same c (by simp [split, List.mem_of_head? first])]
    exact begins c first

def Filter.searchFor (f : Filter) (term : String) : Filter := { f with search := some term }

/-- A condition that is none on the content, and that looks for no word in any other column. -/
def Predicate.Aside (p : Predicate) : Prop :=
  p.column ≠ .content ∧ ∀ needle, p.condition ≠ .hasToken needle

namespace Plan

variable {fns : TextFunctions} {record : Record}

/-- A term without words is a part of itself, so only words can be missed. -/
theorem searched_own (documented : fns.Documented) (s : String) :
    Searched fns s s ↔ ∀ word ∈ words s, IsRun isTokenChar word.toList s.toList := by
  have part : 0 < fns.position s (trim s) := (documented.position s _).mpr (isInfix_trim s)
  simp only [Searched, documented.hasToken, isRun_token, part, implies_true, and_true]

theorem aside_anyText {column : Column} (other : column ≠ .content) {values : List String} :
    ∀ p ∈ anyText column values, p.Aside := by
  intro p held
  obtain ⟨-, rfl⟩ := mem_anyText.mp held
  exact ⟨other, nofun⟩

theorem aside_anyKind {kinds : List UInt16} : ∀ p ∈ anyKind kinds, p.Aside := by
  intro p held
  obtain ⟨-, rfl⟩ := mem_anyKind.mp held
  exact ⟨nofun, nofun⟩

theorem aside_bound {condition : Param → Condition} (other : ∀ v w, condition v ≠ .hasToken w)
    {limit : Option UInt32} : ∀ p ∈ bound condition limit, p.Aside := by
  intro p held
  obtain ⟨n, -, rfl⟩ := mem_bound.mp held
  exact ⟨nofun, other _⟩

theorem aside_tagPredicate (table : Table) (n : TagName) (values : List String) :
    (tagPredicate table n values).Aside := by
  unfold tagPredicate
  split_ifs
  all_goals exact ⟨nofun, nofun⟩

/-- The conditions of a filter whatever it searches for. -/
def unsearched (f : Filter) : List Predicate := predicatesFor (route f) { f with search := none }

theorem aside_unsearched {f : Filter} : ∀ p ∈ unsearched f, p.Aside := by
  simp only [unsearched, predicatesFor, Option.map_none, Option.getD_none, List.append_nil,
    List.forall_mem_append, List.forall_mem_map, List.forall_mem_singleton, and_assoc]
  refine ⟨⟨nofun, nofun⟩, aside_anyText (by decide), aside_anyText (by decide), aside_anyKind,
    aside_bound (by simp), aside_bound (by simp), ?_, ?_⟩
  · intro n _
    exact aside_tagPredicate _ n _
  · intro entry _
    exact ⟨nofun, nofun⟩

theorem predicates_searchFor (f : Filter) (term : String) :
    (ofFilter (f.searchFor term)).predicates = unsearched f ++ search term := by
  rw [unsearched, predicatesFor, Option.map_none, Option.getD_none, List.append_nil]
  rfl

theorem mem_search {f : Filter} {term : String} {p : Predicate} :
    p ∈ search term ↔ p ∈ (ofFilter (f.searchFor term)).predicates ∧ p.column = .content := by
  rw [predicates_searchFor, List.mem_append]
  constructor
  · intro held
    exact ⟨.inr held, (search_content term p held).1⟩
  · rintro ⟨held | held, content⟩
    · exact absurd content (aside_unsearched p held).1
    · exact held

theorem record_content {e : Event} {receivedAt : UInt32} {version : Nat} {table : Table}
    (stored : record ∈ (EventRow.ofEvent e receivedAt version).recordsIn table) :
    record .content = some (.text e.content) := by
  cases table with
  | byTag n =>
    obtain ⟨row, derived, rfl⟩ := List.mem_map.mp stored
    obtain ⟨value, -, rfl⟩ := List.mem_map.mp derived
    rfl
  | events | byAuthor | byKind =>
    obtain rfl := List.mem_singleton.mp stored
    rfl

/-- A text is found when a filter searches for it exactly if each of its words stands somewhere in
it between characters of ASCII that are no letters or digits. So it is if its characters beyond
ASCII are letters or digits themselves. -/
theorem finds_own_text (documented : fns.Documented) (f : Filter) {e : Event} {receivedAt : UInt32}
    {version : Nat}
    (stored : record ∈ (EventRow.ofEvent e receivedAt version).recordsIn
      (ofFilter (f.searchFor e.content)).table) :
    ((∀ p ∈ (ofFilter (f.searchFor e.content)).predicates, p.column = .content →
        p.holds fns record = true) ↔
      ∀ word ∈ words e.content, IsRun isTokenChar word.toList e.content.toList) ∧
    ((∀ c ∈ e.content.toList, 128 ≤ c.toNat → isWordChar c = true) →
      ∀ p ∈ (ofFilter (f.searchFor e.content)).predicates, p.column = .content →
        p.holds fns record = true) := by
  have found : (∀ p ∈ (ofFilter (f.searchFor e.content)).predicates, p.column = .content →
      p.holds fns record = true) ↔
      ∀ word ∈ words e.content, IsRun isTokenChar word.toList e.content.toList := by
    rw [← searched_own documented, ← holds_search (record_content stored), List.all_eq_true]
    simp only [mem_search (f := f), and_imp]
  refine ⟨found, fun beyond => found.mpr ?_⟩
  intro word mem
  exact isRun_of_mem_words beyond mem

/-- An apostrophe of ASCII parts two words, and the accented letters are parts of theirs. -/
def holiday : Event where
  tags := [["r", "x"]]
  content := "d'été 2"

theorem finds_holiday :
    TextFunctions.byTokens.Documented ∧
      (ofFilter (oneName.searchFor holiday.content)).table = .byTag .r ∧
      words holiday.content = ["d", "été", "2"] ∧
      ∃ record ∈ (EventRow.ofEvent holiday 7 1).recordsIn (.byTag .r),
        ∀ p ∈ (ofFilter (oneName.searchFor holiday.content)).predicates, p.column = .content →
          p.holds TextFunctions.byTokens record = true := by
  have documented := TextFunctions.byTokens_documented
  have stored : ((EventRow.ofEvent holiday 7 1).tagRow "x").record .r ∈
      (EventRow.ofEvent holiday 7 1).recordsIn
        (ofFilter (oneName.searchFor holiday.content)).table := List.mem_singleton_self _
  have all : holiday.content.toList.all (fun c => c.toNat < 128 || isWordChar c) = true := by
    decide +kernel
  have beyond : ∀ c ∈ holiday.content.toList, 128 ≤ c.toNat → isWordChar c = true := by
    intro c mem above
    simpa [Nat.not_lt.mpr above] using List.all_eq_true.mp all c mem
  exact ⟨documented, rfl, by decide +kernel, _, stored,
    (finds_own_text documented oneName stored).2 beyond⟩

/-- A curly apostrophe parts two words of a term, but in the database it is inside of a token. -/
theorem misses_curly_apostrophe :
    ¬ ∀ fns : TextFunctions, fns.Documented → ∀ (f : Filter) (e : Event) (receivedAt : UInt32)
      (version : Nat), ∀ record ∈ (EventRow.ofEvent e receivedAt version).recordsIn
        (ofFilter (f.searchFor e.content)).table,
          ∀ p ∈ (ofFilter (f.searchFor e.content)).predicates, p.column = .content →
            p.holds fns record = true := by
  intro claim
  have held := claim .byTokens TextFunctions.byTokens_documented {} { content := "don’t" } 0 1 _
    (List.mem_singleton_self _) ⟨.content, .hasToken (.text "don")⟩ (by decide +kernel) rfl
  have missed : Predicate.holds .byTokens (EventRow.ofEvent { content := "don’t" } 0 1).record
      ⟨.content, .hasToken (.text "don")⟩ = false := by decide +kernel
  exact absurd held (by rw [missed]; exact Bool.false_ne_true)

end Plan
end RelayStore

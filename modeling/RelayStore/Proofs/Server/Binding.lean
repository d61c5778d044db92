import RelayStore.Proofs.Plan.Placeholders
import RelayStore.Server.Client

/-!
Values are written into a statement. Main statement: the statements of a plan are refused for the
same list without values, or each predicate is sent with its own values.
-/
namespace RelayStore.Server
open Piece (Closes Plain Renders written written_cons params_hole params_text)
open Predicate (clause)
open Statement (Aligned)

/-! The parts of a text. -/

theorem parseTemplate_append {s : List Char} (unmarked : '?' ∉ s) (fuel : Nat)
    (done rest : List Char) :
    parseTemplate (s.length + fuel) done (s ++ rest) =
      parseTemplate fuel (s.reverse ++ done) rest := by
  induction s generalizing done with
  | nil => rw [List.length_nil, Nat.zero_add]; rfl
  | cons c s ih =>
    rw [List.mem_cons, not_or] at unmarked
    have length : (c :: s).length + fuel = s.length + fuel + 1 := by rw [List.length_cons]; omega
    rw [length, List.cons_append, parseTemplate, ih unmarked.2, List.reverse_cons,
      List.append_assoc]
    · rfl
    · rintro rest rfl
      exact absurd rfl unmarked.1
    · rintro rfl
      exact absurd rfl unmarked.1

/-- The text gathered so far, as a part. -/
def gathered (done : List Char) : List TemplatePart :=
  if done = [] then [] else [.text done.reverse]

theorem parseTemplate_hole {rest : List Char} (fuel : Nat) (done : List Char)
    (closes : ∀ c, rest.head? = some c → c ∈ [' ', ',', ')']) :
    parseTemplate (fuel + 1) done ('?' :: rest) =
      gathered done ++ .hole :: parseTemplate fuel [] rest := by
  have single : ∀ more, rest ≠ '?' :: more := by
    rintro more rfl
    exact absurd (closes '?' rfl) (by decide)
  have other : columnsWord.isPrefixOf rest = false := by
    cases rest with
    | nil => rfl
    | cons c rest =>
      have different : 'f' ≠ c := by
        rintro rfl
        exact absurd (closes 'f' rfl) (by decide)
      simp [columnsWord, List.isPrefixOf, different]
  rw [parseTemplate]
  · rw [other]
    rfl
  · exact single

/-! Values in the places of question marks. -/

theorem bindAll_text (values : List Param) (s : List Char) (parts : List TemplatePart) :
    bindAll values (.text s :: parts) = (bindAll values parts).map (.text s :: ·) := by
  induction values generalizing parts with
  | nil => rfl
  | cons v values ih =>
    rw [bindAll, bindAll, bind]
    cases bind (literal v) parts with
    | none => rfl
    | some parts => exact ih parts
    · exact fun h => nomatch h

theorem bindAll_gathered (values : List Param) (done : List Char) (parts : List TemplatePart) :
    bindAll values (gathered done ++ parts) =
      (bindAll values parts).map (gathered done ++ ·) := by
  unfold gathered
  split_ifs
  · rw [List.nil_append]
    cases bindAll values parts <;> rfl
  · exact bindAll_text values done.reverse parts

theorem bindAll_hole (v : Param) (values : List Param) (parts : List TemplatePart) :
    bindAll (v :: values) (.hole :: parts) =
      (bindAll values parts).map (.text (literal v).toList :: ·) := by
  rw [bindAll, bind]
  exact bindAll_text _ _ _

/-- Parts that are texts and nothing else, with their text. -/
inductive Spells : List TemplatePart → List Char → Prop where
  | nil : Spells [] []
  | cons (s : List Char) {parts : List TemplatePart} {text : List Char} (rest : Spells parts text) :
      Spells (.text s :: parts) (s ++ text)

theorem Spells.after {parts : List TemplatePart} {text : List Char} (spells : Spells parts text)
    (done : List Char) : Spells (gathered done ++ parts) (done.reverse ++ text) := by
  unfold gathered
  split_ifs with start
  · subst start
    exact spells
  · exact .cons _ spells

theorem Spells.finish {parts : List TemplatePart} {text : List Char} (spells : Spells parts text) :
    finish parts = .ok text := by
  induction spells with
  | nil => rfl
  | cons s _ ih => rw [Server.finish, ih]; rfl

theorem Spells.mapM {parts : List TemplatePart} {text : List Char} (spells : Spells parts text)
    (columns : List String) : parts.mapM (bindColumns columns) = .ok parts := by
  induction spells with
  | nil => rfl
  | cons s _ ih =>
    rw [List.mapM_cons, bindColumns, ih]
    rfl
    all_goals exact fun h => nomatch h

theorem head_of_closes {xs : List Piece} (closes : Closes xs) {c : Char}
    (head : (written Param.mark xs).toList.head? = some c) : c ∈ [' ', ',', ')'] := by
  rcases xs with _ | ⟨s | v, rest⟩
  · cases head
  · obtain ⟨d, first, closer⟩ := closes
    have same : (written Param.mark (.text s :: rest)).toList.head? = some d := by
      rw [written_cons, Piece.shown, String.toList_append, List.head?_append, first]
      rfl
    rw [same] at head
    obtain rfl := Option.some.inj head
    exact closer
  · exact closes.elim

/-- What is gathered stays in front while the rest of a text is cut and filled. -/
theorem exists_parts {xs : List Piece} (plain : Plain xs) (done : List Char) :
    ∃ parts, bindAll (xs.filterMap Piece.param?)
        (parseTemplate (written Param.mark xs).toList.length done
          (written Param.mark xs).toList) = .ok parts ∧
      Spells parts (done.reverse ++ (written literal xs).toList) := by
  induction plain generalizing done with
  | nil => exact ⟨[.text (done.reverse ++ [])], rfl, by simpa using Spells.cons done.reverse .nil⟩
  | @text s rest unmarked _ ih =>
    -- The text joins what has been gathered before it.
    obtain ⟨parts, filled, spells⟩ := ih (s.toList.reverse ++ done)
    refine ⟨parts, ?_, ?_⟩
    · rw [params_text, written_cons, Piece.shown, String.toList_append, List.length_append,
        parseTemplate_append unmarked, filled]
    · simpa [Piece.shown, List.append_assoc] using spells
  | @hole v rest closes _ ih =>
    -- What has been gathered ends here, and the first value fills the first hole.
    obtain ⟨parts, filled, spells⟩ := ih []
    have text : (written Param.mark (.hole v :: rest)).toList =
        '?' :: (written Param.mark rest).toList := by
      rw [written_cons, Piece.shown, Param.mark, String.toList_append]
      rfl
    have own : bindAll (v :: rest.filterMap Piece.param?) (.hole :: parseTemplate
        (written Param.mark rest).toList.length [] (written Param.mark rest).toList) =
        .ok (.text (literal v).toList :: parts) := by
      rw [bindAll_hole, filled]
      rfl
    have shown : (written literal (.hole v :: rest)).toList =
        (literal v).toList ++ (written literal rest).toList := by
      rw [written_cons, Piece.shown, String.toList_append]
    rw [params_hole, text, shown, List.length_cons,
      parseTemplate_hole _ _ fun c => head_of_closes closes, bindAll_gathered, own]
    exact ⟨_, rfl, (Spells.cons _ spells).after done⟩

/-- Each question mark is replaced by its own value, whatever the value looks like. -/
theorem fillQuery_of_renders {s : Statement} {text : (Param → String) → String}
    {values : List Param} (renders : Renders s.pieces text values) (columns : List String) :
    fillQuery s.sql s.params columns = .ok (text literal ++ " FORMAT RowBinary") := by
  obtain ⟨parts, filled, spells⟩ := exists_parts renders.plain []
  rw [List.reverse_nil, List.nil_append, renders.written] at spells
  have cut : bindAll s.params (template s.sql) = .ok parts := by
    rw [template, s.sql_eq_written, ← String.length_toList]
    exact filled
  have whole : fillQuery s.sql s.params columns =
      .ok (String.ofList (text literal).toList ++ " FORMAT RowBinary") := by
    rw [fillQuery, cut, ok_bind, spells.mapM columns, ok_bind, spells.finish, ok_bind]
    rfl
  rw [whole, String.ofList_toList]

/-! What is sent. -/

/-- A statement whose values are in their places, in its text and in what is sent to the server. -/
def Binds (made : Except EmptyList Statement) (front : String) (ps : List Predicate)
    (back : String) : Prop :=
  ∃ s, made = .ok s ∧ Aligned s front ps back ∧ ∀ columns,
    fillQuery s.sql s.params columns =
      .ok (front ++ clause literal " WHERE " ps ++ back ++ " FORMAT RowBinary")

theorem binds_of_renders {s : Statement} {front back : String} {ps : List Predicate}
    (listed : ∀ p ∈ ps, p.condition ≠ .oneOf []) (unmarked : '?' ∉ front.toList)
    (renders : Renders s.pieces (fun display => front ++ clause display " WHERE " ps ++ back)
      (ps.flatMap Predicate.values)) : Binds (.ok s) front ps back :=
  ⟨s, rfl, renders.aligned listed unmarked, fillQuery_of_renders renders⟩

namespace Client

variable (c : Client) (p : Plan)

/-- Nothing is sent for a plan, because the values of a column are to be in an empty list. -/
structure Refuses (column : Column) : Prop where
  select : p.select c.database = .error ⟨column⟩
  counts : ∀ approximate, p.count c.database approximate = .error ⟨column⟩
  query {m : Type → Type} [Monad m] (t : Transport m) :
    c.query t p = pure (.error (.preparation ("empty IN list for " ++ column.name)))
  count {m : Type → Type} [Monad m] (t : Transport m) (approximate : Bool) :
    c.count t p approximate = pure (.error (.preparation ("empty IN list for " ++ column.name)))

/-- What is sent for a plan has every value in its place. -/
structure Asks : Prop where
  select : Binds (p.select c.database) (p.selectFront c.database) p.predicates p.selectBack
  counts : ∀ approximate,
    Binds (p.count c.database approximate) (p.countFront c.database approximate) p.predicates ""
  query {m : Type → Type} [Monad m] (t : Transport m) :
    c.query t p = c.exchange t (.ok (c.question (p.selectFront c.database ++
      clause literal " WHERE " p.predicates ++ p.selectBack ++ " FORMAT RowBinary")))
      (RowBinary.readAll RowBinary.readQueryRow)
  count {m : Type → Type} [Monad m] (t : Transport m) (approximate : Bool) :
    c.count t p approximate = c.exchange t (.ok (c.question (p.countFront c.database approximate ++
      clause literal " WHERE " p.predicates ++ " FORMAT RowBinary")))
      (RowBinary.readOne (RowBinary.readNumber 8))

variable {c p}

theorem refuses {q : Predicate} (first : p.predicates.find? (·.condition = .oneOf []) = some q) :
    c.Refuses p q.column := by
  have conditions : p.conditions = .error ⟨q.column⟩ := conjunction_eq_error first " WHERE "
  have select : p.select c.database = .error ⟨q.column⟩ := by
    rw [Plan.select, conditions]
    rfl
  have counts (approximate : Bool) : p.count c.database approximate = .error ⟨q.column⟩ := by
    rw [Plan.count, conditions]
    rfl
  refine ⟨select, counts, fun t => ?_, fun t approximate => ?_⟩
  · rw [query, select]
    rfl
  · rw [count, counts]
    rfl

theorem asks (named : '?' ∉ c.database.toList)
    (listed : ∀ q ∈ p.predicates, q.condition ≠ .oneOf []) : c.Asks p := by
  have select : Binds (p.select c.database) (p.selectFront c.database) p.predicates
      p.selectBack := by
    obtain ⟨s, made, renders⟩ := Plan.renders_select listed named
    rw [made]
    exact binds_of_renders listed (Plan.unmarked_selectFront named) renders
  have counts (approximate : Bool) : Binds (p.count c.database approximate)
      (p.countFront c.database approximate) p.predicates "" := by
    obtain ⟨s, made, renders⟩ := Plan.renders_count listed named approximate
    rw [made]
    refine binds_of_renders listed (Plan.unmarked_countFront named approximate) ?_
    simpa only [String.append_empty] using renders
  refine ⟨select, counts, fun t => ?_, fun t approximate => ?_⟩
  · obtain ⟨s, made, -, filled⟩ := select
    rw [query, made]
    dsimp only
    rw [filled]
    rfl
  · obtain ⟨s, made, -, filled⟩ := counts approximate
    rw [count, made]
    dsimp only
    rw [filled, String.append_empty]
    rfl

/-- A plan is refused for its first list without values; else each value stands where the question
mark with its number was, in the text of the predicate it belongs to. -/
theorem values_in_place (c : Client) (named : '?' ∉ c.database.toList) (p : Plan) :
    match p.predicates.find? (·.condition = .oneOf []) with
    | some q => c.Refuses p q.column
    | none => c.Asks p := by
  cases first : p.predicates.find? (·.condition = .oneOf []) with
  | some q => exact refuses first
  | none => exact asks named (by simpa using first)

/-- Values that look like question marks and like the names of columns. -/
def deceptive : Plan where
  table := .events
  predicates := [⟨.content, .contains (.text "??fields")⟩, ⟨.kind, .oneOf [.number 1, .number 1]⟩,
    ⟨.tags, .tagEntry (.text "?") (.texts ["?fields", "?"])⟩]
  limit := 3

/-- Two lists without values. -/
def barren : Plan where
  table := .byKind
  predicates := [⟨.deleted, .equals (.number 0)⟩, ⟨.kind, .oneOf []⟩, ⟨.id, .oneOf []⟩]
  limit := 3

theorem values_in_place_nostr : '?' ∉ "nostr".toList ∧
    Asks { database := "nostr" } deceptive ∧ Refuses { database := "nostr" } barren .kind :=
  have named : '?' ∉ "nostr".toList := by decide
  ⟨named, values_in_place { database := "nostr" } named deceptive,
    values_in_place { database := "nostr" } named barren⟩

end Client
end RelayStore.Server

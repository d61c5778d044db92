import RelayStore.Proofs.Plan.Fitting

/-!
The question marks of a statement and its values. Main statement: each question mark stands in the
text of the predicate that owns the value with the same number.
-/
namespace RelayStore

/-! The texts of predicates, with their values shown in one way or another. -/

/-- The values of a condition in their order. -/
def Condition.values : Condition → List Param
  | equals v | atLeast v | atMost v | hasAny v | hasToken v | contains v => [v]
  | oneOf vs => vs
  | tagEntry name values => [name, values]

/-- A question mark, whatever the value. -/
def Param.mark : Param → String := fun _ => "?"

namespace Predicate

def values (p : Predicate) : List Param := p.condition.values

def shown (display : Param → String) (p : Predicate) : String :=
  let column := p.column.name
  match p.condition with
  | .equals v => column ++ " = " ++ display v
  | .oneOf vs => column ++ " IN (" ++ ", ".intercalate (vs.map display) ++ ")"
  | .atLeast v => column ++ " >= " ++ display v
  | .atMost v => column ++ " <= " ++ display v
  | .hasAny v => "hasAny(" ++ column ++ ", " ++ display v ++ ")"
  | .hasToken v => "hasToken(" ++ column ++ ", " ++ display v ++ ")"
  | .contains v => "position(" ++ column ++ ", " ++ display v ++ ") > 0"
  | .tagEntry name values =>
    "arrayExists(t -> t[1] = " ++ display name ++ " AND has(" ++ display values ++ ", t[2]), " ++
      column ++ ")"

def text (p : Predicate) : String := p.shown Param.mark

/-- The predicates joined by `AND`, each with the word before it. -/
def clause (display : Param → String) (word : String) : List Predicate → String
  | [] => ""
  | p :: ps => word ++ p.shown display ++ clause display " AND " ps

/-- The word before the next predicate. -/
def wordAfter (before : List Predicate) : String :=
  if before = [] then " WHERE " else " AND "

end Predicate

open Predicate (clause wordAfter)

namespace Statement

/-- The value with a number belongs to a predicate, and the question mark with the same number
stands in the text of this predicate. -/
inductive Owned (s : Statement) (front : String) (ps : List Predicate) (k : Nat) (v : Param) :
    Prop where
  | intro {before after : List Predicate} {p : Predicate} {j place : Nat} {left right : String}
      (split : ps = before ++ p :: after)
      (number : k = (before.flatMap Predicate.values).length + j)
      (own : p.values[j]? = some v)
      (start : left = front ++ clause Param.mark " WHERE " before ++ wordAfter before)
      (text : s.sql = left ++ p.text ++ right)
      (found : (s.sql.toList.idxsOf '?')[k]? = some place)
      (within : left.length ≤ place ∧ place < left.length + p.text.length) : Owned s front ps k v

/-- A statement with some predicates between a first and a last part. -/
structure Aligned (s : Statement) (front : String) (ps : List Predicate) (back : String) :
    Prop where
  text : s.sql = front ++ clause Param.mark " WHERE " ps ++ back
  params : s.params = ps.flatMap Predicate.values
  count : s.sql.toList.count '?' = s.params.length
  owned : ∀ k v, s.params[k]? = some v → Owned s front ps k v

end Statement

open Statement (Aligned Owned)

/-! Pieces. -/

namespace Piece

def shown (display : Param → String) : Piece → String
  | text s => s
  | hole v => display v

def written (display : Param → String) (pieces : List Piece) : String :=
  String.join (pieces.map (shown display))

/-- What may stand right after a question mark without changing what it means: nothing, or a text
with a first character that neither doubles the mark nor makes it one for columns. -/
def Closes : List Piece → Prop
  | [] => True
  | .text s :: _ => ∃ c, s.toList.head? = some c ∧ c ∈ [' ', ',', ')']
  | .hole _ :: _ => False

/-- Question marks stand for values only, and each of them by itself. -/
inductive Plain : List Piece → Prop where
  | nil : Plain []
  | text {s : String} {rest : List Piece} (unmarked : '?' ∉ s.toList) (more : Plain rest) :
      Plain (.text s :: rest)
  | hole {v : Param} {rest : List Piece} (closes : Closes rest) (more : Plain rest) :
      Plain (.hole v :: rest)

/-- Pieces that make a text with some values in it. -/
structure Renders (pieces : List Piece) (text : (Param → String) → String) (values : List Param) :
    Prop where
  written : ∀ display, written display pieces = text display
  params : pieces.filterMap Piece.param? = values
  plain : Plain pieces

section Pieces

variable {xs ys : List Piece}

@[simp] theorem written_nil (display : Param → String) : written display [] = "" := rfl

@[simp] theorem written_cons (display : Param → String) (p : Piece) (ps : List Piece) :
    written display (p :: ps) = p.shown display ++ written display ps := String.join_cons

@[simp] theorem written_append (display : Param → String) (xs ys : List Piece) :
    written display (xs ++ ys) = written display xs ++ written display ys := by
  rw [written, List.map_append, String.join_append, written, written]

@[simp] theorem params_text (s : String) (ps : List Piece) :
    (Piece.text s :: ps).filterMap Piece.param? = ps.filterMap Piece.param? := rfl

@[simp] theorem params_hole (v : Param) (ps : List Piece) :
    (Piece.hole v :: ps).filterMap Piece.param? = v :: ps.filterMap Piece.param? := rfl

theorem Closes.append (closes : Closes xs) (more : Closes ys) : Closes (xs ++ ys) := by
  rcases xs with _ | ⟨s | v, rest⟩
  · exact more
  · exact closes
  · exact closes.elim

theorem Plain.append (first : Plain xs) (second : Plain ys) (closes : Closes ys) :
    Plain (xs ++ ys) := by
  induction first with
  | nil => exact second
  | text unmarked _ ih => exact .text unmarked ih
  | hole here _ ih => exact .hole (here.append closes) ih

theorem Plain.count (plain : Plain xs) :
    (written Param.mark xs).toList.count '?' = (xs.filterMap Piece.param?).length := by
  induction plain with
  | nil => rfl
  | text unmarked _ ih =>
    rw [params_text, ← ih]
    simp [Piece.shown, List.count_eq_zero_of_not_mem unmarked]
  | hole _ _ ih =>
    rw [params_hole, List.length_cons, ← ih]
    simp [Piece.shown, Param.mark]

theorem Renders.append {f g : (Param → String) → String} {vs ws : List Param}
    (first : Renders xs f vs) (second : Renders ys g ws) (closes : Closes ys) :
    Renders (xs ++ ys) (fun display => f display ++ g display) (vs ++ ws) where
  written display := by rw [written_append, first.written, second.written]
  params := by rw [List.filterMap_append, first.params, second.params]
  plain := first.plain.append second.plain closes

/-- A text with no values in it has no question marks. -/
theorem Renders.unmarked {text : String} (renders : Renders xs (fun _ => text) []) :
    '?' ∉ text.toList := by
  rw [← List.count_eq_zero, ← renders.written Param.mark, renders.plain.count, renders.params]
  rfl

theorem Renders.single {s : String} (unmarked : '?' ∉ s.toList) :
    Renders [.text s] (fun _ => s) [] :=
  ⟨fun _ => by rw [written_cons, written_nil, String.append_empty]; rfl, rfl, .text unmarked .nil⟩

theorem Renders.after {f : (Param → String) → String} {vs : List Param} {s : String}
    (unmarked : '?' ∉ s.toList) (rest : Renders xs f vs) :
    Renders (.text s :: xs) (fun display => s ++ f display) vs where
  written display := by rw [written_cons, rest.written]; rfl
  params := rest.params
  plain := .text unmarked rest.plain

end Pieces

end Piece

open Piece (Closes Plain Renders written written_append written_cons written_nil params_hole
  params_text)

theorem Statement.sql_eq_written (s : Statement) : s.sql = written Param.mark s.pieces := by
  have same : Piece.sql = Piece.shown Param.mark := by
    funext p
    cases p <;> rfl
  rw [sql, written, same]

/-! Predicates. -/

theorem Column.unmarked (c : Column) : '?' ∉ c.name.toList := by
  have all : ∀ c ∈ Column.all, '?' ∉ c.name.toList := by decide
  exact all c c.mem_all

theorem Table.unmarked (t : Table) : '?' ∉ t.name.toList := by
  have all : ∀ t ∈ Table.all, '?' ∉ t.name.toList := by decide
  exact all t t.mem_all

theorem renders_holes (v : Param) (vs : List Param) :
    Renders (holes (v :: vs)) (fun display => ", ".intercalate ((v :: vs).map display))
      (v :: vs) := by
  induction vs generalizing v with
  | nil => exact ⟨fun display => by simp [holes, Piece.shown], rfl, .hole trivial .nil⟩
  | cons w ws ih =>
    obtain ⟨text, params, plain⟩ := ih w
    have list : holes (v :: w :: ws) = .hole v :: .text ", " :: holes (w :: ws) := rfl
    rw [list]
    refine ⟨fun display => ?_, ?_, .hole ⟨',', rfl, by decide⟩ (.text (by decide) plain)⟩
    · rw [written_cons, written_cons, text, List.map_cons, List.map_cons, List.map_cons,
        String.intercalate_cons_cons, String.append_assoc]
      rfl
    · rw [params_hole, params_text, params]

/-- Everything but an empty list of accepted values is written down. -/
theorem Predicate.renders {p : Predicate} (listed : p.condition ≠ .oneOf []) :
    ∃ pieces, p.pieces = .ok pieces ∧ Renders pieces (fun display => p.shown display) p.values := by
  obtain ⟨column, condition⟩ := p
  have name := column.unmarked
  have made {pieces : List Piece} (plain : Plain pieces)
      (params : pieces.filterMap Piece.param? = condition.values)
      (text : ∀ display, written display pieces = (Predicate.mk column condition).shown display) :
      Renders pieces (fun display => (Predicate.mk column condition).shown display)
        condition.values := ⟨text, params, plain⟩
  have compare {s : String} {v : Param} (between : '?' ∉ s.toList) :
      Plain [.text column.name, .text s, .hole v] :=
    .text name (.text between (.hole trivial .nil))
  -- A function with the column and then the value as its arguments.
  have call {s t : String} {v : Param} (first : '?' ∉ s.toList) (last : '?' ∉ t.toList)
      (closes : Closes [.text t]) :
      Plain [.text s, .text column.name, .text ", ", .hole v, .text t] :=
    .text first (.text name (.text (by decide) (.hole closes (.text last .nil))))
  cases condition with
  | equals v | atLeast v | atMost v =>
    refine ⟨_, rfl, made (compare (by decide)) rfl fun display => ?_⟩
    simp [Piece.shown, Predicate.shown, String.append_assoc]
  | hasAny v | hasToken v | contains v =>
    refine ⟨_, rfl, made (call (by decide) (by decide) ⟨')', rfl, by decide⟩) rfl fun display => ?_⟩
    simp [Piece.shown, Predicate.shown, String.append_assoc]
  | oneOf vs =>
    cases vs with
    | nil => exact absurd rfl listed
    | cons v vs =>
      obtain ⟨list, params, plain⟩ := renders_holes v vs
      refine ⟨_, rfl, made ?_ ?_ fun display => ?_⟩
      · exact .text name (.text (by decide)
          (plain.append (.text (by decide) .nil) ⟨')', rfl, by decide⟩))
      · simp [params, Condition.values]
      · simp [Piece.shown, Predicate.shown, list, String.append_assoc]
  | tagEntry first second =>
    have plain : Plain [.text "arrayExists(t -> t[1] = ", .hole first, .text " AND has(",
        .hole second, .text ", t[2]), ", .text column.name, .text ")"] :=
      .text (by decide) (.hole ⟨' ', rfl, by decide⟩ (.text (by decide)
        (.hole ⟨',', rfl, by decide⟩ (.text (by decide) (.text name (.text (by decide) .nil))))))
    refine ⟨_, rfl, made plain rfl fun display => ?_⟩
    simp [Piece.shown, Predicate.shown, String.append_assoc]

theorem renders_conjunction {ps : List Predicate} (listed : ∀ p ∈ ps, p.condition ≠ .oneOf [])
    {word : String} (unmarked : '?' ∉ word.toList) :
    ∃ pieces, conjunction word ps = .ok pieces ∧
      Renders pieces (fun display => clause display word ps) (ps.flatMap Predicate.values) ∧
      (word.toList.head? = some ' ' → Closes pieces) := by
  induction ps generalizing word with
  | nil => exact ⟨[], rfl, ⟨fun _ => rfl, rfl, .nil⟩, fun _ => trivial⟩
  | cons p ps ih =>
    obtain ⟨listed, more⟩ := List.forall_mem_cons.1 listed
    obtain ⟨first, h, text⟩ := Predicate.renders listed
    obtain ⟨rest, hs, texts, closes⟩ := ih more (show '?' ∉ " AND ".toList by decide)
    have joined := (text.append texts (closes rfl)).after unmarked
    refine ⟨.text word :: (first ++ rest), ?_, ⟨fun display => ?_, joined.params, joined.plain⟩,
      fun spaced => ⟨' ', spaced, by decide⟩⟩
    · exact bind_eq_ok.2 ⟨first, h, bind_eq_ok.2 ⟨rest, hs, rfl⟩⟩
    · rw [joined.written, clause, String.append_assoc]

theorem unmarked_where : '?' ∉ " WHERE ".toList := by decide

/-- The first predicate with an empty list is the one that is named. -/
theorem conjunction_eq_error {ps : List Predicate} {p : Predicate}
    (first : ps.find? (fun p => p.condition = .oneOf []) = some p) (word : String) :
    conjunction word ps = .error ⟨p.column⟩ := by
  induction ps generalizing word with
  | nil => cases first
  | cons q ps ih =>
    by_cases empty : q.condition = .oneOf []
    · rw [List.find?_cons_of_pos (by simpa using empty)] at first
      obtain rfl := Option.some.inj first
      rw [conjunction, Predicate.pieces, empty]
      rfl
    · rw [List.find?_cons_of_neg (by simpa using empty)] at first
      obtain ⟨pieces, h, -⟩ := Predicate.renders empty
      rw [conjunction, h, ok_bind, ih first]
      rfl

/-! Statements. -/

namespace Plan

variable (p : Plan) (database : String)

/-- The table as statements name it. -/
def place : String :=
  (if database = "" then "" else database ++ ".") ++ p.table.name ++ " FINAL"

def selectFront : String := "SELECT " ++ selected ++ " FROM " ++ p.place database

def selectBack : String := " ORDER BY created_at DESC LIMIT " ++ toString p.limit

def countFront (approximate : Bool) : String :=
  "SELECT " ++ (if approximate then "uniq" else "uniqExact") ++ "(id) FROM " ++ p.place database

variable {p database}

theorem renders_source (named : '?' ∉ database.toList) :
    Renders (p.source database) (fun _ => p.place database) [] := by
  have table : Renders [.text p.table.name, .text " FINAL"]
      (fun _ => p.table.name ++ " FINAL") [] :=
    (Renders.single (by decide)).after p.table.unmarked
  by_cases none : database = ""
  · simpa [source, place, none] using table
  · simpa [source, place, none, String.append_assoc] using
      (table.after (s := ".") (by decide)).after named

theorem unmarked_selectFront (named : '?' ∉ database.toList) :
    '?' ∉ (p.selectFront database).toList := by
  have table := (renders_source (p := p) named).unmarked
  have columns : '?' ∉ selected.toList := by decide
  simp [selectFront, table, columns]

theorem unmarked_countFront (named : '?' ∉ database.toList) (approximate : Bool) :
    '?' ∉ (p.countFront database approximate).toList := by
  have table := (renders_source (p := p) named).unmarked
  cases approximate <;> simp [countFront, table]

theorem unmarked_limit : '?' ∉ (toString p.limit).toList := by
  intro mem
  have digit := Nat.isDigit_of_mem_toDigits (b := 10) (by decide) (by decide)
    (show '?' ∈ Nat.toDigits 10 p.limit.toNat by simpa [toString] using mem)
  contradiction

theorem renders_select (listed : ∀ c ∈ p.predicates, c.condition ≠ .oneOf [])
    (named : '?' ∉ database.toList) :
    ∃ s, p.select database = .ok s ∧
      Renders s.pieces
        (fun display =>
          p.selectFront database ++ clause display " WHERE " p.predicates ++ p.selectBack)
        (p.predicates.flatMap Predicate.values) := by
  obtain ⟨conditions, made, text, closes⟩ := renders_conjunction listed unmarked_where
  have back : Renders [.text " ORDER BY created_at DESC LIMIT ", .text (toString p.limit)]
      (fun _ => p.selectBack) [] := (Renders.single unmarked_limit).after (by decide)
  have ends : Closes [.text " ORDER BY created_at DESC LIMIT ", .text (toString p.limit)] :=
    ⟨' ', rfl, by decide⟩
  have source := (renders_source (p := p) named).append (text.append back ends)
    ((closes rfl).append ends)
  have columns : '?' ∉ selected.toList := by decide
  have whole := ((source.after (s := " FROM ") (by decide)).after columns).after
    (s := "SELECT ") (by decide)
  refine ⟨_, bind_eq_ok.2 ⟨conditions, made, rfl⟩, ?_⟩
  simpa only [selectFront, List.cons_append, List.nil_append, List.append_nil, List.append_assoc,
    String.append_assoc] using whole

theorem renders_count (listed : ∀ c ∈ p.predicates, c.condition ≠ .oneOf [])
    (named : '?' ∉ database.toList) (approximate : Bool) :
    ∃ s, p.count database approximate = .ok s ∧
      Renders s.pieces
        (fun display => p.countFront database approximate ++ clause display " WHERE " p.predicates)
        (p.predicates.flatMap Predicate.values) := by
  obtain ⟨conditions, made, text, closes⟩ := renders_conjunction listed unmarked_where
  have source := (renders_source (p := p) named).append text (closes rfl)
  have function : '?' ∉ (if approximate then "uniq" else "uniqExact").toList := by
    cases approximate <;> decide
  have whole := ((source.after (s := "(id) FROM ") (by decide)).after function).after
    (s := "SELECT ") (by decide)
  refine ⟨_, bind_eq_ok.2 ⟨conditions, made, rfl⟩, ?_⟩
  simpa only [countFront, List.cons_append, List.nil_append, String.append_assoc] using whole

end Plan

/-! Which predicate a question mark belongs to. -/

theorem clause_append (display : Param → String) (word : String) (before : List Predicate)
    (p : Predicate) (after : List Predicate) :
    clause display word (before ++ p :: after) =
      clause display word before ++ (if before = [] then word else " AND ") ++ p.shown display ++
        clause display " AND " after := by
  induction before generalizing word with
  | nil => simp [clause, String.append_assoc]
  | cons q before ih =>
    rw [List.cons_append, clause, ih, clause]
    simp [String.append_assoc]

theorem count_clause {ps : List Predicate} (listed : ∀ p ∈ ps, p.condition ≠ .oneOf []) :
    (clause Param.mark " WHERE " ps).toList.count '?' = (ps.flatMap Predicate.values).length := by
  obtain ⟨pieces, -, text, -⟩ := renders_conjunction listed unmarked_where
  rw [← text.written Param.mark, text.plain.count, text.params]

theorem Predicate.count_text {p : Predicate} (listed : p.condition ≠ .oneOf []) :
    p.text.toList.count '?' = p.values.length := by
  obtain ⟨pieces, -, text⟩ := Predicate.renders listed
  rw [Predicate.text, ← text.written Param.mark, text.plain.count, text.params]

theorem exists_owner {ps : List Predicate} {k : Nat} {v : Param}
    (held : (ps.flatMap Predicate.values)[k]? = some v) :
    ∃ before p after j, ps = before ++ p :: after ∧
      k = (before.flatMap Predicate.values).length + j ∧ p.values[j]? = some v := by
  induction ps generalizing k with
  | nil => cases held
  | cons p ps ih =>
    rw [List.flatMap_cons] at held
    by_cases own : k < p.values.length
    · rw [List.getElem?_append_left own] at held
      exact ⟨[], p, ps, k, rfl, (Nat.zero_add k).symm, held⟩
    · rw [List.getElem?_append_right (Nat.not_lt.1 own)] at held
      obtain ⟨before, q, after, j, rfl, number, held⟩ := ih held
      refine ⟨p :: before, q, after, j, rfl, ?_, held⟩
      rw [List.flatMap_cons, List.length_append]
      omega

/-- A character of the middle part, counted from the start, is found in the middle part. -/
theorem exists_place {c : Char} (left : List Char) {middle : List Char} (right : List Char)
    {j : Nat} (inside : j < middle.count c) :
    ∃ place, ((left ++ middle ++ right).idxsOf c)[left.count c + j]? = some place ∧
      left.length ≤ place ∧ place < left.length + middle.length := by
  have length : j < (middle.idxsOf c left.length).length := by rwa [List.length_idxsOf]
  refine ⟨(middle.idxsOf c left.length)[j], ?_, List.le_getElem_idxsOf length, ?_⟩
  · rw [List.append_assoc, List.idxsOf_append, List.getElem?_append_right (by simp)]
    rw [List.length_idxsOf, Nat.add_sub_cancel_left, Nat.zero_add, List.idxsOf_append,
      List.getElem?_append_left length, List.getElem?_eq_getElem length]
  · have := List.getElem_idxsOf_lt length
    omega

theorem unmarked_wordAfter (before : List Predicate) : (wordAfter before).toList.count '?' = 0 := by
  unfold wordAfter
  split <;> decide

theorem Piece.Renders.aligned {s : Statement} {front back : String} {ps : List Predicate}
    (listed : ∀ p ∈ ps, p.condition ≠ .oneOf []) (unmarked : '?' ∉ front.toList)
    (renders : Renders s.pieces (fun display => front ++ clause display " WHERE " ps ++ back)
      (ps.flatMap Predicate.values)) : Aligned s front ps back where
  text := by rw [s.sql_eq_written, renders.written]
  params := renders.params
  count := by rw [s.sql_eq_written, renders.plain.count]; rfl
  owned := by
    intro k v held
    rw [Statement.params, renders.params] at held
    obtain ⟨before, p, after, j, rfl, rfl, own⟩ := exists_owner held
    have earlier : ∀ q ∈ before, q.condition ≠ .oneOf [] := fun q mem =>
      listed q (List.mem_append_left _ mem)
    have inside : j < p.text.toList.count '?' := by
      rw [Predicate.count_text (listed p (by simp))]
      exact (List.getElem?_eq_some_iff.1 own).1
    let left := front ++ clause Param.mark " WHERE " before ++ wordAfter before
    let right := clause Param.mark " AND " after ++ back
    have text : s.sql = left ++ p.text ++ right := by
      rw [s.sql_eq_written, renders.written, clause_append]
      simp only [left, right, Predicate.text, wordAfter, String.append_assoc]
    have counted : left.toList.count '?' = (before.flatMap Predicate.values).length := by
      simp only [left, String.toList_append, List.count_append, count_clause earlier,
        List.count_eq_zero_of_not_mem unmarked, unmarked_wordAfter]
      omega
    obtain ⟨place, found, first, last⟩ := exists_place left.toList right.toList inside
    rw [counted, ← String.toList_append, ← String.toList_append, ← text] at found
    rw [String.length_toList] at first last
    rw [String.length_toList] at last
    exact .intro rfl rfl own rfl text found ⟨first, last⟩

end RelayStore

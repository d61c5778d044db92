import Mathlib.Data.List.Forall2
import Mathlib.Data.List.TakeWhile
import RelayStore.Proofs.Json.RoundTrip

/-!
The texts of strings and of arrays, by their grammar. Main statement: a reader of strings, of arrays
of strings, and so on, accepts the texts of its grammar and no others, and gives what they stand
for.
-/
namespace RelayStore.Json

/-! The grammar. -/

/-- The texts that stand for a value of a type. -/
abbrev Grammar (α : Type) := α → List Char → Prop

def Blank (text : List Char) : Prop := ∀ c ∈ text, c ∈ [' ', '\t', '\n', '\r']

def StringText : Grammar String := fun s text =>
  ∃ spelled, Spelled s.toList spelled ∧ text = '"' :: spelled ++ ['"']

variable {α : Type}

/-- A text with blanks around it. -/
inductive Padded (item : Grammar α) : Grammar α where
  | intro {a : α} {left text right : List Char} (before : Blank left) (inner : item a text)
      (after : Blank right) : Padded item a (left ++ text ++ right)

/-- One item or more, with commas between them. -/
inductive ItemsText (item : Grammar α) : List α → List Char → Prop where
  | one {a : α} {text : List Char} (first : Padded item a text) : ItemsText item [a] text
  | more {a : α} {as : List α} {text rest : List Char} (first : Padded item a text)
      (others : ItemsText item as rest) : ItemsText item (a :: as) (text ++ ',' :: rest)

inductive ArrayText (item : Grammar α) : Grammar (List α) where
  | empty {blanks : List Char} (blank : Blank blanks) :
      ArrayText item [] ('[' :: blanks ++ [']'])
  | items {as : List α} {text : List Char} (items : ItemsText item as text) :
      ArrayText item as ('[' :: text ++ [']'])

/-! Blanks. -/

theorem blank_iff {text : List Char} : Blank text ↔ ∀ c ∈ text, isSpace c = true := by
  simp [Blank, isSpace, or_assoc]

theorem Blank.skipSpace {blanks : List Char} (blank : Blank blanks) (rest : List Char) :
    Json.skipSpace (blanks ++ rest) = Json.skipSpace rest :=
  List.dropWhile_append_of_pos (blank_iff.1 blank)

theorem skipSpace_solid {c : Char} {blanks : List Char} (blank : Blank blanks)
    (solid : isSpace c = false) (rest : List Char) :
    skipSpace (blanks ++ c :: rest) = c :: rest := by
  rw [blank.skipSpace, skipSpace_cons solid]

theorem eq_of_skipSpace {cs rest : List Char} (skip : skipSpace cs = rest) :
    ∃ blanks, Blank blanks ∧ cs = blanks ++ rest :=
  ⟨cs.takeWhile isSpace, blank_iff.2 fun _ mem => List.mem_takeWhile_imp mem,
    skip ▸ List.takeWhile_append_dropWhile.symm⟩

theorem skipSpace_eq_nil {cs : List Char} : skipSpace cs = [] ↔ Blank cs := by
  rw [skipSpace, List.dropWhile_eq_nil_iff, blank_iff]

/-- Blanks end a number. -/
theorem Blank.apart {blanks : List Char} (blank : Blank blanks) {rest : List Char}
    (apart : Apart rest) : Apart (blanks ++ rest) := by
  cases blanks with
  | nil => exact apart
  | cons c blanks =>
    rintro _ ⟨⟩
    have space := blank c List.mem_cons_self
    simp only [List.mem_cons, List.not_mem_nil, or_false] at space
    rcases space with rfl | rfl | rfl | rfl <;> decide

theorem readNode_blank {blanks : List Char} (blank : Blank blanks) (fuel : Nat)
    (rest : List Char) : readNode fuel (blanks ++ rest) = readNode fuel rest := by
  cases fuel with
  | zero => rfl
  | succ fuel => rw [readNode, readNode, blank.skipSpace]

/-! Recognizing a grammar. -/

/-- The trees that a relation holds of are those of the texts of a grammar. -/
structure Recognizes (holds : α → Node → Prop) (item : Grammar α) : Prop where
  start : ∀ {a text}, item a text → ∃ c cs, text = c :: cs ∧ isSpace c = false ∧ c ≠ ']'
  complete : ∀ {a text}, item a text → ∀ (fuel : Nat) (rest : List Char), text.length ≤ fuel →
    Apart rest → ∃ v, readNode fuel (text ++ rest) = (v, some rest) ∧ holds a v
  sound : ∀ {fuel cs v r a}, readNode fuel cs = (v, r) → holds a v →
    ∃ blanks text rest, Blank blanks ∧ item a text ∧ r = some rest ∧ cs = blanks ++ text ++ rest

/-- A reader takes the texts of a grammar for what they stand for, and takes nothing else. -/
abbrev Reads (read : Node → Result α) (item : Grammar α) : Prop :=
  Recognizes (fun a v => read v = .ok a) item

theorem Recognizes.congr {holds holds' : α → Node → Prop} {item : Grammar α}
    (recognizes : Recognizes holds item) (same : ∀ a v, holds' a v ↔ holds a v) :
    Recognizes holds' item where
  start := recognizes.start
  complete h fuel rest room apart := by
    obtain ⟨v, node, holds⟩ := recognizes.complete h fuel rest room apart
    exact ⟨v, node, (same _ _).2 holds⟩
  sound node holds := recognizes.sound node ((same _ _).1 holds)

theorem Node.mismatch_ne_ok (v : Node) (wanted : String) (a : α) : v.mismatch wanted ≠ .ok a := by
  unfold Node.mismatch
  split <;> simp

theorem Node.eq_string_of_toString? {v : Node} {s : String} (read : v.toString? = .ok s) :
    v = .string (.ok s) := by
  unfold Node.toString? at read
  split at read
  · rw [Except.ok.inj read]
  · exact absurd read (Node.mismatch_ne_ok _ _ s)

theorem items?_cons {read : Node → Result α} {v : Node} {vs : List Node} {stop : Option Flaw}
    {as : List α} :
    Node.items? read (v :: vs) stop = .ok as ↔
      ∃ a as', read v = .ok a ∧ Node.items? read vs stop = .ok as' ∧ as = a :: as' := by
  simp only [Node.items?, bind_eq_ok, pure_eq_ok]
  constructor
  · rintro ⟨a, first, as', others, rfl⟩
    exact ⟨a, as', first, others, rfl⟩
  · rintro ⟨a, as', first, others, rfl⟩
    exact ⟨a, first, as', others, rfl⟩

theorem Node.items?_eq_ok {read : Node → Result α} {vs : List Node} {stop : Option Flaw}
    {as : List α} :
    Node.items? read vs stop = .ok as ↔
      stop = none ∧ List.Forall₂ (fun a v => read v = .ok a) as vs := by
  induction vs generalizing as with
  | nil => cases stop <;> simp [Node.items?, eq_comm]
  | cons v vs ih =>
    rw [items?_cons, List.forall₂_cons_right_iff]
    constructor
    · rintro ⟨a, as', first, others, rfl⟩
      obtain ⟨whole, others⟩ := ih.1 others
      exact ⟨whole, a, as', first, others, rfl⟩
    · rintro ⟨whole, a, as', first, others, rfl⟩
      exact ⟨a, as', first, ih.2 ⟨whole, others⟩, rfl⟩

theorem Node.toList?_eq_ok {read : Node → Result α} {v : Node} {as : List α} :
    v.toList? read = .ok as ↔
      ∃ vs, v = .array vs none ∧ List.Forall₂ (fun a v => read v = .ok a) as vs := by
  unfold Node.toList?
  split
  next vs stop =>
    rw [Node.items?_eq_ok]
    constructor
    · rintro ⟨rfl, items⟩
      exact ⟨vs, rfl, items⟩
    · rintro ⟨_, ⟨⟩, items⟩
      exact ⟨rfl, items⟩
  next other =>
    refine iff_of_false (Node.mismatch_ne_ok _ _ as) ?_
    rintro ⟨vs, rfl, -⟩
    exact other vs none rfl

/-! What a value starts with. -/

/-- Whether the text of a value can start with a character. -/
def Node.Opens : Node → Char → Prop
  | .null, c => c = 'n'
  | .bool true, c => c = 't'
  | .bool false, c => c = 'f'
  | .number _, c => c = '-' ∨ c.isDigit = true
  | .string _, c => c = '"'
  | .array _ _, c => c = '['
  | .object _ _, c => c = '\x7b'
  | .broken _, _ => False

def Node.IsBroken : Node → Prop
  | .broken _ => True
  | _ => False

theorem word_fst (node : Node) (letters cs : List Char) :
    (word node letters cs).1 = node ∨ (word node letters cs).1.IsBroken := by
  unfold word
  split
  · exact .inl rfl
  · exact .inr trivial

theorem numberNode_fst (cs : List Char) :
    (∃ n, (numberNode cs).1 = .number n) ∨ (numberNode cs).1.IsBroken := by
  unfold numberNode
  split
  · exact .inl ⟨_, rfl⟩
  · exact .inr trivial

theorem stringNode_fst (fuel : Nat) (cs : List Char) :
    (∃ s, (stringNode fuel cs).1 = .string s) ∨ (stringNode fuel cs).1.IsBroken := by
  unfold stringNode
  split
  · exact .inl ⟨_, rfl⟩
  · exact .inr trivial

/-- A value that is not broken at once stands behind blanks and opens as its kind does. -/
theorem readNode_opens {fuel : Nat} {cs : List Char} {v : Node} {r : Option (List Char)}
    (node : readNode fuel cs = (v, r)) (sound : ¬ v.IsBroken) :
    ∃ fuel' blanks c rest, Blank blanks ∧ cs = blanks ++ c :: rest ∧ v.Opens c ∧
      readNode (fuel' + 1) (c :: rest) = (v, r) := by
  cases fuel with
  | zero =>
    cases node
    exact absurd trivial sound
  | succ fuel =>
    rcases space : skipSpace cs with _ | ⟨c, rest⟩
    · rw [readNode, space] at node
      cases node
      exact absurd trivial sound
    obtain ⟨blanks, blank, rfl⟩ := eq_of_skipSpace space
    rw [readNode_blank blank] at node
    rw [blank.skipSpace] at space
    refine ⟨fuel, blanks, c, rest, blank, rfl, ?_, node⟩
    obtain rfl : (readNode (fuel + 1) (c :: rest)).1 = v := congrArg Prod.fst node
    clear node
    have word_opens {node : Node} {letters : List Char}
        (sound : ¬ (word node letters rest).1.IsBroken) : (word node letters rest).1 = node :=
      (word_fst _ _ _).resolve_right sound
    rw [readNode, space] at sound ⊢
    dsimp only at sound ⊢
    split_ifs at sound ⊢ with n t f quote number list object
    · rw [word_opens sound]
      exact n
    · rw [word_opens sound]
      exact t
    · rw [word_opens sound]
      exact f
    · obtain ⟨s, node⟩ := (stringNode_fst _ _).resolve_right sound
      rw [node]
      exact quote
    · obtain ⟨s, node⟩ := (numberNode_fst _).resolve_right sound
      rw [node]
      exact number
    · split <;> exact list
    · split <;> exact object
    · exact absurd trivial sound

/-! Strings. -/

theorem reads_string : Reads Node.toString? StringText where
  start := by
    rintro s _ ⟨spelled, spells, rfl⟩
    exact ⟨'"', _, rfl, rfl, by decide⟩
  complete := by
    rintro s _ ⟨spelled, spells, rfl⟩ fuel rest room -
    simp only [List.length_append, List.length_cons, List.length_nil] at room
    obtain ⟨fuel, rfl⟩ := Nat.exists_eq_add_one_of_ne_zero (show fuel ≠ 0 by omega)
    have node := spells.stringNode rest (show spelled.length < fuel by omega)
    rw [String.ofList_toList, ← readNode_string] at node
    exact ⟨_, by simpa using node, rfl⟩
  sound := by
    intro fuel cs v r s node read
    obtain rfl := Node.eq_string_of_toString? read
    obtain ⟨fuel', blanks, c, rest, blank, rfl, rfl, node⟩ := readNode_opens node not_false
    rw [readNode_string] at node
    obtain ⟨spelled, rest, spells, rfl, rfl⟩ := spelled_of_stringNode node
    exact ⟨blanks, _, rest, blank, ⟨spelled, spells, rfl⟩, rfl, by simp⟩

/-! Arrays. -/

variable {holds : α → Node → Prop} {item : Grammar α}

theorem Recognizes.padded (recognizes : Recognizes holds item) {a : α} {text : List Char}
    (h : Padded item a text) (fuel : Nat) {rest : List Char} (room : text.length ≤ fuel)
    (apart : Apart rest) :
    ∃ v right, Blank right ∧ readNode fuel (text ++ rest) = (v, some (right ++ rest)) ∧
      holds a v := by
  obtain @⟨_, left, inner, right, before, h, after⟩ := h
  simp only [List.length_append] at room
  obtain ⟨v, node, value⟩ :=
    recognizes.complete h fuel (right ++ rest) (by omega) (after.apart apart)
  refine ⟨v, right, after, ?_, value⟩
  rw [List.append_assoc, List.append_assoc, readNode_blank before, node]

theorem Recognizes.items (recognizes : Recognizes holds item) {as : List α} {text : List Char}
    (h : ItemsText item as text) (rest : List Char) {fuel : Nat} (room : text.length < fuel) :
    ∃ vs, readItems fuel (text ++ ']' :: rest) = (vs, none, some rest) ∧
      List.Forall₂ holds as vs := by
  induction h generalizing fuel with
  | one first =>
    obtain ⟨fuel, rfl⟩ := Nat.exists_eq_add_one_of_ne_zero (Nat.ne_zero_of_lt room)
    obtain ⟨v, right, blank, node, value⟩ :=
      recognizes.padded first fuel (Nat.le_of_lt_succ room) (apart_bracket rest)
    refine ⟨[v], ?_, .cons value .nil⟩
    rw [readItems, node]
    simp [skipSpace_solid blank (c := ']') rfl]
  | @more a as text others first _ ih =>
    obtain ⟨fuel, rfl⟩ := Nat.exists_eq_add_one_of_ne_zero (Nat.ne_zero_of_lt room)
    simp only [List.length_append, List.length_cons] at room
    obtain ⟨v, right, blank, node, value⟩ :=
      recognizes.padded first fuel (by omega) (apart_comma (others ++ ']' :: rest))
    obtain ⟨vs, more, values⟩ := ih (show others.length < fuel by omega)
    refine ⟨v :: vs, ?_, .cons value values⟩
    rw [List.append_assoc, List.cons_append, readItems, node]
    simp [skipSpace_solid blank (c := ',') rfl, more]

theorem Recognizes.itemsText (recognizes : Recognizes holds item) {fuel : Nat} {cs : List Char}
    {vs : List Node} {r : Option (List Char)} {as : List α}
    (items : readItems fuel cs = (vs, none, r)) (values : List.Forall₂ holds as vs) :
    ∃ text rest, ItemsText item as text ∧ r = some rest ∧ cs = text ++ ']' :: rest := by
  induction fuel generalizing cs vs as with
  | zero => simp [readItems] at items
  | succ fuel ih =>
    rw [readItems] at items
    -- The first item is sound, so the text goes on behind it.
    rcases node : readNode fuel cs with ⟨v, after⟩
    rw [node] at items
    have single {b : α} (value : holds b v) := recognizes.sound node value
    cases after with
    | none =>
      cases items
      obtain ⟨a, _, value, -, rfl⟩ := List.forall₂_cons_right_iff.1 values
      obtain ⟨_, _, _, -, -, absurd, -⟩ := single value
      cases absurd
    | some after =>
      dsimp only at items
      split at items
      · cases items
      next c rest space =>
        obtain ⟨right, blank, rfl⟩ := eq_of_skipSpace space
        split_ifs at items with close comma
        · cases items
          obtain ⟨a, _, value, last, rfl⟩ := List.forall₂_cons_right_iff.1 values
          obtain ⟨left, text, _, before, inner, same, rfl⟩ := single value
          cases same
          cases last
          exact ⟨_, rest, .one ⟨before, inner, blank⟩, rfl, by simp [close]⟩
        · rcases more : readItems fuel rest with ⟨vs', stop, r'⟩
          rw [more] at items
          cases items
          obtain ⟨a, as, value, others, rfl⟩ := List.forall₂_cons_right_iff.1 values
          obtain ⟨left, text, _, before, inner, same, rfl⟩ := single value
          cases same
          obtain ⟨texts, rest', items, same, rfl⟩ := ih more others
          exact ⟨_, rest', .more ⟨before, inner, blank⟩ items, same, by simp [comma]⟩
        · cases items

theorem ItemsText.start {c : Char} (start : ∀ {a text}, item a text →
    ∃ d cs, text = d :: cs ∧ isSpace d = false ∧ d ≠ c) {as : List α} {text : List Char}
    (h : ItemsText item as text) (rest : List Char) :
    ∀ r, skipSpace (text ++ rest) ≠ c :: r := by
  have first {a : α} {text : List Char} (h : Padded item a text) (rest r : List Char) :
      skipSpace (text ++ rest) ≠ c :: r := by
    obtain ⟨before, inner, after⟩ := h
    obtain ⟨d, cs, rfl, solid, free⟩ := start inner
    simp [skipSpace_solid before solid, free]
  cases h with
  | one h => exact first h rest
  | @more a as text others h _ =>
    rw [List.append_assoc]
    exact first h (',' :: others ++ rest)

theorem readNode_empty {blanks : List Char} (blank : Blank blanks) (fuel : Nat)
    (rest : List Char) :
    readNode (fuel + 1) ('[' :: (blanks ++ ']' :: rest)) = (.array [] none, some rest) := by
  simp [readNode, skipSpace_cons (c := '[') rfl, skipSpace_solid blank (c := ']') rfl]

theorem Recognizes.array (recognizes : Recognizes holds item) :
    Recognizes (fun as v => ∃ vs, v = .array vs none ∧ List.Forall₂ holds as vs)
      (ArrayText item) where
  start := by
    rintro as _ (⟨-⟩ | -)
    all_goals exact ⟨'[', _, rfl, rfl, by decide⟩
  complete := by
    intro as text h fuel rest room _
    obtain ⟨fuel, rfl⟩ : ∃ fuel', fuel = fuel' + 1 :=
      Nat.exists_eq_add_one_of_ne_zero (by rintro rfl; cases h <;> simp at room)
    cases h with
    | @empty blanks blank =>
      exact ⟨_, by simpa using readNode_empty blank fuel rest, [], rfl, .nil⟩
    | @items as text items =>
      simp only [List.length_append, List.length_cons, List.length_nil] at room
      obtain ⟨vs, node, values⟩ := recognizes.items items rest (show text.length < fuel by omega)
      refine ⟨.array vs none, ?_, vs, rfl, values⟩
      rw [List.cons_append, List.cons_append, List.append_assoc, List.cons_append, List.nil_append,
        readNode_array (items.start recognizes.start _), node]
  sound := by
    rintro fuel cs _ r as node ⟨vs, rfl, values⟩
    obtain ⟨fuel', blanks, c, rest, blank, rfl, rfl, node⟩ := readNode_opens node not_false
    by_cases close : ∃ rest', skipSpace rest = ']' :: rest'
    · obtain ⟨rest', close⟩ := close
      obtain ⟨inside, blankInside, rfl⟩ := eq_of_skipSpace close
      rw [readNode_empty blankInside] at node
      cases node
      cases values
      exact ⟨blanks, _, rest', blank, .empty blankInside, rfl, by simp⟩
    · rw [readNode_array (not_exists.1 close)] at node
      rcases items : readItems fuel' rest with ⟨vs', stop', r'⟩
      rw [items] at node
      cases node
      obtain ⟨text, rest', inner, rfl, rfl⟩ := recognizes.itemsText items values
      exact ⟨blanks, _, rest', blank, .items inner, rfl, by simp⟩

theorem Reads.array {read : Node → Result α} (reads : Reads read item) :
    Reads (Node.toList? read) (ArrayText item) :=
  Recognizes.congr (Recognizes.array reads) fun _ _ => Node.toList?_eq_ok

/-! Whole texts. -/

theorem Recognizes.ofList_iff (recognizes : Recognizes holds item) {cs : List Char} {a : α} :
    (∃ v, Source.ofList cs = ⟨v, none⟩ ∧ holds a v) ↔ Padded item a cs := by
  constructor
  · rintro ⟨v, source, value⟩
    rcases node : readNode (2 * cs.length + 2) cs with ⟨root, r⟩
    rw [Source.ofList, node] at source
    have same : root = v := by cases r <;> exact congrArg Source.root source
    subst same
    obtain ⟨left, text, right, before, inner, rfl, rfl⟩ := recognizes.sound node value
    have after := congrArg Source.after source
    dsimp only at after
    split_ifs at after with blank
    exact ⟨before, inner, skipSpace_eq_nil.1 blank⟩
  · rintro @⟨_, left, text, right, before, inner, after⟩
    have room : text.length ≤ 2 * (left ++ text ++ right).length + 2 := by
      simp only [List.length_append]
      omega
    have apart : Apart right := by
      have nothing : Apart [] := by rintro c ⟨⟩
      simpa using after.apart nothing
    obtain ⟨v, node, value⟩ := recognizes.complete inner _ right room apart
    rw [← readNode_blank before, ← List.append_assoc] at node
    refine ⟨v, ?_, value⟩
    rw [Source.ofList, node]
    simp [skipSpace_eq_nil.2 after]

theorem Source.decode_eq_ok {s : Source} {read : Node → Result α} {a : α} :
    s.decode read = .ok a ↔ read s.root = .ok a ∧ s.after = none := by
  rw [decode, bind_eq_ok]
  constructor
  · rintro ⟨b, value, last⟩
    cases after : s.after with
    | none =>
      rw [after] at last
      exact ⟨pure_eq_ok.1 last ▸ value, rfl⟩
    | some f =>
      rw [after] at last
      cases last
  · rintro ⟨value, after⟩
    exact ⟨a, value, by rw [after]; rfl⟩

/-- A whole text. -/
theorem Reads.decode_iff {read : Node → Result α} (reads : Reads read item) {cs : List Char}
    {a : α} : (Source.ofList cs).decode read = .ok a ↔ Padded item a cs := by
  rw [Source.decode_eq_ok, ← reads.ofList_iff]
  constructor
  · rintro ⟨value, after⟩
    exact ⟨_, congrArg (Source.mk _) after, value⟩
  · rintro ⟨v, source, value⟩
    exact ⟨by rw [source]; exact value, by rw [source]⟩

end RelayStore.Json

import RelayStore.Proofs.Json.Objects

/-!
The texts of all JSON values, by their grammar. Main statement: the texts of a tree are read as this
tree, and nothing else is read as an unbroken tree.
-/
namespace RelayStore.Json

/-! The grammar. -/

/-- The texts of a string. An escape of half a character stands for no string, but can be passed
over. -/
inductive QuotedText : Grammar (Except Fault String) where
  | spelled {s : String} {text : List Char} (string : StringText s text) : QuotedText (.ok s) text
  | unpaired {n : Nat} {inner : List Char} (passed : Passed n inner)
      (none : ∀ s, ¬ Spelled s inner) : QuotedText (.error .malformed) ('"' :: inner ++ ['"'])

/-- The texts of the values that hold no others. -/
inductive ScalarText : Grammar Node where
  | null : ScalarText .null ['n', 'u', 'l', 'l']
  | yes : ScalarText (.bool true) ['t', 'r', 'u', 'e']
  | no : ScalarText (.bool false) ['f', 'a', 'l', 's', 'e']
  | number {l : Literal} {text : List Char} (literal : LiteralText l text) :
      ScalarText (.number l.value) text
  | string {k : Except Fault String} {text : List Char} (quoted : QuotedText k text) :
      ScalarText (.string k) text

/-- The texts of a tree in which arrays and objects are nested up to so deep. -/
def TreeText : Nat → Grammar Node
  | 0 => ScalarText
  | depth + 1 => fun v text => ScalarText v text ∨
      (∃ vs, v = .array vs none ∧ ArrayText (TreeText depth) vs text) ∨
      ∃ ms, v = .object ms none ∧
        ObjectText (fun m => QuotedText m.1) (fun m => TreeText depth m.2) ms text

/-! Unbroken trees. -/

def Node.Scalar : Node → Prop
  | .null | .bool _ | .number _ | .string _ => True
  | .array _ _ | .object _ _ | .broken _ => False

/-- No part of a tree is broken, and its arrays and objects are nested up to so deep. -/
def Node.Whole : Nat → Node → Prop
  | 0 => Scalar
  | depth + 1 => fun v => v.Scalar ∨ (∃ vs, v = .array vs none ∧ ∀ w ∈ vs, w.Whole depth) ∨
      ∃ ms, v = .object ms none ∧ ∀ m ∈ ms, m.2.Whole depth

/-! Putting recognized grammars together. -/

section

variable {α β : Type} {holds holds' : α → Node → Prop} {item item' : Grammar α}

theorem Recognizes.or (first : Recognizes holds item) (second : Recognizes holds' item') :
    Recognizes (fun a v => holds a v ∨ holds' a v) (fun a text => item a text ∨ item' a text) where
  start := by
    rintro a text (h | h)
    · exact first.start h
    · exact second.start h
  complete := by
    rintro a text (h | h) fuel rest room apart
    · obtain ⟨v, node, value⟩ := first.complete h fuel rest room apart
      exact ⟨v, node, .inl value⟩
    · obtain ⟨v, node, value⟩ := second.complete h fuel rest room apart
      exact ⟨v, node, .inr value⟩
  sound := by
    rintro fuel cs v r a node (h | h)
    · obtain ⟨blanks, text, rest, blank, inner, more⟩ := first.sound node h
      exact ⟨blanks, text, rest, blank, .inl inner, more⟩
    · obtain ⟨blanks, text, rest, blank, inner, more⟩ := second.sound node h
      exact ⟨blanks, text, rest, blank, .inr inner, more⟩

theorem Recognizes.related (recognizes : Recognizes holds item) (related : β → α → Prop) :
    Recognizes (fun b v => ∃ a, related b a ∧ holds a v)
      (fun b text => ∃ a, related b a ∧ item a text) where
  start := by
    rintro _ text ⟨a, -, h⟩
    exact recognizes.start h
  complete := by
    rintro _ text ⟨a, wanted, h⟩ fuel rest room apart
    obtain ⟨v, node, value⟩ := recognizes.complete h fuel rest room apart
    exact ⟨v, node, a, wanted, value⟩
  sound := by
    rintro fuel cs v r _ node ⟨a, wanted, h⟩
    obtain ⟨blanks, text, rest, blank, inner, more⟩ := recognizes.sound node h
    exact ⟨blanks, text, rest, blank, ⟨a, wanted, inner⟩, more⟩

theorem Recognizes.map (f : α → β) (recognizes : Recognizes holds item) :
    Recognizes (fun b v => ∃ a, b = f a ∧ holds a v)
      (fun b text => ∃ a, b = f a ∧ item a text) :=
  recognizes.related fun b a => b = f a

theorem Recognizes.comap (f : β → α) (recognizes : Recognizes holds item) :
    Recognizes (fun b => holds (f b)) (fun b => item (f b)) where
  start := recognizes.start
  complete := recognizes.complete
  sound := recognizes.sound

theorem Recognizes.of_each
    (each : ∀ a, Recognizes (fun (_ : Unit) v => holds a v) fun _ text => item a text) :
    Recognizes holds item where
  start := fun h => (each _).start (a := ()) h
  complete := fun h => (each _).complete (a := ()) h
  sound := fun node h => (each _).sound (a := ()) node h

end

/-! Values that hold no others. -/

theorem expect_iff {letters cs rest : List Char} :
    expect letters cs = .ok rest ↔ cs = letters ++ rest := by
  induction letters generalizing cs with
  | nil => simp [expect]
  | cons e letters ih =>
    cases cs with
    | nil => simp [expect]
    | cons c cs =>
      rw [expect]
      split_ifs with same
      · simp [ih, same]
      · simp [Ne.symm same]

theorem word_append (node : Node) (letters rest : List Char) :
    word node letters (letters ++ rest) = (node, some rest) := by
  rw [word, expect_iff.2 rfl]

theorem eq_append_of_word {node v : Node} {letters cs : List Char} {r : Option (List Char)}
    (read : word node letters cs = (v, r)) (sound : ¬ v.IsBroken) :
    ∃ rest, r = some rest ∧ cs = letters ++ rest := by
  unfold word at read
  split at read
  next rest same =>
    cases read
    exact ⟨rest, rfl, expect_iff.1 same⟩
  · cases read
    exact absurd trivial sound

theorem recognizes_quoted : Recognizes (fun k v => .string k = v) QuotedText where
  start := by
    rintro _ _ (string | -)
    · exact reads_string.start string
    · exact ⟨'"', _, rfl, rfl, by decide⟩
  complete := by
    intro k text h fuel rest room apart
    cases h with
    | spelled string =>
      obtain ⟨v, node, read⟩ := reads_string.complete string fuel rest room apart
      exact ⟨v, node, (Node.eq_string_of_toString? read).symm⟩
    | @unpaired n inner passed none =>
      simp only [List.length_append, List.length_cons, List.length_nil] at room
      obtain ⟨fuel, rfl⟩ := Nat.exists_eq_add_one_of_ne_zero (show fuel ≠ 0 by omega)
      have node := passed.stringNode none rest (show inner.length < fuel by omega)
      rw [← readNode_string] at node
      exact ⟨_, by simpa using node, rfl⟩
  sound := by
    rintro fuel cs _ r k node rfl
    obtain ⟨fuel', blanks, c, rest, blank, rfl, rfl, node⟩ := readNode_opens node not_false
    rw [readNode_string] at node
    obtain ⟨n, inner, rest, passed, rfl, rfl, ⟨s, spells, rfl⟩ | ⟨none, rfl⟩⟩ :=
      passed_of_stringNode node
    · exact ⟨blanks, _, rest, blank, .spelled ⟨inner, spells, rfl⟩, rfl, by simp⟩
    · exact ⟨blanks, _, rest, blank, .unpaired passed none, rfl, by simp⟩

theorem ScalarText.start {v : Node} {text : List Char} (h : ScalarText v text) :
    ∃ c cs, text = c :: cs ∧ isSpace c = false ∧ c ≠ ']' := by
  cases h with
  | null => exact ⟨'n', _, rfl, rfl, by decide⟩
  | yes => exact ⟨'t', _, rfl, rfl, by decide⟩
  | no => exact ⟨'f', _, rfl, rfl, by decide⟩
  | number literal =>
    obtain ⟨c, cs, rfl, rfl | digit⟩ := literal.start
    · exact ⟨'-', cs, rfl, rfl, by decide⟩
    · exact ⟨c, cs, rfl, isSpace_of_isDigit digit, ne_of_isDigit digit rfl⟩
  | string quoted => exact recognizes_quoted.start quoted

theorem recognizes_scalar : Recognizes (fun a v => a.Scalar ∧ a = v) ScalarText where
  start := ScalarText.start
  complete := by
    intro a text h fuel rest room apart
    obtain ⟨fuel, rfl⟩ : ∃ fuel', fuel = fuel' + 1 := by
      obtain ⟨c, cs, rfl, -⟩ := h.start
      exact Nat.exists_eq_add_one_of_ne_zero (Nat.ne_zero_of_lt room)
    cases h with
    | null => exact ⟨_, word_append .null ['u', 'l', 'l'] rest, trivial, rfl⟩
    | yes => exact ⟨_, word_append (.bool true) ['r', 'u', 'e'] rest, trivial, rfl⟩
    | no => exact ⟨_, word_append (.bool false) ['a', 'l', 's', 'e'] rest, trivial, rfl⟩
    | number literal =>
      have node := literal.numberNode apart
      obtain ⟨c, cs, rfl, first⟩ := literal.start
      rw [List.cons_append, ← readNode_number first fuel] at node
      exact ⟨_, node, trivial, rfl⟩
    | string quoted =>
      obtain ⟨v, node, rfl⟩ := recognizes_quoted.complete quoted (fuel + 1) rest room apart
      exact ⟨_, node, trivial, rfl⟩
  sound := by
    rintro fuel cs _ r v read ⟨scalar, rfl⟩
    have sound : ¬ v.IsBroken := by cases v <;> simp_all [Node.Scalar, Node.IsBroken]
    obtain ⟨fuel', blanks, c, rest, blank, rfl, opens, node⟩ := readNode_opens read sound
    cases v with
    | null =>
      cases opens
      obtain ⟨rest, rfl, rfl⟩ := eq_append_of_word node sound
      exact ⟨blanks, _, rest, blank, .null, rfl, by simp⟩
    | bool b =>
      cases b with
      | true =>
        cases opens
        obtain ⟨rest, rfl, rfl⟩ := eq_append_of_word node sound
        exact ⟨blanks, _, rest, blank, .yes, rfl, by simp⟩
      | false =>
        cases opens
        obtain ⟨rest, rfl, rfl⟩ := eq_append_of_word node sound
        exact ⟨blanks, _, rest, blank, .no, rfl, by simp⟩
    | number n =>
      rw [readNode_number opens] at node
      obtain ⟨l, text, rest, literal, rfl, rfl, same⟩ := literal_of_numberNode node
      exact ⟨blanks, text, rest, blank, .number literal, rfl, by rw [same, List.append_assoc]⟩
    | string k =>
      obtain ⟨left, text, rest, blank, quoted, more⟩ := recognizes_quoted.sound read rfl
      exact ⟨left, text, rest, blank, .string quoted, more⟩
    | array | object | broken => exact scalar.elim

theorem Node.toNat?_eq_ok {bound n : Nat} {wanted : String} {v : Node} :
    v.toNat? bound wanted = .ok n ↔ v = .number (some (.whole n)) ∧ n < bound := by
  unfold Node.toNat?
  split
  next m =>
    split_ifs with small
    · simp only [Except.ok.injEq, Node.number.injEq, Option.some.injEq, Number.whole.injEq]
      exact ⟨fun same => ⟨same, same ▸ small⟩, And.left⟩
    · refine iff_of_false (by simp) ?_
      rintro ⟨⟨⟩, fits⟩
      exact small fits
  next m =>
    refine iff_of_false (by simp) ?_
    rintro ⟨⟨⟩, -⟩
  next other _ =>
    refine iff_of_false (Node.mismatch_ne_ok _ _ n) ?_
    rintro ⟨rfl, -⟩
    exact other n rfl

/-- A whole number is read from its digits alone. -/
theorem reads_nat {bound : Nat} (small : bound ≤ UInt64.size) (wanted : String) :
    Reads (Node.toNat? bound wanted) (fun n text => n < bound ∧ text = Nat.toDigits 10 n) where
  start := by
    rintro n _ ⟨-, rfl⟩
    obtain ⟨c, cs, same, digit⟩ := toDigits_eq_cons n
    exact ⟨c, cs, same, isSpace_of_isDigit digit, ne_of_isDigit digit rfl⟩
  complete := by
    rintro n _ ⟨fits, rfl⟩ fuel rest room apart
    have node := numberNode_print (n := .whole n) (Nat.lt_of_lt_of_le fits small) apart
    obtain ⟨c, cs, same, digit⟩ := toDigits_eq_cons n
    rw [Number.print, same, List.cons_append] at node
    rw [same] at room ⊢
    obtain ⟨fuel, rfl⟩ := Nat.exists_eq_add_one_of_ne_zero (Nat.ne_zero_of_lt room)
    rw [← readNode_number (.inr digit) fuel] at node
    exact ⟨_, node, Node.toNat?_eq_ok.2 ⟨rfl, fits⟩⟩
  sound := by
    intro fuel cs v r n read value
    obtain ⟨rfl, fits⟩ := Node.toNat?_eq_ok.1 value
    obtain ⟨fuel', blanks, c, rest, blank, rfl, opens, node⟩ := readNode_opens read not_false
    rw [readNode_number opens] at node
    obtain ⟨l, text, rest, literal, whole, rfl, same⟩ := literal_of_numberNode node
    obtain ⟨-, digits⟩ := literalText_whole_iff.1 ⟨l, literal, whole.symm⟩
    exact ⟨blanks, text, rest, blank, ⟨fits, digits⟩, rfl, by rw [same, List.append_assoc]⟩

/-! All values. -/

theorem recognizes_tree (depth : Nat) :
    Recognizes (fun a v => a.Whole depth ∧ a = v) (TreeText depth) := by
  induction depth with
  | zero => exact recognizes_scalar
  | succ depth ih =>
    have arrays := ih.array.map (Node.array · none)
    have names : RecognizesNames (fun m k => m.1 = k)
        (fun m : Except Fault String × Node => QuotedText m.1) :=
      (recognizes_quoted.comap Prod.fst).congr fun m v => by simp [eq_comm]
    have objects := (names.object (ih.comap Prod.snd)).map (Node.object · none)
    refine (recognizes_scalar.or (arrays.or objects)).congr fun a v => ?_
    have items (vs ws : List Node) :
        List.Forall₂ (fun a v => a.Whole depth ∧ a = v) vs ws ↔
          (∀ v ∈ vs, v.Whole depth) ∧ vs = ws := by
      rw [List.forall₂_and_left, List.forall₂_eq_eq_eq]
    have members (ms ns : List (Except Fault String × Node)) :
        List.Forall₂ (MemberHolds (fun m k => m.1 = k) fun m v => m.2.Whole depth ∧ m.2 = v) ms ns ↔
          (∀ m ∈ ms, m.2.Whole depth) ∧ ms = ns := by
      have same : MemberHolds (fun m k => m.1 = k) (fun m v => m.2.Whole depth ∧ m.2 = v) =
          fun m n => m.2.Whole depth ∧ m = n := by
        funext m n
        simp only [MemberHolds, Prod.ext_iff, eq_iff_iff]
        tauto
      rw [same, List.forall₂_and_left, List.forall₂_eq_eq_eq]
    simp only [items, members]
    constructor
    · rintro ⟨scalar | ⟨vs, rfl, whole⟩ | ⟨ms, rfl, whole⟩, rfl⟩
      · exact .inl ⟨scalar, rfl⟩
      · exact .inr (.inl ⟨vs, rfl, vs, rfl, whole, rfl⟩)
      · exact .inr (.inr ⟨ms, rfl, ms, rfl, whole, rfl⟩)
    · rintro (⟨scalar, rfl⟩ | ⟨vs, rfl, _, rfl, whole, rfl⟩ | ⟨ms, rfl, _, rfl, whole, rfl⟩)
      · exact ⟨.inl scalar, rfl⟩
      · exact ⟨.inr (.inl ⟨vs, rfl, whole⟩), rfl⟩
      · exact ⟨.inr (.inr ⟨ms, rfl, whole⟩), rfl⟩

/-! Values that are passed over. -/

/-- The texts of all values, nested as deep as may be. -/
def AnyText (text : List Char) : Prop := ∃ depth v, TreeText depth v text

theorem Node.Whole.mono {v : Node} {depth more : Nat} (whole : v.Whole depth)
    (deeper : depth ≤ more) : v.Whole more := by
  induction depth generalizing v more with
  | zero =>
    cases more with
    | zero => exact whole
    | succ more => exact .inl whole
  | succ depth ih =>
    obtain ⟨more, rfl⟩ := Nat.exists_eq_add_one_of_ne_zero (Nat.ne_zero_of_lt deeper)
    have deeper := Nat.le_of_succ_le_succ deeper
    rcases whole with scalar | ⟨vs, rfl, all⟩ | ⟨ms, rfl, all⟩
    · exact .inl scalar
    · exact .inr (.inl ⟨vs, rfl, fun v mem => ih (all v mem) deeper⟩)
    · exact .inr (.inr ⟨ms, rfl, fun m mem => ih (all m mem) deeper⟩)

theorem Node.skipItems_eq_ok {vs : List Node} {stop : Option Flaw} :
    skipItems vs stop = .ok () ↔ stop = none ∧ ∀ v ∈ vs, v.skip = .ok () := by
  induction vs with
  | nil => cases stop <;> simp [skipItems]
  | cons v vs ih => simp [skipItems, ih, and_left_comm, Unique.exists_iff]

theorem Node.skipMembers_eq_ok {ms : List (Except Fault String × Node)} {stop : Option Flaw} :
    skipMembers ms stop = .ok () ↔ stop = none ∧ ∀ m ∈ ms, m.2.skip = .ok () := by
  induction ms with
  | nil => cases stop <;> simp [skipMembers]
  | cons m ms ih => simp [skipMembers, ih, and_left_comm, Unique.exists_iff]

theorem Node.Whole.skip {v : Node} {depth : Nat} (whole : v.Whole depth) : v.skip = .ok () := by
  induction depth generalizing v with
  | zero => cases v <;> first | rfl | exact whole.elim
  | succ depth ih =>
    rcases whole with scalar | ⟨vs, rfl, all⟩ | ⟨ms, rfl, all⟩
    · cases v <;> first | rfl | exact scalar.elim
    · rw [Node.skip, skipItems_eq_ok]
      exact ⟨rfl, fun v mem => ih (all v mem)⟩
    · rw [Node.skip, skipMembers_eq_ok]
      exact ⟨rfl, fun m mem => ih (all m mem)⟩

mutual

theorem Node.whole_of_skip : (v : Node) → v.skip = .ok () → ∃ depth, v.Whole depth
  | .null, _ => ⟨0, trivial⟩
  | .bool _, _ => ⟨0, trivial⟩
  | .number _, _ => ⟨0, trivial⟩
  | .string _, _ => ⟨0, trivial⟩
  | .array vs stop, skip => by
    rw [Node.skip] at skip
    obtain ⟨rfl, -⟩ := skipItems_eq_ok.1 skip
    obtain ⟨depth, all⟩ := Node.whole_of_skipItems vs skip
    exact ⟨depth + 1, .inr (.inl ⟨vs, rfl, all⟩)⟩
  | .object ms stop, skip => by
    rw [Node.skip] at skip
    obtain ⟨rfl, -⟩ := skipMembers_eq_ok.1 skip
    obtain ⟨depth, all⟩ := Node.whole_of_skipMembers ms skip
    exact ⟨depth + 1, .inr (.inr ⟨ms, rfl, all⟩)⟩
  | .broken flaw, skip => by simp [Node.skip] at skip

theorem Node.whole_of_skipItems : (vs : List Node) → skipItems vs none = .ok () →
    ∃ depth, ∀ v ∈ vs, v.Whole depth
  | [], _ => ⟨0, by simp⟩
  | v :: vs, skip => by
    rw [skipItems, bind_eq_ok] at skip
    obtain ⟨_, first, others⟩ := skip
    obtain ⟨d, first⟩ := v.whole_of_skip first
    obtain ⟨e, others⟩ := Node.whole_of_skipItems vs others
    refine ⟨max d e, List.forall_mem_cons.2 ⟨first.mono (Nat.le_max_left d e), ?_⟩⟩
    exact fun v mem => (others v mem).mono (Nat.le_max_right d e)

theorem Node.whole_of_skipMembers : (ms : List (Except Fault String × Node)) →
    skipMembers ms none = .ok () → ∃ depth, ∀ m ∈ ms, m.2.Whole depth
  | [], _ => ⟨0, by simp⟩
  | (k, v) :: ms, skip => by
    rw [skipMembers, bind_eq_ok] at skip
    obtain ⟨_, first, others⟩ := skip
    obtain ⟨d, first⟩ := v.whole_of_skip first
    obtain ⟨e, others⟩ := Node.whole_of_skipMembers ms others
    refine ⟨max d e, List.forall_mem_cons.2 ⟨first.mono (Nat.le_max_left d e), ?_⟩⟩
    exact fun m mem => (others m mem).mono (Nat.le_max_right d e)

end

theorem recognizes_any {α : Type} :
    Recognizes (fun (_ : α) v => v.skip = .ok ()) (fun _ text => AnyText text) where
  start := by
    rintro a text ⟨depth, v, tree⟩
    exact (recognizes_tree depth).start tree
  complete := by
    rintro a text ⟨depth, v, tree⟩ fuel rest room apart
    obtain ⟨v, node, whole, rfl⟩ := (recognizes_tree depth).complete tree fuel rest room apart
    exact ⟨_, node, whole.skip⟩
  sound := by
    intro fuel cs v r a node skip
    obtain ⟨depth, whole⟩ := v.whole_of_skip skip
    obtain ⟨blanks, text, rest, blank, tree, more⟩ :=
      (recognizes_tree depth).sound node ⟨whole, rfl⟩
    exact ⟨blanks, text, rest, blank, ⟨depth, v, tree⟩, more⟩

/-! Values that are read. -/

/-- The texts of a value, as deep as a text may be nested. -/
def Value.Text (v : Value) (text : String) : Prop := Padded (TreeText maxDepth) v.node text.toList

@[simp] theorem memberNodes_eq_map (ms : List (String × Value)) :
    memberNodes ms = ms.map fun m => (.ok m.1, m.2.node) := by
  induction ms with
  | nil => rfl
  | cons m ms ih => rw [memberNodes, ih, List.map_cons]

theorem Node.itemValues_eq_ok {depth : Nat}
    (ih : ∀ {n : Node} {v : Value}, n.value depth = .ok v ↔ n = v.node ∧ n.Whole depth)
    {ns : List Node} {stop : Option Flaw} {vs : List Value} :
    itemValues depth ns stop = .ok vs ↔
      stop = none ∧ ns = vs.map Value.node ∧ ∀ n ∈ ns, n.Whole depth := by
  induction ns generalizing vs with
  | nil => cases stop <;> simp [itemValues, eq_comm]
  | cons n ns rest =>
    simp only [itemValues, bind_eq_ok, pure_eq_ok, ih, rest]
    constructor
    · rintro ⟨v, ⟨rfl, first⟩, vs, ⟨rfl, rfl, others⟩, rfl⟩
      exact ⟨rfl, rfl, List.forall_mem_cons.2 ⟨first, others⟩⟩
    · rintro ⟨rfl, same, all⟩
      obtain ⟨v, vs, rfl, rfl, rfl⟩ := List.map_eq_cons_iff.1 same.symm
      obtain ⟨first, others⟩ := List.forall_mem_cons.1 all
      exact ⟨v, ⟨rfl, first⟩, vs, ⟨rfl, rfl, others⟩, rfl⟩

theorem Node.memberValues_eq_ok {depth : Nat}
    (ih : ∀ {n : Node} {v : Value}, n.value depth = .ok v ↔ n = v.node ∧ n.Whole depth)
    {ns : List (Except Fault String × Node)} {stop : Option Flaw} {ms : List (String × Value)} :
    memberValues depth ns stop = .ok ms ↔
      stop = none ∧ ns = memberNodes ms ∧ ∀ n ∈ ns, n.2.Whole depth := by
  rw [memberNodes_eq_map]
  induction ns generalizing ms with
  | nil => cases stop <;> simp [memberValues]
  | cons n ns rest =>
    obtain ⟨k, n⟩ := n
    simp only [memberValues, bind_eq_ok, pure_eq_ok, ih, rest]
    constructor
    · rintro ⟨k, rfl, v, ⟨rfl, first⟩, ms, ⟨rfl, rfl, others⟩, rfl⟩
      exact ⟨rfl, rfl, List.forall_mem_cons.2 ⟨first, others⟩⟩
    · rintro ⟨rfl, same, all⟩
      obtain ⟨⟨k, v⟩, ms, rfl, ⟨⟩, rfl⟩ := List.map_eq_cons_iff.1 same.symm
      obtain ⟨first, others⟩ := List.forall_mem_cons.1 all
      exact ⟨k, rfl, v, ⟨rfl, first⟩, ms, ⟨rfl, rfl, others⟩, rfl⟩

theorem Node.Scalar.whole {n : Node} (scalar : n.Scalar) : (depth : Nat) → n.Whole depth
  | 0 => scalar
  | _ + 1 => .inl scalar

theorem Node.Scalar.value_eq_ok {n : Node} (scalar : n.Scalar) {v : Value} {depth : Nat} :
    n.value depth = .ok v ↔ n = v.node ∧ n.Whole depth := by
  rw [and_iff_left (scalar.whole depth)]
  cases n with
  | null => cases v <;> simp [Node.value, Value.node]
  | bool b => cases v <;> simp [Node.value, Value.node]
  | number o => cases o <;> cases v <;> simp [Node.value, Value.node]
  | string k => cases k <;> cases v <;> simp [Node.value, Value.node]
  | array | object | broken => exact scalar.elim

/-- A tree is read as the value that it is the tree of. -/
theorem Node.value_eq_ok {n : Node} {v : Value} {depth : Nat} :
    n.value depth = .ok v ↔ n = v.node ∧ n.Whole depth := by
  induction depth generalizing n v with
  | zero =>
    cases n with
    | null | bool | number | string => exact Scalar.value_eq_ok (by exact trivial)
    | array | object | broken => simp [Node.value, Whole, Scalar]
  | succ depth ih =>
    cases n with
    | null | bool | number | string => exact Scalar.value_eq_ok (by exact trivial)
    | broken flaw => simp [Node.value, Whole, Scalar]
    | array ns stop =>
      rw [Node.value, map_eq_ok]
      simp only [itemValues_eq_ok ih]
      constructor
      · rintro ⟨vs, ⟨rfl, rfl, all⟩, rfl⟩
        exact ⟨by simp [Value.node], .inr (.inl ⟨_, rfl, all⟩)⟩
      · rintro ⟨same, scalar | ⟨_, ⟨⟩, all⟩ | ⟨_, ⟨⟩, -⟩⟩
        · exact scalar.elim
        · cases v with
          | array vs => exact ⟨vs, ⟨rfl, by simpa [Value.node] using same, all⟩, rfl⟩
          | null | bool | number | string | object => cases same
    | object ns stop =>
      rw [Node.value, map_eq_ok]
      simp only [memberValues_eq_ok ih]
      constructor
      · rintro ⟨ms, ⟨rfl, rfl, all⟩, rfl⟩
        exact ⟨rfl, .inr (.inr ⟨_, rfl, all⟩)⟩
      · rintro ⟨same, scalar | ⟨_, ⟨⟩, -⟩ | ⟨_, ⟨⟩, all⟩⟩
        · exact scalar.elim
        · cases v with
          | object ms => exact ⟨ms, ⟨rfl, by simpa [Value.node] using same, all⟩, rfl⟩
          | null | bool | number | string | array => cases same

/-- A text that holds a value is read as this value. -/
theorem Value.text_iff {v : Value} {text : String} :
    v.Text text ↔ Source.ofString text = ⟨v.node, none⟩ ∧ v.node.Whole maxDepth := by
  rw [Value.Text, ← (recognizes_tree maxDepth).ofList_iff, Source.ofString]
  constructor
  · rintro ⟨_, source, whole, rfl⟩
    exact ⟨source, whole⟩
  · rintro ⟨source, whole⟩
    exact ⟨_, source, whole, rfl⟩

end RelayStore.Json

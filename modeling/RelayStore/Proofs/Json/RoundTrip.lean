import RelayStore.Json.Decode
import RelayStore.Proofs.Json.Literal
import RelayStore.Proofs.Json.Number

/-! The text of a value is read back as the tree of this value. -/
namespace RelayStore.Json

mutual

/-- The tree of a value. -/
def Value.node : Value → Node
  | .null => .null
  | .bool b => .bool b
  | .number n => .number (some n)
  | .string s => .string (.ok s)
  | .array vs => .array (itemNodes vs) none
  | .object ms => .object (memberNodes ms) none

def itemNodes : List Value → List Node
  | [] => []
  | v :: vs => v.node :: itemNodes vs

def memberNodes : List (String × Value) → List (Except Fault String × Node)
  | [] => []
  | (k, v) :: ms => (.ok k, v.node) :: memberNodes ms

end

mutual

/-- No number of a value is rounded. -/
def Value.Exact : Value → Prop
  | .number n => n.Exact
  | .array vs => ExactItems vs
  | .object ms => ExactMembers ms
  | .null | .bool _ | .string _ => True

def ExactItems : List Value → Prop
  | [] => True
  | v :: vs => v.Exact ∧ ExactItems vs

def ExactMembers : List (String × Value) → Prop
  | [] => True
  | (_, v) :: ms => v.Exact ∧ ExactMembers ms

end

theorem skipSpace_cons {c : Char} (solid : isSpace c = false) (cs : List Char) :
    skipSpace (c :: cs) = c :: cs := by
  simp [skipSpace, solid]

theorem ne_of_isDigit {c d : Char} (digit : c.isDigit = true) (other : d.isDigit = false) :
    c ≠ d := by
  rintro rfl
  simp [digit] at other

theorem isSpace_of_isDigit {c : Char} (digit : c.isDigit = true) : isSpace c = false := by
  simp [isSpace, ne_of_isDigit digit (d := ' ') rfl, ne_of_isDigit digit (d := '\t') rfl,
    ne_of_isDigit digit (d := '\n') rfl, ne_of_isDigit digit (d := '\r') rfl]

theorem Number.print_eq_cons {n : Number} (exact : n.Exact) :
    ∃ c cs, n.print = c :: cs ∧ (c = '-' ∨ c.isDigit = true) := by
  cases n with
  | whole n =>
    obtain ⟨c, cs, digits, digit⟩ := toDigits_eq_cons n
    exact ⟨c, cs, digits, .inr digit⟩
  | negative n => exact ⟨'-', _, rfl, .inl rfl⟩
  | real bits => exact exact.elim

/-- A value starts with neither a blank nor a closing bracket. -/
theorem Value.print_eq_cons {v : Value} (exact : v.Exact) :
    ∃ c cs, v.print = c :: cs ∧ isSpace c = false ∧ c ≠ ']' := by
  cases v with
  | null => exact ⟨'n', _, rfl, rfl, by decide⟩
  | bool b => cases b <;> exact ⟨_, _, rfl, rfl, by decide⟩
  | number n =>
    obtain ⟨c, cs, print, rfl | digit⟩ := Number.print_eq_cons exact
    · exact ⟨'-', cs, print, rfl, by decide⟩
    · exact ⟨c, cs, print, isSpace_of_isDigit digit, ne_of_isDigit digit rfl⟩
  | string s => exact ⟨'"', _, rfl, rfl, by decide⟩
  | array vs => cases vs <;> exact ⟨'[', _, rfl, rfl, by decide⟩
  | object ms => rcases ms with _ | ⟨⟨k, v⟩, ms⟩ <;> exact ⟨'\x7b', _, rfl, rfl, by decide⟩

/-! A value in front of a text. -/

theorem readNode_number {c : Char} (start : c = '-' ∨ c.isDigit = true) (fuel : Nat)
    (cs : List Char) : readNode (fuel + 1) (c :: cs) = numberNode (c :: cs) := by
  rcases start with rfl | digit
  · rfl
  · simp [readNode, skipSpace_cons (isSpace_of_isDigit digit), digit,
      ne_of_isDigit digit (d := 'n') rfl, ne_of_isDigit digit (d := 't') rfl,
      ne_of_isDigit digit (d := 'f') rfl, ne_of_isDigit digit (d := '"') rfl]

theorem readNode_string (fuel : Nat) (cs : List Char) :
    readNode (fuel + 1) ('"' :: cs) = stringNode fuel cs := rfl

theorem readNode_array {cs : List Char} (item : ∀ r, skipSpace cs ≠ ']' :: r) (fuel : Nat) :
    readNode (fuel + 1) ('[' :: cs) =
      (.array (readItems fuel cs).1 (readItems fuel cs).2.1, (readItems fuel cs).2.2) := by
  simp [readNode, skipSpace_cons (c := '[') rfl]

theorem readNode_object (fuel : Nat) (cs : List Char) :
    readNode (fuel + 1) ('\x7b' :: '"' :: cs) =
      (.object (readMembers fuel ('"' :: cs)).1 (readMembers fuel ('"' :: cs)).2.1,
        (readMembers fuel ('"' :: cs)).2.2) := rfl

/-- Enough fuel to read any value that is written with so many characters. -/
def ReadsNode (fuel : Nat) : Prop :=
  ∀ (v : Value) (rest : List Char), v.Exact → v.print.length ≤ fuel → Apart rest →
    readNode fuel (v.print ++ rest) = (v.node, some rest)

def ReadsItems (fuel : Nat) : Prop :=
  ∀ (v : Value) (vs : List Value) (rest : List Char), v.Exact → ExactItems vs →
    (v.print ++ printItems vs).length ≤ fuel →
    readItems fuel (v.print ++ printItems vs ++ rest) = (v.node :: itemNodes vs, none, some rest)

def ReadsMembers (fuel : Nat) : Prop :=
  ∀ (k : String) (v : Value) (ms : List (String × Value)) (rest : List Char), v.Exact →
    ExactMembers ms → (printString k ++ ':' :: v.print ++ printMembers ms).length ≤ fuel →
    readMembers fuel (printString k ++ ':' :: v.print ++ printMembers ms ++ rest) =
      ((.ok k, v.node) :: memberNodes ms, none, some rest)

theorem apart_comma (rest : List Char) : Apart (',' :: rest) := by
  rintro c ⟨⟩
  decide

theorem apart_bracket (rest : List Char) : Apart (']' :: rest) := by
  rintro c ⟨⟩
  decide

theorem apart_brace (rest : List Char) : Apart ('\x7d' :: rest) := by
  rintro c ⟨⟩
  decide

theorem printString_append (s : String) (rest : List Char) :
    printString s ++ rest = '"' :: (s.toList.flatMap escapeChar ++ '"' :: rest) := by
  simp [printString]

theorem readsNode_succ {fuel : Nat} (items : ReadsItems fuel) (members : ReadsMembers fuel) :
    ReadsNode (fuel + 1) := by
  intro v rest exact room apart
  cases v with
  | null => simp [Value.print, readNode, skipSpace, isSpace, word, expect, Value.node]
  | bool b => cases b <;> simp [Value.print, readNode, skipSpace, isSpace, word, expect, Value.node]
  | number n =>
    obtain ⟨c, cs, print, start⟩ := Number.print_eq_cons exact
    rw [Value.print, Value.node, ← numberNode_print exact apart, print]
    exact readNode_number start fuel (cs ++ rest)
  | string s =>
    rw [Value.print] at room
    rw [Value.print, printString_append, readNode_string, stringNode_print s rest room, Value.node]
  | array vs =>
    cases vs with
    | nil => rfl
    | cons v vs =>
      obtain ⟨first, others⟩ := exact
      obtain ⟨c, cs, print, solid, item⟩ := Value.print_eq_cons first
      have read := items v vs rest first others (by simpa [Value.print] using room)
      have shape : Value.print (.array (v :: vs)) ++ rest =
          '[' :: (v.print ++ printItems vs ++ rest) := by simp [Value.print]
      rw [shape, readNode_array (by simp [print, skipSpace_cons solid, item]), read]
      rfl
  | object ms =>
    rcases ms with _ | ⟨⟨k, v⟩, ms⟩
    · rfl
    · obtain ⟨first, others⟩ := exact
      have read := members k v ms rest first others (by simpa [Value.print] using room)
      have shape : Value.print (.object ((k, v) :: ms)) ++ rest =
          '\x7b' :: (printString k ++ ':' :: v.print ++ printMembers ms ++ rest) := by
        simp [Value.print]
      simp only [List.append_assoc, List.cons_append, printString_append] at read shape
      rw [shape, readNode_object, read]
      rfl

theorem readsItems_succ {fuel : Nat} (node : ReadsNode fuel) (items : ReadsItems fuel) :
    ReadsItems (fuel + 1) := by
  intro v vs rest first others room
  have length : v.print.length ≠ 0 := by
    obtain ⟨c, cs, print, -⟩ := Value.print_eq_cons first
    simp [print]
  cases vs with
  | nil =>
    have room : v.print.length ≤ fuel := by simpa [printItems] using room
    have read := node v (']' :: rest) first room (apart_bracket rest)
    simp [printItems, readItems, read, skipSpace_cons (c := ']') rfl, itemNodes]
  | cons w ws =>
    simp only [printItems, List.length_append, List.length_cons, List.cons_append] at room
    have read := node v (',' :: w.print ++ printItems ws ++ rest) first (by omega) (apart_comma _)
    have more := items w ws rest others.1 others.2 (by simp only [List.length_append]; omega)
    simp only [List.cons_append, List.append_assoc] at read more
    simp [printItems, readItems, read, skipSpace_cons (c := ',') rfl, more, itemNodes]

theorem readsMembers_succ {fuel : Nat} (node : ReadsNode fuel) (members : ReadsMembers fuel) :
    ReadsMembers (fuel + 1) := by
  intro k v ms rest first others room
  have length := length_printString k
  simp only [List.length_append, List.length_cons] at room
  have key (cs : List Char) := skipChars_print k cs (show (printString k).length ≤ fuel by omega)
  have text (cs : List Char) :=
    stringValue_print k cs (show (printString k).length ≤ fuel by omega)
  rcases ms with _ | ⟨⟨l, w⟩, ms⟩
  · have read := node v ('\x7d' :: rest) first (by omega) (apart_brace rest)
    simp [printMembers, printString_append, readMembers, skipSpace_cons (c := '"') rfl, key,
      skipSpace_cons (c := ':') rfl, read, skipSpace_cons (c := '\x7d') rfl, text, memberNodes]
  · simp only [printMembers, List.length_append, List.length_cons, List.cons_append] at room
    have read := node v (',' :: printString l ++ ':' :: w.print ++ printMembers ms ++ rest) first
      (by omega) (apart_comma _)
    have more := members l w ms rest others.1 others.2
      (by simp only [List.length_append, List.length_cons]; omega)
    simp only [List.cons_append, List.append_assoc] at read more
    rw [List.append_assoc, List.append_assoc, printString_append]
    simp [printMembers, readMembers, skipSpace_cons (c := '"') rfl, key,
      skipSpace_cons (c := ':') rfl, read, skipSpace_cons (c := ',') rfl, more, text, memberNodes]

theorem reads_print (fuel : Nat) : ReadsNode fuel ∧ ReadsItems fuel ∧ ReadsMembers fuel := by
  -- A value costs its readers one unit more than what is inside it, so the three go together.
  induction fuel with
  | zero =>
    -- Nothing is written with no characters at all.
    refine ⟨?_, ?_, ?_⟩
    · intro v rest exact room
      obtain ⟨c, cs, h, -⟩ := Value.print_eq_cons exact
      simp [h] at room
    · intro v vs rest exact exacts room
      obtain ⟨c, cs, h, -⟩ := Value.print_eq_cons exact
      simp [h] at room
    · intro k v ms rest exact exacts room
      simp [printString] at room
  | succ fuel ih =>
    obtain ⟨node, items, members⟩ := ih
    exact ⟨readsNode_succ items members, readsItems_succ node items,
      readsMembers_succ node members⟩

/-- The text of a value holds this value and nothing else. -/
theorem Source.ofString_text {v : Value} (exact : v.Exact) :
    Source.ofString v.text = ⟨v.node, none⟩ := by
  have apart : Apart [] := by rintro c ⟨⟩
  have read := (reads_print (2 * v.print.length + 2)).1 v [] exact (by omega) apart
  rw [List.append_nil] at read
  simp [Source.ofString, Source.ofList, Value.text, read, skipSpace]

/-! What the nodes of a list stand for. -/

@[simp] theorem itemNodes_eq_map (vs : List Value) : itemNodes vs = vs.map Value.node := by
  induction vs with
  | nil => rfl
  | cons v vs ih => rw [itemNodes, ih, List.map_cons]

theorem exactItems_iff {vs : List Value} : ExactItems vs ↔ ∀ v ∈ vs, v.Exact := by
  induction vs with
  | nil => simp [ExactItems]
  | cons v vs ih => simp [ExactItems, ih]

theorem Node.items?_map {α : Type} {item : Node → Result α} {node : α → Node}
    (read : ∀ a, item (node a) = .ok a) (as : List α) :
    items? item (as.map node) none = .ok as := by
  induction as with
  | nil => rfl
  | cons a as ih => simp [items?, read, ih]

@[simp] theorem Value.toStrings?_node_strings (xs : List String) :
    (Value.strings xs).node.toStrings? = .ok xs := by
  have items : (Value.strings xs).node = .array (xs.map fun s => .string (.ok s)) none := by
    simp [Value.strings, Value.node]
  have read (s : String) : Node.toString? (.string (.ok s)) = .ok s := rfl
  rw [items]
  exact Node.items?_map read xs

theorem Value.exact_strings (xs : List String) : (Value.strings xs).Exact := by
  simp [Value.strings, Value.Exact, exactItems_iff]

/-! No text breaks its line. -/

theorem printable_printString (s : String) : ∀ c ∈ printString s, 32 ≤ c.toNat := by
  have quote : 32 ≤ '"'.toNat := by decide
  have chars := (spelled_flatMap_escapeChar s.toList).printable
  simp only [printString, List.forall_mem_append, List.forall_mem_cons]
  exact ⟨⟨quote, chars⟩, quote, by simp⟩

theorem printable_toDigits (n : Nat) : ∀ c ∈ Nat.toDigits 10 n, 32 ≤ c.toNat := by
  intro c mem
  have digit := isDigit_of_mem_toDigits c mem
  simp only [Char.isDigit, Bool.and_eq_true, decide_eq_true_eq] at digit
  exact Nat.le_trans (by decide) (UInt32.le_iff_toNat_le.1 digit.1)

theorem Number.printable {n : Number} (exact : n.Exact) : ∀ c ∈ n.print, 32 ≤ c.toNat := by
  cases n with
  | whole n => exact printable_toDigits n
  | negative n => exact List.forall_mem_cons.2 ⟨by decide, printable_toDigits n⟩
  | real bits => exact exact.elim

mutual

theorem Value.printable : (v : Value) → v.Exact → ∀ c ∈ v.print, 32 ≤ c.toNat
  | .null, _ => by simp [Value.print]
  | .bool true, _ => by simp [Value.print]
  | .bool false, _ => by simp [Value.print]
  | .number n, exact => Number.printable exact
  | .string s, _ => printable_printString s
  | .array [], _ => by simp [Value.print]
  | .array (v :: vs), ⟨first, others⟩ => by
    have item := v.printable first
    have items := printable_printItems vs others
    simp only [Value.print, List.cons_append, List.forall_mem_cons, List.forall_mem_append]
    exact ⟨by decide, item, items⟩
  | .object [], _ => by simp [Value.print]
  | .object ((k, v) :: ms), ⟨first, others⟩ => by
    have item := v.printable first
    have members := printable_printMembers ms others
    simp only [Value.print, List.cons_append, List.forall_mem_cons, List.forall_mem_append]
    exact ⟨by decide, ⟨printable_printString k, by decide, item⟩, members⟩

theorem printable_printItems :
    (vs : List Value) → ExactItems vs → ∀ c ∈ printItems vs, 32 ≤ c.toNat
  | [], _ => by simp [printItems]
  | v :: vs, ⟨first, others⟩ => by
    have item := v.printable first
    have items := printable_printItems vs others
    simp only [printItems, List.cons_append, List.forall_mem_cons, List.forall_mem_append]
    exact ⟨by decide, item, items⟩

theorem printable_printMembers :
    (ms : List (String × Value)) → ExactMembers ms → ∀ c ∈ printMembers ms, 32 ≤ c.toNat
  | [], _ => by simp [printMembers]
  | (k, v) :: ms, ⟨first, others⟩ => by
    have item := v.printable first
    have members := printable_printMembers ms others
    simp only [printMembers, List.cons_append, List.forall_mem_cons, List.forall_mem_append]
    exact ⟨by decide, ⟨printable_printString k, by decide, item⟩, members⟩

end

end RelayStore.Json

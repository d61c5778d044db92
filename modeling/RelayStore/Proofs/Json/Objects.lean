import RelayStore.Proofs.Json.Lists

/-!
The texts of objects, by their grammar. Main statement: where names and values are recognized, so
are the objects of them.
-/
namespace RelayStore.Json

variable {μ : Type}

/-- A name and a value with a colon between them. -/
inductive MemberText (key value : Grammar μ) : Grammar μ where
  | intro {m : μ} {name before after text : List Char} (named : key m name)
      (left : Blank before) (right : Blank after) (inner : value m text) :
      MemberText key value m (name ++ before ++ ':' :: (after ++ text))

inductive ObjectText (key value : Grammar μ) : Grammar (List μ) where
  | empty {blanks : List Char} (blank : Blank blanks) :
      ObjectText key value [] ('\x7b' :: blanks ++ ['\x7d'])
  | members {ms : List μ} {text : List Char}
      (members : ItemsText (MemberText key value) ms text) :
      ObjectText key value ms ('\x7b' :: text ++ ['\x7d'])

/-! Reading the members one by one. -/

/-- A name is read as a string is. -/
theorem readNode_eq_string {fuel : Nat} {cs rest : List Char} {k : Except Fault String}
    (node : readNode (fuel + 1) cs = (.string k, some rest)) :
    ∃ r, skipSpace cs = '"' :: r ∧ skipChars fuel r = .ok rest ∧ stringValue fuel r = k := by
  obtain ⟨_, blanks, c, r, blank, rfl, rfl, -⟩ := readNode_opens node not_false
  rw [readNode_blank blank, readNode_string, stringNode] at node
  refine ⟨r, skipSpace_solid blank rfl r, ?_⟩
  split at node
  next skip =>
    cases node
    exact ⟨skip, rfl⟩
  · cases node

section reading

variable {fuel : Nat} {cs r : List Char} {k : Except Fault String}

/-- What follows a name decides about its value and about further members. -/
theorem readMembers_key (key : readNode (fuel + 1) cs = (.string k, some r)) :
    readMembers (fuel + 1) cs = match skipSpace r with
      | [] => ([(k, .broken .ended)], none, none)
      | c :: r₂ =>
        if c = ':' then
          match readNode fuel r₂ with
          | (v, none) => ([(k, v)], none, none)
          | (v, some r₃) =>
            match skipSpace r₃ with
            | [] => ([(k, v)], some .ended, none)
            | d :: r₄ =>
              if d = '\x7d' then ([(k, v)], none, some r₄)
              else if d = ',' then
                let (ms, stop, rest) := readMembers fuel r₄
                ((k, v) :: ms, stop, rest)
              else ([(k, v)], some .malformed, none)
        else ([(k, .broken .malformed)], none, none) := by
  obtain ⟨inner, quote, skip, rfl⟩ := readNode_eq_string key
  rw [readMembers, quote]
  dsimp only
  generalize skipChars fuel inner = passed at skip ⊢
  subst skip
  exact if_pos rfl

/-- Members start with a name. -/
theorem exists_key {ms : List (Except Fault String × Node)} {rest : Option (List Char)}
    (members : readMembers (fuel + 1) cs = (ms, none, rest)) :
    ∃ k r, readNode (fuel + 1) cs = (.string k, some r) := by
  rw [readMembers] at members
  split at members
  · cases members
  next q inner space =>
    split_ifs at members with quote
    · split at members
      · cases members
      next r skip =>
        subst quote
        obtain ⟨blanks, blank, rfl⟩ := eq_of_skipSpace space
        refine ⟨stringValue fuel inner, r, ?_⟩
        rw [readNode_blank blank, readNode_string, stringNode, skip]
    · cases members

end reading

/-! Objects. -/

variable {named : μ → Except Fault String → Prop} {holds : μ → Node → Prop} {key value : Grammar μ}

/-- A relation between what stands for a member and the member that is read. -/
def MemberHolds (named : μ → Except Fault String → Prop) (holds : μ → Node → Prop) (m : μ)
    (member : Except Fault String × Node) : Prop := named m member.1 ∧ holds m member.2

abbrev RecognizesNames (named : μ → Except Fault String → Prop) (key : Grammar μ) : Prop :=
  Recognizes (fun m v => ∃ k, v = .string k ∧ named m k) key

theorem Recognizes.not_broken (values : Recognizes holds value) (m : μ) :
    ¬ holds m (.broken .ended) ∧ ¬ holds m (.broken .malformed) := by
  constructor
  · intro absurd
    obtain ⟨_, _, _, -, -, none, -⟩ :=
      values.sound (show readNode 0 [] = (.broken .ended, none) from rfl) absurd
    cases none
  · intro absurd
    obtain ⟨_, _, _, -, -, none, -⟩ :=
      values.sound (show readNode 1 [':'] = (.broken .malformed, none) from rfl) absurd
    cases none

theorem Recognizes.quote (names : RecognizesNames named key) {m : μ} {name : List Char}
    (h : key m name) : ∃ cs, name = '"' :: cs := by
  obtain ⟨c, cs, rfl, solid, -⟩ := names.start h
  obtain ⟨_, node, k, rfl, -⟩ := names.complete h (cs.length + 1) [] (by simp) (by rintro c ⟨⟩)
  obtain ⟨r, quote, -⟩ := readNode_eq_string node
  rw [List.cons_append, skipSpace_cons solid] at quote
  exact ⟨cs, by rw [(List.cons.inj quote).1]⟩

theorem MemberText.start (names : RecognizesNames named key) {m : μ} {text : List Char}
    (member : MemberText key value m text) :
    ∃ c cs, text = c :: cs ∧ isSpace c = false ∧ c ≠ '\x7d' := by
  obtain ⟨h, -, -, -⟩ := member
  obtain ⟨cs, rfl⟩ := names.quote h
  exact ⟨'"', _, rfl, rfl, by decide⟩

theorem Recognizes.member (names : RecognizesNames named key) (values : Recognizes holds value)
    {m : μ} {text : List Char} (member : Padded (MemberText key value) m text) {fuel : Nat}
    (room : text.length ≤ fuel) {rest : List Char} (apart : Apart rest) :
    ∃ k v, MemberHolds named holds m (k, v) ∧ ∃ before after right, Blank before ∧ Blank right ∧
      readNode (fuel + 1) (text ++ rest) = (.string k, some (before ++ ':' :: after)) ∧
      readNode fuel after = (v, some (right ++ rest)) := by
  obtain @⟨_, left, _, right, blankLeft, ⟨h, before, after, inner⟩, blankRight⟩ := member
  next name between space text =>
  simp only [List.length_append, List.length_cons] at room
  obtain ⟨_, node, k, rfl, name_holds⟩ := names.complete h (fuel + 1)
    (between ++ ':' :: (space ++ text ++ right ++ rest)) (by omega)
    (before.apart (by rintro c ⟨⟩; decide))
  obtain ⟨v, child, holds⟩ := values.complete inner fuel (right ++ rest) (by omega)
    (blankRight.apart apart)
  refine ⟨k, v, ⟨name_holds, holds⟩, between, space ++ text ++ right ++ rest, right, before,
    blankRight, ?_, ?_⟩
  · rw [← readNode_blank blankLeft] at node
    simpa using node
  · rw [List.append_assoc, List.append_assoc, readNode_blank after, child]

theorem Recognizes.members (names : RecognizesNames named key) (values : Recognizes holds value)
    {ms : List μ} {text : List Char} (h : ItemsText (MemberText key value) ms text)
    (rest : List Char) {fuel : Nat} (room : text.length < fuel) :
    ∃ nodes, readMembers fuel (text ++ '\x7d' :: rest) = (nodes, none, some rest) ∧
      List.Forall₂ (MemberHolds named holds) ms nodes := by
  induction h generalizing fuel with
  | one first =>
    obtain ⟨fuel, rfl⟩ := Nat.exists_eq_add_one_of_ne_zero (Nat.ne_zero_of_lt room)
    obtain ⟨k, v, member, before, after, right, blankBefore, blankRight, name, child⟩ :=
      names.member values first (Nat.le_of_lt_succ room) (apart_brace rest)
    refine ⟨[(k, v)], ?_, .cons member .nil⟩
    rw [readMembers_key name]
    simp [skipSpace_solid blankBefore (c := ':') rfl, child,
      skipSpace_solid blankRight (c := '\x7d') rfl]
  | @more m ms text others first _ ih =>
    obtain ⟨fuel, rfl⟩ := Nat.exists_eq_add_one_of_ne_zero (Nat.ne_zero_of_lt room)
    simp only [List.length_append, List.length_cons] at room
    obtain ⟨k, v, member, before, after, right, blankBefore, blankRight, name, child⟩ :=
      names.member values first (show text.length ≤ fuel by omega)
        (apart_comma (others ++ '\x7d' :: rest))
    obtain ⟨nodes, more, members⟩ := ih (show others.length < fuel by omega)
    refine ⟨(k, v) :: nodes, ?_, .cons member members⟩
    rw [List.append_assoc, List.cons_append, readMembers_key name]
    simp [skipSpace_solid blankBefore (c := ':') rfl, child,
      skipSpace_solid blankRight (c := ',') rfl, more]

theorem Recognizes.memberText (names : RecognizesNames named key) (values : Recognizes holds value)
    {fuel : Nat} {cs before afterColon : List Char} {k : Except Fault String} {v : Node}
    {after : Option (List Char)} {m : μ} (blank : Blank before)
    (name : readNode (fuel + 1) cs = (.string k, some (before ++ ':' :: afterColon)))
    (child : readNode fuel afterColon = (v, after)) (h : MemberHolds named holds m (k, v)) :
    ∃ text rest, after = some rest ∧ cs = text ++ rest ∧
      ∀ {right : List Char}, Blank right → Padded (MemberText key value) m (text ++ right) := by
  obtain ⟨left, nameText, _, blankLeft, key, same, rfl⟩ := names.sound name ⟨k, rfl, h.1⟩
  cases same
  obtain ⟨space, text, rest, blankSpace, inner, rfl, rfl⟩ := values.sound child h.2
  refine ⟨left ++ (nameText ++ before ++ ':' :: (space ++ text)), rest, rfl, by simp, ?_⟩
  exact fun blankRight => ⟨blankLeft, ⟨key, blank, blankSpace, inner⟩, blankRight⟩

theorem Recognizes.membersText (names : RecognizesNames named key)
    (values : Recognizes holds value) {fuel : Nat} {cs : List Char}
    {nodes : List (Except Fault String × Node)} {r : Option (List Char)} {ms : List μ}
    (members : readMembers fuel cs = (nodes, none, r))
    (all : List.Forall₂ (MemberHolds named holds) ms nodes) :
    ∃ text rest, ItemsText (MemberText key value) ms text ∧ r = some rest ∧
      cs = text ++ '\x7d' :: rest := by
  induction fuel generalizing cs nodes ms with
  | zero => simp [readMembers] at members
  | succ fuel ih =>
    obtain ⟨k, afterName, name⟩ := exists_key members
    rw [readMembers_key name] at members
    split at members
    · cases members
      obtain ⟨m, _, first, -, rfl⟩ := List.forall₂_cons_right_iff.1 all
      exact absurd first.2 (values.not_broken m).1
    next c afterColon space =>
      obtain ⟨before, blank, rfl⟩ := eq_of_skipSpace space
      split_ifs at members with colon
      · subst colon
        -- The first member is sound, so the text goes on behind it.
        rcases child : readNode fuel afterColon with ⟨v, after⟩
        rw [child] at members
        have single {m : μ} (h : MemberHolds named holds m (k, v)) :=
          names.memberText values blank name child h
        cases after with
        | none =>
          cases members
          obtain ⟨m, _, first, -, rfl⟩ := List.forall₂_cons_right_iff.1 all
          obtain ⟨_, _, none, -⟩ := single first
          cases none
        | some after =>
          dsimp only at members
          split at members
          · cases members
          next d rest space =>
            obtain ⟨right, blankRight, rfl⟩ := eq_of_skipSpace space
            split_ifs at members with close comma
            · cases members
              obtain ⟨m, _, first, last, rfl⟩ := List.forall₂_cons_right_iff.1 all
              obtain ⟨text, _, same, rfl, member⟩ := single first
              cases same
              cases last
              exact ⟨_, rest, .one (member blankRight), rfl, by simp [close]⟩
            · rcases more : readMembers fuel rest with ⟨nodes', stop, r'⟩
              rw [more] at members
              cases members
              obtain ⟨m, ms, first, others, rfl⟩ := List.forall₂_cons_right_iff.1 all
              obtain ⟨text, _, same, rfl, member⟩ := single first
              cases same
              obtain ⟨texts, rest', items, same, rfl⟩ := ih more others
              exact ⟨_, rest', .more (member blankRight) items, same, by simp [comma]⟩
            · cases members
      · cases members
        obtain ⟨m, _, first, -, rfl⟩ := List.forall₂_cons_right_iff.1 all
        exact absurd first.2 (values.not_broken m).2

theorem readNode_empty_object {blanks : List Char} (blank : Blank blanks) (fuel : Nat)
    (rest : List Char) :
    readNode (fuel + 1) ('\x7b' :: (blanks ++ '\x7d' :: rest)) = (.object [] none, some rest) := by
  simp [readNode, skipSpace_cons (c := '\x7b') rfl, skipSpace_solid blank (c := '\x7d') rfl]

theorem readNode_members {cs : List Char} (member : ∀ r, skipSpace cs ≠ '\x7d' :: r)
    (fuel : Nat) :
    readNode (fuel + 1) ('\x7b' :: cs) =
      (.object (readMembers fuel cs).1 (readMembers fuel cs).2.1, (readMembers fuel cs).2.2) := by
  simp [readNode, skipSpace_cons (c := '\x7b') rfl]

theorem Recognizes.object (names : RecognizesNames named key) (values : Recognizes holds value) :
    Recognizes (fun ms v => ∃ nodes, v = .object nodes none ∧
      List.Forall₂ (MemberHolds named holds) ms nodes) (ObjectText key value) where
  start := by
    rintro as _ (⟨-⟩ | -)
    all_goals exact ⟨'\x7b', _, rfl, rfl, by decide⟩
  complete := by
    intro ms text h fuel rest room _
    obtain ⟨fuel, rfl⟩ : ∃ fuel', fuel = fuel' + 1 :=
      Nat.exists_eq_add_one_of_ne_zero (by rintro rfl; cases h <;> simp at room)
    cases h with
    | @empty blanks blank =>
      exact ⟨_, by simpa using readNode_empty_object blank fuel rest, [], rfl, .nil⟩
    | @members ms text members =>
      simp only [List.length_append, List.length_cons, List.length_nil] at room
      obtain ⟨nodes, node, all⟩ :=
        names.members values members rest (show text.length < fuel by omega)
      refine ⟨.object nodes none, ?_, nodes, rfl, all⟩
      rw [List.cons_append, List.cons_append, List.append_assoc, List.cons_append, List.nil_append,
        readNode_members (members.start (MemberText.start names) _), node]
  sound := by
    rintro fuel cs _ r ms node ⟨nodes, rfl, all⟩
    obtain ⟨fuel', blanks, c, rest, blank, rfl, rfl, node⟩ :=
      readNode_opens node not_false
    by_cases close : ∃ rest', skipSpace rest = '\x7d' :: rest'
    · obtain ⟨rest', close⟩ := close
      obtain ⟨inside, blankInside, rfl⟩ := eq_of_skipSpace close
      rw [readNode_empty_object blankInside] at node
      cases node
      cases all
      exact ⟨blanks, _, rest', blank, .empty blankInside, rfl, by simp⟩
    · rw [readNode_members (not_exists.1 close)] at node
      rcases members : readMembers fuel' rest with ⟨nodes', stop', r'⟩
      rw [members] at node
      cases node
      obtain ⟨text, rest', inner, rfl, rfl⟩ := names.membersText values members all
      exact ⟨blanks, _, rest', blank, .members inner, rfl, by simp⟩

end RelayStore.Json

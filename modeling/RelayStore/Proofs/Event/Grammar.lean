import RelayStore.Proofs.Event.RoundTrip
import RelayStore.Proofs.Json.Trees

/-!
The JSON texts of an event, by their grammar. Main statement: an event is read from the texts that
present it and from no others.
-/
namespace RelayStore.Event
open Json

/-! The grammar. -/

/-- The texts of the field that has a name. Under any other name a value may be anything. -/
def FieldText (e : Event) : Grammar String := fun name text =>
  match name with
  | "id" => StringText e.id text
  | "pubkey" => StringText e.pubkey text
  | "created_at" => text = Nat.toDigits 10 e.createdAt.toNat
  | "kind" => text = Nat.toDigits 10 e.kind.toNat
  | "tags" => ArrayText (ArrayText StringText) e.tags text
  | "content" => StringText e.content text
  | "sig" => StringText e.sig text
  | _ => AnyText text

/-- A field that need not be written. -/
def Omits (e : Event) (name : String) : Prop :=
  name = "tags" ∧ e.tags = [] ∨ name = "content" ∧ e.content = ""

/-- The texts that present an event: objects with its fields in any order, each written at most
once, and arrays of all fields in their order. -/
inductive Presents : Grammar Event where
  | object {e : Event} {names : List String} {text : List Char}
      (members : ObjectText StringText e.FieldText names text)
      (once : ∀ name ∈ fieldNames, names.count name ≤ 1)
      (complete : ∀ name ∈ fieldNames, name ∈ names ∨ e.Omits name) : Presents e text
  | array {e : Event} {text : List Char} (items : ArrayText e.FieldText fieldNames text) :
      Presents e text

/-! The fields one by one. -/

/-- What the field of a name is read from. -/
def FieldNode (e : Event) (name : String) (v : Node) : Prop :=
  match name with
  | "id" => v.toString? = .ok e.id
  | "pubkey" => v.toString? = .ok e.pubkey
  | "created_at" => v.toNat? UInt32.size "u32" = .ok e.createdAt.toNat
  | "kind" => v.toNat? UInt16.size "u16" = .ok e.kind.toNat
  | "tags" => v.toList? Node.toStrings? = .ok e.tags
  | "content" => v.toString? = .ok e.content
  | "sig" => v.toString? = .ok e.sig
  | _ => v.skip = .ok ()

theorem forall_fieldNames {p : String → Prop} :
    (∀ name ∈ fieldNames, p name) ↔
      p "id" ∧ p "pubkey" ∧ p "created_at" ∧ p "kind" ∧ p "tags" ∧ p "content" ∧ p "sig" := by
  simp [fieldNames]

theorem fieldNode_unknown {e : Event} {name : String} {v : Node} (unknown : name ∉ fieldNames) :
    e.FieldNode name v ↔ v.skip = .ok () := by
  unfold FieldNode
  split
  all_goals first | exact absurd (by decide) unknown | rfl

theorem fieldText_unknown {e : Event} {name : String} {text : List Char}
    (unknown : name ∉ fieldNames) : e.FieldText name text ↔ AnyText text := by
  unfold FieldText
  split
  all_goals first | exact absurd (by decide) unknown | rfl

theorem recognizes_field (e : Event) : Recognizes e.FieldNode e.FieldText := by
  have string (s : String) := reads_string.comap fun _ : Unit => s
  have number (n bound : Nat) (wanted : String) (fits : n < bound) (small : bound ≤ UInt64.size) :
      Recognizes (fun (_ : Unit) v => v.toNat? bound wanted = .ok n)
        fun _ text => text = Nat.toDigits 10 n := by
    simpa [fits] using (reads_nat small wanted).comap fun _ : Unit => n
  have known : ∀ name ∈ fieldNames,
      Recognizes (fun (_ : Unit) v => e.FieldNode name v) fun _ text => e.FieldText name text :=
    forall_fieldNames.2 ⟨string e.id, string e.pubkey,
      number _ _ _ e.createdAt.toNat_lt (by decide), number _ _ _ e.kind.toNat_lt (by decide),
      reads_string.array.array.comap fun _ => e.tags, string e.content, string e.sig⟩
  refine .of_each fun name => ?_
  by_cases field : name ∈ fieldNames
  · exact known name field
  · simpa only [fieldNode_unknown field, fieldText_unknown field] using recognizes_any

/-! The fields that have been read. -/

namespace Draft

variable {e : Event} {d d' : Draft}

/-- What has been read is what the event has. -/
@[mk_iff]
structure Agrees (d : Draft) (e : Event) : Prop where
  id : ∀ s ∈ d.id, s = e.id
  pubkey : ∀ s ∈ d.pubkey, s = e.pubkey
  createdAt : ∀ n ∈ d.createdAt, UInt32.ofNat n = e.createdAt
  kind : ∀ n ∈ d.kind, UInt16.ofNat n = e.kind
  tags : ∀ tags ∈ d.tags, tags = e.tags
  content : ∀ s ∈ d.content, s = e.content
  sig : ∀ s ∈ d.sig, s = e.sig

/-- The field of a name taken from an event. -/
def fill (e : Event) (d : Draft) (name : String) : Draft :=
  match name with
  | "id" => { d with id := some e.id }
  | "pubkey" => { d with pubkey := some e.pubkey }
  | "created_at" => { d with createdAt := some e.createdAt.toNat }
  | "kind" => { d with kind := some e.kind.toNat }
  | "tags" => { d with tags := some e.tags }
  | "content" => { d with content := some e.content }
  | "sig" => { d with sig := some e.sig }
  | _ => d

theorem agrees_empty (e : Event) : Agrees {} e := by
  constructor <;> simp

theorem holds_fill_known : ∀ name ∈ fieldNames, ∀ other ∈ fieldNames,
    (d.fill e name).holds other = (d.holds other || other == name) := by
  simp [forall_fieldNames, fill, holds]

/-- A field that is read into its place. -/
theorem put_iff {α : Type} {read : Result α} {put : α → Draft} {a : α}
    (fits : ∀ b, read = .ok b → ((put b).Agrees e ↔ d.Agrees e ∧ b = a)) :
    ((do return put (← read)) = .ok d' ∧ d'.Agrees e) ↔
      d.Agrees e ∧ read = .ok a ∧ d' = put a := by
  rw [bind_eq_ok]
  constructor
  · rintro ⟨⟨b, found, same⟩, agrees⟩
    obtain rfl := pure_eq_ok.1 same
    obtain ⟨agrees, rfl⟩ := (fits b found).1 agrees
    exact ⟨agrees, found, rfl⟩
  · rintro ⟨agrees, found, rfl⟩
    exact ⟨⟨a, found, rfl⟩, (fits a found).2 ⟨agrees, rfl⟩⟩

/-- A field is read as the event has it exactly if what has been read then agrees with the event. -/
theorem set_iff {v : Node} : ∀ name ∈ fieldNames, d.holds name = false →
    ((d.set .stored name v = .ok d' ∧ d'.Agrees e) ↔
      d.Agrees e ∧ e.FieldNode name v ∧ d' = d.fill e name) := by
  have time (n : Nat) (read : v.toNat? UInt32.size "u32" = .ok n) :
      UInt32.ofNat n = e.createdAt ↔ n = e.createdAt.toNat := by
    have fits := (Node.toNat?_eq_ok.1 read).2
    rw [← UInt32.toNat_inj, UInt32.toNat_ofNat_of_lt' fits]
  have kind (n : Nat) (read : v.toNat? UInt16.size "u16" = .ok n) :
      UInt16.ofNat n = e.kind ↔ n = e.kind.toNat := by
    have fits := (Node.toNat?_eq_ok.1 read).2
    rw [← UInt16.toNat_inj, UInt16.toNat_ofNat_of_lt' fits]
  have absent {α : Type} {o : Option α} (free : o.isSome = false) : o = none := by simpa using free
  refine forall_fieldNames.2 ⟨fun free => put_iff fun s _ => ?_, fun free => put_iff fun s _ => ?_,
    fun free => put_iff fun n read => ?_, fun free => put_iff fun n read => ?_,
    fun free => put_iff fun tags _ => ?_, fun free => put_iff fun s _ => ?_,
    fun free => put_iff fun s _ => ?_⟩
  · have free : d.id = none := absent free
    simp [agrees_iff, free, and_comm, and_left_comm, and_assoc]
  · have free : d.pubkey = none := absent free
    simp [agrees_iff, free, and_comm, and_left_comm, and_assoc]
  · have free : d.createdAt = none := absent free
    simp [agrees_iff, free, time n read, and_comm, and_left_comm, and_assoc]
  · have free : d.kind = none := absent free
    simp [agrees_iff, free, kind n read, and_comm, and_left_comm, and_assoc]
  · have free : d.tags = none := absent free
    simp [agrees_iff, free, and_comm, and_left_comm]
  · have free : d.content = none := absent free
    simp [agrees_iff, free, and_comm, and_left_comm, and_assoc]
  · have free : d.sig = none := absent free
    simp [agrees_iff, free, and_comm, and_left_comm, and_assoc]

/-- A field that is read is held, and the others are left as they were. -/
theorem holds_set {form : Form} {v : Node} : ∀ name ∈ fieldNames, d.set form name v = .ok d' →
    ∀ other ∈ fieldNames, d'.holds other = (d.holds other || other == name) := by
  have put {α : Type} {read : Result α} {put : α → Draft}
      (set : (do return put (← read)) = .ok d') : ∃ a, put a = d' := by
    obtain ⟨a, -, same⟩ := bind_eq_ok.1 set
    exact ⟨a, pure_eq_ok.1 same⟩
  refine forall_fieldNames.2 ⟨?_, ?_, ?_, ?_, ?_, ?_, ?_⟩
  all_goals
    intro set
    obtain ⟨_, rfl⟩ := put set
    simp [forall_fieldNames, holds]

theorem fill_unknown {name : String} (unknown : name ∉ fieldNames) : d.fill e name = d := by
  unfold fill
  split
  all_goals first | exact absurd (by decide) unknown | rfl

theorem holds_fill {name other : String} (field : other ∈ fieldNames) :
    (d.fill e name).holds other = (d.holds other || other == name) := by
  by_cases known : name ∈ fieldNames
  · exact holds_fill_known name known other field
  · have apart : other ≠ name := fun same => known (same ▸ field)
    simp [fill_unknown known, apart]

/-- A member is a field that has not been read yet, or is passed over. -/
theorem member_iff {key : String} {v : Node} :
    (d.member .stored key v = .ok d' ∧ d'.Agrees e) ↔
      d.Agrees e ∧ e.FieldNode key v ∧ (key ∈ fieldNames → d.holds key = false) ∧
        d' = d.fill e key := by
  rw [member]
  split_ifs with field held
  · simp [held, field]
  · have free : d.holds key = false := by simpa using held
    rw [set_iff key field free]
    simp [free]
  · rw [fieldNode_unknown field, fill_unknown field]
    simp only [ofFault, bind_eq_ok, mapError_eq_ok, pure_eq_ok, field, false_implies, true_and]
    constructor
    · rintro ⟨⟨⟨⟩, passed, rfl⟩, agrees⟩
      exact ⟨agrees, passed, rfl⟩
    · rintro ⟨agrees, passed, rfl⟩
      exact ⟨⟨(), passed, rfl⟩, agrees⟩

/-- No field is read twice. -/
def Once (d : Draft) (names : List String) : Prop :=
  ∀ name ∈ fieldNames, names.count name + (d.holds name).toNat ≤ 1

theorem once_cons {key : String} {names : List String} :
    d.Once (key :: names) ↔
      (key ∈ fieldNames → d.holds key = false) ∧ (d.fill e key).Once names := by
  constructor
  · intro once
    refine ⟨fun field => ?_, fun name field => ?_⟩
    · have := once key field
      cases held : d.holds key
      · rfl
      · simp [held] at this
    · have := once name field
      rw [holds_fill field]
      by_cases same : name = key
      · subst same
        cases held : d.holds name <;> simp_all
      · simpa [beq_eq_false_iff_ne.2 same, Ne.symm same] using this
  · rintro ⟨free, once⟩ name field
    have := once name field
    rw [holds_fill field] at this
    by_cases same : name = key
    · subst same
      simp_all
    · simpa [beq_eq_false_iff_ne.2 same, Ne.symm same] using this

/-- An object is read as the event has it exactly if each of its members is, and no field comes
twice. -/
theorem members_iff {nodes : List (Except Fault String × Node)} {stop : Option Flaw} :
    (d.members .stored nodes stop = .ok d' ∧ d'.Agrees e) ↔
      d.Agrees e ∧ stop = none ∧ ∃ names,
        List.Forall₂ (MemberHolds (fun name k => k = .ok name) e.FieldNode) names nodes ∧
        d.Once names ∧ d' = names.foldl (fill e) d := by
  induction nodes generalizing d with
  | nil =>
    have once : d.Once [] := fun name _ => by simpa using Bool.toNat_le (d.holds name)
    cases stop with
    | some => simp [members]
    | none =>
      simp only [members, Except.ok.injEq, List.forall₂_nil_right_iff, exists_eq_left, once,
        List.foldl_nil, true_and]
      constructor
      · rintro ⟨rfl, agrees⟩
        exact ⟨agrees, rfl⟩
      · rintro ⟨agrees, rfl⟩
        exact ⟨rfl, agrees⟩
  | cons node nodes ih =>
    obtain ⟨k, v⟩ := node
    simp only [members, ofFault, bind_eq_ok, mapError_eq_ok]
    constructor
    · rintro ⟨⟨key, rfl, d₁, member, others⟩, last⟩
      obtain ⟨between, rfl, names, all, once, rfl⟩ := ih.1 ⟨others, last⟩
      obtain ⟨first, value, free, rfl⟩ := member_iff.1 ⟨member, between⟩
      exact ⟨first, rfl, key :: names, .cons ⟨rfl, value⟩ all, once_cons.2 ⟨free, once⟩, rfl⟩
    · rintro ⟨first, rfl, _, all, once, rfl⟩
      obtain ⟨key, names, ⟨rfl, value⟩, others, rfl⟩ := List.forall₂_cons_right_iff.1 all
      obtain ⟨free, once'⟩ := once_cons.1 once
      obtain ⟨member, between⟩ := member_iff.2 ⟨first, value, free, rfl⟩
      obtain ⟨rest, last⟩ := ih.2 ⟨between, rfl, names, others, once', rfl⟩
      exact ⟨⟨key, rfl, _, member, rest⟩, last⟩

/-- The items of an array are read for the names in their order, as far as there are items. -/
theorem items_iff {names : List String} (fields : names ⊆ fieldNames) (nodup : names.Nodup)
    (free : ∀ name ∈ names, d.holds name = false) {vs : List Node} {stop : Option Flaw} :
    (d.items .stored names vs stop = .ok d' ∧ d'.Agrees e) ↔
      d.Agrees e ∧ stop = none ∧ ∃ read, read <+: names ∧ List.Forall₂ e.FieldNode read vs ∧
        d' = read.foldl (fill e) d := by
  induction names generalizing d vs with
  | nil =>
    cases vs with
    | cons v vs => simp [items]
    | nil =>
      cases stop with
      | some => simp [items]
      | none =>
        simp only [items, Except.ok.injEq, List.prefix_nil, exists_eq_left,
          List.forall₂_nil_left_iff, List.foldl_nil, true_and]
        constructor
        · rintro ⟨rfl, agrees⟩
          exact ⟨agrees, rfl⟩
        · rintro ⟨agrees, rfl⟩
          exact ⟨rfl, agrees⟩
  | cons name names ih =>
    cases vs with
    | nil =>
      cases stop with
      | some => simp [items]
      | none =>
        simp only [items, Except.ok.injEq, List.forall₂_nil_right_iff, true_and]
        constructor
        · rintro ⟨rfl, agrees⟩
          exact ⟨agrees, [], List.nil_prefix, rfl, rfl⟩
        · rintro ⟨agrees, _, -, rfl, rfl⟩
          exact ⟨rfl, agrees⟩
    | cons v vs =>
      have field : name ∈ fieldNames := fields List.mem_cons_self
      obtain ⟨first, others⟩ := List.forall_mem_cons.1 free
      obtain ⟨fresh, nodup⟩ := List.nodup_cons.1 nodup
      have onward {d₁ : Draft} (set : d.set .stored name v = .ok d₁) :=
        @ih d₁ (fun _ mem => fields (List.mem_cons_of_mem _ mem)) nodup (fun other mem => by
          have apart : other ≠ name := fun same => fresh (same ▸ mem)
          rw [holds_set name field set other (fields (List.mem_cons_of_mem _ mem)),
            others other mem, beq_eq_false_iff_ne.2 apart]
          rfl) vs
      simp only [items, bind_eq_ok]
      constructor
      · rintro ⟨⟨d₁, set, rest⟩, last⟩
        obtain ⟨between, rfl, read, part, all, rfl⟩ := (onward set).1 ⟨rest, last⟩
        obtain ⟨start, value, rfl⟩ := (set_iff name field first).1 ⟨set, between⟩
        exact ⟨start, rfl, name :: read, (List.prefix_cons_inj name).2 part, .cons value all, rfl⟩
      · rintro ⟨start, rfl, _, part, all, rfl⟩
        obtain ⟨other, read, value, rest, rfl⟩ := List.forall₂_cons_right_iff.1 all
        obtain ⟨rfl, part'⟩ := List.cons_prefix_cons.1 part
        obtain ⟨set, between⟩ := (set_iff other field first).2 ⟨start, value, rfl⟩
        obtain ⟨read', last⟩ := (onward set).2 ⟨between, rfl, read, part', rest, rfl⟩
        exact ⟨⟨_, set, read'⟩, last⟩

theorem holds_foldl_fill {names : List String} {name : String} (field : name ∈ fieldNames) :
    (names.foldl (fill e) d).holds name = (d.holds name || decide (name ∈ names)) := by
  induction names generalizing d with
  | nil => simp
  | cons key names ih =>
    rw [List.foldl_cons, ih, holds_fill field, Bool.or_assoc]
    simp [beq_eq_decide, Bool.decide_or]

/-- A draft is complete if it has every field that has to be written. -/
theorem fields_eq_ok {f : Fields} : d.fields .stored = .ok f ↔
    d.id = some f.id ∧ d.pubkey = some f.pubkey ∧ d.createdAt = some f.createdAt ∧
      d.kind = some f.kind ∧ d.tags.getD [] = f.tags ∧ d.content.getD "" = f.content ∧
      d.sig = some f.sig := by
  obtain ⟨id, pubkey, createdAt, kind, tags, content, sig⟩ := d
  obtain ⟨⟩ := f
  cases id with
  | none => simp [Draft.fields]
  | some => cases pubkey with
    | none => simp [Draft.fields]
    | some => cases createdAt with
      | none => simp [Draft.fields]
      | some => cases kind with
        | none => simp [Draft.fields]
        | some => cases sig with
          | none => simp [Draft.fields, Form.stored]
          | some => simp [Draft.fields, Form.stored]

theorem fields_iff :
    (∃ f, d.fields .stored = .ok f ∧ ofFields f = e) ↔
      d.Agrees e ∧ ∀ name ∈ fieldNames, d.holds name = true ∨ e.Omits name := by
  simp only [fields_eq_ok]
  constructor
  · rintro ⟨f, ⟨id, pubkey, createdAt, kind, tags, content, sig⟩, rfl⟩
    constructor
    · constructor <;>
        simp +contextual [ofFields, id, pubkey, createdAt, kind, sig, ← tags, ← content]
    · have omitted {α : Type} (o : Option α) (default : α) :
          o.isSome = true ∨ o.getD default = default := by
        cases o <;> simp
      simp [forall_fieldNames, holds, Omits, ofFields, id, pubkey, createdAt, kind, sig, ← tags,
        ← content, omitted]
  · rintro ⟨agrees, complete⟩
    simp only [holds, Omits, forall_fieldNames, Option.isSome_iff_exists, String.reduceEq,
      false_and, or_self, or_false, true_and, false_or] at complete
    obtain ⟨⟨id, hasId⟩, ⟨pubkey, hasKey⟩, ⟨time, hasTime⟩, ⟨kind, hasKind⟩, tags, content,
      sig⟩ := complete
    obtain ⟨sig, hasSig⟩ : ∃ s, d.sig = some s := Option.isSome_iff_exists.1 sig
    have id := agrees.id _ hasId
    have pubkey := agrees.pubkey _ hasKey
    have sig := agrees.sig _ hasSig
    refine ⟨⟨e.id, e.pubkey, time, kind, e.tags, e.content, e.sig⟩,
      ⟨?_, ?_, hasTime, hasKind, ?_, ?_, ?_⟩, ?_⟩
    · rw [hasId, id]
    · rw [hasKey, pubkey]
    · rcases tags with ⟨tags, has⟩ | none
      · rw [has, ← agrees.tags _ has]
        rfl
      · cases has : d.tags with
        | none => exact none.symm
        | some tags => exact agrees.tags _ has
    · rcases content with ⟨content, has⟩ | none
      · rw [has, ← agrees.content _ has]
        rfl
      · cases has : d.content with
        | none => exact none.symm
        | some content => exact agrees.content _ has
    · rw [hasSig, sig]
    · rw [ofFields, agrees.createdAt _ hasTime, agrees.kind _ hasKind]

end Draft

/-! The main statement. -/

theorem fields_ofNode_iff {e : Event} {v : Node} :
    (∃ f, Fields.ofNode .stored v = .ok f ∧ ofFields f = e) ↔
      (∃ names : List String, ((∀ name ∈ fieldNames, names.count name ≤ 1) ∧
        ∀ name ∈ fieldNames, name ∈ names ∨ e.Omits name) ∧ ∃ nodes, v = .object nodes none ∧
          List.Forall₂ (MemberHolds (fun name k => k = .ok name) e.FieldNode) names nodes) ∨
      ∃ vs, v = .array vs none ∧ List.Forall₂ e.FieldNode fieldNames vs := by
  have once (names : List String) :
      Draft.Once {} names ↔ ∀ name ∈ fieldNames, names.count name ≤ 1 := by
    simp [Draft.Once, forall_fieldNames, Draft.holds]
  have free : ∀ name ∈ fieldNames, Draft.holds {} name = false := by
    simp [forall_fieldNames, Draft.holds]
  have complete (names : List String) : (∀ name ∈ fieldNames,
      (names.foldl (Draft.fill e) {}).holds name = true ∨ e.Omits name) ↔
        ∀ name ∈ fieldNames, name ∈ names ∨ e.Omits name := by
    refine forall₂_congr fun name field => ?_
    rw [Draft.holds_foldl_fill field, free name field]
    simp
  have whole {read : List String} (part : read <+: fieldNames)
      (full : ∀ name ∈ fieldNames, name ∈ read ∨ e.Omits name) : read = fieldNames := by
    have last : "sig" ∈ read := (full "sig" (by decide)).resolve_right (by simp [Omits])
    have short : ∀ n < 7, "sig" ∉ fieldNames.take n := by decide
    rw [List.prefix_iff_eq_take] at part
    rw [part] at last ⊢
    exact List.take_of_length_le (Nat.le_of_not_lt fun less => short _ less last)
  cases v with
  | object nodes stop =>
    simp only [Fields.ofNode, bind_eq_ok, mapError_eq_ok]
    constructor
    · rintro ⟨f, ⟨d, read, made⟩, same⟩
      obtain ⟨agrees, full⟩ := Draft.fields_iff.1 ⟨f, made, same⟩
      obtain ⟨-, rfl, names, all, single, rfl⟩ := Draft.members_iff.1 ⟨read, agrees⟩
      exact .inl ⟨names, ⟨(once names).1 single, (complete names).1 full⟩, nodes, rfl, all⟩
    · rintro (⟨names, ⟨single, full⟩, _, ⟨⟩, all⟩ | ⟨_, ⟨⟩, -⟩)
      obtain ⟨read, agrees⟩ :=
        Draft.members_iff.2 ⟨Draft.agrees_empty e, rfl, names, all, (once names).2 single, rfl⟩
      obtain ⟨f, made, same⟩ := Draft.fields_iff.2 ⟨agrees, (complete names).2 full⟩
      exact ⟨f, ⟨_, read, made⟩, same⟩
  | array vs stop =>
    simp only [Fields.ofNode, bind_eq_ok, mapError_eq_ok]
    have items {d : Draft} :=
      @Draft.items_iff e {} d fieldNames (fun _ mem => mem) (by decide) free vs stop
    constructor
    · rintro ⟨f, ⟨d, read, made⟩, same⟩
      obtain ⟨agrees, full⟩ := Draft.fields_iff.1 ⟨f, made, same⟩
      obtain ⟨-, rfl, names, part, all, rfl⟩ := items.1 ⟨read, agrees⟩
      obtain rfl := whole part ((complete names).1 full)
      exact .inr ⟨vs, rfl, all⟩
    · rintro (⟨_, -, _, ⟨⟩, -⟩ | ⟨_, ⟨⟩, all⟩)
      obtain ⟨read, agrees⟩ := items.2 ⟨Draft.agrees_empty e, rfl, _, List.prefix_rfl, all, rfl⟩
      obtain ⟨f, made, same⟩ :=
        Draft.fields_iff.2 ⟨agrees, (complete fieldNames).2 fun name field => .inl field⟩
      exact ⟨f, ⟨_, read, made⟩, same⟩
  | null | bool | number | string | broken =>
    refine iff_of_false ?_ (by rintro (⟨_, -, _, ⟨⟩, -⟩ | ⟨_, ⟨⟩, -⟩))
    rintro ⟨f, read, -⟩
    simp only [Fields.ofNode, Node.mismatch_ne_ok] at read

theorem presents_iff {e : Event} {text : List Char} :
    Presents e text ↔
      (∃ names : List String, ((∀ name ∈ fieldNames, names.count name ≤ 1) ∧
        ∀ name ∈ fieldNames, name ∈ names ∨ e.Omits name) ∧
          ObjectText StringText e.FieldText names text) ∨
      ArrayText e.FieldText fieldNames text := by
  constructor
  · rintro (⟨members, once, complete⟩ | items)
    · exact .inl ⟨_, ⟨once, complete⟩, members⟩
    · exact .inr items
  · rintro (⟨names, ⟨once, complete⟩, members⟩ | items)
    · exact .object members once complete
    · exact .array items

theorem recognizes_event :
    Recognizes (fun e v => ∃ f, Fields.ofNode .stored v = .ok f ∧ ofFields f = e) Presents := by
  refine .of_each fun e => ?_
  have names : RecognizesNames (fun name k => k = .ok name) StringText :=
    reads_string.congr fun name v => by
      constructor
      · rintro ⟨_, rfl, rfl⟩
        rfl
      · exact fun read => ⟨_, Node.eq_string_of_toString? read, rfl⟩
  have objects := (names.object (recognizes_field e)).related fun (_ : Unit) names =>
    (∀ name ∈ fieldNames, names.count name ≤ 1) ∧ ∀ name ∈ fieldNames, name ∈ names ∨ e.Omits name
  have arrays := (recognizes_field e).array.comap fun _ : Unit => fieldNames
  simpa only [presents_iff, fields_ofNode_iff] using objects.or arrays

/-- An event is read from the texts that present it, if it passes the check, and from no others. One
of these texts is the one that it is written as. -/
theorem ofJson_eq_ok_iff_presents :
    (∀ (e : Event) (text : String),
      ofJson text = .ok e ↔ e.check = .ok () ∧ Padded Presents e text.toList) ∧
    ∀ e : Event, Padded Presents e e.text.toList := by
  have fields (e : Event) (text : String) :
      (∃ f, Fields.ofJson .stored text = .ok f ∧ ofFields f = e) ↔
        Padded Presents e text.toList := by
    rw [← recognizes_event.ofList_iff]
    simp only [Fields.ofJson, Source.decode_eq_ok, Source.ofString]
    constructor
    · rintro ⟨f, ⟨read, after⟩, same⟩
      exact ⟨_, congrArg (Source.mk _) after, f, read, same⟩
    · rintro ⟨v, source, f, read, same⟩
      rw [source]
      exact ⟨f, ⟨read, rfl⟩, same⟩
  constructor
  · intro e text
    rw [← fields, ofJson]
    simp only [bind_eq_ok, mapError_eq_ok, pure_eq_ok]
    constructor
    · rintro ⟨f, read, ⟨⟩, sound, rfl⟩
      exact ⟨sound, f, read, rfl⟩
    · rintro ⟨sound, f, read, rfl⟩
      exact ⟨f, read, (), sound, rfl⟩
  · intro e
    exact (fields e e.text).1
      ⟨_, ofJson_text_fields e.createdAt.toNat_lt e.kind.toNat_lt, ofFields_fields e⟩

end RelayStore.Event

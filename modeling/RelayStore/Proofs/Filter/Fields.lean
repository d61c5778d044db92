import RelayStore.Proofs.Filter.Reader
import RelayStore.Proofs.Json.Trees

/-!
What the members of an object say of a filter. Main statements: a draft that has been read holds
what the members say, and the fields of a filter are what they describe.
-/
namespace RelayStore.Filter
open Json

/-! What an object says. -/

/-- The names of the fields. All other keys are names of tags or say nothing. -/
def fieldNames : List String := ["ids", "authors", "kinds", "since", "until", "limit", "search"]

/-- The value of a key, of a repeated one the last. -/
def lastValue (ms : List (String × Value)) (key : String) : Option Value := ms.reverse.lookup key

/-- A field is left out, or its value is given in JSON. -/
def Gives {α : Type} (given : Option Value) (write : α → Value) (default : α) (a : α) : Prop :=
  given = none ∧ a = default ∨ given = some (write a)

def kindsValue (kinds : List UInt16) : Value := .array (kinds.map fun k => .nat k.toNat)

def numberValue (n : UInt32) : Value := .nat n.toNat

/-- A value that may be `null`. -/
def orNull {α : Type} (write : α → Value) (o : Option α) : Value := o.elim .null write

/-- What the members of an object say of the fields of a filter. -/
structure DescribesFields (ms : List (String × Value)) (f : Filter) : Prop where
  once : ∀ name ∈ fieldNames, (ms.map Prod.fst).count name ≤ 1
  ids : Gives (lastValue ms "ids") .strings [] f.ids
  authors : Gives (lastValue ms "authors") .strings [] f.authors
  kinds : Gives (lastValue ms "kinds") kindsValue [] f.kinds
  since : Gives (lastValue ms "since") (orNull numberValue) none f.since
  upTo : Gives (lastValue ms "until") (orNull numberValue) none f.upTo
  limit : Gives (lastValue ms "limit") (orNull numberValue) none f.limit
  search : ∃ s, Gives (lastValue ms "search") (orNull .string) none s ∧
    f.search = s.filter fun s => !Text.isBlankText s

/-! Values and their trees. -/

theorem forall₂_eq_map {α β : Type} {f : α → β} {as : List α} {bs : List β} :
    List.Forall₂ (fun a b => b = f a) as bs ↔ bs = as.map f := by
  constructor
  · intro all
    induction all with
    | nil => rfl
    | cons first _ ih => rw [first, ih, List.map_cons]
  · rintro rfl
    exact List.forall₂_map_right_iff.2 (List.forall₂_same.2 fun _ _ => rfl)

theorem toList?_iff_node {α : Type} {item : Node → Result α} {write : α → Value}
    (each : ∀ v a, item v = .ok a ↔ v = (write a).node) {v : Node} {as : List α} :
    v.toList? item = .ok as ↔ v = (Value.array (as.map write)).node := by
  rw [Node.toList?_eq_ok, Value.node, itemNodes_eq_map, List.map_map]
  simp only [each, forall₂_eq_map, exists_eq_right]
  rfl

theorem toString?_iff_node {v : Node} {s : String} :
    v.toString? = .ok s ↔ v = (Value.string s).node :=
  ⟨Node.eq_string_of_toString?, fun h => h ▸ rfl⟩

theorem toStrings?_iff_node {v : Node} {ss : List String} :
    v.toStrings? = .ok ss ↔ v = (Value.strings ss).node :=
  toList?_iff_node fun _ _ => toString?_iff_node

theorem toUInt16?_iff_node {v : Node} {n : UInt16} :
    v.toUInt16? = .ok n ↔ v = (Value.nat n.toNat).node := by
  rw [Node.toUInt16?, map_eq_ok]
  simp only [Node.toNat?_eq_ok]
  constructor
  · rintro ⟨m, ⟨rfl, fits⟩, rfl⟩
    rw [UInt16.toNat_ofNat_of_lt' fits]
    rfl
  · rintro rfl
    exact ⟨n.toNat, ⟨rfl, n.toNat_lt⟩, UInt16.ofNat_toNat⟩

theorem toUInt32?_iff_node {v : Node} {n : UInt32} :
    v.toUInt32? = .ok n ↔ v = (numberValue n).node := by
  rw [Node.toUInt32?, map_eq_ok]
  simp only [Node.toNat?_eq_ok]
  constructor
  · rintro ⟨m, ⟨rfl, fits⟩, rfl⟩
    rw [numberValue, UInt32.toNat_ofNat_of_lt' fits]
    rfl
  · rintro rfl
    exact ⟨n.toNat, ⟨rfl, n.toNat_lt⟩, UInt32.ofNat_toNat⟩

theorem toOption?_iff_node {α : Type} {item : Node → Result α} {write : α → Value}
    (each : ∀ v a, item v = .ok a ↔ v = (write a).node) (some : ∀ a, write a ≠ .null) {v : Node}
    {o : Option α} : v.toOption? item = .ok o ↔ v = (orNull write o).node := by
  have apart (a : α) : Node.null ≠ (write a).node := by
    have := some a
    cases written : write a <;> simp_all [Value.node]
  unfold Node.toOption?
  split
  · cases o with
    | none => simp [orNull, Value.node]
    | some a => simp [orNull, apart]
  next other =>
    rw [map_eq_ok]
    simp only [each]
    cases o with
    | none =>
      refine iff_of_false (by simp) fun null => ?_
      exact other null
    | some a => simp [orNull]

/-- A tree that stands for one value stands for no other. -/
theorem node_inj {v w : Value} {depth : Nat} (same : v.node = w.node) (whole : v.node.Whole depth) :
    v = w := by
  have first : v.node.value depth = .ok v := Node.value_eq_ok.2 ⟨rfl, whole⟩
  have second : v.node.value depth = .ok w := Node.value_eq_ok.2 ⟨same, whole⟩
  exact Except.ok.inj (first.symm.trans second)

theorem strings_injective : Function.Injective Value.strings := by
  intro ss ts same
  exact List.map_injective_iff.2 (fun _ _ h => Value.string.inj h) (Value.array.inj same)

theorem numberValue_injective : Function.Injective numberValue := by
  intro n m same
  exact UInt32.toNat_inj.1 (Number.whole.inj (Value.number.inj same))

theorem kindsValue_injective : Function.Injective kindsValue := by
  intro ks ls same
  refine List.map_injective_iff.2 (fun k l h => ?_) (Value.array.inj same)
  exact UInt16.toNat_inj.1 (Number.whole.inj (Value.number.inj h))

theorem orNull_injective {α : Type} {write : α → Value} (injective : Function.Injective write)
    (some : ∀ a, write a ≠ .null) : Function.Injective (orNull write) := by
  rintro (_ | a) (_ | b) same
  · rfl
  · exact absurd same.symm (some b)
  · exact absurd same (some a)
  · exact congrArg Option.some (injective same)

theorem whole_array {vs : List Value} (scalars : ∀ v ∈ vs, v.node.Scalar) (depth : Nat) :
    (Value.array vs).node.Whole (depth + 1) := by
  refine .inr (.inl ⟨_, rfl, fun w mem => ?_⟩)
  rw [itemNodes_eq_map] at mem
  obtain ⟨v, held, rfl⟩ := List.mem_map.1 mem
  exact (scalars v held).whole depth

theorem whole_strings (ss : List String) (depth : Nat) :
    (Value.strings ss).node.Whole (depth + 1) :=
  whole_array (by simp [Value.node, Node.Scalar]) depth

/-! Lists in the order of their keys. -/

section

variable {α : Type} {l : List (String × α)} {key : String} {v : α}

abbrev Sorted (l : List (String × α)) : Prop := (l.map Prod.fst).Pairwise (· < ·)

theorem Sorted.nodup (sorted : Sorted l) : (l.map Prod.fst).Nodup :=
  List.Pairwise.imp (fun less => String.ne_of_lt less) sorted

theorem Sorted.members (sorted : Sorted l) : l.Pairwise fun a b => a.1 < b.1 :=
  List.pairwise_map.1 sorted

theorem mem_setKey (sorted : Sorted l) {m : String × α} :
    m ∈ setKey key v l ↔ m = (key, v) ∨ m.1 ≠ key ∧ m ∈ l := by
  induction l with
  | nil => simp [setKey]
  | cons first rest ih =>
    obtain ⟨k, w⟩ := first
    obtain ⟨before, sorted⟩ := List.pairwise_cons.1 sorted
    have later {m : String × α} (mem : m ∈ rest) : k < m.1 := before _ (List.mem_map_of_mem mem)
    rw [setKey]
    split_ifs with less same
    · have apart {m : String × α} (mem : m ∈ (k, w) :: rest) : m.1 ≠ key := by
        rintro rfl
        rcases List.mem_cons.1 mem with rfl | mem
        · exact String.lt_irrefl _ less
        · exact String.lt_irrefl _ (String.lt_trans less (later mem))
      rw [List.mem_cons]
      exact or_congr_right ⟨fun mem => ⟨apart mem, mem⟩, And.right⟩
    · subst same
      have apart {m : String × α} (mem : m ∈ rest) : m.1 ≠ key :=
        fun same => String.lt_irrefl _ (same ▸ later mem)
      simp only [List.mem_cons]
      constructor
      · rintro (rfl | mem)
        · exact .inl rfl
        · exact .inr ⟨apart mem, .inr mem⟩
      · rintro (rfl | ⟨other, rfl | mem⟩)
        · exact .inl rfl
        · exact absurd rfl other
        · exact .inr mem
    · simp only [List.mem_cons, ih sorted]
      constructor
      · rintro (rfl | rfl | ⟨other, mem⟩)
        · exact .inr ⟨Ne.symm same, .inl rfl⟩
        · exact .inl rfl
        · exact .inr ⟨other, .inr mem⟩
      · rintro (rfl | ⟨other, rfl | mem⟩)
        · exact .inr (.inl rfl)
        · exact .inl rfl
        · exact .inr (.inr ⟨other, mem⟩)

theorem sorted_setKey (sorted : Sorted l) : Sorted (setKey key v l) := by
  induction l with
  | nil => exact List.pairwise_singleton _ _
  | cons first rest ih =>
    obtain ⟨k, w⟩ := first
    obtain ⟨before, others⟩ := List.pairwise_cons.1 sorted
    rw [setKey]
    split_ifs with less same
    · refine List.pairwise_cons.2 ⟨fun name mem => ?_, sorted⟩
      rcases List.mem_cons.1 mem with rfl | mem
      · exact less
      · exact String.lt_trans less (before name mem)
    · subst same
      exact sorted
    · refine List.pairwise_cons.2 ⟨fun name mem => ?_, ih others⟩
      obtain ⟨m, held, rfl⟩ := List.mem_map.1 mem
      rcases (mem_setKey others).1 held with rfl | ⟨-, held⟩
      · exact Decidable.byContradiction fun greater =>
          same (String.le_antisymm (String.not_lt.1 greater) (String.not_lt.1 less))
      · exact before _ (List.mem_map_of_mem held)

/-- Sorted lists with the same members are the same. -/
theorem Sorted.ext {l' : List (String × α)} (sorted : Sorted l) (sorted' : Sorted l')
    (same : ∀ m, m ∈ l ↔ m ∈ l') : l = l' := by
  have perm : l.Perm l' :=
    (List.perm_ext_iff_of_nodup sorted.nodup.of_map sorted'.nodup.of_map).2 same
  exact perm.eq_of_pairwise (fun a b _ _ less more => absurd more (String.lt_asymm less))
    sorted.members sorted'.members

end

/-! The value of a key. -/

section

variable {ms : List (String × Value)} {key name : String} {v : Value}

theorem lastValue_concat :
    lastValue (ms ++ [(key, v)]) name = if name = key then some v else lastValue ms name := by
  simp only [lastValue, List.reverse_append, List.reverse_cons, List.reverse_nil, List.nil_append,
    List.singleton_append, List.lookup_cons]
  by_cases same : name = key
  · simp [same]
  · simp [same, beq_eq_false_iff_ne.2 same]

theorem lastValue_eq_none : lastValue ms key = none ↔ key ∉ ms.map Prod.fst := by
  induction ms using List.reverseRecOn with
  | nil => simp [lastValue]
  | append_singleton ms m ih =>
    obtain ⟨k, v⟩ := m
    rw [lastValue_concat]
    split_ifs with same
    · simp [same]
    · simp [ih, same]

theorem lastValue_append {ms' : List (String × Value)} (absent : key ∉ ms'.map Prod.fst) :
    lastValue (ms ++ ms') key = lastValue ms key := by
  induction ms' using List.reverseRecOn with
  | nil => rw [List.append_nil]
  | append_singleton ms' m ih =>
    obtain ⟨k, v⟩ := m
    simp only [List.map_append, List.map_cons, List.map_nil, List.mem_append, List.mem_singleton,
      not_or] at absent
    rw [← List.append_assoc, lastValue_concat, if_neg absent.2, ih absent.1]

theorem lastValue_eq_some (distinct : (ms.map Prod.fst).Nodup) :
    lastValue ms key = some v ↔ (key, v) ∈ ms := by
  induction ms using List.reverseRecOn with
  | nil => simp [lastValue]
  | append_singleton ms m ih =>
    obtain ⟨k, w⟩ := m
    rw [List.map_append, List.nodup_append] at distinct
    obtain ⟨distinct, -, apart⟩ := distinct
    rw [lastValue_concat]
    split_ifs with same
    · subst same
      have absent : (key, v) ∉ ms := fun mem =>
        apart key (List.mem_map_of_mem mem) key (by simp) rfl
      simp [absent, eq_comm]
    · simp [ih distinct, same]

end

/-! The fields one by one. -/

namespace Draft

variable {d d' : Draft} {ms : List (String × Value)}

/-- The value of a field that has been read. -/
def field (d : Draft) (name : String) : Option Value :=
  match name with
  | "ids" => d.ids.map .strings
  | "authors" => d.authors.map .strings
  | "kinds" => d.kinds.map kindsValue
  | "since" => d.since.map (orNull numberValue)
  | "until" => d.upTo.map (orNull numberValue)
  | "limit" => d.limit.map (orNull numberValue)
  | "search" => d.search.map (orNull .string)
  | _ => none

theorem forall_fieldNames {p : String → Prop} :
    (∀ name ∈ fieldNames, p name) ↔
      p "ids" ∧ p "authors" ∧ p "kinds" ∧ p "since" ∧ p "until" ∧ p "limit" ∧ p "search" := by
  simp [fieldNames]

theorem orNull_number_injective : Function.Injective (orNull numberValue) :=
  orNull_injective numberValue_injective fun _ => Value.noConfusion

theorem orNull_string_injective : Function.Injective (orNull Value.string) :=
  orNull_injective (fun _ _ => Value.string.inj) fun _ => Value.noConfusion

theorem ext_field (fields : ∀ name ∈ fieldNames, d.field name = d'.field name)
    (others : d.others = d'.others) : d = d' := by
  obtain ⟨ids, authors, kinds, since, upTo, limit, search⟩ := forall_fieldNames.1 fields
  have ids := Option.map_injective strings_injective ids
  have authors := Option.map_injective strings_injective authors
  have kinds := Option.map_injective kindsValue_injective kinds
  have since := Option.map_injective orNull_number_injective since
  have upTo := Option.map_injective orNull_number_injective upTo
  have limit := Option.map_injective orNull_number_injective limit
  have search := Option.map_injective orNull_string_injective search
  cases d
  cases d'
  simp_all only

theorem whole_field : ∀ name ∈ fieldNames, ∀ v, d.field name = some v →
    v.node.Whole (maxDepth - 1) := by
  have strings (ss : List String) : (Value.strings ss).node.Whole (maxDepth - 1) :=
    whole_strings ss _
  have kinds (ks : List UInt16) : (kindsValue ks).node.Whole (maxDepth - 1) :=
    whole_array (by simp [Value.nat, Value.node, Node.Scalar]) _
  have number (o : Option UInt32) : (orNull numberValue o).node.Whole (maxDepth - 1) := by
    cases o <;> exact Node.Scalar.whole (by exact trivial) _
  have string (o : Option String) : (orNull Value.string o).node.Whole (maxDepth - 1) := by
    cases o <;> exact Node.Scalar.whole (by exact trivial) _
  have each {α : Type} {o : Option α} {write : α → Value}
      (whole : ∀ a, (write a).node.Whole (maxDepth - 1)) (v : Value)
      (given : o.map write = some v) : v.node.Whole (maxDepth - 1) := by
    obtain ⟨a, -, rfl⟩ := Option.map_eq_some_iff.1 given
    exact whole a
  exact forall_fieldNames.2 ⟨each strings, each strings, each kinds, each number, each number,
    each number, each string⟩

theorem once_eq_ok {α : Type} {name : String} {held o : Option α} {value : Result α} :
    once name held value = .ok o ↔ held = none ∧ ∃ a, value = .ok a ∧ o = some a := by
  unfold once
  cases held with
  | some => simp
  | none =>
    simp only [Option.isSome_none, Bool.false_eq_true, if_false, true_and]
    rw [map_eq_ok]
    simp only [eq_comm]

/-- A field is read once, and from the tree of its value. What is read then is the one draft that
has the value in its place and is otherwise the same. -/
theorem put_iff {α : Type} {item : Node → Result α} {write : α → Value} {v : Node} {key : String}
    (each : ∀ v a, item v = .ok a ↔ v = (write a).node) {held : Option α} {put : Option α → Draft}
    (has : ∀ a, (put (some a)).field key = some (write a))
    (apart : ∀ a, ∀ name ∈ fieldNames, name ≠ key → (put (some a)).field name = d.field name)
    (rest : ∀ a, (put (some a)).others = d.others)
    (writes : ∀ value, d'.field key = some value → ∃ a, value = write a) :
    (do return put (← once key held (item v))) = .ok d' ↔
      held.map write = none ∧ ∃ value, v = value.node ∧ d'.field key = some value ∧
        (∀ name ∈ fieldNames, name ≠ key → d'.field name = d.field name) ∧
        d'.others = d.others := by
  simp only [bind_eq_ok, pure_eq_ok, once_eq_ok, each, Option.map_eq_none_iff]
  constructor
  · rintro ⟨_, ⟨none, a, rfl, rfl⟩, rfl⟩
    exact ⟨none, _, rfl, has a, apart a, rest a⟩
  · rintro ⟨none, value, rfl, given, others, same⟩
    obtain ⟨a, rfl⟩ := writes value given
    refine ⟨some a, ⟨none, a, rfl, rfl⟩, ?_⟩
    refine ext_field (fun name field => ?_) ((rest a).trans same.symm)
    by_cases this : name = key
    · rw [this, given, has]
    · rw [others name field this, apart a name field this]

theorem read_known {v : Node} : ∀ key ∈ fieldNames,
    (d.read key v = .ok d' ↔ d.field key = none ∧ ∃ value, v = value.node ∧
      d'.field key = some value ∧
      (∀ name ∈ fieldNames, name ≠ key → d'.field name = d.field name) ∧ d'.others = d.others) := by
  have strings (v : Node) (ss : List String) := @toStrings?_iff_node v ss
  have kinds (v : Node) (ks : List UInt16) : v.toList? Node.toUInt16? = .ok ks ↔
      v = (kindsValue ks).node := toList?_iff_node fun _ _ => toUInt16?_iff_node
  have number (v : Node) (o : Option UInt32) : v.toOption? Node.toUInt32? = .ok o ↔
      v = (orNull numberValue o).node :=
    toOption?_iff_node (fun _ _ => toUInt32?_iff_node) fun _ => Value.noConfusion
  have string (v : Node) (o : Option String) : v.toOption? Node.toString? = .ok o ↔
      v = (orNull Value.string o).node :=
    toOption?_iff_node (fun _ _ => toString?_iff_node) fun _ => Value.noConfusion
  have written {α : Type} {o : Option α} {write : α → Value} (value : Value)
      (given : o.map write = some value) : ∃ a, value = write a := by
    obtain ⟨a, -, rfl⟩ := Option.map_eq_some_iff.1 given
    exact ⟨a, rfl⟩
  refine forall_fieldNames.2 ⟨?_, ?_, ?_, ?_, ?_, ?_, ?_⟩
  all_goals simp only [read, String.reduceEq, reduceIte]
  · refine put_iff strings ?_ ?_ ?_ written <;> simp [forall_fieldNames, field]
  · refine put_iff strings ?_ ?_ ?_ written <;> simp [forall_fieldNames, field]
  · refine put_iff kinds ?_ ?_ ?_ written <;> simp [forall_fieldNames, field]
  · refine put_iff number ?_ ?_ ?_ written <;> simp [forall_fieldNames, field]
  · refine put_iff number ?_ ?_ ?_ written <;> simp [forall_fieldNames, field]
  · refine put_iff number ?_ ?_ ?_ written <;> simp [forall_fieldNames, field]
  · refine put_iff string ?_ ?_ ?_ written <;> simp [forall_fieldNames, field]

/-- A field may be put in a draft from another one. -/
theorem exists_put (d d' : Draft) : ∀ key ∈ fieldNames, ∃ d₁ : Draft,
    d₁.field key = d'.field key ∧
      (∀ name ∈ fieldNames, name ≠ key → d₁.field name = d.field name) ∧ d₁.others = d.others := by
  refine forall_fieldNames.2 ⟨⟨{ d with ids := d'.ids }, ?_⟩,
    ⟨{ d with authors := d'.authors }, ?_⟩, ⟨{ d with kinds := d'.kinds }, ?_⟩,
    ⟨{ d with since := d'.since }, ?_⟩,
    ⟨{ d with upTo := d'.upTo }, ?_⟩, ⟨{ d with limit := d'.limit }, ?_⟩,
    ⟨{ d with search := d'.search }, ?_⟩⟩
  all_goals simp [forall_fieldNames, field]

theorem read_unknown {key : String} {v : Node} (unknown : key ∉ fieldNames) :
    d.read key v = .ok d' ↔ ∃ value : Value, v = value.node ∧ v.Whole (maxDepth - 1) ∧
      d' = { d with others := setKey key value d.others } := by
  simp only [fieldNames, List.mem_cons, List.not_mem_nil, or_false, not_or] at unknown
  obtain ⟨ids, authors, kinds, since, upTo, limit, search⟩ := unknown
  simp only [read, ids, authors, kinds, since, upTo, limit, search, if_false, ofFault, bind_eq_ok,
    mapError_eq_ok, pure_eq_ok, Node.value_eq_ok, and_assoc]
  exact exists_congr fun value => and_congr_right fun _ => and_congr_right fun _ => eq_comm

/-! All members. -/

/-- What has been read of the members so far. -/
structure Holds (ms : List (String × Value)) (d : Draft) : Prop where
  once : ∀ name ∈ fieldNames, (ms.map Prod.fst).count name ≤ 1
  fields : ∀ name ∈ fieldNames, lastValue ms name = d.field name
  others : ∀ key v, (key, v) ∈ d.others ↔ key ∉ fieldNames ∧ lastValue ms key = some v
  sorted : Sorted d.others

theorem Holds.start : Holds [] {} where
  once := by simp
  fields := forall_fieldNames.2 (by simp [lastValue, field])
  others := by simp [lastValue]
  sorted := List.Pairwise.nil

theorem Holds.unique (holds : Holds ms d) (holds' : Holds ms d') : d = d' :=
  ext_field (fun name field => (holds.fields name field).symm.trans (holds'.fields name field))
    (holds.sorted.ext holds'.sorted fun _ => (holds.others _ _).trans (holds'.others _ _).symm)

/-- A member that can be read is a value, and what is held then says of the members up to it. -/
theorem Holds.read (holds : Holds ms d) {key : String} {v : Node} (read : d.read key v = .ok d') :
    ∃ value : Value, v = value.node ∧ v.Whole (maxDepth - 1) ∧ Holds (ms ++ [(key, value)]) d' := by
  by_cases known : key ∈ fieldNames
  · obtain ⟨free, value, rfl, given, apart, others⟩ := (read_known key known).1 read
    refine ⟨value, rfl, whole_field key known _ given, ?_, ?_, ?_, others ▸ holds.sorted⟩
    · intro name field
      rw [List.map_append, List.count_append]
      by_cases same : name = key
      · subst same
        have absent := lastValue_eq_none.1 ((holds.fields name field).trans free)
        simp [List.count_eq_zero.2 absent]
      · simpa [Ne.symm same] using holds.once name field
    · intro name field
      rw [lastValue_concat]
      split_ifs with same
      · rw [same, given]
      · rw [apart name field same, holds.fields name field]
    · intro name w
      rw [others, holds.others, lastValue_concat]
      refine and_congr_right fun unknown => ?_
      rw [if_neg fun same : name = key => unknown (same ▸ known)]
  · obtain ⟨value, rfl, whole, rfl⟩ := (read_unknown known).1 read
    have apart {name : String} (field : name ∈ fieldNames) : name ≠ key :=
      fun same => known (same ▸ field)
    refine ⟨value, rfl, whole, ?_, ?_, ?_, sorted_setKey holds.sorted⟩
    · intro name field
      simpa [Ne.symm (apart field)] using holds.once name field
    · intro name field
      rw [lastValue_concat, if_neg (apart field), holds.fields name field]
      rfl
    · intro name w
      rw [mem_setKey holds.sorted, holds.others, lastValue_concat]
      by_cases same : name = key
      · subst same
        simp [known, eq_comm]
      · simp [same]

/-- A member can be read if it is what a draft of more members holds. -/
theorem Holds.readable (holds : Holds ms d) {key : String} {value : Value}
    {others : List (String × Value)} (holds' : Holds (ms ++ (key, value) :: others) d')
    (whole : value.node.Whole (maxDepth - 1)) : ∃ d₁, d.read key value.node = .ok d₁ := by
  by_cases known : key ∈ fieldNames
  · have single := holds'.once key known
    simp only [List.map_append, List.map_cons, List.count_append, List.count_cons_self] at single
    have before : key ∉ ms.map Prod.fst := List.count_eq_zero.1 (by omega)
    have behind : key ∉ others.map Prod.fst := List.count_eq_zero.1 (by omega)
    have given : d'.field key = some value := by
      rw [← holds'.fields key known, List.append_cons, lastValue_append behind, lastValue_concat,
        if_pos rfl]
    have free : d.field key = none :=
      (holds.fields key known).symm.trans (lastValue_eq_none.2 before)
    obtain ⟨d₁, has, apart, rest⟩ := exists_put d d' key known
    exact ⟨d₁, (read_known key known).2 ⟨free, value, rfl, has.trans given, apart, rest⟩⟩
  · exact ⟨_, (read_unknown known).2 ⟨value, rfl, whole, rfl⟩⟩

theorem readMembers_iff {nodes : List (Except Fault String × Node)} {stop : Option Flaw}
    (holds : Holds ms d) :
    d.readMembers nodes stop = .ok d' ↔ stop = none ∧ ∃ ms', nodes = Json.memberNodes ms' ∧
      (∀ n ∈ nodes, n.2.Whole (maxDepth - 1)) ∧ Holds (ms ++ ms') d' := by
  simp only [memberNodes_eq_map]
  induction nodes generalizing ms d with
  | nil =>
    cases stop with
    | some => simp [readMembers]
    | none =>
      simp only [readMembers, Except.ok.injEq, true_and]
      constructor
      · rintro rfl
        exact ⟨[], rfl, by simp, by simpa using holds⟩
      · rintro ⟨ms', none, -, holds'⟩
        obtain rfl := List.map_eq_nil_iff.1 none.symm
        exact holds.unique (by simpa using holds')
  | cons node nodes ih =>
    obtain ⟨k, v⟩ := node
    simp only [readMembers, ofFault, bind_eq_ok, mapError_eq_ok]
    constructor
    · rintro ⟨key, rfl, d₁, read, rest⟩
      obtain ⟨value, rfl, whole, holds₁⟩ := holds.read read
      obtain ⟨rfl, ms', rfl, all, holds'⟩ := (ih holds₁).1 rest
      exact ⟨rfl, (key, value) :: ms', rfl, List.forall_mem_cons.2 ⟨whole, all⟩,
        by simpa using holds'⟩
    · rintro ⟨rfl, ms', same, all, holds'⟩
      obtain ⟨⟨key, value⟩, ms', rfl, first, rfl⟩ := List.map_eq_cons_iff.1 same.symm
      cases first
      obtain ⟨whole, all⟩ := List.forall_mem_cons.1 all
      obtain ⟨d₁, read⟩ := holds.readable holds' whole
      obtain ⟨value', same, -, holds₁⟩ := holds.read read
      obtain rfl := node_inj same whole
      exact ⟨key, rfl, d₁, read, (ih holds₁).2 ⟨rfl, ms', rfl, all, by simpa using holds'⟩⟩

/-! What becomes of the fields. -/

theorem gives_iff {α : Type} {write : α → Value} (injective : Function.Injective write)
    {given : Option Value} {held : Option α} (same : given = held.map write) {default a : α} :
    Gives given write default a ↔ a = held.getD default := by
  subst same
  cases held with
  | none => simp [Gives]
  | some b => simp [Gives, injective.eq_iff, eq_comm]

theorem finish_eq_ok {f : Filter} : d.finish = .ok f ↔ addKeys {} d.others = .ok f.tags ∧
    f.ids = d.ids.getD [] ∧ f.authors = d.authors.getD [] ∧ f.kinds = d.kinds.getD [] ∧
    f.since = d.since.getD none ∧ f.upTo = d.upTo.getD none ∧ f.limit = d.limit.getD none ∧
    f.search = (d.search.getD none).filter fun s => !Text.isBlankText s := by
  simp only [finish, bind_eq_ok, pure_eq_ok]
  constructor
  · rintro ⟨tags, added, rfl⟩
    exact ⟨added, rfl, rfl, rfl, rfl, rfl, rfl, rfl⟩
  · rintro ⟨added, ids, authors, kinds, since, upTo, limit, search⟩
    refine ⟨f.tags, added, ?_⟩
    cases f
    simp_all only

theorem Holds.describes (holds : Holds ms d) {f : Filter} :
    d.finish = .ok f ↔ addKeys {} d.others = .ok f.tags ∧ DescribesFields ms f := by
  obtain ⟨ids, authors, kinds, since, upTo, limit, search⟩ := forall_fieldNames.1 holds.fields
  have ids' := @gives_iff _ _ strings_injective _ _ ids [] f.ids
  have authors' := @gives_iff _ _ strings_injective _ _ authors [] f.authors
  have kinds' := @gives_iff _ _ kindsValue_injective _ _ kinds [] f.kinds
  have since' := @gives_iff _ _ orNull_number_injective _ _ since none f.since
  have upTo' := @gives_iff _ _ orNull_number_injective _ _ upTo none f.upTo
  have limit' := @gives_iff _ _ orNull_number_injective _ _ limit none f.limit
  have search' (s : Option String) := @gives_iff _ _ orNull_string_injective _ _ search none s
  rw [finish_eq_ok, ← ids', ← authors', ← kinds', ← since', ← upTo', ← limit']
  refine and_congr_right fun _ => ?_
  constructor
  · rintro ⟨ids, authors, kinds, since, upTo, limit, search⟩
    exact ⟨holds.once, ids, authors, kinds, since, upTo, limit, _, (search' _).2 rfl, search⟩
  · rintro ⟨-, ids, authors, kinds, since, upTo, limit, s, given, search⟩
    exact ⟨ids, authors, kinds, since, upTo, limit, (search' s).1 given ▸ search⟩

end Draft

end RelayStore.Filter

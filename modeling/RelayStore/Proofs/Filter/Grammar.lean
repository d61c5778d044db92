import RelayStore.Proofs.Filter.Fields

/-!
The JSON texts of a filter. Main statement: a filter is read from the texts of the objects that
describe it and from no others, and the order of their keys does not matter.
-/
namespace RelayStore.Filter
open Json

/-- What the members of an object say of the tags of a filter. Every key that starts with `#` has a
name behind it and gives strings. Names are in the order of their characters, which is that of their
bytes. -/
structure DescribesTags (ms : List (String × Value)) (c : TagConstraints) : Prop where
  named : lastValue ms "#" = none
  strings : ∀ name v, lastValue ms ("#" ++ name) = some v → ∃ values, v = .strings values
  known : ∀ n : TagName, Gives (lastValue ms ("#" ++ n.text)) .strings [] (c.get n)
  other : ∀ name values, (name, values) ∈ c.other ↔
    TagName.ofText? name = none ∧ values ≠ [] ∧ lastValue ms ("#" ++ name) = some (.strings values)
  sorted : (c.other.map Prod.fst).Pairwise (· < ·)
  few : c.other.length ≤ maxOtherTags

/-! Tags. -/

section

variable {ms done rest : List (String × Value)} {c c' : TagConstraints} {key name : String}
  {v : Value} {values : List String}

theorem toStrings?_iff : v.toStrings? = .ok values ↔ v = .strings values := by
  have items (vs : List Value) (values : List String) :
      vs.mapM Value.toString? = .ok values ↔ vs = values.map .string := by
    induction vs generalizing values with
    | nil => cases values <;> simp
    | cons v vs ih =>
      simp only [List.mapM_cons, bind_eq_ok, pure_eq_ok, ih]
      constructor
      · rintro ⟨s, first, ss, rfl, rfl⟩
        cases v <;> cases first
        rfl
      · intro same
        obtain ⟨s, ss, rfl, rfl, rfl⟩ := List.map_eq_cons_iff.1 same.symm
        exact ⟨s, rfl, ss, rfl, rfl⟩
  cases v with
  | array vs => simp [Value.toStrings?, Value.strings, items]
  | null | bool | number | string | object => simp [Value.toStrings?, Value.strings]

theorem toList_hash (name : String) : ("#" ++ name).toList = '#' :: name.toList := by
  rw [String.toList_append]
  rfl

theorem hash_inj {a b : String} : "#" ++ a = "#" ++ b ↔ a = b := by
  rw [← String.toList_inj, ← String.toList_inj, toList_hash, toList_hash, List.cons_inj_right]

theorem hash_lt {a b : String} : "#" ++ a < "#" ++ b ↔ a < b := by
  show ("#" ++ a).toList < ("#" ++ b).toList ↔ a.toList < b.toList
  rw [toList_hash, toList_hash, List.cons_lt_cons_iff]
  simp

theorem hash_unknown (name : String) : "#" ++ name ∉ fieldNames := by
  have first : ∀ field ∈ fieldNames, field.toList.head? ≠ some '#' := by decide
  intro field
  have := first _ field
  rw [toList_hash] at this
  exact this rfl

theorem hash_or (key : String) : (∃ name, key = "#" ++ name) ∨ ∀ name, key ≠ "#" ++ name := by
  by_cases h : ∃ name, key = "#" ++ name
  · exact .inl h
  · exact .inr fun name same => h ⟨name, same⟩

theorem addKey_hash : addKey c ("#" ++ name) v = .ok c' ↔
    ∃ values, v = .strings values ∧ c.insert name values = .ok c' := by
  unfold addKey
  rw [toList_hash]
  simp only [bind_eq_ok, mapError_eq_ok, toStrings?_iff, String.ofList_toList]

theorem addKey_other (plain : ∀ name, key ≠ "#" ++ name) : addKey c key v = .ok c := by
  unfold addKey
  split
  next name spelled =>
    refine absurd ?_ (plain (String.ofList name))
    rw [← String.toList_inj, toList_hash, spelled, String.toList_ofList]
  · rfl

theorem DescribesTags.start : DescribesTags [] {} where
  named := rfl
  strings := by simp [lastValue]
  known n := .inl ⟨rfl, by cases n <;> rfl⟩
  other := by simp [lastValue]
  sorted := List.Pairwise.nil
  few := Nat.zero_le _

theorem DescribesTags.unique (describes : DescribesTags ms c) (describes' : DescribesTags ms c') :
    c = c' := by
  have other : c.other = c'.other := by
    refine Sorted.ext describes.sorted describes'.sorted fun m => ?_
    exact (describes.other m.1 m.2).trans (describes'.other m.1 m.2).symm
  have known (n : TagName) : c.get n = c'.get n := by
    rcases describes.known n with ⟨none, left⟩ | left
    · rcases describes'.known n with ⟨-, right⟩ | right
      · rw [left, right]
      · cases none.symm.trans right
    · rcases describes'.known n with ⟨none, -⟩ | right
      · cases none.symm.trans left
      · exact strings_injective (Option.some.inj (left.symm.trans right))
  obtain ⟨⟨_, _, _, _, _, _, _⟩, _⟩ := c
  obtain ⟨⟨_, _, _, _, _, _, _⟩, _⟩ := c'
  have e := known .e
  have p := known .p
  have a := known .a
  have t := known .t
  have d := known .d
  have g := known .g
  have r := known .r
  simp only [TagConstraints.get, PerTag.get] at e p a t d g r other
  simp only [e, p, a, t, d, g, r, other]

/-- Only what the keys of tags say matters. -/
theorem DescribesTags.congr (describes : DescribesTags ms c)
    (same : ∀ name, lastValue rest ("#" ++ name) = lastValue ms ("#" ++ name)) :
    DescribesTags rest c where
  named := by
    have empty := same ""
    rw [String.append_empty] at empty
    exact empty.trans describes.named
  strings name v given := describes.strings name v ((same name).symm.trans given)
  known n := by
    rw [same]
    exact describes.known n
  other name values := by
    rw [same]
    exact describes.other name values
  sorted := describes.sorted
  few := describes.few

/-- The values of a new name, behind those of all others. -/
theorem insert_fresh (free : ∀ n : TagName, n.text = name → c.get n = [])
    (below : ∀ m ∈ c.other.map Prod.fst, m < name) (sorted : Sorted c.other)
    (few : c.other.length ≤ maxOtherTags) (accepted : c.insert name values = .ok c') :
    (∀ n : TagName, c'.get n = if n.text = name then values else c.get n) ∧
      (∀ m vs, (m, vs) ∈ c'.other ↔
        (m = name ∧ vs = values ∧ TagName.ofText? name = none ∧ values ≠ []) ∨ (m, vs) ∈ c.other) ∧
      Sorted c'.other ∧ c'.other.length ≤ maxOtherTags := by
  obtain ⟨-, ⟨rfl, rfl⟩ | ⟨n, rfl, rfl⟩ | ⟨-, -, held, -⟩ | ⟨some, unknown, -, room, rfl⟩⟩ :=
    TagConstraints.insert_eq_ok accepted
  · refine ⟨fun n => ?_, by simp, sorted, few⟩
    split_ifs with same
    · exact free n same
    · rfl
  · refine ⟨fun m => ?_, fun m vs => by simp [TagConstraints.addKnown, TagName.ofText?_text],
      sorted, few⟩
    have text_inj : m.text = n.text ↔ n = m := by cases m <;> cases n <;> decide
    simp only [TagConstraints.addKnown, TagConstraints.get, PerTag.get_set, text_inj]
    split_ifs with same
    · have none : c.known.get n = [] := free n rfl
      rw [none, List.nil_append]
    · rfl
  · have absent : c.hasOther name = false :=
      TagConstraints.hasOther_eq_false.2 fun mem => String.lt_irrefl _ (below name mem)
    cases absent.symm.trans held
  · refine ⟨fun n => ?_, fun m vs => ?_, ?_, ?_⟩
    · rw [if_neg]
      · rfl
      · rintro rfl
        cases (TagName.ofText?_text n).symm.trans unknown
    · simp [unknown, some, or_comm]
    · show ((c.other ++ [(name, values)]).map Prod.fst).Pairwise (· < ·)
      rw [List.map_append]
      refine List.pairwise_append.2 ⟨sorted, List.pairwise_singleton _ _, ?_⟩
      intro m mem k single
      obtain rfl := List.mem_singleton.1 single
      exact below m mem
    · rw [List.length_append]
      exact room

/-- What a key adds that comes behind all others. -/
theorem DescribesTags.add (describes : DescribesTags done c)
    (behind : ∀ k ∈ done.map Prod.fst, k < key) (added : addKey c key v = .ok c') :
    DescribesTags (done ++ [(key, v)]) c' := by
  rcases hash_or key with ⟨name, rfl⟩ | plain
  · obtain ⟨values, rfl, accepted⟩ := addKey_hash.1 added
    have absent : lastValue done ("#" ++ name) = none :=
      lastValue_eq_none.2 fun mem => String.lt_irrefl _ (behind _ mem)
    have free (n : TagName) (same : n.text = name) : c.get n = [] := by
      subst same
      exact ((describes.known n).resolve_right (absent ▸ nofun)).2
    have below (m : String) (mem : m ∈ c.other.map Prod.fst) : m < name := by
      obtain ⟨⟨m, vs⟩, held, rfl⟩ := List.mem_map.1 mem
      have given := ((describes.other m vs).1 held).2.2
      refine hash_lt.1 (behind _ (Decidable.byContradiction fun apart => ?_))
      cases (lastValue_eq_none.2 apart).symm.trans given
    obtain ⟨get, other, sorted, few⟩ :=
      insert_fresh free below describes.sorted describes.few accepted
    have named : name ≠ "" := (TagConstraints.insert_eq_ok accepted).1
    have value (m : String) : lastValue (done ++ [("#" ++ name, .strings values)]) ("#" ++ m) =
        if m = name then some (.strings values) else lastValue done ("#" ++ m) := by
      simp only [lastValue_concat, hash_inj]
    refine ⟨?_, fun m v given => ?_, fun n => ?_, fun m vs => ?_, sorted, few⟩
    · have empty := value ""
      rw [String.append_empty, if_neg (Ne.symm named)] at empty
      exact empty.trans describes.named
    · rw [value] at given
      split_ifs at given
      · exact ⟨values, (Option.some.inj given).symm⟩
      · exact describes.strings m v given
    · rw [value, get]
      split_ifs
      · exact .inr rfl
      · exact describes.known n
    · rw [value, other]
      split_ifs with same
      · subst same
        have fresh : (m, vs) ∉ c.other := fun mem =>
          String.lt_irrefl _ (below m (List.mem_map_of_mem mem))
        simp only [fresh, or_false, true_and, Option.some.injEq, strings_injective.eq_iff]
        constructor
        · rintro ⟨rfl, unknown, some⟩
          exact ⟨unknown, some, rfl⟩
        · rintro ⟨unknown, some, rfl⟩
          exact ⟨rfl, unknown, some⟩
      · simp only [same, false_and, false_or, describes.other]
  · obtain rfl := Except.ok.inj ((addKey_other plain).symm.trans added)
    refine describes.congr fun name => ?_
    rw [lastValue_concat, if_neg (Ne.symm (plain name))]

/-- A key can be added if it is one of more that are described. -/
theorem DescribesTags.addable (describes : DescribesTags done c)
    (describes' : DescribesTags (done ++ (key, v) :: rest) c')
    (distinct : ((done ++ (key, v) :: rest).map Prod.fst).Nodup) :
    ∃ c₁, addKey c key v = .ok c₁ := by
  rcases hash_or key with ⟨name, rfl⟩ | plain
  · have given : lastValue (done ++ ("#" ++ name, v) :: rest) ("#" ++ name) = some v :=
      (lastValue_eq_some distinct).2 (by simp)
    obtain ⟨values, rfl⟩ := describes'.strings name v given
    have named : name ≠ "" := by
      rintro rfl
      cases describes'.named.symm.trans given
    suffices ∃ c₁, c.insert name values = .ok c₁ by
      obtain ⟨c₁, accepted⟩ := this
      exact ⟨c₁, addKey_hash.2 ⟨values, rfl, accepted⟩⟩
    by_cases some : values = []
    · exact ⟨c, by simp [TagConstraints.insert_eq, named, some]⟩
    · cases unknown : TagName.ofText? name with
      | some n =>
        refine ⟨c.addKnown n values, ?_⟩
        simp only [TagConstraints.insert_eq, named, some, unknown, if_false]
      | none =>
        cases held : c.hasOther name with
        | true =>
          refine ⟨{ c with other := TagConstraints.extend name values c.other }, ?_⟩
          simp only [TagConstraints.insert_eq, named, some, unknown, held, if_false, if_true]
        | false =>
          -- The names of before and the new one are among those that are described.
          have subset : c.other ++ [(name, values)] ⊆ c'.other := by
            intro m mem
            obtain ⟨m, vs⟩ := m
            rcases List.mem_append.1 mem with mem | mem
            · obtain ⟨unknown, some, before⟩ := (describes.other m vs).1 mem
              refine (describes'.other m vs).2 ⟨unknown, some, ?_⟩
              have held : "#" ++ m ∈ done.map Prod.fst := Decidable.byContradiction fun absent => by
                cases (lastValue_eq_none.2 absent).symm.trans before
              rw [List.map_append, List.nodup_append] at distinct
              have apart : "#" ++ m ∉ (("#" ++ name, Value.strings values) :: rest).map Prod.fst :=
                fun mem => distinct.2.2 _ held _ mem rfl
              rwa [lastValue_append apart]
            · cases List.mem_singleton.1 mem
              exact (describes'.other name values).2 ⟨unknown, some, given⟩
          have nodup : (c.other ++ [(name, values)]).Nodup := by
            rw [← List.concat_eq_append]
            refine (Sorted.nodup describes.sorted).of_map.concat fun mem => ?_
            exact TagConstraints.hasOther_eq_false.1 held (List.mem_map_of_mem mem)
          have room := (List.Nodup.length_le_of_subset nodup subset).trans describes'.few
          rw [List.length_append, List.length_singleton] at room
          refine ⟨{ c with other := c.other ++ [(name, values)] }, ?_⟩
          simp only [TagConstraints.insert_eq, named, some, unknown, held, if_false,
            Nat.not_le.2 room]
          rfl
  · exact ⟨c, addKey_other plain⟩

theorem addKeys_iff (describes : DescribesTags done c) (sorted : Sorted (done ++ rest)) :
    addKeys c rest = .ok c' ↔ DescribesTags (done ++ rest) c' := by
  induction rest generalizing done c with
  | nil =>
    rw [List.append_nil, addKeys, Except.ok.injEq]
    exact ⟨fun same => same ▸ describes, describes.unique⟩
  | cons m rest ih =>
    obtain ⟨key, v⟩ := m
    rw [addKeys, bind_eq_ok]
    have behind (k : String) (mem : k ∈ done.map Prod.fst) : k < key := by
      rw [Sorted, List.map_append] at sorted
      exact (List.pairwise_append.1 sorted).2.2 k mem key (by simp)
    have onward {c₁ : TagConstraints} (added : addKey c key v = .ok c₁) :=
      @ih (done ++ [(key, v)]) c₁ (describes.add behind added) (by simpa using sorted)
    constructor
    · rintro ⟨c₁, added, more⟩
      simpa using (onward added).1 more
    · intro describes'
      obtain ⟨c₁, added⟩ := describes.addable describes' (Sorted.nodup sorted)
      exact ⟨c₁, added, (onward added).2 (by simpa using describes')⟩

theorem Draft.Holds.lastValue_others {d : Draft} (holds : d.Holds ms) (name : String) :
    lastValue d.others ("#" ++ name) = lastValue ms ("#" ++ name) := by
  ext v
  rw [lastValue_eq_some holds.sorted.nodup, holds.others, and_iff_right (hash_unknown name)]

theorem Draft.Holds.tags {d : Draft} (holds : d.Holds ms) :
    addKeys {} d.others = .ok c ↔ DescribesTags ms c := by
  have whole := @addKeys_iff [] d.others {} c .start holds.sorted
  rw [whole, List.nil_append]
  exact ⟨fun describes => describes.congr fun name => (holds.lastValue_others name).symm,
    fun describes => describes.congr holds.lastValue_others⟩

end

/-! The draft of an object. -/

theorem exists_others (ms : List (String × Value)) : ∃ l : List (String × Value), Sorted l ∧
    ∀ key v, (key, v) ∈ l ↔ key ∉ fieldNames ∧ lastValue ms key = some v := by
  induction ms using List.reverseRecOn with
  | nil => exact ⟨[], List.Pairwise.nil, by simp [lastValue]⟩
  | append_singleton ms m ih =>
    obtain ⟨name, w⟩ := m
    obtain ⟨l, sorted, others⟩ := ih
    by_cases known : name ∈ fieldNames
    · refine ⟨l, sorted, fun key v => (others key v).trans (and_congr_right fun unknown => ?_)⟩
      rw [lastValue_concat, if_neg fun same : key = name => unknown (same ▸ known)]
    · refine ⟨setKey name w l, sorted_setKey sorted, fun key v => ?_⟩
      rw [mem_setKey sorted, others, lastValue_concat]
      by_cases same : key = name
      · subst same
        simp [known, eq_comm]
      · simp [same]

theorem Gives.eq_map {α : Type} {given : Option Value} {write : α → Value} {default a : α}
    (gives : Gives given write default a) : given = (given.map fun _ => a).map write := by
  rcases gives with ⟨rfl, -⟩ | rfl <;> rfl

/-- Where the members describe the fields, there is a draft that holds what they say. -/
theorem DescribesFields.exists_draft {ms : List (String × Value)} {f : Filter}
    (describes : DescribesFields ms f) : ∃ d : Draft, d.Holds ms := by
  obtain ⟨others, sorted, held⟩ := exists_others ms
  obtain ⟨search, given, -⟩ := describes.search
  exact ⟨{
    ids := (lastValue ms "ids").map fun _ => f.ids
    authors := (lastValue ms "authors").map fun _ => f.authors
    kinds := (lastValue ms "kinds").map fun _ => f.kinds
    since := (lastValue ms "since").map fun _ => f.since
    upTo := (lastValue ms "until").map fun _ => f.upTo
    limit := (lastValue ms "limit").map fun _ => f.limit
    search := (lastValue ms "search").map fun _ => search
    others := others }, describes.once, Draft.forall_fieldNames.2 ⟨describes.ids.eq_map,
      describes.authors.eq_map, describes.kinds.eq_map, describes.since.eq_map,
      describes.upTo.eq_map, describes.limit.eq_map, given.eq_map⟩, held, sorted⟩

/-! The main statement. -/

theorem ofNode_eq_ok {v : Node} {f : Filter} : ofNode v = .ok f ↔ ∃ ms, v = (Value.object ms).node ∧
    v.Whole maxDepth ∧ DescribesFields ms f ∧ DescribesTags ms f.tags := by
  cases v with
  | object nodes stop =>
    simp only [ofNode, bind_eq_ok, mapError_eq_ok]
    constructor
    · rintro ⟨d, read, made⟩
      obtain ⟨rfl, ms, rfl, whole, holds⟩ := (Draft.readMembers_iff .start).1 read
      rw [List.nil_append] at holds
      obtain ⟨tags, fields⟩ := holds.describes.1 made
      exact ⟨ms, rfl, .inr (.inr ⟨_, rfl, whole⟩), fields, holds.tags.1 tags⟩
    · rintro ⟨ms, same, whole, fields, tags⟩
      obtain ⟨rfl, rfl⟩ : nodes = memberNodes ms ∧ stop = none := by
        rw [Value.node] at same
        exact ⟨(Node.object.inj same).1, (Node.object.inj same).2⟩
      obtain scalar | ⟨_, ⟨⟩, -⟩ | ⟨_, ⟨⟩, all⟩ := whole
      · exact scalar.elim
      obtain ⟨d, holds⟩ := fields.exists_draft
      exact ⟨d, (Draft.readMembers_iff .start).2 ⟨rfl, ms, rfl, all, holds⟩,
        holds.describes.2 ⟨holds.tags.2 tags, fields⟩⟩
  | null | bool | number | string | array | broken =>
    refine iff_of_false (fun read => ?_) ?_
    · simp only [ofNode, Node.mismatch_ne_ok] at read
    rintro ⟨ms, same, -⟩
    cases same

/-- A text of an object is read as the filter that its members describe. -/
theorem ofJson_text_iff {ms : List (String × Value)} {text : String}
    (formed : (Value.object ms).Text text) {f : Filter} :
    ofJson text = .ok f ↔ DescribesFields ms f ∧ DescribesTags ms f.tags := by
  obtain ⟨source, whole⟩ := Value.text_iff.1 formed
  rw [ofJson, Source.decode_eq_ok, source, ofNode_eq_ok, and_iff_left rfl]
  constructor
  · rintro ⟨ms', same, -, describes⟩
    cases node_inj same whole
    exact describes
  · exact fun describes => ⟨ms, rfl, whole, describes⟩

section

variable {ms ms' : List (String × Value)} {f : Filter}

theorem lastValue_perm (perm : ms.Perm ms') (distinct : (ms.map Prod.fst).Nodup) (key : String) :
    lastValue ms key = lastValue ms' key := by
  ext v
  rw [lastValue_eq_some distinct, lastValue_eq_some ((perm.map Prod.fst).nodup_iff.1 distinct),
    perm.mem_iff]

theorem DescribesFields.perm (describes : DescribesFields ms f) (perm : ms.Perm ms')
    (distinct : (ms.map Prod.fst).Nodup) : DescribesFields ms' f := by
  have same := lastValue_perm perm distinct
  obtain ⟨-, ids, authors, kinds, since, upTo, limit, search⟩ := describes
  simp only [same] at ids authors kinds since upTo limit search
  refine ⟨fun name _ => ?_, ids, authors, kinds, since, upTo, limit, search⟩
  exact List.nodup_iff_count_le_one.1 ((perm.map Prod.fst).nodup_iff.1 distinct) name

theorem describes_perm (perm : ms.Perm ms') (distinct : (ms.map Prod.fst).Nodup) :
    DescribesFields ms f ∧ DescribesTags ms f.tags ↔
      DescribesFields ms' f ∧ DescribesTags ms' f.tags := by
  have distinct' := (perm.map Prod.fst).nodup_iff.1 distinct
  constructor
  · rintro ⟨fields, tags⟩
    exact ⟨fields.perm perm distinct,
      tags.congr fun name => (lastValue_perm perm distinct ("#" ++ name)).symm⟩
  · rintro ⟨fields, tags⟩
    exact ⟨fields.perm perm.symm distinct',
      tags.congr fun name => lastValue_perm perm distinct ("#" ++ name)⟩

end

/-- A filter is read from the texts of the objects that describe it and from no others. Objects with
the same members in another order are read as the same filter, if no key is repeated. -/
theorem ofJson_eq_ok_iff_describes :
    (∀ (text : String) (f : Filter), ofJson text = .ok f ↔
      ∃ ms : List (String × Value), (Value.object ms).Text text ∧
        DescribesFields ms f ∧ DescribesTags ms f.tags) ∧
    ∀ (ms ms' : List (String × Value)) (text text' : String), ms.Perm ms' →
      (ms.map Prod.fst).Nodup → (Value.object ms).Text text → (Value.object ms').Text text' →
      (ofJson text).toOption = (ofJson text').toOption := by
  constructor
  · intro text f
    constructor
    · intro read
      obtain ⟨node, after⟩ := Source.decode_eq_ok.1 read
      obtain ⟨ms, same, whole, describes⟩ := ofNode_eq_ok.1 node
      refine ⟨ms, Value.text_iff.2 ⟨?_, same ▸ whole⟩, describes⟩
      rw [← same, ← after]
    · rintro ⟨ms, formed, describes⟩
      exact (ofJson_text_iff formed).2 describes
  · intro ms ms' text text' perm distinct formed formed'
    ext f
    rw [toOption_eq_some, toOption_eq_some, ofJson_text_iff formed, ofJson_text_iff formed',
      describes_perm perm distinct]

theorem exactMembers_iff {ms : List (String × Value)} :
    ExactMembers ms ↔ ∀ m ∈ ms, m.2.Exact := by
  induction ms with
  | nil => simp [ExactMembers]
  | cons m ms ih => simp [ExactMembers, ih]

/-- Tags of both kinds, one without values, and a field. -/
def orderSample : List (String × Value) :=
  [("#t", .strings ["a"]), ("limit", .nat 5), ("#client", .strings ["b"]), ("#e", .strings [])]

theorem describes_orderSample :
    (ofJson (Value.object orderSample).text).toOption =
      (ofJson (Value.object orderSample.reverse).text).toOption := by
  have perm : orderSample.Perm orderSample.reverse := (List.reverse_perm _).symm
  have exact : ∀ m ∈ orderSample, m.2.Exact := by
    simp [orderSample, Value.exact_strings, Value.nat, Value.Exact, Number.Exact, UInt64.size]
  have whole : ∀ m ∈ orderSample, m.2.node.Whole (maxDepth - 1) := by
    simp only [orderSample, List.forall_mem_cons, List.not_mem_nil, false_implies, implies_true,
      and_true]
    exact ⟨whole_strings _ _, Node.Scalar.whole (by exact trivial) _, whole_strings _ _,
      whole_strings _ _⟩
  have formed {ms : List (String × Value)} (perm : orderSample.Perm ms) :
      (Value.object ms).Text (Value.object ms).text := by
    refine Value.text_iff.2 ⟨Source.ofString_text ?_, .inr (.inr ⟨_, rfl, fun n mem => ?_⟩)⟩
    · exact exactMembers_iff.2 fun m mem => exact m (perm.mem_iff.2 mem)
    · rw [memberNodes_eq_map] at mem
      obtain ⟨m, held, rfl⟩ := List.mem_map.1 mem
      exact whole m (perm.mem_iff.2 held)
  exact ofJson_eq_ok_iff_describes.2 orderSample orderSample.reverse _ _ perm (by decide)
    (formed (List.Perm.refl _)) (formed perm)

end RelayStore.Filter

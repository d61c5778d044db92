import RelayStore.Proofs.Filter.Grammar

/-!
Objects whose tags a filter refuses. Main statement: the first key that an insertion would refuse
decides, and of the error of the insertion only the text is left in the one that is returned.
-/
namespace RelayStore.Filter
open Json

variable {ms done rest : List (String × Value)} {c : TagConstraints} {key name : String}
  {v : Value} {values : List String} {refusal : Refusal}

/-- What members of an object say of tags that no filter can be asked for. -/
inductive RefusesTags (ms : List (String × Value)) : Prop where
  /-- A key names no tag. -/
  | unnamed {v : Value} (given : lastValue ms "#" = some v)
  /-- The values of a tag are no strings. -/
  | untyped {name : String} {v : Value} (given : lastValue ms ("#" ++ name) = some v)
      (other : ∀ values, v ≠ .strings values)
  /-- More names without an index have values than a filter may constrain. -/
  | crowded {names : List String} (distinct : names.Nodup) (many : maxOtherTags < names.length)
      (each : ∀ name ∈ names, TagName.ofText? name = none ∧
        ∃ values, values ≠ [] ∧ lastValue ms ("#" ++ name) = some (.strings values))

/-- The members whose keys come before that of a tag. -/
def membersBefore (ms : List (String × Value)) (name : String) : List (String × Value) :=
  ms.filter fun m => m.1 < "#" ++ name

/-- Why the first key that is refused is refused, in the order of the keys. The constraints are
those that the keys before it give. -/
inductive FirstRefused (ms : List (String × Value)) : Refusal → Prop where
  | values {name : String} {v : Value} {m : Mismatch} {c : TagConstraints}
      (before : DescribesTags (membersBefore ms name) c)
      (given : lastValue ms ("#" ++ name) = some v) (other : v.toStrings? = .error m) :
      FirstRefused ms (.values ("#" ++ name) m)
  | tag {name : String} {values : List String} {t : TagRefusal} {c : TagConstraints}
      (before : DescribesTags (membersBefore ms name) c)
      (given : lastValue ms ("#" ++ name) = some (.strings values))
      (refused : c.insert name values = .error t) : FirstRefused ms (.tag t)

/-! What is refused by itself. -/

/-- A filter that is described has tags that are not refused. -/
theorem RefusesTags.not_describes (refuses : RefusesTags ms) : ¬ DescribesTags ms c := by
  intro describes
  cases refuses with
  | unnamed given =>
    rw [describes.named] at given
    contradiction
  | untyped given other =>
    obtain ⟨values, strings⟩ := describes.strings _ _ given
    exact other values strings
  | @crowded names distinct many each =>
    have listed : names ⊆ c.other.map Prod.fst := by
      intro name mem
      obtain ⟨unknown, values, some, given⟩ := each name mem
      have held := (describes.other name values).2 ⟨unknown, some, given⟩
      exact List.mem_map_of_mem held
    have room := distinct.length_le_of_subset listed
    have few := describes.few
    rw [List.length_map] at room
    omega

/-- An insertion is refused for its name, or for one name too many. -/
theorem insert_eq_error {t : TagRefusal} (refused : c.insert name values = .error t) :
    name = "" ∨ TagName.ofText? name = none ∧ values ≠ [] ∧ c.hasOther name = false ∧
      maxOtherTags ≤ c.other.length := by
  by_cases empty : name = ""
  · exact .inl empty
  refine .inr ?_
  by_cases none : values = []
  · simp [TagConstraints.insert_eq, empty, none] at refused
  cases known : TagName.ofText? name with
  | some n => simp [TagConstraints.insert_eq, empty, none, known] at refused
  | none =>
    cases held : c.hasOther name with
    | true => simp [TagConstraints.insert_eq, empty, none, known, held] at refused
    | false =>
      by_cases full : maxOtherTags ≤ c.other.length
      · exact ⟨rfl, none, rfl, full⟩
      · simp [TagConstraints.insert_eq, empty, none, known, held, full] at refused

theorem lastValue_membersBefore (ms : List (String × Value)) (name key : String) :
    lastValue (membersBefore ms name) key =
      if key < "#" ++ name then lastValue ms key else none := by
  unfold membersBefore
  induction ms using List.reverseRecOn with
  | nil => simp [lastValue]
  | append_singleton ms m ih =>
    obtain ⟨k, v⟩ := m
    rw [List.filter_append, lastValue_concat]
    by_cases kept : k < "#" ++ name
    · simp only [List.filter_cons, kept, decide_true, if_true, List.filter_nil]
      rw [lastValue_concat, ih]
      by_cases same : key = k
      · simp [same, kept]
      · simp [same]
    · simp only [List.filter_cons, kept, decide_false, Bool.false_eq_true, if_false,
        List.filter_nil, List.append_nil]
      rw [ih]
      by_cases same : key = k
      · simp [same, kept]
      · simp [same]

/-- The first refusal is a reason to refuse the object. -/
theorem FirstRefused.refuses (first : FirstRefused ms refusal) : RefusesTags ms := by
  cases first with
  | values before given other =>
    apply RefusesTags.untyped given
    intro values strings
    rw [toStrings?_iff.2 strings] at other
    contradiction
  | @tag name values t c before given refused =>
    rcases insert_eq_error refused with rfl | ⟨unknown, some, fresh, full⟩
    · exact .unnamed given
    have absent := TagConstraints.hasOther_eq_false.1 fresh
    have distinct : (c.other.map Prod.fst ++ [name]).Nodup := by
      rw [← List.concat_eq_append]
      exact (Sorted.nodup before.sorted).concat absent
    apply RefusesTags.crowded distinct
    · rw [List.length_append, List.length_map, List.length_singleton]
      omega
    · intro other mem
      rcases List.mem_append.1 mem with mem | mem
      · obtain ⟨⟨other, vs⟩, held, rfl⟩ := List.mem_map.1 mem
        obtain ⟨unknown, some, given⟩ := (before.other other vs).1 held
        rw [lastValue_membersBefore] at given
        split_ifs at given
        exact ⟨unknown, vs, some, given⟩
      · obtain rfl := List.mem_singleton.1 mem
        exact ⟨unknown, values, some, given⟩

/-! Adding the keys one by one. -/

/-- Only the key of a tag is refused, for its values or by the insertion of them. -/
theorem addKey_eq_error (refused : addKey c key v = .error refusal) : ∃ name, key = "#" ++ name ∧
    ((∃ m, v.toStrings? = .error m ∧ refusal = .values ("#" ++ name) m) ∨
      ∃ values t, v = .strings values ∧ c.insert name values = .error t ∧ refusal = .tag t) := by
  rcases hash_or key with ⟨name, rfl⟩ | plain
  · refine ⟨name, rfl, ?_⟩
    unfold addKey at refused
    simp only [toList_hash, String.ofList_toList] at refused
    cases strings : v.toStrings? with
    | error m =>
      rw [strings] at refused
      exact .inl ⟨m, rfl, (Except.error.inj refused).symm⟩
    | ok values =>
      rw [strings] at refused
      cases inserted : c.insert name values with
      | error t =>
        rw [mapError_ok, ok_bind, inserted] at refused
        exact .inr ⟨values, t, toStrings?_iff.1 strings, inserted, (Except.error.inj refused).symm⟩
      | ok c' =>
        rw [mapError_ok, ok_bind, inserted, mapError_ok] at refused
        contradiction
  · rw [addKey_other plain] at refused
    contradiction

/-- The keys before the first one that is refused are described. -/
theorem addKeys_eq_error (describes : DescribesTags done c) (sorted : Sorted (done ++ rest))
    (refused : addKeys c rest = .error refusal) :
    ∃ before key v after c', rest = before ++ (key, v) :: after ∧
      DescribesTags (done ++ before) c' ∧ addKey c' key v = .error refusal := by
  induction rest generalizing done c with
  | nil => contradiction
  | cons m rest ih =>
    obtain ⟨key, v⟩ := m
    have behind : ∀ k ∈ done.map Prod.fst, k < key := by
      intro k mem
      rw [Sorted, List.map_append] at sorted
      exact (List.pairwise_append.1 sorted).2.2 k mem key (by simp)
    rw [addKeys] at refused
    cases added : addKey c key v with
    | error r =>
      rw [added] at refused
      obtain rfl := Except.error.inj refused
      exact ⟨[], key, v, rest, c, rfl, by simpa using describes, added⟩
    | ok c₁ =>
      rw [added, ok_bind] at refused
      obtain ⟨before, key', v', after, c', rfl, described, stops⟩ :=
        ih (describes.add behind added) (by simpa using sorted) refused
      exact ⟨(key, v) :: before, key', v', after, c', rfl, by simpa using described, stops⟩

theorem Draft.Holds.firstRefused {d : Draft} (holds : d.Holds ms)
    (refused : addKeys {} d.others = .error refusal) : FirstRefused ms refusal := by
  obtain ⟨before, key, v, after, c, others, described, stops⟩ :=
    @addKeys_eq_error [] d.others {} refusal .start holds.sorted refused
  obtain ⟨name, rfl, reason⟩ := addKey_eq_error stops
  rw [List.nil_append] at described
  have sorted : Sorted (before ++ ("#" ++ name, v) :: after) := others ▸ holds.sorted
  have given : lastValue ms ("#" ++ name) = some v := by
    rw [← holds.lastValue_others, others]
    exact (lastValue_eq_some sorted.nodup).2 (by simp)
  rw [Sorted, List.map_append, List.map_cons] at sorted
  obtain ⟨-, behind, apart⟩ := List.pairwise_append.1 sorted
  -- Behind the key stand only greater ones, so the keys below it are those that stand before it.
  have below : DescribesTags (membersBefore ms name) c := by
    apply described.congr
    intro other
    rw [lastValue_membersBefore, ← holds.lastValue_others, others]
    split_ifs with less
    · apply lastValue_append
      intro mem
      rcases List.mem_cons.1 mem with same | mem
      · exact String.ne_of_lt less same
      · exact String.lt_asymm less ((List.pairwise_cons.1 behind).1 _ mem)
    · symm
      rw [lastValue_eq_none]
      intro mem
      exact less (apart _ mem _ List.mem_cons_self)
  obtain ⟨m, other, rfl⟩ | ⟨values, t, rfl, inserted, rfl⟩ := reason
  · exact .values below given other
  · exact .tag below given inserted

/-! The main statement. -/

/-- The fields of an object in order, the tags alone decide. -/
theorem exists_draft_ofJson {text : String} (formed : (Value.object ms).Text text) {f : Filter}
    (fields : DescribesFields ms f) : ∃ d : Draft, d.Holds ms ∧
      ofJson text = d.finish.mapError fun r => .data (.refused r.error.message) := by
  obtain ⟨source, whole⟩ := Value.text_iff.1 formed
  obtain ⟨d, holds⟩ := fields.exists_draft
  refine ⟨d, holds, ?_⟩
  obtain scalar | ⟨_, array, -⟩ | ⟨nodes, object, all⟩ := whole
  · exact scalar.elim
  · cases array
  have read : Draft.readMembers {} (memberNodes ms) none = .ok d := by
    refine (Draft.readMembers_iff .start).2 ⟨rfl, ms, rfl, ?_, by simpa using holds⟩
    rw [Value.node] at object
    cases object
    exact all
  rw [ofJson, source, Source.decode, Value.node, ofNode, read, ok_bind]
  cases d.finish <;> rfl

theorem finish_eq_error {d : Draft} (refused : addKeys {} d.others = .error refusal) :
    d.finish = .error refusal := by
  rw [Draft.finish, refused]
  rfl

/-- An object with its fields in order is refused exactly for its tags. The error is then one of the
JSON text, and what is left in it of the refusal, or of the insertion that is refused, is the
text. -/
theorem parse_refused {text : String} (formed : (Value.object ms).Text text) {f : Filter}
    (fields : DescribesFields ms f) :
    (¬ RefusesTags ms → ∃ g, parse text = .ok g) ∧
    (RefusesTags ms → ∃ refusal, FirstRefused ms refusal ∧
      parse text = .error (.json (.data (.refused refusal.error.message)))) := by
  obtain ⟨d, holds, read⟩ := exists_draft_ofJson formed fields
  rw [parse, read]
  cases added : addKeys {} d.others with
  | ok c =>
    have describes := holds.tags.1 added
    constructor
    · intro _
      rw [Draft.finish, added]
      exact ⟨_, rfl⟩
    · intro refuses
      exact absurd describes refuses.not_describes
  | error refusal =>
    have first := holds.firstRefused added
    rw [finish_eq_error added]
    constructor
    · intro accepted
      exact absurd first.refuses accepted
    · intro _
      exact ⟨refusal, first, rfl⟩

/-- The members that give values to tags. -/
def tagMembers (entries : List (String × List String)) : List (String × Value) :=
  entries.map fun e => ("#" ++ e.1, .strings e.2)

theorem text_tagMembers (entries : List (String × List String)) :
    (Value.object (tagMembers entries)).Text (Value.object (tagMembers entries)).text := by
  have strings : ∀ m ∈ tagMembers entries, ∃ values, m.2 = .strings values := by
    intro m mem
    obtain ⟨e, -, rfl⟩ := List.mem_map.1 mem
    exact ⟨e.2, rfl⟩
  refine Value.text_iff.2 ⟨Source.ofString_text (exactMembers_iff.2 ?_), .inr (.inr ⟨_, rfl, ?_⟩)⟩
  · intro m mem
    obtain ⟨values, same⟩ := strings m mem
    rw [same]
    exact Value.exact_strings values
  · intro node mem
    rw [memberNodes_eq_map] at mem
    obtain ⟨m, held, rfl⟩ := List.mem_map.1 mem
    obtain ⟨values, same⟩ := strings m held
    dsimp only
    rw [same]
    exact whole_strings values _

/-- One name without an index too many. -/
def overfull : List (String × List String) :=
  ["u", "v", "w", "x", "y"].map fun name => (name, ["1"])

theorem describesFields_overfull : DescribesFields (tagMembers overfull) {} where
  once := by decide
  ids := .inl ⟨rfl, rfl⟩
  authors := .inl ⟨rfl, rfl⟩
  kinds := .inl ⟨rfl, rfl⟩
  since := .inl ⟨rfl, rfl⟩
  upTo := .inl ⟨rfl, rfl⟩
  limit := .inl ⟨rfl, rfl⟩
  search := ⟨none, .inl ⟨rfl, rfl⟩, rfl⟩

theorem refusesTags_overfull : RefusesTags (tagMembers overfull) := by
  apply @RefusesTags.crowded _ (overfull.map Prod.fst) (by decide) (by decide)
  intro name mem
  simp only [overfull, List.map_cons, List.map_nil, List.mem_cons, List.not_mem_nil, or_false]
    at mem
  obtain rfl | rfl | rfl | rfl | rfl := mem
  all_goals exact ⟨by decide, ["1"], by decide, rfl⟩

/-- The insertions fail with an error of the filter, and the reading of the same names and values
with an error of the JSON. -/
theorem overfull_misnamed :
    DescribesFields (tagMembers overfull) {} ∧ RefusesTags (tagMembers overfull) ∧
    (overfull.foldlM (fun (c : TagConstraints) e => (c.insert e.1 e.2).mapError TagRefusal.error)
      {}) = .error (.invalidFilter "more than 4 unindexed tag names in one filter") ∧
    parse (Value.object (tagMembers overfull)).text = .error (.json (.data (.refused
      "invalid filter: more than 4 unindexed tag names in one filter"))) ∧
    ∀ reason, parse (Value.object (tagMembers overfull)).text ≠ .error (.invalidFilter reason) := by
  have read : parse (Value.object (tagMembers overfull)).text = .error (.json (.data (.refused
      "invalid filter: more than 4 unindexed tag names in one filter"))) := by
    decide +kernel
  refine ⟨describesFields_overfull, refusesTags_overfull, by decide +kernel, read, ?_⟩
  intro reason other
  rw [read] at other
  cases other

theorem parse_refused_overfull :
    (Value.object (tagMembers overfull)).Text (Value.object (tagMembers overfull)).text ∧
    DescribesFields (tagMembers overfull) {} ∧ RefusesTags (tagMembers overfull) ∧
    ∃ refusal, FirstRefused (tagMembers overfull) refusal ∧
      parse (Value.object (tagMembers overfull)).text =
        .error (.json (.data (.refused refusal.error.message))) := by
  have formed := text_tagMembers overfull
  have refused := (parse_refused formed describesFields_overfull).2 refusesTags_overfull
  exact ⟨formed, describesFields_overfull, refusesTags_overfull, refused⟩

end RelayStore.Filter

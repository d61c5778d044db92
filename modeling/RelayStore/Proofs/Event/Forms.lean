import RelayStore.Proofs.Event.Grammar

/-!
Readings of one text in two forms. Main statement: what a form reads that demands all fields is read
by a narrower form too, unless the time or the kind does not fit it.
-/
namespace RelayStore.Event
open Json

namespace Draft

variable {wide narrow : Form} {d d' : Draft} {v : Node}

/-- The numbers of one draft are those of another, as far as it has any. -/
structure Within (d d' : Draft) : Prop where
  createdAt : ∀ n ∈ d.createdAt, n ∈ d'.createdAt
  kind : ∀ n ∈ d.kind, n ∈ d'.kind

theorem Within.refl (d : Draft) : d.Within d := ⟨fun _ mem => mem, fun _ mem => mem⟩

theorem Within.trans {d'' : Draft} (first : d.Within d') (second : d'.Within d'') :
    d.Within d'' :=
  ⟨fun n mem => second.createdAt n (first.createdAt n mem),
    fun n mem => second.kind n (first.kind n mem)⟩

/-- The time that has been read fits a form. -/
def Timely (form : Form) (d : Draft) : Prop := ∀ n ∈ d.createdAt, n < form.timeBound

theorem Timely.of_within (timely : d'.Timely narrow) (within : d.Within d') : d.Timely narrow :=
  fun n mem => timely n (within.createdAt n mem)

/-- How a form fares where another one came from a draft to a further one: it comes there too, or
refuses the kind that was read. -/
inductive Follows (form : Form) (d d' : Draft) (result : Result Draft) : Prop where
  | same (read : result = .ok d')
      (fits : (∀ n ∈ d.kind, n < form.kindBound) → ∀ n ∈ d'.kind, n < form.kindBound)
  | refused {n : Nat} (kind : n ∈ d'.kind) (wide : form.kindBound ≤ n)
      (read : result = .error (.data (.outOfRange n form.kindName)))

theorem Follows.refl (form : Form) (d : Draft) : Follows form d d (.ok d) :=
  .same rfl fun fits => fits

theorem Follows.bind {form : Form} {d₁ : Draft} {result : Result Draft}
    {next : Draft → Result Draft} (first : Follows form d d₁ result)
    (others : Follows form d₁ d' (next d₁)) (within : d₁.Within d') :
    Follows form d d' (result >>= next) := by
  cases first with
  | refused kind wide read =>
    subst read
    exact .refused (within.kind _ kind) wide rfl
  | same read fits =>
    subst read
    cases others with
    | same read' fits' => exact .same read' fun first => fits' (fits first)
    | refused kind wide read' => exact .refused kind wide read'

/-! One field. -/

theorem within_set {form : Form} {name : String} (free : d.holds name = false)
    (read : d.set form name v = .ok d') : d.Within d' := by
  unfold set at read
  split at read
  all_goals
    obtain ⟨a, -, same⟩ := bind_eq_ok.1 read
    obtain rfl := pure_eq_ok.1 same
  -- The third field is the time and the fourth the kind. The others are no numbers.
  case h_3 =>
    have unread : d.createdAt = none := by simpa [holds] using free
    exact ⟨by simp [unread], fun _ mem => mem⟩
  case h_4 =>
    have unread : d.kind = none := by simpa [holds] using free
    exact ⟨fun _ mem => mem, by simp [unread]⟩
  all_goals exact ⟨fun _ mem => mem, fun _ mem => mem⟩

theorem follows_set {name : String} (read : d.set wide name v = .ok d')
    (timely : d'.Timely narrow) : Follows narrow d d' (d.set narrow name v) := by
  unfold set at read ⊢
  split at read
  all_goals
    obtain ⟨a, found, same⟩ := bind_eq_ok.1 read
    obtain rfl := pure_eq_ok.1 same
  -- Only the bounds of the time and of the kind differ between two forms.
  case h_3 =>
    obtain ⟨rfl, -⟩ := Node.toNat?_eq_ok.1 found
    have fits : a < narrow.timeBound := timely a rfl
    exact .same (bind_eq_ok.2 ⟨a, Node.toNat?_eq_ok.2 ⟨rfl, fits⟩, rfl⟩) fun kind => kind
  case h_4 =>
    obtain ⟨rfl, -⟩ := Node.toNat?_eq_ok.1 found
    by_cases fits : a < narrow.kindBound
    · refine .same (bind_eq_ok.2 ⟨a, Node.toNat?_eq_ok.2 ⟨rfl, fits⟩, rfl⟩) fun _ => ?_
      rintro n ⟨⟩
      exact fits
    · refine .refused rfl (Nat.le_of_not_lt fits) ?_
      simp only [Node.toNat?, if_neg fits]
      rfl
  all_goals exact .same read fun fits => fits

/-! Objects. -/

theorem within_member {form : Form} {key : String} (read : d.member form key v = .ok d') :
    d.Within d' := by
  unfold member at read
  split_ifs at read with field held
  · exact within_set (Bool.eq_false_iff.2 held) read
  · obtain ⟨_, -, same⟩ := bind_eq_ok.1 read
    obtain rfl := pure_eq_ok.1 same
    exact .refl d

theorem follows_member {key : String} (read : d.member wide key v = .ok d')
    (timely : d'.Timely narrow) : Follows narrow d d' (d.member narrow key v) := by
  unfold member at read ⊢
  split_ifs at read ⊢ with field held
  · exact follows_set read timely
  · rw [read]
    obtain ⟨_, -, same⟩ := bind_eq_ok.1 read
    obtain rfl := pure_eq_ok.1 same
    exact .refl narrow d

theorem members_cons {form : Form} {key : Except Fault String}
    {ms : List (Except Fault String × Node)} {stop : Option Flaw}
    (read : d.members form ((key, v) :: ms) stop = .ok d') :
    ∃ name d₁, key = .ok name ∧ d.member form name v = .ok d₁ ∧
      d₁.members form ms stop = .ok d' := by
  simp only [members, ofFault, bind_eq_ok, mapError_eq_ok] at read
  obtain ⟨name, found, d₁, first, others⟩ := read
  exact ⟨name, d₁, found, first, others⟩

theorem within_members {form : Form} {ms : List (Except Fault String × Node)} {stop : Option Flaw}
    (read : d.members form ms stop = .ok d') : d.Within d' := by
  induction ms generalizing d with
  | nil =>
    cases stop with
    | some flaw => contradiction
    | none =>
      obtain rfl := Except.ok.inj read
      exact .refl d
  | cons m ms ih =>
    obtain ⟨name, d₁, -, first, others⟩ := members_cons read
    exact (within_member first).trans (ih others)

theorem follows_members {ms : List (Except Fault String × Node)} {stop : Option Flaw}
    (read : d.members wide ms stop = .ok d') (timely : d'.Timely narrow) :
    Follows narrow d d' (d.members narrow ms stop) := by
  induction ms generalizing d with
  | nil =>
    cases stop with
    | some flaw => contradiction
    | none =>
      obtain rfl := Except.ok.inj read
      exact .refl narrow d
  | cons m ms ih =>
    obtain ⟨key, v⟩ := m
    obtain ⟨name, d₁, rfl, first, others⟩ := members_cons read
    have within := within_members others
    -- What has been read by now stays, so its time fits too.
    exact (follows_member first (timely.of_within within)).bind (ih others) within

/-! Arrays. -/

/-- The items of an array are for different fields. -/
theorem follows_items {names : List String} (fields : names ⊆ fieldNames) (nodup : names.Nodup)
    (free : ∀ name ∈ names, d.holds name = false) {vs : List Node} {stop : Option Flaw}
    (read : d.items wide names vs stop = .ok d') :
    d.Within d' ∧ (d'.Timely narrow → Follows narrow d d' (d.items narrow names vs stop)) := by
  induction names generalizing d vs with
  | nil =>
    cases vs with
    | cons v vs => contradiction
    | nil =>
      cases stop with
      | some flaw => contradiction
      | none =>
        obtain rfl := Except.ok.inj read
        exact ⟨.refl d, fun _ => .refl narrow d⟩
  | cons name names ih =>
    cases vs with
    | nil =>
      cases stop with
      | some flaw => contradiction
      | none =>
        obtain rfl := Except.ok.inj read
        exact ⟨.refl d, fun _ => .refl narrow d⟩
    | cons v vs =>
      obtain ⟨first, others⟩ := List.forall_mem_cons.1 free
      obtain ⟨fresh, nodup⟩ := List.nodup_cons.1 nodup
      obtain ⟨field, fields⟩ := List.cons_subset.1 fields
      rw [items] at read ⊢
      obtain ⟨d₁, set, rest⟩ := bind_eq_ok.1 read
      have free' : ∀ other ∈ names, d₁.holds other = false := by
        intro other mem
        have apart : other ≠ name := fun same => fresh (same ▸ mem)
        rw [holds_set name field set other (fields mem), others other mem,
          beq_eq_false_iff_ne.2 apart]
        rfl
      obtain ⟨within, onward⟩ := ih fields nodup free' rest
      refine ⟨(within_set first set).trans within, fun timely => ?_⟩
      exact (follows_set set (timely.of_within within)).bind (onward timely) within

end Draft

/-! Complete texts. -/

/-- The draft that has all fields. -/
def Fields.draft (f : Fields) : Draft where
  id := some f.id
  pubkey := some f.pubkey
  createdAt := some f.createdAt
  kind := some f.kind
  tags := some f.tags
  content := some f.content
  sig := some f.sig

theorem Fields.fields_draft (f : Fields) (form : Form) : f.draft.fields form = .ok f := by
  cases h : form.defaults <;> simp [draft, Draft.fields, h]

theorem Draft.eq_draft_of_fields {form : Form} (strict : form.defaults = false) {d : Draft}
    {f : Fields} (complete : d.fields form = .ok f) : d = f.draft := by
  obtain ⟨id, pubkey, createdAt, kind, tags, content, sig⟩ := d
  simp only [Draft.fields, strict, Bool.false_eq_true, if_false, bind_eq_ok, pure_eq_ok] at complete
  obtain ⟨_, hasId, _, hasKey, _, hasTime, _, hasKind, _, hasTags, _, hasContent, _, hasSig, rfl⟩ :=
    complete
  cases id <;> cases pubkey <;> cases createdAt <;> cases kind <;> cases tags <;> cases content <;>
    cases sig <;> simp_all [Fields.draft]

namespace Fields

variable {wide narrow : Form} {f : Fields}

/-- What becomes of fields if their kind may be too wide. -/
def within (form : Form) (f : Fields) : Result Fields :=
  if f.kind < form.kindBound then .ok f else .error (.data (.outOfRange f.kind form.kindName))

theorem within_of_follows {result : Result Draft} {complete : Draft → Result Fields}
    (follows : Draft.Follows narrow {} f.draft result) (whole : complete f.draft = .ok f) :
    result >>= complete = f.within narrow := by
  cases follows with
  | same read fits =>
    have fits : f.kind < narrow.kindBound := fits (by rintro n ⟨⟩) f.kind rfl
    rw [read, within, if_pos fits]
    exact whole
  | refused kind wide read =>
    obtain rfl := Option.some.inj kind
    rw [read, within, if_neg (Nat.not_lt.2 wide)]
    rfl

theorem ofNode_narrow (strict : wide.defaults = false) {v : Node} (read : ofNode wide v = .ok f)
    (timely : f.createdAt < narrow.timeBound) : ofNode narrow v = f.within narrow := by
  have timely : f.draft.Timely narrow := by
    rintro n ⟨⟩
    exact timely
  cases v with
  | object ms stop =>
    simp only [ofNode, bind_eq_ok, mapError_eq_ok] at read
    obtain ⟨d, members, complete⟩ := read
    obtain rfl := Draft.eq_draft_of_fields strict complete
    refine within_of_follows (Draft.follows_members members timely) ?_
    rw [f.fields_draft narrow]
    rfl
  | array vs stop =>
    simp only [ofNode, bind_eq_ok, mapError_eq_ok] at read
    obtain ⟨d, items, complete⟩ := read
    obtain rfl := Draft.eq_draft_of_fields strict complete
    have free : ∀ name ∈ fieldNames, Draft.holds {} name = false := by decide
    obtain ⟨-, follows⟩ := Draft.follows_items (fun _ mem => mem) (by decide) free items
    refine within_of_follows (follows timely) ?_
    rw [f.fields_draft narrow]
    rfl
  | null | bool | number | string | broken =>
    simp only [ofNode, Node.mismatch_ne_ok] at read

/-- Where a form that demands all fields reads a text, another one reads the same or refuses the
kind, if the time fits. -/
theorem ofJson_narrow (strict : wide.defaults = false) {text : String}
    (read : ofJson wide text = .ok f) (timely : f.createdAt < narrow.timeBound) :
    ofJson narrow text = f.within narrow := by
  unfold ofJson Source.decode at read ⊢
  obtain ⟨f', root, after⟩ := bind_eq_ok.1 read
  split at after
  · obtain rfl := pure_eq_ok.1 after
    rw [ofNode_narrow strict root timely, within]
    split <;> rfl
  · contradiction

end Fields
end RelayStore.Event

import RelayStore.Proofs.Import.Balance
import RelayStore.Proofs.Import.OnTrust

/-!
Lines that are no JSON. Main statement: an import that trusts its files counts them as errors of
JSON, one that verifies counts them as errors of validation, and that is all the difference.
-/
namespace RelayStore

namespace Json

/-- A text that holds one JSON value of any kind. -/
def WellFormed (text : String) : Prop := Padded (fun _ : Unit => AnyText) () text.toList

theorem wellFormed_iff {text : String} :
    WellFormed text ↔
      (Source.ofString text).root.skip = .ok () ∧ (Source.ofString text).after = none := by
  rw [WellFormed, ← recognizes_any.ofList_iff, Source.ofString]
  constructor
  · rintro ⟨v, source, skip⟩
    rw [source]
    exact ⟨skip, rfl⟩
  · rintro ⟨skip, after⟩
    exact ⟨_, congrArg (Source.mk _) after, skip⟩

instance : DecidablePred WellFormed := fun _ => decidable_of_iff' _ wellFormed_iff

namespace Node

theorem skip_of_toString? {v : Node} {s : String} (read : v.toString? = .ok s) :
    v.skip = .ok () := by
  rw [eq_string_of_toString? read]
  rfl

theorem skip_of_toNat? {v : Node} {bound n : Nat} {wanted : String}
    (read : v.toNat? bound wanted = .ok n) : v.skip = .ok () := by
  rw [(toNat?_eq_ok.1 read).1]
  rfl

theorem skip_of_toList? {α : Type} {item : Node → Result α}
    (items : ∀ v a, item v = .ok a → v.skip = .ok ()) {v : Node} {as : List α}
    (read : v.toList? item = .ok as) : v.skip = .ok () := by
  obtain ⟨vs, rfl, each⟩ := toList?_eq_ok.1 read
  clear read
  have all : ∀ v ∈ vs, v.skip = .ok () := by
    induction each with
    | nil => simp
    | cons first _ ih => exact List.forall_mem_cons.2 ⟨items _ _ first, ih⟩
  rw [skip]
  exact skipItems_eq_ok.2 ⟨rfl, all⟩

end Node
end Json

namespace Event
open Json

/-! What is read of an event is well formed. -/

namespace Draft

variable {form : Form} {d d' : Draft}

theorem skip_of_set {name : String} {v : Node} (read : d.set form name v = .ok d') :
    v.skip = .ok () := by
  unfold set at read
  split at read
  all_goals obtain ⟨value, field, -⟩ := bind_eq_ok.1 read
  case h_3 | h_4 => exact Node.skip_of_toNat? field
  case h_5 =>
    exact Node.skip_of_toList? (fun _ _ => Node.skip_of_toList? fun _ _ => Node.skip_of_toString?)
      field
  all_goals exact Node.skip_of_toString? field

theorem skip_of_member {key : String} {v : Node} (read : d.member form key v = .ok d') :
    v.skip = .ok () := by
  unfold member at read
  split_ifs at read with known again
  · exact skip_of_set read
  · obtain ⟨_, passed, -⟩ := bind_eq_ok.1 read
    exact mapError_eq_ok.1 passed

theorem skip_of_members {ms : List (Except Fault String × Node)} {stop : Option Flaw}
    (read : d.members form ms stop = .ok d') : Node.skipMembers ms stop = .ok () := by
  induction ms generalizing d with
  | nil =>
    cases stop with
    | none => rfl
    | some flaw => cases read
  | cons m ms ih =>
    obtain ⟨key, -, read⟩ := bind_eq_ok.1 read
    obtain ⟨next, field, rest⟩ := bind_eq_ok.1 read
    rw [Node.skipMembers, bind_eq_ok]
    exact ⟨(), skip_of_member field, ih rest⟩

theorem skip_of_items {names : List String} {vs : List Node} {stop : Option Flaw}
    (read : d.items form names vs stop = .ok d') : Node.skipItems vs stop = .ok () := by
  induction vs generalizing d names with
  | nil =>
    cases stop with
    | none => rfl
    | some flaw => cases names <;> cases read
  | cons v vs ih =>
    cases names with
    | nil => cases read
    | cons name names =>
      obtain ⟨next, field, rest⟩ := bind_eq_ok.1 read
      rw [Node.skipItems, bind_eq_ok]
      exact ⟨(), skip_of_set field, ih rest⟩

end Draft

theorem Fields.skip_of_ofNode {form : Form} {v : Node} {f : Fields}
    (read : Fields.ofNode form v = .ok f) : v.skip = .ok () := by
  unfold ofNode at read
  split at read
  · obtain ⟨d, members, -⟩ := bind_eq_ok.1 read
    exact Draft.skip_of_members members
  · obtain ⟨d, items, -⟩ := bind_eq_ok.1 read
    exact Draft.skip_of_items items
  · exact absurd read (Node.mismatch_ne_ok _ _ f)

/-- Fields are only read from texts that are JSON to their ends. -/
theorem wellFormed_of_fields {form : Form} {text : String} {f : Fields}
    (read : Fields.ofJson form text = .ok f) : WellFormed text := by
  obtain ⟨root, after⟩ := Source.decode_eq_ok.1 read
  exact wellFormed_iff.2 ⟨Fields.skip_of_ofNode root, after⟩

variable {text : String}

theorem ofJson_malformed (malformed : ¬ WellFormed text) : ∃ f, ofJson text = .error (.json f) := by
  cases read : Fields.ofJson .stored text with
  | ok f => exact absurd (wellFormed_of_fields read) malformed
  | error f =>
    refine ⟨f, ?_⟩
    rw [ofJson, read]
    rfl

theorem ofSignedJson_malformed (malformed : ¬ WellFormed text) :
    ofSignedJson text = .error (.signature .unreadable) := by
  cases read : Fields.ofJson SignedEvent.form text with
  | ok f => exact absurd (wellFormed_of_fields read) malformed
  | error f =>
    have unread : SignedEvent.ofJson? text = none := by
      rw [SignedEvent.ofJson?, read]
    rw [ofSignedJson, unread]

/-- Whatever is wrong with a text, a reader that verifies does not call it an error of JSON. -/
theorem ofSignedJson_ne_json (text : String) (f : Failure) :
    ofSignedJson text ≠ .error (.json f) := by
  unfold ofSignedJson
  split
  · simp
  · next e _ =>
    cases e.verify with
    | error r => exact fun h => nomatch h
    | ok u =>
      rw [mapError_ok, ok_bind, SignedEvent.event]
      split_ifs <;> exact fun h => nomatch h

end Event

namespace Import
open Json (WellFormed)

/-! One line in both modes. -/

theorem verdict_malformed {s : String} (malformed : ¬ WellFormed s)
    (filled : Text.isBlankText s = false) :
    (∃ f, (Line.text s).verdict false = .rejected (.json f)) ∧
      (Line.text s).verdict true = .rejected (.signature .unreadable) := by
  obtain ⟨f, refused⟩ := Event.ofJson_malformed malformed
  simp [Line.verdict, filled, readEvent, refused, Event.ofSignedJson_malformed malformed]

theorem verdict_true_ne_json (l : Line) (f : Json.Failure) :
    l.verdict true ≠ .rejected (.json f) := by
  cases l with
  | unreadable reason => simp [Line.verdict]
  | text s =>
    have other := Event.ofSignedJson_ne_json s f
    simp only [Line.verdict, readEvent, if_true]
    split_ifs
    · simp
    · cases read : Event.ofSignedJson s with
      | error e => simpa [read] using other
      | ok e => by_cases old : e.createdAt < genesis <;> simp [old]

/-- What a line is worth on trust, and what it is worth to verification. -/
inductive Matches : Verdict → Verdict → Prop where
  | unreadable (reason : String) : Matches (.unreadable reason) (.unreadable reason)
  | blank : Matches .blank .blank
  | malformed (f : Json.Failure) :
      Matches (.rejected (.json f)) (.rejected (.signature .unreadable))
  | tooOld : Matches .tooOld .tooOld
  | good (e : Event) : Matches (.good e) (.good e.lowered)

/-- A line that is no JSON, or an event that verification accepts, its kind written in 16 bits. -/
def Line.Plain : Line → Prop
  | .unreadable _ => True
  | .text s => ¬ WellFormed s ∨ Event.NarrowKind s ∧ ∃ e, Event.ofSignedJson s = .ok e

theorem Line.Plain.verdicts {l : Line} (plain : l.Plain) :
    Matches (l.verdict false) (l.verdict true) := by
  cases l with
  | unreadable reason => exact .unreadable reason
  | text s =>
    cases filled : Text.isBlankText s with
    | true =>
      simp only [verdict, filled, if_true]
      exact .blank
    | false =>
      rcases plain with malformed | ⟨narrow, e, accepted⟩
      · obtain ⟨⟨f, trusted⟩, verified⟩ := verdict_malformed malformed filled
        rw [trusted, verified]
        exact .malformed f
      · obtain ⟨f, -, read, rfl⟩ := Event.onTrust narrow accepted
        have trusted : (Line.text s).verdict false =
            if (Event.ofFields f).createdAt < genesis then .tooOld else .good (.ofFields f) := by
          simp [verdict, filled, readEvent, read]
        have verified : (Line.text s).verdict true =
            if (Event.ofFields f).createdAt < genesis then .tooOld
            else .good (Event.ofFields f).lowered := by
          simp only [verdict, filled, Bool.false_eq_true, if_false, readEvent, if_true, accepted]
          rfl
        rw [trusted, verified]
        split_ifs
        · exact .tooOld
        · exact .good _

/-- The two counters of errors in each other's place. -/
def Statistics.exchanged (s : Statistics) : Statistics :=
  { s with jsonErrors := s.validationErrors, validationErrors := s.jsonErrors }

theorem Statistics.exchanged_eq_self {s : Statistics} :
    s.exchanged = s ↔ s.jsonErrors = s.validationErrors := by
  obtain ⟨files, total, valid, invalid, json, validation, tooOld⟩ := s
  simp [exchanged, eq_comm]

theorem Matches.count {v w : Verdict} (pair : Matches v w) (s : Statistics) :
    s.exchanged.count w = (s.count v).exchanged := by
  cases pair <;> rfl

theorem Statistics.jsonErrors_tally (s : Statistics) (n : Nat) (ls : List Line) :
    (s.tally true n ls).jsonErrors = s.jsonErrors := by
  induction ls generalizing s with
  | nil => rfl
  | cons l ls ih =>
    rw [tally_cons, ih]
    have other := verdict_true_ne_json l
    cases v : l.verdict true with
    | unreadable reason | blank | tooOld | good e => rfl
    | rejected e =>
      cases e with
      | json f => exact absurd v (other f)
      | _ => rfl

/-- A line that can be read, is not blank and is no JSON. -/
def Line.isMalformed : Line → Bool
  | .unreadable _ => false
  | .text s => !Text.isBlankText s && !decide (WellFormed s)

theorem Line.Plain.isMalformed_eq {l : Line} (plain : l.Plain) :
    l.isMalformed = match l.verdict false with
      | .rejected (.json _) => true
      | _ => false := by
  cases l with
  | unreadable reason => rfl
  | text s =>
    cases filled : Text.isBlankText s with
    | true => simp [isMalformed, verdict, filled]
    | false =>
      rcases plain with malformed | ⟨narrow, e, accepted⟩
      · obtain ⟨⟨f, trusted⟩, -⟩ := verdict_malformed malformed filled
        simp [isMalformed, filled, malformed, trusted]
      · obtain ⟨f, fields, read, -⟩ := Event.onTrust narrow accepted
        have formed := Event.wellFormed_of_fields fields
        by_cases old : (Event.ofFields f).createdAt < genesis <;>
          simp [isMalformed, formed, verdict, filled, readEvent, read, old]

theorem Statistics.jsonErrors_trusting (s : Statistics) (n : Nat) {ls : List Line}
    (plain : ∀ l ∈ ls, l.Plain) :
    (s.tally false n ls).jsonErrors = s.jsonErrors + ls.countP Line.isMalformed := by
  induction ls generalizing s with
  | nil => rfl
  | cons l ls ih =>
    obtain ⟨first, others⟩ := List.forall_mem_cons.1 plain
    have verdicts := first.verdicts
    have malformed := first.isMalformed_eq
    rw [tally_cons, ih _ others, List.countP_cons]
    generalize l.verdict false = v, l.verdict true = w at verdicts malformed ⊢
    cases verdicts with
    | malformed f =>
      simp only [count, malformed, if_true]
      omega
    | unreadable reason | blank | tooOld | good e => simp [count, malformed]

/-! Runs in both modes. -/

section Modes

variable {σ τ : Type} {o : Options}

/-- A handler with the events as they were trusted and one with the same events as they were
verified answer alike, while their states are related. -/
def Alike (R : σ → τ → Prop) (trusting : Handler σ) (verifying : Handler τ) : Prop :=
  ∀ e s t, R s t → (trusting e s).1 = (verifying e.lowered t).1 ∧
    R (trusting e s).2 (verifying e.lowered t).2

/-- Runs that have come as far, but for which kind of errors they count. -/
structure Level (R : σ → τ → Prop) (trusting : Run σ) (verifying : Run τ) : Prop where
  state : R trusting.state verifying.state
  statistics : verifying.statistics = trusting.statistics.exchanged

/-- Runs that end in the same way. -/
def Abreast (R : σ → τ → Prop) (x : Ending × Run σ) (y : Ending × Run τ) : Prop :=
  x.1 = y.1 ∧ Level R x.2 y.2

variable {R : σ → τ → Prop} {trusting : Handler σ} {verifying : Handler τ}

theorem Abreast.onward {x : Ending × Run σ} {y : Ending × Run τ} (first : Abreast R x y)
    {next : Run σ → Ending × Run σ} {next' : Run τ → Ending × Run τ}
    (later : ∀ r r', Level R r r' → Abreast R (next r) (next' r')) :
    Abreast R (onward x next) (onward y next') := by
  obtain ⟨ending, r⟩ := x
  obtain ⟨ending', r'⟩ := y
  obtain ⟨rfl, level⟩ := first
  cases ending with
  | finished => exact later r r' level
  | stopped | failed | endless => exact ⟨rfl, level⟩

theorem Run.line_abreast (alike : Alike R trusting verifying) {l : Line} (plain : l.Plain)
    {r : Run σ} {r' : Run τ} (level : Level R r r') :
    Abreast R (r.line { o with verify := false, lenient := true } trusting l)
      (r'.line { o with verify := true, lenient := true } verifying l) := by
  have pair := plain.verdicts
  have counted := pair.count r.statistics
  rw [← level.statistics] at counted
  unfold Run.line
  dsimp only
  generalize l.verdict false = v, l.verdict true = w at pair counted ⊢
  cases pair with
  | good e =>
    obtain ⟨answer, state⟩ := alike e r.state r'.state level.state
    refine ⟨?_, state, counted⟩
    dsimp only
    rw [answer]
    cases (verifying e.lowered r'.state).1 <;> rfl
  | unreadable reason | blank | malformed f | tooOld => exact ⟨rfl, level.state, counted⟩

theorem Run.lines_abreast (alike : Alike R trusting verifying) {ls : List Line}
    (plain : ∀ l ∈ ls, l.Plain) {r : Run σ} {r' : Run τ} (level : Level R r r') :
    Abreast R (r.lines { o with verify := false, lenient := true } trusting ls)
      (r'.lines { o with verify := true, lenient := true } verifying ls) := by
  induction ls generalizing r r' with
  | nil => exact ⟨rfl, level⟩
  | cons l ls ih =>
    obtain ⟨first, others⟩ := List.forall_mem_cons.1 plain
    rw [Run.lines_cons, Run.lines_cons]
    exact (Run.line_abreast alike first level).onward fun _ _ => ih others

theorem Run.file_abreast (alike : Alike R trusting verifying) {f : File}
    (plain : ∀ l ∈ f.met, l.Plain) {r : Run σ} {r' : Run τ} (level : Level R r r') :
    Abreast R (r.file { o with verify := false, lenient := true } trusting f)
      (r'.file { o with verify := true, lenient := true } verifying f) := by
  cases bar : f.barred with
  | some reason =>
    simp only [Run.file, bar]
    exact ⟨rfl, level⟩
  | none =>
    rw [File.met_opened bar] at plain
    have lines := Run.lines_abreast (o := o) alike plain level
    rw [Run.file_opened bar, Run.file_opened bar]
    revert lines
    generalize r.lines _ trusting f.lines = x, r'.lines _ verifying f.lines = y
    obtain ⟨ending, r₁⟩ := x
    obtain ⟨ending', r₁'⟩ := y
    rintro ⟨rfl, state, statistics⟩
    have counted : r₁'.countFile.statistics = r₁.countFile.statistics.exchanged := by
      rw [Run.countFile, statistics]
      rfl
    cases ending with
    | finished =>
      cases f.isEndless with
      | true => exact ⟨rfl, state, statistics⟩
      | false => exact ⟨rfl, state, counted⟩
    | stopped => exact ⟨rfl, state, counted⟩
    | failed | endless => exact ⟨rfl, state, statistics⟩

theorem Run.files_abreast (alike : Alike R trusting verifying) {fs : List File}
    (plain : ∀ l ∈ fs.flatMap File.met, l.Plain) {r : Run σ} {r' : Run τ}
    (level : Level R r r') :
    Abreast R (r.files { o with verify := false, lenient := true } trusting fs)
      (r'.files { o with verify := true, lenient := true } verifying fs) := by
  induction fs generalizing r r' with
  | nil => exact ⟨rfl, level⟩
  | cons f fs ih =>
    rw [List.flatMap_cons, List.forall_mem_append] at plain
    obtain ⟨first, others⟩ := plain
    rw [Run.files_cons, Run.files_cons]
    exact (Run.file_abreast alike first level).onward fun _ _ => ih others

end Modes

section Lenient

variable {σ : Type} {o : Options}

theorem Stopped.lines {lines seen : List Line} {calls : List Call}
    (stopped : Stopped o lines seen calls) : seen <+: lines := by
  obtain ⟨front, back, earlier, rfl, -, -⟩ := stopped
  exact ⟨back, by rw [List.append_assoc]; rfl⟩

theorem mem_met_of_openable {files : List File} {l : Line}
    (mem : l ∈ (openable files).flatMap File.lines) : l ∈ files.flatMap File.met := by
  obtain ⟨f, found, held⟩ := List.mem_flatMap.1 mem
  obtain ⟨inside, opens⟩ := List.mem_filter.1 found
  rw [← File.met_opened (Option.isNone_iff_eq_none.1 opens)] at held
  exact List.mem_flatMap.2 ⟨f, inside, held⟩

/-- Only lines of the files are looked at. -/
theorem Looked.subset {files opened : List File} {seen : List Line} {calls : List Call}
    (looked : Looked o files opened seen calls) : seen ⊆ files.flatMap File.met := by
  intro l mem
  cases looked with
  | all endures => exact mem_met_of_openable mem
  | @some before after f seen earlier calls cut opens endures stopped =>
    rw [cut, List.flatMap_append, List.flatMap_cons, List.mem_append, List.mem_append]
    rcases List.mem_append.1 mem with mem | mem
    · exact .inl (mem_met_of_openable mem)
    · exact .inr (.inl (File.met_opened opens ▸ stopped.lines.subset mem))

theorem run_eq_none_iff {tree : FileTree} {input : String} {files : List File}
    (selected : File.select tree input = .ok files) (handle : Handler σ) (s : σ) :
    (run o tree input handle s).1 = none ↔
      (Run.files o handle (o.cut files) ⟨s, {}⟩).1 = .endless := by
  rw [run_selected selected]
  rcases Run.files o handle (o.cut files) ⟨s, {}⟩ with ⟨ending, r⟩
  cases ending <;> simp

theorem run_lenient (lenient : o.lenient = true) {tree : FileTree} {input : String}
    {files : List File} (selected : File.select tree input = .ok files) (handle : Handler σ)
    (s : σ) : (run o tree input handle s).1 = none ∨
      ∃ stats, (run o tree input handle s).1 = some (.ok stats) := by
  have ending := congrArg Prod.fst (trace_lenient lenient selected handle s)
  rw [trace] at ending
  cases result : (run o tree input handle s).1 with
  | none => exact .inl rfl
  | some r =>
    cases r with
    | ok stats => exact .inr ⟨stats, rfl⟩
    | error e =>
      rw [result, passing] at ending
      dsimp only at ending
      split_ifs at ending <;> cases ending

/-- Only a file that sticks keeps a lenient run from its end. -/
theorem run_ne_none (lenient : o.lenient = true) {tree : FileTree} {input : String}
    {files : List File} (selected : File.select tree input = .ok files)
    (free : (o.cut files).any File.sticks = false) (handle : Handler σ) (s : σ) :
    (run o tree input handle s).1 ≠ none := by
  intro endless
  have ending := congrArg Prod.fst (trace_lenient lenient selected handle s)
  rw [trace, endless, passing, free, if_neg Bool.false_ne_true] at ending
  dsimp only at ending
  split_ifs at ending
  · cases ending
  · cases ending

theorem jsonErrors_verifying (verify : o.verify = true) {tree : FileTree} {input : String}
    {handle : Handler σ} {s : σ} {stats : Statistics}
    (given : (run o tree input handle s).1 = some (.ok stats)) : stats.jsonErrors = 0 := by
  obtain ⟨files, opened, seen, -, -, -, rfl⟩ := run_tally given
  rw [verify, Statistics.jsonErrors_tally]

theorem statistics_files {tree : FileTree} {input : String} {files : List File}
    (selected : File.select tree input = .ok files) {handle : Handler σ} {s : σ}
    {stats : Statistics} (given : (run o tree input handle s).1 = some (.ok stats)) :
    (Run.files o handle (o.cut files) ⟨s, {}⟩).2.statistics = stats := by
  rw [run_selected selected] at given
  rcases read : Run.files o handle (o.cut files) ⟨s, {}⟩ with ⟨ending, r⟩
  rw [read] at given
  cases ending with
  | finished | stopped => exact Except.ok.inj (Option.some.inj given)
  | failed | endless => cases given

/-- A line that is no JSON moves one counter of errors, and the mode decides which. -/
theorem Run.line_malformed (lenient : o.lenient = true) {s : String} (malformed : ¬ WellFormed s)
    (filled : Text.isBlankText s = false) (handle : Handler σ) (r : Run σ) :
    r.line o handle (.text s) = (.finished, { r with statistics := { r.statistics with
      total := r.statistics.total + 1
      invalid := r.statistics.invalid + 1
      jsonErrors := r.statistics.jsonErrors + if o.verify then 0 else 1
      validationErrors := r.statistics.validationErrors + if o.verify then 1 else 0 } }) := by
  obtain ⟨⟨f, trusted⟩, verified⟩ := verdict_malformed malformed filled
  rw [Run.line]
  cases mode : o.verify with
  | false =>
    rw [trusted]
    simp [Options.ends, lenient, Statistics.count]
  | true =>
    rw [verified]
    simp [Options.ends, lenient, Statistics.count]

end Lenient

/-- What both modes count of the same lines, on trust and with verification: the errors of JSON of
the one are errors of validation to the other. -/
structure Renamed (seen : List Line) (trusted verified : Statistics) : Prop where
  json : trusted.jsonErrors = seen.countP Line.isMalformed
  validation : trusted.validationErrors = 0
  renamed : verified = { trusted with jsonErrors := 0, validationErrors := trusted.jsonErrors }
  same : verified = trusted ↔ ∀ l ∈ seen, l.isMalformed = false

theorem Renamed.of_exchanged {seen : List Line} {stats : Statistics}
    (json : stats.jsonErrors = seen.countP Line.isMalformed) (none : stats.validationErrors = 0) :
    Renamed seen stats stats.exchanged where
  json := json
  validation := none
  renamed := by rw [Statistics.exchanged, none]
  same := by
    rw [Statistics.exchanged_eq_self, none, json, List.countP_eq_zero]
    simp only [Bool.not_eq_true]

/-- In a lenient run a line that is no JSON counts as an error of JSON on trust, and as one of
validation with verification, where nothing ever counts as an error of JSON. So if all other lines
are events that verification accepts, both modes count the same exactly if they come to no line that
is no JSON. -/
theorem malformed_by_mode (o : Options) (tree : FileTree) (input : String) :
    (o.lenient = true → ∀ text, ¬ WellFormed text → Text.isBlankText text = false →
      ∀ (σ : Type) (handle : Handler σ) (r : Run σ),
        r.line o handle (.text text) = (.finished, { r with statistics := { r.statistics with
          total := r.statistics.total + 1
          invalid := r.statistics.invalid + 1
          jsonErrors := r.statistics.jsonErrors + if o.verify then 0 else 1
          validationErrors := r.statistics.validationErrors + if o.verify then 1 else 0 } })) ∧
    (o.verify = true → ∀ (σ : Type) (handle : Handler σ) (s : σ) (stats : Statistics),
      (run o tree input handle s).1 = some (.ok stats) → stats.jsonErrors = 0) ∧
    ∀ files, File.select tree input = .ok files →
      (∀ l ∈ (o.cut files).flatMap File.met, l.Plain) →
      ∀ (σ τ : Type) (R : σ → τ → Prop) (trusting : Handler σ) (verifying : Handler τ) (s : σ)
        (t : τ), Alike R trusting verifying → R s t →
        ((run { o with verify := false, lenient := true } tree input trusting s).1 = none ∧
          (run { o with verify := true, lenient := true } tree input verifying t).1 = none) ∨
        ∃ stats stats' opened seen,
          (run { o with verify := false, lenient := true } tree input trusting s).1 =
            some (.ok stats) ∧
          (run { o with verify := true, lenient := true } tree input verifying t).1 =
            some (.ok stats') ∧
          Looked { o with verify := false, lenient := true } (o.cut files) opened seen
            (trace { o with verify := false, lenient := true } tree input trusting s).2 ∧
          Renamed seen stats stats' := by
  refine ⟨fun lenient text malformed filled σ handle r =>
    Run.line_malformed lenient malformed filled handle r,
    fun verify σ handle s stats given => jsonErrors_verifying verify given, ?_⟩
  intro files selected plain σ τ R trusting verifying s t alike related
  -- Both runs stay level, so they end alike and the counters of errors only change places; and the
  -- verifying run has no errors of JSON that could become errors of validation of the other.
  have start : Level R (⟨s, {}⟩ : Run σ) (⟨t, {}⟩ : Run τ) := ⟨related, rfl⟩
  have abreast := Run.files_abreast (o := o) alike plain start
  have endless : (run { o with verify := false, lenient := true } tree input trusting s).1 = none ↔
      (run { o with verify := true, lenient := true } tree input verifying t).1 = none := by
    rw [run_eq_none_iff selected, run_eq_none_iff selected]
    exact ⟨abreast.1.symm.trans, abreast.1.trans⟩
  rcases run_lenient (o := { o with verify := false, lenient := true }) rfl selected trusting s with
    none | ⟨stats, given⟩
  · exact .inl ⟨none, endless.1 none⟩
  refine .inr ?_
  obtain ⟨stats', given'⟩ := (run_lenient (o := { o with verify := true, lenient := true }) rfl
    selected verifying t).resolve_left fun none => by simp [endless.2 none] at given
  obtain rfl : stats' = stats.exchanged := by
    rw [← statistics_files selected given, ← statistics_files selected given']
    exact abreast.2.statistics
  have none : stats.validationErrors = 0 := jsonErrors_verifying rfl given'
  obtain ⟨files', opened, seen, selected', looked, -, counted⟩ := run_tally given
  obtain rfl := Except.ok.inj (selected.symm.trans selected')
  have json : stats.jsonErrors = seen.countP Line.isMalformed := by
    rw [counted, Statistics.jsonErrors_trusting]
    · exact Nat.zero_add _
    · exact fun l mem => plain l (looked.subset mem)
  exact ⟨stats, stats.exchanged, opened, seen, given, given', looked, .of_exchanged json none⟩

/-- A line that is no JSON, by itself. -/
def brokenFile : File where
  name := "broken.jsonl"
  bytes := written [("not json", .newline)]

def brokenTree : FileTree where
  root := "/data"
  files := [(["broken.jsonl"], brokenFile.bytes)]

theorem printable_notJson : Printable "not json" := by simp [Printable]

theorem lines_brokenFile : brokenFile.lines = [.text "not json"] := by
  have contents : brokenFile.contents = ⟨written [("not json", .newline)], none⟩ := rfl
  rw [File.lines_of_written contents (by simpa using printable_notJson)]
  rfl

/-- With verification, a line that is no JSON is no error of JSON. -/
theorem malformed_misnamed :
    ¬ WellFormed "not json" ∧ Text.isBlankText "not json" = false ∧
    brokenFile.lines = [.text "not json"] ∧
    (run {} brokenTree "broken.jsonl" CommandLine.collect []).1 =
      some (.ok { files := 1, total := 1, invalid := 1, jsonErrors := 0, validationErrors := 1 }) ∧
    (run ⟨false, true, none⟩ brokenTree "broken.jsonl" CommandLine.collect []).1 =
      some (.ok
        { files := 1, total := 1, invalid := 1, jsonErrors := 1, validationErrors := 0 }) := by
  have selected : File.select brokenTree "broken.jsonl" = .ok [brokenFile] := rfl
  refine ⟨by decide, by decide, lines_brokenFile, ?_, ?_⟩
  · rw [run_selected selected, show Options.cut _ [brokenFile] = [brokenFile] from rfl, Run.files,
      Run.file_opened rfl, lines_brokenFile]
    rfl
  · rw [run_selected selected, show Options.cut _ [brokenFile] = [brokenFile] from rfl, Run.files,
      Run.file_opened rfl, lines_brokenFile]
    rfl

/-- A line that is no JSON next to a signed event. -/
def spoiledLines : List (String × LineEnd) :=
  [("not json", .newline), (Event.shuffledSample.text, .newline)]

def spoiledFile : File where
  name := "spoiled.jsonl"
  bytes := written spoiledLines

def spoiledTree : FileTree where
  root := "/data"
  files := [(["spoiled.jsonl"], spoiledFile.bytes)]

theorem plain_spoiledFile : ∀ l ∈ [spoiledFile].flatMap File.met, l.Plain := by
  have contents : spoiledFile.contents = ⟨written spoiledLines, none⟩ := rfl
  have printable : ∀ l ∈ spoiledLines, Printable l.1 := by
    simp only [spoiledLines, List.forall_mem_cons, List.not_mem_nil, false_implies, implies_true,
      and_true]
    exact ⟨printable_notJson, printable_shuffledSample⟩
  rw [List.flatMap_singleton, File.met_opened rfl, File.lines_of_written contents printable,
    spoiledLines]
  simp only [List.map_cons, List.map_nil, List.forall_mem_cons, List.not_mem_nil, false_implies,
    implies_true, and_true]
  exact ⟨.inl (by decide), .inr ⟨narrowKind_shuffledSample, _, Event.accepts_shuffledSample⟩⟩

theorem malformed_by_mode_spoiled :
    (Run.line {} CommandLine.collect (.text "not json") ⟨[], {}⟩ =
      (.finished, ⟨[], { total := 1, invalid := 1, validationErrors := 1 }⟩)) ∧
    (∀ stats, (run {} spoiledTree "spoiled.jsonl" CommandLine.collect []).1 = some (.ok stats) →
      stats.jsonErrors = 0) ∧
    ∃ stats stats' opened seen,
      (run ⟨false, true, none⟩ spoiledTree "spoiled.jsonl" CommandLine.collect []).1 =
        some (.ok stats) ∧
      (run {} spoiledTree "spoiled.jsonl" CommandLine.collect []).1 = some (.ok stats') ∧
      Looked ⟨false, true, none⟩ [spoiledFile] opened seen
        (trace ⟨false, true, none⟩ spoiledTree "spoiled.jsonl" CommandLine.collect []).2 ∧
      Renamed seen stats stats' := by
  have alike : Alike (fun s t => t = s.map Event.lowered) CommandLine.collect
      CommandLine.collect := by
    rintro e s _ rfl
    exact ⟨rfl, rfl⟩
  obtain ⟨line, verified, both⟩ := malformed_by_mode {} spoiledTree "spoiled.jsonl"
  refine ⟨line rfl "not json" (by decide) (by decide) _ CommandLine.collect _,
    verified rfl _ CommandLine.collect [], ?_⟩
  refine (both [spoiledFile] rfl plain_spoiledFile _ _ _ CommandLine.collect CommandLine.collect []
    [] alike rfl).resolve_left ?_
  have selected : File.select spoiledTree "spoiled.jsonl" = .ok [spoiledFile] := rfl
  exact fun endless =>
    run_ne_none (o := ⟨false, true, none⟩) rfl selected rfl CommandLine.collect [] endless.1

end Import
end RelayStore

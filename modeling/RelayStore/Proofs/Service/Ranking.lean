import RelayStore.Proofs.Service.Guarded

/-!
Refreshes of the ranking that overlap: each reads the engagement and replaces the whole table under
a run number of its own. Main statement: `History.oneRun`, the table is exactly one complete run.
-/
namespace RelayStore.Service
open Storage

/-- What a call asks the table to be replaced with. -/
def Call.replacement? : Call → Option Hot.Replacement
  | .replace rows runId horizon _ => some ⟨rows, runId, horizon⟩
  | _ => none

/-- The table after a call: a replacement that is done adds its rows and then takes out every row
from before its horizon or of an earlier run, in one step. -/
def Call.applied (posts : List HotPost) : Call → List HotPost
  | .replace rows runId horizon true =>
    (posts ++ rows).filter fun p => horizon ≤ p.engagement.createdAt && runId ≤ p.runId
  | _ => posts

/-- A turn of one of the refreshes: the store's answer to its read if there is one, the calls that
it makes, the table before and after them, and what becomes of the refresh. -/
structure Note where
  call : Nat
  answer : Option (Except Error Answer)
  made : List Call
  before : List HotPost
  after : List HotPost
  state : JobState

/-- The clock of the runs, the table and the refreshes, in the order in which they were made. -/
structure Board where
  runs : VersionClock
  posts : List HotPost
  calls : List JobState

/-- The store's answer to the read of a refresh. -/
def engagementAnswer (s : Service) (owner : TaskId) : Job → Option (Except Error Answer)
  | .refresh _ r => s.answer? owner r
  | _ => none

def Note.ofTurn (b : Board) (i : Nat) (s : Service) (owner : TaskId) (j : Job) : Note :=
  let made := (s.run owner j).1.store.calls.reverse
  ⟨i, engagementAnswer s owner j, made, b.posts, made.foldl Call.applied b.posts, (s.run owner j).2⟩

/-- Refreshes that overlap. Each is made at any time and has its turns in any order. Between two
turns the service may change as it likes, but for its settings and the clock of the runs. -/
inductive History (settings : StorageSettings) (posts : List HotPost) :
    List Note → Board → Prop where
  | start : History settings posts [] ⟨{}, posts, []⟩
  | call {notes : List Note} {b : Board} (now : UInt32) (history : History settings posts notes b) :
      History settings posts notes
        { b with calls := b.calls ++ [.running (.ofRefresh settings {} now)] }
  | turn {notes : List Note} {b : Board} {i : Nat} {j : Job} {s : Service} (owner : TaskId)
      (history : History settings posts notes b) (waits : b.calls[i]? = some (.running j))
      (same : s.settings = settings) (clock : s.runs = b.runs) (unrecorded : s.store.calls = []) :
      History settings posts (notes ++ [.ofTurn b i s owner j])
        ⟨(s.run owner j).1.runs, (Note.ofTurn b i s owner j).after, b.calls.set i (s.run owner j).2⟩

/-- The replacements that were asked for, in their order. -/
def replacements (notes : List Note) : List Hot.Replacement :=
  (notes.flatMap Note.made).filterMap Call.replacement?

/-- The runs replace one another as a whole. -/
structure OneRun (notes : List Note) : Prop where
  increasing : (replacements notes).Pairwise fun r r' => r.runId < r'.runId
  own : ∀ r ∈ replacements notes, ∀ p ∈ r.rows, p.runId = r.runId
  /-- After a replacement that is done the table has its rows and no other. -/
  complete : ∀ note ∈ notes, ∀ rows runId horizon,
    .replace rows runId horizon true ∈ note.made → note.after = rows
  /-- A refresh that ends with an error has not changed the table in any of its turns. -/
  failed : ∀ note ∈ notes, ∀ e, note.state = .over (.error e) →
    ∀ note' ∈ notes, note'.call = note.call → note'.after = note'.before
  /-- A refresh whose read fails asks for no replacement. -/
  unread : ∀ note ∈ notes, ∀ cause, note.answer = some (.error cause) →
    ∀ note' ∈ notes, note'.call = note.call → ∀ c ∈ note'.made, c.replacement? = none

/-! A turn. -/

/-- A refresh that nobody can cancel and that has no deadline. -/
inductive Asked (settings : StorageSettings) : Job → Prop where
  | reading {now : UInt32} {r : Read} (endless : r.guard.limit = none)
      (open_ : r.guard.token = none)
      (request : r.request = .engagement (Hot.horizon settings.hot now)) :
      Asked settings (.refresh now r)
  | replacing {answer : Except Error Nat} {r : Read} {ticket : Nat} {alarm : Option Nat}
      (endless : r.guard.limit = none) (open_ : r.guard.token = none)
      (parked : r.place = .parked ticket alarm) : Asked settings (.replacing answer r)

/-- The rows of a replacement are of its run, and none is from before its horizon. -/
def Fits (r : Hot.Replacement) : Prop :=
  ∀ p ∈ r.rows, p.runId = r.runId ∧ r.horizon ≤ p.engagement.createdAt

/-- Calls that do not ask for a replacement. -/
def Silent (made : List Call) : Prop := ∀ c ∈ made, c.replacement? = none

/-- A refresh that has not asked for its replacement yet. -/
def Job.IsReading : Job → Prop
  | .refresh _ _ => True
  | _ => False

/-- A refresh that has not changed the table: it has not asked for its replacement, or this has
failed, be it known or not. -/
def JobState.Harmless : JobState → Prop
  | .running (.refresh _ _) | .running (.replacing (.error _) _) | .over (.error _) => True
  | _ => False

theorem Job.IsReading.harmless {j : Job} (reading : j.IsReading) :
    (JobState.running j).Harmless := by
  cases j <;> trivial

/-- What a turn of a refresh can do: it makes no replacement and the store answers no read, or the
store answers its read with an error, or it asks for its replacement. -/
inductive Proceeds (settings : StorageSettings) (runs : VersionClock) (j : Job) :
    Option (Except Error Answer) → List Call → VersionClock → JobState → Prop where
  | silent {made : List Call} {state : JobState} (silent : Silent made)
      (harmless : state.Harmless → (JobState.running j).Harmless)
      (asked : ∀ j', state = .running j' → Asked settings j' ∧ (j'.IsReading → j.IsReading)) :
      Proceeds settings runs j none made runs state
  | unread {cause e : Error} {made : List Call} (reading : j.IsReading) (silent : Silent made) :
      Proceeds settings runs j (some (.error cause)) made runs (.over (.error e))
  | replaced {a : Answer} {made : List Call} {r : Hot.Replacement} {ok : Bool} {state : JobState}
      (reading : j.IsReading) (silent : Silent made) (fits : Fits r) (later : runs.last < r.runId)
      (harmless : state.Harmless → ok = false)
      (asked : ∀ j', state = .running j' → Asked settings j' ∧ ¬ j'.IsReading) :
      Proceeds settings runs j (some (.ok a)) (made ++ [.replace r.rows r.runId r.horizon ok])
        ⟨r.runId⟩ state

variable {settings : StorageSettings} {s : Service} {owner : TaskId} {r : Read}

/-- The engagement that a store answers with is not from before the time that was asked for. -/
theorem since_le_of_answer {m : MemoryStore} {ticket : Nat} {since : UInt32} {a : Answer}
    (answer : m.answer ticket (.engagement since) = .ok a) :
    ∀ e ∈ engagementOf a, since ≤ e.createdAt := by
  unfold MemoryStore.answer at answer
  dsimp only at answer
  split at answer
  next => cases answer
  next =>
    cases answer
    intro e member
    exact of_decide_eq_true (List.mem_filter.1 member).2

theorem since_le_of_answer? {since : UInt32} {a : Answer} (request : r.request = .engagement since)
    (answer : s.answer? owner r = some (.ok a)) : ∀ e ∈ engagementOf a, since ≤ e.createdAt := by
  obtain ⟨m, ticket, given⟩ := exists_answer answer
  exact since_le_of_answer (request ▸ given)

theorem mem_rank {rows : List Engagement} {now : UInt32} {runId keep : Nat} {p : HotPost}
    (member : p ∈ Hot.rank rows now runId keep) : p.engagement ∈ rows ∧ p.runId = runId := by
  obtain ⟨scored, kept, rfl⟩ := List.mem_map.1 member
  have positive := List.mem_mergeSort.1 (List.mem_of_mem_take kept)
  obtain ⟨row, held, rfl⟩ := List.mem_map.1 (List.mem_of_mem_filter positive)
  exact ⟨held, rfl⟩

/-- What the ranking is replaced with fits, and its run is later than all before it. -/
theorem fits_replacementOf {now : UInt32} {a : Answer}
    (request : r.request = .engagement (Hot.horizon s.settings.hot now))
    (answer : s.answer? owner r = some (.ok a)) :
    Fits (s.replacementOf now a).1 ∧ s.runs.last < (s.replacementOf now a).1.runId ∧
      (s.replacementOf now a).2 = ⟨(s.replacementOf now a).1.runId⟩ := by
  refine ⟨fun p member => ?_, ?_, rfl⟩
  · obtain ⟨held, run⟩ := mem_rank member
    exact ⟨run, since_le_of_answer? request answer _ held⟩
  · exact Nat.lt_of_lt_of_le (Nat.lt_succ_self _) (Nat.le_max_right _ _)

theorem not_cancelled {g : Guard} (open_ : g.token = none) : ¬ s.Cancelled g := by
  rintro ⟨t, named, -⟩
  rw [open_] at named
  cases named

theorem not_passed (endless : r.guard.limit = none) (limit : Decimal.Span) :
    ¬ s.Passed r limit := by
  rintro ⟨bounded, -⟩
  rw [endless] at bounded
  cases bounded

theorem silent_made (request : ∃ since, r.request = .engagement since) :
    Silent r.made.reverse := by
  obtain ⟨since, request⟩ := request
  intro c member
  unfold Read.made at member
  split at member
  · obtain rfl := List.mem_singleton.1 (List.mem_reverse.1 member)
    rw [request]
    rfl
  · cases List.mem_reverse.1 member

theorem failed_of_over {answer : Except Error Nat}
    (harmless : JobState.Harmless (.over ((replaceOutcome answer).map .ranked))) :
    ∃ e, answer = .error e := by
  cases answer with
  | error e => exact ⟨e, rfl⟩
  | ok n => exact harmless.elim

theorem failed_of_replacing {answer : Except Error Nat}
    (harmless : JobState.Harmless (.running (.replacing answer r))) : ∃ e, answer = .error e := by
  cases answer with
  | error e => exact ⟨e, rfl⟩
  | ok n => exact harmless.elim

theorem isOk_of_replacedBy {now : UInt32} {a : Answer} {e : Error}
    (failed : s.replacedBy now a = .error e) : s.store.replaceAnswer.isOk = false := by
  unfold replacedBy at failed
  cases answer : s.store.replaceAnswer with
  | error cause => rfl
  | ok => rw [answer] at failed; cases failed

theorem proceeds_refresh {now : UInt32} (owner : TaskId) (endless : r.guard.limit = none)
    (open_ : r.guard.token = none)
    (request : r.request = .engagement (Hot.horizon s.settings.hot now))
    (unrecorded : s.store.calls = []) :
    Proceeds s.settings s.runs (.refresh now r) (s.answer? owner r)
      (s.run owner (.refresh now r)).1.store.calls.reverse (s.run owner (.refresh now r)).1.runs
      (s.run owner (.refresh now r)).2 := by
  obtain ⟨made, calls, turn⟩ := refreshTurn s owner now r
  rw [calls, unrecorded, List.append_nil]
  have silent := silent_made ⟨_, request⟩
  generalize (s.run owner (.refresh now r)).2 = state at turn ⊢
  generalize (s.run owner (.refresh now r)).1.runs = runs at turn ⊢
  cases turn with
  | cancelled gone => exact absurd gone (not_cancelled open_)
  | late _ _ passed => exact absurd passed (not_passed endless _)
  | waiting going unanswered ahead =>
    rw [unanswered]
    refine .silent silent id ?_
    rintro j' ⟨⟩
    exact ⟨.reading endless open_ request, id⟩
  | unread going answer =>
    rw [answer]
    exact .unread trivial silent
  | @replaced a going answer tells =>
    obtain ⟨fits, later, clock⟩ := fits_replacementOf request answer
    rw [answer, clock, List.reverse_cons]
    refine .replaced trivial silent fits later (fun harmless => ?_) over_running
    obtain ⟨e, failed⟩ := failed_of_over harmless
    exact isOk_of_replacedBy failed
  | overdue _ _ _ passed => exact absurd passed (not_passed endless _)
  | @held a ticket alarm going answer keeps ahead =>
    obtain ⟨fits, later, clock⟩ := fits_replacementOf request answer
    rw [answer, clock, List.reverse_cons]
    refine .replaced trivial silent fits later (fun harmless => ?_) ?_
    · obtain ⟨e, failed⟩ := failed_of_replacing harmless
      exact isOk_of_replacedBy failed
    · rintro j' ⟨⟩
      exact ⟨.replacing (r := { r with place := .parked ticket alarm }) endless open_ rfl, id⟩

theorem proceeds_replacing {answer : Except Error Nat} {ticket : Nat} {alarm : Option Nat}
    (owner : TaskId) (endless : r.guard.limit = none) (open_ : r.guard.token = none)
    (parked : r.place = .parked ticket alarm) (unrecorded : s.store.calls = []) :
    Proceeds s.settings s.runs (.replacing answer r) none
      (s.run owner (.replacing answer r)).1.store.calls.reverse
      (s.run owner (.replacing answer r)).1.runs (s.run owner (.replacing answer r)).2 := by
  have kept := s.awaitReplacement_kept answer r
  have calls : (s.run owner (.replacing answer r)).1.store.calls = [] := by
    rw [run_replacing]
    exact kept.1.trans unrecorded
  have runs : (s.run owner (.replacing answer r)).1.runs = s.runs := by
    rw [run_replacing]
    exact kept.2
  rw [calls, runs]
  obtain ⟨g, q, place⟩ := r
  subst parked
  have turn := replacingTurn s owner answer g q ticket alarm
  generalize (s.run owner (.replacing answer ⟨g, q, .parked ticket alarm⟩)).2 = state at turn ⊢
  cases turn with
  | cancelled gone => exact absurd gone (not_cancelled open_)
  | admitted =>
    refine .silent nofun (fun harmless => ?_) over_running
    obtain ⟨e, rfl⟩ := failed_of_over harmless
    trivial
  | late _ _ _ passed => exact absurd passed (not_passed endless _)
  | waiting =>
    refine .silent nofun id ?_
    rintro j' ⟨⟩
    exact ⟨.replacing endless open_ rfl, id⟩

theorem Asked.proceeds {j : Job} (asked : Asked settings j) (owner : TaskId)
    (same : s.settings = settings) (unrecorded : s.store.calls = []) :
    Proceeds settings s.runs j (engagementAnswer s owner j) (s.run owner j).1.store.calls.reverse
      (s.run owner j).1.runs (s.run owner j).2 := by
  subst same
  cases asked with
  | reading endless open_ request => exact proceeds_refresh owner endless open_ request unrecorded
  | replacing endless open_ parked => exact proceeds_replacing owner endless open_ parked unrecorded

/-! The whole history. -/

/-- What the turns of a refresh have done, by how far it has come. -/
structure Told (notes : List Note) (i : Nat) (state : JobState) : Prop where
  reading : ∀ j, state = .running j → j.IsReading →
    ∀ note ∈ notes, note.call = i → Silent note.made
  harmless : state.Harmless → ∀ note ∈ notes, note.call = i → note.after = note.before
  unread : ∀ note ∈ notes, note.call = i → ∀ cause, note.answer = some (.error cause) →
    (∃ e, state = .over (.error e)) ∧ ∀ note' ∈ notes, note'.call = i → Silent note'.made

/-- What holds after every turn. Until the first run number is used, the table is that of the
start. -/
structure Invariant (settings : StorageSettings) (posts : List HotPost) (notes : List Note)
    (b : Board) : Prop where
  asked : ∀ (i : Nat) (j : Job), b.calls[i]? = some (.running j) → Asked settings j
  told : ∀ (i : Nat) (state : JobState), b.calls[i]? = some state → Told notes i state
  placed : ∀ note ∈ notes, ∃ state, b.calls[note.call]? = some state ∧
    ∀ result, note.state = JobState.over result → state = .over result
  increasing : (replacements notes).Pairwise fun r r' => r.runId < r'.runId
  fits : ∀ r ∈ replacements notes, Fits r ∧ r.runId ≤ b.runs.last
  table : replacements notes = [] ∧ b.posts = posts ∨ ∀ p ∈ b.posts, p.runId ≤ b.runs.last
  complete : ∀ note ∈ notes, ∀ rows runId horizon,
    .replace rows runId horizon true ∈ note.made → note.after = rows

variable {posts : List HotPost} {notes : List Note} {b : Board} {i : Nat} {j : Job}

theorem forall_mem_snoc {α : Type} {P : α → Prop} {xs : List α} {x : α} :
    (∀ y ∈ xs ++ [x], P y) ↔ (∀ y ∈ xs, P y) ∧ P x := by
  rw [List.forall_mem_append, List.forall_mem_singleton]

theorem replacements_append (notes : List Note) (note : Note) :
    replacements (notes ++ [note]) =
      replacements notes ++ note.made.filterMap Call.replacement? := by
  simp [replacements]

theorem applied_silent {made : List Call} (silent : Silent made) (posts : List HotPost) :
    made.foldl Call.applied posts = posts := by
  induction made with
  | nil => rfl
  | cons c made ih =>
    have unchanged : Call.applied posts c = posts := by
      have none := silent c (.head _)
      cases c with
      | replace => cases none
      | _ => rfl
    rw [List.foldl_cons, unchanged]
    exact ih fun c member => silent c (.tail _ member)

/-- A replacement that fits takes out everything else, if all rows of the table are of earlier
runs. -/
theorem applied_replace {r : Hot.Replacement} (fits : Fits r)
    (earlier : ∀ p ∈ posts, p.runId < r.runId) :
    Call.applied posts (.replace r.rows r.runId r.horizon true) = r.rows := by
  have gone :
      posts.filter (fun p => r.horizon ≤ p.engagement.createdAt && r.runId ≤ p.runId) = [] := by
    rw [List.filter_eq_nil_iff]
    intro p member
    simp [earlier p member]
  have kept : r.rows.filter (fun p => r.horizon ≤ p.engagement.createdAt && r.runId ≤ p.runId) =
      r.rows := by
    rw [List.filter_eq_self]
    intro p member
    simp [fits p member]
  calc
    Call.applied posts (.replace r.rows r.runId r.horizon true)
    _ = posts.filter (fun p => r.horizon ≤ p.engagement.createdAt && r.runId ≤ p.runId) ++
        r.rows.filter fun p => r.horizon ≤ p.engagement.createdAt && r.runId ≤ p.runId :=
      List.filter_append ..
    _ = r.rows := by rw [gone, kept, List.nil_append]

theorem applied_refused {made : List Call} (silent : Silent made) (posts rows : List HotPost)
    (runId : Nat) (horizon : UInt32) :
    (made ++ [Call.replace rows runId horizon false]).foldl Call.applied posts = posts := by
  rw [List.foldl_append, applied_silent silent]
  rfl

/-- The turns of a refresh, with one more. -/
theorem Told.of_effect {answer : Option (Except Error Answer)} {made : List Call} {state : JobState}
    {runs runs' : VersionClock} (told : Told notes i (.running j))
    (effect : Proceeds settings runs j answer made runs' state) (before : List HotPost) :
    Told (notes ++ [⟨i, answer, made, before, made.foldl Call.applied before, state⟩]) i state := by
  have quiet : ∀ note ∈ notes, note.call = i → ∀ cause, note.answer ≠ some (.error cause) := by
    intro note member own cause failed
    obtain ⟨⟨e, ends⟩, -⟩ := told.unread note member own cause failed
    cases ends
  cases effect with
  | silent silent harmless asked =>
    refine ⟨fun j' running reading => ?_, fun unchanged => ?_, ?_⟩
    · rw [forall_mem_snoc]
      exact ⟨told.reading j rfl ((asked j' running).2 reading), fun _ => silent⟩
    · rw [forall_mem_snoc]
      exact ⟨told.harmless (harmless unchanged), fun _ => applied_silent silent before⟩
    · rw [forall_mem_snoc]
      exact ⟨fun note member own cause failed => absurd failed (quiet note member own cause),
        fun _ _ failed => (by cases failed)⟩
  | @unread cause e made reading silent =>
    refine ⟨fun _ running => (by cases running), fun _ => ?_, fun _ _ _ _ _ => ⟨⟨e, rfl⟩, ?_⟩⟩
    · rw [forall_mem_snoc]
      exact ⟨told.harmless reading.harmless, fun _ => applied_silent silent before⟩
    · rw [forall_mem_snoc]
      exact ⟨told.reading j rfl reading, fun _ => silent⟩
  | replaced reading silent fits later harmless asked =>
    refine ⟨fun j' running isReading => absurd isReading (asked j' running).2,
      fun unchanged => ?_, ?_⟩
    · rw [forall_mem_snoc]
      refine ⟨told.harmless reading.harmless, fun _ => ?_⟩
      rw [harmless unchanged]
      exact applied_refused silent before _ _ _
    · rw [forall_mem_snoc]
      exact ⟨fun note member own cause failed => absurd failed (quiet note member own cause),
        fun _ _ failed => (by cases failed)⟩

/-- A turn of another refresh tells nothing about this one. -/
theorem Told.of_other {note : Note} {state : JobState} (told : Told notes i state)
    (other : note.call ≠ i) : Told (notes ++ [note]) i state where
  reading j running isReading := by
    rw [forall_mem_snoc]
    exact ⟨told.reading j running isReading, fun own => absurd own other⟩
  harmless unchanged := by
    rw [forall_mem_snoc]
    exact ⟨told.harmless unchanged, fun own => absurd own other⟩
  unread := by
    rw [forall_mem_snoc]
    refine ⟨fun note' member own cause failed => ?_, fun own => absurd own other⟩
    obtain ⟨ends, silent⟩ := told.unread note' member own cause failed
    rw [forall_mem_snoc]
    exact ⟨ends, silent, fun own => absurd own other⟩

/-- Before its first turn a refresh has done nothing. -/
theorem told_new {state : JobState} (new : ∀ note ∈ notes, note.call ≠ i) : Told notes i state where
  reading _ _ _ note member own := absurd own (new note member)
  harmless _ note member own := absurd own (new note member)
  unread note member own := absurd own (new note member)

theorem Invariant.call (invariant : Invariant settings posts notes b) (now : UInt32) :
    Invariant settings posts notes
      { b with calls := b.calls ++ [.running (.ofRefresh settings {} now)] } where
  asked i j waits := by
    rw [List.getElem?_append] at waits
    split_ifs at waits
    · exact invariant.asked i j waits
    · rw [List.getElem?_singleton] at waits
      split_ifs at waits
      cases waits
      exact .reading rfl rfl rfl
  told i state held := by
    rw [List.getElem?_append] at held
    split_ifs at held with placed
    · exact invariant.told i state held
    · refine told_new fun note member own => placed ?_
      obtain ⟨state, held, -⟩ := invariant.placed note member
      exact own ▸ (List.getElem?_eq_some_iff.1 held).1
  placed note member := by
    obtain ⟨state, held, ends⟩ := invariant.placed note member
    exact ⟨state, (List.getElem?_append_left (List.getElem?_eq_some_iff.1 held).1).trans held, ends⟩
  increasing := invariant.increasing
  fits := invariant.fits
  table := invariant.table
  complete := invariant.complete

/-- The replacement of a turn, if it asks for one, comes last and has a run number of its own. -/
theorem Proceeds.replacement {runs runs' : VersionClock} {answer : Option (Except Error Answer)}
    {made : List Call} {state : JobState}
    (effect : Proceeds settings runs j answer made runs' state) :
    Silent made ∧ runs' = runs ∨ ∃ reads r ok,
      made = reads ++ [.replace r.rows r.runId r.horizon ok] ∧ Silent reads ∧ Fits r ∧
        runs.last < r.runId ∧ runs' = ⟨r.runId⟩ := by
  cases effect with
  | silent silent => exact .inl ⟨silent, rfl⟩
  | unread _ silent => exact .inl ⟨silent, rfl⟩
  | replaced _ silent fits later => exact .inr ⟨_, _, _, rfl, silent, fits, later, rfl⟩

theorem Proceeds.asked {runs runs' : VersionClock} {answer : Option (Except Error Answer)}
    {made : List Call} {state : JobState}
    (effect : Proceeds settings runs j answer made runs' state)
    {j' : Job} (running : state = .running j') : Asked settings j' := by
  cases effect with
  | silent _ _ asked | replaced _ _ _ _ _ asked => exact (asked j' running).1
  | unread => cases running

/-- What a turn adds to the replacements, and what it makes of the table. -/
theorem Invariant.replaced (invariant : Invariant settings posts notes b) {runs : VersionClock}
    {made : List Call} {answer : Option (Except Error Answer)} {state : JobState}
    (effect : Proceeds settings b.runs j answer made runs state) (i : Nat)
    (answer' : Option (Except Error Answer)) (state' : JobState)
    (first : ∀ r, (replacements (notes ++
        [⟨i, answer', made, b.posts, made.foldl Call.applied b.posts, state'⟩])).head? = some r →
      ∀ p ∈ posts, p.runId < r.runId) :
    let notes' := notes ++ [⟨i, answer', made, b.posts, made.foldl Call.applied b.posts, state'⟩]
    ((replacements notes').Pairwise fun r r' => r.runId < r'.runId) ∧
    (∀ r ∈ replacements notes', Fits r ∧ r.runId ≤ runs.last) ∧
    (replacements notes' = [] ∧ made.foldl Call.applied b.posts = posts ∨
      ∀ p ∈ made.foldl Call.applied b.posts, p.runId ≤ runs.last) ∧
    ∀ note ∈ notes', ∀ rows runId horizon,
      .replace rows runId horizon true ∈ note.made → note.after = rows := by
  dsimp only
  rw [replacements_append] at first ⊢
  dsimp only at first ⊢
  rw [forall_mem_snoc]
  obtain ⟨silent, rfl⟩ | ⟨reads, r, ok, rfl, silent, fits, later, rfl⟩ := effect.replacement
  · have none : made.filterMap Call.replacement? = [] := List.filterMap_eq_nil_iff.2 silent
    rw [none, List.append_nil, applied_silent silent]
    refine ⟨invariant.increasing, invariant.fits, invariant.table, invariant.complete, ?_⟩
    intro rows runId horizon member
    cases silent _ member
  · have asks : (reads ++ [Call.replace r.rows r.runId r.horizon ok]).filterMap Call.replacement? =
        [r] := by
      rw [List.filterMap_append, List.filterMap_eq_nil_iff.2 silent]
      rfl
    rw [asks] at first ⊢
    have earlier : ∀ p ∈ b.posts, p.runId < r.runId := by
      obtain ⟨none, start⟩ | issued := invariant.table
      · rw [start]
        exact first r (by rw [none]; rfl)
      · exact fun p member => Nat.lt_of_le_of_lt (issued p member) later
    have after : (reads ++ [Call.replace r.rows r.runId r.horizon ok]).foldl Call.applied b.posts =
        Call.applied b.posts (.replace r.rows r.runId r.horizon ok) := by
      rw [List.foldl_append, applied_silent silent]
      rfl
    rw [after]
    refine ⟨?_, ?_, .inr fun p member => ?_, invariant.complete,
      fun rows runId horizon member => ?_⟩
    · rw [List.pairwise_append]
      refine ⟨invariant.increasing, List.pairwise_singleton .., fun old member new only => ?_⟩
      rw [List.mem_singleton.1 only]
      exact Nat.lt_of_le_of_lt (invariant.fits old member).2 later
    · rw [forall_mem_snoc]
      exact ⟨fun old member => ⟨(invariant.fits old member).1,
        Nat.le_trans (invariant.fits old member).2 (Nat.le_of_lt later)⟩, fits, Nat.le_refl _⟩
    · cases ok with
      | false => exact Nat.le_of_lt (earlier p member)
      | true =>
        rw [applied_replace fits earlier] at member
        exact Nat.le_of_eq (fits p member).1
    · obtain read | only := List.mem_append.1 member
      · cases silent _ read
      · cases List.mem_singleton.1 only
        exact applied_replace fits earlier

theorem Invariant.turn (invariant : Invariant settings posts notes b) {s : Service} {owner : TaskId}
    (waits : b.calls[i]? = some (.running j)) (same : s.settings = settings)
    (clock : s.runs = b.runs) (unrecorded : s.store.calls = [])
    (first : ∀ r, (replacements (notes ++ [.ofTurn b i s owner j])).head? = some r →
      ∀ p ∈ posts, p.runId < r.runId) :
    Invariant settings posts (notes ++ [.ofTurn b i s owner j])
      ⟨(s.run owner j).1.runs, (Note.ofTurn b i s owner j).after,
        b.calls.set i (s.run owner j).2⟩ := by
  have effect := (invariant.asked i j waits).proceeds owner same unrecorded
  rw [clock] at effect
  have inside : i < b.calls.length := (List.getElem?_eq_some_iff.1 waits).1
  unfold Note.ofTurn at first ⊢
  dsimp only at first ⊢
  generalize (s.run owner j).1.store.calls.reverse = made at effect first ⊢
  generalize (s.run owner j).1.runs = runs at effect ⊢
  generalize (s.run owner j).2 = state at effect first ⊢
  generalize engagementAnswer s owner j = answer at effect first ⊢
  have table := invariant.replaced effect i answer state first
  exact {
    asked := fun i' j' waits' => by
      by_cases own : i = i'
      · subst own
        rw [List.getElem?_set_self inside] at waits'
        exact effect.asked (Option.some.inj waits')
      · rw [List.getElem?_set_ne own] at waits'
        exact invariant.asked i' j' waits'
    told := fun i' state' held => by
      by_cases own : i = i'
      · subst own
        rw [List.getElem?_set_self inside] at held
        cases held
        exact (invariant.told i _ waits).of_effect effect b.posts
      · rw [List.getElem?_set_ne own] at held
        exact (invariant.told i' state' held).of_other own
    placed := by
      rw [forall_mem_snoc]
      refine ⟨fun note member => ?_, state, List.getElem?_set_self inside, fun _ ends => ends⟩
      obtain ⟨state', held, ends⟩ := invariant.placed note member
      by_cases own : i = note.call
      · refine ⟨state, own ▸ List.getElem?_set_self inside, fun result ended => ?_⟩
        cases (ends result ended).symm.trans (Option.some.inj (held.symm.trans (own ▸ waits)))
      · exact ⟨state', (List.getElem?_set_ne own).trans held, ends⟩
    increasing := table.1
    fits := table.2.1
    table := table.2.2.1
    complete := table.2.2.2 }

theorem History.invariant (history : History settings posts notes b)
    (first : ∀ r, (replacements notes).head? = some r → ∀ p ∈ posts, p.runId < r.runId) :
    Invariant settings posts notes b := by
  induction history with
  | start =>
    exact {
      asked := fun _ _ held => by cases held
      told := fun _ _ held => by cases held
      placed := List.forall_mem_nil _
      increasing := .nil
      fits := List.forall_mem_nil _
      table := .inl ⟨rfl, rfl⟩
      complete := List.forall_mem_nil _ }
  | call now history ih => exact (ih first).call now
  | turn owner history waits same clock unrecorded ih =>
    refine (ih fun r head => first r ?_).turn waits same clock unrecorded first
    rw [replacements_append, List.head?_append, head, Option.some_or]

/-- However refreshes overlap and whatever fails, the table is exactly the rows of one run, if those
that it has at first are of runs before the first one. -/
theorem History.oneRun (history : History settings posts notes b)
    (first : ∀ r, (replacements notes).head? = some r → ∀ p ∈ posts, p.runId < r.runId) :
    OneRun notes where
  increasing := (history.invariant first).increasing
  own r member p row := (((history.invariant first).fits r member).1 p row).1
  complete := (history.invariant first).complete
  failed note member e ended note' member' own := by
    obtain ⟨state, held, stays⟩ := (history.invariant first).placed note member
    refine ((history.invariant first).told note.call state held).harmless ?_ note' member' own
    rw [stays _ ended]
    trivial
  unread note member cause failed := by
    obtain ⟨state, held, ended⟩ := (history.invariant first).placed note member
    exact (((history.invariant first).told note.call state held).unread note member rfl cause
      failed).2

/-- A place in a ranking of an earlier time. -/
def outdated : HotPost where
  engagement := ⟨"a", "", 1, 1, 1, 0, 0, 0, 0⟩
  score := 1.0
  computedAt := 1
  runId := 3

/-- A post that is liked. -/
def liked : Engagement := ⟨"b", "", 1, 1, 4, 10, 2, 1, 21000⟩

/-- A store that has engagement, at its seventh microsecond. -/
def engaged (runs : VersionClock) : Service where
  settings := {}
  wallSeconds := 0
  wallMicros := 7
  ingest := .start {}
  ticking := ⟨⟨1000, 1000⟩, none⟩
  runs := runs
  store := { engagement := [liked] }

/-- Of two refreshes the second, of an earlier time, goes first. -/
theorem oneRun_outdated : ∃ notes b, History {} [outdated] notes b ∧ OneRun notes ∧
    b.posts = Hot.rank [liked] 9 8 1000 ∧ (replacements notes).map (fun r => (r.runId, r.rows)) =
      [(7, Hot.rank [liked] 5 7 1000), (8, Hot.rank [liked] 9 8 1000)] := by
  have first : History {} [outdated] [] ⟨{}, [outdated], []⟩ := .start
  have second := ((first.call 9).call 5).turn (.call 1) (i := 1) (s := engaged {}) rfl rfl rfl rfl
  have both := second.turn (.call 0) (i := 0) (s := engaged ⟨7⟩) rfl rfl rfl rfl
  have runs := both.oneRun (by
    intro r head p member
    cases List.mem_singleton.1 member
    cases head
    decide)
  exact ⟨_, _, both, runs, runs.complete _ (.tail _ (.head _)) _ _ _ (.tail _ (.head _)), rfl⟩

end RelayStore.Service

import RelayStore.Proofs.Service.Guarded

/-!
The outcome of a call that takes a context: a query, a count, a ping or a refresh of the ranking.
Main statement: `Pending.resumes`, whatever happened before, a turn ends the call in exactly one
way, and an error of the store names its table and its operation once.
-/
namespace RelayStore

namespace Error

/-- An error that is not wrapped: it names its call already, or none was made. -/
def Final : Error → Prop
  | execution .. | cancelled _ | timeout .. | preparation _ => True
  | _ => False

/-- An execution error that holds another one. -/
def Nested : Error → Prop
  | execution _ _ (execution ..) => True
  | _ => False

/-- What a failure of a call becomes: it stays, or is wrapped with the table and the operation. -/
inductive Labelled (table operation : String) : Error → Error → Prop where
  | kept {e : Error} (final : e.Final) : Labelled table operation e e
  | wrapped {e : Error} (plain : ¬ e.Final) :
      Labelled table operation e (.execution table operation e)

theorem labelled_during (table operation : String) (e : Error) :
    Labelled table operation e (e.during table operation) := by
  cases e with
  | execution | cancelled | timeout | preparation => exact .kept trivial
  | _ => exact .wrapped not_false

theorem Labelled.eq_during {table operation : String} {cause e : Error}
    (labelled : Labelled table operation cause e) : e = cause.during table operation := by
  cases labelled with
  | kept final => cases cause <;> first | rfl | exact final.elim
  | wrapped plain => cases cause <;> first | rfl | exact absurd trivial plain

/-- Only an error that was nested before is nested when it is labelled, and it has not changed. -/
theorem Labelled.eq_of_nested {table operation : String} {cause e : Error}
    (labelled : Labelled table operation cause e) (nested : e.Nested) : e = cause := by
  cases labelled with
  | kept => rfl
  | wrapped plain =>
    cases cause with
    | execution => exact absurd trivial plain
    | _ => exact nested.elim

end Error

namespace Service
open Storage

/-- The calls that take a context. -/
inductive Operation where
  | query (f : Filter)
  | count (f : Filter)
  | ping
  | refresh (now : UInt32)

namespace Operation

def name : Operation → String
  | query _ => "query"
  | count _ => "count"
  | ping => "ping"
  | refresh _ => "refresh_hot_posts"

/-- The deadline: that of the context, else the default. A refresh has no default. -/
def limit (settings : StorageSettings) (c : Context) : Operation → Option Decimal.Span
  | refresh _ => c.limit
  | _ => match c.limit with
    | some limit => some limit
    | none => settings.queryTimeout

def guard (settings : StorageSettings) (c : Context) (o : Operation) : Guard :=
  ⟨o.name, o.limit settings c, c.token⟩

def job (settings : StorageSettings) (c : Context) : Operation → Job
  | query f => .ofFilter settings c f
  | count f => .ofCount settings c f
  | ping => .ping (.ofPing settings c)
  | refresh now => .ofRefresh settings c now

/-- The job that waits for this read. -/
def reading (r : Read) : Operation → Job
  | query f => .query (.ofFilter f) r
  | count f => .count (.ofFilter f) r
  | ping => .ping r
  | refresh now => .refresh now r

/-- The table and the operation that an error of the read names. -/
def place : Operation → String × String
  | query f => ((Plan.ofFilter f).table.name, "query")
  | count f => ((Plan.ofFilter f).table.name, "count")
  | ping => ("events", "ping")
  | refresh _ => ("engagement_counters", "select")

/-- What the call returns when the read has been answered. A refresh goes on to its replacement. -/
def result? (a : Answer) : Operation → Option Result
  | query _ => some (.events (Event.firstOfEach (Assembly.ofRows (rowsOf a)).events))
  | count f => some (.counted ⟨numberOf a, (Plan.ofFilter f).unconstrained⟩)
  | ping => some .reached
  | refresh _ => none

theorem reading_inj {o : Operation} {r r' : Read} (same : o.reading r = o.reading r') : r = r' := by
  cases o <;> cases same <;> rfl

theorem not_replacing {o : Operation} {r r' : Read} {j : Job} {answer : Except Error Nat}
    {P : Prop} (reading : j = o.reading r) (waiting : j = .replacing answer r') : P := by
  cases o <;> cases reading.symm.trans waiting

@[simp] theorem reads_reading (o : Operation) (r : Read) : (o.reading r).reads = [r] := by
  cases o <;> rfl

end Operation

/-- The job of a call that has not ended: it has just been made, or was resumed in some state of the
service and waits. -/
inductive Pending (settings : StorageSettings) (c : Context) (o : Operation) : Job → Prop where
  | made : Pending settings c o (o.job settings c)
  | resumed {s : Service} {owner : TaskId} {j j' : Job} (pending : Pending settings c o j)
      (waits : (s.run owner j).2 = .running j') : Pending settings c o j'

/-- The store has answered the call that a job waits for, and this is what the operation makes of
it. -/
inductive Reply (s : Service) (owner : TaskId) (o : Operation) (j : Job) :
    Except Error Result → Prop where
  | failed {r : Read} {cause e : Error} (reading : j = o.reading r)
      (answer : s.answer? owner r = some (.error cause))
      (labelled : Error.Labelled o.place.1 o.place.2 cause e) : Reply s owner o j (.error e)
  | read {r : Read} {a : Answer} {result : Result} (reading : j = o.reading r)
      (answer : s.answer? owner r = some (.ok a)) (returned : o.result? a = some result) :
      Reply s owner o j (.ok result)
  | refused {now : UInt32} {r : Read} {a : Answer} {cause e : Error} (refresh : o = .refresh now)
      (reading : j = o.reading r) (answer : s.answer? owner r = some (.ok a))
      (tells : s.store.Tells) (fails : s.store.replaceAnswer = .error cause)
      (labelled : Error.Labelled "hot_posts" "replace" cause e) : Reply s owner o j (.error e)
  | ranked {now : UInt32} {r : Read} {a : Answer} (refresh : o = .refresh now)
      (reading : j = o.reading r) (answer : s.answer? owner r = some (.ok a))
      (tells : s.store.Tells) (works : s.store.replaceAnswer = .ok ()) :
      Reply s owner o j (.ok (.ranked (s.replacementOf now a).1.rows.length))
  | refusedLate {r : Read} {ticket : Nat} {alarm : Option Nat} {cause e : Error}
      (waiting : j = .replacing (.error cause) r) (parked : r.place = .parked ticket alarm)
      (admitted : s.store.replaces.isAdmitted ticket = true)
      (labelled : Error.Labelled "hot_posts" "replace" cause e) : Reply s owner o j (.error e)
  | rankedLate {n : Nat} {r : Read} {ticket : Nat} {alarm : Option Nat}
      (waiting : j = .replacing (.ok n) r) (parked : r.place = .parked ticket alarm)
      (admitted : s.store.replaces.isAdmitted ticket = true) : Reply s owner o j (.ok (.ranked n))

/-- The store has answered a call of this job with an error. -/
inductive Raised (s : Service) (owner : TaskId) (j : Job) (e : Error) : Prop where
  | read {r : Read} (reading : r ∈ j.reads) (answer : s.answer? owner r = some (.error e))
  | replacement (fails : s.store.replaceAnswer = .error e)
  | heldBack {r : Read} (waiting : j = .replacing (.error e) r)

/-- How a turn of a call goes: these are the calls of the store that it makes, and what becomes of
it. -/
structure Resumes (s : Service) (owner : TaskId) (o : Operation) (j : Job) (r : Read)
    (made : List Call) (state : JobState) : Prop where
  /-- A cancellation goes before everything. -/
  cancelled : s.Cancelled r.guard → made = [] ∧ state = .over (.error (.cancelled o.name))
  /-- The store's answer goes before the deadline. -/
  answered : ¬ s.Cancelled r.guard → ∀ result, Reply s owner o j result → state = .over result
  late : ¬ s.Cancelled r.guard → (∀ result, ¬ Reply s owner o j result) →
    ∀ limit, s.Passed r limit → state = .over (.error (.timeout o.name limit))
  waits : ¬ s.Cancelled r.guard → (∀ result, ¬ Reply s owner o j result) →
    (∀ limit, ¬ s.Passed r limit) → ∃ j', state = .running j'
  /-- Only an error that the store returns like this holds an execution error in another one. -/
  nested : ∀ e, state = .over (.error e) → e.Nested → Raised s owner j e
  /-- What a refresh waits for is the store's answer to the replacement that it has made, whether
  that was done or failed. -/
  heldBack : ∀ answer r', state = .running (.replacing answer r') →
    (∃ r, j = .replacing answer r) ∨ ∃ now r a, o = .refresh now ∧ j = o.reading r ∧
      s.answer? owner r = some (.ok a) ∧ answer = s.replacedBy now a

variable {s s' : Service} {owner : TaskId} {o : Operation} {j : Job} {r r' : Read}
  {made : List Call} {x : Option (Except Error Answer)}

theorem answer_unique {r' : Read} {a a' : Except Error Answer} (reading : j = o.reading r)
    (reading' : j = o.reading r') (answer : s.answer? owner r = some a)
    (answer' : s.answer? owner r' = some a') : a = a' := by
  cases Operation.reading_inj (reading.symm.trans reading')
  exact Option.some.inj (answer.symm.trans answer')

/-- What a store answers to a call is one thing. -/
theorem Reply.unique {result result' : Except Error Result} (reply : Reply s owner o j result)
    (reply' : Reply s owner o j result') : result = result' := by
  cases reply with
  | failed reading answer labelled =>
    cases reply' with
    | failed reading' answer' labelled' =>
      cases answer_unique reading reading' answer answer'
      rw [labelled.eq_during, labelled'.eq_during]
    | read reading' answer' | refused _ reading' answer' | ranked _ reading' answer' =>
      cases answer_unique reading reading' answer answer'
    | refusedLate waiting | rankedLate waiting =>
      exact Operation.not_replacing reading waiting
  | read reading answer returned =>
    cases reply' with
    | failed reading' answer' => cases answer_unique reading reading' answer answer'
    | read reading' answer' returned' =>
      cases answer_unique reading reading' answer answer'
      cases returned.symm.trans returned'
      rfl
    | refused refresh | ranked refresh => subst refresh; cases returned
    | refusedLate waiting | rankedLate waiting =>
      exact Operation.not_replacing reading waiting
  | refused refresh reading answer tells fails labelled =>
    cases reply' with
    | failed reading' answer' => cases answer_unique reading reading' answer answer'
    | read _ _ returned => subst refresh; cases returned
    | refused _ _ _ _ fails' labelled' =>
      cases fails.symm.trans fails'
      rw [labelled.eq_during, labelled'.eq_during]
    | ranked _ _ _ _ works => cases fails.symm.trans works
    | refusedLate waiting | rankedLate waiting =>
      exact Operation.not_replacing reading waiting
  | ranked refresh reading answer tells works =>
    cases reply' with
    | failed reading' answer' => cases answer_unique reading reading' answer answer'
    | read _ _ returned => subst refresh; cases returned
    | refused _ _ _ _ fails => cases fails.symm.trans works
    | ranked refresh' reading' answer' =>
      cases answer_unique reading reading' answer answer'
      cases refresh.symm.trans refresh'
      rfl
    | refusedLate waiting | rankedLate waiting =>
      exact Operation.not_replacing reading waiting
  | refusedLate waiting parked admitted labelled =>
    cases reply' with
    | failed reading | read reading | refused _ reading | ranked _ reading =>
      exact Operation.not_replacing reading waiting
    | refusedLate waiting' _ _ labelled' =>
      cases waiting.symm.trans waiting'
      rw [labelled.eq_during, labelled'.eq_during]
    | rankedLate waiting' => cases waiting.symm.trans waiting'
  | rankedLate waiting =>
    cases reply' with
    | failed reading | read reading | refused _ reading | ranked _ reading =>
      exact Operation.not_replacing reading waiting
    | refusedLate waiting' => cases waiting.symm.trans waiting'
    | rankedLate waiting' =>
      cases waiting.symm.trans waiting'
      rfl

theorem Reply.raised {e : Error} (reply : Reply s owner o j (.error e)) (nested : e.Nested) :
    Raised s owner j e := by
  cases reply with
  | failed reading answer labelled =>
    obtain rfl := labelled.eq_of_nested nested
    exact .read (by simp [reading]) answer
  | refused _ _ _ _ fails labelled =>
    obtain rfl := labelled.eq_of_nested nested
    exact .replacement fails
  | refusedLate waiting _ _ labelled =>
    obtain rfl := labelled.eq_of_nested nested
    exact .heldBack waiting

theorem resumes_cancelled (gone : s.Cancelled r.guard) :
    Resumes s owner o j r [] (.over (.error (.cancelled o.name))) where
  cancelled _ := ⟨rfl, rfl⟩
  answered going := absurd gone going
  late going := absurd gone going
  waits going := absurd gone going
  nested _ ended nested := by
    cases ended
    exact nested.elim
  heldBack := nofun

theorem resumes_answered {result : Except Error Result} (going : ¬ s.Cancelled r.guard)
    (reply : Reply s owner o j result) : Resumes s owner o j r made (.over result) where
  cancelled gone := absurd gone going
  answered _ _ reply' := congrArg _ (reply.unique reply')
  late _ silent := absurd reply (silent _)
  waits _ silent := absurd reply (silent _)
  nested e ended nested := by
    cases ended
    exact reply.raised nested
  heldBack := nofun

theorem resumes_late {limit : Decimal.Span} (going : ¬ s.Cancelled r.guard)
    (silent : ∀ result, ¬ Reply s owner o j result) (passed : s.Passed r limit) :
    Resumes s owner o j r made (.over (.error (.timeout o.name limit))) where
  cancelled gone := absurd gone going
  answered _ _ reply := absurd reply (silent _)
  late _ _ limit' passed' := by
    cases passed.1.symm.trans passed'.1
    rfl
  waits _ _ ahead := absurd passed (ahead _)
  nested _ ended nested := by
    cases ended
    exact nested.elim
  heldBack := nofun

theorem resumes_waits {j' : Job} (going : ¬ s.Cancelled r.guard)
    (silent : ∀ result, ¬ Reply s owner o j result) (ahead : ∀ limit, ¬ s.Passed r limit)
    (heldBack : ∀ answer r', j' = .replacing answer r' →
      (∃ r, j = .replacing answer r) ∨ ∃ now r a, o = .refresh now ∧ j = o.reading r ∧
        s.answer? owner r = some (.ok a) ∧ answer = s.replacedBy now a) :
    Resumes s owner o j r made (.running j') where
  cancelled gone := absurd gone going
  answered _ _ reply := absurd reply (silent _)
  late _ _ _ passed := absurd passed (ahead _)
  waits _ _ _ := ⟨j', rfl⟩
  nested _ ended := by cases ended
  heldBack answer r' waiting := heldBack answer r' (JobState.running.inj waiting)

/-! Each operation. -/

/-- A read that is not answered gives no reply. -/
theorem silent_reading (unanswered : s.answer? owner r = none) (result : Except Error Result) :
    ¬ Reply s owner o (o.reading r) result := by
  have contradicts {r' : Read} {a : Except Error Answer} (reading : o.reading r = o.reading r')
      (answer : s.answer? owner r' = some a) : False := by
    cases Operation.reading_inj reading
    cases unanswered.symm.trans answer
  intro reply
  cases reply with
  | failed reading answer | read reading answer | refused _ reading answer
  | ranked _ reading answer =>
    exact contradicts reading answer
  | refusedLate waiting | rankedLate waiting => exact Operation.not_replacing rfl waiting

/-- A replacement that is held back gives no reply yet, whatever its answer will be. -/
theorem silent_refresh {now : UInt32} {a : Answer} (answer : s.answer? owner r = some (.ok a))
    (keeps : ¬ s.store.Tells) (result : Except Error Result) :
    ¬ Reply s owner (.refresh now) (.refresh now r) result := by
  intro reply
  cases reply with
  | failed reading answer' =>
    cases reading
    cases answer.symm.trans answer'
  | read _ _ returned => cases returned
  | refused _ _ _ tells | ranked _ _ _ tells => exact keeps tells
  | refusedLate waiting | rankedLate waiting => cases waiting

theorem silent_replacing {now : UInt32} {answer : Except Error Nat} {ticket : Nat}
    {alarm : Option Nat} (parked : r.place = .parked ticket alarm)
    (held : s.store.replaces.isAdmitted ticket = false) (result : Except Error Result) :
    ¬ Reply s owner (.refresh now) (.replacing answer r) result := by
  intro reply
  cases reply with
  | failed reading | refused _ reading | ranked _ reading => cases reading
  | read _ _ returned => cases returned
  | refusedLate waiting parked' admitted | rankedLate waiting parked' admitted =>
    cases waiting
    cases parked.symm.trans parked'
    cases held.symm.trans admitted

/-- What a query, a count or a ping makes of the turn of its read. -/
theorem run_reading (turn : s.read owner r = (s', r', x)) (plain : ∀ now, o ≠ .refresh now) :
    (s.run owner (o.reading r)).1.store.calls = s'.store.calls ∧
      match x with
      | none => (s.run owner (o.reading r)).2 = .running (o.reading r')
      | some (.ok a) => ∃ result, o.result? a = some result ∧
        (s.run owner (o.reading r)).2 = .over (.ok result)
      | some (.error e) =>
        (s.run owner (o.reading r)).2 = .over (.error (e.during o.place.1 o.place.2)) := by
  cases o with
  | refresh now => exact absurd rfl (plain now)
  | query f =>
    obtain _ | ⟨e | a⟩ := x
    · simp only [Operation.reading, run, turn, and_self]
    · simp only [Operation.reading, run, turn, finishQuery]
      exact ⟨rfl, rfl⟩
    · simp only [Operation.reading, run, turn, finishQuery]
      exact ⟨rfl, _, rfl, rfl⟩
  | count f =>
    obtain _ | ⟨e | a⟩ := x
    · simp only [Operation.reading, run, turn, and_self]
    · simp only [Operation.reading, run, turn]
      exact ⟨rfl, rfl⟩
    · simp only [Operation.reading, run, turn]
      exact ⟨rfl, _, rfl, rfl⟩
  | ping =>
    obtain _ | ⟨e | a⟩ := x
    · simp only [Operation.reading, run, turn, and_self]
    · simp only [Operation.reading, run, turn]
      exact ⟨trivial, rfl⟩
    · simp only [Operation.reading, run, turn]
      exact ⟨trivial, _, rfl, rfl⟩

/-- A turn of a query, a count or a ping, and how its read goes on if it waits. -/
theorem resumes_reading (s : Service) (owner : TaskId) (r : Read) (plain : ∀ now, o ≠ .refresh now)
    (named : r.guard.operation = o.name) :
    (∃ made, (s.run owner (o.reading r)).1.store.calls = made ++ s.store.calls ∧
      Resumes s owner o (o.reading r) r made (s.run owner (o.reading r)).2) ∧
    ∀ j', (s.run owner (o.reading r)).2 = .running j' →
      ∃ r', j' = o.reading r' ∧ r'.guard = r.guard := by
  rcases turn : s.read owner r with ⟨s', r', x⟩
  obtain ⟨calls, outcome⟩ := run_reading turn plain
  rw [calls]
  generalize (s.run owner (o.reading r)).2 = state at outcome ⊢
  cases readTurn turn with
  | cancelled gone kept silent =>
    obtain rfl : state = .over (.error (.cancelled o.name)) := named ▸ outcome
    exact ⟨⟨[], silent, resumes_cancelled gone⟩, over_running⟩
  | @late limit going kept calls unanswered passed =>
    obtain rfl : state = .over (.error (.timeout o.name limit)) := named ▸ outcome
    exact ⟨⟨_, calls, resumes_late going (silent_reading unanswered) passed⟩, over_running⟩
  | waiting going kept calls unanswered ahead =>
    subst outcome
    refine ⟨⟨_, calls, resumes_waits going (silent_reading unanswered) ahead
      fun _ _ => Operation.not_replacing rfl⟩, ?_⟩
    rintro j' ⟨⟩
    exact ⟨_, rfl, rfl⟩
  | @answered a going kept calls answer =>
    cases a with
    | error cause =>
      subst outcome
      exact ⟨⟨_, calls, resumes_answered going (.failed rfl answer (Error.labelled_during ..))⟩,
        over_running⟩
    | ok a =>
      obtain ⟨result, returned, rfl⟩ := outcome
      exact ⟨⟨_, calls, resumes_answered going (.read rfl answer returned)⟩, over_running⟩

/-- A turn of a refresh that reads the engagement. -/
theorem resumes_refresh (s : Service) (owner : TaskId) (now : UInt32) (r : Read)
    (named : r.guard.operation = "refresh_hot_posts") :
    (∃ made, (s.run owner (.refresh now r)).1.store.calls = made ++ s.store.calls ∧
      Resumes s owner (.refresh now) (.refresh now r) r made (s.run owner (.refresh now r)).2) ∧
    ∀ j', (s.run owner (.refresh now r)).2 = .running j' →
      ∃ r', r'.guard = r.guard ∧ (j' = .refresh now r' ∨
        ∃ answer ticket alarm, r'.place = .parked ticket alarm ∧ j' = .replacing answer r') := by
  obtain ⟨made, calls, turn⟩ := refreshTurn s owner now r
  rw [calls]
  generalize (s.run owner (.refresh now r)).2 = state at turn
  generalize (s.run owner (.refresh now r)).1.runs = runs at turn
  have silent (unanswered : s.answer? owner r = none) (result : Except Error Result) :
      ¬ Reply s owner (.refresh now) (.refresh now r) result :=
    silent_reading unanswered result
  have timeout (limit : Decimal.Span) : JobState.over (.error (.timeout r.guard.operation limit)) =
      .over (.error (.timeout (Operation.refresh now).name limit)) := by rw [named]; rfl
  cases turn with
  | cancelled gone =>
    rw [named]
    exact ⟨⟨[], rfl, resumes_cancelled gone⟩, over_running⟩
  | late going unanswered passed =>
    rw [timeout]
    exact ⟨⟨_, rfl, resumes_late going (silent unanswered) passed⟩, over_running⟩
  | waiting going unanswered ahead =>
    refine ⟨⟨_, rfl, resumes_waits going (silent unanswered) ahead nofun⟩, ?_⟩
    rintro j' ⟨⟩
    exact ⟨{ r with place := .parked _ _ }, rfl, .inl rfl⟩
  | unread going answer =>
    exact ⟨⟨_, rfl, resumes_answered going (.failed rfl answer (Error.labelled_during ..))⟩,
      over_running⟩
  | @replaced a going answer tells =>
    refine ⟨⟨_, rfl, resumes_answered going ?_⟩, over_running⟩
    cases replaced : s.store.replaceAnswer with
    | error cause =>
      rw [replacedBy, replaced]
      exact .refused rfl rfl answer tells replaced (Error.labelled_during ..)
    | ok =>
      rw [replacedBy, replaced]
      exact .ranked rfl rfl answer tells replaced
  | overdue going answer keeps passed =>
    rw [timeout]
    exact ⟨⟨_, rfl, resumes_late going (silent_refresh answer keeps) passed⟩, over_running⟩
  | @held a _ _ going answer keeps ahead =>
    refine ⟨⟨_, rfl, resumes_waits going (silent_refresh answer keeps) ahead ?_⟩, ?_⟩
    · rintro _ _ ⟨⟩
      exact .inr ⟨now, r, a, rfl, rfl, answer, rfl⟩
    · rintro j' ⟨⟩
      exact ⟨{ r with place := .parked _ _ }, rfl, .inr ⟨_, _, _, rfl, rfl⟩⟩

/-- A turn of a refresh that waits for the answer to its replacement. -/
theorem resumes_replacing (s : Service) (owner : TaskId) (now : UInt32)
    (answer : Except Error Nat) (r : Read) {ticket : Nat} {alarm : Option Nat}
    (parked : r.place = .parked ticket alarm) (named : r.guard.operation = "refresh_hot_posts") :
    (∃ made, (s.run owner (.replacing answer r)).1.store.calls = made ++ s.store.calls ∧
      Resumes s owner (.refresh now) (.replacing answer r) r made
        (s.run owner (.replacing answer r)).2) ∧
    ∀ j', (s.run owner (.replacing answer r)).2 = .running j' → j' = .replacing answer r := by
  have kept := s.awaitReplacement_kept answer r
  obtain ⟨g, q, place⟩ := r
  subst parked
  have turn := replacingTurn s owner answer g q ticket alarm
  have calls : (s.run owner (.replacing answer ⟨g, q, .parked ticket alarm⟩)).1.store.calls =
      s.store.calls := by
    rw [run_replacing]
    exact kept.1
  rw [calls]
  generalize (s.run owner (.replacing answer ⟨g, q, .parked ticket alarm⟩)).2 = state at turn ⊢
  cases turn with
  | cancelled gone =>
    rw [named]
    exact ⟨⟨[], rfl, resumes_cancelled gone⟩, over_running⟩
  | admitted going parked admitted =>
    refine ⟨⟨[], rfl, resumes_answered going ?_⟩, over_running⟩
    cases answer with
    | error cause => exact .refusedLate rfl parked admitted (Error.labelled_during ..)
    | ok n => exact .rankedLate rfl parked admitted
  | late going parked held passed =>
    cases parked
    rw [named]
    exact ⟨⟨[], rfl, resumes_late going (silent_replacing rfl held) passed⟩, over_running⟩
  | waiting going parked held ahead =>
    cases parked
    refine ⟨⟨[], rfl, resumes_waits going (silent_replacing rfl held) ahead ?_⟩, ?_⟩
    · rintro _ _ ⟨⟩
      exact .inl ⟨_, rfl⟩
    · rintro j' ⟨⟩
      rfl

/-- The job of a call that waits for its read, or for the answer to its replacement, under its
guard. -/
inductive Underway (g : Guard) : Operation → Job → Prop where
  | reading {o : Operation} {r : Read} (guarded : r.guard = g) : Underway g o (o.reading r)
  | replacing {now : UInt32} {answer : Except Error Nat} {r : Read} {ticket : Nat}
      {alarm : Option Nat} (guarded : r.guard = g) (parked : r.place = .parked ticket alarm) :
      Underway g (.refresh now) (.replacing answer r)

/-- A turn of a call that waits: it goes on under the same guard if it waits on. -/
theorem Underway.turn {g : Guard} (waits : Underway g o j) (named : g.operation = o.name)
    (s : Service) (owner : TaskId) :
    (∃ r made, j.reads = [r] ∧ r.guard = g ∧
      (s.run owner j).1.store.calls = made ++ s.store.calls ∧
      Resumes s owner o j r made (s.run owner j).2) ∧
    ∀ j', (s.run owner j).2 = .running j' → Underway g o j' := by
  cases waits with
  | @reading o r guarded =>
    subst guarded
    by_cases plain : ∀ now, o ≠ .refresh now
    · obtain ⟨⟨made, calls, resumes⟩, goesOn⟩ := resumes_reading s owner r plain named
      refine ⟨⟨r, made, o.reads_reading r, rfl, calls, resumes⟩, fun j' running => ?_⟩
      obtain ⟨r', rfl, kept⟩ := goesOn j' running
      exact .reading kept
    · obtain ⟨now, rfl⟩ := not_forall_not.1 plain
      obtain ⟨⟨made, calls, resumes⟩, goesOn⟩ := resumes_refresh s owner now r named
      refine ⟨⟨r, made, rfl, rfl, calls, resumes⟩, fun j' running => ?_⟩
      obtain ⟨r', kept, rfl | ⟨answer, ticket, alarm, parked, rfl⟩⟩ := goesOn j' running
      · exact .reading (o := .refresh now) kept
      · exact .replacing kept parked
  | @replacing now answer r ticket alarm guarded parked =>
    subst guarded
    obtain ⟨⟨made, calls, resumes⟩, goesOn⟩ := resumes_replacing s owner now answer r parked named
    refine ⟨⟨r, made, rfl, rfl, calls, resumes⟩, fun j' running => ?_⟩
    rw [goesOn j' running]
    exact .replacing rfl parked

variable {settings : StorageSettings} {c : Context}

theorem underway_made (settings : StorageSettings) (c : Context) (o : Operation) :
    Underway (o.guard settings c) o (o.job settings c) := by
  have limit : (match c.limit with
      | some limit => some limit
      | none => settings.queryTimeout) = c.limit.or settings.queryTimeout := by
    cases c.limit <;> rfl
  cases o with
  | query f =>
    exact .reading (o := .query f) (r := .ofQuery settings c (.ofFilter f))
      (congrArg (fun l => (⟨"query", l, c.token⟩ : Guard)) limit.symm)
  | count f =>
    exact .reading (o := .count f) (r := .ofCount settings c (.ofFilter f))
      (congrArg (fun l => (⟨"count", l, c.token⟩ : Guard)) limit.symm)
  | ping =>
    exact .reading (o := .ping) (r := .ofPing settings c)
      (congrArg (fun l => (⟨"ping", l, c.token⟩ : Guard)) limit.symm)
  | refresh now => exact .reading (o := .refresh now) (r := .ofRefresh settings c now) rfl

theorem Pending.underway (pending : Pending settings c o j) :
    Underway (o.guard settings c) o j := by
  induction pending with
  | made => exact underway_made settings c o
  | @resumed s owner _ _ _ running ih => exact (ih.turn rfl s owner).2 _ running

/-- Whatever has happened since a call was made, a turn goes on with its only read, under its
guard. -/
theorem Pending.resumes (pending : Pending settings c o j) (s : Service) (owner : TaskId) :
    ∃ r made, j.reads = [r] ∧ r.guard = o.guard settings c ∧
      (s.run owner j).1.store.calls = made ++ s.store.calls ∧
      Resumes s owner o j r made (s.run owner j).2 :=
  (pending.underway.turn rfl s owner).1

/-- A store that fails every call. -/
def storeDown : Service where
  settings := {}
  wallSeconds := 0
  wallMicros := 0
  ingest := .start {}
  ticking := ⟨⟨1000, 1000⟩, none⟩
  store := { failing := some (fun _ => true, .store "down") }

/-- A store that fails to replace the ranking, and does not say so yet. -/
def failingLate : Service :=
  { storeDown with store := {
      failing := some (fun kind => kind = .replace, .store "down")
      holdsFailures := true
      replaces := { holding := 1 } } }

/-- Then it says so. -/
def admitting : Service :=
  { storeDown with store := { replaces := { line := [⟨1, .foreground, true⟩] } } }

/-- The store's answer is there at once, so that a deadline of zero does not end the ping. That of a
refresh comes later, and names its table as well. -/
theorem resumes_storeDown :
    (storeDown.run .foreground (Operation.ping.job {} { limit := some ⟨0⟩ })).2 =
      .over (.error (.execution "events" "ping" (.store "down"))) ∧
    ∃ j, (failingLate.run .foreground ((Operation.refresh 9).job {} {})).2 = .running j ∧
      (admitting.run .foreground j).2 =
        .over (.error (.execution "hot_posts" "replace" (.store "down"))) := by
  refine ⟨?_, _, rfl, ?_⟩
  · have pending : Pending {} { limit := some ⟨0⟩ } .ping
      (Operation.ping.job {} { limit := some ⟨0⟩ }) := .made
    obtain ⟨r, made, reads, guarded, calls, resumes⟩ := pending.resumes storeDown .foreground
    cases reads
    have going : ¬ storeDown.Cancelled ⟨"ping", some ⟨0⟩, none⟩ := by simp [Cancelled]
    exact resumes.answered going _ (.failed rfl rfl (.wrapped not_false))
  · have pending : Pending {} {} (.refresh 9) ((Operation.refresh 9).job {} {}) := .made
    have waiting := @Pending.resumed _ _ _ failingLate .foreground _ _ pending rfl
    obtain ⟨r, made, reads, guarded, calls, resumes⟩ := waiting.resumes admitting .foreground
    cases reads
    have going : ¬ admitting.Cancelled ⟨"refresh_hot_posts", none, none⟩ := by simp [Cancelled]
    exact resumes.answered going _ (.refusedLate rfl rfl rfl (.wrapped not_false))

end Service
end RelayStore

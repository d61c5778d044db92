import RelayStore.Proofs.Service.Merging

/-!
Guarded calls: one turn of a read, of a refresh and of a replacement whose answer is held back, in
any state of the service. A cancellation goes before the store's answer and the answer before the
deadline.
-/
namespace RelayStore.Service
open Storage

/-- Whether the token of a guard has been cancelled. -/
def Cancelled (s : Service) (g : Guard) : Prop := ∃ t ∈ g.token, t ∈ s.cancelled

/-- The deadline of a read has passed. One that begins has the time of its limit from now. -/
def Passed (s : Service) (r : Read) (limit : Decimal.Span) : Prop :=
  r.guard.limit = some limit ∧
    match r.place with
    | .unstarted => s.after limit ≤ s.alarms.seen
    | .parked _ alarm => alarm.any s.alarms.hasRung = true

/-- What a turn of a read leaves as it is. -/
structure Kept (s s' : Service) : Prop where
  settings : s'.settings = s.settings
  runs : s'.runs = s.runs
  wallMicros : s'.wallMicros = s.wallMicros
  now : s'.now = s.now
  failing : s'.store.failing = s.store.failing
  holdsFailures : s'.store.holdsFailures = s.store.holdsFailures
  replaces : s'.store.replaces = s.store.replaces
  tickets : s.store.tickets ≤ s'.store.tickets

/-- The call that a turn of a read makes: a read that waits has made it before. -/
def Read.made (r : Read) : List Call :=
  match r.place with
  | .unstarted => [r.request.call]
  | .parked .. => []

/-- A turn of a read: a cancellation goes before the store's answer, and the answer before the
deadline. -/
inductive ReadTurn (s : Service) (owner : TaskId) (r : Read) :
    Service → Read → Option (Except Error Answer) → Prop where
  | cancelled {s' : Service} (gone : s.Cancelled r.guard) (kept : Kept s s')
      (silent : s'.store.calls = s.store.calls) :
      ReadTurn s owner r s' r (some (.error (.cancelled r.guard.operation)))
  | answered {s' : Service} {a : Except Error Answer} (going : ¬ s.Cancelled r.guard)
      (kept : Kept s s') (calls : s'.store.calls = r.made ++ s.store.calls)
      (answer : s.answer? owner r = some a) : ReadTurn s owner r s' r (some a)
  | late {s' : Service} {limit : Decimal.Span} (going : ¬ s.Cancelled r.guard)
      (kept : Kept s s') (calls : s'.store.calls = r.made ++ s.store.calls)
      (unanswered : s.answer? owner r = none) (passed : s.Passed r limit) :
      ReadTurn s owner r s' r (some (.error (.timeout r.guard.operation limit)))
  | waiting {s' : Service} {ticket : Nat} {alarm : Option Nat} (going : ¬ s.Cancelled r.guard)
      (kept : Kept s s') (calls : s'.store.calls = r.made ++ s.store.calls)
      (unanswered : s.answer? owner r = none) (ahead : ∀ limit, ¬ s.Passed r limit) :
      ReadTurn s owner r s' { r with place := .parked ticket alarm } none

variable {s s' : Service} {owner : TaskId} {r : Read}

/-- A read is answered what the store has for its request when the read goes on. -/
theorem exists_answer {a : Except Error Answer} (answer : s.answer? owner r = some a) :
    ∃ (m : MemoryStore) (ticket : Nat), m.answer ticket r.request = a := by
  obtain ⟨g, q, _ | ⟨ticket, alarm⟩⟩ := r
  · simp only [answer?, MemoryStore.beginRead] at answer
    split at answer
    next begun =>
      split_ifs at begun
      cases begun
      exact ⟨_, _, Option.some.inj answer⟩
    next => contradiction
  · simp only [answer?] at answer
    split_ifs at answer
    exact ⟨s.store, ticket, Option.some.inj answer⟩

theorem Kept.refl (s : Service) : Kept s s := ⟨rfl, rfl, rfl, rfl, rfl, rfl, rfl, Nat.le_refl _⟩

theorem Kept.trans {s'' : Service} (before : Kept s s') (after : Kept s' s'') : Kept s s'' where
  settings := after.settings.trans before.settings
  runs := after.runs.trans before.runs
  wallMicros := after.wallMicros.trans before.wallMicros
  now := after.now.trans before.now
  failing := after.failing.trans before.failing
  holdsFailures := after.holdsFailures.trans before.holdsFailures
  replaces := after.replaces.trans before.replaces
  tickets := Nat.le_trans before.tickets after.tickets

theorem set_over {a : Alarms} {due : Nat} (owner : TaskId) (rung : due ≤ a.seen) :
    a.set owner due = (none, a) := if_pos rung

/-- Waking tasks changes nothing but the list of those that can run. -/
theorem wakeAll_eq (s : Service) (ts : List TaskId) :
    ∃ ready, s.wakeAll ts = { s with ready := ready } := by
  induction ts generalizing s with
  | nil => exact ⟨s.ready, rfl⟩
  | cons t ts ih =>
    obtain ⟨ready, woken⟩ := ih (s.wake t)
    refine ⟨ready, woken.trans ?_⟩
    unfold wake
    split <;> rfl

theorem leaveReads_eq (s : Service) (ticket : Nat) (used : Bool) :
    ∃ gate ready, s.leaveReads ticket used =
      { s with store := { s.store with reads := gate }, ready := ready } := by
  unfold leaveReads
  dsimp only
  obtain ⟨ready, woken⟩ := wakeAll_eq { s with store := { s.store with
    reads := (s.store.reads.leave ticket used).2 } } (s.store.reads.leave ticket used).1.toList
  exact ⟨_, ready, woken⟩

/-- A read that waits, or goes on, takes nothing but its place in the line and its alarm with it. -/
theorem kept_leaveReads (s : Service) (alarm : Option Nat) (ticket : Nat) (used : Bool) :
    Kept s ((s.removeAlarm alarm).leaveReads ticket used) ∧
      ((s.removeAlarm alarm).leaveReads ticket used).store.calls = s.store.calls := by
  obtain ⟨gate, ready, left⟩ := leaveReads_eq (s.removeAlarm alarm) ticket used
  rw [left]
  exact ⟨⟨rfl, rfl, rfl, rfl, rfl, rfl, rfl, Nat.le_refl _⟩, rfl⟩

theorem cancelled_iff {g : Guard} :
    (g.token.any fun t => s.cancelled.contains t) = true ↔ s.Cancelled g := by
  cases token : g.token <;> simp [Cancelled, token]

/-- The outcome of a guard, by what comes first. -/
theorem outcome_eq {α : Type} (g : Guard) (cancelled : Bool) (answer : Option (Except Error α))
    (passed : Bool) : g.outcome cancelled answer passed =
      if cancelled then some (.error (.cancelled g.operation))
      else answer.or
        (if passed then g.limit.map fun l => .error (.timeout g.operation l) else none) := by
  cases cancelled <;> cases answer <;> cases limit : g.limit <;> cases passed <;>
    simp [Guard.outcome, limit]

theorem cancelled_any {g : Guard} (gone : s.Cancelled g) :
    (g.token.any fun t => s.cancelled.contains t) = true := cancelled_iff.2 gone

theorem going_any {g : Guard} (going : ¬ s.Cancelled g) :
    (g.token.any fun t => s.cancelled.contains t) = false :=
  Bool.eq_false_iff.2 fun yes => going (cancelled_iff.1 yes)

theorem passed_parked {g : Guard} {q : Request} {ticket : Nat} {alarm : Option Nat}
    {limit : Decimal.Span} : s.Passed ⟨g, q, .parked ticket alarm⟩ limit ↔
      g.limit = some limit ∧ alarm.any s.alarms.hasRung = true := Iff.rfl

/-- A read that waits goes on, or ends in one of these ways. -/
theorem readTurn_parked (s : Service) (owner : TaskId) (g : Guard) (q : Request) (ticket : Nat)
    (alarm : Option Nat) {s' : Service} {r' : Read} {o : Option (Except Error Answer)}
    (turn : s.read owner ⟨g, q, .parked ticket alarm⟩ = (s', r', o)) :
    ReadTurn s owner ⟨g, q, .parked ticket alarm⟩ s' r' o := by
  have left (used : Bool) := s.kept_leaveReads alarm ticket used
  unfold read at turn
  dsimp only at turn
  by_cases gone : s.Cancelled g
  · rw [cancelled_any gone, outcome_eq, if_pos rfl] at turn
    cases turn
    exact .cancelled gone (left _).1 (left _).2
  · rw [going_any gone, outcome_eq, if_neg (by decide)] at turn
    by_cases admitted : s.store.reads.isAdmitted ticket = true
    · rw [if_pos admitted, Option.some_or] at turn
      cases turn
      exact .answered gone (left _).1 (left _).2 (by simp [answer?, admitted])
    · have silent : s.answer? owner ⟨g, q, .parked ticket alarm⟩ = none := by
        simp [answer?, admitted]
      rw [if_neg admitted, Option.none_or] at turn
      cases bounded : g.limit with
      | none =>
        rw [bounded, Option.map_none, ite_self] at turn
        cases turn
        exact .waiting gone (Kept.refl s) rfl silent (by simp [passed_parked, bounded])
      | some limit =>
        by_cases rung : alarm.any s.alarms.hasRung = true
        · rw [if_pos rung, bounded, Option.map_some] at turn
          cases turn
          exact .late gone (left _).1 (left _).2 silent (passed_parked.2 ⟨bounded, rung⟩)
        · rw [if_neg rung] at turn
          cases turn
          exact .waiting gone (Kept.refl s) rfl silent fun _ passed => rung passed.2

theorem readTurn_unstarted (s : Service) (owner : TaskId) (g : Guard) (q : Request) {s' : Service}
    {r' : Read} {o : Option (Except Error Answer)}
    (turn : s.read owner ⟨g, q, .unstarted⟩ = (s', r', o)) :
    ReadTurn s owner ⟨g, q, .unstarted⟩ s' r' o := by
  -- When the deadline is has no influence, and its value is expensive to compute.
  obtain ⟨due, known⟩ : ∃ due, Service.after = due := ⟨_, rfl⟩
  unfold read at turn
  rw [known] at turn
  dsimp only at turn
  by_cases gone : s.Cancelled g
  · rw [if_pos (cancelled_any gone), outcome_eq, if_pos rfl] at turn
    cases turn
    exact .cancelled gone (Kept.refl s) rfl
  · rw [if_neg (Bool.eq_false_iff.1 (going_any gone))] at turn
    have kept (alarms : Alarms) :
        Kept s { s with alarms := alarms, store := (s.store.beginRead owner q).2 } :=
      ⟨rfl, rfl, rfl, rfl, rfl, rfl, rfl, Nat.le_succ _⟩
    have calls : (s.store.beginRead owner q).2.calls = [q.call] ++ s.store.calls := rfl
    have same (store : MemoryStore) (limit : Decimal.Span) :
        due { s with store := store } limit = due s limit := by
      rw [← known]
      exact after_congr rfl limit
    have passed {limit : Decimal.Span} : s.Passed ⟨g, q, .unstarted⟩ limit ↔
        g.limit = some limit ∧ due s limit ≤ s.alarms.seen := known ▸ Iff.rfl
    rcases begun : (s.store.beginRead owner q).1 with a | ticket
    · rw [begun] at turn
      simp only [outcome_eq] at turn
      cases turn
      exact .answered gone (kept s.alarms) calls (by simp [answer?, begun])
    · have silent : s.answer? owner ⟨g, q, .unstarted⟩ = none := by simp [answer?, begun]
      rw [begun] at turn
      cases bounded : g.limit with
      | none =>
        simp only [bounded] at turn
        cases turn
        exact .waiting gone (kept s.alarms) calls silent (by simp [passed, bounded])
      | some limit =>
        simp only [bounded, same] at turn
        by_cases late : due s limit ≤ s.alarms.seen
        · simp only [set_over owner late, Guard.outcome, bounded] at turn
          cases turn
          obtain ⟨left, silence⟩ :=
            kept_leaveReads { s with store := (s.store.beginRead owner q).2 } none ticket false
          exact .late gone ((kept s.alarms).trans left) (silence.trans calls) silent
            (passed.2 ⟨bounded, late⟩)
        · obtain ⟨alarms, filed⟩ := set_ahead owner (Nat.lt_of_not_le late)
          simp only [filed, Guard.outcome, bounded, Option.isNone_some] at turn
          cases turn
          refine .waiting gone (kept alarms) calls silent fun l passes => late ?_
          obtain ⟨same, passes⟩ := passed.1 passes
          cases bounded.symm.trans same
          exact passes

theorem readTurn {o : Option (Except Error Answer)} {r' : Read}
    (turn : s.read owner r = (s', r', o)) : ReadTurn s owner r s' r' o := by
  obtain ⟨guard, request, _ | ⟨ticket, alarm⟩⟩ := r
  · exact readTurn_unstarted s owner guard request turn
  · exact readTurn_parked s owner guard request ticket alarm turn

theorem over_running {result : Except Error Result} {P : Job → Prop} (j' : Job)
    (running : JobState.over result = .running j') : P j' := by cases running

/-! A refresh. -/

/-- What the ranking is replaced with when this engagement has been read. -/
def replacementOf (s : Service) (now : UInt32) (a : Answer) : Hot.Replacement × VersionClock :=
  Hot.replacement s.settings.hot s.runs s.wallMicros now (engagementOf a)

/-- The store's answer to this replacement, with the number of its rows. -/
def replacedBy (s : Service) (now : UInt32) (a : Answer) : Except Error Nat :=
  s.store.replaceAnswer.map fun () => (s.replacementOf now a).1.rows.length

/-- A gate that holds back nothing, or has permits left, lets a call pass. -/
def Gate.Open (g : Gate) : Prop := g.holding = 0 ∨ 0 < g.permits

theorem Gate.enter_fst (g : Gate) (ticket : Nat) (owner : TaskId) :
    (g.enter ticket owner).1 = true ↔ g.Open := by
  unfold Gate.enter Gate.Open
  by_cases free : g.holding = 0
  · simp [free]
  · by_cases permitted : 0 < g.permits <;> simp [free, permitted]

/-- The answer to a replacement that is made now is not held back. -/
def MemoryStore.Tells (m : MemoryStore) : Prop :=
  m.replaceAnswer.isOk = false ∧ m.holdsFailures = false ∨ m.replaces.Open

/-- A turn of a refresh that reads the engagement: what becomes of it, which calls it has made then,
the latest first, and the clock of the runs. -/
inductive RefreshTurn (s : Service) (owner : TaskId) (now : UInt32) (r : Read) :
    List Call → VersionClock → JobState → Prop where
  | cancelled (gone : s.Cancelled r.guard) :
      RefreshTurn s owner now r [] s.runs (.over (.error (.cancelled r.guard.operation)))
  | late {limit : Decimal.Span} (going : ¬ s.Cancelled r.guard)
      (unanswered : s.answer? owner r = none) (passed : s.Passed r limit) :
      RefreshTurn s owner now r r.made s.runs (.over (.error (.timeout r.guard.operation limit)))
  | waiting {ticket : Nat} {alarm : Option Nat} (going : ¬ s.Cancelled r.guard)
      (unanswered : s.answer? owner r = none) (ahead : ∀ limit, ¬ s.Passed r limit) :
      RefreshTurn s owner now r r.made s.runs
        (.running (.refresh now { r with place := .parked ticket alarm }))
  | unread {cause : Error} (going : ¬ s.Cancelled r.guard)
      (answer : s.answer? owner r = some (.error cause)) :
      RefreshTurn s owner now r r.made s.runs (.over (.error (Hot.readFailure cause)))
  | replaced {a : Answer} (going : ¬ s.Cancelled r.guard)
      (answer : s.answer? owner r = some (.ok a)) (tells : s.store.Tells) :
      RefreshTurn s owner now r
        (.replace (s.replacementOf now a).1.rows (s.replacementOf now a).1.runId
          (s.replacementOf now a).1.horizon s.store.replaceAnswer.isOk :: r.made)
        (s.replacementOf now a).2 (.over ((replaceOutcome (s.replacedBy now a)).map .ranked))
  | overdue {a : Answer} {limit : Decimal.Span} (going : ¬ s.Cancelled r.guard)
      (answer : s.answer? owner r = some (.ok a)) (keeps : ¬ s.store.Tells)
      (passed : s.Passed r limit) :
      RefreshTurn s owner now r
        (.replace (s.replacementOf now a).1.rows (s.replacementOf now a).1.runId
          (s.replacementOf now a).1.horizon s.store.replaceAnswer.isOk :: r.made)
        (s.replacementOf now a).2 (.over (.error (.timeout r.guard.operation limit)))
  | held {a : Answer} {ticket : Nat} {alarm : Option Nat} (going : ¬ s.Cancelled r.guard)
      (answer : s.answer? owner r = some (.ok a)) (keeps : ¬ s.store.Tells)
      (ahead : ∀ limit, ¬ s.Passed r limit) :
      RefreshTurn s owner now r
        (.replace (s.replacementOf now a).1.rows (s.replacementOf now a).1.runId
          (s.replacementOf now a).1.horizon s.store.replaceAnswer.isOk :: r.made)
        (s.replacementOf now a).2
        (.running (.replacing (s.replacedBy now a) { r with place := .parked ticket alarm }))

/-- A turn of a refresh makes these calls. -/
def Makes (s : Service) (owner : TaskId) (now : UInt32) (r : Read) (after : Service × JobState) :
    Prop :=
  ∃ made, after.1.store.calls = made ++ s.store.calls ∧
    RefreshTurn s owner now r made after.1.runs after.2

theorem Kept.replacementOf (kept : Kept s s') (now : UInt32) (a : Answer) :
    s'.replacementOf now a = s.replacementOf now a := by
  rw [Service.replacementOf, Service.replacementOf, kept.settings, kept.runs, kept.wallMicros]

theorem Kept.replaceAnswer (kept : Kept s s') : s'.store.replaceAnswer = s.store.replaceAnswer := by
  unfold MemoryStore.replaceAnswer MemoryStore.failure?
  rw [kept.failing]

theorem Kept.replacedBy (kept : Kept s s') (now : UInt32) (a : Answer) :
    s'.replacedBy now a = s.replacedBy now a := by
  rw [Service.replacedBy, Service.replacedBy, kept.replaceAnswer, kept.replacementOf]

theorem Kept.tells (kept : Kept s s') : s'.store.Tells ↔ s.store.Tells := by
  rw [MemoryStore.Tells, MemoryStore.Tells, kept.replaceAnswer, kept.holdsFailures, kept.replaces]

theorem passed_congr (now : s'.now = s.now) (alarms : s'.alarms = s.alarms) (limit : Decimal.Span) :
    s'.Passed r limit ↔ s.Passed r limit := by
  rw [Passed, Passed, after_congr now, alarms]

/-- The alarm of a refresh that goes on to its replacement says whether the deadline has passed. -/
theorem keepAlarm_passed (s : Service) (owner : TaskId) (r : Read) :
    (s.keepAlarm owner r).2.1 = true ∧ (∃ limit, s.Passed r limit) ∨
      (r.guard.limit = none ∨ (s.keepAlarm owner r).2.1 = false) ∧ ∀ limit, ¬ s.Passed r limit := by
  -- As above, nothing depends on when the deadline is.
  obtain ⟨due, known⟩ : ∃ due, Service.after = due := ⟨_, rfl⟩
  unfold keepAlarm Passed
  rw [known]
  obtain ⟨⟨name, limit, token⟩, q, _ | ⟨place, alarm⟩⟩ := r
  · cases limit with
    | none => exact .inr ⟨.inl rfl, fun _ passed => nomatch passed.1⟩
    | some limit =>
      dsimp only
      by_cases late : due s limit ≤ s.alarms.seen
      · rw [set_over owner late]
        exact .inl ⟨rfl, limit, rfl, late⟩
      · obtain ⟨alarms, filed⟩ := set_ahead owner (Nat.lt_of_not_le late)
        rw [filed]
        exact .inr ⟨.inr rfl, fun l passes => late (Option.some.inj passes.1 ▸ passes.2)⟩
  · cases limit with
    | none => exact .inr ⟨.inl rfl, fun _ passed => nomatch passed.1⟩
    | some limit =>
      by_cases rung : alarm.any s.alarms.hasRung = true
      · exact .inl ⟨rung, limit, rfl, rung⟩
      · exact .inr ⟨.inr (Bool.eq_false_iff.2 rung), fun _ passed => rung passed.2⟩

/-- A replacement whose answer is held back is waited for unless its deadline has passed. -/
theorem holdReplacement_cases (s : Service) (owner : TaskId) (r : Read)
    (answer : Except Error Nat) (ticket : Nat) :
    (∃ limit, s.Passed r limit ∧ (s.holdReplacement owner r answer ticket).2 =
      .inr (.error (.timeout r.guard.operation limit))) ∨
    (∀ limit, ¬ s.Passed r limit) ∧ ∃ alarm, (s.holdReplacement owner r answer ticket).2 =
      .inl (.replacing answer { r with place := .parked ticket alarm }) := by
  have passed := s.keepAlarm_passed owner r
  unfold holdReplacement
  rcases kept : s.keepAlarm owner r with ⟨alarm, rung, alarms⟩
  rw [kept] at passed
  dsimp only at passed ⊢
  rw [outcome_eq, if_neg (by decide), Option.none_or]
  obtain ⟨rfl, limit, late⟩ | ⟨unbounded | rfl, ahead⟩ := passed
  · refine .inl ⟨limit, late, ?_⟩
    rw [if_pos rfl, late.1]
    rfl
  · refine .inr ⟨ahead, alarm, ?_⟩
    rw [unbounded, Option.map_none, ite_self]
  · exact .inr ⟨ahead, alarm, rfl⟩

theorem leaveReplaces_kept (s : Service) (ticket : Nat) (used : Bool) :
    (s.leaveReplaces ticket used).store.calls = s.store.calls ∧
      (s.leaveReplaces ticket used).runs = s.runs := by
  unfold leaveReplaces
  dsimp only
  obtain ⟨ready, woken⟩ := wakeAll_eq { s with store := { s.store with
    replaces := (s.store.replaces.leave ticket used).2 } }
    (s.store.replaces.leave ticket used).1.toList
  rw [woken]
  exact ⟨rfl, rfl⟩

theorem holdReplacement_kept (s : Service) (owner : TaskId) (r : Read)
    (answer : Except Error Nat) (ticket : Nat) :
    (s.holdReplacement owner r answer ticket).1.store.calls = s.store.calls ∧
      (s.holdReplacement owner r answer ticket).1.runs = s.runs := by
  unfold holdReplacement
  dsimp only
  split
  · exact leaveReplaces_kept _ ticket false
  · exact ⟨rfl, rfl⟩

/-- The replacement is done or fails at once, and the clock of the runs goes on in either case. -/
structure Replaces (s : Service) (now : UInt32) (a : Answer) (s' : Service) : Prop where
  calls : s'.store.calls = .replace (s.replacementOf now a).1.rows (s.replacementOf now a).1.runId
    (s.replacementOf now a).1.horizon s.store.replaceAnswer.isOk :: s.store.calls
  runs : s'.runs = (s.replacementOf now a).2
  now : s'.now = s.now

inductive Finish (s : Service) (now : UInt32) (a : Answer) : Service × Replaced → Prop where
  | told {s' : Service} (tells : s.store.Tells) (replaces : s.Replaces now a s') :
      Finish s now a (s', .over (replaceOutcome (s.replacedBy now a)))
  | held {s' : Service} {ticket : Nat} (keeps : ¬ s.store.Tells) (replaces : s.Replaces now a s') :
      Finish s now a (s', .held (s.replacedBy now a) ticket)

/-- The answer comes at once, or a ticket for it. -/
theorem beginReplace_eq (m : MemoryStore) (owner : TaskId) (rows : List HotPost) (runId : Nat)
    (horizon : UInt32) :
    ∃ m', m'.calls = .replace rows runId horizon m.replaceAnswer.isOk :: m.calls ∧
      (m.Tells ∧ m.beginReplace owner rows runId horizon = (m.replaceAnswer, none, m') ∨
        ¬ m.Tells ∧ ∃ ticket,
          m.beginReplace owner rows runId horizon = (m.replaceAnswer, some ticket, m')) := by
  unfold MemoryStore.beginReplace MemoryStore.Tells MemoryStore.record MemoryStore.ticket
  dsimp only
  split
  next held =>
    rcases entered : m.replaces.enter m.tickets owner with ⟨pass, gate⟩
    have open_iff := m.replaces.enter_fst m.tickets owner
    rw [entered] at open_iff
    have held : ¬ (m.replaceAnswer.isOk = false ∧ m.holdsFailures = false) := by
      simpa [← Bool.not_eq_true, ← or_iff_not_imp_left] using held
    rw [← open_iff, or_iff_right held]
    dsimp only
    cases pass with
    | true => exact ⟨_, rfl, .inl ⟨rfl, rfl⟩⟩
    | false => exact ⟨_, rfl, .inr ⟨Bool.false_ne_true, m.tickets, rfl⟩⟩
  next told => exact ⟨_, rfl, .inl ⟨.inl (by simpa using told), rfl⟩⟩

/-- That a refresh is over is only measured. -/
theorem ranked_eq (s : Service) (o : Except Error Nat) :
    ∃ m, s.ranked o = { s with measurements := m } := by
  cases o <;> exact ⟨_, rfl⟩

theorem finish_ok (s : Service) (owner : TaskId) (now : UInt32) (a : Answer) :
    Finish s now a (s.finishRefresh owner now (.ok a)) := by
  have replaced : Hot.replacement s.settings.hot s.runs s.wallMicros now (engagementOf a) =
    s.replacementOf now a := rfl
  unfold finishRefresh
  dsimp only
  rw [replaced]
  obtain ⟨m, calls, ⟨tells, begun⟩ | ⟨keeps, ticket, begun⟩⟩ := beginReplace_eq s.store owner
    (s.replacementOf now a).1.rows (s.replacementOf now a).1.runId (s.replacementOf now a).1.horizon
  · simp only [begun]
    have replaces : s.Replaces now a
        ({ s with runs := (s.replacementOf now a).2, store := m }.ranked (s.replacedBy now a)) := by
      obtain ⟨measurements, measured⟩ :=
        ranked_eq { s with runs := (s.replacementOf now a).2, store := m } (s.replacedBy now a)
      rw [measured]
      exact ⟨calls, rfl, rfl⟩
    exact .told tells replaces
  · simp only [begun]
    exact .held keeps ⟨calls, rfl, rfl⟩

theorem run_refresh_over {now : UInt32} {r' : Read} {o : Except Error Answer} {s'' : Service}
    {n : Except Error Nat} (read : s.read owner r = (s', r', some o))
    (finished : s'.finishRefresh owner now o = (s'', .over n)) :
    s.run owner (.refresh now r) = (s'', .over (n.map .ranked)) := by
  simp only [run, read, finished]

theorem run_refresh_held {now : UInt32} {r' : Read} {o : Except Error Answer} {s'' s₃ : Service}
    {answer : Except Error Nat} {ticket : Nat} (read : s.read owner r = (s', r', some o))
    (finished : s'.finishRefresh owner now o = (s'', .held answer ticket))
    (resumed : s₃ = { s'' with alarms := s.alarms }) :
    s.run owner (.refresh now r) = ((s₃.holdReplacement owner r answer ticket).1,
      match (s₃.holdReplacement owner r answer ticket).2 with
      | .inl j => .running j
      | .inr n => .over (n.map .ranked)) := by
  simp only [run, read, finished, ← resumed]
  rcases s₃.holdReplacement owner r answer ticket with ⟨s₄, j | n⟩ <;> rfl

theorem refreshTurn (s : Service) (owner : TaskId) (now : UInt32) (r : Read) :
    s.Makes owner now r (s.run owner (.refresh now r)) := by
  rcases read : s.read owner r with ⟨s', r', o⟩
  cases readTurn read with
  | cancelled gone kept silent =>
    rw [run_refresh_over read rfl]
    exact ⟨[], silent, kept.runs ▸ .cancelled gone⟩
  | late going kept calls unanswered passed =>
    rw [run_refresh_over read rfl]
    exact ⟨_, calls, kept.runs ▸ .late going unanswered passed⟩
  | waiting going kept calls unanswered ahead =>
    simp only [run, read]
    exact ⟨_, calls, kept.runs ▸ .waiting going unanswered ahead⟩
  | @answered a going kept calls answer =>
    cases a with
    | error cause =>
      rw [run_refresh_over read rfl]
      exact ⟨_, calls, kept.runs ▸ .unread going answer⟩
    | ok a =>
      have finish := finish_ok s' owner now a
      rcases finished : s'.finishRefresh owner now (.ok a) with ⟨s'', result⟩
      rw [finished] at finish
      have same := kept.replacementOf now a
      have made (replaces : s'.Replaces now a s'') :
          s''.store.calls = (.replace (s.replacementOf now a).1.rows (s.replacementOf now a).1.runId
            (s.replacementOf now a).1.horizon s.store.replaceAnswer.isOk :: r.made) ++
              s.store.calls := by
        rw [replaces.calls, same, kept.replaceAnswer, calls, List.cons_append]
      cases finish with
      | told tells replaces =>
        rw [run_refresh_over read finished]
        refine ⟨_, made replaces, ?_⟩
        rw [replaces.runs, same, kept.replacedBy]
        exact .replaced going answer (kept.tells.mp tells)
      | @held _ ticket keeps replaces =>
        rw [kept.tells] at keeps
        rw [kept.replacedBy] at finished
        obtain ⟨s₃, resumed⟩ : ∃ s₃ : Service, s₃ = { s'' with alarms := s.alarms } := ⟨_, rfl⟩
        rw [run_refresh_held read finished resumed]
        have held := holdReplacement_kept s₃ owner r (s.replacedBy now a) ticket
        have runs : s₃.runs = (s.replacementOf now a).2 := by rw [resumed, ← same, ← replaces.runs]
        have passed (limit : Decimal.Span) : s₃.Passed r limit ↔ s.Passed r limit :=
          passed_congr (by rw [resumed, ← kept.now, ← replaces.now]) (by rw [resumed]) limit
        have calls : s₃.store.calls = s''.store.calls := by rw [resumed]
        refine ⟨_, held.1.trans (calls.trans (made replaces)), ?_⟩
        rw [held.2, runs]
        obtain ⟨limit, late, state⟩ | ⟨ahead, alarm, state⟩ :=
          holdReplacement_cases s₃ owner r (s.replacedBy now a) ticket
        · rw [state]
          exact .overdue going answer keeps ((passed limit).1 late)
        · rw [state]
          exact .held going answer keeps fun limit late => ahead limit ((passed limit).2 late)

/-- A turn of a refresh that waits for the answer to its replacement. -/
inductive ReplacingTurn (s : Service) (answer : Except Error Nat) (r : Read) : JobState → Prop where
  | cancelled (gone : s.Cancelled r.guard) :
      ReplacingTurn s answer r (.over (.error (.cancelled r.guard.operation)))
  | admitted {ticket : Nat} {alarm : Option Nat} (going : ¬ s.Cancelled r.guard)
      (parked : r.place = .parked ticket alarm)
      (admitted : s.store.replaces.isAdmitted ticket = true) :
      ReplacingTurn s answer r (.over ((replaceOutcome answer).map .ranked))
  | late {ticket : Nat} {alarm : Option Nat} {limit : Decimal.Span} (going : ¬ s.Cancelled r.guard)
      (parked : r.place = .parked ticket alarm) (held : s.store.replaces.isAdmitted ticket = false)
      (passed : s.Passed r limit) :
      ReplacingTurn s answer r (.over (.error (.timeout r.guard.operation limit)))
  | waiting {ticket : Nat} {alarm : Option Nat} (going : ¬ s.Cancelled r.guard)
      (parked : r.place = .parked ticket alarm) (held : s.store.replaces.isAdmitted ticket = false)
      (ahead : ∀ limit, ¬ s.Passed r limit) :
      ReplacingTurn s answer r (.running (.replacing answer r))

/-- Waiting for a replacement makes no call and leaves the clock of the runs. -/
theorem awaitReplacement_kept (s : Service) (answer : Except Error Nat) (r : Read) :
    (s.awaitReplacement answer r).1.store.calls = s.store.calls ∧
      (s.awaitReplacement answer r).1.runs = s.runs := by
  unfold awaitReplacement
  dsimp only
  split
  · exact ⟨rfl, rfl⟩
  · rename_i ticket alarm _
    split
    · exact ⟨rfl, rfl⟩
    · dsimp only
      obtain ⟨m, measured⟩ := ranked_eq ((s.removeAlarm alarm).leaveReplaces ticket _) _
      rw [measured]
      exact leaveReplaces_kept (s.removeAlarm alarm) ticket _

theorem run_replacing (s : Service) (owner : TaskId) (answer : Except Error Nat) (r : Read) :
    s.run owner (.replacing answer r) = ((s.awaitReplacement answer r).1,
      match (s.awaitReplacement answer r).2 with
      | none => .running (.replacing answer r)
      | some o => .over (o.map .ranked)) := by
  simp only [run]
  rcases s.awaitReplacement answer r with ⟨s', _ | o⟩ <;> rfl

theorem replacingTurn (s : Service) (owner : TaskId) (answer : Except Error Nat) (g : Guard)
    (q : Request) (ticket : Nat) (alarm : Option Nat) :
    ReplacingTurn s answer ⟨g, q, .parked ticket alarm⟩
      (s.run owner (.replacing answer ⟨g, q, .parked ticket alarm⟩)).2 := by
  rw [run_replacing]
  unfold awaitReplacement
  dsimp only
  rw [outcome_eq]
  by_cases gone : s.Cancelled g
  · rw [if_pos (cancelled_any gone)]
    exact .cancelled gone
  · rw [going_any gone, if_neg (by decide)]
    cases admitted : s.store.replaces.isAdmitted ticket with
    | true => exact .admitted gone rfl admitted
    | false =>
      rw [if_neg (by decide), Option.none_or]
      cases bounded : g.limit with
      | none =>
        rw [Option.map_none, ite_self]
        exact .waiting gone rfl admitted (by simp [passed_parked, bounded])
      | some limit =>
        by_cases rung : alarm.any s.alarms.hasRung = true
        · rw [if_pos rung, Option.map_some]
          exact .late gone rfl admitted (passed_parked.2 ⟨bounded, rung⟩)
        · rw [if_neg rung]
          exact .waiting gone rfl admitted fun _ passed => rung passed.2

end RelayStore.Service

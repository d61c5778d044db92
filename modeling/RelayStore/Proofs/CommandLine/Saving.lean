import RelayStore.Proofs.Import.Persisting

/-!
The import as the program runs it. The worker has its turn after every event, and each batch is
answered at once: one of the orders in which reader, saver, worker and store may go on. Main
statement: `importFiles_importing`, whatever the server answers and the clock shows.
-/
namespace RelayStore

namespace Ingest

variable {i j : Ingestor} {tickDue : Bool} {step : Step}

theorem move?_work (due : i.next? tickDue = some step) :
    i.move? (.work tickDue) = some (i.noticeOf step, i.step step) := by
  rw [Ingestor.move?, due, Option.map_some]

/-- Only the worker gives a batch to the store. -/
theorem Change.writing_eq {n : Notice} (change : Change i n j) (outer : ¬ Import.Inner n) :
    j.writing = i.writing := by
  cases change with
  | queue | writeAlone | refuse | accept | giveUp | stop => rfl
  | _ => exact absurd trivial outer

theorem stop_of_stopping (asked : i.stopping = true) : i.stop = i := by
  cases i
  cases asked
  rfl

theorem exists_next? (idle : i.writing = none) (asked : i.stopping = true)
    (going : i.phase ≠ .ended) (tickDue : Bool) : ∃ step, i.next? tickDue = some step := by
  unfold Ingestor.next?
  rw [idle]
  cases phase : i.phase with
  | ended => exact absurd phase going
  | unstarted => exact ⟨_, rfl⟩
  | serving => exact ⟨.close, by simp [asked]⟩
  | draining => by_cases drained : i.queue = [] <;> simp [drained]

/-- How many steps a worker needs at most that is asked to end, if each batch is answered at
once. -/
def remaining (i : Ingestor) : Nat :=
  if i.writing = some .ending then 0
  else match i.phase with
    | .unstarted => i.queue.length + 3
    | .serving => i.queue.length + 2
    | .draining => i.queue.length + 1
    | .ended => 0

theorem remaining_step_lt (due : i.next? tickDue = some step) (asked : i.stopping = true) :
    remaining (i.step step) < remaining i := by
  have change := Change.of_step due
  have inner := Import.inner_noticeOf i step
  generalize i.step step = j, i.noticeOf step = n at change inner
  cases change with
  | queue | writeAlone | refuse | accept | giveUp | stop => exact inner.elim
  | answer busy => simp [(next?_eq_some due).1] at busy
  | allocate idle phase | breakOff idle phase | close idle phase | finish idle phase
  | flush idle phase => simp [remaining, idle, phase]
  | pass _ _ unasked | tick _ _ unasked => simp [asked] at unasked
  | take idle going first | fill idle going first =>
    obtain ⟨-, unasked⟩ | phase := going
    · simp [asked] at unasked
    · simp [remaining, idle, phase, first]

theorem remaining_answered_le (i : Ingestor) (ok : Bool) :
    remaining (i.answered ok) ≤ remaining i := by
  by_cases last : i.writing = some .ending
  · cases ok <;> simp [remaining, Ingestor.answered, Ingestor.setBuffered, last]
  · cases ok <;> simp [remaining, Ingestor.answered, Ingestor.setBuffered, last]

/-- How the write of a row by itself has ended. -/
def outcomeOf : Except Error Unit → Outcome
  | .ok () => .written
  | .error (.timeout _ _) => .late
  | .error _ => .failed

theorem outcomeOf_eq_written (r : Except Error Unit) :
    decide (outcomeOf r = .written) = r.isOk := by
  unfold outcomeOf
  split <;> rfl

/-- Whether a notice is of what the store has answered. -/
def IsAnswer : Notice → Prop
  | .answered _ _ | .settled _ _ => True
  | _ => False

theorem not_isAnswer_noticeOf (i : Ingestor) (step : Step) : ¬ IsAnswer (i.noticeOf step) := by
  unfold Ingestor.noticeOf
  split_ifs <;> exact id

end Ingest

open Ingest Import

namespace Storage.Connection

variable {S : Type} {c : Connection (StateM S)} {world : S}

/-- The answers in a log are those of the server, in its order, and the server is asked for nothing
else. -/
inductive Served (c : Connection (StateM S)) (world : S) : Log → S → Prop where
  | start : Served c world [] world
  | clock {log : Log} {now : S} (served : Served c world log now) :
      Served c world log (c.clock.run now).2
  | quiet {log : Log} {now : S} {n : Notice} (served : Served c world log now)
      (own : ¬ IsAnswer n) : Served c world (log ++ [n]) now
  | batch {log : Log} {now : S} (served : Served c world log now) (rows : List EventRow) :
      Served c world
        (log ++ [.answered rows ((c.client.insert c.transport rows).run now).1.isOk])
        ((c.client.insert c.transport rows).run now).2
  | alone {log : Log} {now : S} (served : Served c world log now) (row : EventRow) :
      Served c world
        (log ++ [.settled row (outcomeOf
          ((c.limited "insert" c.writeTimeout (c.client.insert c.transport [row])).run now).1)])
        ((c.limited "insert" c.writeTimeout (c.client.insert c.transport [row])).run now).2

end Storage.Connection

/-- An import whose reader has these events left, with the saver at this stage, the worker in this
state and the server in that one. -/
structure Reached {S : Type} (o : Options) (tree : FileTree) (input : String) (s : IngestSettings)
    (c : Storage.Connection (StateM S)) (world : S) (unread : List Event) (stage : Stage)
    (i : Ingestor) (now : S) : Prop where
  idle : i.writing = none
  importing : ∃ log, Importing o tree input s
    { unread := unread, channel := [], stage := stage, log := log, ingest := i } ∧
    c.Served world log now

variable {o : Options} {tree : FileTree} {input : String} {s : IngestSettings}
  {S : Type} {c : Storage.Connection (StateM S)} {world now : S} {unread : List Event}
  {stage : Stage} {i : Ingestor} {w : Storage.Worker}

namespace Reached
open Storage.Connection

theorem clock (reached : Reached o tree input s c world unread stage i now) :
    Reached o tree input s c world unread stage i (c.clock.run now).2 := by
  obtain ⟨idle, log, importing, served⟩ := reached
  exact ⟨idle, log, importing, served.clock⟩

/-- A step of the worker, with the answer to the batch that it sends. -/
theorem turn {tickDue : Bool} {step : Step}
    (reached : Reached o tree input s c world unread stage w.ingest now)
    (due : w.ingest.next? tickDue = some step) (millis : Nat) :
    Reached o tree input s c world unread stage
        ((c.turn millis step w).run now).1.ingest ((c.turn millis step w).run now).2 ∧
      ((c.turn millis step w).run now).1.ingest.stopping = w.ingest.stopping ∧
      (w.ingest.stopping = true →
        remaining ((c.turn millis step w).run now).1.ingest < remaining w.ingest) := by
  obtain ⟨-, log, importing, served⟩ := reached
  have move := move?_work due
  have stepped := importing.work move
  have quiet := served.quiet (not_isAnswer_noticeOf w.ingest step)
  have same := (untouched_work move).stopping
  unfold Storage.Connection.turn
  dsimp only
  split
  next busy =>
    have answer ok : (w.ingest.step step).move? (.answer ok) =
        some (.answered (w.ingest.step step).buffer ok, (w.ingest.step step).answered ok) :=
      if_pos busy
    refine ⟨⟨rfl, _, stepped.answer (answer _), quiet.batch _⟩, ?_, fun asked => ?_⟩
    · exact (untouched_answer (answer _)).stopping.trans same
    · exact Nat.lt_of_le_of_lt (remaining_answered_le _ _) (remaining_step_lt due asked)
  next free =>
    have idle := Option.not_isSome_iff_eq_none.mp free
    exact ⟨⟨idle, _, stepped, quiet⟩, same, remaining_step_lt due⟩

/-- A run of the worker comes to the end that it is asked for if it has the steps. -/
theorem work (reached : Reached o tree input s c world unread stage w.ingest now)
    (millis fuel : Nat) :
    Reached o tree input s c world unread stage
        ((c.work millis fuel w).run now).1.ingest ((c.work millis fuel w).run now).2 ∧
      ((c.work millis fuel w).run now).1.ingest.stopping = w.ingest.stopping ∧
      (w.ingest.stopping = true → remaining w.ingest ≤ fuel →
        ((c.work millis fuel w).run now).1.ingest.phase = .ended) := by
  induction fuel generalizing w now with
  | zero =>
    refine ⟨reached, rfl, fun asked none => ?_⟩
    by_contra going
    obtain ⟨step, due⟩ := exists_next? reached.idle asked going true
    have := remaining_step_lt due asked
    omega
  | succ fuel ih =>
    rw [Storage.Connection.work]
    split
    next none =>
      refine ⟨reached, rfl, fun asked _ => ?_⟩
      by_contra going
      obtain ⟨step, due⟩ :=
        exists_next? reached.idle asked going (decide (w.ticker.due ≤ millis))
      simp [none] at due
    next step due =>
      obtain ⟨turned, same, less⟩ := reached.turn due millis
      obtain ⟨worked, still, ends⟩ := ih turned
      refine ⟨worked, still.trans same, fun asked time => ends (same.trans asked) ?_⟩
      have := less asked
      omega

theorem remaining_le_workFuel (w : Storage.Worker) : remaining w.ingest ≤ workFuel w := by
  unfold remaining workFuel
  split_ifs
  · exact Nat.zero_le _
  · split <;> omega

/-- The saver takes an event and waits for the next one. -/
theorem save {e : Event}
    (reached : Reached o tree input s c world (e :: unread) .receiving w.ingest now) :
    Reached o tree input s c world unread .receiving
      ((c.save w e).run now).1.2.ingest ((c.save w e).run now).2 := by
  obtain ⟨idle, log, importing, served⟩ := reached.clock
  unfold Storage.Connection.save
  dsimp only [bind, StateT.bind, StateT.run] at served ⊢
  rcases shown : c.clock now with ⟨micros, now⟩
  rw [shown] at served
  dsimp only at served ⊢
  rcases submission : w.ingest.submit e (seconds micros) micros with ⟨answer, i⟩
  have move : w.ingest.move? (.submit e (seconds micros) micros) =
      some (.submitted e (w.ingest.rowOf e (seconds micros) micros) answer, i) := by
    rw [Ingestor.move?, submission]
  have saved := (importing.hand rfl (by decide : ([] : List Event).length < channelRoom)).save
    rfl rfl move
  have free : i.writing = none := (Change.writing_eq (.of_move move) not_false).trans idle
  replace served := served.quiet (n := .submitted e (w.ingest.rowOf e (seconds micros) micros)
    answer) not_false
  cases answer with
  | closed => exact ⟨free, _, saved, served⟩
  | queued =>
    have reached : Reached o tree input s c world unread .receiving i now :=
      ⟨free, _, saved, served⟩
    exact (reached.work (w := ⟨i, w.ticker⟩) (micros / 1000) (workFuel ⟨i, w.ticker⟩)).1
  | alone row =>
    have pending : row ∈ i.alone := by
      cases Change.of_move move with
      | writeAlone => exact List.mem_append_right _ (List.mem_singleton_self _)
    have settled (r : Except Error Unit) : i.move? (.settle row (outcomeOf r)) =
        some (.settled row (outcomeOf r), i.settleAlone row r.isOk) := by
      rw [Ingestor.move?, if_pos pending, outcomeOf_eq_written]
    exact ⟨(Change.writing_eq (.of_move (settled _)) not_false).trans free, _,
      saved.settle rfl (settled _), served.alone row⟩

theorem saveAll {events : List Event}
    (reached : Reached o tree input s c world (events ++ unread) .receiving w.ingest now) :
    Reached o tree input s c world unread .receiving
      ((c.saveAll events w).run now).1.ingest ((c.saveAll events w).run now).2 := by
  induction events generalizing w now with
  | nil => exact reached
  | cons e rest ih => exact ih reached.save

/-- The saver asks the worker to end, waits for it, and asks again unless the reading has failed. -/
theorem close (reached : Reached o tree input s c world [] .receiving w.ingest now)
    (ends : Ends o tree input) :
    Reached o tree input s c world [] .closed
      ((c.close w).run now).1.ingest ((c.close w).run now).2 := by
  obtain ⟨idle, log, importing, served⟩ := reached.clock
  unfold Storage.Connection.close
  dsimp only [bind, StateT.bind, StateT.run] at served ⊢
  rcases shown : c.clock now with ⟨micros, now⟩
  rw [shown] at served
  dsimp only at served ⊢
  have asked : Reached o tree input s c world [] (.closing (failsEarly o tree input))
      w.ingest.stop now :=
    ⟨idle, _, importing.close ends rfl rfl rfl rfl, served.quiet (n := .stopped) not_false⟩
  obtain ⟨⟨rest, log, waiting, served⟩, stopping, ended⟩ :=
    asked.work (w := ⟨w.ingest.stop, w.ticker⟩) (micros / 1000) (workFuel w)
  replace ended := ended rfl (remaining_le_workFuel ⟨w.ingest.stop, w.ticker⟩)
  refine ⟨rest, ?_⟩
  cases early : failsEarly o tree input with
  | true =>
    rw [early] at waiting
    exact ⟨log, waiting.closed rfl ended, served⟩
  | false =>
    rw [early] at waiting
    have again := (waiting.closeAgain rfl ended rfl).closed rfl ended
    rw [stop_of_stopping stopping] at again
    exact ⟨_, again, served.quiet (n := .stopped) not_false⟩

end Reached

open CommandLine in
/-- What the program does to import is an import in some order of the steps, whose answers are the
server's. Nothing is left to save, and if the reading ends the worker has ended. -/
theorem importFiles_importing (o : Options) (tree : FileTree) (input : String) (s : IngestSettings)
    (made : s.queueCapacity ≤ Ingestor.largestQueue) (c : Storage.Connection (StateM S))
    (world : S) :
    ∃ p, Importing o tree input s p ∧
      c.Served world p.log ((importFiles c tree s input o).run world).2 ∧
      p.unread = [] ∧ p.channel = [] ∧
      (Ends o tree input → p.stage = .closed) ∧
      (¬ Ends o tree input → p.stage = .receiving) := by
  have start : Reached o tree input s c world (handed o tree input ++ []) .receiving (.start s)
      world := ⟨rfl, [], (List.append_nil _).symm ▸ .start made, .start⟩
  have saved := Reached.saveAll (w := ((c.startWorker s).run world).1) start.clock
  have after : ((importFiles c tree s input o).run world).2 =
      ((saveEvents c s (handed o tree input) (run o tree input collect []).1.isSome).run world).2 :=
    rfl
  rw [after]
  cases ending : (run o tree input collect []).1.isSome with
  | true =>
    have ends : Ends o tree input := Option.isSome_iff_ne_none.mp ending
    obtain ⟨-, log, importing, served⟩ := saved.close ends
    exact ⟨_, importing, served, rfl, rfl, fun _ => rfl, absurd ends⟩
  | false =>
    have goesOn : ¬ Ends o tree input := not_not_intro (Option.not_isSome_iff_eq_none.mp
      (Bool.eq_false_iff.mp ending))
    obtain ⟨-, log, importing, served⟩ := saved
    exact ⟨_, importing, served, rfl, rfl, fun ends => absurd ends goesOn, fun _ => rfl⟩

end RelayStore

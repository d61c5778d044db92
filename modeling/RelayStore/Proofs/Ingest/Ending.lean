import RelayStore.Proofs.Ingest.Accounting
import RelayStore.Proofs.Ingest.Delivery

/-! The end. A worker that has ended leaves nothing behind, and nothing is accepted after it. What
it has not stored when it breaks off is lost. -/
namespace RelayStore.Ingest

variable {s : IngestSettings} {log later : Log} {i j k : Ingestor} {n : Notice}

/-- Each queued row has been answered for in one batch, and no batch waits for its answer. -/
structure Completed (log : Log) (i : Ingestor) : Prop where
  queue : i.queue = []
  buffer : i.buffer = []
  idle : i.writing = none
  answered : log.batches.map Batch.rows = log.answers
  inOrder : log.answers.flatten = log.queued
  once : ∀ row ∈ log.queued, (log.answers.filter (row ∈ ·)).length = 1

theorem length_filter_mem_eq_one {pieces : List (List EventRow)} (distinct : pieces.flatten.Nodup)
    {row : EventRow} (h : row ∈ pieces.flatten) : (pieces.filter (row ∈ ·)).length = 1 := by
  apply Nat.le_antisymm (length_filter_mem_le_one distinct row)
  obtain ⟨piece, sent, held⟩ := List.mem_flatten.mp h
  exact List.length_pos_of_mem (List.mem_filter.mpr ⟨sent, decide_eq_true held⟩)

theorem Run.completed (run : Run s log i) (ended : i.phase = .ended)
    (fits : Ingestor.Allocatable s.batchSize) : Completed log i := by
  obtain ⟨idle, buffer, queue⟩ := run.emptied.ended ended
  have inOrder : log.answers.flatten = log.queued := by
    have rows := run.queued_eq
    rw [buffer, queue, run.intact.none fits, List.append_nil, List.append_nil,
      List.append_nil] at rows
    exact rows.symm
  have distinct : log.answers.flatten.Nodup := inOrder ▸ run.queued_alone_nodup.of_append_left
  refine ⟨queue, buffer, idle, ?_, inOrder, ?_⟩
  · simpa [idle] using run.batches_answers
  · intro row queued
    exact length_filter_mem_eq_one distinct (inOrder ▸ queued)

/-- A worker that cannot have its buffer takes no row. -/
structure Unserved (log : Log) (i : Ingestor) : Prop where
  phase : i.phase = .unstarted ∨ i.phase = .ended
  idle : i.writing = none
  buffer : i.buffer = []
  batches : log.batches = []

theorem Unserved.not_working (unserved : Unserved log i) : ¬ Working i := fun going =>
  unserved.phase.elim going.ne.1 going.ne.2

theorem Run.unserved (run : Run s log i) (huge : ¬ Ingestor.Allocatable s.batchSize) :
    Unserved log i := by
  induction run with
  | start => exact ⟨.inl rfl, rfl, rfl, rfl⟩
  | @next log i _ _ _ run move ih =>
    have ⟨phase, idle, buffer, batches⟩ := ih
    cases Change.of_move move with
    | allocate _ _ room =>
      rw [run.intact.batchSize] at room
      exact absurd (allocatable_max.mp room) huge
    | breakOff => exact ⟨.inr rfl, idle, buffer, by simpa [Notice.batch?] using batches⟩
    | take _ going | fill _ going => exact absurd going ih.not_working
    | close _ turn | pass _ turn | tick _ turn | finish _ turn | flush _ turn =>
      simp [turn] at phase
    | answer busy => simp [idle] at busy
    | _ => exact ⟨phase, idle, buffer, by simpa [Notice.batch?] using batches⟩

/-- All rows that were queued are lost, and none of them has been in a batch. -/
structure BrokenOff (log : Log) (i : Ingestor) : Prop where
  queue : i.queue = []
  buffer : i.buffer = []
  batches : log.batches = []
  lost : log.lost = log.queued

theorem Run.brokenOff (run : Run s log i) (ended : i.phase = .ended)
    (huge : ¬ Ingestor.Allocatable s.batchSize) : BrokenOff log i := by
  obtain ⟨-, idle, buffer, batches⟩ := run.unserved huge
  have queue := (run.emptied.ended ended).2.2
  refine ⟨queue, buffer, batches, ?_⟩
  have answers : log.answers = [] := by simpa [batches, idle] using run.batches_answers.symm
  have answered : log.answered = [] := congrArg List.flatten answers
  have rows := run.queued_eq
  rw [answered, buffer, queue] at rows
  simpa using rows.symm

/-- All that can happen after the end: events are refused, and rows that were given to the store by
themselves before it are settled. -/
structure Still (i : Ingestor) (log : Log) (j : Ingestor) : Prop where
  ended : j.phase = .ended
  idle : j.writing = none
  inserts : log.inserts = []
  refused : ∀ e row answer, .submitted e row answer ∈ log → answer = .closed
  counters : j.counters =
    { i.counters with submitted := i.counters.submitted + log.written.length }

theorem Still.refl (ended : i.phase = .ended) (idle : i.writing = none) : Still i [] i :=
  ⟨ended, idle, rfl, by simp, rfl⟩

theorem Still.trans (before : Still i log j) (after : Still j later k) :
    Still i (log ++ later) k where
  ended := after.ended
  idle := after.idle
  inserts := by
    have none : Log.inserts (log ++ later) = log.inserts ++ later.inserts := List.filterMap_append
    rw [none, before.inserts, after.inserts, List.append_nil]
  refused e row answer seen :=
    (List.mem_append.mp seen).elim (before.refused e row answer) (after.refused e row answer)
  counters := by
    have sum : (Log.written (log ++ later)).length = log.written.length + later.written.length := by
      simp [Log.written, Log.of]
    rw [after.counters, before.counters, sum, Nat.add_assoc]

/-- The worker does nothing after its end, and the store has nothing of it to answer. -/
theorem Change.still (change : Change i n j) (ended : i.phase = .ended) (idle : i.writing = none) :
    Still i [n] j := by
  cases change with
  | refuse => exact ⟨ended, idle, rfl, by simp, rfl⟩
  | accept pending => exact ⟨ended, idle, rfl, by simp, rfl⟩
  | @giveUp row outcome pending unwritten =>
    have none : Log.written [.settled row outcome] = [] := by
      simp [Log.written, Log.of, Notice.written?_settled unwritten]
    exact ⟨ended, idle, rfl, by simp, by rw [none]; rfl⟩
  | stop => exact ⟨ended, idle, rfl, by simp, rfl⟩
  | answer busy => simp [idle] at busy
  | take _ going | fill _ going => exact absurd ended going.ne.2
  | queue accepting | writeAlone accepting =>
    exact absurd ended (Phase.ne_ended_of_isOpen accepting)
  | allocate _ phase | breakOff _ phase | close _ phase | pass _ phase | tick _ phase
  | finish _ phase | flush _ phase => simp [phase] at ended

theorem still_of_moves {ms : List Move} (ended : i.phase = .ended) (idle : i.writing = none)
    (h : i.moves? ms = some (log, j)) : Still i log j := by
  induction ms generalizing i log with
  | nil =>
    obtain ⟨rfl, rfl⟩ : [] = log ∧ i = j := by simpa [Ingestor.moves?] using h
    exact .refl ended idle
  | cons m ms ih =>
    simp only [Ingestor.moves?, Option.bind_eq_bind, Option.bind_eq_some_iff, Option.pure_def,
      Option.some.injEq, Prod.mk.injEq] at h
    obtain ⟨⟨n, k⟩, move, ⟨rest, l⟩, moves, rfl, rfl⟩ := h
    have first : Still i [n] k := (Change.of_move move).still ended idle
    exact first.trans (ih first.ended first.idle moves)

theorem submit_of_ended (ended : i.phase = .ended) (e : Event) (receivedAt : UInt32)
    (micros : Int) :
    i.submit e receivedAt micros = (.closed, { i with clock := (i.clock.next micros).2 }) := by
  simp [Ingestor.submit, ended, Phase.isOpen]

/-- When the worker has ended every row of the queue has had its answer, or is lost because no batch
can be held. From then on an event is refused without a trace, and no insert begins. -/
theorem Run.ended_for_good (run : Run s log i) (ended : i.phase = .ended) :
    (Ingestor.Allocatable s.batchSize → Completed log i) ∧
      (¬ Ingestor.Allocatable s.batchSize → BrokenOff log i) ∧
      ∀ ms later j, i.moves? ms = some (later, j) →
        Still i later j ∧ ∀ e receivedAt micros, j.submit e receivedAt micros =
          (.closed, { j with clock := (j.clock.next micros).2 }) := by
  refine ⟨run.completed ended, run.brokenOff ended, ?_⟩
  intro ms later j moves
  have still := still_of_moves ended (run.emptied.ended ended).1 moves
  exact ⟨still, submit_of_ended still.ended⟩

/-- Events come while a full batch is written, after the request to stop and after the queue is
closed. One batch fails. -/
def lateEvents : List Move :=
  let e (id : String) : Event := { id := id }
  [.submit (e "a") 7 50, .work false, .work false, .submit (e "b") 7 50, .work false,
    .submit (e "c") 7 50, .submit (e "d") 8 40, .stop, .answer false, .work false,
    .submit (e "f") 8 60, .work false, .work false, .answer true]

/-- A row that is written by itself outlasts the worker. -/
def afterTheEnd : List Move :=
  [.submit { id := "g" } 9 70, .settle (.ofEvent { id := "d" } 8 53) .written]

theorem ended_lateEvents :
    ∃ log i, Run { batchSize := 2, queueCapacity := 1 } log i ∧ i.phase = .ended ∧
      log.answers.map (·.map EventRow.id) = [["a", "b"], ["c"]] ∧
      log.refused.map EventRow.id = ["f"] ∧ Completed log i ∧
      (∃ later j, i.moves? afterTheEnd = some (later, j) ∧
        later.written.map EventRow.id = ["d"] ∧ Still i later j) ∧
      ∃ log' i', Run hugeBatch log' i' ∧ log'.lost.map EventRow.id = ["a"] ∧
        BrokenOff log' i' := by
  have run : Run { batchSize := 2, queueCapacity := 1 } _ _ := .of_moves lateEvents rfl
  obtain ⟨completed, -, after⟩ := run.ended_for_good rfl
  have run' : Run hugeBatch _ _ := .of_moves beforeTheFirstTurn rfl
  obtain ⟨-, brokenOff, -⟩ := run'.ended_for_good rfl
  exact ⟨_, _, run, rfl, rfl, rfl, completed (by decide),
    ⟨_, _, rfl, rfl, (after afterTheEnd _ _ rfl).1⟩, _, _, run', rfl, brokenOff (by decide)⟩

/-- The event has entered the queue, and the worker has ended without an insert. -/
theorem unanswered_hugeBatch :
    ∃ log i, Run hugeBatch log i ∧ i.phase = .ended ∧ log.queued.map EventRow.id = ["a"] ∧
      log.inserts = [] ∧ ¬ Completed log i := by
  have run : Run hugeBatch _ _ := .of_moves beforeTheFirstTurn rfl
  refine ⟨_, _, run, rfl, rfl, rfl, ?_⟩
  intro completed
  exact nomatch completed.inOrder

end RelayStore.Ingest

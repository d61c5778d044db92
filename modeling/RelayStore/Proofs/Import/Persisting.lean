import RelayStore.Proofs.Import.Dump
import RelayStore.Proofs.Import.HandingOver
import RelayStore.Proofs.Ingest.SubmissionOrder
import RelayStore.Proofs.Service.Closing

/-!
The import of files, from the reader to the store: the reader hands its events over through a
bounded channel, the saver submits one after the other, and the ingestor is closed at the end. Main
statement: what was read is in the store at the end, even if the reading failed, unless the worker
cannot have its buffer.
-/
namespace RelayStore.Import
open Ingest

/-- The events that a reader hands over, in its order. The saver takes whatever comes. -/
def handed (o : Options) (tree : FileTree) (input : String) : List Event :=
  (run o tree input CommandLine.collect []).2.reverse

/-- Whether the reading comes to an end. -/
def Ends (o : Options) (tree : FileTree) (input : String) : Prop :=
  (run o tree input CommandLine.collect []).1 ≠ none

/-- Whether the reading fails. The import then leaves the closing to its caller. -/
def failsEarly (o : Options) (tree : FileTree) (input : String) : Bool :=
  (run o tree input CommandLine.collect []).1.any fun r => !r.isOk

/-- Where the saver is. -/
inductive Stage where
  | receiving
  /-- It waits for a row that is written by itself. -/
  | writing (row : EventRow)
  /-- It waits for the worker to end. After the last call to close there is no other. -/
  | closing (last : Bool)
  | closed
  deriving DecidableEq

def Stage.after : Notice → Stage
  | .submitted _ _ (.alone row) => .writing row
  | _ => .receiving

/-- How far an import has come: what the reader has not handed over yet, what waits in the channel,
and the moves of the ingestor. -/
structure Progress where
  unread : List Event
  channel : List Event := []
  stage : Stage := .receiving
  log : Log := []
  ingest : Ingestor

/-- The most events that wait between the reader and the saver. -/
def channelRoom : Nat := 1024

/-- The reader, the saver, the worker and the store go on in any order, each as far as it need not
wait for another. The channel is closed when the reader has ended. No import begins with a queue
that cannot be made. -/
inductive Importing (o : Options) (tree : FileTree) (input : String) (s : IngestSettings) :
    Progress → Prop where
  | start (made : s.queueCapacity ≤ Ingestor.largestQueue) :
      Importing o tree input s { unread := handed o tree input, ingest := .start s }
  | hand {p : Progress} {e : Event} {rest : List Event} (importing : Importing o tree input s p)
      (next : p.unread = e :: rest) (room : p.channel.length < channelRoom) :
      Importing o tree input s { p with unread := rest, channel := p.channel ++ [e] }
  | save {p : Progress} {e : Event} {rest : List Event} {receivedAt : UInt32} {micros : Int}
      {n : Notice} {j : Ingestor} (importing : Importing o tree input s p)
      (idle : p.stage = .receiving) (next : p.channel = e :: rest)
      (move : p.ingest.move? (.submit e receivedAt micros) = some (n, j)) :
      Importing o tree input s
        { p with channel := rest, stage := .after n, log := p.log ++ [n], ingest := j }
  | settle {p : Progress} {row : EventRow} {outcome : Outcome} {n : Notice} {j : Ingestor}
      (importing : Importing o tree input s p) (waits : p.stage = .writing row)
      (move : p.ingest.move? (.settle row outcome) = some (n, j)) :
      Importing o tree input s { p with stage := .receiving, log := p.log ++ [n], ingest := j }
  | work {p : Progress} {tickDue : Bool} {n : Notice} {j : Ingestor}
      (importing : Importing o tree input s p)
      (move : p.ingest.move? (.work tickDue) = some (n, j)) :
      Importing o tree input s { p with log := p.log ++ [n], ingest := j }
  | answer {p : Progress} {ok : Bool} {n : Notice} {j : Ingestor}
      (importing : Importing o tree input s p)
      (move : p.ingest.move? (.answer ok) = some (n, j)) :
      Importing o tree input s { p with log := p.log ++ [n], ingest := j }
  | close {p : Progress} {n : Notice} {j : Ingestor} (importing : Importing o tree input s p)
      (ends : Ends o tree input)
      (idle : p.stage = .receiving) (read : p.unread = []) (drained : p.channel = [])
      (move : p.ingest.move? .stop = some (n, j)) :
      Importing o tree input s
        { p with stage := .closing (failsEarly o tree input), log := p.log ++ [n], ingest := j }
  | closeAgain {p : Progress} {n : Notice} {j : Ingestor} (importing : Importing o tree input s p)
      (waits : p.stage = .closing false) (ended : p.ingest.phase = .ended)
      (move : p.ingest.move? .stop = some (n, j)) :
      Importing o tree input s
        { p with stage := .closing true, log := p.log ++ [n], ingest := j }
  | closed {p : Progress} (importing : Importing o tree input s p)
      (waits : p.stage = .closing true) (ended : p.ingest.phase = .ended) :
      Importing o tree input s { p with stage := .closed }

/-- The rows in the order of their versions. -/
def byVersion (rows : List EventRow) : List EventRow :=
  rows.mergeSort fun a b => a.version ≤ b.version

/-- What an import leaves when its last call to close has returned. -/
structure Persisted (s : IngestSettings) (events : List Event) (log : Log) : Prop where
  /-- Each event that was handed over is submitted, in the same order, and no other. -/
  submitted : log.events = events
  /-- If the worker has its buffer, an event whose submission succeeded is in exactly one insert
  that was answered. -/
  once : Ingestor.Allocatable s.batchSize →
    ∀ row ∈ log.accepted, (log.answeredInserts.filter (row ∈ ·)).length = 1
  /-- If also no insert fails or is late, the store has the rows of all events, in the order of the
  reading. -/
  complete : Ingestor.Allocatable s.batchSize → (∀ rows, .answered rows false ∉ log) →
    (∀ row outcome, .settled row outcome ∈ log → outcome = .written) →
    (byVersion log.stored).map EventRow.unstamped = events.map fun e => .ofEvent e 0 0

variable {o : Options} {tree : FileTree} {input : String} {s : IngestSettings} {p : Progress}
  {log : Log} {i j : Ingestor} {n : Notice}

/-! The ingestor. -/

/-- Where the worker has its buffer, the queue is open until it is asked to stop. -/
theorem isOpen_of_run (run : Ingest.Run s log i) (fits : Ingestor.Allocatable s.batchSize)
    (unasked : i.stopping = false) : i.phase.isOpen := by
  induction run with
  | start => rfl
  | @next log i _ _ _ run move ih =>
    cases Change.of_move move with
    | allocate => rfl
    | breakOff _ _ huge =>
      rw [run.intact.batchSize] at huge
      exact absurd (allocatable_max.mpr fits) huge
    | close _ _ asked => cases asked.symm.trans unasked
    | finish _ draining => exact nomatch draining ▸ ih unasked
    | answer busy =>
      split
      next last =>
        have draining := (run.emptied.ending (busy.trans (congrArg some last))).1
        exact nomatch draining ▸ ih unasked
      next => exact ih unasked
    | stop => cases unasked
    | _ => exact ih unasked

/-- What the moves of the worker and the store leave. -/
structure Untouched (i : Ingestor) (n : Notice) (j : Ingestor) : Prop where
  alone : j.alone = i.alone
  stopping : j.stopping = i.stopping
  event : n.event? = none
  refused : n.refused? = none
  kept : i.phase = .ended → j.phase = .ended

/-- Whether a notice is of a move of the worker or of the store. -/
def Inner : Notice → Prop
  | .worked _ | .batch _ _ | .brokeOff _ | .answered _ _ => True
  | _ => False

theorem Untouched.of_change (change : Change i n j) (inner : Inner n) : Untouched i n j := by
  cases change with
  | queue | writeAlone | refuse | accept | giveUp | stop => exact inner.elim
  | allocate _ phase | close _ phase =>
    exact ⟨rfl, rfl, rfl, rfl, fun ended => nomatch phase.symm.trans ended⟩
  | breakOff => exact ⟨rfl, rfl, rfl, rfl, fun _ => rfl⟩
  | take | fill | pass | tick | flush => exact ⟨rfl, rfl, rfl, rfl, id⟩
  | finish => exact ⟨rfl, rfl, rfl, rfl, fun _ => rfl⟩
  | answer =>
    refine ⟨rfl, rfl, rfl, rfl, fun ended => ?_⟩
    split
    · rfl
    · exact ended

theorem inner_noticeOf (i : Ingestor) (step : Step) : Inner (i.noticeOf step) := by
  unfold Ingestor.noticeOf
  split_ifs <;> trivial

theorem untouched_work {tickDue : Bool} (move : i.move? (.work tickDue) = some (n, j)) :
    Untouched i n j := by
  refine .of_change (.of_move move) ?_
  obtain ⟨step, -, rfl, -⟩ : ∃ step, i.next? tickDue = some step ∧
      i.noticeOf step = n ∧ i.step step = j := by
    simpa [Ingestor.move?] using move
  exact inner_noticeOf i step

theorem untouched_answer {ok : Bool} (move : i.move? (.answer ok) = some (n, j)) :
    Untouched i n j := by
  refine .of_change (.of_move move) ?_
  obtain ⟨-, rfl, -⟩ : i.writing.isSome = true ∧ .answered i.buffer ok = n ∧ i.answered ok = j := by
    simpa [Ingestor.move?] using move
  trivial

/-- What a submission leaves, and where its caller goes on. -/
theorem submitted_eq {e : Event} {receivedAt : UInt32} {micros : Int}
    (move : i.move? (.submit e receivedAt micros) = some (n, j)) :
    n.event? = some e ∧ j.stopping = i.stopping ∧ (i.phase.isOpen → n.refused? = none) ∧
      (Stage.after n = .receiving ∧ j.alone = i.alone ∨
        ∃ row, Stage.after n = .writing row ∧ j.alone = i.alone ++ [row]) := by
  have event : n.event? = some e := by
    obtain ⟨rfl, -⟩ :
        .submitted e (i.rowOf e receivedAt micros) (i.submit e receivedAt micros).1 = n ∧
        (i.submit e receivedAt micros).2 = j := by
      simpa [Ingestor.move?] using move
    rfl
  cases Change.of_move move with
  | queue => exact ⟨event, rfl, fun _ => rfl, .inl ⟨rfl, rfl⟩⟩
  | writeAlone => exact ⟨event, rfl, fun _ => rfl, .inr ⟨_, rfl, rfl⟩⟩
  | refuse shut =>
    exact ⟨event, rfl, fun open_ => absurd open_ (by simp [shut]), .inl ⟨rfl, rfl⟩⟩
  | _ => cases event

theorem settled_eq {row : EventRow} {outcome : Outcome}
    (move : i.move? (.settle row outcome) = some (n, j)) :
    n = .settled row outcome ∧ j.stopping = i.stopping ∧ j.alone = i.alone.erase row := by
  obtain ⟨-, rfl, rfl⟩ : row ∈ i.alone ∧ .settled row outcome = n ∧
      i.settleAlone row (decide (outcome = .written)) = j := by
    simpa [Ingestor.move?] using move
  unfold Ingestor.settleAlone
  split <;> exact ⟨rfl, rfl, rfl⟩

theorem stopped_eq (move : i.move? .stop = some (n, j)) : n = .stopped ∧ j = i.stop := by
  obtain ⟨rfl, rfl⟩ : .stopped = n ∧ i.stop = j := by simpa [Ingestor.move?] using move
  exact ⟨rfl, rfl⟩

/-! The import. -/

/-- What holds of an import at any time. The saver waits for no more than one row. -/
structure Coherent (o : Options) (tree : FileTree) (input : String) (s : IngestSettings)
    (p : Progress) : Prop where
  run : Ingest.Run s p.log p.ingest
  events : p.log.events ++ p.channel ++ p.unread = handed o tree input
  alone : p.ingest.alone = match p.stage with
    | .writing row => [row]
    | _ => []
  serves : p.stage = .receiving ∨ (∃ row, p.stage = .writing row) → p.ingest.stopping = false
  drained : p.stage = .closed ∨ (∃ last, p.stage = .closing last) → p.channel = [] ∧ p.unread = []
  ended : p.stage = .closed → p.ingest.phase = .ended
  refused : Ingestor.Allocatable s.batchSize → p.log.refused = []

theorem Coherent.events_noted (coherent : Coherent o tree input s p) (quiet : n.event? = none) :
    Log.events (p.log ++ [n]) ++ p.channel ++ p.unread = handed o tree input := by
  rw [Log.events, Log.of_append, quiet]
  simpa using coherent.events

theorem Coherent.refused_noted (coherent : Coherent o tree input s p) (quiet : n.refused? = none)
    (fits : Ingestor.Allocatable s.batchSize) : Log.refused (p.log ++ [n]) = [] := by
  rw [Log.refused, Log.of_append, quiet]
  simpa using coherent.refused fits

theorem Coherent.inner (coherent : Coherent o tree input s p) {m : Move}
    (move : p.ingest.move? m = some (n, j)) (untouched : Untouched p.ingest n j) :
    Coherent o tree input s { p with log := p.log ++ [n], ingest := j } where
  run := coherent.run.next move
  events := coherent.events_noted untouched.event
  alone := untouched.alone.trans coherent.alone
  serves busy := untouched.stopping.trans (coherent.serves busy)
  drained := coherent.drained
  ended closed := untouched.kept (coherent.ended closed)
  refused := coherent.refused_noted untouched.refused

/-- A call to close when nothing is left to submit. -/
theorem Coherent.asked (coherent : Coherent o tree input s p) {last : Bool}
    (idle : p.ingest.alone = []) (drained : p.channel = [] ∧ p.unread = [])
    (move : p.ingest.move? .stop = some (n, j)) :
    Coherent o tree input s
      { p with stage := .closing last, log := p.log ++ [n], ingest := j } := by
  obtain ⟨rfl, rfl⟩ := stopped_eq move
  exact ⟨coherent.run.next move, coherent.events_noted rfl, idle, by simp, fun _ => drained,
    by rintro ⟨⟩, coherent.refused_noted rfl⟩

theorem Importing.coherent (importing : Importing o tree input s p) :
    Coherent o tree input s p := by
  induction importing with
  | start => exact ⟨.start, rfl, rfl, fun _ => rfl, by simp, by rintro ⟨⟩, fun _ => rfl⟩
  | @hand p e rest importing next room ih =>
    refine ⟨ih.run, ?_, ih.alone, ih.serves, fun shut => ?_, ih.ended, ih.refused⟩
    · rw [← ih.events, next]
      simp
    · cases next.symm.trans (ih.drained shut).2
  | @save p e rest _ _ n j importing idle next move ih =>
    obtain ⟨event, stopping, accepted, went⟩ := submitted_eq move
    have unasked := ih.serves (.inl idle)
    have alone : p.ingest.alone = [] := by rw [ih.alone, idle]
    refine ⟨ih.run.next move, ?_, ?_, fun _ => stopping.trans unasked, fun shut => ?_,
      fun shut => ?_, fun fits => ?_⟩
    · rw [← ih.events, next, Log.events, Log.of_append, event]
      simp
    · obtain ⟨stage, same⟩ | ⟨row, stage, added⟩ := went
      · dsimp only
        rw [stage, same, alone]
      · dsimp only
        rw [stage, added, alone, List.nil_append]
    · obtain ⟨stage, -⟩ | ⟨row, stage, -⟩ := went <;> simp [stage] at shut
    · obtain ⟨stage, -⟩ | ⟨row, stage, -⟩ := went <;> simp [stage] at shut
    · rw [Log.refused, Log.of_append, accepted (isOpen_of_run ih.run fits unasked)]
      simpa using ih.refused fits
  | @settle p row outcome n j importing waits move ih =>
    obtain ⟨rfl, stopping, alone⟩ := settled_eq move
    refine ⟨ih.run.next move, ih.events_noted rfl, ?_,
      fun _ => stopping.trans (ih.serves (.inr ⟨row, waits⟩)), by simp, by rintro ⟨⟩,
      ih.refused_noted rfl⟩
    dsimp only
    rw [alone, ih.alone, waits]
    simp
  | work importing move ih => exact ih.inner move (untouched_work move)
  | answer importing move ih => exact ih.inner move (untouched_answer move)
  | close importing ends idle read drained move ih =>
    exact ih.asked (ih.alone.trans (by rw [idle])) ⟨drained, read⟩ move
  | closeAgain importing waits ended move ih =>
    exact ih.asked (ih.alone.trans (by rw [waits])) (ih.drained (.inr ⟨_, waits⟩)) move
  | closed importing waits ended ih =>
    refine ⟨ih.run, ih.events, ?_, by simp, fun _ => ih.drained (.inr ⟨_, waits⟩), fun _ => ended,
      ih.refused⟩
    exact ih.alone.trans (by rw [waits])

/-! The end. -/

/-- Rows with different versions have one order. -/
theorem byVersion_of_perm {rows sorted : List EventRow} (perm : rows.Perm sorted)
    (increasing : sorted.Pairwise fun a b => a.version < b.version) : byVersion rows = sorted := by
  have distinct : (sorted.map EventRow.version).Nodup :=
    List.pairwise_map.mpr (increasing.imp Nat.ne_of_lt)
  have arranged : (byVersion rows).Perm sorted := (List.mergeSort_perm rows _).trans perm
  have ordered : (byVersion rows).Pairwise fun a b => a.version ≤ b.version :=
    (List.pairwise_mergeSort (fun a b c => by simpa using Nat.le_trans)
      (fun a b => by simpa using Nat.le_total a.version b.version) rows).imp
        fun le => by simpa using le
  refine arranged.eq_of_pairwise (fun a b held other le le' => ?_) ordered
    (increasing.imp Nat.le_of_lt)
  exact List.inj_on_of_nodup_map distinct (arranged.mem_iff.mp held) other (Nat.le_antisymm le le')

/-- The row of a single write that the store answered. -/
def heard? : Notice → Option EventRow
  | .settled row .written => some row
  | .settled row .failed => some row
  | _ => none

theorem heard_sublist (log : Log) : (log.of heard?).Sublist log.settled := by
  induction log using List.reverseRecOn with
  | nil => exact List.Sublist.refl _
  | append_singleton log n ih =>
    rw [Log.of_append, Log.settled, Log.of_append]
    refine ih.append ?_
    cases n with
    | settled row outcome => cases outcome <;> simp [heard?, Notice.settled?]
    | _ => exact List.nil_sublist _

/-- An insert that was answered is a batch or a single row. -/
theorem answeredInserts_perm (log : Log) :
    log.answeredInserts.Perm (log.answers ++ (log.of heard?).map fun row => [row]) := by
  simp only [List.perm_iff_count, List.count_append, Log.answeredInserts, Log.answers]
  induction log using List.reverseRecOn with
  | nil => intro rows; rfl
  | append_singleton log n ih =>
    intro rows
    have := ih rows
    cases n with
    | answered r ok =>
      simp only [Log.of_append, List.map_append, List.count_append, Notice.answeredInsert?,
        Notice.answered?, heard?, Option.toList_some, Option.toList_none, List.map_nil,
        List.count_nil]
      omega
    | settled r outcome =>
      cases outcome <;>
        simp only [Log.of_append, List.map_append, List.count_append, Notice.answeredInsert?,
          Notice.answered?, heard?, Option.toList_some, Option.toList_none, List.map_cons,
          List.map_nil, List.count_nil] <;>
        omega
    | _ => simpa [Notice.answeredInsert?, Notice.answered?, heard?] using this

/-- Each row that was accepted is in one insert that was answered. -/
theorem answeredInserts_of_accepted (run : Ingest.Run s log i)
    (fits : Ingestor.Allocatable s.batchSize) (ended : i.phase = .ended) {row : EventRow}
    (accepted : row ∈ log.accepted) :
    (log.answeredInserts.filter (row ∈ ·)).length = 1 := by
  have completed := run.completed ended fits
  have settled : log.settled.Subperm log.alone :=
    (List.sublist_append_left _ _).subperm.trans run.alone_perm.symm.subperm
  have heard : (log.of heard?).Subperm log.alone := (heard_sublist log).subperm.trans settled
  have distinct : (log.of heard?).Nodup := by
    obtain ⟨rows, perm, sublist⟩ := heard
    exact perm.nodup_iff.mp (run.queued_alone_nodup.of_append_right.sublist sublist)
  rw [((answeredInserts_perm log).filter (row ∈ ·)).length_eq, List.filter_append,
    List.length_append]
  rcases Log.mem_accepted.mp accepted with queued | written
  · have apart : row ∉ log.of heard? := fun single =>
      List.disjoint_of_nodup_append run.queued_alone_nodup queued (heard.subset single)
    have none : ((log.of heard?).map fun r => [r]).filter (row ∈ ·) = [] := by
      simp only [List.filter_eq_nil_iff, List.mem_map, decide_eq_true_eq]
      rintro _ ⟨r, single, rfl⟩ held
      exact apart (List.mem_singleton.mp held ▸ single)
    rw [completed.once row queued, none, List.length_nil]
  · have single : row ∈ log.of heard? := List.mem_filterMap.mpr ⟨_, written, rfl⟩
    have none : log.answers.filter (row ∈ ·) = [] := by
      simp only [List.filter_eq_nil_iff, decide_eq_true_eq]
      intro rows answered held
      have queued : row ∈ log.queued := completed.inOrder ▸ List.mem_flatten_of_mem answered held
      exact List.disjoint_of_nodup_append run.queued_alone_nodup queued (heard.subset single)
    rw [none, filter_singletons distinct single]
    rfl

/-- If every insert succeeds in time, every submission has come back well. -/
theorem Coherent.saved (coherent : Coherent o tree input s p) (closed : p.stage = .closed)
    (fits : Ingestor.Allocatable s.batchSize)
    (unfailed : ∀ rows, .answered rows false ∉ p.log)
    (inTime : ∀ row outcome, .settled row outcome ∈ p.log → outcome = .written) : p.log.Saved := by
  have refused := coherent.refused fits
  have alone : p.log.alone.Perm p.log.settled := by
    have perm := coherent.run.alone_perm
    rwa [coherent.alone, closed, List.append_nil] at perm
  intro n seen
  cases n with
  | submitted e row answer =>
    cases answer with
    | queued => trivial
    | closed =>
      have member : row ∈ p.log.refused := List.mem_filterMap.mpr ⟨_, seen, rfl⟩
      rw [refused] at member
      cases member
    | alone r =>
      have member : r ∈ p.log.alone := List.mem_filterMap.mpr ⟨_, seen, rfl⟩
      obtain ⟨n, settled, view⟩ := List.mem_filterMap.mp (alone.mem_iff.mp member)
      cases n with
      | settled r' outcome =>
        cases view
        rw [inTime r outcome settled] at settled
        exact settled
      | _ => cases view
  | answered rows ok =>
    cases ok with
    | true => rfl
    | false => exact absurd seen (unfailed rows)
  | settled row outcome => exact inTime row outcome seen
  | _ => trivial

/-- Of a file with dumped events all that are not too old are handed over. -/
theorem run_of_lines {f : File} {events : List Event} (sound : ∀ e ∈ events, e.check = .ok ())
    (selected : File.select tree input = .ok [f])
    (opens : f.barred = none) (whole : f.contents.stop = none)
    (lines : f.lines = events.map fun e => .text e.text) (trusting : o.verify = false)
    (unlimited : o.limit = none) :
    handed o tree input = current events ∧ Ends o tree input ∧ failsEarly o tree input = false := by
  have imported : Run.files o CommandLine.collect [f] ⟨[], {}⟩ =
      (.finished, Run.countFile ⟨(current events).foldl (fun s e => (CommandLine.collect e s).2) [],
        Statistics.countEvents {} events⟩) := by
    have willing : ∀ e s, (CommandLine.collect e s).1 = .ok true := fun _ _ => rfl
    have read := Run.lines_texts (o := o) trusting willing sound ⟨[], {}⟩
    rw [← lines] at read
    rw [Run.files, Run.file_sound opens whole read]
    rfl
  have collected : (current events).foldl (fun s e => (CommandLine.collect e s).2) [] =
      (current events).reverse := by
    simp [CommandLine.collect]
  refine ⟨?_, ?_, ?_⟩
  · simp [handed, run, selected, unlimited, imported, collected, Run.countFile]
  · simp [Ends, run, selected, unlimited, imported]
  · simp [failsEarly, run, selected, unlimited, imported, Except.isOk, Except.toBool]

/-! A file with one event that is not too old. -/

theorem run_dumpSampleFile :
    handed ⟨false, true, none⟩ dumpSampleTree "dump.jsonl" = dumpSample.take 1 ∧
      Ends ⟨false, true, none⟩ dumpSampleTree "dump.jsonl" ∧
      failsEarly ⟨false, true, none⟩ dumpSampleTree "dump.jsonl" = false := by
  have selected : File.select dumpSampleTree "dump.jsonl" = .ok [dumpSampleFile] := rfl
  have lines : dumpSampleFile.lines = dumpSample.map fun e => .text e.text :=
    @File.lines_of_dump dumpSampleFile dumpSample [.returnAndNewline, .newline] rfl rfl
  exact run_of_lines check_dumpSample selected rfl rfl lines rfl rfl

/-- An import of one event in a batch of two. -/
theorem Importing.closes_single {e : Event} (only : handed o tree input = [e])
    (ends : Ends o tree input) (read : failsEarly o tree input = false) :
    ∃ p row, Importing o tree input { batchSize := 2 } p ∧ p.stage = .closed ∧
      p.log = [.submitted e row .queued, .stopped, .worked .allocate, .worked .close,
        .worked .take, .batch .finish [row], .answered [row] true, .stopped] := by
  have started := @Importing.start o tree input { batchSize := 2 } (by decide)
  have handing := started.hand only (by simp [channelRoom])
  have saved := @Importing.save _ _ _ _ _ e [] 0 0 _ _ handing rfl rfl rfl
  have asked := saved.close ends rfl rfl rfl rfl
  rw [read] at asked
  have allocated := @Importing.work _ _ _ _ _ false _ _ asked rfl
  have draining := @Importing.work _ _ _ _ _ false _ _ allocated rfl
  have taken := @Importing.work _ _ _ _ _ false _ _ draining rfl
  have writing := @Importing.work _ _ _ _ _ false _ _ taken rfl
  have ended := @Importing.answer _ _ _ _ _ true _ _ writing rfl
  exact ⟨_, .ofEvent e 0 1, (ended.closeAgain rfl rfl rfl).closed rfl rfl, rfl, rfl⟩

/-- No memory holds such a batch. The event is accepted before the worker's first turn, and lost
in it. -/
theorem Importing.loses_single {e : Event} (only : handed o tree input = [e])
    (ends : Ends o tree input) (read : failsEarly o tree input = false) :
    ∃ p row, Importing o tree input hugeBatch p ∧ p.stage = .closed ∧
      p.log = [.submitted e row .queued, .brokeOff [row], .stopped, .stopped] := by
  have started := @Importing.start o tree input hugeBatch (by decide)
  have handing := started.hand only (by simp [channelRoom])
  have saved := @Importing.save _ _ _ _ _ e [] 0 0 _ _ handing rfl rfl rfl
  have lost := @Importing.work _ _ _ _ _ false _ _ saved rfl
  have asked := lost.close ends rfl rfl rfl rfl
  rw [read] at asked
  exact ⟨_, .ofEvent e 0 1, (asked.closeAgain rfl rfl rfl).closed rfl rfl, rfl, rfl⟩

/-! The statement. -/

/-- Whatever the reading came to and however the parties took turns, at the last return from closing
everything that was read has been submitted in its order. Where the worker has its buffer, it is in
the store unless an insert failed. -/
theorem Importing.persists (importing : Importing o tree input s p) (closed : p.stage = .closed) :
    Persisted s (handed o tree input) p.log := by
  have coherent := importing.coherent
  have ended := coherent.ended closed
  obtain ⟨drained, read⟩ := coherent.drained (.inl closed)
  have submitted : p.log.events = handed o tree input := by
    have events := coherent.events
    rwa [drained, read, List.append_nil, List.append_nil] at events
  refine ⟨submitted,
    fun fits row accepted => answeredInserts_of_accepted coherent.run fits ended accepted,
    fun fits unfailed inTime => ?_⟩
  have saved := coherent.saved closed fits unfailed inTime
  rw [byVersion_of_perm (coherent.run.stored_perm fits saved ended) coherent.run.versions.1,
    coherent.run.issued_unstamped, submitted]

theorem persists_dumpSample :
    ∃ p, Importing ⟨false, true, none⟩ dumpSampleTree "dump.jsonl" { batchSize := 2 } p ∧
      p.stage = .closed ∧
      Persisted { batchSize := 2 } (handed ⟨false, true, none⟩ dumpSampleTree "dump.jsonl") p.log ∧
      (byVersion p.log.stored).map EventRow.unstamped =
        (dumpSample.take 1).map fun e => .ofEvent e 0 0 := by
  obtain ⟨only, ends, read⟩ := run_dumpSampleFile
  obtain ⟨p, row, importing, closed, log⟩ := Importing.closes_single only ends read
  have persisted := importing.persists closed
  have complete := persisted.complete (by decide) (by simp [log]) (by simp [log])
  exact ⟨p, importing, closed, persisted, only ▸ complete⟩

/-- Although no insert fails, an event whose submission succeeded is in no insert, and what was read
is not in the store. -/
theorem unstored_dumpSample :
    ∃ p, Importing ⟨false, true, none⟩ dumpSampleTree "dump.jsonl" hugeBatch p ∧
      p.stage = .closed ∧ (∃ row ∈ p.log.accepted, p.log.answeredInserts.filter (row ∈ ·) = []) ∧
      (∀ rows, .answered rows false ∉ p.log) ∧
      (∀ row outcome, .settled row outcome ∈ p.log → outcome = .written) ∧
      (byVersion p.log.stored).map EventRow.unstamped ≠
        (handed ⟨false, true, none⟩ dumpSampleTree "dump.jsonl").map fun e => .ofEvent e 0 0 := by
  obtain ⟨only, ends, read⟩ := run_dumpSampleFile
  obtain ⟨p, row, importing, closed, log⟩ := Importing.loses_single only ends read
  have accepted : p.log.accepted = [row] := by rw [log]; rfl
  have answered : p.log.answeredInserts = [] := by rw [log]; rfl
  refine ⟨p, importing, closed, ⟨row, by simp [accepted], by simp [answered]⟩, by simp [log],
    by simp [log], ?_⟩
  have stored : p.log.stored = [] := by rw [log]; rfl
  rw [stored, only]
  simp [dumpSample, byVersion]

end RelayStore.Import

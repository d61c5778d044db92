import RelayStore.Proofs.Ingest.Flow
import Mathlib.Data.List.Infix

/-! Delivery. The batches of a run are the queue cut into pieces, and a row that finds the queue
full goes to the store by itself. -/
namespace RelayStore.Ingest

variable {s : IngestSettings} {log : Log} {i : Ingestor}

theorem Run.batches_prefix (run : Run s log i) :
    log.batches.flatMap Batch.rows <+: log.queued := by
  rw [run.batches_eq, run.queued_eq, List.append_assoc, List.append_assoc,
    List.prefix_append_right_inj]
  split
  · exact List.prefix_append _ _
  · exact List.nil_prefix

theorem Run.not_mem_batch (run : Run s log i) {row : EventRow} (alone : row ∈ log.alone)
    {b : Batch} (sent : b ∈ log.batches) : row ∉ b.rows := by
  intro held
  have queued : row ∈ log.queued :=
    run.batches_prefix.subset (List.mem_flatMap.mpr ⟨b, sent, held⟩)
  exact List.disjoint_of_nodup_append run.queued_alone_nodup queued alone

/-- An insert is a batch or a single row. -/
theorem Log.inserts_perm (log : Log) :
    log.inserts.Perm (log.batches.map Batch.rows ++ log.alone.map fun row => [row]) := by
  simp only [List.perm_iff_count, List.count_append, Log.inserts, Log.batches, Log.alone]
  induction log using List.reverseRecOn with
  | nil => intro rows; rfl
  | append_singleton log n ih =>
    intro rows
    have := ih rows
    cases n with
    | submitted e row answer =>
      cases answer <;>
        simp only [Log.of_append, List.map_append, List.count_append, Notice.insert?, Notice.batch?,
          Notice.alone?, Option.toList_some, Option.toList_none, List.map_cons, List.map_nil,
          List.count_nil] <;>
        omega
    | batch step rows =>
      simp only [Log.of_append, List.map_append, List.count_append, Notice.insert?, Notice.batch?,
        Notice.alone?, Option.toList_some, Option.toList_none, List.map_cons, List.map_nil,
        List.count_nil]
      omega
    | _ => simpa [Notice.insert?, Notice.batch?, Notice.alone?] using this

theorem filter_singletons {rows : List EventRow} (distinct : rows.Nodup) {row : EventRow}
    (h : row ∈ rows) : (rows.map fun r => [r]).filter (row ∈ ·) = [[row]] := by
  induction rows with
  | nil => simp at h
  | cons r rest ih =>
    obtain ⟨fresh, distinct⟩ := List.nodup_cons.mp distinct
    rcases List.mem_cons.mp h with rfl | h
    · have none : (rest.map fun r => [r]).filter (row ∈ ·) = [] := by
        simp only [List.filter_eq_nil_iff, List.mem_map, decide_eq_true_eq]
        rintro _ ⟨r, hr, rfl⟩ he
        exact fresh (List.mem_singleton.mp he ▸ hr)
      simp [none]
    · have other : row ≠ r := fun he => fresh (he ▸ h)
      simpa [other] using ih distinct h

theorem length_filter_mem_le_one {pieces : List (List EventRow)} (distinct : pieces.flatten.Nodup)
    (row : EventRow) : (pieces.filter (row ∈ ·)).length ≤ 1 := by
  induction pieces with
  | nil => simp
  | cons piece rest ih =>
    rw [List.flatten_cons] at distinct
    by_cases h : row ∈ piece
    · have none : rest.filter (row ∈ ·) = [] := by
        simp only [List.filter_eq_nil_iff, decide_eq_true_eq]
        intro other hr again
        exact List.disjoint_of_nodup_append distinct h (List.mem_flatten_of_mem hr again)
      simp [h, none]
    · simpa [h] using ih distinct.of_append_right

theorem Run.inserts_of_alone (run : Run s log i) {row : EventRow} (alone : row ∈ log.alone) :
    log.inserts.filter (row ∈ ·) = [[row]] := by
  have batches : (log.batches.map Batch.rows).filter (row ∈ ·) = [] := by
    simp only [List.filter_eq_nil_iff, List.mem_map, decide_eq_true_eq]
    rintro _ ⟨b, sent, rfl⟩
    exact run.not_mem_batch alone sent
  have single := filter_singletons run.queued_alone_nodup.of_append_right alone
  have h := log.inserts_perm.filter (row ∈ ·)
  rw [List.filter_append, batches, single, List.nil_append] at h
  exact List.perm_singleton.mp h

theorem Run.inserts_of_queued (run : Run s log i) {row : EventRow} (queued : row ∈ log.queued) :
    (log.inserts.filter (row ∈ ·)).length ≤ 1 := by
  have single : (log.alone.map fun r => [r]).filter (row ∈ ·) = [] := by
    simp only [List.filter_eq_nil_iff, List.mem_map, decide_eq_true_eq]
    rintro _ ⟨r, alone, rfl⟩ he
    obtain rfl := List.mem_singleton.mp he
    exact List.disjoint_of_nodup_append run.queued_alone_nodup queued alone
  have h := (log.inserts_perm.filter (row ∈ ·)).length_eq
  rw [List.filter_append, single, List.append_nil] at h
  rw [h]
  apply length_filter_mem_le_one
  rw [← List.flatMap_def]
  exact run.queued_alone_nodup.of_append_left.sublist run.batches_prefix.sublist

theorem Log.forall_batches_snoc {p : Batch → Prop} {step : Step} {rows : List EventRow} :
    (∀ b ∈ Log.batches (log ++ [.batch step rows]), p b) ↔
      (∀ b ∈ log.batches, p b) ∧ p ⟨step, rows⟩ := by
  simp only [Log.batches, Log.of_append, Notice.batch?, Option.toList_some, List.forall_mem_append,
    List.forall_mem_singleton]

/-- How long batches are. A buffer that is not being written is shorter than a full batch. -/
structure Sized (s : IngestSettings) (log : Log) (i : Ingestor) : Prop where
  full : i.batchSize = max s.batchSize 1
  short : i.writing = none → i.buffer.length < i.batchSize
  sent : ∀ b ∈ log.batches, 1 ≤ b.rows.length ∧ b.rows.length ≤ max s.batchSize 1 ∧
    (b.rows.length < max s.batchSize 1 → b.step = .tick ∨ b.step = .finish)

theorem Sized.start (s : IngestSettings) : Sized s [] (.start s) where
  full := rfl
  short _ := Nat.lt_of_lt_of_le Nat.zero_lt_one (Nat.le_max_right _ _)
  sent := by simp

theorem Sized.change {j : Ingestor} {n : Notice} (h : Sized s log i) (change : Change i n j) :
    Sized s (log ++ [n]) j := by
  obtain ⟨full, short, sent⟩ := h
  cases change with
  | take idle going first below =>
    exact ⟨full, fun _ => by simpa using below, by simpa [Notice.batch?] using sent⟩
  | fill idle going first reached =>
    have := short idle
    refine ⟨full, by simp, Log.forall_batches_snoc.mpr ⟨sent, ?_⟩⟩
    simp only [List.length_append, List.length_singleton]
    exact ⟨by omega, by omega, by omega⟩
  | tick idle serving unasked drained held =>
    have := short idle
    have := List.length_pos_iff.mpr held
    have size : 1 ≤ i.buffer.length ∧ i.buffer.length ≤ max s.batchSize 1 := by omega
    refine ⟨full, by simp, Log.forall_batches_snoc.mpr ⟨sent, ?_⟩⟩
    exact ⟨size.1, size.2, fun _ => .inl rfl⟩
  | flush idle draining drained held =>
    have := short idle
    have := List.length_pos_iff.mpr held
    have size : 1 ≤ i.buffer.length ∧ i.buffer.length ≤ max s.batchSize 1 := by omega
    refine ⟨full, by simp, Log.forall_batches_snoc.mpr ⟨sent, ?_⟩⟩
    exact ⟨size.1, size.2, fun _ => .inr rfl⟩
  | answer busy ok =>
    have room : 0 < i.batchSize := by omega
    exact ⟨full, fun _ => room, by simpa [Notice.batch?] using sent⟩
  | _ => exact ⟨full, short, by simpa [Notice.batch?] using sent⟩

theorem Run.sized (run : Run s log i) : Sized s log i := by
  induction run with
  | start => exact .start s
  | next run move ih => exact ih.change (.of_move move)

/-- The last flush comes after the request to stop, and no batch after it. -/
structure Closing (log : Log) (i : Ingestor) : Prop where
  asked : i.stopping = true → .stopped ∈ log
  draining : i.phase = .draining → i.stopping = true
  flushed : ∀ b ∈ log.batches, b.step = .finish →
    .stopped ∈ log ∧ (i.writing = some .ending ∨ i.phase = .ended)
  last : ∀ b ∈ log.batches.dropLast, b.step ≠ .finish

theorem Closing.start (s : IngestSettings) : Closing [] (.start s) where
  asked h := by simp [Ingestor.start] at h
  draining h := by simp [Ingestor.start] at h
  flushed := by simp
  last := by simp

/-- While the worker waits for nothing and goes on, the last flush has not been sent. -/
theorem Closing.unflushed (h : Closing log i) (idle : i.writing = none) (going : i.phase ≠ .ended) :
    ∀ b ∈ log.batches, b.step ≠ .finish := by
  intro b sent finish
  rcases (h.flushed b sent finish).2 with busy | ended
  · simp [idle] at busy
  · exact going ended

theorem Closing.change {j : Ingestor} {n : Notice} (h : Closing log i) (change : Change i n j) :
    Closing (log ++ [n]) j := by
  have unflushed := h.unflushed
  obtain ⟨asked, draining, flushed, last⟩ := h
  cases change with
  | allocate idle unstarted room =>
    refine ⟨by simpa using asked, by simp, ?_, by simpa [Notice.batch?] using last⟩
    simpa [Notice.batch?, unstarted] using flushed
  | close idle serving stopping =>
    refine ⟨by simpa using asked, fun _ => stopping, ?_, by simpa [Notice.batch?] using last⟩
    simpa [Notice.batch?, serving] using flushed
  | fill idle going first reached =>
    have unflushed := unflushed idle going.ne.2
    refine ⟨by simpa using asked, draining, Log.forall_batches_snoc.mpr ⟨?_, by simp⟩,
      by simpa [Notice.batch?] using unflushed⟩
    intro b sent finish
    exact absurd finish (unflushed b sent)
  | tick idle serving unasked drained held =>
    have unflushed := unflushed idle (by simp [serving])
    refine ⟨by simpa using asked, draining, Log.forall_batches_snoc.mpr ⟨?_, by simp⟩,
      by simpa [Notice.batch?] using unflushed⟩
    intro b sent finish
    exact absurd finish (unflushed b sent)
  | breakOff | finish =>
    refine ⟨by simpa using asked, by simp, ?_, by simpa [Notice.batch?] using last⟩
    intro b sent finish
    have sent : b ∈ log.batches := by simpa [Notice.batch?] using sent
    exact ⟨by simpa using (flushed b sent finish).1, .inr rfl⟩
  | flush idle phase drained held =>
    have unflushed := unflushed idle (by simp [phase])
    refine ⟨by simpa using asked, draining, ?_, by simpa [Notice.batch?] using unflushed⟩
    intro b sent finish
    exact ⟨by simpa using asked (draining phase), .inl rfl⟩
  | @answer cause _ busy ok =>
    refine ⟨by simpa using asked, ?_, ?_, by simpa [Notice.batch?] using last⟩
    · intro phase
      split at phase
      · contradiction
      · exact draining phase
    · intro b sent finish
      have sent : b ∈ log.batches := by simpa [Notice.batch?] using sent
      obtain ⟨stopped, settled⟩ := flushed b sent finish
      refine ⟨by simpa using stopped, .inr ?_⟩
      rcases settled with writing | ended
      · have : cause = .ending := by simpa [busy] using writing
        exact if_pos this
      · simp [ended]
  | stop =>
    refine ⟨by simp, by simp, ?_, by simpa [Notice.batch?] using last⟩
    intro b sent finish
    have sent : b ∈ log.batches := by simpa [Notice.batch?] using sent
    exact ⟨by simp, (flushed b sent finish).2⟩
  | _ =>
    exact ⟨by simpa using asked, draining, by simpa [Notice.batch?] using flushed,
      by simpa [Notice.batch?] using last⟩

theorem Run.closing (run : Run s log i) : Closing log i := by
  induction run with
  | start => exact .start s
  | next run move ih => exact ih.change (.of_move move)

/-- How the rows of a run are delivered. -/
structure Delivered (s : IngestSettings) (log : Log) : Prop where
  /-- No row of the queue is left out, doubled or moved, whichever inserts failed. -/
  inOrder : log.batches.flatMap Batch.rows <+: log.queued
  once : ∀ row ∈ log.queued, (log.inserts.filter (row ∈ ·)).length ≤ 1
  size : ∀ b ∈ log.batches, 1 ≤ b.rows.length ∧ b.rows.length ≤ max s.batchSize 1
  /-- A batch that is not full is sent at a tick, or it is the last flush. -/
  short : ∀ b ∈ log.batches, b.rows.length < max s.batchSize 1 → b.step = .tick ∨ b.step = .finish
  flush : ∀ b ∈ log.batches, b.step = .finish → .stopped ∈ log
  last : ∀ b ∈ log.batches.dropLast, b.step ≠ .finish
  /-- A row that found the queue full is in one insert, of this row alone, and in no batch. -/
  alone : ∀ row ∈ log.alone, log.inserts.filter (row ∈ ·) = [[row]] ∧
    ∀ b ∈ log.batches, row ∉ b.rows

theorem Run.delivered (run : Run s log i) : Delivered s log where
  inOrder := run.batches_prefix
  once _ queued := run.inserts_of_queued queued
  size b sent := ⟨(run.sized.sent b sent).1, (run.sized.sent b sent).2.1⟩
  short b sent := (run.sized.sent b sent).2.2
  flush b sent finish := (run.closing.flushed b sent finish).1
  last := run.closing.last
  alone _ h := ⟨run.inserts_of_alone h, fun _ sent => run.not_mem_batch h sent⟩

/-- A small queue that is full once, a batch that fails, a tick, and an event between the request to
stop and the end. -/
def fiveEvents : List Move :=
  let e (id : String) : Event := { id := id }
  [.work false, .submit (e "a") 7 50, .work false, .submit (e "b") 7 50, .submit (e "c") 8 40,
    .work false, .submit (e "d") 8 60, .settle (.ofEvent (e "c") 8 52) .late, .answer false, .work false,
    .work true, .stop, .submit (e "f") 9 61, .answer true, .work true, .work false, .work false,
    .answer true]

theorem delivered_fiveEvents :
    ∃ log i, Run { batchSize := 2, queueCapacity := 1 } log i ∧
      log.batches.map (fun b => (b.step, b.rows.map EventRow.id)) =
        [(.take, ["a", "b"]), (.tick, ["d"]), (.finish, ["f"])] ∧
      log.alone.map EventRow.id = ["c"] ∧
      Delivered { batchSize := 2, queueCapacity := 1 } log := by
  have run : Run { batchSize := 2, queueCapacity := 1 } _ _ := .of_moves fiveEvents rfl
  exact ⟨_, _, run, rfl, rfl, run.delivered⟩

end RelayStore.Ingest

import RelayStore.Proofs.Ingest.Accounting
import Mathlib.Data.List.MinMax

/-! What counts for each id is the event that was submitted last. Batches, ticks, single writes and
clock readings change when a row is stored and under which version, but not this. A worker that
breaks off stores nothing. -/
namespace RelayStore

/-- A row without the two times of its arrival. -/
def EventRow.unstamped (row : EventRow) : EventRow := { row with receivedAt := 0, version := 0 }

@[simp] theorem EventRow.unstamped_id (row : EventRow) : row.unstamped.id = row.id := rfl

@[simp] theorem EventRow.unstamped_ofEvent (e : Event) (receivedAt : UInt32) (version : Nat) :
    (ofEvent e receivedAt version).unstamped = ofEvent e 0 0 := rfl

/-- Of the rows with one id the one with the highest version counts. -/
def newest? (rows : List EventRow) (id : String) : Option EventRow :=
  (rows.filter (·.id = id)).argmax EventRow.version

theorem argmax_version_of_sorted {rows : List EventRow}
    (sorted : rows.Pairwise fun a b => a.version < b.version) :
    rows.argmax EventRow.version = rows.getLast? := by
  induction rows using List.reverseRecOn with
  | nil => rfl
  | append_singleton rows row ih =>
    rw [List.argmax_concat, List.getLast?_concat]
    cases h : rows.argmax EventRow.version with
    | none => rfl
    | some top =>
      have newer := (List.pairwise_append.mp sorted).2.2 top (List.argmax_mem h) row
        List.mem_cons_self
      simp [newer]

theorem argmax_version_of_perm {rows rows' : List EventRow} (perm : rows.Perm rows')
    (distinct : (rows'.map EventRow.version).Nodup) :
    rows.argmax EventRow.version = rows'.argmax EventRow.version := by
  cases h : rows'.argmax EventRow.version with
  | none =>
    rw [List.argmax_eq_none] at h ⊢
    exact (h ▸ perm).eq_nil
  | some top =>
    rw [List.argmax_eq_some_iff] at h ⊢
    obtain ⟨held, above, -⟩ := h
    refine ⟨perm.mem_iff.mpr held, fun row hr => above row (perm.mem_iff.mp hr), ?_⟩
    intro row hr same
    have hr := perm.mem_iff.mp hr
    have : top = row :=
      List.inj_on_of_nodup_map distinct held hr (Nat.le_antisymm same (above row hr))
    rw [this]

/-- In whatever order rows are stored, the last of them in the order of versions counts. -/
theorem newest?_of_perm {rows rows' : List EventRow} (perm : rows.Perm rows')
    (sorted : rows'.Pairwise fun a b => a.version < b.version) (id : String) :
    newest? rows id = (rows'.filter (·.id = id)).getLast? := by
  have sorted := sorted.filter (·.id = id)
  have distinct : ((rows'.filter (·.id = id)).map EventRow.version).Nodup :=
    List.pairwise_map.mpr (sorted.imp Nat.ne_of_lt)
  exact (argmax_version_of_perm (perm.filter _) distinct).trans (argmax_version_of_sorted sorted)

namespace Ingest

namespace Notice

def event? : Notice → Option Event
  | submitted e _ _ => some e
  | _ => none

/-- The rows of an insert that succeeded. -/
def stored? : Notice → Option (List EventRow)
  | answered rows true => some rows
  | settled row .written => some [row]
  | _ => none

/-- Whether the one who asked is told that all went well. -/
def Well (log : Log) : Notice → Prop
  | submitted _ _ .queued => True
  | submitted _ _ (.alone row) => settled row .written ∈ log
  | submitted _ _ .closed => False
  | answered _ ok => ok = true
  | settled _ outcome => outcome = .written
  | worked _ | batch _ _ | brokeOff _ | stopped => True

instance (log : Log) : DecidablePred (Well log)
  | submitted _ _ .queued => isTrue trivial
  | submitted _ _ (.alone row) => inferInstanceAs (Decidable (settled row .written ∈ log))
  | submitted _ _ .closed => isFalse id
  | answered _ ok => inferInstanceAs (Decidable (ok = true))
  | settled _ outcome => inferInstanceAs (Decidable (outcome = .written))
  | worked _ | batch _ _ | brokeOff _ | stopped => isTrue trivial

end Notice

namespace Log

/-- The events in the order of their submission. -/
abbrev events (log : Log) : List Event := of Notice.event? log

/-- The rows in the order in which the store took them. -/
abbrev stored (log : Log) : List EventRow := (of Notice.stored? log).flatten

/-- Every submission came back well, and no insert failed. -/
def Saved (log : Log) : Prop := ∀ n ∈ log, n.Well log

instance : DecidablePred Saved := fun log => inferInstanceAs (Decidable (∀ n ∈ log, n.Well log))

theorem stored_perm {log : Log} (answered : ∀ rows, .answered rows false ∉ log)
    (settled : ∀ row outcome, .settled row outcome ∈ log → outcome = .written) :
    log.stored.Perm (log.answered ++ log.settled) := by
  simp only [List.perm_iff_count, List.count_append, stored, Log.answered, Log.settled]
  induction log using List.reverseRecOn with
  | nil => intro row; rfl
  | append_singleton log n ih =>
    intro row
    have := ih (fun rows h => answered rows (List.mem_append_left _ h))
      (fun row outcome h => settled row outcome (List.mem_append_left _ h)) row
    cases n with
    | answered rows ok =>
      cases ok with
      | false => exact absurd List.mem_concat_self (answered rows)
      | true =>
        simp only [of_append, Notice.stored?, Notice.answered?, Notice.settled?, Option.toList_some,
          Option.toList_none, List.flatten_append, List.flatten_singleton, List.count_append,
          List.append_nil]
        omega
    | settled r outcome =>
      obtain rfl := settled r outcome List.mem_concat_self
      simp only [of_append, Notice.stored?, Notice.answered?, Notice.settled?, Option.toList_some,
        Option.toList_none, List.flatten_append, List.flatten_singleton, List.count_append,
        List.append_nil]
      omega
    | _ => simpa [Notice.stored?, Notice.answered?, Notice.settled?] using this

theorem Saved.stored_perm {log : Log} (saved : log.Saved) :
    log.stored.Perm (log.answered ++ log.settled) :=
  Log.stored_perm (fun _ lost => Bool.noConfusion (saved _ lost)) fun _ _ seen => saved _ seen

theorem Saved.refused {log : Log} (saved : log.Saved) : log.refused = [] := by
  rw [List.eq_nil_iff_forall_not_mem]
  intro row refused
  obtain ⟨n, seen, h⟩ := List.mem_filterMap.mp refused
  have well := saved n seen
  unfold Notice.refused? at h
  split at h
  · exact well
  · contradiction

theorem Saved.alone_subset {log : Log} (saved : log.Saved) : log.alone ⊆ log.settled := by
  intro row alone
  obtain ⟨n, seen, h⟩ := List.mem_filterMap.mp alone
  have well := saved n seen
  unfold Notice.alone? at h
  split at h
  · obtain rfl := Option.some.inj h
    exact List.mem_filterMap.mpr ⟨_, well, rfl⟩
  · contradiction

end Log

variable {s : IngestSettings} {log : Log} {i : Ingestor}

/-- A submission changes nothing of its event. -/
theorem Run.issued_unstamped (run : Run s log i) :
    log.issued.map EventRow.unstamped = log.events.map fun e => .ofEvent e 0 0 := by
  induction run with
  | start => rfl
  | next run move ih =>
    cases Change.of_move move with
    | _ => simp [ih, Notice.issued?, Notice.event?]

/-- A caller whose row was written no longer waits. -/
theorem Run.settled_perm (run : Run s log i) (saved : log.Saved) : log.settled.Perm log.alone := by
  have perm := run.alone_perm
  have distinct := perm.nodup_iff.mp run.queued_alone_nodup.of_append_right
  have none : i.alone = [] := by
    rw [List.eq_nil_iff_forall_not_mem]
    intro row waiting
    have alone : row ∈ log.alone := perm.mem_iff.mpr (List.mem_append_right _ waiting)
    exact List.disjoint_of_nodup_append distinct (saved.alone_subset alone) waiting
  simpa [none] using perm.symm

/-- When the worker has ended, the store has every row that was submitted. -/
theorem Run.stored_perm (run : Run s log i) (fits : Ingestor.Allocatable s.batchSize)
    (saved : log.Saved) (finished : i.phase = .ended) : log.stored.Perm log.issued := by
  obtain ⟨-, buffer, queue⟩ := run.emptied.ended finished
  have lost := run.intact.none fits
  have queued : log.queued = log.answered := by simpa [buffer, queue, lost] using run.queued_eq
  have issued : log.issued.Perm (log.queued ++ log.alone) := by
    simpa [saved.refused] using run.issued_perm
  calc log.stored.Perm (log.answered ++ log.settled) := saved.stored_perm
    List.Perm _ (log.queued ++ log.alone) := queued ▸ (run.settled_perm saved).append_left _
    List.Perm _ log.issued := issued.symm

theorem Run.stored_versions (run : Run s log i) (fits : Ingestor.Allocatable s.batchSize)
    (saved : log.Saved) (finished : i.phase = .ended) :
    (log.stored.map EventRow.version).Nodup := by
  rw [((run.stored_perm fits saved finished).map _).nodup_iff]
  exact List.pairwise_map.mpr (run.versions.1.imp Nat.ne_of_lt)

theorem Run.newest?_stored (run : Run s log i) (fits : Ingestor.Allocatable s.batchSize)
    (saved : log.Saved) (finished : i.phase = .ended) (id : String) :
    (newest? log.stored id).map EventRow.unstamped =
      (log.events.filter (·.id = id)).getLast?.map fun e => .ofEvent e 0 0 := by
  rw [newest?_of_perm (run.stored_perm fits saved finished) run.versions.1, ← List.getLast?_map,
    ← List.getLast?_map]
  congr 1
  have rows := congrArg (List.filter (·.id = id)) run.issued_unstamped
  rw [List.filter_map, List.filter_map] at rows
  exact rows

theorem Run.submission_order_decides {s' : IngestSettings} {log' : Log} {i' : Ingestor}
    (run : Run s log i) (run' : Run s' log' i') (fits : Ingestor.Allocatable s.batchSize)
    (fits' : Ingestor.Allocatable s'.batchSize) (same : log.events = log'.events)
    (saved : log.Saved) (saved' : log'.Saved) (finished : i.phase = .ended)
    (finished' : i'.phase = .ended) :
    (∀ id, (newest? log.stored id).map EventRow.unstamped =
        (newest? log'.stored id).map EventRow.unstamped ∧
      (newest? log.stored id).map EventRow.unstamped =
        (log.events.filter (·.id = id)).getLast?.map fun e => .ofEvent e 0 0) ∧
      (log.stored.map EventRow.version).Nodup ∧ (log'.stored.map EventRow.version).Nodup := by
  refine ⟨fun id => ⟨?_, run.newest?_stored fits saved finished id⟩,
    run.stored_versions fits saved finished, run'.stored_versions fits' saved' finished'⟩
  rw [run.newest?_stored fits saved finished, run'.newest?_stored fits' saved' finished', same]

/-- The second event has the id of the first and finds the queue full, so it is stored before. -/
def overtaken : List Move :=
  let e (id content : String) : Event := { id := id, content := content }
  [.submit (e "a" "old") 7 50, .submit (e "a" "new") 7 40, .settle (.ofEvent (e "a" "new") 7 51)
    .written, .work false, .work true, .submit (e "b" "") 9 40, .stop, .work true, .work true,
    .answer true, .work true]

/-- The same events as one batch. -/
def together : List Move :=
  let e (id content : String) : Event := { id := id, content := content }
  [.submit (e "a" "old") 3 9, .submit (e "a" "new") 3 9, .submit (e "b" "") 3 (-1), .work false,
    .work false, .work false, .work false, .answer true, .stop, .work false, .work false]

theorem submission_order_overtaken :
    ∃ log i log' i', Run { batchSize := 2, queueCapacity := 1 } log i ∧
      Run { batchSize := 3, queueCapacity := 8 } log' i' ∧
      log.stored.map EventRow.content = ["new", "old", ""] ∧
      log'.stored.map EventRow.content = ["old", "new", ""] ∧
      (newest? log.stored "a").map EventRow.unstamped =
        (newest? log'.stored "a").map EventRow.unstamped := by
  have run : Run { batchSize := 2, queueCapacity := 1 } _ _ := .of_moves overtaken rfl
  have run' : Run { batchSize := 3, queueCapacity := 8 } _ _ := .of_moves together rfl
  refine ⟨_, _, _, _, run, run', rfl, rfl, ?_⟩
  have h := run.submission_order_decides run' (by decide) (by decide) rfl (by decide) (by decide)
    rfl rfl
  exact (h.1 "a").1

/-- One event that is submitted in both runs with success, and stored in one of them. -/
theorem submission_order_hugeBatch :
    ∃ log i log' i', Run hugeBatch log i ∧ Run {} log' i' ∧ log.events = log'.events ∧
      log.Saved ∧ log'.Saved ∧ i.phase = .ended ∧ i'.phase = .ended ∧ log.stored = [] ∧
      (newest? log.stored "a").map EventRow.unstamped ≠
        (newest? log'.stored "a").map EventRow.unstamped := by
  have run : Run hugeBatch _ _ := .of_moves beforeTheFirstTurn rfl
  have run' : Run {} _ _ := .of_moves (beforeTheFirstTurn ++
    [.work false, .stop, .work false, .work false, .answer true]) rfl
  refine ⟨_, _, _, _, run, run', rfl, by decide, by decide, rfl, rfl, rfl, ?_⟩
  decide

end Ingest
end RelayStore

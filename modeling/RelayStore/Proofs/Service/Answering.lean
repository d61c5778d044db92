import RelayStore.Proofs.Service.Outcome

/-!
The answer to one query. Main statement: the events of the rows that the store returns, of the rows
with one id the first one's, in the order of these rows.
-/
namespace RelayStore

/-- The rows whose id no row before them has. -/
def QueryRow.unrepeated (rows : List QueryRow) : List QueryRow :=
  (rows.zipIdx.filter fun r => r.1.id ∉ (rows.take r.2).map QueryRow.id).map Prod.fst

/-- Rows become events one by one, so repetitions may be dropped before or after. -/
theorem QueryRow.map_event_unrepeated (rows : List QueryRow) :
    (unrepeated rows).map event = Event.unrepeated (rows.map event) := by
  have same : (fun r : QueryRow × Nat => decide (r.1.id ∉ (rows.take r.2).map QueryRow.id)) =
      (fun e : Event × Nat => decide (e.1.id ∉ Event.ids ((rows.map event).take e.2))) ∘
        Prod.map event (fun place => place) := by
    funext r
    rw [Function.comp_apply, Prod.map_fst, Prod.map_snd, Event.ids, List.map_take, List.map_take,
      List.map_map]
    rfl
  rw [Event.unrepeated, List.zipIdx_map, List.filter_map, List.map_map, unrepeated, List.map_map,
    same]
  rfl

namespace Service
open Storage

/-- The answer to a query that read these rows: every id once, with the event of its first row. -/
structure OneOfEach (rows : List QueryRow) (events : List Event) : Prop
    extends Merged rows events where
  assembled : events = (QueryRow.unrepeated rows).map QueryRow.event
  shorter : events.length ≤ rows.length
  newest : rows.Pairwise (fun a b => b.createdAt ≤ a.createdAt) →
    events.Pairwise fun a b => b.createdAt ≤ a.createdAt
  /-- A row with an id that has come before may be left out, or say anything else. -/
  unaffected : ∀ before row after, rows = before ++ row :: after →
    row.id ∈ before.map QueryRow.id → Merged (before ++ after) events ∧
      ∀ instead : QueryRow, instead.id = row.id → Merged (before ++ instead :: after) events

theorem oneOfEach_firstOfEach (rows : List QueryRow) :
    OneOfEach rows (Event.firstOfEach (rows.map QueryRow.event)) := by
  have merged := merged_firstOfEach rows
  have sublist := merged.kept ▸ Event.unrepeated_sublist (rows.map QueryRow.event)
  refine ⟨merged, ?_, ?_, ?_, ?_⟩
  · rw [QueryRow.map_event_unrepeated, Event.firstOfEach_eq_unrepeated]
  · simpa using sublist.length_le
  · intro ordered
    exact (List.pairwise_map.mpr ordered).sublist sublist
  · rintro before row after rfl known
    have skip (instead : QueryRow) (same : instead.id = row.id) :
        Event.firstOfEach ((before ++ instead :: after).map QueryRow.event) =
          Event.firstOfEach ((before ++ after).map QueryRow.event) := by
      have early : instead.event.id ∈ Event.ids (before.map QueryRow.event) := by
        rw [Event.ids, List.map_map]
        exact (congrArg (· ∈ before.map QueryRow.id) same).mpr known
      rw [List.map_append, List.map_cons, Event.firstOfEach_skip early, List.map_append]
    rw [skip row rfl]
    refine ⟨merged_firstOfEach _, fun instead same => ?_⟩
    rw [← skip instead same]
    exact merged_firstOfEach _

variable {settings : StorageSettings} {c : Context} {f : Filter} {j : Job} {s : Service}
  {owner : TaskId} {r : Read} {rows : List QueryRow}

/-- A query that has not been cancelled returns the rows that the store returns, each id once. It
does not matter whether lists of events are freed of repetitions once or in parts. -/
theorem Pending.oneOfEach (pending : Pending settings c (.query f) j) (reads : j.reads = [r])
    (going : ¬ s.Cancelled r.guard) (answer : s.answer? owner r = some (.ok (.rows rows))) :
    (∃ events, (s.run owner j).2 = .over (.ok (.events events)) ∧ OneOfEach rows events) ∧
      (∀ xs, Event.firstOfEach (Event.firstOfEach xs) = Event.firstOfEach xs) ∧
      ∀ xs ys, Event.firstOfEach (xs ++ ys) =
        Event.firstOfEach (Event.firstOfEach xs ++ Event.firstOfEach ys) := by
  refine ⟨⟨_, ?_, oneOfEach_firstOfEach rows⟩, Event.firstOfEach_firstOfEach,
    fun xs ys => (Event.firstOfEach_append xs ys).symm⟩
  cases pending.underway with
  | @reading _ r' guarded =>
    obtain rfl : r' = r := List.singleton_inj.mp reads
    have named : r'.guard.operation = (Operation.query f).name :=
      congrArg Guard.operation guarded
    obtain ⟨⟨made, -, resumes⟩, -⟩ := resumes_reading (o := .query f) s owner r' nofun named
    exact resumes.answered going _ (.read rfl answer rfl)

/-- The tags of the first row cannot be read, those of the last one can. -/
def sameIdTwice : List QueryRow :=
  [⟨"a", "", 9, 1, "", "", "[["⟩, ⟨"b", "", 8, 1, "", "", ""⟩,
    ⟨"a", "", 7, 1, "", "", "[[\"t\"]]"⟩]

def twiceStored : Service := { storeDown with store := { rows := [(none, sameIdTwice)] } }

/-- The tags do not come back from the last row. -/
theorem oneOfEach_sameIdTwice :
    ∃ events, (twiceStored.run .foreground (.ofFilter {} {} {})).2 = .over (.ok (.events events)) ∧
      OneOfEach sameIdTwice events ∧
      events = [{ id := "a", createdAt := 9, kind := 1 }, { id := "b", createdAt := 8, kind := 1 }] := by
  have pending : Pending {} {} (.query {}) (.ofFilter {} {} {}) := .made
  have going : ¬ twiceStored.Cancelled (Read.ofQuery {} {} (.ofFilter {})).guard := by
    simp [Cancelled, Read.ofQuery]
  have answer : twiceStored.answer? .foreground (.ofQuery {} {} (.ofFilter {})) =
      some (.ok (.rows sameIdTwice)) := rfl
  obtain ⟨⟨events, returned, each⟩, -⟩ := pending.oneOfEach rfl going answer
  have assembled : (QueryRow.unrepeated sameIdTwice).map QueryRow.event =
      [{ id := "a", createdAt := 9, kind := 1 }, { id := "b", createdAt := 8, kind := 1 }] := by
    decide +kernel
  exact ⟨events, returned, each, each.assembled.trans assembled⟩

end Service
end RelayStore

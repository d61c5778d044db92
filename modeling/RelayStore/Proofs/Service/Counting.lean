import RelayStore.Proofs.Plan.Unconstrained
import RelayStore.Proofs.Service.Outcome

/-!
The count of a filter. Main statement: it makes one call of the store, and both the call and the
result say that the number is an estimate exactly if the filter constrains nothing.
-/
namespace RelayStore.Service
open Storage

/-- A count of a filter: the calls of the store that it has made, the latest first, and how far it
has come. Between two of its turns anything may happen to the service. -/
inductive Counting (settings : StorageSettings) (c : Context) (f : Filter) :
    List Call → JobState → Prop where
  | made : Counting settings c f [] (.running (.ofCount settings c f))
  | resumed {s : Service} {owner : TaskId} {j : Job} {before more : List Call}
      (counting : Counting settings c f before (.running j))
      (calls : (s.run owner j).1.store.calls = more ++ s.store.calls) :
      Counting settings c f (more ++ before) (s.run owner j).2

/-- How far a count can have come that calls the store once, with this flag. -/
inductive CountsOnce (settings : StorageSettings) (c : Context) (f : Filter) (approximate : Bool) :
    List Call → JobState → Prop where
  | unstarted : CountsOnce settings c f approximate [] (.running (.ofCount settings c f))
  | waiting {j : Job} :
      CountsOnce settings c f approximate [.count (.ofFilter f) approximate] (.running j)
  | uncalled : CountsOnce settings c f approximate [] (.over (.error (.cancelled "count")))
  | failed {e : Error} :
      CountsOnce settings c f approximate [.count (.ofFilter f) approximate] (.over (.error e))
  | counted {n : Nat} : CountsOnce settings c f approximate [.count (.ofFilter f) approximate]
      (.over (.ok (.counted ⟨n, approximate⟩)))

/-- The read of a count that is under way: the call it has yet to make and the one it has made are
one. -/
structure CountRead (settings : StorageSettings) (c : Context) (f : Filter) (before : List Call)
    (r : Read) : Prop where
  guarded : r.guard = (Operation.count f).guard settings c
  asks : r.request = .count (.ofFilter f) (Plan.ofFilter f).unconstrained
  once : r.made ++ before = [.count (.ofFilter f) (Plan.ofFilter f).unconstrained]

variable {settings : StorageSettings} {c : Context} {f : Filter} {s s' : Service} {owner : TaskId}
  {r r' : Read} {before more : List Call} {state : JobState} {j : Job}

theorem ofCount_guard (settings : StorageSettings) (c : Context) (f : Filter) :
    (Read.ofCount settings c (.ofFilter f)).guard = (Operation.count f).guard settings c := by
  cases limit : c.limit <;>
    simp [Read.ofCount, Operation.guard, Operation.limit, Operation.name, limit]

theorem countRead_made (settings : StorageSettings) (c : Context) (f : Filter) :
    CountRead settings c f [] (Read.ofCount settings c (.ofFilter f)) :=
  ⟨ofCount_guard settings c f, rfl, rfl⟩

/-- A count has made its call, or has just been made itself. -/
theorem CountRead.unstarted_or (reads : CountRead settings c f before r) :
    before = [] ∧ r = Read.ofCount settings c (.ofFilter f) ∨
      before = [.count (.ofFilter f) (Plan.ofFilter f).unconstrained] := by
  obtain ⟨guarded, asks, once⟩ := reads
  obtain ⟨g, q, place⟩ := r
  cases place with
  | unstarted =>
    obtain ⟨-, rfl⟩ := List.cons.inj once
    obtain rfl : q = _ := asks
    obtain rfl : g = _ := guarded
    exact .inl ⟨rfl, by rw [← ofCount_guard]; rfl⟩
  | parked ticket alarm => exact .inr once

/-- A number is all that a count is answered. -/
theorem number_of_answer (asks : r.request = .count (.ofFilter f) (Plan.ofFilter f).unconstrained)
    {a : Answer} (answer : s.answer? owner r = some (.ok a)) : ∃ n, a = .number n := by
  obtain ⟨m, ticket, given⟩ := exists_answer answer
  rw [asks, MemoryStore.answer] at given
  split at given
  · contradiction
  · exact ⟨_, (Except.ok.inj given).symm⟩

/-- A turn of a count: which calls it makes, and what becomes of it. -/
inductive CountTurn (settings : StorageSettings) (c : Context) (f : Filter) (s : Service)
    (owner : TaskId) (r : Read) (before : List Call) : List Call → JobState → Prop where
  | cancelled (gone : s.Cancelled r.guard) :
      CountTurn settings c f s owner r before [] (.over (.error (.cancelled "count")))
  | failed {e : Error} (going : ¬ s.Cancelled r.guard)
      (silent : ∀ a, s.answer? owner r ≠ some (.ok a)) :
      CountTurn settings c f s owner r before r.made (.over (.error e))
  | counted {n : Nat} (going : ¬ s.Cancelled r.guard)
      (answer : s.answer? owner r = some (.ok (.number n))) :
      CountTurn settings c f s owner r before r.made
        (.over (.ok (.counted ⟨n, (Plan.ofFilter f).unconstrained⟩)))
  | waiting {r' : Read} (going : ¬ s.Cancelled r.guard)
      (silent : ∀ a, s.answer? owner r ≠ some (.ok a))
      (reads : CountRead settings c f (r.made ++ before) r') :
      CountTurn settings c f s owner r before r.made (.running ((Operation.count f).reading r'))

theorem CountRead.turn (reads : CountRead settings c f before r) (s : Service) (owner : TaskId) :
    ∃ more, (s.run owner ((Operation.count f).reading r)).1.store.calls = more ++ s.store.calls ∧
      CountTurn settings c f s owner r before more
        (s.run owner ((Operation.count f).reading r)).2 := by
  rcases turn : s.read owner r with ⟨s', r', x⟩
  obtain ⟨calls, outcome⟩ := run_reading (o := .count f) turn nofun
  have named : r.guard.operation = "count" := congrArg Guard.operation reads.guarded
  rw [calls]
  generalize (s.run owner ((Operation.count f).reading r)).2 = state at outcome ⊢
  cases readTurn turn with
  | cancelled gone kept silent =>
    obtain rfl : state = .over (.error (.cancelled "count")) := named ▸ outcome
    exact ⟨[], silent, .cancelled gone⟩
  | late going kept calls unanswered passed =>
    exact ⟨r.made, calls, outcome ▸ .failed going (by simp [unanswered])⟩
  | waiting going kept calls unanswered ahead =>
    exact ⟨r.made, calls, outcome ▸ .waiting going (by simp [unanswered])
      ⟨reads.guarded, reads.asks, reads.once⟩⟩
  | @answered a going kept calls answer =>
    cases a with
    | error cause => exact ⟨r.made, calls, outcome ▸ .failed going (by simp [answer])⟩
    | ok a =>
      obtain ⟨n, rfl⟩ := number_of_answer reads.asks answer
      obtain ⟨result, returned, rfl⟩ := outcome
      cases returned
      exact ⟨r.made, calls, .counted going answer⟩

/-- A turn keeps to the one call. -/
theorem CountTurn.countsOnce (turn : CountTurn settings c f s owner r before more state)
    (reads : CountRead settings c f before r) :
    CountsOnce settings c f (Plan.ofFilter f).unconstrained (more ++ before) state := by
  cases turn with
  | cancelled gone =>
    obtain ⟨rfl, -⟩ | rfl := reads.unstarted_or
    · exact .uncalled
    · exact .failed
  | failed => exact reads.once ▸ .failed
  | counted => exact reads.once ▸ .counted
  | waiting => exact reads.once ▸ .waiting

theorem Counting.reads {made : List Call} (counting : Counting settings c f made state) :
    CountsOnce settings c f (Plan.ofFilter f).unconstrained made state ∧
      ∀ j, state = .running j →
        ∃ r, j = (Operation.count f).reading r ∧ CountRead settings c f made r := by
  induction counting with
  | made =>
    refine ⟨.unstarted, ?_⟩
    rintro j ⟨⟩
    exact ⟨_, rfl, countRead_made settings c f⟩
  | @resumed s owner j before more counting calls ih =>
    obtain ⟨r, rfl, reads⟩ := ih.2 j rfl
    obtain ⟨more', calls', turn⟩ := reads.turn s owner
    -- The calls of a turn are those that the store has not had before.
    obtain rfl := List.append_cancel_right (calls.symm.trans calls')
    refine ⟨turn.countsOnce reads, fun j' running => ?_⟩
    generalize (s.run owner ((Operation.count f).reading r)).2 = state at turn running
    cases turn with
    | waiting going silent reads' =>
      cases running
      exact ⟨_, rfl, reads'⟩
    | _ => cases running

/-- Whatever happens meanwhile, a count makes one call of the store, unless it is cancelled before
it has a turn, and returns the number that is answered. In the call and with the number it says
whether that is an estimate, which it is for a filter that constrains nothing and for no other. -/
theorem Counting.estimates {made : List Call} (obtained : f.Obtained)
    (counting : Counting settings c f made state) :
    ∃ approximate, (approximate = true ↔ f.ConstrainsNothing) ∧
      (Plan.ofFilter f).unconstrained = approximate ∧
      (approximate = true → (Plan.ofFilter f).table = .events) ∧
      CountsOnce settings c f approximate made state ∧
      ∀ j, state = .running j → ∃ r, j.reads = [r] ∧
        ∀ (s : Service) (owner : TaskId), ¬ s.Cancelled r.guard →
          (∃ more, (s.run owner j).1.store.calls = more ++ s.store.calls ∧
            more ++ made = [.count (.ofFilter f) approximate]) ∧
          ∀ a, s.answer? owner r = some (.ok a) → ∃ n, a = .number n ∧
            (s.run owner j).2 = .over (.ok (.counted ⟨n, approximate⟩)) := by
  obtain ⟨unconstrained, table⟩ := Plan.unconstrained_iff_constrainsNothing obtained
  obtain ⟨once, waits⟩ := counting.reads
  refine ⟨_, unconstrained, rfl, fun estimate => table (unconstrained.mp estimate), once, ?_⟩
  intro j running
  obtain ⟨r, rfl, reads⟩ := waits j running
  refine ⟨r, rfl, fun s owner going => ?_⟩
  obtain ⟨more, calls, turn⟩ := reads.turn s owner
  generalize (s.run owner ((Operation.count f).reading r)).2 = state at turn
  cases turn with
  | cancelled gone => exact absurd gone going
  | failed _ silent => exact ⟨⟨_, calls, reads.once⟩, fun a answer => absurd answer (silent a)⟩
  | waiting _ silent => exact ⟨⟨_, calls, reads.once⟩, fun a answer => absurd answer (silent a)⟩
  | @counted n _ answer =>
    refine ⟨⟨_, calls, reads.once⟩, fun a answer' => ⟨n, ?_, rfl⟩⟩
    cases answer.symm.trans answer'
    rfl

/-- A name without values, a search for a blank and a limit: all of it constrains nothing. -/
def nothingAsked : Filter where
  tags := TagConstraints.addKnown {} .e []
  limit := some 1
  search := some " "

def fiveStored : Service := { storeDown with store := { number := 5 } }

theorem estimates_nothingAsked :
    nothingAsked.Obtained ∧
    Counting {} {} nothingAsked [.count (.ofFilter nothingAsked) true]
      (.over (.ok (.counted ⟨5, true⟩))) ∧
    nothingAsked.ConstrainsNothing ∧ (Plan.ofFilter nothingAsked).table = .events ∧
    CountsOnce {} {} nothingAsked true [.count (.ofFilter nothingAsked) true]
      (.over (.ok (.counted ⟨5, true⟩))) := by
  have obtained : nothingAsked.Obtained := .built (TagConstraints.Built.empty.addKnown .e [])
  have estimate : (Plan.ofFilter nothingAsked).unconstrained = true := by decide +kernel
  have turn : (fiveStored.run .foreground (.ofCount {} {} nothingAsked)).2 =
      .over (.ok (.counted ⟨5, (Plan.ofFilter nothingAsked).unconstrained⟩)) := rfl
  have counting : Counting {} {} nothingAsked
      ([.count (.ofFilter nothingAsked) (Plan.ofFilter nothingAsked).unconstrained] ++ [])
      (fiveStored.run .foreground (.ofCount {} {} nothingAsked)).2 := .resumed .made rfl
  rw [turn, estimate, List.append_nil] at counting
  obtain ⟨approximate, nothing, same, table, once, -⟩ := counting.estimates obtained
  obtain rfl := estimate.symm.trans same
  exact ⟨obtained, counting, nothing.mp rfl, table rfl, once⟩

end RelayStore.Service

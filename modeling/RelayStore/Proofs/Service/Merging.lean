import Mathlib.Data.List.Forall2
import RelayStore.Proofs.Event.FirstOfEach
import RelayStore.Proofs.Except
import RelayStore.Service.Schedule

/-!
Queries of several filters at once. Main statement: their outcome comes from what the store answers,
and in which turns it answers makes no difference.
-/
namespace RelayStore.Service
open Storage

/-- A filter, and what the store answers to its query. -/
structure Exchange where
  filter : Filter
  reply : Except Error (List QueryRow)
  deriving Repr

namespace Exchange

def plan (x : Exchange) : Plan := .ofFilter x.filter

/-- The rows that were read. -/
def rows (x : Exchange) : List QueryRow :=
  match x.reply with
  | .ok rows => rows
  | .error _ => []

def events (x : Exchange) : List Event := x.rows.map QueryRow.event

/-- The query fails, and its failure is wrapped in this error. -/
def Fails (x : Exchange) (e : Error) : Prop :=
  ∃ cause, x.reply = .error cause ∧ e = cause.during x.plan.table.name "query"

end Exchange

/-- Nobody has cancelled the read, and its deadline has not passed. -/
inductive Undisturbed (s : Service) : Read → Prop where
  | unstarted {g : Guard} {q : Request} (kept : ∀ t ∈ g.token, t ∉ s.cancelled)
      (inTime : ∀ limit ∈ g.limit, s.alarms.seen < s.after limit) :
      Undisturbed s ⟨g, q, .unstarted⟩
  | parked {g : Guard} {q : Request} {ticket : Nat} {alarm : Option Nat}
      (kept : ∀ t ∈ g.token, t ∉ s.cancelled)
      (inTime : ∀ key ∈ alarm, s.alarms.hasRung key = false) :
      Undisturbed s ⟨g, q, .parked ticket alarm⟩

/-- What the store answers to a read that has its turn; none while it holds the read back. -/
def answer? (s : Service) (owner : TaskId) (r : Read) : Option (Except Error Answer) :=
  match r.place with
  | .parked ticket _ =>
    if s.store.reads.isAdmitted ticket then some (s.store.answer ticket r.request) else none
  | .unstarted =>
    match (s.store.beginRead owner r.request).1 with
    | .answered a => some a
    | .parked _ => none

/-- A turn of the queries: each that is not over has its turn, undisturbed, and the store holds it
back or gives its answer. The number says how many are held back. -/
inductive Turn (owner : TaskId) : Service → List Part → List Exchange → Nat → Prop where
  | done {s : Service} : Turn owner s [] [] 0
  | settled {s : Service} {part : Part} {parts : List Part} {x : Exchange} {xs : List Exchange}
      {n : Nat} (ended : ∀ p r, part ≠ .running p r) (others : Turn owner s parts xs n) :
      Turn owner s (part :: parts) (x :: xs) n
  | held {s : Service} {p : Plan} {r : Read} {parts : List Part} {x : Exchange}
      {xs : List Exchange} {n : Nat} (undisturbed : s.Undisturbed r)
      (silent : s.answer? owner r = none) (others : Turn owner (s.read owner r).1 parts xs n) :
      Turn owner s (.running p r :: parts) (x :: xs) (n + 1)
  | answered {s : Service} {p : Plan} {r : Read} {parts : List Part} {x : Exchange}
      {xs : List Exchange} {n : Nat} (undisturbed : s.Undisturbed r)
      (answers : s.answer? owner r = some (x.reply.map .rows))
      (others : Turn owner ((s.read owner r).1.finishQuery p (x.reply.map .rows)).1 parts xs n) :
      Turn owner s (.running p r :: parts) (x :: xs) n

/-- The states that the queries come to, turn by turn. What else goes on between two turns may
change the service in any way. -/
inductive Queries (settings : StorageSettings) (c : Context) (owner : TaskId)
    (xs : List Exchange) : Job → Prop where
  | start : Queries settings c owner xs (.ofFilters settings c (xs.map Exchange.filter))
  | next {s : Service} {parts : List Part} {held : Nat} {j : Job}
      (queries : Queries settings c owner xs (.queries parts)) (turn : Turn owner s parts xs held)
      (goesOn : (s.run owner (.queries parts)).2 = .running j) : Queries settings c owner xs j

/-! What one read comes to. -/

theorem Undisturbed.guard_outcome {α : Type} (g : Guard) (answer : Option (Except Error α)) :
    g.outcome false answer false = answer := by
  rcases answer with _ | a
  · rcases limit : g.limit with _ | span <;> simp [Guard.outcome, limit]
  · rfl

variable {owner : TaskId} {s : Service} {r : Read}

theorem going_of_kept {g : Guard} (kept : ∀ t ∈ g.token, t ∉ s.cancelled) :
    (g.token.any fun t => s.cancelled.contains t) = false := by
  cases token : g.token with
  | none => rfl
  | some t => simpa using kept t token

theorem set_ahead {a : Alarms} {due : Nat} (owner : TaskId) (ahead : a.seen < due) :
    ∃ alarms, a.set owner due = (some a.keys, alarms) :=
  ⟨_, if_neg (Nat.not_le.mpr ahead)⟩

theorem after_congr {s' : Service} (same : s'.now = s.now) (limit : Decimal.Span) :
    s'.after limit = s.after limit := by
  rw [after, after, same]

/-- A read that goes undisturbed comes to what the store answers, and waits if it does not. -/
theorem Undisturbed.read_eq (undisturbed : s.Undisturbed r) (owner : TaskId) :
    (s.read owner r).2.2 = s.answer? owner r ∧ (s.read owner r).2.1.request = r.request := by
  unfold read answer?
  cases undisturbed with
  | @parked guard request ticket alarm kept inTime =>
    have ahead : alarm.any s.alarms.hasRung = false := by
      cases alarm with
      | none => rfl
      | some key => simpa using inTime key rfl
    simp only [going_of_kept kept, ahead, Undisturbed.guard_outcome]
    split_ifs <;> exact ⟨rfl, rfl⟩
  | @unstarted guard request kept inTime =>
    have same (store : MemoryStore) (span : Decimal.Span) :
        ({ s with store := store } : Service).after span = s.after span := after_congr rfl span
    -- When the deadline is has no influence, and its value is expensive to compute.
    obtain ⟨due, known⟩ : ∃ due, Service.after = due := ⟨_, rfl⟩
    simp only [known] at inTime same
    rw [known]
    simp only [going_of_kept kept]
    rcases begun : s.store.beginRead owner request with ⟨_ | ticket, store⟩
    · exact ⟨rfl, rfl⟩
    · rcases limit : guard.limit with _ | span
      · exact ⟨rfl, rfl⟩
      · obtain ⟨alarms, filed⟩ := set_ahead owner (inTime span limit)
        simp only [same, filed, Option.isNone_some, Undisturbed.guard_outcome]
        exact ⟨rfl, rfl⟩

/-! What the store answers to one query binds it in no other, not even in the same turn. -/

/-- The answer that makes a query come to this reply. -/
def ownAnswer : Except Error (List QueryRow) → OwnAnswer
  | .ok rows => { rows := some rows }
  | .error e => { failure := some e }

/-- A store that holds nothing back and has these replies for the next reads. -/
structure Replies (s : Service) (xs : List Exchange) : Prop where
  open_ : s.store.reads.holding = 0
  working : s.store.failing = none
  kept : s.cancelled = []
  early : s.alarms.seen < s.now
  own : ∀ k (h : k < xs.length), s.store.own (s.store.tickets + k) = ownAnswer xs[k].reply

theorem Replies.read {x : Exchange} {xs : List Exchange} (replies : Replies s (x :: xs))
    (owner : TaskId) (g : Guard) (p : Plan) :
    s.Undisturbed ⟨g, .query p, .unstarted⟩ ∧
      s.answer? owner ⟨g, .query p, .unstarted⟩ = some (x.reply.map .rows) ∧
      Replies
        ((s.read owner ⟨g, .query p, .unstarted⟩).1.finishQuery p (x.reply.map .rows)).1 xs := by
  have undisturbed : s.Undisturbed ⟨g, .query p, .unstarted⟩ := by
    refine .unstarted (by simp [replies.kept]) fun limit _ => ?_
    exact Nat.lt_of_lt_of_le replies.early (Nat.le_add_right _ _)
  have begun : s.store.beginRead owner (.query p) = (.answered (x.reply.map .rows),
      { s.store with calls := .query p :: s.store.calls, tickets := s.store.tickets + 1 }) := by
    have entered : s.store.reads.enter s.store.tickets owner = (true, s.store.reads) :=
      if_pos replies.open_
    have own : s.store.own s.store.tickets = ownAnswer x.reply := replies.own 0 (Nat.succ_pos _)
    simp only [MemoryStore.beginRead, MemoryStore.record, MemoryStore.ticket, Request.call, entered,
      MemoryStore.answer, own, MemoryStore.failure?, replies.working]
    cases x.reply <;> rfl
  have answers : s.answer? owner ⟨g, .query p, .unstarted⟩ = some (x.reply.map .rows) := by
    simp only [answer?, begun]
  have read : (s.read owner ⟨g, .query p, .unstarted⟩).1 = { s with store :=
      { s.store with calls := .query p :: s.store.calls, tickets := s.store.tickets + 1 } } := by
    have going : (g.token.any fun t => s.cancelled.contains t) = false :=
      going_of_kept (by simp [replies.kept])
    simp only [Service.read, going, begun]
    rfl
  refine ⟨undisturbed, answers, ?_⟩
  rw [read]
  have own k (h : k < xs.length) :
      s.store.own (s.store.tickets + 1 + k) = ownAnswer xs[k].reply := by
    have later := replies.own (k + 1) (Nat.succ_lt_succ h)
    rwa [← Nat.add_assoc, Nat.add_right_comm] at later
  cases x.reply <;> exact ⟨replies.open_, replies.working, replies.kept, replies.early, own⟩

theorem Replies.turn {xs : List Exchange} (replies : Replies s xs) (settings : StorageSettings)
    (c : Context) (owner : TaskId) : Turn owner s
      (xs.map fun x => .running x.plan (.ofQuery settings c x.plan)) xs 0 := by
  induction xs generalizing s with
  | nil => exact .done
  | cons x xs ih =>
    obtain ⟨undisturbed, answers, others⟩ := replies.read owner _ x.plan
    exact .answered undisturbed answers (ih others)

/-- Whatever the replies are, the store can give all of them in the first turn. -/
theorem exists_turn (settings : StorageSettings) (c : Context) (owner : TaskId)
    (xs : List Exchange) : ∃ s, Turn owner s
      (xs.map fun x => .running x.plan (.ofQuery settings c x.plan)) xs 0 := by
  let own (ticket : Nat) : OwnAnswer := (xs[ticket]?.map fun x => ownAnswer x.reply).getD {}
  let s : Service := {
    settings := settings
    wallSeconds := 0
    wallMicros := 0
    now := 1
    ingest := .start settings.ingest
    ticking := ⟨⟨1, 1⟩, none⟩
    store := { own := own } }
  have replies : Replies s xs := ⟨rfl, rfl, rfl, Nat.one_pos, fun k h => by simp [s, own, h]⟩
  exact ⟨s, replies.turn settings c owner⟩

/-! What a turn comes to. -/

/-- How far the query of one filter has come. -/
inductive Stands (x : Exchange) : Part → Prop where
  | running {r : Read} (asks : r.request = .query x.plan) : Stands x (.running x.plan r)
  | read {rows : List QueryRow} (answered : x.reply = .ok rows) :
      Stands x (.over (Event.firstOfEach x.events))
  | failed {e : Error} (fails : x.Fails e) : Stands x (.failed e)

theorem Stands.finished {x : Exchange} (s : Service) :
    (∃ rows, x.reply = .ok rows ∧
      (s.finishQuery x.plan (x.reply.map .rows)).2 = .ok (Event.firstOfEach x.events)) ∨
    ∃ e, x.Fails e ∧ (s.finishQuery x.plan (x.reply.map .rows)).2 = .error e := by
  unfold Exchange.Fails Exchange.events Exchange.rows
  cases reply : x.reply with
  | ok rows => exact .inl ⟨rows, rfl, rfl⟩
  | error e => exact .inr ⟨_, ⟨e, rfl, rfl⟩, rfl⟩

/-- The parts after a turn, or the failure that ends them. Only what the store holds back waits, and
a failure that does not count yet has a query before it that waits. -/
def Turned (xs : List Exchange) (counts : Bool) (held : Nat) : Except Error (List Part) → Prop
  | .ok parts => List.Forall₂ Stands xs parts ∧ ((∃ p r, Part.running p r ∈ parts) → 0 < held) ∧
      (counts = true → (∃ p r, Part.running p r ∈ parts) ∨ ∀ e, Part.failed e ∉ parts)
  | .error e => ∃ x ∈ xs, x.Fails e

theorem Turned.cons {x : Exchange} {xs : List Exchange} {part : Part} {counts : Bool} {held : Nat}
    {r : Except Error (List Part)} (stands : Stands x part) (ended : ∀ p r, part ≠ .running p r)
    (counted : counts = true → ∀ e, part ≠ .failed e) (others : Turned xs counts held r) :
    Turned (x :: xs) counts held (r.map (part :: ·)) := by
  cases r with
  | error e =>
    obtain ⟨y, member, fails⟩ := others
    exact ⟨y, List.mem_cons_of_mem _ member, fails⟩
  | ok parts =>
    obtain ⟨all, waiting, left⟩ := others
    refine ⟨.cons stands all, ?_, fun yes => ?_⟩
    · rintro ⟨p, r, waits⟩
      exact waiting ⟨p, r, (List.mem_cons.mp waits).resolve_left (ended p r).symm⟩
    · rcases left yes with ⟨p, r, waits⟩ | sound
      · exact .inl ⟨p, r, List.mem_cons_of_mem _ waits⟩
      · refine .inr fun e failed => ?_
        exact sound e ((List.mem_cons.mp failed).resolve_left (counted yes e).symm)

theorem Turn.readParts {parts : List Part} {xs : List Exchange} {held : Nat}
    (turn : Turn owner s parts xs held) (stands : List.Forall₂ Stands xs parts)
    (ordered counts : Bool) :
    Turned xs counts held (Service.readParts owner ordered counts parts s).2 := by
  induction turn generalizing counts with
  | done => exact ⟨.nil, by simp, fun _ => .inr fun e => List.not_mem_nil⟩
  | @settled s part parts x xs held ended others ih =>
    obtain ⟨first, rest⟩ := List.forall₂_cons.mp stands
    cases first with
    | running => exact absurd rfl (ended _ _)
    | read answered => exact (ih rest counts).cons (.read answered) ended (by simp)
    | @failed e fails =>
      cases counts with
      | true => exact ⟨x, List.mem_cons_self, fails⟩
      | false => exact (ih rest false).cons (.failed fails) ended (by simp)
  | @held s p r parts x xs held undisturbed silent others ih =>
    obtain ⟨first, rest⟩ := List.forall₂_cons.mp stands
    obtain ⟨outcome, request⟩ := undisturbed.read_eq owner
    rcases step : s.read owner r with ⟨s', r', o⟩
    rw [step] at outcome request ih
    obtain rfl : o = none := outcome.trans silent
    have rest := ih rest (!ordered)
    cases first with
    | running asks =>
      rw [Service.readParts, step]
      dsimp only
      rcases later : Service.readParts owner ordered (!ordered) parts s' with ⟨s'', e | parts'⟩
      · rw [later] at rest
        obtain ⟨y, member, fails⟩ := rest
        exact ⟨y, List.mem_cons_of_mem _ member, fails⟩
      · rw [later] at rest
        exact ⟨.cons (.running (request.trans asks)) rest.1, fun _ => Nat.succ_pos held,
          fun _ => .inl ⟨_, _, List.mem_cons_self⟩⟩
  | @answered s p r parts x xs held undisturbed answers others ih =>
    obtain ⟨first, rest⟩ := List.forall₂_cons.mp stands
    have outcome := (undisturbed.read_eq owner).1
    rcases step : s.read owner r with ⟨s', r', o⟩
    rw [step] at outcome ih
    obtain rfl : o = some (x.reply.map .rows) := outcome.trans answers
    cases first with
    | running asks =>
      rw [Service.readParts, step]
      dsimp only
      rcases finish : s'.finishQuery x.plan (x.reply.map .rows) with ⟨s'', result⟩
      rw [finish] at ih
      rcases Stands.finished (x := x) s' with ⟨rows, reply, events⟩ | ⟨e, fails, error⟩
      · obtain rfl : result = .ok _ := (congrArg Prod.snd finish).symm.trans events
        exact (ih rest counts).cons (.read reply) (by simp) (by simp)
      · obtain rfl : result = .error e := (congrArg Prod.snd finish).symm.trans error
        cases counts with
        | true => exact ⟨x, List.mem_cons_self, fails⟩
        | false => exact (ih rest false).cons (.failed fails) (by simp) (by simp)

theorem over_of_eventsOf {parts : List Part} {answers : List (List Event)}
    (all : eventsOf parts = some answers) : parts = answers.map .over := by
  induction parts generalizing answers with
  | nil => cases all; rfl
  | cons part parts ih =>
    simp only [eventsOf, List.mapM_cons, Option.bind_eq_bind, Option.bind_eq_some_iff,
      Option.pure_def, Option.some.injEq] at all
    obtain ⟨events, first, others, rest, rfl⟩ := all
    rw [ih rest, List.map_cons]
    rcases part with _ | es | _
    · cases first
    · rw [Option.some.inj first]
    · cases first

theorem eventsOf_over (answers : List (List Event)) :
    eventsOf (answers.map .over) = some answers := by
  induction answers with
  | nil => rfl
  | cons events answers ih =>
    rw [eventsOf] at ih
    simp [eventsOf, ih]

/-- Queries that are all over have read their rows. -/
theorem Stands.over_all {parts : List Part} {xs : List Exchange}
    (stands : List.Forall₂ Stands xs parts) (still : ∀ p r, Part.running p r ∉ parts)
    (sound : ∀ e, Part.failed e ∉ parts) :
    parts = (xs.map fun x => Event.firstOfEach x.events).map .over ∧
      ∀ x ∈ xs, ∃ rows, x.reply = .ok rows := by
  induction stands with
  | nil => simp
  | @cons x part xs parts first others ih =>
    simp only [List.mem_cons, not_or] at still sound
    obtain ⟨rest, replies⟩ := ih (fun p r => (still p r).2) fun e => (sound e).2
    cases first with
    | running => exact absurd rfl (still _ _).1
    | failed => exact absurd rfl (sound _).1
    | read answered =>
      rw [rest]
      exact ⟨rfl, List.forall_mem_cons.mpr ⟨⟨_, answered⟩, replies⟩⟩

/-- How the queries end. -/
inductive Ends (xs : List Exchange) : Except Error Result → Prop where
  | read (replies : ∀ x ∈ xs, ∃ rows, x.reply = .ok rows) :
      Ends xs (.ok (.events (merge (xs.map fun x => Event.firstOfEach x.events))))
  | failed {x : Exchange} {e : Error} (member : x ∈ xs) (fails : x.Fails e) : Ends xs (.error e)

theorem Turn.run {parts : List Part} {xs : List Exchange} {held : Nat}
    (turn : Turn owner s parts xs held) (stands : List.Forall₂ Stands xs parts) :
    (0 < held ∧ ∃ parts', (s.run owner (.queries parts)).2 = .running (.queries parts') ∧
      List.Forall₂ Stands xs parts') ∨
    ∃ result, (s.run owner (.queries parts)).2 = .over result ∧ Ends xs result := by
  have turned := turn.readParts stands (decide (looseParts < parts.length)) true
  rw [Service.run]
  rcases step : Service.readParts owner (decide (looseParts < parts.length)) true parts s with
    ⟨s', e | parts'⟩
  · rw [step] at turned
    obtain ⟨x, member, fails⟩ := turned
    exact .inr ⟨_, rfl, .failed member fails⟩
  · rw [step] at turned
    obtain ⟨stands, waiting, left⟩ := turned
    dsimp only
    by_cases waits : ∃ p r, Part.running p r ∈ parts'
    · refine .inl ⟨waiting waits, parts', ?_, stands⟩
      cases all : eventsOf parts' with
      | none => rfl
      | some answers =>
        obtain ⟨p, r, member⟩ := waits
        simp [over_of_eventsOf all] at member
    · have still : ∀ p r, Part.running p r ∉ parts' := by simpa using waits
      obtain ⟨ended, replies⟩ := Stands.over_all stands still ((left rfl).resolve_left waits)
      rw [ended, eventsOf_over]
      exact .inr ⟨_, rfl, .read replies⟩

variable {settings : StorageSettings} {c : Context} {xs : List Exchange} {parts : List Part}

theorem Queries.stands (queries : Queries settings c owner xs (.queries parts)) :
    List.Forall₂ Stands xs parts := by
  generalize job : Job.queries parts = j at queries
  induction queries generalizing parts with
  | start =>
    obtain rfl := Job.queries.inj job
    rw [List.map_map, List.forall₂_map_right_iff, List.forall₂_same]
    exact fun x _ => .running rfl
  | next queries turn goesOn ih =>
    rcases turn.run (ih rfl) with ⟨-, parts', going, stands⟩ | ⟨result, ended, -⟩
    · rw [going] at goesOn
      cases job
      cases goesOn
      exact stands
    · rw [ended] at goesOn
      cases goesOn

/-- The answer to several queries: every id that was read once, with the event of its first row. -/
structure Merged (rows : List QueryRow) (events : List Event) : Prop where
  kept : events = Event.unrepeated (rows.map QueryRow.event)
  distinct : (Event.ids events).Nodup
  complete : ∀ row ∈ rows, row.id ∈ Event.ids events
  first : ∀ e ∈ events, ∃ row, rows.find? (fun row => row.id = e.id) = some row ∧ e = row.event

theorem merged_firstOfEach (rows : List QueryRow) :
    Merged rows (Event.firstOfEach (rows.map QueryRow.event)) where
  kept := Event.firstOfEach_eq_unrepeated _
  distinct := Event.nodup_ids_firstOfEach _
  complete row held := by
    rw [Event.mem_ids_firstOfEach, Event.ids, List.map_map]
    exact List.mem_map_of_mem held
  first e kept := by
    have found := Event.firstOfEach.find?_of_mem_go kept
    rw [List.find?_map, Option.map_eq_some_iff] at found
    obtain ⟨row, found, rfl⟩ := found
    exact ⟨row, found, rfl⟩

/-- When the answers come has no influence: after a turn the queries wait while the store holds one
back, or they have ended with all that was read, or with a failure. -/
theorem Queries.outcome {held : Nat} (queries : Queries settings c owner xs (.queries parts))
    (turn : Turn owner s parts xs held) :
    (0 < held ∧ ∃ parts', (s.run owner (.queries parts)).2 = .running (.queries parts')) ∨
    ∃ result, (s.run owner (.queries parts)).2 = .over result ∧
      ((∀ x ∈ xs, ∃ rows, x.reply = .ok rows) →
        ∃ events, result = .ok (.events events) ∧ Merged (xs.flatMap Exchange.rows) events ∧
          events = Event.firstOfEach (xs.flatMap Exchange.events) ∧
          events = Event.firstOfEach (xs.flatMap fun x => Event.firstOfEach x.events)) ∧
      ((∃ x ∈ xs, ∃ cause, x.reply = .error cause) →
        ∃ x ∈ xs, ∃ e, x.Fails e ∧ result = .error e) := by
  rcases turn.run queries.stands with ⟨holds, parts', going, -⟩ | ⟨result, ended, ends⟩
  · exact .inl ⟨holds, parts', going⟩
  refine .inr ⟨result, ended, ?_, ?_⟩
  · intro replies
    cases ends with
    | @failed x e member fails =>
      obtain ⟨cause, error, -⟩ := fails
      obtain ⟨rows, ok⟩ := replies x member
      cases ok.symm.trans error
    | read =>
      have flat : merge (xs.map fun x => Event.firstOfEach x.events) =
          Event.firstOfEach (xs.flatMap Exchange.events) := by
        have groups := Event.firstOfEach_flatten (xs.map Exchange.events)
        rwa [List.map_map] at groups
      have rows : (xs.flatMap Exchange.rows).map QueryRow.event = xs.flatMap Exchange.events := by
        rw [List.map_flatMap]
        rfl
      refine ⟨_, rfl, ?_, flat, rfl⟩
      rw [flat, ← rows]
      exact merged_firstOfEach _
  · rintro ⟨x, member, cause, error⟩
    cases ends with
    | read replies =>
      obtain ⟨rows, ok⟩ := replies x member
      cases ok.symm.trans error
    | @failed x e member fails => exact ⟨x, member, e, fails, rfl⟩

/-- Two queries with an id in common. -/
def sharedId : List Exchange := [
  ⟨{}, .ok [⟨"a", "", 9, 1, "", "", ""⟩, ⟨"b", "", 8, 1, "first", "", ""⟩]⟩,
  ⟨{ kinds := [1] }, .ok [⟨"b", "", 8, 1, "late", "", ""⟩, ⟨"c", "", 7, 1, "", "", ""⟩]⟩]

/-- The store holds the first of them back. -/
def holdingFirst : Service where
  settings := {}
  wallSeconds := 0
  wallMicros := 0
  ingest := .start {}
  ticking := ⟨⟨1000, 1000⟩, none⟩
  store := { rows := [(some .byKind, sharedId[1].rows)], reads := { holding := 1 } }

/-- Then it answers that one too. -/
def answering : Service :=
  { holdingFirst with store := {
      rows := [(some .events, sharedId[0].rows)]
      reads := { line := [⟨0, .foreground, true⟩] } } }

/-- The second query is over in the first turn, and the first one in the second turn. -/
theorem outcome_sharedId :
    ∃ parts, Queries { queryTimeout := none } {} .foreground sharedId (.queries parts) ∧
      Turn .foreground answering parts sharedId 0 ∧
      ∃ events, (answering.run .foreground (.queries parts)).2 = .over (.ok (.events events)) ∧
        Merged (sharedId.flatMap Exchange.rows) events := by
  have kept {s : Service} {g : Guard} (none : s.cancelled = []) :
      ∀ t ∈ g.token, t ∉ s.cancelled := by simp [none]
  let asked (x : Exchange) : Read := .ofQuery { queryTimeout := none } {} x.plan
  have first : Turn .foreground holdingFirst
      (sharedId.map fun x => Part.running x.plan (asked x)) sharedId 1 :=
    .held (.unstarted (kept rfl) (by simp)) rfl
      (.answered (.unstarted (kept rfl) (by simp)) rfl .done)
  have next : Queries { queryTimeout := none } {} .foreground sharedId (.queries [
      .running sharedId[0].plan { asked sharedId[0] with place := .parked 0 none },
      .over (Event.firstOfEach sharedId[1].events)]) :=
    Queries.start.next first rfl
  have last : Turn .foreground answering [
      .running sharedId[0].plan { asked sharedId[0] with place := .parked 0 none },
      .over (Event.firstOfEach sharedId[1].events)] sharedId 0 :=
    .answered (.parked (kept rfl) (by simp)) rfl (.settled (by simp) .done)
  obtain ⟨result, ended, read, -⟩ := (next.outcome last).resolve_left (by simp)
  obtain ⟨events, rfl, merged, -⟩ := read (by simp [sharedId])
  exact ⟨_, next, last, events, ended, merged⟩

end RelayStore.Service

import RelayStore.Hot.Refresh
import RelayStore.Server.Client

/-!
Replacing the ranking on the server: an insert, and then a removal of what is outdated. Main
statement: `replaceHot_outcome`, what the table holds after a replacement that is done and after one
that fails.
-/
namespace RelayStore.Server
open RowBinary

/-- A server with the table of the ranking, and the answers that it gives to the next requests. -/
structure RankingServer where
  posts : List HotPost
  answers : List (Except String Reply)

def accepted : Except String Reply → Bool
  | .ok reply => reply.status = 200
  | .error _ => false

/-- The posts that a removal leaves. -/
def kept (r : Hot.Replacement) (posts : List HotPost) : List HotPost :=
  posts.filter fun p => !(p.engagement.createdAt < r.horizon || p.runId < r.runId)

/-- The request that removes what a replacement makes outdated, if it can be written. -/
def eviction? (c : Client) (r : Hot.Replacement) : Except DatabaseError Request :=
  (fill (Client.evictionText c.database) [.number r.horizon.toNat, .number r.runId]).map c.order

/-- What an accepted request does to the table: the insert of a replacement appends its rows, and
its removal takes out the rows that it names. -/
def applied (c : Client) (r : Hot.Replacement) (q : Request) (posts : List HotPost) :
    List HotPost :=
  if q = c.insertion Client.hotPostsTable (r.rows.map hotPostFields) then posts ++ r.rows
  else match eviction? c r with
    | .ok removal => if q = removal then kept r posts else posts
    | .error _ => posts

/-- A server gives its answers one after the other. A request that it refuses has no effect. -/
def rankingServer (c : Client) (r : Hot.Replacement) :
    Transport (StateM RankingServer) := fun _ q =>
  modifyGet fun s => match s.answers with
    | [] => (.error "connection closed", s)
    | a :: rest => (a, ⟨if accepted a then applied c r q s.posts else s.posts, rest⟩)

variable {c : Client} {r : Hot.Replacement} {s : RankingServer}

/-- An answer is read as done exactly if it is accepted. -/
theorem received_done (a : Except String Reply) :
    accepted a = true ∧ (Client.received a >>= Client.done).mapError Error.database = .ok () ∨
      accepted a = false ∧
        ∃ e, (Client.received a >>= Client.done).mapError Error.database = .error e := by
  cases a with
  | error reason => exact .inr ⟨rfl, _, rfl⟩
  | ok reply =>
    by_cases fine : reply.status = 200
    · have body : Client.received (.ok reply) = .ok reply.body := if_pos fine
      exact .inl ⟨decide_eq_true fine, by rw [body]; rfl⟩
    · have refusal : Client.received (.ok reply) = .error (Client.refusal reply) := if_neg fine
      exact .inr ⟨decide_eq_false fine, _, by rw [refusal]; rfl⟩

/-- How a request goes: it cannot be sent, or the server gives its next answer. -/
inductive Exchanged (c : Client) (r : Hot.Replacement) (s : RankingServer) :
    Except DatabaseError Request → Except Error Unit → RankingServer → Prop where
  | unsent {request : Except DatabaseError Request} {e : Error} :
      Exchanged c r s request (.error e) s
  | refused {q : Request} {e : Error} {rest : List (Except String Reply)}
      (answers : ∃ a, s.answers = a :: rest ∧ accepted a = false) :
      Exchanged c r s (.ok q) (.error e) ⟨s.posts, rest⟩
  | accepted {q : Request} {rest : List (Except String Reply)}
      (answers : ∃ a, s.answers = a :: rest ∧ accepted a = true) :
      Exchanged c r s (.ok q) (.ok ()) ⟨applied c r q s.posts, rest⟩

theorem exchange_sent {q : Request} {address : Address}
    (reached : Address.ofText c.address (Url.form q.params) = .ok address) (posts : List HotPost)
    (a : Except String Reply) (rest : List (Except String Reply)) :
    (c.exchange (rankingServer c r) (.ok q) Client.done).run ⟨posts, a :: rest⟩ =
      ((Client.received a >>= Client.done).mapError Error.database,
        ⟨if accepted a then applied c r q posts else posts, rest⟩) := by
  unfold Client.exchange
  dsimp only
  rw [reached]
  rfl

theorem exchanged (c : Client) (r : Hot.Replacement) (s : RankingServer)
    (request : Except DatabaseError Request) :
    Exchanged c r s request ((c.exchange (rankingServer c r) request Client.done).run s).1
      ((c.exchange (rankingServer c r) request Client.done).run s).2 := by
  cases request with
  | error e => exact .unsent
  | ok q =>
    cases reached : Address.ofText c.address (Url.form q.params) with
    | error f =>
      unfold Client.exchange
      dsimp only
      rw [reached]
      exact .unsent
    | ok address =>
      obtain ⟨posts, _ | ⟨a, rest⟩⟩ := s
      · unfold Client.exchange
        dsimp only
        rw [reached]
        exact .unsent
      · rw [exchange_sent reached]
        obtain ⟨fine, read⟩ | ⟨refusal, e, read⟩ := received_done a
        · rw [read, fine]
          exact .accepted ⟨a, rfl, fine⟩
        · rw [read, refusal]
          exact .refused ⟨a, rfl, refusal⟩

/-- The insert and the removal are different requests. -/
theorem eviction_ne_insertion {q : Request} (removal : eviction? c r = .ok q)
    (table : String) (rows : List (List Field)) : q ≠ c.insertion table rows := by
  unfold eviction? at removal
  cases filled : fill (Client.evictionText c.database)
      [.number r.horizon.toNat, .number r.runId] with
  | error e =>
    rw [filled] at removal
    cases removal
  | ok sql =>
    rw [filled] at removal
    cases removal
    intro same
    cases congrArg (fun q : Request => q.params.length) same

theorem applied_insertion (posts : List HotPost) :
    applied c r (c.insertion Client.hotPostsTable (r.rows.map hotPostFields)) posts =
      posts ++ r.rows := if_pos rfl

theorem applied_eviction {q : Request} (removal : eviction? c r = .ok q) (posts : List HotPost) :
    applied c r q posts = kept r posts := by
  unfold applied
  rw [if_neg (eviction_ne_insertion removal _ _), removal]
  exact if_pos rfl

/-- The rows that a replacement leaves are recent and of its run or a later one. -/
theorem kept_append (own : ∀ p ∈ r.rows, p.runId = r.runId) (posts : List HotPost) :
    kept r (posts ++ r.rows) =
      (posts.filter fun p => r.horizon ≤ p.engagement.createdAt && r.runId ≤ p.runId) ++
        r.rows.filter fun p => r.horizon ≤ p.engagement.createdAt := by
  unfold kept
  rw [List.filter_append]
  congr 1
  · refine List.filter_congr fun p _ => ?_
    simp only [Bool.not_or, ← decide_not, UInt32.not_lt, Nat.not_lt]
  · refine List.filter_congr fun p member => ?_
    simp only [Bool.not_or, ← decide_not, UInt32.not_lt, Nat.not_lt, own p member, Nat.le_refl,
      decide_true, Bool.and_true]

/-- The insert of a replacement: all rows are in the table, or none. -/
theorem insertRows_outcome (c : Client) (r : Hot.Replacement) (s : RankingServer) :
    let after :=
      (c.insertRows (rankingServer c r) Client.hotPostsTable (r.rows.map hotPostFields)).run s
    after.1 = .ok () ∧ after.2.posts = s.posts ++ r.rows ∧
        (r.rows ≠ [] → s.answers.head?.any accepted = true) ∨
      (∃ e, after.1 = .error e) ∧ after.2.posts = s.posts := by
  dsimp only
  unfold Client.insertRows
  by_cases none : r.rows.map hotPostFields = []
  · rw [if_pos none, List.map_eq_nil_iff.1 none]
    exact .inl ⟨rfl, (List.append_nil _).symm, fun some => absurd rfl some⟩
  · rw [if_neg none]
    have turn := exchanged c r s (.ok (c.insertion Client.hotPostsTable (r.rows.map hotPostFields)))
    generalize StateT.run (m := Id) (c.exchange _ _ _) s = after at turn ⊢
    obtain ⟨result, s'⟩ := after
    cases turn with
    | unsent => exact .inr ⟨⟨_, rfl⟩, rfl⟩
    | refused => exact .inr ⟨⟨_, rfl⟩, rfl⟩
    | accepted answers =>
      obtain ⟨a, answers, fine⟩ := answers
      refine .inl ⟨rfl, applied_insertion s.posts, fun _ => ?_⟩
      rw [answers]
      exact fine

/-- The removal: everything outdated is gone, or nothing. -/
theorem evict_outcome (c : Client) (r : Hot.Replacement) (s : RankingServer) :
    let after := (c.evict (rankingServer c r) r.runId r.horizon).run s
    after.1 = .ok () ∧ after.2.posts = kept r s.posts ∨
      (∃ e, after.1 = .error e) ∧ after.2.posts = s.posts := by
  dsimp only
  have turn := exchanged c r s (eviction? c r)
  have exchange : c.evict (rankingServer c r) r.runId r.horizon =
    c.exchange (rankingServer c r) (eviction? c r) Client.done := rfl
  rw [exchange]
  generalize StateT.run (m := Id) (c.exchange _ _ _) s = after at turn ⊢
  obtain ⟨result, s'⟩ := after
  generalize removal : eviction? c r = request at turn
  cases turn with
  | unsent => exact .inr ⟨⟨_, rfl⟩, rfl⟩
  | refused => exact .inr ⟨⟨_, rfl⟩, rfl⟩
  | accepted answers => exact .inl ⟨rfl, applied_eviction removal s.posts⟩

theorem run_replaceHot (c : Client) (r : Hot.Replacement) (s : RankingServer) :
    (c.replaceHot (rankingServer c r) r.rows r.runId r.horizon).run s =
      match
        (c.insertRows (rankingServer c r) Client.hotPostsTable (r.rows.map hotPostFields)).run s
      with
      | (.error e, s') => (.error e, s')
      | (.ok (), s') => (c.evict (rankingServer c r) r.runId r.horizon).run s' := by
  unfold Client.replaceHot
  rw [StateT.run_bind]
  rcases StateT.run (m := Id) (c.insertRows _ _ _) s with ⟨_ | _, s'⟩ <;> rfl

/-- What a replacement leaves in the table. One that is done leaves the rows that are recent, of its
run or a later one. One that fails leaves the table as it was, or with its own rows added to the old
ones, where the server took these and only the removal failed. -/
theorem replaceHot_outcome (c : Client) (r : Hot.Replacement) (s : RankingServer)
    (own : ∀ p ∈ r.rows, p.runId = r.runId) :
    let after := (c.replaceHot (rankingServer c r) r.rows r.runId r.horizon).run s
    (after.1 = .ok () → after.2.posts =
      (s.posts.filter fun p => r.horizon ≤ p.engagement.createdAt && r.runId ≤ p.runId) ++
        r.rows.filter fun p => r.horizon ≤ p.engagement.createdAt) ∧
    ∀ e, after.1 = .error e → after.2.posts = s.posts ∨
      after.2.posts = s.posts ++ r.rows ∧ (r.rows ≠ [] → s.answers.head?.any accepted = true) := by
  dsimp only
  rw [run_replaceHot]
  have insert := insertRows_outcome c r s
  rcases inserted : StateT.run (m := Id) (c.insertRows _ _ _) s with ⟨result, s'⟩
  rw [inserted] at insert
  dsimp only at insert
  obtain ⟨rfl, added, taken⟩ | ⟨⟨e, rfl⟩, same⟩ := insert
  · have removal := evict_outcome c r s'
    dsimp only at removal added ⊢
    obtain ⟨done, left⟩ | ⟨⟨e, failed⟩, same⟩ := removal
    · rw [done, left, added]
      exact ⟨fun _ => kept_append own s.posts, fun _ failed => (nomatch failed)⟩
    · rw [failed, same, added]
      exact ⟨fun done => (nomatch done), fun _ _ => .inr ⟨rfl, taken⟩⟩
  · exact ⟨fun done => (nomatch done), fun _ _ => .inl same⟩

/-- Where the server takes the insert and refuses the removal, the replacement fails and its rows
stay next to the old ones. -/
theorem run_halfway {removal : Request} {one two : Address} {a b : Except String Reply}
    (some : r.rows ≠ []) (removes : eviction? c r = .ok removal)
    (reached : Address.ofText c.address (Url.form
      (c.insertion Client.hotPostsTable (r.rows.map hotPostFields)).params) = .ok one)
    (reached' : Address.ofText c.address (Url.form removal.params) = .ok two)
    (taken : accepted a = true) (refused : accepted b = false) (posts : List HotPost)
    (rest : List (Except String Reply)) :
    let after := (c.replaceHot (rankingServer c r) r.rows r.runId r.horizon).run
      ⟨posts, a :: b :: rest⟩
    (∃ e, after.1 = .error e) ∧ after.2.posts = posts ++ r.rows := by
  dsimp only
  have inserted : StateT.run (m := Id) (c.insertRows (rankingServer c r) Client.hotPostsTable
      (r.rows.map hotPostFields)) ⟨posts, a :: b :: rest⟩ =
        (.ok (), ⟨posts ++ r.rows, b :: rest⟩) := by
    unfold Client.insertRows
    rw [if_neg (mt List.map_eq_nil_iff.1 some), exchange_sent reached, if_pos taken,
      applied_insertion,
      ((received_done a).resolve_right fun e => Bool.noConfusion (taken.symm.trans e.1)).2]
  have removed : StateT.run (m := Id) (c.evict (rankingServer c r) r.runId r.horizon)
      ⟨posts ++ r.rows, b :: rest⟩ =
        ((Client.received b >>= Client.done).mapError Error.database, ⟨posts ++ r.rows, rest⟩) := by
    have exchange : c.evict (rankingServer c r) r.runId r.horizon =
      c.exchange (rankingServer c r) (eviction? c r) Client.done := rfl
    rw [exchange, removes, exchange_sent reached', if_neg (Bool.eq_false_iff.1 refused)]
  rw [run_replaceHot, inserted]
  dsimp only
  rw [removed]
  exact ⟨((received_done b).resolve_left fun e => Bool.noConfusion (refused.symm.trans e.1)).2, rfl⟩

theorem ok_of_isSome {ε α : Type} {x : Except ε α} (some : x.toOption.isSome = true) :
    ∃ a, x = .ok a := by
  cases x with
  | error => cases some
  | ok a => exact ⟨a, rfl⟩

/-- A client of a server on the same machine. -/
def loopback : Client where
  address := "http://[::1]:8123"
  database := "nostr"

/-- A ranking of one post. -/
def onePost : Hot.Replacement where
  rows := [⟨⟨"a", "", 1, 1, 1, 0, 0, 0, 0⟩, 1.0, 1, 7⟩]
  runId := 7
  horizon := 0

/-- A server that takes the first request and fails at the second one. -/
def failingSecond : RankingServer := ⟨[], [.ok {}, .ok { status := 500 }]⟩

theorem reaches_insertion : ∃ one, Address.ofText loopback.address (Url.form
    (loopback.insertion Client.hotPostsTable (onePost.rows.map hotPostFields)).params) = .ok one :=
  ok_of_isSome (by decide +kernel)

theorem reaches_eviction : ∃ removal two, eviction? loopback onePost = .ok removal ∧
    Address.ofText loopback.address (Url.form removal.params) = .ok two := by
  obtain ⟨removal, removes, sendable⟩ : ∃ removal, eviction? loopback onePost = .ok removal ∧
      (Address.ofText loopback.address (Url.form removal.params)).toOption.isSome = true :=
    ⟨_, rfl, by decide +kernel⟩
  obtain ⟨two, reached⟩ := ok_of_isSome sendable
  exact ⟨removal, two, removes, reached⟩

/-- The replacement fails, and the ranking is not the one of before. -/
theorem failed_replacement_added :
    let after := (loopback.replaceHot (rankingServer loopback onePost) onePost.rows onePost.runId
      onePost.horizon).run failingSecond
    (∃ e, after.1 = .error e) ∧ after.2.posts ≠ failingSecond.posts := by
  obtain ⟨one, reached⟩ := reaches_insertion
  obtain ⟨removal, two, removes, reached'⟩ := reaches_eviction
  obtain ⟨failed, added⟩ := run_halfway (r := onePost) (by simp [onePost]) removes reached reached'
    (a := .ok {}) rfl (b := .ok { status := 500 }) rfl [] []
  refine ⟨failed, ?_⟩
  rw [show failingSecond = ⟨[], [.ok {}, .ok { status := 500 }]⟩ from rfl, added]
  simp [onePost]

/-- The same server: of the ranking of before nothing is lost. -/
theorem outcome_failingSecond :
    let after := (loopback.replaceHot (rankingServer loopback onePost) onePost.rows onePost.runId
      onePost.horizon).run failingSecond
    ∀ e, after.1 = .error e → after.2.posts = failingSecond.posts ∨
      after.2.posts = failingSecond.posts ++ onePost.rows := by
  have outcome := (replaceHot_outcome loopback onePost failingSecond (by simp [onePost])).2
  dsimp only at outcome ⊢
  intro e failed
  obtain same | ⟨added, -⟩ := outcome e failed
  · exact .inl same
  · exact .inr added

end RelayStore.Server

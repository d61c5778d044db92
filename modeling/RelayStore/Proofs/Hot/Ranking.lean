import Mathlib.Data.List.Nodup
import RelayStore.Hot.Ranking

/-!
The rows that a ranking keeps. Main statement: they are the first of the rows with a positive score,
by score and then by age, each row once, and rows that tie stay in the order in which they came.
-/
namespace RelayStore.Hot

/-! The order of the rows. -/

theorem orderKey_injective : Function.Injective orderKey := by
  intro x y same
  have bits : x.toBits.toNat = y.toBits.toNat := by
    have hx := x.toBits.toNat_lt
    have hy := y.toBits.toNat_lt
    simp only [orderKey, UInt64.size] at same
    split_ifs at same <;> omega
  -- A double is its bits.
  obtain ⟨⟨bx, validx⟩⟩ := x
  obtain ⟨⟨byy, validy⟩⟩ := y
  obtain rfl : bx = byy := UInt64.toNat_inj.1 bits
  rfl

/-- What rows are ranked by: the score, and the time of the post. -/
abbrev Key := Float × UInt32

def keyOf (now : UInt32) (r : Engagement) : Key := (r.score now, r.createdAt)

/-- A key comes strictly before another: its score is higher, or as high and the post newer. -/
def Above (x y : Key) : Prop := orderKey y.1 < orderKey x.1 ∨ x.1 = y.1 ∧ y.2 < x.2

theorem eq_of_not_above {x y : Key} (first : ¬ Above x y) (second : ¬ Above y x) : x = y := by
  obtain ⟨s, t⟩ := x
  obtain ⟨s', t'⟩ := y
  have scores : s = s' ↔ orderKey s = orderKey s' := orderKey_injective.eq_iff.symm
  simp only [Above, eq_comm (a := s'), scores, UInt32.lt_iff_toNat_lt] at first second
  rw [Prod.mk.injEq, scores, ← UInt32.toNat_inj]
  omega

theorem not_above_self (x : Key) : ¬ Above x x := by
  simp [Above]

/-- What a ranking keeps of some rows, each with the place at which it came. -/
structure Keeps (rows : List Engagement) (now : UInt32) (keep : Nat)
    (kept : List (Engagement × Nat)) : Prop where
  length : kept.length = min keep (rows.countP fun r => 0.0 < r.score now)
  positive : ∀ a ∈ kept, a ∈ rows.zipIdx ∧ 0.0 < a.1.score now
  distinct : (kept.map Prod.snd).Nodup
  ordered : kept.Pairwise fun a b => ¬ Above (keyOf now b.1) (keyOf now a.1)
  stable : kept.Pairwise fun a b => keyOf now a.1 = keyOf now b.1 → a.2 < b.2
  /-- What is left out comes before nothing that is kept, and after all of it that it ties with. -/
  complete : ∀ b ∈ rows.zipIdx, 0.0 < b.1.score now → b ∉ kept → ∀ a ∈ kept,
    ¬ Above (keyOf now b.1) (keyOf now a.1) ∧ (keyOf now a.1 = keyOf now b.1 → a.2 < b.2)

variable {now : UInt32}

/-! Sorting. -/

/-- A row comes before another or ties with it. -/
def ahead (now : UInt32) (a b : Engagement) : Bool :=
  Scored.before ⟨a.score now, a⟩ ⟨b.score now, b⟩

theorem ahead_iff {a b : Engagement} :
    ahead now a b = true ↔ ¬ Above (keyOf now b) (keyOf now a) := by
  have scores : a.score now = b.score now ↔ orderKey (a.score now) = orderKey (b.score now) :=
    orderKey_injective.eq_iff.symm
  simp only [ahead, Scored.before, Above, keyOf, Bool.or_eq_true, Bool.and_eq_true,
    decide_eq_true_eq, UInt32.le_iff_toNat_le, UInt32.lt_iff_toNat_lt,
    eq_comm (a := b.score now), scores]
  omega

theorem ahead_trans (now : UInt32) (a b c : Engagement) (first : ahead now a b = true)
    (second : ahead now b c = true) : ahead now a c = true := by
  simp only [ahead, Scored.before, Bool.or_eq_true, Bool.and_eq_true, decide_eq_true_eq,
    UInt32.le_iff_toNat_le] at *
  omega

theorem ahead_total (now : UInt32) (a b : Engagement) :
    (ahead now a b || ahead now b a) = true := by
  simp only [ahead, Scored.before, Bool.or_eq_true, Bool.and_eq_true, decide_eq_true_eq,
    UInt32.le_iff_toNat_le]
  omega

/-- Sorting leaves items that all tie with one another in their order. -/
theorem filter_mergeSort {α : Type} {le : α → α → Bool}
    (trans : ∀ a b c, le a b = true → le b c = true → le a c = true)
    (total : ∀ a b, (le a b || le b a) = true) {p : α → Bool}
    (tied : ∀ a b, p a = true → p b = true → le a b = true) (l : List α) :
    (l.mergeSort le).filter p = l.filter p := by
  have sorted : (l.filter p).Pairwise fun a b => le a b = true :=
    List.pairwise_of_forall_mem_list fun a ha b hb =>
      tied a b (List.mem_filter.1 ha).2 (List.mem_filter.1 hb).2
  have part := (List.sublist_mergeSort trans total sorted List.filter_sublist).filter p
  simp only [List.filter_filter, Bool.and_self] at part
  have length := ((List.mergeSort_perm l le).filter p).length_eq
  exact (part.eq_of_length length.symm).symm

/-- The rows with a positive score, each with its place. -/
def candidates (rows : List Engagement) (now : UInt32) : List (Engagement × Nat) :=
  rows.zipIdx.filter fun a => decide (0.0 < a.1.score now)

/-- The candidates as a ranking orders them. -/
def ordered (rows : List Engagement) (now : UInt32) : List (Engagement × Nat) :=
  (candidates rows now).mergeSort fun a b => ahead now a.1 b.1

variable (rows : List Engagement)

theorem map_fst_candidates :
    (candidates rows now).map Prod.fst = rows.filter fun r => decide (0.0 < r.score now) := by
  nth_rewrite 2 [← List.zipIdx_map_fst 0 rows]
  rw [List.filter_map]
  rfl

theorem perm_ordered (now : UInt32) : (ordered rows now).Perm (candidates rows now) :=
  List.mergeSort_perm _ _

variable {rows} in
theorem mem_ordered {a : Engagement × Nat} :
    a ∈ ordered rows now ↔ a ∈ rows.zipIdx ∧ 0.0 < a.1.score now := by
  rw [(perm_ordered rows now).mem_iff, candidates, List.mem_filter, decide_eq_true_eq]

theorem length_ordered :
    (ordered rows now).length = rows.countP fun r => 0.0 < r.score now := by
  rw [(perm_ordered rows now).length_eq, List.countP_eq_length_filter, ← map_fst_candidates,
    List.length_map]

theorem places_candidates (now : UInt32) :
    (candidates rows now).Pairwise fun a b => a.2 < b.2 := by
  refine List.Pairwise.filter _ (List.pairwise_map.1 ?_)
  rw [List.zipIdx_map_snd]
  exact List.pairwise_lt_range' 1

theorem nodup_ordered (now : UInt32) : ((ordered rows now).map Prod.snd).Nodup := by
  refine ((perm_ordered rows now).map Prod.snd).nodup_iff.2 (List.pairwise_map.2 ?_)
  exact (places_candidates rows now).imp Nat.ne_of_lt

theorem sorted_ordered (now : UInt32) :
    (ordered rows now).Pairwise fun a b => ¬ Above (keyOf now b.1) (keyOf now a.1) := by
  have trans (a b c : Engagement × Nat) := ahead_trans now a.1 b.1 c.1
  have total (a b : Engagement × Nat) := ahead_total now a.1 b.1
  exact (List.pairwise_mergeSort trans total (candidates rows now)).imp ahead_iff.1

theorem stable_ordered (now : UInt32) :
    (ordered rows now).Pairwise fun a b => keyOf now a.1 = keyOf now b.1 → a.2 < b.2 := by
  rw [List.pairwise_iff_forall_sublist]
  intro a b pair same
  -- The rows that tie with the first one are found in the order in which they came.
  let tied (c : Engagement × Nat) : Bool := ahead now a.1 c.1 && ahead now c.1 a.1
  have unmoved : (ordered rows now).filter tied = (candidates rows now).filter tied := by
    have trans (a b c : Engagement × Nat) := ahead_trans now a.1 b.1 c.1
    have total (a b : Engagement × Nat) := ahead_total now a.1 b.1
    refine filter_mergeSort trans total (fun c d hc hd => ?_) _
    exact trans c a d (Bool.and_eq_true_iff.1 hc).2 (Bool.and_eq_true_iff.1 hd).1
  have ties {c : Engagement × Nat} (same : keyOf now a.1 = keyOf now c.1) : tied c = true := by
    simp only [tied, Bool.and_eq_true, ahead_iff, same]
    exact ⟨not_above_self _, not_above_self _⟩
  have both : [a, b].Sublist ((candidates rows now).filter tied) := by
    have kept := pair.filter tied
    rwa [unmoved, List.filter_cons_of_pos (ties rfl), List.filter_cons_of_pos (ties same),
      List.filter_nil] at kept
  have placed := ((places_candidates rows now).filter tied).sublist both
  exact List.pairwise_pair (R := fun a b : Engagement × Nat => a.2 < b.2).1 placed

/-! The main statement. -/

/-- The post that a row becomes. -/
def post (now : UInt32) (runId : Nat) (r : Engagement) : HotPost := ⟨r, r.score now, now, runId⟩

theorem rank_eq (now : UInt32) (runId keep : Nat) :
    rank rows now runId keep =
      ((ordered rows now).take keep).map fun a => post now runId a.1 := by
  let withScore (a : Engagement × Nat) : Scored := ⟨a.1.score now, a.1⟩
  have unplaced : scored rows now = (candidates rows now).map withScore := by
    rw [scored, List.filter_map, show withScore = (fun r => ⟨r.score now, r⟩) ∘ Prod.fst from rfl,
      ← List.map_map, map_fst_candidates]
    rfl
  have sorted : (scored rows now).mergeSort Scored.before = (ordered rows now).map withScore := by
    rw [unplaced, ordered, List.map_mergeSort fun a _ b _ => ?_]
    rfl
  rw [rank, sorted, ← List.map_take, List.map_map]
  rfl

theorem keeps_take (now : UInt32) (keep : Nat) :
    Keeps rows now keep ((ordered rows now).take keep) where
  length := by rw [List.length_take, length_ordered]
  positive a mem := mem_ordered.1 (List.mem_of_mem_take mem)
  distinct := by
    rw [List.map_take]
    exact (nodup_ordered rows now).take
  ordered := (sorted_ordered rows now).take
  stable := (stable_ordered rows now).take
  complete := by
    intro b held good out a mem
    have pairs := (sorted_ordered rows now).and (stable_ordered rows now)
    have all := mem_ordered.2 ⟨held, good⟩
    rw [← List.take_append_drop keep (ordered rows now)] at pairs all
    have left := (List.mem_append.1 all).resolve_left out
    exact (List.pairwise_append.1 pairs).2.2 a mem b left

/-- In whatever order the rows come, their keys are ordered in the same way. -/
theorem keys_ordered {rows rows' : List Engagement} (perm : rows'.Perm rows) (now : UInt32) :
    (ordered rows' now).map (fun a => keyOf now a.1) =
      (ordered rows now).map fun a => keyOf now a.1 := by
  have sorted (rows : List Engagement) : ((ordered rows now).map fun a => keyOf now a.1).Pairwise
      fun x y => ¬ Above y x := List.pairwise_map.2 (sorted_ordered rows now)
  have keys (rows : List Engagement) : ((ordered rows now).map fun a => keyOf now a.1).Perm
      ((rows.filter fun r => decide (0.0 < r.score now)).map (keyOf now)) := by
    rw [← map_fst_candidates, List.map_map]
    exact (perm_ordered rows now).map _
  refine List.Perm.eq_of_pairwise (fun x y _ _ first second => eq_of_not_above second first)
    (sorted rows') (sorted rows) ?_
  exact (keys rows').trans (((perm.filter _).map _).trans (keys rows).symm)

/-- A ranking is made of the rows that it keeps, and the scores and times in it do not depend on the
order in which the rows came. -/
theorem rank_keeps (now : UInt32) (runId keep : Nat) :
    (∃ kept, Keeps rows now keep kept ∧
      rank rows now runId keep = kept.map fun a => post now runId a.1) ∧
    ∀ rows' : List Engagement, rows'.Perm rows →
      (rank rows' now runId keep).map (fun p => (p.score, p.engagement.createdAt)) =
        (rank rows now runId keep).map fun p => (p.score, p.engagement.createdAt) := by
  refine ⟨⟨_, keeps_take rows now keep, rank_eq rows now runId keep⟩, fun rows' perm => ?_⟩
  have taken (rows : List Engagement) :
      (rank rows now runId keep).map (fun p => (p.score, p.engagement.createdAt)) =
        ((ordered rows now).map fun a => keyOf now a.1).take keep := by
    rw [rank_eq, List.map_map, ← List.map_take]
    rfl
  rw [taken, taken, keys_ordered perm]

/-- Two posts of the same second with the same attention, and an older one with more of it. -/
def twoTwins : List Engagement :=
  [⟨"first", "author", 1, 1700000000, 4, 10, 2, 1, 21000⟩,
    ⟨"older", "author", 1, 1699990000, 40, 100, 20, 10, 210000⟩,
    ⟨"second", "author", 1, 1700000000, 4, 10, 2, 1, 21000⟩]

theorem rank_keeps_twoTwins :
    (∃ kept, Keeps twoTwins 1700003600 2 kept ∧
      rank twoTwins 1700003600 7 2 = kept.map fun a => post 1700003600 7 a.1) ∧
    twoTwins.reverse.Perm twoTwins ∧
      (rank twoTwins.reverse 1700003600 7 2).map (fun p => (p.score, p.engagement.createdAt)) =
        (rank twoTwins 1700003600 7 2).map fun p => (p.score, p.engagement.createdAt) := by
  have perm : twoTwins.reverse.Perm twoTwins := List.reverse_perm _
  obtain ⟨kept, unordered⟩ := rank_keeps twoTwins 1700003600 7 2
  exact ⟨kept, perm, unordered _ perm⟩

end RelayStore.Hot

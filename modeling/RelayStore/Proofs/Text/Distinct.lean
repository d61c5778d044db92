import RelayStore.Text.Words
import Mathlib.Data.List.Induction
import Mathlib.Data.List.Nodup

/-! A list without its repetitions has the same items, in the order in which they first occur. -/
namespace RelayStore.Text

variable {α : Type} [DecidableEq α]

theorem mem_distinct_go {seen xs : List α} {x : α} :
    x ∈ distinct.go seen xs ↔ x ∈ xs ∧ x ∉ seen := by
  induction xs generalizing seen with
  | nil => simp [distinct.go]
  | cons y xs ih =>
    unfold distinct.go
    split
    next known =>
      rw [ih, List.mem_cons]
      constructor
      · rintro ⟨held, fresh⟩
        exact ⟨.inr held, fresh⟩
      · rintro ⟨rfl | held, fresh⟩
        · contradiction
        · exact ⟨held, fresh⟩
    next unknown =>
      rw [List.mem_cons, List.mem_cons, ih, List.mem_cons]
      constructor
      · rintro (rfl | ⟨held, fresh⟩)
        · exact ⟨.inl rfl, unknown⟩
        · exact ⟨.inr held, fun h => fresh (.inr h)⟩
      · rintro ⟨rfl | held, fresh⟩
        · exact .inl rfl
        · by_cases same : x = y
          · exact .inl same
          · exact .inr ⟨held, by simp [same, fresh]⟩

@[simp] theorem mem_distinct {xs : List α} {x : α} : x ∈ distinct xs ↔ x ∈ xs := by
  simp [distinct, mem_distinct_go]

theorem nodup_distinct_go (seen xs : List α) : (distinct.go seen xs).Nodup := by
  induction xs generalizing seen with
  | nil => exact List.nodup_nil
  | cons y xs ih =>
    unfold distinct.go
    split
    · exact ih seen
    · refine List.nodup_cons.mpr ⟨?_, ih _⟩
      simp [mem_distinct_go]

theorem nodup_distinct (xs : List α) : (distinct xs).Nodup := nodup_distinct_go [] xs

@[simp] theorem distinct_eq_nil {xs : List α} : distinct xs = [] ↔ xs = [] := by
  simp only [List.eq_nil_iff_forall_not_mem, mem_distinct]

theorem distinct_go_concat (seen xs : List α) (x : α) :
    distinct.go seen (xs ++ [x]) =
      distinct.go seen xs ++ if x ∈ seen ∨ x ∈ xs then [] else [x] := by
  induction xs generalizing seen with
  | nil => by_cases known : x ∈ seen <;> simp [distinct.go, known]
  | cons y xs ih =>
    rw [List.cons_append, distinct.go, distinct.go]
    by_cases known : y ∈ seen
    · have same : x ∈ seen ∨ x ∈ y :: xs ↔ x ∈ seen ∨ x ∈ xs := by grind
      simp only [known, if_true, ih, same]
    · have same : x ∈ y :: seen ∨ x ∈ xs ↔ x ∈ seen ∨ x ∈ y :: xs := by grind
      simp only [known, if_false, ih, same, List.cons_append]

/-- An item at the end is left out if it has come before. -/
theorem distinct_concat (xs : List α) (x : α) :
    distinct (xs ++ [x]) = distinct xs ++ if x ∈ xs then [] else [x] := by
  simp [distinct, distinct_go_concat]

theorem distinct_of_nodup {xs : List α} (nodup : xs.Nodup) : distinct xs = xs := by
  induction xs using List.reverseRecOn with
  | nil => rfl
  | append_singleton xs x ih =>
    obtain ⟨before, -, apart⟩ := List.nodup_append.mp nodup
    have fresh : x ∉ xs := fun mem => apart x mem x (List.mem_singleton_self x) rfl
    rw [distinct_concat, ih before, if_neg fresh]

/-- What is left of items that have places in order stands as its items first occur. -/
theorem pairwise_distinct {placed : List (α × Nat)}
    (ordered : placed.Pairwise fun a b => a.2 < b.2) :
    (distinct (placed.map Prod.fst)).Pairwise fun x y =>
      ∃ i, (x, i) ∈ placed ∧ ∀ j, (y, j) ∈ placed → i < j := by
  induction placed using List.reverseRecOn with
  | nil => exact List.Pairwise.nil
  | append_singleton placed last ih =>
    obtain ⟨z, k⟩ := last
    obtain ⟨before, -, behind⟩ := List.pairwise_append.mp ordered
    have least : ∀ x i, (x, i) ∈ placed → i < k := by
      intro x i mem
      exact behind (x, i) mem (z, k) (List.mem_singleton_self _)
    rw [List.map_append, List.map_singleton, distinct_concat]
    refine List.pairwise_append.mpr ⟨(ih before).imp ?_, by split_ifs <;> simp, ?_⟩
    · rintro x y ⟨i, mem, first⟩
      refine ⟨i, List.mem_append_left _ mem, fun j mem' => ?_⟩
      rcases List.mem_append.mp mem' with mem' | mem'
      · exact first j mem'
      · obtain ⟨rfl, rfl⟩ := Prod.mk.inj (List.mem_singleton.mp mem')
        exact least x i mem
    · -- A new item has come only at the end, behind the places of all others.
      intro x kept y new
      split_ifs at new with known
      · contradiction
      obtain rfl := List.mem_singleton.mp new
      obtain ⟨⟨x, i⟩, mem, rfl⟩ := List.mem_map.mp (mem_distinct.mp kept)
      refine ⟨i, List.mem_append_left _ mem, fun j mem' => ?_⟩
      rcases List.mem_append.mp mem' with mem' | mem'
      · exact absurd (List.mem_map_of_mem mem') known
      · obtain ⟨-, rfl⟩ := Prod.mk.inj (List.mem_singleton.mp mem')
        exact least x i mem

end RelayStore.Text

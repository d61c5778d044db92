import RelayStore.Proofs.Tag.Projection
import RelayStore.Row

/-!
The columns of a stored event. Main statement: the pass over the tags fills them with what a search
of the tags for one name at a time finds, and they may be taken out one after the other.
-/
namespace RelayStore

namespace Projections

variable {s : Projections}

theorem get_ofTags_append (xs ys : List Tag) (n : TagName) :
    (ofTags (xs ++ ys)).get n = (ofTags xs).get n ++ (ofTags ys).get n := by
  simp only [get_ofTags, valuesOf, List.filterMap_append]

theorem get_take (s : Projections) (n m : TagName) :
    (s.take n).2.get m = if m = n then [] else s.get m := by
  simp only [take, get, PerTag.get_set, eq_comm]

/-- The values of several names, each taken from what the names before it have left. -/
def takeEach (s : Projections) : List TagName → List (List String)
  | [] => []
  | n :: names => (s.take n).1 :: (s.take n).2.takeEach names

/-- Names taken once each give what they had at the start. -/
theorem takeEach_eq {names : List TagName} (distinct : names.Nodup) :
    s.takeEach names = names.map s.get := by
  induction names generalizing s with
  | nil => rfl
  | cons n names ih =>
    obtain ⟨fresh, distinct⟩ := List.nodup_cons.mp distinct
    -- The names that are left are not the one just taken, so they have lost nothing.
    have kept : names.map (s.take n).2.get = names.map s.get := by
      refine List.map_congr_left fun m mem => ?_
      have other : m ≠ n := by
        rintro rfl
        exact fresh mem
      rw [get_take, if_neg other]
    rw [takeEach, ih distinct, kept]
    rfl

end Projections

namespace EventRow

/-- The row of an event whose tags are searched anew for each name. -/
def searched (e : Event) (receivedAt : UInt32) (version : Nat) : EventRow where
  id := e.id
  pubkey := e.pubkey
  createdAt := e.createdAt
  kind := e.kind
  content := e.content
  sig := e.sig
  tags := e.tags
  tagE := valuesOf "e" e.tags
  tagP := valuesOf "p" e.tags
  tagA := valuesOf "a" e.tags
  tagT := valuesOf "t" e.tags
  tagD := (valuesOf "d" e.tags).getLast?.getD ""
  tagG := valuesOf "g" e.tags
  tagR := valuesOf "r" e.tags
  receivedAt := receivedAt
  version := version
  deleted := 0

theorem ofEvent_eq (e : Event) (receivedAt : UInt32) (version : Nat) :
    ofEvent e receivedAt version = searched e receivedAt version := by
  simp only [ofEvent, Projections.get_ofTags, Projections.identifier_ofTags,
    List.getLastD_eq_getLast?]
  rfl

/-- The columns that hold lists, in the order in which they are filled. -/
def lists (row : EventRow) : List (List String) :=
  [row.tagE, row.tagP, row.tagA, row.tagT, row.tagG, row.tagR]

/-- The names of these columns. -/
def listNames : List TagName := [.e, .p, .a, .t, .g, .r]

/-- The one pass over the tags and a search for each name give the same row, also when the columns
are taken out of the projections in turn. Tags put together have the values of both, and taking the
values of a name empties its projection and no other. -/
theorem ofEvent_eq_searched (e : Event) (receivedAt : UInt32) (version : Nat) :
    ofEvent e receivedAt version = searched e receivedAt version ∧
      (Projections.ofTags e.tags).takeEach listNames = (ofEvent e receivedAt version).lists ∧
      (∀ (xs ys : List Tag) (n : TagName), (Projections.ofTags (xs ++ ys)).get n =
        (Projections.ofTags xs).get n ++ (Projections.ofTags ys).get n) ∧
      ∀ (s : Projections) (n : TagName), (s.take n).1 = s.get n ∧ (s.take n).2.tags = s.tags ∧
        ∀ m, (s.take n).2.get m = if m = n then [] else s.get m := by
  refine ⟨ofEvent_eq e receivedAt version, ?_, Projections.get_ofTags_append, ?_⟩
  · exact Projections.takeEach_eq (by decide)
  · intro s n
    exact ⟨rfl, rfl, s.get_take n⟩

end EventRow
end RelayStore

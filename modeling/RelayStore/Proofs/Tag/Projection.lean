import RelayStore.Tag.Projection
import Mathlib.Data.List.Basic

/-! The one pass over the tags finds for each name what a search for this name alone finds. -/
namespace RelayStore

/-- The value of a tag with the given name. -/
def Tag.value? (name : String) : Tag → Option String
  | first :: value :: _ => if first = name then some value else none
  | _ => none

/-- The values that the tags have under a name, in order. -/
def valuesOf (name : String) (tags : List Tag) : List String := tags.filterMap (Tag.value? name)

namespace TagName

theorem ofText?_eq_some {s : String} {n : TagName} : ofText? s = some n ↔ s = n.text := by
  constructor
  · intro h
    exact (text_of_ofText? h).symm
  · rintro rfl
    exact ofText?_text n

end TagName

theorem Tag.value?_eq_some {name value : String} {tag : Tag} :
    tag.value? name = some value ↔ ∃ rest, tag = name :: value :: rest := by
  unfold Tag.value?
  split
  next first v rest =>
    by_cases h : first = name <;> simp [h]
  next other =>
    simp only [reduceCtorEq, false_iff, not_exists]
    exact fun rest => other name value rest

theorem mem_valuesOf {name value : String} {tags : List Tag} :
    value ∈ valuesOf name tags ↔ ∃ tag ∈ tags, ∃ rest, tag = name :: value :: rest := by
  simp only [valuesOf, List.mem_filterMap, Tag.value?_eq_some]

namespace Projections

theorem get_add (slots : PerTag (List String)) (tag : Tag) (n : TagName) :
    (add slots tag).get n = slots.get n ++ (tag.value? n.text).toList := by
  rcases tag with - | ⟨first, - | ⟨value, rest⟩⟩
  · simp [add, entry?, Tag.value?]
  · simp [add, entry?, Tag.value?]
  cases h : TagName.ofText? first with
  | none =>
    have other : first ≠ n.text := by
      rintro rfl
      simp [TagName.ofText?_text] at h
    simp [add, entry?, Tag.value?, h, other]
  | some m =>
    obtain rfl := TagName.ofText?_eq_some.mp h
    by_cases same : m = n
    · subst same
      simp [add, entry?, Tag.value?, h, PerTag.get_set]
    · have other : m.text ≠ n.text := by
        intro text
        rw [text, TagName.ofText?_text] at h
        exact same (Option.some.inj h).symm
      simp [add, entry?, Tag.value?, h, PerTag.get_set, same, other]

theorem get_foldl_add (tags : List Tag) (slots : PerTag (List String)) (n : TagName) :
    (tags.foldl add slots).get n = slots.get n ++ valuesOf n.text tags := by
  induction tags generalizing slots with
  | nil => simp [valuesOf]
  | cons tag tags ih =>
    rw [List.foldl_cons, ih, get_add, List.append_assoc]
    cases h : tag.value? n.text <;> simp [valuesOf, h]

@[simp] theorem get_ofTags (tags : List Tag) (n : TagName) :
    (ofTags tags).get n = valuesOf n.text tags := by
  simp [ofTags, get, get_foldl_add]

@[simp] theorem identifier_ofTags (tags : List Tag) :
    (ofTags tags).identifier = (valuesOf "d" tags).getLastD "" := by
  rw [identifier, get_ofTags]
  rfl

end Projections
end RelayStore

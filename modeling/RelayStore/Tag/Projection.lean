import RelayStore.Tag.Name

/-! The values of an event's tags, collected per indexed name in one pass. -/
namespace RelayStore

/-- The tag values of each indexed name, and the tag list itself. -/
structure Projections where
  values : PerTag (List String)
  tags : List Tag
  deriving DecidableEq, Repr

namespace Projections

/-- The name and value a tag contributes: none when the name is not indexed or the value missing. -/
def entry? : Tag → Option (TagName × String)
  | name :: value :: _ => (TagName.ofText? name).map (·, value)
  | _ => none

def add (slots : PerTag (List String)) (tag : Tag) : PerTag (List String) :=
  match entry? tag with
  | some (n, value) => slots.set n (slots.get n ++ [value])
  | none => slots

def ofTags (tags : List Tag) : Projections :=
  ⟨tags.foldl add (.const []), tags⟩

def get (s : Projections) (n : TagName) : List String := s.values.get n

/-- The values of one name, and the projections without them. -/
def take (s : Projections) (n : TagName) : List String × Projections :=
  (s.get n, { s with values := s.values.set n [] })

/-- The identifier of a replaceable event: the last value of `d`. -/
def identifier (s : Projections) : String := (s.get .d).getLastD ""

end Projections
end RelayStore

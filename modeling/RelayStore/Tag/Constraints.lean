import RelayStore.Tag.Name

/-! The tag values a filter accepts, per tag name. -/
namespace RelayStore

/-- Why a tag constraint is refused. -/
inductive TagRefusal where
  | emptyName
  | tooManyNames
  deriving DecidableEq, Repr

/-- How many names without an index a filter may constrain. -/
def maxOtherTags : Nat := 4

def TagRefusal.message : TagRefusal → String
  | .emptyName => "empty tag name"
  | .tooManyNames =>
    "more than " ++ toString maxOtherTags ++ " unindexed tag names in one filter"

/-- Accepted values: a slot for each indexed name, and a short list of other names in the order they
came. -/
structure TagConstraints where
  known : PerTag (List String) := .const []
  other : List (String × List String) := []
  deriving DecidableEq, Repr

namespace TagConstraints

def addKnown (c : TagConstraints) (n : TagName) (values : List String) : TagConstraints :=
  { c with known := c.known.set n (c.known.get n ++ values) }

/-- Appends values to those of a name that is in the list. -/
def extend (name : String) (values : List String) :
    List (String × List String) → List (String × List String)
  | [] => []
  | (n, vs) :: rest =>
    if n = name then (n, vs ++ values) :: rest else (n, vs) :: extend name values rest

def hasOther (c : TagConstraints) (name : String) : Bool := c.other.any fun p => p.1 = name

/-- Adds accepted values for a name. No values are no constraint. Beside the result stand the
constraints after the call, which a caller has also if it is refused. -/
def tryInsert (c : TagConstraints) (name : String) (values : List String) :
    Except TagRefusal Unit × TagConstraints :=
  if name = "" then (.error .emptyName, c)
  else if values = [] then (.ok (), c)
  else match TagName.ofText? name with
    | some n => (.ok (), c.addKnown n values)
    | none =>
      if c.hasOther name then (.ok (), { c with other := extend name values c.other })
      else if maxOtherTags ≤ c.other.length then (.error .tooManyNames, c)
      else (.ok (), { c with other := c.other ++ [(name, values)] })

/-- Adds accepted values for a name, for a caller that gives up if it is refused. -/
def insert (c : TagConstraints) (name : String) (values : List String) :
    Except TagRefusal TagConstraints :=
  let (result, c) := c.tryInsert name values
  result.map fun () => c

def get (c : TagConstraints) (n : TagName) : List String := c.known.get n

/-- The indexed names with at least one value. -/
def knownNames (c : TagConstraints) : List TagName := TagName.all.filter fun n => c.get n ≠ []

/-- How many names are constrained. -/
def count (c : TagConstraints) : Nat := c.knownNames.length + c.other.length

/-- The indexed name that is the only one constrained. -/
def single? (c : TagConstraints) : Option TagName :=
  if c.count = 1 then c.knownNames.head? else none

def isEmpty (c : TagConstraints) : Bool := c.count = 0

end TagConstraints
end RelayStore

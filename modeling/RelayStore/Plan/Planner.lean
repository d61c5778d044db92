import RelayStore.Filter
import RelayStore.Plan.Statement
import RelayStore.Text.Blank
import RelayStore.Text.Words

/-! From a filter to the table that answers it best and the conditions its rows have to meet. -/
namespace RelayStore

/-- The most rows one query returns, also when no limit is asked for. -/
def maxLimit : UInt32 := 5000

def effectiveLimit : Option UInt32 → UInt32
  | some n => if 0 < n ∧ n ≤ maxLimit then n else maxLimit
  | none => maxLimit

namespace Plan

/-- Ids come first, then authors, then kinds. A tag view serves a filter on its name alone, for it
has no column of another name. -/
def route (f : Filter) : Table :=
  if f.ids ≠ [] then .events
  else if f.authors ≠ [] then .byAuthor
  else if f.kinds ≠ [] then .byKind
  else match f.tags.single? with
    | some n => .byTag n
    | none => .events

def anyText (column : Column) (values : List String) : List Predicate :=
  if values = [] then [] else [⟨column, .oneOf (values.map .text)⟩]

def anyKind (kinds : List UInt16) : List Predicate :=
  if kinds = [] then [] else [⟨.kind, .oneOf (kinds.map fun k => .number k.toNat)⟩]

def bound (condition : Param → Condition) : Option UInt32 → List Predicate
  | some n => [⟨.createdAt, condition (.number n.toNat)⟩]
  | none => []

/-- The condition on an indexed tag: a value column and the identifier column hold one text, the
other tag columns a list. -/
def tagPredicate (table : Table) (n : TagName) (values : List String) : Predicate :=
  if table = .byTag n then ⟨.tagValue n, .oneOf (values.map .text)⟩
  else if n = .d then ⟨.tag n, .oneOf (values.map .text)⟩
  else ⟨.tag n, .hasAny (.texts values)⟩

def otherTag (entry : String × List String) : Predicate :=
  ⟨.tags, .tagEntry (.text entry.1) (.texts entry.2)⟩

/-- One condition for each distinct word of a search term; a term without words is searched for as
it is, unless it is blank. -/
def search (term : String) : List Predicate :=
  match Text.distinct (Text.words term) with
  | [] => if Text.isBlankText term then [] else [⟨.content, .contains (.text (Text.trim term))⟩]
  | words => words.map fun w => ⟨.content, .hasToken (.text w)⟩

def predicatesFor (table : Table) (f : Filter) : List Predicate :=
  [⟨.deleted, .equals (.number 0)⟩] ++ anyText .id f.ids ++ anyText .pubkey f.authors ++
    anyKind f.kinds ++ bound .atLeast f.since ++ bound .atMost f.upTo ++
    (f.tags.knownNames.map fun n => tagPredicate table n (f.tags.get n)) ++
    f.tags.other.map otherTag ++ (f.search.map search).getD []

def ofFilter (f : Filter) : Plan :=
  let table := route f
  ⟨table, predicatesFor table f, effectiveLimit f.limit⟩

end Plan
end RelayStore

import RelayStore.Plan.Planner
import RelayStore.Row
import RelayStore.Proofs.Tag.Constraints
import RelayStore.Proofs.Text.Distinct

/-! What the conditions of a plan mean for a row. -/
namespace RelayStore

/-- The database's functions on texts. Nothing is assumed of what they answer. -/
structure TextFunctions where
  hasToken : String → String → Bool
  /-- Where a text begins in another, counted from one, and zero if it is not found. -/
  position : String → String → Nat

/-- What a row holds in a column. -/
inductive Cell where
  | text (s : String)
  | number (n : Nat)
  | texts (xs : List String)
  | tagLists (tags : List Tag)
  deriving DecidableEq, Repr

def Cell.equals : Cell → Param → Bool
  | text s, .text v => s = v
  | number n, .number v => n = v
  | texts xs, .texts v => xs = v
  | _, _ => false

/-- The database gives the empty text for an element that an array does not have. -/
def Condition.holds (fns : TextFunctions) : Condition → Cell → Bool
  | equals v, cell => cell.equals v
  | oneOf vs, cell => vs.any cell.equals
  | atLeast (.number bound), .number n => bound ≤ n
  | atMost (.number bound), .number n => n ≤ bound
  | hasAny (.texts values), .texts xs => xs.any (· ∈ values)
  | hasToken (.text word), .text s => fns.hasToken s word
  | contains (.text part), .text s => 0 < fns.position s part
  | tagEntry (.text name) (.texts values), .tagLists tags =>
    tags.any fun tag => tag.getD 0 "" = name ∧ tag.getD 1 "" ∈ values
  | _, _ => false

/-- A row by its columns. -/
abbrev Record := Column → Option Cell

def Predicate.holds (fns : TextFunctions) (record : Record) (p : Predicate) : Bool :=
  (record p.column).any (p.condition.holds fns)

def Plan.accepts (fns : TextFunctions) (p : Plan) (record : Record) : Bool :=
  p.predicates.all (·.holds fns record)

/-- The columns of the full rows. -/
def EventRow.record (row : EventRow) : Record
  | .id => some (.text row.id)
  | .pubkey => some (.text row.pubkey)
  | .kind => some (.number row.kind.toNat)
  | .createdAt => some (.number row.createdAt.toNat)
  | .content => some (.text row.content)
  | .deleted => some (.number row.deleted.toNat)
  | .tags => some (.tagLists row.tags)
  | .tag .e => some (.texts row.tagE)
  | .tag .p => some (.texts row.tagP)
  | .tag .a => some (.texts row.tagA)
  | .tag .t => some (.texts row.tagT)
  | .tag .d => some (.text row.tagD)
  | .tag .g => some (.texts row.tagG)
  | .tag .r => some (.texts row.tagR)
  | .tagValue _ => none

theorem EventRow.record_isSome (row : EventRow) (column : Column) :
    (row.record column).isSome = Table.events.hasColumn column := by
  cases column with
  | tag n => cases n <;> rfl
  | _ => rfl

variable {fns : TextFunctions} {record : Record}

namespace Plan

theorem holds_anyText {column : Column} {s : String} (cell : record column = some (.text s))
    (values : List String) :
    (anyText column values).all (·.holds fns record) = true ↔ values = [] ∨ s ∈ values := by
  unfold anyText
  split
  next none => simp [none]
  next some =>
    simp [some, Predicate.holds, Condition.holds, Cell.equals, cell]

theorem holds_anyKind {k : UInt16} (cell : record .kind = some (.number k.toNat))
    (kinds : List UInt16) :
    (anyKind kinds).all (·.holds fns record) = true ↔ kinds = [] ∨ k ∈ kinds := by
  unfold anyKind
  split
  next none => simp [none]
  next some =>
    simp [some, Predicate.holds, Condition.holds, Cell.equals, cell, UInt16.toNat_inj]

theorem holds_atLeast {c : UInt32} (cell : record .createdAt = some (.number c.toNat))
    (since : Option UInt32) :
    (bound .atLeast since).all (·.holds fns record) = true ↔ ∀ t, since = some t → t ≤ c := by
  cases since with
  | none => simp [bound]
  | some t => simp [bound, Predicate.holds, Condition.holds, cell, UInt32.le_iff_toNat_le]

theorem holds_atMost {c : UInt32} (cell : record .createdAt = some (.number c.toNat))
    (upTo : Option UInt32) :
    (bound .atMost upTo).all (·.holds fns record) = true ↔ ∀ t, upTo = some t → c ≤ t := by
  cases upTo with
  | none => simp [bound]
  | some t => simp [bound, Predicate.holds, Condition.holds, cell, UInt32.le_iff_toNat_le]

theorem holds_oneOf {column : Column} {s : String} (cell : record column = some (.text s))
    (values : List String) :
    (Predicate.mk column (.oneOf (values.map .text))).holds fns record = true ↔ s ∈ values := by
  simp [Predicate.holds, Condition.holds, Cell.equals, cell]

theorem holds_hasAny {column : Column} {xs : List String} (cell : record column = some (.texts xs))
    (values : List String) :
    (Predicate.mk column (.hasAny (.texts values))).holds fns record = true ↔
      ∃ x ∈ xs, x ∈ values := by
  simp [Predicate.holds, Condition.holds, cell]

theorem holds_otherTag {l : List Tag} (cell : record .tags = some (.tagLists l))
    (entry : String × List String) :
    (otherTag entry).holds fns record = true ↔
      ∃ tag ∈ l, tag.getD 0 "" = entry.1 ∧ tag.getD 1 "" ∈ entry.2 := by
  simp [otherTag, Predicate.holds, Condition.holds, cell]

end Plan

/-- A text has each word of a search term; of a term without words it has all but the blanks. -/
def Searched (fns : TextFunctions) (term content : String) : Prop :=
  (∀ word ∈ Text.words term, fns.hasToken content word = true) ∧
    (Text.words term = [] → Text.isBlankText term = false →
      0 < fns.position content (Text.trim term))

theorem Plan.holds_search {s : String} (cell : record .content = some (.text s)) (term : String) :
    (search term).all (·.holds fns record) = true ↔ Searched fns term s := by
  unfold search Searched
  split
  next none =>
    have none := Text.distinct_eq_nil.mp none
    by_cases blank : Text.isBlankText term
    · simp [none, blank]
    · simp [none, blank, Predicate.holds, Condition.holds, cell]
  next words some =>
    have some : Text.words term ≠ [] := fun h => some (Text.distinct_eq_nil.mpr h)
    simp [some, Predicate.holds, Condition.holds, cell]

namespace Plan

theorem holds_knownTags (table : Table) (tags : TagConstraints) :
    (tags.knownNames.map fun n => tagPredicate table n (tags.get n)).all (·.holds fns record) =
        true ↔
      ∀ n, tags.get n ≠ [] → (tagPredicate table n (tags.get n)).holds fns record = true := by
  simp only [List.all_eq_true, List.forall_mem_map, TagConstraints.mem_knownNames]

theorem holds_otherTags {l : List Tag} (cell : record .tags = some (.tagLists l))
    (entries : List (String × List String)) :
    (entries.map otherTag).all (·.holds fns record) = true ↔
      ∀ entry ∈ entries, ∃ tag ∈ l, tag.getD 0 "" = entry.1 ∧ tag.getD 1 "" ∈ entry.2 := by
  simp only [List.all_eq_true, List.forall_mem_map, holds_otherTag cell]

theorem holds_searches {s : String} (cell : record .content = some (.text s))
    (asked : Option String) :
    ((asked.map search).getD []).all (·.holds fns record) = true ↔
      ∀ term, asked = some term → Searched fns term s := by
  cases asked with
  | none => simp
  | some term => simpa using holds_search cell term

/-- A plan accepts what each of its groups of conditions accepts. -/
theorem accepts_ofFilter (f : Filter) :
    (ofFilter f).accepts fns record = true ↔
      (Predicate.mk .deleted (.equals (.number 0))).holds fns record = true ∧
      (anyText .id f.ids).all (·.holds fns record) = true ∧
      (anyText .pubkey f.authors).all (·.holds fns record) = true ∧
      (anyKind f.kinds).all (·.holds fns record) = true ∧
      (bound .atLeast f.since).all (·.holds fns record) = true ∧
      (bound .atMost f.upTo).all (·.holds fns record) = true ∧
      (∀ n, f.tags.get n ≠ [] →
        (tagPredicate (route f) n (f.tags.get n)).holds fns record = true) ∧
      (f.tags.other.map otherTag).all (·.holds fns record) = true ∧
      ((f.search.map search).getD []).all (·.holds fns record) = true := by
  simp only [accepts, ofFilter, predicatesFor, List.all_append, List.all_cons, List.all_nil,
    Bool.and_true, Bool.and_eq_true, holds_knownTags, and_assoc]

end Plan
end RelayStore

import RelayStore.Assembly
import RelayStore.Proofs.Event.RoundTrip
import RelayStore.Proofs.Json.Lists

/-!
Events come back from the rows they were saved in. Main statement: rows give back their events, and
a row whose tags were spoiled costs this row its tags and the others nothing.
-/
namespace RelayStore
open Json

/-- The texts of lists of lists of strings. -/
def Tag.ListText : Grammar (List Tag) := Padded (ArrayText (ArrayText StringText))

theorem Tag.decode_iff {text : String} {tags : List Tag} :
    (Source.ofString text).decode (Node.toList? Node.toStrings?) = .ok tags ↔
      Tag.ListText tags text.toList :=
  reads_string.array.array.decode_iff

/-- A row's tags are what its text stands for, and only an empty text stands for none by itself. -/
theorem QueryRow.tags?_eq_some_iff {r : QueryRow} {tags : List Tag} :
    r.tags? = some tags ↔
      if r.tagsJson = "" then tags = [] else Tag.ListText tags r.tagsJson.toList := by
  unfold QueryRow.tags?
  split_ifs
  · rw [Option.some.injEq, eq_comm]
  · rw [toOption_eq_some, Tag.decode_iff]

theorem QueryRow.tags?_eq_none {r : QueryRow} (present : r.tagsJson ≠ "")
    (other : ∀ tags, ¬ Tag.ListText tags r.tagsJson.toList) : r.tags? = none := by
  rw [Option.eq_none_iff_forall_ne_some]
  intro tags read
  rw [QueryRow.tags?_eq_some_iff, if_neg present] at read
  exact other tags read

/-- The answer that a stored row gives, its tags written as JSON. -/
def QueryRow.ofRow (r : EventRow) : QueryRow :=
  ⟨r.id, r.pubkey, r.createdAt, r.kind, r.content, r.sig, (Tag.list r.tags).text⟩

/-- An event as it was stored, and the text that its tags were replaced by, if they were. -/
structure Archived where
  event : Event
  receivedAt : UInt32
  version : Nat
  spoiled : Option String := none
  deriving DecidableEq, Repr

namespace Archived

/-- The row before anything happened to it. -/
def saved (a : Archived) : QueryRow := .ofRow (.ofEvent a.event a.receivedAt a.version)

def row (a : Archived) : QueryRow :=
  match a.spoiled with
  | none => a.saved
  | some text => { a.saved with tagsJson := text }

/-- What is left of the event. -/
def remains (a : Archived) : Event :=
  if a.spoiled.isSome then { a.event with tags := [] } else a.event

/-- A spoiled row has a text, but not of a list of lists of strings. -/
def Unreadable (a : Archived) : Prop :=
  ∀ text ∈ a.spoiled, text ≠ "" ∧ ∀ tags, ¬ Tag.ListText tags text.toList

theorem tags?_saved (a : Archived) : a.saved.tags? = some a.event.tags := by
  have read : Tag.ListText a.event.tags (Tag.list a.event.tags).text.toList := by
    rw [← Tag.decode_iff, Source.ofString_text (Tag.exact_list _), Source.decode,
      Tag.toList?_node_list]
    rfl
  have present : (Tag.list a.event.tags).text ≠ "" := by
    obtain ⟨c, cs, print, -⟩ := Value.print_eq_cons (Tag.exact_list a.event.tags)
    rw [Value.text, print]
    exact fun empty => by simpa using congrArg String.toList empty
  rw [QueryRow.tags?_eq_some_iff]
  exact (if_neg present).mpr read

@[simp] theorem event_saved (a : Archived) : a.saved.event = a.event := by
  rw [QueryRow.event, tags?_saved]
  rfl

theorem tags?_row {a : Archived} (unreadable : a.Unreadable) :
    a.row.tags? = if a.spoiled.isSome then none else some a.event.tags := by
  unfold row
  split
  next intact => simp [intact, tags?_saved]
  next text spoiled =>
    obtain ⟨present, other⟩ := unreadable text spoiled
    rw [spoiled]
    exact QueryRow.tags?_eq_none present other

/-- Only the tags of a row are taken from its text. -/
theorem event_row {a : Archived} (unreadable : a.Unreadable) : a.row.event = a.remains := by
  have others : a.row.event = { a.event with tags := a.row.tags?.getD [] } := by
    unfold row
    split <;> rfl
  rw [others, tags?_row unreadable, remains]
  split_ifs <;> rfl

end Archived

/-- A row that lost its tags is counted, and no other. -/
theorem Assembly.ofRows_archived (archive : List Archived)
    (unreadable : ∀ a ∈ archive, a.Unreadable) :
    Assembly.ofRows (archive.map Archived.saved) = ⟨archive.map Archived.event, 0⟩ ∧
    Assembly.ofRows (archive.map Archived.row) =
      ⟨archive.map Archived.remains, archive.countP fun a => a.spoiled.isSome⟩ := by
  constructor
  · have intact (a : Archived) : a.saved.tags?.isNone = false := by rw [a.tags?_saved]; rfl
    simp [Assembly.ofRows, Function.comp_def, List.countP_map, intact]
  · have events : ∀ a ∈ archive, a.row.event = a.remains :=
      fun a mem => Archived.event_row (unreadable a mem)
    have counted : ∀ a ∈ archive, a.row.tags?.isNone = a.spoiled.isSome := by
      intro a mem
      rw [Archived.tags?_row (unreadable a mem)]
      split_ifs with spoiled <;> simp [spoiled]
    rw [Assembly.ofRows, List.map_map, List.countP_map, Assembly.mk.injEq]
    refine ⟨List.map_congr_left events, List.countP_congr fun a mem => ?_⟩
    rw [Function.comp_apply, counted a mem]

theorem Tag.not_listText {text : String}
    (refused :
      ((Source.ofString text).decode (Node.toList? Node.toStrings?)).toOption = none)
    (tags : List Tag) : ¬ Tag.ListText tags text.toList := by
  intro read
  rw [toOption_eq_some.2 (Tag.decode_iff.2 read)] at refused
  cases refused

/-- One row as it was saved, and rows with a text that breaks off, with an object, with a number in
a tag and with half of a character. -/
def spoiledArchive : List Archived := [
  { event := { id := "a", tags := [["t", "ok"], [], ["", "\"\\\n\x01é"]] }
    receivedAt := 7
    version := 9 },
  { event := { id := "b", tags := [["e", "abc"]] }
    receivedAt := 7
    version := 9
    spoiled := some "[[\"e\",\"ab" },
  { event := { id := "c", kind := 3 }
    receivedAt := 8
    version := 9
    spoiled := some "\x7b\"e\":\"abc\"\x7d" },
  { event := { id := "d", content := "d" }
    receivedAt := 8
    version := 9
    spoiled := some "[[1,2]]" },
  { event := { id := "e", tags := [["t"]] }
    receivedAt := 8
    version := 9
    spoiled := some "[[\"\\ud800\"]]" }]

theorem Assembly.ofRows_spoiledArchive :
    (∀ a ∈ spoiledArchive, a.Unreadable) ∧
    Assembly.ofRows (spoiledArchive.map Archived.row) =
      ⟨[{ id := "a", tags := [["t", "ok"], [], ["", "\"\\\n\x01é"]] }, { id := "b" },
        { id := "c", kind := 3 }, { id := "d", content := "d" }, { id := "e" }], 4⟩ := by
  have unreadable : ∀ a ∈ spoiledArchive, a.Unreadable := by
    simp only [spoiledArchive, List.forall_mem_cons, Archived.Unreadable, Option.mem_def,
      Option.some.injEq, forall_eq', List.not_mem_nil, false_implies, implies_true, reduceCtorEq,
      and_true, true_and]
    refine ⟨⟨by decide, Tag.not_listText ?_⟩, ⟨by decide, Tag.not_listText ?_⟩,
      ⟨by decide, Tag.not_listText ?_⟩, ⟨by decide, Tag.not_listText ?_⟩⟩
    all_goals decide +kernel
  exact ⟨unreadable, (Assembly.ofRows_archived spoiledArchive unreadable).2⟩

end RelayStore

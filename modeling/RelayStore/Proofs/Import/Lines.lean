import RelayStore.Import.Files
import RelayStore.Proofs.Text.Utf8

/-!
The lines of a file. Main statements: the bytes are cut at the ends of lines and nowhere else, and
lines that are written to a file are the lines that are read from it.
-/
namespace RelayStore.Import

/-- What a line may end with. -/
inductive LineEnd where
  | newline
  | returnAndNewline
  deriving DecidableEq, Repr

def LineEnd.text : LineEnd → String
  | .newline => "\n"
  | .returnAndNewline => "\r\n"

/-- The bytes of lines, each with an end of its own. -/
def written (lines : List (String × LineEnd)) : List UInt8 :=
  lines.flatMap fun l => (l.1 ++ l.2.text).toUTF8.toList

/-- A text without control characters, so also without the end of a line. -/
def Printable (s : String) : Prop := ∀ c ∈ s.toList, 32 ≤ c.toNat

namespace Line

theorem split_append {line : List UInt8} (whole : 10 ∉ line) (broken : Option String)
    (reversed rest : List UInt8) :
    split broken reversed (line ++ 10 :: rest) =
      ended (line.reverse ++ reversed) :: split broken [] rest := by
  induction line generalizing reversed with
  | nil => simp [split]
  | cons b line ih =>
    obtain ⟨other, whole⟩ := List.ne_and_not_mem_of_not_mem_cons whole
    simp [split, Ne.symm other, ih whole]

theorem ofBytes_toUTF8 (s : String) : ofBytes s.toUTF8.toList = .text s := by
  rw [ofBytes, Text.fromUTF8?_toUTF8]

theorem not_mem_toUTF8 {s : String} (printable : Printable s) {b : UInt8} (control : b.toNat < 32) :
    b ∉ s.toUTF8.toList := by
  intro mem
  have := Text.printable_toUTF8 printable b mem
  omega

theorem ended_return (s : String) : ended (13 :: s.toUTF8.toList.reverse) = .text s := by
  rw [ended, List.reverse_reverse, ofBytes_toUTF8]

theorem ended_newline {s : String} (printable : Printable s) :
    ended s.toUTF8.toList.reverse = .text s := by
  have kept : 13 ∉ s.toUTF8.toList.reverse := by
    rw [List.mem_reverse]
    exact not_mem_toUTF8 printable (by decide)
  unfold ended
  split
  next h => exact absurd (h ▸ List.mem_cons_self) kept
  · rw [List.reverse_reverse, ofBytes_toUTF8]

/-- A line is read without its end, whichever it has. -/
theorem split_line {s : String} (printable : Printable s) (lineEnd : LineEnd)
    (broken : Option String) (rest : List UInt8) :
    split broken [] ((s ++ lineEnd.text).toUTF8.toList ++ rest) =
      .text s :: split broken [] rest := by
  have whole : 10 ∉ s.toUTF8.toList := not_mem_toUTF8 printable (by decide)
  rw [Text.toList_toUTF8_append, List.append_assoc]
  cases lineEnd with
  | newline =>
    have bytes : LineEnd.newline.text.toUTF8.toList = [10] := by rw [Text.toList_toUTF8]; decide
    rw [bytes, List.singleton_append, split_append whole, List.append_nil, ended_newline printable]
  | returnAndNewline =>
    have bytes : LineEnd.returnAndNewline.text.toUTF8.toList = [13, 10] := by
      rw [Text.toList_toUTF8]; decide
    -- The return stands on the line until its end is dropped.
    have unbroken : 10 ∉ s.toUTF8.toList ++ [13] := by simpa using whole
    rw [bytes, List.cons_append, List.singleton_append, List.append_cons,
      split_append unbroken, List.append_nil, List.reverse_append, List.reverse_singleton,
      List.singleton_append, ended_return]

theorem split_written {lines : List (String × LineEnd)} (printable : ∀ l ∈ lines, Printable l.1) :
    split none [] (written lines) = lines.map fun l => .text l.1 := by
  induction lines with
  | nil => rfl
  | cons l lines ih =>
    obtain ⟨first, others⟩ := List.forall_mem_cons.1 printable
    rw [written, List.flatMap_cons, split_line first, List.map_cons]
    exact congrArg _ (ih others)

end Line

theorem File.lines_of_written {f : File} {lines : List (String × LineEnd)}
    (contents : f.contents = ⟨written lines, none⟩) (printable : ∀ l ∈ lines, Printable l.1) :
    f.lines = lines.map fun l => .text l.1 := by
  rw [File.lines, fault?, contents]
  exact Line.split_written printable

/-! What lines are. -/

/-- A line is the text that its bytes spell, if there is one. -/
inductive Spells : List UInt8 → Line → Prop where
  | text (s : String) : Spells s.toUTF8.toList (.text s)
  | noText {bytes : List UInt8} (none : ∀ s : String, s.toUTF8.toList ≠ bytes) :
      Spells bytes (.unreadable "stream did not contain valid UTF-8")

/-- A line without the carriage return before its end. -/
def dropReturn (line : List UInt8) : List UInt8 :=
  if line.getLast? = some 13 then line.dropLast else line

/-- The lines of bytes up to their end, or to a fault behind them. A newline ends a line, and what
follows the last newline is a line too. A fault stands in the place of the line in which it is. -/
inductive Reads (fault : Option String) : List UInt8 → List Line → Prop where
  | line {bytes rest : List UInt8} {l : Line} {ls : List Line} (whole : 10 ∉ bytes)
      (spells : Spells (dropReturn bytes) l) (others : Reads fault rest ls) :
      Reads fault (bytes ++ 10 :: rest) (l :: ls)
  | last {bytes : List UInt8} {l : Line} (sound : fault = none) (whole : 10 ∉ bytes)
      (filled : bytes ≠ []) (spells : Spells bytes l) : Reads fault bytes [l]
  | nothing (sound : fault = none) : Reads fault [] []
  | broken {bytes : List UInt8} {reason : String} (faulty : fault = some reason)
      (whole : 10 ∉ bytes) : Reads fault bytes [.unreadable reason]

namespace Line

theorem spells_iff {bytes : List UInt8} {l : Line} : Spells bytes l ↔ l = ofBytes bytes := by
  constructor
  · rintro (s | none)
    · exact (ofBytes_toUTF8 s).symm
    · unfold ofBytes
      split
      next s read => exact absurd (Text.toUTF8_of_fromUTF8? read) (none s)
      next => rfl
  · rintro rfl
    unfold ofBytes
    split
    next s read =>
      rw [← Text.toUTF8_of_fromUTF8? read]
      exact .text s
    next unread =>
      refine .noText fun s same => ?_
      rw [← same, Text.fromUTF8?_toUTF8] at unread
      cases unread

theorem ended_reverse (bytes : List UInt8) : ended bytes.reverse = ofBytes (dropReturn bytes) := by
  rcases List.eq_nil_or_concat bytes with rfl | ⟨front, last, rfl⟩
  · rfl
  · by_cases carriage : last = 13
    · simp [ended, dropReturn, carriage]
    · have other : ∀ rest, last :: front.reverse ≠ 13 :: rest := fun rest same =>
        carriage (List.cons.inj same).1
      simp [ended, dropReturn, carriage]

/-- Behind the last newline there is one more line, unless nothing is there and nothing is wrong. -/
theorem split_whole {bytes : List UInt8} (whole : 10 ∉ bytes) (fault : Option String)
    (reversed : List UInt8) :
    split fault reversed bytes = split fault (bytes.reverse ++ reversed) [] := by
  induction bytes generalizing reversed with
  | nil => rfl
  | cons b bytes ih =>
    obtain ⟨other, whole⟩ := List.ne_and_not_mem_of_not_mem_cons whole
    rw [split, if_neg (Ne.symm other), ih whole]
    simp

theorem unreadable_mem_split (reason : String) (reversed bytes : List UInt8) :
    .unreadable reason ∈ split (some reason) reversed bytes := by
  induction bytes generalizing reversed with
  | nil => exact List.mem_cons_self
  | cons b bytes ih =>
    rw [split]
    split_ifs
    · exact List.mem_cons_of_mem _ (ih _)
    · exact ih _

theorem reads_split (fault : Option String) (bytes : List UInt8) :
    Reads fault bytes (split fault [] bytes) := by
  -- The bytes up to the first newline are a line, and there are fewer behind it.
  induction size : bytes.length using Nat.strongRecOn generalizing bytes with
  | ind n ih =>
    by_cases newline : 10 ∈ bytes
    · obtain ⟨line, rest, rfl, whole⟩ := List.eq_append_cons_of_mem newline
      rw [split_append whole, List.append_nil, ended_reverse]
      have fewer : rest.length < n := by
        rw [← size, List.length_append, List.length_cons]
        omega
      exact .line whole (spells_iff.2 rfl) (ih _ fewer rest rfl)
    · rw [split_whole newline, List.append_nil]
      cases fault with
      | some reason => exact .broken rfl newline
      | none =>
        rw [split]
        by_cases empty : bytes = []
        · subst empty
          exact .nothing rfl
        · simp only [List.reverse_eq_nil_iff, empty, if_false, List.reverse_reverse]
          exact .last rfl newline empty (spells_iff.2 rfl)

theorem reads_iff {fault : Option String} {bytes : List UInt8} {ls : List Line} :
    Reads fault bytes ls ↔ ls = split fault [] bytes := by
  constructor
  · intro reads
    induction reads with
    | line whole spells _ ih =>
      rw [split_append whole, List.append_nil, ended_reverse, spells_iff.1 spells, ih]
    | last sound whole filled spells =>
      rw [split_whole whole, List.append_nil, sound, split, spells_iff.1 spells]
      simp [filled]
    | nothing sound => rw [sound]; rfl
    | broken faulty whole => rw [split_whole whole, faulty, split]
  · rintro rfl
    exact reads_split fault bytes

end Line

/-- What is met of a file: its lines if it can be opened. -/
inductive File.Holds (f : File) : List Line → Prop where
  | lines {ls : List Line} (opens : f.barred = none)
      (reads : Reads f.fault? f.contents.bytes ls) : Holds f ls
  | barred {reason : String} (barred : f.barred = some reason) : Holds f [.unreadable reason]

end RelayStore.Import

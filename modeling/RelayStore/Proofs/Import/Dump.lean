import RelayStore.CommandLine.Run
import RelayStore.Proofs.Event.RoundTrip
import RelayStore.Proofs.Import.Lines

/-! Events that are written as lines of text come back from an import that trusts them. -/
namespace RelayStore
open Json

namespace Event

theorem printable_text (e : Event) : Import.Printable e.text := by
  intro c mem
  rw [text, Value.text, String.toList_ofList] at mem
  exact Value.printable e.value e.exact_value c mem

theorem checkHex_replicate {c : Char} (hex : isHexDigit c = true) (small : c.utf8Size = 1)
    (field : String) (n : Nat) :
    checkHex field (String.ofList (List.replicate n c)) n = .ok () := by
  have size : (String.ofList (List.replicate n c)).utf8ByteSize = n := by
    rw [String.utf8ByteSize_ofList, Text.utf8Len_eq_length, List.length_replicate]
    intro d mem
    rw [List.eq_of_mem_replicate mem, small]
  simp [checkHex, size, hex]

theorem isBlankText_text (e : Event) : Text.isBlankText e.text = false := by
  have first : e.text.toList.head? = some '\x7b' := by
    rw [text, Value.text, String.toList_ofList]
    rfl
  obtain ⟨rest, text⟩ := List.head?_eq_some_iff.1 first
  rw [Text.isBlankText, text, List.all_cons]
  rfl

end Event

namespace Import

/-- The events that are no older than an event may be. -/
def current (events : List Event) : List Event := events.filter fun e => genesis ≤ e.createdAt

def outdated (events : List Event) : List Event := events.filter fun e => e.createdAt < genesis

/-- What is counted of events that can all be read. -/
def Statistics.countEvents (s : Statistics) (events : List Event) : Statistics :=
  { s with
    total := s.total + events.length
    valid := s.valid + (current events).length
    invalid := s.invalid + (outdated events).length
    tooOld := s.tooOld + (outdated events).length }

theorem Statistics.countEvents_outdated {e : Event} (old : e.createdAt < genesis) (s : Statistics)
    (events : List Event) :
    (s.count .tooOld).countEvents events = s.countEvents (e :: events) := by
  simp [count, countEvents, current, outdated, old, UInt32.not_le.2 old, Nat.add_assoc,
    Nat.add_comm 1]

theorem Statistics.countEvents_current {e : Event} (young : genesis ≤ e.createdAt) (s : Statistics)
    (events : List Event) :
    (s.count (.good e)).countEvents events = s.countEvents (e :: events) := by
  simp [count, countEvents, current, outdated, young, UInt32.not_lt.2 young, Nat.add_assoc,
    Nat.add_comm 1]

theorem verdict_text {e : Event} (sound : e.check = .ok ()) :
    (Line.text e.text).verdict false = if e.createdAt < genesis then .tooOld else .good e := by
  simp [Line.verdict, e.isBlankText_text, readEvent, Event.ofJson_text sound]

section Run

variable {σ : Type} {o : Options} {handle : Handler σ} {e : Event}

theorem Run.line_outdated (trusting : o.verify = false) (sound : e.check = .ok ())
    (old : e.createdAt < genesis) (r : Run σ) :
    r.line o handle (.text e.text) =
      (.finished, { r with statistics := r.statistics.count .tooOld }) := by
  simp [Run.line, trusting, verdict_text sound, old, Options.ends]

theorem Run.line_current (trusting : o.verify = false)
    (willing : ∀ e s, (handle e s).1 = .ok true) (sound : e.check = .ok ())
    (young : genesis ≤ e.createdAt) (r : Run σ) :
    r.line o handle (.text e.text) =
      (.finished, ⟨(handle e r.state).2, r.statistics.count (.good e)⟩) := by
  simp [Run.line, trusting, verdict_text sound, UInt32.not_lt.2 young, willing, Options.after]

/-- Every line is read, and each event that is not too old goes to the handler in its turn. -/
theorem Run.lines_texts (trusting : o.verify = false)
    (willing : ∀ e s, (handle e s).1 = .ok true) {events : List Event}
    (sound : ∀ e ∈ events, e.check = .ok ()) (r : Run σ) :
    r.lines o handle (events.map fun e => .text e.text) =
      (.finished, ⟨(current events).foldl (fun s e => (handle e s).2) r.state,
        r.statistics.countEvents events⟩) := by
  induction events generalizing r with
  | nil => rfl
  | cons e events ih =>
    obtain ⟨first, others⟩ := List.forall_mem_cons.1 sound
    rw [List.map_cons, Run.lines]
    by_cases old : e.createdAt < genesis
    · rw [line_outdated trusting first old]
      simp [ih others, Statistics.countEvents_outdated old, current, UInt32.not_le.2 old]
    · have young := UInt32.not_lt.1 old
      rw [line_current trusting willing first young]
      simp [ih others, Statistics.countEvents_current young, current, young]

/-- The lines that a query prints of events, read from a file with ends of any kind. -/
theorem File.lines_of_dump {f : File} {events : List Event} {ends : List LineEnd}
    (paired : events.length = ends.length)
    (contents : f.contents = ⟨written ((CommandLine.eventLines events).zip ends), none⟩) :
    f.lines = events.map fun e => .text e.text := by
  have printable : ∀ l ∈ (CommandLine.eventLines events).zip ends, Printable l.1 := by
    rintro ⟨s, lineEnd⟩ mem
    obtain ⟨e, -, rfl⟩ := List.mem_map.1 (List.of_mem_zip mem).1
    exact e.printable_text
  have texts : ((CommandLine.eventLines events).zip ends).map Prod.fst =
      CommandLine.eventLines events :=
    List.map_fst_zip (by simp [CommandLine.eventLines, paired])
  rw [lines_of_written contents printable]
  calc ((CommandLine.eventLines events).zip ends).map (fun l => Line.text l.1)
      = (((CommandLine.eventLines events).zip ends).map Prod.fst).map Line.text := by
        rw [List.map_map]; rfl
    _ = (CommandLine.eventLines events).map Line.text := by rw [texts]
    _ = events.map fun e => .text e.text := List.map_map

/-- A file that can be read to its end is read as its lines are. -/
theorem Run.file_sound {f : File} (opens : f.barred = none) (sound : f.contents.stop = none)
    {r r' : Run σ} (lines : r.lines o handle f.lines = (.finished, r')) :
    r.file o handle f = (.finished, r'.countFile) := by
  have ends : f.isEndless = false := by rw [File.isEndless, sound]; rfl
  simp [Run.file, opens, lines, ends]

/-- Events that are dumped line by line and imported again arrive as they were and in their order,
all but those that are too old. -/
theorem run_dump {tree : FileTree} {input : String} {f : File} {events : List Event}
    {ends : List LineEnd} (sound : ∀ e ∈ events, e.check = .ok ())
    (paired : events.length = ends.length) (selected : File.select tree input = .ok [f])
    (opens : f.barred = none)
    (contents : f.contents = ⟨written ((CommandLine.eventLines events).zip ends), none⟩)
    (trusting : o.verify = false) (unlimited : o.limit ≠ some 0)
    (willing : ∀ e s, (handle e s).1 = .ok true) (state : σ) :
    run o tree input handle state =
      (some (.ok {
        files := 1
        total := events.length
        valid := (current events).length
        invalid := (outdated events).length
        tooOld := (outdated events).length }),
      (current events).foldl (fun s e => (handle e s).2) state) := by
  have imported : Run.files o handle [f] ⟨state, {}⟩ =
      (.finished, Run.countFile ⟨(current events).foldl (fun s e => (handle e s).2) state,
        Statistics.countEvents {} events⟩) := by
    have lines := Run.lines_texts trusting willing sound ⟨state, {}⟩
    rw [← File.lines_of_dump paired contents] at lines
    rw [Run.files, Run.file_sound opens (by rw [contents]) lines]
    rfl
  have single : ∀ n, o.limit = some n → [f].take n = [f] := by
    rintro (_ | n) limit
    · exact absurd limit unlimited
    · simp
  unfold run
  rw [selected]
  cases limit : o.limit with
  | none => simp [imported, Run.countFile, Statistics.countEvents]
  | some n => simp [single n limit, imported, Run.countFile, Statistics.countEvents]

end Run

/-- A young event with all that could break a line, and an old one. -/
def dumpSample : List Event :=
  let key := String.ofList (List.replicate 64 'a')
  let sig := String.ofList (List.replicate 128 'b')
  [{ id := key, pubkey := key, createdAt := 1700000000, kind := 1, tags := [["t", "\r\n"], []]
     content := "\x00\"\\ é\r\n\n", sig := sig },
   { id := key, pubkey := key, createdAt := 1, content := "old", sig := sig }]

def dumpSampleFile : File where
  name := "dump.jsonl"
  bytes := written ((CommandLine.eventLines dumpSample).zip [.returnAndNewline, .newline])

def dumpSampleTree : FileTree where
  root := "/data"
  files := [(["dump.jsonl"], dumpSampleFile.bytes)]

theorem check_dumpSample : ∀ e ∈ dumpSample, e.check = .ok () := by
  have key (field : String) := Event.checkHex_replicate (c := 'a') (by decide) rfl field 64
  have sig := Event.checkHex_replicate (c := 'b') (by decide) rfl "sig" 128
  simp only [dumpSample, Event.check, List.forall_mem_cons, List.not_mem_nil, key, sig, ok_bind,
    false_implies, implies_true, and_true]

theorem run_dumpSample :
    run ⟨false, true, none⟩ dumpSampleTree "dump.jsonl" CommandLine.collect [] =
      (some (.ok { files := 1, total := 2, valid := 1, invalid := 1, tooOld := 1 }),
        dumpSample.take 1) := by
  have selected : File.select dumpSampleTree "dump.jsonl" = .ok [dumpSampleFile] := rfl
  have contents : dumpSampleFile.contents = ⟨dumpSampleFile.bytes, none⟩ := rfl
  exact run_dump check_dumpSample rfl selected rfl contents rfl (by decide) (fun _ _ => rfl) []

end Import
end RelayStore

import RelayStore.Proofs.Import.HandingOver

/-!
What an import counts. Main statement: the counters of a run that gives statistics agree with the
lines it looked at, the calls of its handler and the files it opened.
-/
namespace RelayStore.Import

/-! Counters and lines. -/

/-- A line that can be read and is not blank. -/
def Line.isFilled : Line → Bool
  | .text s => !Text.isBlankText s
  | .unreadable _ => false

def Line.isUnreadable : Line → Bool
  | .text _ => false
  | .unreadable _ => true

theorem Line.isFilled_eq (verify : Bool) (l : Line) :
    l.isFilled = match l.verdict verify with
      | .unreadable _ | .blank => false
      | .rejected _ | .tooOld | .good _ => true := by
  cases l with
  | unreadable reason => rfl
  | text s =>
    simp only [isFilled, verdict]
    split_ifs with blank
    · simp [blank]
    · cases readEvent verify s with
      | error e => simp [blank]
      | ok e => by_cases old : e.createdAt < genesis <;> simp [blank, old]

theorem Line.isUnreadable_eq (verify : Bool) (l : Line) :
    l.isUnreadable = match l.verdict verify with
      | .unreadable _ => true
      | .blank | .rejected _ | .tooOld | .good _ => false := by
  cases l with
  | unreadable reason => rfl
  | text s =>
    simp only [isUnreadable, verdict]
    split_ifs with blank
    · rfl
    · cases readEvent verify s with
      | error e => rfl
      | ok e => by_cases old : e.createdAt < genesis <;> simp [old]

theorem good_append (verify : Bool) (ls ls' : List Line) :
    good verify (ls ++ ls') = good verify ls ++ good verify ls' := List.filterMap_append

namespace Statistics

variable {verify : Bool} {s : Statistics} {seen : List Line}

/-- The counters agree with each other and with the lines that were looked at. -/
structure Balanced (verify : Bool) (s : Statistics) (seen : List Line) : Prop where
  parts : s.total = s.valid + s.jsonErrors + s.validationErrors + s.tooOld
  filled : s.total = seen.countP Line.isFilled
  invalid :
    s.invalid = s.jsonErrors + s.validationErrors + s.tooOld + seen.countP Line.isUnreadable
  valid : s.valid = (good verify seen).length

/-- Whatever a line is worth, it moves both balances alike. -/
theorem Balanced.count (balanced : Balanced verify s seen) (l : Line) :
    Balanced verify (s.count (l.verdict verify)) (seen ++ [l]) := by
  obtain ⟨parts, filled, invalid, valid⟩ := balanced
  have filled_l := l.isFilled_eq verify
  have unreadable_l := l.isUnreadable_eq verify
  have event_l := l.event?_eq verify
  have goods : (good verify (seen ++ [l])).length =
      (good verify seen).length + (l.event? verify).toList.length := by
    rw [good_append, List.length_append]
    cases event : l.event? verify <;> simp [good, event]
  cases v : l.verdict verify with
  | unreadable reason | blank | tooOld | good e =>
    rw [v] at filled_l unreadable_l event_l
    constructor <;> simp [Statistics.count, List.countP_append, *] <;> omega
  | rejected e =>
    rw [v] at filled_l unreadable_l event_l
    cases e <;> constructor <;> simp [Statistics.count, List.countP_append, *] <;> omega

/-- Counts files that were opened and lines that were looked at. -/
def tally (verify : Bool) (s : Statistics) (opened : Nat) (seen : List Line) : Statistics :=
  { seen.foldl (fun s l => s.count (l.verdict verify)) s with files := s.files + opened }

theorem files_count (s : Statistics) (v : Verdict) : (s.count v).files = s.files := by
  cases v with
  | rejected e => cases e <;> rfl
  | unreadable reason | blank | tooOld | good e => rfl

theorem count_files (s : Statistics) (v : Verdict) (n : Nat) :
    ({ s with files := n } : Statistics).count v = { s.count v with files := n } := by
  cases v with
  | rejected e => cases e <;> rfl
  | unreadable reason | blank | tooOld | good e => rfl

theorem tally_nil (s : Statistics) : s.tally verify 0 [] = s := rfl

theorem tally_cons (s : Statistics) (n : Nat) (l : Line) (ls : List Line) :
    s.tally verify n (l :: ls) = (s.count (l.verdict verify)).tally verify n ls := by
  rw [tally, tally, files_count]
  rfl

theorem tally_files (s : Statistics) (n m : Nat) (ls : List Line) :
    ({ s with files := s.files + n } : Statistics).tally verify m ls =
      s.tally verify (n + m) ls := by
  induction ls generalizing s with
  | nil => simp only [tally, List.foldl_nil, Nat.add_assoc]
  | cons l ls ih => rw [tally_cons, tally_cons, count_files, ← ih, files_count]

theorem tally_tally (s : Statistics) (n m : Nat) (ls ls' : List Line) :
    (s.tally verify n ls).tally verify m ls' = s.tally verify (n + m) (ls ++ ls') := by
  induction ls generalizing s with
  | nil => exact tally_files s n m ls'
  | cons l ls ih => rw [tally_cons, ih, List.cons_append, tally_cons]

theorem Balanced.tally (balanced : Balanced verify s seen) (n : Nat) (ls : List Line) :
    Balanced verify (s.tally verify n ls) (seen ++ ls) := by
  induction ls generalizing s seen with
  | nil =>
    rw [List.append_nil]
    exact ⟨balanced.parts, balanced.filled, balanced.invalid, balanced.valid⟩
  | cons l ls ih =>
    rw [tally_cons, List.append_cons]
    exact ih (balanced.count l)

end Statistics

/-! What a part of a run looks at. -/

section Parts

variable {σ : Type} {o : Options} {handle : Handler σ}

/-- Between two moments of a run whose calls are written down, some files were opened, some lines
were looked at, and the handler was called for the events on them. -/
structure Part (o : Options) (r r' : Run (List Call × σ)) (opened : Nat) (seen : List Line)
    (calls : List Call) : Prop where
  recorded : r'.state.1 = r.state.1 ++ calls
  counted : r'.statistics = r.statistics.tally o.verify opened seen
  events : calls.map Prod.fst = good o.verify seen

theorem Part.refl (r : Run (List Call × σ)) : Part o r r 0 [] [] where
  recorded := (List.append_nil _).symm
  counted := rfl
  events := rfl

theorem Part.trans {r r' r'' : Run (List Call × σ)} {n n' : Nat} {seen seen' : List Line}
    {calls calls' : List Call} (first : Part o r r' n seen calls)
    (second : Part o r' r'' n' seen' calls') :
    Part o r r'' (n + n') (seen ++ seen') (calls ++ calls') where
  recorded := by rw [second.recorded, first.recorded, List.append_assoc]
  counted := by rw [second.counted, first.counted, Statistics.tally_tally]
  events := by rw [List.map_append, first.events, second.events, good_append]

theorem Part.countFile {r r' : Run (List Call × σ)} {n : Nat} {seen : List Line}
    {calls : List Call} (part : Part o r r' n seen calls) :
    Part o r r'.countFile (n + 1) seen calls where
  recorded := part.recorded
  counted := by rw [Run.countFile, part.counted]; rfl
  events := part.events

/-- The handler was ready for more after each of these calls. -/
def Endures (calls : List Call) : Prop := ∀ c ∈ calls, c.stops = false

/-- The handler ended the run at an event on one of these lines, and this line was the last that was
looked at. -/
inductive Stopped (o : Options) (lines : List Line) : List Line → List Call → Prop where
  | intro (front back : List Line) {l : Line} (earlier : List Call) {e : Event}
      (cut : lines = front ++ l :: back) (event : l.event? o.verify = some e)
      (endures : Endures earlier) : Stopped o lines (front ++ [l]) (earlier ++ [(e, .ok false)])

theorem Endures.append {calls calls' : List Call} (first : Endures calls)
    (second : Endures calls') : Endures (calls ++ calls') := fun c mem =>
  (List.mem_append.1 mem).elim (first c) (second c)

theorem Stopped.after {lines seen : List Line} {calls calls' : List Call}
    (stopped : Stopped o lines seen calls') (ls : List Line) (endures : Endures calls) :
    Stopped o (ls ++ lines) (ls ++ seen) (calls ++ calls') := by
  cases stopped with
  | @intro front back l earlier e cut event before =>
    rw [← List.append_assoc ls front [l], ← List.append_assoc calls]
    exact .intro (ls ++ front) back (calls ++ earlier) (by rw [cut, List.append_assoc]) event
      (endures.append before)

theorem Stopped.before {lines seen : List Line} {calls : List Call}
    (stopped : Stopped o lines seen calls) (ls : List Line) :
    Stopped o (lines ++ ls) seen calls := by
  obtain ⟨front, back, earlier, rfl, event, endures⟩ := stopped
  exact .intro front (back ++ ls) earlier (by rw [List.append_assoc]; rfl) event endures

theorem onward_eq_finished {α : Type} {x : Ending × α} {next : α → Ending × α} {b : α} :
    onward x next = (.finished, b) ↔ ∃ a, x = (.finished, a) ∧ next a = (.finished, b) := by
  rcases x with ⟨_ | _ | e | _, a⟩ <;> simp

theorem onward_eq_stopped {α : Type} {x : Ending × α} {next : α → Ending × α} {b : α} :
    onward x next = (.stopped, b) ↔
      x = (.stopped, b) ∨ ∃ a, x = (.finished, a) ∧ next a = (.stopped, b) := by
  rcases x with ⟨_ | _ | e | _, a⟩ <;> simp

variable {r r' : Run (List Call × σ)}

theorem Run.part_line (o : Options) (handle : Handler σ) (l : Line) (r : Run (List Call × σ)) :
    Part o r (r.line o handle.recorded l).2 0 [l]
      ((l.event? o.verify).map fun e => (e, (handle e r.state.2).1)).toList := by
  rw [Run.line_eq, Options.pass_recorded]
  refine ⟨rfl, by rw [Statistics.tally_cons, Statistics.tally_nil], ?_⟩
  cases event : l.event? o.verify <;> simp [good, event]

theorem Run.line_finished {l : Line} (finished : r.line o handle.recorded l = (.finished, r')) :
    ∃ calls, Part o r r' 0 [l] calls ∧ Endures calls := by
  have part := Run.part_line o handle l r
  rw [finished] at part
  refine ⟨_, part, ?_⟩
  rw [Run.line_eq, Options.pass_recorded, Options.pass, Prod.mk.injEq] at finished
  cases event : l.event? o.verify with
  | none => simp [Endures]
  | some e =>
    rw [event] at finished
    rcases answer : (handle e r.state.2).1 with err | _ | _ <;>
      simp_all [Options.after, Endures, Call.stops]

theorem Run.line_stopped {l : Line} (stopped : r.line o handle.recorded l = (.stopped, r')) :
    ∃ calls, Part o r r' 0 [l] calls ∧ Stopped o [l] [l] calls := by
  have part := Run.part_line o handle l r
  rw [stopped] at part
  refine ⟨_, part, ?_⟩
  rw [Run.line_eq, Options.pass_recorded, Options.pass, Prod.mk.injEq] at stopped
  cases event : l.event? o.verify with
  | none =>
    rw [event] at stopped
    cases refusal : l.refusal? o.verify <;> cases lenient : o.lenient <;>
      simp [refusal, Options.refuse, lenient] at stopped
  | some e =>
    rw [event] at stopped
    have answer : (handle e r.state.2).1 = .ok false := by
      rcases answer : (handle e r.state.2).1 with err | _ | _ <;> cases lenient : o.lenient <;>
        simp_all [Options.after]
    rw [Option.map_some, Option.toList_some, answer]
    exact .intro [] [] [] rfl event (by simp [Endures])

theorem Run.lines_finished {ls : List Line}
    (finished : r.lines o handle.recorded ls = (.finished, r')) :
    ∃ calls, Part o r r' 0 ls calls ∧ Endures calls := by
  induction ls generalizing r with
  | nil =>
    obtain rfl := (Prod.mk.inj finished).2
    exact ⟨[], .refl r, by simp [Endures]⟩
  | cons l ls ih =>
    rw [Run.lines_cons, onward_eq_finished] at finished
    obtain ⟨r₁, line, rest⟩ := finished
    obtain ⟨first, part, endures⟩ := Run.line_finished line
    obtain ⟨others, parts, endures'⟩ := ih rest
    exact ⟨first ++ others, part.trans parts, endures.append endures'⟩

theorem Run.lines_stopped {ls : List Line}
    (stopped : r.lines o handle.recorded ls = (.stopped, r')) :
    ∃ seen calls, Part o r r' 0 seen calls ∧ Stopped o ls seen calls := by
  induction ls generalizing r with
  | nil => cases stopped
  | cons l ls ih =>
    rw [Run.lines_cons, onward_eq_stopped] at stopped
    -- The run ends at the first line, or this line is passed and it ends at a later one.
    rcases stopped with here | ⟨r₁, line, rest⟩
    · obtain ⟨calls, part, stop⟩ := Run.line_stopped here
      exact ⟨[l], calls, part, stop.before ls⟩
    · obtain ⟨first, part, endures⟩ := Run.line_finished line
      obtain ⟨seen, calls, parts, stop⟩ := ih rest
      exact ⟨l :: seen, first ++ calls, part.trans parts, stop.after [l] endures⟩

/-! Files. -/

/-- The files that can be opened. -/
def openable (files : List File) : List File := files.filter fun f => f.barred.isNone

theorem openable_barred {f : File} {reason : String} (barred : f.barred = some reason)
    (files : List File) : openable (f :: files) = openable files := by
  simp [openable, barred]

theorem openable_opened {f : File} (opens : f.barred = none) (files : List File) :
    openable (f :: files) = f :: openable files := by
  simp [openable, opens]

/-- The files that were opened and the lines that were looked at: all of those that can be opened,
or those up to an event at which the handler ended the run. -/
inductive Looked (o : Options) (files : List File) : List File → List Line → List Call → Prop where
  | all {calls : List Call} (endures : Endures calls) :
      Looked o files (openable files) ((openable files).flatMap File.lines) calls
  | some (before after : List File) {f : File} {seen : List Line} (earlier : List Call)
      {calls : List Call} (cut : files = before ++ f :: after) (opens : f.barred = none)
      (endures : Endures earlier) (stopped : Stopped o f.lines seen calls) :
      Looked o files (openable before ++ [f]) ((openable before).flatMap File.lines ++ seen)
        (earlier ++ calls)

theorem Looked.after {files opened : List File} {seen : List Line} {calls calls' : List Call}
    {f : File} (opens : f.barred = none) (endures : Endures calls)
    (looked : Looked o files opened seen calls') :
    Looked o (f :: files) (f :: opened) (f.lines ++ seen) (calls ++ calls') := by
  cases looked with
  | all endures' =>
    have all : Looked o (f :: files) (openable (f :: files)) _ (calls ++ calls') :=
      .all (endures.append endures')
    rwa [openable_opened opens] at all
  | @some before after g seen earlier calls' cut opens' endures' stopped =>
    have some := Looked.some (o := o) (f :: before) after (calls ++ earlier)
      (congrArg (f :: ·) cut) opens' (endures.append endures') stopped
    rwa [openable_opened opens, List.flatMap_cons, List.append_assoc, List.append_assoc] at some

theorem Looked.past {files opened : List File} {seen : List Line} {calls : List Call} {f : File}
    {reason : String} (barred : f.barred = .some reason)
    (looked : Looked o files opened seen calls) : Looked o (f :: files) opened seen calls := by
  cases looked with
  | all endures =>
    have all : Looked o (f :: files) (openable (f :: files)) _ calls := .all endures
    rwa [openable_barred barred] at all
  | @some before after g seen earlier calls cut opens endures stopped =>
    have some := Looked.some (o := o) (f :: before) after earlier (congrArg (f :: ·) cut) opens
      endures stopped
    rwa [openable_barred barred] at some

/-- A file that does not end a run was read to its end, or it could not be opened. -/
theorem Run.file_finished {f : File} (finished : r.file o handle.recorded f = (.finished, r')) :
    (∃ reason, f.barred = some reason ∧ r' = r) ∨
      f.barred = none ∧ ∃ calls, Part o r r' 1 f.lines calls ∧ Endures calls := by
  cases bar : f.barred with
  | some reason =>
    simp only [Run.file, bar, Prod.mk.injEq] at finished
    exact .inl ⟨reason, rfl, finished.2.symm⟩
  | none =>
    rw [Run.file_opened bar] at finished
    rcases lines : r.lines o handle.recorded f.lines with ⟨_ | _ | e | _, r₁⟩ <;>
      rw [lines] at finished
    · dsimp only at finished
      split_ifs at finished
      · cases finished
      · obtain rfl := (Prod.mk.inj finished).2
        obtain ⟨calls, part, endures⟩ := Run.lines_finished lines
        exact .inr ⟨rfl, calls, part.countFile, endures⟩
    all_goals cases finished

theorem Run.file_stopped {f : File} (stopped : r.file o handle.recorded f = (.stopped, r')) :
    f.barred = none ∧ ∃ seen calls, Part o r r' 1 seen calls ∧ Stopped o f.lines seen calls := by
  cases bar : f.barred with
  | some reason =>
    simp only [Run.file, bar, Prod.mk.injEq] at stopped
    split_ifs at stopped <;> cases stopped.1
  | none =>
    rw [Run.file_opened bar] at stopped
    rcases lines : r.lines o handle.recorded f.lines with ⟨_ | _ | e | _, r₁⟩ <;>
      rw [lines] at stopped
    · dsimp only at stopped
      split_ifs at stopped <;> cases stopped
    · obtain rfl := (Prod.mk.inj stopped).2
      obtain ⟨seen, calls, part, stop⟩ := Run.lines_stopped lines
      exact ⟨rfl, seen, calls, part.countFile, stop⟩
    all_goals cases stopped

/-- A run over files that comes to an end without an error. -/
theorem Run.part_files {fs : List File} {ending : Ending}
    (read : r.files o handle.recorded fs = (ending, r')) (well : ∀ e, ending ≠ .failed e)
    (ends : ending ≠ .endless) :
    ∃ opened seen calls, Part o r r' opened.length seen calls ∧ Looked o fs opened seen calls := by
  induction fs generalizing r with
  | nil =>
    obtain rfl := (Prod.mk.inj read).2
    exact ⟨[], [], [], .refl r, .all (by simp [Endures])⟩
  | cons f fs ih =>
    rw [Run.files_cons] at read
    rcases file : r.file o handle.recorded f with ⟨_ | _ | e | _, r₁⟩ <;> rw [file] at read
    · rcases Run.file_finished file with ⟨reason, barred, rfl⟩ | ⟨opens, calls, part, endures⟩
      · obtain ⟨opened, seen, calls, parts, looked⟩ := ih read
        exact ⟨opened, seen, calls, parts, looked.past barred⟩
      · obtain ⟨opened, seen, calls', parts, looked⟩ := ih read
        -- The file that was read to its end is one more than those that the rest opened.
        have whole := part.trans parts
        rw [Nat.add_comm, ← List.length_cons (a := f)] at whole
        exact ⟨f :: opened, _, _, whole, looked.after opens endures⟩
    · obtain rfl := (Prod.mk.inj read).2
      obtain ⟨opens, seen, calls, part, stop⟩ := Run.file_stopped file
      exact ⟨[f], seen, calls, part, .some [] fs [] rfl opens (by simp [Endures]) stop⟩
    · exact absurd (Prod.mk.inj read).1.symm (well e)
    · exact absurd (Prod.mk.inj read).1.symm ends

end Parts

/-! Whole runs. -/

/-- The statistics of a run are those of the files it opened and the lines it looked at. -/
theorem run_tally {σ : Type} {o : Options} {tree : FileTree} {input : String}
    {handle : Handler σ} {s : σ} {stats : Statistics}
    (given : (run o tree input handle s).1 = some (.ok stats)) :
    ∃ files opened seen, File.select tree input = .ok files ∧
      Looked o (o.cut files) opened seen (trace o tree input handle s).2 ∧
      (trace o tree input handle s).2.map Prod.fst = good o.verify seen ∧
      stats = Statistics.tally o.verify {} opened.length seen := by
  have made : (trace o tree input handle s).2 =
      (run o tree input handle.recorded ([], s)).2.1 := rfl
  rw [run_eq_recorded] at given
  cases selected : File.select tree input with
  | error e =>
    rw [run_missing selected] at given
    cases given
  | ok files =>
    rw [run_selected selected] at given made
    rcases read : Run.files o handle.recorded (o.cut files) ⟨([], s), {}⟩ with ⟨ending, r⟩
    rw [read] at given made
    have well : ∀ e, ending ≠ .failed e := by
      rintro e rfl
      cases given
    have ends : ending ≠ .endless := by
      rintro rfl
      cases given
    obtain ⟨opened, seen, calls, part, looked⟩ := Run.part_files read well ends
    have counted : stats = Statistics.tally o.verify {} opened.length seen ∧
        (trace o tree input handle s).2 = calls := by
      rw [made]
      cases ending with
      | finished | stopped =>
        exact ⟨(Except.ok.inj (Option.some.inj given)).symm.trans part.counted, part.recorded⟩
      | failed e => exact absurd rfl (well e)
      | endless => exact absurd rfl ends
    obtain ⟨rfl, same⟩ := counted
    rw [same]
    exact ⟨files, opened, seen, rfl, looked, part.events, rfl⟩

/-- What an import counts if it gives statistics, for whatever reason it came to an end. Files and
lines are those it came to, and calls are all the calls of the handler. -/
structure Accounts (o : Options) (files : List File) (calls : List Call) (stats : Statistics)
    (opened : List File) (seen : List Line) : Prop where
  looked : Looked o files opened seen calls
  events : calls.map Prod.fst = good o.verify seen
  files : stats.files = opened.length
  total : stats.total = seen.countP Line.isFilled
  parts : stats.total = stats.valid + stats.jsonErrors + stats.validationErrors + stats.tooOld
  invalid : stats.invalid = stats.jsonErrors + stats.validationErrors + stats.tooOld +
    seen.countP Line.isUnreadable
  valid : stats.valid = calls.length

theorem statistics_balance {σ : Type} {o : Options} {tree : FileTree} {input : String}
    {handle : Handler σ} {s : σ} {stats : Statistics}
    (given : (run o tree input handle s).1 = some (.ok stats)) :
    ∃ files opened seen, Selects tree input files ∧
      Accounts o (o.cut files) (trace o tree input handle s).2 stats opened seen := by
  obtain ⟨files, opened, seen, selected, looked, events, rfl⟩ := run_tally given
  have none : Statistics.Balanced o.verify {} [] := ⟨rfl, rfl, rfl, rfl⟩
  have balanced := none.tally opened.length seen
  refine ⟨files, opened, seen, File.selects_of_select selected, ?_⟩
  exact {
    looked := looked
    events := events
    files := Nat.zero_add _
    total := balanced.filled
    parts := balanced.parts
    invalid := balanced.invalid
    valid := by rw [balanced.valid, List.nil_append, ← events, List.length_map] }

/-- Fails for the first event and ends the run at the second. -/
def fickle : Handler Nat := fun _ calls =>
  (if calls = 0 then .error (.store "full") else .ok false, calls + 1)

/-- A young event twice, and an old one. -/
def repeatedSample : List Event := dumpSample.take 1 ++ dumpSample

/-- A line that is no JSON, one that is no text and a blank one, then some events. -/
def interruptedFile : File where
  name := "interrupted.jsonl"
  bytes := 120 :: 10 :: 255 :: 10 :: 32 :: 10 ::
    written (repeatedSample.map fun e => (e.text, .newline))

def interruptedTree : FileTree where
  root := "/data"
  files := [(["interrupted.jsonl"], interruptedFile.bytes)]

theorem split_interrupted (rest : List UInt8) :
    Line.split none [] (120 :: 10 :: 255 :: 10 :: 32 :: 10 :: rest) =
      .text "x" :: .unreadable "stream did not contain valid UTF-8" :: .text " " ::
        Line.split none [] rest := rfl

theorem lines_interruptedFile :
    interruptedFile.lines =
      .text "x" :: .unreadable "stream did not contain valid UTF-8" :: .text " " ::
        repeatedSample.map fun e => .text e.text := by
  have contents : interruptedFile.contents = ⟨interruptedFile.bytes, none⟩ := rfl
  have sound : interruptedFile.fault? = none := rfl
  have printable : ∀ l ∈ repeatedSample.map fun e => (e.text, LineEnd.newline), Printable l.1 :=
    List.forall_mem_map.2 fun e _ => e.printable_text
  rw [File.lines, sound, contents, interruptedFile, split_interrupted,
    Line.split_written printable, List.map_map]
  rfl

theorem statistics_balance_interrupted :
    (run ⟨false, true, none⟩ interruptedTree "interrupted.jsonl" fickle 0).1 =
      some (.ok { files := 1, total := 3, valid := 2, invalid := 2, jsonErrors := 1 }) ∧
    ∃ files opened seen, Selects interruptedTree "interrupted.jsonl" files ∧
      Accounts ⟨false, true, none⟩ (Options.cut ⟨false, true, none⟩ files)
        (trace ⟨false, true, none⟩ interruptedTree "interrupted.jsonl" fickle 0).2
        { files := 1, total := 3, valid := 2, invalid := 2, jsonErrors := 1 } opened seen := by
  have selected : File.select interruptedTree "interrupted.jsonl" = .ok [interruptedFile] := rfl
  obtain ⟨young, old, sample, timely⟩ : ∃ young old, dumpSample = [young, old] ∧
      genesis ≤ young.createdAt := ⟨_, _, rfl, by decide⟩
  have event : (Line.text young.text).verdict false = .good young := by
    rw [verdict_text (check_dumpSample _ (by simp [sample])), if_neg (UInt32.not_lt.2 timely)]
  have other : ∃ f, (Line.text "x").verdict false = .rejected (.json f) := ⟨_, rfl⟩
  obtain ⟨f, other⟩ := other
  have blank : (Line.text " ").verdict false = .blank := rfl
  have given : (run ⟨false, true, none⟩ interruptedTree "interrupted.jsonl" fickle 0).1 =
      some (.ok { files := 1, total := 3, valid := 2, invalid := 2, jsonErrors := 1 }) := by
    rw [run_selected selected, show Options.cut _ [interruptedFile] = [interruptedFile] from rfl,
      Run.files, Run.file_opened rfl, lines_interruptedFile, repeatedSample, sample]
    simp only [List.take_succ_cons, List.take_zero, List.cons_append, List.nil_append,
      List.map_cons, Run.lines, Run.line, event, other, blank]
    rfl
  exact ⟨given, statistics_balance given⟩

end RelayStore.Import

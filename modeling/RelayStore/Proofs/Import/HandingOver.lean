import RelayStore.Import.Run
import RelayStore.Proofs.Import.Dump
import RelayStore.Proofs.Import.Selection
import Mathlib.Data.List.Forall2

/-!
What an import hands over. Main statement: the good lines of the files go to the handler in their
order, and whatever ends a run early only cuts off the last of them.
-/
namespace RelayStore.Import

/-! Lines by themselves. -/

/-- The event on a line, if it is one that is not too old. -/
def Line.event? (verify : Bool) : Line → Option Event
  | .unreadable _ => none
  | .text s =>
    if Text.isBlankText s then none
    else (readEvent verify s).toOption.filter fun e => genesis ≤ e.createdAt

/-- What is wrong with a line that cannot be read or holds something else than an event. -/
def Line.refusal? (verify : Bool) : Line → Option Error
  | .unreadable reason => some (.io reason)
  | .text s =>
    if Text.isBlankText s then none
    else match readEvent verify s with
      | .error e => some e
      | .ok _ => none

def good (verify : Bool) (lines : List Line) : List Event := lines.filterMap (Line.event? verify)

/-- The lines before the first that is refused. -/
def accepted (verify : Bool) (lines : List Line) : List Line :=
  lines.takeWhile fun l => (l.refusal? verify).isNone

/-! Calls of a handler. -/

/-- An event that was handed over, and the answer. -/
abbrev Call := Event × Except Error Bool

def Call.stops (c : Call) : Bool :=
  match c.2 with
  | .ok more => !more
  | .error _ => false

def Call.goesOn (c : Call) : Bool :=
  match c.2 with
  | .ok more => more
  | .error _ => false

/-- The items up to the first that is the last, this one included. -/
def upTo {α : Type} (last : α → Bool) : List α → List α
  | [] => []
  | a :: as => if last a then [a] else a :: upTo last as

variable {σ : Type}

/-- A handler that writes down how it is called. -/
def Handler.recorded (handle : Handler σ) : Handler (List Call × σ) := fun e s =>
  ((handle e s.2).1, s.1 ++ [(e, (handle e s.2).1)], (handle e s.2).2)

/-- The calls if all the events are handed over. -/
def Handler.calls (handle : Handler σ) : List Event → σ → List Call
  | [], _ => []
  | e :: es, s => (e, (handle e s).1) :: handle.calls es (handle e s).2

/-- How a strict run ends: as the last call says, or else with the first line that is refused. -/
def strictResult (calls : List Call) (refused : Option Error) : Except Error Unit :=
  match calls.getLast?.map Prod.snd, refused with
  | some (.error e), _ => .error e
  | some (.ok false), _ => .ok ()
  | _, some e => .error e
  | _, none => .ok ()

/-! Steps one after the other. -/

/-- Goes on, unless the run is over. -/
def onward {α : Type} (x : Ending × α) (next : α → Ending × α) : Ending × α :=
  match x with
  | (.finished, a) => next a
  | stop => stop

section Onward

variable {α : Type} (a : α) (next : α → Ending × α)

@[simp] theorem onward_finished : onward (.finished, a) next = next a := rfl

@[simp] theorem onward_stopped : onward (.stopped, a) next = (.stopped, a) := rfl

@[simp] theorem onward_failed (e : Error) : onward (.failed e, a) next = (.failed e, a) := rfl

@[simp] theorem onward_endless : onward (.endless, a) next = (.endless, a) := rfl

end Onward

theorem map_onward {α β : Type} {view : α → β} {next : α → Ending × α} {next' : β → Ending × β}
    (same : ∀ a, Prod.map id view (next a) = next' (view a)) (x : Ending × α) :
    Prod.map id view (onward x next) = onward (Prod.map id view x) next' := by
  rcases x with ⟨ending, a⟩
  cases ending with
  | finished => exact same a
  | stopped | failed | endless => rfl

theorem onward_assoc {α : Type} (x : Ending × α) (next last : α → Ending × α) :
    onward (onward x next) last = onward x fun a => onward (next a) last := by
  rcases x with ⟨ending, a⟩
  cases ending <;> rfl

theorem Run.lines_cons (o : Options) (handle : Handler σ) (l : Line) (ls : List Line)
    (r : Run σ) :
    r.lines o handle (l :: ls) = onward (r.line o handle l) fun r => r.lines o handle ls := by
  rw [Run.lines]
  rcases r.line o handle l with ⟨ending, r'⟩
  cases ending <;> rfl

theorem Run.file_opened {f : File} (opens : f.barred = none) (o : Options) (handle : Handler σ)
    (r : Run σ) :
    r.file o handle f =
      match r.lines o handle f.lines with
      | (.finished, r) => if f.isEndless then (.endless, r) else (.finished, r.countFile)
      | (.stopped, r) => (.stopped, r.countFile)
      | stop => stop := by
  rcases read : r.lines o handle f.lines with ⟨ending, r'⟩
  cases ending <;> simp only [Run.file, opens, read]

theorem Run.files_cons (o : Options) (handle : Handler σ) (f : File) (fs : List File)
    (r : Run σ) :
    r.files o handle (f :: fs) = onward (r.file o handle f) fun r => r.files o handle fs := by
  rw [Run.files]
  rcases r.file o handle f with ⟨ending, r'⟩
  cases ending <;> rfl

/-! A run without what it counts. -/

/-- How a line that is refused ends the run. -/
def Options.refuse (o : Options) : Option Error → Ending
  | some e => if o.lenient then .finished else .failed e
  | none => .finished

def Options.pass (o : Options) (handle : Handler σ) (l : Line) (s : σ) : Ending × σ :=
  match l.event? o.verify with
  | some e => (o.after (handle e s).1, (handle e s).2)
  | none => (o.refuse (l.refusal? o.verify), s)

def Options.outcome (o : Options) (handle : Handler σ) : List Line → σ → Ending × σ
  | [], s => (.finished, s)
  | l :: ls, s => onward (o.pass handle l s) (o.outcome handle ls)

theorem Line.event?_eq (verify : Bool) (l : Line) :
    l.event? verify = match l.verdict verify with
      | .good e => some e
      | _ => none := by
  cases l with
  | unreadable reason => rfl
  | text s =>
    simp only [event?, verdict]
    split_ifs with blank
    · rfl
    · cases readEvent verify s with
      | error e => rfl
      | ok e =>
        by_cases old : e.createdAt < genesis
        · simp [Except.toOption, old]
        · simp [Except.toOption, old, UInt32.not_lt.1 old]

theorem Line.refusal?_eq (verify : Bool) (l : Line) :
    l.refusal? verify = match l.verdict verify with
      | .unreadable reason => some (.io reason)
      | .rejected e => some e
      | _ => none := by
  cases l with
  | unreadable reason => rfl
  | text s =>
    simp only [refusal?, verdict]
    split_ifs with blank
    · rfl
    · cases readEvent verify s with
      | error e => rfl
      | ok e => by_cases old : e.createdAt < genesis <;> simp [old]

theorem Run.line_eq (o : Options) (handle : Handler σ) (l : Line) (r : Run σ) :
    r.line o handle l = ((o.pass handle l r.state).1,
      ⟨(o.pass handle l r.state).2, r.statistics.count (l.verdict o.verify)⟩) := by
  rw [Options.pass, Line.event?_eq, Line.refusal?_eq, Run.line]
  cases l.verdict o.verify <;> cases h : o.lenient <;> simp [Options.ends, Options.refuse, h]

theorem Run.state_lines (o : Options) (handle : Handler σ) (ls : List Line) (r : Run σ) :
    (r.lines o handle ls).map id Run.state = o.outcome handle ls r.state := by
  induction ls generalizing r with
  | nil => rfl
  | cons l ls ih =>
    rw [Run.lines_cons, map_onward ih, Run.line_eq]
    rfl

/-- The lines that are met of a file. One that cannot be opened is met like a line that cannot be
read. -/
def File.met (f : File) : List Line :=
  match f.barred with
  | some reason => [.unreadable reason]
  | none => f.lines

theorem File.met_opened {f : File} (opens : f.barred = none) : f.met = f.lines := by
  rw [met, opens]

theorem File.holds_iff {f : File} {ls : List Line} : f.Holds ls ↔ ls = f.met := by
  constructor
  · rintro (⟨opens, reads⟩ | barred)
    · rw [met_opened opens]
      exact Line.reads_iff.1 reads
    next barred => rw [met, barred]
  · rintro rfl
    cases bar : f.barred with
    | some reason =>
      rw [met, bar]
      exact .barred bar
    | none =>
      rw [met_opened bar]
      exact .lines bar (Line.reads_iff.2 rfl)

theorem File.forall₂_holds {fs : List File} {lines : List (List Line)} :
    List.Forall₂ File.Holds fs lines ↔ lines = fs.map File.met := by
  constructor
  · intro holds
    induction holds with
    | nil => rfl
    | cons first _ ih => rw [holds_iff.1 first, ih, List.map_cons]
  · rintro rfl
    rw [List.forall₂_map_right_iff, List.forall₂_same]
    exact fun f _ => holds_iff.2 rfl

/-- Whether a reader that comes to the end of a file's lines does not come past it. -/
def File.sticks (f : File) : Bool := f.barred.isNone && f.isEndless

def File.passing (f : File) : Ending := if f.sticks then .endless else .finished

theorem Run.state_file (o : Options) (handle : Handler σ) (f : File) (r : Run σ) :
    (r.file o handle f).map id Run.state =
      onward (o.outcome handle f.met r.state) fun s => (f.passing, s) := by
  cases bar : f.barred with
  | some reason =>
    have free : f.passing = .finished := by simp [File.passing, File.sticks, bar]
    cases lenient : o.lenient <;>
      simp [Run.file, File.met, bar, free, Options.outcome, Options.pass, Line.event?,
        Line.refusal?, Options.refuse, lenient]
  | none =>
    have last : f.passing = if f.isEndless then .endless else .finished := by
      simp [File.passing, File.sticks, bar]
    rw [Run.file_opened bar, File.met_opened bar, ← Run.state_lines, last]
    rcases r.lines o handle f.lines with ⟨ending, r'⟩
    cases ending with
    | finished => cases endless : f.isEndless <;> simp [Run.countFile]
    | stopped | failed | endless => rfl

theorem Options.outcome_append (o : Options) (handle : Handler σ) (ls ls' : List Line) (s : σ) :
    o.outcome handle (ls ++ ls') s = onward (o.outcome handle ls s) (o.outcome handle ls') := by
  induction ls generalizing s with
  | nil => rfl
  | cons l ls ih =>
    rw [List.cons_append, outcome, outcome, onward_assoc]
    congr 1
    exact funext ih

/-- The files that a run comes to, if only a file that sticks keeps it from the others. -/
def reached (fs : List File) : List File := upTo File.sticks fs

theorem reached_eq_self {fs : List File} (free : fs.any File.sticks = false) :
    reached fs = fs := by
  induction fs with
  | nil => rfl
  | cons f fs ih =>
    simp only [List.any_cons, Bool.or_eq_false_iff] at free
    rw [reached, upTo, free.1, if_neg Bool.false_ne_true]
    exact congrArg (f :: ·) (ih free.2)

/-- How files end a run that nothing has ended before. -/
def passing (fs : List File) : Ending := if fs.any File.sticks then .endless else .finished

/-- The files of a run could be one file. -/
theorem Run.state_files (o : Options) (handle : Handler σ) (fs : List File) (r : Run σ) :
    (r.files o handle fs).map id Run.state =
      onward (o.outcome handle ((reached fs).flatMap File.met) r.state)
        fun s => (passing fs, s) := by
  induction fs generalizing r with
  | nil => rfl
  | cons f fs ih =>
    rw [Run.files_cons, @map_onward _ _ Run.state _ (fun s =>
      onward (o.outcome handle ((reached fs).flatMap File.met) s) fun s => (passing fs, s)) ih,
      Run.state_file, onward_assoc]
    by_cases stuck : f.sticks = true
    · simp [reached, upTo, passing, File.passing, stuck]
    · simp [reached, upTo, passing, File.passing, stuck, Options.outcome_append, onward_assoc]

/-! Calls that a run makes. -/

def Options.halts (o : Options) (c : Call) : Bool :=
  match o.after c.2 with
  | .finished => false
  | .stopped | .failed _ | .endless => true

/-- The lines that a run comes to unless the handler ends it. -/
def Options.passed (o : Options) (ls : List Line) : List Line :=
  ls.takeWhile fun l => o.lenient || (l.refusal? o.verify).isNone

def Options.made (o : Options) (handle : Handler σ) (ls : List Line) (s : σ) : List Call :=
  upTo o.halts (handle.calls (good o.verify (o.passed ls)) s)

theorem Line.refusal?_of_event? {verify : Bool} {l : Line} {e : Event}
    (event : l.event? verify = some e) : l.refusal? verify = none := by
  rw [event?_eq] at event
  rw [refusal?_eq]
  cases h : l.verdict verify <;> simp_all

theorem Options.made_event {o : Options} {l : Line} {e : Event}
    (event : l.event? o.verify = some e) (handle : Handler σ) (ls : List Line) (s : σ) :
    o.made handle (l :: ls) s =
      if o.halts (e, (handle e s).1) then [(e, (handle e s).1)]
      else (e, (handle e s).1) :: o.made handle ls (handle e s).2 := by
  simp [made, passed, good, Line.refusal?_of_event? event, event, Handler.calls, upTo]

theorem Options.made_other {o : Options} {l : Line} (event : l.event? o.verify = none)
    (handle : Handler σ) (ls : List Line) (s : σ) :
    o.made handle (l :: ls) s =
      if o.lenient || (l.refusal? o.verify).isNone then o.made handle ls s else [] := by
  by_cases goesOn : (o.lenient || (l.refusal? o.verify).isNone) = true
  · simp [made, passed, good, event, goesOn]
  · simp [made, passed, good, goesOn, Handler.calls, upTo]

theorem Options.pass_recorded (o : Options) (handle : Handler σ) (l : Line) (calls : List Call)
    (s : σ) :
    o.pass handle.recorded l (calls, s) =
      ((o.pass handle l s).1,
        calls ++ ((l.event? o.verify).map fun e => (e, (handle e s).1)).toList,
        (o.pass handle l s).2) := by
  cases event : l.event? o.verify <;> simp [pass, event, Handler.recorded]

/-- Recording the calls changes nothing else. -/
theorem Options.outcome_recorded (o : Options) (handle : Handler σ) (ls : List Line)
    (calls : List Call) (s : σ) :
    o.outcome handle.recorded ls (calls, s) =
      ((o.outcome handle ls s).1, calls ++ o.made handle ls s, (o.outcome handle ls s).2) := by
  -- A line holds an event, or it is refused, or neither, so both sides make the same step.
  induction ls generalizing calls s with
  | nil => simp [outcome, made, passed, good, Handler.calls, upTo]
  | cons l ls ih =>
    cases event : l.event? o.verify with
    | some e =>
      rw [outcome, outcome, pass, pass, event, made_event event]
      cases after : o.after (handle e s).1 <;> simp [Handler.recorded, halts, after, ih]
    | none =>
      rw [outcome, outcome, pass, pass, event, made_other event]
      cases refusal : l.refusal? o.verify <;> cases lenient : o.lenient <;>
        simp [refuse, lenient, ih]

def Options.ending (o : Options) (calls : List Call) (refused : Option Error) : Ending :=
  match calls.getLast?.map fun c => o.after c.2 with
  | some .stopped => .stopped
  | some (.failed e) => .failed e
  | _ => o.refuse refused

theorem Options.refuse_lenient {o : Options} (lenient : o.lenient = true)
    (refused : Option Error) : o.refuse refused = .finished := by
  cases refused <;> simp [refuse, lenient]

theorem Options.ending_cons {o : Options} {c : Call} (goesOn : o.after c.2 = .finished)
    (calls : List Call) (refused : Option Error) :
    o.ending (c :: calls) refused = o.ending calls refused := by
  cases calls with
  | nil => simp [ending, goesOn]
  | cons d calls => rw [ending, ending, List.getLast?_cons_cons]

/-- A handler cannot keep a run from its end. -/
theorem Options.after_ne_endless (o : Options) (answer : Except Error Bool) :
    o.after answer ≠ .endless := by
  rcases answer with e | _ | _
  · cases lenient : o.lenient <;> simp [after, lenient]
  · simp [after]
  · simp [after]

theorem Options.outcome_ending (o : Options) (handle : Handler σ) (ls : List Line) (s : σ) :
    (o.outcome handle ls s).1 =
      o.ending (o.made handle ls s) (ls.findSome? (Line.refusal? o.verify)) := by
  induction ls generalizing s with
  | nil => rfl
  | cons l ls ih =>
    cases event : l.event? o.verify with
    | some e =>
      rw [outcome, pass, event, made_event event, List.findSome?_cons,
        Line.refusal?_of_event? event]
      dsimp only
      cases after : o.after (handle e s).1 with
      | finished => simp [halts, after, ending_cons (c := (e, (handle e s).1)) after, ih]
      | stopped => simp [halts, after, ending]
      | failed err => simp [halts, after, ending]
      | endless => exact absurd after (o.after_ne_endless _)
    | none =>
      rw [outcome, pass, event, made_other event, List.findSome?_cons]
      cases refusal : l.refusal? o.verify with
      | none => simp [refuse, ih]
      | some err =>
        cases lenient : o.lenient with
        | true => simp [refuse_lenient lenient, ih, ending]
        | false => simp [refuse, lenient, ending]

/-! Whole runs. -/

def Options.cut (o : Options) (fs : List File) : List File :=
  match o.limit with
  | some n => fs.take n
  | none => fs

/-- What is left to say of a result when nothing is counted. -/
def Ending.result : Ending → Option (Except Error Unit)
  | .failed e => some (.error e)
  | .finished | .stopped => some (.ok ())
  | .endless => none

/-- How something ends that has a last part. -/
def Ending.andThen (last : Ending) : Ending → Ending
  | .finished => last
  | ending => ending

theorem onward_eq {α : Type} (x : Ending × α) (last : Ending) :
    (onward x fun a => (last, a)) = (last.andThen x.1, x.2) := by
  rcases x with ⟨ending, a⟩
  cases ending <;> rfl

theorem run_selected {o : Options} {tree : FileTree} {input : String} {fs : List File}
    (selected : File.select tree input = .ok fs) (handle : Handler σ) (s : σ) :
    run o tree input handle s =
      match Run.files o handle (o.cut fs) ⟨s, {}⟩ with
      | (.endless, r) => (none, r.state)
      | (.failed e, r) => (some (.error e), r.state)
      | (_, r) => (some (.ok r.statistics), r.state) := by
  rw [run, selected]
  rfl

/-- A result of which only the error is kept. -/
def outline {α : Type} (result : Option (Except Error α)) : Option (Except Error Unit) :=
  result.map fun r => r.map fun _ => ()

theorem run_outcome {o : Options} {tree : FileTree} {input : String} {fs : List File}
    (selected : File.select tree input = .ok fs) (handle : Handler σ) (s : σ) :
    (outline (run o tree input handle s).1, (run o tree input handle s).2) =
      (((passing (o.cut fs)).andThen
          (o.outcome handle ((reached (o.cut fs)).flatMap File.met) s).1).result,
        (o.outcome handle ((reached (o.cut fs)).flatMap File.met) s).2) := by
  have files := Run.state_files o handle (o.cut fs) ⟨s, {}⟩
  rw [onward_eq] at files
  have ending := congrArg Prod.fst files
  have state := congrArg Prod.snd files
  dsimp only at ending state
  rw [← ending, ← state, run_selected selected]
  rcases Run.files o handle (o.cut fs) ⟨s, {}⟩ with ⟨ending, r⟩
  cases ending <;> rfl

theorem run_missing {o : Options} {tree : FileTree} {input : String} {e : Error}
    (missing : File.select tree input = .error e) (handle : Handler σ) (s : σ) :
    run o tree input handle s = (some (.error e), s) := by
  rw [run, missing]

/-! Recording. -/

/-- A run whose record is forgotten. -/
def Run.erase (r : Run (List Call × σ)) : Run σ := ⟨r.state.2, r.statistics⟩

theorem Run.erase_line (o : Options) (handle : Handler σ) (l : Line) (r : Run (List Call × σ)) :
    (r.line o handle.recorded l).map id Run.erase = r.erase.line o handle l := by
  rw [Run.line_eq, Run.line_eq, Options.pass_recorded]
  rfl

theorem Run.erase_lines (o : Options) (handle : Handler σ) (ls : List Line)
    (r : Run (List Call × σ)) :
    (r.lines o handle.recorded ls).map id Run.erase = r.erase.lines o handle ls := by
  induction ls generalizing r with
  | nil => rfl
  | cons l ls ih => rw [Run.lines_cons, map_onward ih, Run.erase_line, Run.lines_cons]

theorem Run.erase_file (o : Options) (handle : Handler σ) (f : File)
    (r : Run (List Call × σ)) :
    (r.file o handle.recorded f).map id Run.erase = r.erase.file o handle f := by
  cases bar : f.barred with
  | some reason => simp [Run.file, bar]
  | none =>
    rw [Run.file_opened bar, Run.file_opened bar, ← Run.erase_lines]
    rcases r.lines o handle.recorded f.lines with ⟨ending, r'⟩
    cases ending with
    | finished =>
      cases endless : f.isEndless with
      | true | false => rfl
    | stopped | failed | endless => rfl

theorem Run.erase_files (o : Options) (handle : Handler σ) (fs : List File)
    (r : Run (List Call × σ)) :
    (r.files o handle.recorded fs).map id Run.erase = r.erase.files o handle fs := by
  induction fs generalizing r with
  | nil => rfl
  | cons f fs ih => rw [Run.files_cons, map_onward ih, Run.erase_file, Run.files_cons]

/-- A run goes as it goes with its calls recorded. -/
theorem run_eq_recorded (o : Options) (tree : FileTree) (input : String) (handle : Handler σ)
    (s : σ) :
    run o tree input handle s =
      ((run o tree input handle.recorded ([], s)).1,
        (run o tree input handle.recorded ([], s)).2.2) := by
  cases selected : File.select tree input with
  | error e => rw [run_missing selected, run_missing selected]
  | ok fs =>
    have erased := Run.erase_files o handle (o.cut fs) ⟨([], s), {}⟩
    rw [run_selected selected, run_selected selected]
    change _ = Run.files o handle (o.cut fs) ⟨s, {}⟩ at erased
    rw [← erased]
    rcases Run.files o handle.recorded (o.cut fs) ⟨([], s), {}⟩ with ⟨ending, r⟩
    cases ending <;> rfl

/-! Prefixes. -/

theorem upTo_prefix {α : Type} {last last' : α → Bool} {as bs : List α} (initial : as <+: bs)
    (earlier : ∀ a, last' a = true → last a = true) : upTo last as <+: upTo last' bs := by
  induction as generalizing bs with
  | nil => exact List.nil_prefix
  | cons a as ih =>
    obtain ⟨more, rfl⟩ := initial
    rw [List.cons_append, upTo, upTo]
    by_cases here : last a = true
    · by_cases here' : last' a = true <;> simp [here, here']
    · have here' : ¬ last' a = true := fun h => here (earlier a h)
      simpa [here, here'] using ih (List.prefix_append as more)

theorem upTo_prefix_self {α : Type} (last : α → Bool) (as : List α) : upTo last as <+: as := by
  induction as with
  | nil => exact List.nil_prefix
  | cons a as ih =>
    rw [upTo]
    split_ifs
    · exact List.prefix_append [a] as
    · simpa using ih

theorem mem_upTo_of_any {α : Type} {last : α → Bool} {as : List α} (some : as.any last = true) :
    ∃ a ∈ upTo last as, last a = true := by
  induction as with
  | nil => contradiction
  | cons a as ih =>
    rw [upTo]
    by_cases here : last a = true
    · exact ⟨a, by simp [here], here⟩
    · obtain ⟨b, mem, found⟩ := ih (by simpa [here] using some)
      exact ⟨b, by simp [here, mem], found⟩

/-- Only the last of the items up to the last can be it. -/
theorem getLast?_any_upTo {α : Type} (last : α → Bool) (as : List α) :
    (upTo last as).getLast?.any last = (upTo last as).any last := by
  induction as with
  | nil => rfl
  | cons a as ih =>
    rw [upTo]
    by_cases here : last a = true
    · simp [here]
    · rw [if_neg here, List.any_cons, ← ih]
      cases upTo last as with
      | nil => simp
      | cons b bs => simp [here, List.getLast?_cons_cons]

theorem Call.not_goesOn_of_stops (c : Call) (stops : c.stops = true) : (!c.goesOn) = true := by
  rcases c with ⟨e, err | _ | _⟩ <;> simp_all [Call.stops, Call.goesOn]

theorem good_accepted (verify : Bool) (ls : List Line) :
    good verify (accepted verify ls) <+: good verify ls :=
  (List.takeWhile_prefix _).filterMap _

theorem Handler.calls_prefix (handle : Handler σ) {es es' : List Event} (initial : es <+: es')
    (s : σ) : handle.calls es s <+: handle.calls es' s := by
  obtain ⟨more, rfl⟩ := initial
  induction es generalizing s with
  | nil => exact List.nil_prefix
  | cons e es ih => simpa [Handler.calls] using ih (handle e s).2

theorem Handler.map_fst_calls (handle : Handler σ) (es : List Event) (s : σ) :
    (handle.calls es s).map Prod.fst = es := by
  induction es generalizing s with
  | nil => rfl
  | cons e es ih => rw [Handler.calls, List.map_cons, ih]

/-! Strict and lenient runs. -/

section Modes

variable {o : Options}

theorem Options.halts_lenient (lenient : o.lenient = true) : o.halts = Call.stops := by
  funext ⟨e, answer⟩
  rcases answer with err | _ | _ <;> simp [halts, after, Call.stops, lenient]

theorem Options.halts_strict (strict : o.lenient = false) : o.halts = fun c => !c.goesOn := by
  funext ⟨e, answer⟩
  rcases answer with err | _ | _ <;> simp [halts, after, Call.goesOn, strict]

theorem Options.made_lenient (lenient : o.lenient = true) (handle : Handler σ) (ls : List Line)
    (s : σ) : o.made handle ls s = upTo Call.stops (handle.calls (good o.verify ls) s) := by
  have all : o.passed ls = ls := by simp [passed, lenient]
  rw [made, all, halts_lenient lenient]

theorem Options.made_strict (strict : o.lenient = false) (handle : Handler σ) (ls : List Line)
    (s : σ) : o.made handle ls s =
      upTo (fun c => !c.goesOn) (handle.calls (good o.verify (accepted o.verify ls)) s) := by
  have front : o.passed ls = accepted o.verify ls := by simp [passed, accepted, strict]
  rw [made, front, halts_strict strict]

/-- A lenient run ends as its files do, unless the handler has wanted no more. -/
theorem Options.ending_lenient (lenient : o.lenient = true) (calls : List Call)
    (refused : Option Error) :
    o.ending calls refused = if calls.getLast?.any Call.stops then .stopped else .finished := by
  rw [ending, refuse_lenient lenient]
  rcases calls.getLast? with _ | ⟨e, err | _ | _⟩ <;> simp [after, lenient, Call.stops]

theorem Options.result_strict (strict : o.lenient = false) (calls : List Call)
    {refused : Option Error} {last : Ending}
    (sound : refused = none → last = .finished) :
    (last.andThen (o.ending calls refused)).result = some (strictResult calls refused) := by
  unfold ending strictResult
  rcases calls.getLast? with _ | ⟨e, err | _ | _⟩ <;> cases refused <;>
    simp [after, refuse, strict, Ending.result, Ending.andThen, sound]

end Modes

/-- A reader that does not come past a file has met a fault in it. -/
theorem File.fault_of_sticks {f : File} (stuck : f.sticks = true) :
    ∃ reason, .unreadable reason ∈ f.met := by
  obtain ⟨opens, endless⟩ : f.barred = none ∧ f.isEndless = true := by simpa [sticks] using stuck
  obtain ⟨stop, faulty, -⟩ := (Option.any_eq_true _ _).1 endless
  have fault : f.fault? = some stop.refusal.message := by rw [fault?, faulty, Option.map_some]
  rw [met_opened opens, lines, fault]
  exact ⟨_, Line.unreadable_mem_split _ _ _⟩

theorem passing_of_readable {verify : Bool} {fs : List File}
    (readable : ((reached fs).flatMap File.met).findSome? (Line.refusal? verify) = none) :
    passing fs = .finished := by
  by_contra ending
  have stuck : fs.any File.sticks = true := by
    by_contra free
    exact ending (if_neg free)
  obtain ⟨f, mem, sticks⟩ := mem_upTo_of_any stuck
  obtain ⟨reason, fault⟩ := File.fault_of_sticks sticks
  have refused := List.findSome?_eq_none_iff.1 readable _ (List.mem_flatMap.2 ⟨f, mem, fault⟩)
  exact nomatch refused

/-- What a lenient and a strict run make of the same lines. The lenient one does not end if it comes
to the end of a file whose lines have none. -/
structure HandsOver (verify : Bool) (lines : List Line) (stuck : Bool) (handle : Handler σ) (s : σ)
    (lenient strict : Option (Except Error Unit) × List Call) : Prop where
  lenientCalls : lenient.2 = upTo Call.stops (handle.calls (good verify lines) s)
  lenientEnd : stuck = false ∨ (∃ c ∈ lenient.2, c.stops = true) → lenient.1 = some (.ok ())
  lenientEndless : stuck = true → (∀ c ∈ lenient.2, c.stops = false) → lenient.1 = none
  strictCalls :
    strict.2 = upTo (fun c => !c.goesOn) (handle.calls (good verify (accepted verify lines)) s)
  strictEnd : strict.1 = some (strictResult strict.2 (lines.findSome? (Line.refusal? verify)))
  strictPrefix : strict.2 <+: lenient.2
  eventsPrefix : lenient.2.map Prod.fst <+: good verify lines

/-- How a run ends, and the calls it makes. -/
def trace (o : Options) (tree : FileTree) (input : String) (handle : Handler σ) (s : σ) :
    Option (Except Error Unit) × List Call :=
  (outline (run o tree input handle s).1, (run o tree input handle.recorded ([], s)).2.1)

theorem trace_eq {o : Options} {tree : FileTree} {input : String} {fs : List File}
    (selected : File.select tree input = .ok fs) (handle : Handler σ) (s : σ) :
    trace o tree input handle s =
      (((passing (o.cut fs)).andThen
          (o.ending (o.made handle ((reached (o.cut fs)).flatMap File.met) s)
            (((reached (o.cut fs)).flatMap File.met).findSome? (Line.refusal? o.verify)))).result,
        o.made handle ((reached (o.cut fs)).flatMap File.met) s) := by
  have outcome := run_outcome (o := o) selected handle.recorded ([], s)
  rw [Options.outcome_recorded, Prod.mk.injEq, Options.outcome_ending] at outcome
  rw [trace, run_eq_recorded, outcome.1, outcome.2]
  rfl

theorem trace_lenient {o : Options} (lenient : o.lenient = true) {tree : FileTree}
    {input : String} {fs : List File} (selected : File.select tree input = .ok fs)
    (handle : Handler σ) (s : σ) :
    trace o tree input handle s =
      let calls := upTo Call.stops
        (handle.calls (good o.verify ((reached (o.cut fs)).flatMap File.met)) s)
      (if calls.any Call.stops then some (.ok ()) else (passing (o.cut fs)).result, calls) := by
  rw [trace_eq selected, Options.made_lenient lenient, Options.ending_lenient lenient]
  dsimp only
  rw [getLast?_any_upTo]
  split_ifs
  · rfl
  · rfl

theorem trace_strict {o : Options} (strict : o.lenient = false) {tree : FileTree}
    {input : String} {fs : List File} (selected : File.select tree input = .ok fs)
    (handle : Handler σ) (s : σ) :
    trace o tree input handle s =
      let lines := (reached (o.cut fs)).flatMap File.met
      let calls := upTo (fun c => !c.goesOn)
        (handle.calls (good o.verify (accepted o.verify lines)) s)
      (some (strictResult calls (lines.findSome? (Line.refusal? o.verify))), calls) := by
  rw [trace_eq selected, Options.made_strict strict,
    Options.result_strict strict _ passing_of_readable]

/-- The good lines of the files that are come to go to the handler in their order, and whatever ends
a run early only cuts off the last of them. -/
theorem run_handsOver (o : Options) (tree : FileTree) (input : String) (handle : Handler σ)
    (s : σ) :
    (∃ e, Unselected tree input e ∧ (∀ files, ¬ Selects tree input files) ∧
      ∀ lenient, trace { o with lenient := lenient } tree input handle s =
        (some (.error e), [])) ∨
    ∃ files lines, File.select tree input = .ok files ∧ Selects tree input files ∧
      List.Forall₂ File.Holds (reached (o.cut files)) lines ∧
      HandsOver o.verify lines.flatten ((o.cut files).any File.sticks) handle s
        (trace { o with lenient := true } tree input handle s)
        (trace { o with lenient := false } tree input handle s) := by
  cases selected : File.select tree input with
  | error e =>
    obtain ⟨reason, none⟩ := File.unselected selected
    refine .inl ⟨e, reason, none, fun lenient => ?_⟩
    rw [trace, run_missing selected, run_missing selected]
    rfl
  | ok fs =>
    refine .inr ⟨fs, (reached (o.cut fs)).map File.met, rfl, File.selects_of_select selected,
      File.forall₂_holds.2 rfl, ?_⟩
    obtain ⟨calls, made⟩ : ∃ calls, calls = upTo Call.stops
        (handle.calls (good o.verify ((reached (o.cut fs)).flatMap File.met)) s) := ⟨_, rfl⟩
    have lenient : trace { o with lenient := true } tree input handle s =
        (if calls.any Call.stops then some (.ok ()) else (passing (o.cut fs)).result, calls) := by
      rw [made]
      exact trace_lenient rfl selected handle s
    have strict := trace_strict (o := { o with lenient := false }) rfl selected handle s
    have initial := handle.calls_prefix
      (good_accepted o.verify ((reached (o.cut fs)).flatMap File.met)) s
    rw [← List.flatMap_def, lenient, strict]
    exact {
      lenientCalls := made
      lenientEnd := by
        rintro (free | stops)
        · have ends : passing (o.cut fs) = .finished := if_neg (by simp [free])
          dsimp only
          rw [ends]
          exact ite_self _
        · exact if_pos (List.any_eq_true.2 stops)
      lenientEndless := by
        intro stuck goesOn
        have endless : passing (o.cut fs) = .endless := if_pos stuck
        dsimp only at goesOn ⊢
        rw [if_neg (by simpa using goesOn), endless]
        rfl
      strictCalls := rfl
      strictEnd := rfl
      strictPrefix := made ▸ upTo_prefix initial fun c => c.not_goesOn_of_stops
      eventsPrefix := by
        rw [made]
        have events := (upTo_prefix_self Call.stops (handle.calls
          (good o.verify ((reached (o.cut fs)).flatMap File.met)) s)).map Prod.fst
        rwa [handle.map_fst_calls] at events }

/-- A line that is no JSON and a blank one, compressed. -/
def packedFile : File where
  name := "a.jsonl.gz"
  bytes := [0x1f, 0x8b, 8, 0, 0, 0, 0, 0, 0, 0xff, 1, 11, 0, 244, 255, 110, 111, 116, 32, 106,
    115, 111, 110, 10, 13, 10, 77, 189, 247, 39, 11, 0, 0, 0]

theorem contents_packedFile :
    packedFile.contents = ⟨written [("not json", .newline), ("", .returnAndNewline)], none⟩ := by
  decide +kernel

theorem met_packedFile : packedFile.met = [.text "not json", .text ""] := by
  have printable : ∀ l ∈ [("not json", LineEnd.newline), ("", LineEnd.returnAndNewline)],
      Printable l.1 := by simp [Printable]
  exact (File.met_opened rfl).trans (File.lines_of_written contents_packedFile printable)

theorem met_dumpSampleFile : dumpSampleFile.met = dumpSample.map fun e => .text e.text :=
  (File.met_opened rfl).trans
    (@File.lines_of_dump dumpSampleFile dumpSample [.returnAndNewline, .newline] rfl rfl)

def barredFile : File := ⟨"b.json", [], some "Permission denied (os error 13)"⟩

/-- A directory with a compressed file, a file that cannot be opened, and one with events. -/
def mixedDirectory : FileTree where
  root := "/data"
  files := [(["a.jsonl.gz"], packedFile.bytes), (["b.json"], []),
    (["dump.jsonl"], dumpSampleFile.bytes), (["notes.txt"], [120])]
  barred := [(["b.json"], "Permission denied (os error 13)")]

def mixedDirectoryLines : List (List Line) :=
  [[.text "not json", .text ""], [.unreadable "Permission denied (os error 13)"],
    dumpSample.map fun e => .text e.text]

theorem select_mixedDirectory :
    File.select mixedDirectory "." = .ok [packedFile, barredFile, dumpSampleFile] := by
  have entries : mixedDirectory.entries [] = [("a.jsonl.gz", packedFile.bytes), ("b.json", []),
      ("dump.jsonl", dumpSampleFile.bytes), ("notes.txt", [120])] :=
    List.mergeSort_of_pairwise (by simp; decide)
  have selected : File.select mixedDirectory "." = .ok (((mixedDirectory.entries []).filter
      fun f => File.holdsEvents f.1).map (fileOf mixedDirectory [])) := rfl
  rw [selected, entries]
  rfl

theorem sticks_mixedDirectory :
    ∀ f ∈ [packedFile, barredFile, dumpSampleFile], f.sticks = false := by
  have sound : packedFile.isEndless = false := by rw [File.isEndless, contents_packedFile]; rfl
  simp only [List.forall_mem_cons, List.not_mem_nil, false_implies, implies_true, and_true]
  exact ⟨by rw [File.sticks, sound, Bool.and_false], rfl, rfl⟩

theorem good_mixedDirectory : good false mixedDirectoryLines.flatten = dumpSample.take 1 := by
  obtain ⟨young, old, sample, timely, late⟩ : ∃ young old, dumpSample = [young, old] ∧
      genesis ≤ young.createdAt ∧ old.createdAt < genesis := ⟨_, _, rfl, by decide, by decide⟩
  have first : Line.event? false (.text young.text) = some young := by
    rw [Line.event?_eq, verdict_text (check_dumpSample _ (by simp [sample])),
      if_neg (UInt32.not_lt.2 timely)]
  have second : Line.event? false (.text old.text) = none := by
    rw [Line.event?_eq, verdict_text (check_dumpSample _ (by simp [sample])), if_pos late]
  have refused : Line.event? false (.text "not json") = none := rfl
  have blank : Line.event? false (.text "") = none := rfl
  have barred (reason : String) : Line.event? false (.unreadable reason) = none := rfl
  simp [mixedDirectoryLines, sample, good, first, second, refused, blank, barred]

theorem refusal_mixedDirectory : ∃ f, accepted false mixedDirectoryLines.flatten = [] ∧
    mixedDirectoryLines.flatten.findSome? (Line.refusal? false) = some (.json f) := ⟨_, rfl, rfl⟩

/-- The lenient run comes to the young event, and the strict one to the line that is no JSON. -/
theorem run_handsOver_mixed :
    ∃ files lines, Selects mixedDirectory "." files ∧
      List.Forall₂ File.Holds (reached (Options.cut { verify := false } files)) lines ∧
      lines = mixedDirectoryLines ∧
      HandsOver false lines.flatten false CommandLine.collect []
        (trace { verify := false } mixedDirectory "." CommandLine.collect [])
        (trace { verify := false, lenient := false } mixedDirectory "." CommandLine.collect []) ∧
      (trace { verify := false } mixedDirectory "." CommandLine.collect []).2 =
        (dumpSample.take 1).map (fun e => (e, .ok true)) ∧
      ∃ f, trace { verify := false, lenient := false } mixedDirectory "." CommandLine.collect [] =
        (some (.error (.json f)), []) := by
  rcases run_handsOver { verify := false } mixedDirectory "." CommandLine.collect [] with
    ⟨e, -, none, -⟩ | ⟨files, lines, selected, selects, holds, handsOver⟩
  · exact absurd (File.selects_of_select select_mixedDirectory) (none _)
  · obtain rfl := Except.ok.inj (selected.symm.trans select_mixedDirectory)
    have free : (Options.cut { verify := false } [packedFile, barredFile, dumpSampleFile]).any
        File.sticks = false := by
      rw [List.any_eq_false]
      exact fun f mem => by simp [sticks_mixedDirectory f mem]
    have whole : lines = mixedDirectoryLines := by
      rw [File.forall₂_holds.1 holds, reached_eq_self free]
      simp only [Options.cut, List.map_cons, List.map_nil, met_packedFile, met_dumpSampleFile]
      rfl
    rw [free] at handsOver
    obtain ⟨f, none, refused⟩ := refusal_mixedDirectory
    refine ⟨_, lines, selects, holds, whole, handsOver, ?_, f, Prod.ext ?_ ?_⟩
    · rw [handsOver.lenientCalls, whole, good_mixedDirectory]
      rfl
    · rw [handsOver.strictEnd, handsOver.strictCalls, whole, none, refused]
      rfl
    · rw [handsOver.strictCalls, whole, none]
      rfl

end RelayStore.Import

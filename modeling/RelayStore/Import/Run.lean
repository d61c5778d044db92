import RelayStore.Import.Files
import RelayStore.Import.Statistics

/-! Handing the good lines of files to a handler. -/
namespace RelayStore.Import

structure Options where
  verify : Bool := true
  /-- Whether bad lines and failures of the handler are passed over. -/
  lenient : Bool := true
  /-- How many files are read at most. -/
  limit : Option Nat := none
  deriving DecidableEq, Repr

/-- Takes an event, and says whether it wants more of them. -/
abbrev Handler (σ : Type) := Event → σ → Except Error Bool × σ

inductive Ending where
  | finished
  | stopped
  | failed (e : Error)
  /-- The run does not end. -/
  | endless
  deriving DecidableEq, Repr

structure Run (σ : Type) where
  state : σ
  statistics : Statistics := {}

/-- How one line ends the run, if it does. -/
def Options.ends (o : Options) : Verdict → Option Error
  | .unreadable reason => if o.lenient then none else some (.io reason)
  | .rejected e => if o.lenient then none else some e
  | _ => none

variable {σ : Type}

/-- What the handler's answer to an event means for the run. -/
def Options.after (o : Options) : Except Error Bool → Ending
  | .ok true => .finished
  | .ok false => .stopped
  | .error e => if o.lenient then .finished else .failed e

/-- Counts a line and handles the event on it. -/
def Run.line (o : Options) (handle : Handler σ) (l : Line) (r : Run σ) : Ending × Run σ :=
  let v := l.verdict o.verify
  let r := { r with statistics := r.statistics.count v }
  match v, o.ends v with
  | .good e, _ =>
    let (answer, state) := handle e r.state
    (o.after answer, { r with state := state })
  | _, some e => (.failed e, r)
  | _, none => (.finished, r)

def Run.lines (o : Options) (handle : Handler σ) : List Line → Run σ → Ending × Run σ
  | [], r => (.finished, r)
  | l :: rest, r =>
    match r.line o handle l with
    | (.finished, r) => r.lines o handle rest
    | stop => stop

def Run.countFile (r : Run σ) : Run σ :=
  { r with statistics := { r.statistics with files := r.statistics.files + 1 } }

/-- Reads a file to its end, or to the event at which the handler wants no more. Only such a file
counts. One that cannot be opened is passed over like a bad line. -/
def Run.file (o : Options) (handle : Handler σ) (f : File) (r : Run σ) : Ending × Run σ :=
  match f.barred with
  | some reason => (if o.lenient then .finished else .failed (.io reason), r)
  | none =>
    match r.lines o handle f.lines with
    | (.finished, r) => if f.isEndless then (.endless, r) else (.finished, r.countFile)
    | (.stopped, r) => (.stopped, r.countFile)
    | stop => stop

def Run.files (o : Options) (handle : Handler σ) : List File → Run σ → Ending × Run σ
  | [], r => (.finished, r)
  | f :: rest, r =>
    match r.file o handle f with
    | (.finished, r) => r.files o handle rest
    | stop => stop

/-- Reads the input and gives the statistics if the run ends, and the state that the handler leaves
in any case. -/
def run (o : Options) (tree : FileTree) (input : String) (handle : Handler σ) (state : σ) :
    Option (Except Error Statistics) × σ :=
  match File.select tree input with
  | .error e => (some (.error e), state)
  | .ok files =>
    let files := match o.limit with
      | some n => files.take n
      | none => files
    match Run.files o handle files { state := state } with
    | (.endless, r) => (none, r.state)
    | (.failed e, r) => (some (.error e), r.state)
    | (_, r) => (some (.ok r.statistics), r.state)

end RelayStore.Import

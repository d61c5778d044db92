import RelayStore.CommandLine.Help

/-! The arguments of the program. -/
namespace RelayStore.CommandLine

inductive Command where
  | serve
  | importFiles (input : String) (skipValidation stopOnError : Bool) (limit : Option Nat)
  | query (filter : String)
  | count (filter : String)
  | refreshHot
  deriving DecidableEq, Repr

/-- What the arguments ask for. -/
inductive Usage where
  | run (dotenv : Option String) (c : Command)
  | help (t : Topic)
  | version
  | wrong
  deriving DecidableEq, Repr

namespace Usage

/-- An argument that is an option. A single hyphen is not. -/
def isOption (arg : String) : Bool := arg.toList.head? = some '-' && arg ≠ "-"

/-- A long option with a value behind an equals sign. -/
def attached? (name arg : String) : Option String :=
  let start := (name ++ "=").toList
  if start.isPrefixOf arg.toList then some (String.ofList (arg.toList.drop start.length)) else none

/-- A call for help: the long option, or a cluster of short ones that starts with it. -/
def asksHelp (arg : String) : Bool := arg = "--help" || "-h".toList.isPrefixOf arg.toList

def asksVersion (arg : String) : Bool := arg = "--version" || "-V".toList.isPrefixOf arg.toList

/-- The value of an option: attached to it, or the next argument. -/
def value? (name arg : String) (rest : List String) : Option (String × List String) :=
  match attached? name arg, rest with
  | some v, _ => some (v, rest)
  | none, v :: rest => if isOption v then none else some (v, rest)
  | none, [] => none

def isNamed (name arg : String) : Bool := arg = name || (attached? name arg).isSome

/-- A command without arguments. -/
def ofNone (t : Topic) (c : Command) (dotenv : Option String) : List String → Usage
  | [] | ["--"] => run dotenv c
  | arg :: _ => if asksHelp arg then help t else wrong

/-- A command with one argument. -/
def ofOne (t : Topic) (c : String → Command) (dotenv : Option String) :
    Option String → List String → Usage
  | some v, [] => run dotenv (c v)
  | none, [] => wrong
  | seen, arg :: rest =>
    if arg = "--" then
      match seen.toList ++ rest with
      | [v] => run dotenv (c v)
      | _ => wrong
    else if asksHelp arg then help t
    else if isOption arg ∨ seen.isSome then wrong
    else ofOne t c dotenv (some arg) rest

/-- The arguments of an import so far. -/
structure ImportDraft where
  input : Option String := none
  skipValidation : Bool := false
  stopOnError : Bool := false
  limit : Option Nat := none

namespace ImportDraft

def usage (d : ImportDraft) (dotenv : Option String) : Usage :=
  match d.input with
  | some input => run dotenv (.importFiles input d.skipValidation d.stopOnError d.limit)
  | none => wrong

/-- There is one input, and it is not empty. -/
def setInput (d : ImportDraft) (input : String) : Option ImportDraft :=
  if d.input.isSome ∨ input = "" then none else some { d with input := some input }

def setLimit (d : ImportDraft) (text : String) : Option ImportDraft :=
  if d.limit.isSome then none
  else (Settings.readNat? UInt64.size text.toList).map fun n => { d with limit := some n }

end ImportDraft

/-- No option may be given twice. -/
def ofImport (dotenv : Option String) : Nat → ImportDraft → List String → Usage
  | 0, _, _ => wrong
  | _ + 1, d, [] => d.usage dotenv
  | fuel + 1, d, arg :: rest =>
    let go : Option ImportDraft → List String → Usage
      | some d, rest => ofImport dotenv fuel d rest
      | none, _ => wrong
    if arg = "--" then
      match rest.foldlM (fun d v => ImportDraft.setInput d v) d with
      | some d => d.usage dotenv
      | none => wrong
    else if asksHelp arg then help .importFiles
    else if arg = "--skip-validation" then
      go (if d.skipValidation then none else some { d with skipValidation := true }) rest
    else if arg = "--stop-on-error" then
      go (if d.stopOnError then none else some { d with stopOnError := true }) rest
    else if isNamed "--limit" arg then
      match value? "--limit" arg rest with
      | some (v, rest) => go (d.setLimit v) rest
      | none => wrong
    else if isOption arg then wrong
    else go (d.setInput arg) rest

def ofCommand (dotenv : Option String) (name : String) (args : List String) : Usage :=
  match name with
  | "serve" => ofNone .serve .serve dotenv args
  | "refresh-hot" => ofNone .refreshHot .refreshHot dotenv args
  | "query" => ofOne .query .query dotenv none args
  | "count" => ofOne .count .count dotenv none args
  | "import" => ofImport dotenv (args.length + 1) {} args
  | "help" =>
    match args with
    | [] => help .program
    | [name] => ((Topic.ofName? name).map help).getD wrong
    | _ => wrong
  | _ => wrong

/-- The options before the command, then the command. The first number counts arguments. -/
def parse : Nat → Option String → List String → Usage
  | 0, _, _ => wrong
  | _ + 1, _, [] => wrong
  | fuel + 1, dotenv, arg :: rest =>
    if asksHelp arg then help .program
    else if asksVersion arg then version
    else if isNamed "--dotenv" arg then
      match dotenv, value? "--dotenv" arg rest with
      | none, some (v, rest) => parse fuel (some v) rest
      | _, _ => wrong
    else if isOption arg then wrong
    else ofCommand dotenv arg rest

def ofArguments (args : List String) : Usage := parse (args.length + 1) none args

end Usage
end RelayStore.CommandLine

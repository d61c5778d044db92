/-! The files below a directory. -/
namespace RelayStore

/-- Files and directories, named by their paths from the root. -/
structure FileTree where
  /-- The path of the root itself. -/
  root : String
  files : List (List String × List UInt8) := []
  directories : List (List String) := []
  /-- What is there but cannot be opened, with what the system says. -/
  barred : List (List String × String) := []
  deriving DecidableEq, Repr

namespace FileTree

/-- Splits a path at its slashes. -/
def segments (path : String) : List String :=
  (go [] path.toList).map String.ofList
where
  go (segment : List Char) : List Char → List (List Char)
    | [] => [segment.reverse]
    | c :: rest => if c = '/' then segment.reverse :: go [] rest else go (c :: segment) rest

/-- The first name of an absolute path. -/
def top : String := "/"

/-- The names on a path, without those that say nothing. -/
def steps (path : String) : List String :=
  let inside := (segments path).filter fun s => s ≠ "" ∧ s ≠ "."
  if path.startsWith top then top :: inside else inside

/-- Adds a file in place of one that is there, or a directory if the path ends with a slash. -/
def add (t : FileTree) (path : String) (bytes : List UInt8) : FileTree :=
  if path.endsWith "/" then { t with directories := t.directories ++ [steps path] }
  else { t with files := (t.files.filter fun f => f.1 ≠ steps path) ++ [(steps path, bytes)] }

/-- Keeps what is at a path from being opened. -/
def bar (t : FileTree) (path reason : String) : FileTree :=
  { t with barred := t.barred ++ [(steps path, reason)] }

/-- What can be read, and is empty, but is not a file. -/
def nullDevice : List String := [top, "dev", "null"]

def liesIn (inner outer : List String) : Bool :=
  outer.isPrefixOf inner && decide (outer.length < inner.length)

/-- The root is a directory, and so is all that it lies in. -/
def isDirectory (t : FileTree) (names : List String) : Bool :=
  names.all (· = "..") || liesIn nullDevice names || t.directories.contains names ||
    t.files.any fun f => liesIn f.1 names

def bytes? (t : FileTree) (names : List String) : Option (List UInt8) :=
  (t.files.find? fun f => f.1 = names).map (·.2)

/-- Why something cannot be opened. -/
def barred? (t : FileTree) (names : List String) : Option String :=
  (t.barred.find? fun f => f.1 = names).map (·.2)

/-- What reading gives, of a file or of the device. -/
def contents? (t : FileTree) (names : List String) : Option (List UInt8) :=
  if names = nullDevice then some [] else t.bytes? names

def isThere (t : FileTree) (names : List String) : Bool :=
  (t.contents? names).isSome || t.isDirectory names

/-- Follows the segments of a path from a directory. What lies above the root keeps its dots. -/
def follow (t : FileTree) : List String → List String → Option (List String)
  | names, [] => some names
  | names, s :: rest =>
    if s = "" ∨ s = "." then if t.isDirectory names then t.follow names rest else none
    else if s = ".." then
      if names = [top] then t.follow names rest
      else if names.all (· = "..") then t.follow (names ++ [s]) rest
      else if t.isDirectory names then t.follow names.dropLast rest
      else none
    else t.follow (names ++ [s]) rest

/-- Where a path leads. Relative paths start at the root. -/
def locate (t : FileTree) (path : String) : Option (List String) :=
  if path = "" then none
  else match segments path with
    | s :: rest =>
      if s = "" then t.follow [top] rest
      else if s = t.root then t.follow [] rest
      else t.follow [] (s :: rest)
    | [] => none

/-- The files right inside a directory, sorted by name. -/
def entries (t : FileTree) (names : List String) : List (String × List UInt8) :=
  let inside := t.files.filterMap fun f =>
    if f.1.dropLast = names then f.1.getLast?.map fun name => (name, f.2) else none
  inside.mergeSort fun a b => decide (a.1 ≤ b.1)

/-- Cuts a file name at its last full stop, unless that is its first character. -/
def splitExtension (name : String) : String × Option String :=
  let tail := name.toList.reverse.takeWhile (· ≠ '.')
  match name.toList.reverse.dropWhile (· ≠ '.') with
  | [] | [_] => (name, none)
  | _ :: stem => (String.ofList stem.reverse, some (String.ofList tail.reverse))

end FileTree
end RelayStore

import RelayStore.Compress.Gzip
import RelayStore.FileTree
import RelayStore.Import.Line

/-! The files that an import reads. -/
namespace RelayStore.Import

structure File where
  name : String
  bytes : List UInt8
  /-- Why the file cannot be opened. -/
  barred : Option String := none
  deriving DecidableEq, Repr

namespace File

def isGzip (name : String) : Bool := (FileTree.splitExtension name).2 = some "gz"

/-- Whether a name promises lines of JSON, compressed or not. -/
def holdsEvents (name : String) : Bool :=
  let (stem, extension) := FileTree.splitExtension name
  let extension := if extension = some "gz" then (FileTree.splitExtension stem).2 else extension
  extension = some "jsonl" || extension = some "json" || extension = some "ndjson"

/-- What is to be read of a file, inflated if it is compressed. -/
def contents (f : File) : Compress.Gzip.Contents :=
  if isGzip f.name then Compress.Gzip.decode f.bytes else ⟨f.bytes, none⟩

/-- What is wrong behind the bytes that can be read. -/
def fault? (f : File) : Option String := f.contents.stop.map fun s => s.refusal.message

def lines (f : File) : List Line := Line.split f.fault? [] f.contents.bytes

/-- Whether the last of the lines comes again and again. -/
def isEndless (f : File) : Bool := f.contents.stop.any Compress.Gzip.Stop.repeats

/-- A single file is read whatever its name. Of a directory the files right inside are read that
hold events, in the order of their names. -/
def select (tree : FileTree) (input : String) : Except Error (List File) :=
  let missing : Except Error (List File) := .error (.io ("Input path does not exist: " ++ input))
  match tree.locate input with
  | none => missing
  | some names =>
    match tree.bytes? names with
    | some bytes => .ok [⟨names.getLastD "", bytes, tree.barred? names⟩]
    | none =>
      if tree.isDirectory names then
        match tree.barred? names with
        | some reason => .error (.io reason)
        | none => .ok (((tree.entries names).filter fun f => holdsEvents f.1).map fun f =>
            ⟨f.1, f.2, tree.barred? (names ++ [f.1])⟩)
      else missing

end File
end RelayStore.Import

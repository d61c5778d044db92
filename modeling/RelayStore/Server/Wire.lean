import RelayStore.Server.Client

/-! Requests and answers as bytes on the wire. -/
namespace RelayStore.Server.Wire

/-! Requests. -/

def methodText : Method → String
  | .get => "GET"
  | .post => "POST"

def target (a : Address) (r : Request) : String :=
  (if a.path = "" then "/" else a.path) ++ "?" ++ Url.form r.params

def lineEnd : String := "\x0d\x0a"

/-- The connection is closed behind the answer. -/
def requestBytes (a : Address) (r : Request) : List UInt8 :=
  let lines := [
    methodText r.method ++ " " ++ target a r ++ " HTTP/1.1",
    "host: " ++ a.host.text ++ ":" ++ toString a.socket,
    "connection: close",
    "content-length: " ++ toString r.body.length]
  (String.join (lines.map (· ++ lineEnd)) ++ lineEnd).toUTF8.toList ++ r.body

/-! Answers. -/

/-- A line and what stands behind its end. -/
def cutLine (done : List Char) : List UInt8 → Option (List Char × List UInt8)
  | 13 :: 10 :: rest => some (done.reverse, rest)
  | b :: rest => cutLine (Char.ofNat b.toNat :: done) rest
  | [] => none

/-- The second word of the first line. -/
def readStatus (line : List Char) : Option Nat :=
  let word := ((line.dropWhile (· ≠ ' ')).drop 1).takeWhile (· ≠ ' ')
  (String.ofList word).toNat?

structure Fields where
  length : Option Nat := none
  chunked : Bool := false
  deriving DecidableEq, Repr

def Fields.add (f : Fields) (line : List Char) : Fields :=
  let name := String.ofList ((line.takeWhile (· ≠ ':')).map Char.toLower)
  let value := String.ofList ((Text.trimList ((line.dropWhile (· ≠ ':')).drop 1)).map Char.toLower)
  if name = "content-length" then { f with length := value.toNat? }
  else if name = "transfer-encoding" then { f with chunked := decide (value = "chunked") }
  else f

/-- The header fields up to the empty line. -/
def readFields : Nat → Fields → List UInt8 → Option (Fields × List UInt8)
  | 0, _, _ => none
  | fuel + 1, f, bytes =>
    match cutLine [] bytes with
    | none => none
    | some ([], rest) => some (f, rest)
    | some (line, rest) => readFields fuel (f.add line) rest

def takeAll (n : Nat) (bytes : List UInt8) : Option (List UInt8) :=
  if bytes.length < n then none else some (bytes.take n)

def hexValue (digits : List Char) : Option Nat :=
  if digits = [] then none
  else digits.foldlM (fun n c => (Text.hexDigitValue? c).map fun d => 16 * n + d) 0

/-- Chunks up to the empty one, each behind its length. -/
def joinChunks : Nat → List UInt8 → Option (List UInt8)
  | 0, _ => none
  | fuel + 1, bytes => do
    let (line, rest) ← cutLine [] bytes
    match ← hexValue (line.takeWhile fun c => c ≠ ';' ∧ c ≠ ' ') with
    | 0 => return []
    | n => return (← takeAll n rest) ++ (← joinChunks fuel (rest.drop (n + 2)))

/-- The answer in everything that was received. It is missing if it was cut off. -/
def readReply (bytes : List UInt8) : Option Reply := do
  let (first, rest) ← cutLine [] bytes
  let status ← readStatus first
  let (f, rest) ← readFields bytes.length {} rest
  let body ← if f.chunked then joinChunks rest.length rest else match f.length with
    | some n => takeAll n rest
    | none => some rest
  return ⟨status, body⟩

end RelayStore.Server.Wire

import RelayStore.CommandLine.Run
import RelayStore.Server.Wire
import Std.Async
import Std.Http

/-! The program: it reads the files it is told of, talks to the network and prints. -/
namespace RelayStore.Main
open Std.Async Std.Net

/-! Files and variables. -/

def knownVariables : List String := ["DOTENV_PATH", "CLICKHOUSE_URL", "CLICKHOUSE_DATABASE",
  "STORE_BATCH_SIZE", "STORE_FLUSH_INTERVAL_MS", "STORE_QUEUE_CAPACITY", "STORE_QUERY_TIMEOUT_SECS",
  "STORE_HOT_REFRESH_SECS", "STORE_HOT_MAX_POSTS", "STORE_STATS_INTERVAL_SECS", "STORE_BIND_ADDR",
  "STORE_METRICS_PORT"]

def readEnvironment : IO Environment := do
  let set ← knownVariables.mapM fun name => return (name, ← IO.getEnv name)
  return set.filterMap fun (name, value) => value.map fun text => (name, text.toUTF8.toList)

/-- What the system says of something that cannot be opened. -/
def reason : IO.Error → String
  | .permissionDenied .. => "Permission denied (os error 13)"
  | e => toString e

/-- Adds a file, also one that cannot be opened. -/
def addFile (t : FileTree) (path : String) : IO FileTree := do
  try return t.add path (← IO.FS.readBinFile path).toList
  catch e => return (t.add path []).bar path (reason e)

/-- Adds a directory with what is right inside it. -/
def addDirectory (t : FileTree) (path : String) : IO FileTree := do
  let t := t.add (path ++ "/") []
  try
    let entries ← (← IO.FS.realPath path).readDir
    entries.toList.foldlM (fun t e => do
      let inner := path ++ "/" ++ e.fileName
      if ← e.path.isDir then return t.add (inner ++ "/") [] else addFile t inner) t
  catch e => return t.bar path (reason e)

/-- Adds what a path names, if there is something. -/
def addPath (t : FileTree) (path : String) : IO FileTree := do
  try
    let place ← IO.FS.realPath path
    if ← place.isDir then addDirectory t path
    else if ← place.pathExists then addFile t path
    else return t
  catch _ => return t

/-- The files that the arguments name. -/
def readFiles (env : Environment) (args : List String) : IO FileTree := do
  let empty : FileTree := { root := FileTree.top }
  match CommandLine.Usage.ofArguments args with
  | .run dotenv command =>
    let dotenv := (CommandLine.dotenvPath? env dotenv).toList
    let input := match command with
      | .importFiles input _ _ _ => [input]
      | _ => []
    (dotenv ++ input).foldlM addPath empty
  | _ => return empty

/-! The network. -/

def socketAddress (ip : IPAddr) (socket : Nat) : SocketAddress :=
  match ip with
  | .v4 a => .v4 ⟨a, socket.toUInt16⟩
  | .v6 a => .v6 ⟨a, socket.toUInt16⟩

partial def receive (client : TCP.Socket.Client) (received : ByteArray) : Async ByteArray := do
  match ← client.recv? 65536 with
  | some bytes => receive client (received ++ bytes)
  | none => return received

def send (ip : IPAddr) (a : Server.Address) (r : Server.Request) :
    Async (Except String Server.Reply) := do
  let client ← TCP.Socket.Client.mk
  client.connect (socketAddress ip a.socket)
  client.send ⟨(Server.Wire.requestBytes a r).toArray⟩
  let bytes ← receive client .empty
  return match Server.Wire.readReply bytes.toList with
    | some reply => .ok reply
    | none => .error "connection closed before message completed"

def transport : Server.Transport Async := fun a r => do
  if a.scheme ≠ "http" then return .error "client error (Connect)"
  try
    match (← DNS.getAddrInfo a.host.bare (toString a.socket))[0]? with
    | some ip => send ip a r
    | none => return .error "client error (Connect)"
  catch _ => return .error "client error (Connect)"

def clock : Async Nat := do
  let now ← Std.Time.Timestamp.now
  return now.toNanosecondsSinceUnixEpoch.val.toNat / 1000

def within {α : Type} (limit : Decimal.Span) (x : Async α) : Async (Option α) :=
  Async.race (do return some (← x)) (do
    sleep (.ofNat limit.millis)
    return none)

/-! Serving. -/

structure Responder where
  duty : CommandLine.Duty Async

def answer (r : Responder) (head : Std.Http.Request.Head) :
    Async (Std.Http.Response Std.Http.Body.Full) := do
  let response ← r.duty.respond (toString head.method) (toString head.uri)
  let status : Std.Http.Status := match response.status with
    | 200 => .ok
    | 404 => .notFound
    | 405 => .methodNotAllowed
    | _ => .serviceUnavailable
  (Std.Http.Response.withStatus status).json response.body

instance : Std.Http.Server.Handler Responder where
  ResponseBody := Std.Http.Body.Full
  onRequest r request := answer r request.line

partial def refreshForever (duty : CommandLine.Duty Async) (runs : VersionClock) : Async Unit := do
  let runs ← duty.refresh runs
  sleep (.ofNat duty.refreshInterval.millis)
  refreshForever duty runs

def splitSocket? (address : String) : Option (String × Nat) :=
  match address.splitOn ":" with
  | [host, socket] => (Settings.readNat? 65536 socket.toList).map fun n => (host, n)
  | _ => none

def waitForSignal : Async Unit := do
  let interrupt ← Signal.Waiter.mk .sigint false
  let terminate ← Signal.Waiter.mk .sigterm false
  Selectable.one #[.case interrupt.selector pure, .case terminate.selector pure]

def serve (address : String) (duty : CommandLine.Duty Async) : Async Bool := do
  try
    match splitSocket? address with
    | none => return false
    | some (host, socket) =>
      match (← DNS.getAddrInfo host (toString socket))[0]? with
      | none => return false
      | some ip =>
        let server ← Std.Http.Server.serve (socketAddress ip socket) (Responder.mk duty)
        background (refreshForever duty {})
        waitForSignal
        server.shutdownAndWait
        return true
  catch _ => return false

/-! Printing. -/

def report (outcome : CommandLine.Outcome) : IO Unit := do
  for path in outcome.loaded do
    IO.eprintln ("Loaded environment from " ++ path)
  for line in outcome.output do
    IO.println line
  for failure in outcome.failure do
    IO.eprintln ("Error: " ++ failure.message)
    for cause in failure.causes do
      IO.eprintln ("  " ++ cause)

/-- Waits for ever. -/
partial def linger : IO UInt32 := do
  IO.sleep 60000
  linger

end RelayStore.Main

open RelayStore in
def main (args : List String) : IO UInt32 := do
  let env ← Main.readEnvironment
  let machine : CommandLine.Machine Std.Async.Async := {
    environment := env
    files := ← Main.readFiles env args
    transport := Main.transport
    clock := Main.clock
    within := Main.within
    serve := Main.serve }
  let outcome ← (CommandLine.run machine args).block
  Main.report outcome
  match outcome.exit with
  | some code => return code.toUInt32
  | none => Main.linger

import RelayStore.Plan.Statement
import RelayStore.Server.Address
import RelayStore.Server.RowBinary
import RelayStore.Server.Template
import RelayStore.Text.Blank
import RelayStore.Url.Form

/-! The conversation with the database server over HTTP. -/
namespace RelayStore.Server
open RowBinary

inductive Method where
  | get
  | post
  deriving DecidableEq, Repr

structure Request where
  method : Method
  params : List (String × String)
  body : List UInt8 := []
  deriving DecidableEq, Repr

structure Reply where
  status : Nat := 200
  body : List UInt8 := []
  deriving DecidableEq, Repr

/-- Sends a request to an address. The answer may be missing for a reason of the network. -/
abbrev Transport (m : Type → Type) := Address → Request → m (Except String Reply)

variable {m : Type → Type} [Monad m]

/-- No server can be reached. -/
def unreachable : Transport m := fun _ _ => pure (.error "client error (Connect)")

structure Client where
  address : String := "http://localhost:8123"
  database : String
  deriving DecidableEq, Repr

/-- The longest statement that a request for reading carries among its parameters. -/
def longestParam : Nat := 8192

namespace Client

/-- A question is read only. A long one goes into the body. -/
def question (c : Client) (sql : String) : Request :=
  if sql.utf8ByteSize ≤ longestParam then ⟨.get, [("database", c.database), ("query", sql)], []⟩
  else ⟨.post, [("database", c.database), ("readonly", "1")], sql.toUTF8.toList⟩

def order (c : Client) (sql : String) : Request :=
  ⟨.post, [("database", c.database)], sql.toUTF8.toList⟩

/-- An insert into a table of the database. Of every row the same columns are written. -/
def insertion (c : Client) (table : String) (rows : List (List Field)) : Request :=
  let columns := (rows.head?.getD []).map fun f => quote backquote f.1
  let names := String.intercalate "," columns
  let sql := "INSERT INTO " ++ table ++ "(" ++ names ++ ") FORMAT RowBinary"
  ⟨.post, [("database", c.database), ("query", sql)], rows.flatMap fun r => r.flatMap (·.2)⟩

/-- What the server says when it refuses a request. -/
def refusal (r : Reply) : DatabaseError :=
  match String.fromUTF8? ⟨r.body.toArray⟩ with
  | some s => .refused (Text.trim s)
  | none => .refused (toString r.status)

/-- The body of an answer that is no refusal. -/
def received : Except String Reply → Except DatabaseError (List UInt8)
  | .error reason => .error (.network reason)
  | .ok reply => if reply.status = 200 then .ok reply.body else .error (refusal reply)

/-- Sends what can be said to a server that has an address, and reads the answer. -/
def exchange {α : Type} (c : Client) (t : Transport m) (request : Except DatabaseError Request)
    (read : List UInt8 → Except DatabaseError α) : m (Except Error α) :=
  match request with
  | .error e => pure (.error (.database e))
  | .ok r =>
    match Address.ofText c.address (Url.form r.params) with
    | .error f => pure (.error (.database (.badStatement f.message)))
    | .ok address => do
      let answer ← t address r
      pure ((received answer >>= read).mapError .database)

def done (_ : List UInt8) : Except DatabaseError Unit := .ok ()

def rowColumns : List String :=
  ["id", "pubkey", "created_at", "kind", "content", "sig", "tags_json"]

def query (c : Client) (t : Transport m) (p : Plan) : m (Except Error (List QueryRow)) :=
  match p.select c.database with
  | .error e => pure (.error (.preparation e.message))
  | .ok s =>
    c.exchange t ((fillQuery s.sql s.params rowColumns).map c.question) (readAll readQueryRow)

def count (c : Client) (t : Transport m) (p : Plan) (approximate : Bool) : m (Except Error Nat) :=
  match p.count c.database approximate with
  | .error e => pure (.error (.preparation e.message))
  | .ok s => c.exchange t ((fillQuery s.sql s.params []).map c.question) (readOne (readNumber 8))

/-- Rows are inserted all together, and nothing is sent for none of them. -/
def insertRows (c : Client) (t : Transport m) (table : String) (rows : List (List Field)) :
    m (Except Error Unit) :=
  if rows = [] then pure (.ok ()) else c.exchange t (.ok (c.insertion table rows)) done

def insert (c : Client) (t : Transport m) (rows : List EventRow) : m (Except Error Unit) :=
  c.insertRows t Table.events.name (rows.map eventFields)

def engagementColumns : List String :=
  ["event_id", "pubkey", "kind", "created_at", "replies", "reactions", "reposts", "zaps",
    "zap_msats"]

/-- The counters of the events since a time, summed up. -/
def engagementText (database : String) : String :=
  "SELECT
                c.target_event_id AS event_id,
                e.pubkey AS pubkey,
                e.kind AS kind,
                e.created_at AS created_at,
                sum(c.replies) AS replies,
                sum(c.reactions) AS reactions,
                sum(c.reposts) AS reposts,
                sum(c.zaps) AS zaps,
                sum(c.zap_msats) AS zap_msats
            FROM " ++ database ++ ".engagement_counters AS c
            INNER JOIN (
                SELECT id, pubkey, kind, created_at
                FROM " ++ database ++ ".events FINAL
                WHERE deleted = 0 AND created_at >= ?
            ) AS e ON e.id = c.target_event_id
            GROUP BY event_id, pubkey, kind, created_at"

def engagement (c : Client) (t : Transport m) (since : UInt32) :
    m (Except Error (List Engagement)) :=
  let sql := fillQuery (engagementText c.database) [.number since.toNat] engagementColumns
  c.exchange t (sql.map c.question) (readAll readEngagement)

def hotPostsTable : String := "hot_posts"

/-- Removes the posts that are too old and those of the runs before. -/
def evictionText (database : String) : String :=
  "ALTER TABLE " ++ database ++ "." ++ hotPostsTable ++ " DELETE WHERE created_at < ? OR run_id < ?"

def evict (c : Client) (t : Transport m) (runId : Nat) (horizon : UInt32) : m (Except Error Unit) :=
  let sql := fill (evictionText c.database) [.number horizon.toNat, .number runId]
  c.exchange t (sql.map c.order) done

/-- The new ranking is added before the old one is removed. -/
def replaceHot (c : Client) (t : Transport m) (rows : List HotPost) (runId : Nat)
    (horizon : UInt32) :
    m (Except Error Unit) := do
  match ← c.insertRows t hotPostsTable (rows.map hotPostFields) with
  | .error e => pure (.error e)
  | .ok () => c.evict t runId horizon

def pinged : Nat → Except Error Unit
  | 1 => .ok ()
  | n => .error (.store ("unexpected ping result " ++ toString n))

def ping (c : Client) (t : Transport m) : m (Except Error Unit) := do
  let n ← c.exchange t ((fillQuery "SELECT 1" [] []).map c.question) (readOne (readNumber 1))
  pure (n >>= pinged)

end Client
end RelayStore.Server

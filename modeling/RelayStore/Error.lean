import RelayStore.Decimal.Span
import RelayStore.Filter
import RelayStore.Json.Decode

/-! What can go wrong while events are read, stored and asked for. -/
namespace RelayStore

/-- A failure of the conversation with the database server. -/
inductive DatabaseError where
  | badStatement (reason : String)
  | network (reason : String)
  | shortAnswer
  | notText
  | noRow
  | refused (answer : String)
  | other (reason : String)
  deriving DecidableEq, Repr

def DatabaseError.message : DatabaseError → String
  | .badStatement reason => "invalid params: " ++ reason
  | .network reason => "network error: " ++ reason
  | .shortAnswer => "not enough data, probably a row type mismatches a database schema"
  | .notText => "string is not valid utf8"
  | .noRow => "no rows returned by a query that expected to return at least one row"
  | .refused answer => "bad response: " ++ answer
  | .other reason => reason

/-- Why an event is not accepted as signed by its author. -/
inductive SignatureError where
  | unreadable
  | wrongId
  | wrongSignature
  deriving DecidableEq, Repr

def SignatureError.message : SignatureError → String
  | .unreadable => "not a signed event"
  | .wrongId => "Invalid event ID"
  | .wrongSignature => "Invalid signature"

inductive Error where
  | database (e : DatabaseError)
  | invalidField (field reason : String)
  | invalidFilter (reason : String)
  | json (f : Json.Failure)
  | signature (e : SignatureError)
  | io (text : String)
  | preparation (reason : String)
  | execution (table operation : String) (source : Error)
  | cancelled (operation : String)
  | timeout (operation : String) (limit : Decimal.Span)
  | ingestClosed
  | config (reason : String)
  | store (reason : String)
  deriving DecidableEq, Repr

def Json.Failure.message : Json.Failure → String
  | .fault .ended => "the text ends too early"
  | .fault .malformed => "the text is malformed"
  | .data m => m.message

/-- A constraint that is refused is an error of its filter. -/
def TagRefusal.error (r : TagRefusal) : Error := .invalidFilter r.message

namespace Error

def message : Error → String
  | database e => "ClickHouse error: " ++ e.message
  | invalidField field reason => "invalid field '" ++ field ++ "': " ++ reason
  | invalidFilter reason => Filter.refusalText reason
  | json f => "JSON error: " ++ f.message
  | signature e => "nostr error: " ++ e.message
  | io text => "I/O error: " ++ text
  | preparation reason => "Preparation error: " ++ reason
  | execution table operation source =>
    operation ++ " on " ++ table ++ " failed: " ++ source.message
  | cancelled operation => operation ++ " cancelled"
  | timeout operation limit => operation ++ " timed out after " ++ limit.text
  | ingestClosed => "Ingestor is closed"
  | config reason => "Configuration error: " ++ reason
  | store reason => "Store error: " ++ reason

/-- The messages of the errors behind an error, the nearest first. -/
def causes : Error → List String
  | database e => [e.message]
  | json f => [f.message]
  | signature e => [e.message]
  | io text => [text]
  | execution _ _ source => source.message :: source.causes
  | _ => []

/-- Names the table and the operation of a failed call of the store. An error that says which call
it belongs to, and one of a statement that was never sent, stay as they are. -/
def during (table operation : String) : Error → Error
  | execution t o source => execution t o source
  | cancelled o => cancelled o
  | timeout o limit => timeout o limit
  | preparation reason => preparation reason
  | source => execution table operation source

end Error
end RelayStore

import RelayStore.Plan.Schema

/-! Conditions on columns, and the statements they are put into. Values never enter the text of a
statement: where one belongs, the text has a question mark. -/
namespace RelayStore

/-- A value bound to a question mark. -/
inductive Param where
  | text (s : String)
  | number (n : Nat)
  | texts (xs : List String)
  deriving DecidableEq, Repr

inductive Condition where
  | equals (v : Param)
  | oneOf (vs : List Param)
  | atLeast (v : Param)
  | atMost (v : Param)
  | hasAny (v : Param)
  | hasToken (v : Param)
  | contains (v : Param)
  | tagEntry (name values : Param)
  deriving DecidableEq, Repr

structure Predicate where
  column : Column
  condition : Condition
  deriving DecidableEq, Repr

/-- A piece of a statement: text, or a question mark with its value. -/
inductive Piece where
  | text (s : String)
  | hole (v : Param)
  deriving DecidableEq, Repr

structure Statement where
  pieces : List Piece
  deriving DecidableEq, Repr

def Piece.sql : Piece → String
  | text s => s
  | hole _ => "?"

def Piece.param? : Piece → Option Param
  | text _ => none
  | hole v => some v

namespace Statement

def sql (s : Statement) : String := String.join (s.pieces.map Piece.sql)

/-- The values in the order of their question marks. -/
def params (s : Statement) : List Param := s.pieces.filterMap Piece.param?

end Statement

/-- A list of no values: no row could ever be in it, and no statement can say so. -/
structure EmptyList where
  column : Column
  deriving DecidableEq, Repr

def EmptyList.message (e : EmptyList) : String := "empty IN list for " ++ e.column.name

/-- The question marks of a list with a comma between each two. -/
def holes : List Param → List Piece
  | [] => []
  | [v] => [.hole v]
  | v :: vs => .hole v :: .text ", " :: holes vs

def Predicate.pieces (p : Predicate) : Except EmptyList (List Piece) :=
  let column := p.column.name
  match p.condition with
  | .equals v => .ok [.text column, .text " = ", .hole v]
  | .oneOf [] => .error ⟨p.column⟩
  | .oneOf vs => .ok ([.text column, .text " IN ("] ++ holes vs ++ [.text ")"])
  | .atLeast v => .ok [.text column, .text " >= ", .hole v]
  | .atMost v => .ok [.text column, .text " <= ", .hole v]
  | .hasAny v => .ok [.text "hasAny(", .text column, .text ", ", .hole v, .text ")"]
  | .hasToken v => .ok [.text "hasToken(", .text column, .text ", ", .hole v, .text ")"]
  | .contains v => .ok [.text "position(", .text column, .text ", ", .hole v, .text ") > 0"]
  | .tagEntry name values =>
    .ok [.text "arrayExists(t -> t[1] = ", .hole name, .text " AND has(", .hole values,
      .text ", t[2]), ", .text column, .text ")"]

/-- The conditions joined by `AND`, each with the word before it. -/
def conjunction (word : String) : List Predicate → Except EmptyList (List Piece)
  | [] => .ok []
  | p :: ps => do
    let first ← p.pieces
    let rest ← conjunction " AND " ps
    return .text word :: first ++ rest

/-- The rows to read: where from, under which conditions and how many at most. -/
structure Plan where
  table : Table
  predicates : List Predicate
  limit : UInt32
  deriving DecidableEq, Repr

namespace Plan

/-- Nothing but deleted rows is left out. -/
def unconstrained (p : Plan) : Bool := p.predicates.all fun c => c.column = .deleted

/-- The table, under its newest versions only. -/
def source (p : Plan) (database : String) : List Piece :=
  (if database = "" then [] else [.text database, .text "."]) ++
    [.text p.table.name, .text " FINAL"]

def conditions (p : Plan) : Except EmptyList (List Piece) := conjunction " WHERE " p.predicates

def selected : String :=
  "id, pubkey, created_at, kind, content, sig, toJSONString(tags) AS tags_json"

/-- The rows, newest first. -/
def select (p : Plan) (database : String) : Except EmptyList Statement := do
  let conditions ← p.conditions
  return ⟨[.text "SELECT ", .text selected, .text " FROM "] ++ p.source database ++ conditions ++
    [.text " ORDER BY created_at DESC LIMIT ", .text (toString p.limit)]⟩

/-- The number of distinct ids, exact or estimated. -/
def count (p : Plan) (database : String) (approximate : Bool) : Except EmptyList Statement := do
  let conditions ← p.conditions
  let function := if approximate then "uniq" else "uniqExact"
  return ⟨[.text "SELECT ", .text function, .text "(id) FROM "] ++ p.source database ++ conditions⟩

end Plan
end RelayStore

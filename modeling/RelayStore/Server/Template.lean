import RelayStore.Error
import RelayStore.Plan.Statement

/-! Texts of statements with holes, and how values are written into them. -/
namespace RelayStore.Server

def apostrophe : Char := Char.ofNat 0x27

def backquote : Char := Char.ofNat 0x60

/-- A quoted text: a backslash goes before whatever could end it or be read as something else. -/
def quote (mark : Char) (s : String) : String :=
  let escaped := s.toList.flatMap fun c =>
    if c = '\\' ∨ c = apostrophe ∨ c = backquote ∨ c = '\t' ∨ c = '\n' then ['\\', c] else [c]
  String.ofList (mark :: escaped ++ [mark])

def literal : Param → String
  | .text s => quote apostrophe s
  | .number n => toString n
  | .texts xs => "[" ++ String.intercalate "," (xs.map (quote apostrophe)) ++ "]"

inductive TemplatePart where
  | text (s : List Char)
  | hole
  | columns
  deriving DecidableEq, Repr

def columnsWord : List Char := "fields".toList

/-- Cuts a template at its question marks. Two of them stand for one; one with the word for columns
behind it stands for their names. -/
def parseTemplate : Nat → List Char → List Char → List TemplatePart
  | 0, done, rest => [.text (done.reverse ++ rest)]
  | _ + 1, done, [] => if done = [] then [] else [.text done.reverse]
  | fuel + 1, done, '?' :: '?' :: rest => parseTemplate fuel ('?' :: done) rest
  | fuel + 1, done, '?' :: rest =>
    let before : List TemplatePart := if done = [] then [] else [.text done.reverse]
    if columnsWord.isPrefixOf rest then
      before ++ .columns :: parseTemplate fuel [] (rest.drop columnsWord.length)
    else before ++ .hole :: parseTemplate fuel [] rest
  | fuel + 1, done, c :: rest => parseTemplate fuel (c :: done) rest

def badTemplate (reason : String) : DatabaseError := .badStatement ("invalid SQL: " ++ reason)

/-- Puts a value into the first hole. -/
def bind (value : String) : List TemplatePart → Option (List TemplatePart)
  | [] => none
  | .hole :: rest => some (.text value.toList :: rest)
  | part :: rest => (bind value rest).map (part :: ·)

def bindAll : List Param → List TemplatePart → Except DatabaseError (List TemplatePart)
  | [], parts => .ok parts
  | p :: ps, parts =>
    match bind (literal p) parts with
    | some parts => bindAll ps parts
    | none => .error (badTemplate "unexpected bind(), all arguments are already bound")

/-- The names of the columns of an answer, if it has columns. -/
def bindColumns (columns : List String) (part : TemplatePart) : Except DatabaseError TemplatePart :=
  match part, columns with
  | .columns, [] =>
    .error (badTemplate "argument ?fields cannot be used with non-struct row types")
  | .columns, _ => .ok (.text (String.intercalate "," (columns.map (quote backquote))).toList)
  | part, _ => .ok part

def finish : List TemplatePart → Except DatabaseError (List Char)
  | [] => .ok []
  | .text s :: rest => (finish rest).map (s ++ ·)
  | .hole :: _ => .error (badTemplate "unbound query argument")
  | .columns :: _ => .error (badTemplate "unbound query argument ?fields")

def template (text : String) : List TemplatePart := parseTemplate text.length [] text.toList

/-- A statement with its values in their places. -/
def fill (text : String) (values : List Param) : Except DatabaseError String := do
  return String.ofList (← finish (← bindAll values (template text)))

/-- A question for rows with these columns. -/
def fillQuery (text : String) (values : List Param) (columns : List String) :
    Except DatabaseError String := do
  let parts ← (← bindAll values (template text)).mapM (bindColumns columns)
  return String.ofList (← finish parts) ++ " FORMAT RowBinary"

end RelayStore.Server

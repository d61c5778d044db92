import RelayStore.Text.Pieces
import RelayStore.Url.Percent

/-! Paths of URLs. -/
namespace RelayStore.Url

/-- A point may be encoded. -/
def points (segment : List Char) : List Char :=
  match segment with
  | '%' :: '2' :: c :: rest => if c = 'e' ∨ c = 'E' then '.' :: points rest else segment
  | c :: rest => c :: points rest
  | [] => []

/-- Steps through the segments: one point stays, two go back. -/
def walk (done : List (List Char)) : List (List Char) → List (List Char)
  | [] => done.reverse
  | segment :: rest =>
    let done := if points segment = ['.', '.'] then done.drop 1 else done
    if points segment = ['.'] ∨ points segment = ['.', '.'] then
      if rest = [] then ([] :: done).reverse else walk done rest
    else walk (percentEncode isEncodedInPath segment :: done) rest

/-- The path from its segments. -/
def pathOf (segments : List (List Char)) : String :=
  String.ofList ((walk [] segments).flatMap ('/' :: ·))

/-- A letter and a colon or a bar: a drive in a path of files. -/
def isDrive (segment : List Char) : Bool :=
  match segment with
  | [letter, sign] => letter.isAlpha && (sign = ':' || sign = '|')
  | _ => false

end RelayStore.Url

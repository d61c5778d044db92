import RelayStore.Text.WordChar

/-! The words of a text: its longest runs of letters and digits. -/
namespace RelayStore.Text

/-- Puts a word, given from its end, in front of others, unless it is empty. -/
def emit (reversed : List Char) (rest : List (List Char)) : List (List Char) :=
  if reversed = [] then rest else reversed.reverse :: rest

/-- The words of a text whose first word has begun. -/
def wordsFrom (reversed : List Char) : List Char → List (List Char)
  | [] => emit reversed []
  | c :: r =>
    if isWordChar c then wordsFrom (c :: reversed) r else emit reversed (wordsFrom [] r)

/-- The words in order, repeated ones included. -/
def words (s : String) : List String := (wordsFrom [] s.toList).map String.ofList

/-- Keeps the first of equal items. -/
def distinct {α : Type} [DecidableEq α] (xs : List α) : List α := go [] xs
where
  go (seen : List α) : List α → List α
    | [] => []
    | x :: rest => if x ∈ seen then go seen rest else x :: go (x :: seen) rest

end RelayStore.Text

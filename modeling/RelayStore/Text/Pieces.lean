/-! Texts cut at borders. -/
namespace RelayStore.Text

/-- The pieces between the characters that are borders. There is one more than borders. -/
def pieces (isBorder : Char → Bool) (text : List Char) : List (List Char) :=
  let (first, others) := text.foldr (fun c (piece, others) =>
    if isBorder c then ([], piece :: others) else (c :: piece, others)) ([], [])
  first :: others

end RelayStore.Text

import RelayStore.Url.Percent

/-! Parameters behind a question mark. -/
namespace RelayStore.Url

/-- Letters, digits and a few marks stand for themselves in a parameter. -/
def isPlain (c : Char) : Bool := c.isAlphanum || c = '*' || c = '-' || c = '.' || c = '_'

/-- A space is written as a plus sign. -/
def formText (s : String) : String :=
  String.ofList <| (percentEncode (fun c => !isPlain c && c ≠ ' ') s.toList).map fun c =>
    if c = ' ' then '+' else c

def formParam (p : String × String) : String := formText p.1 ++ "=" ++ formText p.2

def form (params : List (String × String)) : String := String.intercalate "&" (params.map formParam)

end RelayStore.Url

import RelayStore.Tag.Constraints

/-! What a reader asks for. -/
namespace RelayStore

/-- A read request. A field without values does not constrain. -/
structure Filter where
  ids : List String := []
  authors : List String := []
  kinds : List UInt16 := []
  tags : TagConstraints := {}
  since : Option UInt32 := none
  upTo : Option UInt32 := none
  limit : Option UInt32 := none
  search : Option String := none
  deriving DecidableEq, Repr

/-- A refused filter in words. -/
def Filter.refusalText (reason : String) : String := "invalid filter: " ++ reason

end RelayStore

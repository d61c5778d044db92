import RelayStore.Import.Line

/-! What an import counts. -/
namespace RelayStore.Import

structure Statistics where
  files : Nat := 0
  total : Nat := 0
  valid : Nat := 0
  invalid : Nat := 0
  jsonErrors : Nat := 0
  validationErrors : Nat := 0
  tooOld : Nat := 0
  deriving DecidableEq, Repr

/-- Only an error in the JSON that is read without its signature counts as one of JSON. -/
def Statistics.count (s : Statistics) : Verdict → Statistics
  | .unreadable _ => { s with invalid := s.invalid + 1 }
  | .blank => s
  | .rejected (.json _) =>
    { s with total := s.total + 1, invalid := s.invalid + 1, jsonErrors := s.jsonErrors + 1 }
  | .rejected _ =>
    { s with total := s.total + 1, invalid := s.invalid + 1
             validationErrors := s.validationErrors + 1 }
  | .tooOld => { s with total := s.total + 1, invalid := s.invalid + 1, tooOld := s.tooOld + 1 }
  | .good _ => { s with total := s.total + 1, valid := s.valid + 1 }

end RelayStore.Import

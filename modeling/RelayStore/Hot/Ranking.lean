import RelayStore.Hot.Score

/-! The ranking of hot posts. -/
namespace RelayStore.Hot

/-- The place of a double in the total order of doubles. -/
def orderKey (x : Float) : Nat :=
  let bits := x.toBits.toNat
  if bits < UInt64.size / 2 then UInt64.size / 2 + bits else UInt64.size - 1 - bits

/-- A row with its score. -/
structure Scored where
  score : Float
  row : Engagement

/-- The higher score comes first; of equal scores, the newer post. -/
def Scored.before (a b : Scored) : Bool :=
  let x := orderKey a.score
  let y := orderKey b.score
  decide (y < x) || (x = y && decide (b.row.createdAt ≤ a.row.createdAt))

def scored (rows : List Engagement) (now : UInt32) : List Scored :=
  (rows.map fun r => ⟨r.score now, r⟩).filter fun s => decide (0.0 < s.score)

/-- The rows with a positive score in their order, as many as are kept. -/
def rank (rows : List Engagement) (now : UInt32) (runId keep : Nat) : List HotPost :=
  (((scored rows now).mergeSort Scored.before).take keep).map fun s =>
    ⟨s.row, s.score, now, runId⟩

end RelayStore.Hot

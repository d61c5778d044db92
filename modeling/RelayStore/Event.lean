import RelayStore.Tag.Name

/-! The signed note that the relay stores. -/
namespace RelayStore

structure Event where
  id : String := ""
  pubkey : String := ""
  createdAt : UInt32 := 0
  kind : UInt16 := 0
  tags : List Tag := []
  content : String := ""
  sig : String := ""
  deriving DecidableEq, Repr

/-- 7 November 2020 at midnight UTC. No event is older. -/
def genesis : UInt32 := 1604707200

/-- Keeps the first event of each id, in place. -/
def Event.firstOfEach (events : List Event) : List Event := go [] events
where
  go (seen : List String) : List Event → List Event
    | [] => []
    | e :: rest => if e.id ∈ seen then go seen rest else e :: go (e.id :: seen) rest

end RelayStore

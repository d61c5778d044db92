import RelayStore.Error
import RelayStore.Hot.Ranking
import RelayStore.Settings
import RelayStore.Version

/-! A run of the hot ranking: the engagement is read, then the ranking is replaced as a whole. -/
namespace RelayStore.Hot

/-- Posts from before this time are not ranked. -/
def horizon (s : HotSettings) (now : UInt32) : UInt32 :=
  .ofNat (now.toNat - s.window.nanos / 1000000000)

/-- What the ranking is replaced with. -/
structure Replacement where
  rows : List HotPost
  runId : Nat
  horizon : UInt32

/-- The ranking of engagement that has been read. Every run has a number of its own. -/
def replacement (s : HotSettings) (runs : VersionClock) (micros : Int) (now : UInt32)
    (rows : List Engagement) : Replacement × VersionClock :=
  let (runId, runs) := runs.next micros
  (⟨rank rows now runId s.maxPosts, runId, horizon s now⟩, runs)

def readFailure (e : Error) : Error := e.during "engagement_counters" "select"

def replaceFailure (e : Error) : Error := e.during "hot_posts" "replace"

end RelayStore.Hot

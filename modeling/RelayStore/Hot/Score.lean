import RelayStore.Row

/-! How hot a post is: its attention, weighted, over a power of its age. -/
namespace RelayStore.Engagement

/-- A whole number of satoshis, one for every thousand millisatoshis. -/
def sats (r : Engagement) : UInt64 := r.zapMillisats / 1000

def rawScore (r : Engagement) : Float :=
  3.0 * r.replies.toFloat + 2.0 * r.reposts.toFloat + 1.0 * r.reactions.toFloat +
    5.0 * r.zaps.toFloat + Float.log10 (1.0 + r.sats.toFloat)

/-- Seconds since the event; an event of the future is new. -/
def age (r : Engagement) (now : UInt32) : UInt32 :=
  if r.createdAt ≤ now then now - r.createdAt else 0

/-- What the attention is divided by at an age in seconds. -/
def decay (seconds : UInt32) : Float := Float.pow (seconds.toFloat / 3600.0 + 2.0) 1.5

def score (r : Engagement) (now : UInt32) : Float := r.rawScore / decay (r.age now)

end RelayStore.Engagement

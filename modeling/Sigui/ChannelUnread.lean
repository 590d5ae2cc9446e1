import Sigui.ChannelRuns

/-! What the unread counts say after a reconcile. Every row carries the time it arrived, which the
store never sees, so that the rows that came in after a channel was marked read can be named. -/
namespace Sigui.Channel

structure ArrivedRow extends RetainedRow where
  arrivedAt : Nat
  deriving DecidableEq

section Machine

/-- The device, a clock, and when each channel was last marked read. -/
structure UnreadWorld where
  device : ChannelDevice
  clock : Nat
  lastMark : UInt64 → Option Nat

variable (md : List UInt8 → Option UInt8)

def UnreadWorld.arrivedSinceMark (u : UnreadWorld) (row : ArrivedRow) : Bool :=
  (u.lastMark row.channelId).any fun mark => decide (mark < row.arrivedAt)

/-- The received rows of a channel that arrived after it was last marked read. -/
def UnreadWorld.freshRows (u : UnreadWorld) (rows : List ArrivedRow) (e : ChannelEntry) :
    List ArrivedRow :=
  rows.filter fun row =>
    decide (row.channelId = e.channelId) && row.received && u.arrivedSinceMark row

end Machine

section Counts

variable {s : ChannelStore} {g : MessageGeneration} {rows : List RetainedRow} {e : ChannelEntry}

end Counts

section Reconciled

variable {md : List UInt8 → Option UInt8} {d d' : ChannelDevice} {rows : List RetainedRow}
  {g : MessageGeneration} {nowMs : Nat} {w : NvsWrite}

end Reconciled

section Runs

variable (md : List UInt8 → Option UInt8)

variable {md} {u : UnreadWorld} {rows : List ArrivedRow} {g : MessageGeneration}
  {before after : ChannelEntry}

end Runs

end Sigui.Channel

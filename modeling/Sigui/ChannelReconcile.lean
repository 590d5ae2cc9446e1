import Sigui.ChannelOps

/-! `d1l_channel_store_reconcile_retained_rows`: the cursors of every channel are recomputed from the
rows the message store still holds. -/
namespace Sigui.Channel

def retainedRowCapacity : Nat := 16

/-- `d1l_channel_retained_row_t` -/
structure RetainedRow where
  channelId : UInt64
  messageSeq : Nat
  received : Bool
  deriving DecidableEq

/-- `d1l_channel_message_generation_t` -/
structure MessageGeneration where
  epoch : Nat
  nextSeq : Nat
  clearLineage : UInt64
  deriving DecidableEq

/-- The loop over the rows; `previous` is `previous_seq`. -/
def rowsAreOrdered (nextSeq : Nat) : Nat → List RetainedRow → Bool
  | _, [] => true
  | previous, row :: rows =>
    decide (row.channelId ≠ 0) && decide (row.messageSeq ≠ 0) &&
      decide (row.messageSeq < nextSeq) && decide (previous < row.messageSeq) &&
      rowsAreOrdered nextSeq row.messageSeq rows

def reconcileArgsAreValid (rows : List RetainedRow) (g : MessageGeneration) : Bool :=
  decide (g.epoch ≠ 0) && decide (g.nextSeq ≠ 0) && decide (rows.length ≤ retainedRowCapacity) &&
    rowsAreOrdered g.nextSeq 0 rows

def multiChannelManagement : Bool := true

def channelAvailableInReleaseProfile (channelId : UInt64) : Bool :=
  decide (channelId = channelPublicId) || multiChannelManagement

section Generations

variable (s : ChannelStore) (g : MessageGeneration)

def generationKnown : Bool := decide (s.messageEpoch ≠ 0) && decide (s.messageNextSeq ≠ 0)

def sameMessageGeneration : Bool :=
  generationKnown s && decide (s.messageEpoch = g.epoch) &&
    decide (s.messageClearLineage = g.clearLineage)

def sequenceRewound : Bool := generationKnown s && decide (g.nextSeq < s.messageNextSeq)

def unknownOutOfDomain : Bool :=
  !generationKnown s && s.entries.any fun e =>
    channelAvailableInReleaseProfile e.channelId &&
      (decide (g.nextSeq ≤ e.newestMessageSeq) || decide (g.nextSeq ≤ e.readThroughSeq))

def trueGenerationReset : Bool :=
  (sequenceRewound s g && !sameMessageGeneration s g) || unknownOutOfDomain s g

def durabilityRollback : Bool := sequenceRewound s g && sameMessageGeneration s g

end Generations

section Cursors

/-- The rows counted for a channel. The ids of a store differ, so `index_by_id` finds the channel
itself. -/
def rowsOf (rows : List RetainedRow) (e : ChannelEntry) : List RetainedRow :=
  rows.filter fun row =>
    channelAvailableInReleaseProfile row.channelId && decide (row.channelId = e.channelId)

def retainedNewest (rows : List RetainedRow) (e : ChannelEntry) : Nat :=
  (rowsOf rows e).foldl (fun newest row => max newest row.messageSeq) 0

def receivedAbove (rows : List RetainedRow) (e : ChannelEntry) (cursor : Nat) : Nat :=
  (rowsOf rows e).countP fun row => row.received && decide (cursor < row.messageSeq)

structure Cursors where
  newest : Nat
  readThrough : Nat
  unread : Nat
  deriving DecidableEq

def ChannelEntry.cursors (e : ChannelEntry) : Cursors :=
  ⟨e.newestMessageSeq, e.readThroughSeq, e.unreadCount⟩

variable (s : ChannelStore) (g : MessageGeneration) (rows : List RetainedRow)

def derivedNewest (e : ChannelEntry) : Nat :=
  if trueGenerationReset s g || durabilityRollback s g then retainedNewest rows e
  else max (retainedNewest rows e) e.newestMessageSeq

def baselineReadThrough (e : ChannelEntry) : Nat :=
  if trueGenerationReset s g then 0
  else if durabilityRollback s g then min e.readThroughSeq (retainedNewest rows e)
  else e.readThroughSeq

def reconciledCursors (e : ChannelEntry) : Cursors :=
  let newest := derivedNewest s g rows e
  let baseline := baselineReadThrough s g rows e
  let unread := receivedAbove rows e baseline
  ⟨newest, if unread = 0 then newest else baseline, unread⟩

def entryChanges (e : ChannelEntry) : Bool :=
  channelAvailableInReleaseProfile e.channelId &&
    decide (e.cursors ≠ reconciledCursors s g rows e)

def reconciledEntry (nowMs : Nat) (e : ChannelEntry) : ChannelEntry :=
  if entryChanges s g rows e then
    let c := reconciledCursors s g rows e
    { e with
      newestMessageSeq := c.newest, readThroughSeq := c.readThrough, unreadCount := c.unread
      updatedMs := nowMs }
  else e

def reconciledStore (nowMs : Nat) : ChannelStore :=
  { s with
    entries := s.entries.map (reconciledEntry s g rows nowMs)
    messageEpoch := g.epoch
    messageNextSeq := g.nextSeq
    messageClearLineage := g.clearLineage }

def reconcileChanges : Bool :=
  decide (s.messageEpoch ≠ g.epoch) || decide (s.messageNextSeq ≠ g.nextSeq) ||
    decide (s.messageClearLineage ≠ g.clearLineage) || s.entries.any (entryChanges s g rows)

end Cursors

/-- `d1l_channel_store_reconcile_retained_rows`; either pointer may be missing. -/
def reconcileRetainedRows (d : ChannelDevice) (rows : Option (List RetainedRow))
    (generation : Option MessageGeneration) (nowMs : Nat) (w : NvsWrite) :
    ChannelDevice × EspErr :=
  match rows, generation with
  | some rows, some g =>
    if !reconcileArgsAreValid rows g then (d, espErrInvalidArg)
    else if !reconcileChanges d.store g rows then (d, espOk)
    else if !mutationCounterAvailable d.store then (d, espErrInvalidState)
    else
      let (d, reply) := commit d (reconciledStore d.store g rows nowMs) w .none none
      (d, reply.ret)
  | _, _ => (d, espErrInvalidArg)

section CursorRules

variable {rows : List RetainedRow} {e : ChannelEntry}

theorem mem_rowsOf {row : RetainedRow} :
    row ∈ rowsOf rows e ↔ row ∈ rows ∧ row.channelId = e.channelId := by
  simp [rowsOf, channelAvailableInReleaseProfile, multiChannelManagement]

theorem le_foldl_max (l : List RetainedRow) (newest : Nat) :
    newest ≤ l.foldl (fun newest row => max newest row.messageSeq) newest ∧
      ∀ row ∈ l, row.messageSeq ≤ l.foldl (fun newest row => max newest row.messageSeq) newest := by
  induction l generalizing newest with
  | nil => exact ⟨le_rfl, fun _ h => absurd h List.not_mem_nil⟩
  | cons row l ih =>
    obtain ⟨hstart, hrows⟩ := ih (max newest row.messageSeq)
    rw [List.foldl_cons]
    refine ⟨(Nat.le_max_left _ _).trans hstart, List.forall_mem_cons.mpr ⟨?_, hrows⟩⟩
    exact (Nat.le_max_right _ _).trans hstart

theorem le_retainedNewest {row : RetainedRow} (h : row ∈ rowsOf rows e) :
    row.messageSeq ≤ retainedNewest rows e :=
  (le_foldl_max (rowsOf rows e) 0).2 row h

theorem countP_ordered_le {nextSeq previous : Nat} (p : RetainedRow → Bool) (low high : Nat)
    (hord : rowsAreOrdered nextSeq previous rows = true)
    (hrange : ∀ row ∈ rows, p row = true → low < row.messageSeq ∧ row.messageSeq ≤ high) :
    rows.countP p ≤ high - max low previous := by
  induction rows generalizing previous with
  | nil => exact Nat.zero_le _
  | cons row rows ih =>
    simp only [rowsAreOrdered, Bool.and_eq_true, decide_eq_true_eq] at hord
    obtain ⟨⟨-, hprev⟩, hrest⟩ := hord
    obtain ⟨hrow, hrows⟩ := List.forall_mem_cons.mp hrange
    have hle := ih hrest hrows
    by_cases hp : p row = true
    · have hin := hrow hp
      rw [List.countP_cons_of_pos hp]
      omega
    · rw [List.countP_cons_of_neg hp]
      omega

end CursorRules

end Sigui.Channel

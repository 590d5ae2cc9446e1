import Sigui.PacketMerge

/-! Reconciling the log with the compact primary of a card that was just mounted, and the passes of
`persist_store`, cut where the source gives up the store lock: what the backends answered in between
is an argument. -/
namespace Sigui.Packet

structure PacketDesk where
  log : PacketLog
  revision : Nat
  clearInProgress : Bool

abbrev Failure := { error : EspErr // error ≠ espOk }

def invalidState : Failure := ⟨espErrInvalidState, by decide⟩

/-- What the compact primary's key holds, by the size that was read. -/
inductive PrimaryImage
  | primary (blob : Blob)
  | compact (blob : Blob)
  | otherSize

/-- The primary a reconcile goes on with; `legacy` is the layout of the second schema. -/
structure CardPrimary where
  blob : Blob
  legacy : Bool

/-- The checks of `reconcile_sd_primary` on what was read. -/
def acceptPrimary : Except Failure PrimaryImage → Except Failure (Option CardPrimary)
  | .error error => if error.val = espErrNotFound then .ok none else .error error
  | .ok (.primary blob) =>
    if primaryBlobIsValid blob then .ok (some ⟨blob, false⟩) else .error invalidState
  | .ok (.compact blob) =>
    if fallbackBlobV2IsValid blob then .ok (some ⟨promoteV2CompactPrimary blob, true⟩)
    else .error invalidState
  | .ok .otherSize => .error invalidState

/-- `d1l_packet_journal_slot_state_t`, with the entry of a valid slot. -/
inductive SlotState
  | empty
  | valid (entry : Entry)
  | malformed
  deriving DecidableEq

/-- What the backends answered to one `reconcile_sd_primary`. -/
structure ReconcileAnswers where
  matchesStart : Bool
  lineageReady : Except Failure Bool
  clearHistory : EspErr
  completeLineage : EspErr
  matchesLineage : Bool
  primary : Except Failure PrimaryImage
  tailSlot : Except Failure SlotState
  nextSlot : Except Failure SlotState
  matchesRead : Bool
  matchesMerged : Bool

/-- The media is, or is made, the one this log's history belongs to. -/
def lineageRet (a : ReconcileAnswers) : EspErr :=
  match a.lineageReady with
  | .error error => error.val
  | .ok true => espOk
  | .ok false =>
    if a.clearHistory ≠ espOk then a.clearHistory
    else if a.completeLineage ≠ espOk then a.completeLineage
    else if a.matchesLineage then espOk
    else espErrInvalidState

/-- Whether the journal goes on where the primary ends: its last slot holds the primary's last row
and the slot behind it is free. -/
def journalContinuation (a : ReconcileAnswers) : Option CardPrimary → Except Failure Bool
  | none => .ok false
  | some card =>
    if card.blob.totalWritten = 0 then .ok false
    else
      match a.tailSlot with
      | .error error => .error error
      | .ok (.valid entry) =>
        if card.blob.rows.getLast? = some entry then
          a.nextSlot.map fun state => decide (state = .empty)
        else .ok false
      | .ok _ => .ok false

def sdNewer (live sd : Blob) : Bool :=
  decide (live.totalWritten < sd.totalWritten) ||
    (decide (sd.totalWritten = live.totalWritten) && decide (live.nextSeq < sd.nextSeq))

structure MergedLog where
  blob : Blob
  overlayCount : Nat := 0
  divergent : Bool := false

def mergeWithCard (s : PacketLog) (sd : Blob) : Except EspErr MergedLog :=
  let live := fillPrimaryBlob s
  if sdNewer live sd && s.mutatedSinceInit then
    (adoptSdWithLiveOverlay live sd s.bootNextSeq s.mutationsSinceInit).map
      fun (blob, count) => { blob := blob, overlayCount := count }
  else if sdNewer live sd then .ok { blob := sd }
  else
    match mergeSameLineage live sd with
    | .ok blob => .ok { blob := blob }
    | .error error =>
      if error = espErrInvalidState then
        (mergeDivergentLineage live sd).map fun blob => { blob := blob, divergent := true }
      else .error error

def mergeCard (s : PacketLog) : Option CardPrimary → Except EspErr MergedLog
  | none => .ok { blob := fillPrimaryBlob s }
  | some card => mergeWithCard s card.blob

/-- `next_journal_segment_start`; the last segment's end does not fit a `uint32_t`. -/
def nextJournalSegmentStart (nextSeq : Nat) : Nat :=
  if nextSeq = 0 then uint32Max
  else
    let within := (nextSeq - 1) % sdSegmentCapacity
    if within = 0 then nextSeq
    else
      let advance := sdSegmentCapacity - within
      if uint32Max - advance < nextSeq then uint32Max else nextSeq + advance

/-- `note_reconcile_failure`, less the counters of the statistics. -/
def noteReconcileFailure (d : PacketDesk) : PacketDesk :=
  { d with log := { d.log with sdReconcilePending := true } }

def loadMerged (d : PacketDesk) (merged : Blob) : PacketDesk :=
  if primaryBlobsEqual (fillPrimaryBlob d.log) merged then d
  else
    { d with
      log := { loadPrimaryBlobIntoRam d.log merged with nvsFallbackDirty := true }
      revision := d.revision + 1 }

def journalAfter (card : Option CardPrimary) (merged : MergedLog) (trusted untrusted : Bool) :
    Nat × Nat :=
  match card with
  | some card =>
    if card.blob.totalWritten = 0 ∧ merged.blob.totalWritten = 0 then (0, 1)
    else if trusted && !untrusted then
      (min card.blob.totalWritten sdCapacity, card.blob.nextSeq)
    else (0, nextJournalSegmentStart merged.blob.nextSeq)
  | none =>
    if merged.blob.totalWritten = 0 then (0, 1)
    else (0, nextJournalSegmentStart merged.blob.nextSeq)

/-- The replayed rows are the ones that count as live from here on. -/
def noteOverlay (s : PacketLog) (overlayCount : Nat) : PacketLog :=
  if 0 < overlayCount then
    { s with
      bootNextSeq := s.nextSeq - overlayCount
      mutationsSinceInit := overlayCount
      mutatedSinceInit := true }
  else s

/-- The end of the locked part, for histories that could be merged. -/
def applyMerged (d : PacketDesk) (card : Option CardPrimary) (merged : MergedLog) (trusted : Bool)
    (generation : Nat) : PacketDesk :=
  let changed := match card with
    | some card => !primaryBlobsEqual card.blob merged.blob
    | none => false
  let legacy := match card with
    | some card => card.legacy
    | none => false
  let unproven := match card with
    | some card => decide (0 < card.blob.totalWritten) && !trusted
    | none => false
  let untrusted := unproven || merged.divergent || legacy || changed ||
    decide (0 < merged.overlayCount)
  let loaded := loadMerged d merged.blob
  let (records, journalNext) := journalAfter card merged trusted untrusted
  let log := { loaded.log with
    sdPrimaryDirty := if card.isSome then legacy || changed
      else decide (0 < merged.blob.totalWritten)
    sdReconcilePending := false
    lastSdBackendGeneration := generation
    sdHistoryRecords := records
    journalNextSeq := journalNext
    journalDirty := decide (journalNext < loaded.log.nextSeq) }
  { loaded with log := noteOverlay log merged.overlayCount }

/-- The locked part of `reconcile_sd_primary`. -/
def reconcileLocked (d : PacketDesk) (card : Option CardPrimary) (trusted matchesMerged : Bool)
    (generation : Nat) : PacketDesk × EspErr :=
  match mergeCard d.log card with
  | .error error => (noteReconcileFailure d, error)
  | .ok merged =>
    if matchesMerged then (applyMerged d card merged trusted generation, espOk)
    else (noteReconcileFailure d, espErrInvalidState)

def reconcileFailed (d : PacketDesk) (error : EspErr) (yields : Bool) : PacketDesk × EspErr :=
  if yields && decide (error = espErrNotFinished) then (d, error)
  else (noteReconcileFailure d, error)

/-- `clear_sd_history_for_generation` resets the count of records once every segment is gone. -/
def noteHistoryCleared (d : PacketDesk) (a : ReconcileAnswers) : PacketDesk :=
  match a.lineageReady with
  | .ok false =>
    if a.clearHistory = espOk then { d with log := { d.log with sdHistoryRecords := 0 } } else d
  | _ => d

def reconcileSdPrimary (d : PacketDesk) (a : ReconcileAnswers) (generation : Nat) :
    PacketDesk × EspErr :=
  if !a.matchesStart then reconcileFailed d espErrInvalidState false
  else
    let d := noteHistoryCleared d a
    if lineageRet a ≠ espOk then reconcileFailed d (lineageRet a) false
    else
      match acceptPrimary a.primary with
      | .error error => reconcileFailed d error.val true
      | .ok card =>
        match journalContinuation a card with
        | .error error => reconcileFailed d error.val true
        | .ok trusted =>
          if !a.matchesRead then reconcileFailed d espErrInvalidState false
          else reconcileLocked d card trusted a.matchesMerged generation

end Sigui.Packet

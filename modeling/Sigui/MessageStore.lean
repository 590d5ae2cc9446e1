import Sigui.ListRules
import Sigui.MessageBlobs

/-! The channel message store in RAM: appends, clears, and what a blob from the card is merged
into. Each definition is the work of one hold of the store lock. -/
namespace Sigui.Message

/-- The statics a blob is filled from; `rows` is the ring, oldest first. -/
structure History where
  rows : List Entry
  rows_le : rows.length ≤ messageStoreCapacity
  nextSeq : Nat
  totalWritten : Nat
  droppedOldest : Nat
  epoch : Nat
  contentRevision : Nat
  clearLineage : UInt64

structure Window where
  mutatedSinceInit : Bool
  bootNextSeq : Nat
  mutationsSinceInit : Nat
  deriving DecidableEq

structure Store where
  history : History
  window : Window
  volatileEntry : Option Entry
  loaded : Bool
  sdPrimaryDirty : Bool
  sdReconcilePending : Bool
  nvsFallbackDirty : Bool
  retryPending : Bool
  persistAttemptedThisBoot : Bool
  deviceLineageAuthoritative : Bool
  lastSdBackendGeneration : Nat
  lastPersistAttemptMs : Nat
  sdPrimaryLastError : EspErr
  nvsFallbackLastError : EspErr
  revision : Nat
  nvsBlobScratch : Blob

def fillBlob (h : History) : Blob where
  schema := 5
  nextSeq := h.nextSeq
  totalWritten := h.totalWritten
  droppedOldest := h.droppedOldest
  head := h.rows.length % messageStoreCapacity
  count := h.rows.length
  entries := h.rows ++ List.replicate (messageStoreCapacity - h.rows.length) Entry.zero
  epoch := h.epoch
  contentRevision := h.contentRevision
  clearLineage := h.clearLineage

/-- `load_blob_into_ram`; a blob with more rows than slots is never loaded. -/
def loadBlob (b : Blob) : History where
  rows := b.rows.take messageStoreCapacity
  rows_le := List.length_take_le _ _
  nextSeq := b.nextSeq
  totalWritten := b.totalWritten
  droppedOldest := b.droppedOldest
  epoch := b.epoch
  contentRevision := b.contentRevision
  clearLineage := b.clearLineage

/-- `clear_ram`; the lineage is not its business. -/
def History.clear (h : History) : History :=
  { h with rows := [], rows_le := Nat.zero_le _, nextSeq := 1, totalWritten := 0, droppedOldest := 0 }

def History.empty : History where
  rows := []
  rows_le := Nat.zero_le _
  nextSeq := 1
  totalWritten := 0
  droppedOldest := 0
  epoch := 1
  contentRevision := 1
  clearLineage := 0

def History.push (h : History) (e : Entry) : History :=
  { h with
    rows := keepLast messageStoreCapacity (h.rows ++ [e])
    rows_le := by rw [length_keepLast]; exact Nat.min_le_left _ _ }

def Window.isLive (w : Window) (e : Entry) : Bool :=
  w.mutatedSinceInit && decide (w.bootNextSeq ≤ e.seq)

def Store.persistenceDirty (s : Store) (sdPrimaryRequired : Bool) : Bool :=
  s.nvsFallbackDirty || (sdPrimaryRequired && (s.sdPrimaryDirty || s.sdReconcilePending))

structure AppendArgs where
  channelId : UInt64
  direction : Option CStr
  author : Option CStr
  text : Option CStr
  rssiDbm : Int
  snrTenths : Int
  pathHashBytes : Nat
  pathHops : Nat
  delivered : Bool
  persist : Bool

def rxLiteral : CStr := .lit [114, 120]
def publicLiteral : CStr := .lit [80, 117, 98, 108, 105, 99]

def textOr {destSize : Nat} (source : Option CStr) (default : CStr) : CharArray destSize :=
  let text := sanitizeAscii destSize (source.getD default)
  if text.bytes = [] then sanitizeAscii destSize default else text

/-- `memcpy` of a text that has been found to fit. -/
def copyText (text : CStr) : CharArray 139 where
  bytes := text.bytes.take 139
  length_le := (List.length_take_le _ _).trans le_rfl
  no_nul := mt List.mem_of_mem_take text.no_nul

def appendEntry (h : History) (a : AppendArgs) (text : CStr) (nowMs : Nat) : Entry where
  seq := h.nextSeq
  uptimeMs := nowMs
  direction := textOr a.direction rxLiteral
  author := textOr a.author publicLiteral
  text := copyText text
  rssiDbm := a.rssiDbm
  snrTenths := a.snrTenths
  pathHashBytes := a.pathHashBytes
  pathHops := a.pathHops
  delivered := a.delivered
  reserved := zeroReserved
  channelId := a.channelId

def History.full (h : History) : Bool :=
  decide (h.nextSeq = uint32Max) || decide (h.totalWritten = uint32Max) ||
    (decide (h.rows.length = messageStoreCapacity) && decide (h.droppedOldest = uint32Max))

def History.append (h : History) (e : Entry) : History :=
  { h.push e with
    nextSeq := h.nextSeq + 1
    droppedOldest :=
      if h.rows.length < messageStoreCapacity then h.droppedOldest else h.droppedOldest + 1
    totalWritten := h.totalWritten + 1
    contentRevision := saturatingSucc h.contentRevision }

def Store.markMutated (s : Store) (mutationsSinceInit bootNextSeq : Nat) : Store :=
  { s with
    revision := s.revision + 1
    window := ⟨true, bootNextSeq, mutationsSinceInit⟩
    deviceLineageAuthoritative := true
    sdPrimaryDirty := true
    nvsFallbackDirty := true }

/-- `append_channel_internal` on a loaded store, up to the flush. -/
def appendChannel (s : Store) (a : AppendArgs) (nowMs : Nat) : Store × EspErr :=
  match a.text with
  | none => (s, espErrInvalidArg)
  | some text =>
    if a.channelId = 0 then (s, espErrInvalidArg)
    else if (userTextValidate (some text)).result ≠ .ok then
      (s, if (userTextValidate (some text)).result = .tooLong then espErrInvalidSize
        else espErrInvalidArg)
    else if !s.loaded then (s, espErrInvalidState)
    else
      let entry := appendEntry s.history a text nowMs
      if !a.persist then ({ s with volatileEntry := some entry }, espOk)
      else if s.history.full then (s, espErrInvalidState)
      else
        ({ s with history := s.history.append entry, volatileEntry := none }.markMutated
          (saturatingSucc s.window.mutationsSinceInit) s.window.bootNextSeq, espOk)

def nextEpoch (epoch : Nat) : Nat := if epoch = uint32Max then 1 else epoch + 1

def History.rotate (h : History) (lineage : UInt64) : History :=
  { h with
    epoch := nextEpoch h.epoch
    clearLineage := lineage
    contentRevision := saturatingSucc h.contentRevision }

/-- `d1l_message_store_clear`, up to the retirement of the NVS copy. -/
def clearStore (s : Store) (lineage : UInt64) : Store :=
  { s with
    history := { s.history.clear with nextSeq := s.history.nextSeq }.rotate lineage
    volatileEntry := none }.markMutated 0 s.history.nextSeq

def History.withoutChannel (h : History) (channelId : UInt64) : History :=
  { h with
    rows := h.rows.filter fun e => e.channelId ≠ channelId
    rows_le := (List.length_filter_le _ _).trans h.rows_le }

/-- `d1l_message_store_clear_channel`, up to the retirement of the NVS copy. -/
def clearChannel (s : Store) (channelId lineage : UInt64) : Store :=
  if channelId = 0 then s
  else
    { s with
      history := (s.history.withoutChannel channelId).rotate lineage
      volatileEntry := s.volatileEntry.filter fun e => e.channelId ≠ channelId }.markMutated 0
        s.history.nextSeq

/-- What a merge returns: `changed` is `*out_changed`. -/
structure MergeResult where
  ret : EspErr
  changed : Bool
  store : Store

/-- The loop variables of `merge_blob_into_ram_locked`. -/
structure MergeAcc where
  merged : List Entry
  nextSeq : Nat
  additionalCount : Nat

def mergeIncoming (w : Window) (acc : MergeAcc) (incoming : Entry) : Except EspErr MergeAcc :=
  match splitFirst (fun r => decide (r.seq = incoming.seq)) acc.merged with
  | none => .ok { acc with merged := acc.merged ++ [incoming] }
  | some (before, current, after) =>
    if entriesEqual current incoming then .ok acc
    else if acc.nextSeq = uint32Max then .error espErrInvalidSize
    else if w.isLive current then
      -- The live row gives up its number and moves behind everything seen so far.
      if messageStoreCapacity * 2 ≤ acc.merged.length then .error espErrInvalidSize
      else .ok
        { acc with
          merged := before ++ incoming :: after ++ [current.withSeq acc.nextSeq]
          nextSeq := acc.nextSeq + 1 }
    else .ok
      { merged := acc.merged ++ [incoming.withSeq acc.nextSeq]
        nextSeq := acc.nextSeq + 1
        additionalCount := u32Succ acc.additionalCount }

/-- Rows appended since the last complete persist that the card does not hold. -/
def additionalLiveCount (h : History) (w : Window) (b : Blob) : Nat :=
  if w.mutatedSinceInit then
    let live := h.rows.filter w.isLive
    let absent := live.countP fun e => !b.rows.any (entriesEqual e)
    absent + (w.mutationsSinceInit - live.length)
  else 0

def mergeRows (h : History) (w : Window) (b : Blob) : Except EspErr MergeAcc :=
  b.rows.foldlM (mergeIncoming w) ⟨h.rows, max h.nextSeq b.nextSeq, additionalLiveCount h w b⟩

def keptRows (acc : MergeAcc) : List Entry :=
  keepLast messageStoreCapacity (sortByKey Entry.seq acc.merged)

theorem length_keptRows_le (acc : MergeAcc) : (keptRows acc).length ≤ messageStoreCapacity := by
  rw [keptRows, length_keepLast]
  exact Nat.min_le_left _ _

/-- `total + more` on a `uint32_t` that saturates. -/
def saturatingAdd (total more : Nat) : Nat :=
  if uint32Max - more < total then uint32Max else total + more

def mergedTotal (h : History) (w : Window) (b : Blob) (acc : MergeAcc) : Nat :=
  let localBase :=
    if w.mutatedSinceInit then h.totalWritten - w.mutationsSinceInit else h.totalWritten
  max (saturatingAdd (max b.totalWritten localBase) acc.additionalCount) (keptRows acc).length

/-- The history as the merged rows are copied back, before `content_revision` is advanced. -/
def mergedHistory (h : History) (w : Window) (b : Blob) (acc : MergeAcc) : History where
  rows := keptRows acc
  rows_le := length_keptRows_le acc
  nextSeq := acc.nextSeq
  totalWritten := mergedTotal h w b acc
  droppedOldest := mergedTotal h w b acc - (keptRows acc).length
  epoch := h.epoch
  contentRevision := max h.contentRevision b.contentRevision
  clearLineage := h.clearLineage

/-- `merge_blob_into_ram_locked` -/
def mergeBlobIntoRam (s : Store) (b : Blob) : MergeResult :=
  if b.clearLineage ≠ s.history.clearLineage ∨ b.epoch < s.history.epoch then ⟨espOk, false, s⟩
  else if s.history.epoch < b.epoch then ⟨espErrInvalidState, false, s⟩
  else
    match mergeRows s.history s.window b with
    | .error ret => ⟨ret, false, s⟩
    | .ok acc =>
      let merged := mergedHistory s.history s.window b acc
      let changed := !blobsEquivalent (fillBlob s.history) (fillBlob merged)
      ⟨espOk, changed,
        { s with
          history :=
            { merged with
              contentRevision :=
                if changed then saturatingSucc merged.contentRevision else merged.contentRevision }
          nvsBlobScratch := fillBlob merged }⟩

/-- `append_replayed_entry_locked` -/
def appendReplayedEntry (h : History) (source : Entry) : Except EspErr History :=
  if h.nextSeq = uint32Max then .error espErrInvalidState
  else .ok { h.push (source.withSeq h.nextSeq) with nextSeq := h.nextSeq + 1 }

def overlayRows (s : Store) : List Entry :=
  s.history.rows.filter fun e => decide (s.window.bootNextSeq ≤ e.seq)

/-- `adopt_primary_with_live_overlay_locked` -/
def adoptPrimary (s : Store) (primary : Blob) : MergeResult :=
  match (overlayRows s).foldlM appendReplayedEntry (loadBlob primary) with
  | .error ret => ⟨ret, false, { s with history := loadBlob (fillBlob s.history) }⟩
  | .ok h =>
    let mutations := s.window.mutationsSinceInit
    let total := max (saturatingAdd h.totalWritten mutations) h.rows.length
    ⟨espOk, true,
      { s with
        history :=
          { h with
            totalWritten := total
            contentRevision := saturatingAdd h.contentRevision mutations
            droppedOldest := total - h.rows.length } }⟩

/-- A blob the validators have accepted, and whether it was of an older schema. -/
structure StoredBlob where
  blob : Blob
  migrated : Bool
  valid : BlobOk blob

def noteSdReconcileFailure (s : Store) (failure : EspErr) : Store :=
  { s with sdReconcilePending := true, sdPrimaryLastError := failure, retryPending := true }

def reconcileNotFound (s : Store) : Store :=
  { s with
    sdReconcilePending := false
    sdPrimaryLastError := espOk
    sdPrimaryDirty := decide (0 < s.history.totalWritten) || decide (1 < s.history.epoch) ||
      decide (s.history.clearLineage ≠ 0) }

/-- The branches of `reconcile_sd_primary` on a blob that was found. -/
def mergePrimary (s : Store) (b : Blob) : MergeResult :=
  if b.clearLineage ≠ s.history.clearLineage then
    if s.deviceLineageAuthoritative then ⟨espOk, false, s⟩ else adoptPrimary s b
  else if s.history.epoch < b.epoch then
    if s.window.mutatedSinceInit then adoptPrimary s b
    else ⟨espOk, true, { s with history := loadBlob b }⟩
  else if b.epoch < s.history.epoch then ⟨espOk, false, s⟩
  else mergeBlobIntoRam s b

def acceptReconcile (s : Store) (stored : StoredBlob) (changed : Bool) : Store :=
  { s with
    deviceLineageAuthoritative := true
    sdPrimaryDirty := stored.migrated || !blobsEquivalent (fillBlob s.history) stored.blob
    revision := if changed then s.revision + 1 else s.revision
    nvsFallbackDirty := s.nvsFallbackDirty || changed
    sdReconcilePending := false
    sdPrimaryLastError := espOk }

/-- The locked part of `reconcile_sd_primary` on a card that was read, with the failure noted under
the next hold of the lock. -/
def reconcileFound (s : Store) (stored : StoredBlob) (generationMatches : Bool) : Store × EspErr :=
  let result := mergePrimary s stored.blob
  if result.ret ≠ espOk then (noteSdReconcileFailure result.store result.ret, result.ret)
  else if !generationMatches then
    (noteSdReconcileFailure { result.store with history := loadBlob (fillBlob s.history) }
      espErrInvalidState, espErrInvalidState)
  else (acceptReconcile result.store stored result.changed, espOk)

/-- What reading the card for a reconcile came to. A generation that no longer matches counts as
`ESP_ERR_INVALID_STATE`. -/
inductive ReconcileRead
  | unfinished
  | failed (error : EspErr)
    (failure : error ≠ espOk ∧ error ≠ espErrNotFound ∧ error ≠ espErrNotFinished)
  | notFound
  | found (stored : StoredBlob) (generationMatches : Bool)

def reconcileSdPrimary (s : Store) : ReconcileRead → Store × EspErr
  | .unfinished => (s, espErrNotFinished)
  | .failed error _ => (noteSdReconcileFailure s error, error)
  | .notFound => (reconcileNotFound s, espOk)
  | .found stored generationMatches => reconcileFound s stored generationMatches

end Sigui.Message

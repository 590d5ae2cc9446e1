import Sigui.PacketReconcile
import Sigui.RunRules

/-! The calls of the packet log: a pass of `persist_store`, the append that ends in one, init and
clear. What happens under one hold of the store lock is one step. -/
namespace Sigui.Packet

def sdFlushDirtyThreshold : Nat := 16
def sdFlushIntervalMs : Nat := 5000

/-- `persistence_dirty_locked` -/
def persistenceDirty (s : PacketLog) (sdEnabled : Bool) : Bool :=
  s.nvsFallbackDirty ||
    (sdEnabled && (s.sdPrimaryDirty || s.sdReconcilePending || s.journalDirty))

/-- The first locked part: a generation not seen before asks for a reconcile. -/
def noteGeneration (d : PacketDesk) (sdEnabled : Bool) (generation : Nat) : PacketDesk :=
  if generation = d.log.lastSdBackendGeneration then d
  else
    { d with
      log := { d.log with
        lastSdBackendGeneration := generation, sdReconcilePending := sdEnabled } }

structure PersistSnapshot where
  primary : Blob
  fallback : Blob
  revision : Nat
  nextSeq : Nat
  journalAttempt : Bool
  primaryAttempt : Bool
  nvsAttempt : Bool

/-- The second locked part; `reconcileRet` is `ESP_OK` when no reconcile was asked for. -/
def takeSnapshot (d : PacketDesk) (sdEnabled flushPrimary : Bool) (reconcileRet : EspErr) :
    PersistSnapshot :=
  let sdReady := sdEnabled && !d.log.sdReconcilePending && decide (reconcileRet = espOk)
  { primary := fillPrimaryBlob d.log
    fallback := fillFallbackBlob d.log
    revision := d.revision
    nextSeq := d.log.nextSeq
    journalAttempt := sdReady && d.log.journalDirty
    primaryAttempt := sdReady && flushPrimary && d.log.sdPrimaryDirty
    nvsAttempt := d.log.nvsFallbackDirty }

/-- What one turn of the journal's loop meets: whether the worker has to yield, and what the append
of the record returned, its check of the generation included. -/
structure JournalAnswer where
  yields : Bool
  append : EspErr

def noteJournaled (s : PacketLog) : PacketLog :=
  let next := s.journalNextSeq + 1
  { s with
    journalNextSeq := next
    sdHistoryRecords :=
      if s.sdHistoryRecords < sdCapacity then s.sdHistoryRecords + 1 else s.sdHistoryRecords
    journalDirty := decide (next < s.nextSeq) }

/-- `flush_journal_for_generation` with `turns` records between the journal and the snapshot. -/
def flushJournal (answers : Nat → JournalAnswer) : Nat → PacketLog → PacketLog × EspErr
  | 0, s =>
    if (answers s.journalNextSeq).yields then (s, espErrNotFinished)
    else ({ s with journalDirty := decide (s.journalNextSeq < s.nextSeq) }, espOk)
  | turns + 1, s =>
    let answer := answers s.journalNextSeq
    if answer.yields then (s, espErrNotFinished)
    else if s.rows.all fun e => decide (e.seq ≠ s.journalNextSeq) then (s, espErrInvalidState)
    else if answer.append ≠ espOk then (s, answer.append)
    else flushJournal answers turns (noteJournaled s)

structure PersistAnswers where
  sdEnabled : Bool
  generation : Nat
  reconcile : ReconcileAnswers
  journal : Nat → JournalAnswer
  primaryRet : EspErr
  nvsRet : EspErr
  nowMs : Nat

def noteJournalRet (s : PacketLog) (ret : EspErr) : PacketLog :=
  if ret = espOk then s
  else
    { s with
      journalDirty := true
      sdReconcilePending := s.sdReconcilePending || decide (ret = espErrInvalidState) }

def notePrimaryRet (s : PacketLog) (ret : EspErr) (sameRevision : Bool) (nowMs : Nat) :
    PacketLog :=
  if ret = espOk then
    if sameRevision then
      { s with
        sdPrimaryDirty := false
        sdDirtyCount := 0
        lastSdFlushMs := nowMs
        mutatedSinceInit := false
        mutationsSinceInit := 0
        bootNextSeq := s.nextSeq }
    else s
  else
    { s with
      sdPrimaryDirty := true
      sdReconcilePending := s.sdReconcilePending || decide (ret = espErrInvalidState) }

def noteNvsRet (s : PacketLog) (ret : EspErr) (sameRevision : Bool) : PacketLog :=
  if ret = espOk then if sameRevision then { s with nvsFallbackDirty := false } else s
  else { s with nvsFallbackDirty := true }

/-- The last locked part, with the snapshot it belongs to and what its writes returned. -/
def finishPass (d : PacketDesk) (snapshot : PersistSnapshot) (journalRet primaryRet nvsRet : EspErr)
    (nowMs : Nat) : PacketDesk :=
  let sameRevision := decide (d.revision = snapshot.revision)
  let s := if snapshot.journalAttempt then noteJournalRet d.log journalRet else d.log
  let s := if snapshot.primaryAttempt then notePrimaryRet s primaryRet sameRevision nowMs else s
  let s := if snapshot.nvsAttempt then noteNvsRet s nvsRet sameRevision else s
  { d with log := s }

/-- The first of the errors, and what a forced flush makes of a log that is still dirty. -/
def passRet (d : PacketDesk) (snapshot : PersistSnapshot) (sdEnabled force : Bool)
    (errors : List EspErr) : EspErr :=
  match errors.find? fun e => decide (e ≠ espOk) with
  | some error => error
  | none =>
    if force && (decide (d.revision ≠ snapshot.revision) || persistenceDirty d.log sdEnabled) then
      espErrInvalidState
    else espOk

def persistWrites (d : PacketDesk) (a : PersistAnswers) (flushPrimary force : Bool)
    (reconcileRet : EspErr) : PacketDesk × EspErr :=
  let snapshot := takeSnapshot d a.sdEnabled flushPrimary reconcileRet
  let (log, journalRet) :=
    if snapshot.journalAttempt then
      flushJournal a.journal (snapshot.nextSeq - d.log.journalNextSeq) d.log
    else (d.log, espOk)
  let d := { d with log := log }
  if snapshot.journalAttempt && decide (journalRet = espErrNotFinished) then (d, journalRet)
  else
    let primaryRet := if snapshot.primaryAttempt then a.primaryRet else espOk
    if snapshot.primaryAttempt && decide (primaryRet = espErrNotFinished) then (d, primaryRet)
    else
      let nvsRet := if snapshot.nvsAttempt then a.nvsRet else espOk
      let done := finishPass d snapshot journalRet primaryRet nvsRet a.nowMs
      (done, passRet done snapshot a.sdEnabled force [reconcileRet, journalRet, primaryRet, nvsRet])

/-- `persist_store` without another call in between. -/
def persistStore (d : PacketDesk) (a : PersistAnswers) (flushPrimary force : Bool) :
    PacketDesk × EspErr :=
  let d := noteGeneration d a.sdEnabled a.generation
  if a.sdEnabled && d.log.sdReconcilePending then
    let (d, ret) := reconcileSdPrimary d a.reconcile a.generation
    if ret = espErrNotFinished then (d, ret) else persistWrites d a flushPrimary force ret
  else persistWrites d a flushPrimary force espOk

/-- `now - since` on `uint32_t`. -/
def elapsedMs (nowMs sinceMs : Nat) : Nat :=
  (nowMs + (uint32Max + 1) - sinceMs) % (uint32Max + 1)

def primaryFlushDue (s : PacketLog) (nowMs : Nat) : Bool :=
  decide (sdFlushDirtyThreshold ≤ s.sdDirtyCount) || decide (s.lastSdFlushMs = 0) ||
    decide (sdFlushIntervalMs ≤ elapsedMs nowMs s.lastSdFlushMs)

def retainRow (d : PacketDesk) (entry : Entry) (raw : List UInt8) (sdEnabled : Bool)
    (nowMs : Nat) : Option PacketDesk :=
  if !d.log.loaded || d.clearInProgress then none
  else
    (appendRow d.log entry raw sdEnabled nowMs).map fun log =>
      { d with log := log, revision := d.revision + 1 }

def previewRow (d : PacketDesk) (entry : Entry) (raw : List UInt8) (nowMs : Nat) : PacketDesk :=
  if !d.log.loaded || d.clearInProgress then d
  else
    { d with log := { d.log with
        volatileEntry := some (appendCopy entry raw d.log.nextSeq nowMs) } }

/-- `d1l_packet_log_append_raw_checked` on an initialised log: what it returns, and the number it
reports. No other append and no clear comes in between. -/
def appendRawChecked (d : PacketDesk) (entry : Entry) (raw : List UInt8) (sdEnabled : Bool)
    (nowMs : Nat) (a : PersistAnswers) : PacketDesk × EspErr × Nat :=
  match retainRow d entry raw sdEnabled nowMs with
  | none => (d, espErrInvalidState, 0)
  | some d =>
    let (d, ret) := persistStore d a (sdEnabled && primaryFlushDue d.log nowMs) false
    (d, ret, if ret = espOk then d.log.nextSeq - 1 else 0)

/-- What the NVS key of the compact mirror holds, of the right size or of another. -/
abbrev FallbackRead := Except EspErr (Option Blob)

/-- The blob that init loads, and whether it is of the second schema. -/
def acceptFallback : FallbackRead → Except EspErr (Option (Blob × Bool))
  | .error error => if error = espErrNotFound then .ok none else .error error
  | .ok none => .error espErrInvalidState
  | .ok (some blob) =>
    if fallbackBlobV2IsValid blob then .ok (some ({ blob with schema := packetLogSchema }, true))
    else if fallbackBlobIsValid blob then .ok (some (blob, false))
    else .error espErrInvalidState

/-- `d1l_packet_log_init` up to the pass it ends in. -/
def initLoaded (generation : Nat) (sdEnabled : Bool) (fallback : Option (Blob × Bool)) :
    PacketDesk :=
  let s := PacketLog.reset generation sdEnabled
  let s := match fallback with
    | none => s
    | some (blob, legacy) => { loadFallbackBlobIntoRam s blob with nvsFallbackDirty := legacy }
  { log := { s with bootNextSeq := s.nextSeq, loaded := true }
    revision := 1
    clearInProgress := false }

/-- What the backends answered to a clear; the segments may all be gone and the answer still be an
error. -/
structure ClearAnswers where
  sdEnabled : Bool
  historyCleared : Bool
  historyRet : EspErr
  primaryRet : EspErr
  nvsRet : EspErr
  backendChanged : Bool
  finallyEnabled : Bool

def ClearAnswers.ret (c : ClearAnswers) : EspErr :=
  if c.historyRet ≠ espOk then c.historyRet
  else if c.primaryRet ≠ espOk then c.primaryRet
  else if c.nvsRet ≠ espOk then c.nvsRet
  else if c.backendChanged then espErrInvalidState
  else espOk

/-- The last locked part of `d1l_packet_log_clear`. -/
def clearFinish (d : PacketDesk) (c : ClearAnswers) (generation clearRevision : Nat) :
    PacketDesk × EspErr :=
  if c.ret = espOk ∧ d.revision = clearRevision then
    ({ log := { PacketLog.reset generation false with loaded := true }
       revision := d.revision + 1
       clearInProgress := false }, espOk)
  else
    ({ d with
        log := { d.log with
          sdHistoryRecords := if c.historyCleared then 0 else d.log.sdHistoryRecords
          sdPrimaryDirty := if c.backendChanged then c.finallyEnabled else c.sdEnabled
          nvsFallbackDirty := true
          journalDirty := decide (c.historyRet ≠ espOk)
          sdReconcilePending := d.log.sdReconcilePending || c.backendChanged ||
            decide (c.historyRet ≠ espOk) || decide (c.primaryRet ≠ espOk) }
        clearInProgress := false },
      if c.ret = espOk then espErrInvalidState else c.ret)

end Sigui.Packet

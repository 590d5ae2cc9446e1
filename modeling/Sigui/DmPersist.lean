import Sigui.DmDecode
import Sigui.DmMerge

/-! Persistence and init, cut where the source gives up the store lock: each definition is the
work of one hold of the lock, and what the backends answered in between is an argument. -/
namespace Sigui.Dm

/-- A blob the decoder has accepted, and whether it was of an older schema. -/
structure StoredBlob where
  blob : DmBlob
  upgrade : Bool
  valid : blobIsValid blob = true

def noteSdReconcileFailure (s : DmStore) (failure : EspErr) : DmStore :=
  { s with
    sdReconcilePending := true
    sdPrimaryLastError := failure
    retryPending := true }

def reconcileNotFound (s : DmStore) : DmStore :=
  { s with
    sdReconcilePending := false
    sdPrimaryLastError := espOk
    sdPrimaryDirty := decide (0 < s.entries.count) || decide (1 < s.epoch) || s.clearLineage ≠ 0 }

def acceptReconcile (s : DmStore) (stored : StoredBlob) (changed : Bool) : DmStore :=
  let scratch := fillBlob s
  { s with
    nvsBlobScratch := scratch
    sdPrimaryDirty := stored.upgrade || decide (scratch ≠ stored.blob)
    sdReconcilePending := false
    sdPrimaryLastError := espOk
    stateRevision := if changed then s.stateRevision + 1 else s.stateRevision
    nvsFallbackDirty := s.nvsFallbackDirty || changed
    deviceLineageAuthoritative := true
    bootNextSeq := if s.mutatedSinceInit then s.bootNextSeq else s.nextSeq }

/-- The locked part of `reconcile_sd_primary` for a card that was read; a preview outside the
ring is carried over. The failure is noted under a lock of its own, see `noteSdReconcileFailure`. -/
def reconcileLocked (s : DmStore) (stored : StoredBlob) (generationMatches : Bool) :
    DmStore × EspErr :=
  let result := mergePrimary s stored.blob
  let merged := { result.store with volatileEntry := s.volatileEntry }
  if result.ret ≠ espOk then (merged, result.ret)
  else if !generationMatches then
    ({ loadBlob merged (fillBlob s) with volatileEntry := s.volatileEntry }, espErrInvalidState)
  else (acceptReconcile merged stored result.changed, espOk)

structure PersistSnapshot where
  stateRevision : Nat
  sdAttempt : Bool
  nvsAttempt : Bool
  blob : DmBlob

inductive PersistStart
  | finished (ret : EspErr)
  | proceed (reconcileAttempt : Bool)
  deriving DecidableEq

def persistRetryIntervalMs : Nat := 5000

/-- The first locked part of `persist_store`. -/
def persistBegin (s : DmStore) (sdPrimaryRequired : Bool) (generation attemptMs : Nat)
    (force : Bool) : DmStore × PersistStart :=
  if !s.loaded then (s, .finished espErrInvalidState)
  else
    let s :=
      if generation ≠ s.lastSdBackendGeneration then
        { s with
          lastSdBackendGeneration := generation, sdReconcilePending := true
          retryPending := false }
      else s
    let s := { s with lastSdPrimaryRequired := sdPrimaryRequired }
    if !persistenceDirty s sdPrimaryRequired then
      ({ s with ackPersistencePending := [] }, .finished espOk)
    else
      let retryReady := !s.persistAttemptedThisBoot ||
        decide (persistRetryIntervalMs ≤
          (attemptMs + (uint32Max + 1) - s.lastPersistAttemptMs) % (uint32Max + 1))
      if s.retryPending && !retryReady then
        let pending :=
          if s.sdPrimaryLastError ≠ espOk then s.sdPrimaryLastError else s.nvsFallbackLastError
        let pending := if pending = espOk then espErrInvalidState else pending
        (s, .finished (if force then pending else espOk))
      else
        ({ s with persistAttemptedThisBoot := true, lastPersistAttemptMs := attemptMs },
          .proceed (sdPrimaryRequired && s.sdReconcilePending))

def takeSnapshot (s : DmStore) (sdPrimaryRequired : Bool) : PersistSnapshot where
  stateRevision := s.stateRevision
  sdAttempt := sdPrimaryRequired && s.sdPrimaryDirty
  nvsAttempt := s.nvsFallbackDirty
  blob := fillBlob s

/-- Nothing is left to write: what is retained so far is no longer live. -/
def markPersisted (s : DmStore) (sdPrimaryRequired : Bool) : DmStore :=
  if !s.sdReconcilePending && (!sdPrimaryRequired || !s.sdPrimaryDirty) then
    { s with
      mutatedSinceInit := false, mutationsSinceInit := 0, bootNextSeq := s.nextSeq }
  else s

def noteSdWrite (s : DmStore) (snapshot : PersistSnapshot) (sdRet : EspErr) : DmStore :=
  if snapshot.sdAttempt then
    { s with
      sdPrimaryLastError := sdRet
      sdPrimaryDirty :=
        if sdRet = espOk ∧ s.stateRevision = snapshot.stateRevision then false
        else s.sdPrimaryDirty
      sdReconcilePending := if sdRet = espErrInvalidState then true else s.sdReconcilePending }
  else s

def noteNvsWrite (s : DmStore) (snapshot : PersistSnapshot) (nvsRet : EspErr) : DmStore :=
  if snapshot.nvsAttempt then
    { s with
      nvsFallbackLastError := nvsRet
      nvsFallbackDirty :=
        if nvsRet = espOk ∧ s.stateRevision = snapshot.stateRevision then false
        else s.nvsFallbackDirty }
  else s

/-- The last locked part of `persist_store`, given what each attempted write returned. -/
def persistFinish (s : DmStore) (snapshot : PersistSnapshot) (sdPrimaryRequired : Bool)
    (sdRet nvsRet : EspErr) : DmStore :=
  let sameRevision := s.stateRevision = snapshot.stateRevision
  let s := noteNvsWrite (noteSdWrite s snapshot sdRet) snapshot nvsRet
  let operationFailed : Bool := sdRet ≠ espOk || nvsRet ≠ espOk
  if persistenceDirty s sdPrimaryRequired then
    { s with retryPending := s.retryPending || operationFailed || decide (¬sameRevision) }
  else
    markPersisted { s with ackPersistencePending := [], retryPending := false } sdPrimaryRequired

/-- `update_nvs_result`, after a reconcile that failed. -/
def updateNvsResult (s : DmStore) (nvsRet : EspErr) (snapshotRevision : Nat)
    (sdPrimaryRequired : Bool) : DmStore :=
  let s :=
    { s with
      nvsFallbackLastError := nvsRet
      nvsFallbackDirty :=
        if nvsRet = espOk ∧ s.stateRevision = snapshotRevision then false
        else s.nvsFallbackDirty
      retryPending := s.retryPending || decide (nvsRet ≠ espOk) }
  if persistenceDirty s sdPrimaryRequired then s
  else markPersisted { s with retryPending := false } sdPrimaryRequired

structure InitReads where
  enabled : Bool
  generation : Nat
  nvs : Except EspErr StoredBlob
  sd : Except EspErr StoredBlob
  generationMatchesAfterRead : Bool
  generationMatchesAfterMerge : Bool

def InitReads.sdResult (r : InitReads) : Except EspErr StoredBlob :=
  if !r.enabled then .error espErrNotFound
  else if !r.generationMatchesAfterRead then .error espErrInvalidState
  else r.sd

def errorOf {α : Type} : Except EspErr α → EspErr
  | .ok _ => espOk
  | .error ret => ret

/-- The history init starts from: NVS, else the card, else nothing. -/
def initLoad (s : DmStore) (r : InitReads) : DmStore :=
  let reset := resetStore s r.enabled r.generation
  let loaded :=
    match r.nvs, r.sdResult with
    | .ok nvs, _ => { loadBlob reset nvs.blob with nvsBlobScratch := nvs.blob }
    | .error _, .ok sd => loadBlob reset sd.blob
    | .error _, .error _ => reset
  { loaded with
    deviceLineageAuthoritative := r.nvs.isOk || r.sdResult.isOk
    bootNextSeq := loaded.nextSeq
    mutatedSinceInit := false }

/-- Merges the card into an NVS history and returns the merge's result. -/
def initMerge (s : DmStore) (r : InitReads) : DmStore × EspErr :=
  match r.nvs, r.sdResult with
  | .ok _, .ok sd =>
    let result := mergePrimary s sd.blob
    if result.ret ≠ espOk then (loadBlob result.store result.store.nvsBlobScratch, result.ret)
    else
      ({ result.store with
          stateRevision :=
            if result.changed then result.store.stateRevision + 1
            else result.store.stateRevision }, espOk)
  | _, _ => (s, espOk)

def initGenerationChanged (r : InitReads) : Bool := r.enabled && !r.generationMatchesAfterMerge

/-- The card was exchanged during init: back to the blob the scratch buffer holds. -/
def initRollback (s : DmStore) (r : InitReads) : DmStore :=
  if !initGenerationChanged r then s
  else
    match r.nvs with
    | .ok _ => { loadBlob s s.nvsBlobScratch with deviceLineageAuthoritative := true }
    | .error _ => resetStore s r.enabled r.generation

/-- The history as init leaves it, before the dirty flags are computed. -/
def initHistory (s : DmStore) (r : InitReads) : DmStore × EspErr :=
  let (merged, mergeRet) := initMerge (initLoad s r) r
  (normalizeInterrupted (initRollback merged r), mergeRet)

def isProblem (result : Except EspErr StoredBlob) : Bool :=
  match result with
  | .ok _ => false
  | .error ret => ret ≠ espErrNotFound

/-- `d1l_dm_store_init` -/
def initStore (s : DmStore) (r : InitReads) : DmStore × EspErr :=
  let (history, mergeRet) := initHistory s r
  let nvsValid := r.nvs.isOk
  let sdAccepted := r.sdResult.isOk && !initGenerationChanged r
  let sdRet := if initGenerationChanged r then espErrInvalidState else errorOf r.sdResult
  let nvsProblem := isProblem r.nvs
  let sdProblem := (r.enabled && isProblem r.sdResult) || mergeRet ≠ espOk ||
    initGenerationChanged r
  let compare := fillBlob history
  let nvsUpgrade := match r.nvs with
    | .ok nvs => nvs.upgrade
    | .error _ => false
  let sdDiffers := match r.sdResult with
    | .ok sd => sd.upgrade || decide (compare ≠ sd.blob)
    | .error _ => true
  let nvsFallbackDirty :=
    if !nvsValid && !sdAccepted && !nvsProblem then false
    else nvsUpgrade || !nvsValid || decide (compare ≠ history.nvsBlobScratch)
  let emptyAndNotFound := !sdAccepted && sdRet = espErrNotFound && history.entries.count = 0 &&
    history.epoch = 1 && history.clearLineage = 0
  let noValidSource := !nvsValid && !sdAccepted && (nvsProblem || sdProblem)
  ({ history with
      nvsFallbackDirty := nvsFallbackDirty || nvsProblem
      sdReconcilePending := if r.enabled then sdProblem else true
      sdPrimaryDirty := r.enabled && !emptyAndNotFound && !sdProblem && (!sdAccepted || sdDiffers)
      sdPrimaryLastError :=
        if sdProblem then (if mergeRet ≠ espOk then mergeRet else sdRet)
        else history.sdPrimaryLastError
      nvsFallbackLastError := if nvsProblem then errorOf r.nvs else history.nvsFallbackLastError
      retryPending := history.retryPending || sdProblem || nvsProblem
      bootNextSeq := history.nextSeq
      loaded := !noValidSource },
    if !nvsValid && !sdAccepted then
      if sdProblem then sdRet else if nvsProblem then errorOf r.nvs else espOk
    else espOk)

end Sigui.Dm

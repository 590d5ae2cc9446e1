import Sigui.RouteReconcile

/-! Persisting, loading and clearing the route history, cut where the source gives up the store
lock: what the backends answered in between is an argument. -/
namespace Sigui.Route

def persistMinIntervalMs : Nat := 5000
def persistMaxIntervalMs : Nat := 30000

/-- `now - since` on `uint32_t`. -/
def elapsedMs (nowMs sinceMs : Nat) : Nat :=
  (nowMs + (uint32Max + 1) - sinceMs) % (uint32Max + 1)

inductive PersistStart
  | finished (ret : EspErr)
  | proceed (reconcileAttempt : Bool)
  deriving DecidableEq

def noteGeneration (s : RouteStore) (sdPrimaryRequired : Bool) (generation nowMs : Nat) :
    RouteStore :=
  if generation = s.lastSdBackendGeneration then s
  else
    noteDirtyIf { s with lastSdBackendGeneration := generation, sdReconcilePending := true }
      sdPrimaryRequired nowMs

/-- What a forced flush reports while a retry is pending and not due. -/
def pendingError (s : RouteStore) : EspErr :=
  if (s.sdPrimaryDirty || s.sdReconcilePending) && s.sdPrimaryLastError ≠ espOk then
    s.sdPrimaryLastError
  else if s.nvsFallbackDirty && s.nvsFallbackLastError ≠ espOk then s.nvsFallbackLastError
  else espErrInvalidState

/-- The first locked part of `persist_route_snapshot`. -/
def persistBegin (s : RouteStore) (sdPrimaryRequired : Bool) (generation nowMs : Nat)
    (force : Bool) : RouteStore × PersistStart :=
  if !s.loaded then (s, .finished espErrInvalidState)
  else
    let s := noteGeneration s sdPrimaryRequired generation nowMs
    let s := refreshPersistenceDirty { s with lastSdPrimaryRequired := sdPrimaryRequired }
      sdPrimaryRequired
    if s.clearFailureLatched then
      (s, .finished (if s.clearLastError = espOk then espErrInvalidState else s.clearLastError))
    else if !s.persistenceDirty then (s, .finished espOk)
    else
      let retryReady := !s.persistAttemptedThisBoot ||
        decide (persistMinIntervalMs ≤ elapsedMs nowMs s.lastPersistAttemptMs)
      let materialDue := s.dirtyTimingStarted && s.persistenceMaterialDirty &&
        decide (persistMinIntervalMs ≤ elapsedMs nowMs s.materialDirtySinceMs)
      let deadlineDue := s.dirtyTimingStarted &&
        decide (persistMaxIntervalMs ≤ elapsedMs nowMs s.dirtySinceMs)
      let recoveryDue := s.retryPending && retryReady
      let immediateReconcile := sdPrimaryRequired && s.sdReconcilePending &&
        s.persistenceImmediateDue && !s.retryPending
      if force && s.retryPending && !retryReady then (s, .finished (pendingError s))
      else if !force && ((!retryReady && !immediateReconcile) ||
          (!s.persistenceImmediateDue && !materialDue && !deadlineDue && !recoveryDue)) then
        (s, .finished espOk)
      else
        ({ s with
            persistAttemptedThisBoot := true, lastPersistAttemptMs := nowMs
            persistenceImmediateDue := false },
          .proceed (sdPrimaryRequired && s.sdReconcilePending))

structure PersistSnapshot where
  revision : Nat
  sdAttempt : Bool
  nvsAttempt : Bool
  primary : RouteBlob
  fallback : RouteBlob
  deriving DecidableEq

/-- Nothing is left to write: what is retained so far is no longer live. -/
def settleClean (s : RouteStore) : RouteStore :=
  let s := clearPersistenceTiming { s with persistenceMaterialDirty := false }
  let s :=
    if s.sdReconcilePending then s
    else { s with mutatedSinceInit := false, mutationsSinceInit := 0, bootNextSeq := s.nextSeq }
  { s with retryPending := false }

/-- The locked part that takes the snapshot; `none` when the pass ends here. -/
def takeSnapshot (s : RouteStore) (sdPrimaryRequired : Bool) :
    RouteStore × Option PersistSnapshot :=
  let s := refreshPersistenceDirty s sdPrimaryRequired
  if !s.persistenceDirty then (settleClean s, none)
  else
    (s, some
      { revision := s.revision
        sdAttempt := sdPrimaryRequired && s.sdPrimaryDirty
        nvsAttempt := s.nvsFallbackDirty
        primary := fillBlob s
        fallback := fillFallbackBlob s })

def noteSdWrite (s : RouteStore) (snapshot : PersistSnapshot) (sdRet : EspErr)
    (generationChanged : Bool) : RouteStore :=
  if !snapshot.sdAttempt then s
  else
    { s with
      sdReconcilePending := s.sdReconcilePending || generationChanged
      sdPrimaryLastError := sdRet
      sdPrimaryDirty :=
        if sdRet = espOk ∧ s.revision = snapshot.revision then false else s.sdPrimaryDirty }

def noteNvsWrite (s : RouteStore) (snapshot : PersistSnapshot) (nvsRet : EspErr) : RouteStore :=
  if !snapshot.nvsAttempt then s
  else
    { s with
      nvsFallbackLastError := nvsRet
      nvsFallbackDirty :=
        if nvsRet = espOk ∧ s.revision = snapshot.revision then false else s.nvsFallbackDirty }

/-- The last locked part of `persist_route_snapshot`. -/
def persistFinish (s : RouteStore) (snapshot : PersistSnapshot) (sdPrimaryRequired : Bool)
    (sdRet nvsRet : EspErr) (generationChanged : Bool) (nowMs : Nat) : RouteStore :=
  let sameRevision := decide (s.revision = snapshot.revision)
  let sdRet := if snapshot.sdAttempt && generationChanged then espErrInvalidState else sdRet
  let s := noteNvsWrite (noteSdWrite s snapshot sdRet generationChanged) snapshot nvsRet
  let failed := decide (sdRet ≠ espOk) || decide (nvsRet ≠ espOk)
  let s := refreshPersistenceDirty s sdPrimaryRequired
  let s := { s with
    retryPending := s.retryPending || (s.persistenceDirty && (failed || !sameRevision)) }
  if s.persistenceDirty then s
  else { settleClean s with persistedThisBoot := true, lastPersistMs := nowMs }

/-- After a reconcile that failed, only a dirty fallback is written. -/
def takeFallback (s : RouteStore) : Option PersistSnapshot :=
  if s.nvsFallbackDirty then
    some
      { revision := s.revision, sdAttempt := false, nvsAttempt := true
        primary := fillBlob s, fallback := fillFallbackBlob s }
  else none

def fallbackFinish (s : RouteStore) (snapshot : PersistSnapshot) (sdPrimaryRequired : Bool)
    (nvsRet : EspErr) : RouteStore :=
  { refreshPersistenceDirty (noteNvsWrite s snapshot nvsRet) sdPrimaryRequired with
    retryPending := true }

/-- `ret == ESP_OK && !valid`, or an error other than an absent key. -/
def readProblem {β : Type} (read : BlobRead β) (valid : Option β) : Bool :=
  match read with
  | .ok _ => valid.isNone
  | .error error => decide (error ≠ espErrNotFound)

/-- What init learns from the backends. A card that is not selected is not asked. -/
structure InitReads where
  enabled : Bool
  generation : Nat
  compact : BlobRead RouteBlob
  sd : BlobRead RouteBlob
  legacyNvs : BlobRead RouteLegacyBlob
  legacySd : BlobRead RouteLegacyBlob
  generationMatches : Bool
  nowMs : Nat

/-- `D1L_ROUTE_SOURCE_*`, with the blob that was selected. -/
inductive RouteSource
  | noSource
  | sdV2 (blob : RouteBlob)
  | nvsV2 (blob : RouteBlob)
  | sdLegacy (blob : RouteLegacyBlob)
  | nvsLegacy (blob : RouteLegacyBlob)
  deriving DecidableEq

namespace InitReads

variable (r : InitReads)

def sdRead : BlobRead RouteBlob := if r.enabled then r.sd else .error espErrNotFound

def legacySdRead : BlobRead RouteLegacyBlob :=
  if r.enabled then r.legacySd else .error espErrNotFound

def compactValid : Option RouteBlob := validImage fallbackBlobIsValid r.compact
def sdValid : Option RouteBlob := validImage blobIsValid r.sdRead
def legacyNvsValid : Option RouteLegacyBlob := validImage legacyBlobIsValid r.legacyNvs
def legacySdValid : Option RouteLegacyBlob := validImage legacyBlobIsValid r.legacySdRead

def v2Source : RouteSource :=
  match r.sdValid, r.compactValid with
  | some sd, some compact =>
    if decide (sd.epoch < compact.epoch) ||
        (decide (compact.epoch = sd.epoch) && decide (sd.totalWritten < compact.totalWritten))
    then .nvsV2 compact
    else .sdV2 sd
  | some sd, none => .sdV2 sd
  | none, some compact => .nvsV2 compact
  | none, none => .noSource

def legacySource : RouteSource :=
  match r.legacySdValid, r.legacyNvsValid with
  | some sd, some nvs =>
    if sd.totalWritten < nvs.totalWritten then .nvsLegacy nvs else .sdLegacy sd
  | some sd, none => .sdLegacy sd
  | none, some nvs => .nvsLegacy nvs
  | none, none => .noSource

end InitReads

def RouteSource.blob : RouteSource → Option RouteBlob
  | .noSource => none
  | .sdV2 blob => some blob
  | .nvsV2 blob => some blob
  | .sdLegacy blob => some (legacyBlobToFull blob)
  | .nvsLegacy blob => some (legacyBlobToFull blob)

def RouteSource.isLegacy : RouteSource → Bool
  | .sdLegacy _ | .nvsLegacy _ => true
  | _ => false

def RouteSource.isNvs : RouteSource → Bool
  | .nvsV2 _ | .nvsLegacy _ => true
  | _ => false

def RouteSource.isNvsV2 : RouteSource → Bool
  | .nvsV2 _ => true
  | _ => false

/-- The legacy history wins over a version-two history of epoch one that is not ahead of it. -/
def legacyPreferred (v2 legacy : RouteSource) : Bool :=
  match v2.blob, legacy.blob with
  | some v2Blob, some old =>
    decide (v2Blob.epoch = 1) &&
      (decide (v2Blob.totalWritten < old.totalWritten) ||
        (v2.isNvsV2 && decide (old.totalWritten = v2Blob.totalWritten)) ||
        (decide (old.totalWritten = v2Blob.totalWritten) &&
          decide (v2Blob.entries.length < old.entries.length)))
  | _, _ => false

def InitReads.source (r : InitReads) : RouteSource :=
  if r.v2Source.blob.isNone || legacyPreferred r.v2Source r.legacySource then r.legacySource
  else r.v2Source

def readError {β : Type} : BlobRead β → EspErr
  | .ok _ => espOk
  | .error error => error

def sdV2Problem (r : InitReads) : Bool := r.enabled && readProblem r.sdRead r.sdValid

def sdLegacyProblem (r : InitReads) : Bool := r.enabled && readProblem r.legacySdRead r.legacySdValid

def nvsLegacyProblem (r : InitReads) : Bool := readProblem r.legacyNvs r.legacyNvsValid

def initRefused (r : InitReads) : Bool :=
  (r.source.blob.isNone && (sdV2Problem r || sdLegacyProblem r || nvsLegacyProblem r)) ||
    (nvsLegacyProblem r && r.legacySource.blob.isNone &&
      match r.v2Source.blob with
      | some blob => decide (blob.epoch = 1)
      | none => false)

def refusedError (r : InitReads) : EspErr :=
  if sdV2Problem r && readError r.sdRead ≠ espOk then readError r.sdRead
  else if sdLegacyProblem r && readError r.legacySdRead ≠ espOk then readError r.legacySdRead
  else if nvsLegacyProblem r && readError r.legacyNvs ≠ espOk then readError r.legacyNvs
  else espErrInvalidState

def loadSource (s : RouteStore) : RouteSource → RouteStore
  | .noSource => s
  | .sdV2 blob => loadValidBlobIntoRam s blob
  | .nvsV2 blob => loadFallbackBlobIntoRam s blob
  | .sdLegacy blob => loadLegacyBlobIntoRam s blob
  | .nvsLegacy blob => loadLegacyBlobIntoRam s blob

def sameHistory (s : RouteStore) (blob : Option RouteBlob) : Bool :=
  match blob with
  | none => false
  | some blob => decide (blob.epoch = s.epoch) && decide (blob.totalWritten = s.totalWritten)

def selectFlags (s : RouteStore) (r : InitReads) : RouteStore :=
  let source := r.source
  { s with
    revision := 1
    mutatedSinceInit := false
    mutationsSinceInit := 0
    bootNextSeq := s.nextSeq
    nvsLegacyReclaimAllowed := source.blob.isSome &&
      match r.legacyNvs with
      | .ok _ => true
      | .error error => decide (error ≠ espErrNotFound)
    sdReconcilePending := !r.enabled || sdV2Problem r || sdLegacyProblem r ||
      (r.enabled && source.isNvs && (r.sdValid.isSome || r.legacySdValid.isSome))
    sdPrimaryDirty :=
      if source.isLegacy then r.enabled
      else source.blob.isSome && r.enabled && !sameHistory s r.sdValid
    nvsFallbackDirty := source.blob.isSome && !sameHistory s r.compactValid }

/-- Init with a source, or with an empty history, after every check. -/
def initLoaded (s : RouteStore) (r : InitReads) : RouteStore :=
  let s := selectFlags (loadSource s r.source) r
  let s := noteDirtyIf s (s.sdPrimaryDirty || s.nvsFallbackDirty ||
    (r.enabled && s.sdReconcilePending)) r.nowMs
  { refreshPersistenceDirty s r.enabled with loaded := true }

/-- `route_store_init_internal` on a store that is to be (re)loaded. -/
def initStore (r : InitReads) : RouteStore × EspErr :=
  let s := resetStore r.enabled r.generation
  if readProblem r.compact r.compactValid then
    let failure := match r.compact with
      | .ok _ => espErrInvalidState
      | .error error => error
    ({ s with nvsFallbackDirty := true, nvsFallbackLastError := failure, persistenceDirty := true },
      failure)
  else if r.enabled && !r.generationMatches then
    (noteSdReconcileFailure s espErrInvalidState r.nowMs, espErrInvalidState)
  else if initRefused r then
    let failure := refusedError r
    let s :=
      if sdV2Problem r || sdLegacyProblem r then
        { s with sdPrimaryDirty := true, sdReconcilePending := true, sdPrimaryLastError := failure }
      else { s with nvsFallbackDirty := true, nvsFallbackLastError := failure }
    ({ s with persistenceDirty := true }, failure)
  else (initLoaded s r, espOk)

/-- What the backends returned to a clear; what the source does not ask counts as `ESP_OK`, and a
generation that changed turns the answer of the card into `ESP_ERR_INVALID_STATE`. -/
structure ClearResults where
  sdErase : EspErr
  sdLegacyErase : EspErr
  nvsErase : EspErr
  nvsLegacyErase : EspErr
  sdWrite : EspErr
  nvsWrite : EspErr

def firstError : List EspErr → EspErr
  | [] => espOk
  | error :: rest => if error ≠ espOk then error else firstError rest

def ClearResults.erased (c : ClearResults) : EspErr :=
  firstError [c.sdErase, c.sdLegacyErase, c.nvsErase, c.nvsLegacyErase]

def ClearResults.ret (c : ClearResults) : EspErr :=
  if c.erased ≠ espOk then c.erased else firstError [c.sdWrite, c.nvsWrite]

def clearPrimary (epoch : Nat) : RouteBlob := ⟨routeStoreFullSchema, epoch, 1, 0, 0, []⟩

/-- The last locked part of `d1l_route_store_clear`; `clearRevision` and `clearEpoch` were taken
before the keys were erased. -/
def clearFinish (s : RouteStore) (sdPrimaryRequired : Bool) (generation clearRevision clearEpoch
    nowMs : Nat) (results : ClearResults) : RouteStore × EspErr :=
  if results.ret = espOk ∧ s.revision = clearRevision then
    ({ clearPersistenceTiming (clearRam s) with
        epoch := clearEpoch
        revision := s.revision + 1
        loaded := true
        persistenceDirty := false
        persistenceMaterialDirty := false
        sdPrimaryDirty := false
        sdReconcilePending := !sdPrimaryRequired
        lastSdPrimaryRequired := sdPrimaryRequired
        lastSdBackendGeneration := generation
        nvsFallbackDirty := false
        mutatedSinceInit := false
        mutationsSinceInit := 0
        bootNextSeq := 1
        retryPending := false
        persistedThisBoot := true
        persistAttemptedThisBoot := true
        lastPersistMs := nowMs
        clearFailureLatched := false
        clearLastError := espOk
        nvsLegacyReclaimAllowed := false
        sdPrimaryLastError := if sdPrimaryRequired then espOk else s.sdPrimaryLastError
        nvsFallbackLastError := espOk }, espOk)
  else
    let failure := if results.ret ≠ espOk then results.ret else espErrInvalidState
    let sdFailed := sdPrimaryRequired &&
      firstError [results.sdErase, results.sdLegacyErase, results.sdWrite] ≠ espOk
    let nvsFailed := firstError [results.nvsErase, results.nvsLegacyErase, results.nvsWrite] ≠ espOk
    ({ notePersistenceDirty s true true nowMs with
        clearFailureLatched := true
        clearLastError := failure
        retryPending := true
        sdPrimaryDirty := sdPrimaryRequired
        nvsFallbackDirty := true
        sdPrimaryLastError := if sdFailed then failure else s.sdPrimaryLastError
        nvsFallbackLastError := if nvsFailed then failure else s.nvsFallbackLastError }, failure)

end Sigui.Route

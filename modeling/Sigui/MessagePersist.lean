import Sigui.MessageStore

/-! Persistence and init of the message store, cut where the source gives up the store lock, and
the device: the store together with the one persist pass that may be under way. -/
namespace Sigui.Message

structure PersistSnapshot where
  revision : Nat
  sdAttempt : Bool
  nvsAttempt : Bool
  blob : Blob

/-- `D1L_MESSAGE_STORE_PERSIST_RETRY_MS` -/
def persistRetryMs : Nat := 5000

/-- `pending_error_locked` -/
def pendingError (s : Store) : EspErr :=
  if (s.sdPrimaryDirty || s.sdReconcilePending) = true ∧ s.sdPrimaryLastError ≠ espOk then
    s.sdPrimaryLastError
  else if s.nvsFallbackDirty = true ∧ s.nvsFallbackLastError ≠ espOk then s.nvsFallbackLastError
  else espErrInvalidState

inductive PersistStart
  | finished (ret : EspErr)
  | proceed (reconcileAttempt : Bool)
  deriving DecidableEq

def Store.retryReady (s : Store) (nowMs : Nat) : Bool :=
  !s.persistAttemptedThisBoot ||
    decide (persistRetryMs ≤ (nowMs + (uint32Max + 1) - s.lastPersistAttemptMs) % (uint32Max + 1))

/-- The first locked part of `persist_store`. -/
def persistBegin (s : Store) (sdRequired : Bool) (generation nowMs : Nat) (force : Bool) :
    Store × PersistStart :=
  if !s.loaded then (s, .finished espErrInvalidState)
  else
    let s :=
      if generation ≠ s.lastSdBackendGeneration then
        { s with lastSdBackendGeneration := generation, sdReconcilePending := true }
      else s
    if !s.persistenceDirty sdRequired then (s, .finished espOk)
    else if s.retryPending && !s.retryReady nowMs then
      (s, .finished (if force then pendingError s else espOk))
    else
      ({ s with persistAttemptedThisBoot := true, lastPersistAttemptMs := nowMs },
        .proceed (sdRequired && s.sdReconcilePending))

def Store.closeWindow (s : Store) : Store :=
  { s with
    retryPending := false
    window :=
      if !s.sdPrimaryDirty && !s.sdReconcilePending then ⟨false, s.history.nextSeq, 0⟩
      else s.window }

def takeSnapshot (s : Store) (sdRequired : Bool) : PersistSnapshot where
  revision := s.revision
  sdAttempt := sdRequired && s.sdPrimaryDirty
  nvsAttempt := s.nvsFallbackDirty
  blob := fillBlob s.history

/-- The answers to the writes of a snapshot. `sdRet` is `ESP_ERR_INVALID_STATE` where the backend's
generation no longer matched. -/
structure WriteAnswers where
  sdRet : EspErr
  nvsRet : EspErr
  generationChanged : Bool

/-- What the source holds in `sd_ret` and `nvs_ret` when it takes the lock again. -/
def WriteAnswers.settled (a : WriteAnswers) (snapshot : PersistSnapshot) : WriteAnswers where
  sdRet :=
    if snapshot.sdAttempt then if a.generationChanged then espErrInvalidState else a.sdRet
    else espOk
  nvsRet := if snapshot.nvsAttempt then a.nvsRet else espOk
  generationChanged := snapshot.sdAttempt && a.generationChanged

def noteSdWrite (s : Store) (snapshot : PersistSnapshot) (a : WriteAnswers) : Store :=
  if snapshot.sdAttempt then
    { s with
      sdPrimaryLastError := a.sdRet
      sdReconcilePending := s.sdReconcilePending || a.generationChanged
      sdPrimaryDirty :=
        if a.sdRet = espOk ∧ s.revision = snapshot.revision then false else s.sdPrimaryDirty }
  else s

def noteNvsWrite (s : Store) (snapshot : PersistSnapshot) (a : WriteAnswers) : Store :=
  if snapshot.nvsAttempt then
    { s with
      nvsFallbackLastError := a.nvsRet
      nvsFallbackDirty :=
        if a.nvsRet = espOk ∧ s.revision = snapshot.revision then false else s.nvsFallbackDirty }
  else s

/-- The last locked part of `persist_store`. -/
def persistFinish (s : Store) (snapshot : PersistSnapshot) (sdRequired : Bool)
    (answers : WriteAnswers) : Store :=
  let a := answers.settled snapshot
  let noted := noteNvsWrite (noteSdWrite s snapshot a) snapshot a
  if noted.persistenceDirty sdRequired then
    { noted with
      retryPending := noted.retryPending || decide (a.sdRet ≠ espOk ∨ a.nvsRet ≠ espOk ∨
        s.revision ≠ snapshot.revision) }
  else noted.closeWindow

/-- The NVS copy that is still written after a reconcile has failed. -/
def persistFallback (s : Store) (snapshot : PersistSnapshot) (nvsRet : EspErr) : Store :=
  { s with
    nvsFallbackLastError := nvsRet
    nvsFallbackDirty :=
      if nvsRet = espOk ∧ s.revision = snapshot.revision then false else s.nvsFallbackDirty
    retryPending := true }

structure InitReads where
  enabled : Bool
  generation : Nat
  nvs : Except EspErr StoredBlob
  sd : Except EspErr StoredBlob
  generationMatchesAfterRead : Bool
  generationMatchesAfterMerge : Bool

def InitReads.sdResult (r : InitReads) : Except EspErr StoredBlob :=
  if !r.enabled then .error espErrNotFound
  else if !r.generationMatchesAfterRead then .error espErrInvalidState
  else r.sd

def problemOf : Except EspErr StoredBlob → Option EspErr
  | .ok _ => none
  | .error ret => if ret = espErrNotFound then none else some ret

/-- `clear_ram` and `reset_persistence_state` -/
def resetStore (s : Store) (generation : Nat) : Store :=
  { s with
    history := .empty
    volatileEntry := none
    window := ⟨false, 1, 0⟩
    loaded := false
    sdPrimaryDirty := false
    sdReconcilePending := false
    nvsFallbackDirty := false
    retryPending := false
    persistAttemptedThisBoot := false
    deviceLineageAuthoritative := false
    lastSdBackendGeneration := generation
    lastPersistAttemptMs := 0
    sdPrimaryLastError := espOk
    nvsFallbackLastError := espOk
    revision := 0 }

/-- Both reads succeeded: the newer blob of the same lineage is loaded and the other merged. -/
def initMerge (s : Store) (nvs sd : StoredBlob) : Store :=
  let s := { s with nvsBlobScratch := nvs.blob }
  let sdSelected := decide (sd.blob.clearLineage = nvs.blob.clearLineage) &&
    blobIsNewer sd.blob nvs.blob
  let selected := if sdSelected then sd.blob else nvs.blob
  let other := if sdSelected then nvs.blob else sd.blob
  let result := mergeBlobIntoRam { s with history := loadBlob selected } other
  if result.ret = espOk then result.store
  else noteSdReconcileFailure { result.store with history := loadBlob nvs.blob } result.ret

def initLoad (s : Store) (r : InitReads) : Store :=
  let loaded :=
    match r.nvs, r.sdResult with
    | .ok nvs, .ok sd => initMerge s nvs sd
    | .ok nvs, .error _ => { s with history := loadBlob nvs.blob, nvsBlobScratch := nvs.blob }
    | .error _, .ok sd => { s with history := loadBlob sd.blob }
    | .error _, .error _ => s
  { loaded with deviceLineageAuthoritative := r.nvs.isOk || r.sdResult.isOk }

def InitReads.generationChanged (r : InitReads) : Bool :=
  r.enabled && !r.generationMatchesAfterMerge

def migratedOf : Except EspErr StoredBlob → Bool
  | .ok stored => stored.migrated
  | .error _ => false

def History.hasState (h : History) : Bool :=
  decide (0 < h.totalWritten) || decide (h.rows ≠ []) || decide (1 < h.epoch) ||
    decide (h.clearLineage ≠ 0)

/-- The flags that init computes at its end, for the error `sdProblem` the card is left with. -/
def initFlags (s : Store) (r : InitReads) (sdProblem : Option EspErr) : Store :=
  let sdDirty := match r.sdResult with
    | .ok sd => sd.migrated || !blobsEquivalent (fillBlob s.history) sd.blob
    | .error _ => s.history.hasState
  let nvsDirty := migratedOf r.nvs ||
    (r.sdResult.isOk && (!r.nvs.isOk || !blobsEquivalent (fillBlob s.history) s.nvsBlobScratch))
  { s with
    nvsFallbackDirty := nvsDirty || (problemOf r.nvs).isSome
    sdPrimaryDirty :=
      if r.enabled && sdProblem.isNone && !s.sdReconcilePending then sdDirty else s.sdPrimaryDirty
    sdReconcilePending := s.sdReconcilePending || sdProblem.isSome || !r.enabled
    sdPrimaryLastError := sdProblem.getD s.sdPrimaryLastError
    nvsFallbackLastError := (problemOf r.nvs).getD s.nvsFallbackLastError
    retryPending := s.retryPending || sdProblem.isSome || (problemOf r.nvs).isSome
    revision := 1
    window := ⟨false, s.history.nextSeq, 0⟩
    loaded := true }

def initFailed (s : Store) (r : InitReads) : Store :=
  { s with
    nvsFallbackDirty := s.nvsFallbackDirty || (problemOf r.nvs).isSome
    nvsFallbackLastError := (problemOf r.nvs).getD s.nvsFallbackLastError
    sdReconcilePending := s.sdReconcilePending || (problemOf r.sdResult).isSome
    sdPrimaryLastError := (problemOf r.sdResult).getD s.sdPrimaryLastError
    retryPending := true
    loaded := false }

/-- `d1l_message_store_init` -/
def initStore (s : Store) (r : InitReads) : Store × EspErr :=
  let reset := resetStore s r.generation
  match r.nvs.isOk || r.sdResult.isOk, problemOf r.nvs, problemOf r.sdResult with
  | false, some ret, _ => (initFailed reset r, ret)
  | false, none, some ret => (initFailed reset r, ret)
  | _, _, sdProblem =>
    let loaded := initLoad reset r
    if !r.generationChanged then (initFlags loaded r sdProblem, espOk)
    else if r.nvs.isOk then
      -- The scratch buffer need not hold the NVS blob any more: a merge has written to it.
      (initFlags { loaded with history := loadBlob loaded.nvsBlobScratch } r
        (some espErrInvalidState), espOk)
    else
      ({ noteSdReconcileFailure { loaded with history := .empty } espErrInvalidState with
          deviceLineageAuthoritative := false, loaded := false }, espErrInvalidState)

inductive PersistPhase
  | idle
  | reconciling (sdRequired : Bool)
  | collecting (sdRequired : Bool)
  | writing (sdRequired : Bool) (snapshot : PersistSnapshot)
  | reconcileFailed
  | writingFallback (snapshot : PersistSnapshot)

structure Device where
  store : Store
  phase : PersistPhase

inductive Act
  | init (reads : InitReads)
  | append (a : AppendArgs) (nowMs : Nat)
  | clear (lineage : UInt64)
  | clearChannel (channelId lineage : UInt64)
  | begin (sdRequired : Bool) (generation nowMs : Nat) (force : Bool)
  | reconcile (read : ReconcileRead)
  | collect
  | written (answers : WriteAnswers)
  /-- the card's write did not finish -/
  | abandon

def beginPersist (s : Store) (sdRequired : Bool) (generation nowMs : Nat) (force : Bool) :
    Device :=
  let (store, start) := persistBegin s sdRequired generation nowMs force
  match start with
  | .finished _ => ⟨store, .idle⟩
  | .proceed true => ⟨store, .reconciling sdRequired⟩
  | .proceed false => ⟨store, .collecting sdRequired⟩

def reconcilePersist (s : Store) (sdRequired : Bool) (read : ReconcileRead) : Device :=
  let (store, ret) := reconcileSdPrimary s read
  if ret = espOk then ⟨store, .collecting sdRequired⟩
  else if ret = espErrNotFinished then ⟨store, .idle⟩
  else ⟨store, .reconcileFailed⟩

/-- An act that the phase does not allow leaves the device as it is. -/
def stepDevice (d : Device) (act : Act) : Device :=
  match act, d.phase with
  | .init reads, .idle => if d.store.loaded then d else ⟨(initStore d.store reads).1, .idle⟩
  | .append a nowMs, phase => ⟨(appendChannel d.store a nowMs).1, phase⟩
  | .clear lineage, phase => if d.store.loaded then ⟨clearStore d.store lineage, phase⟩ else d
  | .clearChannel channelId lineage, phase =>
    if d.store.loaded then ⟨clearChannel d.store channelId lineage, phase⟩ else d
  | .begin sdRequired generation nowMs force, .idle =>
    beginPersist d.store sdRequired generation nowMs force
  | .reconcile read, .reconciling sdRequired => reconcilePersist d.store sdRequired read
  | .collect, .collecting sdRequired =>
    if d.store.persistenceDirty sdRequired then
      ⟨d.store, .writing sdRequired (takeSnapshot d.store sdRequired)⟩
    else ⟨d.store.closeWindow, .idle⟩
  | .collect, .reconcileFailed =>
    if d.store.nvsFallbackDirty then ⟨d.store, .writingFallback (takeSnapshot d.store false)⟩
    else ⟨d.store, .idle⟩
  | .written answers, .writing sdRequired snapshot =>
    ⟨persistFinish d.store snapshot sdRequired answers, .idle⟩
  | .written answers, .writingFallback snapshot =>
    ⟨persistFallback d.store snapshot answers.nvsRet, .idle⟩
  | .abandon, .writing _ _ => ⟨d.store, .idle⟩
  | _, _ => d

end Sigui.Message

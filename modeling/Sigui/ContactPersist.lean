import Sigui.ContactStore
import Sigui.Overlay

/-! The contact store with the card and the NVS key it was started on: reconciling, persisting,
loading and clearing. What the backends answer is an argument; a write or an erase that reports an
error may or may not have reached the card. -/
namespace Sigui.Contact

def sameContact (left right : ContactEntry) : Bool := (contactEntriesSameIdentity left right).1

def conflictingContact (left right : ContactEntry) : Bool :=
  (contactEntriesSameIdentity left right).2

def keptRows (s : ContactStore) (primary : ContactBlob) : List ContactEntry :=
  primary.entries.filter fun e => !fingerprintWasDeleted s e.fingerprint.bytes

def touchedRows (s : ContactStore) (live : ContactBlob) : List ContactEntry :=
  live.entries.filter fun e => fingerprintWasTouched s e.fingerprint.bytes

/-- `merge_contact_blobs_locked`: what was written here replaces what the card says of it. -/
def mergeContactBlobs (s : ContactStore) (live primary : ContactBlob) :
    Except EspErr ContactBlob :=
  match overlayRows sameContact conflictingContact contactStoreCapacity (keptRows s primary)
      (touchedRows s live) with
  | .error .conflict => .error espErrInvalidState
  | .error .full => .error espErrNoMem
  | .ok rows =>
    .ok
      { schema := contactStoreSchema
        nextSeq := max live.nextSeq primary.nextSeq
        totalWritten := max (max live.totalWritten primary.totalWritten) rows.length
        droppedOldest := max live.droppedOldest primary.droppedOldest
        entries := rows }

/-- What the backends answer while the store persists. `readMatches` to `settledMatches` say
whether the card is still of the generation that was announced. -/
structure PersistIo where
  startMatches : Bool
  readRet : EspErr
  readMatches : Bool
  reconcileMatches : Bool
  writeMatches : Bool
  writeRet : EspErr
  writeLanded : Bool
  settledMatches : Bool
  nvsErase : EspErr

/-- Every read, write and erase succeeds and the generation does not change. -/
def PersistIo.accepted : PersistIo where
  startMatches := true
  readRet := espOk
  readMatches := true
  reconcileMatches := true
  writeMatches := true
  writeRet := espOk
  writeLanded := true
  settledMatches := true
  nvsErase := espOk

/-- The store, the card that is mounted and the NVS key. The backend state is always known. -/
structure ContactDevice where
  store : ContactStore
  enabled : Bool
  generation : Nat
  card : Option ContactImage
  nvs : Option ContactImage

/-- One read of a key that holds `content`; `ESP_ERR_NOT_FOUND` is said of an absent key only. -/
def readKey (ret : EspErr) (content : Option ContactImage) :
    Except EspErr (Option ContactImage) :=
  if ret = espOk ∨ ret = espErrNotFound then .ok content else .error ret

/-- `read_current_sd_blob`: an absent key is no error, and only the current layout is read. -/
def readCurrentSdBlob (card : Option ContactImage) (io : PersistIo) :
    Except EspErr (Option ContactBlob) :=
  if !io.startMatches then .error espErrInvalidState
  else
    match readKey io.readRet card with
    | .error error => .error error
    | .ok none => if io.readMatches then .ok none else .error espErrInvalidState
    | .ok (some (.current blob)) =>
      if blobIsValid blob && io.readMatches then .ok (some blob) else .error espErrInvalidState
    | .ok (some _) => .error espErrInvalidState

structure CardWork where
  writeNeeded : Bool
  eraseNeeded : Bool
  deriving DecidableEq

def adoptBlob (s : ContactStore) (blob : ContactBlob) : Option ContactStore :=
  if fillBlob s = blob then some s
  else if s.persistenceRevision = uint32Max then none
  else some { restoreBlob s blob with persistenceRevision := s.persistenceRevision + 1 }

def reconcileFound (s : ContactStore) (primary : ContactBlob) :
    Except EspErr (ContactStore × CardWork) :=
  match s.mutationAuthority with
  | .none =>
    match adoptBlob s primary with
    | none => .error espErrInvalidState
    | some adopted => .ok (adopted, ⟨false, false⟩)
  | .explicitClear => .ok (s, ⟨false, true⟩)
  | .localMutation =>
    match mergeContactBlobs s (fillBlob s) primary with
    | .error error => .error error
    | .ok merged =>
      match adoptBlob s merged with
      | none => .error espErrInvalidState
      | some adopted => .ok (adopted, ⟨decide (merged ≠ primary), false⟩)

/-- `reconcile_sd_primary_locked` -/
def reconcileSdPrimary (s : ContactStore) (card : Option ContactImage) (io : PersistIo) :
    ContactStore × Except EspErr CardWork :=
  match readCurrentSdBlob card io with
  | .error error => ({ s with sdReconcilePending := true }, .error error)
  | .ok none =>
    ({ s with sdReconcilePending := false },
      .ok ⟨decide (s.mutationAuthority ≠ .explicitClear) &&
        (!s.entries.isEmpty || decide (s.mutationAuthority = .localMutation)), false⟩)
  | .ok (some primary) =>
    match reconcileFound s primary with
    | .error error => ({ s with sdReconcilePending := true }, .error error)
    | .ok (adopted, work) =>
      if !io.reconcileMatches then
        ({ restoreBlob adopted (fillBlob s) with sdReconcilePending := true },
          .error espErrInvalidState)
      else ({ adopted with sdReconcilePending := false }, .ok work)

def workCard (d : ContactDevice) (work : CardWork) (io : PersistIo) :
    Option ContactImage × EspErr :=
  let landed := decide (io.writeRet = espOk) || io.writeLanded
  if work.eraseNeeded then (if landed then none else d.card, io.writeRet)
  else if work.writeNeeded then
    if !io.writeMatches then (d.card, espErrInvalidState)
    else (if landed then some (.current (fillBlob d.store)) else d.card, io.writeRet)
  else (d.card, espOk)

def commitWork (d : ContactDevice) (work : CardWork) (io : PersistIo) : ContactDevice × EspErr :=
  let (card, cardRet) := workCard d work io
  let settled :=
    if cardRet = espOk ∧ io.settledMatches = false then espErrInvalidState else cardRet
  let ret := if settled = espOk then io.nvsErase else settled
  ({ d with
      card := card
      nvs := if ret = espOk then none else d.nvs
      store := { d.store with
        sdReconcilePending := decide (ret ≠ espOk) || d.store.sdReconcilePending
        lastPersistDurable := decide (ret = espOk) } }, ret)

def acceptGeneration (s : ContactStore) (enabled : Bool) (generation : Nat) : ContactStore :=
  if generation = s.acceptedSdBackendGeneration then s
  else { s with acceptedSdBackendGeneration := generation, sdReconcilePending := enabled }

/-- What is to be done to the card when it is known to be this store's. -/
def ownWork (s : ContactStore) : CardWork where
  writeNeeded := decide (s.mutationAuthority = .localMutation) || s.persistenceDirty
  eraseNeeded := decide (s.mutationAuthority = .explicitClear) && s.entries.isEmpty

def persistStore (d : ContactDevice) (io : PersistIo) : ContactDevice × EspErr :=
  let s := acceptGeneration { d.store with lastPersistDurable := false } d.enabled d.generation
  if !d.enabled then ({ d with store := { s with sdReconcilePending := true } }, espOk)
  else
    let reconciled :=
      if s.sdReconcilePending then reconcileSdPrimary s d.card io else (s, .ok (ownWork s))
    match reconciled with
    | (s, .error error) => ({ d with store := s }, error)
    | (s, .ok work) => commitWork { d with store := s } work io

def settleDurable (s : ContactStore) : ContactStore :=
  releaseDurableMutationAuthority (markDurable s)

/-- Back to the captured rows and intent; the revision that was reserved is given back. -/
def rollBack (before s : ContactStore) : ContactStore :=
  { restoreBlob s (fillBlob before) with
    mutationAuthority := before.mutationAuthority
    deletedFingerprints := before.deletedFingerprints
    touchedFingerprints := before.touchedFingerprints
    persistenceRevision := s.persistenceRevision - 1 }

/-- `persist_store_or_rollback` of an edited store; `before` is the store the edit started from. -/
def persistStoreOrRollback (d : ContactDevice) (before : ContactStore) (io : PersistIo)
    (nowMs : Nat) : ContactDevice × EspErr :=
  let (persisted, ret) := persistStore d io
  let store :=
    if ret ≠ espOk then
      { rollBack before persisted.store with
        persistenceDirty := d.store.persistenceDirty
        persistenceDirtySinceMs := d.store.persistenceDirtySinceMs }
    else if !persisted.store.lastPersistDurable then markDeferredPersistence persisted.store nowMs
    else settleDurable persisted.store
  ({ persisted with store := store }, ret)

/-- What the backends answer to init; `settled` says that the backend state is the same again. -/
structure InitIo where
  sdRet : EspErr
  nvsRet : EspErr
  settled : Bool
  persist : PersistIo
  nowMs : Nat

def InitIo.accepted (nowMs : Nat) : InitIo := ⟨espOk, espOk, true, .accepted, nowMs⟩

/-- The image that init starts from and whether the card held it; the NVS key is asked when there
is no card or no file on it. -/
def initRead (d : ContactDevice) (io : InitIo) : Except EspErr (Option (ContactImage × Bool)) :=
  let sdRead := if d.enabled then readKey io.sdRet d.card else .ok none
  match sdRead with
  | .error error => .error error
  | .ok (some image) => .ok (some (image, true))
  | .ok none =>
    match readKey io.nvsRet d.nvs with
    | .error error => .error error
    | .ok none => .ok none
    | .ok (some image) => .ok (some (image, false))

/-- Rows that were migrated or came from NVS are written to the card at once. -/
def initPersist (d : ContactDevice) (fromSd : Bool) (io : InitIo) : ContactDevice × EspErr :=
  let s := { d.store with mutationAuthority := .localMutation }
  let s := if fromSd then s else rememberAllCurrentFingerprints s
  let s := { markDeferredPersistence s io.nowMs with
    sdReconcilePending := d.enabled && !fromSd }
  let (persisted, ret) := persistStore { d with store := s } io.persist
  if ret = espOk ∧ persisted.store.lastPersistDurable = true then
    ({ persisted with store := settleDurable persisted.store }, ret)
  else (persisted, ret)

/-- An image that no layout accepts is kept as it is, and nothing is exposed. -/
def refusedImage (image : ContactImage) : EspErr :=
  if contactStoreSchema < image.schema then espErrNotSupported else espErrInvalidState

def unsettled (s : ContactStore) : ContactStore := { clearRam s with sdReconcilePending := true }

/-- `d1l_contact_store_init` up to the result; `s_loaded` is set by the caller. -/
def initBody (d : ContactDevice) (io : InitIo) : ContactDevice × EspErr :=
  let s := resetStore d.generation
  match initRead d io with
  | .error error => ({ d with store := s }, error)
  | .ok none =>
    if !io.settled then ({ d with store := unsettled s }, espErrInvalidState)
    else ({ d with store := s }, espOk)
  | .ok (some (image, fromSd)) =>
    match acceptImage image with
    | none => ({ d with store := s }, refusedImage image)
    | some (blob, migrated) =>
      let s := restoreBlob s blob
      if !io.settled then ({ d with store := unsettled s }, espErrInvalidState)
      else if migrated || !fromSd then initPersist { d with store := s } fromSd io
      else ({ d with store := s }, espOk)

def initStore (d : ContactDevice) (io : InitIo) : ContactDevice × EspErr :=
  let (loaded, ret) := initBody d io
  ({ loaded with store := { loaded.store with loaded := decide (ret = espOk) } }, ret)

def ensureLoaded (d : ContactDevice) (io : InitIo) : ContactDevice × EspErr :=
  if d.store.loaded then (d, espOk) else initStore d io

def pathPersistMinIntervalMs : Nat := 1000

/-- What an operation meets: init, when the store is not loaded, and then the persist pass. -/
structure OpIo where
  init : InitIo
  persist : PersistIo
  nowMs : Nat

def OpIo.accepted (nowMs : Nat) : OpIo := ⟨.accepted nowMs, .accepted, nowMs⟩

def clearedStore (s : ContactStore) (nowMs : Nat) : ContactStore :=
  markDeferredPersistence
    { clearRam s with
      mutationAuthority := .explicitClear, deletedFingerprints := [], touchedFingerprints := []
      loaded := true } nowMs

/-- `d1l_contact_store_clear`; a failed write is not rolled back. -/
def clearStore (d : ContactDevice) (io : OpIo) : ContactDevice × EspErr :=
  let (d, initRet) := ensureLoaded d io.init
  if initRet ≠ espOk then (d, initRet)
  else
    match reservePersistenceRevision d.store false with
    | none => (d, espErrInvalidState)
    | some s =>
      let (persisted, ret) := persistStore { d with store := clearedStore s io.nowMs } io.persist
      if ret = espOk ∧ persisted.store.lastPersistDurable = true then
        ({ persisted with store := settleDurable persisted.store }, ret)
      else (persisted, ret)

/-- The snapshot that a flush writes on a card that is known to be this store's. -/
def flushSnapshot (d : ContactDevice) (io : PersistIo) : ContactDevice × EspErr :=
  let erase := decide (d.store.mutationAuthority = .explicitClear) && d.store.entries.isEmpty
  let landed := decide (io.writeRet = espOk) || io.writeLanded
  let written : Option ContactImage := if erase then none else some (.current (fillBlob d.store))
  let card := if io.writeMatches && landed then written else d.card
  let cardRet := if io.writeMatches then io.writeRet else espErrInvalidState
  let settled :=
    if cardRet = espOk ∧ io.settledMatches = false then espErrInvalidState else cardRet
  let ret := if settled = espOk then io.nvsErase else settled
  let store :=
    if ret = espOk then settleDurable d.store
    else
      { d.store with
        sdReconcilePending := decide (ret = espErrInvalidState) || d.store.sdReconcilePending }
  ({ d with card := card, nvs := if ret = espOk then none else d.nvs, store := store }, ret)

/-- `flush_deferred_path_state`, with nothing between its locked parts. -/
def flushDeferred (d : ContactDevice) (force : Bool) (io : OpIo) : ContactDevice × EspErr :=
  let (d, initRet) := ensureLoaded d io.init
  if initRet ≠ espOk then (d, initRet)
  else
    let s := d.store
    let generationChanged := d.enabled && decide (d.generation ≠ s.acceptedSdBackendGeneration)
    if !s.persistenceDirty && !s.sdReconcilePending && !generationChanged then (d, espOk)
    else if !d.enabled then ({ d with store := { s with sdReconcilePending := true } }, espOk)
    else if generationChanged || s.sdReconcilePending then
      let (persisted, ret) := persistStore d io.persist
      if ret ≠ espOk then (persisted, ret)
      else if !persisted.store.lastPersistDurable then
        ({ persisted with store := markDeferredPersistence persisted.store io.nowMs }, ret)
      else ({ persisted with store := settleDurable persisted.store }, ret)
    else if !force &&
        decide ((io.nowMs + (uint32Max + 1) - s.persistenceDirtySinceMs) % (uint32Max + 1) <
          pathPersistMinIntervalMs) then (d, espOk)
    else flushSnapshot d io.persist

end Sigui.Contact

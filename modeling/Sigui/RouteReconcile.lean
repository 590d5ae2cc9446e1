import Sigui.RouteOps
import Sigui.SeqSort

/-! Reconciling the RAM rows with a card that was read: the card is adopted, merged, loaded or
passed over, by epoch and by the number of observations written. -/
namespace Sigui.Route

/-- `merge_primary_entries_locked`: rows keep the sequence numbers they have on the card. -/
def mergePrimaryEntries (s : RouteStore) (primary : RouteBlob) : RouteStore × Bool :=
  let (rows, changed) := absorbRows RouteEntry.identity RouteEntry.seq routeStoreCapacity
    s.entries primary.entries
  ({ s with entries := rows }, changed)

def liveOverlay (s : RouteStore) : List RouteEntry :=
  sortByKey RouteEntry.seq
    ((s.entries.filter fun e => decide (s.bootNextSeq ≤ e.seq)).take routeStoreCapacity)

/-- Places one live row over the adopted card, under a new sequence number. -/
def overlayRow (s : RouteStore) (overlay : RouteEntry) : RouteStore :=
  let row := { overlay with seq := s.nextSeq }
  let next := { s with nextSeq := u32Succ s.nextSeq }
  match findIndex s.entries overlay.target.bytes overlay.kind.bytes overlay.direction.bytes with
  | some (pre, _, post) => { next with entries := pre ++ row :: post }
  | none =>
    if s.entries.length < routeStoreCapacity then { next with entries := s.entries ++ [row] }
    else
      match firstOldest RouteEntry.seq s.entries with
      | some (pre, _, post) =>
        { next with entries := pre ++ row :: post, droppedOldest := u32Succ s.droppedOldest }
      | none => next

/-- `adopt_primary_with_live_overlay_locked` -/
def adoptPrimaryWithLiveOverlay (s : RouteStore) (primary : RouteBlob) : RouteStore :=
  let adopted := (liveOverlay s).foldl overlayRow (loadValidBlobIntoRam s primary)
  { adopted with totalWritten := u32Add adopted.totalWritten s.mutationsSinceInit }

/-- What one read of a blob key came to: an error, or an image, which is `none` when it is not of
the size the reader expects. -/
abbrev BlobRead (β : Type) := Except EspErr (Option β)

def validImage {β : Type} (valid : β → Bool) : BlobRead β → Option β
  | .ok (some blob) => if valid blob then some blob else none
  | _ => none

theorem validImage_eq_some {β : Type} {valid : β → Bool} {read : BlobRead β} {blob : β}
    (h : validImage valid read = some blob) : valid blob = true := by
  unfold validImage at h
  split at h
  · split_ifs at h with hv
    cases h
    exact hv
  · cases h

inductive PrimaryRead
  | unfinished
  | failed (error : EspErr)
  | notFound
  | found (primary : RouteBlob) (isV2 : Bool)
  deriving DecidableEq

def legacySupersedes (legacy : RouteLegacyBlob) (full : RouteBlob) : Bool :=
  decide (full.totalWritten < legacy.totalWritten) ||
    (decide (legacy.totalWritten = full.totalWritten) &&
      decide (full.entries.length < legacy.entries.length))

/-- The reads of `reconcile_sd_primary`; `legacy` is asked only where the source reads it. -/
def readPrimary (full : BlobRead RouteBlob) (legacy : BlobRead RouteLegacyBlob) : PrimaryRead :=
  match full with
  | .ok image =>
    match validImage blobIsValid (.ok image) with
    | none => .failed espErrInvalidState
    | some blob =>
      if blob.epoch ≠ 1 then .found blob true
      else
        match legacy with
        | .error error =>
          if error = espErrNotFinished then .unfinished
          else if error = espErrNotFound then .found blob true
          else .failed error
        | .ok image =>
          match validImage legacyBlobIsValid (.ok image) with
          | none => .failed espErrInvalidState
          | some old =>
            if legacySupersedes old blob then .found (legacyBlobToFull old) false
            else .found blob true
  | .error error =>
    if error = espErrNotFinished then .unfinished
    else if error ≠ espErrNotFound then .failed error
    else
      match legacy with
      | .error error =>
        if error = espErrNotFinished then .unfinished
        else if error = espErrNotFound then .notFound
        else .failed error
      | .ok image =>
        match validImage legacyBlobIsValid (.ok image) with
        | none => .failed espErrInvalidState
        | some old => .found (legacyBlobToFull old) false

theorem readPrimary_valid {full : BlobRead RouteBlob} {legacy : BlobRead RouteLegacyBlob}
    {primary : RouteBlob} {isV2 : Bool} (h : readPrimary full legacy = .found primary isV2) :
    blobIsValid primary = true := by
  have hold : ∀ {image : Option RouteLegacyBlob} {old : RouteLegacyBlob},
      validImage legacyBlobIsValid (.ok image) = some old →
      blobIsValid (legacyBlobToFull old) = true := fun himage =>
    blobIsValid_legacyBlobToFull (validImage_eq_some himage)
  unfold readPrimary at h
  cases full with
  | error error =>
    dsimp only at h
    split_ifs at h
    cases legacy with
    | error error =>
      dsimp only at h
      split_ifs at h
    | ok image =>
      dsimp only at h
      cases himage : validImage legacyBlobIsValid (.ok image) with
      | none => rw [himage] at h; cases h
      | some old =>
        rw [himage] at h
        cases h
        exact hold himage
  | ok image =>
    dsimp only at h
    cases hfull : validImage blobIsValid (.ok image) with
    | none => rw [hfull] at h; cases h
    | some blob =>
      have hblob : blobIsValid blob = true := validImage_eq_some hfull
      rw [hfull] at h
      dsimp only at h
      by_cases hepoch : blob.epoch ≠ 1
      · rw [if_pos hepoch] at h
        cases h
        exact hblob
      · rw [if_neg hepoch] at h
        cases legacy with
        | error error =>
          dsimp only at h
          split_ifs at h
          cases h
          exact hblob
        | ok image =>
          dsimp only at h
          cases himage : validImage legacyBlobIsValid (.ok image) with
          | none => rw [himage] at h; cases h
          | some old =>
            rw [himage] at h
            dsimp only at h
            split_ifs at h
            · cases h
              exact hold himage
            · cases h
              exact hblob

def noteSdReconcileFailure (s : RouteStore) (failure : EspErr) (nowMs : Nat) : RouteStore :=
  { notePersistenceDirty s true true nowMs with
    sdReconcilePending := true
    sdPrimaryLastError := failure
    retryPending := true
    persistenceDirty := true }

def noteDirtyIf (s : RouteStore) (dirty : Bool) (nowMs : Nat) : RouteStore :=
  if dirty then notePersistenceDirty s true true nowMs else s

def reconcileNotFound (s : RouteStore) (nowMs : Nat) : RouteStore :=
  let dirty := decide (0 < s.totalWritten) || decide (1 < s.epoch)
  refreshPersistenceDirty
    (noteDirtyIf
      { s with sdReconcilePending := false, sdPrimaryLastError := espOk, sdPrimaryDirty := dirty }
      dirty nowMs) true

def primaryNewer (s : RouteStore) (primary : RouteBlob) : Bool :=
  decide (s.epoch < primary.epoch) ||
    (decide (primary.epoch = s.epoch) && decide (s.totalWritten < primary.totalWritten))

def primarySameGeneration (s : RouteStore) (primary : RouteBlob) : Bool :=
  decide (primary.epoch = s.epoch) && decide (primary.totalWritten = s.totalWritten)

/-- A merge of the card's rows; the card is rewritten whether or not RAM gained anything. -/
def reconcileMerge (s : RouteStore) (primary : RouteBlob) : RouteStore :=
  let (merged, changed) := mergePrimaryEntries s primary
  { merged with
    revision := if changed then s.revision + 1 else s.revision
    nvsFallbackDirty := s.nvsFallbackDirty || changed
    sdPrimaryDirty := true }

def reconcileLoad (s : RouteStore) (primary : RouteBlob) (isV2 : Bool) : RouteStore :=
  { loadValidBlobIntoRam s primary with
    revision := s.revision + 1
    mutatedSinceInit := false
    mutationsSinceInit := 0
    bootNextSeq := primary.nextSeq
    sdPrimaryDirty := !isV2
    nvsFallbackDirty := s.nvsFallbackDirty || !primarySameGeneration s primary }

inductive ReconcileBranch
  | adopt
  | merge
  | load
  | keep
  deriving DecidableEq

def reconcileBranch (s : RouteStore) (primary : RouteBlob) : ReconcileBranch :=
  if primaryNewer s primary && s.mutatedSinceInit then .adopt
  else if primarySameGeneration s primary && s.mutatedSinceInit then .merge
  else if primaryNewer s primary || primarySameGeneration s primary then .load
  else if primary.epoch = s.epoch then .merge
  else .keep

def reconcileRows (s : RouteStore) (primary : RouteBlob) (isV2 : Bool) : RouteStore :=
  match reconcileBranch s primary with
  | .adopt =>
    { adoptPrimaryWithLiveOverlay s primary with
      revision := s.revision + 1, sdPrimaryDirty := true, nvsFallbackDirty := true }
  | .merge => reconcileMerge s primary
  | .load => reconcileLoad s primary isV2
  | .keep => { s with sdPrimaryDirty := true }

/-- The locked part of `reconcile_sd_primary` for a card that was read. -/
def reconcileFound (s : RouteStore) (primary : RouteBlob) (isV2 : Bool) (nowMs : Nat) :
    RouteStore :=
  let rows := { reconcileRows s primary isV2 with
    sdReconcilePending := false, sdPrimaryLastError := espOk }
  refreshPersistenceDirty (noteDirtyIf rows (rows.sdPrimaryDirty || rows.nvsFallbackDirty) nowMs)
    true

/-- What the card answers to a reconcile, and whether the mount generation is still the expected
one before the first read and after the last. -/
structure ReconcileReads where
  full : BlobRead RouteBlob
  legacy : BlobRead RouteLegacyBlob
  matchesBefore : Bool
  matchesAfter : Bool

def reconcileSdPrimary (s : RouteStore) (r : ReconcileReads) (nowMs : Nat) :
    RouteStore × EspErr :=
  if !r.matchesBefore then
    (noteSdReconcileFailure s espErrInvalidState nowMs, espErrInvalidState)
  else
    match readPrimary r.full r.legacy with
    | .unfinished => (s, espErrNotFinished)
    | .failed error => (noteSdReconcileFailure s error nowMs, error)
    | .notFound =>
      if !r.matchesAfter then
        (noteSdReconcileFailure s espErrInvalidState nowMs, espErrInvalidState)
      else (reconcileNotFound s nowMs, espOk)
    | .found primary isV2 =>
      if !r.matchesAfter then
        (noteSdReconcileFailure s espErrInvalidState nowMs, espErrInvalidState)
      else (reconcileFound s primary isV2 nowMs, espOk)

end Sigui.Route

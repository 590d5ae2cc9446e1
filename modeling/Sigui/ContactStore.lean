import Sigui.ContactUri
import Sigui.ListRules

/-! The contact store's variables, the blob it writes, the seven layouts it reads, and the two
lists of fingerprints that say what was changed since the last durable write. A blob's `count` is
the length of its row list; counters that only `d1l_contact_store_stats` reports are left out. -/
namespace Sigui.Contact

open Sigui.Channel (Bytes)
open Sigui.MeshPath

def contactStoreSchema : Nat := 7

/-- `d1l_contact_store_blob_t` -/
structure ContactBlob where
  schema : Nat
  nextSeq : Nat
  totalWritten : Nat
  droppedOldest : Nat
  entries : List ContactEntry
  deriving DecidableEq

def blobIsValid (blob : ContactBlob) : Bool :=
  decide (blob.schema = contactStoreSchema) &&
    decide (blob.entries.length ≤ contactStoreCapacity) && decide (blob.nextSeq ≠ 0) &&
    blob.entries.all retainedPathRecordIsValid

structure ContactEntryV1 where
  seq : Nat
  createdMs : Nat
  updatedMs : Nat
  fingerprint : CharArray 17
  contactAlias : CharArray 24
  heardName : CharArray 24
  legacyType : CharArray 8
  lastRssiDbm : Int
  lastSnrTenths : Int
  pathHashBytes : Nat
  pathHops : Nat
  favorite : Bool
  muted : Bool
  deriving DecidableEq

structure ContactEntryV2 extends ContactEntryV1 where
  publicKeyHex : CharArray 65
  deriving DecidableEq

structure ContactEntryV3 extends ContactEntryV2 where
  outPathUpdatedMs : Nat
  outPathValid : Bool
  outPathLen : UInt8
  outPath : Bytes 64
  deriving DecidableEq

structure ContactEntryV4 where
  seq : Nat
  createdMs : Nat
  updatedMs : Nat
  outPathUpdatedMs : Nat
  fingerprint : CharArray 17
  publicKeyHex : CharArray 65
  contactAlias : CharArray 24
  heardName : CharArray 24
  type : CharArray 9
  lastRssiDbm : Int
  lastSnrTenths : Int
  pathHashBytes : Nat
  pathHops : Nat
  outPathValid : Bool
  outPathLen : UInt8
  outPath : Bytes 64
  favorite : Bool
  muted : Bool
  deriving DecidableEq

structure ContactEntryV5 extends ContactEntryV4 where
  verificationSource : Nat
  verifiedAtMs : Nat
  signedAdvertTimestamp : Nat
  lastHeardMs : Nat
  deriving DecidableEq

structure ContactEntryV6 extends ContactEntryV5 where
  longAlias : CharArray 32
  deriving DecidableEq

/-- A blob of an older layout; its schema number is the layout's own. -/
structure LegacyBlob (ρ : Type) where
  nextSeq : Nat
  totalWritten : Nat
  droppedOldest : Nat
  entries : List ρ
  deriving DecidableEq

/-- `blob_v1_is_valid` to `blob_v6_is_valid` -/
def legacyBlobIsValid {ρ : Type} (blob : LegacyBlob ρ) : Bool :=
  decide (blob.entries.length ≤ contactStoreCapacity) && decide (0 < blob.nextSeq)

/-- The bytes under a key: a blob of the size of the current layout, one of the size and the
schema number of an older one, or anything else. -/
inductive ContactImage
  | current (blob : ContactBlob)
  | v6 (blob : LegacyBlob ContactEntryV6)
  | v5 (blob : LegacyBlob ContactEntryV5)
  | v4 (blob : LegacyBlob ContactEntryV4)
  | v3 (blob : LegacyBlob ContactEntryV3)
  | v2 (blob : LegacyBlob ContactEntryV2)
  | v1 (blob : LegacyBlob ContactEntryV1)
  | other (schema : Nat)
  deriving DecidableEq

/-- `memcpy` of a shorter array into one that was zeroed. -/
def CharArray.widen {n m : Nat} (a : CharArray n) (h : n ≤ m) : CharArray m :=
  ⟨a.bytes, a.length_le_of_le h, a.no_nul⟩

def typeText (text : List UInt8)
    (h : (text.length.ble 9 && !text.contains 0) = true := by exact Eq.refl true) : CharArray 9 :=
  .lit text h

/-- The legacy decoder wrote `room` for repeaters and `sensor` for two roles. -/
def migrateLegacyAdvertType (legacyType : CharArray 8) : CharArray 9 :=
  if legacyType.bytes = chatType then typeText chatType
  else if legacyType.bytes = roomType ∨ legacyType.bytes = repeaterType then typeText repeaterType
  else typeText unknownType

def markMigratedVerification (e : ContactEntry) : ContactEntry :=
  let cleared := { e with
    verificationSource := verificationNone, verifiedAtMs := 0, signedAdvertTimestamp := 0
    lastHeardMs := 0 }
  if fixedHexStringValid e.fingerprint.bytes fingerprintChars &&
      fixedHexStringValid e.publicKeyHex.bytes publicKeyChars &&
      fixedHexStringsEqual e.fingerprint.bytes e.publicKeyHex.bytes fingerprintChars &&
      decide (meshcoreTypeId e.type.bytes ≠ 0) then
    { cleared with
      verificationSource := verificationMigratedSignedAdvert, verifiedAtMs := e.updatedMs }
  else cleared

def fromV1 (old : ContactEntryV1) : ContactEntry :=
  { zeroEntry with
    seq := old.seq, createdMs := old.createdMs, updatedMs := old.updatedMs
    fingerprint := old.fingerprint, contactAlias := CharArray.widen old.contactAlias CharArray.short_le_long
    heardName := old.heardName, type := migrateLegacyAdvertType old.legacyType
    lastRssiDbm := old.lastRssiDbm, lastSnrTenths := old.lastSnrTenths
    pathHashBytes := old.pathHashBytes, pathHops := old.pathHops, favorite := old.favorite
    muted := old.muted }

def fromV2 (old : ContactEntryV2) : ContactEntry :=
  { fromV1 old.toContactEntryV1 with publicKeyHex := old.publicKeyHex }

def fromV3 (old : ContactEntryV3) : ContactEntry :=
  { fromV2 old.toContactEntryV2 with
    outPathUpdatedMs := old.outPathUpdatedMs, outPathValid := old.outPathValid
    outPathLen := old.outPathLen, outPath := old.outPath }

def fromV4 (old : ContactEntryV4) : ContactEntry :=
  { zeroEntry with
    seq := old.seq, createdMs := old.createdMs, updatedMs := old.updatedMs
    outPathUpdatedMs := old.outPathUpdatedMs, fingerprint := old.fingerprint
    publicKeyHex := old.publicKeyHex
    contactAlias := CharArray.widen old.contactAlias CharArray.short_le_long
    heardName := old.heardName, type := old.type, lastRssiDbm := old.lastRssiDbm
    lastSnrTenths := old.lastSnrTenths, pathHashBytes := old.pathHashBytes
    pathHops := old.pathHops, outPathValid := old.outPathValid, outPathLen := old.outPathLen
    outPath := old.outPath, favorite := old.favorite, muted := old.muted }

def fromV5 (old : ContactEntryV5) : ContactEntry :=
  { fromV4 old.toContactEntryV4 with
    verificationSource := old.verificationSource, verifiedAtMs := old.verifiedAtMs
    signedAdvertTimestamp := old.signedAdvertTimestamp, lastHeardMs := old.lastHeardMs }

def fromV6 (old : ContactEntryV6) : ContactEntry :=
  { fromV5 old.toContactEntryV5 with contactAlias := old.longAlias }

/-- `finalize_migrated_path_state` on one contact; the path state of a migrated contact is empty,
so a usable path can always be learned. -/
def finalizeMigratedPath (e : ContactEntry) : ContactEntry :=
  if e.outPathValid && wirePathLenValid e.outPathLen then
    let kept := e.outPath.bytes.take (wirePathByteLen e.outPathLen)
    have hkept : kept.length ≤ 64 := (List.length_take_le' _ _).trans_eq e.outPath.length_eq
    { e with
      outPath := Bytes.zero.overwrite kept hkept
      outPathState :=
        (learn e.outPathState pathSourceMigrated e.outPathUpdatedMs).getD e.outPathState }
  else
    { e with
      outPathValid := false, outPathLen := 0, outPath := .zero, outPathState := .empty }

/-- `migrate_v1_blob` to `migrate_v6_blob`, with the paths settled. -/
def migrateBlob {ρ : Type} (convert : ρ → ContactEntry) (old : LegacyBlob ρ) : ContactBlob where
  schema := contactStoreSchema
  nextSeq := old.nextSeq
  totalWritten := old.totalWritten
  droppedOldest := old.droppedOldest
  entries := old.entries.map fun e => finalizeMigratedPath (convert e)

def acceptLegacy {ρ : Type} (convert : ρ → ContactEntry) (old : LegacyBlob ρ) :
    Option ContactBlob :=
  if legacyBlobIsValid old then some (migrateBlob convert old) else none

/-- What init takes from an image it accepts: the rows, and whether they were migrated. -/
def acceptImage : ContactImage → Option (ContactBlob × Bool)
  | .current blob => if blobIsValid blob then some (blob, false) else none
  | .v6 old => (acceptLegacy fromV6 old).map (·, true)
  | .v5 old => (acceptLegacy fromV5 old).map (·, true)
  | .v4 old =>
    (acceptLegacy (fun e => markMigratedVerification (fromV4 e)) old).map (·, true)
  | .v3 old =>
    (acceptLegacy (fun e => markMigratedVerification (fromV3 e)) old).map (·, true)
  | .v2 old =>
    (acceptLegacy (fun e => markMigratedVerification (fromV2 e)) old).map (·, true)
  | .v1 old =>
    (acceptLegacy (fun e => markMigratedVerification (fromV1 e)) old).map (·, true)
  | .other _ => none

def ContactImage.schema : ContactImage → Nat
  | .current blob => blob.schema
  | .v6 _ => 6
  | .v5 _ => 5
  | .v4 _ => 4
  | .v3 _ => 3
  | .v2 _ => 2
  | .v1 _ => 1
  | .other schema => schema

def ContactImage.isLegacy : ContactImage → Bool
  | .current _ | .other _ => false
  | _ => true

/-- `D1L_CONTACT_MUTATION_AUTHORITY_*` -/
inductive MutationAuthority
  | none
  | localMutation
  | explicitClear
  deriving DecidableEq

structure ContactStore where
  entries : List ContactEntry := []
  nextSeq : Nat := 1
  totalWritten : Nat := 0
  droppedOldest : Nat := 0
  loaded : Bool := false
  deletedFingerprints : List (CharArray 17) := []
  touchedFingerprints : List (CharArray 17) := []
  mutationAuthority : MutationAuthority := .none
  acceptedSdBackendGeneration : Nat := 0
  sdReconcilePending : Bool := false
  lastPersistDurable : Bool := false
  persistenceRevision : Nat := 0
  persistenceDirty : Bool := false
  persistenceDirtySinceMs : Nat := 0
  deriving DecidableEq

def clearRam (s : ContactStore) : ContactStore :=
  { s with entries := [], nextSeq := 1, totalWritten := 0, droppedOldest := 0 }

/-- `clear_ram` and `reset_persistence_state`: nothing else survives. -/
def resetStore (backendGeneration : Nat) : ContactStore :=
  { acceptedSdBackendGeneration := backendGeneration }

def fillBlob (s : ContactStore) : ContactBlob :=
  ⟨contactStoreSchema, s.nextSeq, s.totalWritten, s.droppedOldest, s.entries⟩

def restoreBlob (s : ContactStore) (blob : ContactBlob) : ContactStore :=
  { s with
    nextSeq := blob.nextSeq, totalWritten := blob.totalWritten
    droppedOldest := blob.droppedOldest
    entries := if blob.entries.length ≤ contactStoreCapacity then blob.entries else [] }

def markDeferredPersistence (s : ContactStore) (nowMs : Nat) : ContactStore :=
  { s with
    persistenceDirtySinceMs := if s.persistenceDirty then s.persistenceDirtySinceMs else nowMs
    persistenceDirty := true }

def markDurable (s : ContactStore) : ContactStore :=
  { s with persistenceDirty := false, persistenceDirtySinceMs := 0 }

/-- `none` stands for `ESP_ERR_INVALID_STATE`. -/
def reservePersistenceRevision (s : ContactStore) (countWrite : Bool) : Option ContactStore :=
  if s.persistenceRevision = uint32Max ∨ (countWrite = true ∧ s.totalWritten = uint32Max) then none
  else
    some { s with
      totalWritten := if countWrite then s.totalWritten + 1 else s.totalWritten
      persistenceRevision := s.persistenceRevision + 1
      mutationAuthority :=
        if s.mutationAuthority = .none then .localMutation else s.mutationAuthority }

def reserveSequencedMutation (s : ContactStore) : Option ContactStore :=
  if s.nextSeq = uint32Max then none else reservePersistenceRevision s true

/-- `snprintf(dest, 17, "%s", fingerprint)` -/
def printFingerprint (fingerprint : List UInt8) (h : 0 ∉ fingerprint) : CharArray 17 where
  bytes := fingerprint.take fingerprintChars
  length_le := (List.length_take_le _ _).trans (by decide)
  no_nul := fun hz => h (List.mem_of_mem_take hz)

def listedFingerprint (listed : List (CharArray 17)) (fingerprint : List UInt8) : Bool :=
  fixedHexStringValid fingerprint fingerprintChars &&
    listed.any fun l => fixedHexStringsEqual l.bytes fingerprint fingerprintChars

def fingerprintWasDeleted (s : ContactStore) (fingerprint : List UInt8) : Bool :=
  listedFingerprint s.deletedFingerprints fingerprint

def fingerprintWasTouched (s : ContactStore) (fingerprint : List UInt8) : Bool :=
  listedFingerprint s.touchedFingerprints fingerprint

def rememberDeletedFingerprint (s : ContactStore) (fingerprint : List UInt8)
    (h : 0 ∉ fingerprint) : ContactStore :=
  if s.mutationAuthority = .explicitClear ∨ fingerprintWasDeleted s fingerprint = true ∨
      contactStoreCapacity ≤ s.deletedFingerprints.length then s
  else
    { s with
      deletedFingerprints := s.deletedFingerprints ++ [printFingerprint fingerprint h] }

def rememberTouchedFingerprint (s : ContactStore) (fingerprint : List UInt8)
    (h : 0 ∉ fingerprint) : ContactStore :=
  if s.mutationAuthority = .explicitClear ∨ fingerprintWasTouched s fingerprint = true ∨
      contactStoreCapacity ≤ s.touchedFingerprints.length ∨
      fixedHexStringValid fingerprint fingerprintChars = false then s
  else
    { s with
      touchedFingerprints := s.touchedFingerprints ++ [printFingerprint fingerprint h] }

def rememberDeletedRow (s : ContactStore) (e : ContactEntry) : ContactStore :=
  rememberDeletedFingerprint s e.fingerprint.bytes e.fingerprint.no_nul

def rememberTouchedRow (s : ContactStore) (e : ContactEntry) : ContactStore :=
  rememberTouchedFingerprint s e.fingerprint.bytes e.fingerprint.no_nul

def rememberAllCurrentFingerprints (s : ContactStore) : ContactStore :=
  s.entries.foldl rememberTouchedRow s

def releaseDurableMutationAuthority (s : ContactStore) : ContactStore :=
  { s with mutationAuthority := .none, deletedFingerprints := [], touchedFingerprints := [] }

end Sigui.Contact

import Mathlib.Data.List.Rotate
import Sigui.DmOps

/-! Reading a stored blob of any schema. The byte length of the stored value selects one of the
frozen layouts; whatever the layout, the result passes the current validator. -/
namespace Sigui.Dm

/-- Schemas 1 to 4 share their row fields and differ in the width of the text. -/
structure LegacyEntry (textLen : Nat) where
  seq : Nat
  uptimeMs : Nat
  contactFingerprint : CharArray 17
  contactAlias : CharArray 24
  direction : CharArray 4
  text : CharArray textLen
  rssiDbm : Int
  snrTenths : Int
  pathHashBytes : Nat
  pathHops : Nat
  attempt : Nat
  delivered : Bool
  acked : Bool
  ackHash : Nat

abbrev DmEntryV1 := LegacyEntry 96
abbrev DmEntryV4 := LegacyEntry 139

structure DmEntryV5 extends LegacyEntry 139 where
  identityDigest : Digest
  ackDispatchCount : Nat
  ackDispatchKind : Nat
  ackState : AckState
  ackLastError : EspErr
  identityDigestValid : Bool

structure DmEntryV6Narrow extends DmEntryV5 where
  deliverySessionId : UInt64
  deliveryState : DeliveryState
  deliveryReason : DeliveryReason
  deliveryLastError : EspErr
  deliveryRetryCount : Nat
  deliveryRevision : Nat

structure BlobV2 (ε : Type) where
  schema : Nat
  nextSeq : Nat
  totalWritten : Nat
  droppedOldest : Nat
  head : Nat
  count : Nat
  entries : List ε

structure BlobV3 (ε : Type) extends BlobV2 ε where
  epoch : Nat
  contentRevision : Nat

structure BlobV4 (ε : Type) extends BlobV3 ε where
  clearLineage : UInt64

/-- A stored value, told apart by its length. Schema 6 was written in two layouts, of which the
wide one is the current layout. -/
inductive RawBlob
  | current (b : DmBlob)
  | v6Narrow (b : BlobV4 DmEntryV6Narrow)
  | v5 (b : BlobV4 DmEntryV5)
  | v4 (b : BlobV4 DmEntryV4)
  | v3 (b : BlobV3 DmEntryV4)
  | v2 (b : BlobV2 DmEntryV4)
  | v1 (b : BlobV2 DmEntryV1)
  | other

/-- `entries[(oldest + i) % capacity]` for `i < count`. -/
def BlobV2.rows {ε : Type} (b : BlobV2 ε) : List ε :=
  let oldest :=
    if b.count = 0 then 0 else (b.head + dmStoreCapacity - b.count) % dmStoreCapacity
  (b.entries.rotate oldest).take b.count

/-- The loop of the legacy validators: each row valid, sequences strictly rising. -/
def rowsRise {ε : Type} (seqOf : ε → Nat) (valid : ε → Bool) : Nat → List ε → Bool
  | _, [] => true
  | previousSeq, entry :: rest =>
    valid entry && decide (previousSeq < seqOf entry) && rowsRise seqOf valid (seqOf entry) rest

def legacyEntryIsValid (nextSeq : Nat) (entry : DmEntryV4) : Bool :=
  decide (0 < entry.seq) && decide (entry.seq < nextSeq) &&
    persistedAsciiIsValid entry.contactFingerprint false &&
    persistedAsciiIsValid entry.contactAlias false &&
    persistedAsciiIsValid entry.direction false && persistedAsciiIsValid entry.text false &&
    decide (entry.pathHashBytes ≤ 3) && decide (entry.pathHops ≤ 63) &&
    decide (entry.pathHashBytes * entry.pathHops ≤ 64)

def v5AckMetadataIsValid (entry : DmEntryV5) : Bool :=
  ackMetadataIsValid
    { direction := entry.direction
      identityDigest := entry.identityDigest
      ackDispatchCount := entry.ackDispatchCount
      ackDispatchKind := entry.ackDispatchKind
      ackState := entry.ackState
      ackLastError := entry.ackLastError
      identityDigestValid := entry.identityDigestValid }

def v5EntryIsValid (nextSeq : Nat) (entry : DmEntryV5) : Bool :=
  legacyEntryIsValid nextSeq entry.toLegacyEntry && v5AckMetadataIsValid entry

def headerV2IsValid {ε : Type} (b : BlobV2 ε) (schema : Nat) : Bool :=
  decide (b.entries.length = dmStoreCapacity) && decide (b.schema = schema) &&
    decide (b.head < dmStoreCapacity) && decide (b.count ≤ dmStoreCapacity) &&
    decide (b.nextSeq ≠ 0) && decide (b.count ≤ b.totalWritten)

def headerV3IsValid {ε : Type} (b : BlobV3 ε) (schema : Nat) : Bool :=
  headerV2IsValid b.toBlobV2 schema && decide (b.epoch ≠ 0) && decide (b.contentRevision ≠ 0) &&
    decide (b.head = b.count % dmStoreCapacity)

def fnv1a64Bytes (hash : UInt64) (bytes : List UInt8) : UInt64 :=
  bytes.foldl (fun hash byte => (hash ^^^ byte.toUInt64) * 1099511628211) hash

def fnv1a64U32Le (hash : UInt64) (value : Nat) : UInt64 :=
  fnv1a64Bytes hash ((List.range 4).map fun i => UInt8.ofNat (value / 256 ^ i))

/-- A session id for an outbound row written before sessions existed. -/
def migrationDeliverySessionId (entry : DmEntry) : UInt64 :=
  let domain := "SIGUI-DM-DELIVERY-MIGRATION-V1".toUTF8.toList ++ [0]
  let hash := fnv1a64Bytes 14695981039346656037 domain
  let hash := fnv1a64Bytes hash (entry.contactFingerprint.bytes ++ [0])
  let hash := fnv1a64Bytes hash (entry.direction.bytes ++ [0])
  let hash := fnv1a64Bytes hash (entry.text.bytes ++ [0])
  let hash := fnv1a64U32Le hash entry.uptimeMs
  let hash := fnv1a64U32Le hash entry.ackHash
  let hash := mix64 hash
  if hash = 0 then 0xd1d34e5e55100001 else hash

def initializeLegacyDeliveryMetadata (entry : DmEntry) : DmEntry :=
  if !entry.outbound then
    { entry with
      deliverySessionId := 0
      deliveryState := .notApplicable
      deliveryReason := .none
      deliveryLastError := espOk
      deliveryRetryCount := 0
      deliveryRevision := 0 }
  else
    { entry with
      deliverySessionId := migrationDeliverySessionId entry
      deliveryState := if entry.acked then .acknowledged else .interruptedByReboot
      deliveryReason := .legacyImport
      deliveryLastError := if entry.acked then espOk else dmInterruptedError
      deliveryRetryCount := 0
      deliveryRevision := 1
      delivered := entry.acked }

def widenChars {n m : Nat} (a : CharArray n) (h : n ≤ m) : CharArray m :=
  ⟨a.bytes, a.length_le.trans h, a.no_nul⟩

/-- `sanitize_ascii_bounded`: the source need not be terminated inside its array. -/
def sanitizeAsciiBounded {n : Nat} (destSize : Nat) (src : CharArray n) : CharArray destSize :=
  sanitizeAscii destSize ⟨src.bytes, src.no_nul⟩

def copyLegacyFields {textLen : Nat} (old : LegacyEntry textLen)
    (fingerprint : CharArray 17) (contactAlias : CharArray 32) (direction : CharArray 4)
    (text : CharArray 139) : DmEntry :=
  { seq := old.seq
    uptimeMs := old.uptimeMs
    contactFingerprint := fingerprint
    contactAlias := contactAlias
    direction := direction
    text := text
    rssiDbm := old.rssiDbm
    snrTenths := old.snrTenths
    pathHashBytes := old.pathHashBytes
    pathHops := old.pathHops
    attempt := old.attempt
    delivered := old.delivered
    acked := old.acked
    ackHash := old.ackHash }

def convertV1Entry (old : DmEntryV1) : DmEntry :=
  initializeLegacyDeliveryMetadata
    (copyLegacyFields old (sanitizeAsciiBounded 17 old.contactFingerprint)
      (sanitizeAsciiBounded 32 old.contactAlias) (sanitizeAsciiBounded 4 old.direction)
      (sanitizeAsciiBounded 139 old.text))

def convertV4Entry (old : DmEntryV4) : DmEntry :=
  initializeLegacyDeliveryMetadata
    (copyLegacyFields old old.contactFingerprint (widenChars old.contactAlias CharArray.short_le_long)
      old.direction old.text)

def withV5Metadata (old : DmEntryV5) : DmEntry :=
  { copyLegacyFields old.toLegacyEntry old.contactFingerprint
      (widenChars old.contactAlias CharArray.short_le_long) old.direction old.text with
    identityDigest := old.identityDigest
    ackDispatchCount := old.ackDispatchCount
    ackDispatchKind := old.ackDispatchKind
    ackState := old.ackState
    ackLastError := old.ackLastError
    identityDigestValid := old.identityDigestValid }

def convertV5Entry (old : DmEntryV5) : DmEntry :=
  initializeLegacyDeliveryMetadata (withV5Metadata old)

def convertV6NarrowEntry (old : DmEntryV6Narrow) : DmEntry :=
  { withV5Metadata old.toDmEntryV5 with
    deliverySessionId := old.deliverySessionId
    deliveryState := old.deliveryState
    deliveryReason := old.deliveryReason
    deliveryLastError := old.deliveryLastError
    deliveryRetryCount := old.deliveryRetryCount
    deliveryRevision := old.deliveryRevision }

def migrationRevision (totalWritten : Nat) : Nat :=
  if totalWritten = uint32Max then uint32Max else totalWritten + 1

/-- A current blob with the header of `b` and the converted rows in ring order. -/
def convertBlob {ε : Type} (b : BlobV2 ε) (convert : ε → DmEntry) (epoch contentRevision : Nat)
    (clearLineage : UInt64) : DmBlob where
  schema := dmStoreSchema
  nextSeq := b.nextSeq
  totalWritten := b.totalWritten
  droppedOldest := b.droppedOldest
  head := b.count % dmStoreCapacity
  count := b.count
  epoch := epoch
  contentRevision := contentRevision
  clearLineage := clearLineage
  entries := b.rows.map convert ++ List.replicate (dmStoreCapacity - b.count) default

def convertV6NarrowBlob (b : BlobV4 DmEntryV6Narrow) : DmBlob :=
  convertBlob b.toBlobV2 convertV6NarrowEntry b.epoch b.contentRevision b.clearLineage

def convertV5Blob (b : BlobV4 DmEntryV5) : DmBlob :=
  convertBlob b.toBlobV2 convertV5Entry b.epoch b.contentRevision b.clearLineage

def convertV4Blob (b : BlobV4 DmEntryV4) : DmBlob :=
  convertBlob b.toBlobV2 convertV4Entry b.epoch b.contentRevision b.clearLineage

def convertV3Blob (b : BlobV3 DmEntryV4) : DmBlob :=
  convertBlob b.toBlobV2 convertV4Entry b.epoch b.contentRevision 0

def convertV2Blob (b : BlobV2 DmEntryV4) : DmBlob :=
  convertBlob b convertV4Entry 1 (migrationRevision b.totalWritten) 0

def convertV1Blob (b : BlobV2 DmEntryV1) : DmBlob :=
  convertBlob b convertV1Entry 1 (migrationRevision b.totalWritten) 0

def v6NarrowIsValid (b : BlobV4 DmEntryV6Narrow) : Bool :=
  headerV3IsValid b.toBlobV3 6 &&
    b.rows.all (fun entry => persistedAsciiIsValid entry.contactAlias false) &&
    rowLoopIsValid b.nextSeq [] 0 (b.rows.map convertV6NarrowEntry)

def v5IsValid (b : BlobV4 DmEntryV5) : Bool :=
  headerV3IsValid b.toBlobV3 5 &&
    rowsRise (·.seq) (v5EntryIsValid b.nextSeq) 0 b.rows &&
    decide (b.rows.Pairwise fun previous entry =>
      ¬(previous.identityDigestValid = true ∧ entry.identityDigestValid = true ∧
        previous.identityDigest = entry.identityDigest))

def v4IsValid (b : BlobV4 DmEntryV4) : Bool :=
  headerV3IsValid b.toBlobV3 4 && rowsRise (·.seq) (legacyEntryIsValid b.nextSeq) 0 b.rows

def v3IsValid (b : BlobV3 DmEntryV4) : Bool :=
  headerV3IsValid b 3 && rowsRise (·.seq) (legacyEntryIsValid b.nextSeq) 0 b.rows

def v2IsValid (b : BlobV2 DmEntryV4) : Bool :=
  headerV2IsValid b 2 && rowsRise (·.seq) (legacyEntryIsValid b.nextSeq) 0 b.rows

def v1HeaderIsValid (b : BlobV2 DmEntryV1) : Bool := headerV2IsValid b 1

/-- A converted blob is accepted only if the current validator accepts it as well. -/
def acceptUpgrade (layoutIsValid : Bool) (out : DmBlob) : Except EspErr (DmBlob × Bool) :=
  if layoutIsValid && blobIsValid out then .ok (out, true) else .error espErrInvalidState

/-- `decode_raw_blob`; the flag says that the stored value is of an older schema. -/
def decodeRawBlob (raw : RawBlob) : Except EspErr (DmBlob × Bool) :=
  match raw with
  | .current b =>
    if b.schema = dmStoreSchema then
      if blobIsValid b then .ok (b, false) else .error espErrInvalidState
    else acceptUpgrade (blobLayoutIsValid b 6) { b with schema := dmStoreSchema }
  | .v6Narrow b => acceptUpgrade (v6NarrowIsValid b) (convertV6NarrowBlob b)
  | .v5 b => acceptUpgrade (v5IsValid b) (convertV5Blob b)
  | .v4 b => acceptUpgrade (v4IsValid b) (convertV4Blob b)
  | .v3 b => acceptUpgrade (v3IsValid b) (convertV3Blob b)
  | .v2 b => acceptUpgrade (v2IsValid b) (convertV2Blob b)
  | .v1 b => acceptUpgrade (v1HeaderIsValid b) (convertV1Blob b)
  | .other => .error espErrInvalidState

theorem acceptUpgrade_valid {layoutIsValid : Bool} {out b : DmBlob} {upgrade : Bool}
    (h : acceptUpgrade layoutIsValid out = .ok (b, upgrade)) : blobIsValid b = true := by
  unfold acceptUpgrade at h
  split_ifs at h with hv
  simp only [Except.ok.injEq, Prod.mk.injEq] at h
  rw [← h.1]
  exact (Bool.and_eq_true_iff.mp hv).2

theorem decodeRawBlob_valid {raw : RawBlob} {b : DmBlob} {upgrade : Bool}
    (h : decodeRawBlob raw = .ok (b, upgrade)) : blobIsValid b = true := by
  cases raw with
  | current c =>
    simp only [decodeRawBlob] at h
    split_ifs at h with hschema hvalid
    · simp only [Except.ok.injEq, Prod.mk.injEq] at h
      exact h.1 ▸ hvalid
    · exact acceptUpgrade_valid h
  | other => cases h
  | _ => exact acceptUpgrade_valid h

end Sigui.Dm

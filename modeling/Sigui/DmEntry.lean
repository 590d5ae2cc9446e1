import Sigui.DmDeliveryState

/-! One retained direct-message row: its validity, its identity, and how the two copies of a
row found on different backends are combined. -/
namespace Sigui.Dm

def dmStoreCapacity : Nat := 16
def dmAckDispatchMax : Nat := 2
def dmAckDispatchKindMax : Nat := 3

/-- `D1L_DM_ACK_INTERRUPTED_ERROR` and `D1L_DM_DELIVERY_INTERRUPTED_ERROR`. -/
def dmInterruptedError : EspErr := espErrInvalidState

inductive AckState
  | legacyUnverified
  | pending
  | sent
  | retryable
  | terminal
  deriving DecidableEq, Inhabited

abbrev Digest := BitVec 256

structure DmEntry where
  seq : Nat := 0
  deliverySessionId : UInt64 := 0
  uptimeMs : Nat := 0
  contactFingerprint : CharArray 17 := .empty
  contactAlias : CharArray 32 := .empty
  direction : CharArray 4 := .empty
  text : CharArray 139 := .empty
  rssiDbm : Int := 0
  snrTenths : Int := 0
  pathHashBytes : Nat := 0
  pathHops : Nat := 0
  attempt : Nat := 0
  delivered : Bool := false
  acked : Bool := false
  ackHash : Nat := 0
  identityDigest : Digest := 0
  ackDispatchCount : Nat := 0
  ackDispatchKind : Nat := 0
  ackState : AckState := .legacyUnverified
  ackLastError : EspErr := espOk
  identityDigestValid : Bool := false
  deliveryState : DeliveryState := .notApplicable
  deliveryReason : DeliveryReason := .none
  deliveryLastError : EspErr := espOk
  deliveryRetryCount : Nat := 0
  deliveryRevision : Nat := 0
  deriving DecidableEq

instance : Inhabited DmEntry := ⟨{}⟩

def txLiteral : List UInt8 := [116, 120]
def rxLiteral : List UInt8 := [114, 120]

namespace DmEntry

/-- `strncmp(direction, "tx", sizeof(direction)) == 0` -/
def outbound (e : DmEntry) : Bool := e.direction.equalsLiteral txLiteral

def inbound (e : DmEntry) : Bool := e.direction.equalsLiteral rxLiteral

/-- `entry.seq = n` -/
def withSeq (e : DmEntry) (n : Nat) : DmEntry := { e with seq := n }

@[simp] theorem withSeq_seq (e : DmEntry) (n : Nat) : (e.withSeq n).seq = n := rfl

@[simp] theorem withSeq_session (e : DmEntry) (n : Nat) :
    (e.withSeq n).deliverySessionId = e.deliverySessionId := rfl

@[simp] theorem withSeq_self (e : DmEntry) : e.withSeq e.seq = e := rfl

theorem outbound_false_of_inbound {e : DmEntry} (h : e.inbound = true) : e.outbound = false := by
  simp only [inbound, outbound, CharArray.equalsLiteral, beq_iff_eq, beq_eq_false_iff_ne] at h ⊢
  rw [h]
  decide

end DmEntry

def validIdentityDigestEqual (left right : DmEntry) : Bool :=
  left.identityDigestValid && right.identityDigestValid &&
    left.identityDigest == right.identityDigest

def ackMetadataIsValid (entry : DmEntry) : Bool :=
  if !entry.identityDigestValid then
    entry.ackDispatchCount = 0 && entry.ackDispatchKind = 0 &&
      entry.ackState = .legacyUnverified && entry.ackLastError = espOk &&
      entry.identityDigest = 0
  else if !entry.inbound || dmAckDispatchMax < entry.ackDispatchCount ||
      dmAckDispatchKindMax < entry.ackDispatchKind || entry.ackState = .legacyUnverified then
    false
  else if entry.ackDispatchCount = 0 then
    entry.ackState = .retryable && entry.ackDispatchKind = 0 && entry.ackLastError = espOk
  else if entry.ackDispatchKind = 0 then false
  else
    match entry.ackState with
    | .pending | .sent => entry.ackLastError = espOk
    | .retryable => entry.ackDispatchCount = 1 && entry.ackLastError ≠ espOk
    | .terminal => entry.ackDispatchCount = dmAckDispatchMax && entry.ackLastError ≠ espOk
    | .legacyUnverified => false

def deliveryMetadataIsValid (entry : DmEntry) : Bool :=
  if !entry.outbound then
    entry.deliverySessionId = 0 && entry.deliveryState = .notApplicable &&
      entry.deliveryReason = .none && entry.deliveryLastError = espOk &&
      entry.deliveryRetryCount = 0 && entry.deliveryRevision = 0
  else
    let acknowledged : Bool := entry.deliveryState = .acknowledged
    if entry.deliverySessionId = 0 || entry.deliveryState = .notApplicable ||
        entry.deliveryReason = .none ||
        !deliveryReasonMatchesTarget entry.deliveryState entry.deliveryReason ||
        entry.deliveryRevision = 0 || entry.attempt < entry.deliveryRetryCount ||
        entry.delivered != acknowledged || entry.acked != acknowledged then
      false
    else
      !deliveryStateIsFailure entry.deliveryState || entry.deliveryLastError ≠ espOk

/-- The checks on a row that no operation of the store ever rewrites. -/
def persistedTextIsValid (entry : DmEntry) : Bool :=
  persistedAsciiIsValid entry.contactFingerprint false &&
    persistedAsciiIsValid entry.contactAlias false &&
    persistedAsciiIsValid entry.direction false &&
    (userTextValidateBounded entry.text false).result = .ok &&
    decide (entry.pathHashBytes ≤ 3) && decide (entry.pathHops ≤ 63) &&
    decide (entry.pathHashBytes * entry.pathHops ≤ 64)

def persistedEntryIsValid (entry : DmEntry) (nextSeq : Nat) : Bool :=
  decide (0 < entry.seq) && decide (entry.seq < nextSeq) && persistedTextIsValid entry &&
    ackMetadataIsValid entry && deliveryMetadataIsValid entry

def outboundDeliveryIdentityMaterialEqual (left right : DmEntry) : Bool :=
  left.uptimeMs = right.uptimeMs && left.ackHash = right.ackHash &&
    left.contactFingerprint = right.contactFingerprint && left.direction = right.direction &&
    left.text = right.text

def deliverySessionIdConflicts (left right : DmEntry) : Bool :=
  left.deliverySessionId ≠ 0 && left.deliverySessionId = right.deliverySessionId &&
    !outboundDeliveryIdentityMaterialEqual left right

def entryIdentityEqual (left right : DmEntry) : Bool :=
  if validIdentityDigestEqual left right then true
  else if left.deliverySessionId ≠ 0 ∨ right.deliverySessionId ≠ 0 then
    left.deliverySessionId ≠ 0 && left.deliverySessionId = right.deliverySessionId &&
      outboundDeliveryIdentityMaterialEqual left right
  else
    !(left.identityDigestValid && right.identityDigestValid) && left.seq = right.seq &&
      outboundDeliveryIdentityMaterialEqual left right

def ackStateMergeRank : AckState → Nat
  | .terminal => 4
  | .sent => 3
  | .retryable => 2
  | .pending => 1
  | .legacyUnverified => 0

def copyAckMetadata (dest source : DmEntry) : DmEntry :=
  { dest with
    identityDigest := source.identityDigest
    identityDigestValid := source.identityDigestValid
    ackDispatchCount := source.ackDispatchCount
    ackDispatchKind := source.ackDispatchKind
    ackState := source.ackState
    ackLastError := source.ackLastError }

def mergeAckMetadata (dest source : DmEntry) (sourceNewer : Bool) : DmEntry :=
  if !source.identityDigestValid then dest
  else if !dest.identityDigestValid then copyAckMetadata dest source
  else if dest.identityDigest ≠ source.identityDigest ∨
      source.ackDispatchCount < dest.ackDispatchCount then dest
  else if dest.ackDispatchCount < source.ackDispatchCount ∨
      ackStateMergeRank dest.ackState < ackStateMergeRank source.ackState ∨
      (sourceNewer = true ∧ source.ackState = dest.ackState) then
    copyAckMetadata dest source
  else dest

def copyDeliveryMetadata (dest source : DmEntry) : DmEntry :=
  { dest with
    deliveryState := source.deliveryState
    deliveryReason := source.deliveryReason
    deliveryLastError := source.deliveryLastError
    deliveryRetryCount := source.deliveryRetryCount
    deliveryRevision := source.deliveryRevision
    delivered := source.delivered
    acked := source.acked }

def mergeDeliveryMetadata (dest source : DmEntry) (sourceNewer : Bool) : DmEntry :=
  if !dest.outbound || !source.outbound then dest
  else if dest.deliveryRevision < source.deliveryRevision ∨
      (sourceNewer = true ∧ source.deliveryRevision = dest.deliveryRevision) then
    copyDeliveryMetadata dest source
  else dest

/-- The block both merges run on a row and the copy of it that identity pairing found. -/
def mergeMatchedRow (dest source : DmEntry) (sourceNewer : Bool) : DmEntry :=
  let dest :=
    if !dest.outbound then
      { dest with
        delivered := dest.delivered || source.delivered
        acked := dest.acked || source.acked }
    else dest
  let dest := if dest.attempt < source.attempt then { dest with attempt := source.attempt } else dest
  mergeDeliveryMetadata (mergeAckMetadata dest source sourceNewer) source sourceNewer

namespace DmEntry

def frozen (e : DmEntry) : DmEntry :=
  { deliverySessionId := e.deliverySessionId
    uptimeMs := e.uptimeMs
    contactFingerprint := e.contactFingerprint
    contactAlias := e.contactAlias
    direction := e.direction
    text := e.text
    rssiDbm := e.rssiDbm
    snrTenths := e.snrTenths
    pathHashBytes := e.pathHashBytes
    pathHops := e.pathHops
    ackHash := e.ackHash }

theorem session_of_frozen {a b : DmEntry} (h : a.frozen = b.frozen) :
    a.deliverySessionId = b.deliverySessionId := by
  change a.frozen.deliverySessionId = b.frozen.deliverySessionId
  rw [h]

theorem outbound_of_frozen {a b : DmEntry} (h : a.frozen = b.frozen) :
    a.outbound = b.outbound := by
  change a.frozen.outbound = b.frozen.outbound
  rw [h]

theorem persistedTextIsValid_of_frozen {a b : DmEntry} (h : a.frozen = b.frozen) :
    persistedTextIsValid a = persistedTextIsValid b := by
  change persistedTextIsValid a.frozen = persistedTextIsValid b.frozen
  rw [h]

end DmEntry

theorem outboundDeliveryIdentityMaterialEqual_comm (a b : DmEntry) :
    outboundDeliveryIdentityMaterialEqual a b = outboundDeliveryIdentityMaterialEqual b a := by
  simp only [outboundDeliveryIdentityMaterialEqual, eq_comm]

theorem material_of_frozen {a b : DmEntry} (h : a.frozen = b.frozen) (c : DmEntry) :
    outboundDeliveryIdentityMaterialEqual a c = outboundDeliveryIdentityMaterialEqual b c := by
  change outboundDeliveryIdentityMaterialEqual a.frozen c =
    outboundDeliveryIdentityMaterialEqual b.frozen c
  rw [h]

namespace DmEntry

/-- The fields `ack_metadata_is_valid` reads. -/
def ackPart (e : DmEntry) : DmEntry :=
  { direction := e.direction
    identityDigest := e.identityDigest
    identityDigestValid := e.identityDigestValid
    ackDispatchCount := e.ackDispatchCount
    ackDispatchKind := e.ackDispatchKind
    ackState := e.ackState
    ackLastError := e.ackLastError }

/-- The fields `delivery_metadata_is_valid` reads. -/
def deliveryPart (e : DmEntry) : DmEntry :=
  { deliverySessionId := e.deliverySessionId
    direction := e.direction
    attempt := e.attempt
    delivered := e.delivered
    acked := e.acked
    deliveryState := e.deliveryState
    deliveryReason := e.deliveryReason
    deliveryLastError := e.deliveryLastError
    deliveryRetryCount := e.deliveryRetryCount
    deliveryRevision := e.deliveryRevision }

theorem ackMetadataIsValid_ackPart (e : DmEntry) :
    ackMetadataIsValid e.ackPart = ackMetadataIsValid e := rfl

theorem deliveryMetadataIsValid_deliveryPart (e : DmEntry) :
    deliveryMetadataIsValid e.deliveryPart = deliveryMetadataIsValid e := rfl

theorem digest_of_ackPart {a b : DmEntry} (h : a.ackPart = b.ackPart) :
    a.identityDigestValid = b.identityDigestValid ∧ a.identityDigest = b.identityDigest := by
  change a.ackPart.identityDigestValid = b.ackPart.identityDigestValid ∧
    a.ackPart.identityDigest = b.ackPart.identityDigest
  rw [h]
  exact ⟨rfl, rfl⟩

end DmEntry

theorem inbound_of_digest {e : DmEntry} (hv : ackMetadataIsValid e = true)
    (hd : e.identityDigestValid = true) : e.inbound = true := by
  by_contra hin
  simp [ackMetadataIsValid, hd, hin] at hv

theorem deliverySessionId_of_not_outbound {e : DmEntry} (hv : deliveryMetadataIsValid e = true)
    (ho : e.outbound = false) : e.deliverySessionId = 0 := by
  simp only [deliveryMetadataIsValid, ho, Bool.not_false, if_true, Bool.and_eq_true,
    decide_eq_true_eq] at hv
  exact hv.1.1.1.1.1

section MergeMatchedRow

variable (dest source : DmEntry) (newer : Bool)

@[simp] theorem mergeAckMetadata_seq : (mergeAckMetadata dest source newer).seq = dest.seq := by
  unfold mergeAckMetadata
  split_ifs <;> rfl

@[simp] theorem mergeAckMetadata_frozen :
    (mergeAckMetadata dest source newer).frozen = dest.frozen := by
  unfold mergeAckMetadata
  split_ifs <;> rfl

theorem mergeAckMetadata_deliveryPart :
    (mergeAckMetadata dest source newer).deliveryPart = dest.deliveryPart := by
  unfold mergeAckMetadata
  split_ifs <;> rfl

theorem mergeAckMetadata_ackPart :
    (mergeAckMetadata dest source newer).ackPart =
      (mergeAckMetadata dest.ackPart source newer).ackPart := by
  unfold mergeAckMetadata
  split_ifs <;> first | rfl | contradiction

@[simp] theorem mergeDeliveryMetadata_seq :
    (mergeDeliveryMetadata dest source newer).seq = dest.seq := by
  unfold mergeDeliveryMetadata
  split_ifs <;> rfl

@[simp] theorem mergeDeliveryMetadata_frozen :
    (mergeDeliveryMetadata dest source newer).frozen = dest.frozen := by
  unfold mergeDeliveryMetadata
  split_ifs <;> rfl

theorem mergeDeliveryMetadata_ackPart :
    (mergeDeliveryMetadata dest source newer).ackPart = dest.ackPart := by
  unfold mergeDeliveryMetadata
  split_ifs <;> rfl

theorem mergeDeliveryMetadata_deliveryPart :
    (mergeDeliveryMetadata dest source newer).deliveryPart =
      (mergeDeliveryMetadata dest.deliveryPart source newer).deliveryPart := by
  unfold mergeDeliveryMetadata
  split_ifs <;> first | rfl | contradiction

/-- The row after the flag and attempt updates that precede the two metadata merges. -/
def mergeFlags : DmEntry :=
  { dest with
    delivered := dest.delivered || (!dest.outbound && source.delivered)
    acked := dest.acked || (!dest.outbound && source.acked)
    attempt := max dest.attempt source.attempt }

theorem mergeMatchedRow_eq :
    mergeMatchedRow dest source newer =
      mergeDeliveryMetadata (mergeAckMetadata (mergeFlags dest source) source newer) source
        newer := by
  unfold mergeMatchedRow mergeFlags
  have hmax : max dest.attempt source.attempt =
      if dest.attempt < source.attempt then source.attempt else dest.attempt := by
    split_ifs <;> omega
  rw [hmax]
  cases dest.outbound <;> simp only [Bool.not_false, Bool.not_true, if_true, Bool.true_and,
    Bool.false_and, Bool.or_false, Bool.false_eq_true, if_false] <;> split_ifs <;> rfl

@[simp] theorem mergeMatchedRow_seq : (mergeMatchedRow dest source newer).seq = dest.seq := by
  simp only [mergeMatchedRow_eq, mergeDeliveryMetadata_seq, mergeAckMetadata_seq, mergeFlags]

@[simp] theorem mergeMatchedRow_frozen :
    (mergeMatchedRow dest source newer).frozen = dest.frozen := by
  simp only [mergeMatchedRow_eq, mergeDeliveryMetadata_frozen, mergeAckMetadata_frozen]
  rfl

theorem mergeMatchedRow_withSeq (n : Nat) :
    mergeMatchedRow (dest.withSeq n) source newer =
      (mergeMatchedRow dest source newer).withSeq n := by
  have hack (d : DmEntry) : mergeAckMetadata (d.withSeq n) source newer =
      (mergeAckMetadata d source newer).withSeq n := by
    unfold mergeAckMetadata
    split_ifs <;> first | rfl | contradiction
  have hdelivery (d : DmEntry) : mergeDeliveryMetadata (d.withSeq n) source newer =
      (mergeDeliveryMetadata d source newer).withSeq n := by
    unfold mergeDeliveryMetadata
    split_ifs <;> first | rfl | contradiction
  rw [mergeMatchedRow_eq, mergeMatchedRow_eq, ← hdelivery, ← hack]
  rfl

theorem mergeMatchedRow_ackPart :
    (mergeMatchedRow dest source newer).ackPart =
      (mergeAckMetadata dest source newer).ackPart := by
  rw [mergeMatchedRow_eq, mergeDeliveryMetadata_ackPart, mergeAckMetadata_ackPart,
    mergeAckMetadata_ackPart dest]
  rfl

theorem mergeMatchedRow_deliveryPart :
    (mergeMatchedRow dest source newer).deliveryPart =
      (mergeDeliveryMetadata (mergeFlags dest source) source newer).deliveryPart := by
  rw [mergeMatchedRow_eq, mergeDeliveryMetadata_deliveryPart, mergeAckMetadata_deliveryPart,
    ← mergeDeliveryMetadata_deliveryPart]

theorem mergeMatchedRow_digest_of_valid (h : dest.identityDigestValid = true) :
    (mergeMatchedRow dest source newer).identityDigestValid = true ∧
      (mergeMatchedRow dest source newer).identityDigest = dest.identityDigest := by
  obtain ⟨hv, hd⟩ := DmEntry.digest_of_ackPart (mergeMatchedRow_ackPart dest source newer)
  rw [hv, hd]
  unfold mergeAckMetadata
  split_ifs with hs hdest hkeep hcopy
  · exact ⟨h, rfl⟩
  · simp [h] at hdest
  · exact ⟨h, rfl⟩
  · simp only [not_or, not_not] at hkeep
    exact ⟨by simpa [copyAckMetadata] using hs, hkeep.1.symm⟩
  · exact ⟨h, rfl⟩

theorem mergeMatchedRow_digest_of_invalid (h : dest.identityDigestValid = false) :
    (mergeMatchedRow dest source newer).identityDigestValid = source.identityDigestValid ∧
      (source.identityDigestValid = true →
        (mergeMatchedRow dest source newer).identityDigest = source.identityDigest) := by
  obtain ⟨hv, hd⟩ := DmEntry.digest_of_ackPart (mergeMatchedRow_ackPart dest source newer)
  rw [hv, hd]
  unfold mergeAckMetadata
  by_cases hs : source.identityDigestValid = true
  · simp [h, hs, copyAckMetadata]
  · simp [h, hs]

end MergeMatchedRow

end Sigui.Dm

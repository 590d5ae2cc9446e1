import Sigui.Ring
import Sigui.SeqSort
import Sigui.DmEntry

/-! The loaded message ring, the blob it is written as, and the passes that move one into the
other. Telemetry counters are not carried: no decision of the store reads them. -/
namespace Sigui.Dm

def dmStoreSchema : Nat := 7

structure DmBlob where
  schema : Nat
  nextSeq : Nat
  totalWritten : Nat
  droppedOldest : Nat
  head : Nat
  count : Nat
  epoch : Nat
  contentRevision : Nat
  clearLineage : UInt64
  entries : List DmEntry
  deriving DecidableEq

namespace DmBlob

/-- The rows a loop over `entries[0 .. count)` visits. -/
def rows (b : DmBlob) : List DmEntry := b.entries.take (min b.count dmStoreCapacity)

theorem length_rows_le (b : DmBlob) : b.rows.length ≤ dmStoreCapacity := by
  simp only [rows, List.length_take]
  omega

end DmBlob

/-- The pairwise part of the row loop: no digest and no session id occurs twice. -/
def rowsClash (previous entry : DmEntry) : Bool :=
  validIdentityDigestEqual previous entry ||
    (entry.deliverySessionId ≠ 0 && previous.deliverySessionId = entry.deliverySessionId)

def rowLoopIsValid (nextSeq : Nat) : List DmEntry → Nat → List DmEntry → Bool
  | _, _, [] => true
  | seen, previousSeq, entry :: rest =>
    persistedEntryIsValid entry nextSeq && decide (previousSeq < entry.seq) &&
      seen.all (fun previous => !rowsClash previous entry) &&
      rowLoopIsValid nextSeq (seen ++ [entry]) entry.seq rest

/-- `len != sizeof(*blob)` is the length of the entry array. -/
def blobLayoutIsValid (blob : DmBlob) (expectedSchema : Nat) : Bool :=
  decide (blob.entries.length = dmStoreCapacity) && decide (blob.schema = expectedSchema) &&
    decide (blob.epoch ≠ 0) && decide (blob.contentRevision ≠ 0) &&
    decide (blob.head < dmStoreCapacity) && decide (blob.count ≤ dmStoreCapacity) &&
    decide (blob.nextSeq ≠ 0) && decide (blob.count ≤ blob.totalWritten) &&
    decide (blob.head = blob.count % dmStoreCapacity) &&
    rowLoopIsValid blob.nextSeq [] 0 blob.rows

def blobIsValid (blob : DmBlob) : Bool := blobLayoutIsValid blob dmStoreSchema

structure RowsValid (nextSeq : Nat) (rows : List DmEntry) : Prop where
  entries : ∀ e ∈ rows, persistedEntryIsValid e nextSeq = true
  ascending : Ascending DmEntry.seq rows
  distinct : rows.Pairwise fun previous entry => rowsClash previous entry = false

theorem persistedEntryIsValid_seq_pos {e : DmEntry} {nextSeq : Nat}
    (h : persistedEntryIsValid e nextSeq = true) : 0 < e.seq := by
  simp only [persistedEntryIsValid, Bool.and_eq_true, decide_eq_true_eq] at h
  exact h.1.1.1.1

theorem persistedEntryIsValid_seq_lt {e : DmEntry} {nextSeq : Nat}
    (h : persistedEntryIsValid e nextSeq = true) : e.seq < nextSeq := by
  simp only [persistedEntryIsValid, Bool.and_eq_true, decide_eq_true_eq] at h
  exact h.1.1.1.2

theorem rowLoopIsValid_iff (nextSeq : Nat) (rows : List DmEntry) (seen : List DmEntry)
    (previousSeq : Nat) :
    rowLoopIsValid nextSeq seen previousSeq rows = true ↔
      RowsValid nextSeq rows ∧ (∀ e ∈ rows, previousSeq < e.seq) ∧
        ∀ p ∈ seen, ∀ e ∈ rows, rowsClash p e = false := by
  induction rows generalizing seen previousSeq with
  | nil =>
    simp only [rowLoopIsValid, List.not_mem_nil, false_implies, implies_true, and_true, true_iff]
    exact ⟨by simp, List.Pairwise.nil, List.Pairwise.nil⟩
  | cons e rest ih =>
    simp only [rowLoopIsValid, Bool.and_eq_true, decide_eq_true_eq, List.all_eq_true,
      Bool.not_eq_true', ih, List.mem_append, List.mem_cons, List.not_mem_nil, or_false,
      forall_eq_or_imp]
    constructor
    · rintro ⟨⟨⟨hvalid, hprev⟩, hseen⟩, hrest, habove, hcross⟩
      refine ⟨⟨?_, ?_, ?_⟩, ⟨hprev, fun r hr => hprev.trans (habove r hr)⟩, ?_⟩
      · exact List.forall_mem_cons.mpr ⟨hvalid, hrest.entries⟩
      · exact List.Pairwise.cons habove hrest.ascending
      · exact List.Pairwise.cons (hcross e (Or.inr rfl)) hrest.distinct
      · exact fun p hp => ⟨hseen p hp, hcross p (Or.inl hp)⟩
    · rintro ⟨hall, ⟨hprev, -⟩, hcross⟩
      obtain ⟨hasc, hascRest⟩ := List.pairwise_cons.mp hall.ascending
      obtain ⟨hdis, hdisRest⟩ := List.pairwise_cons.mp hall.distinct
      refine ⟨⟨⟨hall.entries e List.mem_cons_self, hprev⟩, fun p hp => (hcross p hp).1⟩,
        ⟨fun r hr => hall.entries r (List.mem_cons_of_mem _ hr), hascRest, hdisRest⟩, hasc, ?_⟩
      rintro p (hp | rfl)
      · exact (hcross p hp).2
      · exact hdis

/-- Everything `blob_is_valid` checks, with the row loop read as properties of the list. -/
structure BlobValid (b : DmBlob) : Prop where
  length : b.entries.length = dmStoreCapacity
  schema : b.schema = dmStoreSchema
  epoch : b.epoch ≠ 0
  contentRevision : b.contentRevision ≠ 0
  count : b.count ≤ dmStoreCapacity
  nextSeq : b.nextSeq ≠ 0
  total : b.count ≤ b.totalWritten
  head : b.head = b.count % dmStoreCapacity
  rows : RowsValid b.nextSeq b.rows

theorem blobIsValid_iff (b : DmBlob) : blobIsValid b = true ↔ BlobValid b := by
  simp only [blobIsValid, blobLayoutIsValid, Bool.and_eq_true, decide_eq_true_eq,
    rowLoopIsValid_iff, List.not_mem_nil, false_implies, implies_true, and_true]
  constructor
  · rintro ⟨⟨⟨⟨⟨⟨⟨⟨⟨hl, hs⟩, he⟩, hc⟩, -⟩, hcount⟩, hn⟩, ht⟩, hh⟩, hrows, -⟩
    exact ⟨hl, hs, he, hc, hcount, hn, ht, hh, hrows⟩
  · intro h
    refine ⟨⟨⟨⟨⟨⟨⟨⟨⟨h.length, h.schema⟩, h.epoch⟩, h.contentRevision⟩, ?_⟩, h.count⟩, h.nextSeq⟩,
      h.total⟩, h.head⟩, h.rows, fun e he => persistedEntryIsValid_seq_pos (h.rows.entries e he)⟩
    rw [h.head]
    exact Nat.mod_lt _ (by decide)

theorem BlobValid.length_rows {b : DmBlob} (h : BlobValid b) : b.rows.length = b.count := by
  have hcount := h.count
  have hlen := h.length
  simp only [DmBlob.rows, List.length_take]
  omega

/-- A retained transition to ACKNOWLEDGED that no backend holds yet. -/
structure AckPersistencePending where
  deliverySessionId : UInt64
  previousRevision : Nat
  targetRevision : Nat
  previousState : DeliveryState
  previousReason : DeliveryReason
  previousError : EspErr
  deriving DecidableEq

structure DmStore where
  entries : AnchoredRing DmEntry dmStoreCapacity
  nextSeq : Nat
  totalWritten : Nat
  droppedOldest : Nat
  epoch : Nat
  contentRevision : Nat
  clearLineage : UInt64
  volatileEntry : Option DmEntry
  loaded : Bool
  sdPrimaryDirty : Bool
  sdReconcilePending : Bool
  nvsFallbackDirty : Bool
  lastSdPrimaryRequired : Bool
  lastSdBackendGeneration : Nat
  retryPending : Bool
  persistAttemptedThisBoot : Bool
  lastPersistAttemptMs : Nat
  bootNextSeq : Nat
  mutatedSinceInit : Bool
  mutationsSinceInit : Nat
  deviceLineageAuthoritative : Bool
  stateRevision : Nat
  sdPrimaryLastError : EspErr
  nvsFallbackLastError : EspErr
  /-- The active slots of `s_ack_persistence_pending`. -/
  ackPersistencePending : List AckPersistencePending
  /-- `s_nvs_blob_scratch`, which init reads back after the merge has used it. -/
  nvsBlobScratch : DmBlob

theorem dmStoreCapacity_pos : 0 < dmStoreCapacity := by decide

def emptyRing : AnchoredRing DmEntry dmStoreCapacity :=
  .ofList [] dmStoreCapacity_pos (by decide)

namespace DmStore

def rows (s : DmStore) : List DmEntry := s.entries.toList

theorem length_rows_le (s : DmStore) : s.rows.length ≤ dmStoreCapacity :=
  s.entries.length_toList_le

theorem length_rows (s : DmStore) : s.rows.length = s.entries.count :=
  s.entries.length_toList

end DmStore

def clearHistory (s : DmStore) : DmStore :=
  { s with
    entries := emptyRing
    ackPersistencePending := []
    nextSeq := 1
    totalWritten := 0
    droppedOldest := 0
    volatileEntry := none }

def fillBlob (s : DmStore) : DmBlob where
  schema := dmStoreSchema
  epoch := s.epoch
  contentRevision := s.contentRevision
  clearLineage := s.clearLineage
  nextSeq := s.nextSeq
  totalWritten := s.totalWritten
  droppedOldest := s.droppedOldest
  head := s.entries.count % dmStoreCapacity
  count := s.entries.count
  entries := s.rows ++ List.replicate (dmStoreCapacity - s.entries.count) default

def loadBlob (s : DmStore) (blob : DmBlob) : DmStore :=
  { clearHistory s with
    epoch := blob.epoch
    contentRevision := blob.contentRevision
    clearLineage := blob.clearLineage
    nextSeq := blob.nextSeq
    totalWritten := blob.totalWritten
    droppedOldest := blob.droppedOldest
    entries := .ofList blob.rows (by decide) blob.length_rows_le }

def emptyBlob : DmBlob where
  schema := 0
  nextSeq := 0
  totalWritten := 0
  droppedOldest := 0
  head := 0
  count := 0
  epoch := 0
  contentRevision := 0
  clearLineage := 0
  entries := List.replicate dmStoreCapacity default

def bootStore : DmStore where
  entries := emptyRing
  nextSeq := 1
  totalWritten := 0
  droppedOldest := 0
  epoch := 1
  contentRevision := 1
  clearLineage := 0
  volatileEntry := none
  loaded := false
  sdPrimaryDirty := false
  sdReconcilePending := false
  nvsFallbackDirty := false
  lastSdPrimaryRequired := false
  lastSdBackendGeneration := 0
  retryPending := false
  persistAttemptedThisBoot := false
  lastPersistAttemptMs := 0
  bootNextSeq := 1
  mutatedSinceInit := false
  mutationsSinceInit := 0
  deviceLineageAuthoritative := false
  stateRevision := 0
  sdPrimaryLastError := espOk
  nvsFallbackLastError := espOk
  ackPersistencePending := []
  nvsBlobScratch := emptyBlob

def resetStore (s : DmStore) (sdPrimaryRequired : Bool) (backendGeneration : Nat) : DmStore :=
  { clearHistory s with
    epoch := 1
    contentRevision := 1
    clearLineage := 0
    loaded := false
    sdPrimaryDirty := false
    sdReconcilePending := !sdPrimaryRequired
    nvsFallbackDirty := false
    lastSdPrimaryRequired := sdPrimaryRequired
    lastSdBackendGeneration := backendGeneration
    retryPending := false
    persistAttemptedThisBoot := false
    lastPersistAttemptMs := 0
    bootNextSeq := 1
    mutatedSinceInit := false
    mutationsSinceInit := 0
    deviceLineageAuthoritative := false
    stateRevision := 1
    sdPrimaryLastError := espOk
    nvsFallbackLastError := espOk }

def loadedStore : DmStore := { resetStore bootStore false 0 with loaded := true }

@[simp] theorem rows_loadBlob (s : DmStore) (b : DmBlob) : (loadBlob s b).rows = b.rows :=
  Ring.toList_ofList b.rows (by decide) b.length_rows_le

@[simp] theorem rows_fillBlob (s : DmStore) : (fillBlob s).rows = s.rows := by
  have hle : s.entries.count ≤ dmStoreCapacity := s.entries.count_le
  have hlen : min s.entries.count dmStoreCapacity = s.rows.length := by
    rw [s.length_rows]
    omega
  simp only [DmBlob.rows, fillBlob, hlen, List.take_left']

/-- One pass over the ring at boot; `true` when some row was rewritten. -/
def normalizeWith (interrupted : DmEntry → Bool) (settle : DmEntry → DmEntry) (s : DmStore) :
    DmStore × Bool :=
  if s.rows.any interrupted then
    ({ s with
        entries := s.entries.mapRaw fun e => if interrupted e then settle e else e
        contentRevision := saturatingSucc s.contentRevision
        stateRevision := s.stateRevision + 1 }, true)
  else (s, false)

def ackInterrupted (e : DmEntry) : Bool :=
  e.identityDigestValid && e.ackState = .pending

def settleInterruptedAck (e : DmEntry) : DmEntry :=
  { e with
    ackState := if dmAckDispatchMax ≤ e.ackDispatchCount then .terminal else .retryable
    ackLastError := dmInterruptedError }

def normalizeInterruptedAck (s : DmStore) : DmStore × Bool :=
  normalizeWith ackInterrupted settleInterruptedAck s

def deliveryInterrupted (e : DmEntry) : Bool :=
  e.outbound && deliveryInterruptedByReboot e.deliveryState

def settleInterruptedDelivery (e : DmEntry) : DmEntry :=
  { e with
    deliveryState := .interruptedByReboot
    deliveryReason := .rebootRecovery
    deliveryLastError := dmInterruptedError
    acked := false
    delivered := false
    deliveryRevision := saturatingSucc e.deliveryRevision }

def normalizeInterruptedDelivery (s : DmStore) : DmStore × Bool :=
  normalizeWith deliveryInterrupted settleInterruptedDelivery s

def normalizeInterrupted (s : DmStore) : DmStore :=
  (normalizeInterruptedDelivery (normalizeInterruptedAck s).1).1

theorem rows_normalizeWith (interrupted : DmEntry → Bool) (settle : DmEntry → DmEntry)
    (s : DmStore) :
    (normalizeWith interrupted settle s).1.rows =
      s.rows.map fun e => if interrupted e then settle e else e := by
  unfold normalizeWith
  split_ifs with hany
  · exact AnchoredRing.toList_mapRaw _ _
  · have hnone : ∀ e ∈ s.rows, interrupted e = false := by
      simpa only [List.any_eq_true, not_exists, not_and, Bool.not_eq_true] using hany
    have hid : s.rows.map (fun e => if interrupted e then settle e else e) = s.rows.map id := by
      apply List.map_congr_left
      intro e he
      simp [hnone e he]
    rw [hid, List.map_id]

end Sigui.Dm

import Sigui.PacketEntry
import Sigui.SeqMerge

/-! The packet log in RAM and the two compact blobs it is stored in. -/
namespace Sigui.Packet

def ramCapacity : Nat := 128
def nvsFallbackCapacity : Nat := 8
def packetLogSchemaV2 : Nat := 2
def packetLogSchema : Nat := 3

/-- A stored blob; `rows` are its first `count` entries. -/
structure Blob where
  schema : Nat
  nextSeq : Nat
  totalWritten : Nat
  droppedOldest : Nat
  head : Nat
  rows : List Entry
  deriving DecidableEq

/-- The loop of `persisted_entries_are_valid` from the number `first` on. -/
def entriesValidFrom (nextSeq : Nat) : Nat → List Entry → Bool
  | _, [] => true
  | first, e :: rows =>
    persistedEntryIsValid e nextSeq && decide (e.seq = first) &&
      entriesValidFrom nextSeq (first + 1) rows

def persistedEntriesAreValid (rows : List Entry) (nextSeq : Nat) : Bool :=
  if 0 < rows.length ∧ nextSeq ≤ rows.length then false
  else entriesValidFrom nextSeq (nextSeq - rows.length) rows

/-- `persisted_lineage_is_valid`; no `uint32_t` lies above the maximum that is refused. -/
def persistedLineageIsValid (b : Blob) (capacity : Nat) : Bool :=
  if b.nextSeq = 0 ∨ capacity < b.rows.length ∨ capacity ≤ b.head ∨
      b.head ≠ b.rows.length % capacity ∨ b.totalWritten < b.droppedOldest ∨
      ¬ (b.totalWritten = 0 ↔ b.rows.length = 0) ∨ b.totalWritten < b.rows.length ∨
      uint32Max ≤ b.totalWritten ∨ b.nextSeq ≠ b.totalWritten + 1 then false
  else persistedEntriesAreValid b.rows b.nextSeq

/-- `primary_blob_is_valid`, of a blob of the right size -/
def primaryBlobIsValid (b : Blob) : Bool :=
  decide (b.schema = packetLogSchema) && persistedLineageIsValid b ramCapacity

/-- `fallback_blob_is_valid` and `fallback_blob_v2_is_valid` -/
def fallbackBlobIsValid (b : Blob) : Bool :=
  decide (b.schema = packetLogSchema) && persistedLineageIsValid b nvsFallbackCapacity

def fallbackBlobV2IsValid (b : Blob) : Bool :=
  decide (b.schema = packetLogSchemaV2) && persistedLineageIsValid b nvsFallbackCapacity

def promoteV2CompactPrimary (legacy : Blob) : Blob :=
  { legacy with schema := packetLogSchema, head := legacy.rows.length % ramCapacity }

/-- `primary_blobs_equal`; neither the schema nor the head is looked at. -/
def primaryBlobsEqual (left right : Blob) : Bool :=
  decide (left.nextSeq = right.nextSeq) && decide (left.totalWritten = right.totalWritten) &&
    decide (left.droppedOldest = right.droppedOldest) && decide (left.rows = right.rows)

/-- The statics of the log; `rows` are the retained rows, oldest first. -/
structure PacketLog where
  rows : List Entry
  rows_le : rows.length ≤ ramCapacity
  nextSeq : Nat
  totalWritten : Nat
  droppedOldest : Nat
  sdDirtyCount : Nat
  lastSdFlushMs : Nat
  sdHistoryRecords : Nat
  journalNextSeq : Nat
  lastSdBackendGeneration : Nat
  bootNextSeq : Nat
  mutationsSinceInit : Nat
  mutatedSinceInit : Bool
  sdPrimaryDirty : Bool
  sdReconcilePending : Bool
  nvsFallbackDirty : Bool
  journalDirty : Bool
  volatileEntry : Option Entry
  loaded : Bool

/-- `clear_ram` and `reset_persistence_state` -/
def PacketLog.reset (backendGeneration : Nat) (sdEnabled : Bool) : PacketLog where
  rows := []
  rows_le := Nat.zero_le _
  nextSeq := 1
  totalWritten := 0
  droppedOldest := 0
  sdDirtyCount := 0
  lastSdFlushMs := 0
  sdHistoryRecords := 0
  journalNextSeq := 1
  lastSdBackendGeneration := backendGeneration
  bootNextSeq := 1
  mutationsSinceInit := 0
  mutatedSinceInit := false
  sdPrimaryDirty := false
  sdReconcilePending := sdEnabled
  nvsFallbackDirty := false
  journalDirty := false
  volatileEntry := none
  loaded := false

/-- `fill_primary_blob` and `fill_fallback_blob` -/
def fillBlob (capacity : Nat) (s : PacketLog) : Blob where
  schema := packetLogSchema
  nextSeq := s.nextSeq
  totalWritten := s.totalWritten
  droppedOldest := s.droppedOldest
  head := (keepLast capacity s.rows).length % capacity
  rows := keepLast capacity s.rows

def fillPrimaryBlob (s : PacketLog) : Blob := fillBlob ramCapacity s

def fillFallbackBlob (s : PacketLog) : Blob := fillBlob nvsFallbackCapacity s

/-- `load_primary_blob_into_ram`; a blob with more rows is never loaded. -/
def loadPrimaryBlobIntoRam (s : PacketLog) (b : Blob) : PacketLog :=
  if h : b.rows.length ≤ ramCapacity then
    { s with
      rows := b.rows
      rows_le := h
      nextSeq := b.nextSeq
      totalWritten := b.totalWritten
      droppedOldest := b.droppedOldest
      sdDirtyCount := 0 }
  else s

def loadFallbackBlobIntoRam (s : PacketLog) (b : Blob) : PacketLog :=
  { loadPrimaryBlobIntoRam s b with sdHistoryRecords := 0 }

def pushRow (rows : List Entry) (e : Entry) : List Entry :=
  if rows.length < ramCapacity then rows ++ [e] else rows.tail ++ [e]

theorem pushRow_length_le {rows : List Entry} (h : rows.length ≤ ramCapacity) (e : Entry) :
    (pushRow rows e).length ≤ ramCapacity := by
  unfold pushRow
  split
  · rw [List.length_append, List.length_singleton]
    omega
  · have hpos : 0 < ramCapacity := by decide
    rw [List.length_append, List.length_tail, List.length_singleton]
    omega

/-- The part of `append_raw_internal` that retains the row; `none` when the numbers are used up. -/
def appendRow (s : PacketLog) (entry : Entry) (raw : List UInt8) (sdEnabled : Bool) (nowMs : Nat) :
    Option PacketLog :=
  if s.nextSeq = uint32Max then none
  else
    let copy := appendCopy entry raw s.nextSeq nowMs
    some
      { s with
        volatileEntry := none
        nextSeq := s.nextSeq + 1
        rows := pushRow s.rows copy
        rows_le := pushRow_length_le s.rows_le copy
        droppedOldest :=
          if s.rows.length < ramCapacity then s.droppedOldest else u32Succ s.droppedOldest
        totalWritten := u32Succ s.totalWritten
        mutatedSinceInit := true
        mutationsSinceInit := u32Succ s.mutationsSinceInit
        nvsFallbackDirty := true
        sdPrimaryDirty := sdEnabled || s.sdPrimaryDirty
        sdDirtyCount := if sdEnabled then u32Succ s.sdDirtyCount else s.sdDirtyCount
        journalDirty :=
          if sdEnabled then decide (s.journalNextSeq < s.nextSeq + 1) else s.journalDirty }

structure Lineage (nextSeq totalWritten droppedOldest : Nat) (rows : List Entry) : Prop where
  numbered : Numbered Entry.seq nextSeq rows
  next : nextSeq = totalWritten + 1
  room : totalWritten < uint32Max
  nonempty : totalWritten = 0 ↔ rows = []
  fits : rows.length ≤ totalWritten
  dropped : droppedOldest ≤ totalWritten
  valid : ∀ e ∈ rows, packetIsValid e = true

def Blob.Ok (b : Blob) : Prop := Lineage b.nextSeq b.totalWritten b.droppedOldest b.rows

def PacketLog.Ok (s : PacketLog) : Prop := Lineage s.nextSeq s.totalWritten s.droppedOldest s.rows

theorem entriesValidFrom_iff {nextSeq first : Nat} {rows : List Entry} (hpos : 0 < first)
    (hnext : first + rows.length = nextSeq) :
    entriesValidFrom nextSeq first rows = true ↔
      rows.map Entry.seq = List.range' first rows.length ∧ ∀ e ∈ rows, packetIsValid e = true := by
  induction rows generalizing first with
  | nil => simp [entriesValidFrom]
  | cons e rows ih =>
    rw [List.length_cons] at hnext
    rw [entriesValidFrom, Bool.and_eq_true, Bool.and_eq_true, decide_eq_true_eq,
      ih (Nat.succ_pos _) (by omega), persistedEntryIsValid_iff, List.map_cons, List.length_cons,
      List.range'_succ, List.cons.injEq, List.forall_mem_cons]
    constructor
    · rintro ⟨⟨⟨_, hvalid⟩, hseq⟩, hmap, hrest⟩
      exact ⟨⟨hseq, hmap⟩, hvalid, hrest⟩
    · rintro ⟨⟨hseq, hmap⟩, hvalid, hrest⟩
      exact ⟨⟨⟨by omega, hvalid⟩, hseq⟩, hmap, hrest⟩

theorem persistedEntriesAreValid_iff {nextSeq : Nat} {rows : List Entry}
    (h : rows.length < nextSeq) : persistedEntriesAreValid rows nextSeq = true ↔
      Numbered Entry.seq nextSeq rows ∧ ∀ e ∈ rows, packetIsValid e = true := by
  have hcount : ¬ (0 < rows.length ∧ nextSeq ≤ rows.length) := by omega
  rw [persistedEntriesAreValid, if_neg hcount, entriesValidFrom_iff (by omega) (by omega), Numbered]
  exact and_congr_left fun _ => ⟨fun hmap => ⟨h.le, hmap⟩, fun hnum => hnum.2⟩

theorem persistedLineageIsValid_iff {b : Blob} {capacity : Nat} (hcap : 0 < capacity) :
    persistedLineageIsValid b capacity = true ↔
      b.Ok ∧ b.rows.length ≤ capacity ∧ b.head = b.rows.length % capacity := by
  have hmod : b.rows.length % capacity < capacity := Nat.mod_lt _ hcap
  unfold persistedLineageIsValid
  constructor
  · intro h
    split at h
    · cases h
    rename_i hchecks
    simp only [not_or, not_lt, not_le, not_not] at hchecks
    obtain ⟨_, hlen, _, hhead, hdropped, hempty, hfits, hmax, hnext⟩ := hchecks
    obtain ⟨hnumbered, hvalid⟩ := (persistedEntriesAreValid_iff (by omega)).mp h
    exact ⟨⟨hnumbered, hnext, hmax, hempty.trans List.length_eq_zero_iff, hfits, hdropped, hvalid⟩,
      hlen, hhead⟩
  · rintro ⟨hok, hlen, hhead⟩
    have hfits := hok.fits
    have hnext := hok.next
    have hempty : b.totalWritten = 0 ↔ b.rows.length = 0 :=
      hok.nonempty.trans List.length_eq_zero_iff.symm
    rw [if_neg, persistedEntriesAreValid_iff (by omega)]
    · exact ⟨hok.numbered, hok.valid⟩
    · simp only [not_or, not_lt, not_le, not_not]
      exact ⟨by omega, hlen, by omega, hhead, hok.dropped, hempty, hfits, hok.room, hnext⟩

theorem primaryBlobIsValid_iff {b : Blob} : primaryBlobIsValid b = true ↔
    b.schema = packetLogSchema ∧ b.Ok ∧ b.rows.length ≤ ramCapacity ∧
      b.head = b.rows.length % ramCapacity := by
  rw [primaryBlobIsValid, Bool.and_eq_true, decide_eq_true_eq,
    persistedLineageIsValid_iff (by decide)]

theorem promote_valid {legacy : Blob} (h : fallbackBlobV2IsValid legacy = true) :
    primaryBlobIsValid (promoteV2CompactPrimary legacy) = true := by
  rw [fallbackBlobV2IsValid, Bool.and_eq_true, decide_eq_true_eq,
    persistedLineageIsValid_iff (by decide)] at h
  obtain ⟨_, hok, hlen, _⟩ := h
  exact primaryBlobIsValid_iff.mpr ⟨rfl, hok, hlen.trans (by decide), rfl⟩

theorem fillPrimaryBlob_eq (s : PacketLog) : fillPrimaryBlob s =
    ⟨packetLogSchema, s.nextSeq, s.totalWritten, s.droppedOldest, s.rows.length % ramCapacity,
      s.rows⟩ := by
  rw [fillPrimaryBlob, fillBlob, keepLast_of_length_le s.rows_le]

theorem fillPrimaryBlob_rows (s : PacketLog) : (fillPrimaryBlob s).rows = s.rows := by
  rw [fillPrimaryBlob_eq]

theorem loadPrimaryBlobIntoRam_of_le (s : PacketLog) {b : Blob}
    (h : b.rows.length ≤ ramCapacity) : loadPrimaryBlobIntoRam s b =
      { s with
        rows := b.rows
        rows_le := h
        nextSeq := b.nextSeq
        totalWritten := b.totalWritten
        droppedOldest := b.droppedOldest
        sdDirtyCount := 0 } := dif_pos h

section Appending

variable {s t : PacketLog} {entry : Entry} {raw : List UInt8} {sdEnabled : Bool} {nowMs : Nat}

theorem mem_pushRow {rows : List Entry} {e x : Entry} (h : x ∈ pushRow rows e) :
    x ∈ rows ∨ x = e := by
  unfold pushRow at h
  split at h
  · rcases List.mem_append.mp h with h | h
    · exact .inl h
    · exact .inr (List.mem_singleton.mp h)
  · rcases List.mem_append.mp h with h | h
    · exact .inl (List.mem_of_mem_tail h)
    · exact .inr (List.mem_singleton.mp h)

theorem pushRow_numbered {rows : List Entry} {next : Nat} {e : Entry}
    (h : Numbered Entry.seq next rows) (he : e.seq = next) :
    Numbered Entry.seq (next + 1) (pushRow rows e) := by
  unfold pushRow
  split
  · exact h.snoc he
  · rw [← List.drop_one]
    exact (h.drop 1).snoc he

end Appending

end Sigui.Packet

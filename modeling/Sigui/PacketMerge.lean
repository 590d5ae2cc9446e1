import Sigui.PacketStore

/-! The three merges of a card's compact primary with the log in RAM. -/
namespace Sigui.Packet

def mergeCapacity : Nat := ramCapacity * 2

/-- `fill_primary_from_merge` of the merged rows -/
def fillPrimaryFromMerge (merged : List Entry) (nextSeq totalWritten droppedOldest : Nat) :
    Blob where
  schema := packetLogSchema
  nextSeq := nextSeq
  totalWritten := totalWritten
  droppedOldest := max droppedOldest (totalWritten - ramCapacity)
  head := (keepLast ramCapacity merged).length % ramCapacity
  rows := keepLast ramCapacity merged

def mergeFaultCode : MergeFault → EspErr
  | .conflict => espErrInvalidState
  | .full => espErrInvalidSize

def checkedPrimary (b : Blob) : Except EspErr Blob :=
  if primaryBlobIsValid b then .ok b else .error espErrInvalidState

def mergeSameLineage (live sd : Blob) : Except EspErr Blob :=
  match mergeAgreeing Entry.seq mergeCapacity live.rows sd.rows with
  | .error fault => .error (mergeFaultCode fault)
  | .ok merged =>
    checkedPrimary (fillPrimaryFromMerge merged (max live.nextSeq sd.nextSeq)
      (max live.totalWritten sd.totalWritten) (max live.droppedOldest sd.droppedOldest))

/-- The rows numbered anew from `first` on. -/
def resequence : Nat → List Entry → List Entry
  | _, [] => []
  | first, e :: rows => e.withSeq first :: resequence (first + 1) rows

def fillResequencedDivergentPrimary (merged : List Entry) (preferredTotal droppedOldest : Nat) :
    Except EspErr Blob :=
  if preferredTotal < merged.length ∧ uint32Max ≤ merged.length then .error espErrInvalidSize
  else
    let totalWritten := max preferredTotal merged.length
    if totalWritten = uint32Max then .error espErrInvalidSize
    else
      let b := fillPrimaryFromMerge merged (totalWritten + 1) totalWritten droppedOldest
      checkedPrimary { b with rows := resequence (totalWritten + 1 - b.rows.length) b.rows }

/-- The rows of a divergent merge: by number when the local log is ahead, else the local rows after
those of the card. -/
def divergentRows (live sd : Blob) : List Entry :=
  if sd.totalWritten < live.totalWritten then
    interleave Entry.seq (live.rows.length + sd.rows.length) live.rows sd.rows
  else sd.rows ++ live.rows

def mergeDivergentLineage (live sd : Blob) : Except EspErr Blob :=
  match uniqueRows mergeCapacity (divergentRows live sd) with
  | .error fault => .error (mergeFaultCode fault)
  | .ok merged =>
    fillResequencedDivergentPrimary merged (max live.totalWritten sd.totalWritten)
      (max live.droppedOldest sd.droppedOldest)

/-- The loop of `adopt_sd_with_live_overlay` over the local rows: those numbered from `bootNextSeq`
on are replayed from `nextSeq` on. -/
def overlayRows (bootNextSeq : Nat) : Nat → Nat → List Entry → Except EspErr (List Entry)
  | _, _, [] => .ok []
  | nextSeq, used, e :: rows =>
    if e.seq < bootNextSeq then overlayRows bootNextSeq nextSeq used rows
    else if nextSeq = uint32Max ∨ mergeCapacity ≤ used then .error espErrInvalidSize
    else
      match overlayRows bootNextSeq (nextSeq + 1) (used + 1) rows with
      | .error e => .error e
      | .ok rest => .ok (e.withSeq nextSeq :: rest)

/-- `adopt_sd_with_live_overlay`, with the number of rows that were replayed -/
def adoptSdWithLiveOverlay (live sd : Blob) (bootNextSeq expectedMutations : Nat) :
    Except EspErr (Blob × Nat) :=
  match overlayRows bootNextSeq sd.nextSeq sd.rows.length live.rows with
  | .error e => .error e
  | .ok overlay =>
    if overlay.length ≠ expectedMutations then .error espErrInvalidState
    else
      let totalWritten := u32Add sd.totalWritten overlay.length
      if totalWritten < sd.totalWritten then .error espErrInvalidSize
      else
        let b := fillPrimaryFromMerge (sd.rows ++ overlay) (sd.nextSeq + overlay.length)
          totalWritten sd.droppedOldest
        (checkedPrimary b).map fun b => (b, overlay.length)

section Rules

variable {live sd b : Blob}

theorem checkedPrimary_of_valid (h : primaryBlobIsValid b = true) : checkedPrimary b = .ok b :=
  if_pos h

theorem checkedPrimary_ok {b' : Blob} (h : checkedPrimary b = .ok b') :
    b' = b ∧ primaryBlobIsValid b = true := by
  unfold checkedPrimary at h
  split at h
  · exact ⟨(Except.ok.inj h).symm, ‹_›⟩
  · cases h

theorem resequence_packet (first : Nat) (rows : List Entry) :
    (resequence first rows).map Entry.packet = rows.map Entry.packet := by
  induction rows generalizing first with
  | nil => rfl
  | cons e rows ih =>
    rw [resequence, List.map_cons, ih, List.map_cons, Entry.packet_withSeq]

theorem length_keepLast_ram (merged : List Entry) :
    (keepLast ramCapacity merged).length ≤ ramCapacity := by
  rw [length_keepLast]
  exact Nat.min_le_left _ _

theorem primary_valid {nextSeq totalWritten dropped head : Nat} {rows : List Entry}
    (h : Lineage nextSeq totalWritten dropped rows) (hlen : rows.length ≤ ramCapacity)
    (hhead : head = rows.length % ramCapacity) :
    primaryBlobIsValid ⟨packetLogSchema, nextSeq, totalWritten, dropped, head, rows⟩ = true :=
  primaryBlobIsValid_iff.mpr ⟨rfl, h, hlen, hhead⟩

theorem fillPrimaryFromMerge_valid {merged : List Entry} {nextSeq totalWritten dropped : Nat}
    (h : Lineage nextSeq totalWritten (max dropped (totalWritten - ramCapacity))
      (keepLast ramCapacity merged)) :
    primaryBlobIsValid (fillPrimaryFromMerge merged nextSeq totalWritten dropped) = true := by
  rw [fillPrimaryFromMerge]
  exact primary_valid h (length_keepLast_ram merged) rfl

end Rules

end Sigui.Packet

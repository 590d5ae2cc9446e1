import Sigui.DmOps
import Sigui.ListRules

/-! Folding the blob found on a card into the loaded store. A blob of the same epoch is merged
row by row; a blob of a later epoch, or of a lineage that may replace ours, becomes the history
and our own live rows are replayed on top of it. -/
namespace Sigui.Dm

/-- What a merge returns: `changed` is `*out_changed`, and a failure may still touch the store. -/
structure MergeResult where
  ret : EspErr
  changed : Bool
  store : DmStore

def isLive (s : DmStore) (e : DmEntry) : Bool :=
  s.mutatedSinceInit && decide (s.bootNextSeq ≤ e.seq)

/-- The loop over the merged rows that looks for the candidate's other copy. -/
inductive IdentityScan
  | conflict
  | matched (before : List DmEntry) (row : DmEntry) (after : List DmEntry)
  | unmatched

def scanIdentity (candidate : DmEntry) (rows : List DmEntry) : IdentityScan :=
  match splitFirst
      (fun r => deliverySessionIdConflicts r candidate || entryIdentityEqual r candidate) rows with
  | none => .unmatched
  | some (before, row, after) =>
    if deliverySessionIdConflicts row candidate then .conflict else .matched before row after

/-- The loop variables of `merge_same_epoch_locked`. -/
structure MergeAcc where
  merged : List DmEntry
  nextSeq : Nat
  additionalCount : Nat

def appendMerged (acc : MergeAcc) (candidate : DmEntry) : MergeAcc :=
  if acc.merged.length < dmStoreCapacity * 2 then
    { acc with merged := acc.merged ++ [candidate] }
  else acc

def mergeCandidate (s : DmStore) (primaryNewer : Bool) (acc : MergeAcc) (candidate : DmEntry) :
    Except EspErr MergeAcc :=
  match scanIdentity candidate acc.merged with
  | .conflict => .error espErrInvalidState
  | .matched before row after =>
    .ok { acc with merged := before ++ mergeMatchedRow row candidate primaryNewer :: after }
  | .unmatched =>
    match splitFirst (fun r => r.seq = candidate.seq) acc.merged with
    | none => .ok (appendMerged acc candidate)
    | some (before, current, after) =>
      if acc.nextSeq = uint32Max then .error espErrInvalidState
      else if isLive s current then
        -- The live row gives up its sequence and moves behind everything seen so far.
        if dmStoreCapacity * 2 ≤ acc.merged.length then .error espErrInvalidSize
        else .ok
          { acc with
            merged := before ++ candidate :: after ++ [current.withSeq acc.nextSeq]
            nextSeq := acc.nextSeq + 1 }
      else .ok
        (appendMerged
          { acc with
            nextSeq := acc.nextSeq + 1
            additionalCount := (acc.additionalCount + 1) % (uint32Max + 1) }
          (candidate.withSeq acc.nextSeq))

/-- Rows written since the last persist that the card does not hold. -/
def additionalLiveCount (s : DmStore) (primary : DmBlob) : Nat :=
  if s.mutatedSinceInit then
    let live := s.rows.filter (isLive s)
    let absent := live.countP fun e => !primary.rows.any fun source => entryIdentityEqual e source
    absent + (s.mutationsSinceInit - live.length)
  else 0

def mergeCandidates (s : DmStore) (primary : DmBlob) : Except EspErr MergeAcc :=
  primary.rows.foldlM
    (mergeCandidate s (decide (s.contentRevision < primary.contentRevision)))
    { merged := s.rows
      nextSeq := max s.nextSeq primary.nextSeq
      additionalCount := additionalLiveCount s primary }

def mergedTotal (s : DmStore) (primary : DmBlob) (additionalCount keepCount : Nat) : Nat :=
  let localBase :=
    if s.mutatedSinceInit then s.totalWritten - s.mutationsSinceInit else s.totalWritten
  let base := max localBase primary.totalWritten
  let total := if uint32Max - additionalCount < base then uint32Max else base + additionalCount
  if total < keepCount then keepCount else total

/-- The final loop that lifts `next_seq` over every retained row. -/
def nextSeqOver (nextSeq : Nat) (rows : List DmEntry) : Nat :=
  rows.foldl (fun next e => if next ≤ e.seq ∧ e.seq < uint32Max then e.seq + 1 else next) nextSeq

def keptRows (acc : MergeAcc) : List DmEntry :=
  keepLast dmStoreCapacity (sortByKey DmEntry.seq acc.merged)

theorem length_keptRows_le (acc : MergeAcc) : (keptRows acc).length ≤ dmStoreCapacity := by
  rw [keptRows, length_keepLast]
  omega

/-- The store as the merged rows are copied back, before `content_revision` is advanced. -/
def mergedStore (s : DmStore) (primary : DmBlob) (acc : MergeAcc) : DmStore :=
  let total := mergedTotal s primary acc.additionalCount (keptRows acc).length
  { clearHistory s with
    entries := .ofList (keptRows acc) dmStoreCapacity_pos (length_keptRows_le acc)
    epoch := primary.epoch
    totalWritten := total
    droppedOldest := total - (keptRows acc).length
    nextSeq := nextSeqOver acc.nextSeq (keptRows acc)
    contentRevision := max s.contentRevision primary.contentRevision }

def mergeSameEpoch (s : DmStore) (primary : DmBlob) : MergeResult :=
  match mergeCandidates s primary with
  | .error ret => ⟨ret, false, s⟩
  | .ok acc =>
    let merged := mergedStore s primary acc
    let scratch := fillBlob merged
    let changed := decide (fillBlob s ≠ scratch)
    ⟨espOk, changed,
      { merged with
        contentRevision :=
          if changed then saturatingSucc merged.contentRevision else merged.contentRevision
        nvsBlobScratch := scratch }⟩

/-- The loop variables of the overlay: the store being rebuilt and what it owes the primary. -/
structure OverlayAcc where
  store : DmStore
  differsPrimary : Bool
  totalAdditions : Nat

def appendResequenced (s : DmStore) (source : DmEntry) : Except EspErr DmStore :=
  if s.nextSeq = uint32Max then .error espErrInvalidState
  else .ok
    { s with
      nextSeq := s.nextSeq + 1
      entries := s.entries.push (source.withSeq s.nextSeq) }

def preservePending (e : DmEntry) : Bool :=
  e.identityDigestValid && e.ackState = .pending && decide (0 < e.ackDispatchCount)

def overlayCandidate (acc : OverlayAcc) (source : DmEntry) : Except EspErr OverlayAcc :=
  let scan := acc.store.entries.findRaw fun r =>
    deliverySessionIdConflicts r source || entryIdentityEqual r source
  match scan with
  | some k =>
    let before := acc.store.entries.slots k
    if deliverySessionIdConflicts before source then .error espErrInvalidState
    else
      let after := mergeMatchedRow before source true
      .ok
        { acc with
          store := { acc.store with entries := acc.store.entries.modify k fun _ => after }
          differsPrimary := acc.differsPrimary || decide (before ≠ after) }
  | none =>
    if !isLive acc.store source && !preservePending source then .ok acc
    else
      match appendResequenced acc.store source with
      | .error ret => .error ret
      | .ok store => .ok
        { store := store
          differsPrimary := true
          totalAdditions :=
            if preservePending source && !isLive acc.store source then
              saturatingSucc acc.totalAdditions
            else acc.totalAdditions }

/-- Only live rows are replayed, but rows with a digest still lend their ACK metadata. -/
def overlayEntries (s : DmStore) : List DmEntry :=
  sortByKey DmEntry.seq (s.rows.filter fun e => e.identityDigestValid || isLive s e)

def mergeOverlay (s : DmStore) (primary : DmBlob) : MergeResult :=
  match (overlayEntries s).foldlM overlayCandidate
      ⟨loadBlob s primary, false, s.mutationsSinceInit⟩ with
  | .error ret => ⟨ret, false, loadBlob s (fillBlob s)⟩
  | .ok acc =>
    let total :=
      if uint32Max - acc.totalAdditions < primary.totalWritten then uint32Max
      else primary.totalWritten + acc.totalAdditions
    let differs :=
      acc.differsPrimary || decide (acc.store.contentRevision < s.contentRevision) ||
        decide (0 < acc.totalAdditions)
    let revision := max acc.store.contentRevision s.contentRevision
    ⟨espOk, decide (fillBlob s ≠ primary) || differs,
      { acc.store with
        totalWritten := total
        droppedOldest := total - acc.store.entries.count
        contentRevision := if differs then saturatingSucc revision else revision }⟩

/-- The card's clear branch replaces ours only before this device has one of its own. -/
def incomingClearDominates (s : DmStore) (primary : DmBlob) : Bool :=
  !s.deviceLineageAuthoritative && primary.clearLineage ≠ s.clearLineage

/-- `merge_primary_locked` returns before it touches the ring. -/
def primaryIgnored (s : DmStore) (primary : DmBlob) : Bool :=
  !incomingClearDominates s primary &&
    (primary.clearLineage ≠ s.clearLineage || decide (primary.epoch < s.epoch))

def mergePrimary (s : DmStore) (primary : DmBlob) : MergeResult :=
  if primaryIgnored s primary then ⟨espOk, false, s⟩
  else if !incomingClearDominates s primary && primary.epoch = s.epoch then
    mergeSameEpoch s primary
  else mergeOverlay s primary

section Steps

/-- What one row that is laid over the card's does to the ring. -/
inductive OverlayStep (acc : OverlayAcc) (e : DmEntry) : OverlayAcc → Prop
  | pair (k : Fin dmStoreCapacity) (differs : Bool) (used : acc.store.entries.Used k)
      (apart : deliverySessionIdConflicts (acc.store.entries.slots k) e = false)
      (pair : entryIdentityEqual (acc.store.entries.slots k) e = true) :
      OverlayStep acc e
        { acc with
          store := { acc.store with
            entries := acc.store.entries.modify k fun _ =>
              mergeMatchedRow (acc.store.entries.slots k) e true }
          differsPrimary := differs }
  | skip (settled : (!isLive acc.store e && !preservePending e) = true) : OverlayStep acc e acc
  | push (absent : ∀ r ∈ acc.store.rows, deliverySessionIdConflicts r e = false ∧
        entryIdentityEqual r e = false)
      (replayed : ¬ (!isLive acc.store e && !preservePending e) = true)
      (room : acc.store.nextSeq ≠ uint32Max) :
      OverlayStep acc e
        { store := { acc.store with
            nextSeq := acc.store.nextSeq + 1
            entries := acc.store.entries.push (e.withSeq acc.store.nextSeq) }
          differsPrimary := true
          totalAdditions :=
            if preservePending e && !isLive acc.store e then saturatingSucc acc.totalAdditions
            else acc.totalAdditions }

theorem overlayCandidate_step {acc acc' : OverlayAcc} {e : DmEntry}
    (h : overlayCandidate acc e = .ok acc') : OverlayStep acc e acc' := by
  unfold overlayCandidate at h
  dsimp only at h
  cases hscan : acc.store.entries.findRaw fun r =>
      deliverySessionIdConflicts r e || entryIdentityEqual r e with
  | some k =>
    obtain ⟨hused, hfound⟩ := AnchoredRing.findRaw_eq_some hscan
    simp only [hscan] at h
    by_cases hconflict : deliverySessionIdConflicts (acc.store.entries.slots k) e = true
    · simp [hconflict] at h
    rw [if_neg hconflict, Except.ok.injEq] at h
    subst h
    exact .pair k _ hused (by simpa using hconflict) (by simpa [hconflict] using hfound)
  | none =>
    simp only [hscan] at h
    by_cases hskip : (!isLive acc.store e && !preservePending e) = true
    · rw [if_pos hskip, Except.ok.injEq] at h
      exact h ▸ .skip hskip
    rw [if_neg hskip] at h
    unfold appendResequenced at h
    by_cases hroom : acc.store.nextSeq = uint32Max
    · simp [hroom] at h
    simp only [if_neg hroom, Except.ok.injEq] at h
    subst h
    exact .push (fun r hr => Bool.or_eq_false_iff.mp (AnchoredRing.findRaw_eq_none hscan r hr))
      hskip hroom

variable {s : DmStore} {primary : DmBlob} {P : DmStore → Prop}

theorem mergeOverlay_induct (hback : P (loadBlob s (fillBlob s))) (hload : P (loadBlob s primary))
    (hstep : ∀ acc e acc', e ∈ overlayEntries s → P acc.store → OverlayStep acc e acc' →
      P acc'.store)
    (hcounts : ∀ t total dropped revision, P t →
      P { t with totalWritten := total, droppedOldest := dropped, contentRevision := revision }) :
    P (mergeOverlay s primary).store := by
  unfold mergeOverlay
  cases hfold : (overlayEntries s).foldlM overlayCandidate
      ⟨loadBlob s primary, false, s.mutationsSinceInit⟩ with
  | error ret => exact hback
  | ok acc =>
    refine hcounts acc.store _ _ _ (foldlM_ok_invariant (fun _ acc => P acc.store) hload ?_ hfold)
    intro done e post acc acc' hentries hacc hok
    refine hstep acc e acc' ?_ hacc (overlayCandidate_step hok)
    rw [hentries]
    exact List.mem_append_cons_self

theorem mergePrimary_induct (hkept : P s) (hsame : P (mergeSameEpoch s primary).store)
    (hoverlay : P (mergeOverlay s primary).store) : P (mergePrimary s primary).store := by
  unfold mergePrimary
  split_ifs
  · exact hkept
  · exact hsame
  · exact hoverlay

end Steps

end Sigui.Dm

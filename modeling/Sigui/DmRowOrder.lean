import Sigui.DmDevice

/-! On every run of the device the retained rows are in ascending sequence, below the sequence
the next append takes. No card and no order of steps can break this. -/
namespace Sigui.Dm

structure BlobOrdered (b : DmBlob) : Prop where
  ascending : Ascending DmEntry.seq b.rows
  below : ∀ e ∈ b.rows, e.seq < b.nextSeq

theorem BlobValid.ordered {b : DmBlob} (h : BlobValid b) : BlobOrdered b :=
  ⟨h.rows.ascending, fun e he => persistedEntryIsValid_seq_lt (h.rows.entries e he)⟩

/-- The ring in order, and the scratch blob that init may load again. -/
structure DeviceOrdered (s : DmStore) : Prop where
  rows : RowsOrdered s
  scratch : BlobOrdered s.nvsBlobScratch

variable {s s' : DmStore}

theorem RowsOrdered.of_same (h : RowsOrdered s) (hrows : s'.rows = s.rows)
    (hnext : s'.nextSeq = s.nextSeq) : RowsOrdered s' := by
  refine ⟨?_, ?_⟩
  · rw [hrows]
    exact h.ascending
  · rw [hrows, hnext]
    exact h.below

theorem RowsOrdered.fillBlob (h : RowsOrdered s) : BlobOrdered (fillBlob s) := by
  refine ⟨?_, ?_⟩
  · rw [rows_fillBlob]
    exact h.ascending
  · rw [rows_fillBlob]
    exact h.below

theorem BlobOrdered.loadBlob {b : DmBlob} (h : BlobOrdered b) (s : DmStore) :
    RowsOrdered (loadBlob s b) := by
  refine ⟨?_, ?_⟩
  · rw [rows_loadBlob]
    exact h.ascending
  · rw [rows_loadBlob]
    exact h.below

theorem rowsOrdered_of_empty (h : s.rows = []) : RowsOrdered s := by
  refine ⟨?_, ?_⟩
  · rw [h]
    exact List.Pairwise.nil
  · rw [h]
    exact fun y hy => absurd hy List.not_mem_nil

theorem DeviceOrdered.loadBlob (h : DeviceOrdered s) {b : DmBlob} (hb : BlobOrdered b) :
    DeviceOrdered (loadBlob s b) :=
  ⟨hb.loadBlob s, h.scratch⟩

theorem RowsOrdered.push (h : RowsOrdered s) {entry : DmEntry} (hseq : entry.seq = s.nextSeq)
    (hrows : s'.rows = retainedRows s ++ [entry]) (hnext : s'.nextSeq = s.nextSeq + 1) :
    RowsOrdered s' := by
  have hsub := retainedRows_sublist s
  refine ⟨?_, ?_⟩
  · rw [hrows]
    refine (h.ascending.sublist hsub).snoc fun y hy => ?_
    rw [hseq]
    exact h.below y (hsub.subset hy)
  · rw [hrows, hnext]
    refine forall_mem_snoc (fun y hy => ?_) ?_
    · exact (h.below y (hsub.subset hy)).trans (Nat.lt_succ_self _)
    · rw [hseq]
      exact Nat.lt_succ_self _

theorem RowsOrdered.replace (h : RowsOrdered s) {pre post : List DmEntry} {e r : DmEntry}
    (hrows : s.rows = pre ++ e :: post) (hrows' : s'.rows = pre ++ r :: post)
    (hseq : r.seq = e.seq) (hnext : s'.nextSeq = s.nextSeq) : RowsOrdered s' := by
  have hold : ∀ x ∈ pre ++ e :: post, x.seq < s'.nextSeq := by
    rw [← hrows, hnext]
    exact h.below
  refine ⟨h.ascending.of_keys ?_, ?_⟩
  · rw [hrows, hrows']
    simp only [List.map_append, List.map_cons, hseq]
  · rw [hrows']
    refine forall_mem_replace hold ?_
    rw [hseq]
    exact hold e (List.mem_append_cons_self)

theorem DeviceOrdered.mutated (h : DeviceOrdered s) {op : DmOp} (hm : Mutated s op s') :
    DeviceOrdered s' := by
  cases hm with
  | refused => exact h
  | preview a nowMs random check => exact ⟨h.rows.of_same rfl rfl, h.scratch⟩
  | inserted a nowMs random entry ready row =>
    exact ⟨h.rows.push row.seq (rows_insertRow s entry) rfl, h.scratch⟩
  | rewritten op k row pending used update other dispatched =>
    obtain ⟨pre, post, hrows, hrows'⟩ :=
      rows_updateRow { s with ackPersistencePending := pending } (fun _ => row) used
    exact ⟨h.rows.replace hrows hrows' update.seq rfl, h.scratch⟩

theorem RowsOrdered.normalizeWith (h : RowsOrdered s) (interrupted : DmEntry → Bool)
    (settle : DmEntry → DmEntry) (hseq : ∀ e, (settle e).seq = e.seq) :
    RowsOrdered (normalizeWith interrupted settle s).1 := by
  have hkeys : ∀ e : DmEntry, (if interrupted e then settle e else e).seq = e.seq := by
    intro e
    split_ifs
    · exact hseq e
    · rfl
  have hnext : (Dm.normalizeWith interrupted settle s).1.nextSeq = s.nextSeq := by
    unfold Dm.normalizeWith
    split_ifs <;> rfl
  refine ⟨?_, ?_⟩
  · rw [rows_normalizeWith]
    exact List.pairwise_map.mpr (h.ascending.imp fun hab => by rwa [hkeys, hkeys])
  · rw [rows_normalizeWith, hnext]
    intro x hx
    obtain ⟨e, he, rfl⟩ := List.mem_map.mp hx
    rw [hkeys]
    exact h.below e he

theorem RowsOrdered.normalizeInterrupted (h : RowsOrdered s) :
    RowsOrdered (normalizeInterrupted s) :=
  (h.normalizeWith ackInterrupted settleInterruptedAck fun _ => rfl).normalizeWith
    deliveryInterrupted settleInterruptedDelivery fun _ => rfl

section Merges

variable {primary : DmBlob}

theorem DeviceOrdered.mergeSameEpoch (h : DeviceOrdered s) (hvalid : BlobValid primary) :
    DeviceOrdered (mergeSameEpoch s primary).store := by
  unfold Dm.mergeSameEpoch
  cases hm : mergeCandidates s primary with
  | error ret => exact h
  | ok acc =>
    obtain ⟨hinv, -⟩ := mergeCandidates_induct h.rows hvalid (fun _ _ => True) trivial
      (fun _ _ _ _ _ _ _ _ _ _ => trivial) hm
    have hsub : (keptRows acc).Sublist (sortByKey DmEntry.seq acc.merged) := keepLast_sublist _ _
    have hmerged : RowsOrdered (mergedStore s primary acc) := by
      refine ⟨?_, ?_⟩
      · rw [rows_mergedStore]
        exact (ascending_sortByKey hinv.nodup).sublist hsub
      · rw [rows_mergedStore]
        intro r hr
        have hmem : r ∈ acc.merged := (mem_sortByKey _ _).mp (hsub.subset hr)
        exact (hinv.below r hmem).trans_le (le_nextSeqOver acc.nextSeq (keptRows acc))
    exact ⟨hmerged.of_same rfl rfl, hmerged.fillBlob⟩

theorem OverlayStep.ordered {acc acc' : OverlayAcc} {e : DmEntry} (hstep : OverlayStep acc e acc')
    (h : DeviceOrdered acc.store) : DeviceOrdered acc'.store := by
  cases hstep with
  | pair k _ hused =>
    obtain ⟨pre, post, hrows, hrows'⟩ := acc.store.entries.toRing.toList_modify
      (fun _ => mergeMatchedRow (acc.store.entries.slots k) e true) hused
    exact ⟨h.rows.replace hrows hrows' (mergeMatchedRow_seq _ _ _) rfl, h.scratch⟩
  | skip => exact h
  | push =>
    exact ⟨h.rows.push (DmEntry.withSeq_seq e acc.store.nextSeq)
      (toList_push acc.store (e.withSeq acc.store.nextSeq)) rfl, h.scratch⟩

theorem DeviceOrdered.mergePrimary (h : DeviceOrdered s) (hvalid : BlobValid primary) :
    DeviceOrdered (mergePrimary s primary).store :=
  mergePrimary_induct h (h.mergeSameEpoch hvalid)
    (mergeOverlay_induct (h.loadBlob h.rows.fillBlob) (h.loadBlob hvalid.ordered)
      (fun _ _ _ _ hacc hstep => hstep.ordered hacc)
      fun _ _ _ _ hacc => ⟨hacc.rows.of_same rfl rfl, hacc.scratch⟩)

theorem DeviceOrdered.reconcileLocked (h : DeviceOrdered s) (stored : StoredBlob)
    (generationMatches : Bool) :
    DeviceOrdered (reconcileLocked s stored generationMatches).1 := by
  have hmerged := h.mergePrimary ((blobIsValid_iff _).mp stored.valid)
  have hreload : RowsOrdered (Dm.loadBlob { (Dm.mergePrimary s stored.blob).store with
      volatileEntry := s.volatileEntry } (Dm.fillBlob s)) := h.rows.fillBlob.loadBlob _
  have hkept : RowsOrdered
      { (Dm.mergePrimary s stored.blob).store with volatileEntry := s.volatileEntry } :=
    hmerged.rows.of_same rfl rfl
  unfold Dm.reconcileLocked
  dsimp only
  split_ifs
  · exact ⟨hkept, hmerged.scratch⟩
  · exact ⟨hreload.of_same rfl rfl, hmerged.scratch⟩
  · exact ⟨hkept.of_same rfl rfl, hkept.fillBlob⟩

end Merges

theorem initStore_ordered (hscratch : BlobOrdered s.nvsBlobScratch) (r : InitReads) :
    DeviceOrdered (initStore s r).1 := by
  have hreset : DeviceOrdered (resetStore s r.enabled r.generation) :=
    ⟨rowsOrdered_of_empty rfl, hscratch⟩
  have hload : DeviceOrdered (initLoad s r) := by
    unfold initLoad
    cases hnvs : r.nvs with
    | ok nvs =>
      have hblob := ((blobIsValid_iff _).mp nvs.valid).ordered
      have hloaded := hblob.loadBlob (resetStore s r.enabled r.generation)
      exact ⟨hloaded.of_same rfl rfl, hblob⟩
    | error ret =>
      cases hsd : r.sdResult with
      | ok sd =>
        have hblob := ((blobIsValid_iff _).mp sd.valid).ordered
        have hloaded := hblob.loadBlob (resetStore s r.enabled r.generation)
        exact ⟨hloaded.of_same rfl rfl, hscratch⟩
      | error ret => exact ⟨hreset.rows.of_same rfl rfl, hscratch⟩
  have hmerge : DeviceOrdered (initMerge (initLoad s r) r).1 := by
    unfold initMerge
    cases r.nvs with
    | error ret => exact hload
    | ok nvs =>
      cases r.sdResult with
      | error ret => exact hload
      | ok sd =>
        have hmerged := hload.mergePrimary ((blobIsValid_iff _).mp sd.valid)
        dsimp only
        split_ifs
        · exact hmerged.loadBlob hmerged.scratch
        · exact ⟨hmerged.rows.of_same rfl rfl, hmerged.scratch⟩
        · exact ⟨hmerged.rows.of_same rfl rfl, hmerged.scratch⟩
  have hrollback : DeviceOrdered (initRollback (initMerge (initLoad s r) r).1 r) := by
    unfold initRollback
    split_ifs
    · exact hmerge
    · cases r.nvs with
      | ok nvs =>
        have hloaded := hmerge.scratch.loadBlob (initMerge (initLoad s r) r).1
        exact ⟨hloaded.of_same rfl rfl, hmerge.scratch⟩
      | error ret => exact ⟨rowsOrdered_of_empty rfl, hmerge.scratch⟩
  have hscratchKept : ∀ (interrupted : DmEntry → Bool) (settle : DmEntry → DmEntry) (t : DmStore),
      (normalizeWith interrupted settle t).1.nvsBlobScratch = t.nvsBlobScratch := by
    intro interrupted settle t
    unfold normalizeWith
    split_ifs <;> rfl
  refine ⟨hrollback.rows.normalizeInterrupted.of_same rfl rfl, ?_⟩
  change BlobOrdered (normalizeInterrupted
    (initRollback (initMerge (initLoad s r) r).1 r)).nvsBlobScratch
  rw [normalizeInterrupted, normalizeInterruptedDelivery, hscratchKept, normalizeInterruptedAck,
    hscratchKept]
  exact hrollback.scratch

theorem beginPersist_same (s : DmStore) (sdPrimaryRequired : Bool) (generation attemptMs : Nat)
    (force : Bool) :
    (beginPersist s sdPrimaryRequired generation attemptMs force).store =
      (persistBegin s sdPrimaryRequired generation attemptMs force).1 := by
  unfold beginPersist
  cases persistBegin s sdPrimaryRequired generation attemptMs force with
  | mk store start =>
    cases start with
    | finished ret => rfl
    | proceed reconcileAttempt => cases reconcileAttempt <;> rfl

/-- A step of a persist pass touches neither the history nor the scratch blob. -/
structure SameRows (s s' : DmStore) : Prop where
  history : SameHistory s s'
  scratch : s'.nvsBlobScratch = s.nvsBlobScratch

theorem DeviceOrdered.of_same (h : DeviceOrdered s) (hs : SameRows s s') : DeviceOrdered s' := by
  refine ⟨h.rows.of_same hs.history.rows hs.history.nextSeq, ?_⟩
  rw [hs.scratch]
  exact h.scratch

theorem sameRows_of_rest (h : s'.passRest = s.passRest) : SameRows s s' :=
  ⟨sameHistory_of_rest h, (congrArg DmStore.nvsBlobScratch h :)⟩

theorem DeviceOrdered.reconcileRead (h : DeviceOrdered s) (sdPrimaryRequired : Bool)
    (read : ReconcileRead) : DeviceOrdered (reconcileRead s sdPrimaryRequired read).store := by
  cases read with
  | unfinished => exact h
  | failed error => exact ⟨h.rows.of_same rfl rfl, h.scratch⟩
  | notFound => exact ⟨h.rows.of_same rfl rfl, h.scratch⟩
  | found stored generationMatches =>
    have hlocked := h.reconcileLocked stored generationMatches
    unfold Dm.reconcileRead
    dsimp only
    split_ifs
    · exact hlocked
    · exact ⟨hlocked.rows.of_same rfl rfl, hlocked.scratch⟩

theorem DeviceOrdered.step {d : DmDevice} (h : DeviceOrdered d.store) (act : DmAct) :
    DeviceOrdered (stepDevice d act).store := by
  have hacted := stepDevice_acted d act
  generalize stepDevice d act = d' at hacted ⊢
  cases hacted with
  | ignored => exact h
  | loaded reads idle unloaded => exact initStore_ordered h.scratch reads
  | called op call =>
    rcases stepStore_call call d.store with ⟨lineage, rfl⟩ | hm
    · exact ⟨rowsOrdered_of_empty rfl, h.scratch⟩
    · exact h.mutated hm
  | began sdPrimaryRequired generation attemptMs force idle =>
    rw [beginPersist_same]
    exact h.of_same (sameRows_of_rest (persistBegin_rest d.store _ _ _ _))
  | reconciled sdPrimaryRequired read phase => exact h.reconcileRead sdPrimaryRequired read
  | collected sdPrimaryRequired phase taken => exact h
  | finished sdPrimaryRequired snapshot sdRet nvsRet phase =>
    exact h.of_same (sameRows_of_rest (persistFinish_rest d.store snapshot sdPrimaryRequired _ _))
  | fallback sdPrimaryRequired snapshot sdRet nvsRet phase =>
    exact h.of_same (sameRows_of_rest (updateNvsResult_rest d.store _ _ _))
  | abandoned sdPrimaryRequired snapshot phase => exact h

theorem deviceOrdered_powerUp : DeviceOrdered powerUp.store := by
  refine ⟨rowsOrdered_of_empty rfl, ?_⟩
  have hrows : emptyBlob.rows = [] := rfl
  refine ⟨?_, ?_⟩
  · change Ascending DmEntry.seq emptyBlob.rows
    rw [hrows]
    exact List.Pairwise.nil
  · change ∀ e ∈ emptyBlob.rows, e.seq < emptyBlob.nextSeq
    rw [hrows]
    exact fun e he => absurd he List.not_mem_nil

end Sigui.Dm

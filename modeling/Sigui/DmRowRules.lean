import Sigui.DmWritableRuns

/-! A property of rows that survives a new sequence and a merge with the row's other copy holds
of everything a merge, a reconcile or init puts into the ring. -/
namespace Sigui.Dm

structure MergeClosed (P : DmEntry → Prop) : Prop where
  withSeq : ∀ e n, P e → P (e.withSeq n)
  matched : ∀ dest source newer, P dest → P source →
    deliverySessionIdConflicts dest source = false → entryIdentityEqual dest source = true →
    P (mergeMatchedRow dest source newer)

theorem mergeClosed_sound : MergeClosed RowSound where
  withSeq := fun _ n h => h.withSeq n
  matched := fun _ _ newer hd hs _ hpair => mergeMatchedRow_sound newer hd hs hpair

section Forall

variable {P Q : DmEntry → Prop} {s : DmStore} {primary : DmBlob}

theorem forall_mem_replace {pre post : List DmEntry} {e r : DmEntry}
    (h : ∀ x ∈ pre ++ e :: post, P x) (hr : P r) : ∀ x ∈ pre ++ r :: post, P x := by
  intro x hx
  rw [List.mem_append, List.mem_cons] at hx
  rcases hx with hx | rfl | hx
  · exact h x (List.mem_append_left _ hx)
  · exact hr
  · exact h x (List.mem_append_right _ (List.mem_cons_of_mem _ hx))

theorem forall_mem_snoc {rows : List DmEntry} {r : DmEntry} (h : ∀ x ∈ rows, P x) (hr : P r) :
    ∀ x ∈ rows ++ [r], P x := by
  intro x hx
  rcases List.mem_append.mp hx with hx | hx
  · exact h x hx
  · rw [List.mem_singleton.mp hx]
    exact hr

theorem MergeStep.forall (hP : MergeClosed P) {newer : Bool} {acc acc' : MergeAcc} {u : DmEntry}
    (hstep : MergeStep s newer acc u acc') (hacc : ∀ r ∈ acc.merged, P r) (hu : P u) :
    ∀ r ∈ acc'.merged, P r := by
  cases hstep with
  | pair before row after hsplit _ hapart hfound =>
    rw [hsplit] at hacc
    exact forall_mem_replace hacc (hP.matched row u newer
      (hacc row (List.mem_append_cons_self)) hu hapart hfound)
  | enter => exact forall_mem_snoc hacc hu
  | liftLive before current after _ hsplit =>
    rw [hsplit] at hacc
    have hcurrent := hacc current (List.mem_append_cons_self)
    exact forall_mem_snoc (forall_mem_replace hacc hu) (hP.withSeq current _ hcurrent)
  | resequence => exact forall_mem_snoc hacc (hP.withSeq u _ hu)

theorem keptRows_forall {acc : MergeAcc} (h : ∀ r ∈ acc.merged, P r) : ∀ r ∈ keptRows acc, P r :=
  fun r hr => h r ((mem_sortByKey _ _).mp ((keepLast_sublist _ _).subset hr))

/-- The rows of the store satisfy `P`, and the rows its scratch blob holds satisfy `Q`. -/
def AllRows (P Q : DmEntry → Prop) (s : DmStore) : Prop :=
  (∀ e ∈ s.rows, P e) ∧ ∀ e ∈ s.nvsBlobScratch.rows, Q e

theorem fillBlob_forall (hPQ : ∀ e, P e → Q e) (h : ∀ e ∈ s.rows, P e) :
    ∀ e ∈ (fillBlob s).rows, Q e := by
  rw [rows_fillBlob]
  exact fun e he => hPQ e (h e he)

theorem mergeSameEpoch_forall (hP : MergeClosed P) (hPQ : ∀ e, P e → Q e)
    (hs : AllRows P Q s)
    (hp : ∀ u ∈ primary.rows, P u) : AllRows P Q (mergeSameEpoch s primary).store := by
  unfold mergeSameEpoch
  cases hm : mergeCandidates s primary with
  | error ret => exact hs
  | ok acc =>
    have hmerged : ∀ r ∈ acc.merged, P r := @mergeCandidates_keeps s primary
      (fun rows => ∀ r ∈ rows, P r) hs.1 (fun _ u _ _ hu hacc hstep => hstep.forall hP hacc (hp u hu))
      acc hm
    have hrows : ∀ r ∈ (mergedStore s primary acc).rows, P r := by
      rw [rows_mergedStore]
      exact keptRows_forall hmerged
    exact ⟨hrows, fillBlob_forall hPQ hrows⟩

theorem OverlayStep.forall (hP : MergeClosed P) {acc acc' : OverlayAcc} {e : DmEntry}
    (hstep : OverlayStep acc e acc') (hacc : AllRows P Q acc.store) (he : P e) :
    AllRows P Q acc'.store := by
  cases hstep with
  | pair k _ hused hapart hpair =>
    obtain ⟨pre, post, hrows, hrows'⟩ := acc.store.entries.toRing.toList_modify
      (fun _ => mergeMatchedRow (acc.store.entries.slots k) e true) hused
    have hold : ∀ x ∈ pre ++ acc.store.entries.slots k :: post, P x := hrows ▸ hacc.1
    refine ⟨fun r hr => ?_, hacc.2⟩
    replace hr : r ∈ pre ++ mergeMatchedRow (acc.store.entries.slots k) e true :: post := hrows' ▸ hr
    exact forall_mem_replace hold (hP.matched _ e true
      (hold _ (List.mem_append_cons_self)) he hapart hpair) r hr
  | skip => exact hacc
  | push =>
    have hpush : ∀ r ∈ (acc.store.entries.push (e.withSeq acc.store.nextSeq)).toList, P r := by
      rw [toList_push]
      exact forall_mem_snoc (fun r hr => hacc.1 r ((retainedRows_sublist acc.store).subset hr))
        (hP.withSeq e _ he)
    exact ⟨hpush, hacc.2⟩

theorem mem_overlayEntries {e : DmEntry} (h : e ∈ overlayEntries s) : e ∈ s.rows :=
  (List.mem_filter.mp ((mem_sortByKey _ _).mp h)).1

theorem loadBlob_forall (hscratch : ∀ e ∈ s.nvsBlobScratch.rows, Q e)
    (hp : ∀ u ∈ primary.rows, P u) : AllRows P Q (loadBlob s primary) :=
  ⟨by rw [rows_loadBlob]; exact hp, hscratch⟩

theorem mergeOverlay_forall (hP : MergeClosed P) (hs : AllRows P Q s)
    (hp : ∀ u ∈ primary.rows, P u) : AllRows P Q (mergeOverlay s primary).store := by
  exact mergeOverlay_induct (loadBlob_forall hs.2 (fillBlob_forall (fun _ h => h) hs.1))
    (loadBlob_forall hs.2 hp)
    (fun _ e _ he hacc hstep => hstep.forall hP hacc (hs.1 e (mem_overlayEntries he)))
    fun _ _ _ _ hacc => hacc

theorem mergePrimary_forall (hP : MergeClosed P) (hPQ : ∀ e, P e → Q e)
    (hs : AllRows P Q s)
    (hp : ∀ u ∈ primary.rows, P u) : AllRows P Q (mergePrimary s primary).store := by
  exact mergePrimary_induct hs (mergeSameEpoch_forall hP hPQ hs hp) (mergeOverlay_forall hP hs hp)

theorem reconcileLocked_forall (hP : MergeClosed P) (hPQ : ∀ e, P e → Q e)
    (hs : AllRows P Q s) {stored : StoredBlob}
    (hp : ∀ u ∈ stored.blob.rows, P u) (generationMatches : Bool) :
    AllRows P Q (reconcileLocked s stored generationMatches).1 := by
  have hmerged := mergePrimary_forall hP hPQ hs hp
  unfold reconcileLocked
  dsimp only
  split_ifs
  · exact hmerged
  · exact loadBlob_forall hmerged.2 (fillBlob_forall (fun _ h => h) hs.1)
  · exact ⟨hmerged.1, fillBlob_forall hPQ hmerged.1⟩

theorem normalizeWith_forall {interrupted : DmEntry → Bool} {settle : DmEntry → DmEntry}
    (hs : ∀ e, P e → interrupted e = true → Q (settle e))
    (hkeep : ∀ e, P e → interrupted e = false → Q e) (h : ∀ e ∈ s.rows, P e) :
    ∀ e ∈ (normalizeWith interrupted settle s).1.rows, Q e := by
  rw [rows_normalizeWith]
  intro x hx
  obtain ⟨e, he, rfl⟩ := List.mem_map.mp hx
  cases hi : interrupted e with
  | true => exact hs e (h e he) hi
  | false => exact hkeep e (h e he) hi

end Forall

section Init

variable {P : DmEntry → Prop}

def blobsRead (r : InitReads) : List DmBlob :=
  (match r.nvs with
    | .ok nvs => [nvs.blob]
    | .error _ => []) ++
  match r.sdResult with
    | .ok sd => [sd.blob]
    | .error _ => []

theorem initLoad_forall {s : DmStore} {r : InitReads} {nvs : StoredBlob} (hnvs : r.nvs = .ok nvs)
    (h : ∀ e ∈ nvs.blob.rows, P e) : AllRows P P (initLoad s r) := by
  unfold initLoad
  rw [hnvs]
  cases r.sdResult <;>
    exact ⟨fun e he => (loadBlob_forall (P := P) (Q := fun _ => True)
      (s := resetStore s r.enabled r.generation) (fun _ _ => trivial) h).1 e he, h⟩

theorem initRollback_forall (hP : MergeClosed P) {s : DmStore} {r : InitReads}
    (h : ∀ b ∈ blobsRead r, ∀ e ∈ b.rows, P e) :
    ∀ e ∈ (initRollback (initMerge (initLoad s r) r).1 r).rows, P e := by
  cases hnvs : r.nvs with
  | ok nvs =>
    have hload := initLoad_forall (s := s) hnvs (h nvs.blob (by simp [blobsRead, hnvs]))
    have hmerge : AllRows P P (initMerge (initLoad s r) r).1 := by
      unfold initMerge
      rw [hnvs]
      cases hsd : r.sdResult with
      | error ret => exact hload
      | ok sd =>
        have hp : ∀ e ∈ sd.blob.rows, P e := h sd.blob (by simp [blobsRead, hsd])
        have hmerged := mergePrimary_forall hP (fun _ h => h) hload hp
        dsimp only
        split_ifs
        · exact loadBlob_forall hmerged.2 hmerged.2
        · exact hmerged
        · exact hmerged
    unfold initRollback
    rw [hnvs]
    split_ifs
    · exact hmerge.1
    · exact (loadBlob_forall hmerge.2 hmerge.2).1
  | error ret =>
    have hmerge : (initMerge (initLoad s r) r).1 = initLoad s r := by
      unfold initMerge
      rw [hnvs]
    rw [hmerge]
    unfold initRollback
    rw [hnvs]
    split_ifs
    · unfold initLoad
      rw [hnvs]
      cases hsd : r.sdResult with
      | ok sd =>
        have hp : ∀ e ∈ sd.blob.rows, P e := h sd.blob (by simp [blobsRead, hsd])
        exact (loadBlob_forall (Q := fun _ => True) (s := resetStore s r.enabled r.generation)
          (fun _ _ => trivial) hp).1
      | error ret => exact fun e he => absurd he List.not_mem_nil
    · exact fun e he => absurd he List.not_mem_nil

end Init

end Sigui.Dm

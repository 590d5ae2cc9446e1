import Sigui.MessageAbsorb

/-! The accounts of the message store over whole runs: what has been dropped and what is left add
up to what was written, and every row appended since the last complete persist is still in the
ring. -/
namespace Sigui.Message

section Accounts

structure Accounts (h : History) : Prop where
  counted : h.droppedOldest + h.rows.length = h.totalWritten
  fits : h.totalWritten ≤ uint32Max

/-- The mutations since the last complete persist are rows of the ring. -/
structure WindowOk (h : History) (w : Window) : Prop where
  boot : w.bootNextSeq ≤ h.nextSeq
  quiet : w.mutatedSinceInit = false → w.mutationsSinceInit = 0
  retained : w.mutationsSinceInit ≤ h.rows.countP fun e => decide (w.bootNextSeq ≤ e.seq)

variable {h : History} {w : Window} {b : Blob}

theorem Accounts.empty : Accounts .empty := ⟨rfl, Nat.zero_le _⟩

theorem Accounts.load (hb : BlobOk b) (hcounted : Counted b) (hmax : b.totalWritten ≤ uint32Max) :
    Accounts (loadBlob b) := by
  refine ⟨?_, hmax⟩
  rw [loadBlob_rows hb, hb.header.length_rows]
  exact hcounted

theorem WindowOk.closed (h : History) : WindowOk h ⟨false, h.nextSeq, 0⟩ :=
  ⟨le_refl _, fun _ => rfl, Nat.zero_le _⟩

theorem WindowOk.few (hw : WindowOk h w) : w.mutationsSinceInit ≤ messageStoreCapacity :=
  hw.retained.trans (List.countP_le_length.trans h.rows_le)

theorem Accounts.append (ha : Accounts h) (hroom : h.full = false) (e : Entry) :
    Accounts (h.append e) := by
  simp only [History.full, Bool.or_eq_false_iff, decide_eq_false_iff_not] at hroom
  obtain ⟨⟨_, htotal⟩, _⟩ := hroom
  have hcounted := ha.counted
  have hmax := ha.fits
  have hle := h.rows_le
  refine ⟨?_, ?_⟩
  · change (if h.rows.length < messageStoreCapacity then h.droppedOldest else h.droppedOldest + 1) +
      (keepLast messageStoreCapacity (h.rows ++ [e])).length = h.totalWritten + 1
    rw [length_keepLast, List.length_append, List.length_singleton]
    split_ifs with hspace
    · rw [Nat.min_eq_right hspace]
      omega
    · rw [Nat.min_eq_left (by omega)]
      omega
  · change h.totalWritten + 1 ≤ uint32Max
    omega

theorem WindowOk.append (hw : WindowOk h w) (hok : HistoryOk h) {e : Entry}
    (hseq : e.seq = h.nextSeq) (hroom : w.mutationsSinceInit < messageStoreCapacity) :
    WindowOk (h.append e) ⟨true, w.bootNextSeq, w.mutationsSinceInit + 1⟩ := by
  refine ⟨hw.boot.trans (Nat.le_succ _), fun hquiet => by simp at hquiet, ?_⟩
  have hall : Ascending Entry.seq (h.rows ++ [e]) :=
    hok.rows.ascending.snoc fun a ha => (hok.rows.below a ha).trans_eq hseq.symm
  have hnew : [e].countP (fun x => decide (w.bootNextSeq ≤ x.seq)) = 1 := by
    rw [List.countP_singleton, if_pos (decide_eq_true (by rw [hseq]; exact hw.boot))]
  change w.mutationsSinceInit + 1 ≤ (keepLast messageStoreCapacity (h.rows ++ [e])).countP _
  rw [hall.countP_keepLast, List.countP_append, hnew]
  exact Nat.le_min.mpr ⟨hroom, Nat.add_le_add_right hw.retained 1⟩

end Accounts

section Foreign

variable {s : Store} {b : Blob}

theorem saturatingAdd_le {total more : Nat} (h : more ≤ uint32Max) :
    saturatingAdd total more ≤ uint32Max := by
  unfold saturatingAdd
  split_ifs <;> omega

theorem countP_keepers (hrows : Ascending Entry.seq s.history.rows) (bound : Nat) :
    s.history.rows.countP (fun e => decide (bound ≤ e.seq)) ≤
      (keepers s.window s.history.rows b.rows).countP (fun e => decide (bound ≤ e.seq)) +
        (losers s.window s.history.rows b.rows).length := by
  have hlost : s.history.rows.countP (fun r => decide (r ∈ losers s.window s.history.rows b.rows)) ≤
      (losers s.window s.history.rows b.rows).length := by
    rw [List.countP_eq_length_filter]
    exact (List.subperm_of_subset (hrows.nodup.filter _) fun r hr =>
      of_decide_eq_true (List.mem_filter.mp hr).2).length_le
  have hsplit := List.countP_eq_countP_filter_add s.history.rows
    (fun e => decide (bound ≤ e.seq)) fun r => decide (r ∉ losers s.window s.history.rows b.rows)
  have hrest : (s.history.rows.filter fun r =>
      !decide (r ∉ losers s.window s.history.rows b.rows)).countP
        (fun e => decide (bound ≤ e.seq)) ≤
      s.history.rows.countP fun r => decide (r ∈ losers s.window s.history.rows b.rows) := by
    rw [List.countP_filter]
    refine List.countP_mono_left fun r _ hr => ?_
    simpa using (Bool.and_eq_true_iff.mp hr).2
  rw [keepers, List.countP_append]
  omega

theorem WindowOk.merge (hw : WindowOk s.history s.window) (hok : HistoryOk s.history)
    (hb : BlobOk b) {acc : MergeAcc} (hmerge : mergeRows s.history s.window b = .ok acc) :
    WindowOk (mergedHistory s.history s.window b acc) s.window := by
  have hm := mergeRows_merged hok.rows hb.rows hmerge
  have hnext : s.history.nextSeq ≤ acc.nextSeq := by
    have := hm.next
    omega
  refine ⟨hw.boot.trans hnext, hw.quiet, ?_⟩
  have hfresh : (renumber (max s.history.nextSeq b.nextSeq)
      (losers s.window s.history.rows b.rows)).countP
        (fun e => decide (s.window.bootNextSeq ≤ e.seq)) =
      (losers s.window s.history.rows b.rows).length := by
    rw [List.countP_eq_length.mpr, length_renumber]
    intro e he
    have hlow := (mem_renumber he).1
    have hboot := hw.boot
    exact decide_eq_true (by omega)
  have hkept := countP_keepers (b := b) hok.rows.ascending s.window.bootNextSeq
  have hretained := hw.retained
  have hfew := hw.few
  change _ ≤ (keptRows acc).countP _
  rw [keptRows_eq hok.rows hb.rows hm]
  change _ ≤ (keepLast messageStoreCapacity (mergedRows s.history s.window b)).countP _
  rw [(mergedRows_ascending hok.rows hb.rows).countP_keepLast, mergedRows, List.countP_append,
    (sortByKey_perm _ _).countP_eq, hfresh]
  exact Nat.le_min.mpr ⟨hfew, hretained.trans hkept⟩

theorem mergeRows_additional {h : History} {w : Window}
    (hmutations : w.mutationsSinceInit ≤ messageStoreCapacity) {acc : MergeAcc}
    (hmerge : mergeRows h w b = .ok acc) : acc.additionalCount ≤ uint32Max := by
  have hstart : additionalLiveCount h w b ≤ uint32Max := by
    unfold additionalLiveCount
    split_ifs
    · dsimp only
      have hle := (List.countP_le_length (p := fun e => !b.rows.any (entriesEqual e))
        (l := h.rows.filter w.isLive)).trans ((List.length_filter_le _ _).trans h.rows_le)
      have hsmall : messageStoreCapacity + messageStoreCapacity ≤ uint32Max := by decide
      omega
    · exact Nat.zero_le _
  refine foldlM_ok_invariant (fun _ acc => acc.additionalCount ≤ uint32Max) hstart ?_ hmerge
  intro done k post acc acc' _ hle hstep
  unfold mergeIncoming at hstep
  split at hstep
  · cases hstep
    exact hle
  · split_ifs at hstep
    · cases hstep
      exact hle
    · cases hstep
      exact hle
    · cases hstep
      exact Nat.le_of_lt_succ (Nat.mod_lt _ (Nat.succ_pos _))

theorem Accounts.merge {h : History} {w : Window}
    (hmutations : w.mutationsSinceInit ≤ messageStoreCapacity) {acc : MergeAcc}
    (hmerge : mergeRows h w b = .ok acc) : Accounts (mergedHistory h w b acc) := by
  have hadd : ∀ total, saturatingAdd total acc.additionalCount ≤ uint32Max := fun total =>
    saturatingAdd_le (mergeRows_additional hmutations hmerge)
  have hrows := length_keptRows_le acc
  have hsmall : messageStoreCapacity ≤ uint32Max := by decide
  refine ⟨Nat.sub_add_cancel (le_max_right _ _), ?_⟩
  exact max_le (hadd _) (hrows.trans hsmall)

theorem adoptPrimary_accounts (hw : WindowOk s.history s.window) (ha : Accounts s.history)
    (hboot : s.window.bootNextSeq ≤ b.nextSeq) :
    Accounts (adoptPrimary s b).store.history ∧
      WindowOk (adoptPrimary s b).store.history s.window := by
  unfold adoptPrimary
  split
  · change Accounts (loadBlob (fillBlob s.history)) ∧ WindowOk (loadBlob (fillBlob s.history)) _
    rw [loadBlob_fillBlob]
    exact ⟨ha, hw⟩
  · rename_i h' hreplay
    obtain ⟨hrows, hnext, _⟩ := replay_rows hreplay
    have hoverlay : (overlayRows s).length =
        s.history.rows.countP fun e => decide (s.window.bootNextSeq ≤ e.seq) :=
      List.countP_eq_length_filter.symm
    have hlength : (renumber (loadBlob b).nextSeq (overlayRows s)).length ≤
        messageStoreCapacity := by
      rw [length_renumber, hoverlay]
      exact List.countP_le_length.trans s.history.rows_le
    have hsmall : messageStoreCapacity ≤ uint32Max := by decide
    refine ⟨⟨Nat.sub_add_cancel (le_max_right _ _), ?_⟩, ⟨?_, hw.quiet, ?_⟩⟩
    · exact max_le (saturatingAdd_le (hw.few.trans hsmall)) (h'.rows_le.trans hsmall)
    · change s.window.bootNextSeq ≤ h'.nextSeq
      rw [hnext]
      exact hboot.trans (Nat.le_add_right _ _)
    · change _ ≤ h'.rows.countP _
      have hfresh : (renumber (loadBlob b).nextSeq (overlayRows s)).countP
          (fun e => decide (s.window.bootNextSeq ≤ e.seq)) = (overlayRows s).length := by
        rw [List.countP_eq_length.mpr, length_renumber]
        exact fun e he => decide_eq_true (hboot.trans (mem_renumber he).1)
      rw [hrows, keepLast_append_of_length_le _ hlength, List.countP_append, hfresh, hoverlay]
      exact hw.retained.trans (Nat.le_add_left _ _)

theorem mergeBlobIntoRam_accounts (hw : WindowOk s.history s.window) (ha : Accounts s.history)
    (hok : HistoryOk s.history) (hb : BlobOk b) :
    Accounts (mergeBlobIntoRam s b).store.history ∧
      WindowOk (mergeBlobIntoRam s b).store.history s.window := by
  unfold mergeBlobIntoRam
  split_ifs
  · exact ⟨ha, hw⟩
  · exact ⟨ha, hw⟩
  · split
    · exact ⟨ha, hw⟩
    · rename_i acc hmerge
      have hmerged := Accounts.merge hw.few hmerge
      have hwindow := hw.merge hok hb hmerge
      exact ⟨⟨hmerged.counted, hmerged.fits⟩, ⟨hwindow.boot, hwindow.quiet, hwindow.retained⟩⟩

theorem mergePrimary_accounts (hw : WindowOk s.history s.window) (ha : Accounts s.history)
    (hok : HistoryOk s.history) (hb : BlobOk b) (hmax : b.totalWritten ≤ uint32Max)
    (hreplaced : replacesHistory s b = true → s.window.bootNextSeq ≤ b.nextSeq ∧ Counted b) :
    Accounts (mergePrimary s b).store.history ∧
      WindowOk (mergePrimary s b).store.history s.window := by
  unfold mergePrimary
  unfold replacesHistory at hreplaced
  split_ifs at hreplaced ⊢ with hlineage hown hepoch hmutated holder
  · exact ⟨ha, hw⟩
  · exact adoptPrimary_accounts hw ha (hreplaced (by simpa using hown)).1
  · exact adoptPrimary_accounts hw ha (hreplaced (decide_eq_true hepoch)).1
  · obtain ⟨hboot, hcounted⟩ := hreplaced (decide_eq_true hepoch)
    have hnone := hw.quiet (by simpa using hmutated)
    refine ⟨Accounts.load hb hcounted hmax, ⟨hboot, hw.quiet, ?_⟩⟩
    rw [hnone]
    exact Nat.zero_le _
  · exact ⟨ha, hw⟩
  · exact mergeBlobIntoRam_accounts hw ha hok hb

theorem mergeBlobIntoRam_window (s : Store) (b : Blob) :
    (mergeBlobIntoRam s b).store.window = s.window := by
  unfold mergeBlobIntoRam
  split_ifs
  · rfl
  · rfl
  · split <;> rfl

theorem mergePrimary_window (s : Store) (b : Blob) :
    (mergePrimary s b).store.window = s.window := by
  have hadopt : (adoptPrimary s b).store.window = s.window := by
    unfold adoptPrimary
    split <;> rfl
  unfold mergePrimary
  split_ifs
  · rfl
  · exact hadopt
  · exact hadopt
  · rfl
  · rfl
  · exact mergeBlobIntoRam_window s b

end Foreign

section Marks

/-- The records of two histories agree; only the content revision may have moved on. -/
structure SameRecord (h h' : History) : Prop where
  rows : h'.rows = h.rows
  next : h'.nextSeq = h.nextSeq
  total : h'.totalWritten = h.totalWritten
  dropped : h'.droppedOldest = h.droppedOldest
  epoch : h'.epoch = h.epoch
  lineage : h'.clearLineage = h.clearLineage

/-- `m` is a history the store has had, and the window tells how long ago. -/
def Mark (h : History) (w : Window) (m : History) : Prop :=
  HistoryOk m ∧ ∃ news, Since m h news ∧
    (news.length ≤ w.mutationsSinceInit ∨ w.bootNextSeq + w.mutationsSinceInit = h.nextSeq)

variable {h h' m : History} {w : Window}

theorem SameRecord.refl (h : History) : SameRecord h h := ⟨rfl, rfl, rfl, rfl, rfl, rfl⟩

theorem Mark.own (hok : HistoryOk h) (w : Window) : Mark h w h :=
  ⟨hok, [], Since.refl h, Or.inl (Nat.zero_le _)⟩

theorem Mark.same (hm : Mark h w m) (hsame : SameRecord h h') : Mark h' w m := by
  obtain ⟨hok, news, hs, hopened⟩ := hm
  refine ⟨hok, news, ⟨hs.numbers, ?_, ?_, ?_, ?_, ?_⟩, ?_⟩
  · rw [hsame.rows, hs.rows]
  · rw [hsame.next, hs.next]
  · rw [hsame.total, hs.total]
  · rw [hsame.epoch, hs.epoch]
  · rw [hsame.lineage, hs.lineage]
  · rwa [hsame.next]

theorem Mark.append (hm : Mark h w m) {e : Entry} (hseq : e.seq = h.nextSeq) :
    Mark (h.append e) ⟨true, w.bootNextSeq, w.mutationsSinceInit + 1⟩ m := by
  obtain ⟨hok, news, hs, hopened⟩ := hm
  refine ⟨hok, news ++ [e], hs.append hseq, hopened.imp (fun hfew => ?_) fun halign => ?_⟩
  · rw [List.length_append, List.length_singleton]
    exact Nat.add_le_add_right hfew 1
  · change w.bootNextSeq + (w.mutationsSinceInit + 1) = h.nextSeq + 1
    omega

theorem Mark.closed (hm : Mark h w m) : Mark h ⟨false, h.nextSeq, 0⟩ m := by
  obtain ⟨hok, news, hs, _⟩ := hm
  exact ⟨hok, news, hs, Or.inr rfl⟩

theorem Mark.absorbs {s : Store} (hm : Mark s.history s.window m) (hok : HistoryOk s.history)
    (ha : Accounts s.history) (hw : WindowOk s.history s.window) : Absorbs s (fillBlob m) := by
  obtain ⟨hmok, news, hs, hopened⟩ := hm
  exact absorbs_since hs hmok hok ⟨hw.retained, hopened⟩ ha.counted ha.fits

end Marks

section Reconcile

variable {s : Store} {b : Blob}

theorem mergeBlobIntoRam_failed (hret : (mergeBlobIntoRam s b).ret ≠ espOk) :
    (mergeBlobIntoRam s b).store.history = s.history := by
  unfold mergeBlobIntoRam at hret ⊢
  split_ifs at hret ⊢
  · rfl
  · rfl
  · split at hret
    · rfl
    · exact absurd rfl hret

theorem adoptPrimary_failed (hret : (adoptPrimary s b).ret ≠ espOk) :
    (adoptPrimary s b).store.history = s.history := by
  unfold adoptPrimary at hret ⊢
  split at hret
  · exact loadBlob_fillBlob s.history
  · exact absurd rfl hret

theorem mergePrimary_failed (hret : (mergePrimary s b).ret ≠ espOk) :
    (mergePrimary s b).store.history = s.history := by
  unfold mergePrimary at hret ⊢
  split_ifs at hret ⊢
  · exact absurd rfl hret
  · exact adoptPrimary_failed hret
  · exact adoptPrimary_failed hret
  · exact absurd rfl hret
  · exact absurd rfl hret
  · exact mergeBlobIntoRam_failed hret

theorem mergeBlobIntoRam_epoch (s : Store) (b : Blob) :
    (mergeBlobIntoRam s b).store.history.epoch = s.history.epoch ∧
      (mergeBlobIntoRam s b).store.history.clearLineage = s.history.clearLineage := by
  unfold mergeBlobIntoRam
  split_ifs
  · exact ⟨rfl, rfl⟩
  · exact ⟨rfl, rfl⟩
  · split <;> exact ⟨rfl, rfl⟩

theorem mergePrimary_same (hok : HistoryOk s.history) (ha : Accounts s.history)
    (hw : WindowOk s.history s.window)
    (hcard : ignoresCard s b = true ∨ ∃ m, Mark s.history s.window m ∧ b = fillBlob m) :
    SameRecord s.history (mergePrimary s b).store.history := by
  rcases hcard with hignored | ⟨m, hm, rfl⟩
  · unfold ignoresCard at hignored
    unfold mergePrimary
    split_ifs at hignored ⊢ with hlineage hepoch hmutated holder
    · exact SameRecord.refl _
    · exact absurd (of_decide_eq_true hignored) (Nat.not_lt.mpr hepoch.le)
    · exact absurd (of_decide_eq_true hignored) (Nat.not_lt.mpr hepoch.le)
    · exact SameRecord.refl _
    · exact absurd (of_decide_eq_true hignored) holder
  · have habsorbs := hm.absorbs hok ha hw
    obtain ⟨_, news, hs, _⟩ := hm
    have hmerge : mergePrimary s (fillBlob m) = mergeBlobIntoRam s (fillBlob m) := by
      have hepoch : (fillBlob m).epoch = s.history.epoch := hs.epoch.symm
      have hlineage : (fillBlob m).clearLineage = s.history.clearLineage := hs.lineage.symm
      unfold mergePrimary
      rw [if_neg (not_not.mpr hlineage), hepoch, if_neg (lt_irrefl _), if_neg (lt_irrefl _)]
    rw [hmerge]
    obtain ⟨hepoch, hlineage⟩ := mergeBlobIntoRam_epoch s (fillBlob m)
    exact ⟨habsorbs.rows, habsorbs.next, habsorbs.total, habsorbs.dropped, hepoch, hlineage⟩

theorem reconcileSdPrimary_window (s : Store) (read : ReconcileRead) :
    (reconcileSdPrimary s read).1.window = s.window := by
  cases read with
  | unfinished => rfl
  | failed error failure => rfl
  | notFound => rfl
  | found stored generationMatches =>
    have hwindow := mergePrimary_window s stored.blob
    simp only [reconcileSdPrimary, reconcileFound]
    split_ifs <;> exact hwindow

theorem reconcileFound_history (s : Store) (stored : StoredBlob) (generationMatches : Bool) :
    (reconcileFound s stored generationMatches).1.history = s.history ∨
      generationMatches = true ∧ (reconcileFound s stored generationMatches).1.history =
        (mergePrimary s stored.blob).store.history := by
  unfold reconcileFound
  dsimp only
  split_ifs with hret hmatches
  · exact Or.inl (mergePrimary_failed hret)
  · exact Or.inl (loadBlob_fillBlob s.history)
  · exact Or.inr ⟨by simpa using hmatches, rfl⟩

end Reconcile

section Init

variable {s : Store} {r : InitReads}

/-- The blob of the NVS copy, or what a merge has left in its place. -/
def ScratchCounted (s : Store) : Prop :=
  BlobOk s.nvsBlobScratch ∧ Counted s.nvsBlobScratch ∧ s.nvsBlobScratch.totalWritten ≤ uint32Max

theorem scratch_fillBlob {h : History} (hok : HistoryOk h) (ha : Accounts h) :
    BlobOk (fillBlob h) ∧ Counted (fillBlob h) ∧ (fillBlob h).totalWritten ≤ uint32Max :=
  ⟨fillBlob_ok hok, ha.counted, ha.fits⟩

theorem mergeBlobIntoRam_counted {b : Blob} (hok : HistoryOk s.history) (hb : BlobOk b)
    (hw : WindowOk s.history s.window) (hscratch : ScratchCounted s) :
    ScratchCounted (mergeBlobIntoRam s b).store := by
  unfold mergeBlobIntoRam
  split_ifs
  · exact hscratch
  · exact hscratch
  · split
    · exact hscratch
    · rename_i acc hmerge
      exact scratch_fillBlob (mergedHistory_ok hok hb hmerge) (Accounts.merge hw.few hmerge)

theorem windowOk_reset {h : History} (hok : HistoryOk h) : WindowOk h ⟨false, 1, 0⟩ :=
  ⟨Nat.pos_of_ne_zero hok.next, fun _ => rfl, Nat.zero_le _⟩

theorem initMerge_counted (hwindow : s.window = ⟨false, 1, 0⟩) {nvs : StoredBlob}
    {selected other : Blob} (hnvs : Counted nvs.blob ∧ nvs.blob.totalWritten ≤ uint32Max)
    (hok : BlobOk selected) (hother : BlobOk other)
    (hselected : Counted selected ∧ selected.totalWritten ≤ uint32Max) {merged : MergeResult}
    (hmerged : merged = mergeBlobIntoRam
      { s with nvsBlobScratch := nvs.blob, history := loadBlob selected } other) {t : Store}
    (ht : t = if merged.ret = espOk then merged.store
      else noteSdReconcileFailure { merged.store with history := loadBlob nvs.blob } merged.ret) :
    Accounts t.history ∧ ScratchCounted t ∧ t.window = ⟨false, 1, 0⟩ := by
  have hload : Accounts (loadBlob selected) := Accounts.load hok hselected.1 hselected.2
  have hwindowOk : WindowOk (loadBlob selected) s.window := by
    rw [hwindow]
    exact windowOk_reset (loadBlob_ok hok)
  have haccounts : Accounts merged.store.history := by
    rw [hmerged]
    exact (mergeBlobIntoRam_accounts hwindowOk hload (loadBlob_ok hok) hother).1
  have hscratch : ScratchCounted merged.store := by
    rw [hmerged]
    exact mergeBlobIntoRam_counted (loadBlob_ok hok) hother hwindowOk ⟨nvs.valid, hnvs⟩
  have hkept : merged.store.window = ⟨false, 1, 0⟩ := by
    rw [hmerged, mergeBlobIntoRam_window]
    exact hwindow
  rw [ht]
  split_ifs
  · exact ⟨haccounts, hscratch, hkept⟩
  · exact ⟨Accounts.load nvs.valid hnvs.1 hnvs.2, hscratch, hkept⟩

theorem initLoad_counted (hwindow : s.window = ⟨false, 1, 0⟩) (ha : Accounts s.history)
    (hnvs : SourceCounted r.nvs) (hsd : SourceCounted r.sd) :
    Accounts (initLoad s r).history ∧ (r.nvs.isOk = true → ScratchCounted (initLoad s r)) ∧
      (initLoad s r).window = ⟨false, 1, 0⟩ := by
  have hresult : SourceCounted r.sdResult := fun stored h => by
    unfold InitReads.sdResult at h
    split_ifs at h
    exact hsd stored h
  unfold initLoad
  dsimp only
  split
  · rename_i nvs sd hnvsRead hsdRead
    have hn := hnvs nvs hnvsRead
    have hs := hresult sd hsdRead
    suffices h : Accounts (initMerge s nvs sd).history ∧ ScratchCounted (initMerge s nvs sd) ∧
        (initMerge s nvs sd).window = ⟨false, 1, 0⟩ from ⟨h.1, fun _ => h.2.1, h.2.2⟩
    unfold initMerge
    dsimp only
    cases decide (sd.blob.clearLineage = nvs.blob.clearLineage) &&
      blobIsNewer sd.blob nvs.blob with
    | true => exact initMerge_counted hwindow hn sd.valid nvs.valid hs rfl rfl
    | false => exact initMerge_counted hwindow hn nvs.valid sd.valid hn rfl rfl
  · rename_i nvs _ hnvsRead _
    have hn := hnvs nvs hnvsRead
    exact ⟨Accounts.load nvs.valid hn.1 hn.2, fun _ => ⟨nvs.valid, hn⟩, hwindow⟩
  · rename_i sd hnvsRead hsdRead
    have hs := hresult sd hsdRead
    refine ⟨Accounts.load sd.valid hs.1 hs.2, fun h => ?_, hwindow⟩
    rw [hnvsRead] at h
    cases h
  · rename_i hnvsRead _
    refine ⟨ha, fun h => ?_, hwindow⟩
    rw [hnvsRead] at h
    cases h

theorem initStore_counted (s : Store) (hnvs : SourceCounted r.nvs) (hsd : SourceCounted r.sd) :
    Accounts (initStore s r).1.history ∧
      WindowOk (initStore s r).1.history (initStore s r).1.window := by
  have hempty : WindowOk History.empty ⟨false, 1, 0⟩ := WindowOk.closed History.empty
  obtain ⟨hloaded, hscratch, hwindow⟩ := initLoad_counted (s := resetStore s r.generation)
    rfl Accounts.empty hnvs hsd
  unfold initStore
  dsimp only
  split
  · exact ⟨Accounts.empty, hempty⟩
  · exact ⟨Accounts.empty, hempty⟩
  · split_ifs with hchanged hread
    · exact ⟨hloaded, WindowOk.closed _⟩
    · obtain ⟨hblob, hcounted, hmax⟩ := hscratch hread
      exact ⟨Accounts.load hblob hcounted hmax, WindowOk.closed _⟩
    · refine ⟨Accounts.empty, ?_⟩
      change WindowOk History.empty (initLoad (resetStore s r.generation) r).window
      rw [hwindow]
      exact hempty

end Init

section Settles

def Settles (s t : Store) : Prop :=
  t.history = s.history ∧ (t.window = s.window ∨ t.window = ⟨false, s.history.nextSeq, 0⟩)

variable {s t : Store}

theorem persistBegin_settles (s : Store) (sdRequired : Bool) (generation nowMs : Nat)
    (force : Bool) : Settles s (persistBegin s sdRequired generation nowMs force).1 := by
  unfold persistBegin
  dsimp only
  split_ifs <;> exact ⟨rfl, Or.inl rfl⟩

theorem beginPersist_settles (s : Store) (sdRequired : Bool) (generation nowMs : Nat)
    (force : Bool) : Settles s (beginPersist s sdRequired generation nowMs force).store := by
  have hbegin := persistBegin_settles s sdRequired generation nowMs force
  simp only [beginPersist]
  split <;> exact hbegin

theorem closeWindow_settles (s : Store) : Settles s s.closeWindow := by
  refine ⟨rfl, ?_⟩
  unfold Store.closeWindow
  dsimp only
  split_ifs
  · exact Or.inr rfl
  · exact Or.inl rfl

theorem persistFinish_settles (s : Store) (snapshot : PersistSnapshot) (sdRequired : Bool)
    (answers : WriteAnswers) : Settles s (persistFinish s snapshot sdRequired answers) := by
  have hsd : ∀ a, (noteSdWrite s snapshot a).history = s.history ∧
      (noteSdWrite s snapshot a).window = s.window := fun a => by
    unfold noteSdWrite
    split_ifs <;> exact ⟨rfl, rfl⟩
  have hnvs : ∀ t a, (noteNvsWrite t snapshot a).history = t.history ∧
      (noteNvsWrite t snapshot a).window = t.window := fun t a => by
    unfold noteNvsWrite
    split_ifs <;> exact ⟨rfl, rfl⟩
  have hnoted : ∀ a, (noteNvsWrite (noteSdWrite s snapshot a) snapshot a).history = s.history ∧
      (noteNvsWrite (noteSdWrite s snapshot a) snapshot a).window = s.window := fun a =>
    ⟨(hnvs _ a).1.trans (hsd a).1, (hnvs _ a).2.trans (hsd a).2⟩
  unfold persistFinish
  dsimp only
  obtain ⟨hhistory, hwindow⟩ := hnoted (answers.settled snapshot)
  split_ifs
  · exact ⟨hhistory, Or.inl hwindow⟩
  · obtain ⟨hclosed, hcases⟩ := closeWindow_settles
      (noteNvsWrite (noteSdWrite s snapshot (answers.settled snapshot)) snapshot
        (answers.settled snapshot))
    rw [hhistory] at hclosed hcases
    exact ⟨hclosed, hcases.imp (fun h => h.trans hwindow) id⟩

end Settles

section Runs

structure WatchedOk (w : Watched) : Prop where
  device : DeviceOk w.device
  accounts : Accounts w.store.history
  window : WindowOk w.store.history w.store.window
  marks : ∀ m ∈ w.marks, Mark w.store.history w.store.window m

def startWatched : Watched := ⟨powerUp, [History.empty]⟩

def AbsorbsMarks (w : Watched) : Prop := ∀ m ∈ w.marks, Absorbs w.store (fillBlob m)

variable {w : Watched} {act : Act}

theorem startWatched_ok : WatchedOk startWatched := by
  refine ⟨powerUp_ok, Accounts.empty, WindowOk.closed History.empty, fun m hm => ?_⟩
  rw [List.mem_singleton.mp hm]
  exact Mark.own History.empty_ok _

theorem WatchedOk.absorbs (hw : WatchedOk w) : AbsorbsMarks w := fun m hm =>
  (hw.marks m hm).absorbs hw.device.history hw.accounts hw.window

theorem WatchedOk.moved (hw : WatchedOk w)
    (ha : Accounts (stepDevice w.device act).store.history)
    (hwindow : WindowOk (stepDevice w.device act).store.history
      (stepDevice w.device act).store.window)
    (hmarks : w.keepsMarks act = true → ∀ m, Mark w.store.history w.store.window m →
      Mark (stepDevice w.device act).store.history (stepDevice w.device act).store.window m) :
    WatchedOk (stepWatched w act) := by
  have hdevice := hw.device.step act
  refine ⟨hdevice, ha, hwindow, fun m hm => ?_⟩
  rcases List.mem_cons.mp hm with hown | hold
  · rw [hown]
    exact Mark.own hdevice.history _
  · by_cases hkeeps : w.keepsMarks act = true
    · rw [if_pos hkeeps] at hold
      exact hmarks hkeeps m (hw.marks m hold)
    · rw [if_neg hkeeps] at hold
      cases hold

theorem WatchedOk.settled (hw : WatchedOk w)
    (hs : Settles w.store (stepDevice w.device act).store) : WatchedOk (stepWatched w act) := by
  obtain ⟨hhistory, hwindow⟩ := hs
  refine hw.moved (by rw [hhistory]; exact hw.accounts) ?_ fun _ m hm => ?_
  · rw [hhistory]
    rcases hwindow with hsame | hclosed
    · rw [hsame]
      exact hw.window
    · rw [hclosed]
      exact WindowOk.closed _
  · rw [hhistory]
    rcases hwindow with hsame | hclosed
    · rw [hsame]
      exact hm
    · rw [hclosed]
      exact hm.closed

theorem appendChannel_cases (s : Store) (a : AppendArgs) (nowMs : Nat) :
    Settles s (appendChannel s a nowMs).1 ∨ a.persist = true ∧ s.history.full = false ∧
      ∃ e, e.seq = s.history.nextSeq ∧ (appendChannel s a nowMs).1.history = s.history.append e ∧
        (appendChannel s a nowMs).1.window =
          ⟨true, s.window.bootNextSeq, saturatingSucc s.window.mutationsSinceInit⟩ := by
  unfold appendChannel
  split
  · exact Or.inl ⟨rfl, Or.inl rfl⟩
  · split_ifs with hchannel htext hlong hloaded hpersist hfull
    · exact Or.inl ⟨rfl, Or.inl rfl⟩
    · exact Or.inl ⟨rfl, Or.inl rfl⟩
    · exact Or.inl ⟨rfl, Or.inl rfl⟩
    · exact Or.inl ⟨rfl, Or.inl rfl⟩
    · exact Or.inl ⟨rfl, Or.inl rfl⟩
    · exact Or.inl ⟨rfl, Or.inl rfl⟩
    · exact Or.inr ⟨by simpa using hpersist, by simpa using hfull, _, rfl, rfl, rfl⟩

theorem saturatingSucc_small {n : Nat} (h : n < messageStoreCapacity) :
    saturatingSucc n = n + 1 := by
  have hsmall : messageStoreCapacity ≤ uint32Max := by decide
  unfold saturatingSucc
  split_ifs <;> omega

theorem WatchedOk.reconciled (hw : WatchedOk w) {read : ReconcileRead} {sdRequired : Bool}
    (hphase : w.device.phase = .reconciling sdRequired) (hmeets : meets w (.reconcile read)) :
    WatchedOk (stepWatched w (.reconcile read)) := by
  have hstore : (stepDevice w.device (.reconcile read)).store =
      (reconcileSdPrimary w.store read).1 := by
    rw [stepDevice.eq_def]
    rw [hphase]
    exact (reconcilePersist_store _ _ _).1
  have hwindow := reconcileSdPrimary_window w.store read
  cases read with
  | unfinished => exact hw.settled (by rw [hstore]; exact ⟨rfl, Or.inl rfl⟩)
  | failed error failure => exact hw.settled (by rw [hstore]; exact ⟨rfl, Or.inl rfl⟩)
  | notFound => exact hw.settled (by rw [hstore]; exact ⟨rfl, Or.inl rfl⟩)
  | found stored generationMatches =>
    rcases reconcileFound_history w.store stored generationMatches with hsame | ⟨hmatches, hmerged⟩
    · exact hw.settled (by rw [hstore]; exact ⟨hsame, Or.inl hwindow⟩)
    · have hhistory : (stepDevice w.device (.reconcile (.found stored generationMatches))).store.history
          = (mergePrimary w.store stored.blob).store.history := by
        rw [hstore]
        exact hmerged
      simp only [meets, hphase] at hmeets
      obtain ⟨ha, hwin⟩ := mergePrimary_accounts hw.window hw.accounts hw.device.history
        stored.valid hmeets.1 hmeets.2
      refine hw.moved (by rw [hhistory]; exact ha) (by rw [hhistory, hstore, hwindow]; exact hwin)
        fun hkeeps m hm => ?_
      rw [hhistory, hstore, hwindow]
      refine hm.same (mergePrimary_same hw.device.history hw.accounts hw.window ?_)
      simp only [Watched.keepsMarks, hphase, hmatches, Bool.not_true, Bool.false_or,
        Bool.or_eq_true] at hkeeps
      refine hkeeps.imp id fun hown => ?_
      obtain ⟨own, hmem, heq⟩ := List.mem_map.mp (of_decide_eq_true hown)
      exact ⟨own, hw.marks own hmem, heq.symm⟩

theorem WatchedOk.step (hw : WatchedOk w) (hmeets : meets w act) :
    WatchedOk (stepWatched w act) := by
  have hstill : (stepDevice w.device act).store = w.device.store → WatchedOk (stepWatched w act) :=
    fun h => hw.settled (by rw [h]; exact ⟨rfl, Or.inl rfl⟩)
  cases act with
  | init reads =>
    cases hphase : w.device.phase with
    | idle =>
      simp only [meets, hphase] at hmeets
      by_cases hloaded : w.device.store.loaded = true
      · exact hstill (by simp only [stepDevice, hphase, if_pos hloaded])
      · have hstore : (stepDevice w.device (.init reads)).store =
            (initStore w.device.store reads).1 := by
          simp only [stepDevice, hphase, if_neg hloaded]
        obtain ⟨ha, hwin⟩ := initStore_counted w.device.store hmeets.1 hmeets.2
        refine hw.moved (by rw [hstore]; exact ha) (by rw [hstore]; exact hwin) fun hkeeps => ?_
        simp only [Watched.keepsMarks, hphase] at hkeeps
        exact absurd hkeeps hloaded
    | _ => exact hstill (by simp only [stepDevice, hphase])
  | append a nowMs =>
    have hstore : (stepDevice w.device (.append a nowMs)).store =
        (appendChannel w.device.store a nowMs).1 := rfl
    rcases appendChannel_cases w.device.store a nowMs with hs | ⟨hpersist, hfull, e, hseq, hh, hwin⟩
    · exact hw.settled hs
    · have hroom := hmeets hpersist
      rw [show w.store = w.device.store from rfl] at hroom
      rw [saturatingSucc_small hroom] at hwin
      refine hw.moved ?_ ?_ fun _ m hm => ?_
      · rw [hstore, hh]
        exact hw.accounts.append hfull e
      · rw [hstore, hh, hwin]
        exact hw.window.append hw.device.history hseq hroom
      · rw [hstore, hh, hwin]
        exact hm.append hseq
  | clear lineage => exact hmeets.elim
  | clearChannel channelId lineage => exact hmeets.elim
  | begin sdRequired generation nowMs force =>
    cases hphase : w.device.phase with
    | idle =>
      refine hw.settled ?_
      simp only [stepDevice, hphase]
      exact beginPersist_settles _ _ _ _ _
    | _ => exact hstill (by simp only [stepDevice, hphase])
  | reconcile read =>
    cases hphase : w.device.phase with
    | reconciling sdRequired => exact hw.reconciled hphase hmeets
    | _ => exact hstill (by simp only [stepDevice, hphase])
  | collect =>
    cases hphase : w.device.phase with
    | collecting sdRequired =>
      by_cases hdirty : w.device.store.persistenceDirty sdRequired = true
      · exact hstill (by simp only [stepDevice, hphase, if_pos hdirty])
      · refine hw.settled ?_
        simp only [stepDevice, hphase, if_neg hdirty]
        exact closeWindow_settles _
    | reconcileFailed =>
      refine hstill ?_
      simp only [stepDevice, hphase]
      split_ifs <;> rfl
    | _ => exact hstill (by simp only [stepDevice, hphase])
  | written answers =>
    cases hphase : w.device.phase with
    | writing sdRequired snapshot =>
      refine hw.settled ?_
      simp only [stepDevice, hphase]
      exact persistFinish_settles _ _ _ _
    | writingFallback snapshot =>
      refine hw.settled ?_
      simp only [stepDevice, hphase]
      exact ⟨rfl, Or.inl rfl⟩
    | _ => exact hstill (by simp only [stepDevice, hphase])
  | abandon =>
    cases hphase : w.device.phase with
    | writing sdRequired snapshot => exact hstill (by simp only [stepDevice, hphase])
    | _ => exact hstill (by simp only [stepDevice, hphase])

/-- In a run that never has more than a ring full of rows between two complete persists, clears
nothing and loads only histories that add up, every snapshot since the last load is absorbed. -/
theorem snapshots_absorbed {acts : List Act} (hmeets : RunOk stepWatched meets startWatched acts) :
    AbsorbsMarks (runSteps stepWatched startWatched acts) :=
  (run_invariant (fun _ _ hw h => hw.step h) hmeets startWatched_ok).absorbs

end Runs

def noClear : Act → Bool
  | .clear _ | .clearChannel _ _ => false
  | _ => true

def blankReads : InitReads where
  enabled := true
  generation := 1
  nvs := .error espErrNotFound
  sd := .error espErrNotFound
  generationMatchesAfterRead := true
  generationMatchesAfterMerge := true

def sampleArgs : AppendArgs where
  channelId := publicId
  direction := none
  author := none
  text := some (.lit [104, 105])
  rssiDbm := -90
  snrTenths := 40
  pathHashBytes := 1
  pathHops := 0
  delivered := true
  persist := true

/-- One row is on its way to the card when `count` more slip in before the write is settled. -/
def slippedRun (count : Nat) : List Act :=
  [.init blankReads, .append sampleArgs 5, .begin true 1 6000 false, .collect] ++
    (List.replicate count (.append sampleArgs 7) ++ [.written ⟨espOk, espOk, false⟩])

theorem blankReads_counted : SourceCounted blankReads.nvs ∧ SourceCounted blankReads.sd :=
  ⟨(fun _ h => by cases h), fun _ h => by cases h⟩

theorem snapshots_absorbed_slipped :
    AbsorbsMarks (runSteps stepWatched startWatched (slippedRun 2)) :=
  snapshots_absorbed
    (show RunOk stepWatched meets startWatched (slippedRun 2) from
      ⟨blankReads_counted, (fun _ => by decide +kernel), trivial, trivial,
        (fun _ => by decide +kernel), (fun _ => by decide +kernel), trivial, trivial⟩)

theorem mark_kept {w : Watched} {m : History} {acts : List Act} (hm : m ∈ w.marks)
    (hkeeps : RunOk stepWatched (fun w act => w.keepsMarks act = true) w acts) :
    m ∈ (runSteps stepWatched w acts).marks := by
  have hstep : ∀ w act, m ∈ w.marks → w.keepsMarks act = true → m ∈ (stepWatched w act).marks := by
    intro w act hmark hact
    rw [stepWatched, if_pos hact]
    exact List.mem_cons_of_mem _ hmark
  exact run_invariant hstep hkeeps hm

/-- Sixteen rows slip in: the card's copy of the first row makes the total of 17 rows 18. -/
theorem snapshots_counted_twice :
    ¬ ∀ acts : List Act, (∀ act ∈ acts, noClear act = true) →
      AbsorbsMarks (runSteps stepWatched startWatched acts) := by
  intro h
  have hclear : ∀ act ∈ slippedRun 16, noClear act = true := by decide +kernel
  have hrun := h (slippedRun 16) hclear
  have hkeeps : RunOk stepWatched (fun w act => w.keepsMarks act = true)
      (runSteps stepWatched startWatched ((slippedRun 16).take 4)) ((slippedRun 16).drop 4) := by
    decide +kernel
  have hmark : (runSteps stepWatched startWatched ((slippedRun 16).take 4)).store.history ∈
      (runSteps stepWatched (runSteps stepWatched startWatched ((slippedRun 16).take 4))
        ((slippedRun 16).drop 4)).marks := mark_kept List.mem_cons_self hkeeps
  rw [← runSteps_append, List.take_append_drop] at hmark
  have htotal := (hrun _ hmark).total
  revert htotal
  decide +kernel

end Sigui.Message

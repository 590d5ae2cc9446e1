import Sigui.MessageLive
import Sigui.RunRules

/-! The store never fills a blob that it would refuse to read: every hold of the store lock keeps
the history in order. -/
namespace Sigui.Message

section Blobs

variable {h : History} {b : Blob}

theorem RowsOk.nil {nextSeq : Nat} : RowsOk Entry.seq entryIsValid nextSeq [] :=
  ⟨List.Pairwise.nil, by simp, by simp⟩

theorem fillBlob_rows (h : History) : (fillBlob h).rows = h.rows :=
  rows_packed (List.replicate (messageStoreCapacity - h.rows.length) Entry.zero) rfl h.rows_le rfl rfl

theorem loadBlob_fillBlob (h : History) : loadBlob (fillBlob h) = h := by
  have hrows : (fillBlob h).rows.take messageStoreCapacity = h.rows := by
    rw [fillBlob_rows]
    exact List.take_of_length_le h.rows_le
  cases h
  simp only [loadBlob, hrows]
  rfl

theorem fillBlob_ok (hok : HistoryOk h) : BlobOk (fillBlob h) := by
  refine ⟨⟨?_, rfl, Nat.mod_lt _ (by decide), h.rows_le, hok.next, hok.total⟩, hok.epoch,
    hok.revision, ?_⟩
  · have hle := h.rows_le
    change (h.rows ++ List.replicate _ Entry.zero).length = messageStoreCapacity
    rw [List.length_append, List.length_replicate]
    omega
  · rw [fillBlob_rows]
    exact hok.rows

theorem loadBlob_ok (hb : BlobOk b) : HistoryOk (loadBlob b) := by
  refine ⟨hb.epoch, hb.revision, hb.header.next, ?_, ?_⟩
  · rw [loadBlob_rows hb, hb.header.length_rows]
    exact hb.header.total
  · rw [loadBlob_rows hb]
    exact hb.rows

theorem History.empty_ok : HistoryOk .empty :=
  ⟨Nat.one_ne_zero, Nat.one_ne_zero, Nat.one_ne_zero, le_refl 0, .nil⟩

end Blobs

section Rows

variable {rows : List Entry} {nextSeq : Nat} {e : Entry}

theorem RowsOk.sublist {rows' : List Entry} (h : RowsOk Entry.seq entryIsValid nextSeq rows)
    (hs : rows'.Sublist rows) : RowsOk Entry.seq entryIsValid nextSeq rows' :=
  ⟨h.ascending.sublist hs, fun e he => h.valid e (hs.subset he),
    fun e he => h.below e (hs.subset he)⟩

theorem RowsOk.push (h : RowsOk Entry.seq entryIsValid nextSeq rows)
    (hvalid : entryIsValid e = true) (hseq : e.seq = nextSeq) :
    RowsOk Entry.seq entryIsValid (nextSeq + 1) (keepLast messageStoreCapacity (rows ++ [e])) := by
  have hall : RowsOk Entry.seq entryIsValid (nextSeq + 1) (rows ++ [e]) := by
    refine ⟨h.ascending.snoc fun a ha => (h.below a ha).trans_eq hseq.symm, ?_, ?_⟩
    · exact List.forall_mem_append.mpr ⟨h.valid, List.forall_mem_singleton.mpr hvalid⟩
    · refine List.forall_mem_append.mpr
        ⟨fun a ha => (h.below a ha).trans (Nat.lt_succ_self _), ?_⟩
      exact List.forall_mem_singleton.mpr (hseq.trans_lt (Nat.lt_succ_self _))
  exact hall.sublist (keepLast_sublist _ _)

theorem withSeq_valid {seq : Nat} (h : entryIsValid e = true) (hpos : 0 < seq) :
    entryIsValid (e.withSeq seq) = true := by
  simp only [entryIsValid, Bool.and_eq_true, decide_eq_true_eq] at h ⊢
  obtain ⟨⟨⟨⟨⟨_, hchannel⟩, hreserved⟩, hdirection⟩, hauthor⟩, htext⟩ := h
  exact ⟨⟨⟨⟨⟨hpos, hchannel⟩, hreserved⟩, hdirection⟩, hauthor⟩, htext⟩

end Rows

section Appends

variable {s : Store} {h : History}

theorem textOr_valid {destSize : Nat} {source : Option CStr} {default : CStr} (hd : 2 ≤ destSize)
    (hdefault : default.bytes ≠ []) :
    plainTextIsValid (textOr source default : CharArray destSize) = true := by
  unfold textOr
  dsimp only
  split_ifs with hempty
  · exact Route.persistedTextIsValid_sanitizeAscii hd hdefault
  · refine Route.persistedTextIsValid_sanitizeAscii hd fun hsource => hempty ?_
    change ((source.getD default).bytes.take (destSize - 1)).map sanitizeByte = []
    rw [hsource, List.take_nil, List.map_nil]

theorem appendEntry_valid {a : AppendArgs} {text : CStr} {nowMs : Nat} (hnext : h.nextSeq ≠ 0)
    (hchannel : a.channelId ≠ 0) (htext : (userTextValidate (some text)).result = .ok) :
    entryIsValid (appendEntry h a text nowMs) = true := by
  have hlength := userTextValidate_ok_length htext
  have hcopy : (copyText text).bytes = text.bytes :=
    List.take_of_length_le (hlength.trans (by decide))
  have husertext : userTextIsValid (copyText text) = true :=
    decide_eq_true (userTextValidateBounded_of_validate htext _ (by decide) hcopy)
  have hdirection : plainTextIsValid (appendEntry h a text nowMs).direction = true :=
    textOr_valid (by decide) (by decide)
  have hauthor : plainTextIsValid (appendEntry h a text nowMs).author = true :=
    textOr_valid (by decide) (by decide)
  simp only [entryIsValid, Bool.and_eq_true]
  exact ⟨⟨⟨⟨⟨decide_eq_true (Nat.pos_of_ne_zero hnext), decide_eq_true hchannel⟩, rfl⟩,
    hdirection⟩, hauthor⟩, husertext⟩

theorem saturatingSucc_ne_zero {n : Nat} (h : n ≠ 0) : saturatingSucc n ≠ 0 := by
  have := le_saturatingSucc n
  omega

theorem HistoryOk.append (hok : HistoryOk h) {e : Entry} (hvalid : entryIsValid e = true)
    (hseq : e.seq = h.nextSeq) : HistoryOk (h.append e) := by
  refine ⟨hok.epoch, saturatingSucc_ne_zero hok.revision, Nat.succ_ne_zero _, ?_,
    hok.rows.push hvalid hseq⟩
  have htotal := hok.total
  change (keepLast _ (h.rows ++ [e])).length ≤ h.totalWritten + 1
  rw [length_keepLast, List.length_append, List.length_singleton]
  omega

theorem appendChannel_ok (hok : HistoryOk s.history) (a : AppendArgs) (nowMs : Nat) :
    HistoryOk (appendChannel s a nowMs).1.history := by
  unfold appendChannel
  split
  · exact hok
  · rename_i text _
    split_ifs with hchannel htext hloaded hpersist hfull
    all_goals try exact hok
    exact hok.append (appendEntry_valid hok.next hchannel (not_not.mp htext)) rfl

end Appends

section Clears

variable {s : Store} {h : History}

theorem nextEpoch_ne_zero (epoch : Nat) : nextEpoch epoch ≠ 0 := by
  unfold nextEpoch
  split_ifs
  · exact Nat.one_ne_zero
  · exact Nat.succ_ne_zero _

theorem HistoryOk.rotate (hok : HistoryOk h) (lineage : UInt64) : HistoryOk (h.rotate lineage) :=
  ⟨nextEpoch_ne_zero _, saturatingSucc_ne_zero hok.revision, hok.next, hok.total, hok.rows⟩

theorem clearStore_ok (hok : HistoryOk s.history) (lineage : UInt64) :
    HistoryOk (clearStore s lineage).history := by
  refine HistoryOk.rotate (h := { s.history.clear with nextSeq := s.history.nextSeq }) ?_ lineage
  exact ⟨hok.epoch, hok.revision, hok.next, le_refl 0, .nil⟩

theorem clearChannel_ok (hok : HistoryOk s.history) (channelId lineage : UInt64) :
    HistoryOk (clearChannel s channelId lineage).history := by
  unfold clearChannel
  split_ifs
  · exact hok
  · refine HistoryOk.rotate ?_ lineage
    exact ⟨hok.epoch, hok.revision, hok.next, (List.length_filter_le _ _).trans hok.total,
      hok.rows.sublist List.filter_sublist⟩

end Clears

section Merges

variable {s : Store} {b : Blob}

theorem saturatingAdd_ne_zero {total more : Nat} (h : total ≠ 0) :
    saturatingAdd total more ≠ 0 := by
  unfold saturatingAdd
  split_ifs
  · decide
  · omega

theorem mergedRows_valid (hrows : RowsOk Entry.seq entryIsValid s.history.nextSeq s.history.rows)
    (hb : RowsOk Entry.seq entryIsValid b.nextSeq b.rows) (hnext : s.history.nextSeq ≠ 0) {e : Entry}
    (he : e ∈ mergedRows s.history s.window b) : entryIsValid e = true := by
  have hside : ∀ x, x ∈ s.history.rows ∨ x ∈ b.rows → entryIsValid x = true := fun x hx =>
    hx.elim (hrows.valid x) (hb.valid x)
  rcases mergedRows_origin he with hkeeps | ⟨x, hx, heq, hlow⟩
  · exact hside e (mem_keepers.mp hkeeps).2
  · rw [heq]
    refine withSeq_valid (hside x (List.mem_append.mp (losers_sides hx))) ?_
    have := Nat.pos_of_ne_zero hnext
    omega

theorem mergedRows_below (hrows : RowsOk Entry.seq entryIsValid s.history.nextSeq s.history.rows)
    (hb : RowsOk Entry.seq entryIsValid b.nextSeq b.rows) {e : Entry}
    (he : e ∈ mergedRows s.history s.window b) :
    e.seq < max s.history.nextSeq b.nextSeq +
      (losers s.window s.history.rows b.rows).length := by
  rcases List.mem_append.mp he with hkeeps | hfresh
  · exact (keepers_below hrows hb ((mem_sortByKey _ _).mp hkeeps)).trans_le (Nat.le_add_right _ _)
  · exact (mem_renumber hfresh).2.1

theorem mergedHistory_ok (hok : HistoryOk s.history) (hb : BlobOk b) {acc : MergeAcc}
    (hmerge : mergeRows s.history s.window b = .ok acc) :
    HistoryOk (mergedHistory s.history s.window b acc) := by
  have hm := mergeRows_merged hok.rows hb.rows hmerge
  have hkept := keptRows_eq hok.rows hb.rows hm
  have hpos := Nat.pos_of_ne_zero hok.next
  have hnext := hm.next
  refine ⟨hok.epoch, ?_, ?_, le_max_right _ _, ?_⟩
  · have := Nat.pos_of_ne_zero hok.revision
    change max s.history.contentRevision b.contentRevision ≠ 0
    omega
  · change acc.nextSeq ≠ 0
    omega
  · change RowsOk Entry.seq entryIsValid acc.nextSeq (keptRows acc)
    rw [hkept, hnext]
    refine RowsOk.sublist ⟨mergedRows_ascending hok.rows hb.rows, ?_, ?_⟩ (keepLast_sublist _ _)
    · exact fun e he => mergedRows_valid hok.rows hb.rows hok.next he
    · exact fun e he => mergedRows_below hok.rows hb.rows he

theorem HistoryOk.withRevision {h : History} (hok : HistoryOk h) {contentRevision : Nat}
    (hne : contentRevision ≠ 0) : HistoryOk { h with contentRevision := contentRevision } :=
  ⟨hok.epoch, hne, hok.next, hok.total, hok.rows⟩

theorem mergeBlobIntoRam_ok (hok : HistoryOk s.history) (hb : BlobOk b) :
    HistoryOk (mergeBlobIntoRam s b).store.history := by
  unfold mergeBlobIntoRam
  split_ifs
  · exact hok
  · exact hok
  · split
    · exact hok
    · rename_i acc hmerge
      have hmerged := mergedHistory_ok hok hb hmerge
      refine hmerged.withRevision ?_
      split_ifs
      · exact saturatingSucc_ne_zero hmerged.revision
      · exact hmerged.revision

theorem mergeBlobIntoRam_scratch (hok : HistoryOk s.history) (hb : BlobOk b)
    (hscratch : BlobOk s.nvsBlobScratch) : BlobOk (mergeBlobIntoRam s b).store.nvsBlobScratch := by
  unfold mergeBlobIntoRam
  split_ifs
  · exact hscratch
  · exact hscratch
  · split
    · exact hscratch
    · rename_i acc hmerge
      exact fillBlob_ok (mergedHistory_ok hok hb hmerge)

theorem replay_ok {rows : List Entry} {h h' : History}
    (hreplay : rows.foldlM appendReplayedEntry h = .ok h') (hnext : h.nextSeq ≠ 0)
    (hvalid : ∀ e ∈ rows, entryIsValid e = true)
    (hrows : RowsOk Entry.seq entryIsValid h.nextSeq h.rows) :
    RowsOk Entry.seq entryIsValid h'.nextSeq h'.rows := by
  induction rows generalizing h with
  | nil =>
    cases hreplay
    exact hrows
  | cons e rows ih =>
    obtain ⟨he, hrest⟩ := List.forall_mem_cons.mp hvalid
    rw [List.foldlM_cons] at hreplay
    unfold appendReplayedEntry at hreplay
    split_ifs at hreplay with hroom
    · cases hreplay
    · exact ih hreplay (Nat.succ_ne_zero _) hrest
        (hrows.push (withSeq_valid he (Nat.pos_of_ne_zero hnext)) rfl)

theorem adoptPrimary_ok (hok : HistoryOk s.history) (hb : BlobOk b) :
    HistoryOk (adoptPrimary s b).store.history := by
  have hloaded := loadBlob_ok hb
  unfold adoptPrimary
  split
  · change HistoryOk (loadBlob (fillBlob s.history))
    rwa [loadBlob_fillBlob]
  · rename_i h' hreplay
    obtain ⟨_, hnext, hepoch, hrevision, _⟩ := replay_rows hreplay
    have hrows := replay_ok hreplay hloaded.next
      (fun e he => hok.rows.valid e (List.mem_filter.mp he).1) hloaded.rows
    refine ⟨?_, ?_, ?_, le_max_right _ _, ?_⟩
    · exact hepoch ▸ hloaded.epoch
    · exact saturatingAdd_ne_zero (hrevision ▸ hloaded.revision)
    · have := Nat.pos_of_ne_zero hloaded.next
      change h'.nextSeq ≠ 0
      omega
    · exact hrows

theorem mergePrimary_ok (hok : HistoryOk s.history) (hb : BlobOk b) :
    HistoryOk (mergePrimary s b).store.history := by
  unfold mergePrimary
  split_ifs
  · exact hok
  · exact adoptPrimary_ok hok hb
  · exact adoptPrimary_ok hok hb
  · exact loadBlob_ok hb
  · exact hok
  · exact mergeBlobIntoRam_ok hok hb

theorem reconcileSdPrimary_ok (hok : HistoryOk s.history) (read : ReconcileRead) :
    HistoryOk (reconcileSdPrimary s read).1.history := by
  cases read with
  | unfinished => exact hok
  | failed error failure => exact hok
  | notFound => exact hok
  | found stored generationMatches =>
    have hmerged := mergePrimary_ok hok stored.valid
    simp only [reconcileSdPrimary, reconcileFound]
    split_ifs
    · exact hmerged
    · change HistoryOk (loadBlob (fillBlob s.history))
      rwa [loadBlob_fillBlob]
    · exact hmerged

end Merges

section Init

variable {s : Store} {r : InitReads}

theorem initMerge_selected (s : Store) (nvs : StoredBlob) {selected other : Blob}
    (hselected : BlobOk selected) (hother : BlobOk other) {merged : MergeResult}
    (hmerged : merged = mergeBlobIntoRam
      { s with nvsBlobScratch := nvs.blob, history := loadBlob selected } other) {t : Store}
    (ht : t = if merged.ret = espOk then merged.store
      else noteSdReconcileFailure { merged.store with history := loadBlob nvs.blob } merged.ret) :
    HistoryOk t.history ∧ BlobOk t.nvsBlobScratch := by
  have hhistory : HistoryOk merged.store.history := by
    rw [hmerged]
    exact mergeBlobIntoRam_ok (loadBlob_ok hselected) hother
  have hscratch : BlobOk merged.store.nvsBlobScratch := by
    rw [hmerged]
    exact mergeBlobIntoRam_scratch (loadBlob_ok hselected) hother nvs.valid
  rw [ht]
  split_ifs
  · exact ⟨hhistory, hscratch⟩
  · exact ⟨loadBlob_ok nvs.valid, hscratch⟩

theorem initMerge_ok (s : Store) (nvs sd : StoredBlob) :
    HistoryOk (initMerge s nvs sd).history ∧ BlobOk (initMerge s nvs sd).nvsBlobScratch := by
  unfold initMerge
  dsimp only
  cases decide (sd.blob.clearLineage = nvs.blob.clearLineage) && blobIsNewer sd.blob nvs.blob with
  | true => exact initMerge_selected s nvs sd.valid nvs.valid rfl rfl
  | false => exact initMerge_selected s nvs nvs.valid sd.valid rfl rfl

theorem initLoad_ok (hok : HistoryOk s.history) :
    HistoryOk (initLoad s r).history ∧
      (r.nvs.isOk = true → BlobOk (initLoad s r).nvsBlobScratch) := by
  unfold initLoad
  dsimp only
  split
  · rename_i nvs sd _ _
    exact ⟨(initMerge_ok s nvs sd).1, fun _ => (initMerge_ok s nvs sd).2⟩
  · rename_i nvs _ _ _
    exact ⟨loadBlob_ok nvs.valid, fun _ => nvs.valid⟩
  · rename_i sd hnvs _
    exact ⟨loadBlob_ok sd.valid, fun h => by rw [hnvs] at h; cases h⟩
  · rename_i hnvs _
    exact ⟨hok, fun h => by rw [hnvs] at h; cases h⟩

theorem initStore_ok (s : Store) (r : InitReads) : HistoryOk (initStore s r).1.history := by
  have hreset : HistoryOk (resetStore s r.generation).history := History.empty_ok
  obtain ⟨hloaded, hscratch⟩ := initLoad_ok (r := r) hreset
  unfold initStore
  dsimp only
  split
  · exact hreset
  · exact hreset
  · split_ifs with hchanged hnvs
    · exact hloaded
    · exact loadBlob_ok (hscratch hnvs)
    · exact History.empty_ok

end Init

def PersistPhase.snapshot : PersistPhase → Option PersistSnapshot
  | .writing _ snapshot | .writingFallback snapshot => some snapshot
  | _ => none

/-- The history is in order, and so is whatever is on its way to a backend. -/
structure DeviceOk (d : Device) : Prop where
  history : HistoryOk d.store.history
  snapshot : ∀ snapshot, d.phase.snapshot = some snapshot → BlobOk snapshot.blob

def powerUp : Device where
  store :=
    resetStore
      { history := .empty
        window := ⟨false, 1, 0⟩
        volatileEntry := none
        loaded := false
        sdPrimaryDirty := false
        sdReconcilePending := false
        nvsFallbackDirty := false
        retryPending := false
        persistAttemptedThisBoot := false
        deviceLineageAuthoritative := false
        lastSdBackendGeneration := 0
        lastPersistAttemptMs := 0
        sdPrimaryLastError := espOk
        nvsFallbackLastError := espOk
        revision := 0
        nvsBlobScratch := fillBlob .empty } 0
  phase := .idle

theorem powerUp_ok : DeviceOk powerUp := ⟨History.empty_ok, fun _ h => nomatch h⟩

theorem persistBegin_history (s : Store) (sdRequired : Bool) (generation nowMs : Nat)
    (force : Bool) : (persistBegin s sdRequired generation nowMs force).1.history = s.history := by
  unfold persistBegin
  dsimp only
  split_ifs <;> rfl

theorem beginPersist_history (s : Store) (sdRequired : Bool) (generation nowMs : Nat)
    (force : Bool) : (beginPersist s sdRequired generation nowMs force).store.history = s.history ∧
      (beginPersist s sdRequired generation nowMs force).phase.snapshot = none := by
  have hhistory := persistBegin_history s sdRequired generation nowMs force
  simp only [beginPersist]
  split <;> exact ⟨hhistory, rfl⟩

theorem reconcilePersist_store (s : Store) (sdRequired : Bool) (read : ReconcileRead) :
    (reconcilePersist s sdRequired read).store = (reconcileSdPrimary s read).1 ∧
      (reconcilePersist s sdRequired read).phase.snapshot = none := by
  simp only [reconcilePersist]
  split_ifs <;> exact ⟨rfl, rfl⟩

theorem closeWindow_history (s : Store) : s.closeWindow.history = s.history := rfl

theorem persistFinish_history (s : Store) (snapshot : PersistSnapshot) (sdRequired : Bool)
    (answers : WriteAnswers) : (persistFinish s snapshot sdRequired answers).history = s.history := by
  have hsd : ∀ a, (noteSdWrite s snapshot a).history = s.history := fun a => by
    unfold noteSdWrite
    split_ifs <;> rfl
  have hnvs : ∀ t a, (noteNvsWrite t snapshot a).history = t.history := fun t a => by
    unfold noteNvsWrite
    split_ifs <;> rfl
  unfold persistFinish
  dsimp only
  split_ifs
  · exact (hnvs _ _).trans (hsd _)
  · exact (closeWindow_history _).trans ((hnvs _ _).trans (hsd _))

theorem DeviceOk.moved {d d' : Device} (hd : DeviceOk d) (hok : HistoryOk d'.store.history)
    (hphase : d'.phase.snapshot = none ∨ d'.phase = d.phase) : DeviceOk d' := by
  refine ⟨hok, fun snapshot h => ?_⟩
  rcases hphase with hnone | hsame
  · rw [hnone] at h
    cases h
  · exact hd.snapshot snapshot (hsame ▸ h)

theorem DeviceOk.step {d : Device} (hd : DeviceOk d) (act : Act) : DeviceOk (stepDevice d act) := by
  unfold stepDevice
  split
  · split_ifs
    · exact hd
    · exact hd.moved (initStore_ok _ _) (Or.inl rfl)
  · exact hd.moved (appendChannel_ok hd.history _ _) (Or.inr rfl)
  · split_ifs
    · exact hd.moved (clearStore_ok hd.history _) (Or.inr rfl)
    · exact hd
  · split_ifs
    · exact hd.moved (clearChannel_ok hd.history _ _) (Or.inr rfl)
    · exact hd
  · rename_i sdRequired generation nowMs force _
    obtain ⟨hhistory, hphase⟩ := beginPersist_history d.store sdRequired generation nowMs force
    exact hd.moved (by rw [hhistory]; exact hd.history) (Or.inl hphase)
  · rename_i read sdRequired _
    obtain ⟨hstore, hphase⟩ := reconcilePersist_store d.store sdRequired read
    exact hd.moved (by rw [hstore]; exact reconcileSdPrimary_ok hd.history read)
      (Or.inl hphase)
  · split_ifs
    · refine ⟨hd.history, fun snapshot h => ?_⟩
      cases h
      exact fillBlob_ok hd.history
    · exact hd.moved hd.history (Or.inl rfl)
  · split_ifs
    · refine ⟨hd.history, fun snapshot h => ?_⟩
      cases h
      exact fillBlob_ok hd.history
    · exact hd.moved hd.history (Or.inl rfl)
  · exact hd.moved (by rw [persistFinish_history]; exact hd.history) (Or.inl rfl)
  · exact hd.moved hd.history (Or.inl rfl)
  · exact hd.moved hd.history (Or.inl rfl)
  · exact hd

theorem run_ok (acts : List Act) : DeviceOk (runSteps stepDevice powerUp acts) := by
  have hstep : ∀ d act, DeviceOk d → DeviceOk (stepDevice d act) := fun _ act hd => hd.step act
  exact run_always hstep acts powerUp_ok

/-- Whatever has happened since power-up, the blob the store fills is one it reads back, and so is
the one on its way to a backend; and every older value its own validator accepts is read back as a
valid blob with its rows and counters. -/
theorem fillBlob_always_valid :
    (∀ acts, blobIsValid (fillBlob (runSteps stepDevice powerUp acts).store.history) = true ∧
      ∀ snapshot, (runSteps stepDevice powerUp acts).phase.snapshot = some snapshot →
        blobIsValid snapshot.blob = true) ∧
    ∀ raw : RawBlob, raw.isValid = true → ∃ b migrated, decodeBlob raw = .ok (b, migrated) ∧
      blobIsValid b = true ∧ b.rows.map Entry.carried = raw.carried ∧
        counters b.toBlobV2 = raw.counters := by
  refine ⟨fun acts => ⟨?_, fun snapshot h => ?_⟩, fun raw hvalid => ?_⟩
  · exact blobIsValid_iff.mpr (fillBlob_ok (run_ok acts).history)
  · exact blobIsValid_iff.mpr ((run_ok acts).snapshot snapshot h)
  · obtain ⟨b, migrated, hdecode, hdecoded⟩ := decodeBlob_valid hvalid
    exact ⟨b, migrated, hdecode, blobIsValid_iff.mpr hdecoded.ok, hdecoded.carried,
      hdecoded.counters⟩

end Sigui.Message

import Sigui.DmMergeWritable

/-! The store never writes a blob it would refuse to read back, on runs that offer no digest
twice and merge no card over which a digest or the row count would be counted twice. -/
namespace Sigui.Dm

/-- What a card must satisfy for the store to stay one that can be written. -/
def MergeWritable (s : DmStore) (primary : DmBlob) : Prop :=
  if primaryIgnored s primary then True
  else if !incomingClearDominates s primary && primary.epoch = s.epoch then
    ¬digestTakenInRam s primary.rows
  else ¬digestTakenOnCard s primary ∧ overlayTotalCovers s primary

theorem Writable.mergePrimary {s : DmStore} {primary : DmBlob} (h : Writable s)
    (hvalid : BlobValid primary) (hmerge : MergeWritable s primary) :
    Writable (mergePrimary s primary).store := by
  unfold Dm.mergePrimary
  unfold MergeWritable at hmerge
  split_ifs at hmerge ⊢ with hignored hsame
  · exact h
  · exact h.mergeSameEpoch hvalid hmerge
  · exact h.mergeOverlay hvalid hmerge.1 hmerge.2

theorem mergePrimary_failed {s : DmStore} {primary : DmBlob}
    (h : (mergePrimary s primary).ret ≠ espOk) :
    (mergePrimary s primary).store = s ∨
      (mergePrimary s primary).store = loadBlob s (fillBlob s) := by
  unfold mergePrimary at h ⊢
  split_ifs at h ⊢ with hignored hsame
  · exact absurd rfl h
  · left
    unfold mergeSameEpoch at h ⊢
    cases hm : mergeCandidates s primary with
    | error ret => rfl
    | ok acc =>
      rw [hm] at h
      exact absurd rfl h
  · right
    unfold mergeOverlay at h ⊢
    cases hfold : (overlayEntries s).foldlM overlayCandidate
        ⟨loadBlob s primary, false, s.mutationsSinceInit⟩ with
    | error ret => rfl
    | ok acc =>
      rw [hfold] at h
      exact absurd rfl h

theorem Writable.reconcileLocked {s : DmStore} {stored : StoredBlob} {generationMatches : Bool}
    (h : Writable s) (hmerge : generationMatches = true → MergeWritable s stored.blob) :
    Writable (reconcileLocked s stored generationMatches).1 := by
  unfold Dm.reconcileLocked
  dsimp only
  by_cases hret : (Dm.mergePrimary s stored.blob).ret = espOk
  swap
  · rw [if_pos hret]
    have hfailed : Writable (Dm.mergePrimary s stored.blob).store := by
      rcases mergePrimary_failed hret with hsame | hreload
      · rw [hsame]
        exact h
      · rw [hreload]
        exact writable_loadBlob s h.blob
    exact hfailed.of_same ⟨rfl, rfl, rfl, rfl, rfl, rfl⟩
  rw [if_neg (not_not.mpr hret)]
  cases hg : generationMatches with
  | true =>
    have hmerged := h.mergePrimary ((blobIsValid_iff _).mp stored.valid) (hmerge hg)
    exact hmerged.of_same ⟨rfl, rfl, rfl, rfl, rfl, rfl⟩
  | false =>
    have hload := writable_loadBlob
      { (Dm.mergePrimary s stored.blob).store with volatileEntry := s.volatileEntry } h.blob
    exact hload.of_same ⟨rfl, rfl, rfl, rfl, rfl, rfl⟩

theorem sameHistory_reconcileNotFound (s : DmStore) : SameHistory s (reconcileNotFound s) :=
  ⟨rfl, rfl, rfl, rfl, rfl, rfl⟩

/-- The store without what a persist pass keeps for itself. -/
def DmStore.passRest (s : DmStore) : DmStore :=
  { s with
    lastSdBackendGeneration := 0, sdReconcilePending := false, retryPending := false
    lastSdPrimaryRequired := false, persistAttemptedThisBoot := false, lastPersistAttemptMs := 0
    ackPersistencePending := [], sdPrimaryLastError := espOk, sdPrimaryDirty := false
    nvsFallbackLastError := espOk, nvsFallbackDirty := false
    mutatedSinceInit := false, mutationsSinceInit := 0, bootNextSeq := 0 }

theorem sameHistory_of_rest {s s' : DmStore} (h : s'.passRest = s.passRest) : SameHistory s s' where
  rows := (congrArg DmStore.rows h :)
  nextSeq := (congrArg DmStore.nextSeq h :)
  totalWritten := (congrArg DmStore.totalWritten h :)
  epoch := (congrArg DmStore.epoch h :)
  contentRevision := (congrArg DmStore.contentRevision h :)
  clearLineage := (congrArg DmStore.clearLineage h :)

theorem persistBegin_rest (s : DmStore) (sdPrimaryRequired : Bool) (generation attemptMs : Nat)
    (force : Bool) :
    (persistBegin s sdPrimaryRequired generation attemptMs force).1.passRest = s.passRest := by
  unfold persistBegin
  by_cases hloaded : s.loaded = true
  swap
  · rw [if_pos (by simpa using hloaded)]
  rw [if_neg (by simpa using hloaded)]
  extract_lets looked required retryReady pending waiting
  have hlooked : looked.passRest = s.passRest := by
    dsimp only [looked]
    split_ifs <;> rfl
  split_ifs
  all_goals exact hlooked

theorem markPersisted_rest (s : DmStore) (sdPrimaryRequired : Bool) :
    (markPersisted s sdPrimaryRequired).passRest = s.passRest := by
  unfold markPersisted
  split_ifs <;> rfl

theorem persistFinish_rest (s : DmStore) (snapshot : PersistSnapshot) (sdPrimaryRequired : Bool)
    (sdRet nvsRet : EspErr) :
    (persistFinish s snapshot sdPrimaryRequired sdRet nvsRet).passRest = s.passRest := by
  have hwrites : (noteNvsWrite (noteSdWrite s snapshot sdRet) snapshot nvsRet).passRest =
      s.passRest := by
    unfold noteNvsWrite noteSdWrite
    split_ifs <;> rfl
  unfold persistFinish
  extract_lets sameRevision written operationFailed
  split_ifs
  · exact hwrites
  · exact (markPersisted_rest _ _).trans hwrites

theorem updateNvsResult_rest (s : DmStore) (nvsRet : EspErr) (snapshotRevision : Nat)
    (sdPrimaryRequired : Bool) :
    (updateNvsResult s nvsRet snapshotRevision sdPrimaryRequired).passRest = s.passRest := by
  unfold updateNvsResult
  extract_lets noted
  split_ifs
  · rfl
  · exact markPersisted_rest _ _

def OpWritable (s : DmStore) : DmOp → Prop
  | .append a _ _ => AppendReady s a → digestUnused s a
  | .merge stored => MergeWritable s stored.blob
  | .reconcile stored generationMatches =>
    generationMatches = true → MergeWritable s stored.blob
  | _ => True

theorem Writable.step {s : DmStore} (op : DmOp) (h : Writable s) (hop : OpWritable s op) :
    Writable (stepStore s op) := by
  cases op with
  | append a nowMs random =>
    refine h.mutated (appendInternal_mutated s a nowMs random) fun a' nowMs' random' heq => ?_
    cases heq
    exact hop
  | reserveAck identityDigest dispatchKind flushNow =>
    have hm := reserveAckDispatch_mutated s identityDigest dispatchKind flushNow
    exact h.mutated hm fun _ _ _ heq => DmOp.noConfusion heq
  | rebindAck rowSeq identityDigest dispatchKind =>
    have hm := rebindPendingAckDispatch_mutated s rowSeq identityDigest dispatchKind
    exact h.mutated hm fun _ _ _ heq => DmOp.noConfusion heq
  | completeAck rowSeq identityDigest sent error =>
    have hm := completeAckDispatch_mutated s rowSeq identityDigest sent error
    exact h.mutated hm fun _ _ _ heq => DmOp.noConfusion heq
  | transition a =>
    have hm := transitionDelivery_mutated s a
    exact h.mutated hm fun _ _ _ heq => DmOp.noConfusion heq
  | clear lineage => exact h.clearStore lineage
  | normalize => exact h.normalizeInterrupted
  | merge stored => exact h.mergePrimary ((blobIsValid_iff _).mp stored.valid) hop
  | reconcile stored generationMatches => exact h.reconcileLocked hop
  | reconcileNotFound => exact h.of_same (sameHistory_reconcileNotFound s)
  | reconcileFailed failure => exact h.of_same ⟨rfl, rfl, rfl, rfl, rfl, rfl⟩
  | persistBegin sdPrimaryRequired generation attemptMs force =>
    exact h.of_same (sameHistory_of_rest (persistBegin_rest s sdPrimaryRequired generation attemptMs force))
  | persistFinish snapshot sdPrimaryRequired sdRet nvsRet =>
    exact h.of_same (sameHistory_of_rest (persistFinish_rest s snapshot sdPrimaryRequired sdRet nvsRet))
  | nvsResult nvsRet snapshotRevision sdPrimaryRequired =>
    exact h.of_same (sameHistory_of_rest (updateNvsResult_rest s nvsRet snapshotRevision sdPrimaryRequired))

inductive StartStore : DmStore → Prop
  | empty (base : DmStore) (sdPrimaryRequired : Bool) (generation : Nat) :
      StartStore { resetStore base sdPrimaryRequired generation with loaded := true }
  | decoded (base : DmStore) (raw : RawBlob) (blob : DmBlob) (upgrade : Bool)
      (accepted : decodeRawBlob raw = .ok (blob, upgrade)) : StartStore (loadBlob base blob)

theorem StartStore.writable {s : DmStore} (h : StartStore s) : Writable s := by
  cases h with
  | empty base sdPrimaryRequired generation =>
    exact ⟨Nat.one_ne_zero, Nat.one_ne_zero, Nat.one_ne_zero, Nat.zero_le _, RowsValid.empty _⟩
  | decoded base raw blob upgrade accepted =>
    exact writable_loadBlob base ((blobIsValid_iff _).mp (decodeRawBlob_valid accepted))

theorem run_writes_valid_blobs (s : DmStore) (ops : List DmOp) (hs : StartStore s)
    (hok : RunOk stepStore OpWritable s ops) :
    blobIsValid (fillBlob (runSteps stepStore s ops)) = true := by
  have hrun : Writable (runSteps stepStore s ops) :=
    run_invariant (fun _ op h hop => h.step op hop) hok hs.writable
  exact (blobIsValid_fillBlob_iff _).mpr hrun

def offeredArgs (identityDigest : Digest) : AppendArgs :=
  appendRxIdentity
    { contactFingerprint := some (.lit [97, 49]), contactAlias := none
      text := some (.lit [104, 105]), rssiDbm := -80, snrTenths := 55, pathHashBytes := 1
      pathHops := 0, attempt := 0, ackHash := 0 } identityDigest

def offeredRun : List DmOp :=
  [.append (offeredArgs 7) 10 fun _ => 1, .append (offeredArgs 8) 20 fun _ => 1,
    .reserveAck 7 1 false, .completeAck 1 7 true espOk, .normalize]

theorem run_writes_valid_blobs_two_digests :
    blobIsValid (fillBlob (runSteps stepStore loadedStore offeredRun)) = true :=
  run_writes_valid_blobs loadedStore offeredRun (.empty bootStore false 0) (by
    refine ⟨fun _ identityDigest _ => ?_, fun _ identityDigest h => ?_, trivial, trivial, trivial,
      trivial⟩
    · have hempty : retainedRows loadedStore = [] := by decide
      intro e he
      rw [hempty] at he
      exact absurd he List.not_mem_nil
    · obtain rfl : 8 = identityDigest := Option.some.inj h
      decide +kernel)

/-- Every merge of the run returns `ESP_OK`. -/
def mergeReturnsOk (s : DmStore) : DmOp → Prop
  | .merge stored => (mergePrimary s stored.blob).ret = espOk
  | .reconcile stored _ => (mergePrimary s stored.blob).ret = espOk
  | _ => True

/-- The same digest twice: two rows carry it, and the blob is refused. -/
theorem digest_offered_twice_is_refused :
    ¬ ∀ (s : DmStore) (ops : List DmOp), StartStore s → RunOk stepStore mergeReturnsOk s ops →
      blobIsValid (fillBlob (runSteps stepStore s ops)) = true := by
  intro h
  have hvalid := h loadedStore
    [.append (offeredArgs 7) 10 fun _ => 1, .append (offeredArgs 7) 20 fun _ => 1]
    (.empty bootStore false 0) ⟨trivial, trivial, trivial⟩
  have hrefused : blobIsValid (fillBlob (runSteps stepStore loadedStore
      [.append (offeredArgs 7) 10 fun _ => 1, .append (offeredArgs 7) 20 fun _ => 1])) = false := by
    decide +kernel
  exact Bool.noConfusion (hvalid.symm.trans hrefused)

end Sigui.Dm

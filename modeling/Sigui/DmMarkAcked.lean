import Sigui.DmSessions

/-! `d1l_dm_store_mark_acked`: which row a received ACK is credited to. The row is the first
outbound one in slot order that carries the hash, whatever its state. -/
namespace Sigui.Dm

structure FlushAnswers where
  known : Bool
  sdPrimaryRequired : Bool
  generation : Nat
  attemptMs : Nat
  card : ReconcileRead
  failure : ∀ error, card = .failed error → error ≠ espOk
  sdRet : EspErr
  nvsRet : EspErr

def flushSnapshot (s : DmStore) (b : FlushAnswers) : DmStore × EspErr :=
  let snapshot := takeSnapshot s b.sdPrimaryRequired
  let sdRet := attemptedRet snapshot.sdAttempt b.sdRet
  let nvsRet := attemptedRet snapshot.nvsAttempt b.nvsRet
  if sdRet = espErrNotFinished then (s, sdRet)
  else
    let written := persistFinish s snapshot b.sdPrimaryRequired sdRet nvsRet
    (written,
      if sdRet ≠ espOk then sdRet
      else if nvsRet ≠ espOk then nvsRet
      else if persistenceDirty written b.sdPrimaryRequired then espErrInvalidState
      else espOk)

/-- `persist_nvs_after_reconcile_failure`; the flush returns what the reconcile did. -/
def flushFallback (s : DmStore) (b : FlushAnswers) (reconcileRet : EspErr) : DmStore × EspErr :=
  (if s.nvsFallbackDirty then updateNvsResult s b.nvsRet s.stateRevision b.sdPrimaryRequired
    else s, reconcileRet)

/-- `d1l_dm_store_flush` on a loaded store, no other caller coming between its locked sections. -/
def flushStore (s : DmStore) (b : FlushAnswers) : DmStore × EspErr :=
  if !b.known then (s, espErrInvalidState)
  else
    match persistBegin s b.sdPrimaryRequired b.generation b.attemptMs true with
    | (begun, .finished ret) => (begun, ret)
    | (begun, .proceed false) => flushSnapshot begun b
    | (begun, .proceed true) =>
      match b.card with
      | .unfinished => (begun, espErrNotFinished)
      | .failed error => flushFallback (noteSdReconcileFailure begun error) b error
      | .notFound => flushSnapshot (reconcileNotFound begun) b
      | .found stored generationMatches =>
        let (merged, ret) := reconcileLocked begun stored generationMatches
        if ret = espOk then flushSnapshot merged b
        else flushFallback (noteSdReconcileFailure merged ret) b ret

structure Flushed (s t : DmStore) : Prop where
  pending : t.ackPersistencePending = []
  loaded : s.loaded = true → t.loaded = true

theorem mergePrimary_loaded (s : DmStore) (primary : DmBlob) :
    (mergePrimary s primary).store.loaded = s.loaded := by
  refine @mergePrimary_induct s primary (fun t => t.loaded = s.loaded) rfl ?_ ?_
  · unfold mergeSameEpoch
    cases mergeCandidates s primary <;> rfl
  · refine @mergeOverlay_induct s primary (fun t => t.loaded = s.loaded) rfl rfl
      (fun acc e acc' _ hacc hstep => ?_) fun _ _ _ _ h => h
    cases hstep
    all_goals exact hacc

theorem reconcileLocked_loaded (s : DmStore) (stored : StoredBlob) (generationMatches : Bool) :
    (reconcileLocked s stored generationMatches).1.loaded = s.loaded := by
  have hmerged := mergePrimary_loaded s stored.blob
  unfold reconcileLocked
  dsimp only
  split_ifs
  · exact hmerged
  · exact hmerged
  · exact hmerged

theorem persistBegin_finished {s t : DmStore} {sdPrimaryRequired : Bool}
    {generation attemptMs : Nat}
    (h : persistBegin s sdPrimaryRequired generation attemptMs true = (t, .finished espOk)) :
    t.ackPersistencePending = [] := by
  unfold persistBegin at h
  by_cases hloaded : s.loaded = true
  swap
  · rw [if_pos (by simpa using hloaded)] at h
    exact absurd (PersistStart.finished.inj (Prod.mk.inj h).2) (by decide)
  rw [if_neg (by simpa using hloaded)] at h
  extract_lets looked required retryReady pending waiting at h
  by_cases hclean : (!persistenceDirty required sdPrimaryRequired) = true
  · rw [if_pos hclean] at h
    rw [← (Prod.mk.inj h).1]
  rw [if_neg hclean] at h
  by_cases hlater : (required.retryPending && !retryReady) = true
  · -- a forced flush that comes too early returns the error it is still waiting to retry
    rw [if_pos hlater] at h
    have hwaiting : waiting = espOk := PersistStart.finished.inj (Prod.mk.inj h).2
    by_cases hpending : pending = espOk
    · have hstate : waiting = espErrInvalidState := if_pos hpending
      exact absurd (hstate.symm.trans hwaiting) (by decide)
    · have hsame : waiting = pending := if_neg hpending
      exact absurd (hsame.symm.trans hwaiting) hpending
  · rw [if_neg hlater] at h
    exact PersistStart.noConfusion (Prod.mk.inj h).2

theorem persistFinish_clean {s : DmStore} {snapshot : PersistSnapshot} {sdPrimaryRequired : Bool}
    {sdRet nvsRet : EspErr}
    (h : persistenceDirty (persistFinish s snapshot sdPrimaryRequired sdRet nvsRet)
      sdPrimaryRequired = false) :
    (persistFinish s snapshot sdPrimaryRequired sdRet nvsRet).ackPersistencePending = [] := by
  unfold persistFinish at h ⊢
  dsimp only at h ⊢
  by_cases hdirty : persistenceDirty (noteNvsWrite (noteSdWrite s snapshot sdRet) snapshot nvsRet)
      sdPrimaryRequired = true
  · rw [if_pos hdirty] at h
    exact absurd (h.symm.trans hdirty) Bool.false_ne_true
  · rw [if_neg hdirty]
    unfold markPersisted
    split_ifs <;> rfl

theorem flushSnapshot_flushed {s : DmStore} {b : FlushAnswers}
    (h : (flushSnapshot s b).2 = espOk) : Flushed s (flushSnapshot s b).1 := by
  unfold flushSnapshot at h ⊢
  dsimp only at h ⊢
  by_cases hunfinished : attemptedRet (takeSnapshot s b.sdPrimaryRequired).sdAttempt b.sdRet =
      espErrNotFinished
  · rw [if_pos hunfinished] at h
    exact absurd (hunfinished.symm.trans h) (by decide)
  rw [if_neg hunfinished] at h ⊢
  dsimp only at h ⊢
  split_ifs at h with hsd hnvs hdirty
  · exact absurd h hsd
  · exact absurd h hnvs
  · exact absurd h (by decide)
  refine ⟨persistFinish_clean (by simpa using hdirty), fun hloaded => ?_⟩
  exact (congrArg DmStore.loaded (persistFinish_rest s _ _ _ _) :).trans hloaded

theorem flushStore_flushed {s : DmStore} {b : FlushAnswers} (h : (flushStore s b).2 = espOk) :
    Flushed s (flushStore s b).1 := by
  unfold flushStore at h ⊢
  by_cases hknown : b.known = true
  swap
  · rw [if_pos (by simpa using hknown)] at h
    exact absurd h (show espErrInvalidState ≠ espOk by decide)
  rw [if_neg (by simpa using hknown)] at h ⊢
  have hbegun := congrArg DmStore.loaded
    (persistBegin_rest s b.sdPrimaryRequired b.generation b.attemptMs true)
  cases hbegin : persistBegin s b.sdPrimaryRequired b.generation b.attemptMs true with
  | mk begun start =>
    rw [hbegin] at h hbegun
    cases start with
    | finished ret =>
      obtain rfl : ret = espOk := h
      exact ⟨persistBegin_finished hbegin, fun hloaded => hbegun.trans hloaded⟩
    | proceed reconcileAttempt =>
      cases reconcileAttempt with
      | false =>
        have hflushed := flushSnapshot_flushed h
        exact ⟨hflushed.pending, fun hloaded => hflushed.loaded (hbegun.trans hloaded)⟩
      | true =>
        dsimp only at h ⊢
        cases hcard : b.card with
        | unfinished =>
          rw [hcard] at h
          exact absurd h (show espErrNotFinished ≠ espOk by decide)
        | failed error =>
          rw [hcard] at h
          exact absurd h (b.failure error hcard)
        | notFound =>
          rw [hcard] at h
          have hflushed := flushSnapshot_flushed h
          exact ⟨hflushed.pending, fun hloaded => hflushed.loaded (hbegun.trans hloaded)⟩
        | found stored generationMatches =>
          rw [hcard] at h
          dsimp only at h ⊢
          by_cases hret : (reconcileLocked begun stored generationMatches).2 = espOk
          swap
          · rw [if_neg hret] at h
            exact absurd h hret
          rw [if_pos hret] at h ⊢
          have hflushed := flushSnapshot_flushed h
          refine ⟨hflushed.pending, fun hloaded => hflushed.loaded ?_⟩
          rw [reconcileLocked_loaded]
          exact hbegun.trans hloaded

/-- The delivery state and revision of a row with an ACK that is not stored yet undone. -/
def publicState (s : DmStore) (e : DmEntry) : DeliveryState :=
  match findAckPersistencePending s e.deliverySessionId e.deliveryRevision with
  | some pending => pending.previousState
  | none => e.deliveryState

def publicRevision (s : DmStore) (e : DmEntry) : Nat :=
  match findAckPersistencePending s e.deliverySessionId e.deliveryRevision with
  | some pending => pending.previousRevision
  | none => e.deliveryRevision

/-- The first slot in use with an outbound row that carries the hash. -/
def findAckHash (s : DmStore) (ackHash : Nat) : Option (Fin dmStoreCapacity) :=
  s.entries.findRaw fun e => e.ackHash = ackHash && e.outbound

structure MarkAcked where
  store : DmStore
  ret : EspErr
  entry : Option DmEntry := none

/-- The second scan: the row of the session as a public read shows it. -/
def readBack (s : DmStore) (deliverySessionId : UInt64) : Option DmEntry :=
  (findDeliverySession s deliverySessionId).map fun k =>
    projectAckPersistenceTruth s (s.entries.slots k)

/-- `d1l_dm_store_mark_acked`; a store that is not loaded refuses, init has run beforehand. -/
def markAcked (s : DmStore) (b : FlushAnswers) (ackHash : Nat) : MarkAcked :=
  if ackHash = 0 then { store := s, ret := espErrInvalidArg }
  else if !s.loaded then { store := s, ret := espErrInvalidState }
  else
    match findAckHash s ackHash with
    | none => { store := s, ret := espErrNotFound }
    | some k =>
      let sessionId := (s.entries.slots k).deliverySessionId
      if sessionId = 0 then { store := s, ret := espErrNotFound }
      else
        match markAckedRequest s ackHash with
        | none => { store := s, ret := espOk, entry := readBack s sessionId }
        | some request =>
          let (moved, outcome) := transitionDelivery s request
          if outcome.error = espOk then
            let (flushed, ret) := flushStore moved b
            { store := flushed, ret := ret, entry := readBack flushed sessionId }
          else { store := moved, ret := outcome.error, entry := readBack moved sessionId }

/-- The transition asked of a row, as its public state and revision stand. -/
def ackRequest (s : DmStore) (e : DmEntry) : TransitionArgs :=
  { deliverySessionId := e.deliverySessionId, expectedState := publicState s e
    expectedDeliveryRevision := publicRevision s e, nextState := .acknowledged
    reason := .ackReceived, error := espOk, rebindRetryAck := false, retryAckHash := 0
    flushNow := true }

theorem markAckedRequest_eq {s : DmStore} {ackHash : Nat} {k : Fin dmStoreCapacity}
    (hhash : ackHash ≠ 0) (hfind : findAckHash s ackHash = some k)
    (hsession : (s.entries.slots k).deliverySessionId ≠ 0) :
    markAckedRequest s ackHash =
      if publicState s (s.entries.slots k) = .acknowledged then none
      else some (ackRequest s (s.entries.slots k)) := by
  unfold findAckHash at hfind
  unfold markAckedRequest ackRequest publicState publicRevision
  rw [hfind]
  dsimp only
  cases findAckPersistencePending s (s.entries.slots k).deliverySessionId
      (s.entries.slots k).deliveryRevision <;> simp [hhash, hsession]

def carriesHash (ackHash : Nat) (e : DmEntry) : Bool := e.ackHash = ackHash && e.outbound

def closable (s : DmStore) (e : DmEntry) : Bool :=
  deliveryTransitionAllowed (publicState s e) .acknowledged

def ackStands (s : DmStore) (e : DmEntry) : Bool :=
  (findAckPersistencePending s e.deliverySessionId e.deliveryRevision).isSome &&
    e.deliveryState = .acknowledged && e.deliveryReason = .ackReceived &&
    e.deliveryLastError = espOk

/-- The row can be acknowledged: the side table has room for it, or holds its ACK already. -/
def ackPossible (s : DmStore) (e : DmEntry) : Bool :=
  closable s e && ((reserveAckPersistencePending s e).isSome || ackStands s e)

/-- The row in slot `k` after a call that credited the ACK to it. -/
structure Credited (ackHash : Nat) (k : Fin dmStoreCapacity) (r : MarkAcked) : Prop where
  used : r.store.entries.Used k
  hash : carriesHash ackHash (r.store.entries.slots k) = true
  state : publicState r.store (r.store.entries.slots k) = .acknowledged
  entry : r.entry = some (r.store.entries.slots k)

/-- The call credits an ACK that some row can take to such a row, leaves the rows of other hashes
alone, and once it has succeeded a repetition does nothing. -/
structure AckFindsMessage (s : DmStore) (b : FlushAnswers) (ackHash : Nat) : Prop where
  finds : (∃ j, s.entries.Used j ∧ carriesHash ackHash (s.entries.slots j) = true ∧
      closable s (s.entries.slots j) = true) →
    (markAcked s b ackHash).ret = espOk ∧
      ∃ k, s.entries.Used k ∧ carriesHash ackHash (s.entries.slots k) = true ∧
        closable s (s.entries.slots k) = true ∧ Credited ackHash k (markAcked s b ackHash)
  others : ∀ k, s.entries.Used k → (s.entries.slots k).ackHash ≠ ackHash →
    (markAcked s b ackHash).store.entries.Used k ∧
      (markAcked s b ackHash).store.entries.slots k = s.entries.slots k
  again : (markAcked s b ackHash).ret = espOk →
    ∀ b', markAcked (markAcked s b ackHash).store b' ackHash = markAcked s b ackHash

/-- The flush of the call succeeds and writes the ring as it stands: where it reads the card
back first, the merge finds nothing to change. -/
def FlushSucceeds (s : DmStore) (b : FlushAnswers) (ackHash : Nat) : Prop :=
  ∀ request, markAckedRequest s ackHash = some request →
    (transitionDelivery s request).2.error = espOk →
    (flushStore (transitionDelivery s request).1 b).2 = espOk ∧
      (flushStore (transitionDelivery s request).1 b).1.entries =
        (transitionDelivery s request).1.entries

/-- If a row can still take the ACK, the first row with the hash is one that can. -/
def firstRowTakesAck (s : DmStore) (ackHash : Nat) : Prop :=
  (∃ j, s.entries.Used j ∧ carriesHash ackHash (s.entries.slots j) = true ∧
      closable s (s.entries.slots j) = true) →
    ackHash ≠ 0 ∧ ∃ k, findAckHash s ackHash = some k ∧ ackPossible s (s.entries.slots k) = true

section Row

variable {s : DmStore} {k : Fin dmStoreCapacity} {e : DmEntry}

theorem findDeliverySession_of_slot (h : SessionsApart s.rows) (hused : s.entries.Used k)
    (hsession : (s.entries.slots k).deliverySessionId ≠ 0) :
    findDeliverySession s (s.entries.slots k).deliverySessionId = some k := by
  cases hfind : findDeliverySession s (s.entries.slots k).deliverySessionId with
  | none =>
    have hnot := AnchoredRing.findRaw_eq_none hfind _ (Ring.slots_mem_of_used hused)
    simp at hnot
  | some j =>
    obtain ⟨hj, hsame⟩ := findDeliverySession_eq_some hfind
    by_contra hne
    have hjk : j ≠ k := fun heq => hne (by rw [heq])
    rcases Ring.used_pairwise h hj hused hjk with hzero | hzero
    · exact hsession (hsame.symm.trans (hzero hsame))
    · exact hsession (hzero hsame.symm)

theorem findAckHash_eq_some {ackHash : Nat} (h : findAckHash s ackHash = some k) :
    s.entries.Used k ∧ carriesHash ackHash (s.entries.slots k) = true :=
  AnchoredRing.findRaw_eq_some h

theorem carriesHash_iff {ackHash : Nat} :
    carriesHash ackHash e = true ↔ e.ackHash = ackHash ∧ e.outbound = true := by
  simp [carriesHash]

theorem SessionInv.found (h : SessionInv s) {p : AckPersistencePending}
    (hrevision : e.deliveryRevision ≠ 0)
    (hfind : findAckPersistencePending s e.deliverySessionId e.deliveryRevision = some p) :
    e.deliveryRevision = p.previousRevision + 1 ∧ p.previousRevision ≠ 0 ∧
      p.previousRevision ≠ uint32Max ∧ p.deliverySessionId = e.deliverySessionId := by
  have hsound := h.pending p (List.mem_of_find?_eq_some hfind)
  have hmatch := List.find?_some hfind
  simp only [hrevision, decide_false, Bool.false_or, Bool.and_eq_true, decide_eq_true_eq] at hmatch
  exact ⟨hmatch.2.symm.trans hsound.target, hsound.previous, hsound.room, hmatch.1⟩

theorem SessionInv.publicRevision_ne_zero (h : SessionInv s) (hrevision : e.deliveryRevision ≠ 0) :
    publicRevision s e ≠ 0 := by
  unfold publicRevision
  cases hfind : findAckPersistencePending s e.deliverySessionId e.deliveryRevision with
  | none => exact hrevision
  | some p => exact (h.found hrevision hfind).2.1

theorem SessionInv.persistenceRetry_iff (h : SessionInv s) (he : RowSound e)
    (hout : e.outbound = true) :
    isPersistenceRetry e (ackRequest s e) = true ↔
      closable s e = true ∧ ackStands s e = true := by
  have hsound := (deliveryMetadataIsValid_outbound_iff hout).mp he.delivery
  cases hfind : findAckPersistencePending s e.deliverySessionId e.deliveryRevision with
  | none =>
    have hpublic : publicState s e = e.deliveryState := by
      unfold publicState
      rw [hfind]
    constructor
    · intro hretry
      simp only [isPersistenceRetry, ackRequest, hpublic, Bool.and_eq_true,
        decide_eq_true_eq] at hretry
      obtain ⟨⟨⟨⟨⟨⟨⟨-, hstate⟩, -⟩, -⟩, -⟩, -⟩, -⟩, hallowed⟩ := hretry
      rw [hstate] at hallowed
      exact absurd hallowed (by decide)
    · rintro ⟨-, hstands⟩
      simp [ackStands, hfind] at hstands
  | some p =>
    obtain ⟨htarget, -, hroom, -⟩ := h.found hsound.revision hfind
    have hrevision : publicRevision s e = p.previousRevision := by
      unfold publicRevision
      rw [hfind]
    have hnext := decide_eq_true htarget
    simp only [isPersistenceRetry, ackRequest, closable, ackStands, hfind, hrevision, hroom,
      hnext, hsound.acked, hsound.delivered, Option.isSome_some, Bool.and_eq_true,
      decide_eq_true_eq, ne_eq, not_false_eq_true, decide_true, true_and, and_true]
    tauto

theorem publicState_of_reserved {p : AckPersistencePending}
    (h : reserveAckPersistencePending s e = some p) :
    publicState s e = e.deliveryState ∧ publicRevision s e = e.deliveryRevision := by
  unfold reserveAckPersistencePending at h
  split_ifs at h with hrow hentry hfull
  have hnone : findAckPersistencePending s e.deliverySessionId e.deliveryRevision = none := by
    apply List.find?_eq_none.mpr
    intro q hq hmatch
    apply hentry
    exact List.any_eq_true.mpr ⟨q, hq, (Bool.and_eq_true_iff.mp hmatch).1⟩
  unfold publicState publicRevision
  rw [hnone]
  exact ⟨rfl, rfl⟩

theorem transitionRefused_ackRequest {p : AckPersistencePending} (hout : e.outbound = true)
    (hroom : reserveAckPersistencePending s e = some p) :
    transitionRefused e (ackRequest s e) = !closable s e := by
  obtain ⟨hstate, hrevision⟩ := publicState_of_reserved hroom
  have hcounter : e.deliveryRevision ≠ uint32Max := by
    unfold reserveAckPersistencePending at hroom
    split_ifs at hroom with hrow
    intro hmax
    exact hrow (Bool.or_eq_true_iff.mpr (.inr (decide_eq_true hmax)))
  simp [transitionRefused, ackRequest, closable, hout, hstate, hrevision, hcounter,
    deliveryReasonMatchesTarget, deliveryStateIsFailure, advancesAttempt]

end Row

section Call

variable {s : DmStore} {b : FlushAnswers} {ackHash : Nat} {k : Fin dmStoreCapacity}

inductive AckMoved (s : DmStore) (k : Fin dmStoreCapacity) : DmStore → Prop
  | repeated (stands : ackStands s (s.entries.slots k) = true) : AckMoved s k s
  | taken (p : AckPersistencePending)
      (room : reserveAckPersistencePending s (s.entries.slots k) = some p) :
      AckMoved s k
        (updateRow { s with ackPersistencePending := s.ackPersistencePending ++ [p] } k
          (applyDeliveryTransition (ackRequest s (s.entries.slots k))))

/-- What the transition to ACKNOWLEDGED does to the row in slot `k`. -/
inductive AckOutcome (s : DmStore) (k : Fin dmStoreCapacity) : DmStore → EspErr → Prop
  | moved {t : DmStore} (possible : ackPossible s (s.entries.slots k) = true)
      (moved : AckMoved s k t) : AckOutcome s k t espOk
  | refused (error : EspErr) (isError : error ≠ espOk)
      (impossible : ackPossible s (s.entries.slots k) = false) : AckOutcome s k s error

theorem SessionInv.ackOutcome (h : SessionInv s) (hloaded : s.loaded = true)
    (hused : s.entries.Used k) (hout : (s.entries.slots k).outbound = true) :
    AckOutcome s k (transitionDelivery s (ackRequest s (s.entries.slots k))).1
      (transitionDelivery s (ackRequest s (s.entries.slots k))).2.error := by
  have hrow := h.sound _ (Ring.slots_mem_of_used hused)
  obtain ⟨hsession, hrevision⟩ := outbound_revision hrow hout
  have hpublic := h.publicRevision_ne_zero (e := s.entries.slots k) hrevision
  have hargs : transitionArgsRefused (ackRequest s (s.entries.slots k)) = false := by
    simp [transitionArgsRefused, ackRequest, hsession, hpublic]
  have hfind := findDeliverySession_of_slot h.apart.rows hused hsession
  have hretry := h.persistenceRetry_iff hrow hout
  unfold transitionDelivery
  rw [if_neg (by simp [hargs]), if_neg (by simp [hloaded])]
  have hfindRequest : findDeliverySession s
      (ackRequest s (s.entries.slots k)).deliverySessionId = some k := hfind
  have hrebind : rebindRefused (ackRequest s (s.entries.slots k)) = false := rfl
  rw [hfindRequest]
  dsimp only
  rw [if_neg (by simp [hrebind])]
  by_cases hrepeated : isPersistenceRetry (s.entries.slots k)
      (ackRequest s (s.entries.slots k)) = true
  · obtain ⟨hclosable, hstands⟩ := hretry.mp hrepeated
    rw [if_pos hrepeated]
    exact .moved (by simp [ackPossible, hclosable, hstands]) (.repeated hstands)
  rw [if_neg hrepeated]
  have hnext : (ackRequest s (s.entries.slots k)).nextState = .acknowledged := rfl
  cases hroom : reserveAckPersistencePending s (s.entries.slots k) with
  | none =>
    rw [if_pos (by simp [hnext])]
    refine .refused _ (show espErrNoMem ≠ espOk by decide) ?_
    by_contra hpossible
    simp only [ackPossible, hroom, Option.isSome_none, Bool.false_or, Bool.not_eq_false,
      Bool.and_eq_true] at hpossible
    exact hrepeated (hretry.mpr hpossible)
  | some p =>
    rw [if_neg (by simp)]
    have hrefused := transitionRefused_ackRequest hout hroom
    by_cases hclosable : closable s (s.entries.slots k) = true
    · rw [if_neg (by simp [hrefused, hclosable]), if_pos hnext]
      exact .moved (by simp [ackPossible, hclosable, hroom]) (.taken p hroom)
    · rw [if_pos (by simp [hrefused, hclosable])]
      exact .refused _ (show espErrInvalidState ≠ espOk by decide)
        (by simp [ackPossible, hclosable])

inductive Marked (s : DmStore) (b : FlushAnswers) (ackHash : Nat) : MarkAcked → Prop
  | refused (r : MarkAcked) (store : r.store = s) (ret : r.ret ≠ espOk)
      (impossible : ackHash ≠ 0 → ∀ k, findAckHash s ackHash = some k →
        ackPossible s (s.entries.slots k) = false) : Marked s b ackHash r
  | already (k : Fin dmStoreCapacity) (hash : ackHash ≠ 0) (first : findAckHash s ackHash = some k)
      (state : publicState s (s.entries.slots k) = .acknowledged) :
      Marked s b ackHash
        { store := s, ret := espOk, entry := readBack s (s.entries.slots k).deliverySessionId }
  | credited (k : Fin dmStoreCapacity) (moved : DmStore) (hash : ackHash ≠ 0)
      (first : findAckHash s ackHash = some k)
      (possible : ackPossible s (s.entries.slots k) = true) (acked : AckMoved s k moved)
      (run : moved = (transitionDelivery s (ackRequest s (s.entries.slots k))).1)
      (flushed : (flushStore moved b).2 = espOk)
      (kept : (flushStore moved b).1.entries = moved.entries) :
      Marked s b ackHash
        { store := (flushStore moved b).1, ret := espOk
          entry := readBack (flushStore moved b).1 (s.entries.slots k).deliverySessionId }

theorem SessionInv.marked (h : SessionInv s) (hloaded : s.loaded = true)
    (hflush : FlushSucceeds s b ackHash) : Marked s b ackHash (markAcked s b ackHash) := by
  unfold markAcked
  by_cases hhash : ackHash = 0
  · rw [if_pos hhash]
    exact .refused _ rfl (show espErrInvalidArg ≠ espOk by decide) fun hne => absurd hhash hne
  rw [if_neg hhash, if_neg (by simp [hloaded])]
  cases hfirst : findAckHash s ackHash with
  | none =>
    refine .refused _ rfl (show espErrNotFound ≠ espOk by decide) fun _ k hk => ?_
    rw [hfirst] at hk
    cases hk
  | some k =>
    obtain ⟨hused, hcarries⟩ := findAckHash_eq_some hfirst
    have hout := (carriesHash_iff.mp hcarries).2
    have hsession := (outbound_revision (h.sound _ (Ring.slots_mem_of_used hused)) hout).1
    have hrequest := markAckedRequest_eq hhash hfirst hsession
    dsimp only
    rw [if_neg hsession]
    by_cases hstate : publicState s (s.entries.slots k) = .acknowledged
    · rw [hrequest, if_pos hstate]
      exact .already k hhash hfirst hstate
    rw [if_neg hstate] at hrequest
    have houtcome := h.ackOutcome hloaded hused hout
    have hflushed := hflush _ hrequest
    rw [hrequest]
    dsimp only
    generalize hrun : transitionDelivery s (ackRequest s (s.entries.slots k)) = result
      at houtcome hflushed ⊢
    obtain ⟨moved, outcome⟩ := result
    dsimp only at houtcome hflushed ⊢
    generalize herror : outcome.error = error at houtcome hflushed ⊢
    cases houtcome with
    | moved possible acked =>
      obtain ⟨hret, hkept⟩ := hflushed rfl
      rw [if_pos rfl, hret]
      exact .credited k moved hhash hfirst possible acked (by rw [hrun]) hret hkept
    | refused error isError impossible =>
      rw [if_neg isError]
      refine .refused _ rfl isError fun _ j hj => ?_
      obtain rfl := Option.some.inj (hfirst.symm.trans hj)
      exact impossible

/-- The ring before and after an ACK is credited to the row in slot `k`. -/
structure AckShown (s t : DmStore) (k : Fin dmStoreCapacity) : Prop where
  count : t.entries.count = s.entries.count
  others : ∀ j, j ≠ k → t.entries.slots j = s.entries.slots j
  state : (t.entries.slots k).deliveryState = .acknowledged
  frozen : (t.entries.slots k).frozen = (s.entries.slots k).frozen

theorem AckMoved.shown {t : DmStore} (h : AckMoved s k t) : AckShown s t k := by
  cases h with
  | repeated stands =>
    simp only [ackStands, Bool.and_eq_true, decide_eq_true_eq] at stands
    exact ⟨rfl, fun _ _ => rfl, stands.1.1.2, rfl⟩
  | taken p room =>
    have hslot : (s.entries.modify k
        (applyDeliveryTransition (ackRequest s (s.entries.slots k)))).slots k =
        applyDeliveryTransition (ackRequest s (s.entries.slots k)) (s.entries.slots k) :=
      Function.update_self _ _ _
    refine ⟨rfl, fun j hj => Function.update_of_ne hj _ _, ?_, ?_⟩
    · exact congrArg DmEntry.deliveryState hslot
    · exact (congrArg DmEntry.frozen hslot).trans rfl

theorem AckShown.carriesHash {t : DmStore} (h : AckShown s t k) :
    carriesHash ackHash (t.entries.slots k) = carriesHash ackHash (s.entries.slots k) := by
  change Dm.carriesHash ackHash (t.entries.slots k).frozen =
    Dm.carriesHash ackHash (s.entries.slots k).frozen
  rw [h.frozen]

theorem AckShown.used {t : DmStore} (h : AckShown s t k) (j : Fin dmStoreCapacity) :
    t.entries.Used j ↔ s.entries.Used j := by
  rw [AnchoredRing.used_iff, AnchoredRing.used_iff, h.count]

theorem AckShown.first {t : DmStore} (h : AckShown s t k) :
    findAckHash t ackHash = findAckHash s ackHash := by
  refine AnchoredRing.findRaw_congr h.count fun j => ?_
  by_cases hj : j = k
  · rw [hj]
    exact h.carriesHash
  · rw [h.others j hj]

theorem publicState_of_noPending (hpending : s.ackPersistencePending = []) (e : DmEntry) :
    publicState s e = e.deliveryState := by
  unfold publicState findAckPersistencePending
  rw [hpending]
  rfl

theorem projectAckPersistenceTruth_of_noPending (hpending : s.ackPersistencePending = [])
    (e : DmEntry) : projectAckPersistenceTruth s e = e := by
  unfold projectAckPersistenceTruth findAckPersistencePending
  rw [hpending]
  split_ifs <;> rfl

theorem markAcked_already (hloaded : s.loaded = true) (hhash : ackHash ≠ 0)
    (hfirst : findAckHash s ackHash = some k)
    (hsession : (s.entries.slots k).deliverySessionId ≠ 0)
    (hstate : publicState s (s.entries.slots k) = .acknowledged) :
    markAcked s b ackHash =
      { store := s, ret := espOk
        entry := readBack s (s.entries.slots k).deliverySessionId } := by
  unfold markAcked
  rw [if_neg hhash, if_neg (by simp [hloaded]), hfirst]
  dsimp only
  rw [if_neg hsession, markAckedRequest_eq hhash hfirst hsession, if_pos hstate]

theorem ackPossible_closable {e : DmEntry} (h : ackPossible s e = true) : closable s e = true :=
  (Bool.and_eq_true_iff.mp h).1

theorem not_closable_of_acknowledged {e : DmEntry} (h : publicState s e = .acknowledged) :
    closable s e = false := by
  unfold closable
  rw [h]
  decide

end Call

section Runs

variable {s : DmStore} {b : FlushAnswers} {ackHash : Nat}

/-- The store a credited ACK leaves behind: the row is acknowledged and nothing is hidden. -/
structure CreditedStore (s t : DmStore) (k : Fin dmStoreCapacity) : Prop where
  shown : AckShown s t k
  apart : SessionsApart t.rows
  loaded : t.loaded = true
  pending : t.ackPersistencePending = []

theorem SessionInv.creditedStore (h : SessionInv s) (hloaded : s.loaded = true)
    {k : Fin dmStoreCapacity} {moved t : DmStore} (hacked : AckMoved s k moved)
    (hrun : moved = (transitionDelivery s (ackRequest s (s.entries.slots k))).1)
    (hflushed : Flushed moved t) (hkept : t.entries = moved.entries) : CreditedStore s t k := by
  have hshown := hacked.shown
  have hcalled : SessionInv (stepStore s (.transition (ackRequest s (s.entries.slots k)))) :=
    h.called rfl
  have hinv : SessionInv moved := by
    rw [hrun]
    exact hcalled
  have hmoved : moved.loaded = s.loaded := by
    cases hacked <;> rfl
  refine ⟨⟨?_, ?_, ?_, ?_⟩, ?_, hflushed.loaded (hmoved.trans hloaded), hflushed.pending⟩
  · rw [hkept]
    exact hshown.count
  · rw [hkept]
    exact hshown.others
  · rw [hkept]
    exact hshown.state
  · rw [hkept]
    exact hshown.frozen
  · unfold DmStore.rows
    rw [hkept]
    exact hinv.apart.rows

variable {t : DmStore} {k : Fin dmStoreCapacity}

theorem CreditedStore.publicState (h : CreditedStore s t k) :
    publicState t (t.entries.slots k) = .acknowledged := by
  rw [publicState_of_noPending h.pending]
  exact h.shown.state

theorem CreditedStore.readBack (h : CreditedStore s t k) (hused : s.entries.Used k)
    (hsession : (s.entries.slots k).deliverySessionId ≠ 0) :
    readBack t (s.entries.slots k).deliverySessionId = some (t.entries.slots k) := by
  have hsame := DmEntry.session_of_frozen h.shown.frozen
  have hfind := findDeliverySession_of_slot h.apart ((h.shown.used k).mpr hused)
    (by rw [hsame]; exact hsession)
  unfold Dm.readBack
  rw [← hsame, hfind, Option.map_some, projectAckPersistenceTruth_of_noPending h.pending]

theorem SessionInv.ackFinds_iff (h : SessionInv s) (hloaded : s.loaded = true)
    (hflush : FlushSucceeds s b ackHash) :
    AckFindsMessage s b ackHash ↔ firstRowTakesAck s ackHash := by
  have hmarked := h.marked hloaded hflush
  have hfirstRow : ∀ {k}, findAckHash s ackHash = some k →
      s.entries.Used k ∧ carriesHash ackHash (s.entries.slots k) = true ∧
        (s.entries.slots k).deliverySessionId ≠ 0 := by
    intro k hfirst
    obtain ⟨hused, hcarries⟩ := findAckHash_eq_some hfirst
    have hsound := h.sound _ (Ring.slots_mem_of_used hused)
    exact ⟨hused, hcarries, (outbound_revision hsound (carriesHash_iff.mp hcarries).2).1⟩
  generalize hcall : markAcked s b ackHash = r at hmarked
  cases hmarked with
  | refused r store ret impossible =>
    constructor
    · intro hfinds hsome
      exact absurd (hcall ▸ (hfinds.finds hsome).1) ret
    · intro hfirst
      refine ⟨fun hsome => ?_, fun k hused _ => ?_, fun hret => ?_⟩
      · obtain ⟨hhash, k, hk, hpossible⟩ := hfirst hsome
        exact absurd ((impossible hhash k hk).symm.trans hpossible) Bool.false_ne_true
      · rw [hcall, store]
        exact ⟨hused, rfl⟩
      · rw [hcall] at hret
        exact absurd hret ret
  | already k hash first state =>
    obtain ⟨hused, -, hsession⟩ := hfirstRow first
    constructor
    · intro hfinds hsome
      obtain ⟨-, j, -, -, hclosable, hcredited⟩ := hfinds.finds hsome
      have hshown := hcredited.state
      rw [hcall] at hshown
      have hnot := not_closable_of_acknowledged hshown
      exact absurd (hnot.symm.trans hclosable) Bool.false_ne_true
    · intro hfirst
      refine ⟨fun hsome => ?_, fun j hj _ => ?_, fun _ b' => ?_⟩
      · obtain ⟨-, j, hj, hpossible⟩ := hfirst hsome
        obtain rfl := Option.some.inj (first.symm.trans hj)
        have hnot := not_closable_of_acknowledged state
        exact absurd (hnot.symm.trans (ackPossible_closable hpossible)) Bool.false_ne_true
      · rw [hcall]
        exact ⟨hj, rfl⟩
      · rw [hcall]
        exact markAcked_already hloaded hash first hsession state
  | credited k moved hash first possible acked run flushed kept =>
    obtain ⟨hused, hcarries, hsession⟩ := hfirstRow first
    have hstore := h.creditedStore hloaded acked run (flushStore_flushed flushed) kept
    have hread := hstore.readBack hused hsession
    have hhash : carriesHash ackHash ((flushStore moved b).1.entries.slots k) = true := by
      rw [hstore.shown.carriesHash]
      exact hcarries
    refine iff_of_true ⟨fun _ => ⟨?_, k, hused, hcarries, ackPossible_closable possible, ?_⟩,
      fun j hj hother => ?_, fun _ b' => ?_⟩ fun _ => ⟨hash, k, first, possible⟩
    · rw [hcall]
    · rw [hcall]
      exact ⟨(hstore.shown.used k).mpr hused, hhash, hstore.publicState, hread⟩
    · have hjk : j ≠ k := by
        rintro rfl
        exact hother (carriesHash_iff.mp hcarries).1
      rw [hcall]
      exact ⟨(hstore.shown.used j).mpr hj, hstore.shown.others j hjk⟩
    · have hsame := DmEntry.session_of_frozen hstore.shown.frozen
      rw [hcall]
      have hagain : markAcked (flushStore moved b).1 b' ackHash = _ :=
        markAcked_already hstore.loaded hash (hstore.shown.first.trans first)
          (by rw [hsame]; exact hsession) hstore.publicState
      rw [hagain, hsame]

theorem run_ack_finds_message_iff (acts : List DmAct) (b : FlushAnswers) (ackHash : Nat)
    (hloaded : (runSteps stepDevice powerUp acts).store.loaded = true)
    (hflush : FlushSucceeds (runSteps stepDevice powerUp acts).store b ackHash) :
    AckFindsMessage (runSteps stepDevice powerUp acts).store b ackHash ↔
      firstRowTakesAck (runSteps stepDevice powerUp acts).store ackHash :=
  (run_sessionInv acts).ackFinds_iff hloaded hflush

theorem flushStore_entries (s : DmStore) (b : FlushAnswers)
    (hcard : ∀ stored generationMatches, b.card ≠ .found stored generationMatches) :
    (flushStore s b).1.entries = s.entries := by
  have hbegin := congrArg DmStore.entries
    (persistBegin_rest s b.sdPrimaryRequired b.generation b.attemptMs true)
  have hsnapshot (t : DmStore) : (flushSnapshot t b).1.entries = t.entries := by
    unfold flushSnapshot
    dsimp only
    by_cases hunfinished : attemptedRet (takeSnapshot t b.sdPrimaryRequired).sdAttempt b.sdRet =
        espErrNotFinished
    · rw [if_pos hunfinished]
    · rw [if_neg hunfinished]
      exact (congrArg DmStore.entries (persistFinish_rest t _ _ _ _) :)
  have hfallback (t : DmStore) (ret : EspErr) : (flushFallback t b ret).1.entries = t.entries := by
    unfold flushFallback
    split_ifs
    · exact (congrArg DmStore.entries (updateNvsResult_rest t _ _ _) :)
    · rfl
  unfold flushStore
  by_cases hknown : b.known = true
  swap
  · rw [if_pos (by simpa using hknown)]
  rw [if_neg (by simpa using hknown)]
  cases hstart : persistBegin s b.sdPrimaryRequired b.generation b.attemptMs true with
  | mk begun start =>
    rw [hstart] at hbegin
    cases start with
    | finished ret => exact hbegin
    | proceed reconcileAttempt =>
      cases reconcileAttempt with
      | false => exact (hsnapshot begun).trans hbegin
      | true =>
        cases hread : b.card with
        | unfinished => exact hbegin
        | failed error => exact (hfallback _ error).trans hbegin
        | notFound => exact (hsnapshot _).trans hbegin
        | found stored generationMatches => exact absurd hread (hcard stored generationMatches)

def nvsOnly : FlushAnswers where
  known := true
  sdPrimaryRequired := false
  generation := 0
  attemptMs := 0
  card := .unfinished
  failure := fun _ h => ReconcileRead.noConfusion h
  sdRet := espOk
  nvsRet := espOk

def untilAwaitingAck : List DmAct :=
  [initEmpty, .call (.append sentArgs 10 fun _ => 1),
    .call (transitionTo 1 .queued .waitingRadio .radioReserved),
    .call (transitionTo 2 .waitingRadio .txActive .radioStarted),
    .call (transitionTo 3 .txActive .txDone .radioCompleted),
    .call (transitionTo 4 .txDone .awaitingAck .ackExpected)]

theorem run_ack_finds_message_iff_awaiting :
    AckFindsMessage (runSteps stepDevice powerUp untilAwaitingAck).store nvsOnly 77 ↔
      firstRowTakesAck (runSteps stepDevice powerUp untilAwaitingAck).store 77 := by
  refine run_ack_finds_message_iff untilAwaitingAck nvsOnly 77 (by decide +kernel) ?_
  intro request hrequest _
  have hwritten : ((markAckedRequest (runSteps stepDevice powerUp untilAwaitingAck).store 77).all
      fun request => decide ((flushStore (transitionDelivery
        (runSteps stepDevice powerUp untilAwaitingAck).store request).1 nvsOnly).2 = espOk)) =
      true := by
    decide +kernel
  rw [hrequest] at hwritten
  exact ⟨of_decide_eq_true hwritten,
    flushStore_entries _ nvsOnly fun _ _ h => ReconcileRead.noConfusion h⟩

/-- The message is cancelled before it is sent, and sent again with the same hash. -/
def cancelledThenSent : List DmAct :=
  [initEmpty, .call (.append sentArgs 10 fun _ => 1),
    .call (transitionTo 1 .queued .cancelled .userCancelled),
    .call (.append sentArgs 20 fun _ => 2)]

theorem ack_misses_second_row :
    ¬ ∀ (acts : List DmAct) (b : FlushAnswers) (ackHash : Nat),
      (runSteps stepDevice powerUp acts).store.loaded = true →
      FlushSucceeds (runSteps stepDevice powerUp acts).store b ackHash →
      AckFindsMessage (runSteps stepDevice powerUp acts).store b ackHash := by
  intro h
  have hrefused : ((markAckedRequest (runSteps stepDevice powerUp cancelledThenSent).store 77).all
      fun request => decide ((transitionDelivery
        (runSteps stepDevice powerUp cancelledThenSent).store request).2.error ≠ espOk)) =
      true := by
    decide +kernel
  have hfinds := h cancelledThenSent nvsOnly 77 (by decide +kernel) (by
    intro request hrequest hok
    rw [hrequest] at hrefused
    exact absurd hok (of_decide_eq_true hrefused))
  have hret : (markAcked (runSteps stepDevice powerUp cancelledThenSent).store nvsOnly 77).ret =
      espErrInvalidState := by
    decide +kernel
  have hsecond : (runSteps stepDevice powerUp cancelledThenSent).store.entries.count = 2 ∧
      carriesHash 77 ((runSteps stepDevice powerUp cancelledThenSent).store.entries.slots
        ⟨1, by decide⟩) = true ∧
      closable (runSteps stepDevice powerUp cancelledThenSent).store
        ((runSteps stepDevice powerUp cancelledThenSent).store.entries.slots ⟨1, by decide⟩) =
        true := by
    decide +kernel
  obtain ⟨hcount, hhash, hclosable⟩ := hsecond
  have hused : (runSteps stepDevice powerUp cancelledThenSent).store.entries.Used
      ⟨1, by decide⟩ := by
    rw [AnchoredRing.used_iff, hcount]
    decide
  have hok := (hfinds.finds ⟨_, hused, hhash, hclosable⟩).1
  exact absurd (hret.symm.trans hok) (by decide)

end Runs

end Sigui.Dm

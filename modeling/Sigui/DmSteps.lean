import Sigui.RunRules
import Sigui.DmPersist

/-! The store as a machine, and what one operation can do to it: refuse, set the preview row,
append one row, or rewrite one row. Every invariant of the store is read off these cases. -/
namespace Sigui.Dm

inductive DmOp
  | append (a : AppendArgs) (nowMs : Nat) (random : Fin 8 → UInt64)
  | reserveAck (identityDigest : Digest) (dispatchKind : Nat) (flushNow : Bool)
  | rebindAck (rowSeq : Nat) (identityDigest : Digest) (dispatchKind : Nat)
  | completeAck (rowSeq : Nat) (identityDigest : Digest) (sent : Bool) (error : EspErr)
  | transition (a : TransitionArgs)
  | clear (lineage : UInt64)
  | normalize
  | merge (stored : StoredBlob)
  | reconcile (stored : StoredBlob) (generationMatches : Bool)
  | reconcileNotFound
  | reconcileFailed (failure : EspErr)
  | persistBegin (sdPrimaryRequired : Bool) (generation attemptMs : Nat) (force : Bool)
  | persistFinish (snapshot : PersistSnapshot) (sdPrimaryRequired : Bool) (sdRet nvsRet : EspErr)
  | nvsResult (nvsRet : EspErr) (snapshotRevision : Nat) (sdPrimaryRequired : Bool)

def stepStore (s : DmStore) : DmOp → DmStore
  | .append a nowMs random => (appendInternal s a nowMs random).1
  | .reserveAck identityDigest dispatchKind flushNow =>
    (reserveAckDispatch s identityDigest dispatchKind flushNow).1
  | .rebindAck rowSeq identityDigest dispatchKind =>
    (rebindPendingAckDispatch s rowSeq identityDigest dispatchKind).1
  | .completeAck rowSeq identityDigest sent error =>
    (completeAckDispatch s rowSeq identityDigest sent error).1
  | .transition a => (transitionDelivery s a).1
  | .clear lineage => clearStore s lineage
  | .normalize => normalizeInterrupted s
  | .merge stored => (mergePrimary s stored.blob).store
  | .reconcile stored generationMatches => (reconcileLocked s stored generationMatches).1
  | .reconcileNotFound => reconcileNotFound s
  | .reconcileFailed failure => noteSdReconcileFailure s failure
  | .persistBegin sdPrimaryRequired generation attemptMs force =>
    (persistBegin s sdPrimaryRequired generation attemptMs force).1
  | .persistFinish snapshot sdPrimaryRequired sdRet nvsRet =>
    persistFinish s snapshot sdPrimaryRequired sdRet nvsRet
  | .nvsResult nvsRet snapshotRevision sdPrimaryRequired =>
    updateNvsResult s nvsRet snapshotRevision sdPrimaryRequired

/-- The rows an append leaves in place: a full ring gives up its oldest. -/
def retainedRows (s : DmStore) : List DmEntry :=
  if s.entries.count < dmStoreCapacity then s.rows else s.rows.tail

theorem retainedRows_sublist (s : DmStore) : (retainedRows s).Sublist s.rows := by
  unfold retainedRows
  split_ifs
  · exact List.Sublist.refl _
  · exact List.tail_sublist _

theorem toList_push (s : DmStore) (entry : DmEntry) :
    (s.entries.push entry).toList = retainedRows s ++ [entry] := by
  unfold retainedRows
  split_ifs with hlt
  · exact s.entries.toList_push_of_lt entry hlt
  · have hcount := s.entries.count_le
    exact s.entries.toList_push_of_full entry (by omega)

theorem rows_insertRow (s : DmStore) (entry : DmEntry) :
    (insertRow s entry).rows = retainedRows s ++ [entry] := toList_push s entry

theorem rows_updateRow (s : DmStore) {k : Fin dmStoreCapacity} (f : DmEntry → DmEntry)
    (hk : s.entries.Used k) :
    ∃ pre post, s.rows = pre ++ s.entries.slots k :: post ∧
      (updateRow s k f).rows = pre ++ f (s.entries.slots k) :: post :=
  s.entries.toRing.toList_modify f hk

/-- The ways an operation rewrites a row, with the checks it has passed. -/
inductive RowUpdate (e : DmEntry) : DmEntry → Prop
  | reserved (dispatchKind : Nat) (hasDigest : e.identityDigestValid = true)
      (idle : e.ackState = .retryable ∨ e.ackState = .sent)
      (below : e.ackDispatchCount < dmAckDispatchMax)
      (kind : dispatchKindIsValid dispatchKind = true) :
      RowUpdate e
        { e with
          ackDispatchCount := e.ackDispatchCount + 1
          ackDispatchKind := dispatchKind
          ackState := .pending
          ackLastError := espOk }
  | rebound (dispatchKind : Nat) (hasDigest : e.identityDigestValid = true)
      (pending : e.ackState = .pending) (counted : e.ackDispatchCount ≠ 0)
      (kind : dispatchKindIsValid dispatchKind = true) :
      RowUpdate e { e with ackDispatchKind := dispatchKind }
  | sent (hasDigest : e.identityDigestValid = true) (pending : e.ackState = .pending)
      (counted : e.ackDispatchCount ≠ 0) :
      RowUpdate e { e with ackState := .sent, ackLastError := espOk }
  | failed (error : EspErr) (hasDigest : e.identityDigestValid = true)
      (pending : e.ackState = .pending) (counted : e.ackDispatchCount ≠ 0)
      (isError : error ≠ espOk) :
      RowUpdate e
        { e with
          ackState := if dmAckDispatchMax ≤ e.ackDispatchCount then .terminal else .retryable
          ackLastError := error }
  | transition (a : TransitionArgs) (session : e.deliverySessionId = a.deliverySessionId)
      (rebind : rebindRefused a = false) (allowed : transitionRefused e a = false) :
      RowUpdate e (applyDeliveryTransition a e)

structure AppendReady (s : DmStore) (a : AppendArgs) : Prop where
  check : appendCheck a = none
  persist : a.persist = true
  room : oldestBlocksAppend s = false
  counters : countersExhausted s = false

/-- The inserted row: an outbound one carries a session id that no retained row has. -/
structure NewRow (s : DmStore) (a : AppendArgs) (nowMs : Nat) (random : Fin 8 → UInt64)
    (entry : DmEntry) : Prop where
  built : entry = { newEntry s a nowMs with deliverySessionId := entry.deliverySessionId }
  outbound : entry.outbound = true →
    entry.deliverySessionId = newDeliverySessionId s random ∧
      deliverySessionIdExists s entry.deliverySessionId = false
  inbound : entry.outbound = false → entry.deliverySessionId = 0

inductive Mutated (s : DmStore) : DmOp → DmStore → Prop
  | refused (op : DmOp) : Mutated s op s
  | preview (a : AppendArgs) (nowMs : Nat) (random : Fin 8 → UInt64)
      (check : appendCheck a = none) :
      Mutated s (.append a nowMs random) { s with volatileEntry := some (newEntry s a nowMs) }
  | inserted (a : AppendArgs) (nowMs : Nat) (random : Fin 8 → UInt64) (entry : DmEntry)
      (ready : AppendReady s a) (row : NewRow s a nowMs random entry) :
      Mutated s (.append a nowMs random) (insertRow s entry)
  | rewritten (op : DmOp) (k : Fin dmStoreCapacity) (row : DmEntry)
      (pending : List AckPersistencePending) (used : s.entries.Used k)
      (update : RowUpdate (s.entries.slots k) row)
      (other : (∀ a, op ≠ .transition a) → row.frozen = (s.entries.slots k).frozen ∧
        row.deliveryPart = (s.entries.slots k).deliveryPart ∧
        pending = s.ackPersistencePending)
      (dispatched : (∀ digest kind flush, op ≠ .reserveAck digest kind flush) →
        row.ackState = .pending → (s.entries.slots k).ackState = .pending ∧
          row.ackDispatchCount = (s.entries.slots k).ackDispatchCount) :
      Mutated s op (updateRow { s with ackPersistencePending := pending } k fun _ => row)

theorem appendInternal_mutated (s : DmStore) (a : AppendArgs) (nowMs : Nat)
    (random : Fin 8 → UInt64) :
    Mutated s (.append a nowMs random) (appendInternal s a nowMs random).1 := by
  unfold appendInternal
  cases hcheck : appendCheck a with
  | some error => exact .refused _
  | none =>
    by_cases hloaded : s.loaded = true
    swap
    · simp only [hloaded, Bool.not_false, if_true]
      exact .refused _
    simp only [hloaded, Bool.not_true, Bool.false_eq_true, if_false]
    unfold appendLocked
    by_cases hpersist : a.persist = true
    swap
    · simp only [hpersist, Bool.not_false, if_true]
      exact .preview _ _ _ hcheck
    simp only [hpersist, Bool.not_true, Bool.false_eq_true, if_false]
    by_cases hroom : oldestBlocksAppend s = true
    · simp only [hroom, if_true]
      exact .refused _
    by_cases hcounters : countersExhausted s = true
    · simp only [hroom, hcounters, if_true, Bool.false_eq_true, if_false]
      exact .refused _
    have hready : AppendReady s a :=
      ⟨hcheck, hpersist, by simpa using hroom, by simpa using hcounters⟩
    simp only [hroom, hcounters, Bool.false_eq_true, if_false]
    by_cases houtbound : (newEntry s a nowMs).outbound = true
    · simp only [houtbound, if_true]
      by_cases hsession : newDeliverySessionId s random = 0
      · simp only [hsession, if_true]
        exact .refused _
      simp only [hsession, if_false]
      refine .inserted a nowMs random _ hready ⟨rfl, ?_, ?_⟩
      · exact fun _ => ⟨rfl, newDeliverySessionId_fresh hsession⟩
      · intro hinbound
        exact absurd (hinbound.symm.trans houtbound) Bool.false_ne_true
    · simp only [houtbound, Bool.false_eq_true, if_false]
      refine .inserted a nowMs random _ hready ⟨rfl, ?_, ?_⟩
      · exact fun h => absurd h houtbound
      · intro hinbound
        exact DmEntry.session_of_frozen (startDelivery_frozen a.acked (baseEntry s a nowMs))

theorem findRxIdentity_eq_some {s : DmStore} {identityDigest : Digest} {rowSeq : Nat}
    {k : Fin dmStoreCapacity} (h : findRxIdentity s identityDigest rowSeq = some k) :
    s.entries.Used k ∧ (s.entries.slots k).identityDigestValid = true ∧
      (s.entries.slots k).identityDigest = identityDigest := by
  obtain ⟨hused, hrow⟩ := Ring.findSlot_eq_some h
  simp only [Bool.and_eq_true, decide_eq_true_eq] at hrow
  exact ⟨hused, hrow.1.1, hrow.2⟩

theorem reserveAckDispatch_mutated (s : DmStore) (identityDigest : Digest) (dispatchKind : Nat)
    (flushNow : Bool) :
    Mutated s (.reserveAck identityDigest dispatchKind flushNow)
      (reserveAckDispatch s identityDigest dispatchKind flushNow).1 := by
  unfold reserveAckDispatch
  by_cases hkind : dispatchKindIsValid dispatchKind = true
  swap
  · simp only [hkind, Bool.not_false, if_true]
    exact .refused _
  by_cases hloaded : s.loaded = true
  swap
  · simp only [hkind, hloaded, Bool.not_true, Bool.not_false, Bool.false_eq_true, if_false, if_true]
    exact .refused _
  simp only [hkind, hloaded, Bool.not_true, Bool.false_eq_true, if_false]
  cases hfind : findRxIdentity s identityDigest 0 with
  | none => exact .refused _
  | some k =>
    obtain ⟨hused, hdigest, -⟩ := findRxIdentity_eq_some hfind
    dsimp only
    split_ifs with hguard
    · exact .refused _
    · simp only [Bool.or_eq_true, Bool.and_eq_true, decide_eq_true_eq, not_or, not_and, not_not,
        not_le] at hguard
      refine .rewritten _ k _ s.ackPersistencePending hused (.reserved _ hdigest ?_ hguard.2 hkind)
        (fun _ => ⟨rfl, rfl, rfl⟩) fun hop _ => absurd rfl (hop identityDigest dispatchKind flushNow)
      by_cases hretry : (s.entries.slots k).ackState = .retryable
      · exact .inl hretry
      · exact .inr (hguard.1.2 hretry)

theorem rebindPendingAckDispatch_mutated (s : DmStore) (rowSeq : Nat) (identityDigest : Digest)
    (dispatchKind : Nat) :
    Mutated s (.rebindAck rowSeq identityDigest dispatchKind)
      (rebindPendingAckDispatch s rowSeq identityDigest dispatchKind).1 := by
  unfold rebindPendingAckDispatch
  by_cases hargs : (decide (rowSeq = 0) || !dispatchKindIsValid dispatchKind) = true
  · simp only [hargs, if_true]
    exact .refused _
  have hkind : dispatchKindIsValid dispatchKind = true := by
    simp only [Bool.or_eq_true, Bool.not_eq_true', not_or, Bool.not_eq_false] at hargs
    exact hargs.2
  by_cases hloaded : s.loaded = true
  swap
  · simp only [hargs, hloaded, Bool.not_false, Bool.false_eq_true, if_false, if_true]
    exact .refused _
  simp only [hargs, hloaded, Bool.not_true, Bool.false_eq_true, if_false]
  cases hfind : findRxIdentity s identityDigest rowSeq with
  | none => exact .refused _
  | some k =>
    obtain ⟨hused, hdigest, -⟩ := findRxIdentity_eq_some hfind
    dsimp only
    split_ifs with hstate hsame
    · exact .refused _
    · exact .refused _
    · simp only [Bool.or_eq_true, decide_eq_true_eq, not_or, not_not] at hstate
      exact .rewritten _ k _ s.ackPersistencePending hused
        (.rebound _ hdigest hstate.1 hstate.2 hkind) (fun _ => ⟨rfl, rfl, rfl⟩)
        fun _ _ => ⟨hstate.1, rfl⟩

theorem completeAckDispatch_mutated (s : DmStore) (rowSeq : Nat) (identityDigest : Digest)
    (sent : Bool) (error : EspErr) :
    Mutated s (.completeAck rowSeq identityDigest sent error)
      (completeAckDispatch s rowSeq identityDigest sent error).1 := by
  unfold completeAckDispatch
  by_cases hargs : (decide (rowSeq = 0) || (sent && decide (error ≠ espOk)) ||
      (!sent && decide (error = espOk))) = true
  · simp only [hargs, if_true]
    exact .refused _
  by_cases hloaded : s.loaded = true
  swap
  · simp only [hargs, hloaded, Bool.not_false, Bool.false_eq_true, if_false, if_true]
    exact .refused _
  simp only [hargs, hloaded, Bool.not_true, Bool.false_eq_true, if_false]
  cases hfind : findRxIdentity s identityDigest 0 with
  | none => exact .refused _
  | some k =>
    obtain ⟨hused, hdigest, -⟩ := findRxIdentity_eq_some hfind
    dsimp only
    by_cases hstate : (decide ((s.entries.slots k).ackState ≠ .pending) ||
        decide ((s.entries.slots k).ackDispatchCount = 0)) = true
    · simp only [hstate, if_true]
      exact .refused _
    simp only [hstate, Bool.false_eq_true, if_false]
    simp only [Bool.or_eq_true, decide_eq_true_eq, not_or, not_not] at hstate
    cases sent with
    | true =>
      exact .rewritten _ k _ s.ackPersistencePending hused (.sent hdigest hstate.1 hstate.2)
        (fun _ => ⟨rfl, rfl, rfl⟩) fun _ _ => ⟨hstate.1, rfl⟩
    | false =>
      have herror : error ≠ espOk := by
        simp only [Bool.not_false, Bool.true_and, Bool.or_eq_true, decide_eq_true_eq, not_or]
          at hargs
        exact hargs.2
      exact .rewritten _ k _ s.ackPersistencePending hused
        (.failed error hdigest hstate.1 hstate.2 herror) (fun _ => ⟨rfl, rfl, rfl⟩)
        fun _ _ => ⟨hstate.1, rfl⟩

theorem transitionDelivery_cases (s : DmStore) (a : TransitionArgs) :
    (transitionDelivery s a).1 = s ∨
      ∃ k, findDeliverySession s a.deliverySessionId = some k ∧ s.loaded = true ∧
        transitionArgsRefused a = false ∧ rebindRefused a = false ∧
        transitionRefused (s.entries.slots k) a = false ∧
        (a.nextState = .acknowledged →
          (reserveAckPersistencePending s (s.entries.slots k)).isSome = true) ∧
        transitionDelivery s a =
          (updateRow
            { s with
              ackPersistencePending := s.ackPersistencePending ++
                if a.nextState = .acknowledged then
                  (reserveAckPersistencePending s (s.entries.slots k)).toList
                else [] } k (applyDeliveryTransition a),
            { rowOutcome a (applyDeliveryTransition a (s.entries.slots k)) espOk with
              changed := true, previousState := (s.entries.slots k).deliveryState }) := by
  unfold transitionDelivery
  by_cases hargs : transitionArgsRefused a = true
  · rw [if_pos hargs]
    exact .inl rfl
  rw [if_neg hargs]
  by_cases hloaded : s.loaded = true
  swap
  · rw [if_pos (by simpa using hloaded)]
    exact .inl rfl
  rw [if_neg (by simpa using hloaded)]
  cases hfind : findDeliverySession s a.deliverySessionId with
  | none => exact .inl rfl
  | some k =>
    dsimp only
    by_cases hrebind : rebindRefused a = true
    · rw [if_pos hrebind]
      exact .inl rfl
    rw [if_neg hrebind]
    by_cases hretry : isPersistenceRetry (s.entries.slots k) a = true
    · rw [if_pos hretry]
      exact .inl rfl
    rw [if_neg hretry]
    by_cases hroom : (decide (a.nextState = .acknowledged) &&
        (reserveAckPersistencePending s (s.entries.slots k)).isNone) = true
    · rw [if_pos hroom]
      exact .inl rfl
    rw [if_neg hroom]
    by_cases hrefused : transitionRefused (s.entries.slots k) a = true
    · rw [if_pos hrefused]
      exact .inl rfl
    rw [if_neg hrefused]
    refine .inr ⟨k, rfl, hloaded, by simpa using hargs, by simpa using hrebind,
      by simpa using hrefused, fun hnext => ?_, rfl⟩
    rw [Option.isSome_iff_ne_none]
    simpa [hnext] using hroom

theorem findDeliverySession_eq_some {s : DmStore} {sessionId : UInt64} {k : Fin dmStoreCapacity}
    (h : findDeliverySession s sessionId = some k) :
    s.entries.Used k ∧ (s.entries.slots k).deliverySessionId = sessionId := by
  obtain ⟨hused, hrow⟩ := AnchoredRing.findRaw_eq_some h
  exact ⟨hused, of_decide_eq_true hrow⟩

theorem transitionDelivery_mutated (s : DmStore) (a : TransitionArgs) :
    Mutated s (.transition a) (transitionDelivery s a).1 := by
  rcases transitionDelivery_cases s a with hsame | ⟨k, hfind, -, -, hrebind, hallowed, -, heq⟩
  · rw [hsame]
    exact .refused _
  · obtain ⟨hused, hsession⟩ := findDeliverySession_eq_some hfind
    rw [heq]
    exact .rewritten _ k _ _ hused (.transition a hsession hrebind hallowed)
      (fun hother => absurd rfl (hother a)) fun _ hpending => ⟨hpending, rfl⟩

end Sigui.Dm

import Sigui.DmReboot
import Sigui.DmAckRuns

/-! No row of an earlier boot stays in flight. Init settles everything it loads; a card found
later is merged as it is, so the runs here ask that nothing on it was left in flight. -/
namespace Sigui.Dm

section Condition

def cardSettled (l : BootLog) (primary : DmBlob) : Prop :=
  if !incomingClearDominates l.store primary && primary.epoch = l.store.epoch then
    ∀ u ∈ primary.rows, cardRowSettled l l.store primary u
  else ∀ u ∈ primary.rows, OwnRow l u

def BootOk (l : BootLog) : DmAct → Prop
  | .reconcile (.found stored generationMatches) =>
    (∃ sdPrimaryRequired, l.device.phase = .reconciling sdPrimaryRequired) →
      generationMatches = true → primaryIgnored l.store stored.blob = false →
      (mergePrimary l.store stored.blob).ret = espOk → cardSettled l stored.blob
  | _ => True

structure NothingLeft (l : BootLog) : Prop where
  delivery : ∀ e ∈ l.store.rows, e.outbound = true →
    deliveryInterruptedByReboot e.deliveryState = true →
    (e.deliverySessionId, e.deliveryRevision, e.deliveryState) ∈ l.ownDelivery
  ack : ∀ e ∈ l.store.rows, e.inbound = true → e.ackState = .pending →
    (e.identityDigest, e.ackDispatchCount) ∈ l.ownAck

structure BootInv (l : BootLog) : Prop where
  ordered : DeviceOrdered l.store
  rows : ∀ e ∈ l.store.rows, SoundOwn l e

variable {l : BootLog}

theorem OwnRow.step {e : DmEntry} (h : OwnRow l e) (act : DmAct) : OwnRow (stepBootLog l act) e :=
  ⟨fun hflight => List.mem_append_left _ (h.delivery hflight),
    fun hpending => List.mem_append_left _ (h.ack hpending)⟩

theorem SoundOwn.step {e : DmEntry} (h : SoundOwn l e) (act : DmAct) :
    SoundOwn (stepBootLog l act) e :=
  ⟨h.sound, h.own.step act⟩

theorem ownRow_of_settled {e : DmEntry} (hdelivery : deliveryInterrupted e = false)
    (hack : ackInterrupted e = false) : OwnRow l e where
  delivery := fun hflight => absurd (hdelivery.symm.trans hflight) Bool.false_ne_true
  ack := fun hpending => absurd (hack.symm.trans hpending) Bool.false_ne_true

theorem BootInv.nothingLeft (h : BootInv l) : NothingLeft l where
  delivery := fun e he hout hflight =>
    (h.rows e he).own.delivery (deliveryInterrupted_iff.mpr ⟨hout, hflight⟩)
  ack := by
    intro e he _ hpending
    have hrow := h.rows e he
    refine hrow.own.ack (ackInterrupted_iff.mpr ⟨?_, hpending⟩)
    by_contra hvalid
    have hack := hrow.sound.ack
    simp [ackMetadataIsValid, hvalid, hpending] at hack

end Condition

section Calls

variable {l : BootLog} {s : DmStore}

theorem reserveAckDispatch_cases (s : DmStore) (identityDigest : Digest) (dispatchKind : Nat)
    (flushNow : Bool) :
    (reserveAckDispatch s identityDigest dispatchKind flushNow).1 = s ∨
      ∃ k, findRxIdentity s identityDigest 0 = some k ∧
        reserveAckDispatch s identityDigest dispatchKind flushNow =
          (updateRow s k fun e =>
            { e with
              ackDispatchCount := e.ackDispatchCount + 1
              ackDispatchKind := dispatchKind
              ackState := .pending
              ackLastError := espOk },
            { reserved := true, rowSeq := (s.entries.slots k).seq
              dispatchCount := (s.entries.slots k).ackDispatchCount + 1, error := espOk }) := by
  unfold reserveAckDispatch
  split_ifs
  · exact .inl rfl
  · exact .inl rfl
  cases hfind : findRxIdentity s identityDigest 0 with
  | none => exact .inl rfl
  | some k =>
    dsimp only
    split_ifs
    · exact .inl rfl
    · exact .inr ⟨k, rfl, rfl⟩

theorem NewRow.own {a : AppendArgs} {nowMs : Nat} {random : Fin 8 → UInt64} {entry : DmEntry}
    (h : NewRow s a nowMs random entry) : OwnRow l entry := by
  refine ownRow_of_settled ?_ ?_
  · have hstate : deliveryInterruptedByReboot entry.deliveryState = false := by
      rw [h.built]
      change deliveryInterruptedByReboot (newEntry s a nowMs).deliveryState = false
      unfold newEntry startDelivery
      split_ifs <;> rfl
    unfold deliveryInterrupted
    rw [hstate, Bool.and_false]
  · have hstate : entry.ackState ≠ .pending := by
      rw [(DmEntry.count_of_ackPart h.ackPart).2]
      unfold baseEntry
      dsimp only
      split_ifs <;> exact fun heq => AckState.noConfusion heq
    unfold ackInterrupted
    rw [decide_eq_false hstate, Bool.and_false]

theorem BootInv.mutated {s' : DmStore} {op : DmOp} (h : ∀ e ∈ s.rows, SoundOwn l e)
    (hm : Mutated s op s') (htransition : ∀ a, op ≠ .transition a)
    (hreserve : ∀ digest kind flush, op ≠ .reserveAck digest kind flush) :
    ∀ e ∈ s'.rows, SoundOwn l e := by
  have hsound := rowSound_mutated hm fun e he => (h e he).sound
  suffices hown : ∀ e ∈ s'.rows, OwnRow l e from fun e he => ⟨hsound e he, hown e he⟩
  cases hm with
  | refused => exact fun e he => (h e he).own
  | preview a nowMs random check => exact fun e he => (h e he).own
  | inserted a nowMs random entry ready row =>
    rw [rows_insertRow]
    exact forall_mem_snoc (fun e he => (h e ((retainedRows_sublist s).subset he)).own) row.own
  | rewritten op k row pending used update other dispatched =>
    refine forall_old_row k used (fun e he => (h e he).own) fun hmem => ?_
    have hold := (h _ hmem).own
    obtain ⟨hfrozen, hpart, -⟩ := other htransition
    obtain ⟨hvalid, hdigest⟩ := update.digest
    refine ⟨fun hflight => ?_, fun hpending => ?_⟩
    · obtain ⟨hstate, hrevision⟩ := DmEntry.state_of_deliveryPart hpart
      rw [deliveryInterrupted_iff, DmEntry.outbound_of_frozen hfrozen, hstate] at hflight
      rw [DmEntry.session_of_frozen hfrozen, hrevision, hstate]
      exact hold.delivery (deliveryInterrupted_iff.mpr hflight)
    · rw [ackInterrupted_iff] at hpending
      obtain ⟨hstate, hcount⟩ := dispatched hreserve hpending.2
      rw [hdigest, hcount]
      exact hold.ack (ackInterrupted_iff.mpr ⟨hvalid.symm.trans hpending.1, hstate⟩)

theorem BootInv.transition (h : BootInv l) (a : TransitionArgs) :
    ∀ e ∈ (transitionDelivery l.store a).1.rows,
      SoundOwn (stepBootLog l (.call (.transition a))) e := by
  have hold : ∀ e ∈ l.store.rows, SoundOwn (stepBootLog l (.call (.transition a))) e :=
    fun e he => (h.rows e he).step _
  have hsound := rowSound_mutated (transitionDelivery_mutated l.store a) fun e he =>
    (h.rows e he).sound
  rcases transitionDelivery_cases l.store a with
    hsame | ⟨k, hfind, -, -, -, -, -, heq⟩
  · rw [hsame]
    exact hold
  obtain ⟨hused, hsession⟩ := findDeliverySession_eq_some hfind
  have hlog : (a.deliverySessionId, (l.store.entries.slots k).deliveryRevision + 1,
      a.nextState) ∈ (stepBootLog l (.call (.transition a))).ownDelivery := by
    refine List.mem_append_right _ ?_
    change _ ∈ if (transitionDelivery l.store a).2.changed = true then
      [(a.deliverySessionId, (transitionDelivery l.store a).2.deliveryRevision, a.nextState)]
      else []
    rw [heq]
    exact List.mem_singleton.mpr rfl
  suffices hown : ∀ e ∈ (transitionDelivery l.store a).1.rows,
      OwnRow (stepBootLog l (.call (.transition a))) e from fun e he => ⟨hsound e he, hown e he⟩
  rw [heq]
  refine forall_old_row k hused (fun e he => (hold e he).own) fun hmem => ⟨fun _ => ?_, ?_⟩
  · change ((l.store.entries.slots k).deliverySessionId, _, _) ∈ _
    rw [hsession]
    exact hlog
  · exact (hold _ hmem).own.ack

theorem BootInv.reserve (h : BootInv l) (identityDigest : Digest) (dispatchKind : Nat)
    (flushNow : Bool) :
    ∀ e ∈ (reserveAckDispatch l.store identityDigest dispatchKind flushNow).1.rows,
      SoundOwn (stepBootLog l (.call (.reserveAck identityDigest dispatchKind flushNow))) e := by
  have hold : ∀ e ∈ l.store.rows, SoundOwn
      (stepBootLog l (.call (.reserveAck identityDigest dispatchKind flushNow))) e :=
    fun e he => (h.rows e he).step _
  have hsound := rowSound_mutated (reserveAckDispatch_mutated l.store identityDigest dispatchKind
    flushNow) fun e he => (h.rows e he).sound
  rcases reserveAckDispatch_cases l.store identityDigest dispatchKind flushNow with
    hsame | ⟨k, hfind, heq⟩
  · rw [hsame]
    exact hold
  obtain ⟨hused, -, hdigest⟩ := findRxIdentity_eq_some hfind
  have hlog : (identityDigest, (l.store.entries.slots k).ackDispatchCount + 1) ∈
      (stepBootLog l (.call (.reserveAck identityDigest dispatchKind flushNow))).ownAck := by
    refine List.mem_append_right _ ?_
    change _ ∈ if (reserveAckDispatch l.store identityDigest dispatchKind flushNow).2.reserved =
      true then [(identityDigest,
        (reserveAckDispatch l.store identityDigest dispatchKind flushNow).2.dispatchCount)] else []
    rw [heq]
    exact List.mem_singleton.mpr rfl
  suffices hown : ∀ e ∈ (reserveAckDispatch l.store identityDigest dispatchKind flushNow).1.rows,
      OwnRow (stepBootLog l (.call (.reserveAck identityDigest dispatchKind flushNow))) e from
    fun e he => ⟨hsound e he, hown e he⟩
  rw [heq]
  refine forall_old_row k hused (fun e he => (hold e he).own)
    fun hmem => ⟨(hold _ hmem).own.delivery, fun _ => ?_⟩
  change ((l.store.entries.slots k).identityDigest, _) ∈ _
  rw [hdigest]
  exact hlog

end Calls

section Reads

variable {l : BootLog}

theorem initStore_own (s : DmStore) (r : InitReads) :
    ∀ e ∈ (initStore s r).1.rows, SoundOwn l e := by
  have hloaded : ∀ e ∈ (initRollback (initMerge (initLoad s r) r).1 r).rows, RowSound e :=
    initRollback_forall mergeClosed_sound fun b hb e he => (blobsRead_valid hb).rows.row_sound he
  have hack : ∀ e ∈ (normalizeInterruptedAck
      (initRollback (initMerge (initLoad s r) r).1 r)).1.rows,
      RowSound e ∧ ackInterrupted e = false := by
    refine normalizeWith_forall ?_ ?_ hloaded
    · intro e he hi
      refine ⟨settleInterruptedAck_sound he hi, ?_⟩
      unfold ackInterrupted settleInterruptedAck
      dsimp only
      split_ifs <;> rw [decide_eq_false (by decide), Bool.and_false]
    · exact fun e he hi => ⟨he, hi⟩
  refine normalizeWith_forall ?_ ?_ hack
  · intro e he hi
    refine ⟨settleInterruptedDelivery_sound he.1 hi, ownRow_of_settled ?_ he.2⟩
    change (_ && deliveryInterruptedByReboot .interruptedByReboot) = false
    exact Bool.and_false _
  · exact fun e he hi => ⟨he.1, ownRow_of_settled hi he.2⟩

theorem reconcileLocked_rows_refused {s : DmStore} {stored : StoredBlob}
    {generationMatches : Bool}
    (h : (mergePrimary s stored.blob).ret ≠ espOk ∨ generationMatches = false) :
    (reconcileLocked s stored generationMatches).1.rows = s.rows := by
  have hreload : (loadBlob { (mergePrimary s stored.blob).store with
      volatileEntry := s.volatileEntry } (fillBlob s)).rows = s.rows := by
    rw [rows_loadBlob, rows_fillBlob]
  unfold reconcileLocked
  dsimp only
  by_cases hret : (mergePrimary s stored.blob).ret = espOk
  swap
  · rw [if_pos hret]
    change (mergePrimary s stored.blob).store.rows = s.rows
    rcases mergePrimary_failed hret with hsame | hload
    · rw [hsame]
    · rw [hload, rows_loadBlob, rows_fillBlob]
  · rw [if_neg (not_not.mpr hret), h.resolve_left (not_not.mpr hret)]
    exact hreload

theorem BootInv.found (h : BootInv l) {stored : StoredBlob} {generationMatches : Bool}
    (hok : generationMatches = true → primaryIgnored l.store stored.blob = false →
      (mergePrimary l.store stored.blob).ret = espOk → cardSettled l stored.blob) :
    ∀ e ∈ (reconcileLocked l.store stored generationMatches).1.rows, SoundOwn l e := by
  have hvalid := (blobIsValid_iff _).mp stored.valid
  by_cases hret : (mergePrimary l.store stored.blob).ret = espOk
  swap
  · rw [reconcileLocked_rows_refused (.inl hret)]
    exact h.rows
  cases hgeneration : generationMatches with
  | false =>
    rw [reconcileLocked_rows_refused (.inr rfl)]
    exact h.rows
  | true =>
    have hrows : ∀ e ∈ (mergePrimary l.store stored.blob).store.rows, SoundOwn l e := by
      by_cases hignored : primaryIgnored l.store stored.blob = true
      · unfold mergePrimary
        rw [if_pos hignored]
        exact h.rows
      have hsettled := hok hgeneration (by simpa using hignored) hret
      unfold cardSettled at hsettled
      unfold mergePrimary
      rw [if_neg hignored]
      split_ifs at hsettled ⊢
      · exact mergeSameEpoch_own h.ordered.rows h.rows hvalid hsettled
      · exact (mergeOverlay_forall (Q := fun _ => True) (mergeClosed_own l)
          ⟨h.rows, fun _ _ => trivial⟩
          fun u hu => ⟨hvalid.rows.row_sound hu, hsettled u hu⟩).1
    unfold reconcileLocked
    dsimp only
    rw [if_neg (not_not.mpr hret)]
    exact hrows

end Reads

section Runs

variable {l : BootLog}

theorem BootInv.rows_step (h : BootInv l) (act : DmAct) (hok : BootOk l act) :
    ∀ e ∈ (stepDevice l.device act).store.rows, SoundOwn (stepBootLog l act) e := by
  have hsame : ∀ {s' : DmStore}, s'.rows = l.store.rows →
      ∀ e ∈ s'.rows, SoundOwn (stepBootLog l act) e := by
    intro s' hrows
    rw [hrows]
    exact fun e he => (h.rows e he).step act
  have hacted := stepDevice_acted l.device act
  generalize stepDevice l.device act = d at hacted
  cases hacted with
  | ignored => exact hsame rfl
  | loaded reads idle unloaded => exact initStore_own l.device.store reads
  | called op call =>
    by_cases htransition : ∃ a, op = .transition a
    · obtain ⟨a, rfl⟩ := htransition
      exact h.transition a
    by_cases hreserve : ∃ digest kind flush, op = .reserveAck digest kind flush
    · obtain ⟨digest, kind, flush, rfl⟩ := hreserve
      exact h.reserve digest kind flush
    rcases stepStore_call call l.device.store with ⟨lineage, rfl⟩ | hm
    · exact fun e he => absurd he List.not_mem_nil
    · exact BootInv.mutated (fun e he => (h.rows e he).step _) hm
        (fun a heq => htransition ⟨a, heq⟩)
        fun digest kind flush heq => hreserve ⟨digest, kind, flush, heq⟩
  | began sdPrimaryRequired generation attemptMs force idle =>
    rw [beginPersist_same]
    exact hsame (sameRows_of_rest (persistBegin_rest _ _ _ _ _)).history.rows
  | reconciled sdPrimaryRequired read phase =>
    cases read with
    | unfinished => exact hsame rfl
    | failed error => exact hsame rfl
    | notFound => exact hsame rfl
    | found stored generationMatches =>
      have hfound := h.found (hok ⟨sdPrimaryRequired, phase⟩)
      unfold reconcileRead
      dsimp only
      split_ifs
      · exact fun e he => (hfound e he).step _
      · exact fun e he => (hfound e he).step _
  | collected sdPrimaryRequired phase taken => exact hsame rfl
  | finished sdPrimaryRequired snapshot sdRet nvsRet phase =>
    exact hsame (sameRows_of_rest (persistFinish_rest _ _ _ _ _)).history.rows
  | fallback sdPrimaryRequired snapshot sdRet nvsRet phase =>
    exact hsame (sameRows_of_rest (updateNvsResult_rest _ _ _ _)).history.rows
  | abandoned sdPrimaryRequired snapshot phase => exact hsame rfl

theorem bootInv_powerUp : BootInv bootPowerUp :=
  ⟨deviceOrdered_powerUp, fun _ he => absurd he List.not_mem_nil⟩

theorem run_leaves_nothing_in_flight (acts : List DmAct)
    (hok : RunOk stepBootLog BootOk bootPowerUp acts) :
    NothingLeft (runSteps stepBootLog bootPowerUp acts) := by
  have hrun : BootInv (runSteps stepBootLog bootPowerUp acts) :=
    run_invariant (fun _ act h hact => ⟨h.ordered.step act, h.rows_step act hact⟩) hok
      bootInv_powerUp
  exact hrun.nothingLeft

/-- What an earlier boot left behind: one message that waits for its ACK. -/
def awaitingHistory : DmStore :=
  runSteps stepStore loadedStore
    [.append sentArgs 10 fun _ => 1, transitionTo 1 .queued .waitingRadio .radioReserved,
      transitionTo 2 .waitingRadio .txActive .radioStarted,
      transitionTo 3 .txActive .txDone .radioCompleted,
      transitionTo 4 .txDone .awaitingAck .ackExpected]

def awaitingBlob : StoredBlob := ⟨fillBlob awaitingHistory, false, by decide +kernel⟩

/-- The message is in NVS and on the card; init settles the one copy before it meets the other. -/
def settledThenCard : List DmAct :=
  [.init
    { enabled := false, generation := 0, nvs := .ok awaitingBlob, sd := .error espErrNotFound
      generationMatchesAfterRead := true, generationMatchesAfterMerge := true },
    .begin true 1 0 true, .reconcile (.found awaitingBlob true)]

theorem run_leaves_nothing_in_flight_settled :
    NothingLeft (runSteps stepBootLog bootPowerUp settledThenCard) :=
  run_leaves_nothing_in_flight settledThenCard (by
    refine ⟨trivial, trivial, fun _ _ _ _ => ?_, trivial⟩
    unfold cardSettled
    rw [if_pos (by decide +kernel)]
    intro u hu
    right
    have hmatched : unmatchedCard
        (runSteps stepBootLog bootPowerUp (settledThenCard.take 2)).store u = false := by
      revert u
      decide +kernel
    rw [if_neg (by
      change ¬unmatchedCard (runSteps stepBootLog bootPowerUp (settledThenCard.take 2)).store u =
        true
      rw [hmatched]
      decide)]
    revert u
    unfold aheadOfCard
    decide +kernel)

def cardAlone : List DmAct :=
  [initEmpty, .begin true 1 0 true, .reconcile (.found awaitingBlob true)]

theorem late_card_leaves_row_in_flight :
    ¬ ∀ acts, NothingLeft (runSteps stepBootLog bootPowerUp acts) := by
  intro h
  have hflight : (runSteps stepBootLog bootPowerUp cardAlone).store.rows.any deliveryInterrupted =
      true := by
    decide +kernel
  have hnone : (runSteps stepBootLog bootPowerUp cardAlone).ownDelivery.isEmpty = true := by
    decide +kernel
  obtain ⟨e, he, hrow⟩ := List.any_eq_true.mp hflight
  obtain ⟨hout, hstate⟩ := deliveryInterrupted_iff.mp hrow
  have hmem := (h cardAlone).delivery e he hout hstate
  rw [List.isEmpty_iff.mp hnone] at hmem
  exact absurd hmem List.not_mem_nil

end Runs

end Sigui.Dm

import Sigui.DmAckTruth
import Sigui.DmSnapshots

/-! The delivery truth over whole runs: what a call, an init and a reconcile do to the side
table, and the run theorem. -/
namespace Sigui.Dm

section Calls

variable {l : AckLog} {s' : DmStore} {act : DmAct}

theorem rowSound_mutated {s : DmStore} {op : DmOp} (hm : Mutated s op s')
    (h : ∀ e ∈ s.rows, RowSound e) : ∀ e ∈ s'.rows, RowSound e := by
  refine mutated_forall hm h ?_ ?_
  · intro a nowMs random entry _ hready hrow
    exact hrow.sound (appendCheck_eq_none hready.check)
  · intro e r he hupdate
    exact hupdate.sound he

theorem snapshotFits_of_newer {s : DmStore} {phase : PersistPhase} (h : SnapshotFits s phase)
    (hrevision : s.stateRevision < s'.stateRevision) : SnapshotFits s' phase := by
  cases phase with
  | writing _ snapshot =>
    exact ⟨h.1.trans hrevision.le, fun heq => absurd (heq ▸ h.1) (Nat.not_le.mpr hrevision)⟩
  | writingFallback _ snapshot =>
    exact ⟨h.1.trans hrevision.le, fun heq => absurd (heq ▸ h.1) (Nat.not_le.mpr hrevision)⟩
  | _ => trivial

theorem AckInv.mutation (h : AckInv l) (hdevice : stepDevice l.device act = ⟨s', l.device.phase⟩)
    (hnvs : s'.nvsFallbackDirty = true) (hsd : s'.sdPrimaryDirty = true)
    (hrevision : l.store.stateRevision < s'.stateRevision)
    (hsound : ∀ e ∈ s'.rows, RowSound e) (hpreview : ∀ e ∈ s'.volatileEntry, isAcked e = false)
    (more : List AckPersistencePending)
    (hpending : s'.ackPersistencePending = l.store.ackPersistencePending ++ more)
    (hmore : ∀ p ∈ more, p.previousState ≠ .acknowledged)
    (hacked : ∀ e ∈ s'.rows, isAcked e = true → ackHidden s' e = true ∨
      ∃ old ∈ l.store.rows, isAcked old = true ∧
        old.deliverySessionId = e.deliverySessionId ∧
        old.deliveryRevision = e.deliveryRevision) : AckInv (stepAckLog l act) := by
  have hstore : (stepAckLog l act).store = s' := congrArg DmDevice.store hdevice
  have hphase : (stepAckLog l act).device.phase = l.device.phase := by
    change (stepDevice l.device act).phase = _
    rw [hdevice]
  refine ⟨?_, ?_, ?_, ?_, ?_⟩
  · rw [hstore]
    exact hsound
  · rw [hstore]
    exact hpreview
  · rw [hstore, hpending]
    intro p hp
    rcases List.mem_append.mp hp with hold | hnew
    · exact h.hidden p hold
    · exact hmore p hnew
  · rw [hstore]
    intro e he hack
    have hcovered : ackHidden s' e = true → Covered (stepAckLog l act) e := by
      intro hhidden
      refine ⟨?_, ?_, ?_⟩
      · rw [hstore]
        exact hhidden
      · rw [hstore]
        exact .inl hnvs
      · rw [hstore]
        exact .inl hsd
    rcases hacked e he hack with hhidden | ⟨old, hold, hackOld, hsession, hrev⟩
    · exact .inr (hcovered hhidden)
    rcases h.acked old hold hackOld with hdurable | hcov
    · left
      rw [← hsession, ← hrev]
      exact hdurable.step act
    · refine .inr (hcovered ?_)
      have hhidden := hcov.hidden
      unfold ackHidden findAckPersistencePending at hhidden ⊢
      rw [hpending, List.find?_append, ← hsession, ← hrev, Option.isSome_or, hhidden,
        Bool.true_or]
  · rw [hstore, hphase]
    exact snapshotFits_of_newer h.snapshot hrevision

theorem isAcked_newEntry (s : DmStore) (a : AppendArgs) (nowMs : Nat)
    (h : (newEntry s a nowMs).outbound = true → a.acked = false) :
    isAcked (newEntry s a nowMs) = false := by
  cases hout : (newEntry s a nowMs).outbound with
  | false => simp [isAcked, hout]
  | true =>
    have hbase : (baseEntry s a nowMs).outbound = true := by
      rw [← hout]
      exact DmEntry.outbound_of_frozen (startDelivery_frozen a.acked (baseEntry s a nowMs)).symm
    have hacked := h hout
    rw [newEntry, startDelivery, if_pos hbase]
    simp [isAcked, hacked]

theorem isAcked_newRow {s : DmStore} {a : AppendArgs} {nowMs : Nat} {random : Fin 8 → UInt64}
    {entry : DmEntry} (hrow : NewRow s a nowMs random entry)
    (h : (newEntry s a nowMs).outbound = true → a.acked = false) : isAcked entry = false := by
  rw [hrow.built]
  exact isAcked_newEntry s a nowMs h

theorem forall_old_row {P : DmEntry → Prop} {s : DmStore} (k : Fin dmStoreCapacity)
    {row : DmEntry} {pending : List AckPersistencePending} (used : s.entries.Used k)
    (hold : ∀ e ∈ s.rows, P e) (hrow : s.entries.slots k ∈ s.rows → P row) :
    ∀ e ∈ (updateRow { s with ackPersistencePending := pending } k fun _ => row).rows, P e := by
  obtain ⟨pre, post, hrows, hrows'⟩ :=
    rows_updateRow { s with ackPersistencePending := pending } (fun _ => row) used
  have hall : ∀ x ∈ pre ++ s.entries.slots k :: post, P x := by
    rw [← hrows]
    exact hold
  rw [hrows']
  exact forall_mem_replace hall (hrow (Ring.slots_mem_of_used used))

theorem AckInv.mutated (h : AckInv l) {op : DmOp} (hm : Mutated l.store op s')
    (hdevice : stepDevice l.device act = ⟨s', l.device.phase⟩)
    (hop : ∀ a, op ≠ .transition a)
    (hnew : ∀ a nowMs random, op = .append a nowMs random →
      (newEntry l.store a nowMs).outbound = true → a.acked = false) :
    AckInv (stepAckLog l act) := by
  have hsound := rowSound_mutated hm h.sound
  have hstore : (stepAckLog l act).store = s' := congrArg DmDevice.store hdevice
  have hphase : (stepAckLog l act).device.phase = l.device.phase := by
    change (stepDevice l.device act).phase = _
    rw [hdevice]
  cases hm with
  | refused =>
    refine h.same ?_ ?_ ?_ ?_
    · rw [hstore]
      exact ⟨rfl, rfl, rfl⟩
    · rw [hstore]
      exact fun _ _ _ hdirty => .inl hdirty
    · rw [hstore]
      exact fun _ _ _ hdirty => .inl hdirty
    · rw [hstore, hphase]
      exact h.snapshot
  | preview a nowMs random check =>
    refine ⟨?_, ?_, ?_, ?_, ?_⟩
    · rw [hstore]
      exact h.sound
    · rw [hstore]
      intro e he
      rw [← Option.mem_some_iff.mp he]
      exact isAcked_newEntry l.store a nowMs (hnew a nowMs random rfl)
    · rw [hstore]
      exact h.hidden
    · rw [hstore]
      intro e he hacked
      rcases h.acked e he hacked with hdurable | hcovered
      · exact .inl (hdurable.step act)
      · refine .inr ⟨?_, ?_, ?_⟩
        · rw [hstore]
          exact hcovered.hidden
        · rw [hstore]
          exact hcovered.nvs.imp_right fun hstored => hstored.append _
        · rw [hstore]
          exact hcovered.sd.imp_right fun hstored => hstored.append _
    · rw [hstore, hphase]
      exact h.snapshot
  | inserted a nowMs random entry ready row =>
    refine h.mutation hdevice rfl rfl (Nat.lt_succ_self _) hsound ?_ [] ?_ ?_ ?_
    · exact fun e he => absurd he (Option.not_mem_none e)
    · exact (List.append_nil _).symm
    · exact fun p hp => absurd hp List.not_mem_nil
    · rw [rows_insertRow]
      refine forall_mem_snoc ?_ ?_
      · intro e he hacked
        exact .inr ⟨e, (retainedRows_sublist l.store).subset he, hacked, rfl, rfl⟩
      · intro hacked
        rw [isAcked_newRow row (hnew a nowMs random rfl)] at hacked
        exact Bool.noConfusion hacked
  | rewritten _ k row pending used update other dispatched =>
    obtain ⟨-, hdelivery, rfl⟩ := other hop
    refine h.mutation hdevice rfl rfl (Nat.lt_succ_self _) hsound h.preview [] ?_ ?_ ?_
    · exact (List.append_nil _).symm
    · exact fun p hp => absurd hp List.not_mem_nil
    · refine forall_old_row k used ?_ ?_
      · exact fun e he hacked => .inr ⟨e, he, hacked, rfl, rfl⟩
      · intro hmem hacked
        obtain ⟨hsame, hsession, hrev⟩ := isAcked_of_deliveryPart hdelivery
        exact .inr ⟨_, hmem, hsame ▸ hacked, hsession.symm, hrev.symm⟩

theorem reserveAckPersistencePending_eq_some {s : DmStore} {e : DmEntry}
    {p : AckPersistencePending} (h : reserveAckPersistencePending s e = some p) :
    p.deliverySessionId = e.deliverySessionId ∧ p.targetRevision = e.deliveryRevision + 1 ∧
      p.previousState = e.deliveryState := by
  unfold reserveAckPersistencePending at h
  split_ifs at h
  obtain rfl := Option.some.inj h
  exact ⟨rfl, rfl, rfl⟩

theorem AckInv.transition (h : AckInv l) (a : TransitionArgs)
    (hdevice : stepDevice l.device act = ⟨(transitionDelivery l.store a).1, l.device.phase⟩) :
    AckInv (stepAckLog l act) := by
  have hm := transitionDelivery_mutated l.store a
  have hsound := rowSound_mutated hm h.sound
  rcases transitionDelivery_cases l.store a with
    hrefused | ⟨k, hfind, -, -, -, hallowed, hreserved, heq⟩
  · rw [hrefused] at hdevice
    exact h.mutated (.refused (.reserveAck 0 0 false)) hdevice (fun _ h => DmOp.noConfusion h)
      (fun _ _ _ h => DmOp.noConfusion h)
  obtain ⟨hused, hsession⟩ := findDeliverySession_eq_some hfind
  rw [heq] at hdevice hsound
  have hnext := transitionRefused_eq_false hallowed
  refine h.mutation hdevice rfl rfl (Nat.lt_succ_self _) hsound h.preview _ rfl ?_ ?_
  · intro p hp
    by_cases hack : a.nextState = .acknowledged
    swap
    · rw [if_neg hack] at hp
      exact absurd hp List.not_mem_nil
    rw [if_pos hack, Option.mem_toList] at hp
    obtain ⟨-, -, hprevious⟩ := reserveAckPersistencePending_eq_some hp
    rw [hprevious, hnext.state]
    intro hexpected
    have hloop := hnext.next
    rw [hexpected, hack] at hloop
    exact absurd hloop (by decide)
  · refine forall_old_row k hused ?_ ?_
    · exact fun e he hacked => .inr ⟨e, he, hacked, rfl, rfl⟩
    · intro hmem hacked
      left
      have hack : a.nextState = .acknowledged :=
        of_decide_eq_true (Bool.and_eq_true_iff.mp hacked).2
      obtain ⟨p, hp⟩ := Option.isSome_iff_exists.mp (hreserved hack)
      obtain ⟨hsame, htarget, -⟩ := reserveAckPersistencePending_eq_some hp
      refine List.find?_isSome.mpr ⟨p, ?_, ?_⟩
      · rw [if_pos hack, hp]
        exact List.mem_append_right _ (List.mem_singleton.mpr rfl)
      · change (decide (p.deliverySessionId = (l.store.entries.slots k).deliverySessionId) &&
          (decide ((l.store.entries.slots k).deliveryRevision + 1 = 0) ||
            decide (p.targetRevision = (l.store.entries.slots k).deliveryRevision + 1))) = true
        simp [hsame, htarget]

end Calls

structure NoTable (s : DmStore) : Prop where
  preview : s.volatileEntry = none
  pending : s.ackPersistencePending = []

theorem mergePrimary_table (s : DmStore) (primary : DmBlob) :
    (mergePrimary s primary).store = s ∨ NoTable (mergePrimary s primary).store := by
  unfold mergePrimary
  split_ifs
  · exact .inl rfl
  · unfold mergeSameEpoch
    cases mergeCandidates s primary with
    | error ret => exact .inl rfl
    | ok acc => exact .inr ⟨rfl, rfl⟩
  · refine .inr (mergeOverlay_induct ⟨rfl, rfl⟩ ⟨rfl, rfl⟩ (fun acc e acc' _ hacc hstep => ?_)
      fun _ _ _ _ h => ⟨h.preview, h.pending⟩)
    cases hstep
    all_goals exact ⟨hacc.preview, hacc.pending⟩

theorem NoTable.normalizeWith {s : DmStore} (h : NoTable s) (interrupted : DmEntry → Bool)
    (settle : DmEntry → DmEntry) : NoTable (normalizeWith interrupted settle s).1 := by
  unfold Dm.normalizeWith
  split_ifs
  · exact ⟨h.preview, h.pending⟩
  · exact h

theorem initStore_noTable (s : DmStore) (r : InitReads) : NoTable (initStore s r).1 := by
  have hload : NoTable (initLoad s r) := by
    unfold initLoad
    cases r.nvs <;> cases r.sdResult <;> exact ⟨rfl, rfl⟩
  have hmerge : NoTable (initMerge (initLoad s r) r).1 := by
    unfold initMerge
    cases r.nvs with
    | error ret => exact hload
    | ok nvs =>
      cases r.sdResult with
      | error ret => exact hload
      | ok sd =>
        have hmerged : NoTable (mergePrimary (initLoad s r) sd.blob).store := by
          rcases mergePrimary_table (initLoad s r) sd.blob with hsame | hfresh
          · rw [hsame]
            exact hload
          · exact hfresh
        dsimp only
        split_ifs
        · exact ⟨rfl, rfl⟩
        · exact ⟨hmerged.preview, hmerged.pending⟩
        · exact ⟨hmerged.preview, hmerged.pending⟩
  have hrollback : NoTable (initRollback (initMerge (initLoad s r) r).1 r) := by
    unfold initRollback
    split_ifs
    · exact hmerge
    · cases r.nvs <;> exact ⟨rfl, rfl⟩
  have hhistory : NoTable (initHistory s r).1 :=
    (hrollback.normalizeWith _ _).normalizeWith _ _
  exact ⟨hhistory.preview, hhistory.pending⟩

theorem initStore_acked {D : UInt64 → Nat → Prop} {s : DmStore} {r : InitReads}
    (h : ∀ b ∈ blobsRead r, ∀ e ∈ b.rows, AckedOnly D e) :
    ∀ e ∈ (initStore s r).1.rows, AckedOnly D e := by
  have hrollback := initRollback_forall (s := s) (mergeClosed_acked D) h
  have hack : ∀ e ∈ (normalizeInterruptedAck
      (initRollback (initMerge (initLoad s r) r).1 r)).1.rows, AckedOnly D e := by
    refine normalizeWith_forall ?_ ?_ hrollback
    · exact fun e he hi => ⟨settleInterruptedAck_sound he.sound hi, he.acked⟩
    · exact fun e he _ => he
  refine normalizeWith_forall ?_ ?_ hack
  · intro e he hi
    refine ⟨settleInterruptedDelivery_sound he.sound hi, fun hacked => ?_⟩
    have hstate : DeliveryState.interruptedByReboot = .acknowledged :=
      of_decide_eq_true (Bool.and_eq_true_iff.mp hacked).2
    exact absurd hstate (by decide)
  · exact fun e he _ => he

section Reads

variable {l : AckLog} {act : DmAct}

theorem ackInv_of_durable {l : AckLog} (hrows : ∀ e ∈ l.store.rows, AckedOnly (Durable l) e)
    (hpreview : ∀ e ∈ l.store.volatileEntry, isAcked e = false)
    (hhidden : ∀ p ∈ l.store.ackPersistencePending, p.previousState ≠ .acknowledged)
    (hfits : SnapshotFits l.store l.device.phase) : AckInv l where
  sound := fun e he => (hrows e he).sound
  preview := hpreview
  hidden := hhidden
  acked := fun e he hacked => .inl ((hrows e he).acked hacked)
  snapshot := hfits

theorem ackedOnly_of_taken {b : DmBlob} (hvalid : BlobValid b) (hb : b ∈ blobsTaken l.device act) :
    ∀ e ∈ b.rows, AckedOnly (Durable (stepAckLog l act)) e := by
  intro e he
  refine ⟨hvalid.rows.row_sound he, fun hacked => .inr ?_⟩
  exact ⟨b, List.mem_append_right _ hb, blobAcks_of_mem he hacked⟩

theorem blobsRead_valid {r : InitReads} {b : DmBlob} (hb : b ∈ blobsRead r) : BlobValid b := by
  unfold blobsRead at hb
  rw [List.mem_append] at hb
  rcases hb with hb | hb
  · cases hnvs : r.nvs with
    | ok nvs =>
      rw [hnvs] at hb
      rw [List.mem_singleton.mp hb]
      exact (blobIsValid_iff _).mp nvs.valid
    | error ret =>
      rw [hnvs] at hb
      exact absurd hb List.not_mem_nil
  · cases hsd : r.sdResult with
    | ok sd =>
      rw [hsd] at hb
      rw [List.mem_singleton.mp hb]
      exact (blobIsValid_iff _).mp sd.valid
    | error ret =>
      rw [hsd] at hb
      exact absurd hb List.not_mem_nil

theorem AckInv.loaded {reads : InitReads} (hact : act = .init reads)
    (idle : l.device.phase = .idle) (unloaded : l.device.store.loaded = false)
    (hdevice : stepDevice l.device act = ⟨(initStore l.device.store reads).1, .idle⟩) :
    AckInv (stepAckLog l act) := by
  have hstore : (stepAckLog l act).store = (initStore l.device.store reads).1 :=
    congrArg DmDevice.store hdevice
  have hempty := initStore_noTable l.device.store reads
  refine ackInv_of_durable ?_ ?_ ?_ ?_
  · rw [hstore]
    refine initStore_acked fun b hb => ackedOnly_of_taken (blobsRead_valid hb) ?_
    rw [hact]
    unfold blobsTaken
    rw [idle]
    dsimp only
    rw [unloaded]
    exact hb
  · rw [hstore, hempty.preview]
    exact fun e he => absurd he (Option.not_mem_none e)
  · rw [hstore, hempty.pending]
    exact fun p hp => absurd hp List.not_mem_nil
  · change SnapshotFits _ (stepDevice l.device act).phase
    rw [hdevice]
    trivial

/-- The reconcile leaves the side table alone: the card is not taken over, or the row loop of
the same epoch refuses it. -/
def tableKept (s : DmStore) (primary : DmBlob) (generationMatches : Bool) : Prop :=
  if primaryIgnored s primary then generationMatches = true
  else incomingClearDominates s primary = false ∧ primary.epoch = s.epoch ∧
    (mergeSameEpoch s primary).ret ≠ espOk

theorem mergeSameEpoch_refused {s : DmStore} {primary : DmBlob}
    (h : (mergeSameEpoch s primary).ret ≠ espOk) : (mergeSameEpoch s primary).store = s := by
  unfold mergeSameEpoch at h ⊢
  cases hm : mergeCandidates s primary with
  | error ret => rfl
  | ok acc =>
    rw [hm] at h
    exact absurd rfl h

theorem reconcileLocked_kept {s : DmStore} {stored : StoredBlob} {generationMatches : Bool}
    (hkept : tableKept s stored.blob generationMatches) {s' : DmStore}
    (hs' : (reconcileLocked s stored generationMatches).1 = s') :
    SameTable s s' ∧ (s.nvsFallbackDirty = true → s'.nvsFallbackDirty = true) ∧
      (s.sdPrimaryDirty = true → s'.sdPrimaryDirty = true) := by
  subst hs'
  unfold tableKept at hkept
  unfold reconcileLocked mergePrimary
  dsimp only
  by_cases hignored : primaryIgnored s stored.blob = true
  · rw [if_pos hignored] at hkept ⊢
    rw [if_neg (not_not.mpr rfl), hkept]
    refine ⟨⟨rfl, rfl, rfl⟩, fun hdirty => ?_, fun _ => ?_⟩
    · exact Bool.or_eq_true_iff.mpr (.inl hdirty)
    · refine Bool.or_eq_true_iff.mpr (.inr (decide_eq_true fun heq => ?_))
      have hepoch : s.epoch = stored.blob.epoch := congrArg DmBlob.epoch heq
      have hlineage : s.clearLineage = stored.blob.clearLineage :=
        congrArg DmBlob.clearLineage heq
      simp [primaryIgnored, hepoch, hlineage] at hignored
  · rw [if_neg hignored] at hkept
    obtain ⟨hdominates, hepoch, hret⟩ := hkept
    have hsame : (!incomingClearDominates s stored.blob &&
        decide (stored.blob.epoch = s.epoch)) = true := by
      simp [hdominates, hepoch]
    rw [if_neg hignored, if_pos hsame, if_pos hret, mergeSameEpoch_refused hret]
    exact ⟨⟨rfl, rfl, rfl⟩, id, id⟩

/-- No row of an earlier append claims its ACK, and a card that is taken over holds every ACK
that the side table still hides. -/
def AckOk (l : AckLog) : DmAct → Prop
  | .call (.append a nowMs _) => (newEntry l.store a nowMs).outbound = true → a.acked = false
  | .reconcile (.found stored generationMatches) =>
    ∀ sdPrimaryRequired, l.device.phase = .reconciling sdPrimaryRequired →
      tableKept l.store stored.blob generationMatches ∨
        ∀ e ∈ l.store.rows, isAcked e = true → ackHidden l.store e = true →
          blobAcks stored.blob e.deliverySessionId e.deliveryRevision = true
  | _ => True

theorem reconcileRead_found (s : DmStore) (sdPrimaryRequired : Bool) (stored : StoredBlob)
    (generationMatches : Bool) :
    ((reconcileRead s sdPrimaryRequired (.found stored generationMatches)).store =
        (reconcileLocked s stored generationMatches).1 ∨
      ∃ error, (reconcileRead s sdPrimaryRequired (.found stored generationMatches)).store =
        noteSdReconcileFailure (reconcileLocked s stored generationMatches).1 error) ∧
      ∀ s', SnapshotFits s'
        (reconcileRead s sdPrimaryRequired (.found stored generationMatches)).phase := by
  unfold reconcileRead
  dsimp only
  split_ifs
  · exact ⟨.inl rfl, fun _ => trivial⟩
  · exact ⟨.inr ⟨_, rfl⟩, fun _ => trivial⟩

theorem reconcileLocked_preview (s : DmStore) (stored : StoredBlob) (generationMatches : Bool) :
    (reconcileLocked s stored generationMatches).1.volatileEntry = s.volatileEntry := by
  unfold reconcileLocked
  dsimp only
  split_ifs <;> rfl

theorem reconcileLocked_pending (s : DmStore) (stored : StoredBlob) (generationMatches : Bool) :
    (reconcileLocked s stored generationMatches).1.ackPersistencePending =
        s.ackPersistencePending ∨
      (reconcileLocked s stored generationMatches).1.ackPersistencePending = [] := by
  have hmerged : (mergePrimary s stored.blob).store.ackPersistencePending =
      s.ackPersistencePending ∨ (mergePrimary s stored.blob).store.ackPersistencePending = [] := by
    rcases mergePrimary_table s stored.blob with hsame | hfresh
    · rw [hsame]
      exact .inl rfl
    · exact .inr hfresh.pending
  unfold reconcileLocked
  dsimp only
  split_ifs
  · exact hmerged
  · exact .inr rfl
  · exact hmerged

theorem AckInv.found (h : AckInv l) {stored : StoredBlob} {generationMatches : Bool}
    {sdPrimaryRequired : Bool} (hact : act = .reconcile (.found stored generationMatches))
    (hok : AckOk l act) (phase : l.device.phase = .reconciling sdPrimaryRequired)
    (hdevice : stepDevice l.device act =
      reconcileRead l.store sdPrimaryRequired (.found stored generationMatches)) :
    AckInv (stepAckLog l act) := by
  obtain ⟨hread, hfits⟩ := reconcileRead_found l.store sdPrimaryRequired stored generationMatches
  rw [← hdevice] at hread hfits
  have hphase : SnapshotFits (stepAckLog l act).store (stepAckLog l act).device.phase := hfits _
  have hsame : SameTable (reconcileLocked l.store stored generationMatches).1
      (stepAckLog l act).store ∧
      (stepAckLog l act).store.nvsFallbackDirty =
        (reconcileLocked l.store stored generationMatches).1.nvsFallbackDirty ∧
      (stepAckLog l act).store.sdPrimaryDirty =
        (reconcileLocked l.store stored generationMatches).1.sdPrimaryDirty := by
    rcases hread with hstore | ⟨error, hstore⟩
    · rw [← hstore]
      exact ⟨⟨rfl, rfl, rfl⟩, rfl, rfl⟩
    · change SameTable _ (stepDevice l.device act).store ∧
        (stepDevice l.device act).store.nvsFallbackDirty = _ ∧
        (stepDevice l.device act).store.sdPrimaryDirty = _
      rw [hstore]
      exact ⟨⟨rfl, rfl, rfl⟩, rfl, rfl⟩
  obtain ⟨htable, hnvs, hsd⟩ := hsame
  rw [hact] at hok
  rcases hok sdPrimaryRequired phase with hkept | hcard
  · obtain ⟨hkeptTable, hkeptNvs, hkeptSd⟩ := reconcileLocked_kept hkept rfl
    refine h.same ⟨?_, ?_, ?_⟩ ?_ ?_ hphase
    · exact htable.rows.trans hkeptTable.rows
    · exact htable.preview.trans hkeptTable.preview
    · exact htable.pending.trans hkeptTable.pending
    · exact fun _ _ _ hdirty => .inl (hnvs.trans (hkeptNvs hdirty))
    · exact fun _ _ _ hdirty => .inl (hsd.trans (hkeptSd hdirty))
  · have htaken : stored.blob ∈ blobsTaken l.device act := by
      rw [hact]
      unfold blobsTaken
      rw [phase]
      exact List.mem_singleton.mpr rfl
    have hprimary := ackedOnly_of_taken ((blobIsValid_iff _).mp stored.valid) htaken
    have hram : ∀ e ∈ l.store.rows, AckedOnly (Durable (stepAckLog l act)) e := by
      intro e he
      refine ⟨h.sound e he, fun hacked => ?_⟩
      rcases h.acked e he hacked with hdurable | hcovered
      · exact hdurable.step act
      · refine .inr ⟨stored.blob, List.mem_append_right _ htaken, ?_⟩
        exact hcard e he hacked hcovered.hidden
    have hrows : ∀ e ∈ (reconcileLocked l.store stored generationMatches).1.rows,
        AckedOnly (Durable (stepAckLog l act)) e :=
      (reconcileLocked_forall (Q := fun _ => True) (mergeClosed_acked _) (fun _ _ => trivial)
        ⟨hram, fun _ _ => trivial⟩ hprimary generationMatches).1
    refine ackInv_of_durable ?_ ?_ ?_ hphase
    · rw [htable.rows]
      exact hrows
    · rw [htable.preview, reconcileLocked_preview]
      exact h.preview
    · rw [htable.pending]
      rcases reconcileLocked_pending l.store stored generationMatches with hpending | hpending
      · rw [hpending]
        exact h.hidden
      · rw [hpending]
        exact fun p hp => absurd hp List.not_mem_nil

theorem AckInv.notFound (h : AckInv l) {read : ReconcileRead} {sdPrimaryRequired : Bool}
    (hread : ∀ stored generationMatches, read ≠ .found stored generationMatches)
    (hdevice : stepDevice l.device act = reconcileRead l.store sdPrimaryRequired read) :
    AckInv (stepAckLog l act) := by
  have hstore : (stepAckLog l act).store =
      (reconcileRead l.store sdPrimaryRequired read).store := congrArg DmDevice.store hdevice
  have hphase : (stepAckLog l act).device.phase =
      (reconcileRead l.store sdPrimaryRequired read).phase := by
    change (stepDevice l.device act).phase = _
    rw [hdevice]
  cases read with
  | found stored generationMatches => exact absurd rfl (hread stored generationMatches)
  | unfinished =>
    refine h.same ?_ ?_ ?_ ?_
    · rw [hstore]
      exact ⟨rfl, rfl, rfl⟩
    · rw [hstore]
      exact fun _ _ _ hdirty => .inl hdirty
    · rw [hstore]
      exact fun _ _ _ hdirty => .inl hdirty
    · rw [hphase]
      trivial
  | failed error =>
    refine h.same ?_ ?_ ?_ ?_
    · rw [hstore]
      exact ⟨rfl, rfl, rfl⟩
    · rw [hstore]
      exact fun _ _ _ hdirty => .inl hdirty
    · rw [hstore]
      exact fun _ _ _ hdirty => .inl hdirty
    · rw [hphase]
      trivial
  | notFound =>
    refine h.same ?_ ?_ ?_ ?_
    · rw [hstore]
      exact ⟨rfl, rfl, rfl⟩
    · rw [hstore]
      exact fun _ _ _ hdirty => .inl hdirty
    · rw [hstore]
      intro e he _ _
      left
      have hcount : 0 < l.store.entries.count := by
        rw [← l.store.length_rows]
        exact List.length_pos_of_mem he
      change (decide (0 < l.store.entries.count) || _ || _) = true
      rw [decide_eq_true hcount, Bool.true_or, Bool.true_or]
    · rw [hphase]
      trivial

end Reads

section Runs

variable {l : AckLog}

theorem AckInv.idle (h : AckInv l) {act : DmAct} {phase : PersistPhase}
    (hdevice : stepDevice l.device act = ⟨l.store, phase⟩) (hfits : SnapshotFits l.store phase) :
    AckInv (stepAckLog l act) := by
  have hstore : (stepAckLog l act).store = l.store := by
    change (stepDevice l.device act).store = _
    rw [hdevice]
  refine h.same ?_ ?_ ?_ ?_
  · rw [hstore]
    exact ⟨rfl, rfl, rfl⟩
  · rw [hstore]
    exact fun _ _ _ hdirty => .inl hdirty
  · rw [hstore]
    exact fun _ _ _ hdirty => .inl hdirty
  · rw [hstore]
    change SnapshotFits l.store (stepDevice l.device act).phase
    rw [hdevice]
    exact hfits

theorem AckInv.cleared (h : AckInv l) {act : DmAct} {lineage : UInt64}
    (hdevice : stepDevice l.device act = ⟨clearStore l.store lineage, l.device.phase⟩) :
    AckInv (stepAckLog l act) := by
  have hstore : (stepAckLog l act).store = clearStore l.store lineage :=
    congrArg DmDevice.store hdevice
  have hrows : (clearStore l.store lineage).rows = [] := rfl
  refine ⟨?_, ?_, ?_, ?_, ?_⟩
  · rw [hstore, hrows]
    exact fun e he => absurd he List.not_mem_nil
  · rw [hstore]
    exact fun e he => absurd he (Option.not_mem_none e)
  · rw [hstore]
    exact fun p hp => absurd hp List.not_mem_nil
  · rw [hstore, hrows]
    exact fun e he => absurd he List.not_mem_nil
  · have hphase : (stepAckLog l act).device.phase = l.device.phase := by
      change (stepDevice l.device act).phase = _
      rw [hdevice]
    rw [hstore, hphase]
    exact snapshotFits_of_newer h.snapshot (Nat.lt_succ_self _)

theorem AckInv.step (h : AckInv l) (act : DmAct) (hok : AckOk l act) :
    AckInv (stepAckLog l act) := by
  have hacted := stepDevice_acted l.device act
  generalize hdevice : stepDevice l.device act = d at hacted
  cases hacted with
  | ignored => exact h.idle hdevice h.snapshot
  | loaded reads idle unloaded => exact AckInv.loaded rfl idle unloaded hdevice
  | called op call =>
    rcases stepStore_call call l.device.store with ⟨lineage, rfl⟩ | hm
    · exact h.cleared hdevice
    by_cases htransition : ∃ a, op = .transition a
    · obtain ⟨a, rfl⟩ := htransition
      exact h.transition a hdevice
    · refine h.mutated hm hdevice (fun a heq => htransition ⟨a, heq⟩) ?_
      rintro a nowMs random rfl
      exact hok
  | began sdPrimaryRequired generation attemptMs force idle => exact h.begin rfl idle hdevice
  | reconciled sdPrimaryRequired read phase =>
    cases read with
    | found stored generationMatches => exact h.found rfl hok phase hdevice
    | _ => exact h.notFound (fun _ _ heq => ReconcileRead.noConfusion heq) hdevice
  | collected sdPrimaryRequired phase taken =>
    refine h.idle hdevice ?_
    rcases taken with rfl | rfl | rfl
    · exact ⟨le_rfl, fun _ => rows_fillBlob _⟩
    · exact ⟨le_rfl, fun _ => rows_fillBlob _⟩
    · trivial
  | finished sdPrimaryRequired snapshot sdRet nvsRet phase => exact h.finished rfl phase hdevice
  | fallback sdPrimaryRequired snapshot sdRet nvsRet phase => exact h.fallback rfl phase hdevice
  | abandoned sdPrimaryRequired snapshot phase => exact h.idle hdevice trivial

theorem AckInv.durable (h : AckInv l) {e : DmEntry} (he : e ∈ l.store.rows)
    (hacked : isAcked e = true) (hshown : ackHidden l.store e = false) :
    Durable l e.deliverySessionId e.deliveryRevision := by
  rcases h.acked e he hacked with hdurable | hcovered
  · exact hdurable
  · exact absurd (hshown.symm.trans hcovered.hidden) Bool.false_ne_true

def initEmpty : DmAct :=
  .init
    { enabled := false, generation := 0, nvs := .error espErrNotFound
      sd := .error espErrNotFound, generationMatchesAfterRead := true
      generationMatchesAfterMerge := true }

end Runs

end Sigui.Dm

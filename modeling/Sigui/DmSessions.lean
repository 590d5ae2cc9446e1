import Sigui.DmAckRuns
import Sigui.DmRowOrder

/-! What holds of the delivery sessions in every run: rows the validator accepts, no session
carried by two rows, and a side table whose entries record a transition that was allowed. -/
namespace Sigui.Dm

def SessionsApart (rows : List DmEntry) : Prop :=
  rows.Pairwise fun a b => a.deliverySessionId = b.deliverySessionId → a.deliverySessionId = 0

section Rows

variable {rows rows' : List DmEntry} {r u : DmEntry}

theorem SessionsApart.of_sessions (h : SessionsApart rows)
    (hsame : rows'.map DmEntry.deliverySessionId = rows.map DmEntry.deliverySessionId) :
    SessionsApart rows' := by
  have hmap : (rows.map DmEntry.deliverySessionId).Pairwise fun a b => a = b → a = 0 :=
    List.pairwise_map.mpr h
  rw [← hsame] at hmap
  exact List.pairwise_map.mp hmap

theorem SessionsApart.perm (h : SessionsApart rows) (hperm : rows.Perm rows') :
    SessionsApart rows' := by
  refine List.Pairwise.perm h hperm fun {a b} hab heq => ?_
  rw [heq]
  exact hab heq.symm

theorem SessionsApart.snoc (h : SessionsApart rows)
    (hr : ∀ p ∈ rows, p.deliverySessionId = r.deliverySessionId → p.deliverySessionId = 0) :
    SessionsApart (rows ++ [r]) := by
  refine List.pairwise_append.mpr ⟨h, List.pairwise_singleton _ _, ?_⟩
  intro p hp x hx
  rw [List.mem_singleton.mp hx]
  exact hr p hp

theorem SessionsApart.replace {pre post : List DmEntry} (h : SessionsApart (pre ++ r :: post))
    (hsession : u.deliverySessionId = r.deliverySessionId) :
    SessionsApart (pre ++ u :: post) := by
  apply h.of_sessions
  simp only [List.map_append, List.map_cons, hsession]

theorem RowsValid.sessionsApart {nextSeq : Nat} (h : RowsValid nextSeq rows) :
    SessionsApart rows := by
  refine h.distinct.imp fun {a b} hab heq => ?_
  by_contra hne
  exact (rowsClash_false hab).2 (heq ▸ hne) heq

theorem session_of_unpaired (hconflict : deliverySessionIdConflicts r u = false)
    (hidentity : entryIdentityEqual r u = false)
    (hsession : r.deliverySessionId = u.deliverySessionId) : r.deliverySessionId = 0 := by
  by_contra hne
  exact (rowsClash_false (rowsClash_of_unpaired hconflict hidentity)).2 (hsession ▸ hne) hsession

end Rows

/-- The rows of the ring and of the scratch blob init may go back to. -/
structure StoreApart (s : DmStore) : Prop where
  rows : SessionsApart s.rows
  scratch : SessionsApart s.nvsBlobScratch.rows

section Merges

variable {s : DmStore} {primary : DmBlob}

theorem MergeStep.apart {newer : Bool} {acc acc' : MergeAcc} {u : DmEntry}
    (hstep : MergeStep s newer acc u acc') (hacc : SessionsApart acc.merged) :
    SessionsApart acc'.merged := by
  have hnew : (∀ r ∈ acc.merged, deliverySessionIdConflicts r u = false ∧
      entryIdentityEqual r u = false) → ∀ r ∈ acc.merged,
        r.deliverySessionId = u.deliverySessionId → r.deliverySessionId = 0 :=
    fun habsent r hr => session_of_unpaired (habsent r hr).1 (habsent r hr).2
  cases hstep with
  | pair before row after hsplit =>
    rw [hsplit] at hacc
    exact hacc.replace (DmEntry.session_of_frozen (mergeMatchedRow_frozen row u newer))
  | enter habsent => exact hacc.snoc (hnew habsent)
  | liftLive before current after habsent hsplit =>
    -- the live row and the card's row have changed places, with the card's row new
    have hadded := hacc.snoc (hnew habsent)
    rw [hsplit] at hadded
    have hmoved : (before ++ current :: after ++ [u]).Perm
        (before ++ u :: after ++ [current]) := by
      simp only [List.append_assoc, List.cons_append]
      refine List.Perm.append_left before ?_
      exact (@List.perm_append_comm _ (current :: after) [u]).trans
        ((@List.perm_append_comm _ [current] after).cons u)
    exact (hadded.perm hmoved).replace (DmEntry.withSeq_session current acc.nextSeq)
  | resequence _ habsent => exact hacc.snoc (hnew habsent)

theorem StoreApart.mergeSameEpoch (h : StoreApart s) :
    StoreApart (mergeSameEpoch s primary).store := by
  unfold Dm.mergeSameEpoch
  cases hm : mergeCandidates s primary with
  | error ret => exact h
  | ok acc =>
    have hmerged : SessionsApart acc.merged :=
      mergeCandidates_keeps h.rows (fun _ _ _ _ _ hacc hstep => hstep.apart hacc) hm
    have hrows : SessionsApart (mergedStore s primary acc).rows := by
      rw [rows_mergedStore]
      exact (hmerged.perm (sortByKey_perm DmEntry.seq acc.merged).symm).sublist
        (keepLast_sublist _ _)
    refine ⟨hrows, ?_⟩
    change SessionsApart (fillBlob (mergedStore s primary acc)).rows
    rw [rows_fillBlob]
    exact hrows

theorem StoreApart.loadBlob (h : StoreApart s) {b : DmBlob} (hb : SessionsApart b.rows) :
    StoreApart (loadBlob s b) := by
  refine ⟨?_, h.scratch⟩
  rw [rows_loadBlob]
  exact hb

theorem retainedRows_apart (h : SessionsApart s.rows) : SessionsApart (retainedRows s) :=
  List.Pairwise.sublist (retainedRows_sublist s) h

theorem OverlayStep.apart {acc acc' : OverlayAcc} {e : DmEntry} (hstep : OverlayStep acc e acc')
    (hacc : StoreApart acc.store) : StoreApart acc'.store := by
  cases hstep with
  | pair k _ hused =>
    obtain ⟨pre, post, hrows, hrows'⟩ := acc.store.entries.toRing.toList_modify
      (fun _ => mergeMatchedRow (acc.store.entries.slots k) e true) hused
    have hold : SessionsApart (pre ++ acc.store.entries.slots k :: post) := hrows ▸ hacc.rows
    have hnew := hold.replace
      (DmEntry.session_of_frozen (mergeMatchedRow_frozen (acc.store.entries.slots k) e true))
    refine ⟨?_, hacc.scratch⟩
    rw [← hrows'] at hnew
    exact hnew
  | skip => exact hacc
  | push habsent =>
    have hpushed : SessionsApart (acc.store.entries.push (e.withSeq acc.store.nextSeq)).toList := by
      rw [toList_push]
      refine (retainedRows_apart hacc.rows).snoc fun r hr hsession => ?_
      obtain ⟨hconflict, hpair⟩ := habsent r ((retainedRows_sublist acc.store).subset hr)
      exact session_of_unpaired hconflict hpair hsession
    exact ⟨hpushed, hacc.scratch⟩

theorem StoreApart.mergePrimary (h : StoreApart s) (hvalid : BlobValid primary) :
    StoreApart (mergePrimary s primary).store := by
  have hback : StoreApart (Dm.loadBlob s (Dm.fillBlob s)) := by
    refine h.loadBlob ?_
    rw [rows_fillBlob]
    exact h.rows
  exact mergePrimary_induct h h.mergeSameEpoch (mergeOverlay_induct hback
    (h.loadBlob hvalid.rows.sessionsApart) (fun _ _ _ _ hacc hstep => hstep.apart hacc)
    fun _ _ _ _ hacc => ⟨hacc.rows, hacc.scratch⟩)

theorem StoreApart.reconcileLocked (h : StoreApart s) (stored : StoredBlob)
    (generationMatches : Bool) :
    StoreApart (reconcileLocked s stored generationMatches).1 := by
  have hmerged := h.mergePrimary ((blobIsValid_iff _).mp stored.valid)
  have hreload : StoreApart (Dm.loadBlob { (Dm.mergePrimary s stored.blob).store with
      volatileEntry := s.volatileEntry } (Dm.fillBlob s)) := by
    refine StoreApart.loadBlob ⟨hmerged.rows, hmerged.scratch⟩ ?_
    rw [rows_fillBlob]
    exact h.rows
  have hkept : SessionsApart (Dm.fillBlob
      { (Dm.mergePrimary s stored.blob).store with volatileEntry := s.volatileEntry }).rows := by
    rw [rows_fillBlob]
    exact hmerged.rows
  unfold Dm.reconcileLocked
  dsimp only
  split_ifs
  · exact ⟨hmerged.rows, hmerged.scratch⟩
  · exact ⟨hreload.rows, hreload.scratch⟩
  · exact ⟨hmerged.rows, hkept⟩

end Merges

section Init

variable {s : DmStore}

theorem SessionsApart.normalizeWith (h : SessionsApart s.rows) (interrupted : DmEntry → Bool)
    (settle : DmEntry → DmEntry)
    (hsession : ∀ e, (settle e).deliverySessionId = e.deliverySessionId) :
    SessionsApart (normalizeWith interrupted settle s).1.rows := by
  apply h.of_sessions
  rw [rows_normalizeWith, List.map_map]
  apply List.map_congr_left
  intro e _
  rw [Function.comp_apply]
  split_ifs
  · exact hsession e
  · rfl

theorem normalizeWith_scratch (interrupted : DmEntry → Bool) (settle : DmEntry → DmEntry) :
    (normalizeWith interrupted settle s).1.nvsBlobScratch = s.nvsBlobScratch := by
  unfold normalizeWith
  split_ifs <;> rfl

theorem storeApart_initStore (h : SessionsApart s.nvsBlobScratch.rows) (r : InitReads) :
    StoreApart (initStore s r).1 := by
  have hreset : StoreApart (resetStore s r.enabled r.generation) := ⟨List.Pairwise.nil, h⟩
  have hload : StoreApart (initLoad s r) := by
    unfold initLoad
    cases hnvs : r.nvs with
    | ok nvs =>
      have hblob := ((blobIsValid_iff _).mp nvs.valid).rows.sessionsApart
      have hloaded := hreset.loadBlob hblob
      exact ⟨hloaded.rows, hblob⟩
    | error ret =>
      cases hsd : r.sdResult with
      | ok sd =>
        have hloaded := hreset.loadBlob ((blobIsValid_iff _).mp sd.valid).rows.sessionsApart
        exact ⟨hloaded.rows, hloaded.scratch⟩
      | error ret => exact ⟨hreset.rows, hreset.scratch⟩
  have hmerge : StoreApart (initMerge (initLoad s r) r).1 := by
    unfold initMerge
    cases r.nvs with
    | error ret => exact hload
    | ok nvs =>
      cases r.sdResult with
      | error ret => exact hload
      | ok sd =>
        have hmerged := hload.mergePrimary ((blobIsValid_iff _).mp sd.valid)
        dsimp only
        split_ifs
        · exact hmerged.loadBlob hmerged.scratch
        · exact ⟨hmerged.rows, hmerged.scratch⟩
        · exact ⟨hmerged.rows, hmerged.scratch⟩
  have hrollback : StoreApart (initRollback (initMerge (initLoad s r) r).1 r) := by
    unfold initRollback
    split_ifs
    · exact hmerge
    · cases r.nvs with
      | ok nvs =>
        have hloaded := hmerge.loadBlob hmerge.scratch
        exact ⟨hloaded.rows, hloaded.scratch⟩
      | error ret => exact ⟨List.Pairwise.nil, hmerge.scratch⟩
  have hsettled : SessionsApart
      (normalizeInterrupted (initRollback (initMerge (initLoad s r) r).1 r)).rows :=
    (hrollback.rows.normalizeWith ackInterrupted settleInterruptedAck fun _ => rfl).normalizeWith
      deliveryInterrupted settleInterruptedDelivery fun _ => rfl
  refine ⟨hsettled, ?_⟩
  change SessionsApart (normalizeInterrupted
    (initRollback (initMerge (initLoad s r) r).1 r)).nvsBlobScratch.rows
  rw [normalizeInterrupted, normalizeInterruptedDelivery, normalizeWith_scratch,
    normalizeInterruptedAck, normalizeWith_scratch]
  exact hrollback.scratch

theorem initStore_sound (s : DmStore) (r : InitReads) :
    ∀ e ∈ (initStore s r).1.rows, RowSound e := by
  have hblobs : ∀ b ∈ blobsRead r, ∀ e ∈ b.rows, RowSound e :=
    fun b hb e he => (blobsRead_valid hb).rows.row_sound he
  have hrollback := initRollback_forall (s := s) mergeClosed_sound hblobs
  have hack : ∀ e ∈ (normalizeInterruptedAck
      (initRollback (initMerge (initLoad s r) r).1 r)).1.rows, RowSound e := by
    refine normalizeWith_forall ?_ ?_ hrollback
    · exact fun e he hi => settleInterruptedAck_sound he hi
    · exact fun e he _ => he
  refine normalizeWith_forall ?_ ?_ hack
  · exact fun e he hi => settleInterruptedDelivery_sound he hi
  · exact fun e he _ => he

end Init

/-- A table entry as `reserve_ack_persistence_pending_locked` fills it. -/
structure PendingSound (p : AckPersistencePending) : Prop where
  target : p.targetRevision = p.previousRevision + 1
  previous : p.previousRevision ≠ 0
  room : p.previousRevision ≠ uint32Max

structure SessionInv (s : DmStore) : Prop where
  sound : ∀ e ∈ s.rows, RowSound e
  apart : StoreApart s
  pending : ∀ p ∈ s.ackPersistencePending, PendingSound p

section Calls

variable {s s' : DmStore} {op : DmOp}

theorem StoreApart.mutated (h : StoreApart s) (hm : Mutated s op s') : StoreApart s' := by
  cases hm with
  | refused => exact h
  | preview a nowMs random check => exact ⟨h.rows, h.scratch⟩
  | inserted a nowMs random entry ready row =>
    refine ⟨?_, h.scratch⟩
    rw [rows_insertRow]
    refine (retainedRows_apart h.rows).snoc fun p hp hsession => ?_
    cases hout : entry.outbound with
    | false => exact hsession.trans (row.inbound hout)
    | true =>
      obtain ⟨-, hfree⟩ := deliverySessionIdExists_false (row.outbound hout).2
      exact absurd hsession (hfree p ((retainedRows_sublist s).subset hp))
  | rewritten op k row pending used update other dispatched =>
    obtain ⟨pre, post, hrows, hrows'⟩ :=
      rows_updateRow { s with ackPersistencePending := pending } (fun _ => row) used
    have hold : SessionsApart (pre ++ s.entries.slots k :: post) := by
      rw [← hrows]
      exact h.rows
    refine ⟨?_, h.scratch⟩
    rw [hrows']
    exact hold.replace update.session

theorem outbound_revision {e : DmEntry} (h : RowSound e) (hout : e.outbound = true) :
    e.deliverySessionId ≠ 0 ∧ e.deliveryRevision ≠ 0 := by
  have hdelivery := (deliveryMetadataIsValid_outbound_iff hout).mp h.delivery
  exact ⟨hdelivery.session, hdelivery.revision⟩

theorem reserved_of_row {e : DmEntry} {p : AckPersistencePending}
    (h : reserveAckPersistencePending s e = some p) (hrevision : e.deliveryRevision ≠ 0) :
    PendingSound p := by
  unfold reserveAckPersistencePending at h
  split_ifs at h with hfull
  obtain rfl := Option.some.inj h
  refine ⟨rfl, hrevision, ?_⟩
  intro hmax
  exact hfull (Bool.or_eq_true_iff.mpr (.inr (decide_eq_true hmax)))

theorem SessionInv.transition (h : SessionInv s) (a : TransitionArgs) :
    ∀ p ∈ (transitionDelivery s a).1.ackPersistencePending, PendingSound p := by
  rcases transitionDelivery_cases s a with hsame | ⟨k, hfind, -, -, -, hallowed, -, heq⟩
  · rw [hsame]
    exact h.pending
  obtain ⟨hused, -⟩ := findDeliverySession_eq_some hfind
  have hsound := h.sound _ (Ring.slots_mem_of_used hused)
  have hout := (transitionRefused_eq_false hallowed).outbound
  rw [heq]
  intro p hp
  rcases List.mem_append.mp hp with hold | hnew
  · exact h.pending p hold
  · split_ifs at hnew
    · exact reserved_of_row (Option.mem_toList.mp hnew) (outbound_revision hsound hout).2
    · exact absurd hnew List.not_mem_nil

theorem SessionInv.called (h : SessionInv s) (hop : op.isCall = true) :
    SessionInv (stepStore s op) := by
  rcases stepStore_call hop s with ⟨lineage, rfl⟩ | hm
  · refine ⟨?_, ⟨List.Pairwise.nil, h.apart.scratch⟩, ?_⟩
    · exact fun e he => absurd he List.not_mem_nil
    · exact fun p hp => absurd hp List.not_mem_nil
  refine ⟨rowSound_mutated hm h.sound, h.apart.mutated hm, ?_⟩
  by_cases htransition : ∃ a, op = .transition a
  · obtain ⟨a, rfl⟩ := htransition
    exact h.transition a
  generalize stepStore s op = s' at hm
  cases hm with
  | refused => exact h.pending
  | preview a nowMs random check => exact h.pending
  | inserted a nowMs random entry ready row => exact h.pending
  | rewritten op k row pending used update other dispatched =>
    obtain ⟨-, -, rfl⟩ := other fun a heq => htransition ⟨a, heq⟩
    exact h.pending

end Calls

section Runs

variable {s s' : DmStore}

theorem SessionInv.of_same (h : SessionInv s) (hs : SameRows s s')
    (hpending : s'.ackPersistencePending = s.ackPersistencePending ∨
      s'.ackPersistencePending = []) : SessionInv s' := by
  refine ⟨?_, ⟨?_, ?_⟩, ?_⟩
  · rw [hs.history.rows]
    exact h.sound
  · rw [hs.history.rows]
    exact h.apart.rows
  · rw [hs.scratch]
    exact h.apart.scratch
  · rcases hpending with hkept | hcleared
    · rw [hkept]
      exact h.pending
    · rw [hcleared]
      exact fun p hp => absurd hp List.not_mem_nil

theorem SessionInv.reconcileLocked (h : SessionInv s) (stored : StoredBlob)
    (generationMatches : Bool) : SessionInv (reconcileLocked s stored generationMatches).1 := by
  have hvalid := (blobIsValid_iff _).mp stored.valid
  refine ⟨?_, h.apart.reconcileLocked stored generationMatches, ?_⟩
  · exact (reconcileLocked_forall (Q := fun _ => True) mergeClosed_sound (fun _ _ => trivial)
      ⟨h.sound, fun _ _ => trivial⟩ (fun u hu => hvalid.rows.row_sound hu) generationMatches).1
  · rcases reconcileLocked_pending s stored generationMatches with hkept | hcleared
    · rw [hkept]
      exact h.pending
    · rw [hcleared]
      exact fun p hp => absurd hp List.not_mem_nil

theorem SessionInv.reconcileRead (h : SessionInv s) (sdPrimaryRequired : Bool)
    (read : ReconcileRead) : SessionInv (reconcileRead s sdPrimaryRequired read).store := by
  cases read with
  | unfinished => exact h
  | failed error => exact ⟨h.sound, ⟨h.apart.rows, h.apart.scratch⟩, h.pending⟩
  | notFound => exact ⟨h.sound, ⟨h.apart.rows, h.apart.scratch⟩, h.pending⟩
  | found stored generationMatches =>
    have hlocked := h.reconcileLocked stored generationMatches
    obtain ⟨hread, -⟩ := reconcileRead_found s sdPrimaryRequired stored generationMatches
    rcases hread with hsame | ⟨error, hfailed⟩
    · rw [hsame]
      exact hlocked
    · rw [hfailed]
      exact ⟨hlocked.sound, ⟨hlocked.apart.rows, hlocked.apart.scratch⟩, hlocked.pending⟩

theorem SessionInv.step {d : DmDevice} (h : SessionInv d.store) (act : DmAct) :
    SessionInv (stepDevice d act).store := by
  have hacted := stepDevice_acted d act
  generalize stepDevice d act = d' at hacted ⊢
  cases hacted with
  | ignored => exact h
  | loaded reads idle unloaded =>
    refine ⟨initStore_sound _ reads, storeApart_initStore h.apart.scratch reads, ?_⟩
    rw [(initStore_noTable d.store reads).pending]
    exact fun p hp => absurd hp List.not_mem_nil
  | called op call => exact h.called call
  | began sdPrimaryRequired generation attemptMs force idle =>
    rw [beginPersist_same]
    have htable := persistBegin_table d.store sdPrimaryRequired generation attemptMs force rfl
    exact h.of_same (sameRows_of_rest (persistBegin_rest d.store _ _ _ _))
      (htable.2.2.2.2.imp_right fun hcleared => hcleared.1)
  | reconciled sdPrimaryRequired read phase => exact h.reconcileRead sdPrimaryRequired read
  | collected sdPrimaryRequired phase taken => exact h
  | finished sdPrimaryRequired snapshot sdRet nvsRet phase =>
    have hsame := sameRows_of_rest (persistFinish_rest d.store snapshot sdPrimaryRequired
      (attemptedRet snapshot.sdAttempt sdRet) (attemptedRet snapshot.nvsAttempt nvsRet))
    generalize hfinish : persistFinish d.store snapshot sdPrimaryRequired
      (attemptedRet snapshot.sdAttempt sdRet) (attemptedRet snapshot.nvsAttempt nvsRet) = s'
      at hsame ⊢
    obtain ⟨-, -, -, -, htable⟩ := persistFinish_table hfinish
    exact h.of_same hsame (htable.imp_right fun hcleared => hcleared.1)
  | fallback sdPrimaryRequired snapshot sdRet nvsRet phase =>
    refine h.of_same (sameRows_of_rest (updateNvsResult_rest d.store nvsRet snapshot.stateRevision
      sdPrimaryRequired)) (.inl ?_)
    unfold updateNvsResult markPersisted
    dsimp only
    split_ifs <;> rfl
  | abandoned sdPrimaryRequired snapshot phase => exact h

theorem sessionInv_powerUp : SessionInv powerUp.store := by
  refine ⟨fun e he => absurd he List.not_mem_nil, ⟨List.Pairwise.nil, ?_⟩,
    fun p hp => absurd hp List.not_mem_nil⟩
  have hrows : emptyBlob.rows = [] := rfl
  change SessionsApart emptyBlob.rows
  rw [hrows]
  exact List.Pairwise.nil

theorem run_sessionInv (acts : List DmAct) :
    SessionInv (runSteps stepDevice powerUp acts).store := by
  have hrun (d : DmDevice) (act : DmAct) (h : SessionInv d.store) :
      SessionInv (stepDevice d act).store := h.step act
  exact run_always hrun acts sessionInv_powerUp

/-- Whatever the calls, the cards and the power losses were: rows sound one by one, in ascending
sequence, and two of them can clash by their identity digest only. -/
theorem run_rows_clash_by_digest_only (acts : List DmAct) :
    RowsOrdered (runSteps stepDevice powerUp acts).store ∧
      (∀ e ∈ (runSteps stepDevice powerUp acts).store.rows, RowSound e) ∧
      (runSteps stepDevice powerUp acts).store.rows.Pairwise fun a b =>
        rowsClash a b = validIdentityDigestEqual a b := by
  have hstep (d : DmDevice) (act : DmAct) (h : DeviceOrdered d.store) :
      DeviceOrdered (stepDevice d act).store := h.step act
  have hinv := run_sessionInv acts
  refine ⟨(run_always hstep acts deviceOrdered_powerUp).rows, hinv.sound, ?_⟩
  refine hinv.apart.rows.imp fun {a b} hab => ?_
  -- a session both rows carry is 0, and `rows_clash` skips the session 0
  have hsession : ¬(b.deliverySessionId ≠ 0 ∧ a.deliverySessionId = b.deliverySessionId) :=
    fun hboth => hboth.1 (hboth.2 ▸ hab hboth.2)
  simp only [rowsClash, ← Bool.decide_and, decide_eq_false hsession, Bool.or_false]

/-- What can bring in rows other than by an append, or drop rows that are not the oldest. -/
def DmAct.keepsRows : DmAct → Bool
  | .init _ | .call (.clear _) | .reconcile (.found ..) => false
  | _ => true

/-- `t` holds the rows of `s` as they are by now, and rows appended since. -/
structure RowsSince (s t : DmStore) : Prop where
  nextSeq : s.nextSeq ≤ t.nextSeq
  rows : ∀ r ∈ t.rows, r.seq < s.nextSeq → ∃ e ∈ s.rows, Advanced e r

variable {t t' : DmStore}

theorem RowsSince.of_same (h : RowsSince s t) (hrows : t'.rows = t.rows)
    (hnext : t'.nextSeq = t.nextSeq) : RowsSince s t' := by
  refine ⟨?_, ?_⟩
  · rw [hnext]
    exact h.nextSeq
  · rw [hrows]
    exact h.rows

theorem RowsSince.mutated (h : RowsSince s t) {op : DmOp} (hm : Mutated t op t') :
    RowsSince s t' := by
  refine ⟨?_, mutated_forall hm h.rows ?_ ?_⟩
  · cases hm with
    | inserted => exact h.nextSeq.trans (Nat.le_succ _)
    | _ => exact h.nextSeq
  · intro a nowMs random entry _ _ hnew hbelow
    rw [hnew.seq] at hbelow
    exact absurd hbelow (Nat.not_lt.mpr h.nextSeq)
  · intro e r hold hupdate hbelow
    have hadvanced := hupdate.advanced
    obtain ⟨u, hu, hue⟩ := hold (hadvanced.seq ▸ hbelow)
    exact ⟨u, hu, hue.trans hadvanced⟩

theorem RowsSince.step {d : DmDevice} (h : RowsSince s d.store) {act : DmAct}
    (hkeeps : act.keepsRows = true) : RowsSince s (stepDevice d act).store := by
  have hacted := stepDevice_acted d act
  generalize stepDevice d act = d' at hacted ⊢
  have hpass (next : DmStore) (hrest : next.passRest = d.store.passRest) : RowsSince s next :=
    h.of_same (sameHistory_of_rest hrest).rows (sameHistory_of_rest hrest).nextSeq
  cases hacted with
  | loaded => cases hkeeps
  | called op call =>
    rcases stepStore_call call d.store with ⟨lineage, rfl⟩ | hm
    · cases hkeeps
    · exact h.mutated hm
  | began =>
    rw [beginPersist_same]
    exact hpass _ (persistBegin_rest d.store _ _ _ _)
  | reconciled sdPrimaryRequired read =>
    cases read with
    | found => cases hkeeps
    | _ => exact h.of_same rfl rfl
  | finished => exact hpass _ (persistFinish_rest d.store _ _ _ _)
  | fallback => exact hpass _ (updateNvsResult_rest d.store _ _ _)
  | _ => exact h

/-- While no clear, boot or card interferes a row only moves forward: its ACK dispatches, its
attempts and its delivery revision never drop, and its message stays as it was. -/
theorem run_rows_advance {d : DmDevice} {acts : List DmAct}
    (hkeeps : RunOk stepDevice (fun _ act => act.keepsRows = true) d acts) :
    RowsSince d.store (runSteps stepDevice d acts).store := by
  have hstep (d' : DmDevice) (act : DmAct) (h : RowsSince d.store d'.store)
      (hact : act.keepsRows = true) : RowsSince d.store (stepDevice d' act).store := h.step hact
  exact run_invariant hstep hkeeps ⟨le_rfl, fun r hr _ => ⟨r, hr, .refl r⟩⟩

theorem run_rows_advance_offered :
    RowsSince (stepStore loadedStore (.append (offeredArgs 7) 10 fun _ => 1))
      (runSteps stepDevice ⟨stepStore loadedStore (.append (offeredArgs 7) 10 fun _ => 1), .idle⟩
        [.call (.reserveAck 7 1 false), .call (.completeAck 1 7 true espOk),
          .begin true 1 0 true, .reconcile .notFound]).store :=
  run_rows_advance (d := ⟨_, .idle⟩) ⟨rfl, rfl, rfl, rfl, trivial⟩

end Runs

end Sigui.Dm

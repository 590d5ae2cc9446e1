import Sigui.DmRowRules

/-! The store together with the one persist pass that may be under way. Other callers take the
store lock between any two of its locked sections. -/
namespace Sigui.Dm

inductive PersistPhase
  | idle
  | reconciling (sdPrimaryRequired : Bool)
  | collecting (sdPrimaryRequired : Bool)
  | writing (sdPrimaryRequired : Bool) (snapshot : PersistSnapshot)
  | reconcileFailed (sdPrimaryRequired : Bool)
  | writingFallback (sdPrimaryRequired : Bool) (snapshot : PersistSnapshot)

inductive ReconcileRead
  | unfinished
  | failed (error : EspErr)
  | notFound
  | found (stored : StoredBlob) (generationMatches : Bool)

inductive DmAct
  | init (reads : InitReads)
  | call (op : DmOp)
  | begin (sdPrimaryRequired : Bool) (generation attemptMs : Nat) (force : Bool)
  | reconcile (read : ReconcileRead)
  | collect
  | written (sdRet nvsRet : EspErr)
  | abandon

structure DmDevice where
  store : DmStore
  phase : PersistPhase

def powerUp : DmDevice := ⟨bootStore, .idle⟩

/-- The operations a caller issues on a loaded store, each under one hold of the store lock. -/
def DmOp.isCall : DmOp → Bool
  | .append .. | .reserveAck .. | .rebindAck .. | .completeAck .. | .transition _ | .clear _ => true
  | _ => false

/-- What each attempted write returned; a backend that was not asked counts as accepted. -/
def attemptedRet (attempted : Bool) (ret : EspErr) : EspErr :=
  if attempted then ret else espOk

def beginPersist (s : DmStore) (sdPrimaryRequired : Bool) (generation attemptMs : Nat)
    (force : Bool) : DmDevice :=
  let (store, start) := persistBegin s sdPrimaryRequired generation attemptMs force
  match start with
  | .finished _ => ⟨store, .idle⟩
  | .proceed true => ⟨store, .reconciling sdPrimaryRequired⟩
  | .proceed false => ⟨store, .collecting sdPrimaryRequired⟩

/-- `reconcile_sd_primary`; a failure is noted under a hold of the lock of its own. -/
def reconcileRead (s : DmStore) (sdPrimaryRequired : Bool) : ReconcileRead → DmDevice
  | .unfinished => ⟨s, .idle⟩
  | .failed error => ⟨noteSdReconcileFailure s error, .reconcileFailed sdPrimaryRequired⟩
  | .notFound => ⟨reconcileNotFound s, .collecting sdPrimaryRequired⟩
  | .found stored generationMatches =>
    let (store, ret) := reconcileLocked s stored generationMatches
    if ret = espOk then ⟨store, .collecting sdPrimaryRequired⟩
    else ⟨noteSdReconcileFailure store ret, .reconcileFailed sdPrimaryRequired⟩

/-- An act that the phase does not allow leaves the device as it is. -/
def stepDevice (d : DmDevice) (act : DmAct) : DmDevice :=
  match act, d.phase with
  | .init reads, .idle => if d.store.loaded then d else ⟨(initStore d.store reads).1, .idle⟩
  | .call op, phase =>
    if op.isCall && d.store.loaded then ⟨stepStore d.store op, phase⟩ else d
  | .begin sdPrimaryRequired generation attemptMs force, .idle =>
    beginPersist d.store sdPrimaryRequired generation attemptMs force
  | .reconcile read, .reconciling sdPrimaryRequired => reconcileRead d.store sdPrimaryRequired read
  | .collect, .collecting sdPrimaryRequired =>
    ⟨d.store, .writing sdPrimaryRequired (takeSnapshot d.store sdPrimaryRequired)⟩
  | .collect, .reconcileFailed sdPrimaryRequired =>
    if d.store.nvsFallbackDirty then
      ⟨d.store, .writingFallback sdPrimaryRequired (takeSnapshot d.store sdPrimaryRequired)⟩
    else ⟨d.store, .idle⟩
  | .written sdRet nvsRet, .writing sdPrimaryRequired snapshot =>
    ⟨persistFinish d.store snapshot sdPrimaryRequired (attemptedRet snapshot.sdAttempt sdRet)
      (attemptedRet snapshot.nvsAttempt nvsRet), .idle⟩
  | .written _ nvsRet, .writingFallback sdPrimaryRequired snapshot =>
    ⟨updateNvsResult d.store nvsRet snapshot.stateRevision sdPrimaryRequired, .idle⟩
  | .abandon, .writing _ _ => ⟨d.store, .idle⟩
  | _, _ => d

inductive Acted (d : DmDevice) : DmAct → DmDevice → Prop
  | ignored (act : DmAct) : Acted d act d
  | loaded (reads : InitReads) (idle : d.phase = .idle) (unloaded : d.store.loaded = false) :
      Acted d (.init reads) ⟨(initStore d.store reads).1, .idle⟩
  | called (op : DmOp) (call : op.isCall = true) :
      Acted d (.call op) ⟨stepStore d.store op, d.phase⟩
  | began (sdPrimaryRequired : Bool) (generation attemptMs : Nat) (force : Bool)
      (idle : d.phase = .idle) :
      Acted d (.begin sdPrimaryRequired generation attemptMs force)
        (beginPersist d.store sdPrimaryRequired generation attemptMs force)
  | reconciled (sdPrimaryRequired : Bool) (read : ReconcileRead)
      (phase : d.phase = .reconciling sdPrimaryRequired) :
      Acted d (.reconcile read) (reconcileRead d.store sdPrimaryRequired read)
  | collected (sdPrimaryRequired : Bool) (phase : PersistPhase)
      (taken : phase = .writing sdPrimaryRequired (takeSnapshot d.store sdPrimaryRequired) ∨
        phase = .writingFallback sdPrimaryRequired (takeSnapshot d.store sdPrimaryRequired) ∨
        phase = .idle) :
      Acted d .collect ⟨d.store, phase⟩
  | finished (sdPrimaryRequired : Bool) (snapshot : PersistSnapshot) (sdRet nvsRet : EspErr)
      (phase : d.phase = .writing sdPrimaryRequired snapshot) :
      Acted d (.written sdRet nvsRet)
        ⟨persistFinish d.store snapshot sdPrimaryRequired (attemptedRet snapshot.sdAttempt sdRet)
          (attemptedRet snapshot.nvsAttempt nvsRet), .idle⟩
  | fallback (sdPrimaryRequired : Bool) (snapshot : PersistSnapshot) (sdRet nvsRet : EspErr)
      (phase : d.phase = .writingFallback sdPrimaryRequired snapshot) :
      Acted d (.written sdRet nvsRet)
        ⟨updateNvsResult d.store nvsRet snapshot.stateRevision sdPrimaryRequired, .idle⟩
  | abandoned (sdPrimaryRequired : Bool) (snapshot : PersistSnapshot)
      (phase : d.phase = .writing sdPrimaryRequired snapshot) :
      Acted d .abandon ⟨d.store, .idle⟩

theorem stepDevice_acted (d : DmDevice) (act : DmAct) : Acted d act (stepDevice d act) := by
  unfold stepDevice
  split
  case h_1 reads hphase =>
    split_ifs with hloaded
    · exact .ignored _
    · exact .loaded reads hphase (by simpa using hloaded)
  case h_2 op =>
    split_ifs with hcall
    · exact .called op (Bool.and_eq_true_iff.mp hcall).1
    · exact .ignored _
  case h_3 hphase => exact .began _ _ _ _ hphase
  case h_4 hphase => exact .reconciled _ _ hphase
  case h_5 hphase => exact .collected _ _ (.inl rfl)
  case h_6 hphase =>
    split_ifs
    · exact .collected _ _ (.inr (.inl rfl))
    · exact .collected true _ (.inr (.inr rfl))
  case h_7 hphase => exact .finished _ _ _ _ hphase
  case h_8 hphase => exact .fallback _ _ _ _ hphase
  case h_9 hphase => exact .abandoned _ _ hphase
  case h_10 => exact .ignored _

theorem stepStore_call {op : DmOp} (h : op.isCall = true) (s : DmStore) :
    (∃ lineage, op = .clear lineage) ∨ Mutated s op (stepStore s op) := by
  cases op with
  | append a nowMs random => exact .inr (appendInternal_mutated s a nowMs random)
  | reserveAck identityDigest dispatchKind flushNow =>
    exact .inr (reserveAckDispatch_mutated s identityDigest dispatchKind flushNow)
  | rebindAck rowSeq identityDigest dispatchKind =>
    exact .inr (rebindPendingAckDispatch_mutated s rowSeq identityDigest dispatchKind)
  | completeAck rowSeq identityDigest sent error =>
    exact .inr (completeAckDispatch_mutated s rowSeq identityDigest sent error)
  | transition a => exact .inr (transitionDelivery_mutated s a)
  | clear lineage => exact .inl ⟨lineage, rfl⟩
  | _ => cases h

theorem mutated_forall {P : DmEntry → Prop} {s s' : DmStore} {op : DmOp} (hm : Mutated s op s')
    (h : ∀ e ∈ s.rows, P e)
    (hnew : ∀ a nowMs random entry, op = .append a nowMs random → AppendReady s a →
      NewRow s a nowMs random entry → P entry)
    (hupdate : ∀ e r, P e → RowUpdate e r → P r) : ∀ e ∈ s'.rows, P e := by
  cases hm with
  | refused => exact h
  | preview a nowMs random check => exact h
  | inserted a nowMs random entry ready row =>
    rw [rows_insertRow]
    exact forall_mem_snoc (fun r hr => h r ((retainedRows_sublist s).subset hr))
      (hnew a nowMs random entry rfl ready row)
  | rewritten op k row pending used update other dispatched =>
    obtain ⟨pre, post, hrows, hrows'⟩ :=
      rows_updateRow { s with ackPersistencePending := pending } (fun _ => row) used
    have hold : ∀ x ∈ pre ++ s.entries.slots k :: post, P x := by
      rw [← hrows]
      exact h
    rw [hrows']
    exact forall_mem_replace hold
      (hupdate _ _ (hold _ (List.mem_append_cons_self)) update)

end Sigui.Dm

import Sigui.ContactCalls
import Sigui.ContactClear

/-! What a persist pass, an init, a clear and a flush may do, with any answers of the backends. -/
namespace Sigui.Contact

theorem espErrInvalidState_ne : espErrInvalidState ≠ espOk := by decide

section Reconciled

structure Carried (s t : ContactStore) : Prop where
  authority : t.mutationAuthority = s.mutationAuthority
  deleted : t.deletedFingerprints = s.deletedFingerprints
  touched : t.touchedFingerprints = s.touchedFingerprints
  loaded : t.loaded = s.loaded
  dirty : t.persistenceDirty = s.persistenceDirty

structure SameBook (s t : ContactStore) : Prop extends Carried s t where
  rows : fillBlob t = fillBlob s

/-- The store as it is after the reconcile, or without one when the card is known to be this
store's, and the work that is left to do on the card. -/
inductive Reconciled (d : ContactDevice) (t : ContactStore) : CardWork → Prop
  | own (known : mustReconcile d = false) (same : SameBook d.store t) : Reconciled d t (ownWork t)
  | absent (met : mustReconcile d = true) (gone : d.card = none) (same : SameBook d.store t) :
    Reconciled d t ⟨decide (t.mutationAuthority ≠ .explicitClear) &&
      (!t.entries.isEmpty || decide (t.mutationAuthority = .localMutation)), false⟩
  | adopted (blob : ContactBlob) (met : mustReconcile d = true)
      (found : d.card = some (.current blob)) (valid : blobIsValid blob = true)
      (authority : d.store.mutationAuthority = .none) (carried : Carried d.store t)
      (rows : fillBlob t = blob) : Reconciled d t ⟨false, false⟩
  | cleared (blob : ContactBlob) (met : mustReconcile d = true)
      (found : d.card = some (.current blob)) (valid : blobIsValid blob = true)
      (authority : d.store.mutationAuthority = .explicitClear) (same : SameBook d.store t) :
    Reconciled d t ⟨false, true⟩
  | merged (blob merged : ContactBlob) (met : mustReconcile d = true)
      (found : d.card = some (.current blob)) (valid : blobIsValid blob = true)
      (authority : d.store.mutationAuthority = .localMutation)
      (merge : mergeContactBlobs d.store (fillBlob d.store) blob = .ok merged)
      (carried : Carried d.store t) (rows : fillBlob t = merged) :
    Reconciled d t ⟨decide (merged ≠ blob), false⟩

variable {d : ContactDevice} {s t u : ContactStore}

theorem Carried.trans (h : Carried s t) (h' : Carried t u) : Carried s u :=
  ⟨h'.authority.trans h.authority, h'.deleted.trans h.deleted, h'.touched.trans h.touched,
    h'.loaded.trans h.loaded, h'.dirty.trans h.dirty⟩

theorem SameBook.trans (h : SameBook s t) (h' : SameBook t u) : SameBook s u :=
  ⟨h.toCarried.trans h'.toCarried, h'.rows.trans h.rows⟩

theorem SameBook.entries (h : SameBook s t) : t.entries = s.entries :=
  congrArg ContactBlob.entries h.rows

theorem fillBlob_restoreBlob {blob : ContactBlob} (hschema : blob.schema = contactStoreSchema)
    (hlen : blob.entries.length ≤ contactStoreCapacity) (s : ContactStore) :
    fillBlob (restoreBlob s blob) = blob := by
  unfold fillBlob restoreBlob
  rw [if_pos hlen, ← hschema]

theorem adoptBlob_spec {blob : ContactBlob} (hschema : blob.schema = contactStoreSchema)
    (hlen : blob.entries.length ≤ contactStoreCapacity) (h : adoptBlob s blob = some t) :
    Carried s t ∧ fillBlob t = blob ∧
      t.acceptedSdBackendGeneration = s.acceptedSdBackendGeneration := by
  unfold adoptBlob at h
  split_ifs at h with hsame hmax
  · cases h
    exact ⟨⟨rfl, rfl, rfl, rfl, rfl⟩, hsame, rfl⟩
  · cases h
    exact ⟨⟨rfl, rfl, rfl, rfl, rfl⟩, fillBlob_restoreBlob hschema hlen s, rfl⟩

theorem blobIsValid_iff {blob : ContactBlob} : blobIsValid blob = true ↔
    blob.schema = contactStoreSchema ∧ blob.entries.length ≤ contactStoreCapacity ∧
      blob.nextSeq ≠ 0 ∧ ∀ e ∈ blob.entries, retainedPathRecordIsValid e = true := by
  rw [blobIsValid, Bool.and_eq_true, Bool.and_eq_true, Bool.and_eq_true, decide_eq_true_eq,
    decide_eq_true_eq, decide_eq_true_eq, List.all_eq_true, and_assoc, and_assoc]

theorem mergeContactBlobs_ok {live primary merged : ContactBlob}
    (h : mergeContactBlobs s live primary = .ok merged) :
    overlayRows sameContact conflictingContact contactStoreCapacity (keptRows s primary)
        (touchedRows s live) = .ok merged.entries ∧
      merged.schema = contactStoreSchema ∧ merged.nextSeq = max live.nextSeq primary.nextSeq := by
  unfold mergeContactBlobs at h
  split at h
  · cases h
  · cases h
  case h_3 rows hrows =>
    cases h
    exact ⟨hrows, rfl, rfl⟩

theorem merged_length {live primary merged : ContactBlob}
    (hprimary : primary.entries.length ≤ contactStoreCapacity)
    (h : mergeContactBlobs s live primary = .ok merged) :
    merged.entries.length ≤ contactStoreCapacity :=
  overlayRows_length ((List.length_filter_le _ _).trans hprimary) (mergeContactBlobs_ok h).1

theorem sameBook_reconciling (d : ContactDevice) : SameBook d.store (reconciling d) ∧
    (reconciling d).acceptedSdBackendGeneration = d.generation ∧
    (reconciling d).lastPersistDurable = false := by
  unfold reconciling acceptGeneration
  split_ifs with hgen
  · exact ⟨⟨⟨rfl, rfl, rfl, rfl, rfl⟩, rfl⟩, hgen.symm, rfl⟩
  · exact ⟨⟨⟨rfl, rfl, rfl, rfl, rfl⟩, rfl⟩, rfl, rfl⟩

theorem reconciling_mustReconcile (h : d.enabled = true) :
    (reconciling d).sdReconcilePending = mustReconcile d := by
  unfold reconciling acceptGeneration mustReconcile
  rw [h, Bool.true_and]
  by_cases hgen : d.generation = d.store.acceptedSdBackendGeneration
  · rw [if_pos hgen, decide_eq_false (not_not.mpr hgen), Bool.false_or]
  · rw [if_neg hgen, decide_eq_true hgen, Bool.true_or]

theorem mergeContactBlobs_congr (h : Carried s t) (live primary : ContactBlob) :
    mergeContactBlobs t live primary = mergeContactBlobs s live primary := by
  have hkept : keptRows t primary = keptRows s primary := by
    unfold keptRows fingerprintWasDeleted
    rw [h.deleted]
  have htouched : touchedRows t live = touchedRows s live := by
    unfold touchedRows fingerprintWasTouched
    rw [h.touched]
  unfold mergeContactBlobs
  rw [hkept, htouched]

theorem readCurrentSdBlob_ok {card : Option ContactImage} {io : PersistIo}
    {found : Option ContactBlob} (h : readCurrentSdBlob card io = .ok found) :
    (found = none ∧ card = none) ∨
      ∃ blob, found = some blob ∧ card = some (.current blob) ∧ blobIsValid blob = true := by
  unfold readCurrentSdBlob at h
  by_cases hstart : (!io.startMatches) = true
  · rw [if_pos hstart] at h
    cases h
  rw [if_neg hstart] at h
  unfold readKey at h
  by_cases hret : io.readRet = espOk ∨ io.readRet = espErrNotFound
  · rw [if_pos hret] at h
    rcases card with _ | image
    · dsimp only at h
      split_ifs at h
      cases h
      exact .inl ⟨rfl, rfl⟩
    · cases image with
      | current blob =>
        dsimp only at h
        split_ifs at h with hvalid
        cases h
        exact .inr ⟨blob, rfl, rfl, (Bool.and_eq_true_iff.mp hvalid).1⟩
      | _ => cases h
  · rw [if_neg hret] at h
    cases h

end Reconciled

section Persisted

variable {d : ContactDevice} {s t : ContactStore} {io : PersistIo}

theorem readCurrentSdBlob_error {card : Option ContactImage} {error : EspErr}
    (h : readCurrentSdBlob card io = .error error) : error ≠ espOk := by
  unfold readCurrentSdBlob at h
  by_cases hstart : (!io.startMatches) = true
  · rw [if_pos hstart] at h
    cases h
    decide
  rw [if_neg hstart] at h
  unfold readKey at h
  by_cases hret : io.readRet = espOk ∨ io.readRet = espErrNotFound
  · rw [if_pos hret] at h
    rcases card with _ | image
    · by_cases hread : io.readMatches = true
      · simp only [hread, if_true, reduceCtorEq] at h
      · simp only [hread, Bool.false_eq_true, if_false, Except.error.injEq] at h
        exact h ▸ by decide
    · cases image with
      | current blob =>
        by_cases hread : (blobIsValid blob && io.readMatches) = true
        · simp only [hread, if_true, reduceCtorEq] at h
        · simp only [hread, Bool.false_eq_true, if_false, Except.error.injEq] at h
          exact h ▸ by decide
      | _ =>
        cases h
        decide
  · rw [if_neg hret] at h
    cases h
    exact fun hok => hret (.inl hok)

theorem reconcileFound_cases {blob : ContactBlob} (hs : SameBook d.store s)
    (met : mustReconcile d = true) (found : d.card = some (.current blob))
    (valid : blobIsValid blob = true) :
    (∃ error, error ≠ espOk ∧ reconcileFound s blob = .error error) ∨
    (∃ t work, reconcileFound s blob = .ok (t, work) ∧
      t.acceptedSdBackendGeneration = s.acceptedSdBackendGeneration ∧
      ∀ u, SameBook t u → Reconciled d u work) := by
  obtain ⟨hschema, hcount, -⟩ := blobIsValid_iff.mp valid
  unfold reconcileFound
  cases hauthority : s.mutationAuthority with
  | none =>
    dsimp only
    cases hadopt : adoptBlob s blob with
    | none => exact .inl ⟨_, by decide, rfl⟩
    | some t =>
      obtain ⟨hcarried, hrows, hgen⟩ := adoptBlob_spec hschema hcount hadopt
      refine .inr ⟨t, _, rfl, hgen, fun u hu => ?_⟩
      exact .adopted blob met found valid (hs.authority.symm.trans hauthority)
        (hs.toCarried.trans (hcarried.trans hu.toCarried)) (hu.rows.trans hrows)
  | explicitClear =>
    refine .inr ⟨s, _, rfl, rfl, fun u hu => ?_⟩
    exact .cleared blob met found valid (hs.authority.symm.trans hauthority) (hs.trans hu)
  | localMutation =>
    dsimp only
    cases hmerge : mergeContactBlobs s (fillBlob s) blob with
    | error error =>
      refine .inl ⟨error, ?_, rfl⟩
      unfold mergeContactBlobs at hmerge
      split at hmerge <;> cases hmerge <;> decide
    | ok merged =>
      dsimp only
      cases hadopt : adoptBlob s merged with
      | none => exact .inl ⟨_, by decide, rfl⟩
      | some t =>
        obtain ⟨hcarried, hrows, hgen⟩ :=
          adoptBlob_spec (mergeContactBlobs_ok hmerge).2.1 (merged_length hcount hmerge) hadopt
        refine .inr ⟨t, _, rfl, hgen, fun u hu => ?_⟩
        refine .merged blob merged met found valid (hs.authority.symm.trans hauthority) ?_
          (hs.toCarried.trans (hcarried.trans hu.toCarried)) (hu.rows.trans hrows)
        rw [← mergeContactBlobs_congr hs.toCarried, ← hs.rows]
        exact hmerge

theorem reconcileSdPrimary_cases (io : PersistIo) (hs : SameBook d.store s)
    (hlen : d.store.entries.length ≤ contactStoreCapacity) (met : mustReconcile d = true) :
    ∃ t result, reconcileSdPrimary s d.card io = (t, result) ∧
      t.acceptedSdBackendGeneration = s.acceptedSdBackendGeneration ∧
      ((∃ error, error ≠ espOk ∧ result = .error error ∧ SameBook d.store t ∧
          t.sdReconcilePending = true) ∨
        (∃ work, result = .ok work ∧ Reconciled d t work ∧ t.sdReconcilePending = false)) := by
  unfold reconcileSdPrimary
  cases hread : readCurrentSdBlob d.card io with
  | error error =>
    refine ⟨_, _, rfl, rfl, .inl ⟨error, readCurrentSdBlob_error hread, rfl, ?_, rfl⟩⟩
    exact hs.trans ⟨⟨rfl, rfl, rfl, rfl, rfl⟩, rfl⟩
  | ok found =>
    rcases readCurrentSdBlob_ok hread with ⟨rfl, hgone⟩ | ⟨blob, rfl, hfound, hvalid⟩
    · refine ⟨_, _, rfl, rfl, .inr ⟨_, rfl, ?_, rfl⟩⟩
      exact .absent met hgone (hs.trans ⟨⟨rfl, rfl, rfl, rfl, rfl⟩, rfl⟩)
    · dsimp only
      rcases reconcileFound_cases hs met hfound hvalid with
        ⟨error, hne, hfail⟩ | ⟨t, work, hok, hgen, hwork⟩
      · rw [hfail]
        refine ⟨_, _, rfl, rfl, .inl ⟨error, hne, rfl, ?_, rfl⟩⟩
        exact hs.trans ⟨⟨rfl, rfl, rfl, rfl, rfl⟩, rfl⟩
      · rw [hok]
        dsimp only
        by_cases hmatch : (!io.reconcileMatches) = true
        · -- the rows that were there are put back
          rw [if_pos hmatch]
          refine ⟨_, _, rfl, hgen, .inl ⟨_, by decide, rfl, ?_, rfl⟩⟩
          have hback : SameBook t t := ⟨⟨rfl, rfl, rfl, rfl, rfl⟩, rfl⟩
          have hlen' : (fillBlob s).entries.length ≤ contactStoreCapacity := by
            rw [hs.rows]
            exact hlen
          have hcarried : Carried d.store t := by
            cases hwork t hback with
            | cleared _ _ _ _ _ same => exact same.toCarried
            | adopted _ _ _ _ _ carried _ => exact carried
            | merged _ _ _ _ _ _ _ carried _ => exact carried
            | own _ same => exact same.toCarried
            | absent _ _ same => exact same.toCarried
          exact ⟨⟨hcarried.authority, hcarried.deleted, hcarried.touched, hcarried.loaded,
            hcarried.dirty⟩, (fillBlob_restoreBlob rfl hlen' t).trans hs.rows⟩
        · rw [if_neg hmatch]
          exact ⟨_, _, rfl, hgen, .inr ⟨work, rfl, hwork _ ⟨⟨rfl, rfl, rfl, rfl, rfl⟩, rfl⟩, rfl⟩⟩

theorem Reconciled.carried {work : CardWork} (h : Reconciled d t work) : Carried d.store t := by
  cases h with
  | own _ same => exact same.toCarried
  | absent _ _ same => exact same.toCarried
  | adopted _ _ _ _ _ carried _ => exact carried
  | cleared _ _ _ _ _ same => exact same.toCarried
  | merged _ _ _ _ _ _ _ carried _ => exact carried

theorem Reconciled.congr {u : ContactStore} {work : CardWork} (h : Reconciled d t work)
    (hu : SameBook t u) : Reconciled d u work := by
  have hentries : u.entries = t.entries := hu.entries
  cases h with
  | own known same =>
    have hwork : ownWork t = ownWork u := by
      unfold ownWork
      rw [hu.authority, hu.dirty, hentries]
    rw [hwork]
    exact .own known (same.trans hu)
  | absent met gone same =>
    rw [← hu.authority, ← hentries]
    exact .absent met gone (same.trans hu)
  | adopted blob met found valid authority carried rows =>
    exact .adopted blob met found valid authority (carried.trans hu.toCarried) (hu.rows.trans rows)
  | cleared blob met found valid authority same =>
    exact .cleared blob met found valid authority (same.trans hu)
  | merged blob merged met found valid authority merge carried rows =>
    exact .merged blob merged met found valid authority merge (carried.trans hu.toCarried)
      (hu.rows.trans rows)

/-- What becomes of the store and of the card in a persist pass. A write or an erase that reports
an error may have landed. -/
inductive PersistOutcome (d : ContactDevice) : ContactDevice → EspErr → Prop
  | offline (t : ContactStore) (off : d.enabled = false) (same : SameBook d.store t)
      (pending : t.sdReconcilePending = true) (volatile : t.lastPersistDurable = false)
      (accepted : t.acceptedSdBackendGeneration = d.generation) :
    PersistOutcome d { d with store := t } espOk
  | refused (t : ContactStore) (ret : EspErr) (on : d.enabled = true) (failed : ret ≠ espOk)
      (same : SameBook d.store t) (pending : t.sdReconcilePending = true)
      (accepted : t.acceptedSdBackendGeneration = d.generation) :
    PersistOutcome d { d with store := t } ret
  | torn (t : ContactStore) (work : CardWork) (card : Option ContactImage) (ret : EspErr)
      (on : d.enabled = true) (failed : ret ≠ espOk) (reconciled : Reconciled d t work)
      (kept : card = d.card ∨ card = workedCard { d with store := t } work)
      (pending : t.sdReconcilePending = true)
      (accepted : t.acceptedSdBackendGeneration = d.generation) :
    PersistOutcome d { d with store := t, card := card } ret
  | durable (t : ContactStore) (work : CardWork) (on : d.enabled = true)
      (reconciled : Reconciled d t work) (settled : t.sdReconcilePending = false)
      (durable : t.lastPersistDurable = true)
      (accepted : t.acceptedSdBackendGeneration = d.generation) :
    PersistOutcome d { d with
      store := t, card := workedCard { d with store := t } work, nvs := none } espOk

theorem workCard_cases (d : ContactDevice) (work : CardWork) (io : PersistIo) :
    ((workCard d work io).2 = espOk ∧ (workCard d work io).1 = workedCard d work) ∨
    ((workCard d work io).2 ≠ espOk ∧
      ((workCard d work io).1 = d.card ∨ (workCard d work io).1 = workedCard d work)) := by
  unfold workCard workedCard
  dsimp only
  by_cases herase : work.eraseNeeded = true
  · rw [if_pos herase, if_pos herase]
    by_cases hret : io.writeRet = espOk
    · rw [hret]
      exact .inl ⟨rfl, rfl⟩
    · refine .inr ⟨hret, ?_⟩
      dsimp only
      split_ifs
      · exact .inr rfl
      · exact .inl rfl
  · rw [if_neg herase, if_neg herase]
    by_cases hwrite : work.writeNeeded = true
    · rw [if_pos hwrite, if_pos hwrite]
      by_cases hmatch : (!io.writeMatches) = true
      · rw [if_pos hmatch]
        exact .inr ⟨espErrInvalidState_ne, .inl rfl⟩
      · rw [if_neg hmatch]
        by_cases hret : io.writeRet = espOk
        · rw [hret]
          exact .inl ⟨rfl, rfl⟩
        · refine .inr ⟨hret, ?_⟩
          dsimp only
          split_ifs
          · exact .inr rfl
          · exact .inl rfl
    · rw [if_neg hwrite, if_neg hwrite]
      exact .inl ⟨rfl, rfl⟩

theorem commitWork_outcome {work : CardWork} (on : d.enabled = true)
    (h : Reconciled d t work) (settled : t.sdReconcilePending = false)
    (accepted : t.acceptedSdBackendGeneration = d.generation) (io : PersistIo) :
    PersistOutcome d (commitWork { d with store := t } work io).1
      (commitWork { d with store := t } work io).2 := by
  have hbook : ∀ pending durable, SameBook t { t with
      sdReconcilePending := pending, lastPersistDurable := durable } := fun _ _ =>
    ⟨⟨rfl, rfl, rfl, rfl, rfl⟩, rfl⟩
  have hcases := workCard_cases { d with store := t } work io
  unfold commitWork
  generalize hworked : workCard { d with store := t } work io = worked at hcases
  obtain ⟨card, cardRet⟩ := worked
  dsimp only at hcases ⊢
  generalize hsettled :
    (if cardRet = espOk ∧ io.settledMatches = false then espErrInvalidState else cardRet) = cret
  have hcard : cret = espOk → cardRet = espOk := by
    intro hok
    by_cases hmoved : cardRet = espOk ∧ io.settledMatches = false
    · exact hmoved.1
    · rw [if_neg hmoved] at hsettled
      exact hsettled.trans hok
  have hkept : card = d.card ∨ card = workedCard { d with store := t } work := by
    rcases hcases with ⟨-, hcard⟩ | ⟨-, hcard⟩
    · exact .inr hcard
    · exact hcard
  by_cases hret : (if cret = espOk then io.nvsErase else cret) = espOk
  · -- every step was accepted
    have hok : cret = espOk := by
      by_contra hne
      rw [if_neg hne] at hret
      exact hne hret
    have hworkedCard : card = workedCard { d with store := t } work := by
      rcases hcases with ⟨-, hcard'⟩ | ⟨hne, -⟩
      · exact hcard'
      · exact absurd (hcard hok) hne
    rw [hret, hworkedCard]
    rw [decide_eq_true rfl, decide_eq_false (not_not.mpr rfl), Bool.false_or, settled, if_pos rfl]
    exact .durable _ work on (h.congr (hbook false true)) rfl rfl accepted
  · generalize (if cret = espOk then io.nvsErase else cret) = ret at hret ⊢
    rw [decide_eq_true hret, Bool.true_or, if_neg hret, decide_eq_false hret]
    exact .torn _ work card ret on hret (h.congr (hbook true false)) hkept rfl accepted

theorem persistStore_outcome (hlen : d.store.entries.length ≤ contactStoreCapacity)
    (io : PersistIo) : PersistOutcome d (persistStore d io).1 (persistStore d io).2 := by
  obtain ⟨hsame, hgen, hvolatile⟩ := sameBook_reconciling d
  cases on : d.enabled with
  | false =>
    rw [persistStore_disabled on]
    have hkept : acceptGeneration { d.store with lastPersistDurable := false } false d.generation =
        reconciling d := by
      rw [reconciling, on]
    rw [hkept]
    refine .offline _ on (hsame.trans ⟨⟨rfl, rfl, rfl, rfl, rfl⟩, rfl⟩) rfl hvolatile hgen
  | true =>
    cases hmust : mustReconcile d with
    | true =>
      have hpending : (reconciling d).sdReconcilePending = true :=
        (reconciling_mustReconcile on).trans hmust
      rw [persistStore_reconcile on hpending io]
      obtain ⟨t, result, hrun, hgen', hcases⟩ := reconcileSdPrimary_cases io hsame hlen hmust
      rw [hrun]
      rcases hcases with ⟨error, hne, rfl, hbook, hpend⟩ | ⟨work, rfl, hwork, hpend⟩
      · exact .refused t error on hne hbook hpend (hgen'.trans hgen)
      · exact commitWork_outcome on hwork hpend (hgen'.trans hgen) io
    | false =>
      have hpending : (reconciling d).sdReconcilePending = false :=
        (reconciling_mustReconcile on).trans hmust
      have hrun : persistStore d io =
          commitWork { d with store := reconciling d } (ownWork (reconciling d)) io := by
        have hs : acceptGeneration { d.store with lastPersistDurable := false } d.enabled
            d.generation = reconciling d := rfl
        unfold persistStore
        dsimp only
        rewrite [hs, on, hpending, Bool.not_true, if_neg Bool.false_ne_true,
          if_neg Bool.false_ne_true]
        rfl
      rw [hrun]
      exact commitWork_outcome on (.own hmust hsame) hpending hgen io

end Persisted

section Accept

open Sigui.MeshPath

theorem finalizeMigratedPath_valid {e : ContactEntry} (h : e.outPathState = .empty) :
    retainedPathRecordIsValid (finalizeMigratedPath e) = true := by
  unfold finalizeMigratedPath
  by_cases hpath : (e.outPathValid && wirePathLenValid e.outPathLen) = true
  · rw [if_pos hpath]
    obtain ⟨hvalid, hlen⟩ := Bool.and_eq_true_iff.mp hpath
    have hsome : (learn e.outPathState pathSourceMigrated e.outPathUpdatedMs).isSome = true := by
      apply learn_isSome (by decide)
      rw [h]
      decide
    obtain ⟨state, hstate⟩ := Option.isSome_iff_exists.mp hsome
    dsimp only
    rw [hstate]
    refine learnedPath_valid e.outPath.bytes (h := ?_) hstate hlen hvalid rfl
    exact (List.length_take_le' _ _).trans_eq e.outPath.length_eq
  · rw [if_neg hpath]
    rfl

theorem markMigrated_state (e : ContactEntry) :
    (markMigratedVerification e).outPathState = e.outPathState := by
  unfold markMigratedVerification
  split_ifs <;> rfl

theorem acceptLegacy_valid {ρ : Type} {convert : ρ → ContactEntry} {old : LegacyBlob ρ}
    {blob : ContactBlob} (hconvert : ∀ e, (convert e).outPathState = .empty)
    (h : acceptLegacy convert old = some blob) : blobIsValid blob = true := by
  unfold acceptLegacy at h
  split_ifs at h with hvalid
  cases h
  simp only [legacyBlobIsValid, Bool.and_eq_true, decide_eq_true_eq] at hvalid
  apply blobIsValid_iff.mpr
  refine ⟨rfl, (List.length_map _).trans_le hvalid.1, Nat.ne_of_gt hvalid.2, ?_⟩
  intro e he
  obtain ⟨row, -, rfl⟩ := List.mem_map.mp he
  exact finalizeMigratedPath_valid (hconvert row)

theorem acceptImage_valid {image : ContactImage} {blob : ContactBlob} {migrated : Bool}
    (h : acceptImage image = some (blob, migrated)) : blobIsValid blob = true := by
  have hlegacy : ∀ {ρ : Type} {convert : ρ → ContactEntry} {old : LegacyBlob ρ},
      (∀ e, (convert e).outPathState = .empty) →
      (acceptLegacy convert old).map (·, true) = some (blob, migrated) →
      blobIsValid blob = true := by
    intro ρ convert old hconvert hmap
    obtain ⟨b, hb, hsame⟩ := Option.map_eq_some_iff.mp hmap
    cases hsame
    exact acceptLegacy_valid hconvert hb
  cases image with
  | current b =>
    rw [acceptImage] at h
    split_ifs at h with hvalid
    cases h
    exact hvalid
  | v6 old => exact hlegacy (fun _ => rfl) h
  | v5 old => exact hlegacy (fun _ => rfl) h
  | v4 old => exact hlegacy (fun e => (markMigrated_state _).trans rfl) h
  | v3 old => exact hlegacy (fun e => (markMigrated_state _).trans rfl) h
  | v2 old => exact hlegacy (fun e => (markMigrated_state _).trans rfl) h
  | v1 old => exact hlegacy (fun e => (markMigrated_state _).trans rfl) h
  | other schema => cases h

theorem acceptImage_current {blob b : ContactBlob} {migrated : Bool}
    (h : acceptImage (.current blob) = some (b, migrated)) : b = blob ∧ migrated = false := by
  rw [acceptImage] at h
  split_ifs at h
  cases h
  exact ⟨rfl, rfl⟩

theorem acceptImage_migrated {image : ContactImage} {blob : ContactBlob}
    (h : acceptImage image = some (blob, false)) : image = .current blob := by
  cases image with
  | current b => rw [(acceptImage_current h).1]
  | other schema => cases h
  | _ =>
    obtain ⟨b, -, hsame⟩ := Option.map_eq_some_iff.mp h
    cases hsame

end Accept

section Init

variable {d : ContactDevice} {io : InitIo}

def initInput (d : ContactDevice) (fromSd : Bool) (nowMs : Nat) : ContactDevice :=
  let s := { d.store with mutationAuthority := .localMutation }
  let s := if fromSd then s else rememberAllCurrentFingerprints s
  { d with store := { markDeferredPersistence s nowMs with
    sdReconcilePending := d.enabled && !fromSd } }

def settleIfDurable (d : ContactDevice) (ret : EspErr) : ContactDevice :=
  if ret = espOk ∧ d.store.lastPersistDurable = true then
    { d with store := settleDurable d.store }
  else d

theorem rememberRows_frame (s : ContactStore) (rows : List ContactEntry) :
    rows.foldl rememberTouchedRow s = { s with
      touchedFingerprints := (rows.foldl rememberTouchedRow s).touchedFingerprints } := by
  induction rows generalizing s with
  | nil => rfl
  | cons e rows ih =>
    rw [List.foldl_cons, ih (rememberTouchedRow s e), rememberTouchedRow, rememberTouched_frame]

theorem initInput_spec (d : ContactDevice) (fromSd : Bool) (nowMs : Nat) :
    fillBlob (initInput d fromSd nowMs).store = fillBlob d.store ∧
      (initInput d fromSd nowMs).store.mutationAuthority = .localMutation ∧
      (initInput d fromSd nowMs).store.persistenceDirty = true ∧
      (initInput d fromSd nowMs).store.acceptedSdBackendGeneration =
        d.store.acceptedSdBackendGeneration ∧
      (initInput d fromSd nowMs).store.sdReconcilePending = (d.enabled && !fromSd) := by
  cases fromSd with
  | true => exact ⟨rfl, rfl, rfl, rfl, rfl⟩
  | false =>
    unfold initInput rememberAllCurrentFingerprints
    dsimp only
    rw [if_neg Bool.false_ne_true, rememberRows_frame]
    exact ⟨rfl, rfl, rfl, rfl, rfl⟩

theorem initPersist_eq (d : ContactDevice) (fromSd : Bool) (io : InitIo) :
    initPersist d fromSd io =
      (settleIfDurable (persistStore (initInput d fromSd io.nowMs) io.persist).1
          (persistStore (initInput d fromSd io.nowMs) io.persist).2,
        (persistStore (initInput d fromSd io.nowMs) io.persist).2) := by
  have hunfold : initPersist d fromSd io =
      let persisted := persistStore (initInput d fromSd io.nowMs) io.persist
      if persisted.2 = espOk ∧ persisted.1.store.lastPersistDurable = true then
        ({ persisted.1 with store := settleDurable persisted.1.store }, persisted.2)
      else persisted := rfl
  rw [hunfold]
  dsimp only
  unfold settleIfDurable
  split_ifs <;> rfl

/-- The store that init starts from, and the one it leaves when it gives up. -/
structure BlankBook (s : ContactStore) : Prop where
  rows : fillBlob s = ⟨contactStoreSchema, 1, 0, 0, []⟩
  authority : s.mutationAuthority = .none
  dirty : s.persistenceDirty = false

structure InitSource (d : ContactDevice) (image : ContactImage) (fromSd : Bool) : Prop where
  card : fromSd = true → d.enabled = true ∧ d.card = some image
  nvs : fromSd = false → (d.enabled = true → d.card = none) ∧ d.nvs = some image

def reading (d : ContactDevice) (blob : ContactBlob) : ContactDevice :=
  { d with store := restoreBlob (resetStore d.generation) blob }

inductive InitOutcome (d : ContactDevice) : ContactDevice → EspErr → Prop
  | refused (t : ContactStore) (ret : EspErr) (failed : ret ≠ espOk) (blank : BlankBook t) :
    InitOutcome d { d with store := t } ret
  | empty (card : d.enabled = true → d.card = none) (nvs : d.nvs = none) :
    InitOutcome d { d with store := resetStore d.generation } espOk
  | read (blob : ContactBlob) (on : d.enabled = true) (found : d.card = some (.current blob))
      (valid : blobIsValid blob = true) : InitOutcome d (reading d blob) espOk
  | persisted (image : ContactImage) (blob : ContactBlob) (fromSd migrated : Bool) (nowMs : Nat)
      (source : InitSource d image fromSd) (accepted : acceptImage image = some (blob, migrated))
      (p : ContactDevice) (ret : EspErr)
      (outcome : PersistOutcome (initInput (reading d blob) fromSd nowMs) p ret) :
    InitOutcome d (settleIfDurable p ret) ret

theorem readKey_ok {ret : EspErr} {content found : Option ContactImage}
    (h : readKey ret content = .ok found) : found = content := by
  unfold readKey at h
  split_ifs at h
  cases h
  rfl

theorem readKey_error {ret error : EspErr} {content : Option ContactImage}
    (h : readKey ret content = .error error) : error ≠ espOk := by
  unfold readKey at h
  split_ifs at h with hret
  cases h
  exact fun hok => hret (.inl hok)

theorem initRead_cases (d : ContactDevice) (io : InitIo) :
    (∃ error, error ≠ espOk ∧ initRead d io = .error error) ∨
    (initRead d io = .ok none ∧ (d.enabled = true → d.card = none) ∧ d.nvs = none) ∨
    (∃ image fromSd, initRead d io = .ok (some (image, fromSd)) ∧ InitSource d image fromSd) := by
  -- the NVS key is asked when the card has nothing
  have hnvs : ∀ hcard : d.enabled = true → d.card = none,
      (if d.enabled then readKey io.sdRet d.card else .ok none) = .ok none →
      (∃ error, error ≠ espOk ∧ initRead d io = .error error) ∨
      (initRead d io = .ok none ∧ (d.enabled = true → d.card = none) ∧ d.nvs = none) ∨
      (∃ image fromSd, initRead d io = .ok (some (image, fromSd)) ∧
        InitSource d image fromSd) := by
    intro hcard hread
    unfold initRead
    rw [hread]
    dsimp only
    cases hkey : readKey io.nvsRet d.nvs with
    | error error => exact .inl ⟨error, readKey_error hkey, rfl⟩
    | ok found =>
      obtain rfl := readKey_ok hkey
      cases hfound : d.nvs with
      | none => exact .inr (.inl ⟨rfl, hcard, rfl⟩)
      | some image =>
        refine .inr (.inr ⟨image, false, rfl, fun h => absurd h Bool.false_ne_true, fun _ => ?_⟩)
        exact ⟨hcard, hfound⟩
  by_cases on : d.enabled = true
  · cases hkey : readKey io.sdRet d.card with
    | error error =>
      refine .inl ⟨error, readKey_error hkey, ?_⟩
      unfold initRead
      rw [if_pos on, hkey]
    | ok found =>
      obtain rfl : found = d.card := readKey_ok hkey
      by_cases hnone : d.card = none
      · apply hnvs fun _ => hnone
        rw [if_pos on, hkey, hnone]
      · obtain ⟨image, hfound⟩ := Option.ne_none_iff_exists'.mp hnone
        refine .inr (.inr ⟨image, true, ?_, fun _ => ⟨on, hfound⟩, fun h => ?_⟩)
        · unfold initRead
          rw [if_pos on, hkey, hfound]
        · cases h
  · exact hnvs (fun h => absurd h on) (if_neg on)

theorem blank_resetStore (generation : Nat) : BlankBook (resetStore generation) := ⟨rfl, rfl, rfl⟩

theorem initBody_outcome (d : ContactDevice) (io : InitIo) :
    InitOutcome d (initBody d io).1 (initBody d io).2 := by
  unfold initBody
  rcases initRead_cases d io with ⟨error, hne, hread⟩ | ⟨hread, hcard, hnvs⟩ |
    ⟨image, fromSd, hread, hsource⟩
  · rw [hread]
    exact .refused _ error hne (blank_resetStore _)
  · rw [hread]
    dsimp only
    by_cases hsettled : (!io.settled) = true
    · rw [if_pos hsettled]
      exact .refused _ _ espErrInvalidState_ne ⟨rfl, rfl, rfl⟩
    · rw [if_neg hsettled]
      exact .empty hcard hnvs
  · rw [hread]
    dsimp only
    cases haccept : acceptImage image with
    | none => exact .refused _ _ (refusedImage_ne image) (blank_resetStore _)
    | some taken =>
      obtain ⟨blob, migrated⟩ := taken
      dsimp only
      by_cases hsettled : (!io.settled) = true
      · rw [if_pos hsettled]
        exact .refused _ _ espErrInvalidState_ne ⟨rfl, rfl, rfl⟩
      rw [if_neg hsettled]
      by_cases hpersist : (migrated || !fromSd) = true
      · rw [if_pos hpersist, initPersist_eq]
        refine .persisted image blob fromSd migrated io.nowMs hsource haccept _ _ ?_
        apply persistStore_outcome
        obtain ⟨hschema, hlen, -⟩ := blobIsValid_iff.mp (acceptImage_valid haccept)
        have hrows : fillBlob (initInput (reading d blob) fromSd io.nowMs).store = blob :=
          (initInput_spec _ fromSd io.nowMs).1.trans (fillBlob_restoreBlob hschema hlen _)
        rw [← hrows] at hlen
        exact hlen
      · rw [if_neg hpersist]
        simp only [Bool.or_eq_true, not_or, Bool.not_eq_true, Bool.not_eq_false'] at hpersist
        obtain ⟨rfl, rfl⟩ := hpersist
        have himage := acceptImage_migrated haccept
        obtain ⟨on, hfound⟩ := hsource.card rfl
        exact .read blob on (himage ▸ hfound) (acceptImage_valid haccept)

theorem ensureLoaded_cases (d : ContactDevice) (io : InitIo) :
    (d.store.loaded = true ∧ ensureLoaded d io = (d, espOk)) ∨
    (d.store.loaded = false ∧ ∃ p ret, InitOutcome d p ret ∧ ensureLoaded d io =
      ({ p with store := { p.store with loaded := decide (ret = espOk) } }, ret)) := by
  by_cases hloaded : d.store.loaded = true
  · exact .inl ⟨hloaded, if_pos hloaded⟩
  · refine .inr ⟨Bool.eq_false_iff.mpr hloaded, _, _, initBody_outcome d io, ?_⟩
    rw [ensureLoaded, if_neg hloaded]
    rfl

end Init

section Loaded

variable {d : ContactDevice}

inductive Finished (d : ContactDevice) (before : ContactStore) : ContactDevice → Prop
  | deferred (t : ContactStore) (nowMs : Nat) (off : d.enabled = false)
      (same : SameBook d.store t) (pending : t.sdReconcilePending = true)
      (accepted : t.acceptedSdBackendGeneration = d.generation) :
    Finished d before { d with store := markDeferredPersistence t nowMs }
  | rolledBack (t : ContactStore) (card : Option ContactImage) (on : d.enabled = true)
      (rows : fillBlob t = fillBlob before)
      (authority : t.mutationAuthority = before.mutationAuthority)
      (deleted : t.deletedFingerprints = before.deletedFingerprints)
      (touched : t.touchedFingerprints = before.touchedFingerprints)
      (loaded : t.loaded = d.store.loaded) (dirty : t.persistenceDirty = d.store.persistenceDirty)
      (pending : t.sdReconcilePending = true)
      (accepted : t.acceptedSdBackendGeneration = d.generation)
      (kept : card = d.card ∨ ∃ u work, Reconciled d u work ∧
        card = workedCard { d with store := u } work) :
    Finished d before { d with store := t, card := card }
  | settled (t : ContactStore) (work : CardWork) (on : d.enabled = true)
      (reconciled : Reconciled d t work) (settled : t.sdReconcilePending = false)
      (accepted : t.acceptedSdBackendGeneration = d.generation) :
    Finished d before { d with
      store := settleDurable t, card := workedCard { d with store := t } work, nvs := none }

theorem persistOrRollback_finished {before : ContactStore}
    (hlen : d.store.entries.length ≤ contactStoreCapacity)
    (hbefore : before.entries.length ≤ contactStoreCapacity) (io : PersistIo) (nowMs : Nat) :
    Finished d before (persistStoreOrRollback d before io nowMs).1 := by
  have houtcome := persistStore_outcome hlen io
  unfold persistStoreOrRollback
  generalize persistStore d io = result at houtcome
  obtain ⟨p, ret⟩ := result
  dsimp only at houtcome ⊢
  have hback : ∀ s : ContactStore, fillBlob (rollBack before s) = fillBlob before := fun s =>
    fillBlob_restoreBlob rfl hbefore s
  cases houtcome with
  | offline t off same pending volatile accepted =>
    rw [if_neg (fun h => h rfl), volatile, Bool.not_false, if_pos rfl]
    exact .deferred t nowMs off same pending accepted
  | refused t _ on failed same pending accepted =>
    rw [if_pos failed]
    exact .rolledBack _ d.card on (hback t) rfl rfl rfl same.loaded rfl pending accepted (.inl rfl)
  | torn t work card _ on failed reconciled kept pending accepted =>
    rw [if_pos failed]
    refine .rolledBack _ card on (hback t) rfl rfl rfl reconciled.carried.loaded rfl pending accepted
      (kept.imp_right fun h => ⟨t, work, reconciled, h⟩)
  | durable t work on reconciled settled durable accepted =>
    rw [if_neg (fun h => h rfl), durable, Bool.not_true, if_neg Bool.false_ne_true]
    exact .settled t work on reconciled settled accepted

/-- What a flush leaves when it writes the rows on a card that is known to be this store's. -/
inductive SnapshotOutcome (d : ContactDevice) : ContactDevice → Prop
  | durable : SnapshotOutcome d { d with
      card := workedCard d ⟨true, (ownWork d.store).eraseNeeded⟩, nvs := none
      store := settleDurable d.store }
  | failed (card : Option ContactImage) (pending : Bool)
      (kept : card = d.card ∨ card = workedCard d ⟨true, (ownWork d.store).eraseNeeded⟩)
      (still : d.store.sdReconcilePending = true → pending = true) :
    SnapshotOutcome d { d with
      card := card, store := { d.store with sdReconcilePending := pending } }

theorem flushSnapshot_outcome (d : ContactDevice) (io : PersistIo) :
    SnapshotOutcome d (flushSnapshot d io).1 := by
  have hwritten : (if decide (d.store.mutationAuthority = .explicitClear) &&
      d.store.entries.isEmpty then none else some (ContactImage.current (fillBlob d.store))) =
      workedCard d ⟨true, (ownWork d.store).eraseNeeded⟩ := by
    unfold workedCard ownWork
    dsimp only
    rw [if_pos rfl]
  unfold flushSnapshot
  dsimp only
  rw [hwritten]
  generalize hcardRet : (if io.writeMatches then io.writeRet else espErrInvalidState) = cardRet
  generalize hsettled :
    (if cardRet = espOk ∧ io.settledMatches = false then espErrInvalidState else cardRet) = cret
  by_cases hret : (if cret = espOk then io.nvsErase else cret) = espOk
  · rw [hret]
    have hok : cret = espOk := by
      by_contra hne
      rw [if_neg hne] at hret
      exact hne hret
    have hcardOk : cardRet = espOk := by
      by_cases hmoved : cardRet = espOk ∧ io.settledMatches = false
      · exact hmoved.1
      · rw [if_neg hmoved] at hsettled
        exact hsettled.trans hok
    have hmatch : io.writeMatches = true := by
      by_contra hne
      rw [if_neg hne] at hcardRet
      exact espErrInvalidState_ne (hcardRet.trans hcardOk)
    have hwrite : io.writeRet = espOk := by
      rw [if_pos hmatch] at hcardRet
      exact hcardRet.trans hcardOk
    rw [if_pos rfl, if_pos rfl, hmatch, hwrite, decide_eq_true rfl, Bool.true_or, Bool.true_and,
      if_pos rfl]
    exact .durable
  · rw [if_neg hret, if_neg hret]
    refine .failed _ _ ?_ fun h => by rw [h, Bool.or_true]
    split_ifs
    · exact .inr rfl
    · exact .inl rfl

end Loaded

end Sigui.Contact

import Sigui.RoutePass
import Sigui.RouteRuns

/-! Forgetting one target. `clear_target` drops its rows and moves neither the epoch nor the count
of observations, so a card that was written before still counts as the same history and gives its
rows back; a run that meets no such card keeps the target forgotten. -/
namespace Sigui.Route

def FreeOf (target : List UInt8) (rows : List RouteEntry) : Prop :=
  ∀ e ∈ rows, targetMatches target e = false

instance (target : List UInt8) (rows : List RouteEntry) : Decidable (FreeOf target rows) :=
  inferInstanceAs (Decidable (∀ e ∈ rows, targetMatches target e = false))

structure RamFree (target : List UInt8) (s : RouteStore) : Prop where
  rows : FreeOf target s.entries
  preview : FreeOf target s.volatileEntry.toList

def PassFree (target : List UInt8) (pass : RoutePass) : Prop :=
  ∀ snapshot, pass.snapshot = some snapshot →
    FreeOf target snapshot.primary.entries ∧ FreeOf target snapshot.fallback.entries

structure TargetGone (target : List UInt8) (d : RouteDesk) : Prop where
  ram : RamFree target d.store
  written : ∀ blob ∈ d.written, FreeOf target blob.entries

def Upserts (target : List UInt8) (d : RouteDesk) : DeskOp → Prop
  | .observe a persist lockTaken nowMs =>
    (upsertObservation d.store a persist lockTaken nowMs).2 = espOk ∧
      ∃ t, acceptedTarget a = some t ∧ (storedIdentity t a).target.equalsLiteral target = true
  | _ => False

def CardFree (target : List UInt8) (d : RouteDesk) : DeskOp → Prop
  | .reconcile reads =>
    ∀ primary isV2, readPrimary reads.full reads.legacy = .found primary isV2 →
      reads.matchesBefore = true → reads.matchesAfter = true →
      reconcileBranch d.store primary ≠ .keep → FreeOf target primary.entries
  | _ => True

@[simp] theorem noteDirtyIf_volatileEntry (s : RouteStore) (dirty : Bool) (nowMs : Nat) :
    (noteDirtyIf s dirty nowMs).volatileEntry = s.volatileEntry := by
  unfold noteDirtyIf
  split_ifs <;> rfl

@[simp] theorem settleClean_volatileEntry (s : RouteStore) :
    (settleClean s).volatileEntry = s.volatileEntry := by
  unfold settleClean
  dsimp only
  split_ifs <;> rfl

@[simp] theorem noteGeneration_volatileEntry (s : RouteStore) (required : Bool)
    (generation nowMs : Nat) :
    (noteGeneration s required generation nowMs).volatileEntry = s.volatileEntry := by
  unfold noteGeneration
  split_ifs
  · rfl
  · exact noteDirtyIf_volatileEntry _ _ _

theorem persistBegin_volatileEntry (s : RouteStore) (required : Bool) (generation nowMs : Nat)
    (force : Bool) :
    (persistBegin s required generation nowMs force).1.volatileEntry = s.volatileEntry := by
  have hnote := noteGeneration_volatileEntry s required generation nowMs
  unfold persistBegin
  dsimp only
  split_ifs
  · rfl
  all_goals exact hnote

theorem takeSnapshot_volatileEntry (s : RouteStore) (required : Bool) :
    (takeSnapshot s required).1.volatileEntry = s.volatileEntry := by
  unfold takeSnapshot
  dsimp only
  split_ifs
  · exact settleClean_volatileEntry _
  · rfl

theorem noteNvsWrite_volatileEntry (s : RouteStore) (snapshot : PersistSnapshot)
    (nvsRet : EspErr) : (noteNvsWrite s snapshot nvsRet).volatileEntry = s.volatileEntry := by
  unfold noteNvsWrite
  split_ifs <;> rfl

theorem noteSdWrite_volatileEntry (s : RouteStore) (snapshot : PersistSnapshot) (sdRet : EspErr)
    (generationChanged : Bool) :
    (noteSdWrite s snapshot sdRet generationChanged).volatileEntry = s.volatileEntry := by
  unfold noteSdWrite
  split_ifs <;> rfl

theorem persistFinish_volatileEntry (s : RouteStore) (snapshot : PersistSnapshot)
    (required : Bool) (sdRet nvsRet : EspErr) (generationChanged : Bool) (nowMs : Nat) :
    (persistFinish s snapshot required sdRet nvsRet generationChanged nowMs).volatileEntry =
      s.volatileEntry := by
  unfold persistFinish
  dsimp only
  generalize (if (snapshot.sdAttempt && generationChanged) = true then espErrInvalidState
    else sdRet) = ret
  have hwrites := (noteNvsWrite_volatileEntry
    (noteSdWrite s snapshot ret generationChanged) snapshot nvsRet).trans
    (noteSdWrite_volatileEntry s snapshot ret generationChanged)
  split_ifs
  · exact hwrites
  · exact (settleClean_volatileEntry _).trans hwrites

namespace RamFree

variable {target : List UInt8} {s t : RouteStore}

theorem of_same (h : RamFree target s) (hrows : t.entries = s.entries)
    (hpreview : t.volatileEntry = s.volatileEntry) : RamFree target t :=
  ⟨hrows ▸ h.rows, hpreview ▸ h.preview⟩

theorem persistBegin (h : RamFree target s) (required : Bool) (generation nowMs : Nat)
    (force : Bool) : RamFree target (persistBegin s required generation nowMs force).1 :=
  h.of_same (SameHistory.persistBegin s required generation nowMs force).entries
    (persistBegin_volatileEntry s required generation nowMs force)

theorem takeSnapshot (h : RamFree target s) (required : Bool) :
    RamFree target (takeSnapshot s required).1 :=
  h.of_same (SameHistory.takeSnapshot s required).entries (takeSnapshot_volatileEntry s required)

theorem noteSdReconcileFailure (h : RamFree target s) (failure : EspErr) (nowMs : Nat) :
    RamFree target (noteSdReconcileFailure s failure nowMs) := h.of_same rfl rfl

theorem persistFinish (h : RamFree target s) (snapshot : PersistSnapshot) (required : Bool)
    (sdRet nvsRet : EspErr) (generationChanged : Bool) (nowMs : Nat) :
    RamFree target
      (persistFinish s snapshot required sdRet nvsRet generationChanged nowMs) :=
  h.of_same
    (SameHistory.persistFinish s snapshot required sdRet nvsRet generationChanged nowMs).entries
    (persistFinish_volatileEntry s snapshot required sdRet nvsRet generationChanged nowMs)

theorem fallbackFinish (h : RamFree target s) (snapshot : PersistSnapshot) (required : Bool)
    (nvsRet : EspErr) : RamFree target (fallbackFinish s snapshot required nvsRet) :=
  h.of_same (SameHistory.fallbackFinish s snapshot required nvsRet).entries
    (noteNvsWrite_volatileEntry s snapshot nvsRet)

theorem fillBlob (h : RamFree target s) : FreeOf target (fillBlob s).entries :=
  fun e he => h.rows e (List.mem_of_mem_take he)

theorem fillFallbackBlob (h : RamFree target s) : FreeOf target (fillFallbackBlob s).entries :=
  fun e he => h.rows e
    ((takeNewest_subperm RouteEntry.seq routeStoreNvsFallbackCapacity s.entries).subset he)

end RamFree

section Calls

variable {target : List UInt8} {s : RouteStore}

theorem FreeOf.filter (rows : List RouteEntry) :
    FreeOf target (rows.filter fun e => !targetMatches target e) := by
  intro e he
  simpa using (List.mem_filter.mp he).2

theorem clearTarget_ramFree {t : CStr} {nowMs : Nat} {retire : EspErr}
    (hret : (clearTarget s (some t) nowMs retire).2 = espOk) :
    RamFree t.bytes (clearTarget s (some t) nowMs retire).1 := by
  have hdrop : RamFree t.bytes (dropTarget s t.bytes).1 := by
    refine ⟨.filter s.entries, ?_⟩
    intro e he
    have hkept : s.volatileEntry.filter (fun e => !targetMatches t.bytes e) = some e :=
      Option.mem_toList.mp he
    simpa using (Option.filter_eq_some_iff.mp hkept).2
  unfold clearTarget at hret ⊢
  dsimp only at hret ⊢
  by_cases hempty : t.bytes.isEmpty = true
  · rw [if_pos hempty] at hret
    cases hret
  · rw [if_neg hempty]
    split_ifs
    · exact hdrop.of_same rfl rfl
    · exact hdrop

theorem clearTarget_keeps_free (h : RamFree target s) (t : Option CStr) (nowMs : Nat)
    (retire : EspErr) : RamFree target (clearTarget s t nowMs retire).1 := by
  cases t with
  | none => exact h
  | some t =>
    have hdrop : RamFree target (dropTarget s t.bytes).1 := by
      refine ⟨fun e he => h.rows e (List.mem_of_mem_filter he), ?_⟩
      intro e he
      have hkept : s.volatileEntry.filter (fun e => !targetMatches t.bytes e) = some e :=
        Option.mem_toList.mp he
      exact h.preview e (Option.mem_toList.mpr (Option.filter_eq_some_iff.mp hkept).1)
    unfold clearTarget
    dsimp only
    split_ifs
    · exact h
    · exact hdrop.of_same rfl rfl
    · exact hdrop

theorem mem_upsertSlot {t : CStr} {a : ObservationArgs} {nowMs : Nat} {e : RouteEntry}
    (he : e ∈ (upsertSlot s t a nowMs).pre ∨ e ∈ (upsertSlot s t a nowMs).post) :
    e ∈ s.entries := by
  unfold upsertSlot at he
  cases hfind : findIndex s.entries t.bytes (orEmpty a.kind) (orEmpty a.direction) with
  | some split =>
    obtain ⟨pre, x, post⟩ := split
    rw [hfind] at he
    rw [(findIndex_eq_some hfind).1]
    exact List.mem_append.mpr (he.imp_right (List.mem_cons_of_mem x))
  | none =>
    rw [hfind] at he
    dsimp only at he
    by_cases hroom : s.entries.length < routeStoreCapacity
    · rw [if_pos hroom] at he
      exact he.resolve_right List.not_mem_nil
    · rw [if_neg hroom] at he
      cases hold : firstOldest RouteEntry.seq s.entries with
      | none =>
        rw [hold] at he
        exact absurd he (by simp)
      | some split =>
        obtain ⟨pre, x, post⟩ := split
        rw [hold] at he
        rw [firstBest_split hold]
        exact List.mem_append.mpr (he.imp_right (List.mem_cons_of_mem x))

theorem upsertObservation_keeps_free (h : RamFree target s) {a : ObservationArgs}
    {persist lockTaken : Bool} {nowMs : Nat}
    (hother : ¬((upsertObservation s a persist lockTaken nowMs).2 = espOk ∧
      ∃ t, acceptedTarget a = some t ∧ (storedIdentity t a).target.equalsLiteral target = true)) :
    RamFree target (upsertObservation s a persist lockTaken nowMs).1 := by
  unfold upsertObservation at hother ⊢
  cases htarget : acceptedTarget a with
  | none => exact h
  | some t =>
    rw [htarget] at hother
    dsimp only at hother ⊢
    by_cases hlock : (!lockTaken) = true
    · rw [if_pos hlock]
      exact h
    · rw [if_neg hlock] at hother ⊢
      by_cases hloaded : (!s.loaded) = true
      · rw [if_pos hloaded]
        exact h
      · rw [if_neg hloaded] at hother ⊢
        -- what is stored carries the sanitised target, on either branch
        have hnew : ∀ e seq, targetMatches target (writeObservation e t a seq nowMs) = false := by
          intro e seq
          refine Bool.eq_false_iff.mpr fun hmatch => hother ⟨?_, t, rfl, hmatch⟩
          split_ifs <;> rfl
        split_ifs
        · refine ⟨?_, fun e he => absurd he List.not_mem_nil⟩
          intro e he
          rcases List.mem_append.mp he with he | he
          · exact h.rows e (mem_upsertSlot (.inl he))
          · rcases List.mem_cons.mp he with rfl | he
            · exact hnew _ _
            · exact h.rows e (mem_upsertSlot (.inr he))
        · refine ⟨h.rows, ?_⟩
          intro e he
          rw [← Option.some.inj (Option.mem_toList.mp he)]
          exact hnew _ _

end Calls

section Reconcile

variable {target : List UInt8} {s : RouteStore} {primary : RouteBlob}

theorem mem_overlayRow {t : RouteStore} {o e : RouteEntry} (he : e ∈ (overlayRow t o).entries) :
    e.target = o.target ∨ e ∈ t.entries := by
  unfold overlayRow at he
  dsimp only at he
  cases hfind : findIndex t.entries o.target.bytes o.kind.bytes o.direction.bytes with
  | some split =>
    obtain ⟨pre, x, post⟩ := split
    rw [hfind] at he
    rw [(findIndex_eq_some hfind).1]
    rcases mem_replace (r := x) he with rfl | he
    · exact .inl rfl
    · exact .inr he
  | none =>
    rw [hfind] at he
    dsimp only at he
    by_cases hroom : t.entries.length < routeStoreCapacity
    · rw [if_pos hroom] at he
      rcases List.mem_append.mp he with he | he
      · exact .inr he
      · rw [List.mem_singleton.mp he]
        exact .inl rfl
    · rw [if_neg hroom] at he
      cases hold : firstOldest RouteEntry.seq t.entries with
      | none =>
        rw [hold] at he
        exact .inr he
      | some split =>
        obtain ⟨pre, x, post⟩ := split
        rw [hold] at he
        rw [firstBest_split hold]
        rcases mem_replace (r := x) he with rfl | he
        · exact .inl rfl
        · exact .inr he

theorem overlayRow_volatileEntry (t : RouteStore) (o : RouteEntry) :
    (overlayRow t o).volatileEntry = t.volatileEntry := by
  unfold overlayRow
  dsimp only
  split
  · rfl
  · split_ifs
    · rfl
    · split <;> rfl

theorem overlayRows_keep_free {live : List RouteEntry} (hlive : FreeOf target live) :
    ∀ {t : RouteStore}, RamFree target t → RamFree target (live.foldl overlayRow t) := by
  induction live with
  | nil => exact fun h => h
  | cons o live ih =>
    intro t h
    refine ih (fun e he => hlive e (List.mem_cons_of_mem o he)) ⟨?_, ?_⟩
    · intro e he
      rcases mem_overlayRow he with hsame | he
      · have ho := hlive o List.mem_cons_self
        rw [targetMatches] at ho ⊢
        rwa [hsame]
      · exact h.rows e he
    · rw [overlayRow_volatileEntry]
      exact h.preview

theorem reconcileRows_keeps_free (h : RamFree target s) (isV2 : Bool)
    (hcard : reconcileBranch s primary ≠ .keep → FreeOf target primary.entries) :
    RamFree target (reconcileRows s primary isV2) := by
  unfold reconcileRows
  cases hbranch : reconcileBranch s primary with
  | adopt =>
    have hprimary := hcard (by rw [hbranch]; decide)
    have hlive : FreeOf target (liveOverlay s) := fun e he =>
      h.rows e ((liveOverlay_subperm s).subset he)
    have hload : RamFree target (loadValidBlobIntoRam s primary) := ⟨hprimary, h.preview⟩
    exact (overlayRows_keep_free hlive hload).of_same rfl rfl
  | merge =>
    have hprimary := hcard (by rw [hbranch]; decide)
    refine ⟨?_, h.preview⟩
    intro e he
    exact (mem_absorbRows he).elim (h.rows e) (hprimary e)
  | load => exact ⟨hcard (by rw [hbranch]; decide), h.preview⟩
  | keep => exact h.of_same rfl rfl

theorem reconcileFound_keeps_free (h : RamFree target s) (isV2 : Bool) (nowMs : Nat)
    (hcard : reconcileBranch s primary ≠ .keep → FreeOf target primary.entries) :
    RamFree target (reconcileFound s primary isV2 nowMs) := by
  refine (reconcileRows_keeps_free h isV2 hcard).of_same
    (SameHistory.reconcileFound s primary isV2 nowMs).entries ?_
  simp [reconcileFound, refreshPersistenceDirty]

theorem reconcileSdPrimary_keeps_free (h : RamFree target s) {reads : ReconcileReads}
    (nowMs : Nat)
    (hcard : ∀ primary isV2, readPrimary reads.full reads.legacy = .found primary isV2 →
      reads.matchesBefore = true → reads.matchesAfter = true →
      reconcileBranch s primary ≠ .keep → FreeOf target primary.entries) :
    RamFree target (reconcileSdPrimary s reads nowMs).1 := by
  unfold reconcileSdPrimary
  by_cases hbefore : reads.matchesBefore = true
  · rw [hbefore, if_neg (by decide)]
    cases hread : readPrimary reads.full reads.legacy with
    | unfinished => exact h
    | failed error => exact h.noteSdReconcileFailure error nowMs
    | notFound =>
      dsimp only
      split_ifs
      · exact h.noteSdReconcileFailure espErrInvalidState nowMs
      · exact h.of_same (SameHistory.reconcileNotFound s nowMs).entries
          (by simp [reconcileNotFound, refreshPersistenceDirty])
    | found primary isV2 =>
      dsimp only
      by_cases hafter : reads.matchesAfter = true
      · rw [hafter]
        exact reconcileFound_keeps_free h isV2 nowMs (hcard primary isV2 hread hbefore hafter)
      · rw [Bool.not_eq_true] at hafter
        rw [hafter]
        exact h.noteSdReconcileFailure espErrInvalidState nowMs
  · rw [Bool.not_eq_true] at hbefore
    rw [hbefore]
    exact h.noteSdReconcileFailure espErrInvalidState nowMs

end Reconcile

section Desk

variable {target : List UInt8} {d : RouteDesk}

/-- What keeps a target forgotten: it is gone, and nothing on its way out carries it. -/
structure Forgotten (target : List UInt8) (d : RouteDesk) : Prop where
  gone : TargetGone target d
  pass : PassFree target d.pass

theorem passFree_of_none {pass : RoutePass} (h : pass.snapshot = none) : PassFree target pass := by
  intro snapshot hsnapshot
  cases h.symm.trans hsnapshot

theorem Forgotten.beginPass (h : Forgotten target d) (required : Bool) (generation nowMs : Nat)
    (force : Bool) : Forgotten target (beginPass d required generation nowMs force) := by
  have hstore := h.gone.ram.persistBegin required generation nowMs force
  unfold Route.beginPass
  cases hpass : d.pass with
  | idle =>
    dsimp only
    cases hbegin : persistBegin d.store required generation nowMs force with
    | mk store start =>
      rw [hbegin] at hstore
      cases start with
      | finished ret => exact ⟨⟨hstore, h.gone.written⟩, passFree_of_none rfl⟩
      | proceed attempt =>
        cases attempt with
        | true => exact ⟨⟨hstore, h.gone.written⟩, passFree_of_none rfl⟩
        | false => exact ⟨⟨hstore, h.gone.written⟩, passFree_of_none rfl⟩
  | _ => exact h

theorem Forgotten.reconcilePass (h : Forgotten target d) {reads : ReconcileReads}
    (hcard : CardFree target d (.reconcile reads)) :
    Forgotten target (reconcilePass d reads) := by
  unfold Route.reconcilePass
  cases hpass : d.pass with
  | reconcile required nowMs =>
    have hstore := reconcileSdPrimary_keeps_free h.gone.ram nowMs hcard
    dsimp only
    split_ifs
    · exact ⟨⟨hstore, h.gone.written⟩, passFree_of_none rfl⟩
    · exact ⟨⟨hstore, h.gone.written⟩, passFree_of_none rfl⟩
    · exact ⟨⟨hstore, h.gone.written⟩, passFree_of_none rfl⟩
  | _ => exact h

theorem takeSnapshot_free {s : RouteStore} (h : RamFree target s) {required : Bool}
    {snapshot : PersistSnapshot} (hs : (takeSnapshot s required).2 = some snapshot) :
    FreeOf target snapshot.primary.entries ∧ FreeOf target snapshot.fallback.entries := by
  unfold takeSnapshot at hs
  dsimp only at hs
  split_ifs at hs
  obtain rfl := Option.some.inj hs
  exact ⟨RamFree.fillBlob (h.of_same rfl rfl), RamFree.fillFallbackBlob (h.of_same rfl rfl)⟩

theorem takeFallback_free {s : RouteStore} (h : RamFree target s) {snapshot : PersistSnapshot}
    (hs : takeFallback s = some snapshot) :
    FreeOf target snapshot.primary.entries ∧ FreeOf target snapshot.fallback.entries := by
  unfold takeFallback at hs
  split_ifs at hs
  obtain rfl := Option.some.inj hs
  exact ⟨h.fillBlob, h.fillFallbackBlob⟩

theorem Forgotten.collectPass (h : Forgotten target d) : Forgotten target (collectPass d) := by
  unfold Route.collectPass
  cases hpass : d.pass with
  | collect required nowMs =>
    have hstore := h.gone.ram.takeSnapshot required
    dsimp only
    cases hsnapshot : (takeSnapshot d.store required).2 with
    | none => exact ⟨⟨hstore, h.gone.written⟩, passFree_of_none rfl⟩
    | some snapshot =>
      refine ⟨⟨hstore, h.gone.written⟩, ?_⟩
      intro taken htaken
      obtain rfl := Option.some.inj htaken
      exact takeSnapshot_free h.gone.ram hsnapshot
  | reconcileFailed required =>
    dsimp only
    cases hsnapshot : takeFallback d.store with
    | none => exact ⟨⟨h.gone.ram, h.gone.written⟩, passFree_of_none rfl⟩
    | some snapshot =>
      refine ⟨⟨h.gone.ram, h.gone.written⟩, ?_⟩
      intro taken htaken
      obtain rfl := Option.some.inj htaken
      exact takeFallback_free h.gone.ram hsnapshot
  | _ => exact h

theorem mem_handedOut {snapshot : PersistSnapshot} {answers : WriteAnswers} {blob : RouteBlob}
    (h : blob ∈ handedOut snapshot answers) :
    blob = snapshot.primary ∨ blob = snapshot.fallback := by
  unfold handedOut at h
  rcases List.mem_append.mp h with h | h
  · split_ifs at h
    · exact .inl (List.mem_singleton.mp h)
    · cases h
  · split_ifs at h
    · exact .inr (List.mem_singleton.mp h)
    · cases h

theorem Forgotten.writePass (h : Forgotten target d) (answers : WriteAnswers) :
    Forgotten target (writePass d answers) := by
  unfold Route.writePass
  cases hpass : d.pass with
  | write required nowMs snapshot =>
    obtain ⟨hprimary, hfallback⟩ := h.pass snapshot (by rw [hpass]; rfl)
    have hwritten : ∀ blob ∈ d.written ++ handedOut snapshot answers,
        FreeOf target blob.entries := by
      intro blob hblob
      rcases List.mem_append.mp hblob with hblob | hblob
      · exact h.gone.written blob hblob
      · rcases mem_handedOut hblob with rfl | rfl
        · exact hprimary
        · exact hfallback
    dsimp only
    split_ifs
    all_goals refine ⟨⟨?_, ?_⟩, passFree_of_none rfl⟩
    all_goals first
      | exact h.gone.ram.noteSdReconcileFailure _ _
      | exact h.gone.ram.persistFinish _ _ _ _ _ _
      | exact hwritten
      | exact h.gone.written
      | exact h.gone.ram
  | writeFallback required snapshot =>
    obtain ⟨-, hfallback⟩ := h.pass snapshot (by rw [hpass]; rfl)
    refine ⟨⟨h.gone.ram.fallbackFinish snapshot required answers.nvsRet, ?_⟩, passFree_of_none rfl⟩
    intro blob hblob
    rcases List.mem_append.mp hblob with hblob | hblob
    · exact h.gone.written blob hblob
    · rw [List.mem_singleton.mp hblob]
      exact hfallback
  | _ => exact h

theorem Forgotten.step (h : Forgotten target d) {op : DeskOp} (hother : ¬Upserts target d op)
    (hcard : CardFree target d op) : Forgotten target (stepDesk d op) := by
  cases op with
  | observe a persist lockTaken nowMs =>
    exact ⟨⟨upsertObservation_keeps_free h.gone.ram hother, h.gone.written⟩, h.pass⟩
  | clearTarget t nowMs retire =>
    exact ⟨⟨clearTarget_keeps_free h.gone.ram t nowMs retire, h.gone.written⟩, h.pass⟩
  | begin required generation nowMs force => exact h.beginPass required generation nowMs force
  | reconcile reads => exact h.reconcilePass hcard
  | collect => exact h.collectPass
  | write answers => exact h.writePass answers

end Desk

/-- The desk right after the call; what was written before it no longer counts. -/
def afterClear (d : RouteDesk) (target : CStr) (nowMs : Nat) (retire : EspErr) : RouteDesk :=
  { d with store := (clearTarget d.store (some target) nowMs retire).1, written := [] }

/-- A target that was cleared stays cleared in every run that does not observe it again, while no
snapshot with its rows was on its way out and no card with its rows is taken over. -/
theorem cleared_target_stays (target : CStr) (d : RouteDesk) (nowMs : Nat) (retire : EspErr)
    (ops : List DeskOp)
    (hret : (clearTarget d.store (some target) nowMs retire).2 = espOk)
    (hpass : PassFree target.bytes d.pass)
    (hrun : RunOk stepDesk
      (fun d op => ¬Upserts target.bytes d op ∧ CardFree target.bytes d op)
      (afterClear d target nowMs retire) ops) :
    TargetGone target.bytes (runSteps stepDesk (afterClear d target nowMs retire) ops) := by
  have hstart : Forgotten target.bytes (afterClear d target nowMs retire) :=
    ⟨⟨clearTarget_ramFree hret, fun _ hblob => absurd hblob List.not_mem_nil⟩, hpass⟩
  have hstep : ∀ d op, Forgotten target.bytes d →
      (¬Upserts target.bytes d op ∧ CardFree target.bytes d op) →
      Forgotten target.bytes (stepDesk d op) := fun _ _ hd hop => hd.step hop.1 hop.2
  exact (run_invariant hstep hrun hstart).gone

def newCardReads : InitReads := { emptyReads with enabled := true, generation := 1 }

def flushedRoute : RouteDesk :=
  runSteps stepDesk { store := (initStore newCardReads).1 }
    [.observe (observeA (some packetArg)) true true 1, .begin true 1 10 true, .collect,
      .write ⟨true, espOk, espOk, false⟩]

def flushRemounted (card : RouteBlob) : List DeskOp :=
  [.begin true 2 20000 true, .reconcile ⟨.ok (some card), .error espErrNotFound, true, true⟩,
    .collect, .write ⟨true, espOk, espOk, false⟩]

def CardFrom (written : List RouteBlob) : DeskOp → Prop
  | .reconcile reads => ∃ blob ∈ written, reads.full = .ok (some blob) ∧
      reads.legacy = .error espErrNotFound
  | _ => True

/-- The card written before the clear has the epoch and the count of the store, and the merge
takes its row for the target back. -/
theorem cleared_target_returns :
    ¬ ∀ (r : InitReads) (before : List DeskOp) (target : CStr) (nowMs : Nat) (retire : EspErr)
        (ops : List DeskOp) (d : RouteDesk),
      d = runSteps stepDesk { store := (initStore r).1 } before →
      (clearTarget d.store (some target) nowMs retire).2 = espOk →
      RunOk stepDesk (fun d' op => ¬Upserts target.bytes d' op ∧ CardFrom d.written op)
        (afterClear d target nowMs retire) ops →
      TargetGone target.bytes (runSteps stepDesk (afterClear d target nowMs retire) ops) := by
  intro h
  have hcard : flushedRoute.written.head? = some (fillBlob flushedRoute.store) := by
    decide +kernel
  have hmem : fillBlob flushedRoute.store ∈ flushedRoute.written :=
    List.mem_of_mem_head? hcard
  have hret : (clearTarget flushedRoute.store (some ⟨[65], by decide⟩) 100 espOk).2 = espOk := by
    decide +kernel
  have hgone := h newCardReads _ ⟨[65], by decide⟩ 100 espOk
    (flushRemounted (fillBlob flushedRoute.store)) flushedRoute rfl hret
    ⟨⟨not_false, trivial⟩, ⟨not_false, ⟨_, hmem, rfl, rfl⟩⟩, ⟨not_false, trivial⟩,
      ⟨not_false, trivial⟩, trivial⟩
  have hback : ¬FreeOf [65] (runSteps stepDesk
      (afterClear flushedRoute ⟨[65], by decide⟩ 100 espOk)
      (flushRemounted (fillBlob flushedRoute.store))).store.entries := by
    decide +kernel
  exact hback hgone.ram.rows

/-- A card of the same counters whose only row is about `B`. -/
def cardB : RouteBlob := ⟨routeStoreFullSchema, 1, 2, 1, 0, [cardRow 66 (by decide) 1]⟩

theorem cleared_target_stays_other :
    TargetGone [65] (runSteps stepDesk (afterClear flushedRoute ⟨[65], by decide⟩ 100 espOk)
      (flushRemounted cardB)) := by
  refine cleared_target_stays ⟨[65], by decide⟩ flushedRoute 100 espOk _ (by decide +kernel)
    (passFree_of_none (by decide +kernel)) ⟨⟨not_false, trivial⟩, ⟨not_false, ?_⟩,
      ⟨not_false, trivial⟩, ⟨not_false, trivial⟩, trivial⟩
  intro primary isV2 hread _ _ _
  have hfound : readPrimary (.ok (some cardB)) (.error espErrNotFound) = .found cardB true := by
    decide +kernel
  obtain ⟨rfl, -⟩ := PrimaryRead.found.inj (hfound.symm.trans hread)
  decide +kernel

end Sigui.Route

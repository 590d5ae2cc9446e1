import Sigui.RouteOverlay
import Sigui.RunRules

/-! Runs of the route store from a successful init, in any order of its locked sections. What it
writes can be read back as long as no step leaves the condition below. -/
namespace Sigui.Route

inductive RouteOp
  | observe (a : ObservationArgs) (persist lockTaken : Bool) (nowMs : Nat)
  | clearTarget (target : Option CStr) (nowMs : Nat) (retire : EspErr)
  | reconcile (reads : ReconcileReads) (nowMs : Nat)
  | persistBegin (sdPrimaryRequired : Bool) (generation nowMs : Nat) (force : Bool)
  | collect (sdPrimaryRequired : Bool)
  | persistFinish (snapshot : PersistSnapshot) (sdPrimaryRequired : Bool) (sdRet nvsRet : EspErr)
      (generationChanged : Bool) (nowMs : Nat)
  | fallbackFinish (snapshot : PersistSnapshot) (sdPrimaryRequired : Bool) (nvsRet : EspErr)
  | clear (sdPrimaryRequired : Bool) (generation clearRevision nowMs : Nat)
      (results : ClearResults)

def stepRoute (s : RouteStore) : RouteOp → RouteStore
  | .observe a persist lockTaken nowMs => (upsertObservation s a persist lockTaken nowMs).1
  | .clearTarget target nowMs retire => (clearTarget s target nowMs retire).1
  | .reconcile reads nowMs => (reconcileSdPrimary s reads nowMs).1
  | .persistBegin sdPrimaryRequired generation nowMs force =>
    (persistBegin s sdPrimaryRequired generation nowMs force).1
  | .collect sdPrimaryRequired => (takeSnapshot s sdPrimaryRequired).1
  | .persistFinish snapshot sdPrimaryRequired sdRet nvsRet generationChanged nowMs =>
    persistFinish s snapshot sdPrimaryRequired sdRet nvsRet generationChanged nowMs
  | .fallbackFinish snapshot sdPrimaryRequired nvsRet =>
    fallbackFinish s snapshot sdPrimaryRequired nvsRet
  | .clear sdPrimaryRequired generation clearRevision nowMs results =>
    (clearFinish s sdPrimaryRequired generation clearRevision (u32Succ s.epoch) nowMs results).1

def CardOk (s : RouteStore) (primary : RouteBlob) : Prop :=
  match reconcileBranch s primary with
  | .adopt => AdoptOk s primary
  | .merge => MergeOk s primary
  | .load => (primary.entries.map RouteEntry.identity).Nodup
  | .keep => True

def RouteOpOk (s : RouteStore) : RouteOp → Prop
  | .observe a persist lockTaken _ =>
    ∀ target, acceptedTarget a = some target → lockTaken = true → s.loaded = true →
      persist = true → ObserveOk s target a
  | .reconcile reads _ =>
    ∀ primary isV2, readPrimary reads.full reads.legacy = .found primary isV2 →
      reads.matchesBefore = true → reads.matchesAfter = true → CardOk s primary
  | .clear _ _ clearRevision _ results =>
    results.ret = espOk → s.revision = clearRevision → s.epoch < uint32Max
  | _ => True

def StartOk (r : InitReads) : Prop :=
  ∀ blob, r.source.blob = some blob → (blob.entries.map RouteEntry.identity).Nodup

theorem InitReads.v2Source_inv {r : InitReads} {s : RouteStore} (hs : RouteInv s)
    (hone : ∀ blob, r.v2Source.blob = some blob → (blob.entries.map RouteEntry.identity).Nodup) :
    RouteInv (loadSource s r.v2Source) := by
  have hsd : ∀ {blob}, r.sdValid = some blob → (blob.entries.map RouteEntry.identity).Nodup →
      RouteInv (loadSource s (.sdV2 blob)) := fun h hnodup =>
    ⟨writable_of_blobIsValid (validImage_eq_some h) s, hnodup⟩
  have hnvs : ∀ {blob}, r.compactValid = some blob →
      (blob.entries.map RouteEntry.identity).Nodup → RouteInv (loadSource s (.nvsV2 blob)) :=
    fun h hnodup => ⟨writable_of_fallbackBlobIsValid (validImage_eq_some h) s, hnodup⟩
  unfold v2Source at hone ⊢
  cases hsdv : r.sdValid with
  | some sd =>
    cases hcompact : r.compactValid with
    | some compact =>
      simp only [hsdv, hcompact] at hone ⊢
      split_ifs at hone ⊢
      · exact hnvs hcompact (hone compact rfl)
      · exact hsd hsdv (hone sd rfl)
    | none =>
      simp only [hsdv, hcompact] at hone ⊢
      exact hsd hsdv (hone sd rfl)
  | none =>
    cases hcompact : r.compactValid with
    | some compact =>
      simp only [hsdv, hcompact] at hone ⊢
      exact hnvs hcompact (hone compact rfl)
    | none => exact hs

theorem InitReads.legacySource_inv {r : InitReads} {s : RouteStore} (hs : RouteInv s)
    (hone : ∀ blob, r.legacySource.blob = some blob →
      (blob.entries.map RouteEntry.identity).Nodup) :
    RouteInv (loadSource s r.legacySource) := by
  have hload : ∀ {blob : RouteLegacyBlob}, legacyBlobIsValid blob = true →
      (blob.entries.map RouteEntry.identity).Nodup → RouteInv (loadLegacyBlobIntoRam s blob) :=
    fun h hnodup => ⟨writable_of_blobIsValid (blobIsValid_legacyBlobToFull h) _, hnodup⟩
  unfold legacySource at hone ⊢
  cases hsdv : r.legacySdValid with
  | some sd =>
    cases hnvs : r.legacyNvsValid with
    | some nvs =>
      simp only [hsdv, hnvs] at hone ⊢
      split_ifs at hone ⊢
      · exact hload (validImage_eq_some hnvs) (hone _ rfl)
      · exact hload (validImage_eq_some hsdv) (hone _ rfl)
    | none =>
      simp only [hsdv, hnvs] at hone ⊢
      exact hload (validImage_eq_some hsdv) (hone _ rfl)
  | none =>
    cases hnvs : r.legacyNvsValid with
    | some nvs =>
      simp only [hsdv, hnvs] at hone ⊢
      exact hload (validImage_eq_some hnvs) (hone _ rfl)
    | none => exact hs

theorem initStore_inv {r : InitReads} (hstart : StartOk r) : RouteInv (initStore r).1 := by
  have hreset : RouteInv (resetStore r.enabled r.generation) :=
    ⟨writable_resetStore _ _, List.nodup_nil⟩
  have hsource : RouteInv (loadSource (resetStore r.enabled r.generation) r.source) := by
    unfold StartOk at hstart
    unfold InitReads.source at hstart ⊢
    split_ifs at hstart ⊢
    · exact InitReads.legacySource_inv hreset hstart
    · exact InitReads.v2Source_inv hreset hstart
  have hloaded := (SameHistory.initLoaded (resetStore r.enabled r.generation) r).inv hsource
  have hempty : ∀ t, SameHistory (resetStore r.enabled r.generation) t → RouteInv t :=
    fun t ht => ht.inv hreset
  unfold initStore
  dsimp only
  split_ifs
  · exact hempty _ ⟨rfl, rfl, rfl, rfl⟩
  · exact hempty _ ⟨rfl, rfl, rfl, rfl⟩
  · exact hempty _ ⟨rfl, rfl, rfl, rfl⟩
  · exact hempty _ ⟨rfl, rfl, rfl, rfl⟩
  · exact hloaded

section Steps

variable {s : RouteStore} {nowMs : Nat}

theorem RouteInv.observe (h : RouteInv s) {a : ObservationArgs} {persist lockTaken : Bool}
    (hok : RouteOpOk s (.observe a persist lockTaken nowMs)) :
    RouteInv (upsertObservation s a persist lockTaken nowMs).1 := by
  unfold upsertObservation
  cases hargs : acceptedTarget a with
  | none => exact h
  | some target =>
    dsimp only
    cases lockTaken with
    | false => exact h
    | true =>
      cases hloaded : s.loaded with
      | false => exact h
      | true =>
        cases persist with
        | true => exact h.upsertPersistent hargs (hok target hargs rfl hloaded rfl) nowMs
        | false =>
          exact SameHistory.inv (s := s) ⟨rfl, rfl, rfl, rfl⟩ h

theorem RouteInv.reconcileRows (h : RouteInv s) {primary : RouteBlob}
    (hvalid : blobIsValid primary = true) (isV2 : Bool) (hok : CardOk s primary) :
    RouteInv (reconcileRows s primary isV2) := by
  unfold CardOk at hok
  unfold Route.reconcileRows
  cases hbranch : reconcileBranch s primary with
  | adopt =>
    simp only [hbranch] at hok
    exact SameHistory.inv (s := adoptPrimaryWithLiveOverlay s primary) ⟨rfl, rfl, rfl, rfl⟩
      (h.adopt hvalid hok)
  | merge =>
    simp only [hbranch] at hok
    exact SameHistory.inv (s := (mergePrimaryEntries s primary).1) ⟨rfl, rfl, rfl, rfl⟩
      ((mergePrimaryEntries_inv_iff h hvalid).mpr hok)
  | load =>
    simp only [hbranch] at hok
    exact SameHistory.inv (s := loadValidBlobIntoRam s primary) ⟨rfl, rfl, rfl, rfl⟩
      ⟨writable_of_blobIsValid hvalid s, hok⟩
  | keep => exact SameHistory.inv (s := s) ⟨rfl, rfl, rfl, rfl⟩ h

theorem RouteInv.reconcile (h : RouteInv s) {reads : ReconcileReads}
    (hok : RouteOpOk s (.reconcile reads nowMs)) :
    RouteInv (reconcileSdPrimary s reads nowMs).1 := by
  have hfailed : ∀ error, RouteInv (noteSdReconcileFailure s error nowMs) := fun error =>
    (SameHistory.noteSdReconcileFailure s error nowMs).inv h
  unfold reconcileSdPrimary
  cases hbefore : reads.matchesBefore with
  | false => exact hfailed _
  | true =>
    cases hread : readPrimary reads.full reads.legacy with
    | unfinished => exact h
    | failed error => exact hfailed error
    | notFound =>
      cases hafter : reads.matchesAfter with
      | false => exact hfailed _
      | true => exact (SameHistory.reconcileNotFound s nowMs).inv h
    | found primary isV2 =>
      cases hafter : reads.matchesAfter with
      | false => exact hfailed _
      | true =>
        have hrows := h.reconcileRows (readPrimary_valid hread) isV2
          (hok primary isV2 hread hbefore hafter)
        exact (SameHistory.reconcileFound s primary isV2 nowMs).inv hrows

theorem RouteInv.clearFinish (h : RouteInv s) {sdPrimaryRequired : Bool}
    {generation clearRevision : Nat} {results : ClearResults}
    (hok : RouteOpOk s (.clear sdPrimaryRequired generation clearRevision nowMs results)) :
    RouteInv (clearFinish s sdPrimaryRequired generation clearRevision (u32Succ s.epoch) nowMs
      results).1 := by
  unfold Route.clearFinish
  by_cases hdone : results.ret = espOk ∧ s.revision = clearRevision
  · rw [if_pos hdone]
    have hepoch : u32Succ s.epoch = s.epoch + 1 := u32Succ_of_lt (hok hdone.1 hdone.2)
    have hempty := writable_resetStore sdPrimaryRequired generation
    refine ⟨⟨?_, Nat.one_pos, Nat.zero_le _, hempty.sound⟩, List.nodup_nil⟩
    change 0 < u32Succ s.epoch
    omega
  · rw [if_neg hdone]
    exact SameHistory.inv (s := s) ⟨rfl, rfl, rfl, rfl⟩ h

theorem RouteInv.step (h : RouteInv s) {op : RouteOp} (hok : RouteOpOk s op) :
    RouteInv (stepRoute s op) := by
  cases op with
  | observe a persist lockTaken nowMs => exact h.observe hok
  | clearTarget target nowMs retire => exact h.clearTarget target nowMs retire
  | reconcile reads nowMs => exact h.reconcile hok
  | persistBegin required generation nowMs force =>
    exact (SameHistory.persistBegin s required generation nowMs force).inv h
  | collect required => exact (SameHistory.takeSnapshot s required).inv h
  | persistFinish snapshot required sdRet nvsRet changed nowMs =>
    exact (SameHistory.persistFinish s snapshot required sdRet nvsRet changed nowMs).inv h
  | fallbackFinish snapshot required nvsRet =>
    exact (SameHistory.fallbackFinish s snapshot required nvsRet).inv h
  | clear required generation clearRevision nowMs results => exact h.clearFinish hok

end Steps

structure ReadBack (s : RouteStore) : Prop where
  full : blobIsValid (fillBlob s) = true
  fallback : fallbackBlobIsValid (fillFallbackBlob s) = true
  oneEach : (s.entries.map RouteEntry.identity).Nodup

theorem RouteInv.readBack {s : RouteStore} (h : RouteInv s) : ReadBack s where
  full := (blobIsValid_fillBlob h.writable.bounded).mpr h.writable
  fallback := h.writable.fallback
  oneEach := h.oneEach

/-- Along every run from a history with one row for each identity, while every step meets its
condition, both blobs are accepted back. -/
theorem run_reads_back (r : InitReads) (ops : List RouteOp) (hstart : StartOk r)
    (hok : RunOk stepRoute RouteOpOk (initStore r).1 ops) :
    ReadBack (runSteps stepRoute (initStore r).1 ops) :=
  RouteInv.readBack (run_invariant (fun _ _ hs hop => hs.step hop) hok (initStore_inv hstart))

def emptyReads : InitReads where
  enabled := false
  generation := 0
  compact := .error espErrNotFound
  sd := .error espErrNotFound
  legacyNvs := .error espErrNotFound
  legacySd := .error espErrNotFound
  generationMatches := true
  nowMs := 0

/-- An observation of the target `A`. -/
def observeA (kind : Option CStr) : ObservationArgs where
  target := some (.lit [65])
  label := none
  kind := kind
  route := none
  direction := some rxArg
  rssiDbm := -90
  snrTenths := 50
  pathHashBytes := 1
  pathHops := 2
  payloadLen := 20

def cardRow (name : UInt8) (hname : 0 ∉ [name]) (seq : Nat) : RouteEntry :=
  writeObservation (blankEntry 0) ⟨[name], hname⟩ (observeA (some packetArg)) seq 0

/-- A card of the first epoch with rows for `X` and `Y`. -/
def cardXY (nextSeq totalWritten : Nat) : RouteBlob :=
  ⟨routeStoreFullSchema, 1, nextSeq, totalWritten, 0,
    [cardRow 88 (by decide) 1, cardRow 89 (by decide) 2]⟩

def lateCard (card : RouteBlob) : RouteOp :=
  .reconcile ⟨.ok (some card), .error espErrNotFound, true, true⟩ 10

def observeTwice (kind : Option CStr) : List RouteOp :=
  [.observe (observeA kind) true true 1, .observe (observeA kind) true true 2]

theorem emptyReads_start : StartOk emptyReads := by
  intro blob hblob
  have hnone : emptyReads.source.blob = none := by decide +kernel
  cases hnone.symm.trans hblob

theorem run_reads_back_adopted :
    ReadBack (runSteps stepRoute (initStore emptyReads).1
      [.observe (observeA (some packetArg)) true true 1, lateCard (cardXY 8 7),
        .clearTarget (some ⟨[88], by decide⟩) 20 espOk]) := by
  refine run_reads_back emptyReads _ emptyReads_start ⟨?_, ?_, trivial, trivial⟩
  · intro target htarget _ _ _
    have hA : acceptedTarget (observeA (some packetArg)) = some ⟨[65], by decide⟩ := by decide +kernel
    obtain rfl := Option.some.inj (htarget.symm.trans hA)
    exact ⟨by decide +kernel, by decide +kernel, by decide +kernel, by decide +kernel⟩
  · intro primary isV2 hread _ _
    have hcard : readPrimary (.ok (some (cardXY 8 7))) (.error espErrNotFound) =
        .found (cardXY 8 7) true := by
      decide +kernel
    obtain ⟨rfl, -⟩ := PrimaryRead.found.inj (hcard.symm.trans hread)
    have hbranch : reconcileBranch (stepRoute (initStore emptyReads).1
        (.observe (observeA (some packetArg)) true true 1)) (cardXY 8 7) = .adopt := by
      decide +kernel
    unfold CardOk
    rw [hbranch]
    exact ⟨by decide +kernel, by decide +kernel, by decide +kernel⟩

/-- The store meets a card of its own epoch that counts as many observations: the card's rows are
taken over under their old sequence numbers. -/
theorem merged_card_is_refused :
    ¬ ∀ r ops, StartOk r → ReadBack (runSteps stepRoute (initStore r).1 ops) := by
  intro h
  have hback := h emptyReads (observeTwice (some packetArg) ++ [lateCard (cardXY 3 2)])
    emptyReads_start
  have hrefused : blobIsValid (fillBlob (runSteps stepRoute (initStore emptyReads).1
      (observeTwice (some packetArg) ++ [lateCard (cardXY 3 2)]))) = false := by
    decide +kernel
  exact absurd (hback.full.symm.trans hrefused) (by decide)

theorem unnamed_kind_is_stored_twice :
    ¬ ((runSteps stepRoute (initStore emptyReads).1 (observeTwice none)).entries.map
      RouteEntry.identity).Nodup := by
  decide +kernel

end Sigui.Route

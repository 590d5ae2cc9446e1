import Sigui.RoutePersist

/-! A clear of the route store on given contents of its keys, when every backend accepts
everything. The store is SD-only, so what it writes to an NVS key only retires that key. -/
namespace Sigui.Route

/-- The content of one key: absent, of another size than its reader expects, or a blob. -/
abbrev KeyContent (β : Type) := Option (Option β)

structure RouteDevice where
  store : RouteStore
  enabled : Bool
  generation : Nat
  sdFull : KeyContent RouteBlob
  sdLegacy : KeyContent RouteLegacyBlob
  compact : KeyContent RouteBlob
  nvsLegacy : KeyContent RouteLegacyBlob

def keyRead {β : Type} : KeyContent β → BlobRead β
  | none => .error espErrNotFound
  | some image => .ok image

def RouteDevice.reads (d : RouteDevice) (nowMs : Nat) : InitReads where
  enabled := d.enabled
  generation := d.generation
  compact := keyRead d.compact
  sd := keyRead d.sdFull
  legacyNvs := keyRead d.nvsLegacy
  legacySd := keyRead d.sdLegacy
  generationMatches := true
  nowMs := nowMs

/-- `ensure_route_store_initialized` -/
def ensureInitialized (d : RouteDevice) (nowMs : Nat) : RouteDevice × EspErr :=
  if d.store.loaded then (d, espOk)
  else
    let (store, ret) := initStore (d.reads nowMs)
    ({ d with store := store }, ret)

def clearAccepted : ClearResults := ⟨espOk, espOk, espOk, espOk, espOk, espOk⟩

/-- `d1l_route_store_clear`, with every erase and write accepted. -/
def clearStore (d : RouteDevice) (nowMs : Nat) : RouteDevice × EspErr :=
  let (d, initRet) := ensureInitialized d nowMs
  if initRet ≠ espOk then (d, initRet)
  else
    let epoch := u32Succ d.store.epoch
    let (store, ret) :=
      clearFinish d.store d.enabled d.generation d.store.revision epoch nowMs clearAccepted
    ({ d with
        store := store
        sdFull := if d.enabled then some (some (clearPrimary epoch)) else d.sdFull
        sdLegacy := if d.enabled then none else d.sdLegacy
        compact := none
        nvsLegacy := none }, ret)

/-- Clear succeeds, leaves nothing, and a later init succeeds as well. -/
def ClearRecovers (d : RouteDevice) (nowMs laterMs : Nat) : Prop :=
  (clearStore d nowMs).2 = espOk ∧ (clearStore d nowMs).1.store.entries = [] ∧
    (clearStore d nowMs).1.store.volatileEntry = none ∧
    (initStore ((clearStore d nowMs).1.reads laterMs)).2 = espOk

def StartsReadable (d : RouteDevice) : Prop :=
  readProblem (d.reads 0).compact (d.reads 0).compactValid = false ∧ initRefused (d.reads 0) = false

def clearedEpoch (d : RouteDevice) : Nat :=
  if d.store.loaded then d.store.epoch
  else
    match (d.reads 0).source.blob with
    | some blob => blob.epoch
    | none => 1

theorem readError_keyRead {β : Type} {content : KeyContent β} {valid : Option β}
    (h : readProblem (keyRead content) valid = true) : readError (keyRead content) = espOk := by
  cases content with
  | none => exact absurd h (by simp [readProblem, keyRead])
  | some image => rfl

theorem initStore_ok_iff (d : RouteDevice) (nowMs : Nat) :
    (initStore (d.reads nowMs)).2 = espOk ↔ StartsReadable d := by
  have hproblem : readProblem (d.reads nowMs).compact (d.reads nowMs).compactValid =
      readProblem (d.reads 0).compact (d.reads 0).compactValid := rfl
  have hrefused : initRefused (d.reads nowMs) = initRefused (d.reads 0) := rfl
  unfold initStore
  dsimp only
  rw [hproblem, hrefused]
  by_cases hcompact : readProblem (d.reads 0).compact (d.reads 0).compactValid = true
  · rw [if_pos hcompact]
    refine ⟨fun h => absurd h ?_, fun h => absurd (h.1.symm.trans hcompact) Bool.false_ne_true⟩
    have herror := readError_keyRead hcompact
    have hkeyRead : (d.reads nowMs).compact = keyRead d.compact := rfl
    rw [hkeyRead]
    cases hread : keyRead d.compact with
    | ok image => exact (by decide : espErrInvalidState ≠ espOk)
    | error error =>
      cases hkey : d.compact with
      | none =>
        rw [hkey] at hread
        cases hread
        exact (by decide : espErrNotFound ≠ espOk)
      | some image =>
        rw [hkey] at hread
        cases hread
  · rw [if_neg hcompact]
    have hmatches : ((d.reads nowMs).enabled && !(d.reads nowMs).generationMatches) = false :=
      Bool.and_false _
    rw [hmatches, if_neg Bool.false_ne_true]
    by_cases hrefuse : initRefused (d.reads 0) = true
    · rw [if_pos hrefuse]
      refine ⟨fun h => absurd h ?_, fun h => absurd (h.2.symm.trans hrefuse) Bool.false_ne_true⟩
      -- a key that is there was read without an error
      have hfull : (sdV2Problem (d.reads nowMs) && decide (readError (d.reads nowMs).sdRead ≠ espOk)) =
          false := by
        by_contra hp
        rw [Bool.not_eq_false, Bool.and_eq_true, decide_eq_true_eq, sdV2Problem,
          Bool.and_eq_true] at hp
        obtain ⟨⟨he, hp⟩, hne⟩ := hp
        have hsd : (d.reads nowMs).sdRead = keyRead d.sdFull := if_pos he
        rw [hsd] at hp hne
        exact hne (readError_keyRead hp)
      have hlegacy : (sdLegacyProblem (d.reads nowMs) &&
          decide (readError (d.reads nowMs).legacySdRead ≠ espOk)) = false := by
        by_contra hp
        rw [Bool.not_eq_false, Bool.and_eq_true, decide_eq_true_eq, sdLegacyProblem,
          Bool.and_eq_true] at hp
        obtain ⟨⟨he, hp⟩, hne⟩ := hp
        have hsd : (d.reads nowMs).legacySdRead = keyRead d.sdLegacy := if_pos he
        rw [hsd] at hp hne
        exact hne (readError_keyRead hp)
      have hnvs : (nvsLegacyProblem (d.reads nowMs) &&
          decide (readError (d.reads nowMs).legacyNvs ≠ espOk)) = false := by
        by_contra hp
        rw [Bool.not_eq_false, Bool.and_eq_true, decide_eq_true_eq] at hp
        exact hp.2 (readError_keyRead hp.1)
      change refusedError (d.reads nowMs) ≠ espOk
      unfold refusedError
      rw [hfull, hlegacy, hnvs, if_neg Bool.false_ne_true, if_neg Bool.false_ne_true,
        if_neg Bool.false_ne_true]
      decide
    · rw [if_neg hrefuse]
      exact ⟨fun _ => ⟨Bool.eq_false_iff.mpr hcompact, Bool.eq_false_iff.mpr hrefuse⟩, fun _ => rfl⟩

theorem initStore_loaded {d : RouteDevice} (h : StartsReadable d)
    (hunloaded : d.store.loaded = false) (nowMs : Nat) :
    (initStore (d.reads nowMs)).1.epoch = clearedEpoch d ∧
      (initStore (d.reads nowMs)).1.loaded = true := by
  have hstore : (initStore (d.reads nowMs)).1 =
      initLoaded (resetStore d.enabled d.generation) (d.reads nowMs) := by
    have hproblem : readProblem (d.reads nowMs).compact (d.reads nowMs).compactValid = false := h.1
    have hmatches : ((d.reads nowMs).enabled && !(d.reads nowMs).generationMatches) = false :=
      Bool.and_false _
    have hrefused : initRefused (d.reads nowMs) = false := h.2
    rw [initStore]
    dsimp only
    rw [hproblem, if_neg Bool.false_ne_true, hmatches, if_neg Bool.false_ne_true, hrefused,
      if_neg Bool.false_ne_true]
    rfl
  rw [hstore]
  refine ⟨?_, rfl⟩
  have hdirty : ∀ (s : RouteStore) (dirty : Bool) (n : Nat), (noteDirtyIf s dirty n).epoch =
      s.epoch := by
    intro s dirty n
    cases dirty <;> rfl
  have hepoch : (initLoaded (resetStore d.enabled d.generation) (d.reads nowMs)).epoch =
      (loadSource (resetStore d.enabled d.generation) (d.reads nowMs).source).epoch :=
    hdirty _ _ _
  have hsource : (d.reads nowMs).source = (d.reads 0).source := rfl
  rw [hepoch, hsource, clearedEpoch, hunloaded, if_neg Bool.false_ne_true]
  cases (d.reads 0).source <;> rfl

theorem clearFinish_accepted (s : RouteStore) (required : Bool) (generation epoch nowMs : Nat) :
    (clearFinish s required generation s.revision epoch nowMs clearAccepted).2 = espOk ∧
      (clearFinish s required generation s.revision epoch nowMs clearAccepted).1.entries = [] ∧
      (clearFinish s required generation s.revision epoch nowMs clearAccepted).1.volatileEntry =
        none := by
  have hret : clearAccepted.ret = espOk := by decide
  rw [clearFinish, if_pos ⟨hret, rfl⟩]
  exact ⟨rfl, rfl, rfl⟩

theorem startsReadable_cleared {d : RouteDevice} (hcompact : d.compact = none)
    (hnvs : d.nvsLegacy = none) {epoch : Nat}
    (hfull : d.enabled = true → d.sdFull = some (some (clearPrimary epoch)))
    (hlegacy : d.enabled = true → d.sdLegacy = none) :
    StartsReadable d ↔ (d.enabled = true → epoch ≠ 0) := by
  obtain ⟨store, enabled, generation, sdFull, sdLegacy, compact, nvsLegacy⟩ := d
  obtain rfl : compact = none := hcompact
  obtain rfl : nvsLegacy = none := hnvs
  cases enabled with
  | false => exact ⟨fun _ h => absurd h Bool.false_ne_true, fun _ => ⟨rfl, rfl⟩⟩
  | true =>
    obtain rfl : sdFull = some (some (clearPrimary epoch)) := hfull rfl
    obtain rfl : sdLegacy = none := hlegacy rfl
    have hvalid : blobIsValid (clearPrimary epoch) = decide (0 < epoch) := by
      rw [Bool.eq_iff_iff]
      simp [blobIsValid, clearPrimary, persistedRouteEntriesAreValid, routeStoreCapacity]
      exact decide_eq_true_iff
    rcases Nat.eq_zero_or_pos epoch with rfl | hpos
    · have hrefused : initRefused (RouteDevice.reads ⟨store, true, generation,
          some (some (clearPrimary 0)), none, none, none⟩ 0) = true := rfl
      exact ⟨fun h => absurd (h.2.symm.trans hrefused) Bool.false_ne_true,
        fun h => absurd rfl (h rfl)⟩
    · refine ⟨fun _ _ => hpos.ne', fun _ => ⟨rfl, ?_⟩⟩
      have hread : validImage blobIsValid (.ok (some (clearPrimary epoch))) =
          some (clearPrimary epoch) := by
        rw [validImage, hvalid, decide_eq_true hpos, if_pos rfl]
      have hsd : (RouteDevice.reads ⟨store, true, generation, some (some (clearPrimary epoch)),
          none, none, none⟩ 0).sdValid = some (clearPrimary epoch) := hread
      have hv2 : (RouteDevice.reads ⟨store, true, generation, some (some (clearPrimary epoch)),
          none, none, none⟩ 0).v2Source = .sdV2 (clearPrimary epoch) := by
        rw [InitReads.v2Source, hsd]
        rfl
      have hold : (RouteDevice.reads ⟨store, true, generation, some (some (clearPrimary epoch)),
          none, none, none⟩ 0).legacySource = .noSource := rfl
      have hnvsFine : nvsLegacyProblem (RouteDevice.reads ⟨store, true, generation,
          some (some (clearPrimary epoch)), none, none, none⟩ 0) = false := rfl
      rw [initRefused, InitReads.source, hv2, hold, hnvsFine]
      rfl

theorem clearRecovers_iff (d : RouteDevice) (nowMs laterMs : Nat) :
    ClearRecovers d nowMs laterMs ↔
      (d.store.loaded = false → StartsReadable d) ∧
        (d.enabled = true → u32Succ (clearedEpoch d) ≠ 0) := by
  -- a clear that gets past init
  have hcleared : ∀ (d' : RouteDevice), ensureInitialized d nowMs = (d', espOk) →
      d'.enabled = d.enabled →
      (ClearRecovers d nowMs laterMs ↔ (d.enabled = true → u32Succ d'.store.epoch ≠ 0)) := by
    intro d' hensure henabled
    obtain ⟨hret, hrows, hvolatile⟩ := clearFinish_accepted d'.store d'.enabled d'.generation
      (u32Succ d'.store.epoch) nowMs
    have hclear : clearStore d nowMs = ({ d' with
        store := (clearFinish d'.store d'.enabled d'.generation d'.store.revision
          (u32Succ d'.store.epoch) nowMs clearAccepted).1
        sdFull := if d'.enabled then some (some (clearPrimary (u32Succ d'.store.epoch)))
          else d'.sdFull
        sdLegacy := if d'.enabled then none else d'.sdLegacy
        compact := none
        nvsLegacy := none }, espOk) := by
      rw [clearStore, hensure]
      dsimp only
      rw [if_neg (by decide)]
      exact Prod.ext rfl hret
    rw [ClearRecovers, hclear]
    dsimp only
    rw [initStore_ok_iff, @startsReadable_cleared _ rfl rfl (u32Succ d'.store.epoch)
      (fun h => if_pos h) fun h => if_pos h]
    rw [← henabled]
    exact ⟨fun h => h.2.2.2, fun h => ⟨rfl, hrows, hvolatile, h⟩⟩
  cases hloaded : d.store.loaded with
  | true =>
    have hensure : ensureInitialized d nowMs = (d, espOk) := if_pos hloaded
    have hepoch : clearedEpoch d = d.store.epoch := if_pos hloaded
    rw [hcleared d hensure rfl, hepoch]
    exact ⟨fun h => ⟨fun hne => absurd hne Bool.noConfusion, h⟩, fun h => h.2⟩
  | false =>
    have hensure : ensureInitialized d nowMs =
        ({ d with store := (initStore (d.reads nowMs)).1 }, (initStore (d.reads nowMs)).2) := by
      rw [ensureInitialized, hloaded, if_neg Bool.false_ne_true]
    by_cases hread : StartsReadable d
    · have hret := (initStore_ok_iff d nowMs).mpr hread
      rw [hret] at hensure
      rw [hcleared _ hensure rfl, (initStore_loaded hread hloaded nowMs).1]
      exact ⟨fun h => ⟨fun _ => hread, h⟩, fun h => h.2⟩
    · refine ⟨fun h => ?_, fun h => absurd (h.1 rfl) hread⟩
      have hne : (initStore (d.reads nowMs)).2 ≠ espOk := fun h =>
        hread ((initStore_ok_iff d nowMs).mp h)
      have hclear : (clearStore d nowMs).2 = (initStore (d.reads nowMs)).2 := by
        rw [clearStore, hensure]
        dsimp only
        rw [if_pos hne]
      exact absurd (hclear ▸ h.1) hne

end Sigui.Route

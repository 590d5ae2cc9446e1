import Sigui.ContactPersist

/-! What a clear comes to when every backend accepts everything. A store that is not loaded is
initialised first, so an image that init refuses keeps the clear from happening. -/
namespace Sigui.Contact

theorem readKey_espOk (content : Option ContactImage) : readKey espOk content = .ok content :=
  if_pos (.inl rfl)

def workedCard (d : ContactDevice) (work : CardWork) : Option ContactImage :=
  if work.eraseNeeded then none
  else if work.writeNeeded then some (.current (fillBlob d.store))
  else d.card

theorem commitWork_accepted (d : ContactDevice) (work : CardWork) :
    commitWork d work .accepted = ({ d with
      card := workedCard d work, nvs := none
      store := { d.store with lastPersistDurable := true } }, espOk) := by
  obtain ⟨write, erase⟩ := work
  cases erase <;> cases write <;> simp [commitWork, workCard, workedCard, PersistIo.accepted]

theorem persistStore_disabled {d : ContactDevice} (h : d.enabled = false) (io : PersistIo) :
    persistStore d io = ({ d with
      store := { acceptGeneration { d.store with lastPersistDurable := false } false d.generation with
        sdReconcilePending := true } }, espOk) := by
  rw [persistStore, h]
  rfl

theorem persistStore_own {d : ContactDevice} (h : d.enabled = true)
    (hgen : d.generation = d.store.acceptedSdBackendGeneration)
    (hpending : d.store.sdReconcilePending = false) :
    persistStore d .accepted = ({ d with
      card := workedCard d (ownWork d.store), nvs := none
      store := { d.store with lastPersistDurable := true } }, espOk) := by
  rw [persistStore, h]
  dsimp only
  rw [acceptGeneration, if_pos hgen, hpending, Bool.not_true, if_neg Bool.false_ne_true,
    if_neg Bool.false_ne_true]
  dsimp only
  rw [commitWork_accepted]
  obtain ⟨store, enabled, generation, card, nvs⟩ := d
  obtain rfl : enabled = true := h
  rfl

/-- The store at the reconcile, when the card has to be read first. -/
def reconciling (d : ContactDevice) : ContactStore :=
  acceptGeneration { d.store with lastPersistDurable := false } d.enabled d.generation

theorem persistStore_reconcile {d : ContactDevice} (h : d.enabled = true)
    (hpending : (reconciling d).sdReconcilePending = true) (io : PersistIo) :
    persistStore d io =
      match reconcileSdPrimary (reconciling d) d.card io with
      | (s, .error error) => ({ d with store := s }, error)
      | (s, .ok work) => commitWork { d with store := s } work io := by
  have hs : acceptGeneration { d.store with lastPersistDurable := false } d.enabled d.generation =
      reconciling d := rfl
  rw [persistStore]
  dsimp only
  rewrite [hs, h, hpending, Bool.not_true, if_neg Bool.false_ne_true, if_pos rfl]
  rfl

def startImage (d : ContactDevice) : Option (ContactImage × Bool) :=
  match d.enabled, d.card with
  | true, some image => some (image, true)
  | _, _ => d.nvs.map (·, false)

/-- Init starts from nothing, or from an image of one of the seven layouts that is well formed. -/
def StartsReadable (d : ContactDevice) : Prop :=
  ∀ image fromSd, startImage d = some (image, fromSd) → (acceptImage image).isSome = true

theorem initRead_accepted (d : ContactDevice) (nowMs : Nat) :
    initRead d (.accepted nowMs) = .ok (startImage d) := by
  obtain ⟨store, enabled, generation, card, nvs⟩ := d
  cases enabled <;> cases card <;> cases nvs <;>
    simp [initRead, startImage, InitIo.accepted, readKey_espOk]

structure Ready (d : ContactDevice) : Prop where
  loaded : d.store.loaded = true
  revision : d.store.persistenceRevision = 0
  generation : d.enabled = true → d.generation = d.store.acceptedSdBackendGeneration
  settled : d.enabled = true → d.store.sdReconcilePending = false

theorem reading_generation (s : ContactStore) (rows : List ContactEntry) :
    (rows.foldl rememberTouchedRow s).acceptedSdBackendGeneration =
      s.acceptedSdBackendGeneration ∧
    (rows.foldl rememberTouchedRow s).persistenceRevision = s.persistenceRevision := by
  induction rows generalizing s with
  | nil => exact ⟨rfl, rfl⟩
  | cons e rows ih =>
    rw [List.foldl_cons]
    have hrow : (rememberTouchedRow s e).acceptedSdBackendGeneration =
          s.acceptedSdBackendGeneration ∧
        (rememberTouchedRow s e).persistenceRevision = s.persistenceRevision := by
      unfold rememberTouchedRow rememberTouchedFingerprint
      split_ifs <;> exact ⟨rfl, rfl⟩
    exact ⟨(ih _).1.trans hrow.1, (ih _).2.trans hrow.2⟩

theorem initPersist_accepted {d : ContactDevice} {fromSd : Bool} (nowMs : Nat)
    (hgen : d.generation = d.store.acceptedSdBackendGeneration)
    (hrevision : d.store.persistenceRevision = 0)
    (hcard : d.enabled = true → fromSd = false → d.card = none) :
    ∃ d', initPersist d fromSd (.accepted nowMs) = (d', espOk) ∧
      d'.store.persistenceRevision = 0 ∧ d'.enabled = d.enabled ∧ d'.generation = d.generation ∧
      (d.enabled = false → d'.nvs = d.nvs) ∧
      (d.enabled = true → d'.generation = d'.store.acceptedSdBackendGeneration ∧
        d'.store.sdReconcilePending = false) := by
  let edited : ContactStore := { d.store with mutationAuthority := .localMutation }
  let s : ContactStore := if fromSd then edited else rememberAllCurrentFingerprints edited
  have hs : s.acceptedSdBackendGeneration = d.store.acceptedSdBackendGeneration ∧
      s.persistenceRevision = 0 := by
    cases fromSd
    · have hread := reading_generation edited edited.entries
      exact ⟨hread.1, hread.2.trans hrevision⟩
    · exact ⟨rfl, hrevision⟩
  let ready : ContactDevice := { d with store := { markDeferredPersistence s nowMs with
    sdReconcilePending := d.enabled && !fromSd } }
  have hready : ready.generation = ready.store.acceptedSdBackendGeneration :=
    hgen.trans hs.1.symm
  have hunfold : initPersist d fromSd (.accepted nowMs) =
      let persisted := persistStore ready .accepted
      if persisted.2 = espOk ∧ persisted.1.store.lastPersistDurable = true then
        ({ persisted.1 with store := settleDurable persisted.1.store }, persisted.2)
      else persisted := rfl
  rw [hunfold]
  cases henabled : d.enabled with
  | false =>
    rw [persistStore_disabled (d := ready) henabled]
    have hkept : acceptGeneration { ready.store with lastPersistDurable := false } false
        ready.generation = { ready.store with lastPersistDurable := false } := if_pos hready
    rw [hkept]
    dsimp only
    rw [if_neg fun h => absurd h.2 Bool.false_ne_true]
    exact ⟨_, rfl, hs.2, henabled, rfl, fun _ => rfl, fun h => absurd h Bool.false_ne_true⟩
  | true =>
    have henabled' : ready.enabled = true := henabled
    cases hfrom : fromSd with
    | true =>
      have hpending : ready.store.sdReconcilePending = false := by
        change (d.enabled && !fromSd) = false
        rw [hfrom, Bool.not_true, Bool.and_false]
      rw [persistStore_own henabled' hready hpending]
      dsimp only
      rw [if_pos ⟨rfl, rfl⟩]
      exact ⟨_, rfl, hs.2, henabled, rfl, fun h => absurd h Bool.noConfusion,
        fun _ => ⟨hready, hpending⟩⟩
    | false =>
      have hcard' : ready.card = none := hcard henabled hfrom
      have hkept : reconciling ready = { ready.store with lastPersistDurable := false } :=
        if_pos hready
      have hpending : (reconciling ready).sdReconcilePending = true := by
        rw [hkept]
        change (d.enabled && !fromSd) = true
        rw [henabled, hfrom]
        rfl
      rw [persistStore_reconcile henabled' hpending, hcard', reconcileSdPrimary]
      have hread : readCurrentSdBlob none .accepted = .ok none := rfl
      rw [hread]
      dsimp only
      rw [commitWork_accepted]
      dsimp only
      rw [if_pos ⟨rfl, rfl⟩]
      refine ⟨_, rfl, ?_, henabled, rfl, fun h => absurd h Bool.noConfusion, fun _ => ⟨?_, rfl⟩⟩
      · rw [hkept]
        exact hs.2
      · rw [hkept]
        exact hready

theorem initBody_accepted (d : ContactDevice) (nowMs : Nat) :
    initBody d (.accepted nowMs) =
      match startImage d with
      | none => ({ d with store := resetStore d.generation }, espOk)
      | some (image, fromSd) =>
        match acceptImage image with
        | none => ({ d with store := resetStore d.generation }, refusedImage image)
        | some (blob, migrated) =>
          let read := { d with store := restoreBlob (resetStore d.generation) blob }
          if migrated || !fromSd then initPersist read fromSd (.accepted nowMs)
          else (read, espOk) := by
  rw [initBody, initRead_accepted]
  rcases startImage d with _ | ⟨image, fromSd⟩
  · rfl
  · dsimp only
    rcases acceptImage image with _ | ⟨blob, migrated⟩ <;> rfl

theorem startImage_nvs {d : ContactDevice} {image : ContactImage}
    (h : startImage d = some (image, false)) (henabled : d.enabled = true) : d.card = none := by
  obtain ⟨store, enabled, generation, card, nvs⟩ := d
  obtain rfl : enabled = true := henabled
  cases card with
  | none => rfl
  | some i => simp [startImage] at h

theorem refusedImage_ne (image : ContactImage) : refusedImage image ≠ espOk := by
  unfold refusedImage
  split_ifs <;> decide

theorem initStore_accepted (d : ContactDevice) (nowMs : Nat) :
    (StartsReadable d ∧ ∃ d', initStore d (.accepted nowMs) = (d', espOk) ∧ Ready d' ∧
      d'.enabled = d.enabled ∧ (d.enabled = false → d'.nvs = d.nvs)) ∨
    (¬StartsReadable d ∧ (initStore d (.accepted nowMs)).2 ≠ espOk) := by
  have hinit : ∀ d₁, initBody d (.accepted nowMs) = (d₁, espOk) →
      initStore d (.accepted nowMs) = ({ d₁ with store := { d₁.store with loaded := true } }, espOk) :=
    fun d₁ h => by rw [initStore, h]; rfl
  have hready : ∀ d₁ : ContactDevice, d₁.store.persistenceRevision = 0 →
      (d₁.enabled = true → d₁.generation = d₁.store.acceptedSdBackendGeneration ∧
        d₁.store.sdReconcilePending = false) →
      Ready { d₁ with store := { d₁.store with loaded := true } } :=
    fun d₁ hrevision h => ⟨rfl, hrevision, fun he => (h he).1, fun he => (h he).2⟩
  have hbody := initBody_accepted d nowMs
  cases hstart : startImage d with
  | none =>
    rw [hstart] at hbody
    refine .inl ⟨fun image fromSd h => (nomatch h.symm.trans hstart), _, hinit _ hbody, ?_, rfl,
      fun _ => rfl⟩
    exact hready _ rfl fun _ => ⟨rfl, rfl⟩
  | some start =>
    obtain ⟨image, fromSd⟩ := start
    rw [hstart] at hbody
    dsimp only at hbody
    cases haccept : acceptImage image with
    | none =>
      rw [haccept] at hbody
      refine .inr ⟨fun h => ?_, ?_⟩
      · have hsome := h image fromSd hstart
        rw [haccept] at hsome
        exact Bool.false_ne_true hsome
      · rw [initStore, hbody]
        exact refusedImage_ne image
    | some read =>
      obtain ⟨blob, migrated⟩ := read
      rw [haccept] at hbody
      dsimp only at hbody
      have hreadable : StartsReadable d := by
        intro image' fromSd' h
        obtain ⟨rfl, rfl⟩ := Prod.mk.inj (Option.some.inj (hstart.symm.trans h))
        rw [haccept]
        rfl
      by_cases hpersist : (migrated || !fromSd) = true
      · rw [if_pos hpersist] at hbody
        obtain ⟨d₁, hd₁, hrevision, henabled, -, hnvs, hsettled⟩ :=
          @initPersist_accepted { d with store := restoreBlob (resetStore d.generation) blob }
            fromSd nowMs rfl rfl fun he hfrom => startImage_nvs (hfrom ▸ hstart) he
        refine .inl ⟨hreadable, _, hinit _ (hbody.trans hd₁), ?_, henabled, hnvs⟩
        exact hready _ hrevision fun he => hsettled (henabled ▸ he)
      · rw [if_neg hpersist] at hbody
        exact .inl ⟨hreadable, _, hinit _ hbody, hready _ rfl fun _ => ⟨rfl, rfl⟩, rfl, fun _ => rfl⟩

def mustReconcile (d : ContactDevice) : Bool :=
  d.enabled && (decide (d.generation ≠ d.store.acceptedSdBackendGeneration) ||
    d.store.sdReconcilePending)

/-- The card is empty or holds a blob of the current layout that passes its check. -/
def CardIsCurrent (d : ContactDevice) : Prop :=
  ∀ image, d.card = some image → ∃ blob, image = .current blob ∧ blobIsValid blob = true

structure LoadedClears (d : ContactDevice) : Prop where
  revision : d.store.persistenceRevision ≠ uint32Max
  card : mustReconcile d = true → CardIsCurrent d
  nvs : d.enabled = false → StartsReadable d

theorem reconciling_pending (d : ContactDevice) (nowMs : Nat) (s : ContactStore)
    (hgen : s.acceptedSdBackendGeneration = d.store.acceptedSdBackendGeneration)
    (hpending : s.sdReconcilePending = d.store.sdReconcilePending) (he : d.enabled = true) :
    (reconciling { d with store := clearedStore s nowMs }).sdReconcilePending =
      mustReconcile d := by
  have hgen' : ({ clearedStore s nowMs with lastPersistDurable := false } :
      ContactStore).acceptedSdBackendGeneration = d.store.acceptedSdBackendGeneration := hgen
  unfold reconciling acceptGeneration mustReconcile
  rw [he, Bool.true_and]
  by_cases h : d.generation = d.store.acceptedSdBackendGeneration
  · rw [if_pos (h.trans hgen'.symm), decide_eq_false (not_not.mpr h), Bool.false_or]
    exact hpending
  · rw [if_neg fun heq => h (heq.trans hgen'), decide_eq_true h, Bool.true_or]

theorem readCurrentSdBlob_accepted (card : Option ContactImage) :
    readCurrentSdBlob card .accepted = (match card with
      | none => .ok none
      | some (.current blob) =>
        if blobIsValid blob then .ok (some blob) else .error espErrInvalidState
      | some _ => .error espErrInvalidState) := by
  rcases card with _ | image
  · rfl
  · cases image with
    | current blob =>
      simp [readCurrentSdBlob, PersistIo.accepted, readKey_espOk]
    | _ => rfl

theorem reconcile_cleared {s : ContactStore} {card : Option ContactImage}
    (h : s.mutationAuthority = .explicitClear) :
    (∃ work, reconcileSdPrimary s card .accepted =
        ({ s with sdReconcilePending := false }, .ok work) ∧
      work.writeNeeded = false ∧ (card = none ∨ work.eraseNeeded = true) ∧
      ∀ image, card = some image → ∃ blob, image = .current blob ∧ blobIsValid blob = true) ∨
    ((∃ image, card = some image ∧ ¬∃ blob, image = .current blob ∧ blobIsValid blob = true) ∧
      reconcileSdPrimary s card .accepted =
        ({ s with sdReconcilePending := true }, .error espErrInvalidState)) := by
  rw [reconcileSdPrimary, readCurrentSdBlob_accepted]
  rcases card with _ | image
  · refine .inl ⟨⟨false, false⟩, ?_, rfl, .inl rfl, fun image h => nomatch h⟩
    dsimp only
    rw [h]
    rfl
  · cases image with
    | current blob =>
      by_cases hvalid : blobIsValid blob = true
      · dsimp only
        rw [if_pos hvalid]
        dsimp only
        refine .inl ⟨⟨false, true⟩, ?_, rfl, .inr rfl, ?_⟩
        · have hfound : reconcileFound s blob = .ok (s, ⟨false, true⟩) := by
            rw [reconcileFound, h]
          rw [hfound]
          rfl
        · intro image himage
          exact ⟨blob, (Option.some.inj himage).symm, hvalid⟩
      · dsimp only
        rw [if_neg hvalid]
        refine .inr ⟨⟨_, rfl, ?_⟩, rfl⟩
        rintro ⟨blob', hblob, hvalid'⟩
        cases hblob
        exact hvalid hvalid'
    | _ => exact .inr ⟨⟨_, rfl, fun hblob => by obtain ⟨_, hblob, -⟩ := hblob; cases hblob⟩, rfl⟩

/-- Clear succeeds, leaves nothing, and a later init succeeds as well. -/
def ClearRecovers (d : ContactDevice) (nowMs laterMs : Nat) : Prop :=
  (clearStore d (.accepted nowMs)).2 = espOk ∧
    (clearStore d (.accepted nowMs)).1.store.entries = [] ∧
    (initStore (clearStore d (.accepted nowMs)).1 (.accepted laterMs)).2 = espOk

theorem initStore_ok_iff (d : ContactDevice) (nowMs : Nat) :
    (initStore d (.accepted nowMs)).2 = espOk ↔ StartsReadable d := by
  obtain ⟨hread, d', hinit, -⟩ | ⟨hnot, hne⟩ := initStore_accepted d nowMs
  · exact ⟨fun _ => hread, fun _ => by rw [hinit]⟩
  · exact ⟨fun h => absurd h hne, fun h => absurd h hnot⟩

theorem startsReadable_of_erased {d : ContactDevice} (hcard : d.card = none)
    (hnvs : d.nvs = none) : StartsReadable d := by
  have hnone : startImage d = none := by
    rw [startImage, hcard, hnvs]
    cases d.enabled <;> rfl
  exact fun image fromSd h => nomatch hnone.symm.trans h

theorem reserve_false (s : ContactStore) :
    (s.persistenceRevision = uint32Max ∧ reservePersistenceRevision s false = none) ∨
    (s.persistenceRevision ≠ uint32Max ∧ ∃ s', reservePersistenceRevision s false = some s' ∧
      s'.acceptedSdBackendGeneration = s.acceptedSdBackendGeneration ∧
      s'.sdReconcilePending = s.sdReconcilePending) := by
  by_cases h : s.persistenceRevision = uint32Max
  · exact .inl ⟨h, if_pos (.inl h)⟩
  · refine .inr ⟨h, _, if_neg ?_, rfl, rfl⟩
    rintro (hmax | ⟨hcount, -⟩)
    · exact h hmax
    · exact Bool.false_ne_true hcount

theorem clearRecovers_of_erased {d d' : ContactDevice} {nowMs : Nat} (laterMs : Nat)
    (hclear : clearStore d (.accepted nowMs) = (d', espOk)) (hrows : d'.store.entries = [])
    (hcard : d'.card = none) (hnvs : d'.nvs = none) : ClearRecovers d nowMs laterMs := by
  rw [ClearRecovers, hclear]
  exact ⟨rfl, hrows, (initStore_ok_iff _ _).mpr (startsReadable_of_erased hcard hnvs)⟩

theorem clearRecovers_loaded_iff {d : ContactDevice} (hloaded : d.store.loaded = true)
    (nowMs laterMs : Nat) : ClearRecovers d nowMs laterMs ↔ LoadedClears d := by
  have hensure : ensureLoaded d (OpIo.accepted nowMs).init = (d, espOk) := if_pos hloaded
  obtain ⟨hmax, hreserve⟩ | ⟨hroom, s, hreserve, hgen, hpending⟩ := reserve_false d.store
  · refine ⟨fun h => ?_, fun h => absurd hmax h.revision⟩
    have hret : (clearStore d (.accepted nowMs)).2 = espErrInvalidState := by
      rw [clearStore, hensure]
      dsimp only
      rw [hreserve]
      rfl
    exact absurd (hret.symm.trans h.1) (by decide)
  · let edited : ContactDevice := { d with store := clearedStore s nowMs }
    have hclear : clearStore d (.accepted nowMs) =
        let persisted := persistStore edited .accepted
        if persisted.2 = espOk ∧ persisted.1.store.lastPersistDurable = true then
          ({ persisted.1 with store := settleDurable persisted.1.store }, persisted.2)
        else persisted := by
      rw [clearStore, hensure]
      dsimp only
      rw [hreserve]
      rfl
    cases henabled : d.enabled with
    | false =>
      have hdone := hclear
      rw [persistStore_disabled (d := edited) henabled] at hdone
      have hkept : (acceptGeneration { edited.store with lastPersistDurable := false } false
          edited.generation).lastPersistDurable = false ∧
          (acceptGeneration { edited.store with lastPersistDurable := false } false
          edited.generation).entries = [] := by
        unfold acceptGeneration
        split_ifs <;> exact ⟨rfl, rfl⟩
      dsimp only at hdone
      rw [if_neg fun h => absurd (hkept.1.symm.trans h.2) Bool.false_ne_true] at hdone
      rw [ClearRecovers, hdone]
      dsimp only
      rw [initStore_ok_iff]
      have hsame : ∀ store, StartsReadable ({ edited with store := store } : ContactDevice) ↔
          StartsReadable d := fun store => Iff.rfl
      rw [hsame]
      refine ⟨fun h => ⟨hroom, fun hmust => ?_, fun _ => h.2.2⟩,
        fun h => ⟨rfl, hkept.2, h.nvs henabled⟩⟩
      rw [mustReconcile, henabled, Bool.false_and] at hmust
      exact absurd hmust Bool.false_ne_true
    | true =>
      have hmust := reconciling_pending d nowMs s hgen hpending henabled
      cases hcase : mustReconcile d with
      | false =>
        -- the card is this store's and is erased
        rw [mustReconcile, henabled, Bool.true_and, Bool.or_eq_false_iff] at hcase
        have hsame : d.generation = d.store.acceptedSdBackendGeneration := by
          simpa using hcase.1
        rw [persistStore_own (d := edited) henabled (hsame.trans hgen.symm)
          (hpending.trans hcase.2)] at hclear
        dsimp only at hclear
        rw [if_pos ⟨rfl, rfl⟩] at hclear
        refine ⟨fun _ => ⟨hroom, fun h => ?_, fun h => absurd (henabled.symm.trans h) (by decide)⟩,
          fun _ => clearRecovers_of_erased laterMs hclear rfl rfl rfl⟩
        rw [mustReconcile, henabled, Bool.true_and, hcase.2, Bool.or_false] at h
        exact absurd hsame (of_decide_eq_true h)
      | true =>
        rw [hcase] at hmust
        rw [persistStore_reconcile (d := edited) henabled hmust] at hclear
        have hauthority : (reconciling edited).mutationAuthority = .explicitClear := by
          unfold reconciling acceptGeneration
          split_ifs <;> rfl
        have hrows : (reconciling edited).entries = [] := by
          unfold reconciling acceptGeneration
          split_ifs <;> rfl
        obtain ⟨work, hwork, hwrite, hdone, hcurrent⟩ | ⟨⟨image, himage, hbad⟩, hfail⟩ :=
          @reconcile_cleared (reconciling edited) edited.card hauthority
        · rw [hwork] at hclear
          dsimp only at hclear
          rw [commitWork_accepted] at hclear
          dsimp only at hclear
          rw [if_pos ⟨rfl, rfl⟩] at hclear
          refine ⟨fun _ => ⟨hroom, fun _ => hcurrent,
            fun h => absurd (henabled.symm.trans h) (by decide)⟩,
            fun _ => clearRecovers_of_erased laterMs hclear hrows ?_ rfl⟩
          change workedCard _ work = none
          rw [workedCard, hwrite, if_neg Bool.false_ne_true]
          split_ifs with herase
          · rfl
          · exact hdone.resolve_right herase
        · rw [hfail] at hclear
          dsimp only at hclear
          rw [if_neg fun h => absurd h.1 (by decide)] at hclear
          refine ⟨fun h => ?_, fun h => absurd (h.card hcase image himage) hbad⟩
          rw [ClearRecovers, hclear] at h
          have hret : espErrInvalidState = espOk := h.1
          exact absurd hret (by decide)

theorem clearRecovers_unloaded_iff {d : ContactDevice} (hunloaded : d.store.loaded = false)
    (nowMs laterMs : Nat) : ClearRecovers d nowMs laterMs ↔ StartsReadable d := by
  have hensure : ensureLoaded d (OpIo.accepted nowMs).init = initStore d (.accepted nowMs) := by
    rw [ensureLoaded, hunloaded, if_neg Bool.false_ne_true]
    rfl
  obtain ⟨hread, d', hinit, hready, henabled, hnvs⟩ | ⟨hnot, hne⟩ := initStore_accepted d nowMs
  · refine ⟨fun _ => hread, fun _ => ?_⟩
    have hsame : clearStore d (.accepted nowMs) = clearStore d' (.accepted nowMs) := by
      have hensure' : ensureLoaded d' (OpIo.accepted nowMs).init = (d', espOk) :=
        if_pos hready.loaded
      rw [clearStore, clearStore, hensure, hensure', hinit]
    have hloaded : ClearRecovers d' nowMs laterMs := by
      refine (clearRecovers_loaded_iff hready.loaded nowMs laterMs).mpr ⟨?_, fun hmust => ?_, ?_⟩
      · rw [hready.revision]
        decide
      · rw [mustReconcile, Bool.and_eq_true] at hmust
        obtain ⟨he, hpending⟩ := hmust
        rw [hready.settled he, decide_eq_false (not_not.mpr (hready.generation he))] at hpending
        exact absurd hpending Bool.false_ne_true
      · intro hdisabled
        have hd : d.enabled = false := henabled ▸ hdisabled
        intro image fromSd h
        refine hread image fromSd ?_
        rw [startImage, hdisabled, hnvs hd] at h
        rw [startImage, hd]
        exact h
    rw [ClearRecovers, hsame]
    exact hloaded
  · refine ⟨fun h => absurd ?_ hne, fun h => absurd h hnot⟩
    have hret : (clearStore d (.accepted nowMs)).2 = (initStore d (.accepted nowMs)).2 := by
      rw [clearStore, hensure]
      dsimp only
      rw [if_pos hne]
    exact hret ▸ h.1

theorem lateMount_refuses {d : ContactDevice} (hloaded : d.store.loaded = true)
    (hmust : mustReconcile d = true) (hcard : ¬CardIsCurrent d) (nowMs : Nat) :
    (flushDeferred d true (.accepted nowMs)).2 = espErrInvalidState := by
  obtain ⟨image, himage, hbad⟩ : ∃ image, d.card = some image ∧
      ¬∃ blob, image = .current blob ∧ blobIsValid blob = true := by
    by_contra hnone
    refine hcard fun image himage => ?_
    by_contra hbad
    exact hnone ⟨image, himage, hbad⟩
  have hread : readCurrentSdBlob d.card .accepted = .error espErrInvalidState := by
    rw [readCurrentSdBlob_accepted, himage]
    cases image with
    | current blob =>
      refine if_neg fun hvalid => hbad ⟨blob, rfl, hvalid⟩
    | _ => rfl
  have henabled : d.enabled = true := (Bool.and_eq_true_iff.mp hmust).1
  have hpending : (reconciling d).sdReconcilePending = true := by
    rw [mustReconcile, henabled, Bool.true_and, Bool.or_eq_true, decide_eq_true_eq] at hmust
    unfold reconciling acceptGeneration
    split_ifs with hgen
    · exact hmust.resolve_left fun hne => hne hgen
    · exact henabled
  have hpersist : (persistStore d .accepted).2 = espErrInvalidState := by
    rw [persistStore_reconcile henabled hpending, reconcileSdPrimary, hread]
  have hensure : ensureLoaded d (OpIo.accepted nowMs).init = (d, espOk) := if_pos hloaded
  rw [mustReconcile, henabled, Bool.true_and] at hmust
  rw [flushDeferred, hensure]
  dsimp only
  rw [henabled, Bool.true_and]
  rw [Bool.or_comm] at hmust
  have hwork : (!d.store.persistenceDirty && !d.store.sdReconcilePending &&
      !decide (d.generation ≠ d.store.acceptedSdBackendGeneration)) = false := by
    rw [Bool.and_assoc, ← Bool.not_or, hmust, Bool.not_true, Bool.and_false]
  rw [Bool.or_comm] at hmust
  rw [if_neg (by decide), hwork, if_neg Bool.false_ne_true, Bool.not_true,
    if_neg Bool.false_ne_true, if_pos hmust]
  change (if (persistStore d .accepted).2 ≠ espOk then _ else _ : ContactDevice × EspErr).2 = _
  rw [if_pos (by rw [hpersist]; decide)]
  exact hpersist

theorem not_cardIsCurrent_of_legacy {d : ContactDevice} {image : ContactImage}
    (hcard : d.card = some image) (hlegacy : image.isLegacy = true) : ¬CardIsCurrent d := by
  intro h
  obtain ⟨blob, rfl, -⟩ := h image hcard
  cases hlegacy

end Sigui.Contact

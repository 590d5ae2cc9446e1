import Sigui.DmDevice
import Sigui.DmReads

/-! Public delivery truth. The device is run beside a record of what the backends hold: every
blob a write put there, every blob that was read back, and the persist passes that ended with
nothing left to write. A row may be shown as ACKNOWLEDGED only when that record covers it. -/
namespace Sigui.Dm

def isAcked (e : DmEntry) : Bool := e.outbound && e.deliveryState = .acknowledged

/-- The blob holds the row of this session as ACKNOWLEDGED at this revision. -/
def blobAcks (b : DmBlob) (sessionId : UInt64) (revision : Nat) : Bool :=
  b.rows.any fun e =>
    isAcked e && e.deliverySessionId = sessionId && e.deliveryRevision = revision

def Stored (blobs : List DmBlob) (sessionId : UInt64) (revision : Nat) : Prop :=
  ∃ b ∈ blobs, blobAcks b sessionId revision = true

/-- What each backend had accepted when a persist pass found nothing left to write. -/
structure CleanPass where
  sdPrimaryRequired : Bool
  nvs : List DmBlob
  sd : List DmBlob

structure AckLog where
  device : DmDevice
  nvs : List DmBlob := []
  sd : List DmBlob := []
  readBack : List DmBlob := []
  cleanPasses : List CleanPass := []

def AckLog.store (l : AckLog) : DmStore := l.device.store

/-- Every backend a pass had to write holds the row, or the row was read back from one. -/
def Durable (l : AckLog) (sessionId : UInt64) (revision : Nat) : Prop :=
  (∃ pass ∈ l.cleanPasses, Stored pass.nvs sessionId revision ∧
    (pass.sdPrimaryRequired = true → Stored pass.sd sessionId revision)) ∨
  Stored l.readBack sessionId revision

section Step

def blobsWritten (d : DmDevice) : DmAct → List DmBlob × List DmBlob
  | .written sdRet nvsRet =>
    match d.phase with
    | .writing _ snapshot =>
      (if snapshot.nvsAttempt ∧ nvsRet = espOk then [snapshot.blob] else [],
        if snapshot.sdAttempt ∧ sdRet = espOk then [snapshot.blob] else [])
    | .writingFallback _ snapshot => (if nvsRet = espOk then [snapshot.blob] else [], [])
    | _ => ([], [])
  | _ => ([], [])

def blobsTaken (d : DmDevice) : DmAct → List DmBlob
  | .init reads =>
    match d.phase with
    | .idle => if d.store.loaded then [] else blobsRead reads
    | _ => []
  | .reconcile (.found stored _) =>
    match d.phase with
    | .reconciling _ => [stored.blob]
    | _ => []
  | _ => []

/-- The persist pass this act begins or ends, by the requirement it was started with. -/
def passTouched (d : DmDevice) : DmAct → Option Bool
  | .begin sdPrimaryRequired _ _ _ =>
    match d.phase with
    | .idle => if d.store.loaded then some sdPrimaryRequired else none
    | _ => none
  | .written _ _ =>
    match d.phase with
    | .writing sdPrimaryRequired _ => some sdPrimaryRequired
    | _ => none
  | _ => none

def stepAckLog (l : AckLog) (act : DmAct) : AckLog :=
  let device := stepDevice l.device act
  let nvs := l.nvs ++ (blobsWritten l.device act).1
  let sd := l.sd ++ (blobsWritten l.device act).2
  { device := device
    nvs := nvs
    sd := sd
    readBack := l.readBack ++ blobsTaken l.device act
    cleanPasses := l.cleanPasses ++
      match passTouched l.device act with
      | some sdPrimaryRequired =>
        if persistenceDirty device.store sdPrimaryRequired then []
        else [⟨sdPrimaryRequired, nvs, sd⟩]
      | none => [] }

variable {l : AckLog} {sessionId : UInt64} {revision : Nat}

theorem Stored.append {blobs : List DmBlob} (h : Stored blobs sessionId revision)
    (more : List DmBlob) : Stored (blobs ++ more) sessionId revision := by
  obtain ⟨b, hb, hacks⟩ := h
  exact ⟨b, List.mem_append_left _ hb, hacks⟩

theorem Stored.append_right {blobs : List DmBlob} (h : Stored blobs sessionId revision)
    (before : List DmBlob) : Stored (before ++ blobs) sessionId revision := by
  obtain ⟨b, hb, hacks⟩ := h
  exact ⟨b, List.mem_append_right _ hb, hacks⟩

theorem Durable.step (h : Durable l sessionId revision) (act : DmAct) :
    Durable (stepAckLog l act) sessionId revision := by
  rcases h with ⟨pass, hpass, hstored⟩ | hread
  · exact .inl ⟨pass, List.mem_append_left _ hpass, hstored⟩
  · exact .inr (hread.append _)

theorem blobAcks_of_mem {b : DmBlob} {e : DmEntry} (he : e ∈ b.rows) (hacked : isAcked e = true) :
    blobAcks b e.deliverySessionId e.deliveryRevision = true := by
  refine List.any_eq_true.mpr ⟨e, he, ?_⟩
  simp [hacked]

end Step

/-- A row that carries its ACK only if `D` holds of its session and revision. -/
structure AckedOnly (D : UInt64 → Nat → Prop) (e : DmEntry) : Prop where
  sound : RowSound e
  acked : isAcked e = true → D e.deliverySessionId e.deliveryRevision

theorem isAcked_of_deliveryPart {a b : DmEntry} (h : a.deliveryPart = b.deliveryPart) :
    isAcked a = isAcked b ∧ a.deliverySessionId = b.deliverySessionId ∧
      a.deliveryRevision = b.deliveryRevision := by
  change isAcked a.deliveryPart = isAcked b.deliveryPart ∧
    a.deliveryPart.deliverySessionId = b.deliveryPart.deliverySessionId ∧
    a.deliveryPart.deliveryRevision = b.deliveryPart.deliveryRevision
  rw [h]
  exact ⟨rfl, rfl, rfl⟩

theorem session_of_paired {dest source : DmEntry} (hd : RowSound dest)
    (hout : dest.outbound = true) (hpair : entryIdentityEqual dest source = true) :
    dest.deliverySessionId = source.deliverySessionId := by
  have hdigest : dest.identityDigestValid = false := by
    by_contra hvalid
    have hin := inbound_of_digest hd.ack (by simpa using hvalid)
    rw [DmEntry.outbound_false_of_inbound hin] at hout
    exact Bool.noConfusion hout
  have hsession := ((deliveryMetadataIsValid_outbound_iff hout).mp hd.delivery).session
  simp only [entryIdentityEqual, validIdentityDigestEqual, hdigest, Bool.false_and,
    Bool.false_eq_true, if_false] at hpair
  rw [if_pos (Or.inl hsession)] at hpair
  simp only [Bool.and_eq_true, decide_eq_true_eq] at hpair
  exact hpair.1.2

theorem mergeClosed_acked (D : UInt64 → Nat → Prop) : MergeClosed (AckedOnly D) where
  withSeq := fun _ n h => ⟨h.sound.withSeq n, h.acked⟩
  matched := by
    intro dest source newer hd hs _ hpair
    refine ⟨mergeMatchedRow_sound newer hd.sound hs.sound hpair, fun hacked => ?_⟩
    obtain ⟨hmatch, hsession, hrevision⟩ :=
      isAcked_of_deliveryPart (mergeMatchedRow_deliveryPart dest source newer)
    rw [hmatch] at hacked
    rw [hsession, hrevision]
    -- State and revision come as a pair, from the one copy or from the other.
    unfold mergeDeliveryMetadata at hacked ⊢
    split_ifs at hacked ⊢ with hout hcopy
    · exact hd.acked hacked
    · have hboth : dest.outbound = true ∧ source.outbound = true := by
        simpa [mergeFlags, DmEntry.outbound] using hout
      have hsource : isAcked source = true := by
        have hstate := (Bool.and_eq_true_iff.mp hacked).2
        exact Bool.and_eq_true_iff.mpr ⟨hboth.2, hstate⟩
      change D dest.deliverySessionId source.deliveryRevision
      rw [session_of_paired hd.sound hboth.1 hpair]
      exact hs.acked hsource
    · exact hd.acked hacked

section Invariant

def ackHidden (s : DmStore) (e : DmEntry) : Bool :=
  (findAckPersistencePending s e.deliverySessionId e.deliveryRevision).isSome

/-- An ACK the side table still hides, with each backend either due for it or holding it. -/
structure Covered (l : AckLog) (e : DmEntry) : Prop where
  hidden : ackHidden l.store e = true
  nvs : l.store.nvsFallbackDirty = true ∨ Stored l.nvs e.deliverySessionId e.deliveryRevision
  sd : l.store.sdPrimaryDirty = true ∨ Stored l.sd e.deliverySessionId e.deliveryRevision

/-- A snapshot on its way to a backend is of an older state, or of this one. -/
def SnapshotFits (s : DmStore) : PersistPhase → Prop
  | .writing _ snapshot | .writingFallback _ snapshot =>
    snapshot.stateRevision ≤ s.stateRevision ∧
      (s.stateRevision = snapshot.stateRevision → snapshot.blob.rows = s.rows)
  | _ => True

structure AckInv (l : AckLog) : Prop where
  sound : ∀ e ∈ l.store.rows, RowSound e
  preview : ∀ e ∈ l.store.volatileEntry, isAcked e = false
  hidden : ∀ p ∈ l.store.ackPersistencePending, p.previousState ≠ .acknowledged
  acked : ∀ e ∈ l.store.rows, isAcked e = true →
    Durable l e.deliverySessionId e.deliveryRevision ∨ Covered l e
  snapshot : SnapshotFits l.store l.device.phase

variable {l : AckLog} {act : DmAct}

structure SameTable (s s' : DmStore) : Prop where
  rows : s'.rows = s.rows
  preview : s'.volatileEntry = s.volatileEntry
  pending : s'.ackPersistencePending = s.ackPersistencePending

theorem AckInv.same (h : AckInv l) (hs : SameTable l.store (stepAckLog l act).store)
    (hnvs : ∀ e ∈ l.store.rows, isAcked e = true → l.store.nvsFallbackDirty = true →
      (stepAckLog l act).store.nvsFallbackDirty = true ∨
        Stored (stepAckLog l act).nvs e.deliverySessionId e.deliveryRevision)
    (hsd : ∀ e ∈ l.store.rows, isAcked e = true → l.store.sdPrimaryDirty = true →
      (stepAckLog l act).store.sdPrimaryDirty = true ∨
        Stored (stepAckLog l act).sd e.deliverySessionId e.deliveryRevision)
    (hfits : SnapshotFits (stepAckLog l act).store (stepAckLog l act).device.phase) :
    AckInv (stepAckLog l act) where
  sound := by
    rw [hs.rows]
    exact h.sound
  preview := by
    rw [hs.preview]
    exact h.preview
  hidden := by
    rw [hs.pending]
    exact h.hidden
  acked := by
    rw [hs.rows]
    intro e he hacked
    rcases h.acked e he hacked with hdurable | hcovered
    · exact .inl (hdurable.step act)
    refine .inr ⟨?_, ?_, ?_⟩
    · have hhidden := hcovered.hidden
      unfold ackHidden findAckPersistencePending at hhidden ⊢
      rw [hs.pending]
      exact hhidden
    · rcases hcovered.nvs with hdirty | hstored
      · exact hnvs e he hacked hdirty
      · exact .inr (hstored.append _)
    · rcases hcovered.sd with hdirty | hstored
      · exact hsd e he hacked hdirty
      · exact .inr (hstored.append _)
  snapshot := hfits

theorem durable_of_clean_pass {sdPrimaryRequired : Bool} {sessionId : UInt64} {revision : Nat}
    (hpass : passTouched l.device act = some sdPrimaryRequired)
    (hclean : persistenceDirty (stepAckLog l act).store sdPrimaryRequired = false)
    (hnvs : Stored (stepAckLog l act).nvs sessionId revision)
    (hsd : sdPrimaryRequired = true → Stored (stepAckLog l act).sd sessionId revision) :
    Durable (stepAckLog l act) sessionId revision := by
  refine .inl ⟨⟨sdPrimaryRequired, (stepAckLog l act).nvs, (stepAckLog l act).sd⟩, ?_, hnvs, hsd⟩
  refine List.mem_append_right _ ?_
  change persistenceDirty (stepDevice l.device act).store sdPrimaryRequired = false at hclean
  rw [hpass]
  dsimp only
  rw [hclean]
  exact List.mem_singleton.mpr rfl

theorem persistenceDirty_eq_false {s : DmStore} {sdPrimaryRequired : Bool}
    (h : persistenceDirty s sdPrimaryRequired = false) :
    s.nvsFallbackDirty = false ∧ (sdPrimaryRequired = true → s.sdPrimaryDirty = false) := by
  simp only [persistenceDirty, Bool.or_eq_false_iff, Bool.and_eq_false_iff] at h
  refine ⟨h.1, fun hrequired => ?_⟩
  rcases h.2 with hnot | hsd
  · exact absurd (hnot.symm.trans hrequired) Bool.false_ne_true
  · exact hsd.1

theorem AckInv.clean (h : AckInv l) (hrows : (stepAckLog l act).store.rows = l.store.rows)
    (hpreview : (stepAckLog l act).store.volatileEntry = l.store.volatileEntry)
    (hpending : (stepAckLog l act).store.ackPersistencePending = [])
    (hnvs : ∀ e ∈ l.store.rows, isAcked e = true → l.store.nvsFallbackDirty = true →
      (stepAckLog l act).store.nvsFallbackDirty = true ∨
        Stored (stepAckLog l act).nvs e.deliverySessionId e.deliveryRevision)
    (hsd : ∀ e ∈ l.store.rows, isAcked e = true → l.store.sdPrimaryDirty = true →
      (stepAckLog l act).store.sdPrimaryDirty = true ∨
        Stored (stepAckLog l act).sd e.deliverySessionId e.deliveryRevision)
    {sdPrimaryRequired : Bool} (hpass : passTouched l.device act = some sdPrimaryRequired)
    (hclean : persistenceDirty (stepAckLog l act).store sdPrimaryRequired = false)
    (hfits : SnapshotFits (stepAckLog l act).store (stepAckLog l act).device.phase) :
    AckInv (stepAckLog l act) where
  sound := by
    rw [hrows]
    exact h.sound
  preview := by
    rw [hpreview]
    exact h.preview
  hidden := by
    rw [hpending]
    exact fun p hp => absurd hp List.not_mem_nil
  acked := by
    rw [hrows]
    intro e he hacked
    left
    rcases h.acked e he hacked with hdurable | hcovered
    · exact hdurable.step act
    obtain ⟨hnvsClean, hsdClean⟩ := persistenceDirty_eq_false hclean
    refine durable_of_clean_pass hpass hclean ?_ fun hrequired => ?_
    · rcases hcovered.nvs with hdirty | hstored
      · exact (hnvs e he hacked hdirty).resolve_left (by simp [hnvsClean])
      · exact hstored.append _
    · rcases hcovered.sd with hdirty | hstored
      · exact (hsd e he hacked hdirty).resolve_left (by simp [hsdClean hrequired])
      · exact hstored.append _
  snapshot := hfits

end Invariant

section Persist

variable {l : AckLog} {act : DmAct} {sdPrimaryRequired : Bool} {s s' : DmStore}
  {snapshot : PersistSnapshot} {sdRet nvsRet : EspErr}

theorem persistBegin_table (s : DmStore) (sdPrimaryRequired : Bool) (generation attemptMs : Nat)
    (force : Bool) (hs' : (persistBegin s sdPrimaryRequired generation attemptMs force).1 = s') :
    s'.rows = s.rows ∧ s'.volatileEntry = s.volatileEntry ∧
      s'.nvsFallbackDirty = s.nvsFallbackDirty ∧ s'.sdPrimaryDirty = s.sdPrimaryDirty ∧
      (s'.ackPersistencePending = s.ackPersistencePending ∨
        s'.ackPersistencePending = [] ∧ s.loaded = true ∧
          persistenceDirty s' sdPrimaryRequired = false) := by
  subst hs'
  unfold persistBegin
  by_cases hloaded : s.loaded = true
  swap
  · rw [if_pos (by simpa using hloaded)]
    exact ⟨rfl, rfl, rfl, rfl, .inl rfl⟩
  rw [if_neg (by simpa using hloaded)]
  dsimp only
  split_ifs <;>
    first
    | exact ⟨rfl, rfl, rfl, rfl, .inl rfl⟩
    | exact ⟨rfl, rfl, rfl, rfl, .inr ⟨rfl, hloaded, (Bool.not_eq_true' _).mp ‹_›⟩⟩

theorem beginPersist_device (s : DmStore) (sdPrimaryRequired : Bool) (generation attemptMs : Nat)
    (force : Bool) :
    (beginPersist s sdPrimaryRequired generation attemptMs force).store =
        (persistBegin s sdPrimaryRequired generation attemptMs force).1 ∧
      ∀ s', SnapshotFits s' (beginPersist s sdPrimaryRequired generation attemptMs force).phase := by
  unfold beginPersist
  cases persistBegin s sdPrimaryRequired generation attemptMs force with
  | mk store start =>
    cases start with
    | finished ret => exact ⟨rfl, fun _ => trivial⟩
    | proceed reconcileAttempt => cases reconcileAttempt <;> exact ⟨rfl, fun _ => trivial⟩

theorem AckInv.begin (h : AckInv l) {generation attemptMs : Nat} {force : Bool}
    (hact : act = .begin sdPrimaryRequired generation attemptMs force)
    (idle : l.device.phase = .idle) (hdevice : stepDevice l.device act =
      beginPersist l.store sdPrimaryRequired generation attemptMs force) :
    AckInv (stepAckLog l act) := by
  obtain ⟨hstore, hfits⟩ :=
    beginPersist_device l.store sdPrimaryRequired generation attemptMs force
  have hstore' : (persistBegin l.store sdPrimaryRequired generation attemptMs force).1 =
      (stepAckLog l act).store := by
    rw [← hstore, ← hdevice]
    rfl
  have hphase : SnapshotFits (stepAckLog l act).store (stepAckLog l act).device.phase := by
    change SnapshotFits _ (stepDevice l.device act).phase
    rw [hdevice]
    exact hfits _
  obtain ⟨hrows, hpreview, hnvs, hsd, htable⟩ :=
    persistBegin_table l.store sdPrimaryRequired generation attemptMs force hstore'
  rcases htable with hpending | ⟨hpending, hloaded, hclean⟩
  · exact h.same ⟨hrows, hpreview, hpending⟩ (fun _ _ _ hdirty => .inl (hnvs.trans hdirty))
      (fun _ _ _ hdirty => .inl (hsd.trans hdirty)) hphase
  · refine h.clean hrows hpreview hpending (fun _ _ _ hdirty => .inl (hnvs.trans hdirty))
      (fun _ _ _ hdirty => .inl (hsd.trans hdirty)) ?_ hclean hphase
    rw [hact]
    unfold passTouched
    rw [idle]
    exact if_pos hloaded

theorem noteWrites_table (s : DmStore) (snapshot : PersistSnapshot) (sdRet nvsRet : EspErr) :
    SameTable s (noteNvsWrite (noteSdWrite s snapshot sdRet) snapshot nvsRet) := by
  unfold noteNvsWrite noteSdWrite
  split_ifs <;> exact ⟨rfl, rfl, rfl⟩

theorem noteWrites_nvs (h : s.nvsFallbackDirty = true) :
    (noteNvsWrite (noteSdWrite s snapshot sdRet) snapshot nvsRet).nvsFallbackDirty = true ∨
      snapshot.nvsAttempt = true ∧ nvsRet = espOk ∧ s.stateRevision = snapshot.stateRevision := by
  unfold noteNvsWrite noteSdWrite
  by_cases hattempt : snapshot.nvsAttempt = true
  · rw [if_pos hattempt]
    by_cases hwritten : nvsRet = espOk ∧ s.stateRevision = snapshot.stateRevision
    · exact .inr ⟨hattempt, hwritten⟩
    · left
      split_ifs <;> exact h
  · rw [if_neg hattempt]
    left
    split_ifs <;> exact h

theorem noteWrites_sd (h : s.sdPrimaryDirty = true) :
    (noteNvsWrite (noteSdWrite s snapshot sdRet) snapshot nvsRet).sdPrimaryDirty = true ∨
      snapshot.sdAttempt = true ∧ sdRet = espOk ∧ s.stateRevision = snapshot.stateRevision := by
  unfold noteNvsWrite noteSdWrite
  by_cases hattempt : snapshot.sdAttempt = true
  · rw [if_pos hattempt]
    by_cases hwritten : sdRet = espOk ∧ s.stateRevision = snapshot.stateRevision
    · exact .inr ⟨hattempt, hwritten⟩
    · left
      split_ifs <;> exact h
  · rw [if_neg hattempt]
    left
    split_ifs <;> exact h

theorem markPersisted_table (s : DmStore) (sdPrimaryRequired : Bool) :
    SameTable s (markPersisted s sdPrimaryRequired) ∧
      (markPersisted s sdPrimaryRequired).nvsFallbackDirty = s.nvsFallbackDirty ∧
      (markPersisted s sdPrimaryRequired).sdPrimaryDirty = s.sdPrimaryDirty ∧
      (markPersisted s sdPrimaryRequired).sdReconcilePending = s.sdReconcilePending := by
  unfold markPersisted
  split_ifs <;> exact ⟨⟨rfl, rfl, rfl⟩, rfl, rfl, rfl⟩

theorem persistFinish_table (hs' : persistFinish s snapshot sdPrimaryRequired sdRet nvsRet = s') :
    s'.rows = s.rows ∧ s'.volatileEntry = s.volatileEntry ∧
      s'.nvsFallbackDirty =
        (noteNvsWrite (noteSdWrite s snapshot sdRet) snapshot nvsRet).nvsFallbackDirty ∧
      s'.sdPrimaryDirty =
        (noteNvsWrite (noteSdWrite s snapshot sdRet) snapshot nvsRet).sdPrimaryDirty ∧
      (s'.ackPersistencePending = s.ackPersistencePending ∨
        s'.ackPersistencePending = [] ∧ persistenceDirty s' sdPrimaryRequired = false) := by
  subst hs'
  have hwrites := noteWrites_table s snapshot sdRet nvsRet
  unfold persistFinish
  dsimp only
  by_cases hdirty : persistenceDirty (noteNvsWrite (noteSdWrite s snapshot sdRet) snapshot nvsRet)
      sdPrimaryRequired = true
  · rw [if_pos hdirty]
    exact ⟨hwrites.rows, hwrites.preview, rfl, rfl, .inl hwrites.pending⟩
  · rw [if_neg hdirty]
    obtain ⟨hmark, hnvs, hsd, hreconcile⟩ := markPersisted_table
      { noteNvsWrite (noteSdWrite s snapshot sdRet) snapshot nvsRet with
        ackPersistencePending := [], retryPending := false } sdPrimaryRequired
    refine ⟨hmark.rows.trans hwrites.rows, hmark.preview.trans hwrites.preview, hnvs, hsd,
      .inr ⟨hmark.pending, ?_⟩⟩
    unfold persistenceDirty at hdirty ⊢
    rw [hnvs, hsd, hreconcile]
    simpa using hdirty

theorem eq_espOk_of_attemptedRet {attempted : Bool} {ret : EspErr} (h : attempted = true)
    (hret : attemptedRet attempted ret = espOk) : ret = espOk := by
  rw [attemptedRet, if_pos h] at hret
  exact hret

theorem AckInv.finished (h : AckInv l) (hact : act = .written sdRet nvsRet)
    (phase : l.device.phase = .writing sdPrimaryRequired snapshot)
    (hdevice : stepDevice l.device act =
      ⟨persistFinish l.store snapshot sdPrimaryRequired (attemptedRet snapshot.sdAttempt sdRet)
        (attemptedRet snapshot.nvsAttempt nvsRet), .idle⟩) : AckInv (stepAckLog l act) := by
  have hfits := h.snapshot
  rw [phase] at hfits
  obtain ⟨-, hsame⟩ := hfits
  have hwritten : blobsWritten l.device act =
      (if snapshot.nvsAttempt ∧ nvsRet = espOk then [snapshot.blob] else [],
        if snapshot.sdAttempt ∧ sdRet = espOk then [snapshot.blob] else []) := by
    rw [hact]
    unfold blobsWritten
    rw [phase]
  have hstore : persistFinish l.store snapshot sdPrimaryRequired
      (attemptedRet snapshot.sdAttempt sdRet) (attemptedRet snapshot.nvsAttempt nvsRet) =
      (stepAckLog l act).store := by
    change _ = (stepDevice l.device act).store
    rw [hdevice]
  obtain ⟨hrows, hpreview, hnvs, hsd, htable⟩ := persistFinish_table hstore
  have hholds : ∀ e ∈ l.store.rows, isAcked e = true →
      l.store.stateRevision = snapshot.stateRevision →
        Stored [snapshot.blob] e.deliverySessionId e.deliveryRevision := by
    intro e he hacked hrevision
    refine ⟨snapshot.blob, List.mem_singleton.mpr rfl, blobAcks_of_mem ?_ hacked⟩
    rw [hsame hrevision]
    exact he
  have hnvsWritten : ∀ e ∈ l.store.rows, isAcked e = true → l.store.nvsFallbackDirty = true →
      (stepAckLog l act).store.nvsFallbackDirty = true ∨
        Stored (stepAckLog l act).nvs e.deliverySessionId e.deliveryRevision := by
    intro e he hacked hdirty
    rw [hnvs]
    rcases noteWrites_nvs hdirty with hstill | ⟨hattempt, hret, hrevision⟩
    · exact .inl hstill
    right
    change Stored (l.nvs ++ (blobsWritten l.device act).1) _ _
    rw [hwritten]
    dsimp only
    rw [if_pos ⟨hattempt, eq_espOk_of_attemptedRet hattempt hret⟩]
    exact (hholds e he hacked hrevision).append_right _
  have hsdWritten : ∀ e ∈ l.store.rows, isAcked e = true → l.store.sdPrimaryDirty = true →
      (stepAckLog l act).store.sdPrimaryDirty = true ∨
        Stored (stepAckLog l act).sd e.deliverySessionId e.deliveryRevision := by
    intro e he hacked hdirty
    rw [hsd]
    rcases noteWrites_sd hdirty with hstill | ⟨hattempt, hret, hrevision⟩
    · exact .inl hstill
    right
    change Stored (l.sd ++ (blobsWritten l.device act).2) _ _
    rw [hwritten]
    dsimp only
    rw [if_pos ⟨hattempt, eq_espOk_of_attemptedRet hattempt hret⟩]
    exact (hholds e he hacked hrevision).append_right _
  have hidle : SnapshotFits (stepAckLog l act).store (stepAckLog l act).device.phase := by
    change SnapshotFits _ (stepDevice l.device act).phase
    rw [hdevice]
    trivial
  rcases htable with hpending | ⟨hpending, hclean⟩
  · exact h.same ⟨hrows, hpreview, hpending⟩ hnvsWritten hsdWritten hidle
  · refine h.clean hrows hpreview hpending hnvsWritten hsdWritten ?_ hclean hidle
    rw [hact]
    unfold passTouched
    rw [phase]

theorem updateNvsResult_table {snapshotRevision : Nat}
    (hs' : updateNvsResult s nvsRet snapshotRevision sdPrimaryRequired = s') :
    SameTable s s' ∧ s'.sdPrimaryDirty = s.sdPrimaryDirty ∧
      s'.nvsFallbackDirty =
        if nvsRet = espOk ∧ s.stateRevision = snapshotRevision then false
        else s.nvsFallbackDirty := by
  subst hs'
  unfold updateNvsResult
  dsimp only
  by_cases hdirty : persistenceDirty
      { s with
        nvsFallbackLastError := nvsRet
        nvsFallbackDirty :=
          if nvsRet = espOk ∧ s.stateRevision = snapshotRevision then false
          else s.nvsFallbackDirty
        retryPending := s.retryPending || decide (nvsRet ≠ espOk) } sdPrimaryRequired = true
  · rw [if_pos hdirty]
    exact ⟨⟨rfl, rfl, rfl⟩, rfl, rfl⟩
  · rw [if_neg hdirty]
    obtain ⟨hmark, hnvs, hsd, -⟩ := markPersisted_table
      { s with
        nvsFallbackLastError := nvsRet
        nvsFallbackDirty :=
          if nvsRet = espOk ∧ s.stateRevision = snapshotRevision then false
          else s.nvsFallbackDirty
        retryPending := false } sdPrimaryRequired
    exact ⟨⟨hmark.rows, hmark.preview, hmark.pending⟩, hsd, hnvs⟩

theorem AckInv.fallback (h : AckInv l) (hact : act = .written sdRet nvsRet)
    (phase : l.device.phase = .writingFallback sdPrimaryRequired snapshot)
    (hdevice : stepDevice l.device act =
      ⟨updateNvsResult l.store nvsRet snapshot.stateRevision sdPrimaryRequired, .idle⟩) :
    AckInv (stepAckLog l act) := by
  have hfits := h.snapshot
  rw [phase] at hfits
  obtain ⟨-, hsame⟩ := hfits
  have hstore : updateNvsResult l.store nvsRet snapshot.stateRevision sdPrimaryRequired =
      (stepAckLog l act).store := by
    change _ = (stepDevice l.device act).store
    rw [hdevice]
  obtain ⟨htable, hsd, hnvs⟩ := updateNvsResult_table hstore
  refine h.same htable ?_ (fun _ _ _ hdirty => .inl (hsd.trans hdirty)) ?_
  · intro e he hacked hdirty
    rw [hnvs]
    by_cases hwritten : nvsRet = espOk ∧ l.store.stateRevision = snapshot.stateRevision
    · right
      refine ⟨snapshot.blob, List.mem_append_right _ ?_, blobAcks_of_mem ?_ hacked⟩
      · rw [hact]
        unfold blobsWritten
        rw [phase]
        dsimp only
        rw [if_pos hwritten.1]
        exact List.mem_singleton.mpr rfl
      · rw [hsame hwritten.2]
        exact he
    · rw [if_neg hwritten]
      exact .inl hdirty
  · change SnapshotFits _ (stepDevice l.device act).phase
    rw [hdevice]
    trivial

end Persist

end Sigui.Dm

import Sigui.DmMarkAcked
import Sigui.DmRebootRuns

/-! What keeps an append from going through. A full ring gives up its oldest row unless that row
is an outbound one whose delivery is not over, so such a row has to belong to this boot, which
alone can end it. Boots are run beside the delivery sessions each of them has created. -/
namespace Sigui.Dm

structure OwnerLog where
  device : DmDevice
  /-- The sessions of the rows appended since the device was switched on. -/
  created : List UInt64 := []

def OwnerLog.store (l : OwnerLog) : DmStore := l.device.store

inductive OwnerAct
  | device (act : DmAct)
  | powerLoss

def sessionsCreated (d : DmDevice) : DmAct → List UInt64
  | .call (.append a nowMs random) =>
    let outcome := (appendInternal d.store a nowMs random).2
    if outcome.inserted then [outcome.deliverySessionId] else []
  | _ => []

def stepOwner (l : OwnerLog) : OwnerAct → OwnerLog
  | .device act =>
    { device := stepDevice l.device act, created := l.created ++ sessionsCreated l.device act }
  | .powerLoss => { device := powerUp }

def ownerPowerUp : OwnerLog := { device := powerUp }

def unsettled (e : DmEntry) : Bool := e.outbound && !deliveryStateTerminal e.deliveryState

section Append

variable {s : DmStore} {a : AppendArgs} {nowMs : Nat} {random : Fin 8 → UInt64}

theorem appendCheck_error {error : EspErr} (h : appendCheck a = some error) :
    error = espErrInvalidArg ∨ error = espErrInvalidSize := by
  unfold appendCheck at h
  dsimp only at h
  split_ifs at h <;> cases h
  · exact .inl rfl
  · exact .inr rfl

/-- How an append ends: refused with the store as it was, accepted as a preview, or inserted. -/
inductive Appended (s : DmStore) (a : AppendArgs) (nowMs : Nat) (random : Fin 8 → UInt64) :
    DmStore × AppendOutcome → Prop
  | refused (error : EspErr) (isError : error ≠ espOk)
      (full : error = espErrNoMem → oldestBlocksAppend s = true) :
      Appended s a nowMs random (s, { error := error })
  | preview :
      Appended s a nowMs random ({ s with volatileEntry := some (newEntry s a nowMs) },
        { error := espOk })
  | inserted (entry : DmEntry) (row : NewRow s a nowMs random entry)
      (room : oldestBlocksAppend s = false) :
      Appended s a nowMs random (insertRow s entry,
        { inserted := true, rowSeq := entry.seq, deliverySessionId := entry.deliverySessionId
          error := espOk })

theorem appendInternal_appended (s : DmStore) (a : AppendArgs) (nowMs : Nat)
    (random : Fin 8 → UInt64) : Appended s a nowMs random (appendInternal s a nowMs random) := by
  have hnotFull : espErrInvalidState ≠ espErrNoMem := by decide
  have hstate : espErrInvalidState ≠ espOk := by decide
  unfold appendInternal
  cases hcheck : appendCheck a with
  | some error =>
    have hcases := appendCheck_error hcheck
    refine .refused error ?_ fun hfull => ?_
    · rcases hcases with rfl | rfl <;> decide
    · rcases hcases with rfl | rfl <;> exact absurd hfull (by decide)
  | none =>
    dsimp only
    by_cases hloaded : s.loaded = true
    swap
    · rw [if_pos (by simpa using hloaded)]
      exact .refused _ hstate fun hfull => absurd hfull hnotFull
    rw [if_neg (by simpa using hloaded)]
    unfold appendLocked
    dsimp only
    by_cases hpersist : a.persist = true
    swap
    · rw [if_pos (by simpa using hpersist)]
      exact .preview
    rw [if_neg (by simpa using hpersist)]
    by_cases hblocked : oldestBlocksAppend s = true
    · rw [if_pos hblocked]
      exact .refused _ (by decide) fun _ => hblocked
    rw [if_neg hblocked]
    by_cases hcounters : countersExhausted s = true
    · rw [if_pos hcounters]
      exact .refused _ hstate fun hfull => absurd hfull hnotFull
    rw [if_neg hcounters]
    have hroom : oldestBlocksAppend s = false := by simpa using hblocked
    by_cases hout : (newEntry s a nowMs).outbound = true
    · rw [if_pos hout]
      by_cases hsession : newDeliverySessionId s random = 0
      · rw [if_pos hsession]
        exact .refused _ hstate fun hfull => absurd hfull hnotFull
      rw [if_neg hsession]
      refine .inserted { newEntry s a nowMs with deliverySessionId := _ } ⟨rfl, ?_, ?_⟩ hroom
      · exact fun _ => ⟨rfl, newDeliverySessionId_fresh hsession⟩
      · exact fun hin => absurd (hin.symm.trans hout) Bool.false_ne_true
    · rw [if_neg hout]
      have hsession : (newEntry s a nowMs).deliverySessionId = 0 :=
        DmEntry.session_of_frozen (startDelivery_frozen a.acked (baseEntry s a nowMs))
      have hinserted : Appended s a nowMs random _ := .inserted (newEntry s a nowMs)
        ⟨rfl, fun h => absurd h hout, fun _ => hsession⟩ hroom
      rw [hsession] at hinserted
      exact hinserted

theorem oldestBlocksAppend_iff (s : DmStore) :
    oldestBlocksAppend s = true ↔ s.entries.count = dmStoreCapacity ∧
      (s.entries.slots ⟨s.entries.head, s.entries.head_lt⟩).outbound = true ∧
      deliveryStateTerminal
        (publicState s (s.entries.slots ⟨s.entries.head, s.entries.head_lt⟩)) = false := by
  have hblocks : oldestBlocksAppend s = (decide (s.entries.count = dmStoreCapacity) &&
      (s.entries.slots ⟨s.entries.head, s.entries.head_lt⟩).outbound &&
      !deliveryStateTerminal
        (publicState s (s.entries.slots ⟨s.entries.head, s.entries.head_lt⟩))) := rfl
  rw [hblocks]
  simp only [Bool.and_eq_true, decide_eq_true_eq, Bool.not_eq_true', and_assoc]

theorem append_evicts_settled {e : DmEntry} (he : e ∈ s.rows)
    (hgone : e ∉ (appendInternal s a nowMs random).1.rows) (hout : e.outbound = true) :
    deliveryStateTerminal (publicState s e) = true := by
  have happended := appendInternal_appended s a nowMs random
  generalize appendInternal s a nowMs random = result at happended hgone
  cases happended with
  | refused error isError full => exact absurd he hgone
  | preview => exact absurd he hgone
  | inserted entry row room =>
    dsimp only at hgone
    rw [rows_insertRow] at hgone
    have hdropped : e ∉ retainedRows s := fun hmem => hgone (List.mem_append_left _ hmem)
    unfold retainedRows at hdropped
    by_cases hfull : s.entries.count < dmStoreCapacity
    · rw [if_pos hfull] at hdropped
      exact absurd he hdropped
    rw [if_neg hfull] at hdropped
    have hcount : s.entries.count = dmStoreCapacity := by
      have hle := s.entries.count_le
      omega
    obtain ⟨rest, hrows⟩ := s.entries.toList_head_of_full hcount
    replace hrows : s.rows = _ :: rest := hrows
    rw [hrows] at he hdropped
    have holdest : e = s.entries.slots ⟨s.entries.head, s.entries.head_lt⟩ :=
      (List.mem_cons.mp he).resolve_right hdropped
    by_contra hopen
    have hblocks : oldestBlocksAppend s = true := by
      rw [oldestBlocksAppend_iff, ← holdest]
      exact ⟨hcount, hout, by simpa using hopen⟩
    exact absurd (room.symm.trans hblocks) Bool.false_ne_true

theorem append_refused (h : (appendInternal s a nowMs random).2.error ≠ espOk) :
    (appendInternal s a nowMs random).1 = s := by
  have happended := appendInternal_appended s a nowMs random
  generalize appendInternal s a nowMs random = result at happended h ⊢
  cases happended with
  | refused error isError full => rfl
  | preview => exact absurd rfl h
  | inserted entry row room => exact absurd rfl h

theorem append_noMem (h : (appendInternal s a nowMs random).2.error = espErrNoMem) :
    ∃ e, s.rows.head? = some e ∧ e ∈ s.rows ∧ e.outbound = true ∧
      deliveryStateTerminal (publicState s e) = false := by
  have happended := appendInternal_appended s a nowMs random
  generalize appendInternal s a nowMs random = result at happended h
  cases happended with
  | preview => exact absurd h (show espOk ≠ espErrNoMem by decide)
  | inserted entry row room => exact absurd h (show espOk ≠ espErrNoMem by decide)
  | refused error isError full =>
    obtain ⟨hcount, hout, hopen⟩ := (oldestBlocksAppend_iff s).mp (full h)
    obtain ⟨rest, hrows⟩ := s.entries.toList_head_of_full hcount
    replace hrows : s.rows = _ :: rest := hrows
    refine ⟨_, ?_, ?_, hout, hopen⟩
    · rw [hrows]
      rfl
    · rw [hrows]
      exact List.mem_cons_self

end Append

structure AppendFair (l : OwnerLog) : Prop where
  evicts : ∀ a nowMs random, ∀ e ∈ l.store.rows,
    e ∉ (appendInternal l.store a nowMs random).1.rows → e.outbound = true →
    deliveryStateTerminal (publicState l.store e) = true
  refuses : ∀ a nowMs random, (appendInternal l.store a nowMs random).2.error = espErrNoMem →
    ∃ e, l.store.rows.head? = some e ∧ e.outbound = true ∧ e.deliverySessionId ∈ l.created
  unchanged : ∀ a nowMs random, (appendInternal l.store a nowMs random).2.error ≠ espOk →
    (appendInternal l.store a nowMs random).1 = l.store

structure OwnedRow (created : List UInt64) (e : DmEntry) : Prop where
  sound : RowSound e
  owner : unsettled e = true → e.deliverySessionId ∈ created

structure OwnerInv (l : OwnerLog) : Prop where
  ordered : DeviceOrdered l.store
  rows : ∀ e ∈ l.store.rows, OwnedRow l.created e
  pending : ∀ p ∈ l.store.ackPersistencePending,
    deliveryStateTerminal p.previousState = false → p.deliverySessionId ∈ l.created

theorem unsettled_iff {e : DmEntry} : unsettled e = true ↔
    e.outbound = true ∧ deliveryStateTerminal e.deliveryState = false := by
  simp only [unsettled, Bool.and_eq_true, Bool.not_eq_true']

theorem OwnedRow.mono {created created' : List UInt64} {e : DmEntry} (h : OwnedRow created e)
    (hsub : created ⊆ created') : OwnedRow created' e :=
  ⟨h.sound, fun hopen => hsub (h.owner hopen)⟩

theorem OwnerInv.fair {l : OwnerLog} (h : OwnerInv l) : AppendFair l where
  evicts := fun _ _ _ _ he hgone hout => append_evicts_settled he hgone hout
  unchanged := fun _ _ _ herror => append_refused herror
  refuses := by
    intro a nowMs random herror
    obtain ⟨e, hhead, hmem, hout, hopen⟩ := append_noMem herror
    refine ⟨e, hhead, hout, ?_⟩
    unfold publicState at hopen
    cases hfind : findAckPersistencePending l.store e.deliverySessionId e.deliveryRevision with
    | none =>
      rw [hfind] at hopen
      exact (h.rows e hmem).owner (unsettled_iff.mpr ⟨hout, hopen⟩)
    | some p =>
      rw [hfind] at hopen
      have hmatch := List.find?_some hfind
      have hsession : p.deliverySessionId = e.deliverySessionId :=
        of_decide_eq_true (Bool.and_eq_true_iff.mp hmatch).1
      rw [← hsession]
      exact h.pending p (List.mem_of_find?_eq_some hfind) hopen

section Merges

variable {created : List UInt64} {dest source : DmEntry} {newer : Bool}

theorem mergeMatchedRow_owned (hd : OwnedRow created dest) (hs : RowSound source)
    (hpair : entryIdentityEqual dest source = true)
    (hcopy : unsettled source = true → (dest.deliveryRevision < source.deliveryRevision ∨
      newer = true ∧ source.deliveryRevision = dest.deliveryRevision) →
      source.deliverySessionId ∈ created) :
    OwnedRow created (mergeMatchedRow dest source newer) := by
  refine ⟨mergeMatchedRow_sound newer hd.sound hs hpair, fun hopen => ?_⟩
  obtain ⟨hout, hstate⟩ := unsettled_iff.mp hopen
  have hfrozen := mergeMatchedRow_frozen dest source newer
  rw [DmEntry.outbound_of_frozen hfrozen] at hout
  rw [DmEntry.session_of_frozen hfrozen]
  rcases mergeMatchedRow_delivery_cases dest source newer with
    ⟨hkept, -⟩ | ⟨-, hsource, htaken, hcopied, -⟩
  · rw [hkept] at hstate
    exact hd.owner (unsettled_iff.mpr ⟨hout, hstate⟩)
  · rw [hcopied] at hstate
    rw [session_of_paired hd.sound hout hpair]
    exact hcopy (unsettled_iff.mpr ⟨hsource, hstate⟩) htaken

theorem mergeClosed_owned (created : List UInt64) : MergeClosed (OwnedRow created) where
  withSeq := fun _ n h => ⟨h.sound.withSeq n, h.owner⟩
  matched := fun _ _ _ hd hs _ hpair =>
    mergeMatchedRow_owned hd hs.sound hpair fun hopen _ => hs.owner hopen

/-- A card row that a merge of the same epoch leaves open for no earlier boot: one of this boot
or over, one that is not kept, or one whose retained copies are all ahead of it. -/
def cardRowOwned (created : List UInt64) (s : DmStore) (primary : DmBlob) (u : DmEntry) : Prop :=
  (unsettled u = true → u.deliverySessionId ∈ created) ∨
    if unmatchedCard s u then cardRowKept s primary.rows u = false
    else ∀ y ∈ s.rows, entryIdentityEqual y u = true →
      ¬(y.deliveryRevision < u.deliveryRevision ∨
        decide (s.contentRevision < primary.contentRevision) = true ∧
          u.deliveryRevision = y.deliveryRevision)

variable {s : DmStore} {primary : DmBlob}

theorem Absorbed.owned {y r : DmEntry} (hvalid : BlobValid primary)
    (hcards : ∀ u ∈ primary.rows, cardRowOwned created s primary u) (hy : y ∈ s.rows)
    (hown : OwnedRow created y)
    (habs : Absorbed s (decide (s.contentRevision < primary.contentRevision)) primary.rows y r) :
    OwnedRow created r ∧ y.deliveryRevision ≤ r.deliveryRevision := by
  induction habs with
  | refl => exact ⟨hown, le_rfl⟩
  | @step r u before mem paired first ih =>
    obtain ⟨hr, hrevision⟩ := ih
    have hpairY := before.paired_ram hvalid.rows mem paired
    have hmatched : ¬unmatchedCard s u = true := by
      intro hun
      have hnot := List.all_eq_true.mp hun y hy
      rw [hpairY] at hnot
      exact Bool.noConfusion hnot
    refine ⟨mergeMatchedRow_owned hr (hvalid.rows.row_sound mem) paired ?_, ?_⟩
    · intro hopen hcopy
      rcases hcards u mem with hownU | hbehind
      · exact hownU hopen
      rw [if_neg hmatched] at hbehind
      refine absurd ?_ (hbehind y hy hpairY)
      rcases hcopy with hlt | ⟨hnewer, heq⟩
      · exact .inl (hrevision.trans_lt hlt)
      · rcases hrevision.lt_or_eq with hlt | hsame
        · exact .inl (heq ▸ hlt)
        · exact .inr ⟨hnewer, heq.trans hsame.symm⟩
    · rcases mergeMatchedRow_delivery_cases r u
        (decide (s.contentRevision < primary.contentRevision)) with
        ⟨-, hsame⟩ | ⟨-, -, hcopy, -, hsame⟩
      · rw [hsame]
        exact hrevision
      · rw [hsame]
        rcases hcopy with hlt | ⟨-, heq⟩
        · exact hrevision.trans hlt.le
        · rw [heq]
          exact hrevision

theorem mergeSameEpoch_owned (hs : RowsOrdered s) (hrows : ∀ e ∈ s.rows, OwnedRow created e)
    (hvalid : BlobValid primary)
    (hcards : ∀ u ∈ primary.rows, cardRowOwned created s primary u) :
    ∀ e ∈ (mergeSameEpoch s primary).store.rows, OwnedRow created e := by
  refine mergeSameEpoch_source_forall hs hvalid (mergeClosed_owned created).withSeq hrows ?_ ?_
  · intro u hu hun hkept
    refine ⟨hvalid.rows.row_sound hu, ?_⟩
    rcases hcards u hu with hown | hsettled
    · exact hown
    · rw [if_pos hun] at hsettled
      exact absurd (hsettled.symm.trans hkept) Bool.false_ne_true
  · intro y hy r habs
    exact (habs.owned hvalid hcards hy (hrows y hy)).1

end Merges

/-- The history that init has put together from NVS and the card, before its two passes, holds
no outbound row that is queued or waits for a retry. -/
def NothingWaiting (s : DmStore) (reads : InitReads) : Prop :=
  ∀ e ∈ (initRollback (initMerge (initLoad s reads) reads).1 reads).rows,
    e.outbound = true → e.deliveryState ≠ .queued ∧ e.deliveryState ≠ .retryWait

/-- A card that is taken over after init brings in no open row of an earlier boot. -/
def CardOwned (l : OwnerLog) (primary : DmBlob) : Prop :=
  if !incomingClearDominates l.store primary && primary.epoch = l.store.epoch then
    ∀ u ∈ primary.rows, cardRowOwned l.created l.store primary u
  else ∀ u ∈ primary.rows, unsettled u = true → u.deliverySessionId ∈ l.created

def OwnersOk (l : OwnerLog) : OwnerAct → Prop
  | .device (.init reads) =>
    l.device.phase = .idle → l.store.loaded = false → NothingWaiting l.store reads
  | .device (.reconcile (.found stored generationMatches)) =>
    (∃ sdPrimaryRequired, l.device.phase = .reconciling sdPrimaryRequired) →
      generationMatches = true → primaryIgnored l.store stored.blob = false →
      (mergePrimary l.store stored.blob).ret = espOk → CardOwned l stored.blob
  | .device (.call (.transition a)) =>
    -- a delivery that was over is not opened again for a row of an earlier boot
    ∀ k, findDeliverySession l.store a.deliverySessionId = some k →
      transitionRefused (l.store.entries.slots k) a = false →
      deliveryStateTerminal a.expectedState = true → deliveryStateTerminal a.nextState = false →
      a.deliverySessionId ∈ l.created
  | _ => True

section Steps

variable {l : OwnerLog} {created : List UInt64} {s s' : DmStore}

theorem not_waiting_terminal {e : DmEntry} (hsound : RowSound e) (hout : e.outbound = true)
    (hwaiting : e.deliveryState ≠ .queued ∧ e.deliveryState ≠ .retryWait)
    (hflight : deliveryInterrupted e = false) : deliveryStateTerminal e.deliveryState = true := by
  have hstate := ((deliveryMetadataIsValid_outbound_iff hout).mp hsound.delivery).state
  have hnot : deliveryInterruptedByReboot e.deliveryState = false := by
    simpa [deliveryInterrupted, hout] using hflight
  obtain ⟨hqueued, hretry⟩ := hwaiting
  cases hcase : e.deliveryState <;> rw [hcase] at hstate hnot hqueued hretry <;>
    simp_all [deliveryStateTerminal, deliveryInterruptedByReboot]

theorem initStore_owned {reads : InitReads} (hok : NothingWaiting s reads) :
    ∀ e ∈ (initStore s reads).1.rows, OwnedRow created e := by
  have hloaded : ∀ e ∈ (initRollback (initMerge (initLoad s reads) reads).1 reads).rows,
      RowSound e ∧ (e.outbound = true →
        e.deliveryState ≠ .queued ∧ e.deliveryState ≠ .retryWait) := by
    intro e he
    have hsound := initRollback_forall (s := s) mergeClosed_sound
      (fun b hb e he => (blobsRead_valid hb).rows.row_sound he) e he
    exact ⟨hsound, hok e he⟩
  have hack : ∀ e ∈ (normalizeInterruptedAck
      (initRollback (initMerge (initLoad s reads) reads).1 reads)).1.rows,
      RowSound e ∧ (e.outbound = true →
        e.deliveryState ≠ .queued ∧ e.deliveryState ≠ .retryWait) := by
    refine normalizeWith_forall ?_ ?_ hloaded
    · exact fun e he hi => ⟨settleInterruptedAck_sound he.1 hi, he.2⟩
    · exact fun e he _ => he
  refine normalizeWith_forall ?_ ?_ hack
  · intro e he hi
    refine ⟨settleInterruptedDelivery_sound he.1 hi, fun hopen => ?_⟩
    have hover : deliveryStateTerminal .interruptedByReboot = false := (unsettled_iff.mp hopen).2
    exact absurd hover (by decide)
  · intro e he hi
    refine ⟨he.1, fun hopen => ?_⟩
    obtain ⟨hout, hstate⟩ := unsettled_iff.mp hopen
    have hover := not_waiting_terminal he.1 hout (he.2 hout) hi
    exact absurd (hstate.symm.trans hover) Bool.false_ne_true

theorem OwnerInv.found (h : OwnerInv l) {stored : StoredBlob} {generationMatches : Bool}
    (hok : generationMatches = true → primaryIgnored l.store stored.blob = false →
      (mergePrimary l.store stored.blob).ret = espOk → CardOwned l stored.blob) :
    ∀ e ∈ (reconcileLocked l.store stored generationMatches).1.rows, OwnedRow l.created e := by
  have hvalid := (blobIsValid_iff _).mp stored.valid
  by_cases hret : (mergePrimary l.store stored.blob).ret = espOk
  swap
  · rw [reconcileLocked_rows_refused (.inl hret)]
    exact h.rows
  cases hgeneration : generationMatches with
  | false =>
    rw [reconcileLocked_rows_refused (.inr rfl)]
    exact h.rows
  | true =>
    have hrows : ∀ e ∈ (mergePrimary l.store stored.blob).store.rows, OwnedRow l.created e := by
      by_cases hignored : primaryIgnored l.store stored.blob = true
      · unfold mergePrimary
        rw [if_pos hignored]
        exact h.rows
      have hcards := hok hgeneration (by simpa using hignored) hret
      unfold CardOwned at hcards
      unfold mergePrimary
      rw [if_neg hignored]
      split_ifs at hcards ⊢
      · exact mergeSameEpoch_owned h.ordered.rows h.rows hvalid hcards
      · exact (mergeOverlay_forall (Q := fun _ => True) (mergeClosed_owned l.created)
          ⟨h.rows, fun _ _ => trivial⟩
          fun u hu => ⟨hvalid.rows.row_sound hu, hcards u hu⟩).1
    unfold reconcileLocked
    dsimp only
    rw [if_neg (not_not.mpr hret)]
    exact hrows

theorem OwnerInv.transition (h : OwnerInv l) (a : TransitionArgs)
    (hok : OwnersOk l (.device (.call (.transition a)))) :
    (∀ e ∈ (transitionDelivery l.store a).1.rows, OwnedRow l.created e) ∧
      ∀ p ∈ (transitionDelivery l.store a).1.ackPersistencePending,
        deliveryStateTerminal p.previousState = false → p.deliverySessionId ∈ l.created := by
  have hsound := rowSound_mutated (transitionDelivery_mutated l.store a) fun e he =>
    (h.rows e he).sound
  rcases transitionDelivery_cases l.store a with
    hsame | ⟨k, hfind, -, -, -, hallowed, -, heq⟩
  · rw [hsame]
    exact ⟨h.rows, h.pending⟩
  obtain ⟨hused, hsession⟩ := findDeliverySession_eq_some hfind
  have hstep := transitionRefused_eq_false hallowed
  have hopen : deliveryStateTerminal (l.store.entries.slots k).deliveryState = false →
      a.deliverySessionId ∈ l.created := by
    intro hstate
    rw [← hsession]
    exact (h.rows _ (Ring.slots_mem_of_used hused)).owner
      (unsettled_iff.mpr ⟨hstep.outbound, hstate⟩)
  rw [heq] at hsound ⊢
  constructor
  · refine fun e he => ⟨hsound e he, ?_⟩
    revert e
    refine forall_old_row k hused (fun e he => (h.rows e he).owner) fun _ hafter => ?_
    have hnext : deliveryStateTerminal a.nextState = false := (unsettled_iff.mp hafter).2
    change (l.store.entries.slots k).deliverySessionId ∈ l.created
    rw [hsession]
    cases hbefore : deliveryStateTerminal a.expectedState with
    | true => exact hok k hfind hallowed hbefore hnext
    | false =>
      apply hopen
      rw [hstep.state]
      exact hbefore
  · intro p hp hprevious
    rcases List.mem_append.mp hp with hold | hnew
    · exact h.pending p hold hprevious
    · split_ifs at hnew
      · obtain ⟨hsame, -, hstate⟩ :=
          reserveAckPersistencePending_eq_some (Option.mem_toList.mp hnew)
        rw [hsame, hsession]
        apply hopen
        rw [← hstate]
        exact hprevious
      · exact absurd hnew List.not_mem_nil

theorem OwnerInv.append (h : OwnerInv l) (a : AppendArgs) (nowMs : Nat) (random : Fin 8 → UInt64) :
    (∀ e ∈ (appendInternal l.store a nowMs random).1.rows,
      OwnedRow (l.created ++ sessionsCreated l.device (.call (.append a nowMs random))) e) ∧
    (appendInternal l.store a nowMs random).1.ackPersistencePending =
      l.store.ackPersistencePending := by
  have hsound := rowSound_mutated (appendInternal_mutated l.store a nowMs random) fun e he =>
    (h.rows e he).sound
  have hold : ∀ e ∈ l.store.rows,
      OwnedRow (l.created ++ sessionsCreated l.device (.call (.append a nowMs random))) e :=
    fun e he => (h.rows e he).mono (List.subset_append_left _ _)
  have happended := appendInternal_appended l.store a nowMs random
  have hlog : sessionsCreated l.device (.call (.append a nowMs random)) =
      if (appendInternal l.store a nowMs random).2.inserted then
        [(appendInternal l.store a nowMs random).2.deliverySessionId] else [] := rfl
  rw [hlog] at hold ⊢
  generalize appendInternal l.store a nowMs random = result at happended hsound hold ⊢
  cases happended with
  | refused error isError full => exact ⟨hold, rfl⟩
  | preview => exact ⟨hold, rfl⟩
  | inserted entry row room =>
    refine ⟨fun e he => ⟨hsound e he, ?_⟩, rfl⟩
    dsimp only at he hold ⊢
    rw [rows_insertRow] at he
    rcases List.mem_append.mp he with hkept | hnew
    · exact (hold e ((retainedRows_sublist l.store).subset hkept)).owner
    · rw [List.mem_singleton.mp hnew]
      exact fun _ => List.mem_append_right _ (List.mem_singleton.mpr rfl)

theorem ownedRow_mutated {op : DmOp} (hrows : ∀ e ∈ s.rows, OwnedRow created e)
    (hm : Mutated s op s') (htransition : ∀ a, op ≠ .transition a)
    (happend : ∀ a nowMs random, op ≠ .append a nowMs random) :
    (∀ e ∈ s'.rows, OwnedRow created e) ∧ s'.ackPersistencePending = s.ackPersistencePending := by
  have hsound := rowSound_mutated hm fun e he => (hrows e he).sound
  cases hm with
  | refused => exact ⟨hrows, rfl⟩
  | preview a nowMs random check => exact ⟨hrows, rfl⟩
  | inserted a nowMs random entry ready row => exact absurd rfl (happend a nowMs random)
  | rewritten op k row pending used update other dispatched =>
    obtain ⟨hfrozen, hpart, rfl⟩ := other htransition
    refine ⟨fun e he => ⟨hsound e he, ?_⟩, rfl⟩
    revert e
    refine forall_old_row k used (fun e he => (hrows e he).owner) fun hmem hopen => ?_
    obtain ⟨hout, hstate⟩ := unsettled_iff.mp hopen
    rw [DmEntry.outbound_of_frozen hfrozen] at hout
    rw [(DmEntry.state_of_deliveryPart hpart).1] at hstate
    rw [DmEntry.session_of_frozen hfrozen]
    exact (hrows _ hmem).owner (unsettled_iff.mpr ⟨hout, hstate⟩)

theorem OwnerInv.called (h : OwnerInv l) {op : DmOp} (hcall : op.isCall = true)
    (hok : OwnersOk l (.device (.call op))) :
    (∀ e ∈ (stepStore l.store op).rows,
      OwnedRow (l.created ++ sessionsCreated l.device (.call op)) e) ∧
    ∀ p ∈ (stepStore l.store op).ackPersistencePending,
      deliveryStateTerminal p.previousState = false →
      p.deliverySessionId ∈ l.created ++ sessionsCreated l.device (.call op) := by
  have hsub : l.created ⊆ l.created ++ sessionsCreated l.device (.call op) :=
    List.subset_append_left _ _
  by_cases htransition : ∃ a, op = .transition a
  · obtain ⟨a, rfl⟩ := htransition
    obtain ⟨hrows, hpending⟩ := h.transition a hok
    exact ⟨fun e he => (hrows e he).mono hsub,
      fun p hp hprevious => hsub (hpending p hp hprevious)⟩
  by_cases happend : ∃ a nowMs random, op = .append a nowMs random
  · obtain ⟨a, nowMs, random, rfl⟩ := happend
    obtain ⟨hrows, hpending⟩ := h.append a nowMs random
    refine ⟨hrows, fun p hp hprevious => hsub (h.pending p ?_ hprevious)⟩
    rw [← hpending]
    exact hp
  rcases stepStore_call hcall l.store with ⟨lineage, rfl⟩ | hm
  · exact ⟨fun e he => absurd he List.not_mem_nil, fun p hp => absurd hp List.not_mem_nil⟩
  · obtain ⟨hrows, hpending⟩ := ownedRow_mutated h.rows hm (fun a heq => htransition ⟨a, heq⟩)
      fun a nowMs random heq => happend ⟨a, nowMs, random, heq⟩
    refine ⟨fun e he => (hrows e he).mono hsub,
      fun p hp hprevious => hsub (h.pending p ?_ hprevious)⟩
    rw [← hpending]
    exact hp

end Steps

section Runs

variable {l : OwnerLog}

theorem OwnerInv.of_same (h : OwnerInv l) {act : DmAct}
    (hrows : (stepDevice l.device act).store.rows = l.store.rows)
    (hpending : (stepDevice l.device act).store.ackPersistencePending =
        l.store.ackPersistencePending ∨
      (stepDevice l.device act).store.ackPersistencePending = []) :
    OwnerInv (stepOwner l (.device act)) := by
  have hsub : l.created ⊆ l.created ++ sessionsCreated l.device act :=
    List.subset_append_left _ _
  refine ⟨h.ordered.step act, ?_, ?_⟩
  · change ∀ e ∈ (stepDevice l.device act).store.rows, _
    rw [hrows]
    exact fun e he => (h.rows e he).mono hsub
  · change ∀ p ∈ (stepDevice l.device act).store.ackPersistencePending, _
    rcases hpending with hkept | hcleared
    · rw [hkept]
      exact fun p hp hprevious => hsub (h.pending p hp hprevious)
    · rw [hcleared]
      exact fun p hp => absurd hp List.not_mem_nil

theorem OwnerInv.device (h : OwnerInv l) (act : DmAct) (hok : OwnersOk l (.device act)) :
    OwnerInv (stepOwner l (.device act)) := by
  have hordered := h.ordered.step act
  have hacted := stepDevice_acted l.device act
  generalize hdevice : stepDevice l.device act = d at hacted
  cases hacted with
  | ignored => exact h.of_same (by rw [hdevice]; rfl) (.inl (by rw [hdevice]; rfl))
  | loaded reads idle unloaded =>
    refine ⟨hordered, ?_, ?_⟩
    · change ∀ e ∈ (stepDevice l.device (.init reads)).store.rows, _
      rw [hdevice]
      exact initStore_owned (hok idle unloaded)
    · change ∀ p ∈ (stepDevice l.device (.init reads)).store.ackPersistencePending, _
      rw [hdevice, (initStore_noTable l.device.store reads).pending]
      exact fun p hp => absurd hp List.not_mem_nil
  | called op call =>
    obtain ⟨hrows, hpending⟩ := h.called call hok
    refine ⟨hordered, ?_, ?_⟩
    · change ∀ e ∈ (stepDevice l.device (.call op)).store.rows, _
      rw [hdevice]
      exact hrows
    · change ∀ p ∈ (stepDevice l.device (.call op)).store.ackPersistencePending, _
      rw [hdevice]
      exact hpending
  | began sdPrimaryRequired generation attemptMs force idle =>
    obtain ⟨hrows, -, -, -, htable⟩ :=
      persistBegin_table l.device.store sdPrimaryRequired generation attemptMs force rfl
    refine h.of_same ?_ ?_
    · rw [hdevice, beginPersist_same]
      exact hrows
    · rw [hdevice, beginPersist_same]
      exact htable.imp_right fun hcleared => hcleared.1
  | reconciled sdPrimaryRequired read phase =>
    cases read with
    | unfinished => exact h.of_same (by rw [hdevice]; rfl) (.inl (by rw [hdevice]; rfl))
    | failed error => exact h.of_same (by rw [hdevice]; rfl) (.inl (by rw [hdevice]; rfl))
    | notFound => exact h.of_same (by rw [hdevice]; rfl) (.inl (by rw [hdevice]; rfl))
    | found stored generationMatches =>
      have hfound := h.found (hok ⟨sdPrimaryRequired, phase⟩)
      have htable := reconcileLocked_pending l.device.store stored generationMatches
      have hstore :
          (stepDevice l.device (.reconcile (.found stored generationMatches))).store.rows =
            (reconcileLocked l.device.store stored generationMatches).1.rows ∧
          (stepDevice l.device
            (.reconcile (.found stored generationMatches))).store.ackPersistencePending =
            (reconcileLocked l.device.store stored generationMatches).1.ackPersistencePending := by
        obtain ⟨hread, -⟩ :=
          reconcileRead_found l.device.store sdPrimaryRequired stored generationMatches
        rw [hdevice]
        rcases hread with hsame | ⟨error, hfailed⟩
        · rw [hsame]
          exact ⟨rfl, rfl⟩
        · rw [hfailed]
          exact ⟨rfl, rfl⟩
      refine ⟨hordered, ?_, ?_⟩
      · change ∀ e ∈ (stepDevice l.device
          (.reconcile (.found stored generationMatches))).store.rows, _
        rw [hstore.1]
        exact fun e he => (hfound e he).mono (List.subset_append_left _ _)
      · change ∀ p ∈ (stepDevice l.device
          (.reconcile (.found stored generationMatches))).store.ackPersistencePending, _
        rw [hstore.2]
        rcases htable with hkept | hcleared
        · rw [hkept]
          exact fun p hp hprevious =>
            List.subset_append_left _ _ (h.pending p hp hprevious)
        · rw [hcleared]
          exact fun p hp => absurd hp List.not_mem_nil
  | collected sdPrimaryRequired phase taken =>
    exact h.of_same (by rw [hdevice]; rfl) (.inl (by rw [hdevice]; rfl))
  | finished sdPrimaryRequired snapshot sdRet nvsRet phase =>
    generalize hfinish : persistFinish l.device.store snapshot sdPrimaryRequired
      (attemptedRet snapshot.sdAttempt sdRet) (attemptedRet snapshot.nvsAttempt nvsRet) = s'
      at hdevice
    obtain ⟨hrows, -, -, -, htable⟩ := persistFinish_table hfinish
    refine h.of_same ?_ ?_
    · rw [hdevice]
      exact hrows
    · rw [hdevice]
      exact htable.imp_right fun hcleared => hcleared.1
  | fallback sdPrimaryRequired snapshot sdRet nvsRet phase =>
    refine h.of_same ?_ (.inl ?_)
    · rw [hdevice]
      exact (sameRows_of_rest (updateNvsResult_rest _ _ _ _)).history.rows
    · rw [hdevice]
      change (updateNvsResult l.device.store nvsRet snapshot.stateRevision
        sdPrimaryRequired).ackPersistencePending = _
      unfold updateNvsResult markPersisted
      dsimp only
      split_ifs <;> rfl
  | abandoned sdPrimaryRequired snapshot phase =>
    exact h.of_same (by rw [hdevice]; rfl) (.inl (by rw [hdevice]; rfl))

theorem ownerInv_powerUp : OwnerInv ownerPowerUp :=
  ⟨deviceOrdered_powerUp, fun _ he => absurd he List.not_mem_nil,
    fun _ hp => absurd hp List.not_mem_nil⟩

theorem OwnerInv.step (h : OwnerInv l) (act : OwnerAct) (hok : OwnersOk l act) :
    OwnerInv (stepOwner l act) := by
  cases act with
  | device act => exact h.device act hok
  | powerLoss => exact ownerInv_powerUp

theorem run_appends_fair (acts : List OwnerAct) (hok : RunOk stepOwner OwnersOk ownerPowerUp acts) :
    AppendFair (runSteps stepOwner ownerPowerUp acts) := by
  have hrun : OwnerInv (runSteps stepOwner ownerPowerUp acts) :=
    run_invariant (fun _ act h hact => h.step act hact) hok ownerInv_powerUp
  exact hrun.fair

def loadNvs (stored : StoredBlob) : DmAct :=
  .init
    { enabled := false, generation := 0, nvs := .ok stored, sd := .error espErrNotFound
      generationMatchesAfterRead := true, generationMatchesAfterMerge := true }

/-- A message that waited for its ACK when the power went, and one sent in this boot. -/
def settledThenSent : List OwnerAct :=
  [.device (loadNvs awaitingBlob), .device (.call (.append sentArgs 20 fun _ => 2)), .powerLoss,
    .device (loadNvs awaitingBlob), .device (.call (.append sentArgs 20 fun _ => 2))]

theorem run_appends_fair_settled :
    AppendFair (runSteps stepOwner ownerPowerUp settledThenSent) :=
  run_appends_fair settledThenSent (by
    refine ⟨fun _ _ => ?_, trivial, trivial, fun _ _ => ?_, trivial, trivial⟩
    · unfold NothingWaiting
      decide +kernel
    · unfold NothingWaiting
      decide +kernel)

/-- A message of an earlier boot that was still queued when the power went. -/
def queuedHistory : DmStore := (appendInternal loadedStore sentArgs 10 fun _ => 1).1

def queuedBlob : StoredBlob := ⟨fillBlob queuedHistory, false, by decide +kernel⟩

def receive (count : Nat) : List OwnerAct :=
  List.replicate count (.device (.call (.append receivedArgs 20 fun _ => 1)))

/-- The row nobody owns becomes the oldest of a full ring, and the next message is refused. -/
def queuedThenFull : List OwnerAct := .device (loadNvs queuedBlob) :: receive 15

theorem queued_row_locks_out : ¬ ∀ acts, AppendFair (runSteps stepOwner ownerPowerUp acts) := by
  intro h
  have hrefused : (appendInternal (runSteps stepOwner ownerPowerUp queuedThenFull).store
      receivedArgs 30 fun _ => 1).2.error = espErrNoMem := by
    decide +kernel
  obtain ⟨e, hhead, -, hcreated⟩ := (h queuedThenFull).refuses receivedArgs 30 (fun _ => 1) hrefused
  have holdest : (runSteps stepOwner ownerPowerUp queuedThenFull).store.rows.head?.map
      DmEntry.deliverySessionId = some 1 := by
    decide +kernel
  rw [hhead] at holdest
  have hsession : e.deliverySessionId = 1 := Option.some.inj holdest
  rw [hsession] at hcreated
  have hnone : (1 : UInt64) ∉ (runSteps stepOwner ownerPowerUp queuedThenFull).created := by
    decide +kernel
  exact hnone hcreated

end Runs

end Sigui.Dm

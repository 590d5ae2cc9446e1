import Sigui.DmRowOrder
import Sigui.DmAckTruth
import Sigui.DmSnapshots
import Sigui.DmLiveRows

/-! Rows in flight. The device is run beside what this boot has set in motion itself: the
delivery states its transitions reached and the ACK dispatches it reserved. A row that is in
flight for any other reason was left behind by an earlier boot. -/
namespace Sigui.Dm

structure BootLog where
  device : DmDevice
  ownDelivery : List (UInt64 × Nat × DeliveryState) := []
  ownAck : List (Digest × Nat) := []

def BootLog.store (l : BootLog) : DmStore := l.device.store

def deliveriesSet (d : DmDevice) : DmAct → List (UInt64 × Nat × DeliveryState)
  | .call (.transition a) =>
    let outcome := (transitionDelivery d.store a).2
    if outcome.changed then [(a.deliverySessionId, outcome.deliveryRevision, a.nextState)] else []
  | _ => []

def acksReserved (d : DmDevice) : DmAct → List (Digest × Nat)
  | .call (.reserveAck identityDigest dispatchKind flushNow) =>
    let outcome := (reserveAckDispatch d.store identityDigest dispatchKind flushNow).2
    if outcome.reserved then [(identityDigest, outcome.dispatchCount)] else []
  | _ => []

def stepBootLog (l : BootLog) (act : DmAct) : BootLog where
  device := stepDevice l.device act
  ownDelivery := l.ownDelivery ++ deliveriesSet l.device act
  ownAck := l.ownAck ++ acksReserved l.device act

def bootPowerUp : BootLog := { device := powerUp }

structure OwnRow (l : BootLog) (e : DmEntry) : Prop where
  delivery : deliveryInterrupted e = true →
    (e.deliverySessionId, e.deliveryRevision, e.deliveryState) ∈ l.ownDelivery
  ack : ackInterrupted e = true → (e.identityDigest, e.ackDispatchCount) ∈ l.ownAck

theorem DmEntry.state_of_deliveryPart {a b : DmEntry} (h : a.deliveryPart = b.deliveryPart) :
    a.deliveryState = b.deliveryState ∧ a.deliveryRevision = b.deliveryRevision := by
  change a.deliveryPart.deliveryState = b.deliveryPart.deliveryState ∧
    a.deliveryPart.deliveryRevision = b.deliveryPart.deliveryRevision
  rw [h]
  exact ⟨rfl, rfl⟩

theorem DmEntry.count_of_ackPart {a b : DmEntry} (h : a.ackPart = b.ackPart) :
    a.ackDispatchCount = b.ackDispatchCount ∧ a.ackState = b.ackState := by
  change a.ackPart.ackDispatchCount = b.ackPart.ackDispatchCount ∧
    a.ackPart.ackState = b.ackPart.ackState
  rw [h]
  exact ⟨rfl, rfl⟩

section Merged

variable (dest source : DmEntry) (newer : Bool)

theorem mergeMatchedRow_delivery_cases :
    ((mergeMatchedRow dest source newer).deliveryState = dest.deliveryState ∧
      (mergeMatchedRow dest source newer).deliveryRevision = dest.deliveryRevision) ∨
    (dest.outbound = true ∧ source.outbound = true ∧
      (dest.deliveryRevision < source.deliveryRevision ∨
        newer = true ∧ source.deliveryRevision = dest.deliveryRevision) ∧
      (mergeMatchedRow dest source newer).deliveryState = source.deliveryState ∧
      (mergeMatchedRow dest source newer).deliveryRevision = source.deliveryRevision) := by
  obtain ⟨hstate, hrevision⟩ :=
    DmEntry.state_of_deliveryPart (mergeMatchedRow_deliveryPart dest source newer)
  rw [hstate, hrevision]
  unfold mergeDeliveryMetadata
  split_ifs with hout hcopy
  · exact .inl ⟨rfl, rfl⟩
  · have hboth : dest.outbound = true ∧ source.outbound = true := by
      simpa [mergeFlags, DmEntry.outbound] using hout
    exact .inr ⟨hboth.1, hboth.2, hcopy, rfl, rfl⟩
  · exact .inl ⟨rfl, rfl⟩

theorem mergeMatchedRow_ack_cases :
    ((mergeMatchedRow dest source newer).identityDigestValid = dest.identityDigestValid ∧
      (mergeMatchedRow dest source newer).identityDigest = dest.identityDigest ∧
      (mergeMatchedRow dest source newer).ackDispatchCount = dest.ackDispatchCount ∧
      (mergeMatchedRow dest source newer).ackState = dest.ackState) ∨
    (((mergeMatchedRow dest source newer).identityDigestValid = source.identityDigestValid ∧
      (mergeMatchedRow dest source newer).identityDigest = source.identityDigest ∧
      (mergeMatchedRow dest source newer).ackDispatchCount = source.ackDispatchCount ∧
      (mergeMatchedRow dest source newer).ackState = source.ackState) ∧
      source.identityDigestValid = true ∧
      (dest.identityDigestValid = true → dest.identityDigest = source.identityDigest ∧
        dest.ackDispatchCount ≤ source.ackDispatchCount ∧
        (dest.ackDispatchCount < source.ackDispatchCount ∨
          ackStateMergeRank dest.ackState < ackStateMergeRank source.ackState ∨
          source.ackState = dest.ackState))) := by
  have hpart := mergeMatchedRow_ackPart dest source newer
  obtain ⟨hvalid, hdigest⟩ := DmEntry.digest_of_ackPart hpart
  obtain ⟨hcount, hstate⟩ := DmEntry.count_of_ackPart hpart
  rw [hvalid, hdigest, hcount, hstate]
  unfold mergeAckMetadata
  split_ifs with hsource hdest hkeep hcopy
  · exact .inl ⟨rfl, rfl, rfl, rfl⟩
  · refine .inr ⟨⟨rfl, rfl, rfl, rfl⟩, by simpa using hsource, fun hd => ?_⟩
    rw [hd] at hdest
    exact Bool.noConfusion hdest
  · exact .inl ⟨rfl, rfl, rfl, rfl⟩
  · simp only [not_or, not_not, not_lt] at hkeep
    refine .inr ⟨⟨rfl, rfl, rfl, rfl⟩, by simpa using hsource, fun _ => ⟨hkeep.1, hkeep.2, ?_⟩⟩
    exact hcopy.imp_right fun hmore => hmore.imp_right fun hsame => hsame.2
  · exact .inl ⟨rfl, rfl, rfl, rfl⟩

variable {dest source newer}

theorem deliveryInterrupted_iff {e : DmEntry} : deliveryInterrupted e = true ↔
    e.outbound = true ∧ deliveryInterruptedByReboot e.deliveryState = true :=
  Bool.and_eq_true_iff

theorem ackInterrupted_iff {e : DmEntry} : ackInterrupted e = true ↔
    e.identityDigestValid = true ∧ e.ackState = .pending := by
  simp only [ackInterrupted, Bool.and_eq_true, decide_eq_true_eq]

theorem mergeMatchedRow_own {l : BootLog} (hsound : RowSound dest)
    (hpair : entryIdentityEqual dest source = true) (hd : OwnRow l dest)
    (hdelivery : deliveryInterrupted source = true →
      (dest.deliveryRevision < source.deliveryRevision ∨
        newer = true ∧ source.deliveryRevision = dest.deliveryRevision) →
      (source.deliverySessionId, source.deliveryRevision, source.deliveryState) ∈ l.ownDelivery)
    (hack : ackInterrupted source = true →
      (dest.identityDigestValid = true → dest.identityDigest = source.identityDigest ∧
        dest.ackDispatchCount ≤ source.ackDispatchCount ∧
        (dest.ackDispatchCount < source.ackDispatchCount ∨
          ackStateMergeRank dest.ackState < ackStateMergeRank source.ackState ∨
          source.ackState = dest.ackState)) →
      (source.identityDigest, source.ackDispatchCount) ∈ l.ownAck) :
    OwnRow l (mergeMatchedRow dest source newer) where
  delivery := by
    intro hflight
    rw [deliveryInterrupted_iff] at hflight
    have hfrozen := mergeMatchedRow_frozen dest source newer
    rw [DmEntry.outbound_of_frozen hfrozen] at hflight
    rw [DmEntry.session_of_frozen hfrozen]
    rcases mergeMatchedRow_delivery_cases dest source newer with
      ⟨hstate, hrevision⟩ | ⟨hout, hsource, hcopy, hstate, hrevision⟩
    · rw [hstate] at hflight ⊢
      rw [hrevision]
      exact hd.delivery (deliveryInterrupted_iff.mpr hflight)
    · rw [hstate] at hflight ⊢
      rw [hrevision, session_of_paired hsound hout hpair]
      exact hdelivery (deliveryInterrupted_iff.mpr ⟨hsource, hflight.2⟩) hcopy
  ack := by
    intro hpending
    rw [ackInterrupted_iff] at hpending
    rcases mergeMatchedRow_ack_cases dest source newer with
      ⟨hvalid, hdigest, hcount, hstate⟩ | ⟨⟨hvalid, hdigest, hcount, hstate⟩, -, hcopy⟩
    · rw [hvalid, hstate] at hpending
      rw [hdigest, hcount]
      exact hd.ack (ackInterrupted_iff.mpr hpending)
    · rw [hvalid, hstate] at hpending
      rw [hdigest, hcount]
      exact hack (ackInterrupted_iff.mpr hpending) hcopy

structure SoundOwn (l : BootLog) (e : DmEntry) : Prop where
  sound : RowSound e
  own : OwnRow l e

theorem mergeClosed_own (l : BootLog) : MergeClosed (SoundOwn l) where
  withSeq := fun _ n h => ⟨h.sound.withSeq n, ⟨h.own.delivery, h.own.ack⟩⟩
  matched := fun _ _ newer hd hs _ hpair =>
    ⟨mergeMatchedRow_sound newer hd.sound hs.sound hpair,
      mergeMatchedRow_own hd.sound hpair hd.own (fun hflight _ => hs.own.delivery hflight)
        fun hpending _ => hs.own.ack hpending⟩

end Merged

section SameEpoch

variable {s : DmStore} {primary : DmBlob} {l : BootLog} {newer : Bool}

/-- Merged with the card's copy, the retained row keeps its own delivery and ACK. -/
def aheadOfCard (newer : Bool) (y u : DmEntry) : Prop :=
  (deliveryInterrupted u = true →
    ¬(y.deliveryRevision < u.deliveryRevision ∨
      newer = true ∧ u.deliveryRevision = y.deliveryRevision)) ∧
  (ackInterrupted u = true →
    y.identityDigestValid = true ∧ u.ackDispatchCount ≤ y.ackDispatchCount)

/-- A card row that a merge of the same epoch does not leave in flight: this boot's own, one
that is not kept, or one that every retained copy of it is ahead of. -/
def cardRowSettled (l : BootLog) (s : DmStore) (primary : DmBlob) (u : DmEntry) : Prop :=
  OwnRow l u ∨
    if unmatchedCard s u then cardRowKept s primary.rows u = false
    else ∀ y ∈ s.rows, entryIdentityEqual y u = true →
      aheadOfCard (decide (s.contentRevision < primary.contentRevision)) y u

theorem Absorbed.paired_ram {nextSeq : Nat} {cards : List DmEntry} {y r u : DmEntry}
    (hvalid : RowsValid nextSeq cards) (habs : Absorbed s newer cards y r) (hu : u ∈ cards)
    (hpair : entryIdentityEqual r u = true) : entryIdentityEqual y u = true := by
  by_cases hy : y.identityDigestValid = true
  · obtain ⟨hv, hd⟩ := habs.digest_of_valid hy
    rw [← entryIdentityEqual_congr habs.frozen habs.seq (hv.trans hy.symm) (fun _ => hd) u]
    exact hpair
  have hy' : y.identityDigestValid = false := by simpa using hy
  by_cases hr : r.identityDigestValid = true
  · obtain ⟨v, hv, hpairv, hvv, hvd, -⟩ := habs.digest_gained hy' hr
    by_cases hdigest : validIdentityDigestEqual r u = true
    · -- The digest was gained from `u` itself, and it paired with `y` for that.
      obtain ⟨-, huv, hru⟩ := (validIdentityDigestEqual_iff r u).mp hdigest
      have hsame : v = u := hvalid.digest_unique hv hu
        ((validIdentityDigestEqual_iff v u).mpr ⟨hvv, huv, hvd.trans hru⟩)
      rw [← hsame]
      exact hpairv
    · have hnone : validIdentityDigestEqual y u = false := by
        simp [validIdentityDigestEqual, hy']
      simp only [entryIdentityEqual, hdigest, hnone, Bool.false_eq_true, if_false,
        DmEntry.session_of_frozen habs.frozen, material_of_frozen habs.frozen u,
        habs.seq] at hpair ⊢
      split_ifs at hpair ⊢ with hs
      · exact hpair
      · rw [Bool.and_assoc, Bool.and_eq_true_iff] at hpair ⊢
        refine ⟨?_, hpair.2⟩
        rw [hy', Bool.false_and]
        rfl
  · have hr' : r.identityDigestValid = false := by simpa using hr
    rw [← entryIdentityEqual_congr habs.frozen habs.seq (hr'.trans hy'.symm)
      (fun hc => by simp [hy'] at hc) u]
    exact hpair

theorem Absorbed.settled {y r : DmEntry} (hvalid : BlobValid primary)
    (hcards : ∀ u ∈ primary.rows, cardRowSettled l s primary u) (hy : y ∈ s.rows)
    (hown : SoundOwn l y)
    (habs : Absorbed s (decide (s.contentRevision < primary.contentRevision)) primary.rows y r) :
    SoundOwn l r ∧ y.deliveryRevision ≤ r.deliveryRevision ∧
      (y.identityDigestValid = true → y.ackDispatchCount ≤ r.ackDispatchCount) := by
  induction habs with
  | refl => exact ⟨hown, le_rfl, fun _ => le_rfl⟩
  | @step r u before mem paired first ih =>
    obtain ⟨hr, hrevision, hcount⟩ := ih
    have hu : RowSound u := hvalid.rows.row_sound mem
    have hpairY := before.paired_ram hvalid.rows mem paired
    have hmatched : ¬unmatchedCard s u = true := by
      intro hun
      have hnot := List.all_eq_true.mp hun y hy
      rw [hpairY] at hnot
      exact Bool.noConfusion hnot
    refine ⟨⟨mergeMatchedRow_sound _ hr.sound hu paired, ?_⟩, ?_, fun hvalidY => ?_⟩
    · rcases hcards u mem with hownU | hsettled
      · exact mergeMatchedRow_own hr.sound paired hr.own
          (fun hflight _ => hownU.delivery hflight) fun hpending _ => hownU.ack hpending
      rw [if_neg hmatched] at hsettled
      obtain ⟨hdelivery, hack⟩ := hsettled y hy hpairY
      refine mergeMatchedRow_own hr.sound paired hr.own ?_ ?_
      · intro hflight hcopy
        refine absurd ?_ (hdelivery hflight)
        rcases hcopy with hlt | ⟨hnewer, heq⟩
        · exact .inl (hrevision.trans_lt hlt)
        · rcases hrevision.lt_or_eq with hlt | hsame
          · exact .inl (heq ▸ hlt)
          · exact .inr ⟨hnewer, heq.trans hsame.symm⟩
      · intro hpending hcopy
        obtain ⟨hvalidY, hle⟩ := hack hpending
        obtain ⟨hvalidR, -⟩ := before.digest_of_valid hvalidY
        obtain ⟨hdigest, hge, hmore⟩ := hcopy hvalidR
        have hsame : r.ackDispatchCount = u.ackDispatchCount :=
          le_antisymm hge (hle.trans (hcount hvalidY))
        obtain ⟨-, hstateU⟩ := ackInterrupted_iff.mp hpending
        -- With equal counts the card's PENDING wins only over PENDING itself.
        have hstate : r.ackState = .pending := by
          rcases hmore with hlt | hrank | hstate
          · omega
          · exfalso
            have hack := hr.sound.ack
            rw [hstateU] at hrank
            cases hcase : r.ackState <;> rw [hcase] at hrank <;>
              simp [ackStateMergeRank] at hrank
            simp [ackMetadataIsValid, hvalidR, hcase] at hack
          · exact hstate.symm.trans hstateU
        rw [← hdigest, ← hsame]
        exact hr.own.ack (ackInterrupted_iff.mpr ⟨hvalidR, hstate⟩)
    · rcases mergeMatchedRow_delivery_cases r u
        (decide (s.contentRevision < primary.contentRevision)) with
        ⟨-, hsame⟩ | ⟨-, -, hcopy, -, hsame⟩
      · rw [hsame]
        exact hrevision
      · rw [hsame]
        rcases hcopy with hlt | ⟨-, heq⟩
        · exact hrevision.trans hlt.le
        · rw [heq]
          exact hrevision
    · rcases mergeMatchedRow_ack_cases r u
        (decide (s.contentRevision < primary.contentRevision)) with
        ⟨-, -, hsame, -⟩ | ⟨⟨-, -, hsame, -⟩, -, hcopy⟩
      · rw [hsame]
        exact hcount hvalidY
      · rw [hsame]
        exact (hcount hvalidY).trans (hcopy (before.digest_of_valid hvalidY).1).2.1

theorem mergeSameEpoch_source_forall {P : DmEntry → Prop} (hs : RowsOrdered s)
    (hvalid : BlobValid primary) (hseq : ∀ e n, P e → P (e.withSeq n))
    (hrows : ∀ e ∈ s.rows, P e)
    (hcard : ∀ u ∈ primary.rows, unmatchedCard s u = true →
      cardRowKept s primary.rows u = true → P u)
    (hram : ∀ y ∈ s.rows, ∀ r, Absorbed s
      (decide (s.contentRevision < primary.contentRevision)) primary.rows y r → P r) :
    ∀ e ∈ (mergeSameEpoch s primary).store.rows, P e := by
  cases hm : mergeCandidates s primary with
  | error ret =>
    unfold mergeSameEpoch
    rw [hm]
    exact hrows
  | ok acc =>
    rw [mergeSameEpoch_rows hm]
    have hmerged := cardMerged_of_mergeCandidates hs hvalid hm
    intro r hr
    have hmem : r ∈ acc.merged := (mem_sortByKey _ _).mp ((keepLast_sublist _ _).subset hr)
    obtain ⟨src, hsrc, himage⟩ := hmerged.source_of_merged hmem
    have hkept := (hmerged.kept_iff hsrc hmem himage).mp hr
    cases src with
    | card u =>
      obtain ⟨hu, hun⟩ : u ∈ primary.rows ∧ unmatchedCard s u = true := by
        rcases mem_sources.mp hsrc with ⟨y, -, heq⟩ | ⟨v, hv, hvun, heq⟩
        · cases heq
        · cases heq
          exact ⟨hv, hvun⟩
      obtain ⟨hru, -⟩ := himage
      rw [hru]
      exact hseq u _ (hcard u hu hun hkept)
    | ram y =>
      have hy : y ∈ s.rows := by
        rcases mem_sources.mp hsrc with ⟨x, hx, heq⟩ | ⟨v, -, -, heq⟩
        · cases heq
          exact hx
        · cases heq
      obtain ⟨⟨r₀, habs, hr₀⟩, -⟩ := himage
      rw [hr₀]
      exact hseq r₀ _ (hram y hy r₀ habs)

theorem mergeSameEpoch_own (hs : RowsOrdered s) (hrows : ∀ e ∈ s.rows, SoundOwn l e)
    (hvalid : BlobValid primary) (hcards : ∀ u ∈ primary.rows, cardRowSettled l s primary u) :
    ∀ e ∈ (mergeSameEpoch s primary).store.rows, SoundOwn l e := by
  refine mergeSameEpoch_source_forall hs hvalid (mergeClosed_own l).withSeq hrows ?_ ?_
  · intro u hu hun hkept
    refine ⟨hvalid.rows.row_sound hu, ?_⟩
    rcases hcards u hu with hown | hsettled
    · exact hown
    · rw [if_pos hun] at hsettled
      exact absurd (hsettled.symm.trans hkept) Bool.false_ne_true
  · intro y hy r habs
    exact (habs.settled hvalid hcards hy (hrows y hy)).1

end SameEpoch

end Sigui.Dm

import Sigui.DmSteps
import Sigui.DmMergeRows

/-! Every rewrite of a row, by an operation, by the reboot passes or by a merge with its other
copy, leaves a row the validator accepts. -/
namespace Sigui.Dm

structure RowSound (e : DmEntry) : Prop where
  text : persistedTextIsValid e = true
  ack : ackMetadataIsValid e = true
  delivery : deliveryMetadataIsValid e = true

theorem persistedEntryIsValid_iff {e : DmEntry} {nextSeq : Nat} :
    persistedEntryIsValid e nextSeq = true ↔ 0 < e.seq ∧ e.seq < nextSeq ∧ RowSound e := by
  simp only [persistedEntryIsValid, Bool.and_eq_true, decide_eq_true_eq]
  constructor
  · rintro ⟨⟨⟨⟨hpos, hlt⟩, htext⟩, hack⟩, hdelivery⟩
    exact ⟨hpos, hlt, htext, hack, hdelivery⟩
  · rintro ⟨hpos, hlt, h⟩
    exact ⟨⟨⟨⟨hpos, hlt⟩, h.text⟩, h.ack⟩, h.delivery⟩

theorem RowSound.withSeq {e : DmEntry} (h : RowSound e) (n : Nat) : RowSound (e.withSeq n) :=
  ⟨h.text, h.ack, h.delivery⟩

/-- What `ack_metadata_is_valid` asks of a row with a digest once it was dispatched. -/
structure AckDispatched (e : DmEntry) : Prop where
  inbound : e.inbound = true
  count : e.ackDispatchCount ≤ dmAckDispatchMax
  kind : e.ackDispatchKind ≤ dmAckDispatchKindMax
  kindSet : e.ackDispatchKind ≠ 0
  pending : e.ackState = .pending → e.ackLastError = espOk
  sent : e.ackState = .sent → e.ackLastError = espOk
  retryable : e.ackState = .retryable → e.ackDispatchCount = 1 ∧ e.ackLastError ≠ espOk
  terminal : e.ackState = .terminal →
    e.ackDispatchCount = dmAckDispatchMax ∧ e.ackLastError ≠ espOk
  verified : e.ackState ≠ .legacyUnverified

theorem ackMetadataIsValid_dispatched_iff {e : DmEntry} (hd : e.identityDigestValid = true)
    (hc : e.ackDispatchCount ≠ 0) : ackMetadataIsValid e = true ↔ AckDispatched e := by
  simp only [ackMetadataIsValid, hd, Bool.not_true, Bool.false_eq_true, if_false, hc]
  constructor
  · intro h
    by_cases hguard : (!e.inbound || decide (dmAckDispatchMax < e.ackDispatchCount) ||
        decide (dmAckDispatchKindMax < e.ackDispatchKind) ||
        decide (e.ackState = .legacyUnverified)) = true
    · simp [hguard] at h
    rw [if_neg hguard] at h
    by_cases hkind : e.ackDispatchKind = 0
    · simp [hkind] at h
    rw [if_neg hkind] at h
    simp only [Bool.or_eq_true, Bool.not_eq_true', decide_eq_true_eq, not_or, Bool.not_eq_false,
      not_lt] at hguard
    obtain ⟨⟨⟨hin, hcount⟩, hkindMax⟩, hstate⟩ := hguard
    refine ⟨hin, hcount, hkindMax, hkind, ?_, ?_, ?_, ?_, hstate⟩ <;> intro hs <;>
      simpa [hs] using h
  · intro h
    have hcount := h.count
    have hkind := h.kind
    rw [if_neg, if_neg h.kindSet]
    · cases hs : e.ackState with
      | pending => simpa using h.pending hs
      | sent => simpa using h.sent hs
      | retryable => simpa using h.retryable hs
      | terminal => simpa using h.terminal hs
      | legacyUnverified => exact absurd hs h.verified
    · simp only [Bool.or_eq_true, Bool.not_eq_true', decide_eq_true_eq, not_or, Bool.not_eq_false,
        not_lt]
      exact ⟨⟨⟨h.inbound, hcount⟩, hkind⟩, h.verified⟩

/-- What `delivery_metadata_is_valid` asks of an outbound row. -/
structure DeliverySound (e : DmEntry) : Prop where
  session : e.deliverySessionId ≠ 0
  state : e.deliveryState ≠ .notApplicable
  reason : e.deliveryReason ≠ .none
  reasonMatches : deliveryReasonMatchesTarget e.deliveryState e.deliveryReason = true
  revision : e.deliveryRevision ≠ 0
  retries : e.deliveryRetryCount ≤ e.attempt
  delivered : e.delivered = decide (e.deliveryState = .acknowledged)
  acked : e.acked = decide (e.deliveryState = .acknowledged)
  failure : deliveryStateIsFailure e.deliveryState = true → e.deliveryLastError ≠ espOk

theorem deliveryMetadataIsValid_outbound_iff {e : DmEntry} (ho : e.outbound = true) :
    deliveryMetadataIsValid e = true ↔ DeliverySound e := by
  simp only [deliveryMetadataIsValid, ho, Bool.not_true, Bool.false_eq_true, if_false]
  constructor
  · intro h
    split_ifs at h with hguard
    simp only [Bool.or_eq_true, Bool.not_eq_true', decide_eq_true_eq, not_or, Bool.not_eq_false,
      not_lt, bne_iff_ne, not_not] at hguard
    obtain ⟨⟨⟨⟨⟨⟨⟨h1, h2⟩, h3⟩, h4⟩, h5⟩, h6⟩, h7⟩, h8⟩ := hguard
    refine ⟨h1, h2, h3, h4, h5, h6, h7, h8, fun hf => ?_⟩
    simpa [hf] using h
  · intro h
    rw [if_neg]
    · cases hf : deliveryStateIsFailure e.deliveryState with
      | false => rfl
      | true => simpa using h.failure hf
    · simp only [Bool.or_eq_true, Bool.not_eq_true', decide_eq_true_eq, not_or, Bool.not_eq_false,
        not_lt, bne_iff_ne, not_not]
      exact ⟨⟨⟨⟨⟨⟨⟨h.session, h.state⟩, h.reason⟩, h.reasonMatches⟩, h.revision⟩, h.retries⟩,
        h.delivered⟩, h.acked⟩

section Update

variable {e r : DmEntry} {a : TransitionArgs}

theorem dispatchKindIsValid_bounds {dispatchKind : Nat}
    (h : dispatchKindIsValid dispatchKind = true) :
    dispatchKind ≠ 0 ∧ dispatchKind ≤ dmAckDispatchKindMax := by
  simpa [dispatchKindIsValid] using h

theorem ackMetadataIsValid_count_of_pending (hv : ackMetadataIsValid e = true)
    (hd : e.identityDigestValid = true) (hp : e.ackState = .pending) : e.ackDispatchCount ≠ 0 := by
  intro hc
  have hin := inbound_of_digest hv hd
  simp [ackMetadataIsValid, hd, hin, hp, hc, dmAckDispatchMax] at hv

theorem ackMetadataIsValid_failed {error : EspErr} (hv : ackMetadataIsValid e = true)
    (hd : e.identityDigestValid = true) (hc : e.ackDispatchCount ≠ 0) (herror : error ≠ espOk) :
    ackMetadataIsValid
      { e with
        ackState := if dmAckDispatchMax ≤ e.ackDispatchCount then .terminal else .retryable
        ackLastError := error } = true := by
  have h := (ackMetadataIsValid_dispatched_iff hd hc).mp hv
  have hcount := h.count
  apply (ackMetadataIsValid_dispatched_iff (e := { e with
    ackState := if dmAckDispatchMax ≤ e.ackDispatchCount then .terminal else .retryable
    ackLastError := error }) hd hc).mpr
  have hmax : dmAckDispatchMax = 2 := rfl
  refine ⟨h.inbound, h.count, h.kind, h.kindSet, ?_, ?_, ?_, ?_, ?_⟩ <;> dsimp only <;>
    split_ifs with hle
  all_goals first
    | exact fun _ => ⟨by omega, herror⟩
    | simp

theorem RowUpdate.ackMetadata (h : RowUpdate e r) (hv : ackMetadataIsValid e = true) :
    ackMetadataIsValid r = true := by
  cases h with
  | reserved dispatchKind hd idle below kind =>
    have hin := inbound_of_digest hv hd
    apply (ackMetadataIsValid_dispatched_iff (e := { e with
      ackDispatchCount := e.ackDispatchCount + 1
      ackDispatchKind := dispatchKind
      ackState := .pending
      ackLastError := espOk }) hd (Nat.succ_ne_zero _)).mpr
    obtain ⟨hset, hle⟩ := dispatchKindIsValid_bounds kind
    exact
      { inbound := hin
        count := below
        kind := hle
        kindSet := hset
        pending := fun _ => rfl
        sent := fun _ => rfl
        retryable := nofun
        terminal := nofun
        verified := nofun }
  | rebound dispatchKind hd pending counted kind =>
    have hold := (ackMetadataIsValid_dispatched_iff hd counted).mp hv
    obtain ⟨hset, hle⟩ := dispatchKindIsValid_bounds kind
    apply (ackMetadataIsValid_dispatched_iff (e := { e with ackDispatchKind := dispatchKind })
      hd counted).mpr
    exact { hold with kind := hle, kindSet := hset }
  | sent hd pending counted =>
    have hold := (ackMetadataIsValid_dispatched_iff hd counted).mp hv
    apply (ackMetadataIsValid_dispatched_iff (e := { e with ackState := .sent, ackLastError := espOk })
      hd counted).mpr
    exact
      { inbound := hold.inbound
        count := hold.count
        kind := hold.kind
        kindSet := hold.kindSet
        pending := fun _ => rfl
        sent := fun _ => rfl
        retryable := nofun
        terminal := nofun
        verified := nofun }
  | failed error hd pending counted isError =>
    exact ackMetadataIsValid_failed hv hd counted isError
  | transition a session rebind allowed => exact hv

/-- The guards of a transition, as far as the validator asks for them. -/
structure TransitionAllowed (e : DmEntry) (a : TransitionArgs) : Prop where
  outbound : e.outbound = true
  state : e.deliveryState = a.expectedState
  revision : e.deliveryRevision = a.expectedDeliveryRevision
  next : deliveryTransitionAllowed a.expectedState a.nextState = true
  reason : deliveryReasonMatchesTarget a.nextState a.reason = true
  failure : deliveryStateIsFailure a.nextState = true → a.error ≠ espOk
  counter : e.deliveryRevision ≠ uint32Max

theorem transitionRefused_eq_false (h : transitionRefused e a = false) : TransitionAllowed e a := by
  simp only [transitionRefused, Bool.or_eq_false_iff, Bool.not_eq_false', decide_eq_false_iff_not,
    not_not, Bool.and_eq_false_iff] at h
  obtain ⟨⟨⟨⟨⟨⟨⟨⟨⟨⟨hout, hstate⟩, hrev⟩, -⟩, -⟩, hnext⟩, hreason⟩, hfail⟩, -⟩, hcounter⟩, -⟩ := h
  refine ⟨hout, hstate, hrev, hnext, hreason, fun hf => ?_, hcounter⟩
  rcases hfail with hfail | hfail
  · exact absurd (hfail.symm.trans hf) Bool.false_ne_true
  · exact hfail

theorem applyDeliveryTransition_sound (ha : TransitionAllowed e a)
    (hv : deliveryMetadataIsValid e = true) :
    deliveryMetadataIsValid (applyDeliveryTransition a e) = true := by
  have hold := (deliveryMetadataIsValid_outbound_iff ha.outbound).mp hv
  apply (deliveryMetadataIsValid_outbound_iff (e := applyDeliveryTransition a e) ha.outbound).mpr
  have hretries := hold.retries
  exact
    { session := hold.session
      state := deliveryTransitionAllowed_target ha.next
      reason := deliveryReason_ne_none ha.reason
      reasonMatches := ha.reason
      revision := Nat.succ_ne_zero _
      retries := by
        simp only [applyDeliveryTransition]
        omega
      delivered := rfl
      acked := rfl
      failure := ha.failure }

theorem RowUpdate.deliveryMetadata (h : RowUpdate e r) (hv : deliveryMetadataIsValid e = true) :
    deliveryMetadataIsValid r = true := by
  cases h with
  | transition a session rebind allowed =>
    exact applyDeliveryTransition_sound (transitionRefused_eq_false allowed) hv
  | _ => exact hv

theorem RowUpdate.text (h : RowUpdate e r) : persistedTextIsValid r = persistedTextIsValid e := by
  cases h <;> rfl

@[simp] theorem RowUpdate.seq (h : RowUpdate e r) : r.seq = e.seq := by
  cases h <;> rfl

theorem RowUpdate.session (h : RowUpdate e r) : r.deliverySessionId = e.deliverySessionId := by
  cases h <;> rfl

theorem RowUpdate.digest (h : RowUpdate e r) :
    r.identityDigestValid = e.identityDigestValid ∧ r.identityDigest = e.identityDigest := by
  cases h <;> exact ⟨rfl, rfl⟩

theorem RowUpdate.sound (h : RowUpdate e r) (hs : RowSound e) : RowSound r :=
  ⟨h.text.trans hs.text, h.ackMetadata hs.ack, h.deliveryMetadata hs.delivery⟩

end Update

theorem settleInterruptedAck_sound {e : DmEntry} (h : RowSound e) (hi : ackInterrupted e = true) :
    RowSound (settleInterruptedAck e) := by
  simp only [ackInterrupted, Bool.and_eq_true, decide_eq_true_eq] at hi
  have hc := ackMetadataIsValid_count_of_pending h.ack hi.1 hi.2
  exact ⟨h.text, ackMetadataIsValid_failed h.ack hi.1 hc (by decide), h.delivery⟩

theorem saturatingSucc_ne_zero (value : Nat) (h : value ≠ 0) : saturatingSucc value ≠ 0 := by
  have := le_saturatingSucc value
  omega

theorem settleInterruptedDelivery_sound {e : DmEntry} (h : RowSound e)
    (hi : deliveryInterrupted e = true) : RowSound (settleInterruptedDelivery e) := by
  simp only [deliveryInterrupted, Bool.and_eq_true] at hi
  have hold := (deliveryMetadataIsValid_outbound_iff hi.1).mp h.delivery
  refine ⟨h.text, h.ack, ?_⟩
  apply (deliveryMetadataIsValid_outbound_iff (e := settleInterruptedDelivery e) hi.1).mpr
  exact
    { session := hold.session
      state := by simp [settleInterruptedDelivery]
      reason := by simp [settleInterruptedDelivery]
      reasonMatches := rfl
      revision := saturatingSucc_ne_zero _ hold.revision
      retries := hold.retries
      delivered := rfl
      acked := rfl
      failure := fun _ => (by decide : dmInterruptedError ≠ espOk) }

section Append

variable {s : DmStore} {a : AppendArgs} {nowMs : Nat} {random : Fin 8 → UInt64} {entry : DmEntry}

theorem nonEmptyOr_bytes {argument : Option CStr} {fallback : CStr} (h : fallback.bytes ≠ []) :
    (nonEmptyOr argument fallback).bytes ≠ [] := by
  unfold nonEmptyOr
  cases argument with
  | none => exact h
  | some value =>
    dsimp only
    split_ifs with hv
    · exact h
    · exact hv

structure AppendChecked (a : AppendArgs) : Prop where
  fingerprint : ∃ fingerprint, a.contactFingerprint = some fingerprint ∧ fingerprint.bytes ≠ []
  text : (userTextValidate a.text).result = .ok
  pathHashBytes : a.pathHashBytes ≤ 3
  pathHops : a.pathHops ≤ 63
  path : a.pathHashBytes * a.pathHops ≤ 64
  digest : a.identityDigest.isSome = true →
    ∃ direction, a.direction = some direction ∧ direction.prefixOf 4 = rxLiteral

theorem appendCheck_eq_none (h : appendCheck a = none) : AppendChecked a := by
  unfold appendCheck at h
  dsimp only at h
  split_ifs at h with hargs hlong
  simp only [Bool.or_eq_true, not_or, decide_eq_true_eq, not_lt, Bool.and_eq_true, not_and,
    Bool.not_eq_true'] at hargs
  obtain ⟨⟨⟨⟨⟨⟨hfp, htext⟩, hhash⟩, hhops⟩, hpath⟩, -⟩, hdigest⟩ := hargs
  refine ⟨?_, ?_, hhash, hhops, hpath, fun hd => ?_⟩
  · cases hf : a.contactFingerprint with
    | none => simp [hf] at hfp
    | some fingerprint => exact ⟨fingerprint, rfl, by simpa [hf] using hfp⟩
  · by_contra hne
    exact htext hne hlong
  · have hin := hdigest hd
    cases hdir : a.direction with
    | none => simp [hdir] at hin
    | some direction =>
      simp only [hdir, bne_iff_ne, ne_eq, not_not] at hin
      exact ⟨direction, rfl, hin.2⟩

theorem baseEntry_text (s : DmStore) (nowMs : Nat) (h : AppendChecked a) :
    persistedTextIsValid (baseEntry s a nowMs) = true := by
  obtain ⟨fingerprint, hfp, hne⟩ := h.fingerprint
  have htext : (userTextValidateBounded (copyText (a.text.getD (.lit []))) false).result =
      .ok := by
    have hok := h.text
    cases ht : a.text with
    | none =>
      rw [ht] at hok
      exact absurd hok (by decide)
    | some text =>
      rw [ht] at hok
      have hlen : text.bytes.length ≤ 138 := userTextValidate_ok_length hok
      apply userTextValidateBounded_of_validate hok _ (by decide)
      exact List.take_of_length_le (i := 139) (l := text.bytes) (by omega)
  have hrx : rxArg.bytes ≠ [] := by decide
  simp only [persistedTextIsValid, baseEntry, hfp, Option.getD_some, htext, Bool.and_eq_true,
    decide_eq_true_eq]
  exact ⟨⟨⟨⟨⟨⟨persistedAsciiIsValid_sanitizeAscii (by decide) hne,
    persistedAsciiIsValid_sanitizeAscii (by decide) (nonEmptyOr_bytes hne)⟩,
    persistedAsciiIsValid_sanitizeAscii (by decide) (nonEmptyOr_bytes hrx)⟩, trivial⟩,
    h.pathHashBytes⟩, h.pathHops⟩, h.path⟩

theorem sanitizeAscii_of_prefix_rx {direction : CStr} (h : direction.prefixOf 4 = rxLiteral) :
    (sanitizeAscii 4 direction).equalsLiteral rxLiteral = true := by
  have hbytes : direction.bytes = rxLiteral := by
    have hlen := congrArg List.length h
    simp only [CStr.prefixOf, List.length_take, rxLiteral, List.length_cons, List.length_nil]
      at hlen
    rw [CStr.prefixOf, List.take_of_length_le (by omega)] at h
    exact h
  simp only [CharArray.equalsLiteral, sanitizeAscii, hbytes]
  decide

theorem baseEntry_ack (h : AppendChecked a) : ackMetadataIsValid (baseEntry s a nowMs) = true := by
  cases hd : a.identityDigest with
  | none => simp [ackMetadataIsValid, baseEntry, hd]
  | some identityDigest =>
    obtain ⟨direction, hdir, hrx⟩ := h.digest (by simp [hd])
    have hne : direction.bytes ≠ [] := by
      intro hnil
      rw [CStr.prefixOf, hnil] at hrx
      exact absurd hrx (by decide)
    have hin : (baseEntry s a nowMs).inbound = true := by
      simp only [DmEntry.inbound, baseEntry, hdir, nonEmptyOr, if_neg hne]
      exact sanitizeAscii_of_prefix_rx hrx
    simp only [ackMetadataIsValid, hin]
    simp [baseEntry, hd]

theorem NewRow.frozen (h : NewRow s a nowMs random entry) : entry.frozen =
      { (baseEntry s a nowMs).frozen with deliverySessionId := entry.deliverySessionId } := by
  rw [h.built]
  change { (newEntry s a nowMs).frozen with deliverySessionId := entry.deliverySessionId } = _
  rw [newEntry, startDelivery_frozen]

theorem NewRow.ackPart (h : NewRow s a nowMs random entry) :
    entry.ackPart = (baseEntry s a nowMs).ackPart := by
  rw [h.built]
  exact startDelivery_ackPart a.acked (baseEntry s a nowMs)

theorem NewRow.seq (h : NewRow s a nowMs random entry) : entry.seq = s.nextSeq := by
  rw [h.built]
  exact startDelivery_seq a.acked (baseEntry s a nowMs)

theorem NewRow.delivery (h : NewRow s a nowMs random entry) :
    deliveryMetadataIsValid entry = true := by
  have hdirection : (baseEntry s a nowMs).outbound = entry.outbound := by
    change (baseEntry s a nowMs).frozen.outbound = entry.frozen.outbound
    rw [h.frozen]
    rfl
  cases ho : entry.outbound with
  | true =>
    rw [ho] at hdirection
    have hsession := deliverySessionIdExists_false (h.outbound ho).2
    have hbuilt := h.built
    rw [newEntry, startDelivery, if_pos hdirection] at hbuilt
    apply (deliveryMetadataIsValid_outbound_iff ho).mpr
    refine ⟨hsession.1, ?_, ?_, ?_, ?_, ?_, ?_, ?_, ?_⟩ <;> rw [hbuilt] <;>
      cases a.acked <;> simp [deliveryReasonMatchesTarget, deliveryStateIsFailure]
  | false =>
    rw [ho] at hdirection
    have hsession := h.inbound ho
    have hbuilt := h.built
    rw [newEntry, startDelivery, if_neg (by simp [hdirection])] at hbuilt
    simp only [deliveryMetadataIsValid, ho, Bool.not_false, if_true, hsession]
    rw [hbuilt]
    rfl

theorem NewRow.sound (h : NewRow s a nowMs random entry) (ha : AppendChecked a) :
    RowSound entry where
  text := by
    have hfrozen : persistedTextIsValid entry.frozen = true := by
      rw [h.frozen]
      exact baseEntry_text s nowMs ha
    exact hfrozen
  ack := by
    rw [← DmEntry.ackMetadataIsValid_ackPart, h.ackPart, DmEntry.ackMetadataIsValid_ackPart]
    exact baseEntry_ack ha
  delivery := h.delivery

end Append

section Merge

variable {dest source : DmEntry}

theorem entryIdentityEqual_inbound (hd : RowSound dest) (hs : RowSound source)
    (h : entryIdentityEqual dest source = true) (hdigest : source.identityDigestValid = true) :
    dest.inbound = true := by
  have hin := inbound_of_digest hs.ack hdigest
  have hsession := deliverySessionId_of_not_outbound hs.delivery
    (DmEntry.outbound_false_of_inbound hin)
  unfold entryIdentityEqual at h
  by_cases hsame : validIdentityDigestEqual dest source = true
  · exact inbound_of_digest hd.ack ((validIdentityDigestEqual_iff _ _).mp hsame).1
  · rw [if_neg hsame, hsession] at h
    split_ifs at h with hid
    · simp only [Bool.and_eq_true, decide_eq_true_eq] at h
      exact absurd h.1.2 h.1.1
    · simp only [Bool.and_eq_true, outboundDeliveryIdentityMaterialEqual, decide_eq_true_eq] at h
      have hdirection : dest.direction = source.direction := h.2.1.2
      rw [DmEntry.inbound, hdirection]
      exact hin

theorem copyAckMetadata_valid (hs : ackMetadataIsValid source = true)
    (hin : dest.inbound = source.inbound) :
    ackMetadataIsValid (copyAckMetadata dest source) = true := by
  have hcopy : (copyAckMetadata dest source).inbound = source.inbound := hin
  rw [← hs]
  unfold ackMetadataIsValid
  rw [hcopy]
  rfl

theorem mergeAckMetadata_valid (newer : Bool) (hd : RowSound dest) (hs : RowSound source)
    (h : entryIdentityEqual dest source = true) :
    ackMetadataIsValid (mergeAckMetadata dest source newer) = true := by
  unfold mergeAckMetadata
  by_cases hdigest : source.identityDigestValid = true
  swap
  · rw [if_pos (by simpa using hdigest)]
    exact hd.ack
  have hcopy : ackMetadataIsValid (copyAckMetadata dest source) = true :=
    copyAckMetadata_valid hs.ack ((entryIdentityEqual_inbound hd hs h hdigest).trans
      (inbound_of_digest hs.ack hdigest).symm)
  split_ifs
  · exact hd.ack
  · exact hcopy
  · exact hd.ack
  · exact hcopy
  · exact hd.ack

theorem mergeDeliveryMetadata_valid (newer : Bool) (hd : RowSound dest) (hs : RowSound source) :
    deliveryMetadataIsValid (mergeDeliveryMetadata (mergeFlags dest source) source newer) =
      true := by
  unfold mergeDeliveryMetadata
  by_cases ho : dest.outbound = true
  swap
  · have hflags : (mergeFlags dest source).outbound = dest.outbound := rfl
    rw [if_pos (by simp [hflags, ho]), ← hd.delivery]
    unfold deliveryMetadataIsValid
    simp only [hflags, ho, Bool.not_false, if_true]
    rfl
  have hold := (deliveryMetadataIsValid_outbound_iff ho).mp hd.delivery
  have hkeep : deliveryMetadataIsValid (mergeFlags dest source) = true := by
    apply (deliveryMetadataIsValid_outbound_iff (e := mergeFlags dest source) ho).mpr
    exact
      { hold with
        retries := hold.retries.trans (Nat.le_max_left _ _)
        delivered := by simpa [mergeFlags, ho] using hold.delivered
        acked := by simpa [mergeFlags, ho] using hold.acked }
  by_cases hso : source.outbound = true
  swap
  · rw [if_pos (by simp [hso])]
    exact hkeep
  have hflags : (mergeFlags dest source).outbound = true := ho
  rw [if_neg (by simp [hflags, hso])]
  split_ifs
  · have hnew := (deliveryMetadataIsValid_outbound_iff hso).mp hs.delivery
    apply (deliveryMetadataIsValid_outbound_iff
      (e := copyDeliveryMetadata (mergeFlags dest source) source) ho).mpr
    exact
      { session := hold.session
        state := hnew.state
        reason := hnew.reason
        reasonMatches := hnew.reasonMatches
        revision := hnew.revision
        retries := hnew.retries.trans (Nat.le_max_right _ _)
        delivered := hnew.delivered
        acked := hnew.acked
        failure := hnew.failure }
  · exact hkeep

theorem mergeMatchedRow_sound (newer : Bool) (hd : RowSound dest) (hs : RowSound source)
    (h : entryIdentityEqual dest source = true) : RowSound (mergeMatchedRow dest source newer) where
  text := by
    rw [DmEntry.persistedTextIsValid_of_frozen (mergeMatchedRow_frozen dest source newer)]
    exact hd.text
  ack := by
    rw [← DmEntry.ackMetadataIsValid_ackPart, mergeMatchedRow_ackPart,
      DmEntry.ackMetadataIsValid_ackPart]
    exact mergeAckMetadata_valid newer hd hs h
  delivery := by
    rw [← DmEntry.deliveryMetadataIsValid_deliveryPart, mergeMatchedRow_deliveryPart,
      DmEntry.deliveryMetadataIsValid_deliveryPart]
    exact mergeDeliveryMetadata_valid newer hd hs

end Merge

end Sigui.Dm

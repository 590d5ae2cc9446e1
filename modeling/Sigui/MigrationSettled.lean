import Sigui.MigrationRuns

/-! The flash on which no migration is left to do, and what a call leaves alone on any flash. -/
namespace Sigui.Migration

open Nvs

section Readings

variable {s s' : Flash} {status : Status}

/-- A valid receipt with the payload `p` is on flash. -/
def ReceiptOn (p : Payload) (s : Flash) : Prop :=
  p.semanticValid p.revision ∧
    readingOf .cleared s = ⟨espOk, p, receiptRead { Status.cleared with receiptFound := true } p⟩

theorem readPayload_ok {header : Envelope.Header} {p : Payload}
    (h : (readPayload status header p).error = espOk) :
    p.semanticValid p.revision ∧
      readPayload status header p = ⟨espOk, p, receiptRead status p⟩ := by
  unfold readPayload at h ⊢
  dsimp only at h ⊢
  split_ifs at h ⊢ with hnewer holder hdown hsemantic
  · exact absurd h (show espErrNotSupported ≠ espOk by decide)
  · exact absurd h (show espErrInvalidState ≠ espOk by decide)
  · exact absurd h (show espErrInvalidState ≠ espOk by decide)
  · refine ⟨?_, rfl⟩
    rw [hsemantic.2.2.1]
    exact hsemantic
  · exact absurd h (show espErrInvalidArg ≠ espOk by decide)

theorem readExtended_error (header : Envelope.Header) (extended : List UInt8) :
    (readExtended status header extended).error ≠ espOk := by
  unfold readExtended
  dsimp only
  split_ifs
  · exact (show espFail ≠ espOk by decide)
  · exact (show espErrInvalidArg ≠ espOk by decide)
  · exact (show espErrNotSupported ≠ espOk by decide)
  · exact (show espErrInvalidState ≠ espOk by decide)
  · exact (show espErrInvalidSize ≠ espOk by decide)

theorem readValidated_ok {blob : List UInt8} (h : (readValidated status blob).error = espOk) :
    ∃ p : Payload, p.semanticValid p.revision ∧
      readValidated status blob = ⟨espOk, p, receiptRead status p⟩ := by
  unfold readValidated at h ⊢
  split at h
  · obtain ⟨hsemantic, hread⟩ := readPayload_ok h
    exact ⟨_, hsemantic, hread⟩
  · exact absurd h (show espErrNotSupported ≠ espOk by decide)
  · exact absurd h (show espFail ≠ espOk by decide)
  · exact absurd h (show espErrInvalidSize ≠ espOk by decide)

theorem readBlob_ok {blob : List UInt8} (h : (readBlob status blob).error = espOk) :
    ∃ p : Payload, p.semanticValid p.revision ∧
      readBlob status blob = ⟨espOk, p, receiptRead status p⟩ := by
  unfold readBlob at h ⊢
  dsimp only at h ⊢
  split_ifs at h ⊢ with hsize hnewer hlong
  · exact absurd h (show espErrNotSupported ≠ espOk by decide)
  · exact absurd h (readExtended_error _ _)
  · -- a read receipt sets the revision itself, so the header's does not matter
    have hrevision (n : Nat) (p : Payload) :
        receiptRead { status with revision := n } p = receiptRead status p := rfl
    obtain ⟨p, hsemantic, hread⟩ := readValidated_ok h
    rw [hrevision] at hread
    exact ⟨p, hsemantic, hread⟩
  · exact readValidated_ok h

theorem readingOf_ok (h : (readingOf .cleared s).error = espOk) :
    s.receiptBlob = none ∧ readingOf .cleared s = ⟨espOk, .zero, .cleared⟩ ∨
      ∃ p, ReceiptOn p s := by
  unfold ReceiptOn
  unfold readingOf at h ⊢
  cases hblob : s.receiptBlob with
  | none => exact .inl ⟨rfl, rfl⟩
  | some blob =>
    rw [hblob] at h
    dsimp only at h ⊢
    split_ifs at h ⊢ with hsize
    · exact absurd h (show espErrInvalidSize ≠ espOk by decide)
    · obtain ⟨p, hsemantic, hread⟩ := readBlob_ok h
      exact .inr ⟨p, hsemantic, hread⟩

theorem readingOf_congr (h : s'.receiptBlob = s.receiptBlob) :
    readingOf status s' = readingOf status s := by
  rw [readingOf, readingOf, h]

theorem ReceiptOn.congr {p : Payload} (hp : ReceiptOn p s) (h : s'.receiptBlob = s.receiptBlob) :
    ReceiptOn p s' :=
  ⟨hp.1, (readingOf_congr h).trans hp.2⟩

theorem withValues_eq (hlegacy : status.legacyPresent = false)
    (hlegacy0 : status.observedLegacyValue = 0) (hhigh : status.highWaterPresent = false)
    (hhigh0 : status.observedHighWater = 0) :
    withValues status s =
      { status with
        legacyPresent := s.legacy.isSome
        observedLegacyValue := s.legacy.getD 0
        highWaterPresent := s.highWater.isSome
        observedHighWater := s.highWater.getD 0 } := by
  unfold withValues
  split_ifs with hnone
  · rw [Option.isNone_iff_eq_none] at hnone
    have hboth : s.legacy = none ∧ s.highWater = none := by
      rw [Flash.legacy, Flash.highWater, hnone]
      exact ⟨rfl, rfl⟩
    cases status
    simp_all
  · rfl

theorem view_unreceipted (h : s.receiptBlob = none) :
    view s = classifyUnreceipted
      { Status.cleared with
        legacyPresent := s.legacy.isSome
        observedLegacyValue := s.legacy.getD 0
        highWaterPresent := s.highWater.isSome
        observedHighWater := s.highWater.getD 0 } := by
  have hreading : readingOf .cleared s = ⟨espOk, .zero, .cleared⟩ := by
    rw [readingOf, h]
  rw [view, hreading]
  dsimp only
  rw [if_neg (by simp), withValues_eq rfl rfl rfl rfl]
  exact if_pos (fun hfound => Bool.false_ne_true hfound)

theorem ReceiptOn.view_eq {p : Payload} (hp : ReceiptOn p s) :
    view s = classifyReceipted p
      { receiptRead { Status.cleared with receiptFound := true } p with
        legacyPresent := s.legacy.isSome
        observedLegacyValue := s.legacy.getD 0
        highWaterPresent := s.highWater.isSome
        observedHighWater := s.highWater.getD 0 } := by
  rw [view, hp.2]
  dsimp only
  rw [if_neg (by simp), withValues_eq rfl rfl rfl rfl]
  exact if_neg (fun hnone => hnone rfl)

theorem view_ok_cases (h : (view s).1 = espOk) : s.receiptBlob = none ∨ ∃ p, ReceiptOn p s := by
  by_cases herror : (readingOf .cleared s).error = espOk
  · exact (readingOf_ok herror).imp And.left id
  · rw [view, if_pos herror] at h
    split_ifs at h
    · exact absurd h herror
    · exact absurd h herror

end Readings

section Settled

variable {s s' : Flash}

/-- No migration is left to do: nothing is unresolved, and a completed one has its mark. -/
def Settled (s : Flash) : Prop :=
  s.legacy = none ∧ (s.receiptBlob = none ∨ ∃ p h, ReceiptOn p s ∧ p.phase = phaseComplete ∧
    s.highWater = some h ∧ p.targetHighWater ≤ h)

theorem isSome_false_iff {o : Option Nat} : ¬ o.isSome = true ↔ o = none := by
  cases o <;> simp

theorem settled_of_view (hok : (view s).1 = espOk)
    (hstate : (view s).2.state = .absent ∨ (view s).2.state = .complete) :
    Settled s ∧ (view s).2.highWaterPresent = s.highWater.isSome ∧
      (view s).2.observedHighWater = s.highWater.getD 0 := by
  rcases view_ok_cases hok with hnone | ⟨p, hp⟩
  · rw [view_unreceipted hnone] at hok hstate ⊢
    unfold classifyUnreceipted at hok hstate ⊢
    dsimp only at hok hstate ⊢
    split_ifs at hok hstate ⊢ with hlegacy hbase hhigh
    · exact absurd hok (show espErrInvalidArg ≠ espOk by decide)
    · exact absurd hok (show espErrInvalidState ≠ espOk by decide)
    · exact absurd hstate (show ¬ (State.required = .absent ∨ State.required = .complete) by decide)
    · exact ⟨⟨isSome_false_iff.mp hlegacy, .inl hnone⟩, rfl, rfl⟩
  · have hdown : espErrInvalidState ≠ espOk := by decide
    rw [hp.view_eq] at hok hstate ⊢
    unfold classifyReceipted at hok hstate ⊢
    dsimp only at hok hstate ⊢
    split_ifs at hok hstate ⊢ with hlegacy hother hmark hcomplete hhigh hlost
    · exact absurd hok hdown
    · exact absurd hok hdown
    · exact absurd hok hdown
    · have hnoLegacy : s.legacy = none :=
        isSome_false_iff.mp fun hsome => hlegacy ⟨hcomplete, hsome⟩
      obtain ⟨h, hh⟩ := Option.isSome_iff_exists.mp hhigh
      refine ⟨⟨hnoLegacy, .inr ⟨p, h, hp, hcomplete, hh, ?_⟩⟩, rfl, rfl⟩
      by_contra hlow
      apply hmark
      refine ⟨hhigh, .inl ⟨hcomplete, ?_⟩⟩
      rw [hh]
      exact Nat.lt_of_not_le hlow
    · exact absurd hok hdown
    · exact absurd hok hdown
    · exact absurd hstate (show ¬ (State.pending = .absent ∨ State.pending = .complete) by decide)

theorem Settled.view (h : Settled s) :
    (view s).1 = espOk ∧ (s.receiptBlob = none ∧ (view s).2.state = .absent ∨
      ∃ p h, ReceiptOn p s ∧ s.highWater = some h ∧ p.targetHighWater ≤ h ∧
        (view s).2.state = .complete ∧ (view s).2.confirmedUpperBound = p.targetHighWater) := by
  obtain ⟨hlegacy, hnone | ⟨p, h, hp, hcomplete, hhigh, hle⟩⟩ := h
  · rw [view_unreceipted hnone]
    unfold classifyUnreceipted
    rw [if_pos (by rw [hlegacy]; simp)]
    exact ⟨rfl, .inl ⟨hnone, rfl⟩⟩
  · rw [hp.view_eq]
    unfold classifyReceipted
    dsimp only
    rw [if_neg (by rw [hlegacy]; simp), if_neg (by rw [hlegacy]; simp),
      if_neg (by rw [hhigh]; simp [hcomplete, hle]), if_pos hcomplete,
      if_neg (by rw [hhigh]; simp)]
    exact ⟨rfl, .inr ⟨p, h, hp, hhigh, hle, rfl, hp.1.2.2.2.2.2.2.2.2.1.symm⟩⟩

theorem Settled.mark (h : Settled s) {p : Payload} (hp : ReceiptOn p s) :
    ∃ n, s.highWater = some n ∧ p.targetHighWater ≤ n := by
  rcases h.2 with hnone | ⟨q, n, hq, -, hn, hle⟩
  · have hread := hp.2
    rw [readingOf, hnone] at hread
    have hfound := congrArg (fun r => r.status.receiptFound) hread
    exact absurd hfound (by simp [Status.cleared, receiptRead])
  · have hsame := congrArg Reading.payload (hp.2.symm.trans hq.2)
    exact ⟨n, hn, (congrArg Payload.targetHighWater hsame).trans_le hle⟩

theorem Settled.raise (h : Settled s) (hreceipt : s'.receiptBlob = s.receiptBlob)
    (hlegacy : s'.legacy = s.legacy)
    (hhigh : ∀ p, ReceiptOn p s → ∃ n, s'.highWater = some n ∧ p.targetHighWater ≤ n) :
    Settled s' := by
  refine ⟨hlegacy.trans h.1, ?_⟩
  rcases h.2 with hnone | ⟨p, n, hp, hcomplete, -, -⟩
  · exact .inl (hreceipt.trans hnone)
  · obtain ⟨m, hm, hle⟩ := hhigh p hp
    exact .inr ⟨p, m, hp.congr hreceipt, hcomplete, hm, hle⟩

end Settled

section Frames

variable {may : Prop} {r : Request} {kept : Flash → Prop}

theorem run_settled (h : Settled s) : (run r).Reads may s fun _ => True := by
  apply Faulty.Reads.bind (inspect_reads may s)
  have hseen : ∀ x : EspErr × Status, x.2.state ≠ .required → x.2.state ≠ .pending →
      (runAfter r x).Reads may s fun _ => True := by
    intro x hrequired hpending
    apply Faulty.Reads.ite
    · exact fun _ => .pure trivial
    intro _
    apply Faulty.Reads.ite
    · exact fun _ => .pure trivial
    intro hgo
    apply Faulty.Reads.ite
    · intro _
      exact .ite (fun _ => .pure trivial) fun _ => .pure trivial
    · intro hcomplete
      exact absurd (.inr ⟨hrequired, hpending, hcomplete⟩) hgo
  rintro x (rfl | ⟨-, -, hstate⟩)
  · obtain ⟨-, ⟨-, hstate⟩ | ⟨p, n, -, -, -, hstate, -⟩⟩ := h.view
    · exact hseen _ (by rw [hstate]; decide) (by rw [hstate]; decide)
    · exact hseen _ (by rw [hstate]; decide) (by rw [hstate]; decide)
  · exact hseen _ (by rw [hstate]; decide) (by rw [hstate]; decide)

theorem view_highWaterPresent (h : (view s).1 = espOk) :
    (view s).2.highWaterPresent = s.highWater.isSome := by
  rcases view_ok_cases h with hnone | ⟨p, hp⟩
  · rw [view_unreceipted hnone]
    unfold classifyUnreceipted
    dsimp only
    split_ifs <;> rfl
  · rw [hp.view_eq]
    unfold classifyReceipted
    dsimp only
    split_ifs <;> rfl

theorem writeReceipt_keeps {phase v b revision : Nat}
    (hcreate : ∀ s, kept s → kept s.createReceipt)
    (hset : ∀ s blob, kept s → kept (s.setReceipt blob)) :
    (writeReceipt phase v b revision).Keeps may kept := by
  unfold writeReceipt
  dsimp only
  split
  · exact .pure _
  · exact transact_keeps hcreate fun s hs => hset s _ hs

theorem eraseLegacy_keeps (hcreate : ∀ s, kept s → kept s.createProtocol)
    (herase : ∀ s, kept s → kept s.eraseLegacy) : eraseLegacy.Keeps may kept := by
  apply Faulty.Keeps.bind (.operate hcreate (durably_kept hcreate))
  intro opened
  apply Faulty.Keeps.ite
  · intro _
    apply Faulty.Keeps.bind (.of_reads fun s _ => get_reads may _ s)
    rintro (code | found)
    · exact .pure _
    · apply Faulty.Keeps.bind (.operate (fun _ hs => hs) (durably_kept herase))
      intro erased
      exact .ite (fun _ => .operate herase (durably_kept herase)) fun _ => .pure _
  · exact fun _ => .pure _

theorem refreshAfterFailure_keeps (failure : EspErr) (written : Bool) :
    (refreshAfterFailure failure written).Keeps may kept :=
  .of_reads fun s _ => refreshAfterFailure_meets failure written s

theorem stageThen_keeps {write : Io Flash EspErr} {written : Bool}
    {rest : Status → Io Flash Outcome} (hwrite : write.Keeps may kept)
    (hrest : ∀ s, kept s → (view s).1 = espOk → (rest (view s).2).Keeps may kept) :
    (stageThen write written rest).Keeps may kept := by
  apply Faulty.Keeps.bind hwrite
  intro ret
  apply Faulty.Keeps.ite
  · exact fun _ => refreshAfterFailure_keeps ret written
  intro _
  apply Faulty.Meets.of_states
  intro s hs
  apply (inspect_reads may s).bind_meets hs
  intro x hx
  apply Faulty.Meets.ite
  · intro _
    exact .pure fun _ hs' => hs' ▸ hs
  · intro hgo
    have hok : x.1 = espOk := by
      by_contra hne
      exact hgo (.inl hne)
    rcases hx with rfl | ⟨-, hne, -⟩
    · exact (hrest s hs hok).mono (fun _ hs' => hs' ▸ hs) fun _ _ h => h
    · exact absurd hok hne

theorem run_highWater {n : Nat} : (run r).Keeps may fun s => s.highWater = some n := by
  have hreceipt : ∀ phase v b revision,
      (writeReceipt phase v b revision).Keeps may fun s => s.highWater = some n :=
    fun _ _ _ _ => writeReceipt_keeps (fun _ hs => hs) fun _ _ hs => hs
  have herase : eraseLegacy.Keeps may fun s => s.highWater = some n := by
    apply eraseLegacy_keeps
    · rintro ⟨_ | keys, receipt⟩ hs
      · cases hs
      · exact hs
    · exact fun s hs => (eraseLegacy_highWater s).trans hs
  have hinspect : inspect.Keeps may fun s => s.highWater = some n :=
    .of_reads fun s _ => inspect_reads may s
  have hcomplete : ∀ written status,
      (runComplete r written status).Keeps may fun s => s.highWater = some n := by
    intro written status
    unfold runComplete
    split
    · exact .pure _
    · apply Faulty.Keeps.ite
      · exact fun _ => .pure _
      · intro _
        apply Faulty.Keeps.bind (hreceipt _ _ _ _)
        intro ret
        exact .ite (fun _ => refreshAfterFailure_keeps ret _)
          fun _ => .bind hinspect fun _ => .pure _
  have heraseStage : ∀ written status,
      (runErase r written status).Keeps may fun s => s.highWater = some n := by
    intro written status
    exact .ite (fun _ => stageThen_keeps herase fun _ _ _ => hcomplete _ _)
      fun _ => hcomplete _ _
  have hmark : ∀ written (s : Flash), s.highWater = some n → (view s).1 = espOk →
      (runHighWater r written (view s).2).Keeps may fun s => s.highWater = some n := by
    intro written s hs hok
    apply Faulty.Keeps.ite
    · intro habsent
      rw [view_highWaterPresent hok, hs] at habsent
      exact absurd rfl habsent
    · exact fun _ => heraseStage _ _
  apply Faulty.Meets.of_states
  intro s hs
  apply (inspect_reads may s).bind_meets hs
  intro x hx
  have hstop : ∀ out : Outcome, (pure out : Io Flash Outcome).Meets may (· = s)
      (fun _ s => s.highWater = some n) fun s => s.highWater = some n :=
    fun out => .pure fun _ hs' => hs' ▸ hs
  apply Faulty.Meets.ite (fun _ => hstop _)
  intro _
  apply Faulty.Meets.ite (fun _ => hstop _)
  intro hgo
  apply Faulty.Meets.ite
  · exact fun _ => .ite (fun _ => hstop _) fun _ => hstop _
  intro _
  apply Faulty.Meets.ite (fun _ => hstop _)
  intro _
  have hok : x.1 = espOk := by
    by_contra hne
    exact hgo (.inl hne)
  rcases hx with rfl | ⟨-, hne, -⟩
  · have hintent : (runIntent r (view s).2).Keeps may fun s => s.highWater = some n := by
      exact .ite (fun _ => stageThen_keeps (hreceipt _ _ _ _) fun t ht htok => hmark _ t ht htok)
        fun _ => hmark _ s hs hok
    exact hintent.mono (fun _ hs' => hs' ▸ hs) fun _ _ h => h
  · exact absurd hok hne

end Frames

end Sigui.Migration

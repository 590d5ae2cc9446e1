import Sigui.ProtocolMigration

/-! What an inspection sees: the classification of the keys on flash, or a storage error. -/
namespace Sigui.Migration

open Nvs

def readingOf (status : Status) (s : Flash) : Reading :=
  match s.receiptBlob with
  | none => ⟨espOk, .zero, status⟩
  | some blob =>
    let status := { status with receiptFound := true }
    if blob.length = 0 ∨ maxReceiptSize < blob.length then
      .quarantined .zero status .quarantinedMalformed espErrInvalidSize
    else readBlob status blob

def withValues (status : Status) (s : Flash) : Status :=
  if s.protocol.isNone then status
  else
    { status with
      legacyPresent := s.legacy.isSome
      observedLegacyValue := s.legacy.getD 0
      highWaterPresent := s.highWater.isSome
      observedHighWater := s.highWater.getD 0 }

def view (s : Flash) : EspErr × Status :=
  let reading := readingOf .cleared s
  if reading.error ≠ espOk then
    if reading.status.state = .uninitialized then
      settled reading.status .storageError reading.error reading.error
    else (reading.error, reading.status)
  else
    let status := withValues reading.status s
    if ¬ status.receiptFound then classifyUnreceipted status
    else classifyReceipted reading.payload status

def Unreadable (r : EspErr × Status) : Prop := r.1 ≠ espOk ∧ r.2.state = .storageError

section Reads

variable (may : Prop) (s : Flash)

theorem readReceipt_reads (status : Status) :
    (readReceipt status).Reads may s fun r => r = readingOf status s ∨
      may ∧ r.error ≠ espOk ∧ r.status.state = status.state := by
  apply Faulty.Reads.bind (openReadOnly_reads may _ s)
  intro opened hopened
  apply Faulty.Reads.ite
  · intro habsent
    have hnone : s.receipt = none := by
      subst habsent
      simpa using hopened.absent
    apply Faulty.Reads.pure
    rw [readingOf, Flash.receiptBlob, hnone]
    exact .inl rfl
  intro hpresent
  apply Faulty.Reads.ite
  · intro hfailed
    exact .pure (.inr ⟨hopened.failed hfailed hpresent, hfailed, rfl⟩)
  intro _
  apply Faulty.Reads.bind (get_reads may _ s)
  rintro r (rfl | ⟨hmay, fault, rfl⟩)
  · cases hblob : s.receiptBlob with
    | none =>
      apply Faulty.Reads.pure
      rw [readingOf, hblob]
      exact .inl rfl
    | some blob =>
      have hview : readingOf status s =
          if blob.length = 0 ∨ maxReceiptSize < blob.length then
            .quarantined .zero { status with receiptFound := true } .quarantinedMalformed
              espErrInvalidSize
          else readBlob { status with receiptFound := true } blob := by
        rw [readingOf, hblob]
      apply Faulty.Reads.ite
      · intro hsize
        exact .pure (.inl (by rw [hview, if_pos hsize]))
      intro hsize
      apply Faulty.Reads.bind (get_reads may _ s)
      rw [hblob]
      rintro r (rfl | ⟨hmay, fault, rfl⟩)
      · apply Faulty.Reads.ite
        · intro hne
          exact absurd rfl hne
        · intro _
          exact .pure (.inl (by rw [hview, if_neg hsize]))
      · exact .pure (.inr ⟨hmay, fault.ne_ok, rfl⟩)
  · apply Faulty.Reads.ite
    · intro habsent
      exact absurd habsent fault.ne_not_found
    · intro _
      exact .pure (.inr ⟨hmay, fault.ne_ok, rfl⟩)

theorem readOptional_reads (value : Flash → Option Nat) :
    (readOptional value).Reads may s fun r => r = (espOk, value s) ∨ may ∧ r.1 ≠ espOk := by
  apply Faulty.Reads.bind (get_reads may value s)
  rintro r (rfl | ⟨hmay, fault, rfl⟩)
  · cases hvalue : value s with
    | none => exact .pure (.inl rfl)
    | some n => exact .pure (.inl rfl)
  · exact .pure (.inr ⟨hmay, (if_neg fault.ne_not_found).trans_ne fault.ne_ok⟩)

theorem readProtocolValues_reads (status : Status) :
    (readProtocolValues status).Reads may s fun r => r = (espOk, withValues status s) ∨
      may ∧ r.1 ≠ espOk := by
  apply Faulty.Reads.bind (openReadOnly_reads may _ s)
  intro opened hopened
  apply Faulty.Reads.ite
  · intro habsent
    have hnone : s.protocol = none := by
      subst habsent
      simpa using hopened.absent
    exact .pure (.inl (by rw [withValues, hnone]; rfl))
  intro hpresent
  apply Faulty.Reads.ite
  · intro hfailed
    exact .pure (.inr ⟨hopened.failed hfailed hpresent, hfailed⟩)
  intro hopen
  have hsome : ¬ s.protocol.isNone := by
    intro hnone
    rcases hopened with hopened | ⟨-, fault, rfl⟩
    · rw [if_neg (by simpa using hnone)] at hopened
      exact hpresent hopened
    · exact hopen fault.ne_ok
  apply Faulty.Reads.bind (readOptional_reads may s Flash.legacy)
  rintro ⟨ret, legacy⟩ hread
  apply Faulty.Reads.ite
  · intro hfailed
    refine .pure (.inr ⟨?_, hfailed⟩)
    exact (hread.resolve_left fun heq => hfailed (Prod.mk.inj heq).1).1
  intro hok
  obtain ⟨rfl, rfl⟩ : ret = espOk ∧ legacy = s.legacy := by
    rcases hread with heq | hne
    · exact Prod.mk.inj heq
    · exact absurd hne.2 hok
  apply Faulty.Reads.bind (readOptional_reads may s Flash.highWater)
  rintro ⟨ret, highWater⟩ hread
  apply Faulty.Reads.pure
  rcases hread with heq | hne
  · obtain ⟨rfl, rfl⟩ := Prod.mk.inj heq
    exact .inl (by rw [withValues, if_neg hsome])
  · exact .inr hne

theorem inspect_reads :
    inspect.Reads may s fun r => r = view s ∨ may ∧ Unreadable r := by
  apply Faulty.Reads.bind (readReceipt_reads may s .cleared)
  rintro reading (rfl | ⟨hmay, hfailed, hstate⟩)
  · apply Faulty.Reads.ite
    · intro herror
      apply Faulty.Reads.ite
      · intro hunset
        exact .pure (.inl (by rw [view, if_pos herror, if_pos hunset]))
      · intro hset
        exact .pure (.inl (by rw [view, if_pos herror, if_neg hset]))
    intro hread
    have hview : view s =
        if ¬ (withValues (readingOf .cleared s).status s).receiptFound then
          classifyUnreceipted (withValues (readingOf .cleared s).status s)
        else classifyReceipted (readingOf .cleared s).payload
          (withValues (readingOf .cleared s).status s) := by
      rw [view, if_neg hread]
    apply Faulty.Reads.bind (readProtocolValues_reads may s _)
    rintro r (rfl | ⟨hmay, hne⟩)
    · apply Faulty.Reads.ite
      · intro hne
        exact absurd rfl hne
      intro _
      apply Faulty.Reads.ite
      · intro hnone
        exact .pure (.inl (by rw [hview, if_pos hnone]))
      · intro hsome
        exact .pure (.inl (by rw [hview, if_neg hsome]))
    · apply Faulty.Reads.ite
      · intro _
        exact .pure (.inr ⟨hmay, hne, rfl⟩)
      · intro hok
        exact absurd hne hok
  · apply Faulty.Reads.ite
    · intro _
      apply Faulty.Reads.ite
      · intro _
        exact .pure (.inr ⟨hmay, hfailed, rfl⟩)
      · intro hset
        exact absurd hstate hset
    · intro hok
      exact absurd hfailed hok

end Reads

end Sigui.Migration

import Sigui.PacketQuery

/-! The journal on the card as appends in order leave it. The first record of a segment cuts the
segment off, so what it still held of the previous round is gone at once. -/
namespace Sigui.Packet

/-- What `append_sd_history_for_generation` writes where the slot is free or starts a segment. -/
def CardJournal.write (journal : CardJournal) (e : Entry) : CardJournal := fun segment slot =>
  if segment ≠ segmentOf e.seq then journal segment slot
  else if slot = slotOf e.seq then some (historyRecord e)
  else if slotOf e.seq = 0 then none
  else journal segment slot

/-- The journal after the records 1 to `n`. -/
def journalOf (entryAt : Nat → Entry) : Nat → CardJournal
  | 0 => fun _ _ => none
  | n + 1 => (journalOf entryAt n).write (entryAt (n + 1))

/-- The record `k` is in one of the segments in use once the record `n` is written. -/
def Unreplaced (n k : Nat) : Prop :=
  0 < k ∧ k ≤ n ∧ (n - 1) / sdSegmentCapacity < (k - 1) / sdSegmentCapacity + sdSegmentCount

instance (n k : Nat) : Decidable (Unreplaced n k) := by
  unfold Unreplaced
  infer_instance

variable {entryAt : Nat → Entry}

theorem Unreplaced.same_round {n k : Nat} (h : Unreplaced n k) (hn : segmentOf k = segmentOf n) :
    (k - 1) / sdSegmentCapacity = (n - 1) / sdSegmentCapacity := by
  have hcount : sdSegmentCount = 64 := rfl
  have hle : (k - 1) / sdSegmentCapacity ≤ (n - 1) / sdSegmentCapacity :=
    Nat.div_le_div_right (by have := h.2.1; omega)
  have hbound := h.2.2
  unfold segmentOf at hn
  rw [hcount] at hbound hn
  omega

theorem Unreplaced.eq_of_slot {n k : Nat} (h : Unreplaced n k)
    (hsegment : segmentOf k = segmentOf n) (hslot : slotOf k = slotOf n) : k = n := by
  have hround := h.same_round hsegment
  have hpos := h.1
  have hle := h.2.1
  unfold slotOf at hslot
  have hk := Nat.div_add_mod (k - 1) sdSegmentCapacity
  have hn := Nat.div_add_mod (n - 1) sdSegmentCapacity
  rw [hround, hslot] at hk
  omega

theorem unreplaced_succ_iff {n k : Nat} (hk : k ≠ n + 1) :
    Unreplaced (n + 1) k ↔
      Unreplaced n k ∧ (segmentOf k = segmentOf (n + 1) → slotOf (n + 1) ≠ 0) := by
  have hcapacity : sdSegmentCapacity = 64 := rfl
  have hcount : sdSegmentCount = 64 := rfl
  unfold Unreplaced segmentOf slotOf
  rw [hcapacity, hcount]
  constructor
  · rintro ⟨hpos, hle, hround⟩
    refine ⟨⟨hpos, by omega, by omega⟩, ?_⟩
    intro hsegment
    omega
  · rintro ⟨⟨hpos, hle, hround⟩, hkept⟩
    refine ⟨hpos, by omega, ?_⟩
    by_contra hlost
    have hsegment : (k - 1) / 64 % 64 = (n + 1 - 1) / 64 % 64 := by omega
    have hstart := hkept hsegment
    omega

theorem journalOf_eq_some {n segment slot : Nat} {r : HistoryRecord}
    (hseq : ∀ k, (entryAt k).seq = k) : journalOf entryAt n segment slot = some r ↔
      ∃ k, Unreplaced n k ∧ segmentOf k = segment ∧ slotOf k = slot ∧
        r = historyRecord (entryAt k) := by
  induction n with
  | zero =>
    constructor
    · intro h
      cases h
    · rintro ⟨k, hk, -⟩
      have hpos := hk.1
      have hle := hk.2.1
      omega
  | succ n ih =>
    have hlast : Unreplaced (n + 1) (n + 1) :=
      ⟨Nat.succ_pos _, Nat.le_refl _, Nat.lt_add_of_pos_right (by decide)⟩
    rw [journalOf, CardJournal.write, hseq]
    by_cases hsegment : segment = segmentOf (n + 1)
    · rw [if_neg (not_not.mpr hsegment)]
      by_cases hslot : slot = slotOf (n + 1)
      · rw [if_pos hslot, Option.some.injEq]
        constructor
        · intro h
          exact ⟨n + 1, hlast, hsegment.symm, hslot.symm, h.symm⟩
        · rintro ⟨k, hk, hkseg, hkslot, rfl⟩
          rw [hk.eq_of_slot (hkseg.trans hsegment) (hkslot.trans hslot)]
      · rw [if_neg hslot]
        have hother : ∀ k, slotOf k = slot → k ≠ n + 1 := fun k hk heq => hslot (by rw [← hk, heq])
        by_cases hstart : slotOf (n + 1) = 0
        · rw [if_pos hstart]
          constructor
          · intro h
            cases h
          · rintro ⟨k, hk, hkseg, hkslot, -⟩
            have hkept := ((unreplaced_succ_iff (hother k hkslot)).mp hk).2
            exact absurd hstart (hkept (hkseg.trans hsegment))
        · rw [if_neg hstart, ih]
          apply exists_congr
          intro k
          constructor
          · rintro ⟨hk, hkseg, hkslot, hr⟩
            exact ⟨(unreplaced_succ_iff (hother k hkslot)).mpr ⟨hk, fun _ => hstart⟩, hkseg, hkslot,
              hr⟩
          · rintro ⟨hk, hkseg, hkslot, hr⟩
            exact ⟨((unreplaced_succ_iff (hother k hkslot)).mp hk).1, hkseg, hkslot, hr⟩
    · rw [if_pos hsegment, ih]
      apply exists_congr
      intro k
      have hother : segmentOf k = segment → k ≠ n + 1 := fun hk heq => hsegment (by rw [← hk, heq])
      constructor
      · rintro ⟨hk, hkseg, hkslot, hr⟩
        have hkept : segmentOf k = segmentOf (n + 1) → slotOf (n + 1) ≠ 0 := fun hsame =>
          absurd (hkseg.symm.trans hsame) hsegment
        exact ⟨(unreplaced_succ_iff (hother hkseg)).mpr ⟨hk, hkept⟩, hkseg, hkslot, hr⟩
      · rintro ⟨hk, hkseg, hkslot, hr⟩
        exact ⟨((unreplaced_succ_iff (hother hkseg)).mp hk).1, hkseg, hkslot, hr⟩

theorem readSdHistoryEntry_journalOf {n seq : Nat} (hseq : ∀ k, (entryAt k).seq = k) :
    readSdHistoryEntry (journalOf entryAt n) seq =
      if Unreplaced n seq then some (entryAt seq) else none := by
  unfold readSdHistoryEntry
  by_cases hzero : seq = 0
  · have hnot : ¬ Unreplaced n seq := fun h => absurd hzero (Nat.ne_of_gt h.1)
    rw [if_pos hzero, if_neg hnot]
  rw [if_neg hzero]
  by_cases hseg : Unreplaced n seq
  · have hheld : journalOf entryAt n (segmentOf seq) (slotOf seq) =
        some (historyRecord (entryAt seq)) :=
      (journalOf_eq_some hseq).mpr ⟨seq, hseg, rfl, rfl, rfl⟩
    have hvalid : historyRecordIsValid (historyRecord (entryAt seq)) seq = true := by
      have hown := historyRecord_valid (entryAt seq)
      rwa [hseq] at hown
    rw [hheld, if_pos hseg]
    dsimp only
    rw [if_pos hvalid]
    rfl
  · rw [if_neg hseg]
    cases hheld : journalOf entryAt n (segmentOf seq) (slotOf seq) with
    | none => rfl
    | some r =>
      obtain ⟨k, hk, -, -, rfl⟩ := (journalOf_eq_some hseq).mp hheld
      have hother : ¬ historyRecordIsValid (historyRecord (entryAt k)) seq = true := by
        intro hvalid
        have hsame : k = seq := (hseq k).symm.trans (historyRecordIsValid_seq hvalid)
        exact hseg (hsame ▸ hk)
      dsimp only
      rw [if_neg hother]

end Sigui.Packet

import Sigui.DmEntryValid

/-! The store as one whose blob `blob_is_valid` accepts, and the operations that keep it so. -/
namespace Sigui.Dm

structure Writable (s : DmStore) : Prop where
  epoch : s.epoch ≠ 0
  contentRevision : s.contentRevision ≠ 0
  nextSeq : s.nextSeq ≠ 0
  total : s.rows.length ≤ s.totalWritten
  rows : RowsValid s.nextSeq s.rows

theorem blobIsValid_fillBlob_iff (s : DmStore) : blobIsValid (fillBlob s) = true ↔ Writable s := by
  rw [blobIsValid_iff]
  constructor
  · intro h
    have htotal : s.entries.count ≤ s.totalWritten := h.total
    have hrows := h.rows
    rw [rows_fillBlob] at hrows
    exact ⟨h.epoch, h.contentRevision, h.nextSeq, s.length_rows.trans_le htotal, hrows⟩
  · intro h
    have htotal := h.total
    rw [s.length_rows] at htotal
    refine
      { length := ?_
        schema := rfl
        epoch := h.epoch
        contentRevision := h.contentRevision
        count := s.entries.count_le
        nextSeq := h.nextSeq
        total := htotal
        head := rfl
        rows := by
          rw [rows_fillBlob]
          exact h.rows }
    have hcount := s.entries.count_le
    simp only [fillBlob, List.length_append, s.length_rows, List.length_replicate]
    omega

theorem Writable.ordered {s : DmStore} (h : Writable s) : RowsOrdered s :=
  ⟨h.rows.ascending, fun y hy => persistedEntryIsValid_seq_lt (h.rows.entries y hy)⟩

theorem Writable.blob {s : DmStore} (h : Writable s) : BlobValid (fillBlob s) :=
  (blobIsValid_iff _).mp ((blobIsValid_fillBlob_iff s).mpr h)

theorem writable_loadBlob (s : DmStore) {blob : DmBlob} (h : BlobValid blob) :
    Writable (loadBlob s blob) where
  epoch := h.epoch
  contentRevision := h.contentRevision
  nextSeq := h.nextSeq
  total := by
    rw [rows_loadBlob, h.length_rows]
    exact h.total
  rows := by
    rw [rows_loadBlob]
    exact h.rows

/-- The stores write the same history: only flags, errors and the side table may differ. -/
structure SameHistory (s s' : DmStore) : Prop where
  rows : s'.rows = s.rows
  nextSeq : s'.nextSeq = s.nextSeq
  totalWritten : s'.totalWritten = s.totalWritten
  epoch : s'.epoch = s.epoch
  contentRevision : s'.contentRevision = s.contentRevision
  clearLineage : s'.clearLineage = s.clearLineage

theorem Writable.of_same {s s' : DmStore} (h : Writable s) (hs : SameHistory s s') :
    Writable s' where
  epoch := hs.epoch ▸ h.epoch
  contentRevision := hs.contentRevision ▸ h.contentRevision
  nextSeq := hs.nextSeq ▸ h.nextSeq
  total := by
    rw [hs.rows, hs.totalWritten]
    exact h.total
  rows := by
    rw [hs.rows, hs.nextSeq]
    exact h.rows

section Rows

variable {nextSeq : Nat} {rows pre post : List DmEntry} {e r : DmEntry}

theorem RowsValid.row_sound (h : RowsValid nextSeq rows) (he : e ∈ rows) : RowSound e :=
  (persistedEntryIsValid_iff.mp (h.entries e he)).2.2

theorem RowsValid.sublist {rows' : List DmEntry} (h : RowsValid nextSeq rows)
    (hsub : rows'.Sublist rows) : RowsValid nextSeq rows' :=
  ⟨fun e he => h.entries e (hsub.subset he), h.ascending.sublist hsub, h.distinct.sublist hsub⟩

theorem RowsValid.empty (nextSeq : Nat) : RowsValid nextSeq [] :=
  ⟨fun _ he => absurd he List.not_mem_nil, List.Pairwise.nil, List.Pairwise.nil⟩

theorem rowsClash_comm (a b : DmEntry) : rowsClash a b = rowsClash b a := by
  unfold rowsClash
  rw [validIdentityDigestEqual_comm]
  congr 1
  rw [Bool.eq_iff_iff]
  simp only [Bool.and_eq_true, decide_eq_true_eq]
  constructor
  · rintro ⟨hne, heq⟩
    exact ⟨heq ▸ hne, heq.symm⟩
  · rintro ⟨hne, heq⟩
    exact ⟨heq ▸ hne, heq.symm⟩

theorem rowsClash_symm : Std.Symm fun a b => rowsClash a b = false :=
  ⟨fun a b h => (rowsClash_comm b a).trans h⟩

theorem RowsValid.push (h : RowsValid nextSeq rows) (hpos : nextSeq ≠ 0) (hseq : e.seq = nextSeq)
    (hsound : RowSound e) (hclash : ∀ p ∈ rows, rowsClash p e = false) :
    RowsValid (nextSeq + 1) (rows ++ [e]) where
  entries := by
    intro x hx
    rcases List.mem_append.mp hx with hx | hx
    · obtain ⟨hp, hlt, hs⟩ := persistedEntryIsValid_iff.mp (h.entries x hx)
      exact persistedEntryIsValid_iff.mpr ⟨hp, hlt.trans (Nat.lt_succ_self _), hs⟩
    · rw [List.mem_singleton.mp hx]
      exact persistedEntryIsValid_iff.mpr ⟨by omega, by omega, hsound⟩
  ascending := by
    refine List.pairwise_append.mpr ⟨h.ascending, List.pairwise_singleton _ _, ?_⟩
    intro x hx y hy
    rw [List.mem_singleton.mp hy, hseq]
    exact persistedEntryIsValid_seq_lt (h.entries x hx)
  distinct := by
    refine List.pairwise_append.mpr ⟨h.distinct, List.pairwise_singleton _ _, ?_⟩
    intro x hx y hy
    rw [List.mem_singleton.mp hy]
    exact hclash x hx

theorem RowsValid.replace (h : RowsValid nextSeq (pre ++ e :: post)) (hseq : r.seq = e.seq)
    (hsession : r.deliverySessionId = e.deliverySessionId) (hsound : RowSound r)
    (hdigest : ∀ x ∈ pre ++ post, validIdentityDigestEqual x r = false) :
    RowsValid nextSeq (pre ++ r :: post) := by
  have hclash : ∀ x ∈ pre ++ post, rowsClash x e = false → rowsClash x r = false := by
    intro x hx hxe
    simp only [rowsClash, hsession, hdigest x hx, Bool.false_or] at hxe ⊢
    exact (Bool.or_eq_false_iff.mp hxe).2
  refine ⟨?_, ?_, ?_⟩
  · intro x hx
    rw [List.mem_append, List.mem_cons] at hx
    rcases hx with hx | rfl | hx
    · exact h.entries x (List.mem_append_left _ hx)
    · have hold := persistedEntryIsValid_iff.mp
        (h.entries e (List.mem_append_cons_self))
      exact persistedEntryIsValid_iff.mpr ⟨hseq ▸ hold.1, hseq ▸ hold.2.1, hsound⟩
    · exact h.entries x (List.mem_append_right _ (List.mem_cons_of_mem _ hx))
  · have hasc := h.ascending
    unfold Ascending at hasc ⊢
    rw [← List.pairwise_map (f := DmEntry.seq) (R := fun a b => a < b)] at hasc ⊢
    simpa only [List.map_append, List.map_cons, hseq] using hasc
  · have hdis := h.distinct
    rw [List.pairwise_append, List.pairwise_cons] at hdis ⊢
    obtain ⟨hpre, ⟨hhead, hpost⟩, hcross⟩ := hdis
    refine ⟨hpre, ⟨?_, hpost⟩, ?_⟩
    · intro x hx
      rw [rowsClash_comm]
      apply hclash x (List.mem_append_right _ hx)
      rw [rowsClash_comm]
      exact hhead x hx
    · intro x hx y hy
      rcases List.mem_cons.mp hy with rfl | hy
      · exact hclash x (List.mem_append_left _ hx) (hcross x hx e List.mem_cons_self)
      · exact hcross x hx y (List.mem_cons_of_mem _ hy)

theorem RowsValid.digest_free (h : RowsValid nextSeq (pre ++ e :: post))
    (hd : r.identityDigestValid = e.identityDigestValid)
    (hdig : r.identityDigestValid = true → r.identityDigest = e.identityDigest) :
    ∀ x ∈ pre ++ post, validIdentityDigestEqual x r = false := by
  intro x hx
  have hdis := h.distinct
  rw [List.pairwise_append, List.pairwise_cons] at hdis
  have hclash : rowsClash x e = false := by
    rcases List.mem_append.mp hx with hx | hx
    · exact hdis.2.2 x hx e List.mem_cons_self
    · rw [rowsClash_comm]
      exact hdis.2.1.1 x hx
  have hxe := (rowsClash_false hclash).1
  by_contra hxr
  obtain ⟨h1, h2, h3⟩ := (validIdentityDigestEqual_iff x r).mp (by simpa using hxr)
  rw [(validIdentityDigestEqual_iff x e).mpr ⟨h1, hd ▸ h2, h3.trans (hdig h2)⟩] at hxe
  exact Bool.noConfusion hxe

end Rows

section Mutations

variable {s : DmStore}

theorem Writable.updateRow (h : Writable s) (pending : List AckPersistencePending)
    {k : Fin dmStoreCapacity} {row : DmEntry} (hk : s.entries.Used k)
    (hrow : RowUpdate (s.entries.slots k) row) :
    Writable (updateRow { s with ackPersistencePending := pending } k fun _ => row) := by
  obtain ⟨pre, post, hrows, hrows'⟩ :=
    rows_updateRow { s with ackPersistencePending := pending } (fun _ => row) hk
  have hold : RowsValid s.nextSeq (pre ++ s.entries.slots k :: post) := by
    rw [← hrows]
    exact h.rows
  have hmem : s.entries.slots k ∈ pre ++ s.entries.slots k :: post :=
    List.mem_append_cons_self
  refine ⟨h.epoch, saturatingSucc_ne_zero _ h.contentRevision, h.nextSeq, ?_, ?_⟩
  · have htotal := h.total
    have hlen : s.rows.length = (pre ++ s.entries.slots k :: post).length := congrArg _ hrows
    rw [hrows']
    simp only [List.length_append, List.length_cons] at hlen ⊢
    exact hlen ▸ htotal
  · rw [hrows']
    exact hold.replace hrow.seq hrow.session (hrow.sound (hold.row_sound hmem))
      (hold.digest_free hrow.digest.1 fun _ => hrow.digest.2)

/-- The digest an append offers is not carried by a row that stays in the ring. -/
def digestUnused (s : DmStore) (a : AppendArgs) : Prop :=
  ∀ identityDigest, a.identityDigest = some identityDigest →
    ∀ e ∈ retainedRows s, e.identityDigestValid = true → e.identityDigest ≠ identityDigest

theorem NewRow.clash {a : AppendArgs} {nowMs : Nat} {random : Fin 8 → UInt64} {entry : DmEntry}
    (h : NewRow s a nowMs random entry) (hunused : digestUnused s a) :
    ∀ p ∈ retainedRows s, rowsClash p entry = false := by
  intro p hp
  obtain ⟨hvalid, hdigest⟩ := DmEntry.digest_of_ackPart h.ackPart
  have hnodigest : validIdentityDigestEqual p entry = false := by
    by_contra hpe
    obtain ⟨h1, h2, h3⟩ := (validIdentityDigestEqual_iff p entry).mp (by simpa using hpe)
    cases hd : a.identityDigest with
    | none =>
      rw [hvalid, baseEntry, hd] at h2
      exact Bool.noConfusion h2
    | some identityDigest =>
      apply hunused identityDigest hd p hp h1
      rw [h3, hdigest, baseEntry, hd]
      rfl
  simp only [rowsClash, hnodigest, Bool.false_or, Bool.and_eq_false_iff, decide_eq_false_iff_not,
    not_not]
  cases ho : entry.outbound with
  | false => exact .inl (h.inbound ho)
  | true =>
    have hfresh := deliverySessionIdExists_false (h.outbound ho).2
    exact .inr (hfresh.2 p ((retainedRows_sublist s).subset hp))

theorem Writable.insertRow (h : Writable s) {a : AppendArgs} {nowMs : Nat}
    {random : Fin 8 → UInt64} {entry : DmEntry} (hready : AppendReady s a)
    (hrow : NewRow s a nowMs random entry) (hunused : digestUnused s a) :
    Writable (insertRow s entry) := by
  have hold : RowsValid s.nextSeq (retainedRows s) := h.rows.sublist (retainedRows_sublist s)
  have hsound := hrow.sound (appendCheck_eq_none hready.check)
  refine ⟨h.epoch, saturatingSucc_ne_zero _ h.contentRevision, Nat.succ_ne_zero _, ?_, ?_⟩
  · have htotal := h.total
    have hlen := (retainedRows_sublist s).length_le
    rw [rows_insertRow]
    simp only [List.length_append, List.length_singleton]
    exact Nat.succ_le_succ (hlen.trans htotal)
  · rw [rows_insertRow]
    exact hold.push h.nextSeq hrow.seq hsound (hrow.clash hunused)

theorem Writable.mutated {op : DmOp} {s' : DmStore} (h : Writable s) (hm : Mutated s op s')
    (hunused : ∀ a nowMs random, op = .append a nowMs random → AppendReady s a →
      digestUnused s a) :
    Writable s' := by
  cases hm with
  | refused => exact h
  | preview a nowMs random check => exact h.of_same ⟨rfl, rfl, rfl, rfl, rfl, rfl⟩
  | inserted a nowMs random entry ready row =>
    exact h.insertRow ready row (hunused a nowMs random rfl ready)
  | rewritten op k row pending used update other dispatched => exact h.updateRow pending used update

end Mutations

theorem Writable.normalizeWith {s : DmStore} (h : Writable s) {interrupted : DmEntry → Bool}
    {settle : DmEntry → DmEntry}
    (hsound : ∀ e, RowSound e → interrupted e = true → RowSound (settle e))
    (hseq : ∀ e, (settle e).seq = e.seq) (hclash : ∀ p e, rowsClash p (settle e) = rowsClash p e) :
    Writable (normalizeWith interrupted settle s).1 := by
  let f : DmEntry → DmEntry := fun e => if interrupted e then settle e else e
  have hfseq : ∀ e, (f e).seq = e.seq := by
    intro e
    dsimp only [f]
    split_ifs
    · exact hseq e
    · rfl
  have hfclash : ∀ p e, rowsClash (f p) (f e) = rowsClash p e := by
    have hone : ∀ p e, rowsClash p (f e) = rowsClash p e := by
      intro p e
      dsimp only [f]
      split_ifs
      · exact hclash p e
      · rfl
    intro p e
    rw [hone, rowsClash_comm, hone, rowsClash_comm]
  have hrows : RowsValid s.nextSeq (s.rows.map f) := by
    refine ⟨?_, ?_, ?_⟩
    · intro x hx
      obtain ⟨e, he, rfl⟩ := List.mem_map.mp hx
      obtain ⟨hp, hlt, hs⟩ := persistedEntryIsValid_iff.mp (h.rows.entries e he)
      refine persistedEntryIsValid_iff.mpr ⟨hfseq e ▸ hp, hfseq e ▸ hlt, ?_⟩
      dsimp only [f]
      split_ifs with hi
      · exact hsound e hs hi
      · exact hs
    · exact List.pairwise_map.mpr (h.rows.ascending.imp fun hab => by rwa [hfseq, hfseq])
    · exact List.pairwise_map.mpr (h.rows.distinct.imp fun hab => by rwa [hfclash])
  have hmap := rows_normalizeWith interrupted settle s
  by_cases hany : s.rows.any interrupted = true
  · have hfields : (Dm.normalizeWith interrupted settle s).1.nextSeq = s.nextSeq ∧
        (Dm.normalizeWith interrupted settle s).1.totalWritten = s.totalWritten ∧
        (Dm.normalizeWith interrupted settle s).1.epoch = s.epoch ∧
        (Dm.normalizeWith interrupted settle s).1.contentRevision =
          saturatingSucc s.contentRevision := by
      unfold Dm.normalizeWith
      rw [if_pos hany]
      exact ⟨rfl, rfl, rfl, rfl⟩
    obtain ⟨hnext, htotal, hepoch, hrevision⟩ := hfields
    refine ⟨hepoch ▸ h.epoch, ?_, hnext ▸ h.nextSeq, ?_, ?_⟩
    · rw [hrevision]
      exact saturatingSucc_ne_zero _ h.contentRevision
    · rw [hmap, htotal, List.length_map]
      exact h.total
    · rw [hmap, hnext]
      exact hrows
  · unfold Dm.normalizeWith
    rw [if_neg hany]
    exact h

theorem Writable.normalizeInterrupted {s : DmStore} (h : Writable s) :
    Writable (normalizeInterrupted s) := by
  have hack : Writable (normalizeInterruptedAck s).1 :=
    h.normalizeWith (fun e => settleInterruptedAck_sound) (fun _ => rfl) fun _ _ => rfl
  exact hack.normalizeWith (fun e => settleInterruptedDelivery_sound) (fun _ => rfl) fun _ _ => rfl

theorem Writable.clearStore {s : DmStore} (h : Writable s) (lineage : UInt64) :
    Writable (clearStore s lineage) where
  epoch := by
    simp only [Dm.clearStore]
    split_ifs
    · decide
    · exact Nat.succ_ne_zero _
  contentRevision := saturatingSucc_ne_zero _ h.contentRevision
  nextSeq := Nat.one_ne_zero
  total := Nat.zero_le _
  rows := RowsValid.empty _

end Sigui.Dm

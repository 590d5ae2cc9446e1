import Sigui.DmWritable

/-! Merging a card keeps the store one that can be written, as long as no row that pairs by
content takes a digest which another row already carries. -/
namespace Sigui.Dm

section Pairing

variable {n m : Nat} {dest source : DmEntry}

theorem rowsClash_of_unpaired (hconflict : deliverySessionIdConflicts dest source = false)
    (hidentity : entryIdentityEqual dest source = false) : rowsClash dest source = false := by
  unfold entryIdentityEqual at hidentity
  have hdigest : validIdentityDigestEqual dest source = false := by
    by_contra h
    rw [if_pos (by simpa using h)] at hidentity
    exact Bool.noConfusion hidentity
  simp only [rowsClash, hdigest, Bool.false_or, Bool.and_eq_false_iff, decide_eq_false_iff_not,
    not_not]
  by_contra hboth
  obtain ⟨hne, hsame'⟩ := not_or.mp hboth
  have hsame : dest.deliverySessionId = source.deliverySessionId := not_not.mp hsame'
  have hmaterial : outboundDeliveryIdentityMaterialEqual dest source = true := by
    simpa [deliverySessionIdConflicts, hsame, hne] using hconflict
  simp [hdigest, hne, hsame, hmaterial] at hidentity

theorem paired_by_content (hs : RowSound source) (hd : dest.identityDigestValid = false)
    (hsource : source.identityDigestValid = true) (h : entryIdentityEqual dest source = true) :
    dest.deliverySessionId = 0 ∧ dest.seq = source.seq ∧
      outboundDeliveryIdentityMaterialEqual dest source = true := by
  have hsession := deliverySessionId_of_not_outbound hs.delivery
    (DmEntry.outbound_false_of_inbound (inbound_of_digest hs.ack hsource))
  have hdigest : validIdentityDigestEqual dest source = false := by
    simp [validIdentityDigestEqual, hd]
  unfold entryIdentityEqual at h
  rw [hdigest, if_neg Bool.false_ne_true, hsession] at h
  split_ifs at h with hid
  · simp only [Bool.and_eq_true, decide_eq_true_eq] at h
    exact absurd h.1.2 h.1.1
  · simp only [ne_eq, not_true_eq_false, or_false, not_not] at hid
    simp only [Bool.and_eq_true, decide_eq_true_eq] at h
    exact ⟨hid, h.1.2, h.2⟩

end Pairing

section SameEpoch

/-- A card row whose digest a RAM row carries pairs, by content, with another RAM row that has
no digest and that the scan reaches first. -/
def digestTakenInRam (s : DmStore) (cards : List DmEntry) : Prop :=
  ∃ u ∈ cards, ∃ y ∈ s.rows, ∃ y' ∈ s.rows,
    y.identityDigestValid = false ∧ entryIdentityEqual y u = true ∧
      validIdentityDigestEqual y' u = true ∧ (y.seq < y'.seq ∨ lifted s cards y' = true)

/-- The merged rows, while the loop runs: sound, and no two of them clash. -/
structure MergedSound (acc : MergeAcc) : Prop where
  sound : ∀ r ∈ acc.merged, RowSound r
  positive : ∀ r ∈ acc.merged, 0 < r.seq
  distinct : acc.merged.Pairwise fun p e => rowsClash p e = false

variable {s : DmStore} {newer : Bool} {base : Nat} {us : List DmEntry} {u : DmEntry}
  {acc acc' : MergeAcc}

theorem MergedSound.snoc (nextSeq additional : Nat) {r : DmEntry} (h : MergedSound acc)
    (hr : RowSound r) (hpos : 0 < r.seq) (hclash : ∀ p ∈ acc.merged, rowsClash p r = false) :
    MergedSound ⟨acc.merged ++ [r], nextSeq, additional⟩ where
  sound := by
    intro x hx
    rcases List.mem_append.mp hx with hx | hx
    · exact h.sound x hx
    · exact List.mem_singleton.mp hx ▸ hr
  positive := by
    intro x hx
    rcases List.mem_append.mp hx with hx | hx
    · exact h.positive x hx
    · exact List.mem_singleton.mp hx ▸ hpos
  distinct := by
    refine List.pairwise_append.mpr ⟨h.distinct, List.pairwise_singleton _ _, ?_⟩
    intro x hx y hy
    exact List.mem_singleton.mp hy ▸ hclash x hx

theorem MergedSound.perm {merged : List DmEntry} {nextSeq additional : Nat} (h : MergedSound acc)
    (hperm : acc.merged.Perm merged) : MergedSound ⟨merged, nextSeq, additional⟩ where
  sound := fun r hr => h.sound r (hperm.mem_iff.mpr hr)
  positive := fun r hr => h.positive r (hperm.mem_iff.mpr hr)
  distinct := h.distinct.perm hperm fun {a b} hab => (rowsClash_comm b a).trans hab

theorem MergeInv.digest_source (hinv : MergeInv s newer base us acc) {r : DmEntry}
    (hr : r ∈ acc.merged) (hd : r.identityDigestValid = true) :
    (∃ y ∈ s.rows, Image s newer base us (.ram y) r ∧ validIdentityDigestEqual y r = true) ∨
      ∃ v ∈ us, validIdentityDigestEqual v r = true := by
  obtain ⟨l, hperm, hforall⟩ := hinv.provenance
  obtain ⟨l₁, src, l₂, m₁, m₂, hl, -, -, himage, -⟩ :=
    forall₂_split_right hforall (hperm.mem_iff.mp hr)
  have hsrc : src ∈ sources s us := by
    rw [hl]
    exact List.mem_append_cons_self
  rcases mem_sources.mp hsrc with ⟨y, hy, rfl⟩ | ⟨v, hv, -, rfl⟩
  · obtain ⟨⟨r₀, habs, hr₀⟩, -⟩ := id himage
    have hvalid : r.identityDigestValid = r₀.identityDigestValid := by rw [hr₀]; rfl
    have hdigest : r.identityDigest = r₀.identityDigest := by rw [hr₀]; rfl
    by_cases hyd : y.identityDigestValid = true
    · obtain ⟨h1, h2⟩ := habs.digest_of_valid hyd
      exact .inl ⟨y, hy, himage, (validIdentityDigestEqual_iff _ _).mpr
        ⟨hyd, hd, (hdigest.trans h2).symm⟩⟩
    · obtain ⟨v, hv, -, hvv, hvd, -⟩ := habs.digest_gained (by simpa using hyd) (hvalid ▸ hd)
      exact .inr ⟨v, hv, (validIdentityDigestEqual_iff _ _).mpr
        ⟨hvv, hd, hvd.trans hdigest.symm⟩⟩
  · have hrv := himage.1
    refine .inr ⟨v, hv, (validIdentityDigestEqual_iff _ _).mpr ⟨?_, hd, ?_⟩⟩
    · rw [hrv] at hd
      exact hd
    · rw [hrv]
      rfl

theorem MergeInv.digest_free (hinv : MergeInv s newer base us acc) (hu : NextCard base us u)
    (hsound : RowSound u) {before row after}
    (hsplit : acc.merged = before ++ row :: after)
    (hfirst : ∀ r ∈ before, entryIdentityEqual r u = false)
    (hfound : entryIdentityEqual row u = true) (hrow : row.identityDigestValid = false)
    (hud : u.identityDigestValid = true) {post : List DmEntry}
    (hclear : ¬digestTakenInRam s (us ++ u :: post)) :
    ∀ x ∈ before ++ after, validIdentityDigestEqual x u = false := by
  intro x hx
  have hmem : ∀ z ∈ before ++ after, z ∈ acc.merged := by
    intro z hz
    rw [hsplit, List.mem_append, List.mem_cons]
    rcases List.mem_append.mp hz with hz | hz
    · exact .inl hz
    · exact .inr (.inr hz)
  by_contra hxu
  have hxu' : validIdentityDigestEqual x u = true := by simpa using hxu
  obtain ⟨hxd, -, hxdig⟩ := (validIdentityDigestEqual_iff x u).mp hxu'
  -- The other carrier cannot be a card row, so both rows stand for RAM rows.
  rcases hinv.digest_source (hmem x hx) hxd with ⟨y', hy', himage', hyx⟩ | ⟨v, hv, hvx⟩
  swap
  · obtain ⟨hvd, -, hvdig⟩ := (validIdentityDigestEqual_iff v x).mp hvx
    have hclash := (rowsClash_false (hu.distinct v hv)).1
    rw [(validIdentityDigestEqual_iff v u).mpr ⟨hvd, hud, hvdig.trans hxdig⟩] at hclash
    exact Bool.noConfusion hclash
  obtain ⟨hyd', -, hydig'⟩ := (validIdentityDigestEqual_iff y' x).mp hyx
  have hyu' : validIdentityDigestEqual y' u = true :=
    (validIdentityDigestEqual_iff y' u).mpr ⟨hyd', hud, hydig'.trans hxdig⟩
  have hrowmem : row ∈ acc.merged := by
    rw [hsplit]
    exact List.mem_append_cons_self
  obtain ⟨l, hperm, hforall⟩ := hinv.provenance
  obtain ⟨l₁, src, l₂, m₁, m₂, hl, -, -, himage, -⟩ :=
    forall₂_split_right hforall (hperm.mem_iff.mp hrowmem)
  have hsrc : src ∈ sources s us := by
    rw [hl]
    exact List.mem_append_cons_self
  obtain ⟨y, hy, rfl, hram⟩ := himage.source_ram hu hsrc (.inl hfound)
  have hyu : entryIdentityEqual y u = true := (hram.ram_identity hu).symm.trans hfound
  have hyd : y.identityDigestValid = false := by
    obtain ⟨⟨r₀, habs, hr₀⟩, -⟩ := hram
    by_contra h
    obtain ⟨h1, -⟩ := habs.digest_of_valid (by simpa using h)
    rw [hr₀] at hrow
    exact absurd (h1.symm.trans hrow) (by simp)
  apply hclear
  refine ⟨u, by simp, y, hy, y', hy', hyd, hyu, hyu', ?_⟩
  by_contra hnot
  simp only [not_or, not_lt] at hnot
  obtain ⟨hle, hlift⟩ := hnot
  -- Neither lifted nor behind `y`, the carrier would have been paired first.
  have hlift' : lifted s us y' = false := by
    by_contra h
    exact hlift (lifted_mono (List.subset_append_left _ _) (by simpa using h))
  have hid' : entryIdentityEqual y' u = true := by
    unfold entryIdentityEqual
    rw [if_pos hyu']
  have hrowseq : row.seq = y.seq := by
    obtain ⟨-, hseq⟩ := hram
    split_ifs at hseq with hl
    · -- A lifted row keeps no sequence a card row could still pair with by content.
      have hcontent := paired_by_content hsound hrow hud hfound
      have hub := hu.below
      omega
    · exact hseq
  rcases Nat.lt_or_eq_of_le hle with hlt | heq
  · have := hinv.first_of_split hu hsplit hfirst hy hrowseq hy' hid' hlt
    rw [hlift'] at this
    exact Bool.noConfusion this
  · have hseq' : x.seq = y'.seq := by
      have := himage'.2
      rwa [hlift', if_neg Bool.false_ne_true] at this
    have hnodup := hinv.nodup
    rw [hsplit, List.map_append, List.map_cons, List.nodup_middle, List.nodup_cons,
      ← List.map_append] at hnodup
    apply hnodup.1
    rw [hrowseq, ← heq, ← hseq']
    exact List.mem_map_of_mem hx

theorem MergeStep.mergedSound (hstep : MergeStep s newer acc u acc')
    (hinv : MergeInv s newer base us acc) (hu : NextCard base us u) (hsound : RowSound u)
    (hupos : 0 < u.seq) {post : List DmEntry} (hclear : ¬digestTakenInRam s (us ++ u :: post))
    (h : MergedSound acc) : MergedSound acc' := by
  have hbase := hinv.base_le
  have hub := hu.below
  cases hstep with
  | pair before row after split first _ found =>
    have hrow : row ∈ acc.merged := by
      rw [split]
      exact List.mem_append_cons_self
    have hrowSound := h.sound row hrow
    have hmatched := mergeMatchedRow_sound newer hrowSound hsound found
    have hdistinct := h.distinct
    rw [split, List.pairwise_middle (fun {a b} hab => (rowsClash_comm b a).trans hab),
      List.pairwise_cons] at hdistinct
    obtain ⟨hhead, hrest⟩ := hdistinct
    have hsession : (mergeMatchedRow row u newer).deliverySessionId = row.deliverySessionId :=
      DmEntry.session_of_frozen (mergeMatchedRow_frozen row u newer)
    -- The merged row has its old digest, or the card row's where it had none.
    have hdigest : ∀ x ∈ before ++ after,
        validIdentityDigestEqual (mergeMatchedRow row u newer) x = false := by
      intro x hx
      by_contra hclash
      obtain ⟨h1, h2, h3⟩ := (validIdentityDigestEqual_iff _ _).mp (by simpa using hclash)
      by_cases hrowd : row.identityDigestValid = true
      · obtain ⟨-, hdig⟩ := mergeMatchedRow_digest_of_valid row u newer hrowd
        have hno := (rowsClash_false (hhead x hx)).1
        rw [(validIdentityDigestEqual_iff row x).mpr ⟨hrowd, h2, hdig.symm.trans h3⟩] at hno
        exact Bool.noConfusion hno
      · have hrowd' : row.identityDigestValid = false := by simpa using hrowd
        obtain ⟨hv, hdig⟩ := mergeMatchedRow_digest_of_invalid row u newer hrowd'
        have hud : u.identityDigestValid = true := hv ▸ h1
        have hno := hinv.digest_free hu hsound split first found hrowd' hud hclear x hx
        rw [(validIdentityDigestEqual_iff x u).mpr ⟨h2, hud, h3.symm.trans (hdig hud)⟩] at hno
        exact Bool.noConfusion hno
    have hnew : (mergeMatchedRow row u newer :: (before ++ after)).Pairwise
        fun p e => rowsClash p e = false := by
      refine List.pairwise_cons.mpr ⟨fun x hx => ?_, hrest⟩
      have hold := (rowsClash_false (hhead x hx)).2
      simp only [rowsClash, hdigest x hx, hsession, Bool.false_or, Bool.and_eq_false_iff,
        decide_eq_false_iff_not, not_not]
      exact or_iff_not_imp_left.mpr hold
    have hmem : ∀ x, x ∈ before ++ mergeMatchedRow row u newer :: after →
        x = mergeMatchedRow row u newer ∨ x ∈ acc.merged := by
      intro x hx
      rw [split]
      simp only [List.mem_append, List.mem_cons] at hx ⊢
      tauto
    refine ⟨fun x hx => ?_, fun x hx => ?_, ?_⟩
    · rcases hmem x hx with rfl | hx
      · exact hmatched
      · exact h.sound x hx
    · rcases hmem x hx with rfl | hx
      · rw [mergeMatchedRow_seq]
        exact h.positive row hrow
      · exact h.positive x hx
    · exact (List.pairwise_middle (fun {a b} hab => (rowsClash_comm b a).trans hab)).mpr hnew
  | enter absent free =>
    exact h.snoc _ _ hsound hupos fun p hp => rowsClash_of_unpaired (absent p hp).1 (absent p hp).2
  | liftLive before current after absent split same room live =>
    have hcurrent : current ∈ acc.merged := by
      rw [split]
      exact List.mem_append_cons_self
    have hmoved : MergedSound ⟨before ++ after ++ [current.withSeq acc.nextSeq], 0, 0⟩ := by
      have hrest : MergedSound ⟨before ++ after, 0, 0⟩ := by
        have hsub : (before ++ after).Sublist acc.merged := by
          rw [split]
          exact (List.Sublist.refl before).append (List.sublist_cons_self _ _)
        exact ⟨fun r hr => h.sound r (hsub.subset hr), fun r hr => h.positive r (hsub.subset hr),
          h.distinct.sublist hsub⟩
      refine hrest.snoc 0 0 ((h.sound current hcurrent).withSeq _) ?_ ?_
      · rw [DmEntry.withSeq_seq]
        omega
      intro p hp
      have hdistinct := h.distinct
      rw [split, List.pairwise_middle (fun {a b} hab => (rowsClash_comm b a).trans hab),
        List.pairwise_cons] at hdistinct
      exact (rowsClash_comm p current).trans (hdistinct.1 p hp)
    have hadded := hmoved.snoc (acc.nextSeq + 1) acc.additionalCount
      hsound hupos (fun p hp => ?_)
    · apply hadded.perm
      change (before ++ after ++ [current.withSeq acc.nextSeq] ++ [u]).Perm _
      rw [List.append_assoc before after, List.append_assoc before (u :: after), List.cons_append]
      exact (List.perm_append_singleton u _).trans List.perm_middle.symm
    · rcases List.mem_append.mp hp with hp | hp
      · have hpm : p ∈ acc.merged := by
          rw [split]
          simp only [List.mem_append, List.mem_cons] at hp ⊢
          tauto
        exact rowsClash_of_unpaired (absent p hpm).1 (absent p hpm).2
      · rw [List.mem_singleton.mp hp]
        have hclash : rowsClash current u = false :=
          rowsClash_of_unpaired (absent current hcurrent).1 (absent current hcurrent).2
        exact hclash
  | resequence current absent mem same room settled =>
    refine h.snoc _ _ (hsound.withSeq _) ?_ ?_
    · rw [DmEntry.withSeq_seq]
      omega
    intro p hp
    have hclash : rowsClash p u = false := rowsClash_of_unpaired (absent p hp).1 (absent p hp).2
    exact hclash

theorem le_nextSeqOver (nextSeq : Nat) (rows : List DmEntry) :
    nextSeq ≤ nextSeqOver nextSeq rows := by
  unfold nextSeqOver
  induction rows generalizing nextSeq with
  | nil => exact le_refl _
  | cons e rows ih =>
    rw [List.foldl_cons]
    refine le_trans ?_ (ih _)
    split_ifs <;> omega

theorem le_mergedTotal (s : DmStore) (primary : DmBlob) (additionalCount keepCount : Nat) :
    keepCount ≤ mergedTotal s primary additionalCount keepCount := by
  simp only [mergedTotal]
  split_ifs <;> omega

theorem rows_mergedStore (s : DmStore) (primary : DmBlob) (acc : MergeAcc) :
    (mergedStore s primary acc).rows = keptRows acc :=
  Ring.toList_ofList _ (by decide) (length_keptRows_le acc)

theorem MergedSound.writable {primary : DmBlob} (h : MergedSound acc) (hs : Writable s)
    (hvalid : BlobValid primary) (hnodup : (acc.merged.map DmEntry.seq).Nodup)
    (hbelow : ∀ r ∈ acc.merged, r.seq < acc.nextSeq) (hpos : acc.nextSeq ≠ 0) :
    Writable (mergedStore s primary acc) := by
  have hsub : (keptRows acc).Sublist (sortByKey DmEntry.seq acc.merged) := keepLast_sublist _ _
  have hsorted : MergedSound ⟨sortByKey DmEntry.seq acc.merged, 0, 0⟩ :=
    h.perm (sortByKey_perm DmEntry.seq acc.merged).symm
  have hnext := le_nextSeqOver acc.nextSeq (keptRows acc)
  have hnextSeq : (mergedStore s primary acc).nextSeq = nextSeqOver acc.nextSeq (keptRows acc) :=
    rfl
  refine ⟨hvalid.epoch, ?_, ?_, ?_, ?_⟩
  · have hrevision := hs.contentRevision
    simp only [mergedStore]
    omega
  · rw [hnextSeq]
    omega
  · rw [rows_mergedStore]
    exact le_mergedTotal s primary acc.additionalCount _
  · rw [rows_mergedStore, hnextSeq]
    refine ⟨fun r hr => ?_, (ascending_sortByKey hnodup).sublist hsub,
      hsorted.distinct.sublist hsub⟩
    have hmem : r ∈ acc.merged := (mem_sortByKey _ _).mp (hsub.subset hr)
    exact persistedEntryIsValid_iff.mpr
      ⟨h.positive r hmem, (hbelow r hmem).trans_le hnext, h.sound r hmem⟩

theorem mergeCandidates_sound {primary : DmBlob} {acc : MergeAcc} (h : Writable s)
    (hvalid : BlobValid primary) (hclear : ¬digestTakenInRam s primary.rows)
    (hm : mergeCandidates s primary = .ok acc) :
    MergeInv s (decide (s.contentRevision < primary.contentRevision))
      (max s.nextSeq primary.nextSeq) primary.rows acc ∧ MergedSound acc := by
  have hinit : MergedSound
      ⟨s.rows, max s.nextSeq primary.nextSeq, additionalLiveCount s primary⟩ :=
    ⟨fun r hr => h.rows.row_sound hr,
      fun r hr => persistedEntryIsValid_seq_pos (h.rows.entries r hr), h.rows.distinct⟩
  exact mergeCandidates_induct h.ordered hvalid
    (fun _ acc => MergedSound acc) hinit (fun us u post acc acc' hrows hinv hu hacc hstep => by
      have hu' : u ∈ primary.rows := by
        rw [hrows]
        exact List.mem_append_cons_self
      exact hstep.mergedSound hinv hu (hvalid.rows.row_sound hu')
        (persistedEntryIsValid_seq_pos (hvalid.rows.entries u hu')) (hrows ▸ hclear) hacc) hm

theorem Writable.mergeSameEpoch {primary : DmBlob} (h : Writable s) (hvalid : BlobValid primary)
    (hclear : ¬digestTakenInRam s primary.rows) : Writable (mergeSameEpoch s primary).store := by
  unfold Dm.mergeSameEpoch
  cases hm : mergeCandidates s primary with
  | error ret => exact h
  | ok acc =>
    obtain ⟨hinv, hsound⟩ := mergeCandidates_sound h hvalid hclear hm
    have hpos : acc.nextSeq ≠ 0 := by
      have hbase := hinv.base_le
      have hnext := h.nextSeq
      omega
    have hmerged := hsound.writable h hvalid hinv.nodup hinv.below hpos
    refine ⟨hmerged.epoch, ?_, hmerged.nextSeq, hmerged.total, hmerged.rows⟩
    dsimp only
    split_ifs
    · exact saturatingSucc_ne_zero _ hmerged.contentRevision
    · exact hmerged.contentRevision

end SameEpoch

section Overlay

/-- A card row carries the digest of an own row, while a row without a digest that the scan of
the rebuilt ring may reach first says the same: a card row of the same sequence, or an own live
row whose new sequence may be that of the own row. -/
def digestTakenOnCard (s : DmStore) (primary : DmBlob) : Prop :=
  ∃ e ∈ s.rows, (∃ b ∈ primary.rows, validIdentityDigestEqual b e = true) ∧
    ((∃ b ∈ primary.rows, b.identityDigestValid = false ∧ entryIdentityEqual b e = true) ∨
      ∃ y ∈ s.rows, isLive s y = true ∧ y.identityDigestValid = false ∧
        y.deliverySessionId = 0 ∧ outboundDeliveryIdentityMaterialEqual y e = true ∧
        primary.nextSeq ≤ e.seq)

def liveRows (s : DmStore) : List DmEntry := s.rows.filter (isLive s)

/-- Where a row of the rebuilt ring comes from, after the own rows `done` were replayed. -/
inductive OverlayRow (s : DmStore) (primary : DmBlob) (done : List DmEntry) (r : DmEntry) : Prop
  | card (b : DmEntry) (mem : b ∈ primary.rows) (frozen : r.frozen = b.frozen)
      (seq : r.seq = b.seq)
      (kept : b.identityDigestValid = true → r.identityDigestValid = true)
      (digest : r.identityDigestValid = true → validIdentityDigestEqual b r = true ∨
        ∃ e ∈ done, validIdentityDigestEqual e r = true)
  | own (y : DmEntry) (mem : y ∈ done) (frozen : r.frozen = y.frozen)
      (seq : primary.nextSeq ≤ r.seq)
      (replayed : isLive s y = true ∨ y.identityDigestValid = true)
      (kept : y.identityDigestValid = true → r.identityDigestValid = true)
      (digest : r.identityDigestValid = true → ∃ e ∈ done, validIdentityDigestEqual e r = true)

/-- The overlay loop, after the own rows `done`. -/
structure OverlayInv (s : DmStore) (primary : DmBlob) (done : List DmEntry) (acc : OverlayAcc) :
    Prop where
  rows : RowsValid acc.store.nextSeq acc.store.rows
  source : ∀ r ∈ acc.store.rows, OverlayRow s primary done r
  nextSeq : primary.nextSeq ≤ acc.store.nextSeq
  epoch : acc.store.epoch = primary.epoch
  contentRevision : acc.store.contentRevision = primary.contentRevision
  live : ∀ e, isLive acc.store e = isLive s e
  count : ∃ extra, acc.store.rows.length ≤ primary.count + done.countP (isLive s) + extra ∧
    min uint32Max (s.mutationsSinceInit + extra) ≤ acc.totalAdditions

variable {s : DmStore} {primary : DmBlob} {done : List DmEntry} {acc acc' : OverlayAcc}
  {e r : DmEntry}

theorem OverlayRow.snoc (h : OverlayRow s primary done r) :
    OverlayRow s primary (done ++ [e]) r := by
  cases h with
  | card b mem frozen seq kept digest =>
    refine .card b mem frozen seq kept fun hr => (digest hr).imp_right ?_
    rintro ⟨x, hx, hxr⟩
    exact ⟨x, List.mem_append_left _ hx, hxr⟩
  | own y mem frozen seq replayed kept digest =>
    refine .own y (List.mem_append_left _ mem) frozen seq replayed kept fun hr => ?_
    obtain ⟨x, hx, hxr⟩ := digest hr
    exact ⟨x, List.mem_append_left _ hx, hxr⟩

theorem OverlayRow.merged (h : OverlayRow s primary done r) :
    OverlayRow s primary (done ++ [e]) (mergeMatchedRow r e true) := by
  have hfrozen := mergeMatchedRow_frozen r e true
  have hdigest : (mergeMatchedRow r e true).identityDigestValid = true →
      (r.identityDigestValid = true ∧
        (mergeMatchedRow r e true).identityDigest = r.identityDigest) ∨
      validIdentityDigestEqual e (mergeMatchedRow r e true) = true := by
    intro hv
    by_cases hr : r.identityDigestValid = true
    · exact .inl ⟨hr, (mergeMatchedRow_digest_of_valid r e true hr).2⟩
    · obtain ⟨hve, hde⟩ := mergeMatchedRow_digest_of_invalid r e true (by simpa using hr)
      have hev : e.identityDigestValid = true := hve ▸ hv
      exact .inr ((validIdentityDigestEqual_iff _ _).mpr ⟨hev, hv, (hde hev).symm⟩)
  have htransfer : ∀ x, validIdentityDigestEqual x r = true →
      (mergeMatchedRow r e true).identityDigestValid = true →
      (mergeMatchedRow r e true).identityDigest = r.identityDigest →
      validIdentityDigestEqual x (mergeMatchedRow r e true) = true := by
    intro x hx hv hd
    obtain ⟨h1, -, h3⟩ := (validIdentityDigestEqual_iff x r).mp hx
    exact (validIdentityDigestEqual_iff _ _).mpr ⟨h1, hv, h3.trans hd.symm⟩
  have hself : ∃ x ∈ done ++ [e], x = e := ⟨e, by simp, rfl⟩
  obtain ⟨e', he', rfl⟩ := hself
  cases h with
  | card b mem frozen seq kept digest =>
    refine .card b mem (hfrozen.trans frozen) ((mergeMatchedRow_seq r e' true).trans seq)
      (fun hb => (mergeMatchedRow_digest_of_valid r e' true (kept hb)).1) fun hv => ?_
    rcases hdigest hv with ⟨hr, hd⟩ | he
    · rcases digest hr with hb | ⟨x, hx, hxr⟩
      · exact .inl (htransfer b hb hv hd)
      · exact .inr ⟨x, List.mem_append_left _ hx, htransfer x hxr hv hd⟩
    · exact .inr ⟨e', he', he⟩
  | own y mem frozen seq replayed kept digest =>
    refine .own y (List.mem_append_left _ mem) (hfrozen.trans frozen)
      ((mergeMatchedRow_seq r e' true).symm ▸ seq) replayed
      (fun hy => (mergeMatchedRow_digest_of_valid r e' true (kept hy)).1) fun hv => ?_
    rcases hdigest hv with ⟨hr, hd⟩ | he
    · obtain ⟨x, hx, hxr⟩ := digest hr
      exact ⟨x, List.mem_append_left _ hx, htransfer x hxr hv hd⟩
    · exact ⟨e', he', he⟩

structure NextOwn (s : DmStore) (done : List DmEntry) (e : DmEntry) : Prop where
  mem : e ∈ s.rows
  visited : ∀ x ∈ done, x ∈ s.rows
  distinct : ∀ x ∈ done, rowsClash x e = false

theorem OverlayInv.digest_free (hinv : OverlayInv s primary done acc) (he : NextOwn s done e)
    (hsound : RowSound e) (hclear : ¬digestTakenOnCard s primary)
    (hr : r ∈ acc.store.rows) (hrd : r.identityDigestValid = false)
    (hed : e.identityDigestValid = true) (hpair : entryIdentityEqual r e = true) :
    ∀ x ∈ acc.store.rows, validIdentityDigestEqual x e = false := by
  intro x hx
  by_contra hxe
  obtain ⟨hxd, -, hxdig⟩ := (validIdentityDigestEqual_iff x e).mp (by simpa using hxe)
  have hnotOwn : ¬∃ y ∈ done, validIdentityDigestEqual y x = true := by
    rintro ⟨y, hy, hyx⟩
    obtain ⟨hyd, -, hydig⟩ := (validIdentityDigestEqual_iff y x).mp hyx
    have hclash := (rowsClash_false (he.distinct y hy)).1
    rw [(validIdentityDigestEqual_iff y e).mpr ⟨hyd, hed, hydig.trans hxdig⟩] at hclash
    exact Bool.noConfusion hclash
  have hcard : ∃ b ∈ primary.rows, validIdentityDigestEqual b e = true := by
    cases hinv.source x hx with
    | card b mem _ _ _ digest =>
      rcases digest hxd with hb | hown
      · obtain ⟨h1, -, h3⟩ := (validIdentityDigestEqual_iff b x).mp hb
        exact ⟨b, mem, (validIdentityDigestEqual_iff b e).mpr ⟨h1, hed, h3.trans hxdig⟩⟩
      · exact absurd hown hnotOwn
    | own _ _ _ _ _ _ digest => exact absurd (digest hxd) hnotOwn
  apply hclear
  refine ⟨e, he.mem, hcard, ?_⟩
  obtain ⟨hsession, hseq, hmaterial⟩ := paired_by_content hsound hrd hed hpair
  cases hinv.source r hr with
  | card b mem frozen seq kept _ =>
    have hbd : b.identityDigestValid = false := by
      by_contra hb
      rw [kept (by simpa using hb)] at hrd
      exact Bool.noConfusion hrd
    refine .inl ⟨b, mem, hbd, ?_⟩
    rw [← hpair]
    exact (entryIdentityEqual_congr frozen seq (hrd.trans hbd.symm)
      (fun hb => absurd (hb.symm.trans hbd) (by simp)) e).symm
  | own y mem frozen seq replayed kept _ =>
    have hyd : y.identityDigestValid = false := by
      by_contra hy
      rw [kept (by simpa using hy)] at hrd
      exact Bool.noConfusion hrd
    refine .inr ⟨y, he.visited y mem, replayed.resolve_right (by simp [hyd]), hyd, ?_, ?_, ?_⟩
    · exact (DmEntry.session_of_frozen frozen).symm.trans hsession
    · exact (material_of_frozen frozen e).symm.trans hmaterial
    · exact hseq ▸ seq

theorem OverlayInv.match_row (hinv : OverlayInv s primary done acc) (he : NextOwn s done e)
    (hsound : RowSound e) (hclear : ¬digestTakenOnCard s primary) {k : Fin dmStoreCapacity}
    (hk : acc.store.entries.Used k) (hpair : entryIdentityEqual (acc.store.entries.slots k) e = true)
    (differs : Bool) :
    OverlayInv s primary (done ++ [e])
      { acc with
        store :=
          { acc.store with
            entries := acc.store.entries.modify k fun _ =>
              mergeMatchedRow (acc.store.entries.slots k) e true }
        differsPrimary := differs } := by
  obtain ⟨pre, post, hrows, hrows'⟩ := acc.store.entries.toRing.toList_modify
    (fun _ => mergeMatchedRow (acc.store.entries.slots k) e true) hk
  generalize hrow : acc.store.entries.slots k = row at hrows hrows' hpair ⊢
  have hold : RowsValid acc.store.nextSeq (pre ++ row :: post) := by
    rw [← hrows]
    exact hinv.rows
  have hmem : row ∈ acc.store.rows := by
    change row ∈ acc.store.entries.toList
    rw [hrows]
    exact List.mem_append_cons_self
  have hrest : ∀ x ∈ pre ++ post, x ∈ acc.store.rows := by
    intro x hx
    change x ∈ acc.store.entries.toList
    rw [hrows]
    simp only [List.mem_append, List.mem_cons] at hx ⊢
    tauto
  have hdigest : ∀ x ∈ pre ++ post,
      validIdentityDigestEqual x (mergeMatchedRow row e true) = false := by
    by_cases hrowd : row.identityDigestValid = true
    · obtain ⟨h1, h2⟩ := mergeMatchedRow_digest_of_valid row e true hrowd
      exact hold.digest_free (h1.trans hrowd.symm) fun _ => h2
    · have hrowd' : row.identityDigestValid = false := by simpa using hrowd
      obtain ⟨h1, h2⟩ := mergeMatchedRow_digest_of_invalid row e true hrowd'
      intro x hx
      by_contra hxr
      obtain ⟨h3, h4, h5⟩ := (validIdentityDigestEqual_iff _ _).mp (by simpa using hxr)
      have hed : e.identityDigestValid = true := h1 ▸ h4
      have hfree := hinv.digest_free he hsound hclear hmem hrowd' hed hpair x (hrest x hx)
      rw [(validIdentityDigestEqual_iff x e).mpr ⟨h3, hed, h5.trans (h2 hed)⟩] at hfree
      exact Bool.noConfusion hfree
  have hvalid : RowsValid acc.store.nextSeq (pre ++ mergeMatchedRow row e true :: post) :=
    hold.replace (mergeMatchedRow_seq row e true)
      (DmEntry.session_of_frozen (mergeMatchedRow_frozen row e true))
      (mergeMatchedRow_sound true (hinv.rows.row_sound hmem) hsound hpair) hdigest
  obtain ⟨extra, hcount, htotal⟩ := hinv.count
  refine ⟨?_, fun r hr => ?_, hinv.nextSeq, hinv.epoch, hinv.contentRevision, hinv.live,
    extra, ?_, htotal⟩
  · change RowsValid acc.store.nextSeq
      (acc.store.entries.toRing.modify k fun _ => mergeMatchedRow row e true).toList
    rw [hrows']
    exact hvalid
  · replace hr : r ∈ pre ++ mergeMatchedRow row e true :: post := hrows' ▸ hr
    rw [List.mem_append, List.mem_cons] at hr
    rcases hr with hr | rfl | hr
    · exact (hinv.source r (hrest r (List.mem_append_left _ hr))).snoc
    · exact (hinv.source row hmem).merged
    · exact (hinv.source r (hrest r (List.mem_append_right _ hr))).snoc
  · have hlen : acc.store.rows.length = (pre ++ row :: post).length := congrArg _ hrows
    change (acc.store.entries.toRing.modify k fun _ => mergeMatchedRow row e true).toList.length ≤ _
    rw [hrows', List.countP_append]
    simp only [List.length_append, List.length_cons] at hlen ⊢
    omega

theorem OverlayInv.push_row (hinv : OverlayInv s primary done acc)
    (hsound : RowSound e) (hpos : acc.store.nextSeq ≠ 0)
    (hreplay : isLive s e = true ∨ preservePending e = true)
    (habsent : ∀ r ∈ acc.store.rows, deliverySessionIdConflicts r e = false ∧
      entryIdentityEqual r e = false) (differs : Bool) :
    OverlayInv s primary (done ++ [e])
      { store :=
          { acc.store with
            nextSeq := acc.store.nextSeq + 1
            entries := acc.store.entries.push (e.withSeq acc.store.nextSeq) }
        differsPrimary := differs
        totalAdditions :=
          if preservePending e && !isLive acc.store e then saturatingSucc acc.totalAdditions
          else acc.totalAdditions } := by
  have hrows' := toList_push acc.store (e.withSeq acc.store.nextSeq)
  have hsub := retainedRows_sublist acc.store
  obtain ⟨extra, hcount, htotal⟩ := hinv.count
  refine ⟨?_, fun r hr => ?_, hinv.nextSeq.trans (Nat.le_succ _), hinv.epoch,
    hinv.contentRevision, hinv.live, ?_⟩
  · have hclash : ∀ p ∈ retainedRows acc.store, rowsClash p e = false := fun p hp =>
      rowsClash_of_unpaired (habsent p (hsub.subset hp)).1 (habsent p (hsub.subset hp)).2
    change RowsValid (acc.store.nextSeq + 1)
      (acc.store.entries.push (e.withSeq acc.store.nextSeq)).toList
    rw [hrows']
    exact (hinv.rows.sublist hsub).push hpos rfl (hsound.withSeq _) hclash
  · replace hr : r ∈ retainedRows acc.store ++ [e.withSeq acc.store.nextSeq] := hrows' ▸ hr
    rcases List.mem_append.mp hr with hr | hr
    · exact (hinv.source r (hsub.subset hr)).snoc
    · rw [List.mem_singleton.mp hr]
      have hdigest : preservePending e = true → e.identityDigestValid = true := by
        intro hp
        simp only [preservePending, Bool.and_eq_true] at hp
        exact hp.1.1
      exact .own e (by simp) rfl hinv.nextSeq (hreplay.imp_right hdigest) id fun hv =>
        ⟨e, by simp, (validIdentityDigestEqual_iff _ _).mpr ⟨hv, hv, rfl⟩⟩
  · have hlen : (retainedRows acc.store ++ [e.withSeq acc.store.nextSeq]).length ≤
        acc.store.rows.length + 1 := by
      rw [List.length_append, List.length_singleton]
      exact Nat.succ_le_succ hsub.length_le
    have hrowsLength : ((acc.store.entries.push (e.withSeq acc.store.nextSeq)).toList).length ≤
        acc.store.rows.length + 1 := hrows' ▸ hlen
    rw [hinv.live e, List.countP_append]
    by_cases hlive : isLive s e = true
    · refine ⟨extra, ?_, ?_⟩
      · refine hrowsLength.trans ?_
        simp only [List.countP_singleton, hlive, if_true]
        omega
      · simpa only [hlive, Bool.not_true, Bool.and_false, Bool.false_eq_true, if_false] using htotal
    · refine ⟨extra + 1, ?_, ?_⟩
      · refine hrowsLength.trans ?_
        omega
      · have hp := hreplay.resolve_left hlive
        have hmax : uint32Max = 0xFFFFFFFF := rfl
        simp only [hlive, hp, Bool.not_false, Bool.and_true, if_true, saturatingSucc]
        split_ifs <;> omega

theorem overlayCandidate_inv (hinv : OverlayInv s primary done acc) (he : NextOwn s done e)
    (hsound : RowSound e) (hclear : ¬digestTakenOnCard s primary) (hpos : primary.nextSeq ≠ 0)
    (hstep : overlayCandidate acc e = .ok acc') : OverlayInv s primary (done ++ [e]) acc' := by
  cases overlayCandidate_step hstep with
  | pair k differs hused hapart hpair => exact hinv.match_row he hsound hclear hused hpair _
  | skip hskip =>
    obtain ⟨extra, hcount, htotal⟩ := hinv.count
    refine ⟨hinv.rows, fun r hr => (hinv.source r hr).snoc, hinv.nextSeq, hinv.epoch,
      hinv.contentRevision, hinv.live, extra, ?_, htotal⟩
    rw [List.countP_append]
    omega
  | push habsent hskip =>
    refine hinv.push_row hsound ?_ ?_ habsent true
    · have := hinv.nextSeq
      omega
    · rw [hinv.live] at hskip
      simp only [Bool.and_eq_true, Bool.not_eq_true', not_and_or, Bool.not_eq_false] at hskip
      exact hskip

theorem overlayEntries_eq (hs : RowsOrdered s) :
    overlayEntries s = s.rows.filter fun e => e.identityDigestValid || isLive s e :=
  sortByKey_of_ascending (hs.ascending.sublist List.filter_sublist)

/-- Whatever the replay adds is counted, unless rows count as live that were not written here. -/
def overlayTotalCovers (s : DmStore) (primary : DmBlob) : Prop :=
  min dmStoreCapacity (primary.count + (liveRows s).length) ≤
    primary.totalWritten + s.mutationsSinceInit

theorem overlayEntries_induct (h : Writable s) (hvalid : BlobValid primary)
    (hclear : ¬digestTakenOnCard s primary) (P : List DmEntry → OverlayAcc → Prop)
    (hinit : P [] ⟨loadBlob s primary, false, s.mutationsSinceInit⟩)
    (hstep : ∀ done e acc acc', NextOwn s done e → OverlayInv s primary done acc →
      OverlayInv s primary (done ++ [e]) acc' → P done acc → overlayCandidate acc e = .ok acc' →
      P (done ++ [e]) acc')
    (hfold : (overlayEntries s).foldlM overlayCandidate
      ⟨loadBlob s primary, false, s.mutationsSinceInit⟩ = .ok acc) :
    OverlayInv s primary (overlayEntries s) acc ∧ P (overlayEntries s) acc := by
  have hload := writable_loadBlob s hvalid
  have hstart : OverlayInv s primary [] ⟨loadBlob s primary, false, s.mutationsSinceInit⟩ := by
    refine ⟨hload.rows, fun r hr => ?_, le_refl _, rfl, rfl, fun _ => rfl, 0, ?_,
      Nat.min_le_right _ _⟩
    · rw [rows_loadBlob] at hr
      exact .card r hr rfl rfl id fun hv =>
        .inl ((validIdentityDigestEqual_iff _ _).mpr ⟨hv, hv, rfl⟩)
    · simp only [rows_loadBlob, hvalid.length_rows]
      omega
  refine foldlM_ok_invariant (fun done acc => OverlayInv s primary done acc ∧ P done acc)
    ⟨hstart, hinit⟩ ?_ hfold
  rintro done e post acc acc' hentries ⟨hacc, hP⟩ hok
  rw [overlayEntries_eq h.ordered] at hentries
  have hsub : (done ++ e :: post).Sublist s.rows := hentries ▸ List.filter_sublist
  have hmem : e ∈ s.rows := hsub.subset (List.mem_append_cons_self)
  have hdistinct := List.pairwise_append.mp (h.rows.distinct.sublist hsub)
  have hnext : NextOwn s done e :=
    ⟨hmem, fun x hx => hsub.subset (List.mem_append_left _ hx),
      fun x hx => hdistinct.2.2 x hx e List.mem_cons_self⟩
  have hinv := overlayCandidate_inv hacc hnext (h.rows.row_sound hmem) hclear hvalid.nextSeq hok
  exact ⟨hinv, hstep done e acc acc' hnext hacc hinv hP hok⟩

theorem Writable.mergeOverlay (h : Writable s) (hvalid : BlobValid primary)
    (hclear : ¬digestTakenOnCard s primary) (htotal : overlayTotalCovers s primary) :
    Writable (mergeOverlay s primary).store := by
  unfold Dm.mergeOverlay
  cases hfold : (overlayEntries s).foldlM overlayCandidate
      ⟨loadBlob s primary, false, s.mutationsSinceInit⟩ with
  | error ret => exact writable_loadBlob s h.blob
  | ok acc =>
    obtain ⟨hinv, -⟩ := overlayEntries_induct h hvalid hclear (fun _ _ => True) trivial
      (fun _ _ _ _ _ _ _ _ _ => trivial) hfold
    obtain ⟨extra, hcount, hadditions⟩ := hinv.count
    have hlive : (overlayEntries s).countP (isLive s) ≤ (liveRows s).length := by
      rw [overlayEntries_eq h.ordered, liveRows, ← List.countP_eq_length_filter]
      exact List.filter_sublist.countP_le
    have hcap := acc.store.length_rows_le
    have hrevision := hvalid.contentRevision
    have hpos := hvalid.nextSeq
    have hnext := hinv.nextSeq
    refine ⟨?_, ?_, ?_, ?_, hinv.rows⟩
    · exact hinv.epoch.symm ▸ hvalid.epoch
    · have hmax : max acc.store.contentRevision s.contentRevision ≠ 0 := by
        rw [hinv.contentRevision]
        omega
      dsimp only
      split_ifs
      · exact saturatingSucc_ne_zero _ hmax
      · exact hmax
    · change acc.store.nextSeq ≠ 0
      omega
    · have hmax : uint32Max = 0xFFFFFFFF := rfl
      have hcapacity : dmStoreCapacity = 16 := rfl
      unfold overlayTotalCovers at htotal
      change acc.store.rows.length ≤ _
      dsimp only
      split_ifs <;> omega

end Overlay

end Sigui.Dm

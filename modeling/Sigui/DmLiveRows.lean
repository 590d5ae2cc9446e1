import Sigui.DmMergeRows

/-! Which rows written since the last persist outlive a late merge of a card of the same epoch.
The merge keeps the sixteen highest sequences, and a card row that collides with nothing keeps
the sequence it has on the card, so a live row competes with the card on sequence alone. -/
namespace Sigui.Dm

/-- The row `r` is the row `e`: by digest where `e` has one, else by delivery session, else by
what it says. -/
def sameRow (e r : DmEntry) : Bool :=
  if e.identityDigestValid then validIdentityDigestEqual e r
  else if e.deliverySessionId ≠ 0 then r.deliverySessionId = e.deliverySessionId
  else outboundDeliveryIdentityMaterialEqual e r

/-- How many merged rows end up above `seq`, where `seq` was not handed out by the merge. -/
def rowsAbove (s : DmStore) (cards : List DmEntry) (seq : Nat) : Nat :=
  s.rows.countP (fun y => lifted s cards y || decide (seq < y.seq)) +
    (cards.filter (unmatchedCard s)).countP fun u => displaced s u || decide (seq < u.seq)

def ramRowKept (s : DmStore) (cards : List DmEntry) (y : DmEntry) : Bool :=
  lifted s cards y || decide (rowsAbove s cards y.seq < dmStoreCapacity)

def cardRowKept (s : DmStore) (cards : List DmEntry) (u : DmEntry) : Bool :=
  displaced s u || decide (rowsAbove s cards u.seq < dmStoreCapacity)

/-- `e` is kept under its own sequence, or as the row that takes over its digest, or as the
same row on the card. -/
def liveRowRetained (s : DmStore) (cards : List DmEntry) (e : DmEntry) : Prop :=
  (∃ y ∈ s.rows, ramRowKept s cards y = true ∧
    (sameRow e y = true ∨ ∃ u ∈ cards,
      s.rows.find? (fun y => entryIdentityEqual y u) = some y ∧
        validIdentityDigestEqual e u = true)) ∨
    ∃ u ∈ cards, unmatchedCard s u = true ∧ cardRowKept s cards u = true ∧ sameRow e u = true

section Kept

variable {s : DmStore} {newer : Bool} {base : Nat} {cards : List DmEntry} {acc : MergeAcc}

def sourceAbove (s : DmStore) (cards : List DmEntry) (seq : Nat) : RowSource → Bool
  | .ram y => lifted s cards y || decide (seq < y.seq)
  | .card u => displaced s u || decide (seq < u.seq)

def sourceKept (s : DmStore) (cards : List DmEntry) : RowSource → Bool
  | .ram y => ramRowKept s cards y
  | .card u => cardRowKept s cards u

def sourceFresh (s : DmStore) (cards : List DmEntry) : RowSource → Bool
  | .ram y => lifted s cards y
  | .card u => displaced s u

theorem countP_sources (p : RowSource → Bool) :
    (sources s cards).countP p =
      s.rows.countP (fun y => p (.ram y)) +
        (cards.filter (unmatchedCard s)).countP fun u => p (.card u) := by
  simp only [sources, List.countP_append, List.countP_map]
  rfl

theorem MergeInv.countP_above (hinv : MergeInv s newer base cards acc) {seq : Nat}
    (hseq : seq < base) :
    acc.merged.countP (fun r => decide (seq < r.seq)) = rowsAbove s cards seq := by
  obtain ⟨l, hperm, hforall⟩ := hinv.provenance
  have hcount : (sources s cards).countP (sourceAbove s cards seq) = rowsAbove s cards seq :=
    countP_sources _
  rw [hperm.countP_eq, ← hcount]
  refine (forall₂_countP hforall fun src _ r himage => ?_).symm
  cases src with
  | ram y =>
    have h := himage.2
    by_cases hl : lifted s cards y = true
    · rw [if_pos hl] at h
      simp only [sourceAbove, hl, Bool.true_or]
      exact (decide_eq_true (by omega)).symm
    · rw [if_neg hl] at h
      simp [sourceAbove, hl, h]
  | card u =>
    have h := himage.2
    by_cases hd : displaced s u = true
    · rw [if_pos hd] at h
      simp only [sourceAbove, hd, Bool.true_or]
      exact (decide_eq_true (by omega)).symm
    · rw [if_neg hd] at h
      simp [sourceAbove, hd, h]

theorem countP_fresh_le (hcards : Ascending DmEntry.seq cards) :
    (sources s cards).countP (sourceFresh s cards) ≤ dmStoreCapacity := by
  have hram : s.rows.countP (fun y => lifted s cards y) ≤ s.rows.countP (isLive s) := by
    refine List.countP_mono_left fun y _ hy => ?_
    simp only [lifted, Bool.and_eq_true] at hy
    exact hy.1
  have hcard : (cards.filter (unmatchedCard s)).countP (fun u => displaced s u) ≤
      s.rows.countP fun y => !isLive s y := by
    change (cards.filter (unmatchedCard s)).countP (displaced s) ≤ _
    rw [List.countP_eq_length_filter, List.countP_eq_length_filter]
    have hsub : (((cards.filter (unmatchedCard s)).filter (displaced s)).map DmEntry.seq).Subperm
        ((s.rows.filter fun y => !isLive s y).map DmEntry.seq) := by
      refine List.subperm_of_subset ?_ ?_
      · exact (hcards.sublist
          ((List.filter_sublist).trans (List.filter_sublist))).nodup_keys
      · intro k hk
        simp only [List.mem_map, List.mem_filter, displaced, List.any_eq_true, Bool.and_eq_true,
          decide_eq_true_eq] at hk ⊢
        obtain ⟨u, ⟨-, y, hy, hyu, hlive⟩, rfl⟩ := hk
        exact ⟨y, ⟨hy, hlive⟩, hyu⟩
    simpa using hsub.length_le
  have hsplit := List.length_eq_countP_add_countP (isLive s) (l := s.rows)
  have hnot : s.rows.countP (fun y => decide ¬isLive s y = true) =
      s.rows.countP fun y => !isLive s y := by
    congr 1
    funext y
    cases isLive s y <;> rfl
  rw [hnot] at hsplit
  have hlen := s.length_rows_le
  rw [countP_sources]
  simp only [sourceFresh]
  omega

theorem MergeInv.kept_iff (hinv : MergeInv s newer base cards acc)
    (hcards : Ascending DmEntry.seq cards) (hbelow : ∀ u ∈ cards, u.seq < base)
    (hrows : ∀ y ∈ s.rows, y.seq < base) {src : RowSource} (hsrc : src ∈ sources s cards)
    {r : DmEntry} (hr : r ∈ acc.merged) (himage : Image s newer base cards src r) :
    r ∈ keptRows acc ↔ sourceKept s cards src = true := by
  have hmem : r ∈ keptRows acc ↔
      acc.merged.countP (fun r' => decide (r.seq < r'.seq)) < dmStoreCapacity := by
    rw [keptRows, mem_keepLast_sortByKey_iff hinv.nodup]
    exact and_iff_right hr
  have hfresh : base ≤ r.seq → r ∈ keptRows acc := by
    intro hge
    rw [hmem]
    obtain ⟨l, hperm, hforall⟩ := hinv.provenance
    have hall : acc.merged.countP (fun r' => decide (base ≤ r'.seq)) ≤ dmStoreCapacity := by
      rw [hperm.countP_eq]
      refine le_trans (le_of_eq ?_) (countP_fresh_le (s := s) hcards)
      refine (forall₂_countP hforall fun src hsrc r' h => ?_).symm
      rcases mem_sources.mp hsrc with ⟨y, hy, rfl⟩ | ⟨v, hv, -, rfl⟩
      · have h2 := h.2
        have := hrows y hy
        by_cases hl : lifted s cards y = true
        · rw [if_pos hl] at h2
          simpa only [sourceFresh, hl] using (decide_eq_true h2).symm
        · rw [if_neg hl] at h2
          simp only [sourceFresh, hl]
          exact (decide_eq_false (by omega)).symm
      · have h2 := h.2
        have := hbelow v hv
        by_cases hd : displaced s v = true
        · rw [if_pos hd] at h2
          simpa only [sourceFresh, hd] using (decide_eq_true h2).symm
        · rw [if_neg hd] at h2
          simp only [sourceFresh, hd]
          exact (decide_eq_false (by omega)).symm
    obtain ⟨before, after, hsplit⟩ := List.append_of_mem hr
    rw [hsplit, List.countP_append, List.countP_cons] at hall ⊢
    have hb : before.countP (fun r' => decide (r.seq < r'.seq)) ≤
        before.countP fun r' => decide (base ≤ r'.seq) :=
      List.countP_mono_left fun x _ hx => by simp only [decide_eq_true_eq] at hx ⊢; omega
    have ha : after.countP (fun r' => decide (r.seq < r'.seq)) ≤
        after.countP fun r' => decide (base ≤ r'.seq) :=
      List.countP_mono_left fun x _ hx => by simp only [decide_eq_true_eq] at hx ⊢; omega
    rw [if_pos (decide_eq_true hge)] at hall
    rw [if_neg (by simp)]
    omega
  rcases mem_sources.mp hsrc with ⟨y, hy, rfl⟩ | ⟨v, hv, -, rfl⟩
  · have h2 := himage.2
    by_cases hl : lifted s cards y = true
    · rw [if_pos hl] at h2
      exact iff_of_true (hfresh h2) (by simp [sourceKept, ramRowKept, hl])
    · rw [if_neg hl] at h2
      rw [hmem, h2, hinv.countP_above (hrows y hy)]
      simp [sourceKept, ramRowKept, hl]
  · have h2 := himage.2
    by_cases hd : displaced s v = true
    · rw [if_pos hd] at h2
      exact iff_of_true (hfresh h2) (by simp [sourceKept, cardRowKept, hd])
    · rw [if_neg hd] at h2
      rw [hmem, h2, hinv.countP_above (hbelow v hv)]
      simp [sourceKept, cardRowKept, hd]

end Kept

section Digests

variable {s : DmStore} {newer : Bool} {acc acc' : MergeAcc} {u : DmEntry}

theorem paired_with_digest {nextSeq : Nat} {y : DmEntry}
    (hvalid : persistedEntryIsValid u nextSeq = true) (hu : u.identityDigestValid = true)
    (hpair : entryIdentityEqual y u = true) :
    (y.identityDigestValid = true → validIdentityDigestEqual y u = true) ∧
      (y.identityDigestValid = false → y.seq = u.seq) := by
  simp only [persistedEntryIsValid, Bool.and_eq_true] at hvalid
  have hin := inbound_of_digest hvalid.1.2 hu
  have hsession : u.deliverySessionId = 0 :=
    deliverySessionId_of_not_outbound hvalid.2 (DmEntry.outbound_false_of_inbound hin)
  by_cases hdigest : validIdentityDigestEqual y u = true
  · refine ⟨fun _ => hdigest, fun hy => ?_⟩
    simp [validIdentityDigestEqual, hy] at hdigest
  have hy : y.deliverySessionId = 0 := by
    by_contra hne
    simp [entryIdentityEqual, hdigest, hsession, hne] at hpair
  simp only [entryIdentityEqual, hdigest, hsession, hy, hu, Bool.false_eq_true, if_false, ne_eq,
    not_true_eq_false, or_self, Bool.and_true, Bool.and_eq_true, Bool.not_eq_true',
    decide_eq_true_eq] at hpair
  exact ⟨fun h => by simp [h] at hpair, fun _ => hpair.1.2⟩

def DigestsCarried (us : List DmEntry) (acc : MergeAcc) : Prop :=
  ∀ u ∈ us, u.identityDigestValid = true →
    ∃ r ∈ acc.merged, validIdentityDigestEqual r u = true

theorem MergeStep.keeps_digest (hstep : MergeStep s newer acc u acc') {v : DmEntry}
    (h : ∃ r ∈ acc.merged, validIdentityDigestEqual r v = true) :
    ∃ r ∈ acc'.merged, validIdentityDigestEqual r v = true := by
  obtain ⟨r, hr, hrv⟩ := h
  cases hstep with
  | pair before row after split first _ found =>
    rw [split, List.mem_append, List.mem_cons] at hr
    rcases hr with hr | rfl | hr
    · exact ⟨r, List.mem_append_left _ hr, hrv⟩
    · rw [validIdentityDigestEqual_iff] at hrv
      obtain ⟨hv, hd⟩ := mergeMatchedRow_digest_of_valid r u newer hrv.1
      refine ⟨_, List.mem_append_cons_self, ?_⟩
      rw [validIdentityDigestEqual_iff]
      exact ⟨hv, hrv.2.1, hd.trans hrv.2.2⟩
    · exact ⟨r, List.mem_append_right _ (List.mem_cons_of_mem _ hr), hrv⟩
  | enter absent free => exact ⟨r, List.mem_append_left _ hr, hrv⟩
  | liftLive before current after absent split same room live =>
    rw [split, List.mem_append, List.mem_cons] at hr
    rcases hr with hr | rfl | hr
    · exact ⟨r, by simp [hr], hrv⟩
    · exact ⟨r.withSeq acc.nextSeq, by simp, hrv⟩
    · exact ⟨r, by simp [hr], hrv⟩
  | resequence current absent mem same room settled =>
    exact ⟨r, List.mem_append_left _ hr, hrv⟩

theorem MergeStep.digestsCarried (hstep : MergeStep s newer acc u acc') {nextSeq : Nat}
    (hvalid : persistedEntryIsValid u nextSeq = true) {us : List DmEntry}
    (h : DigestsCarried us acc) : DigestsCarried (us ++ [u]) acc' := by
  intro v hv hvd
  rw [List.mem_append, List.mem_singleton] at hv
  rcases hv with hv | rfl
  · exact hstep.keeps_digest (h v hv hvd)
  have hself : validIdentityDigestEqual v v = true := by
    rw [validIdentityDigestEqual_iff]
    exact ⟨hvd, hvd, rfl⟩
  cases hstep with
  | pair before row after split first _ found =>
    refine ⟨_, List.mem_append_cons_self, ?_⟩
    rw [validIdentityDigestEqual_iff]
    by_cases hrow : row.identityDigestValid = true
    · have heq := (paired_with_digest hvalid hvd found).1 hrow
      rw [validIdentityDigestEqual_iff] at heq
      obtain ⟨hm, hd⟩ := mergeMatchedRow_digest_of_valid row v newer hrow
      exact ⟨hm, hvd, hd.trans heq.2.2⟩
    · obtain ⟨hm, hd⟩ := mergeMatchedRow_digest_of_invalid row v newer (by simpa using hrow)
      exact ⟨hm.trans hvd, hvd, hd hvd⟩
  | enter absent free => exact ⟨v, by simp, hself⟩
  | liftLive before current after absent split same room live => exact ⟨v, by simp, hself⟩
  | resequence current absent mem same room settled =>
    exact ⟨v.withSeq acc.nextSeq, by simp, hself⟩

end Digests

section Survival

variable {s : DmStore} {primary : DmBlob} {newer : Bool} {base : Nat} {acc : MergeAcc}

theorem sameRow_card {e u r : DmEntry} (h : r = u.withSeq r.seq) : sameRow e r = sameRow e u := by
  rw [h]
  rfl

theorem sameRow_of_absorbed {cards : List DmEntry} {e y r : DmEntry}
    (habs : Absorbed s newer cards y r) (h : sameRow e y = true) : sameRow e r = true := by
  unfold sameRow at h ⊢
  split_ifs at h ⊢ with hd hs
  · rw [validIdentityDigestEqual_iff] at h ⊢
    obtain ⟨hv, hdig⟩ := habs.digest_of_valid h.2.1
    exact ⟨h.1, hv, h.2.2.trans hdig.symm⟩
  · rw [DmEntry.session_of_frozen habs.frozen]
    exact h
  · rw [outboundDeliveryIdentityMaterialEqual_comm, material_of_frozen habs.frozen,
      outboundDeliveryIdentityMaterialEqual_comm]
    exact h

theorem not_lifted_of_paired (hvalid : BlobValid primary) {u y : DmEntry}
    (hu : u ∈ primary.rows) (hud : u.identityDigestValid = true) (hy : y ∈ s.rows)
    (hyd : y.identityDigestValid = false) (hpair : entryIdentityEqual y u = true) :
    lifted s primary.rows y = false := by
  have hseq := (paired_with_digest (hvalid.rows.entries u hu) hud hpair).2 hyd
  by_contra hl
  simp only [lifted, Bool.not_eq_false, Bool.and_eq_true, List.any_eq_true,
    decide_eq_true_eq] at hl
  obtain ⟨-, v, hv, hun, hvy⟩ := hl
  have hvu : v = u := hvalid.rows.ascending.eq_of_key hv hu (hvy.trans hseq)
  rw [hvu, unmatchedCard, List.all_eq_true] at hun
  simpa [hpair] using hun y hy

theorem find?_paired_le (hs : RowsOrdered s) {u y y' : DmEntry}
    (hfind : s.rows.find? (fun y => entryIdentityEqual y u) = some y) (hy' : y' ∈ s.rows)
    (hpair : entryIdentityEqual y' u = true) : y = y' ∨ y.seq < y'.seq := by
  obtain ⟨hy, before, after, hsplit, hbefore⟩ := List.find?_eq_some_iff_append.mp hfind
  have hasc := hs.ascending
  rw [hsplit] at hy' hasc
  rw [List.mem_append, List.mem_cons] at hy'
  rcases hy' with hb | rfl | ha
  · simpa [hpair] using hbefore y' hb
  · exact .inl rfl
  · exact .inr ((List.pairwise_cons.mp (List.pairwise_append.mp hasc).2.1).1 y' ha)

theorem rowsAbove_anti (cards : List DmEntry) {a b : Nat} (h : a ≤ b) :
    rowsAbove s cards b ≤ rowsAbove s cards a := by
  unfold rowsAbove
  refine Nat.add_le_add (List.countP_mono_left fun y _ hy => ?_)
    (List.countP_mono_left fun u _ hu => ?_)
  · simp only [Bool.or_eq_true, decide_eq_true_eq] at hy ⊢
    exact hy.imp_right h.trans_lt
  · simp only [Bool.or_eq_true, decide_eq_true_eq] at hu ⊢
    exact hu.imp_right h.trans_lt

end Survival

structure CardMerged (s : DmStore) (primary : DmBlob) (newer : Bool) (base : Nat)
    (acc : MergeAcc) : Prop where
  ordered : RowsOrdered s
  valid : BlobValid primary
  inv : MergeInv s newer base primary.rows acc
  carried : DigestsCarried primary.rows acc
  base_ge : max s.nextSeq primary.nextSeq ≤ base

theorem cardMerged_of_mergeCandidates {s : DmStore} {primary : DmBlob} {acc : MergeAcc}
    (hs : RowsOrdered s) (hvalid : BlobValid primary) (h : mergeCandidates s primary = .ok acc) :
    CardMerged s primary (decide (s.contentRevision < primary.contentRevision))
      (max s.nextSeq primary.nextSeq) acc := by
  obtain ⟨hinv, hcarried⟩ := mergeCandidates_induct hs hvalid DigestsCarried
    (fun _ hu => by simp at hu)
    (fun us u post acc acc' hrows _ _ hP hturn => hturn.digestsCarried
      (hvalid.rows.entries u (by rw [hrows]; exact List.mem_append_cons_self))
      hP) h
  exact ⟨hs, hvalid, hinv, hcarried, le_refl _⟩

namespace CardMerged

variable {s : DmStore} {primary : DmBlob} {newer : Bool} {base : Nat} {acc : MergeAcc}

theorem kept_iff (h : CardMerged s primary newer base acc) {src : RowSource}
    (hsrc : src ∈ sources s primary.rows) {r : DmEntry} (hr : r ∈ acc.merged)
    (himage : Image s newer base primary.rows src r) :
    r ∈ keptRows acc ↔ sourceKept s primary.rows src = true := by
  refine h.inv.kept_iff h.valid.rows.ascending (fun u hu => ?_) (fun y hy => ?_) hsrc hr himage
  · exact (persistedEntryIsValid_seq_lt (h.valid.rows.entries u hu)).trans_le
      ((Nat.le_max_right _ _).trans h.base_ge)
  · exact (h.ordered.below y hy).trans_le ((Nat.le_max_left _ _).trans h.base_ge)

theorem source_of_merged (h : CardMerged s primary newer base acc) {r : DmEntry}
    (hr : r ∈ acc.merged) :
    ∃ src ∈ sources s primary.rows, Image s newer base primary.rows src r := by
  obtain ⟨l, hperm, hforall⟩ := h.inv.provenance
  obtain ⟨l₁, src, l₂, _, _, hl, -, -, himage, -⟩ :=
    forall₂_split_right hforall (hperm.mem_iff.mp hr)
  exact ⟨src, by simp [hl], himage⟩

theorem image_of_source (h : CardMerged s primary newer base acc) {src : RowSource}
    (hsrc : src ∈ sources s primary.rows) :
    ∃ r ∈ acc.merged, Image s newer base primary.rows src r := by
  obtain ⟨l, hperm, hforall⟩ := h.inv.provenance
  obtain ⟨r, hr, himage⟩ := forall₂_mem_left hforall hsrc
  exact ⟨r, hperm.mem_iff.mpr hr, himage⟩

theorem gained_first (h : CardMerged s primary newer base acc) {e y r : DmEntry}
    (hy : y ∈ s.rows) (habs : Absorbed s newer primary.rows y r) (hsame : sameRow e r = true)
    (hey : sameRow e y = false) (hk : ramRowKept s primary.rows y = true) :
    ∃ y₁ ∈ s.rows, ramRowKept s primary.rows y₁ = true ∧ ∃ u ∈ primary.rows,
      s.rows.find? (fun y => entryIdentityEqual y u) = some y₁ ∧
        validIdentityDigestEqual e u = true := by
  have hed : e.identityDigestValid = true := by
    by_contra hed
    simp only [sameRow, hed, if_false, DmEntry.session_of_frozen habs.frozen] at hey hsame
    split_ifs at hsame hey with hs₀
    · simp [hsame] at hey
    · rw [outboundDeliveryIdentityMaterialEqual_comm, material_of_frozen habs.frozen,
        outboundDeliveryIdentityMaterialEqual_comm] at hsame
      simp [hsame] at hey
  simp only [sameRow, hed, if_true] at hey hsame
  have hsame' := (validIdentityDigestEqual_iff e r).mp hsame
  have hyd : y.identityDigestValid = false := by
    by_contra hyd
    have hyd' : y.identityDigestValid = true := by simpa using hyd
    have hyes := (validIdentityDigestEqual_iff e y).mpr
      ⟨hed, hyd', hsame'.2.2.trans (habs.digest_of_valid hyd').2⟩
    simp [hyes] at hey
  obtain ⟨u, hu, hpair, hud, hdig, hfirst⟩ := habs.digest_gained hyd hsame'.2.1
  have heu : validIdentityDigestEqual e u = true :=
    (validIdentityDigestEqual_iff e u).mpr ⟨hed, hud, hsame'.2.2.trans hdig.symm⟩
  obtain ⟨y₁, hfind⟩ : ∃ y₁, s.rows.find? (fun y => entryIdentityEqual y u) = some y₁ :=
    Option.isSome_iff_exists.mp (List.find?_isSome.mpr ⟨y, hy, hpair⟩)
  rcases find?_paired_le h.ordered hfind hy hpair with rfl | hlt
  · exact ⟨y₁, hy, hk, u, hu, hfind, heu⟩
  · have hl := hfirst (not_lifted_of_paired h.valid hu hud hy hyd hpair) y₁
      (List.mem_of_find?_eq_some hfind) (by simpa using List.find?_some hfind) hlt
    exact ⟨y₁, List.mem_of_find?_eq_some hfind, by simp [ramRowKept, hl], u, hu, hfind, heu⟩

theorem kept_of_ram (h : CardMerged s primary newer base acc) {e y : DmEntry} (hy : y ∈ s.rows)
    (hk : ramRowKept s primary.rows y = true) (hey : sameRow e y = true) :
    ∃ r ∈ keptRows acc, sameRow e r = true := by
  obtain ⟨r, hr, himage⟩ := h.inv.image_of_ram hy
  obtain ⟨r₀, habs, hr₀⟩ := himage.1
  refine ⟨r, (h.kept_iff (mem_sources.mpr (.inl ⟨y, hy, rfl⟩)) hr himage).mpr hk, ?_⟩
  rw [sameRow_card hr₀]
  exact sameRow_of_absorbed habs hey

theorem carrier_paired (h : CardMerged s primary newer base acc) {u r : DmEntry}
    (hu : u ∈ primary.rows) (hun : unmatchedCard s u = false) (hr : r ∈ acc.merged)
    (hru : validIdentityDigestEqual r u = true) :
    ∃ y ∈ s.rows, entryIdentityEqual y u = true ∧
      Image s newer base primary.rows (.ram y) r := by
  obtain ⟨src, hsrc, himage⟩ := h.source_of_merged hr
  rcases mem_sources.mp hsrc with ⟨y, hy, rfl⟩ | ⟨v, hv, hvn, rfl⟩
  · refine ⟨y, hy, ?_, himage⟩
    obtain ⟨⟨r₀, habs, hr₀⟩, -⟩ := himage
    have hru₀ : validIdentityDigestEqual r₀ u = true := by
      rw [hr₀] at hru
      exact hru
    rw [validIdentityDigestEqual_iff] at hru₀
    by_cases hyd : y.identityDigestValid = true
    · have hd : validIdentityDigestEqual y u = true :=
        (validIdentityDigestEqual_iff y u).mpr
          ⟨hyd, hru₀.2.1, (habs.digest_of_valid hyd).2.symm.trans hru₀.2.2⟩
      simp [entryIdentityEqual, hd]
    · obtain ⟨v, hv, hpv, hvd, hvdig, -⟩ := habs.digest_gained (by simpa using hyd) hru₀.1
      have hvu : v = u := h.valid.rows.digest_unique hv hu
        ((validIdentityDigestEqual_iff v u).mpr ⟨hvd, hru₀.2.1, hvdig.trans hru₀.2.2⟩)
      rwa [hvu] at hpv
  · have hvu : v = u := by
      rw [himage.1] at hru
      exact h.valid.rows.digest_unique hv hu hru
    simp [hvu, hun] at hvn

theorem kept_of_taken_over (h : CardMerged s primary newer base acc) {e y u : DmEntry}
    (hy : y ∈ s.rows) (hk : ramRowKept s primary.rows y = true) (hu : u ∈ primary.rows)
    (hfind : s.rows.find? (fun y => entryIdentityEqual y u) = some y)
    (heu : validIdentityDigestEqual e u = true) : ∃ r ∈ keptRows acc, sameRow e r = true := by
  have hpair : entryIdentityEqual y u = true := by simpa using List.find?_some hfind
  obtain ⟨hed, hud, hdig⟩ := (validIdentityDigestEqual_iff e u).mp heu
  have hsameOf : ∀ z, validIdentityDigestEqual z u = true → sameRow e z = true := by
    intro z hz
    have hz' := (validIdentityDigestEqual_iff z u).mp hz
    simp only [sameRow, hed, if_true]
    exact (validIdentityDigestEqual_iff e z).mpr ⟨hed, hz'.1, hdig.trans hz'.2.2.symm⟩
  by_cases hyd : y.identityDigestValid = true
  · exact h.kept_of_ram hy hk
      (hsameOf y ((paired_with_digest (h.valid.rows.entries u hu) hud hpair).1 hyd))
  have hnl := not_lifted_of_paired h.valid hu hud hy (by simpa using hyd) hpair
  have habove : rowsAbove s primary.rows y.seq < dmStoreCapacity := by
    simpa [ramRowKept, hnl] using hk
  have hun : unmatchedCard s u = false := by
    by_contra hun
    rw [Bool.not_eq_false, unmatchedCard, List.all_eq_true] at hun
    simpa [hpair] using hun y hy
  -- Whichever RAM row took the digest over, it lies no lower than the first that pairs.
  obtain ⟨r, hr, hru⟩ := h.carried u hu hud
  obtain ⟨y', hy', hpair', himage⟩ := h.carrier_paired hu hun hr hru
  have hle : y.seq ≤ y'.seq := by
    rcases find?_paired_le h.ordered hfind hy' hpair' with rfl | hlt
    · exact le_refl _
    · exact hlt.le
  have hk' : ramRowKept s primary.rows y' = true := by
    have := rowsAbove_anti (s := s) primary.rows hle
    simp only [ramRowKept, Bool.or_eq_true, decide_eq_true_eq]
    exact .inr (by omega)
  exact ⟨r, (h.kept_iff (mem_sources.mpr (.inl ⟨y', hy', rfl⟩)) hr himage).mpr hk',
    hsameOf r hru⟩

theorem kept_row_iff (h : CardMerged s primary newer base acc) (e : DmEntry) :
    (∃ r ∈ keptRows acc, sameRow e r = true) ↔ liveRowRetained s primary.rows e := by
  constructor
  · rintro ⟨r, hr, hsame⟩
    have hmem : r ∈ acc.merged :=
      (mem_sortByKey DmEntry.seq acc.merged).mp ((keepLast_sublist _ _).subset hr)
    obtain ⟨src, hsrc, himage⟩ := h.source_of_merged hmem
    have hk := (h.kept_iff hsrc hmem himage).mp hr
    rcases mem_sources.mp hsrc with ⟨y, hy, rfl⟩ | ⟨u, hu, hun, rfl⟩
    · obtain ⟨⟨r₀, habs, hr₀⟩, -⟩ := himage
      have hsame₀ : sameRow e r₀ = true := (sameRow_card hr₀).symm.trans hsame
      by_cases hey : sameRow e y = true
      · exact .inl ⟨y, hy, hk, .inl hey⟩
      · obtain ⟨y₁, hy₁, hk₁, hgained⟩ := h.gained_first hy habs hsame₀ (by simpa using hey) hk
        exact .inl ⟨y₁, hy₁, hk₁, .inr hgained⟩
    · exact .inr ⟨u, hu, hun, hk, (sameRow_card himage.1).symm.trans hsame⟩
  · rintro (⟨y, hy, hk, hey | ⟨u, hu, hfind, heu⟩⟩ | ⟨u, hu, hun, hk, hsame⟩)
    · exact h.kept_of_ram hy hk hey
    · exact h.kept_of_taken_over hy hk hu hfind heu
    · have hsrc : RowSource.card u ∈ sources s primary.rows :=
        mem_sources.mpr (.inr ⟨u, hu, hun, rfl⟩)
      obtain ⟨r, hr, himage⟩ := h.image_of_source hsrc
      exact ⟨r, (h.kept_iff hsrc hr himage).mpr hk, (sameRow_card himage.1).trans hsame⟩

end CardMerged

theorem mergeSameEpoch_rows {s : DmStore} {primary : DmBlob} {acc : MergeAcc}
    (h : mergeCandidates s primary = .ok acc) :
    (mergeSameEpoch s primary).store.rows = keptRows acc := by
  simp only [mergeSameEpoch, h]
  exact Ring.toList_ofList (keptRows acc) (by decide) (length_keptRows_le acc)

/-- A late merge keeps every row written since the last persist exactly when, for each of them,
fewer than sixteen rows end up above it: a collision with a card row lifts it to the top, but a
row that meets no collision is dropped in favour of card rows with higher sequences. -/
theorem mergeSameEpoch_keeps_live_iff (s : DmStore) (primary : DmBlob) (hs : RowsOrdered s)
    (hvalid : blobIsValid primary = true) (hok : (mergeSameEpoch s primary).ret = espOk) :
    (∀ e ∈ s.rows, isLive s e = true →
        ∃ r ∈ (mergeSameEpoch s primary).store.rows, sameRow e r = true) ↔
      ∀ e ∈ s.rows, isLive s e = true → liveRowRetained s primary.rows e := by
  obtain ⟨acc, hacc⟩ := mergeSameEpoch_ok hok
  have h := cardMerged_of_mergeCandidates hs ((blobIsValid_iff primary).mp hvalid) hacc
  rw [mergeSameEpoch_rows hacc]
  exact forall₂_congr fun e _ => imp_congr_right fun _ => h.kept_row_iff e

def receivedRow (seq : Nat) : DmEntry :=
  { seq := seq
    uptimeMs := seq
    contactFingerprint := .lit [97, 49]
    contactAlias := .lit [65]
    direction := .lit rxLiteral
    text := .lit [104, 105]
    delivered := true }

/-- A card whose `count` rows start at sequence `firstSeq`. -/
def receivedCard (firstSeq count : Nat) : DmBlob where
  schema := dmStoreSchema
  nextSeq := firstSeq + count
  totalWritten := firstSeq + count - 1
  droppedOldest := firstSeq - 1
  head := count % dmStoreCapacity
  count := count
  epoch := 1
  contentRevision := firstSeq + count
  clearLineage := 0
  entries := (List.range count).map (fun i => receivedRow (firstSeq + i)) ++
    List.replicate (dmStoreCapacity - count) default

def receivedArgs : AppendArgs :=
  append
    { contactFingerprint := some ⟨[98, 50], by decide⟩, contactAlias := none
      text := some ⟨[121, 111], by decide⟩, rssiDbm := -80, snrTenths := 55, pathHashBytes := 1
      pathHops := 0, attempt := 0, ackHash := 0 }
    (some rxArg) true false

def liveStore : DmStore := (appendInternal loadedStore receivedArgs 9000 fun _ => 1).1

theorem mergeSameEpoch_keeps_live_iff_colliding_card :
    (∀ e ∈ liveStore.rows, isLive liveStore e = true →
        ∃ r ∈ (mergeSameEpoch liveStore (receivedCard 1 16)).store.rows, sameRow e r = true) ↔
      ∀ e ∈ liveStore.rows, isLive liveStore e = true →
        liveRowRetained liveStore (receivedCard 1 16).rows e :=
  mergeSameEpoch_keeps_live_iff liveStore (receivedCard 1 16) ⟨by decide, by decide⟩
    (by decide +kernel) (by decide +kernel)

/-- The card holds sequences 2 to 17, so the message with sequence 1 is the one left out. -/
theorem late_merge_drops_live_row :
    ¬ ∀ (s : DmStore) (primary : DmBlob), RowsOrdered s → blobIsValid primary = true →
      primary.clearLineage = s.clearLineage → primary.epoch = s.epoch →
      (mergeSameEpoch s primary).ret = espOk → ∀ e ∈ s.rows, isLive s e = true →
        ∃ r ∈ (mergeSameEpoch s primary).store.rows, sameRow e r = true := by
  intro h
  have hkept := h liveStore (receivedCard 2 16) ⟨by decide, by decide⟩ (by decide +kernel)
    (by decide) (by decide) (by decide +kernel)
  have hlost : ¬ ∀ e ∈ liveStore.rows, isLive liveStore e = true →
      ∃ r ∈ (mergeSameEpoch liveStore (receivedCard 2 16)).store.rows, sameRow e r = true := by
    decide +kernel
  exact hlost hkept

end Sigui.Dm

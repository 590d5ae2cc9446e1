import Mathlib.Data.List.Pairwise
import Sigui.DmMerge

/-! What the same-epoch row loop has built after a prefix of the card's rows: every merged row
comes from exactly one RAM row or one unmatched card row, and its sequence is the old one
unless a collision gave it a fresh one. -/
namespace Sigui.Dm

theorem entryIdentityEqual_congr {a b : DmEntry} (hf : a.frozen = b.frozen) (hs : a.seq = b.seq)
    (hv : a.identityDigestValid = b.identityDigestValid)
    (hd : b.identityDigestValid = true → a.identityDigest = b.identityDigest) (u : DmEntry) :
    entryIdentityEqual a u = entryIdentityEqual b u := by
  have hdig : validIdentityDigestEqual a u = validIdentityDigestEqual b u := by
    unfold validIdentityDigestEqual
    rw [hv]
    cases hb : b.identityDigestValid with
    | false => rfl
    | true => rw [hd hb]
  unfold entryIdentityEqual
  rw [hdig, hs, hv, DmEntry.session_of_frozen hf, material_of_frozen hf u]

theorem entryIdentityEqual_withSeq (a u : DmEntry) {n : Nat} (ha : a.seq ≠ u.seq)
    (hn : n ≠ u.seq) : entryIdentityEqual (a.withSeq n) u = entryIdentityEqual a u := by
  have hmaterial : outboundDeliveryIdentityMaterialEqual (a.withSeq n) u =
      outboundDeliveryIdentityMaterialEqual a u := rfl
  have hdigest : validIdentityDigestEqual (a.withSeq n) u = validIdentityDigestEqual a u := rfl
  unfold entryIdentityEqual
  rw [hmaterial, hdigest, DmEntry.withSeq_session, DmEntry.withSeq_seq]
  simp [ha, hn]

/-- What one turn of the row loop does, with the guards that led there. -/
inductive MergeStep (s : DmStore) (newer : Bool) (acc : MergeAcc) (u : DmEntry) : MergeAcc → Prop
  | pair (before : List DmEntry) (row : DmEntry) (after : List DmEntry)
      (split : acc.merged = before ++ row :: after)
      (first : ∀ r ∈ before, entryIdentityEqual r u = false)
      (apart : deliverySessionIdConflicts row u = false) (found : entryIdentityEqual row u = true) :
      MergeStep s newer acc u
        { acc with merged := before ++ mergeMatchedRow row u newer :: after }
  | enter
      (absent : ∀ r ∈ acc.merged, deliverySessionIdConflicts r u = false ∧
        entryIdentityEqual r u = false)
      (free : ∀ r ∈ acc.merged, r.seq ≠ u.seq) :
      MergeStep s newer acc u { acc with merged := acc.merged ++ [u] }
  | liftLive (before : List DmEntry) (current : DmEntry) (after : List DmEntry)
      (absent : ∀ r ∈ acc.merged, deliverySessionIdConflicts r u = false ∧
        entryIdentityEqual r u = false)
      (split : acc.merged = before ++ current :: after) (same : current.seq = u.seq)
      (room : acc.nextSeq ≠ uint32Max) (live : isLive s current = true) :
      MergeStep s newer acc u
        { acc with
          merged := before ++ u :: after ++ [current.withSeq acc.nextSeq]
          nextSeq := acc.nextSeq + 1 }
  | resequence (current : DmEntry)
      (absent : ∀ r ∈ acc.merged, deliverySessionIdConflicts r u = false ∧
        entryIdentityEqual r u = false)
      (mem : current ∈ acc.merged) (same : current.seq = u.seq)
      (room : acc.nextSeq ≠ uint32Max) (settled : isLive s current = false) :
      MergeStep s newer acc u
        { merged := acc.merged ++ [u.withSeq acc.nextSeq]
          nextSeq := acc.nextSeq + 1
          additionalCount := (acc.additionalCount + 1) % (uint32Max + 1) }

theorem mergeCandidate_step {s : DmStore} {newer : Bool} {acc acc' : MergeAcc} {u : DmEntry}
    (hlen : acc.merged.length < dmStoreCapacity * 2)
    (h : mergeCandidate s newer acc u = .ok acc') : MergeStep s newer acc u acc' := by
  unfold mergeCandidate scanIdentity at h
  cases hscan : splitFirst
      (fun r => deliverySessionIdConflicts r u || entryIdentityEqual r u) acc.merged with
  | some split =>
    obtain ⟨before, row, after⟩ := split
    obtain ⟨hsplit, hrow, hbefore⟩ := splitFirst_eq_some hscan
    by_cases hconflict : deliverySessionIdConflicts row u = true
    · simp [hscan, hconflict] at h
    simp only [hscan, if_neg hconflict, Except.ok.injEq] at h
    subst h
    simp only [hconflict, Bool.false_or] at hrow
    exact .pair before row after hsplit
      (fun r hr => (Bool.or_eq_false_iff.mp (hbefore r hr)).2) (by simpa using hconflict) hrow
  | none =>
    have habsent : ∀ r ∈ acc.merged, deliverySessionIdConflicts r u = false ∧
        entryIdentityEqual r u = false :=
      fun r hr => Bool.or_eq_false_iff.mp (splitFirst_eq_none.mp hscan r hr)
    cases hseq : splitFirst (fun r => r.seq = u.seq) acc.merged with
    | none =>
      simp only [hscan, hseq, appendMerged, if_pos hlen, Except.ok.injEq] at h
      subst h
      exact .enter habsent fun r hr => by simpa using splitFirst_eq_none.mp hseq r hr
    | some split =>
      obtain ⟨before, current, after⟩ := split
      obtain ⟨hsplit, hcurrent, -⟩ := splitFirst_eq_some hseq
      have hsame : current.seq = u.seq := by simpa using hcurrent
      by_cases hroom : acc.nextSeq = uint32Max
      · simp [hscan, hseq, hroom] at h
      by_cases hlive : isLive s current = true
      · simp only [hscan, hseq, if_neg hroom, if_pos hlive, if_neg (Nat.not_le.mpr hlen),
          Except.ok.injEq] at h
        subst h
        exact .liftLive before current after habsent hsplit hsame hroom hlive
      · simp only [hscan, hseq, if_neg hroom, if_neg hlive, appendMerged, if_pos hlen,
          Except.ok.injEq] at h
        subst h
        have hmem : current ∈ acc.merged := by
          rw [hsplit]
          exact List.mem_append_cons_self
        exact .resequence current habsent hmem hsame hroom (by simpa using hlive)

theorem mergeCandidate_error {s : DmStore} {newer : Bool} {acc : MergeAcc} {u : DmEntry}
    {ret : EspErr} (h : mergeCandidate s newer acc u = .error ret) : ret ≠ espOk := by
  have hstate : espErrInvalidState ≠ espOk := by decide
  have hsize : espErrInvalidSize ≠ espOk := by decide
  unfold mergeCandidate at h
  split at h
  · simp only [Except.error.injEq] at h
    exact h ▸ hstate
  · cases h
  · split at h
    · cases h
    · split at h
      · simp only [Except.error.injEq] at h
        exact h ▸ hstate
      · split at h
        · split at h
          · simp only [Except.error.injEq] at h
            exact h ▸ hsize
          · cases h
        · cases h

theorem mergeSameEpoch_ok {s : DmStore} {primary : DmBlob}
    (h : (mergeSameEpoch s primary).ret = espOk) : ∃ acc, mergeCandidates s primary = .ok acc := by
  cases hm : mergeCandidates s primary with
  | ok acc => exact ⟨acc, rfl⟩
  | error ret =>
    simp only [mergeSameEpoch, hm] at h
    exact absurd h (foldlM_error_of_step (P := fun e => e ≠ espOk)
      (fun _ _ _ hstep => mergeCandidate_error hstep) hm)

def unmatchedCard (s : DmStore) (u : DmEntry) : Bool :=
  s.rows.all fun y => !entryIdentityEqual y u

/-- A live row whose sequence one of the card rows `us` takes over. -/
def lifted (s : DmStore) (us : List DmEntry) (y : DmEntry) : Bool :=
  isLive s y && us.any fun u => unmatchedCard s u && u.seq = y.seq

/-- A card row that finds its sequence held by a row that is not live. -/
def displaced (s : DmStore) (u : DmEntry) : Bool :=
  s.rows.any fun y => y.seq = u.seq && !isLive s y

/-- The card rows `us` merged into `y`; an earlier row that pairs with one of them has moved. -/
inductive Absorbed (s : DmStore) (newer : Bool) (us : List DmEntry) (y : DmEntry) :
    DmEntry → Prop
  | refl : Absorbed s newer us y y
  | step {r u : DmEntry} (before : Absorbed s newer us y r) (mem : u ∈ us)
      (paired : entryIdentityEqual r u = true)
      (first : lifted s us y = false → ∀ y₀ ∈ s.rows, entryIdentityEqual y₀ u = true →
        y₀.seq < y.seq → lifted s us y₀ = true) :
      Absorbed s newer us y (mergeMatchedRow r u newer)

inductive RowSource
  | ram (y : DmEntry)
  | card (u : DmEntry)

def sources (s : DmStore) (us : List DmEntry) : List RowSource :=
  s.rows.map .ram ++ (us.filter (unmatchedCard s)).map .card

def Image (s : DmStore) (newer : Bool) (base : Nat) (us : List DmEntry) :
    RowSource → DmEntry → Prop
  | .ram y, r =>
    (∃ r₀, Absorbed s newer us y r₀ ∧ r = r₀.withSeq r.seq) ∧
      if lifted s us y then base ≤ r.seq else r.seq = y.seq
  | .card u, r =>
    r = u.withSeq r.seq ∧ if displaced s u then base ≤ r.seq else r.seq = u.seq

structure MergeInv (s : DmStore) (newer : Bool) (base : Nat) (us : List DmEntry)
    (acc : MergeAcc) : Prop where
  provenance : ∃ l, acc.merged.Perm l ∧ List.Forall₂ (Image s newer base us) (sources s us) l
  nodup : (acc.merged.map DmEntry.seq).Nodup
  order : (acc.merged.map DmEntry.seq).Pairwise fun a b =>
    a ∈ s.rows.map DmEntry.seq → b ∈ s.rows.map DmEntry.seq → a < b
  below : ∀ r ∈ acc.merged, r.seq < acc.nextSeq
  base_le : base ≤ acc.nextSeq

theorem validIdentityDigestEqual_iff (a b : DmEntry) :
    validIdentityDigestEqual a b = true ↔
      a.identityDigestValid = true ∧ b.identityDigestValid = true ∧
        a.identityDigest = b.identityDigest := by
  simp [validIdentityDigestEqual, and_assoc]

theorem validIdentityDigestEqual_comm (a b : DmEntry) :
    validIdentityDigestEqual a b = validIdentityDigestEqual b a := by
  rw [Bool.eq_iff_iff, validIdentityDigestEqual_iff, validIdentityDigestEqual_iff]
  constructor <;> exact fun h => ⟨h.2.1, h.1, h.2.2.symm⟩

theorem RowsValid.digest_unique {nextSeq : Nat} {rows : List DmEntry}
    (h : RowsValid nextSeq rows) {a b : DmEntry} (ha : a ∈ rows) (hb : b ∈ rows)
    (hab : validIdentityDigestEqual a b = true) : a = b := by
  by_contra hne
  have hpair : rows.Pairwise fun p e => validIdentityDigestEqual p e = false :=
    h.distinct.imp fun hpe => (Bool.or_eq_false_iff.mp hpe).1
  have hsymm : Std.Symm fun p e => validIdentityDigestEqual p e = false :=
    ⟨fun p e hpe => (validIdentityDigestEqual_comm e p).trans hpe⟩
  simp [hpair.forall ha hb hne] at hab

/-- What the validator guarantees about the next card row `u` once `us` has been visited. -/
structure NextCard (base : Nat) (us : List DmEntry) (u : DmEntry) : Prop where
  above : ∀ v ∈ us, v.seq < u.seq
  distinct : ∀ v ∈ us, rowsClash v u = false
  below : u.seq < base

theorem NextCard.of_valid {primary : DmBlob} (h : BlobValid primary) {base : Nat}
    (hbase : primary.nextSeq ≤ base) {us post : List DmEntry} {u : DmEntry}
    (hrows : primary.rows = us ++ u :: post) : NextCard base us u := by
  have hasc := h.rows.ascending
  have hdis := h.rows.distinct
  have hu : u ∈ primary.rows := by
    rw [hrows]
    exact List.mem_append_cons_self
  rw [hrows] at hasc hdis
  exact
    { above := fun v hv => (List.pairwise_append.mp hasc).2.2 v hv u List.mem_cons_self
      distinct := fun v hv => (List.pairwise_append.mp hdis).2.2 v hv u List.mem_cons_self
      below := (persistedEntryIsValid_seq_lt (h.rows.entries u hu)).trans_le hbase }

section Absorbed

variable {s : DmStore} {newer : Bool} {us : List DmEntry} {y r : DmEntry}

theorem lifted_mono {vs : List DmEntry} (hsub : us ⊆ vs) (h : lifted s us y = true) :
    lifted s vs y = true := by
  simp only [lifted, Bool.and_eq_true, List.any_eq_true] at h ⊢
  obtain ⟨hlive, u, hu, hcond⟩ := h
  exact ⟨hlive, u, hsub hu, hcond⟩

theorem Absorbed.mono {vs : List DmEntry} (hsub : us ⊆ vs) (h : Absorbed s newer us y r) :
    Absorbed s newer vs y r := by
  induction h with
  | refl => exact .refl
  | step _ hmem hpair hfirst ih =>
    refine .step ih (hsub hmem) hpair fun hnot y₀ hy₀ hp hlt => ?_
    have hnot' : lifted s us y = false := by
      by_contra hl
      rw [lifted_mono hsub (by simpa using hl)] at hnot
      exact Bool.noConfusion hnot
    exact lifted_mono hsub (hfirst hnot' y₀ hy₀ hp hlt)

theorem Absorbed.frozen (h : Absorbed s newer us y r) : r.frozen = y.frozen := by
  induction h with
  | refl => rfl
  | step _ _ _ _ ih => rw [mergeMatchedRow_frozen, ih]

theorem Absorbed.seq (h : Absorbed s newer us y r) : r.seq = y.seq := by
  induction h with
  | refl => rfl
  | step _ _ _ _ ih => rw [mergeMatchedRow_seq, ih]

theorem Absorbed.digest_of_valid (h : Absorbed s newer us y r)
    (hy : y.identityDigestValid = true) :
    r.identityDigestValid = true ∧ r.identityDigest = y.identityDigest := by
  induction h with
  | refl => exact ⟨hy, rfl⟩
  | @step r u _ _ _ _ ih =>
    obtain ⟨hv, hd⟩ := mergeMatchedRow_digest_of_valid r u newer ih.1
    exact ⟨hv, hd.trans ih.2⟩

theorem Absorbed.digest_gained (h : Absorbed s newer us y r)
    (hy : y.identityDigestValid = false) (hr : r.identityDigestValid = true) :
    ∃ u ∈ us, entryIdentityEqual y u = true ∧ u.identityDigestValid = true ∧
      u.identityDigest = r.identityDigest ∧
      (lifted s us y = false → ∀ y₀ ∈ s.rows, entryIdentityEqual y₀ u = true →
        y₀.seq < y.seq → lifted s us y₀ = true) := by
  induction h with
  | refl => simp [hy] at hr
  | @step r u habs hmem hpair hfirst ih =>
    by_cases hrv : r.identityDigestValid = true
    · obtain ⟨v, hv, hpv, hvv, hvd, hvf⟩ := ih hrv
      exact ⟨v, hv, hpv, hvv,
        hvd.trans (mergeMatchedRow_digest_of_valid r u newer hrv).2.symm, hvf⟩
    · have hrv' : r.identityDigestValid = false := by simpa using hrv
      obtain ⟨hv, hd⟩ := mergeMatchedRow_digest_of_invalid r u newer hrv'
      have huv : u.identityDigestValid = true := by rw [← hv, hr]
      have hsame := entryIdentityEqual_congr habs.frozen habs.seq (hrv'.trans hy.symm)
        (fun hc => by simp [hy] at hc) u
      exact ⟨u, hmem, hsame ▸ hpair, huv, (hd huv).symm, hfirst⟩

end Absorbed

section NextCard

variable {s : DmStore} {newer : Bool} {base : Nat} {us : List DmEntry} {u : DmEntry}

theorem rowsClash_false {p e : DmEntry} (h : rowsClash p e = false) :
    validIdentityDigestEqual p e = false ∧
      (e.deliverySessionId ≠ 0 → p.deliverySessionId ≠ e.deliverySessionId) := by
  simpa [rowsClash] using h

theorem NextCard.not_paired_twice (hu : NextCard base us u) {v y : DmEntry} (hv : v ∈ us)
    (hy : y.identityDigestValid = false) (hpair : entryIdentityEqual y v = true) :
    entryIdentityEqual y u = false := by
  have hclash := (rowsClash_false (hu.distinct v hv)).2
  have hlt := hu.above v hv
  have hdv : validIdentityDigestEqual y v = false := by simp [validIdentityDigestEqual, hy]
  have hdu : validIdentityDigestEqual y u = false := by simp [validIdentityDigestEqual, hy]
  simp only [entryIdentityEqual, hdv, hdu, Bool.false_eq_true, if_false] at hpair ⊢
  by_cases hs : y.deliverySessionId = 0 ∧ v.deliverySessionId = 0
  · obtain ⟨hys, hvs⟩ := hs
    simp only [hys, hvs, ne_eq, not_true_eq_false, or_self, if_false, Bool.and_eq_true,
      decide_eq_true_eq] at hpair
    have hne : y.seq ≠ u.seq := by omega
    simp [hys, hne]
  · have hor : y.deliverySessionId ≠ 0 ∨ v.deliverySessionId ≠ 0 := by
      rw [← not_and_or]
      exact hs
    simp only [if_pos hor, Bool.and_eq_true, decide_eq_true_eq] at hpair
    have hne : y.deliverySessionId ≠ u.deliverySessionId := by
      intro heq
      exact hclash (heq ▸ hpair.1.1) (hpair.1.2 ▸ heq)
    simp [hpair.1.1, hne]

theorem Absorbed.identity (hu : NextCard base us u) {y r : DmEntry}
    (habs : Absorbed s newer us y r) : entryIdentityEqual r u = entryIdentityEqual y u := by
  by_cases hy : y.identityDigestValid = true
  · obtain ⟨hv, hd⟩ := habs.digest_of_valid hy
    exact entryIdentityEqual_congr habs.frozen habs.seq (hv.trans hy.symm) (fun _ => hd) u
  have hy' : y.identityDigestValid = false := by simpa using hy
  by_cases hv : r.identityDigestValid = true
  · obtain ⟨v, hvmem, hpair, hvv, hvd, -⟩ := habs.digest_gained hy' hv
    have hother := hu.not_paired_twice hvmem hy' hpair
    have hnodigest : validIdentityDigestEqual r u = false := by
      have hvu := (rowsClash_false (hu.distinct v hvmem)).1
      unfold validIdentityDigestEqual at hvu ⊢
      rw [← hvd, hv, ← hvv]
      exact hvu
    have hynodigest : validIdentityDigestEqual y u = false := by
      simp [validIdentityDigestEqual, hy']
    rw [hother]
    simp only [entryIdentityEqual, hnodigest, hynodigest, Bool.false_eq_true, if_false,
      DmEntry.session_of_frozen habs.frozen, material_of_frozen habs.frozen u,
      habs.seq] at hother ⊢
    split_ifs at hother ⊢ with hs
    · exact hother
    · simp only [hy', Bool.false_and, Bool.not_false, Bool.true_and] at hother
      rw [Bool.and_assoc, hother, Bool.and_false]
  · have hv' : r.identityDigestValid = false := by simpa using hv
    exact entryIdentityEqual_congr habs.frozen habs.seq (hv'.trans hy'.symm)
      (fun hc => by simp [hy'] at hc) u

theorem Image.ram_identity (hu : NextCard base us u) {y r : DmEntry}
    (h : Image s newer base us (.ram y) r) : entryIdentityEqual r u = entryIdentityEqual y u := by
  obtain ⟨⟨r₀, habs, hr⟩, hseq⟩ := h
  rw [← habs.identity hu]
  split_ifs at hseq with hl
  · -- A lifted row left the sequence of an earlier card row, so neither sequence is `u`'s.
    obtain ⟨v, hv, hvy⟩ : ∃ v ∈ us, v.seq = y.seq := by
      simp only [lifted, Bool.and_eq_true, List.any_eq_true, decide_eq_true_eq] at hl
      obtain ⟨-, v, hv, -, hvy⟩ := hl
      exact ⟨v, hv, hvy⟩
    have hlt := hu.above v hv
    have hub := hu.below
    have hs := habs.seq
    rw [hr]
    exact entryIdentityEqual_withSeq r₀ u (by omega) (by omega)
  · have hrr : r = r₀ := by
      rw [hr, hseq, ← habs.seq, DmEntry.withSeq_self]
    rw [hrr]

theorem Image.card_absent (hu : NextCard base us u) {v r : DmEntry} (hv : v ∈ us)
    (h : Image s newer base us (.card v) r) :
    entryIdentityEqual r u = false ∧ r.seq ≠ u.seq := by
  obtain ⟨hr, hseq⟩ := h
  obtain ⟨hdigest, hsession⟩ := rowsClash_false (hu.distinct v hv)
  have hlt := hu.above v hv
  have hub := hu.below
  have hne : r.seq ≠ u.seq := by
    split_ifs at hseq <;> omega
  refine ⟨?_, hne⟩
  have hvs : v.seq ≠ u.seq := by omega
  rw [hr, entryIdentityEqual_withSeq v u hvs hne]
  simp only [entryIdentityEqual, hdigest, Bool.false_eq_true, if_false]
  split_ifs with hs
  · by_cases hv0 : v.deliverySessionId = u.deliverySessionId
    · have hu0 : u.deliverySessionId ≠ 0 := by
        rcases hs with hs | hs
        · exact hv0 ▸ hs
        · exact hs
      exact absurd hv0 (hsession hu0)
    · simp [hv0]
  · simp [hvs]

theorem lifted_snoc (y : DmEntry) :
    lifted s (us ++ [u]) y =
      (lifted s us y || (isLive s y && (unmatchedCard s u && decide (u.seq = y.seq)))) := by
  simp [lifted, Bool.and_or_distrib_left]

theorem isLive_congr {a b : DmEntry} (h : a.seq = b.seq) : isLive s a = isLive s b := by
  simp only [isLive, h]

theorem Image.snoc {src : RowSource} {r : DmEntry} (h : Image s newer base us src r)
    (hfree : unmatchedCard s u = false ∨ r.seq ≠ u.seq ∨ isLive s r = false) :
    Image s newer base (us ++ [u]) src r := by
  cases src with
  | card v => exact h
  | ram y =>
    obtain ⟨⟨r₀, habs, hr⟩, hseq⟩ := h
    refine ⟨⟨r₀, habs.mono (List.subset_append_left _ _), hr⟩, ?_⟩
    by_cases hl : lifted s us y = true
    · rw [if_pos (lifted_mono (List.subset_append_left _ _) hl)]
      rwa [if_pos hl] at hseq
    · rw [if_neg hl] at hseq
      rw [if_neg, hseq]
      have hcase : unmatchedCard s u = false ∨ y.seq ≠ u.seq ∨ isLive s y = false := by
        rwa [hseq, isLive_congr hseq] at hfree
      rw [lifted_snoc]
      rcases hcase with h1 | h1 | h1 <;> simp [hl, h1]
      exact fun _ _ => Ne.symm h1

end NextCard

section Step

variable {s : DmStore} {newer : Bool} {base : Nat} {us : List DmEntry} {u : DmEntry}
  {acc acc' : MergeAcc}

theorem mem_sources {src : RowSource} :
    src ∈ sources s us ↔
      (∃ y ∈ s.rows, src = .ram y) ∨ ∃ v ∈ us, unmatchedCard s v = true ∧ src = .card v := by
  simp only [sources, List.mem_append, List.mem_map, List.mem_filter, eq_comm, and_assoc]

theorem sources_snoc :
    sources s (us ++ [u]) = sources s us ++ if unmatchedCard s u then [.card u] else [] := by
  unfold sources
  rw [List.filter_append, List.map_append, List.append_assoc]
  cases h : unmatchedCard s u <;> simp [h]

theorem MergeInv.image_of_ram (hinv : MergeInv s newer base us acc) {y : DmEntry}
    (hy : y ∈ s.rows) : ∃ r ∈ acc.merged, Image s newer base us (.ram y) r := by
  obtain ⟨l, hperm, hforall⟩ := hinv.provenance
  obtain ⟨r, hr, himage⟩ := forall₂_mem_left hforall (mem_sources.mpr (.inl ⟨y, hy, rfl⟩))
  exact ⟨r, hperm.mem_iff.mpr hr, himage⟩

theorem Image.source_ram (hu : NextCard base us u) {src : RowSource} {r : DmEntry}
    (hsrc : src ∈ sources s us) (h : Image s newer base us src r)
    (hr : entryIdentityEqual r u = true ∨ r.seq = u.seq) :
    ∃ y ∈ s.rows, src = .ram y ∧ Image s newer base us (.ram y) r := by
  rcases mem_sources.mp hsrc with ⟨y, hy, rfl⟩ | ⟨v, hv, -, rfl⟩
  · exact ⟨y, hy, rfl, h⟩
  · obtain ⟨hid, hseq⟩ := h.card_absent hu hv
    rcases hr with hr | hr
    · simp [hid] at hr
    · exact absurd hr hseq

theorem MergeInv.unmatchedCard_iff (hinv : MergeInv s newer base us acc)
    (hu : NextCard base us u) :
    unmatchedCard s u = true ↔ ∀ r ∈ acc.merged, entryIdentityEqual r u = false := by
  obtain ⟨l, hperm, hforall⟩ := hinv.provenance
  simp only [unmatchedCard, List.all_eq_true, Bool.not_eq_true']
  constructor
  · intro h r hr
    obtain ⟨l₁, src, l₂, m₁, m₂, hl, -, -, himage, -⟩ :=
      forall₂_split_right hforall (hperm.mem_iff.mp hr)
    by_contra hid
    have hsrc : src ∈ sources s us := by
      rw [hl]
      exact List.mem_append_cons_self
    obtain ⟨y, hy, -, hram⟩ := himage.source_ram hu hsrc (.inl (by simpa using hid))
    rw [hram.ram_identity hu, h y hy] at hid
    exact hid rfl
  · intro h y hy
    obtain ⟨r, hr, himage⟩ := hinv.image_of_ram hy
    rw [← himage.ram_identity hu]
    exact h r hr

theorem MergeInv.below_key (hinv : MergeInv s newer base us acc) {k : Nat}
    (hk : k ∈ acc.merged.map DmEntry.seq) : k < acc.nextSeq := by
  obtain ⟨r, hr, rfl⟩ := List.mem_map.mp hk
  exact hinv.below r hr

theorem MergeInv.free_of_ram (hinv : MergeInv s newer base us acc) (hu : NextCard base us u)
    (hfree : ∀ r ∈ acc.merged, r.seq ≠ u.seq) : ∀ y ∈ s.rows, y.seq ≠ u.seq := by
  intro y hy
  obtain ⟨r, hr, -, hseq⟩ := hinv.image_of_ram hy
  split_ifs at hseq with hl
  · simp only [lifted, Bool.and_eq_true, List.any_eq_true, decide_eq_true_eq] at hl
    obtain ⟨-, v, hv, -, hvy⟩ := hl
    have hlt := hu.above v hv
    omega
  · rw [← hseq]
    exact hfree r hr

theorem MergeStep.keys (hstep : MergeStep s newer acc u acc')
    (hinv : MergeInv s newer base us acc) (hu : NextCard base us u)
    (hrows : ∀ y ∈ s.rows, y.seq < base) :
    (acc'.merged.map DmEntry.seq = acc.merged.map DmEntry.seq ∧ acc'.nextSeq = acc.nextSeq) ∨
      ∃ k, acc'.merged.map DmEntry.seq = acc.merged.map DmEntry.seq ++ [k] ∧
        k ∉ acc.merged.map DmEntry.seq ∧ k ∉ s.rows.map DmEntry.seq ∧
        k < acc'.nextSeq ∧ acc.nextSeq ≤ acc'.nextSeq := by
  have hbase := hinv.base_le
  have hfresh : acc.nextSeq ∉ acc.merged.map DmEntry.seq ∧
      acc.nextSeq ∉ s.rows.map DmEntry.seq := by
    refine ⟨fun hk => Nat.lt_irrefl _ (hinv.below_key hk), fun hk => ?_⟩
    obtain ⟨y, hy, hyk⟩ := List.mem_map.mp hk
    have := hrows y hy
    omega
  cases hstep with
  | pair before row after split first _ found =>
    left
    simp [split]
  | enter absent free =>
    right
    have hub := hu.below
    refine ⟨u.seq, by simp, ?_, ?_, by simp only; omega, le_refl _⟩
    · simpa using free
    · simpa using hinv.free_of_ram hu free
  | liftLive before current after absent split same room live =>
    right
    exact ⟨acc.nextSeq, by simp [split, same], hfresh.1, hfresh.2, by simp, by simp⟩
  | resequence current absent mem same room settled =>
    right
    exact ⟨acc.nextSeq, by simp, hfresh.1, hfresh.2, by simp, by simp⟩

theorem MergeInv.first_of_split (hinv : MergeInv s newer base us acc) (hu : NextCard base us u)
    {before after : List DmEntry} {row y y₀ : DmEntry}
    (hsplit : acc.merged = before ++ row :: after)
    (hfirst : ∀ r ∈ before, entryIdentityEqual r u = false) (hy : y ∈ s.rows)
    (hrow : row.seq = y.seq) (hy₀ : y₀ ∈ s.rows) (hpair : entryIdentityEqual y₀ u = true)
    (hlt : y₀.seq < y.seq) : lifted s us y₀ = true := by
  by_contra hl
  obtain ⟨r, hr, himage⟩ := hinv.image_of_ram hy₀
  have hid : entryIdentityEqual r u = true := (himage.ram_identity hu).trans hpair
  have hseq : r.seq = y₀.seq := by
    have h := himage.2
    rwa [if_neg hl] at h
  have hafter : r ∈ after := by
    rw [hsplit, List.mem_append, List.mem_cons] at hr
    rcases hr with hr | rfl | hr
    · simp [hfirst r hr] at hid
    · omega
    · exact hr
  have horder := hinv.order
  rw [hsplit, List.map_append, List.map_cons] at horder
  have hcross := (List.pairwise_cons.mp (List.pairwise_append.mp horder).2.1).1 r.seq
    (List.mem_map_of_mem hafter)
  have hgt := hcross (hrow ▸ List.mem_map_of_mem hy) (hseq ▸ List.mem_map_of_mem hy₀)
  omega

theorem MergeStep.provenance (hstep : MergeStep s newer acc u acc')
    (hinv : MergeInv s newer base us acc) (hu : NextCard base us u) :
    ∃ l, acc'.merged.Perm l ∧
      List.Forall₂ (Image s newer base (us ++ [u])) (sources s (us ++ [u])) l := by
  obtain ⟨l, hperm, hforall⟩ := hinv.provenance
  have hnodup : (l.map DmEntry.seq).Nodup :=
    (hperm.map DmEntry.seq).nodup_iff.mp hinv.nodup
  have hbase := hinv.base_le
  have hub := hu.below
  -- A row that pairs with `u` or holds its sequence, with the place of its source.
  have locate : ∀ r ∈ acc.merged, entryIdentityEqual r u = true ∨ r.seq = u.seq →
      ∃ l₁ l₂ m₁ m₂ y, y ∈ s.rows ∧ sources s us = l₁ ++ .ram y :: l₂ ∧ l = m₁ ++ r :: m₂ ∧
        List.Forall₂ (Image s newer base us) l₁ m₁ ∧ Image s newer base us (.ram y) r ∧
        List.Forall₂ (Image s newer base us) l₂ m₂ := by
    intro r hr hcase
    obtain ⟨l₁, src, l₂, m₁, m₂, hl, hm, h₁, himage, h₂⟩ :=
      forall₂_split_right hforall (hperm.mem_iff.mp hr)
    have hsrc : src ∈ sources s us := by
      rw [hl]
      exact List.mem_append_cons_self
    obtain ⟨y, hy, rfl, hram⟩ := himage.source_ram hu hsrc hcase
    exact ⟨l₁, l₂, m₁, m₂, y, hy, hl, hm, h₁, hram, h₂⟩
  cases hstep with
  | pair before row after split first _ found =>
    have hmem : row ∈ acc.merged := by
      rw [split]
      exact List.mem_append_cons_self
    obtain ⟨l₁, l₂, m₁, m₂, y, hy, hl, rfl, h₁, himage, h₂⟩ := locate row hmem (.inl found)
    have hun : unmatchedCard s u = false := by
      by_contra h
      have hall := (hinv.unmatchedCard_iff hu).mp (by simpa using h) row hmem
      simp [hall] at found
    refine ⟨m₁ ++ mergeMatchedRow row u newer :: m₂, ?_, ?_⟩
    · rw [split] at hperm
      have hrest := (List.perm_middle.symm.trans (hperm.trans List.perm_middle)).cons_inv
      exact List.perm_middle.trans ((hrest.cons _).trans List.perm_middle.symm)
    · rw [sources_snoc, hun, if_neg Bool.false_ne_true, List.append_nil, hl]
      have hkeep : ∀ src r, Image s newer base us src r → Image s newer base (us ++ [u]) src r :=
        fun src r h => h.snoc (.inl hun)
      refine forall₂_append (h₁.imp hkeep) (.cons ?_ (h₂.imp hkeep))
      have hrow : row.seq = y.seq ∨ lifted s us y = true := by
        by_cases hl : lifted s us y = true
        · exact .inr hl
        · exact .inl (by simpa only [if_neg hl] using himage.2)
      have hlift : ∀ y, lifted s (us ++ [u]) y = lifted s us y := fun y => by
        rw [lifted_snoc, hun, Bool.false_and, Bool.and_false, Bool.or_false]
      obtain ⟨⟨r₀, habs, hr⟩, hseq⟩ := himage
      have hpair : entryIdentityEqual r₀ u = true := by
        rw [habs.identity hu, ← Image.ram_identity hu ⟨⟨r₀, habs, hr⟩, hseq⟩]
        exact found
      refine ⟨⟨mergeMatchedRow r₀ u newer,
        .step (habs.mono (List.subset_append_left _ _)) (by simp) hpair ?_, ?_⟩, ?_⟩
      · intro hnot y₀ hy₀ hp hlt
        rw [hlift] at hnot ⊢
        exact hinv.first_of_split hu split first hy (hrow.resolve_right (by simp [hnot])) hy₀ hp hlt
      · rw [mergeMatchedRow_seq, ← mergeMatchedRow_withSeq, ← hr]
      · rwa [hlift, mergeMatchedRow_seq]
  | enter absent free =>
    have hun : unmatchedCard s u = true :=
      (hinv.unmatchedCard_iff hu).mpr fun r hr => (absent r hr).2
    refine ⟨l ++ [u], hperm.append_right _, ?_⟩
    rw [sources_snoc, hun, if_pos rfl]
    refine forall₂_append (forall₂_imp_right hforall fun r hr src h =>
      h.snoc (.inr (.inl (free r (hperm.mem_iff.mpr hr))))) (.cons ⟨rfl, ?_⟩ .nil)
    have hfree := hinv.free_of_ram hu free
    rw [if_neg]
    simp only [displaced, List.any_eq_true, Bool.and_eq_true, decide_eq_true_eq, not_exists,
      not_and]
    exact fun y hy hseq => absurd hseq (hfree y hy)
  | liftLive before current after absent split same room live =>
    have hun : unmatchedCard s u = true :=
      (hinv.unmatchedCard_iff hu).mpr fun r hr => (absent r hr).2
    have hmem : current ∈ acc.merged := by
      rw [split]
      exact List.mem_append_cons_self
    obtain ⟨l₁, l₂, m₁, m₂, y, hy, hl, rfl, h₁, himage, h₂⟩ := locate current hmem (.inr same)
    obtain ⟨⟨r₀, habs, hr⟩, hseq⟩ := himage
    have hyseq : current.seq = y.seq := by
      split_ifs at hseq
      · omega
      · exact hseq
    refine ⟨m₁ ++ current.withSeq acc.nextSeq :: m₂ ++ [u], ?_, ?_⟩
    · rw [split] at hperm
      have hrest := (List.perm_middle.symm.trans (hperm.trans List.perm_middle)).cons_inv
      have hl₁ : (before ++ u :: after ++ [current.withSeq acc.nextSeq]).Perm
          (u :: current.withSeq acc.nextSeq :: (before ++ after)) :=
        (List.perm_append_singleton _ _).trans
          ((List.perm_middle.cons _).trans (List.Perm.swap _ _ _))
      have hl₂ : (m₁ ++ current.withSeq acc.nextSeq :: m₂ ++ [u]).Perm
          (u :: current.withSeq acc.nextSeq :: (m₁ ++ m₂)) :=
        (List.perm_append_singleton _ _).trans (List.perm_middle.cons _)
      exact hl₁.trans (((hrest.cons _).cons _).trans hl₂.symm)
    · rw [List.map_append, List.map_cons] at hnodup
      have hother : ∀ r ∈ m₁ ++ m₂, r.seq ≠ u.seq := by
        intro r hr' hrs
        rw [List.nodup_middle, List.nodup_cons] at hnodup
        apply hnodup.1
        rw [← List.map_append, same, ← hrs]
        exact List.mem_map_of_mem hr'
      rw [sources_snoc, hun, if_pos rfl, hl]
      refine forall₂_append (forall₂_append
        (forall₂_imp_right h₁ fun r hr' src h =>
          h.snoc (.inr (.inl (hother r (List.mem_append_left _ hr')))))
        (.cons ⟨⟨r₀, habs.mono (List.subset_append_left _ _), ?_⟩, ?_⟩
          (forall₂_imp_right h₂ fun r hr' src h =>
            h.snoc (.inr (.inl (hother r (List.mem_append_right _ hr')))))))
        (.cons ⟨rfl, ?_⟩ .nil)
      · rw [hr]
        rfl
      · have hlive : isLive s y = true := (isLive_congr hyseq).symm.trans live
        have hsame : u.seq = y.seq := same.symm.trans hyseq
        rw [if_pos (by simp [lifted_snoc, hlive, hun, hsame])]
        exact hbase
      · rw [if_neg]
        simp only [displaced, List.any_eq_true, Bool.and_eq_true, decide_eq_true_eq, not_exists,
          not_and, Bool.not_eq_true', Bool.not_eq_false]
        intro y' _ hy'
        rw [← isLive_congr (same.trans hy'.symm)]
        exact live
  | resequence current absent mem same room settled =>
    have hun : unmatchedCard s u = true :=
      (hinv.unmatchedCard_iff hu).mpr fun r hr => (absent r hr).2
    obtain ⟨_, _, _, _, y, hy, -, -, -, himage, -⟩ := locate current mem (.inr same)
    have hyseq : current.seq = y.seq := by
      have hseq := himage.2
      split_ifs at hseq
      · omega
      · exact hseq
    refine ⟨l ++ [u.withSeq acc.nextSeq], hperm.append_right _, ?_⟩
    rw [sources_snoc, hun, if_pos rfl]
    refine forall₂_append (forall₂_imp_right hforall fun r hr src h => h.snoc ?_)
      (.cons ⟨rfl, ?_⟩ .nil)
    · by_cases hrs : r.seq = u.seq
      · exact .inr (.inr ((isLive_congr (hrs.trans same.symm)).trans settled))
      · exact .inr (.inl hrs)
    · have hdis : displaced s u = true := by
        simp only [displaced, List.any_eq_true, Bool.and_eq_true, decide_eq_true_eq,
          Bool.not_eq_true']
        exact ⟨y, hy, hyseq.symm.trans same, (isLive_congr hyseq).symm.trans settled⟩
      rw [if_pos hdis]
      exact hbase

theorem MergeStep.inv (hstep : MergeStep s newer acc u acc')
    (hinv : MergeInv s newer base us acc) (hu : NextCard base us u)
    (hrows : ∀ y ∈ s.rows, y.seq < base) : MergeInv s newer base (us ++ [u]) acc' := by
  have hprov := hstep.provenance hinv hu
  have hbelow : ∀ r ∈ acc'.merged, r.seq ∈ acc'.merged.map DmEntry.seq :=
    fun r hr => List.mem_map_of_mem hr
  rcases hstep.keys hinv hu hrows with ⟨hkeys, hnext⟩ | ⟨k, hkeys, hnew, hram, hk, hle⟩
  · refine ⟨hprov, hkeys ▸ hinv.nodup, hkeys ▸ hinv.order, fun r hr => ?_, hnext ▸ hinv.base_le⟩
    rw [hnext]
    exact hinv.below_key (hkeys ▸ hbelow r hr)
  · refine ⟨hprov, ?_, ?_, fun r hr => ?_, hinv.base_le.trans hle⟩
    · rw [hkeys]
      exact List.nodup_append.mpr ⟨hinv.nodup, List.nodup_singleton k, by
        intro a ha b hb hab
        rw [List.mem_singleton] at hb
        exact hnew (hb ▸ hab ▸ ha)⟩
    · rw [hkeys, List.pairwise_append]
      refine ⟨hinv.order, List.pairwise_singleton _ _, fun a _ b hb _ hbr => ?_⟩
      rw [List.mem_singleton] at hb
      exact absurd (hb ▸ hbr) hram
    · have hmem := hbelow r hr
      rw [hkeys, List.mem_append, List.mem_singleton] at hmem
      rcases hmem with hmem | hmem
      · exact (hinv.below_key hmem).trans_le hle
      · omega

theorem MergeInv.length (hinv : MergeInv s newer base us acc) :
    acc.merged.length ≤ s.rows.length + us.length := by
  obtain ⟨l, hperm, hforall⟩ := hinv.provenance
  rw [hperm.length_eq, ← hforall.length_eq]
  simp only [sources, List.length_append, List.length_map]
  have := List.length_filter_le (unmatchedCard s) us
  omega

end Step

/-- A RAM history as every operation leaves it: ascending, and below the next sequence. -/
structure RowsOrdered (s : DmStore) : Prop where
  ascending : Ascending DmEntry.seq s.rows
  below : ∀ y ∈ s.rows, y.seq < s.nextSeq

theorem RowsOrdered.mergeInv_nil {s : DmStore} (h : RowsOrdered s) (newer : Bool) {base : Nat}
    (hbase : s.nextSeq ≤ base) (additionalCount : Nat) :
    MergeInv s newer base [] ⟨s.rows, base, additionalCount⟩ where
  provenance := by
    refine ⟨s.rows, List.Perm.refl _, ?_⟩
    simp only [sources, List.filter_nil, List.map_nil, List.append_nil]
    rw [List.forall₂_map_left_iff, List.forall₂_same]
    exact fun y _ => ⟨⟨y, .refl, rfl⟩, by simp [lifted]⟩
  nodup := h.ascending.nodup_keys
  order := List.Pairwise.imp (fun hab _ _ => hab) (List.pairwise_map.mpr h.ascending)
  below := fun y hy => (h.below y hy).trans_le hbase
  base_le := le_refl _

theorem mergeCandidates_induct {s : DmStore} {primary : DmBlob} (hs : RowsOrdered s)
    (hvalid : BlobValid primary) (P : List DmEntry → MergeAcc → Prop)
    (hinit : P [] ⟨s.rows, max s.nextSeq primary.nextSeq, additionalLiveCount s primary⟩)
    (hstep : ∀ us u post acc acc', primary.rows = us ++ u :: post →
      MergeInv s (decide (s.contentRevision < primary.contentRevision))
        (max s.nextSeq primary.nextSeq) us acc →
      NextCard (max s.nextSeq primary.nextSeq) us u → P us acc →
      MergeStep s (decide (s.contentRevision < primary.contentRevision)) acc u acc' →
      P (us ++ [u]) acc')
    {acc : MergeAcc} (h : mergeCandidates s primary = .ok acc) :
    MergeInv s (decide (s.contentRevision < primary.contentRevision))
      (max s.nextSeq primary.nextSeq) primary.rows acc ∧ P primary.rows acc := by
  refine foldlM_ok_invariant
    (fun us acc => MergeInv s (decide (s.contentRevision < primary.contentRevision))
      (max s.nextSeq primary.nextSeq) us acc ∧ P us acc)
    ⟨hs.mergeInv_nil _ (Nat.le_max_left _ _) _, hinit⟩ ?_ h
  rintro us u post acc acc' hrows ⟨hinv, hP⟩ hok
  have hu : NextCard (max s.nextSeq primary.nextSeq) us u :=
    .of_valid hvalid (Nat.le_max_right _ _) hrows
  have hlen : acc.merged.length < dmStoreCapacity * 2 := by
    have h1 := hinv.length
    have h2 := s.length_rows_le
    have h3 := primary.length_rows_le
    rw [hrows, List.length_append, List.length_cons] at h3
    omega
  have hturn := mergeCandidate_step hlen hok
  exact ⟨hturn.inv hinv hu fun y hy => (hs.below y hy).trans_le (Nat.le_max_left _ _),
    hstep us u post acc acc' hrows hinv hu hP hturn⟩

/-- A property of the merged rows that every turn keeps. -/
theorem mergeCandidates_keeps {s : DmStore} {primary : DmBlob} {P : List DmEntry → Prop}
    (hinit : P s.rows)
    (hstep : ∀ newer u acc acc', u ∈ primary.rows → P acc.merged → MergeStep s newer acc u acc' →
      P acc'.merged)
    {acc : MergeAcc} (h : mergeCandidates s primary = .ok acc) : P acc.merged := by
  suffices hall : P acc.merged ∧ acc.merged.length ≤ s.rows.length + primary.rows.length from hall.1
  refine foldlM_ok_invariant (fun us acc => P acc.merged ∧
    acc.merged.length ≤ s.rows.length + us.length) ⟨hinit, Nat.le_refl _⟩ ?_ h
  rintro us u post acc acc' hrows ⟨hP, hlength⟩ hok
  have hroom : acc.merged.length < dmStoreCapacity * 2 := by
    have hram := s.length_rows_le
    have hcard := primary.length_rows_le
    rw [hrows, List.length_append, List.length_cons] at hcard
    omega
  have hturn := mergeCandidate_step hroom hok
  have hu : u ∈ primary.rows := by
    rw [hrows]
    exact List.mem_append_cons_self
  refine ⟨hstep _ u acc acc' hu hP hturn, ?_⟩
  rw [List.length_append, List.length_singleton]
  cases hturn with
  | pair before row after hsplit | liftLive before row after _ hsplit =>
    rw [hsplit] at hlength
    simp only [List.length_append, List.length_cons, List.length_nil] at hlength ⊢
    omega
  | enter | resequence =>
    simp only [List.length_append, List.length_singleton]
    omega

end Sigui.Dm

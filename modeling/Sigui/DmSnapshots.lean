import Sigui.DmWritableRuns

/-! A store merged with a blob it wrote earlier in the same boot: every row of the blob is an
older version of a retained row, or lies below a ring that is full by now. -/
namespace Sigui.Dm

section Evolved

/-- `r` is the row `u` after some updates, none of which gave it another ACK hash. -/
structure Evolved (u r : DmEntry) : Prop where
  seq : r.seq = u.seq
  frozen : r.frozen = u.frozen
  digestValid : r.identityDigestValid = u.identityDigestValid
  digest : r.identityDigest = u.identityDigest
  delivered : r.outbound = false → r.delivered = u.delivered
  acked : r.outbound = false → r.acked = u.acked
  attempt : u.attempt ≤ r.attempt
  ack : u.ackDispatchCount < r.ackDispatchCount ∨
    (u.ackDispatchCount = r.ackDispatchCount ∧
      ackStateMergeRank u.ackState ≤ ackStateMergeRank r.ackState)
  revision : u.deliveryRevision ≤ r.deliveryRevision

variable {u r x : DmEntry}

theorem Evolved.refl (u : DmEntry) : Evolved u u :=
  ⟨rfl, rfl, rfl, rfl, fun _ => rfl, fun _ => rfl, le_refl _, .inr ⟨rfl, le_refl _⟩, le_refl _⟩

theorem Evolved.trans (hur : Evolved u r) (hrx : Evolved r x) : Evolved u x where
  seq := hrx.seq.trans hur.seq
  frozen := hrx.frozen.trans hur.frozen
  digestValid := hrx.digestValid.trans hur.digestValid
  digest := hrx.digest.trans hur.digest
  delivered := fun ho =>
    (hrx.delivered ho).trans (hur.delivered ((DmEntry.outbound_of_frozen hrx.frozen) ▸ ho))
  acked := fun ho =>
    (hrx.acked ho).trans (hur.acked ((DmEntry.outbound_of_frozen hrx.frozen) ▸ ho))
  attempt := hur.attempt.trans hrx.attempt
  ack := by
    rcases hur.ack with h1 | ⟨h1, h2⟩ <;> rcases hrx.ack with h3 | ⟨h3, h4⟩ <;> omega
  revision := hur.revision.trans hrx.revision

/-- `r` is `u` after some updates, of which a retry may have given it another ACK hash. -/
def Advanced (u r : DmEntry) : Prop := Evolved { u with ackHash := r.ackHash } r

theorem RowUpdate.advanced (h : RowUpdate u r) : Advanced u r := by
  cases h with
  | reserved dispatchKind hasDigest idle below kind =>
    exact ⟨rfl, rfl, rfl, rfl, fun _ => rfl, fun _ => rfl, le_refl _,
      .inl (Nat.lt_succ_self _), le_refl _⟩
  | rebound dispatchKind hasDigest pending counted kind =>
    exact ⟨rfl, rfl, rfl, rfl, fun _ => rfl, fun _ => rfl, le_refl _, .inr ⟨rfl, le_refl _⟩,
      le_refl _⟩
  | sent hasDigest pending counted =>
    refine ⟨rfl, rfl, rfl, rfl, fun _ => rfl, fun _ => rfl, le_refl _, .inr ⟨rfl, ?_⟩, le_refl _⟩
    rw [pending]
    exact (by decide : ackStateMergeRank .pending ≤ ackStateMergeRank .sent)
  | failed error hasDigest pending counted isError =>
    refine ⟨rfl, rfl, rfl, rfl, fun _ => rfl, fun _ => rfl, le_refl _, .inr ⟨rfl, ?_⟩, le_refl _⟩
    rw [pending]
    dsimp only
    split_ifs <;> decide
  | transition a session rebind allowed =>
    have hout : u.outbound = true := (transitionRefused_eq_false allowed).outbound
    have hnot : (applyDeliveryTransition a u).outbound = false → False := fun ho =>
      Bool.noConfusion (hout.symm.trans ho)
    exact ⟨rfl, rfl, rfl, rfl, fun ho => (hnot ho).elim, fun ho => (hnot ho).elim,
      Nat.le_add_right _ _, .inr ⟨rfl, le_refl _⟩, Nat.le_succ _⟩

theorem RowUpdate.evolved (h : RowUpdate u r) (hhash : r.ackHash = u.ackHash) : Evolved u r := by
  have hadvanced : Evolved { u with ackHash := r.ackHash } r := h.advanced
  rwa [hhash] at hadvanced

theorem Advanced.trans (hur : Advanced u r) (hrx : Advanced r x) : Advanced u x := by
  have hframe := congrArg (fun f : DmEntry => { f with ackHash := x.ackHash }) hur.frozen
  have hrebound : Evolved { u with ackHash := x.ackHash } { r with ackHash := x.ackHash } :=
    ⟨hur.seq, hframe, hur.digestValid, hur.digest, hur.delivered, hur.acked, hur.attempt, hur.ack,
      hur.revision⟩
  exact hrebound.trans hrx

theorem Evolved.mergeFlags (h : Evolved u r) : mergeFlags r u = r := by
  have hdelivered : (r.delivered || (!r.outbound && u.delivered)) = r.delivered := by
    cases ho : r.outbound with
    | true => simp
    | false => simp [h.delivered ho]
  have hacked : (r.acked || (!r.outbound && u.acked)) = r.acked := by
    cases ho : r.outbound with
    | true => simp
    | false => simp [h.acked ho]
  have hattempt : max r.attempt u.attempt = r.attempt := Nat.max_eq_left h.attempt
  unfold Dm.mergeFlags
  rw [hdelivered, hacked, hattempt]

theorem Evolved.mergeAckMetadata (h : Evolved u r) : mergeAckMetadata r u false = r := by
  unfold Dm.mergeAckMetadata
  split_ifs with hu hr hkeep hcopy
  · rfl
  · simp only [Bool.not_eq_true', Bool.not_eq_false] at hu
    simp [h.digestValid, hu] at hr
  · rfl
  · -- A copy needs a higher count or a higher rank than the evolved row has.
    simp only [false_and, or_false] at hcopy
    rcases h.ack with hack | ⟨hack, hrank⟩ <;> rcases hcopy with hcopy | hcopy <;>
      simp only [not_or, not_lt] at hkeep <;> omega
  · rfl

theorem Evolved.mergeDeliveryMetadata (h : Evolved u r) :
    mergeDeliveryMetadata r u false = r := by
  have hrevision := h.revision
  unfold Dm.mergeDeliveryMetadata
  split_ifs with hboth hcopy
  · rfl
  · simp only [false_and, or_false] at hcopy
    omega
  · rfl

theorem Evolved.mergeMatchedRow (h : Evolved u r) : mergeMatchedRow r u false = r := by
  rw [mergeMatchedRow_eq, h.mergeFlags, h.mergeAckMetadata, h.mergeDeliveryMetadata]

theorem Evolved.paired (h : Evolved u r) :
    deliverySessionIdConflicts r u = false ∧ entryIdentityEqual r u = true := by
  have hmaterial : outboundDeliveryIdentityMaterialEqual r u = true := by
    rw [material_of_frozen h.frozen]
    simp [outboundDeliveryIdentityMaterialEqual]
  have hsession := DmEntry.session_of_frozen h.frozen
  refine ⟨by simp [deliverySessionIdConflicts, hmaterial], ?_⟩
  unfold entryIdentityEqual
  by_cases hd : u.identityDigestValid = true
  · rw [if_pos ((validIdentityDigestEqual_iff r u).mpr ⟨h.digestValid.trans hd, hd, h.digest⟩)]
  · have hd' : u.identityDigestValid = false := by simpa using hd
    have hnodigest : validIdentityDigestEqual r u = false := by
      simp [validIdentityDigestEqual, hd']
    rw [hnodigest, if_neg Bool.false_ne_true, hsession, hmaterial, h.seq, hd']
    split_ifs with hs
    · simpa using hs
    · simp

theorem Evolved.rowsClash (h : Evolved u r) (v : DmEntry) : rowsClash v r = rowsClash v u := by
  simp only [Dm.rowsClash, validIdentityDigestEqual, h.digestValid, h.digest,
    DmEntry.session_of_frozen h.frozen]

theorem unpaired_of_distinct (hclash : Dm.rowsClash x u = false) (hseq : x.seq ≠ u.seq) :
    deliverySessionIdConflicts x u = false ∧ entryIdentityEqual x u = false := by
  obtain ⟨hdigest, hsession⟩ := rowsClash_false hclash
  have hsame : x.deliverySessionId ≠ 0 → x.deliverySessionId ≠ u.deliverySessionId := by
    intro hne heq
    exact hsession (heq ▸ hne) heq
  constructor
  · simp only [deliverySessionIdConflicts, Bool.and_eq_false_iff, decide_eq_false_iff_not, not_not]
    by_cases hx : x.deliverySessionId = 0
    · exact .inl (.inl hx)
    · exact .inl (.inr (hsame hx))
  · unfold entryIdentityEqual
    rw [hdigest, if_neg Bool.false_ne_true]
    split_ifs
    · by_cases hx : x.deliverySessionId = 0
      · simp [hx]
      · simp [hsame hx]
    · simp [hseq]

end Evolved

section Later

/-- `s` was reached from `t` by mutations alone. -/
structure Later (t s : DmStore) : Prop where
  epoch : s.epoch = t.epoch
  lineage : s.clearLineage = t.clearLineage
  contentRevision : t.contentRevision ≤ s.contentRevision
  nextSeq : t.nextSeq ≤ s.nextSeq
  kept : ∀ u ∈ t.rows, (∃ r ∈ s.rows, Evolved u r) ∨
    (s.rows.length = dmStoreCapacity ∧ ∀ r ∈ s.rows, u.seq < r.seq)
  origin : ∀ r ∈ s.rows, (∃ u ∈ t.rows, Evolved u r) ∨
    (t.nextSeq ≤ r.seq ∧ ∀ u ∈ t.rows, rowsClash u r = false)

variable {t s : DmStore}

theorem Later.refl (t : DmStore) : Later t t where
  epoch := rfl
  lineage := rfl
  contentRevision := le_refl _
  nextSeq := le_refl _
  kept := fun u hu => .inl ⟨u, hu, .refl u⟩
  origin := fun r hr => .inl ⟨r, hr, .refl r⟩

theorem Later.of_same {s' : DmStore} (h : Later t s) (hs : SameHistory s s') : Later t s' where
  epoch := hs.epoch.trans h.epoch
  lineage := hs.clearLineage.trans h.lineage
  contentRevision := hs.contentRevision ▸ h.contentRevision
  nextSeq := hs.nextSeq ▸ h.nextSeq
  kept := hs.rows ▸ h.kept
  origin := hs.rows ▸ h.origin

theorem Later.insertRow (h : Later t s) (ht : RowsOrdered t) (hs : RowsOrdered s) {entry : DmEntry}
    (hseq : entry.seq = s.nextSeq) (hfresh : ∀ u ∈ t.rows, rowsClash u entry = false) :
    Later t (insertRow s entry) := by
  have hsub := retainedRows_sublist s
  have hnew : ∀ r ∈ s.rows, r.seq < entry.seq := fun r hr => hseq ▸ hs.below r hr
  refine ⟨h.epoch, h.lineage, h.contentRevision.trans (le_saturatingSucc _),
    h.nextSeq.trans (Nat.le_succ _), fun u hu => ?_, fun r hr => ?_⟩
  · rw [rows_insertRow]
    have hbelow : u.seq < entry.seq := hseq ▸ (ht.below u hu).trans_le h.nextSeq
    by_cases hroom : s.entries.count < dmStoreCapacity
    · have hrows : retainedRows s = s.rows := if_pos hroom
      rw [hrows]
      rcases h.kept u hu with ⟨r, hr, hur⟩ | ⟨hfull, -⟩
      · exact .inl ⟨r, List.mem_append_left _ hr, hur⟩
      · rw [s.length_rows] at hfull
        omega
    · -- A full ring gives up its head: the row `u` became, or one above it.
      have hrows : retainedRows s = s.rows.tail := if_neg hroom
      have hcount := s.entries.count_le
      have hlen : s.rows.length = dmStoreCapacity := by
        rw [s.length_rows]
        omega
      have hlen' : (s.rows.tail ++ [entry]).length = dmStoreCapacity := by
        rw [List.length_append, List.length_tail, hlen]
        rfl
      rw [hrows]
      rcases h.kept u hu with ⟨r, hr, hur⟩ | ⟨-, habove⟩
      · cases hsr : s.rows with
        | nil => simp [hsr] at hr
        | cons head tail =>
          rw [hsr] at hr hlen'
          rcases List.mem_cons.mp hr with rfl | hr
          · refine .inr ⟨hlen', fun x hx => ?_⟩
            rw [List.tail_cons] at hx
            rcases List.mem_append.mp hx with hx | hx
            · have hasc := hs.ascending
              rw [hsr] at hasc
              exact hur.seq ▸ (List.pairwise_cons.mp hasc).1 x hx
            · rw [List.mem_singleton.mp hx]
              exact hbelow
          · exact .inl ⟨r, List.mem_append_left _ hr, hur⟩
      · refine .inr ⟨hlen', fun x hx => ?_⟩
        rcases List.mem_append.mp hx with hx | hx
        · exact habove x (List.mem_of_mem_tail hx)
        · rw [List.mem_singleton.mp hx]
          exact hbelow
  · rw [rows_insertRow] at hr
    rcases List.mem_append.mp hr with hr | hr
    · exact h.origin r (hsub.subset hr)
    · rw [List.mem_singleton.mp hr]
      exact .inr ⟨hseq ▸ h.nextSeq, hfresh⟩

theorem Later.updateRow (h : Later t s) (pending : List AckPersistencePending)
    {k : Fin dmStoreCapacity} {row : DmEntry} (hk : s.entries.Used k)
    (hrow : Evolved (s.entries.slots k) row) :
    Later t (updateRow { s with ackPersistencePending := pending } k fun _ => row) := by
  obtain ⟨pre, post, hrows, hrows'⟩ :=
    rows_updateRow { s with ackPersistencePending := pending } (fun _ => row) hk
  replace hrows : s.rows = pre ++ s.entries.slots k :: post := hrows
  -- Every row of the one list has its other version at the same place of the other list.
  have hforward : ∀ r ∈ s.rows, ∃ r' ∈ pre ++ row :: post, Evolved r r' := by
    intro r hr
    rw [hrows, List.mem_append, List.mem_cons] at hr
    rcases hr with hr | rfl | hr
    · exact ⟨r, List.mem_append_left _ hr, .refl r⟩
    · exact ⟨row, List.mem_append_cons_self, hrow⟩
    · exact ⟨r, List.mem_append_right _ (List.mem_cons_of_mem _ hr), .refl r⟩
  have hback : ∀ r' ∈ pre ++ row :: post, ∃ r ∈ s.rows, Evolved r r' := by
    intro r' hr
    rw [hrows]
    rw [List.mem_append, List.mem_cons] at hr
    rcases hr with hr | rfl | hr
    · exact ⟨r', List.mem_append_left _ hr, .refl r'⟩
    · exact ⟨_, List.mem_append_cons_self, hrow⟩
    · exact ⟨r', List.mem_append_right _ (List.mem_cons_of_mem _ hr), .refl r'⟩
  have hlen : (pre ++ row :: post).length = s.rows.length := by
    rw [hrows]
    simp
  refine ⟨h.epoch, h.lineage, h.contentRevision.trans (le_saturatingSucc _), h.nextSeq,
    fun u hu => ?_, fun r' hr => ?_⟩
  · rw [hrows', hlen]
    rcases h.kept u hu with ⟨r, hr, hur⟩ | ⟨hfull, habove⟩
    · obtain ⟨r', hr', hrr⟩ := hforward r hr
      exact .inl ⟨r', hr', hur.trans hrr⟩
    · refine .inr ⟨hfull, fun x hx => ?_⟩
      obtain ⟨r, hr, hrx⟩ := hback x hx
      exact hrx.seq ▸ habove r hr
  · rw [hrows'] at hr
    obtain ⟨r, hr, hrr⟩ := hback r' hr
    rcases h.origin r hr with ⟨u, hu, hur⟩ | ⟨hnext, hclash⟩
    · exact .inl ⟨u, hu, hur.trans hrr⟩
    · exact .inr ⟨hrr.seq ▸ hnext, fun u hu => (hrr.rowsClash u).trans (hclash u hu)⟩

/-- The merged rows after the earlier rows `us`: the ring itself, and behind it earlier rows
that lie below a full ring. -/
structure SnapshotMerged (s : DmStore) (us dropped : List DmEntry) (acc : MergeAcc) : Prop where
  merged : acc.merged = s.rows ++ dropped
  sub : dropped.Sublist us
  full : dropped ≠ [] → s.rows.length = dmStoreCapacity
  below : ∀ d ∈ dropped, ∀ r ∈ s.rows, d.seq < r.seq

theorem Later.other_row (h : Later t s) (ht : Writable t) {u x : DmEntry} (hu : u ∈ t.rows)
    (hx : x ∈ s.rows) (hne : x.seq ≠ u.seq) : rowsClash x u = false := by
  rcases h.origin x hx with ⟨v, hv, hvx⟩ | ⟨-, hclash⟩
  · rw [rowsClash_comm, hvx.rowsClash]
    have hvu : u ≠ v := fun heq => hne (heq ▸ hvx.seq)
    have hsymm := rowsClash_symm
    exact ht.rows.distinct.forall hu hv hvu
  · rw [rowsClash_comm]
    exact hclash u hu

section Turn

variable {us post dropped : List DmEntry} {u r : DmEntry} {acc : MergeAcc}

theorem Later.turn_evolved (h : Later t s) (ht : Writable t) (hs : Writable s) (hu : u ∈ t.rows)
    (hr : r ∈ s.rows) (hur : Evolved u r) (hacc : SnapshotMerged s us dropped acc) :
    mergeCandidate s false acc u = .ok acc := by
  obtain ⟨pre, post, hsplit⟩ := List.append_of_mem hr
  have hmerged : acc.merged = pre ++ r :: (post ++ dropped) := by
    rw [hacc.merged, hsplit, List.append_assoc, List.cons_append]
  have hfirst : ∀ x ∈ pre,
      (deliverySessionIdConflicts x u || entryIdentityEqual x u) = false := by
    intro x hx
    have hasc := hs.rows.ascending
    rw [hsplit] at hasc
    have hlt := (List.pairwise_append.mp hasc).2.2 x hx r List.mem_cons_self
    have hne : x.seq ≠ u.seq := by
      have := hur.seq
      omega
    have hxs : x ∈ s.rows := by
      rw [hsplit]
      exact List.mem_append_left _ hx
    obtain ⟨h1, h2⟩ := unpaired_of_distinct (h.other_row ht hu hxs hne) hne
    rw [h1, h2]
    rfl
  obtain ⟨hconflict, hidentity⟩ := hur.paired
  have hscan : scanIdentity u acc.merged = .matched pre r (post ++ dropped) := by
    unfold scanIdentity
    rw [hmerged, splitFirst_of_first (by rw [hidentity, Bool.or_true]) hfirst]
    dsimp only
    rw [hconflict, if_neg Bool.false_ne_true]
  unfold mergeCandidate
  rw [hscan]
  dsimp only
  rw [hur.mergeMatchedRow, ← hmerged]

theorem Later.turn_dropped (h : Later t s) (ht : Writable t) (hrows : t.rows = us ++ u :: post)
    (hlen : s.rows.length = dmStoreCapacity) (habove : ∀ r ∈ s.rows, u.seq < r.seq)
    (hacc : SnapshotMerged s us dropped acc) :
    mergeCandidate s false acc u = .ok { acc with merged := acc.merged ++ [u] } := by
  have hu : u ∈ t.rows := by
    rw [hrows]
    exact List.mem_append_cons_self
  have hasc := ht.rows.ascending
  have hdis := ht.rows.distinct
  rw [hrows] at hasc hdis
  have habsent : ∀ x ∈ acc.merged, x.seq ≠ u.seq ∧ rowsClash x u = false := by
    intro x hx
    rw [hacc.merged] at hx
    rcases List.mem_append.mp hx with hx | hx
    · have hne : x.seq ≠ u.seq := Nat.ne_of_gt (habove x hx)
      exact ⟨hne, h.other_row ht hu hx hne⟩
    · have hxus := hacc.sub.subset hx
      have hlt := (List.pairwise_append.mp hasc).2.2 x hxus u List.mem_cons_self
      exact ⟨Nat.ne_of_lt hlt, (List.pairwise_append.mp hdis).2.2 x hxus u List.mem_cons_self⟩
  have hscan : scanIdentity u acc.merged = .unmatched := by
    unfold scanIdentity
    rw [splitFirst_eq_none.mpr fun x hx => ?_]
    obtain ⟨hne, hclash⟩ := habsent x hx
    obtain ⟨h1, h2⟩ := unpaired_of_distinct hclash hne
    rw [h1, h2]
    rfl
  have hfree : splitFirst (fun x : DmEntry => x.seq = u.seq) acc.merged = none :=
    splitFirst_eq_none.mpr fun x hx => decide_eq_false (habsent x hx).1
  have hroom : acc.merged.length < dmStoreCapacity * 2 := by
    have h1 := hacc.sub.length_le
    have h2 := t.length_rows_le
    rw [hrows, List.length_append, List.length_cons] at h2
    rw [hacc.merged, List.length_append, hlen]
    omega
  unfold mergeCandidate
  rw [hscan]
  dsimp only
  rw [hfree]
  dsimp only
  rw [appendMerged, if_pos hroom]

theorem Later.turn (h : Later t s) (ht : Writable t) (hs : Writable s)
    (hrows : t.rows = us ++ u :: post) (hacc : SnapshotMerged s us dropped acc) :
    ∃ acc', mergeCandidate s false acc u = .ok acc' ∧
      ∃ dropped', SnapshotMerged s (us ++ [u]) dropped' acc' := by
  have hu : u ∈ t.rows := by
    rw [hrows]
    exact List.mem_append_cons_self
  rcases h.kept u hu with ⟨r, hr, hur⟩ | ⟨hlen, habove⟩
  · refine ⟨acc, h.turn_evolved ht hs hu hr hur hacc, dropped, ?_⟩
    exact { hacc with sub := hacc.sub.trans (List.sublist_append_left _ _) }
  · refine ⟨_, h.turn_dropped ht hrows hlen habove hacc, dropped ++ [u], ?_⟩
    refine ⟨?_, hacc.sub.append (List.Sublist.refl _), fun _ => hlen, fun d hd => ?_⟩
    · rw [hacc.merged, List.append_assoc]
    · rcases List.mem_append.mp hd with hd | hd
      · exact hacc.below d hd
      · rw [List.mem_singleton.mp hd]
        exact habove

end Turn

theorem Later.mergeCandidates (h : Later t s) (ht : Writable t) (hs : Writable s) :
    ∃ acc dropped, Dm.mergeCandidates s (fillBlob t) = .ok acc ∧
      SnapshotMerged s t.rows dropped acc := by
  have hnewer : decide (s.contentRevision < (fillBlob t).contentRevision) = false :=
    decide_eq_false (Nat.not_lt.mpr h.contentRevision)
  have hinit : SnapshotMerged s [] [] ⟨s.rows, max s.nextSeq (fillBlob t).nextSeq,
      additionalLiveCount s (fillBlob t)⟩ :=
    ⟨(List.append_nil _).symm, List.Sublist.refl _, fun hne => absurd rfl hne,
      fun _ hd => absurd hd List.not_mem_nil⟩
  unfold Dm.mergeCandidates
  rw [hnewer, rows_fillBlob]
  obtain ⟨acc, hfold, dropped, hacc⟩ := foldlM_ok_of_progress
    (fun us acc => ∃ dropped, SnapshotMerged s us dropped acc) ⟨[], hinit⟩
    (fun us u post acc hrows ⟨dropped, hacc⟩ => h.turn ht hs hrows hacc)
  exact ⟨acc, dropped, hfold, hacc⟩

theorem Later.mergePrimary (h : Later t s) (ht : Writable t) (hs : Writable s) :
    (mergePrimary s (fillBlob t)).ret = espOk ∧
      (mergePrimary s (fillBlob t)).store.rows = s.rows := by
  obtain ⟨acc, dropped, hmerge, hacc⟩ := h.mergeCandidates ht hs
  have hlineage : (fillBlob t).clearLineage = s.clearLineage := h.lineage.symm
  have hepoch : (fillBlob t).epoch = s.epoch := h.epoch.symm
  have hdominates : incomingClearDominates s (fillBlob t) = false := by
    simp [incomingClearDominates, hlineage]
  have hbranch : Dm.mergePrimary s (fillBlob t) = mergeSameEpoch s (fillBlob t) := by
    unfold Dm.mergePrimary primaryIgnored
    simp [hdominates, hlineage, hepoch]
  -- The rows the blob adds sort below the ring and are cut again.
  have hkept : keptRows acc = s.rows := by
    have hasc : Ascending DmEntry.seq (dropped ++ s.rows) :=
      List.pairwise_append.mpr
        ⟨ht.rows.ascending.sublist hacc.sub, hs.rows.ascending, hacc.below⟩
    unfold keptRows
    rw [hacc.merged, sortByKey_eq_of_perm List.perm_append_comm hasc]
    by_cases hnil : dropped = []
    · rw [hnil, List.nil_append]
      exact keepLast_of_length_le s.length_rows_le
    · rw [← hacc.full hnil]
      exact keepLast_append dropped s.rows
  rw [hbranch]
  unfold mergeSameEpoch
  rw [hmerge]
  exact ⟨rfl, (rows_mergedStore s (fillBlob t) acc).trans hkept⟩

end Later

section Runs

/-- The store of a run, and every version of every row it has held. -/
structure Observed where
  store : DmStore
  seen : List DmEntry

def observe (s : DmStore) : Observed := ⟨s, s.rows⟩

def stepObserved (o : Observed) (op : DmOp) : Observed :=
  ⟨stepStore o.store op, o.seen ++ (stepStore o.store op).rows⟩

/-- The mutations of a boot without a clear: an append reuses neither a digest nor a session
id of a row seen before, and a retry keeps the ACK hash of its row. -/
def OpAbsorbed (o : Observed) : DmOp → Prop
  | .append a nowMs random => AppendReady o.store a →
    (∀ identityDigest, a.identityDigest = some identityDigest →
      ∀ u ∈ o.seen, u.identityDigestValid = true → u.identityDigest ≠ identityDigest) ∧
    ((newEntry o.store a nowMs).outbound = true →
      ∀ u ∈ o.seen, u.deliverySessionId ≠ newDeliverySessionId o.store random)
  | .transition a => ∀ k, findDeliverySession o.store a.deliverySessionId = some k →
    transitionRefused (o.store.entries.slots k) a = false → rebindRefused a = false →
      a.rebindRetryAck = true → a.retryAckHash = (o.store.entries.slots k).ackHash
  | .reserveAck .. | .rebindAck .. | .completeAck .. => True
  | .persistBegin .. | .persistFinish .. | .nvsResult .. => True
  | .reconcileNotFound | .reconcileFailed _ => True
  | .clear _ | .normalize | .merge _ | .reconcile .. => False

/-- What holds along a run after the snapshot of `t` was taken. -/
structure SinceSnapshot (t : DmStore) (o : Observed) : Prop where
  writable : Writable o.store
  seen : o.store.rows ⊆ o.seen
  snapshot : t.rows ⊆ o.seen
  later : Later t o.store

variable {t : DmStore} {o : Observed}

theorem NewRow.outbound_eq {s : DmStore} {a : AppendArgs} {nowMs : Nat}
    {random : Fin 8 → UInt64} {entry : DmEntry} (h : NewRow s a nowMs random entry) :
    (newEntry s a nowMs).outbound = entry.outbound := by
  rw [h.built]
  rfl

theorem NewRow.unseen {a : AppendArgs} {nowMs : Nat} {random : Fin 8 → UInt64} {entry : DmEntry}
    (h : NewRow o.store a nowMs random entry) (hready : AppendReady o.store a)
    (hop : OpAbsorbed o (.append a nowMs random)) : ∀ u ∈ o.seen, rowsClash u entry = false := by
  intro u hu
  obtain ⟨hdigests, hsessions⟩ := hop hready
  obtain ⟨hvalid, hdigest⟩ := DmEntry.digest_of_ackPart h.ackPart
  have hnodigest : validIdentityDigestEqual u entry = false := by
    by_contra hclash
    obtain ⟨h1, h2, h3⟩ := (validIdentityDigestEqual_iff u entry).mp (by simpa using hclash)
    cases hd : a.identityDigest with
    | none =>
      rw [hvalid, baseEntry, hd] at h2
      exact Bool.noConfusion h2
    | some identityDigest =>
      apply hdigests identityDigest hd u hu h1
      rw [h3, hdigest, baseEntry, hd]
      rfl
  simp only [rowsClash, hnodigest, Bool.false_or, Bool.and_eq_false_iff, decide_eq_false_iff_not,
    not_not]
  cases ho : entry.outbound with
  | false => exact .inl (h.inbound ho)
  | true =>
    rw [(h.outbound ho).1]
    exact .inr (hsessions (h.outbound_eq.trans ho) u hu)

theorem OpAbsorbed.writable {op : DmOp} (h : OpAbsorbed o op) (hseen : o.store.rows ⊆ o.seen) :
    OpWritable o.store op := by
  cases op with
  | append a nowMs random =>
    intro hready identityDigest hd e he
    exact (h hready).1 identityDigest hd e (hseen ((retainedRows_sublist o.store).subset he))
  | merge stored => exact h.elim
  | reconcile stored generationMatches => exact h.elim
  | _ => trivial

theorem SinceSnapshot.mutated {op : DmOp} {s' : DmStore} (h : SinceSnapshot t o)
    (ht : Writable t) (hm : Mutated o.store op s') (hop : OpAbsorbed o op)
    (hother : ∀ a, op ≠ .transition a) : Later t s' := by
  cases hm with
  | refused => exact h.later
  | preview a nowMs random check => exact h.later.of_same ⟨rfl, rfl, rfl, rfl, rfl, rfl⟩
  | inserted a nowMs random entry ready row =>
    exact h.later.insertRow ht.ordered h.writable.ordered row.seq fun u hu =>
      row.unseen ready hop u (h.snapshot hu)
  | rewritten op k row pending used update other dispatched =>
    have hhash : row.frozen.ackHash = (o.store.entries.slots k).frozen.ackHash :=
      congrArg DmEntry.ackHash (other hother).1
    exact h.later.updateRow pending used (update.evolved hhash)

theorem SinceSnapshot.transition {a : TransitionArgs} (h : SinceSnapshot t o)
    (hop : OpAbsorbed o (.transition a)) : Later t (transitionDelivery o.store a).1 := by
  rcases transitionDelivery_cases o.store a with
    hsame | ⟨k, hfind, -, -, hrebind, hallowed, -, heq⟩
  · rw [hsame]
    exact h.later
  · obtain ⟨hused, hsession⟩ := findDeliverySession_eq_some hfind
    rw [heq]
    have hupdate : RowUpdate (o.store.entries.slots k)
        (applyDeliveryTransition a (o.store.entries.slots k)) :=
      .transition a hsession hrebind hallowed
    refine h.later.updateRow _ hused (hupdate.evolved ?_)
    simp only [applyDeliveryTransition]
    split_ifs with hretry
    · exact hop k hfind hallowed hrebind hretry
    · rfl

theorem SinceSnapshot.later_step (h : SinceSnapshot t o) (ht : Writable t) {op : DmOp}
    (hop : OpAbsorbed o op) : Later t (stepStore o.store op) := by
  cases op with
  | append a nowMs random =>
    have hm := appendInternal_mutated o.store a nowMs random
    exact h.mutated ht hm hop fun _ heq => DmOp.noConfusion heq
  | reserveAck identityDigest dispatchKind flushNow =>
    have hm := reserveAckDispatch_mutated o.store identityDigest dispatchKind flushNow
    exact h.mutated ht hm hop fun _ heq => DmOp.noConfusion heq
  | rebindAck rowSeq identityDigest dispatchKind =>
    have hm := rebindPendingAckDispatch_mutated o.store rowSeq identityDigest dispatchKind
    exact h.mutated ht hm hop fun _ heq => DmOp.noConfusion heq
  | completeAck rowSeq identityDigest sent error =>
    have hm := completeAckDispatch_mutated o.store rowSeq identityDigest sent error
    exact h.mutated ht hm hop fun _ heq => DmOp.noConfusion heq
  | transition a => exact h.transition hop
  | clear lineage => exact hop.elim
  | normalize => exact hop.elim
  | merge stored => exact hop.elim
  | reconcile stored generationMatches => exact hop.elim
  | reconcileNotFound => exact h.later.of_same (sameHistory_reconcileNotFound o.store)
  | reconcileFailed failure => exact h.later.of_same ⟨rfl, rfl, rfl, rfl, rfl, rfl⟩
  | persistBegin sdPrimaryRequired generation attemptMs force =>
    exact h.later.of_same
      (sameHistory_of_rest (persistBegin_rest o.store sdPrimaryRequired generation attemptMs force))
  | persistFinish snapshot sdPrimaryRequired sdRet nvsRet =>
    exact h.later.of_same
      (sameHistory_of_rest (persistFinish_rest o.store snapshot sdPrimaryRequired sdRet nvsRet))
  | nvsResult nvsRet snapshotRevision sdPrimaryRequired =>
    exact h.later.of_same
      (sameHistory_of_rest (updateNvsResult_rest o.store nvsRet snapshotRevision sdPrimaryRequired))

theorem SinceSnapshot.step (h : SinceSnapshot t o) (ht : Writable t) {op : DmOp}
    (hop : OpAbsorbed o op) : SinceSnapshot t (stepObserved o op) where
  writable := h.writable.step op (hop.writable h.seen)
  seen := List.subset_append_right _ _
  snapshot := fun _ hu => List.mem_append_left _ (h.snapshot hu)
  later := h.later_step ht hop

theorem observed_since {s : DmStore} {ops : List DmOp} (hs : Writable s)
    (hok : RunOk stepObserved OpAbsorbed (observe s) ops) :
    SinceSnapshot s (runSteps stepObserved (observe s) ops) :=
  run_invariant (fun _ _ h hop => h.step hs hop) hok
    ⟨hs, fun _ h => h, fun _ h => h, Later.refl s⟩

theorem run_absorbs_earlier_snapshot (s : DmStore) (earlier later : List DmOp)
    (hs : blobIsValid (fillBlob s) = true)
    (hok : RunOk stepObserved OpAbsorbed (observe s) (earlier ++ later)) :
    (mergePrimary (runSteps stepStore s (earlier ++ later))
        (fillBlob (runSteps stepStore s earlier))).ret = espOk ∧
      (mergePrimary (runSteps stepStore s (earlier ++ later))
        (fillBlob (runSteps stepStore s earlier))).store.rows =
        (runSteps stepStore s (earlier ++ later)).rows := by
  have hstore : ∀ (ops : List DmOp) (o : Observed),
      (runSteps stepObserved o ops).store = runSteps stepStore o.store ops := by
    intro ops
    induction ops with
    | nil => exact fun _ => rfl
    | cons op ops ih => exact fun o => ih (stepObserved o op)
  obtain ⟨hearlier, hlater⟩ := runOk_append.mp hok
  have hstart := observed_since ((blobIsValid_fillBlob_iff s).mp hs) hearlier
  have ht := hstart.writable
  have hend : SinceSnapshot (runSteps stepObserved (observe s) earlier).store
      (runSteps stepObserved (runSteps stepObserved (observe s) earlier) later) :=
    run_invariant (fun _ _ h hop => h.step ht hop) hlater
      ⟨ht, hstart.seen, hstart.seen, Later.refl _⟩
  have habsorbed := hend.later.mergePrimary ht hend.writable
  rw [← runSteps_append, hstore, hstore] at habsorbed
  exact habsorbed

def sentArgs : AppendArgs :=
  appendTx
    { contactFingerprint := some (.lit [97, 49]), contactAlias := none
      text := some (.lit [104, 105]), rssiDbm := 0, snrTenths := 0, pathHashBytes := 1
      pathHops := 0, attempt := 0, ackHash := 77 }

def transitionTo (revision : Nat) (source target : DeliveryState) (reason : DeliveryReason) :
    DmOp :=
  .transition
    { deliverySessionId := 1, expectedState := source, expectedDeliveryRevision := revision
      nextState := target, reason := reason, error := espOk, rebindRetryAck := false
      retryAckHash := 0, flushNow := true }

def untilRetry : List DmOp :=
  [.append sentArgs 10 fun _ => 1, transitionTo 1 .queued .waitingRadio .radioReserved,
    transitionTo 2 .waitingRadio .retryWait .retryScheduled]

def retry (ackHash : Nat) : DmOp := .transition (transitionDeliveryRetry 1 3 ackHash)

theorem run_absorbs_earlier_snapshot_same_hash :
    (mergePrimary (runSteps stepStore loadedStore (untilRetry ++ [retry 77]))
        (fillBlob (runSteps stepStore loadedStore untilRetry))).ret = espOk ∧
      (mergePrimary (runSteps stepStore loadedStore (untilRetry ++ [retry 77]))
        (fillBlob (runSteps stepStore loadedStore untilRetry))).store.rows =
        (runSteps stepStore loadedStore (untilRetry ++ [retry 77])).rows :=
  run_absorbs_earlier_snapshot loadedStore untilRetry [retry 77] (by decide +kernel) (by
    refine ⟨fun _ => ⟨fun _ _ u hu => absurd hu List.not_mem_nil, fun _ u hu => ?_⟩,
      fun _ _ _ _ hretry => Bool.noConfusion hretry,
      fun _ _ _ _ hretry => Bool.noConfusion hretry, ?_, trivial⟩
    · exact absurd hu List.not_mem_nil
    · intro k hfind hallowed hrebind hretry
      revert k
      decide +kernel)

def isMutation : DmOp → Prop
  | .append .. | .reserveAck .. | .rebindAck .. | .completeAck .. | .transition _ => True
  | _ => False

/-- The retry that gives the row a new ACK hash: the snapshot taken before it is refused. -/
theorem earlier_snapshot_conflicts_after_retry :
    ¬ ∀ (s : DmStore) (earlier later : List DmOp), blobIsValid (fillBlob s) = true →
      (∀ op ∈ earlier ++ later, isMutation op) →
      (mergePrimary (runSteps stepStore s (earlier ++ later))
          (fillBlob (runSteps stepStore s earlier))).ret = espOk ∧
        (mergePrimary (runSteps stepStore s (earlier ++ later))
          (fillBlob (runSteps stepStore s earlier))).store.rows =
          (runSteps stepStore s (earlier ++ later)).rows := by
  intro h
  have hok := (h loadedStore untilRetry [retry 88] (by decide +kernel)
    (by simp [untilRetry, retry, transitionTo, isMutation])).1
  have hrefused : (mergePrimary (runSteps stepStore loadedStore (untilRetry ++ [retry 88]))
      (fillBlob (runSteps stepStore loadedStore untilRetry))).ret = espErrInvalidState := by
    decide +kernel
  rw [hrefused] at hok
  exact absurd hok (by decide)

end Runs

end Sigui.Dm

import Sigui.RouteWritable

/-! The live rows placed over an adopted card. Each takes the place of the card's row of its
identity, a fresh place, or the place of the oldest row, under a new sequence number. -/
namespace Sigui.Route

theorem equalsLiteral_bytes {n : Nat} (a b : CharArray n) :
    a.equalsLiteral b.bytes = decide (a = b) := by
  rw [CharArray.equalsLiteral, List.take_of_length_le b.length_le]
  by_cases h : a = b
  · rw [h, beq_self_eq_true, decide_eq_true rfl]
  · have hne : a.bytes ≠ b.bytes := fun hb => h (CharArray.ext_bytes hb)
    rw [decide_eq_false h, beq_eq_false_iff_ne]
    exact hne

theorem textsMatch_stored (e o : RouteEntry) :
    textsMatch o.target.bytes o.kind.bytes o.direction.bytes e =
      decide (e.identity = o.identity) := by
  simp only [textsMatch, equalsLiteral_bytes, RouteEntry.identity, RouteIdentity.mk.injEq,
    Bool.decide_and, Bool.and_assoc]

theorem findIndex_stored (entries : List RouteEntry) {o : RouteEntry}
    (htarget : persistedTextIsValid o.target true = true) :
    findIndex entries o.target.bytes o.kind.bytes o.direction.bytes =
      splitFirst (fun e => decide (e.identity = o.identity)) entries := by
  have hne : ¬o.target.bytes.isEmpty = true := by
    simp only [persistedTextIsValid, Bool.and_eq_true, Bool.true_and, Bool.not_eq_true'] at htarget
    simp [htarget.1.2]
  rw [findIndex, if_neg hne]
  congr 1
  funext e
  exact textsMatch_stored e o

structure Placed (t : RouteStore) (o : RouteEntry) (pre post : List RouteEntry) : Prop where
  entries : (overlayRow t o).entries = pre ++ { o with seq := t.nextSeq } :: post
  rest : (pre ++ post).Sublist t.entries
  alone : ∀ r ∈ pre ++ post, r.identity ≠ o.identity
  outcome : ((∃ e ∈ t.entries, e.identity = o.identity) ∧
      (pre ++ post).length + 1 = t.entries.length ∧
      ∀ r ∈ t.entries, r ∈ pre ++ post ∨ r.identity = o.identity) ∨
    ((∀ e ∈ t.entries, e.identity ≠ o.identity) ∧ t.entries.length < routeStoreCapacity ∧
      pre ++ post = t.entries) ∨
    ((∀ e ∈ t.entries, e.identity ≠ o.identity) ∧ routeStoreCapacity ≤ t.entries.length ∧
      (pre ++ post).length + 1 = t.entries.length)

theorem overlayRow_nextSeq (t : RouteStore) (o : RouteEntry) :
    (overlayRow t o).nextSeq = u32Succ t.nextSeq := by
  unfold overlayRow
  dsimp only
  split
  · rfl
  · split_ifs
    · rfl
    · split <;> rfl

theorem overlayRow_epoch (t : RouteStore) (o : RouteEntry) :
    (overlayRow t o).epoch = t.epoch := by
  unfold overlayRow
  dsimp only
  split
  · rfl
  · split_ifs
    · rfl
    · split <;> rfl

theorem overlayRow_totalWritten (t : RouteStore) (o : RouteEntry) :
    (overlayRow t o).totalWritten = t.totalWritten := by
  unfold overlayRow
  dsimp only
  split
  · rfl
  · split_ifs
    · rfl
    · split <;> rfl

theorem overlayRow_placed (t : RouteStore) {o : RouteEntry}
    (htarget : persistedTextIsValid o.target true = true)
    (hone : (t.entries.map RouteEntry.identity).Nodup) :
    ∃ pre post, Placed t o pre post := by
  have hlookup := findIndex_stored t.entries htarget
  cases hfind : splitFirst (fun e => decide (e.identity = o.identity)) t.entries with
  | some split =>
    obtain ⟨pre, e, post⟩ := split
    obtain ⟨hrows, he, -⟩ := splitFirst_eq_some hfind
    have hid : e.identity = o.identity := of_decide_eq_true he
    have hmem : e ∈ t.entries := hrows ▸ List.mem_append_cons_self
    have hperm : (t.entries.map RouteEntry.identity).Perm
        (e.identity :: (pre ++ post).map RouteEntry.identity) := by
      rw [hrows]
      exact List.perm_middle.map _
    rw [hperm.nodup_iff, List.nodup_cons] at hone
    refine ⟨pre, post, ?_, ?_, ?_, .inl ⟨⟨e, hmem, hid⟩, ?_, ?_⟩⟩
    · unfold overlayRow
      simp only [hlookup, hfind]
    · rw [hrows]
      exact (List.Sublist.refl pre).append (List.sublist_cons_self e post)
    · intro r hr hrid
      exact hone.1 (hid ▸ hrid ▸ List.mem_map_of_mem hr)
    · rw [hrows]
      simp only [List.length_append, List.length_cons]
      omega
    · intro r hr
      rw [hrows, List.mem_append, List.mem_cons] at hr
      rcases hr with hr | rfl | hr
      · exact .inl (List.mem_append_left _ hr)
      · exact .inr hid
      · exact .inl (List.mem_append_right _ hr)
  | none =>
    have hnew : ∀ e ∈ t.entries, e.identity ≠ o.identity := fun e he =>
      of_decide_eq_false (splitFirst_eq_none.mp hfind e he)
    by_cases hroom : t.entries.length < routeStoreCapacity
    · refine ⟨t.entries, [], ?_, ?_, ?_, .inr (.inl ⟨hnew, hroom, List.append_nil _⟩)⟩
      · unfold overlayRow
        simp only [hlookup, hfind, if_pos hroom]
      · rw [List.append_nil]
      · rwa [List.append_nil]
    · have hfull : routeStoreCapacity ≤ t.entries.length := Nat.le_of_not_lt hroom
      cases hold : firstOldest RouteEntry.seq t.entries with
      | none =>
        rw [firstBest_eq_none.mp hold] at hfull
        exact absurd hfull (by decide)
      | some split =>
        obtain ⟨pre, e, post⟩ := split
        have hrows := firstBest_split hold
        have hsub : (pre ++ post).Sublist t.entries := by
          rw [hrows]
          exact (List.Sublist.refl pre).append (List.sublist_cons_self e post)
        refine ⟨pre, post, ?_, hsub, ?_, .inr (.inr ⟨hnew, hfull, ?_⟩)⟩
        · unfold overlayRow
          simp only [hlookup, hfind, if_neg hroom, hold]
        · exact fun r hr => hnew r (hsub.subset hr)
        · rw [hrows]
          simp only [List.length_append, List.length_cons]
          omega

section Overlaid

variable (primary : RouteBlob)

def freshRows (live : List RouteEntry) : List RouteEntry :=
  live.filter fun e => decide (e.identity ∉ primary.entries.map RouteEntry.identity)

/-- The store once the rows in `done` are placed. While there is room nothing was given up. -/
structure Overlaid (done : List RouteEntry) (t : RouteStore) : Prop where
  nextSeq : t.nextSeq = primary.nextSeq + done.length
  epoch : t.epoch = primary.epoch
  totalWritten : t.totalWritten = primary.totalWritten
  sound : RowsSound t.nextSeq t.entries.length t.entries
  oneEach : (t.entries.map RouteEntry.identity).Nodup
  length : t.entries.length =
    min routeStoreCapacity (primary.entries.length + (freshRows primary done).length)
  origin : ∀ e ∈ t.entries, ∃ r ∈ primary.entries ++ done, r.identity = e.identity
  kept : t.entries.length < routeStoreCapacity →
    ∀ r ∈ primary.entries ++ done, ∃ e ∈ t.entries, e.identity = r.identity

variable {primary}

theorem Overlaid.start {s : RouteStore} (hvalid : blobIsValid primary = true)
    (hone : (primary.entries.map RouteEntry.identity).Nodup) :
    Overlaid primary [] (loadValidBlobIntoRam s primary) := by
  obtain ⟨hlen, -, -, hsound⟩ := blobIsValid_sound hvalid
  refine ⟨rfl, rfl, rfl, ⟨hsound.rows, hsound.below, hsound.distinct, Nat.le_refl _⟩, hone,
    (Nat.min_eq_right hlen).symm, ?_, ?_⟩
  · intro e he
    exact ⟨e, List.mem_append_left _ he, rfl⟩
  · intro _ r hr
    rw [List.append_nil] at hr
    exact ⟨r, hr, rfl⟩

theorem freshRows_snoc (done : List RouteEntry) (o : RouteEntry) :
    (freshRows primary (done ++ [o])).length = (freshRows primary done).length +
      if o.identity ∈ primary.entries.map RouteEntry.identity then 0 else 1 := by
  rw [freshRows, List.filter_append, List.length_append]
  by_cases h : o.identity ∈ primary.entries.map RouteEntry.identity
  · rw [if_pos h, List.filter_cons_of_neg (by simpa using h), List.filter_nil]
    rfl
  · rw [if_neg h, List.filter_cons_of_pos (by simpa using h), List.filter_nil]
    rfl

theorem Overlaid.step {done : List RouteEntry} {t : RouteStore} (h : Overlaid primary done t)
    {o : RouteEntry} (ho : RouteRowSound o) (hnew : ∀ r ∈ done, r.identity ≠ o.identity)
    (hseq : 0 < t.nextSeq) (hroom : t.nextSeq < uint32Max) :
    Overlaid primary (done ++ [o]) (overlayRow t o) := by
  obtain ⟨pre, post, hplaced⟩ := overlayRow_placed t ho.target h.oneEach
  have hnext : (overlayRow t o).nextSeq = t.nextSeq + 1 := by
    rw [overlayRow_nextSeq, u32Succ_of_lt hroom]
  have hrow : RouteRowSound { o with seq := t.nextSeq } :=
    ⟨hseq, ho.target, ho.label, ho.kind, ho.route, ho.direction, ho.seen, ho.confidence, ho.path,
      ho.payload⟩
  have hperm : (overlayRow t o).entries.Perm ({ o with seq := t.nextSeq } :: (pre ++ post)) := by
    rw [hplaced.entries]
    exact List.perm_middle
  have hlen : (overlayRow t o).entries.length = (pre ++ post).length + 1 := hperm.length_eq
  have hmem : ∀ e ∈ (overlayRow t o).entries, e.identity = o.identity ∨ e ∈ pre ++ post := by
    intro e he
    rcases List.mem_cons.mp (hperm.subset he) with rfl | he
    · exact .inl rfl
    · exact .inr he
  have hself : ∃ e ∈ (overlayRow t o).entries, e.identity = o.identity :=
    ⟨{ o with seq := t.nextSeq }, hperm.symm.subset List.mem_cons_self, rfl⟩
  have hrest : ∀ e ∈ pre ++ post, e ∈ (overlayRow t o).entries := fun e he =>
    hperm.symm.subset (List.mem_cons_of_mem _ he)
  refine ⟨?_, ?_, ?_, ?_, ?_, ?_, ?_, ?_⟩
  · rw [hnext, h.nextSeq, List.length_append, List.length_singleton, Nat.add_assoc]
  · rw [overlayRow_epoch, h.epoch]
  · rw [overlayRow_totalWritten, h.totalWritten]
  · rw [hnext, hplaced.entries]
    refine h.sound.place hplaced.rest hrow rfl ?_
    rw [← hplaced.entries, hlen]
  · rw [(hperm.map _).nodup_iff, List.map_cons, List.nodup_cons]
    refine ⟨?_, h.oneEach.sublist (hplaced.rest.map _)⟩
    intro hin
    obtain ⟨r, hr, hid⟩ := List.mem_map.mp hin
    exact hplaced.alone r hr hid
  · -- only a fresh identity takes more room
    have hcount := h.length
    rw [hlen, freshRows_snoc]
    rcases hplaced.outcome with ⟨⟨e, he, hid⟩, hsame, -⟩ | ⟨habsent, hspace, hall⟩ |
      ⟨-, hfull, hsame⟩
    · by_cases hspace : t.entries.length < routeStoreCapacity
      · have hcard : o.identity ∈ primary.entries.map RouteEntry.identity := by
          obtain ⟨r, hr, hrid⟩ := h.origin e he
          rcases List.mem_append.mp hr with hr | hr
          · exact (hrid.trans hid) ▸ List.mem_map_of_mem hr
          · exact absurd (hrid.trans hid) (hnew r hr)
        rw [if_pos hcard]
        omega
      · split_ifs <;> omega
    · have hcard : o.identity ∉ primary.entries.map RouteEntry.identity := by
        intro hin
        obtain ⟨r, hr, hrid⟩ := List.mem_map.mp hin
        obtain ⟨e, he, hid⟩ := h.kept hspace r (List.mem_append_left _ hr)
        exact habsent e he (hid.trans hrid)
      rw [if_neg hcard, hall]
      omega
    · split_ifs <;> omega
  · intro e he
    rcases hmem e he with hid | he
    · exact ⟨o, List.mem_append_right _ (List.mem_append_right _ (List.mem_singleton_self o)),
        hid.symm⟩
    · obtain ⟨r, hr, hid⟩ := h.origin e (hplaced.rest.subset he)
      rw [← List.append_assoc]
      exact ⟨r, List.mem_append_left _ hr, hid⟩
  · intro hspace r hr
    rw [← List.append_assoc, List.mem_append, List.mem_singleton] at hr
    rcases hr with hr | rfl
    · rcases hplaced.outcome with ⟨-, hsame, hall⟩ | ⟨-, hspace, hall⟩ | ⟨-, hfull, hsame⟩
      · obtain ⟨e, he, hid⟩ := h.kept (by omega) r hr
        rcases hall e he with he | heo
        · exact ⟨e, hrest e he, hid⟩
        · obtain ⟨e', he', hid'⟩ := hself
          exact ⟨e', he', hid'.trans (heo.symm.trans hid)⟩
      · obtain ⟨e, he, hid⟩ := h.kept hspace r hr
        exact ⟨e, hrest e (hall ▸ he), hid⟩
      · omega
    · exact hself

theorem Overlaid.fold {s : RouteStore} (hvalid : blobIsValid primary = true)
    (hone : (primary.entries.map RouteEntry.identity).Nodup) {live : List RouteEntry}
    (hsound : ∀ o ∈ live, RouteRowSound o) (hdistinct : (live.map RouteEntry.identity).Nodup)
    (hroom : primary.nextSeq + live.length ≤ uint32Max) :
    Overlaid primary live (live.foldl overlayRow (loadValidBlobIntoRam s primary)) := by
  obtain ⟨-, -, hpos, -⟩ := blobIsValid_sound hvalid
  suffices hrec : ∀ done rest t, live = done ++ rest → Overlaid primary done t →
      Overlaid primary live (rest.foldl overlayRow t) from
    hrec [] live _ rfl (.start hvalid hone)
  intro done rest
  induction rest generalizing done with
  | nil =>
    intro t hlive ht
    rw [hlive, List.append_nil]
    exact ht
  | cons o rest ih =>
    intro t hlive ht
    have ho : o ∈ live := hlive ▸ List.mem_append_cons_self
    have hlt : done.length < live.length := by
      rw [hlive, List.length_append, List.length_cons]
      omega
    have hnext := ht.nextSeq
    rw [List.foldl_cons]
    refine ih (done ++ [o]) _ ?_ (ht.step (hsound o ho) ?_ (by omega) (by omega))
    · rw [hlive, List.append_assoc, List.singleton_append]
    · intro r hr hid
      rw [hlive, List.map_append, List.nodup_append] at hdistinct
      exact hdistinct.2.2 _ (List.mem_map_of_mem hr) _ (List.mem_map_of_mem List.mem_cons_self) hid

end Overlaid

/-- A card that is adopted under live rows: one row for each of its identities, room for the
sequence numbers, and enough observations counted for the rows that result. -/
structure AdoptOk (s : RouteStore) (primary : RouteBlob) : Prop where
  oneEach : (primary.entries.map RouteEntry.identity).Nodup
  sequence : primary.nextSeq + (liveOverlay s).length ≤ uint32Max
  counted : min routeStoreCapacity
      (primary.entries.length + (freshRows primary (liveOverlay s)).length) ≤
    u32Add primary.totalWritten s.mutationsSinceInit

theorem liveOverlay_subperm (s : RouteStore) : (liveOverlay s).Subperm s.entries :=
  (sortByKey_perm _ _).subperm.trans
    ((List.take_sublist _ _).trans List.filter_sublist).subperm

theorem RouteInv.adopt {s : RouteStore} (h : RouteInv s) {primary : RouteBlob}
    (hvalid : blobIsValid primary = true) (hok : AdoptOk s primary) :
    RouteInv (adoptPrimaryWithLiveOverlay s primary) := by
  obtain ⟨-, hepoch, hnext, -⟩ := blobIsValid_sound hvalid
  have hsub := liveOverlay_subperm s
  have hdistinct : ((liveOverlay s).map RouteEntry.identity).Nodup := by
    obtain ⟨l, hperm, hl⟩ := hsub
    exact (hperm.map _).nodup_iff.mp (h.oneEach.sublist (hl.map _))
  have hfold := Overlaid.fold (s := s) hvalid hok.oneEach
    (fun o ho => h.writable.sound.rows o (hsub.subset ho)) hdistinct hok.sequence
  have hlength := hfold.length
  have hcounted := hok.counted
  refine ⟨⟨?_, ?_, ?_, ?_⟩, hfold.oneEach⟩
  · exact hfold.epoch.symm ▸ hepoch
  · exact hfold.nextSeq.symm ▸ Nat.add_pos_left hnext _
  · exact hlength.le.trans (Nat.min_le_left _ _)
  · refine ⟨hfold.sound.rows, hfold.sound.below, hfold.sound.distinct, ?_⟩
    change _ ≤ u32Add (List.foldl overlayRow _ _).totalWritten s.mutationsSinceInit
    rw [hfold.totalWritten]
    exact hlength.le.trans hcounted

end Sigui.Route

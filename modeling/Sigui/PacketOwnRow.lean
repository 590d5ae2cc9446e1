import Sigui.PacketRuns

/-! The number an append reports. The append ends in a pass that may merge the log with a card, and
the number is read back after it: it is the last number, and the last row is the appended one unless
the card already held that very row in the place it was given. -/
namespace Sigui.Packet

section Last

variable {α : Type} {key : α → Nat}

theorem getLast?_of_top {l : List α} {x : α} (hl : l.Pairwise fun a b => key a ≤ key b)
    (hx : x ∈ l) (htop : ∀ r ∈ l, r = x ∨ key r < key x) : l.getLast? = some x := by
  obtain ⟨pre, post, rfl⟩ := List.append_of_mem hx
  obtain ⟨-, hpost, -⟩ := List.pairwise_append.mp hl
  have hsame : ∀ r ∈ post, r = x := by
    intro r hr
    have hle := (List.pairwise_cons.mp hpost).1 r hr
    rcases htop r (List.mem_append_right _ (List.mem_cons_of_mem x hr)) with h | h
    · exact h
    · omega
  rw [List.getLast?_append]
  cases hlast : (x :: post).getLast? with
  | none => simp at hlast
  | some y =>
    have hy : y ∈ x :: post := List.mem_of_getLast? hlast
    rcases List.mem_cons.mp hy with rfl | hy
    · rfl
    · rw [hsame y hy]
      rfl

theorem getLast?_keepLast {n : Nat} (hn : 0 < n) (l : List α) :
    (keepLast n l).getLast? = l.getLast? := by
  cases hlast : l.getLast? with
  | none =>
    rw [List.getLast?_eq_none_iff] at hlast
    rw [hlast, keepLast_of_length_le (Nat.zero_le n)]
    rfl
  | some y =>
    obtain ⟨pre, rfl⟩ := List.getLast?_eq_some_iff.mp hlast
    have hone : [y].length ≤ n := hn
    rw [keepLast_append_of_length_le pre hone]
    simp

theorem resequence_last (first : Nat) (rows : List Entry) :
    (resequence first rows).getLast?.map Entry.packet = rows.getLast?.map Entry.packet := by
  rw [← List.getLast?_map, ← List.getLast?_map, resequence_packet]

theorem overlayRows_last {boot next used : Nat} {pre : List Entry} {x : Entry}
    {overlay : List Entry} (hx : boot ≤ x.seq)
    (h : overlayRows boot next used (pre ++ [x]) = .ok overlay) :
    overlay.getLast?.map Entry.packet = some x.packet := by
  induction pre generalizing next used overlay with
  | nil =>
    rw [List.nil_append, overlayRows, if_neg (by omega)] at h
    split at h
    · cases h
    obtain rfl := Except.ok.inj h
    rfl
  | cons e pre ih =>
    rw [List.cons_append, overlayRows] at h
    split at h
    · exact ih h
    split at h
    · cases h
    cases hrest : overlayRows boot (next + 1) (used + 1) (pre ++ [x]) with
    | error error => rw [hrest] at h; cases h
    | ok rest =>
      rw [hrest] at h
      obtain rfl := Except.ok.inj h
      have hlast := ih hrest
      cases rest with
      | nil => cases hlast
      | cons r rest =>
        rw [List.getLast?_cons_cons]
        exact hlast

end Last

section Agreement

variable {live sd : Blob} {total : Nat}

theorem mergeAgreeing_same_end {next : Nat} {xs ys : List Entry}
    (hxs : Numbered Entry.seq next xs) (hys : Numbered Entry.seq next ys)
    (hagree : ∀ x ∈ xs, ∀ y ∈ ys, x.seq = y.seq → x = y) {zs : List Entry}
    (h : mergeAgreeing Entry.seq mergeCapacity xs ys = .ok zs) : zs = xs ∨ zs = ys := by
  have hmerged := mergeAgreeing_spec mergeCapacity hxs.ascending hys.ascending h
  -- what the shorter log holds, the longer one holds under the same number
  have hsub : ∀ {us vs : List Entry}, Numbered Entry.seq next us → Numbered Entry.seq next vs →
      (∀ u ∈ us, ∀ v ∈ vs, u.seq = v.seq → u = v) → us.length ≤ vs.length →
      ∀ u ∈ us, u ∈ vs := by
    intro us vs hus hvs hagree hlen u hu
    have hbound := hus.key_lt hu
    obtain ⟨v, hv, hkey⟩ := hvs.exists_key (k := u.seq) (by omega) hbound.2
    rw [hagree u hu v hv hkey.symm]
    exact hv
  by_cases hlen : ys.length ≤ xs.length
  · left
    have hin := hsub hys hxs (fun y hy x hx hkey => (hagree x hx y hy hkey.symm).symm) hlen
    refine hmerged.ascending.eq_of_mem_iff hxs.ascending fun r => ?_
    rw [hmerged.mem]
    exact ⟨fun hr => hr.elim id (hin r), .inl⟩
  · right
    have hin := hsub hxs hys hagree (by omega)
    refine hmerged.ascending.eq_of_mem_iff hys.ascending fun r => ?_
    rw [hmerged.mem]
    exact ⟨fun hr => hr.elim (hin r) id, .inr⟩

theorem mergeAgreeing_conflict {room : Nat} {xs ys : List Entry}
    (h : mergeAgreeing Entry.seq room xs ys = .error .conflict) :
    ∃ x ∈ xs, ∃ y ∈ ys, x.seq = y.seq ∧ x ≠ y := by
  induction room generalizing xs ys with
  | zero =>
    cases xs with
    | nil => cases ys <;> cases h
    | cons x xs =>
      cases ys with
      | nil => cases h
      | cons y ys =>
        rw [mergeAgreeing] at h
        split at h
        · rename_i hdiffer
          exact ⟨x, List.mem_cons_self, y, List.mem_cons_self, hdiffer⟩
        · cases h
  | succ room ih =>
    have hmap : ∀ {r : Except MergeFault (List Entry)} {f : List Entry → List Entry},
        r.map f = .error .conflict → r = .error .conflict := fun h => map_error h
    cases xs with
    | nil =>
      cases ys with
      | nil => cases h
      | cons y ys =>
        obtain ⟨x, hx, -⟩ := ih (hmap h)
        cases hx
    | cons x xs =>
      cases ys with
      | nil =>
        obtain ⟨-, -, y, hy, -⟩ := ih (hmap h)
        cases hy
      | cons y ys =>
        rw [mergeAgreeing] at h
        split at h
        · obtain ⟨a, ha, b, hb, hab⟩ := ih (hmap h)
          exact ⟨a, List.mem_cons_of_mem x ha, b, hb, hab⟩
        split at h
        · obtain ⟨a, ha, b, hb, hab⟩ := ih (hmap h)
          exact ⟨a, ha, b, List.mem_cons_of_mem y hb, hab⟩
        split at h
        · obtain ⟨a, ha, b, hb, hab⟩ := ih (hmap h)
          exact ⟨a, List.mem_cons_of_mem x ha, b, List.mem_cons_of_mem y hb, hab⟩
        · exact ⟨x, List.mem_cons_self, y, List.mem_cons_self, by omega, ‹_›⟩

end Agreement

structure SameShown (row x : Entry) : Prop where
  direction : row.direction = x.direction
  kind : row.kind = x.kind
  note : row.note = x.note
  rawHex : row.rawHex = x.rawHex
  uptimeMs : row.uptimeMs = x.uptimeMs

theorem sameShown_of_packet {row y x : Entry} (h : row.packet = y.packet) :
    SameShown row x ↔ SameShown y x := by
  have hdirection : row.packet.direction = y.packet.direction := congrArg Entry.direction h
  have hkind : row.packet.kind = y.packet.kind := congrArg Entry.kind h
  have hnote : row.packet.note = y.packet.note := congrArg Entry.note h
  have hhex : row.packet.rawHex = y.packet.rawHex := congrArg Entry.rawHex h
  have huptime : row.packet.uptimeMs = y.packet.uptimeMs := congrArg Entry.uptimeMs h
  constructor
  · rintro ⟨h₁, h₂, h₃, h₄, h₅⟩
    exact ⟨hdirection.symm.trans h₁, hkind.symm.trans h₂, hnote.symm.trans h₃,
      hhex.symm.trans h₄, huptime.symm.trans h₅⟩
  · rintro ⟨h₁, h₂, h₃, h₄, h₅⟩
    exact ⟨hdirection.trans h₁, hkind.trans h₂, hnote.trans h₃, hhex.trans h₄,
      huptime.trans h₅⟩

def newestMissing (rows : List Entry) (sd : Blob) : Option Entry :=
  (rows.filter fun r => decide (r ∉ sd.rows)).getLast?

/-- The card counts as many packets as the log, holds the new row `x` itself and another row under
some number of the log, so that rows the card does not hold are placed behind `x`. -/
structure Hidden (rows : List Entry) (totalWritten : Nat) (x : Entry) (sd : Blob) : Prop where
  tied : sd.totalWritten = totalWritten
  held : x ∈ sd.rows
  conflict : ∃ r ∈ rows, ∃ q ∈ sd.rows, r.seq = q.seq ∧ r ≠ q

theorem Hidden.exists_missing {rows : List Entry} {total : Nat} {x : Entry} {sd : Blob}
    (h : Hidden rows total x sd) (hsd : Ascending Entry.seq sd.rows) :
    ∃ y, newestMissing rows sd = some y := by
  obtain ⟨r, hr, q, hq, hseq, hne⟩ := h.conflict
  have hmissing : r ∉ sd.rows := fun hin => hne (hsd.eq_of_key hin hq hseq)
  have hin : r ∈ rows.filter fun r => decide (r ∉ sd.rows) :=
    List.mem_filter.mpr ⟨hr, decide_eq_true hmissing⟩
  unfold newestMissing
  cases hlast : (rows.filter fun r => decide (r ∉ sd.rows)).getLast? with
  | some y => exact ⟨y, rfl⟩
  | none =>
    rw [List.getLast?_eq_none_iff] at hlast
    rw [hlast] at hin
    cases hin

section MergeLast

variable {s : PacketLog} {sd : Blob} {m : MergedLog} {x : Entry}

/-- The log right after an append: the new row is its last, and counts as live. -/
structure JustAppended (s : PacketLog) (x : Entry) : Prop where
  counted : Counted s
  last : s.rows.getLast? = some x
  seq : x.seq + 1 = s.nextSeq
  live : s.bootNextSeq ≤ x.seq
  mutated : s.mutatedSinceInit = true

theorem JustAppended.mem (h : JustAppended s x) : x ∈ s.rows := List.mem_of_getLast? h.last

theorem JustAppended.top (h : JustAppended s x) {r : Entry} (hr : r ∈ s.rows) :
    r = x ∨ r.seq < x.seq := by
  have hasc := h.counted.numbered.ascending
  have hbound := h.counted.numbered.key_lt hr
  have hseq := h.seq
  by_cases heq : r.seq = x.seq
  · exact .inl (hasc.eq_of_key hr h.mem heq)
  · exact .inr (by omega)

theorem mergeSameLineage_last (h : JustAppended s x) (hsd : primaryBlobIsValid sd = true)
    (hnewer : sdNewer (fillPrimaryBlob s) sd = false) {b : Blob}
    (hmerge : mergeSameLineage (fillPrimaryBlob s) sd = .ok b) :
    b.rows.getLast? = some x ∧ ¬Hidden s.rows s.totalWritten x sd := by
  obtain ⟨merged, hagree, -, -, hrows⟩ := mergeSameLineage_ok hmerge
  obtain ⟨hok, -⟩ := primaryBlobIsValid_ok hsd
  have hnumbered := h.counted.numbered
  have hle : sd.nextSeq ≤ s.nextSeq := not_sdNewer_next hnewer h.counted.next hok.next
  rw [fillPrimaryBlob_rows] at hagree
  have hmerged := mergeAgreeing_spec mergeCapacity hnumbered.ascending hok.numbered.ascending hagree
  have hx : x ∈ merged := (hmerged.mem x).mpr (.inl h.mem)
  refine ⟨?_, ?_⟩
  · rw [hrows, getLast?_keepLast (by decide)]
    refine getLast?_of_top (hmerged.ascending.imp Nat.le_of_lt) hx ?_
    intro r hr
    rcases (hmerged.mem r).mp hr with hlive | hcard
    · exact h.top hlive
    · have hbound := hok.numbered.key_lt hcard
      have hseq := h.seq
      by_cases heq : r.seq = x.seq
      · exact .inl (hmerged.ascending.eq_of_key hr hx heq)
      · exact .inr (by omega)
  · intro hidden
    obtain ⟨r, hr, q, hq, hseq, hne⟩ := hidden.conflict
    exact hne (hmerged.ascending.eq_of_key ((hmerged.mem r).mpr (.inl hr))
      ((hmerged.mem q).mpr (.inr hq)) hseq)

theorem adopt_last (h : JustAppended s x) {b : Blob} {count : Nat}
    (hadopt : adoptSdWithLiveOverlay (fillPrimaryBlob s) sd s.bootNextSeq s.mutationsSinceInit =
      .ok (b, count)) : b.rows.getLast?.map Entry.packet = some x.packet := by
  obtain ⟨overlay, hoverlay, -, -, -, -, hrows⟩ := adoptSdWithLiveOverlay_ok hadopt
  obtain ⟨pre, hpre⟩ := List.getLast?_eq_some_iff.mp h.last
  rw [fillPrimaryBlob_rows, hpre] at hoverlay
  have hlast := overlayRows_last h.live hoverlay
  rw [hrows, getLast?_keepLast (by decide), List.getLast?_append]
  cases hover : overlay.getLast? with
  | none => rw [hover] at hlast; cases hlast
  | some r =>
    rw [hover] at hlast
    exact hlast

theorem divergent_ahead_last (h : JustAppended s x) (hsd : primaryBlobIsValid sd = true)
    (hahead : sd.totalWritten < s.totalWritten) {merged : List Entry}
    (hunique : uniqueRows mergeCapacity (divergentRows (fillPrimaryBlob s) sd) = .ok merged) :
    merged.getLast? = some x := by
  obtain ⟨hok, hlen⟩ := primaryBlobIsValid_ok hsd
  have hnumbered := h.counted.numbered
  have hrows : divergentRows (fillPrimaryBlob s) sd =
      interleave Entry.seq (s.rows.length + sd.rows.length) s.rows sd.rows := by
    rw [divergentRows, fillPrimaryBlob_rows]
    exact if_pos hahead
  have hperm : (interleave Entry.seq (s.rows.length + sd.rows.length) s.rows sd.rows).Perm
      (s.rows ++ sd.rows) := interleave_perm _ (Nat.le_refl _)
  have hordered := interleave_ordered (s.rows.length + sd.rows.length)
    (Nat.le_refl (s.rows.length + sd.rows.length)) hnumbered.ascending hok.numbered.ascending
  have hroom : (divergentRows (fillPrimaryBlob s) sd).length ≤ mergeCapacity := by
    have hlive := s.rows_le
    have hcapacity : mergeCapacity = ramCapacity * 2 := rfl
    rw [hrows, hperm.length_eq, List.length_append]
    omega
  obtain ⟨zs, hzs, hspec⟩ := uniqueRows_spec hroom
  obtain rfl := Except.ok.inj (hzs.symm.trans hunique)
  rw [hrows] at hspec
  refine getLast?_of_top (List.Pairwise.sublist hspec.sublist hordered) ?_ ?_
  · exact (hspec.mem x).mpr (hperm.mem_iff.mpr (List.mem_append_left _ h.mem))
  · intro r hr
    rcases List.mem_append.mp (hperm.mem_iff.mp ((hspec.mem r).mp hr)) with hlive | hcard
    · exact h.top hlive
    · have hbound := hok.numbered.key_lt hcard
      have hnext := hok.next
      have hlog := h.counted.next
      have hseq := h.seq
      exact .inr (by omega)

theorem divergent_tied_rows (hs : Counted s) (hsd : primaryBlobIsValid sd = true)
    (htied : sd.totalWritten = s.totalWritten) {merged : List Entry}
    (hunique : uniqueRows mergeCapacity (divergentRows (fillPrimaryBlob s) sd) = .ok merged) :
    merged = sd.rows ++ s.rows.filter fun r => decide (r ∉ sd.rows) := by
  obtain ⟨hok, hlen⟩ := primaryBlobIsValid_ok hsd
  have hrows : divergentRows (fillPrimaryBlob s) sd = sd.rows ++ s.rows := by
    rw [divergentRows, fillPrimaryBlob_rows]
    exact if_neg (by change ¬sd.totalWritten < s.totalWritten; omega)
  have hroom : sd.rows.length + s.rows.length ≤ mergeCapacity := by
    have hlive := s.rows_le
    have hcapacity : mergeCapacity = ramCapacity * 2 := rfl
    omega
  rw [hrows, uniqueRows_append hok.numbered.ascending.nodup hs.numbered.ascending.nodup hroom]
    at hunique
  exact (Except.ok.inj hunique).symm

theorem mergeSameLineage_of_agree (hs : Counted s) (hsd : primaryBlobIsValid sd = true)
    (htied : sd.totalWritten = s.totalWritten)
    (hvalid : ∀ r ∈ s.rows, packetIsValid r = true)
    (hagree : ∀ r ∈ s.rows, ∀ q ∈ sd.rows, r.seq = q.seq → r = q) :
    ∃ b, mergeSameLineage (fillPrimaryBlob s) sd = .ok b := by
  obtain ⟨hok, hlen⟩ := primaryBlobIsValid_ok hsd
  have hnext : sd.nextSeq = s.nextSeq := by
    rw [hok.next, hs.next, htied]
  have hend : Numbered Entry.seq s.nextSeq sd.rows := hnext ▸ hok.numbered
  have hroom : s.rows.length + sd.rows.length ≤ mergeCapacity := by
    have hlive := s.rows_le
    have hcapacity : mergeCapacity = ramCapacity * 2 := rfl
    omega
  unfold mergeSameLineage
  rw [fillPrimaryBlob_rows]
  cases hmerge : mergeAgreeing Entry.seq mergeCapacity s.rows sd.rows with
  | error fault =>
    cases fault with
    | conflict =>
      obtain ⟨r, hr, q, hq, hseq, hne⟩ := mergeAgreeing_conflict hmerge
      exact absurd (hagree r hr q hq hseq) hne
    | full => exact absurd hmerge (mergeAgreeing_not_full mergeCapacity hroom)
  | ok merged =>
    have hdropped := hs.dropped
    have hdroppedCard := hok.dropped
    have hmax : max s.nextSeq sd.nextSeq = s.nextSeq := by rw [hnext, Nat.max_self]
    have htotal : max s.totalWritten sd.totalWritten = s.totalWritten := by
      rw [htied, Nat.max_self]
    have hbound : max (max s.droppedOldest sd.droppedOldest) (s.totalWritten - ramCapacity) ≤
        s.totalWritten := by omega
    have hlineage : Lineage s.nextSeq s.totalWritten
        (max (max s.droppedOldest sd.droppedOldest) (s.totalWritten - ramCapacity))
        (keepLast ramCapacity merged) := by
      rcases mergeAgreeing_same_end hs.numbered hend hagree hmerge with rfl | rfl
      · rw [keepLast_of_length_le s.rows_le]
        exact ⟨hs.numbered, hs.next, hs.room, hs.nonempty, hs.fits, hbound, hvalid⟩
      · rw [keepLast_of_length_le hlen]
        exact ⟨hend, hs.next, hs.room, htied ▸ hok.nonempty, htied ▸ hok.fits, hbound, hok.valid⟩
    dsimp only
    refine ⟨_, checkedPrimary_of_valid (fillPrimaryFromMerge_valid ?_)⟩
    change Lineage (max s.nextSeq sd.nextSeq) (max s.totalWritten sd.totalWritten)
      (max (max s.droppedOldest sd.droppedOldest)
        (max s.totalWritten sd.totalWritten - ramCapacity)) _
    rw [hmax, htotal]
    exact hlineage

theorem valid_of_resequence {first : Nat} {rows : List Entry}
    (h : ∀ e ∈ resequence first rows, packetIsValid e = true) {r : Entry} (hr : r ∈ rows) :
    packetIsValid r = true := by
  have hin : r.packet ∈ (resequence first rows).map Entry.packet := by
    rw [resequence_packet]
    exact List.mem_map_of_mem hr
  obtain ⟨e, he, hpacket⟩ := List.mem_map.mp hin
  have hsame : packetIsValid e.packet = packetIsValid r.packet := by rw [hpacket]
  exact hsame.symm.trans (h e he)

theorem mergeDivergentLineage_last (h : JustAppended s x) (hsd : primaryBlobIsValid sd = true)
    (hnewer : sdNewer (fillPrimaryBlob s) sd = false) {error : EspErr}
    (hsame : mergeSameLineage (fillPrimaryBlob s) sd = .error error) {b : Blob}
    (hdivergent : mergeDivergentLineage (fillPrimaryBlob s) sd = .ok b) :
    (¬Hidden s.rows s.totalWritten x sd → b.rows.getLast?.map Entry.packet = some x.packet) ∧
      (Hidden s.rows s.totalWritten x sd → ∀ y, newestMissing s.rows sd = some y →
        b.rows.getLast?.map Entry.packet = some y.packet) := by
  obtain ⟨merged, hunique, hvalid, -, hrows⟩ := mergeDivergentLineage_ok hdivergent
  obtain ⟨hok, -⟩ := primaryBlobIsValid_ok hsd
  have hlast : b.rows.getLast?.map Entry.packet = merged.getLast?.map Entry.packet := by
    rw [hrows, resequence_last, getLast?_keepLast (by decide)]
  rw [hlast]
  simp only [sdNewer, Bool.or_eq_false_iff, decide_eq_false_iff_not] at hnewer
  have hle : sd.totalWritten ≤ s.totalWritten := Nat.le_of_not_lt hnewer.1
  by_cases htied : sd.totalWritten = s.totalWritten
  · have hmerged := divergent_tied_rows h.counted hsd htied hunique
    -- rows of the log that are not on the card close the merge
    have hend : ∀ y, newestMissing s.rows sd = some y →
        merged.getLast?.map Entry.packet = some y.packet := by
      intro y hy
      unfold newestMissing at hy
      rw [hmerged, List.getLast?_append, hy]
      rfl
    refine ⟨fun hopen => ?_, fun _ => hend⟩
    by_cases hheld : x ∈ sd.rows
    · -- the two logs cannot agree, or they would have been one lineage
      have hconflict : ∃ r ∈ s.rows, ∃ q ∈ sd.rows, r.seq = q.seq ∧ r ≠ q := by
        by_contra hnone
        have hagree : ∀ r ∈ s.rows, ∀ q ∈ sd.rows, r.seq = q.seq → r = q := by
          intro r hr q hq hseq
          by_contra hne
          exact hnone ⟨r, hr, q, hq, hseq, hne⟩
        have hall : ∀ r ∈ s.rows, packetIsValid r = true := by
          intro r hr
          by_cases hin : r ∈ sd.rows
          · exact hok.valid r hin
          · have hfilter : r ∈ s.rows.filter fun r => decide (r ∉ sd.rows) :=
              List.mem_filter.mpr ⟨hr, decide_eq_true hin⟩
            have hlen : (s.rows.filter fun r => decide (r ∉ sd.rows)).length ≤ ramCapacity :=
              (List.length_filter_le _ _).trans s.rows_le
            have hkept : r ∈ keepLast ramCapacity merged := by
              rw [hmerged, keepLast_append_of_length_le sd.rows hlen]
              exact List.mem_append_right _ hfilter
            have hblob := (primaryBlobIsValid_ok hvalid).1.valid
            rw [hrows] at hblob
            exact valid_of_resequence hblob hkept
        obtain ⟨b', hb'⟩ := mergeSameLineage_of_agree h.counted hsd htied hall hagree
        cases hb'.symm.trans hsame
      exact absurd ⟨htied, hheld, hconflict⟩ hopen
    · refine hend x ?_
      obtain ⟨pre, hpre⟩ := List.getLast?_eq_some_iff.mp h.last
      have hone : ([x].filter fun r => decide (r ∉ sd.rows)) = [x] := by simp [hheld]
      unfold newestMissing
      rw [hpre, List.filter_append, hone, List.getLast?_append]
      rfl
  · have htop := divergent_ahead_last h hsd (by omega) hunique
    rw [htop]
    exact ⟨fun _ => rfl, fun hidden => absurd hidden.tied htied⟩

theorem mergeWithCard_last (h : JustAppended s x) (hsd : primaryBlobIsValid sd = true)
    (hmerge : mergeWithCard s sd = .ok m) :
    (¬Hidden s.rows s.totalWritten x sd →
        m.blob.rows.getLast?.map Entry.packet = some x.packet) ∧
      (Hidden s.rows s.totalWritten x sd → ∀ y, newestMissing s.rows sd = some y →
        m.blob.rows.getLast?.map Entry.packet = some y.packet) := by
  unfold mergeWithCard at hmerge
  dsimp only at hmerge
  cases hnewer : sdNewer (fillPrimaryBlob s) sd with
  | true =>
    have hopen : ¬Hidden s.rows s.totalWritten x sd := by
      intro hidden
      have htied := hidden.tied
      have hnext := (primaryBlobIsValid_ok hsd).1.next
      have hlog := h.counted.next
      have hlive : (fillPrimaryBlob s).totalWritten = s.totalWritten := rfl
      have hlive' : (fillPrimaryBlob s).nextSeq = s.nextSeq := rfl
      simp only [sdNewer, Bool.or_eq_true, Bool.and_eq_true, decide_eq_true_eq] at hnewer
      omega
    rw [hnewer, h.mutated, if_pos (by decide)] at hmerge
    obtain ⟨⟨b, count⟩, hadopt, rfl⟩ := map_ok hmerge
    exact ⟨fun _ => adopt_last h hadopt, fun hidden => absurd hidden hopen⟩
  | false =>
    rw [hnewer, Bool.false_and, if_neg (by decide), if_neg (by decide)] at hmerge
    cases hsame : mergeSameLineage (fillPrimaryBlob s) sd with
    | ok b =>
      rw [hsame] at hmerge
      obtain rfl := Except.ok.inj hmerge
      obtain ⟨hlast, hopen⟩ := mergeSameLineage_last h hsd hnewer hsame
      refine ⟨fun _ => ?_, fun hidden => absurd hidden hopen⟩
      rw [hlast]
      rfl
    | error error =>
      rw [hsame] at hmerge
      dsimp only at hmerge
      split at hmerge
      · obtain ⟨b, hdivergent, rfl⟩ := map_ok hmerge
        exact mergeDivergentLineage_last h hsd hnewer hsame hdivergent
      · cases hmerge

end MergeLast

end Sigui.Packet

import Sigui.PacketPersist

/-! Runs of the packet log in any order of its locked parts. The rows in RAM are always numbered
without a gap up to the next number. -/
namespace Sigui.Packet

structure Counted (s : PacketLog) : Prop where
  numbered : Numbered Entry.seq s.nextSeq s.rows
  next : s.nextSeq = s.totalWritten + 1
  room : s.totalWritten < uint32Max
  nonempty : s.totalWritten = 0 ↔ s.rows = []
  fits : s.rows.length ≤ s.totalWritten
  dropped : s.droppedOldest ≤ s.totalWritten
  boot : s.bootNextSeq ≤ s.nextSeq

structure SameRows (s t : PacketLog) : Prop where
  rows : t.rows = s.rows
  nextSeq : t.nextSeq = s.nextSeq
  totalWritten : t.totalWritten = s.totalWritten
  droppedOldest : t.droppedOldest = s.droppedOldest

namespace SameRows

variable {s t u : PacketLog}

theorem refl (s : PacketLog) : SameRows s s := ⟨rfl, rfl, rfl, rfl⟩

theorem trans (h : SameRows s t) (h' : SameRows t u) : SameRows s u :=
  ⟨h'.rows.trans h.rows, h'.nextSeq.trans h.nextSeq, h'.totalWritten.trans h.totalWritten,
    h'.droppedOldest.trans h.droppedOldest⟩

theorem counted (hs : Counted s) (h : SameRows s t) (hboot : t.bootNextSeq ≤ t.nextSeq) :
    Counted t where
  numbered := by
    rw [h.nextSeq, h.rows]
    exact hs.numbered
  next := by
    rw [h.nextSeq, h.totalWritten]
    exact hs.next
  room := by
    rw [h.totalWritten]
    exact hs.room
  nonempty := by
    rw [h.totalWritten, h.rows]
    exact hs.nonempty
  fits := by
    rw [h.rows, h.totalWritten]
    exact hs.fits
  dropped := by
    rw [h.droppedOldest, h.totalWritten]
    exact hs.dropped
  boot := hboot

end SameRows

section Blobs

variable {s : PacketLog} {b : Blob}

theorem primaryBlobIsValid_ok (h : primaryBlobIsValid b = true) :
    b.Ok ∧ b.rows.length ≤ ramCapacity :=
  ⟨(primaryBlobIsValid_iff.mp h).2.1, (primaryBlobIsValid_iff.mp h).2.2.1⟩

theorem fallbackBlob_ok (h : fallbackBlobIsValid b = true ∨ fallbackBlobV2IsValid b = true) :
    b.Ok ∧ b.rows.length ≤ ramCapacity := by
  have hlineage : persistedLineageIsValid b nvsFallbackCapacity = true := by
    rcases h with h | h
    · exact (Bool.and_eq_true_iff.mp h).2
    · exact (Bool.and_eq_true_iff.mp h).2
  obtain ⟨hok, hlen, -⟩ := (persistedLineageIsValid_iff (by decide)).mp hlineage
  exact ⟨hok, hlen.trans (by decide)⟩

theorem sdNewer_next {live sd : Blob} (h : sdNewer live sd = true)
    (hlive : live.nextSeq = live.totalWritten + 1) (hsd : sd.nextSeq = sd.totalWritten + 1) :
    live.nextSeq ≤ sd.nextSeq := by
  simp only [sdNewer, Bool.or_eq_true, Bool.and_eq_true, decide_eq_true_eq] at h
  omega

theorem not_sdNewer_next {live sd : Blob} (h : sdNewer live sd = false)
    (hlive : live.nextSeq = live.totalWritten + 1) (hsd : sd.nextSeq = sd.totalWritten + 1) :
    sd.nextSeq ≤ live.nextSeq := by
  simp only [sdNewer, Bool.or_eq_false_iff, decide_eq_false_iff_not] at h
  omega

end Blobs

section Merged

variable {s : PacketLog} {sd : Blob} {m : MergedLog} {live : Blob} {error : EspErr}

structure MergedFits (s : PacketLog) (m : MergedLog) : Prop where
  valid : m.blob = fillPrimaryBlob s ∨ primaryBlobIsValid m.blob = true
  ahead : s.nextSeq ≤ m.blob.nextSeq

theorem map_ok {ε α β : Type} {r : Except ε α} {f : α → β} {b : β} (h : r.map f = .ok b) :
    ∃ a, r = .ok a ∧ f a = b := by
  cases r with
  | error error => cases h
  | ok a => exact ⟨a, rfl, Except.ok.inj h⟩

theorem mergeDivergentLineage_ok {b : Blob} (h : mergeDivergentLineage live sd = .ok b) :
    ∃ merged, uniqueRows mergeCapacity (divergentRows live sd) = .ok merged ∧
      primaryBlobIsValid b = true ∧
      b.nextSeq = max (max live.totalWritten sd.totalWritten) merged.length + 1 ∧
      b.rows = resequence (b.nextSeq - (keepLast ramCapacity merged).length)
        (keepLast ramCapacity merged) := by
  unfold mergeDivergentLineage at h
  cases hunique : uniqueRows mergeCapacity (divergentRows live sd) with
  | error fault => rw [hunique] at h; cases h
  | ok merged =>
    rw [hunique] at h
    dsimp only at h
    unfold fillResequencedDivergentPrimary at h
    split at h
    · cases h
    dsimp only at h
    split at h
    · cases h
    obtain ⟨rfl, hvalid⟩ := checkedPrimary_ok h
    exact ⟨merged, rfl, hvalid, rfl, by simp only [fillPrimaryFromMerge]⟩

theorem mergeSameLineage_ok {b : Blob} (h : mergeSameLineage live sd = .ok b) :
    ∃ merged, mergeAgreeing Entry.seq mergeCapacity live.rows sd.rows = .ok merged ∧
      primaryBlobIsValid b = true ∧ b.nextSeq = max live.nextSeq sd.nextSeq ∧
      b.rows = keepLast ramCapacity merged := by
  unfold mergeSameLineage at h
  cases hmerge : mergeAgreeing Entry.seq mergeCapacity live.rows sd.rows with
  | error fault => rw [hmerge] at h; cases h
  | ok merged =>
    rw [hmerge] at h
    obtain ⟨rfl, hvalid⟩ := checkedPrimary_ok h
    exact ⟨merged, rfl, hvalid, rfl, by simp only [fillPrimaryFromMerge]⟩

theorem adoptSdWithLiveOverlay_ok {boot mutations count : Nat} {b : Blob}
    (h : adoptSdWithLiveOverlay live sd boot mutations = .ok (b, count)) :
    ∃ overlay, overlayRows boot sd.nextSeq sd.rows.length live.rows = .ok overlay ∧
      overlay.length = mutations ∧ count = mutations ∧ primaryBlobIsValid b = true ∧
      b.nextSeq = sd.nextSeq + overlay.length ∧
      b.rows = keepLast ramCapacity (sd.rows ++ overlay) := by
  unfold adoptSdWithLiveOverlay at h
  cases hoverlay : overlayRows boot sd.nextSeq sd.rows.length live.rows with
  | error error => rw [hoverlay] at h; cases h
  | ok overlay =>
    rw [hoverlay] at h
    dsimp only at h
    split at h
    · cases h
    rename_i hcount
    split at h
    · cases h
    obtain ⟨b', hchecked, hpair⟩ := map_ok h
    obtain ⟨rfl, hvalid⟩ := checkedPrimary_ok hchecked
    obtain ⟨rfl, rfl⟩ := Prod.mk.inj hpair
    have hcount : overlay.length = mutations := not_not.mp hcount
    exact ⟨overlay, rfl, hcount, hcount, hvalid, rfl, by simp only [fillPrimaryFromMerge]⟩

theorem mergeWithCard_fits (hs : Counted s) (hsd : primaryBlobIsValid sd = true)
    (h : mergeWithCard s sd = .ok m) : MergedFits s m := by
  have hlive : (fillPrimaryBlob s).nextSeq = (fillPrimaryBlob s).totalWritten + 1 := hs.next
  have hcard : sd.nextSeq = sd.totalWritten + 1 := (primaryBlobIsValid_ok hsd).1.next
  unfold mergeWithCard at h
  dsimp only at h
  cases hnewer : sdNewer (fillPrimaryBlob s) sd with
  | true =>
    have hahead : s.nextSeq ≤ sd.nextSeq := sdNewer_next hnewer hlive hcard
    rw [hnewer, Bool.true_and] at h
    split at h
    · obtain ⟨⟨b, count⟩, hadopt, rfl⟩ := map_ok h
      obtain ⟨overlay, -, -, -, hvalid, hnext, -⟩ := adoptSdWithLiveOverlay_ok hadopt
      exact ⟨.inr hvalid, by rw [hnext]; omega⟩
    · rw [if_pos rfl] at h
      obtain rfl := Except.ok.inj h
      exact ⟨.inr hsd, hahead⟩
  | false =>
    rw [hnewer, Bool.false_and, if_neg (by decide), if_neg (by decide)] at h
    cases hsame : mergeSameLineage (fillPrimaryBlob s) sd with
    | ok b =>
      rw [hsame] at h
      obtain rfl := Except.ok.inj h
      obtain ⟨merged, -, hvalid, hnext, -⟩ := mergeSameLineage_ok hsame
      exact ⟨.inr hvalid, by rw [hnext]; exact Nat.le_max_left _ _⟩
    | error error =>
      rw [hsame] at h
      dsimp only at h
      split at h
      · obtain ⟨b, hdivergent, rfl⟩ := map_ok h
        obtain ⟨merged, -, hvalid, hnext, -⟩ := mergeDivergentLineage_ok hdivergent
        have htotal : (fillPrimaryBlob s).totalWritten = s.totalWritten := rfl
        have hcount := hs.next
        refine ⟨.inr hvalid, ?_⟩
        rw [hnext, htotal]
        omega
      · cases h

theorem mergeCard_fits (hs : Counted s) {card : Option CardPrimary}
    (hcard : ∀ c, card = some c → primaryBlobIsValid c.blob = true)
    (h : mergeCard s card = .ok m) : MergedFits s m := by
  cases card with
  | none =>
    obtain rfl := Except.ok.inj h
    exact ⟨.inl rfl, Nat.le_refl _⟩
  | some card => exact mergeWithCard_fits hs (hcard card rfl) h

theorem overlayRows_error {boot next used : Nat} {rows : List Entry}
    (h : overlayRows boot next used rows = .error error) : error = espErrInvalidSize := by
  induction rows generalizing next used with
  | nil => cases h
  | cons e rows ih =>
    rw [overlayRows] at h
    split at h
    · exact ih h
    split at h
    · exact (Except.error.inj h).symm
    cases hrest : overlayRows boot (next + 1) (used + 1) rows with
    | error error' =>
      rw [hrest] at h
      obtain rfl := Except.error.inj h
      exact ih hrest
    | ok rest => rw [hrest] at h; cases h

theorem checkedPrimary_error {b : Blob} (h : checkedPrimary b = .error error) :
    error = espErrInvalidState := by
  unfold checkedPrimary at h
  split at h
  · cases h
  · exact (Except.error.inj h).symm

theorem map_error {ε α β : Type} {r : Except ε α} {f : α → β} {error : ε}
    (h : r.map f = .error error) : r = .error error := by
  cases r with
  | error error' => exact congrArg Except.error (Except.error.inj h)
  | ok a => cases h

theorem mergeWithCard_error (h : mergeWithCard s sd = .error error) : error ≠ espOk := by
  have hstate : espErrInvalidState ≠ espOk := by decide
  have hsize : espErrInvalidSize ≠ espOk := by decide
  have hfault : ∀ fault, mergeFaultCode fault ≠ espOk := fun fault => by cases fault <;> decide
  unfold mergeWithCard at h
  dsimp only at h
  split at h
  · have hadopt := map_error h
    unfold adoptSdWithLiveOverlay at hadopt
    cases hoverlay : overlayRows s.bootNextSeq sd.nextSeq sd.rows.length
        (fillPrimaryBlob s).rows with
    | error error' =>
      rw [hoverlay] at hadopt
      rw [← Except.error.inj hadopt, overlayRows_error hoverlay]
      exact hsize
    | ok overlay =>
      rw [hoverlay] at hadopt
      dsimp only at hadopt
      split at hadopt
      · rwa [← Except.error.inj hadopt]
      split at hadopt
      · rwa [← Except.error.inj hadopt]
      rwa [checkedPrimary_error (map_error hadopt)]
  split at h
  · cases h
  split at h
  · cases h
  split at h
  · have hdivergent := map_error h
    unfold mergeDivergentLineage at hdivergent
    split at hdivergent
    · rw [← Except.error.inj hdivergent]
      exact hfault _
    unfold fillResequencedDivergentPrimary at hdivergent
    split at hdivergent
    · rwa [← Except.error.inj hdivergent]
    dsimp only at hdivergent
    split at hdivergent
    · rwa [← Except.error.inj hdivergent]
    rwa [checkedPrimary_error hdivergent]
  · rename_i hsame _
    rw [← Except.error.inj h]
    unfold mergeSameLineage at hsame
    split at hsame
    · rw [← Except.error.inj hsame]
      exact hfault _
    · rwa [checkedPrimary_error hsame]

end Merged

section Reconciled

variable {d : PacketDesk} {m : MergedLog}

theorem MergedFits.length_le {s : PacketLog} (h : MergedFits s m) :
    m.blob.rows.length ≤ ramCapacity := by
  rcases h.valid with hblob | hvalid
  · rw [hblob, fillPrimaryBlob_rows]
    exact s.rows_le
  · exact (primaryBlobIsValid_ok hvalid).2

theorem loadMerged_log (h : m.blob.rows.length ≤ ramCapacity) :
    (loadMerged d m.blob).log.rows = m.blob.rows ∧
      (loadMerged d m.blob).log.nextSeq = m.blob.nextSeq ∧
      (loadMerged d m.blob).log.totalWritten = m.blob.totalWritten ∧
      (loadMerged d m.blob).log.droppedOldest = m.blob.droppedOldest ∧
      (loadMerged d m.blob).log.bootNextSeq = d.log.bootNextSeq := by
  unfold loadMerged
  split
  · rename_i hequal
    simp only [primaryBlobsEqual, Bool.and_eq_true, decide_eq_true_eq] at hequal
    obtain ⟨⟨⟨hnext, htotal⟩, hdropped⟩, hrows⟩ := hequal
    rw [fillPrimaryBlob_rows] at hrows
    exact ⟨hrows, hnext, htotal, hdropped, rfl⟩
  · rw [loadPrimaryBlobIntoRam_of_le d.log h]
    exact ⟨rfl, rfl, rfl, rfl, rfl⟩

theorem noteOverlay_log (s : PacketLog) (count : Nat) :
    SameRows s (noteOverlay s count) ∧
      (s.bootNextSeq ≤ s.nextSeq → (noteOverlay s count).bootNextSeq ≤ s.nextSeq) := by
  unfold noteOverlay
  split
  · exact ⟨⟨rfl, rfl, rfl, rfl⟩, fun _ => Nat.sub_le _ _⟩
  · exact ⟨.refl s, id⟩

structure HoldsMerge (m : MergedLog) (s : PacketLog) : Prop where
  rows : s.rows = m.blob.rows
  nextSeq : s.nextSeq = m.blob.nextSeq
  totalWritten : s.totalWritten = m.blob.totalWritten
  droppedOldest : s.droppedOldest = m.blob.droppedOldest

theorem applyMerged_log (hs : Counted d.log) (hfits : MergedFits d.log m)
    (card : Option CardPrimary) (trusted : Bool) (generation : Nat) :
    HoldsMerge m (applyMerged d card m trusted generation).log ∧
      (applyMerged d card m trusted generation).log.bootNextSeq ≤
        (applyMerged d card m trusted generation).log.nextSeq := by
  obtain ⟨hrows, hnext, htotal, hdropped, hboot⟩ := loadMerged_log (d := d) hfits.length_le
  have hle := hs.boot
  have hahead := hfits.ahead
  -- the flags and the journal's place do not matter here
  have hnote : ∀ log : PacketLog, HoldsMerge m log → log.bootNextSeq = d.log.bootNextSeq →
      HoldsMerge m (noteOverlay log m.overlayCount) ∧
        (noteOverlay log m.overlayCount).bootNextSeq ≤
          (noteOverlay log m.overlayCount).nextSeq := by
    intro log hlog hboot
    have hnext := hlog.nextSeq
    obtain ⟨hsame, hoverlay⟩ := noteOverlay_log log m.overlayCount
    have hbound := hoverlay (by omega)
    rw [← hsame.nextSeq] at hbound
    exact ⟨⟨hsame.rows.trans hlog.rows, hsame.nextSeq.trans hlog.nextSeq,
      hsame.totalWritten.trans hlog.totalWritten,
      hsame.droppedOldest.trans hlog.droppedOldest⟩, hbound⟩
  exact hnote _ ⟨hrows, hnext, htotal, hdropped⟩ hboot

theorem HoldsMerge.counted {s t : PacketLog} (h : HoldsMerge m t) (hs : Counted s)
    (hfits : MergedFits s m) (hboot : t.bootNextSeq ≤ t.nextSeq) : Counted t := by
  rcases hfits.valid with hblob | hvalid
  · refine SameRows.counted hs ⟨?_, ?_, ?_, ?_⟩ hboot
    · rw [h.rows, hblob, fillPrimaryBlob_rows]
    · rw [h.nextSeq, hblob]
      rfl
    · rw [h.totalWritten, hblob]
      rfl
    · rw [h.droppedOldest, hblob]
      rfl
  · obtain ⟨hok, -⟩ := primaryBlobIsValid_ok hvalid
    refine ⟨?_, ?_, ?_, ?_, ?_, ?_, hboot⟩
    · rw [h.nextSeq, h.rows]
      exact hok.numbered
    · rw [h.nextSeq, h.totalWritten]
      exact hok.next
    · rw [h.totalWritten]
      exact hok.room
    · rw [h.totalWritten, h.rows]
      exact hok.nonempty
    · rw [h.rows, h.totalWritten]
      exact hok.fits
    · rw [h.droppedOldest, h.totalWritten]
      exact hok.dropped

theorem noteHistoryCleared_log (d : PacketDesk) (a : ReconcileAnswers) :
    noteHistoryCleared d a = d ∨ noteHistoryCleared d a =
      { d with log := { d.log with sdHistoryRecords := 0 } } := by
  unfold noteHistoryCleared
  split
  · split
    · exact .inr rfl
    · exact .inl rfl
  · exact .inl rfl

theorem acceptPrimary_valid {read : Except Failure PrimaryImage} {card : CardPrimary}
    (h : acceptPrimary read = .ok (some card)) : primaryBlobIsValid card.blob = true := by
  unfold acceptPrimary at h
  split at h
  · split at h <;> cases h
  · split at h
    · rename_i hvalid
      cases h
      exact hvalid
    · cases h
  · split at h
    · rename_i hvalid
      cases h
      exact promote_valid hvalid
    · cases h
  · cases h

/-- What a reconcile that returned `ESP_OK` did. -/
structure Reconciled (d : PacketDesk) (a : ReconcileAnswers) (generation : Nat) (d' : PacketDesk) :
    Prop where
  merge : ∃ card m trusted, acceptPrimary a.primary = .ok card ∧
    mergeCard (noteHistoryCleared d a).log card = .ok m ∧
    d' = applyMerged (noteHistoryCleared d a) card m trusted generation

structure Unreconciled (d d' : PacketDesk) : Prop where
  same : SameRows d.log d'.log
  boot : d'.log.bootNextSeq = d.log.bootNextSeq
  volatileEntry : d'.log.volatileEntry = d.log.volatileEntry

theorem reconcileFailed_spec {d₀ : PacketDesk} (h : Unreconciled d d₀) {error : EspErr}
    (herror : error ≠ espOk) (yields : Bool) :
    Unreconciled d (reconcileFailed d₀ error yields).1 ∧
      (reconcileFailed d₀ error yields).2 ≠ espOk := by
  unfold reconcileFailed
  split
  · exact ⟨h, herror⟩
  · exact ⟨⟨h.same.trans ⟨rfl, rfl, rfl, rfl⟩, h.boot, h.volatileEntry⟩, herror⟩

theorem reconcileSdPrimary_cases (d : PacketDesk) (a : ReconcileAnswers) (generation : Nat) :
    (Unreconciled d (reconcileSdPrimary d a generation).1 ∧
      (reconcileSdPrimary d a generation).2 ≠ espOk) ∨
    (Reconciled d a generation (reconcileSdPrimary d a generation).1 ∧
      (reconcileSdPrimary d a generation).2 = espOk) := by
  have hself : Unreconciled d d := ⟨.refl _, rfl, rfl⟩
  have hcleared : Unreconciled d (noteHistoryCleared d a) := by
    rcases noteHistoryCleared_log d a with h | h
    · rw [h]
      exact hself
    · rw [h]
      exact ⟨⟨rfl, rfl, rfl, rfl⟩, rfl, rfl⟩
  unfold reconcileSdPrimary
  split
  · exact .inl (reconcileFailed_spec hself (by decide) false)
  dsimp only
  split
  · rename_i hlineage
    exact .inl (reconcileFailed_spec hcleared hlineage false)
  cases hread : acceptPrimary a.primary with
  | error error => exact .inl (reconcileFailed_spec hcleared error.property true)
  | ok card =>
    dsimp only
    cases htrusted : journalContinuation a card with
    | error error => exact .inl (reconcileFailed_spec hcleared error.property true)
    | ok trusted =>
      dsimp only
      split
      · exact .inl (reconcileFailed_spec hcleared (by decide) false)
      unfold reconcileLocked
      cases hmerge : mergeCard (noteHistoryCleared d a).log card with
      | error error =>
        refine .inl ⟨⟨hcleared.same.trans ⟨rfl, rfl, rfl, rfl⟩, hcleared.boot,
          hcleared.volatileEntry⟩, ?_⟩
        cases card with
        | none => cases hmerge
        | some card => exact mergeWithCard_error hmerge
      | ok m =>
        dsimp only
        split
        · exact .inr ⟨⟨card, m, trusted, hread, hmerge, rfl⟩, rfl⟩
        · exact .inl ⟨⟨hcleared.same.trans ⟨rfl, rfl, rfl, rfl⟩, hcleared.boot,
            hcleared.volatileEntry⟩, (by decide : espErrInvalidState ≠ espOk)⟩

theorem Counted.unreconciled {d d' : PacketDesk} (hs : Counted d.log) (h : Unreconciled d d') :
    Counted d'.log := by
  refine SameRows.counted hs h.same ?_
  rw [h.boot, h.same.nextSeq]
  exact hs.boot

theorem Counted.historyCleared (hs : Counted d.log) (a : ReconcileAnswers) :
    Counted (noteHistoryCleared d a).log := by
  rcases noteHistoryCleared_log d a with h | h
  · rw [h]
    exact hs
  · rw [h]
    exact SameRows.counted hs ⟨rfl, rfl, rfl, rfl⟩ hs.boot

theorem Counted.reconcile (hs : Counted d.log) (a : ReconcileAnswers) (generation : Nat) :
    Counted (reconcileSdPrimary d a generation).1.log := by
  rcases reconcileSdPrimary_cases d a generation with ⟨h, -⟩ | ⟨h, -⟩
  · exact hs.unreconciled h
  · obtain ⟨card, m, trusted, hread, hmerge, hd⟩ := h.merge
    have hs' := hs.historyCleared a
    have hcard : ∀ c, card = some c → primaryBlobIsValid c.blob = true := by
      intro c hc
      rw [hc] at hread
      exact acceptPrimary_valid hread
    have hfits := mergeCard_fits hs' hcard hmerge
    obtain ⟨hholds, hboot⟩ := applyMerged_log hs' hfits card trusted generation
    rw [hd]
    exact hholds.counted hs' hfits hboot

end Reconciled

theorem pushRow_ne_nil (rows : List Entry) (e : Entry) : pushRow rows e ≠ [] := by
  unfold pushRow
  split <;> simp

theorem length_pushRow_le (rows : List Entry) (e : Entry) :
    (pushRow rows e).length ≤ rows.length + 1 := by
  unfold pushRow
  split
  · rw [List.length_append, List.length_singleton]
  · rw [List.length_append, List.length_tail, List.length_singleton]
    omega

/-- What a retained row changes, without a word on whether it would be accepted back. -/
structure Retained (s : PacketLog) (e : Entry) (t : PacketLog) : Prop where
  room : s.nextSeq < uint32Max
  seq : e.seq = s.nextSeq
  rows : t.rows = pushRow s.rows e
  nextSeq : t.nextSeq = s.nextSeq + 1
  totalWritten : t.totalWritten = s.totalWritten + 1
  dropped : t.droppedOldest = s.droppedOldest ∨ t.droppedOldest = u32Succ s.droppedOldest
  boot : t.bootNextSeq = s.bootNextSeq
  mutated : t.mutatedSinceInit = true

theorem appendRow_retained {s t : PacketLog} (hs : Counted s) {entry : Entry} {raw : List UInt8}
    {sdEnabled : Bool} {nowMs : Nat} (h : appendRow s entry raw sdEnabled nowMs = some t) :
    Retained s (appendCopy entry raw s.nextSeq nowMs) t := by
  have hnext := hs.next
  have hroom := hs.room
  unfold appendRow at h
  split at h
  · cases h
  rename_i hmax
  cases h
  refine ⟨by omega, appendCopy_seq _ _ _ _, rfl, rfl, u32Succ_of_lt hroom, ?_, rfl, rfl⟩
  by_cases hfull : s.rows.length < ramCapacity
  · exact .inl (if_pos hfull)
  · exact .inr (if_neg hfull)

theorem Retained.counted {s t : PacketLog} {e : Entry} (h : Retained s e t) (hs : Counted s) :
    Counted t where
  numbered := by
    rw [h.rows, h.nextSeq]
    exact pushRow_numbered hs.numbered h.seq
  next := by rw [h.nextSeq, h.totalWritten, hs.next]
  room := by
    have hnext := hs.next
    have hroom := h.room
    rw [h.totalWritten]
    omega
  nonempty := by
    rw [h.rows, h.totalWritten]
    exact iff_of_false (Nat.succ_ne_zero _) (pushRow_ne_nil _ _)
  fits := by
    have hlen := length_pushRow_le s.rows e
    have hfits := hs.fits
    rw [h.rows, h.totalWritten]
    omega
  dropped := by
    have hdropped := hs.dropped
    have hroom := hs.room
    rw [h.totalWritten]
    rcases h.dropped with heq | heq
    · omega
    · rw [heq, u32Succ_of_lt (by omega)]
      omega
  boot := by
    have hboot := hs.boot
    rw [h.boot, h.nextSeq]
    omega

theorem counted_reset (generation : Nat) (sdEnabled : Bool) :
    Counted (PacketLog.reset generation sdEnabled) where
  numbered := .nil
  next := rfl
  room := by
    change 0 < uint32Max
    decide
  nonempty := iff_of_true rfl rfl
  fits := Nat.zero_le _
  dropped := Nat.le_refl _
  boot := Nat.le_refl _

theorem acceptFallback_ok {read : FallbackRead} {blob : Blob} {legacy : Bool}
    (h : acceptFallback read = .ok (some (blob, legacy))) :
    blob.Ok ∧ blob.rows.length ≤ ramCapacity := by
  unfold acceptFallback at h
  split at h
  · split at h <;> cases h
  · cases h
  · split at h
    · rename_i hvalid
      cases h
      obtain ⟨hok, hlen⟩ := fallbackBlob_ok (.inr hvalid)
      exact ⟨hok, hlen⟩
    · split at h
      · rename_i hvalid
        cases h
        exact fallbackBlob_ok (.inl hvalid)
      · cases h

theorem counted_initLoaded (generation : Nat) (sdEnabled : Bool) {read : FallbackRead}
    {fallback : Option (Blob × Bool)} (h : acceptFallback read = .ok fallback) :
    Counted (initLoaded generation sdEnabled fallback).log := by
  have hset : ∀ s : PacketLog, Counted s →
      Counted { s with bootNextSeq := s.nextSeq, loaded := true } :=
    fun s hs => SameRows.counted hs ⟨rfl, rfl, rfl, rfl⟩ le_rfl
  refine hset _ ?_
  cases fallback with
  | none => exact counted_reset generation sdEnabled
  | some pair =>
    obtain ⟨blob, legacy⟩ := pair
    obtain ⟨hok, hlen⟩ := acceptFallback_ok h
    have hload : Counted (loadFallbackBlobIntoRam (PacketLog.reset generation sdEnabled) blob) := by
      unfold loadFallbackBlobIntoRam
      rw [loadPrimaryBlobIntoRam_of_le _ hlen]
      have hnext := hok.next
      refine ⟨hok.numbered, hok.next, hok.room, hok.nonempty, hok.fits, hok.dropped, ?_⟩
      change 1 ≤ blob.nextSeq
      omega
    exact SameRows.counted hload ⟨rfl, rfl, rfl, rfl⟩ hload.boot

inductive PacketOp
  | retain (entry : Entry) (raw : List UInt8) (sdEnabled : Bool) (nowMs : Nat)
  | preview (entry : Entry) (raw : List UInt8) (nowMs : Nat)
  | noteGeneration (sdEnabled : Bool) (generation : Nat)
  | reconcile (answers : ReconcileAnswers) (generation : Nat)
  | journaled
  | finishPass (snapshot : PersistSnapshot) (journalRet primaryRet nvsRet : EspErr) (nowMs : Nat)
  | closeAdmission
  | clearFinish (answers : ClearAnswers) (generation clearRevision : Nat)
  | init (generation : Nat) (sdEnabled : Bool) (read : FallbackRead)

def stepPacket (d : PacketDesk) : PacketOp → PacketDesk
  | .retain entry raw sdEnabled nowMs => (retainRow d entry raw sdEnabled nowMs).getD d
  | .preview entry raw nowMs => previewRow d entry raw nowMs
  | .noteGeneration sdEnabled generation => noteGeneration d sdEnabled generation
  | .reconcile answers generation => (reconcileSdPrimary d answers generation).1
  | .journaled => { d with log := noteJournaled d.log }
  | .finishPass snapshot journalRet primaryRet nvsRet nowMs =>
    finishPass d snapshot journalRet primaryRet nvsRet nowMs
  | .closeAdmission => { d with clearInProgress := true }
  | .clearFinish answers generation clearRevision =>
    (clearFinish d answers generation clearRevision).1
  | .init generation sdEnabled read =>
    match acceptFallback read with
    | .error _ =>
      { log := PacketLog.reset generation sdEnabled, revision := 0, clearInProgress := false }
    | .ok fallback => initLoaded generation sdEnabled fallback

theorem finishPass_log (d : PacketDesk) (snapshot : PersistSnapshot)
    (journalRet primaryRet nvsRet : EspErr) (nowMs : Nat) :
    SameRows d.log (finishPass d snapshot journalRet primaryRet nvsRet nowMs).log ∧
      (d.log.bootNextSeq ≤ d.log.nextSeq →
        (finishPass d snapshot journalRet primaryRet nvsRet nowMs).log.bootNextSeq ≤
          d.log.nextSeq) := by
  have hjournal : ∀ s : PacketLog, SameRows s (noteJournalRet s journalRet) ∧
      (noteJournalRet s journalRet).bootNextSeq = s.bootNextSeq := by
    intro s
    unfold noteJournalRet
    split <;> exact ⟨⟨rfl, rfl, rfl, rfl⟩, rfl⟩
  have hprimary : ∀ (s : PacketLog) same, SameRows s (notePrimaryRet s primaryRet same nowMs) ∧
      (s.bootNextSeq ≤ s.nextSeq →
        (notePrimaryRet s primaryRet same nowMs).bootNextSeq ≤ s.nextSeq) := by
    intro s same
    unfold notePrimaryRet
    split
    · split
      · exact ⟨⟨rfl, rfl, rfl, rfl⟩, fun _ => Nat.le_refl _⟩
      · exact ⟨.refl s, id⟩
    · exact ⟨⟨rfl, rfl, rfl, rfl⟩, id⟩
  have hnvs : ∀ (s : PacketLog) same, SameRows s (noteNvsRet s nvsRet same) ∧
      (noteNvsRet s nvsRet same).bootNextSeq = s.bootNextSeq := by
    intro s same
    unfold noteNvsRet
    split
    · split <;> exact ⟨⟨rfl, rfl, rfl, rfl⟩, rfl⟩
    · exact ⟨⟨rfl, rfl, rfl, rfl⟩, rfl⟩
  unfold finishPass
  dsimp only
  generalize hj : (if snapshot.journalAttempt = true then noteJournalRet d.log journalRet
    else d.log) = s₁
  generalize hp : (if snapshot.primaryAttempt = true then
    notePrimaryRet s₁ primaryRet (decide (d.revision = snapshot.revision)) nowMs else s₁) = s₂
  have h₁ : SameRows d.log s₁ ∧ s₁.bootNextSeq = d.log.bootNextSeq := by
    rw [← hj]
    split
    · exact hjournal d.log
    · exact ⟨.refl _, rfl⟩
  have h₂ : SameRows d.log s₂ ∧ (d.log.bootNextSeq ≤ d.log.nextSeq →
      s₂.bootNextSeq ≤ d.log.nextSeq) := by
    rw [← hp, ← h₁.1.nextSeq, ← h₁.2]
    split
    · exact ⟨h₁.1.trans (hprimary s₁ _).1, (hprimary s₁ _).2⟩
    · exact ⟨h₁.1, id⟩
  split
  · refine ⟨h₂.1.trans (hnvs s₂ _).1, fun hboot => ?_⟩
    rw [(hnvs s₂ _).2]
    exact h₂.2 hboot
  · exact h₂

theorem Counted.step {d : PacketDesk} (hs : Counted d.log) (op : PacketOp) :
    Counted (stepPacket d op).log := by
  cases op with
  | retain entry raw sdEnabled nowMs =>
    unfold stepPacket retainRow
    dsimp only
    split
    · exact hs
    cases happend : appendRow d.log entry raw sdEnabled nowMs with
    | none => exact hs
    | some log => exact (appendRow_retained hs happend).counted hs
  | preview entry raw nowMs =>
    unfold stepPacket previewRow
    dsimp only
    split
    · exact hs
    · exact SameRows.counted hs ⟨rfl, rfl, rfl, rfl⟩ hs.boot
  | noteGeneration sdEnabled generation =>
    unfold stepPacket Packet.noteGeneration
    dsimp only
    split
    · exact hs
    · exact SameRows.counted hs ⟨rfl, rfl, rfl, rfl⟩ hs.boot
  | reconcile answers generation => exact hs.reconcile answers generation
  | journaled => exact SameRows.counted hs ⟨rfl, rfl, rfl, rfl⟩ hs.boot
  | finishPass snapshot journalRet primaryRet nvsRet nowMs =>
    obtain ⟨hsame, hboot⟩ := finishPass_log d snapshot journalRet primaryRet nvsRet nowMs
    exact SameRows.counted hs hsame ((hboot hs.boot).trans hsame.nextSeq.ge)
  | closeAdmission => exact hs
  | clearFinish answers generation clearRevision =>
    unfold stepPacket Packet.clearFinish
    dsimp only
    split
    · exact SameRows.counted (counted_reset generation false) ⟨rfl, rfl, rfl, rfl⟩ le_rfl
    · exact SameRows.counted hs ⟨rfl, rfl, rfl, rfl⟩ hs.boot
  | init generation sdEnabled read =>
    unfold stepPacket
    dsimp only
    cases hread : acceptFallback read with
    | error error => exact counted_reset generation sdEnabled
    | ok fallback => exact counted_initLoaded generation sdEnabled hread

def blankDesk : PacketDesk where
  log := PacketLog.reset 0 false
  revision := 0
  clearInProgress := false

def DeskCounted (d : PacketDesk) : Prop := Counted d.log

theorem run_counted (ops : List PacketOp) : Counted (runSteps stepPacket blankDesk ops).log := by
  have hstep : ∀ d op, DeskCounted d → DeskCounted (stepPacket d op) := fun _ op hs => hs.step op
  have hstart : DeskCounted blankDesk := counted_reset 0 false
  exact run_always hstep ops hstart

end Sigui.Packet

import Sigui.MessageValid

/-! A store that meets a blob it has filled itself: the merge of an earlier snapshot of the same
boot, and whether it leaves rows and counters as they are. -/
namespace Sigui.Message

/-- The merge of `b` changes neither the rows nor the counters. -/
structure Absorbs (s : Store) (b : Blob) : Prop where
  ret : (mergeBlobIntoRam s b).ret = espOk
  rows : (mergeBlobIntoRam s b).store.history.rows = s.history.rows
  next : (mergeBlobIntoRam s b).store.history.nextSeq = s.history.nextSeq
  total : (mergeBlobIntoRam s b).store.history.totalWritten = s.history.totalWritten
  dropped : (mergeBlobIntoRam s b).store.history.droppedOldest = s.history.droppedOldest

/-- `reconcile_sd_primary` leaves the history alone. -/
def ignoresCard (s : Store) (b : Blob) : Bool :=
  if b.clearLineage ≠ s.history.clearLineage then s.deviceLineageAuthoritative
  else decide (b.epoch < s.history.epoch)

def replacesHistory (s : Store) (b : Blob) : Bool :=
  if b.clearLineage ≠ s.history.clearLineage then !s.deviceLineageAuthoritative
  else decide (s.history.epoch < b.epoch)

/-- A device with every history it has had since rows last came from elsewhere: from a load, or
from a card that holds a blob this boot has not filled. -/
structure Watched where
  device : Device
  marks : List History

def Watched.store (w : Watched) : Store := w.device.store

def Watched.own (w : Watched) (b : Blob) : Bool := decide (b ∈ w.marks.map fillBlob)

def Watched.keepsMarks (w : Watched) (act : Act) : Bool :=
  match act, w.device.phase with
  | .init _, .idle => w.store.loaded
  | .reconcile (.found stored generationMatches), .reconciling _ =>
    !generationMatches || ignoresCard w.store stored.blob || w.own stored.blob
  | _, _ => true

def stepWatched (w : Watched) (act : Act) : Watched :=
  let d := stepDevice w.device act
  ⟨d, d.store.history :: if w.keepsMarks act then w.marks else []⟩

def Counted (b : Blob) : Prop :=
  b.droppedOldest + b.count = b.totalWritten

/-- The counter of a stored blob is a `uint32_t`, and it adds up. -/
def SourceCounted (source : Except EspErr StoredBlob) : Prop :=
  ∀ stored, source = .ok stored → Counted stored.blob ∧ stored.blob.totalWritten ≤ uint32Max

/-- What is asked of a step: no clear, at most one ring full of rows between complete persists,
and a history that is loaded has been counted and continues the store's numbers. -/
def meets (w : Watched) (act : Act) : Prop :=
  match act, w.device.phase with
  | .init reads, .idle => SourceCounted reads.nvs ∧ SourceCounted reads.sd
  | .append a _, _ =>
    a.persist = true → w.store.window.mutationsSinceInit < messageStoreCapacity
  | .clear _, _ => False
  | .clearChannel _ _, _ => False
  | .reconcile (.found stored _), .reconciling _ =>
    stored.blob.totalWritten ≤ uint32Max ∧
      (replacesHistory w.store stored.blob = true →
        w.store.window.bootNextSeq ≤ stored.blob.nextSeq ∧ Counted stored.blob)
  | _, _ => True

section Since

variable {m h : History} {news : List Entry}

/-- `h` is `m` after the appends of `news`. -/
structure Since (m h : History) (news : List Entry) : Prop where
  numbers : news.map Entry.seq = List.range' m.nextSeq news.length
  rows : h.rows = keepLast messageStoreCapacity (m.rows ++ news)
  next : h.nextSeq = m.nextSeq + news.length
  total : h.totalWritten = m.totalWritten + news.length
  epoch : h.epoch = m.epoch
  lineage : h.clearLineage = m.clearLineage

theorem Since.refl (h : History) : Since h h [] :=
  ⟨rfl, by rw [List.append_nil, keepLast_of_length_le h.rows_le], rfl, rfl, rfl, rfl⟩

theorem Since.append (hs : Since m h news) {e : Entry} (hseq : e.seq = h.nextSeq) :
    Since m (h.append e) (news ++ [e]) := by
  refine ⟨?_, ?_, ?_, ?_, hs.epoch, hs.lineage⟩
  · rw [List.map_append, hs.numbers, List.map_singleton, hseq, hs.next, List.length_append,
      List.length_singleton, List.range'_concat]
    simp
  · change keepLast _ (h.rows ++ [e]) = _
    rw [hs.rows, keepLast_keepLast_append, List.append_assoc]
  · change h.nextSeq + 1 = _
    rw [hs.next, List.length_append, List.length_singleton, Nat.add_assoc]
  · change h.totalWritten + 1 = _
    rw [hs.total, List.length_append, List.length_singleton, Nat.add_assoc]

theorem Since.mem_news (hs : Since m h news) {e : Entry} (he : e ∈ news) :
    m.nextSeq ≤ e.seq ∧ e.seq < m.nextSeq + news.length := by
  have hmem : e.seq ∈ news.map Entry.seq := List.mem_map_of_mem he
  rw [hs.numbers, List.mem_range'_1] at hmem
  exact hmem

theorem Since.ascending (hs : Since m h news) (hm : HistoryOk m) :
    Ascending Entry.seq (m.rows ++ news) := by
  have hnews : Ascending Entry.seq news := by
    have hrange : (news.map Entry.seq).Pairwise (· < ·) := by
      rw [hs.numbers]
      exact List.pairwise_lt_range'
    exact List.pairwise_map.mp hrange
  exact hm.rows.ascending.append hnews fun a ha e he =>
    (hm.rows.below a ha).trans_le (hs.mem_news he).1

end Since

section Rows

variable {m h : History} {news : List Entry} (hs : Since m h news) (hm : HistoryOk m)
include hs hm

theorem since_clash_free {r k : Entry} (hr : r ∈ h.rows) (hk : k ∈ m.rows) (hseq : r.seq = k.seq) :
    r = k := by
  rw [hs.rows] at hr
  exact (hs.ascending hm).eq_of_key ((keepLast_sublist _ _).subset hr)
    (List.mem_append_left _ hk) hseq

theorem since_losers (w : Window) : losers w h.rows m.rows = [] := by
  refine List.eq_nil_iff_forall_not_mem.mpr fun e he => ?_
  obtain ⟨k, hk, hloser⟩ := mem_losers.mp he
  obtain ⟨_, r, hr, hseq, hne, _⟩ := loserOf_some hloser
  exact hne (since_clash_free hs hm hr hk hseq)

theorem since_sorted (w : Window) (hrows : Ascending Entry.seq h.rows) :
    keepLast messageStoreCapacity (sortByKey Entry.seq (keepers w h.rows m.rows)) = h.rows := by
  have hall := hs.ascending hm
  have hsuffix : m.rows ++ news =
      (m.rows ++ news).take ((m.rows ++ news).length - messageStoreCapacity) ++ h.rows := by
    rw [hs.rows]
    exact (List.take_append_drop _ _).symm
  have hbelow : ∀ x ∈ m.rows, x ∉ h.rows → ∀ r ∈ h.rows, x.seq < r.seq := fun x hx hnot r hr => by
    have hmem : x ∈ m.rows ++ news := List.mem_append_left _ hx
    rw [hsuffix] at hall hmem
    exact (List.pairwise_append.mp hall).2.2 x ((List.mem_append.mp hmem).resolve_right hnot) r hr
  have hsorted : sortByKey Entry.seq (keepers w h.rows m.rows) =
      m.rows.filter (fun x => decide (x ∉ h.rows)) ++ h.rows := by
    refine (ascending_sortByKey (keepers_nodup hrows hm.rows.ascending)).eq_of_mem_iff
      ((hm.rows.ascending.sublist List.filter_sublist).append hrows fun x hx r hr => ?_)
      fun x => ?_
    · obtain ⟨hx, hnot⟩ := List.mem_filter.mp hx
      exact hbelow x hx (of_decide_eq_true hnot) r hr
    · rw [mem_sortByKey, mem_keepers, since_losers hs hm, List.mem_append, List.mem_filter,
        decide_eq_true_eq]
      by_cases hx : x ∈ h.rows <;> simp [hx]
  rw [hsorted]
  by_cases hfull : h.rows.length = messageStoreCapacity
  · rw [← hfull]
    exact keepLast_append _ _
  · -- The ring has never been full, so it still has every row of the snapshot.
    have hlength : (m.rows ++ news).length ≤ messageStoreCapacity := by
      have hkept := congrArg List.length hs.rows
      rw [length_keepLast] at hkept
      omega
    have hsame : h.rows = m.rows ++ news := hs.rows.trans (keepLast_of_length_le hlength)
    have hnone : m.rows.filter (fun x => decide (x ∉ h.rows)) = [] := by
      refine List.filter_eq_nil_iff.mpr fun x hx => ?_
      rw [hsame]
      simp [hx]
    rw [hnone, List.nil_append, keepLast_of_length_le h.rows_le]

end Rows

section Counts

theorem countP_range' {bound first : Nat} (count : Nat) (h : first ≤ bound) :
    (List.range' first count).countP (fun n => decide (bound ≤ n)) = first + count - bound := by
  induction count with
  | zero =>
    rw [List.range'_zero, List.countP_nil]
    omega
  | succ count ih =>
    rw [List.range'_concat, List.countP_append, ih, List.countP_singleton]
    simp only [decide_eq_true_eq]
    split_ifs <;> omega

variable {m h : History} {news : List Entry} {bound : Nat}

theorem since_count (hs : Since m h news) (hm : HistoryOk m) (hbound : m.nextSeq ≤ bound) :
    h.rows.countP (fun e => decide (bound ≤ e.seq)) =
      min messageStoreCapacity (h.nextSeq - bound) := by
  have hold : m.rows.countP (fun e => decide (bound ≤ e.seq)) = 0 :=
    List.countP_eq_zero.mpr fun e he => by
      have := hm.rows.below e he
      simp only [decide_eq_true_eq]
      omega
  have hnew : news.countP (fun e => decide (bound ≤ e.seq)) = h.nextSeq - bound := by
    have hmap : (news.map Entry.seq).countP (fun n => decide (bound ≤ n)) = h.nextSeq - bound := by
      rw [hs.numbers, countP_range' _ hbound, hs.next]
    rw [← hmap, List.countP_map]
    rfl
  rw [hs.rows, (hs.ascending hm).countP_keepLast, List.countP_append, hold, hnew, Nat.zero_add]

theorem since_absent (hs : Since m h news) (hm : HistoryOk m) (hok : HistoryOk h) {e : Entry}
    (he : e ∈ h.rows) : m.rows.any (entriesEqual e) = false ↔ m.nextSeq ≤ e.seq := by
  have hside : e ∈ m.rows ++ news := by
    rw [hs.rows] at he
    exact (keepLast_sublist _ _).subset he
  have hequal : ∀ k ∈ m.rows, (entriesEqual e k = true ↔ e = k) := fun k hk =>
    entriesEqual_iff (entryIsValid_reserved (hok.rows.valid e he))
      (entryIsValid_reserved (hm.rows.valid k hk))
  rw [List.any_eq_false]
  constructor
  · intro hnone
    rcases List.mem_append.mp hside with hold | hnew
    · exact absurd ((hequal e hold).mpr rfl) (hnone e hold)
    · exact (hs.mem_news hnew).1
  · intro hlow k hk hsame
    have hek := (hequal k hk).mp hsame
    have := hm.rows.below k hk
    subst hek
    omega

theorem since_additional (hs : Since m h news) (hm : HistoryOk m) (hok : HistoryOk h) {w : Window}
    (hmutated : w.mutatedSinceInit = true) :
    additionalLiveCount h w (fillBlob m) =
      min messageStoreCapacity (h.nextSeq - max w.bootNextSeq m.nextSeq) +
        (w.mutationsSinceInit - h.rows.countP fun e => decide (w.bootNextSeq ≤ e.seq)) := by
  have hlive : ∀ e, w.isLive e = decide (w.bootNextSeq ≤ e.seq) := fun e => by
    rw [Window.isLive, hmutated, Bool.true_and]
  rw [additionalLiveCount, if_pos hmutated, ← since_count hs hm (Nat.le_max_right _ _)]
  dsimp only
  congr 1
  · rw [List.countP_filter]
    refine List.countP_congr fun e he => ?_
    have habsent := since_absent hs hm hok he
    rw [fillBlob_rows]
    simp only [hlive, Bool.and_eq_true, Bool.not_eq_true', decide_eq_true_eq, habsent]
    omega
  · congr 1
    rw [List.countP_eq_length_filter]
    congr 2
    funext e
    exact hlive e

end Counts

section Absorb

variable {s : Store} {m : History} {news : List Entry}

theorem mergeRows_since (hs : Since m s.history news) (hm : HistoryOk m) (hok : HistoryOk s.history) :
    ∃ acc, mergeRows s.history s.window (fillBlob m) = .ok acc ∧
      Merged s.history s.window (fillBlob m) m.rows acc := by
  have hb := (fillBlob_ok hm).rows
  have hrows := fillBlob_rows m
  rw [mergeRows, hrows]
  refine foldlM_ok_of_progress (Merged s.history s.window (fillBlob m)) merged_nil ?_
  intro done k post acc hsplit hmerged
  have hk : k ∈ m.rows := by
    rw [hsplit]
    exact List.mem_append_cons_self
  have hdone : ∀ d ∈ done, d.seq < k.seq := fun d hd => by
    have hasc := hm.rows.ascending
    rw [hsplit] at hasc
    exact (List.pairwise_append.mp hasc).2.2 d hd k List.mem_cons_self
  have hstep : ∃ acc', mergeIncoming s.window acc k = .ok acc' := by
    unfold mergeIncoming
    split
    · exact ⟨_, rfl⟩
    · rename_i before current after hfound
      obtain ⟨hsame, hcurrent, _⟩ := splitFirst_eq_some hfound
      have hseq : current.seq = k.seq := of_decide_eq_true hcurrent
      have hrow := ((merged_lookup hmerged (hm.rows.below k hk) hdone current).mp
        ⟨by rw [hsame]; exact List.mem_append_cons_self, hseq⟩).1
      have heq := since_clash_free hs hm hrow hk hseq
      have hreserved := entryIsValid_reserved (hm.rows.valid k hk)
      rw [if_pos ((entriesEqual_iff (heq ▸ hreserved) hreserved).mpr heq)]
      exact ⟨acc, rfl⟩
  obtain ⟨acc', hacc'⟩ := hstep
  exact ⟨acc', hacc', mergeIncoming_merged hmerged hok.rows hb (hrows.trans hsplit) hacc'⟩

/-- What the window has to do with a snapshot taken `count` appends ago. -/
structure WindowFits (h : History) (w : Window) (count : Nat) : Prop where
  retained : w.mutationsSinceInit ≤ h.rows.countP fun e => decide (w.bootNextSeq ≤ e.seq)
  opened : count ≤ w.mutationsSinceInit ∨ w.bootNextSeq + w.mutationsSinceInit = h.nextSeq

theorem since_total (hs : Since m s.history news) (hm : HistoryOk m) (hok : HistoryOk s.history)
    (hfits : WindowFits s.history s.window news.length)
    (hmax : s.history.totalWritten ≤ uint32Max) {acc : MergeAcc}
    (hadditional : acc.additionalCount = additionalLiveCount s.history s.window (fillBlob m))
    (hkept : keptRows acc = s.history.rows) :
    mergedTotal s.history s.window (fillBlob m) acc = s.history.totalWritten := by
  have htotal := hs.total
  have hnext := hs.next
  have hlength := hok.total
  have hcard : (fillBlob m).totalWritten = m.totalWritten := rfl
  unfold mergedTotal saturatingAdd
  rw [hadditional, hkept, hcard]
  dsimp only
  by_cases hmutated : s.window.mutatedSinceInit = true
  · have hretained := hfits.retained
    have hring : s.history.rows.countP (fun e => decide (s.window.bootNextSeq ≤ e.seq)) ≤
        messageStoreCapacity := List.countP_le_length.trans s.history.rows_le
    have hlive : m.nextSeq ≤ s.window.bootNextSeq →
        s.history.rows.countP (fun e => decide (s.window.bootNextSeq ≤ e.seq)) =
          min messageStoreCapacity (s.history.nextSeq - s.window.bootNextSeq) :=
      since_count hs hm
    rw [since_additional hs hm hok hmutated, if_pos hmutated, Nat.sub_eq_zero_of_le hretained,
      Nat.add_zero]
    have hcount : min messageStoreCapacity
        (s.history.nextSeq - max s.window.bootNextSeq m.nextSeq) =
          min news.length s.window.mutationsSinceInit := by
      rcases hfits.opened with hfew | halign
      · by_cases hboot : m.nextSeq ≤ s.window.bootNextSeq
        · have := hlive hboot
          omega
        · omega
      · omega
    rw [hcount]
    rcases hfits.opened with hfew | halign <;> split_ifs <;> omega
  · have hnone : additionalLiveCount s.history s.window (fillBlob m) = 0 := if_neg hmutated
    rw [hnone, if_neg hmutated]
    split_ifs <;> omega

theorem mergeBlobIntoRam_of_ok {b : Blob} {acc : MergeAcc}
    (hlineage : b.clearLineage = s.history.clearLineage) (hepoch : b.epoch = s.history.epoch)
    (hmerge : mergeRows s.history s.window b = .ok acc) :
    (mergeBlobIntoRam s b).ret = espOk ∧
      (mergeBlobIntoRam s b).store.history.rows = keptRows acc ∧
      (mergeBlobIntoRam s b).store.history.nextSeq = acc.nextSeq ∧
      (mergeBlobIntoRam s b).store.history.totalWritten =
        mergedTotal s.history s.window b acc ∧
      (mergeBlobIntoRam s b).store.history.droppedOldest =
        mergedTotal s.history s.window b acc - (keptRows acc).length := by
  unfold mergeBlobIntoRam
  rw [if_neg (by rw [hlineage, hepoch]; simp), if_neg (by rw [hepoch]; exact lt_irrefl _), hmerge]
  exact ⟨rfl, rfl, rfl, rfl, rfl⟩

theorem since_kept (hs : Since m s.history news) (hm : HistoryOk m) (hok : HistoryOk s.history) :
    ∃ acc, mergeRows s.history s.window (fillBlob m) = .ok acc ∧
      keptRows acc = s.history.rows ∧ acc.nextSeq = s.history.nextSeq ∧
      acc.additionalCount = additionalLiveCount s.history s.window (fillBlob m) := by
  obtain ⟨acc, hmerge, hmerged⟩ := mergeRows_since hs hm hok
  have hrows := fillBlob_rows m
  have hlosers := since_losers hs hm s.window
  refine ⟨acc, hmerge, ?_, ?_, hmerged.additional hlosers⟩
  · rw [keptRows_eq hok.rows (fillBlob_ok hm).rows (by rw [hrows]; exact hmerged), hrows, hlosers,
      renumber, List.append_nil]
    exact since_sorted hs hm s.window hok.rows.ascending
  · have hcard : (fillBlob m).nextSeq = m.nextSeq := rfl
    rw [hmerged.next, hlosers, hcard, hs.next, List.length_nil]
    omega

theorem absorbs_since (hs : Since m s.history news) (hm : HistoryOk m) (hok : HistoryOk s.history)
    (hfits : WindowFits s.history s.window news.length)
    (hcounted : s.history.droppedOldest + s.history.rows.length = s.history.totalWritten)
    (hmax : s.history.totalWritten ≤ uint32Max) : Absorbs s (fillBlob m) := by
  obtain ⟨acc, hmerge, hkept, hnext, hadditional⟩ := since_kept hs hm hok
  have htotal := since_total hs hm hok hfits hmax hadditional hkept
  obtain ⟨hret, hrows', hnext', htotal', hdropped'⟩ :=
    mergeBlobIntoRam_of_ok hs.lineage.symm hs.epoch.symm hmerge
  refine ⟨hret, hrows'.trans hkept, hnext'.trans hnext, htotal'.trans htotal, ?_⟩
  rw [hdropped', htotal, hkept]
  omega

end Absorb

end Sigui.Message

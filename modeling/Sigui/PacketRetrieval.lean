import Sigui.PacketJournal
import Sigui.PacketPaging

/-! The pages of a packet log and of its journal, read one after the other. -/
namespace Sigui.Packet

section Window

variable (s : PacketLog) (journal : CardJournal)

/-- The newest numbers, as many as the history has records; `d1l_packet_log_find_by_seq` asks the
card for no others. -/
def historyWindow : Nat := min s.sdHistoryRecords (s.nextSeq - 1)

def olderRecord (i : Nat) : Option Entry :=
  if s.nextSeq - 1 - i < ramOldestSeq s then readSdHistoryEntry journal (s.nextSeq - 1 - i)
  else none

/-- The records of the card that are older than the ring, and the ring. -/
def retained (sdEnabled : Bool) : List Entry :=
  (if sdEnabled then (List.range (historyWindow s)).reverse.filterMap (olderRecord s journal)
    else []) ++ s.rows

def retrievable (sdEnabled : Bool) : List Entry :=
  retained s journal sdEnabled ++ s.volatileEntry.toList

def scanned : List Entry :=
  (List.range (historyWindow s)).filterMap fun i => historyEntry s journal (s.nextSeq - 1 - i)

/-- The slots of the window can be read but for the oldest ones, which the segment that was begun
last has cut off. -/
def SlotsReadable : Prop :=
  ∃ held, ∀ i, i < historyWindow s →
    ((historyEntry s journal (s.nextSeq - 1 - i)).isSome ↔ i < held)

def SlotMissing (sdEnabled : Bool) : Prop :=
  usesHistory s sdEnabled = true ∧ s.rows ≠ [] ∧
    ∃ i, i < s.sdHistoryRecords ∧ historyEntry s journal (s.nextSeq - 1 - i) = none

end Window

section Ranges

variable {α : Type} {f : Nat → Option α}

theorem filterMap_range_initial {n held : Nat} (h : ∀ i, i < n → ((f i).isSome ↔ i < held)) :
    ((List.range n).filterMap f).length = min n held ∧
      ∀ i, i < n → f i = ((List.range n).filterMap f)[i]? := by
  induction n with
  | zero => exact ⟨by simp, fun i hi => absurd hi (Nat.not_lt_zero i)⟩
  | succ n ih =>
    obtain ⟨hlength, hget⟩ := ih fun i hi => h i (Nat.lt_succ_of_lt hi)
    rw [List.range_succ, List.filterMap_append]
    cases hn : f n with
    | none =>
      have hheld : ¬ n < held := by rw [← h n (Nat.lt_succ_self n), hn]; simp
      have hlast : [n].filterMap f = [] := by simp [hn]
      rw [hlast, List.append_nil]
      refine ⟨by omega, ?_⟩
      intro i hi
      rcases Nat.lt_succ_iff_lt_or_eq.mp hi with hi | rfl
      · exact hget i hi
      · rw [hn, List.getElem?_eq_none (by omega)]
    | some x =>
      have hheld : n < held := (h n (Nat.lt_succ_self n)).mp (by rw [hn]; rfl)
      have hlast : [n].filterMap f = [x] := by simp [hn]
      have hfull : ((List.range n).filterMap f).length = n := by omega
      rw [hlast]
      refine ⟨by rw [List.length_append, List.length_singleton]; omega, ?_⟩
      intro i hi
      rcases Nat.lt_succ_iff_lt_or_eq.mp hi with hi | rfl
      · rw [List.getElem?_append_left (by omega)]
        exact hget i hi
      · rw [hn, List.getElem?_append_right (by omega), hfull, Nat.sub_self]
        rfl

theorem filterMap_range_getElem? (l : List α) :
    (List.range l.length).filterMap (fun i => l[i]?) = l := by
  have hall : ∀ i, i < l.length → ((l[i]?).isSome ↔ i < l.length) := fun i _ => by simp
  obtain ⟨hlength, hget⟩ := filterMap_range_initial hall
  rw [Nat.min_self] at hlength
  apply List.ext_getElem?
  intro i
  rcases Nat.lt_or_ge i l.length with hi | hi
  · exact (hget i hi).symm
  · rw [List.getElem?_eq_none (hlength.trans_le hi), List.getElem?_eq_none hi]

end Ranges

section Rows

variable {s : PacketLog} {journal : CardJournal}

theorem Counted.newest (hs : Counted s) : s.rows.length ≤ s.nextSeq - 1 := by
  have hnext := hs.next
  have hfits := hs.fits
  omega

theorem Counted.ramWindow (hs : Counted s) (hrows : s.rows ≠ []) :
    ramOldestSeq s = s.nextSeq - s.rows.length ∧ ramNewestSeq s = s.nextSeq - 1 := by
  have hpos : 0 < s.rows.length := List.length_pos_iff.mpr hrows
  have hnewest := hs.newest
  have hfirst := hs.numbered.key_getElem hpos
  have hlast := hs.numbered.key_getElem (Nat.sub_lt hpos Nat.one_pos)
  constructor
  · rw [ramOldestSeq, List.head?_eq_getElem?, List.getElem?_eq_getElem hpos]
    exact hfirst
  · rw [ramNewestSeq, List.getLast?_eq_getElem?,
      List.getElem?_eq_getElem (Nat.sub_lt hpos Nat.one_pos)]
    refine hlast.trans ?_
    omega

theorem Counted.copyRow (hs : Counted s) {i : Nat} (hi : i < s.rows.length) :
    copyDurableRamEntryBySeq s (s.nextSeq - 1 - i) = s.rows.reverse[i]? := by
  have hnewest := hs.newest
  have hplace : s.rows.length - 1 - i < s.rows.length := by omega
  have hkey : (s.rows[s.rows.length - 1 - i]).seq = s.nextSeq - 1 - i := by
    rw [hs.numbered.key_getElem hplace]
    omega
  have hrow : s.rows.reverse[i]? = some s.rows[s.rows.length - 1 - i] := by
    rw [List.getElem?_reverse hi, List.getElem?_eq_getElem hplace]
  rw [copyDurableRamEntryBySeq, if_neg (by omega), hrow]
  cases hfind : s.rows.find? fun e => decide (e.seq = s.nextSeq - 1 - i) with
  | none =>
    have hnone := List.find?_eq_none.mp hfind _ (List.getElem_mem hplace)
    exact absurd (decide_eq_true hkey) hnone
  | some e =>
    have hseq : e.seq = s.nextSeq - 1 - i := by simpa using List.find?_some hfind
    rw [hs.numbered.ascending.eq_of_key (List.mem_of_find?_eq_some hfind)
      (List.getElem_mem hplace) (hseq.trans hkey.symm)]

theorem Counted.historyEntry_row (hs : Counted s) {i : Nat} (hi : i < s.rows.length) :
    historyEntry s journal (s.nextSeq - 1 - i) = s.rows.reverse[i]? := by
  have hrows : s.rows ≠ [] := List.length_pos_iff.mp (by omega)
  have hnewest := hs.newest
  obtain ⟨holdest, hlast⟩ := hs.ramWindow hrows
  have hwindow : (decide (0 < ramOldestSeq s) && decide (ramOldestSeq s ≤ s.nextSeq - 1 - i) &&
      decide (s.nextSeq - 1 - i ≤ ramNewestSeq s)) = true := by
    rw [holdest, hlast]
    simp only [Bool.and_eq_true, decide_eq_true_eq]
    omega
  have hlen : i < s.rows.reverse.length := by rwa [List.length_reverse]
  rw [historyEntry, hwindow, if_pos rfl, hs.copyRow hi, List.getElem?_eq_getElem hlen]

theorem Counted.historyEntry_older (hs : Counted s) (hrows : s.rows ≠ []) {i : Nat}
    (hi : s.rows.length ≤ i) :
    historyEntry s journal (s.nextSeq - 1 - i) = olderRecord s journal i := by
  have hnewest := hs.newest
  have hpos : 0 < s.rows.length := List.length_pos_iff.mpr hrows
  have holdest := (hs.ramWindow hrows).1
  have hbelow : s.nextSeq - 1 - i < ramOldestSeq s := by omega
  have hwindow : (decide (0 < ramOldestSeq s) && decide (ramOldestSeq s ≤ s.nextSeq - 1 - i) &&
      decide (s.nextSeq - 1 - i ≤ ramNewestSeq s)) = false := by
    rw [decide_eq_false (Nat.not_le.mpr hbelow)]
    simp
  rw [historyEntry, hwindow, olderRecord, if_pos hbelow]
  rfl

theorem Counted.olderRecord_row (hs : Counted s) {i : Nat} (hi : i < s.rows.length) :
    olderRecord s journal i = none := by
  have hrows : s.rows ≠ [] := List.length_pos_iff.mp (by omega)
  have hnewest := hs.newest
  have holdest := (hs.ramWindow hrows).1
  rw [olderRecord, if_neg (by omega)]

theorem Counted.scanned_reverse (hs : Counted s)
    (hmore : s.rows.length < s.sdHistoryRecords) : (scanned s journal).reverse =
      (List.range (historyWindow s)).reverse.filterMap (olderRecord s journal) ++ s.rows := by
  have hnewest := hs.newest
  obtain ⟨older, holder⟩ : ∃ older, historyWindow s = s.rows.length + older :=
    ⟨historyWindow s - s.rows.length, by unfold historyWindow; omega⟩
  have hrows : (List.range s.rows.length).filterMap
      (fun i => historyEntry s journal (s.nextSeq - 1 - i)) = s.rows.reverse := by
    have hget : ∀ i, i ∈ List.range s.rows.length →
        historyEntry s journal (s.nextSeq - 1 - i) = s.rows.reverse[i]? := fun i hi =>
      hs.historyEntry_row (List.mem_range.mp hi)
    have hall := filterMap_range_getElem? s.rows.reverse
    rw [List.length_reverse] at hall
    rw [List.filterMap_congr hget, hall]
  have hnone : (List.range s.rows.length).filterMap (olderRecord s journal) = [] := by
    rw [List.filterMap_eq_nil_iff]
    intro i hi
    exact hs.olderRecord_row (List.mem_range.mp hi)
  have hrest : ((List.range older).map (s.rows.length + ·)).filterMap
      (fun i => historyEntry s journal (s.nextSeq - 1 - i)) =
        ((List.range older).map (s.rows.length + ·)).filterMap (olderRecord s journal) := by
    apply List.filterMap_congr
    intro i hi
    obtain ⟨j, hj, rfl⟩ := List.mem_map.mp hi
    have hnonempty : s.rows ≠ [] := by
      intro hempty
      have htotal := hs.nonempty.mpr hempty
      have hnext := hs.next
      have hj := List.mem_range.mp hj
      unfold historyWindow at holder
      omega
    exact hs.historyEntry_older hnonempty (Nat.le_add_right _ _)
  rw [scanned, holder, List.range_add, List.filterMap_append, hrows, hrest, List.reverse_append,
    List.reverse_reverse, List.filterMap_reverse, List.filterMap_append, hnone, List.nil_append]

theorem Counted.older_nil (hs : Counted s) (hless : s.sdHistoryRecords ≤ s.rows.length) :
    (List.range (historyWindow s)).reverse.filterMap (olderRecord s journal) = [] := by
  rw [List.filterMap_eq_nil_iff]
  intro i hi
  have hwindow := List.mem_range.mp (List.mem_reverse.mp hi)
  unfold historyWindow at hwindow
  exact hs.olderRecord_row (by omega)

theorem Counted.retrievable_history (hs : Counted s) {sdEnabled : Bool}
    (hhistory : usesHistory s sdEnabled = true) :
    retrievable s journal sdEnabled = (scanned s journal).reverse ++ s.volatileEntry.toList := by
  obtain ⟨hsd, hmore⟩ := Bool.and_eq_true_iff.mp hhistory
  rw [retrievable, retained, if_pos hsd, hs.scanned_reverse (of_decide_eq_true hmore)]

theorem Counted.retrievable_ram (hs : Counted s) {sdEnabled : Bool}
    (hhistory : usesHistory s sdEnabled = false) :
    retrievable s journal sdEnabled = s.rows ++ s.volatileEntry.toList := by
  rw [retrievable, retained]
  split
  · rename_i hsd
    rw [usesHistory, hsd, Bool.true_and, decide_eq_false_iff_not, Nat.not_lt] at hhistory
    rw [hs.older_nil hhistory, List.nil_append]
  · rw [List.nil_append]

theorem Counted.retained_ascending (hs : Counted s) (sdEnabled : Bool) :
    Ascending Entry.seq (retained s journal sdEnabled) := by
  have holder : ∀ {i : Nat} {e : Entry}, olderRecord s journal i = some e →
      e.seq = s.nextSeq - 1 - i ∧ e.seq < ramOldestSeq s := by
    intro i e h
    unfold olderRecord at h
    split at h
    · rename_i hbelow
      have hseq := readSdHistoryEntry_seq h
      exact ⟨hseq, hseq ▸ hbelow⟩
    · cases h
  rw [retained]
  refine Ascending.append ?_ hs.numbered.ascending ?_
  · split
    · rw [Ascending, List.pairwise_filterMap, List.pairwise_reverse]
      refine List.pairwise_lt_range.imp_of_mem ?_
      intro i j hi hj hlt x hx y hy
      rw [(holder hx).1, (holder hy).1]
      have hwindow := List.mem_range.mp hj
      unfold historyWindow at hwindow
      omega
    · exact .nil
  · intro x hx y hy
    have hrows : s.rows ≠ [] := List.ne_nil_of_mem hy
    have hy' := (hs.numbered.key_lt hy).1
    split at hx
    · obtain ⟨i, -, hi⟩ := List.mem_filterMap.mp hx
      have hx' := (holder hi).2
      rw [(hs.ramWindow hrows).1] at hx'
      exact hx'.trans_le hy'
    · cases hx

theorem SlotsReadable.records (h : SlotsReadable s journal) (q : HistoryQuery)
    (hread : q.read = historyEntry s journal) (hnew : q.newestSeq = s.nextSeq - 1) :
    ScanRecords q s.sdHistoryRecords (scanned s journal) := by
  obtain ⟨held, hheld⟩ := h
  obtain ⟨hlength, hget⟩ := filterMap_range_initial hheld
  refine ⟨?_, ?_⟩
  · intro i hi
    rw [hnew] at hi
    rw [hread, hnew]
    exact hget i hi
  · rw [hnew]
    exact hlength.trans_le (Nat.min_le_left _ _)

theorem SlotsReadable.scanned_length_lt (h : SlotsReadable s journal) (hs : Counted s) :
    (scanned s journal).length < s.sdHistoryRecords ↔
      ∃ i, i < s.sdHistoryRecords ∧ historyEntry s journal (s.nextSeq - 1 - i) = none := by
  obtain ⟨held, hheld⟩ := h
  have hlength : (scanned s journal).length = min (historyWindow s) held :=
    (filterMap_range_initial hheld).1
  rw [hlength]
  constructor
  · intro hless
    refine ⟨min (historyWindow s) held, hless, ?_⟩
    by_cases hwindow : min (historyWindow s) held < historyWindow s
    · have hmissing := mt (hheld _ hwindow).mp (by omega)
      rwa [Option.not_isSome_iff_eq_none] at hmissing
    · -- the window ends with the first number
      have hzero : s.nextSeq - 1 - min (historyWindow s) held = 0 := by
        unfold historyWindow at hwindow hless ⊢
        omega
      have hnewest := hs.newest
      rw [hzero]
      rw [historyEntry, copyDurableRamEntryBySeq, if_pos rfl, readSdHistoryEntry, if_pos rfl]
      simp
  · rintro ⟨i, hi, hmissing⟩
    by_contra hfull
    have hi' : i < historyWindow s ∧ i < held := by omega
    have hfound := (hheld i hi'.1).mpr hi'.2
    rw [hmissing] at hfound
    cases hfound

end Rows

section Pages

variable {s : PacketLog} {journal : CardJournal} {sdEnabled wantTotal : Bool} {m skip : Nat}
  {f : PacketFilter}

theorem queryRamLocked_eq (s : PacketLog) (m skip : Nat) (f : PacketFilter) :
    queryRamLocked s m skip f =
      (pageBack ((s.rows ++ s.volatileEntry.toList).filter (packetMatches f)) m skip,
        ((s.rows ++ s.volatileEntry.toList).filter (packetMatches f)).length) := by
  rw [queryRamLocked]
  dsimp only
  split
  · rename_i hskip
    rw [pageBack_of_length_le hskip]
  · rename_i hskip
    rw [take_drop_eq_pageBack (Nat.not_le.mp hskip)]

theorem SlotsReadable.history_entries (h : SlotsReadable s journal) (q : HistoryQuery)
    (hread : q.read = historyEntry s journal) (hnew : q.newestSeq = s.nextSeq - 1) :
    (querySdHistory q s.sdHistoryRecords).entries =
      pageBack ((scanned s journal).reverse.filter (packetMatches q.filter)) q.maxEntries
        q.skipNewest := by
  have hrecords := h.records q hread hnew
  have hfits := hrecords.fits
  rw [pageBack, List.filter_reverse, List.reverse_reverse, querySdHistory]
  split
  · rw [List.eq_nil_of_length_eq_zero (l := scanned s journal) (by omega)]
    simp
  · dsimp only
    have hpassed : passedMatches q 0 {} = 0 := by
      rw [passedMatches]
      split <;> rfl
    rw [hrecords.copied (Nat.add_zero _), hpassed]
    simp

end Pages

end Sigui.Packet

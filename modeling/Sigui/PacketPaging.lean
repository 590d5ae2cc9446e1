import Sigui.PacketQuery
import Sigui.PacketRuns
import Sigui.Pages

/-! What the pages of a query add up to. The scan walks down from the newest number; as long as
only the oldest numbers are missing, it walks along one list, and a page is a part of that list. -/
namespace Sigui.Packet

section Scan

variable {q : HistoryQuery}

theorem scanHistory_none {left scanned : Nat} {scan : HistoryScan}
    (h : ∀ i, scanned ≤ i → i < scanned + left → i < q.newestSeq →
      q.read (q.newestSeq - i) = none) :
    (scanHistory q left scanned scan).copied = scan.copied ∧
      (scanHistory q left scanned scan).totalMatches = scan.totalMatches ∧
      (scanHistory q left scanned scan).validRecords = scan.validRecords := by
  induction left generalizing scanned scan with
  | zero => exact ⟨rfl, rfl, rfl⟩
  | succ left ih =>
    rw [scanHistory]
    by_cases hend : q.newestSeq ≤ scanned
    · rw [if_pos hend]
      exact ⟨rfl, rfl, rfl⟩
    have hmiss : q.read (q.newestSeq - scanned) = none := h scanned (by omega) (by omega) (by omega)
    rw [if_neg hend, hmiss]
    dsimp only
    split
    · exact ⟨rfl, rfl, rfl⟩
    · exact ih fun i hi hleft hnew => h i (by omega) (by omega) hnew

/-- The records that a scan of `records` numbers comes by, newest first. -/
structure ScanRecords (q : HistoryQuery) (records : Nat) (found : List Entry) : Prop where
  read : ∀ i, i < min records q.newestSeq → q.read (q.newestSeq - i) = found[i]?
  fits : found.length ≤ min records q.newestSeq

variable {records left scanned : Nat} {found : List Entry}

theorem ScanRecords.none_left (hfound : ScanRecords q records found)
    (hleft : left + scanned = records) (hend : found.length ≤ scanned) (scan : HistoryScan) :
    (scanHistory q left scanned scan).copied = scan.copied ∧
      (scanHistory q left scanned scan).totalMatches = scan.totalMatches ∧
      (scanHistory q left scanned scan).validRecords = scan.validRecords := by
  apply scanHistory_none
  intro i hi hrange hnew
  rw [hfound.read i (by omega), List.getElem?_eq_none (by omega)]

def passedMatches (q : HistoryQuery) (scanned : Nat) (scan : HistoryScan) : Nat :=
  if packetQueryUnfiltered q.filter then scanned else scan.totalMatches

def noteMatch (q : HistoryQuery) (scan : HistoryScan) : HistoryScan :=
  { scan with
    totalMatches :=
      if packetQueryUnfiltered q.filter then scan.totalMatches else scan.totalMatches + 1
    validRecords := scan.validRecords + 1
    consecutiveMisses := 0 }

theorem passedMatches_noteMatch (scanned : Nat) (scan : HistoryScan) :
    passedMatches q (scanned + 1) (noteMatch q scan) = passedMatches q scanned scan + 1 := by
  unfold passedMatches noteMatch
  split <;> rfl

theorem scanHistory_match {entry : Entry} (hnew : scanned < q.newestSeq)
    (hread : q.read (q.newestSeq - scanned) = some entry)
    (hmatch : packetMatches q.filter entry = true) (scan : HistoryScan) :
    scanHistory q (left + 1) scanned scan =
      if passedMatches q scanned scan < q.skipNewest then
        scanHistory q left (scanned + 1) (noteMatch q scan)
      else if scan.copied.length < q.maxEntries then
        if packetQueryUnfiltered q.filter && decide (q.maxEntries ≤ scan.copied.length + 1) then
          { noteMatch q scan with copied := scan.copied ++ [entry] }
        else
          scanHistory q left (scanned + 1)
            { noteMatch q scan with copied := scan.copied ++ [entry] }
      else if !q.wantTotal || packetQueryUnfiltered q.filter then noteMatch q scan
      else scanHistory q left (scanned + 1) (noteMatch q scan) := by
  rw [scanHistory, if_neg (by omega), hread]
  dsimp only
  rw [hmatch, if_neg (by decide)]
  unfold passedMatches noteMatch
  cases hall : packetQueryUnfiltered q.filter with
  | true =>
    simp only [if_true, Bool.true_and, Bool.or_true, List.length_append, List.length_singleton]
    split
    · rfl
    split
    · rfl
    · rename_i hfull
      rw [decide_eq_true (Nat.not_lt.mp hfull)]
      simp
  | false =>
    simp only [Bool.false_eq_true, if_false, Bool.false_and, Bool.or_false,
      Nat.add_sub_cancel]

theorem scanHistory_other {entry : Entry} (hnew : scanned < q.newestSeq)
    (hread : q.read (q.newestSeq - scanned) = some entry)
    (hmatch : packetMatches q.filter entry = false) (scan : HistoryScan) :
    scanHistory q (left + 1) scanned scan = scanHistory q left (scanned + 1)
      { scan with consecutiveMisses := 0, validRecords := scan.validRecords + 1 } := by
  rw [scanHistory, if_neg (by omega), hread]
  dsimp only
  rw [hmatch, if_pos (by decide)]

theorem unfiltered_of_other {f : PacketFilter} {e : Entry} (h : packetMatches f e = false) :
    packetQueryUnfiltered f = false := by
  cases hall : packetQueryUnfiltered f with
  | false => rfl
  | true =>
    rw [packetMatches_of_unfiltered hall] at h
    cases h

theorem ScanRecords.at_record (hfound : ScanRecords q records found)
    (hend : scanned < found.length) : ∃ entry, scanned < q.newestSeq ∧
      q.read (q.newestSeq - scanned) = some entry ∧
      found.drop scanned = entry :: found.drop (scanned + 1) := by
  have hfits := hfound.fits
  refine ⟨found[scanned], by omega, ?_, List.drop_eq_getElem_cons hend⟩
  rw [hfound.read scanned (by omega), List.getElem?_eq_getElem hend]

theorem ScanRecords.copied (hfound : ScanRecords q records found)
    (hleft : left + scanned = records) (scan : HistoryScan) :
    (scanHistory q left scanned scan).copied = scan.copied ++
      ((((found.drop scanned).filter (packetMatches q.filter)).drop
        (q.skipNewest - passedMatches q scanned scan)).take
          (q.maxEntries - scan.copied.length)) := by
  induction left generalizing scanned scan with
  | zero =>
    have hfits := hfound.fits
    rw [scanHistory, List.drop_of_length_le (l := found) (by omega)]
    simp
  | succ left ih =>
    by_cases hend : found.length ≤ scanned
    · rw [(hfound.none_left hleft hend scan).1, List.drop_of_length_le (l := found) hend]
      simp
    obtain ⟨entry, hnew, hread, hdrop⟩ := hfound.at_record (Nat.not_le.mp hend)
    have hnext : left + (scanned + 1) = records := by omega
    rw [hdrop, List.filter_cons]
    cases hmatch : packetMatches q.filter entry with
    | false =>
      rw [scanHistory_other hnew hread hmatch, if_neg (by decide), ih hnext, passedMatches,
        passedMatches, unfiltered_of_other hmatch]
      simp
    | true =>
      have hpassed := passedMatches_noteMatch (q := q) scanned scan
      rw [scanHistory_match hnew hread hmatch, if_pos rfl]
      by_cases hskip : passedMatches q scanned scan < q.skipNewest
      · have hstep : q.skipNewest - passedMatches q scanned scan =
            q.skipNewest - passedMatches q (scanned + 1) (noteMatch q scan) + 1 := by omega
        rw [if_pos hskip, ih hnext, hstep, List.drop_succ_cons]
        rfl
      have hzero : q.skipNewest - passedMatches q scanned scan = 0 := by omega
      rw [if_neg hskip, hzero, List.drop_zero]
      by_cases hroom : scan.copied.length < q.maxEntries
      · obtain ⟨room, hroom'⟩ : ∃ room, q.maxEntries - scan.copied.length = room + 1 :=
          ⟨q.maxEntries - scan.copied.length - 1, by omega⟩
        rw [if_pos hroom, hroom', List.take_succ_cons]
        split
        · rename_i hlast
          have hlast := of_decide_eq_true (Bool.and_eq_true_iff.mp hlast).2
          rw [show room = 0 by omega, List.take_zero]
        · have hpassed' : passedMatches q (scanned + 1)
              { noteMatch q scan with copied := scan.copied ++ [entry] } =
                passedMatches q scanned scan + 1 := hpassed
          have hdone : q.skipNewest - (passedMatches q scanned scan + 1) = 0 := by omega
          have hleft' : q.maxEntries - (scan.copied ++ [entry]).length = room := by
            rw [List.length_append, List.length_singleton]
            omega
          rw [ih hnext, hpassed', hdone, List.drop_zero, hleft', List.append_assoc,
            List.singleton_append]
      · rw [if_neg hroom, show q.maxEntries - scan.copied.length = 0 by omega, List.take_zero]
        split
        · rw [List.append_nil]
          rfl
        · have hfull : q.maxEntries - (noteMatch q scan).copied.length = 0 := by
            have hsame : (noteMatch q scan).copied = scan.copied := rfl
            rw [hsame]
            omega
          rw [ih hnext, hfull, List.take_zero]
          rfl

theorem ScanRecords.totalMatches (hfound : ScanRecords q records found)
    (hleft : left + scanned = records) (hfilter : packetQueryUnfiltered q.filter = false)
    (htotal : q.wantTotal = true) (scan : HistoryScan) :
    (scanHistory q left scanned scan).totalMatches =
      scan.totalMatches + ((found.drop scanned).filter (packetMatches q.filter)).length := by
  induction left generalizing scanned scan with
  | zero =>
    have hfits := hfound.fits
    rw [scanHistory, List.drop_of_length_le (l := found) (by omega)]
    rfl
  | succ left ih =>
    by_cases hend : found.length ≤ scanned
    · rw [(hfound.none_left hleft hend scan).2.1, List.drop_of_length_le (l := found) hend]
      rfl
    obtain ⟨entry, hnew, hread, hdrop⟩ := hfound.at_record (Nat.not_le.mp hend)
    have hnext : left + (scanned + 1) = records := by omega
    rw [hdrop, List.filter_cons]
    cases hmatch : packetMatches q.filter entry with
    | false => rw [scanHistory_other hnew hread hmatch, if_neg (by decide), ih hnext]
    | true =>
      -- without a filter the scan would stop early; with one, every branch goes on
      have hcount : ∀ scan' : HistoryScan, scan'.totalMatches = scan.totalMatches + 1 →
          (scanHistory q left (scanned + 1) scan').totalMatches = scan.totalMatches +
            (entry :: (found.drop (scanned + 1)).filter (packetMatches q.filter)).length := by
        intro scan' hscan'
        rw [ih hnext, hscan', List.length_cons]
        omega
      have hnote : (noteMatch q scan).totalMatches = scan.totalMatches + 1 := by
        simp only [noteMatch, hfilter, Bool.false_eq_true, if_false]
      rw [scanHistory_match hnew hread hmatch, if_pos rfl, hfilter, htotal]
      simp only [Bool.false_and, Bool.not_true, Bool.or_false, Bool.false_eq_true, if_false]
      split
      · exact hcount _ hnote
      split
      · exact hcount _ hnote
      · exact hcount _ hnote

theorem le_scanHistory_validRecords {n : Nat} {scan : HistoryScan} (h : n ≤ scan.validRecords) :
    n ≤ (scanHistory q left scanned scan).validRecords := by
  induction left generalizing scanned scan with
  | zero => exact h
  | succ left ih =>
    by_cases hnew : q.newestSeq ≤ scanned
    · rw [scanHistory, if_pos hnew]
      exact h
    cases hread : q.read (q.newestSeq - scanned) with
    | none =>
      rw [scanHistory, if_neg hnew, hread]
      dsimp only
      split
      · exact h
      · exact ih h
    | some entry =>
      have hnew := Nat.not_le.mp hnew
      have hmore : n ≤ scan.validRecords + 1 := h.trans (Nat.le_succ _)
      cases hmatch : packetMatches q.filter entry with
      | false =>
        rw [scanHistory_other hnew hread hmatch]
        exact ih hmore
      | true =>
        rw [scanHistory_match hnew hread hmatch]
        split
        · exact ih hmore
        split
        · split
          · exact hmore
          · exact ih hmore
        split
        · exact hmore
        · exact ih hmore

theorem scanHistory_validRecords_pos {entry : Entry} (hnew : 0 < q.newestSeq)
    (hread : q.read q.newestSeq = some entry) :
    0 < (scanHistory q (left + 1) 0 {}).validRecords := by
  have hread' : q.read (q.newestSeq - 0) = some entry := hread
  cases hmatch : packetMatches q.filter entry with
  | false =>
    rw [scanHistory_other hnew hread' hmatch]
    exact le_scanHistory_validRecords (Nat.le_refl 1)
  | true =>
    rw [scanHistory_match hnew hread' hmatch]
    split
    · exact le_scanHistory_validRecords (Nat.le_refl 1)
    split
    · split
      · exact Nat.le_refl 1
      · exact le_scanHistory_validRecords (Nat.le_refl 1)
    split
    · exact Nat.le_refl 1
    · exact le_scanHistory_validRecords (Nat.le_refl 1)

end Scan

end Sigui.Packet

import Sigui.PacketRetrieval

/-! Whether the pages of a packet history add up to what can be had of it, and whether the total
that goes with a page is their number. -/
namespace Sigui.Packet

section Query

variable {s : PacketLog} {journal : CardJournal} {sdEnabled wantTotal : Bool} {m skip : Nat}
  {f : PacketFilter}

def matchingPreview (s : PacketLog) (f : PacketFilter) : Option Entry :=
  s.volatileEntry.filter (packetMatches f)

/-- The preview takes a place of the first page, and every later page is one record off. -/
def pageQuery (s : PacketLog) (journal : CardJournal) (wantTotal : Bool) (m skip : Nat)
    (f : PacketFilter) : HistoryQuery where
  read := historyEntry s journal
  filter := f
  maxEntries := m - (if (matchingPreview s f).isSome && decide (skip = 0) then 1 else 0)
  skipNewest := skip - (if (matchingPreview s f).isSome && decide (0 < skip) then 1 else 0)
  newestSeq := s.nextSeq - 1
  wantTotal := wantTotal

theorem queryPage_of_history (h : usesHistory s sdEnabled = true) :
    queryPage s journal sdEnabled wantTotal m skip f =
      if 0 < (querySdHistory (pageQuery s journal wantTotal m skip f)
          s.sdHistoryRecords).validRecords ∨ 0 < skip then
        ((querySdHistory (pageQuery s journal wantTotal m skip f) s.sdHistoryRecords).entries ++
            (if (matchingPreview s f).isSome && decide (skip = 0) then
              (matchingPreview s f).toList else []),
          (querySdHistory (pageQuery s journal wantTotal m skip f)
            s.sdHistoryRecords).totalMatches + if (matchingPreview s f).isSome then 1 else 0)
      else queryRamLocked s m skip f := by
  rw [queryPage, h]
  rfl

theorem queryPage_of_ram (h : usesHistory s sdEnabled = false) :
    queryPage s journal sdEnabled wantTotal m skip f = queryRamLocked s m skip f := by
  rw [queryPage, h]
  rfl

theorem filter_preview (s : PacketLog) (f : PacketFilter) :
    s.volatileEntry.toList.filter (packetMatches f) = (matchingPreview s f).toList := by
  unfold matchingPreview
  cases s.volatileEntry with
  | none => rfl
  | some e =>
    cases hmatch : packetMatches f e with
    | true => simp [hmatch, Option.filter]
    | false => simp [hmatch, Option.filter]

theorem Counted.scanned_nil (hs : Counted s) (hrows : s.rows = []) : scanned s journal = [] := by
  have hnext := hs.next
  rw [hs.nonempty.mpr hrows] at hnext
  rw [scanned, historyWindow, hnext, Nat.zero_add, Nat.sub_self, Nat.min_zero]
  rfl

theorem Counted.validRecords_pos (hs : Counted s) (hrows : s.rows ≠ [])
    (hmore : s.rows.length < s.sdHistoryRecords) :
    0 < (querySdHistory (pageQuery s journal wantTotal m skip f)
      s.sdHistoryRecords).validRecords := by
  have hpos : 0 < s.rows.length := List.length_pos_iff.mpr hrows
  have hnewest := hs.newest
  have hlen : 0 < s.rows.reverse.length := by rwa [List.length_reverse]
  obtain ⟨left, hleft⟩ : ∃ left, s.sdHistoryRecords = left + 1 :=
    ⟨s.sdHistoryRecords - 1, by omega⟩
  have hread : (pageQuery s journal wantTotal m skip f).read
      (pageQuery s journal wantTotal m skip f).newestSeq = some s.rows.reverse[0] := by
    have hrow : historyEntry s journal (s.nextSeq - 1 - 0) = s.rows.reverse[0]? :=
      hs.historyEntry_row hpos
    rw [List.getElem?_eq_getElem hlen] at hrow
    exact hrow
  have hnew : 0 < (pageQuery s journal wantTotal m skip f).newestSeq := by
    show 0 < s.nextSeq - 1
    omega
  rw [querySdHistory, if_neg (by omega), hleft]
  exact scanHistory_validRecords_pos hnew hread

theorem Counted.queryPage_entries (hs : Counted s) (hslots : SlotsReadable s journal)
    (hm : 0 < m) : (queryPage s journal sdEnabled wantTotal m skip f).1 =
      pageBack ((retrievable s journal sdEnabled).filter (packetMatches f)) m skip := by
  cases hhistory : usesHistory s sdEnabled with
  | false => rw [queryPage_of_ram hhistory, queryRamLocked_eq, hs.retrievable_ram hhistory]
  | true =>
    have hmore := of_decide_eq_true (Bool.and_eq_true_iff.mp hhistory).2
    rw [queryPage_of_history hhistory, hs.retrievable_history hhistory]
    by_cases hused : 0 < (querySdHistory (pageQuery s journal wantTotal m skip f)
        s.sdHistoryRecords).validRecords ∨ 0 < skip
    · rw [if_pos hused, hslots.history_entries _ rfl rfl, List.filter_append, filter_preview]
      show pageBack ((scanned s journal).reverse.filter (packetMatches f))
        (m - if (matchingPreview s f).isSome && decide (skip = 0) then 1 else 0)
        (skip - if (matchingPreview s f).isSome && decide (0 < skip) then 1 else 0) ++ _ = _
      generalize (scanned s journal).reverse.filter (packetMatches f) = found
      cases matchingPreview s f with
      | none => simp
      | some e =>
        obtain ⟨limit, rfl⟩ : ∃ limit, m = limit + 1 := ⟨m - 1, by omega⟩
        rcases Nat.eq_zero_or_pos skip with rfl | hskip
        · exact (pageBack_append found e limit).symm
        · obtain ⟨below, rfl⟩ : ∃ below, skip = below + 1 := ⟨skip - 1, by omega⟩
          simpa using (pageBack_append_succ found e (limit + 1) below).symm
    · obtain ⟨hnone, hskip⟩ := not_or.mp hused
      have hrows : s.rows = [] := by
        by_contra hrows
        exact hnone (hs.validRecords_pos hrows hmore)
      rw [if_neg hused, queryRamLocked_eq, hs.scanned_nil hrows, hrows]
      rfl

theorem SlotsReadable.history_matches (h : SlotsReadable s journal)
    (hfilter : packetQueryUnfiltered f = false) :
    (querySdHistory (pageQuery s journal true m skip f) s.sdHistoryRecords).totalMatches =
      ((scanned s journal).reverse.filter (packetMatches f)).length := by
  have hrecords := h.records (pageQuery s journal true m skip f) rfl rfl
  have hfits := hrecords.fits
  have hquery : (pageQuery s journal true m skip f).filter = f := rfl
  rw [List.filter_reverse, List.length_reverse, querySdHistory]
  split
  · rw [List.eq_nil_of_length_eq_zero (l := scanned s journal) (by omega)]
    rfl
  · dsimp only
    rw [hquery, hfilter, if_neg (by decide), hrecords.totalMatches (Nat.add_zero _) hfilter rfl,
      hquery]
    simp

theorem Counted.history_claim (hs : Counted s) (hrows : s.rows ≠ [])
    (hmore : s.rows.length < s.sdHistoryRecords) (hall : packetQueryUnfiltered f = true) :
    (querySdHistory (pageQuery s journal true m skip f) s.sdHistoryRecords).totalMatches =
      s.sdHistoryRecords := by
  have hpos : 0 < s.rows.length := List.length_pos_iff.mpr hrows
  have hnewest := hs.newest
  have hnew : (pageQuery s journal true m skip f).newestSeq = s.nextSeq - 1 := rfl
  have hquery : (pageQuery s journal true m skip f).filter = f := rfl
  rw [querySdHistory, if_neg (by omega)]
  dsimp only
  rw [hquery, hall, if_pos rfl]

theorem filter_of_unfiltered (hall : packetQueryUnfiltered f = true) (l : List Entry) :
    l.filter (packetMatches f) = l :=
  List.filter_eq_self.mpr fun e _ => packetMatches_of_unfiltered hall e

theorem Counted.queryPage_total (hs : Counted s) (hslots : SlotsReadable s journal) :
    (queryPage s journal sdEnabled true m skip f).2 =
        ((retrievable s journal sdEnabled).filter (packetMatches f)).length ↔
      ¬ (packetQueryUnfiltered f = true ∧ SlotMissing s journal sdEnabled) := by
  cases hhistory : usesHistory s sdEnabled with
  | false =>
    rw [queryPage_of_ram hhistory, queryRamLocked_eq, hs.retrievable_ram hhistory]
    refine ⟨?_, fun _ => rfl⟩
    rintro - ⟨-, hmissing⟩
    rw [hmissing.1] at hhistory
    cases hhistory
  | true =>
    have hmore := of_decide_eq_true (Bool.and_eq_true_iff.mp hhistory).2
    have hpreview : (if (matchingPreview s f).isSome = true then 1 else 0) =
        (matchingPreview s f).toList.length := by
      cases matchingPreview s f <;> rfl
    rw [queryPage_of_history hhistory, hs.retrievable_history hhistory, List.filter_append,
      filter_preview]
    by_cases hrows : s.rows = []
    · -- nothing is found, nothing is claimed
      have hnone : ¬ SlotMissing s journal sdEnabled := fun h => h.2.1 hrows
      have hnew : (pageQuery s journal true m skip f).newestSeq = 0 := by
        have hnext := hs.next
        rw [hs.nonempty.mpr hrows] at hnext
        show s.nextSeq - 1 = 0
        omega
      refine ⟨fun _ h => hnone h.2, fun _ => ?_⟩
      have hram : queryRamLocked s m skip f =
          (pageBack (matchingPreview s f).toList m skip, (matchingPreview s f).toList.length) := by
        rw [queryRamLocked_eq, hrows, List.nil_append, filter_preview]
      rw [hs.scanned_nil hrows, querySdHistory, if_pos (Or.inr hnew), hram, hpreview]
      split
      · simp
      · simp
    · rw [if_pos (Or.inl (hs.validRecords_pos hrows hmore))]
      dsimp only
      rw [hpreview, List.length_append]
      cases hfilter : packetQueryUnfiltered f with
      | false =>
        rw [hslots.history_matches hfilter]
        exact ⟨fun _ h => absurd h.1 (by decide), fun _ => rfl⟩
      | true =>
        have hfits : (scanned s journal).length ≤ s.sdHistoryRecords :=
          (hslots.records (pageQuery s journal true m skip f) rfl rfl).fits.trans
            (Nat.min_le_left _ _)
        have hmissing : SlotMissing s journal sdEnabled ↔
            (scanned s journal).length < s.sdHistoryRecords := by
          rw [hslots.scanned_length_lt hs]
          exact ⟨fun h => h.2.2, fun h => ⟨hhistory, hrows, h⟩⟩
        rw [hs.history_claim hrows hmore hfilter, filter_of_unfiltered hfilter,
          List.length_reverse, hmissing]
        constructor
        · rintro htotal ⟨-, hless⟩
          omega
        · intro h
          have hless : ¬ (scanned s journal).length < s.sdHistoryRecords := fun hless =>
            h ⟨rfl, hless⟩
          omega

end Query

section Exact

structure PagingExact (s : PacketLog) (journal : CardJournal) (sdEnabled : Bool) (m : Nat)
    (f : PacketFilter) : Prop where
  pages : ∀ wantTotal k,
    ((retrievable s journal sdEnabled).filter (packetMatches f)).length ≤ k * m →
      (List.range k).reverse.flatMap
          (fun i => (queryPage s journal sdEnabled wantTotal m (i * m) f).1) =
        (retrievable s journal sdEnabled).filter (packetMatches f)
  ordered : Ascending Entry.seq ((retrievable s journal sdEnabled).filter (packetMatches f))
  total : ∀ i, (queryPage s journal sdEnabled true m (i * m) f).2 =
    ((retrievable s journal sdEnabled).filter (packetMatches f)).length

def PreviewInOrder (s : PacketLog) (journal : CardJournal) (sdEnabled : Bool) (f : PacketFilter) :
    Prop :=
  ∀ preview, s.volatileEntry = some preview → packetMatches f preview = true →
    ∀ e ∈ retained s journal sdEnabled, packetMatches f e = true → e.seq < preview.seq

variable {s : PacketLog} {journal : CardJournal} {sdEnabled : Bool} {m : Nat} {f : PacketFilter}

theorem Counted.ordered_iff (hs : Counted s) :
    Ascending Entry.seq ((retrievable s journal sdEnabled).filter (packetMatches f)) ↔
      PreviewInOrder s journal sdEnabled f := by
  have hretained : Ascending Entry.seq
      ((retained s journal sdEnabled).filter (packetMatches f)) :=
    (hs.retained_ascending sdEnabled).sublist List.filter_sublist
  rw [retrievable, List.filter_append, Ascending, List.pairwise_append]
  constructor
  · rintro ⟨-, -, habove⟩ preview hpreview hmatch e he hematch
    refine habove e (List.mem_filter.mpr ⟨he, hematch⟩) preview ?_
    rw [hpreview]
    exact List.mem_filter.mpr ⟨List.mem_singleton.mpr rfl, hmatch⟩
  · intro h
    refine ⟨hretained, ?_, ?_⟩
    · cases s.volatileEntry with
      | none => exact .nil
      | some preview => exact (List.pairwise_singleton _ _).sublist List.filter_sublist
    · intro e he preview hp
      obtain ⟨he, hematch⟩ := List.mem_filter.mp he
      obtain ⟨hp, hmatch⟩ := List.mem_filter.mp hp
      exact h preview (Option.mem_toList.mp hp) hmatch e he hematch

/-- The pages of any size give every retrievable match once. They are in order of the numbers and
the total is right, unless a preview was overtaken by a merge, or a query without a filter takes
the history's count for the records that a new segment has cut off. -/
theorem paging_exact_iff (hs : Counted s) (hslots : SlotsReadable s journal) (hm : 0 < m) :
    PagingExact s journal sdEnabled m f ↔ PreviewInOrder s journal sdEnabled f ∧
      ¬ (packetQueryUnfiltered f = true ∧ SlotMissing s journal sdEnabled) := by
  constructor
  · intro h
    exact ⟨hs.ordered_iff.mp h.ordered, (hs.queryPage_total hslots).mp (h.total 0)⟩
  · rintro ⟨horder, hcount⟩
    refine ⟨?_, hs.ordered_iff.mpr horder, fun i => (hs.queryPage_total hslots).mpr hcount⟩
    intro wantTotal k hlen
    have hpage : ∀ i, i ∈ (List.range k).reverse →
        (queryPage s journal sdEnabled wantTotal m (i * m) f).1 =
          pageBack ((retrievable s journal sdEnabled).filter (packetMatches f)) m (i * m) :=
      fun _ _ => hs.queryPage_entries hslots hm
    rw [List.flatMap_congr hpage, flatMap_pageBack_all hlen]

end Exact

/-- The packet received as number `k`. -/
def receivedAs (k : Nat) : Entry :=
  { Entry.zero with
    seq := k
    direction := rxText
    kind := packetText }

/-- A log whose packets are all in the journal, with the newest `count` of them in the ring. -/
def flushedLog (newest count records : Nat) (h : count ≤ ramCapacity) : PacketLog :=
  { PacketLog.reset 1 true with
    rows := (List.range' (newest + 1 - count) count).map receivedAs
    rows_le := by simpa using h
    nextSeq := newest + 1
    totalWritten := newest
    droppedOldest := newest - count
    sdHistoryRecords := records
    journalNextSeq := newest + 1
    sdReconcilePending := false
    loaded := true }

theorem flushedLog_counted {newest count records : Nat} {h : count ≤ ramCapacity}
    (hpos : 0 < count) (hle : count ≤ newest) (hroom : newest < uint32Max) :
    Counted (flushedLog newest count records h) where
  numbered := by
    have hkeys : (List.range' (newest + 1 - count) count).map (Entry.seq ∘ receivedAs) =
        List.range' (newest + 1 - count) count := List.map_id _
    refine ⟨?_, ?_⟩
    · show ((List.range' (newest + 1 - count) count).map receivedAs).length ≤ newest + 1
      rw [List.length_map, List.length_range']
      omega
    · show ((List.range' (newest + 1 - count) count).map receivedAs).map Entry.seq =
        List.range' (newest + 1 - ((List.range' (newest + 1 - count) count).map receivedAs).length)
          ((List.range' (newest + 1 - count) count).map receivedAs).length
      rw [List.map_map, hkeys, List.length_map, List.length_range']
  next := rfl
  room := hroom
  nonempty := by
    show newest = 0 ↔ (List.range' (newest + 1 - count) count).map receivedAs = []
    rw [List.map_eq_nil_iff, List.range'_eq_nil_iff]
    omega
  fits := by
    show ((List.range' (newest + 1 - count) count).map receivedAs).length ≤ newest
    rw [List.length_map, List.length_range']
    exact hle
  dropped := Nat.sub_le _ _
  boot := Nat.succ_pos _

theorem flushedLog_length {newest count records : Nat} {h : count ≤ ramCapacity} :
    (flushedLog newest count records h).rows.length = count := by
  show ((List.range' (newest + 1 - count) count).map receivedAs).length = count
  rw [List.length_map, List.length_range']

theorem flushedLog_isSome {newest count records i : Nat} {h : count ≤ ramCapacity}
    (hpos : 0 < count) (hle : count ≤ newest) (hroom : newest < uint32Max) :
    (historyEntry (flushedLog newest count records h) (journalOf receivedAs newest)
        (newest + 1 - 1 - i)).isSome ↔ i < count ∨ Unreplaced newest (newest - i) := by
  have hs : Counted (flushedLog newest count records h) := flushedLog_counted hpos hle hroom
  have hlen : (flushedLog newest count records h).rows.length = count := flushedLog_length
  have hnext : (flushedLog newest count records h).nextSeq = newest + 1 := rfl
  rcases Nat.lt_or_ge i count with hi | hi
  · have hrow : historyEntry (flushedLog newest count records h) (journalOf receivedAs newest)
        (newest + 1 - 1 - i) = (flushedLog newest count records h).rows.reverse[i]? :=
      hs.historyEntry_row (by omega)
    have hplace : i < (flushedLog newest count records h).rows.reverse.length := by
      rw [List.length_reverse]
      omega
    rw [hrow, List.getElem?_eq_getElem hplace]
    simp [hi]
  · have hrows : (flushedLog newest count records h).rows ≠ [] :=
      List.length_pos_iff.mp (by omega)
    have holder : historyEntry (flushedLog newest count records h) (journalOf receivedAs newest)
        (newest + 1 - 1 - i) =
          olderRecord (flushedLog newest count records h) (journalOf receivedAs newest) i :=
      hs.historyEntry_older hrows (by omega)
    have hwindow := (hs.ramWindow hrows).1
    rw [hnext] at hwindow
    have hbelow : newest + 1 - 1 - i <
        ramOldestSeq (flushedLog newest count records h) := by omega
    rw [holder, olderRecord, hnext, if_pos hbelow, Nat.add_sub_cancel,
      readSdHistoryEntry_journalOf fun _ => rfl]
    split
    · rename_i hheld
      simp [hheld]
    · rename_i hgone
      simp [hgone, Nat.not_lt.mpr hi]

def anyPacket : PacketFilter := ⟨none, none, none⟩

/-- After the record 4097 the journal has begun its first segment anew. -/
def wrappedLog : PacketLog := flushedLog 4097 128 4096 (by decide)

theorem wrappedLog_counted : Counted wrappedLog :=
  flushedLog_counted (by decide) (by decide) (by decide)

theorem wrappedLog_isSome {i : Nat} (hi : i < 4096) :
    (historyEntry wrappedLog (journalOf receivedAs 4097) (wrappedLog.nextSeq - 1 - i)).isSome ↔
      i < 4033 := by
  have hsome : (historyEntry wrappedLog (journalOf receivedAs 4097)
      (wrappedLog.nextSeq - 1 - i)).isSome ↔ i < 128 ∨ Unreplaced 4097 (4097 - i) :=
    flushedLog_isSome (by decide) (by decide) (by decide)
  have hcapacity : sdSegmentCapacity = 64 := rfl
  have hcount : sdSegmentCount = 64 := rfl
  rw [hsome, Unreplaced, hcapacity, hcount]
  omega

/-- The history still counts 4096 records, of which 63 are gone. -/
theorem paging_counts_lost_records : ¬ ∀ (s : PacketLog) (journal : CardJournal)
    (sdEnabled : Bool) (m : Nat) (f : PacketFilter), Counted s → SlotsReadable s journal →
      0 < m → PagingExact s journal sdEnabled m f := by
  intro hall
  have hslots : SlotsReadable wrappedLog (journalOf receivedAs 4097) := by
    refine ⟨4033, ?_⟩
    intro i hi
    exact wrappedLog_isSome (Nat.lt_of_lt_of_le hi (Nat.min_le_left _ _))
  have hmissing : SlotMissing wrappedLog (journalOf receivedAs 4097) true := by
    have hlen : wrappedLog.rows.length = 128 := flushedLog_length
    have hrecords : wrappedLog.sdHistoryRecords = 4096 := rfl
    have hlost := mt (wrappedLog_isSome (i := 4033) (by decide)).mp (by decide)
    rw [Option.not_isSome_iff_eq_none] at hlost
    refine ⟨?_, List.length_pos_iff.mp (by omega), 4033, by omega, hlost⟩
    rw [usesHistory, hlen, hrecords]
    rfl
  have hexact := hall wrappedLog (journalOf receivedAs 4097) true 20 anyPacket
    wrappedLog_counted hslots (by decide)
  exact (wrappedLog_counted.queryPage_total hslots).mp (hexact.total 0) ⟨by decide, hmissing⟩

def shortLog : PacketLog := flushedLog 3 2 3 (by decide)

theorem shortLog_isSome {i : Nat} :
    (historyEntry shortLog (journalOf receivedAs 3) (shortLog.nextSeq - 1 - i)).isSome ↔ i < 3 := by
  have hsome : (historyEntry shortLog (journalOf receivedAs 3)
      (shortLog.nextSeq - 1 - i)).isSome ↔ i < 2 ∨ Unreplaced 3 (3 - i) :=
    flushedLog_isSome (by decide) (by decide) (by decide)
  have hcapacity : sdSegmentCapacity = 64 := rfl
  have hcount : sdSegmentCount = 64 := rfl
  rw [hsome, Unreplaced, hcapacity, hcount]
  omega

theorem paging_exact_short : PagingExact shortLog (journalOf receivedAs 3) true 2 anyPacket := by
  refine (paging_exact_iff (flushedLog_counted (by decide) (by decide) (by decide))
    ⟨3, fun _ _ => shortLog_isSome⟩ (by decide)).mpr ⟨?_, ?_⟩
  · rintro preview hpreview
    cases hpreview
  · rintro ⟨-, -, -, i, hi, hmissing⟩
    have hgone : historyEntry shortLog (journalOf receivedAs 3) (shortLog.nextSeq - 1 - i) = none :=
      hmissing
    have hfound := shortLog_isSome.mpr hi
    rw [hgone] at hfound
    cases hfound

end Sigui.Packet

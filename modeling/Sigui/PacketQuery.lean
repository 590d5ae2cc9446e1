import Sigui.PacketStore

/-! Reading the packet history page by page, from RAM and from the journal on the card. -/
namespace Sigui.Packet

/-- `tolower` of an upper-case letter in the C locale. -/
def lowerAscii (c : UInt8) : UInt8 := if 65 ≤ c.toNat ∧ c.toNat ≤ 90 then c + 32 else c

def anyText : List UInt8 := [97, 110, 121]
def starText : List UInt8 := [42]
def textText : CStr := ⟨[116, 101, 120, 116], by decide⟩

def tokenIsAny : Option CStr → Bool
  | none => true
  | some token =>
    token.bytes.isEmpty || decide (token.bytes = anyText) || decide (token.bytes = starText)

def equalsIgnoreCase (left right : List UInt8) : Bool :=
  decide (left.map lowerAscii = right.map lowerAscii)

/-- The search loop of `contains_ignore_case`, for a needle that is not empty. -/
def containsFrom (needle : List UInt8) : List UInt8 → Bool
  | [] => false
  | c :: rest =>
    (needle.map lowerAscii).isPrefixOf ((c :: rest).map lowerAscii) || containsFrom needle rest

def containsIgnoreCase (haystack : List UInt8) (needle : CStr) : Bool :=
  tokenIsAny (some needle) || containsFrom needle.bytes haystack

structure PacketFilter where
  direction : Option CStr
  kind : Option CStr
  searchText : Option CStr

def directionMatches (e : Entry) (direction : Option CStr) : Bool :=
  tokenIsAny direction ||
    match direction with
    | some direction => equalsIgnoreCase e.direction.bytes direction.bytes
    | none => true

/-- A kind of `text` stands for every kind that has it in its name. -/
def kindMatches (e : Entry) (kind : Option CStr) : Bool :=
  tokenIsAny kind ||
    match kind with
    | some kind =>
      if equalsIgnoreCase kind.bytes textText.bytes then containsIgnoreCase e.kind.bytes textText
      else equalsIgnoreCase e.kind.bytes kind.bytes
    | none => true

def searchMatches (e : Entry) (searchText : Option CStr) : Bool :=
  tokenIsAny searchText ||
    match searchText with
    | some text =>
      containsIgnoreCase e.kind.bytes text || containsIgnoreCase e.direction.bytes text ||
        containsIgnoreCase e.note.bytes text || containsIgnoreCase e.rawHex.bytes text
    | none => true

def packetMatches (f : PacketFilter) (e : Entry) : Bool :=
  directionMatches e f.direction && kindMatches e f.kind && searchMatches e f.searchText

def packetQueryUnfiltered (f : PacketFilter) : Bool :=
  tokenIsAny f.direction && tokenIsAny f.kind && tokenIsAny f.searchText

theorem packetMatches_of_unfiltered {f : PacketFilter} (h : packetQueryUnfiltered f = true)
    (e : Entry) : packetMatches f e = true := by
  simp only [packetQueryUnfiltered, Bool.and_eq_true] at h
  simp [packetMatches, directionMatches, kindMatches, searchMatches, h.1.1, h.1.2, h.2]

def historyMaxConsecutiveMisses : Nat := 4

/-- What one read of a segment file at a slot brings: the whole record, when the card is mounted,
of this log's lineage, still the same after the read, and the slot lies within the file. -/
abbrev CardJournal := Nat → Nat → Option HistoryRecord

def readSdHistoryEntry (journal : CardJournal) (seq : Nat) : Option Entry :=
  if seq = 0 then none
  else
    match journal (segmentOf seq) (slotOf seq) with
    | some record => if historyRecordIsValid record seq then some record.entry else none
    | none => none

theorem readSdHistoryEntry_seq {journal : CardJournal} {seq : Nat} {e : Entry}
    (h : readSdHistoryEntry journal seq = some e) : e.seq = seq := by
  unfold readSdHistoryEntry at h
  split at h
  · cases h
  split at h
  · split at h
    · rename_i hvalid
      rw [← Option.some.inj h]
      exact historyRecordIsValid_seq hvalid
    · cases h
  · cases h

def copyDurableRamEntryBySeq (s : PacketLog) (seq : Nat) : Option Entry :=
  if seq = 0 then none else s.rows.find? fun e => decide (e.seq = seq)

/-- The RAM window as `d1l_packet_log_query_page` takes it, zero for an empty ring. -/
def ramOldestSeq (s : PacketLog) : Nat := (s.rows.head?.map Entry.seq).getD 0

def ramNewestSeq (s : PacketLog) : Nat := (s.rows.getLast?.map Entry.seq).getD 0

/-- RAM is asked first for the numbers of its window, then the card. -/
def historyEntry (s : PacketLog) (journal : CardJournal) (seq : Nat) : Option Entry :=
  let inRamWindow := decide (0 < ramOldestSeq s) && decide (ramOldestSeq s ≤ seq) &&
    decide (seq ≤ ramNewestSeq s)
  match if inRamWindow then copyDurableRamEntryBySeq s seq else none with
  | some e => some e
  | none => readSdHistoryEntry journal seq

/-- The variables of the scan; `copied` is newest first. -/
structure HistoryScan where
  copied : List Entry := []
  totalMatches : Nat := 0
  validRecords : Nat := 0
  consecutiveMisses : Nat := 0

structure HistoryQuery where
  read : Nat → Option Entry
  filter : PacketFilter
  maxEntries : Nat
  skipNewest : Nat
  newestSeq : Nat
  wantTotal : Bool

/-- The loop of `query_sd_history` with `left` records to go. -/
def scanHistory (q : HistoryQuery) : Nat → Nat → HistoryScan → HistoryScan
  | 0, _, scan => scan
  | left + 1, scanned, scan =>
    if q.newestSeq ≤ scanned then scan
    else
      match q.read (q.newestSeq - scanned) with
      | none =>
        let missed := { scan with consecutiveMisses := scan.consecutiveMisses + 1 }
        if historyMaxConsecutiveMisses ≤ missed.consecutiveMisses then missed
        else scanHistory q left (scanned + 1) missed
      | some entry =>
        let scan := { scan with consecutiveMisses := 0, validRecords := scan.validRecords + 1 }
        if !packetMatches q.filter entry then scanHistory q left (scanned + 1) scan
        else
          let unfiltered := packetQueryUnfiltered q.filter
          let scan :=
            if unfiltered then scan else { scan with totalMatches := scan.totalMatches + 1 }
          let newestMatchIndex := if unfiltered then scanned else scan.totalMatches - 1
          if newestMatchIndex < q.skipNewest then scanHistory q left (scanned + 1) scan
          else if scan.copied.length < q.maxEntries then
            let scan := { scan with copied := scan.copied ++ [entry] }
            if unfiltered && decide (q.maxEntries ≤ scan.copied.length) then scan
            else scanHistory q left (scanned + 1) scan
          else if !q.wantTotal then scan
          else if unfiltered && decide (q.maxEntries ≤ scan.copied.length) then scan
          else scanHistory q left (scanned + 1) scan

structure QueryPage where
  entries : List Entry
  totalMatches : Nat
  validRecords : Nat := 0

def querySdHistory (q : HistoryQuery) (historyRecords : Nat) : QueryPage :=
  if historyRecords = 0 ∨ q.newestSeq = 0 then ⟨[], 0, 0⟩
  else
    let scan := scanHistory q historyRecords 0 {}
    { entries := scan.copied.reverse
      totalMatches :=
        if packetQueryUnfiltered q.filter then historyRecords else scan.totalMatches
      validRecords := scan.validRecords }

def queryRamLocked (s : PacketLog) (maxEntries skipNewest : Nat) (f : PacketFilter) :
    List Entry × Nat :=
  let found := (s.rows ++ s.volatileEntry.toList).filter (packetMatches f)
  let totalMatches := found.length
  if totalMatches ≤ skipNewest then ([], totalMatches)
  else
    let copied := min (totalMatches - skipNewest) maxEntries
    ((found.drop (totalMatches - skipNewest - copied)).take copied, totalMatches)

def usesHistory (s : PacketLog) (sdEnabled : Bool) : Bool :=
  sdEnabled && decide (s.rows.length < s.sdHistoryRecords)

/-- `d1l_packet_log_query_page` of a page that is not empty, on an initialised log: the page and
what `out_total_matches` is set to, where the caller asks for it. -/
def queryPage (s : PacketLog) (journal : CardJournal) (sdEnabled wantTotal : Bool)
    (maxEntries skipNewest : Nat) (f : PacketFilter) : List Entry × Nat :=
  if !usesHistory s sdEnabled then queryRamLocked s maxEntries skipNewest f
  else
    let preview := s.volatileEntry.filter (packetMatches f)
    let includeVolatile := preview.isSome && decide (skipNewest = 0)
    let history := querySdHistory
      { read := historyEntry s journal
        filter := f
        maxEntries := maxEntries - (if includeVolatile then 1 else 0)
        skipNewest := skipNewest - (if preview.isSome && decide (0 < skipNewest) then 1 else 0)
        newestSeq := s.nextSeq - 1
        wantTotal := wantTotal } s.sdHistoryRecords
    if 0 < history.validRecords ∨ 0 < skipNewest then
      (history.entries ++ (if includeVolatile then preview.toList else []),
        history.totalMatches + if preview.isSome then 1 else 0)
    else queryRamLocked s maxEntries skipNewest f

end Sigui.Packet

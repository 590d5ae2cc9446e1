import Sigui.Text

/-! Rows of the packet log: how a caller's row is copied in, which rows are accepted back, and the
records of the journal on the card. -/
namespace Sigui.Packet

def noteLen : Nat := 48
def rawPreviewBytes : Nat := 32
def rawHexLen : Nat := rawPreviewBytes * 2 + 1

structure Entry where
  seq : Nat
  uptimeMs : Nat
  direction : CharArray 4
  kind : CharArray 16
  rssiDbm : Int
  snrTenths : Int
  pathHashBytes : Nat
  pathHops : Nat
  payloadLen : Nat
  rawLen : Nat
  rawTruncated : Bool
  note : CharArray noteLen
  rawHex : CharArray rawHexLen
  deriving DecidableEq

/-- What `memset` leaves. -/
def Entry.zero : Entry where
  seq := 0
  uptimeMs := 0
  direction := .empty
  kind := .empty
  rssiDbm := 0
  snrTenths := 0
  pathHashBytes := 0
  pathHops := 0
  payloadLen := 0
  rawLen := 0
  rawTruncated := false
  note := .empty
  rawHex := .empty

instance : Inhabited Entry := ⟨.zero⟩

def Entry.withSeq (e : Entry) (seq : Nat) : Entry := { e with seq := seq }

def Entry.packet (e : Entry) : Entry := e.withSeq 0

@[simp] theorem Entry.withSeq_seq (e : Entry) (seq : Nat) : (e.withSeq seq).seq = seq := rfl

@[simp] theorem Entry.packet_withSeq (e : Entry) (seq : Nat) :
    (e.withSeq seq).packet = e.packet := rfl

def persistedTextIsValid {capacity : Nat} (text : CharArray capacity) : Bool :=
  text.terminated &&
    text.bytes.all fun c => decide (32 ≤ c.toNat ∧ c.toNat ≤ 126 ∧ c.toNat ≠ 34 ∧ c.toNat ≠ 92)

def rawLenConsistent (e : Entry) : Bool := e.rawTruncated == decide (rawPreviewBytes < e.rawLen)

def persistedEntryIsValid (e : Entry) (nextSeq : Nat) : Bool :=
  decide (0 < e.seq) && decide (e.seq < nextSeq) && rawLenConsistent e &&
    persistedTextIsValid e.direction && persistedTextIsValid e.kind &&
    persistedTextIsValid e.note && persistedTextIsValid e.rawHex

def packetIsValid (e : Entry) : Bool :=
  rawLenConsistent e && persistedTextIsValid e.direction && persistedTextIsValid e.kind &&
    persistedTextIsValid e.note && persistedTextIsValid e.rawHex

theorem persistedEntryIsValid_iff {e : Entry} {nextSeq : Nat} :
    persistedEntryIsValid e nextSeq = true ↔
      (0 < e.seq ∧ e.seq < nextSeq) ∧ packetIsValid e = true := by
  simp only [persistedEntryIsValid, packetIsValid, Bool.and_eq_true, decide_eq_true_eq, and_assoc]

def CharArray.text {n : Nat} (a : CharArray n) : CStr := ⟨a.bytes, a.no_nul⟩

/-- `"rx"` and `"packet"` -/
def rxText : CharArray 4 := ⟨[0x72, 0x78], by decide, by decide⟩
def packetText : CharArray 16 := ⟨[0x70, 0x61, 0x63, 0x6B, 0x65, 0x74], by decide, by decide⟩

def sanitized {n : Nat} (text : CharArray n) : CharArray n := sanitizeAscii n (CharArray.text text)

def sanitizedOr {n : Nat} (fallback text : CharArray n) : CharArray n :=
  if (sanitized text).bytes = [] then fallback else sanitized text

def hexNibble (n : Nat) : UInt8 := UInt8.ofNat (if n < 10 then 48 + n else 55 + n)

def hexPair (c : UInt8) : List UInt8 := [hexNibble (c.toNat / 16), hexNibble (c.toNat % 16)]

theorem hexNibble_plain {n : Nat} (h : n < 16) : hexNibble n ≠ 0 ∧
    32 ≤ (hexNibble n).toNat ∧ (hexNibble n).toNat ≤ 126 ∧ (hexNibble n).toNat ≠ 34 ∧
      (hexNibble n).toNat ≠ 92 := by
  have hall : ∀ n < 16, hexNibble n ≠ 0 ∧ 32 ≤ (hexNibble n).toNat ∧ (hexNibble n).toNat ≤ 126 ∧
      (hexNibble n).toNat ≠ 34 ∧ (hexNibble n).toNat ≠ 92 := by decide
  exact hall n h

theorem hexPair_plain {c d : UInt8} (h : d ∈ hexPair c) : d ≠ 0 ∧
    32 ≤ d.toNat ∧ d.toNat ≤ 126 ∧ d.toNat ≠ 34 ∧ d.toNat ≠ 92 := by
  have hc : c.toNat < 256 := c.toNat_lt
  rcases List.mem_cons.mp h with rfl | h
  · exact hexNibble_plain (by omega)
  · rw [List.mem_singleton.mp h]
    exact hexNibble_plain (by omega)

theorem length_hexPairs (l : List UInt8) : (l.flatMap hexPair).length = 2 * l.length := by
  induction l with
  | nil => rfl
  | cons c l ih =>
    rw [List.flatMap_cons, List.length_append, ih, List.length_cons]
    change 2 + 2 * l.length = _
    omega

/-- `raw_to_hex_preview` into the row's own array. -/
def rawToHexPreview (raw : List UInt8) : CharArray rawHexLen where
  bytes := (raw.take rawPreviewBytes).flatMap hexPair
  length_le := by
    have hlen := List.length_take_le rawPreviewBytes raw
    rw [length_hexPairs]
    exact (Nat.mul_le_mul_left 2 hlen).trans (by decide)
  no_nul := by
    intro h
    obtain ⟨c, _, hc⟩ := List.mem_flatMap.mp h
    exact (hexPair_plain hc).1 rfl

/-- The caller's row as `append_raw_internal` copies it under the number `seq`; no raw bytes are an
empty list. -/
def appendCopy (entry : Entry) (raw : List UInt8) (seq nowMs : Nat) : Entry :=
  let copy : Entry :=
    { entry with
      seq := seq
      uptimeMs := if entry.uptimeMs = 0 then nowMs else entry.uptimeMs
      direction := sanitizedOr rxText entry.direction
      kind := sanitizedOr packetText entry.kind
      note := sanitized entry.note
      rawHex := sanitized entry.rawHex }
  if raw = [] then copy
  else
    { copy with
      rawLen := min raw.length 0xFFFF
      rawTruncated := decide (rawPreviewBytes < raw.length)
      rawHex := rawToHexPreview raw }

@[simp] theorem appendCopy_seq (entry : Entry) (raw : List UInt8) (seq nowMs : Nat) :
    (appendCopy entry raw seq nowMs).seq = seq := by
  unfold appendCopy
  by_cases hraw : raw = []
  · rw [if_pos hraw]
  · rw [if_neg hraw]

theorem sanitizeByte_plain (c : UInt8) : 32 ≤ (sanitizeByte c).toNat ∧
    (sanitizeByte c).toNat ≤ 126 ∧ (sanitizeByte c).toNat ≠ 34 ∧ (sanitizeByte c).toNat ≠ 92 := by
  unfold sanitizeByte
  split
  · decide
  · omega

theorem sanitized_valid {n : Nat} (hn : 0 < n) (text : CharArray n) :
    persistedTextIsValid (sanitized text) = true := by
  rw [persistedTextIsValid, Bool.and_eq_true]
  constructor
  · rw [CharArray.terminated, decide_eq_true_eq]
    simp only [sanitized, sanitizeAscii, List.length_map, List.length_take]
    omega
  · rw [List.all_eq_true]
    intro c hc
    obtain ⟨d, _, rfl⟩ := List.mem_map.mp hc
    exact decide_eq_true (sanitizeByte_plain d)

theorem sanitizedOr_valid {n : Nat} (hn : 0 < n) {fallback : CharArray n}
    (hfallback : persistedTextIsValid fallback = true) (text : CharArray n) :
    persistedTextIsValid (sanitizedOr fallback text) = true := by
  rw [sanitizedOr]
  split
  · exact hfallback
  · exact sanitized_valid hn text

theorem rawToHexPreview_valid (raw : List UInt8) :
    persistedTextIsValid (rawToHexPreview raw) = true := by
  rw [persistedTextIsValid, Bool.and_eq_true]
  constructor
  · rw [CharArray.terminated, decide_eq_true_eq]
    have hlen := List.length_take_le rawPreviewBytes raw
    change ((raw.take rawPreviewBytes).flatMap hexPair).length < rawHexLen
    rw [length_hexPairs, rawHexLen]
    omega
  · rw [List.all_eq_true]
    intro c hc
    obtain ⟨d, _, hd⟩ := List.mem_flatMap.mp hc
    exact decide_eq_true (hexPair_plain hd).2

theorem appendCopy_valid {entry : Entry} {raw : List UInt8}
    (h : raw = [] → rawLenConsistent entry = true) (seq nowMs : Nat) :
    packetIsValid (appendCopy entry raw seq nowMs) = true := by
  have hdirection := sanitizedOr_valid (by decide) (by decide : persistedTextIsValid rxText = true)
    entry.direction
  have hkind := sanitizedOr_valid (by decide) (by decide : persistedTextIsValid packetText = true)
    entry.kind
  have hnote : persistedTextIsValid (sanitized entry.note) = true :=
    sanitized_valid (by decide) entry.note
  have hhex : persistedTextIsValid (sanitized entry.rawHex) = true :=
    sanitized_valid (by decide) entry.rawHex
  unfold appendCopy packetIsValid
  by_cases hraw : raw = []
  · rw [if_pos hraw]
    simp only [Bool.and_eq_true]
    exact ⟨⟨⟨⟨h hraw, hdirection⟩, hkind⟩, hnote⟩, hhex⟩
  · rw [if_neg hraw]
    simp only [Bool.and_eq_true]
    refine ⟨⟨⟨⟨?_, hdirection⟩, hkind⟩, hnote⟩, rawToHexPreview_valid raw⟩
    -- a length beyond `uint16_t` is cut, and still beyond the preview
    have hcut : rawPreviewBytes < min raw.length 0xFFFF ↔ rawPreviewBytes < raw.length := by
      have hpreview : rawPreviewBytes < 0xFFFF := by decide
      omega
    rw [rawLenConsistent, beq_iff_eq]
    exact decide_eq_decide.mpr hcut.symm

def historyMagic : Nat := 0x314B5044
def historySchema : Nat := 1
def sdCapacity : Nat := 4096
def sdSegmentCount : Nat := 64
def sdSegmentCapacity : Nat := sdCapacity / sdSegmentCount
def entryBytesLen : Nat := 156

def u16le (n : Nat) : List UInt8 := [UInt8.ofNat n, UInt8.ofNat (n / 256)]

def u32le (n : Nat) : List UInt8 := u16le n ++ u16le (n / 0x10000)

def i32le (z : Int) : List UInt8 := u32le (z % 0x100000000).toNat

/-- A `char[n]` with zeros behind the terminator. -/
def paddedText {n : Nat} (text : CharArray n) : List UInt8 :=
  text.bytes ++ List.replicate (n - text.bytes.length) 0

def entryBytes (e : Entry) : List UInt8 :=
  u32le e.seq ++ u32le e.uptimeMs ++ paddedText e.direction ++ paddedText e.kind ++
    i32le e.rssiDbm ++ i32le e.snrTenths ++ [UInt8.ofNat e.pathHashBytes, UInt8.ofNat e.pathHops] ++
    u16le e.payloadLen ++ u16le e.rawLen ++ [if e.rawTruncated then 1 else 0] ++
    paddedText e.note ++ paddedText e.rawHex

def historyRecordChecksum (e : Entry) : Nat :=
  (entryBytes e).foldl (fun hash c => (hash ^^^ c.toNat) * 16777619 % 0x100000000) 2166136261

structure HistoryRecord where
  magic : Nat
  schema : Nat
  entryLen : Nat
  checksum : Nat
  entry : Entry

/-- `fill_history_record` -/
def historyRecord (e : Entry) : HistoryRecord where
  magic := historyMagic
  schema := historySchema
  entryLen := entryBytesLen
  checksum := historyRecordChecksum e
  entry := e

def historyRecordIsValid (r : HistoryRecord) (expectedSeq : Nat) : Bool :=
  decide (r.magic = historyMagic) && decide (r.schema = historySchema) &&
    decide (r.entryLen = entryBytesLen) && decide (r.entry.seq = expectedSeq) &&
    decide (r.checksum = historyRecordChecksum r.entry)

theorem historyRecordIsValid_seq {r : HistoryRecord} {seq : Nat}
    (h : historyRecordIsValid r seq = true) : r.entry.seq = seq := by
  simp only [historyRecordIsValid, Bool.and_eq_true, decide_eq_true_eq] at h
  exact h.1.2

theorem historyRecord_valid (e : Entry) : historyRecordIsValid (historyRecord e) e.seq = true := by
  simp [historyRecordIsValid, historyRecord]

/-- `history_segment_path` and the offset in the segment, counted in records. -/
def segmentOf (seq : Nat) : Nat := (seq - 1) / sdSegmentCapacity % sdSegmentCount

def slotOf (seq : Nat) : Nat := (seq - 1) % sdSegmentCapacity

end Sigui.Packet

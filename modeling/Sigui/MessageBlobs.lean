import Sigui.MessageEntry

/-! What the validators of the message store say, and that the conversion of every older blob
passes the current one with its rows in order. -/
namespace Sigui.Message

section Validators

structure RowsOk {ε : Type} (seqOf : ε → Nat) (valid : ε → Bool) (nextSeq : Nat) (rows : List ε) :
    Prop where
  ascending : Ascending seqOf rows
  valid : ∀ e ∈ rows, valid e = true
  below : ∀ e ∈ rows, seqOf e < nextSeq

variable {ε : Type} {seqOf : ε → Nat} {valid : ε → Bool} {nextSeq : Nat} {rows : List ε}

theorem rowsAreValid_iff {previousSeq : Nat} :
    rowsAreValid seqOf valid nextSeq previousSeq rows = true ↔
      RowsOk seqOf valid nextSeq rows ∧ ∀ e ∈ rows, previousSeq < seqOf e := by
  induction rows generalizing previousSeq with
  | nil =>
    exact iff_of_true rfl ⟨⟨List.Pairwise.nil, by simp, by simp⟩, by simp⟩
  | cons e rows ih =>
    rw [rowsAreValid, Bool.and_eq_true, Bool.and_eq_true, Bool.and_eq_true, decide_eq_true_eq,
      decide_eq_true_eq, ih]
    constructor
    · rintro ⟨⟨⟨hvalid, hprevious⟩, hnext⟩, hrest, habove⟩
      refine ⟨⟨List.pairwise_cons.mpr ⟨habove, hrest.ascending⟩,
        List.forall_mem_cons.mpr ⟨hvalid, hrest.valid⟩,
        List.forall_mem_cons.mpr ⟨hnext, hrest.below⟩⟩,
        List.forall_mem_cons.mpr ⟨hprevious, fun x hx => hprevious.trans (habove x hx)⟩⟩
    · rintro ⟨⟨hasc, hvalid, hbelow⟩, hprevious⟩
      obtain ⟨habove, hasc⟩ := List.pairwise_cons.mp hasc
      obtain ⟨hvalid, hvalids⟩ := List.forall_mem_cons.mp hvalid
      obtain ⟨hnext, hbelow⟩ := List.forall_mem_cons.mp hbelow
      exact ⟨⟨⟨hvalid, hprevious e List.mem_cons_self⟩, hnext⟩, ⟨hasc, hvalids, hbelow⟩, habove⟩

structure HeaderOk (b : BlobV2 ε) (schema : Nat) : Prop where
  slots : b.entries.length = messageStoreCapacity
  schema : b.schema = schema
  head : b.head < messageStoreCapacity
  count : b.count ≤ messageStoreCapacity
  next : b.nextSeq ≠ 0
  total : b.count ≤ b.totalWritten

theorem headerV2IsValid_iff {b : BlobV2 ε} {schema : Nat} :
    headerV2IsValid b schema = true ↔ HeaderOk b schema := by
  simp only [headerV2IsValid, Bool.and_eq_true, decide_eq_true_eq]
  constructor
  · rintro ⟨⟨⟨⟨⟨hslots, hschema⟩, hhead⟩, hcount⟩, hnext⟩, htotal⟩
    exact ⟨hslots, hschema, hhead, hcount, hnext, htotal⟩
  · rintro ⟨hslots, hschema, hhead, hcount, hnext, htotal⟩
    exact ⟨⟨⟨⟨⟨hslots, hschema⟩, hhead⟩, hcount⟩, hnext⟩, htotal⟩

theorem headerV3IsValid_iff {b : BlobV3 ε} {schema : Nat} : headerV3IsValid b schema = true ↔
    HeaderOk b.toBlobV2 schema ∧ b.epoch ≠ 0 ∧ b.contentRevision ≠ 0 := by
  rw [headerV3IsValid, Bool.and_eq_true, Bool.and_eq_true, headerV2IsValid_iff, decide_eq_true_eq,
    decide_eq_true_eq, and_assoc]

theorem HeaderOk.length_rows {b : BlobV2 ε} {schema : Nat} (h : HeaderOk b schema) :
    b.rows.length = b.count := by
  rw [BlobV2.rows, List.length_take, List.length_rotate, h.slots]
  exact Nat.min_eq_left h.count

structure BlobOk (b : Blob) : Prop where
  header : HeaderOk b.toBlobV2 5
  epoch : b.epoch ≠ 0
  revision : b.contentRevision ≠ 0
  rows : RowsOk Entry.seq entryIsValid b.nextSeq b.rows

theorem entryIsValid_seq {e : Entry} (h : entryIsValid e = true) : 0 < e.seq := by
  simp only [entryIsValid, Bool.and_eq_true, decide_eq_true_eq] at h
  exact h.1.1.1.1.1

theorem entryIsValid_reserved {e : Entry} (h : entryIsValid e = true) :
    e.reserved = zeroReserved := by
  simp only [entryIsValid, Bool.and_eq_true, decide_eq_true_eq] at h
  exact h.1.1.1.2

theorem blobIsValid_iff {b : Blob} : blobIsValid b = true ↔ BlobOk b := by
  rw [blobIsValid, Bool.and_eq_true, headerV3IsValid_iff, rowsAreValid_iff]
  constructor
  · rintro ⟨⟨hheader, hepoch, hrevision⟩, hrows, _⟩
    exact ⟨hheader, hepoch, hrevision, hrows⟩
  · rintro ⟨hheader, hepoch, hrevision, hrows⟩
    exact ⟨⟨hheader, hepoch, hrevision⟩, hrows, fun e he => entryIsValid_seq (hrows.valid e he)⟩

theorem entriesEqual_iff {left right : Entry} (hl : left.reserved = zeroReserved)
    (hr : right.reserved = zeroReserved) : entriesEqual left right = true ↔ left = right := by
  have hsame : { left with reserved := right.reserved } = left := by rw [hr, ← hl]
  rw [entriesEqual, decide_eq_true_eq, hsame]

end Validators

theorem plainTextIsValid_iff {n : Nat} {text : CharArray n} : plainTextIsValid text = true ↔
    n ≠ 0 ∧ text.bytes.length < n ∧ text.bytes ≠ [] ∧
      ∀ c ∈ text.bytes, Route.textByteIsValid c = true := by
  simp only [plainTextIsValid, Route.persistedTextIsValid, CharArray.terminated, Bool.and_eq_true,
    Bool.true_and, Bool.not_eq_true', List.isEmpty_eq_false_iff, decide_eq_true_eq,
    List.all_eq_true, and_assoc]

theorem sanitizeAscii_plain {n destSize : Nat} {src : CharArray n}
    (hvalid : plainTextIsValid src = true) (hn : n ≤ destSize) :
    (sanitizeAscii destSize ⟨src.bytes, src.no_nul⟩).bytes = src.bytes := by
  obtain ⟨_, hlen, _, hplain⟩ := plainTextIsValid_iff.mp hvalid
  change (src.bytes.take (destSize - 1)).map sanitizeByte = src.bytes
  rw [List.take_of_length_le (by omega)]
  exact (List.map_congr_left fun c hc => Route.sanitizeByte_of_valid (hplain c hc)).trans
    (List.map_id _)

theorem userTextIsValid_plain {capacity : Nat} {text : CharArray capacity}
    (hvalid : plainTextIsValid text = true) (hcap : capacity ≤ 139) {wide : CharArray 139}
    (hwide : wide.bytes = text.bytes) : userTextIsValid wide = true := by
  obtain ⟨_, hlen, hne, hplain⟩ := plainTextIsValid_iff.mp hvalid
  have hterminated : wide.terminated = true := by
    rw [CharArray.terminated, decide_eq_true_eq, hwide]
    omega
  have hprint : ∀ c ∈ wide.bytes, 32 ≤ c.toNat ∧ c.toNat ≤ 126 := fun c hc => by
    rw [hwide] at hc
    have hbyte := hplain c hc
    simp only [Route.textByteIsValid, Bool.and_eq_true, decide_eq_true_eq] at hbyte
    exact hbyte.1.1
  refine decide_eq_true (userTextValidateBounded_printable hterminated ?_ ?_ hprint)
  · rw [hwide]
    exact hne
  · rw [hwide, userTextMaxBytes]
    omega

section Conversion

/-- What a row says apart from its channel, in the words of any schema. -/
structure Carried where
  seq : Nat
  uptimeMs : Nat
  direction : List UInt8
  author : List UInt8
  text : List UInt8
  rssiDbm : Int
  snrTenths : Int
  pathHashBytes : Nat
  pathHops : Nat
  delivered : Bool
  deriving DecidableEq

def LegacyEntry.carried {textLen : Nat} (e : LegacyEntry textLen) : Carried :=
  ⟨e.seq, e.uptimeMs, e.direction.bytes, e.author.bytes, e.text.bytes, e.rssiDbm, e.snrTenths,
    e.pathHashBytes, e.pathHops, e.delivered⟩

def Entry.carried (e : Entry) : Carried :=
  ⟨e.seq, e.uptimeMs, e.direction.bytes, e.author.bytes, e.text.bytes, e.rssiDbm, e.snrTenths,
    e.pathHashBytes, e.pathHops, e.delivered⟩

variable {ε : Type}

theorem blobOldestIndex_packed {count : Nat} (h : count ≤ messageStoreCapacity) :
    blobOldestIndex (count % messageStoreCapacity) count = 0 := by
  unfold blobOldestIndex messageStoreCapacity at *
  split_ifs with hempty
  · rfl
  · by_cases hfull : count = 16
    · subst hfull
      rfl
    · have hmod : count % 16 = count := Nat.mod_eq_of_lt (by omega)
      have hsum : count + 16 - count = 16 := by omega
      rw [hmod, hsum]

theorem rows_packed {b : BlobV2 ε} {rows : List ε} (pad : List ε) (hcount : b.count = rows.length)
    (hle : rows.length ≤ messageStoreCapacity)
    (hhead : b.head = rows.length % messageStoreCapacity) (hentries : b.entries = rows ++ pad) :
    b.rows = rows := by
  rw [BlobV2.rows, hcount, hhead, blobOldestIndex_packed hle, List.rotate_zero, hentries,
    List.take_left]

variable {b : BlobV2 ε} {schema epoch contentRevision : Nat} {clearLineage : UInt64}
  {convert : ε → Entry} {seqOf : ε → Nat} {valid : ε → Bool}

theorem convertBlob_rows (h : HeaderOk b schema) :
    (convertBlob b convert epoch contentRevision clearLineage).rows = b.rows.map convert := by
  have hlength : (b.rows.map convert).length = b.count := by rw [List.length_map, h.length_rows]
  refine rows_packed (List.replicate (messageStoreCapacity - b.count) Entry.zero) ?_ ?_ ?_ ?_
  · exact hlength.symm
  · exact hlength.trans_le h.count
  · rw [hlength]
    rfl
  · rfl

theorem convertBlob_ok (clearLineage : UInt64) (h : HeaderOk b schema)
    (hrows : RowsOk seqOf valid b.nextSeq b.rows) (hseq : ∀ e, (convert e).seq = seqOf e)
    (hvalid : ∀ e, valid e = true → entryIsValid (convert e) = true)
    (hepoch : epoch ≠ 0) (hrevision : contentRevision ≠ 0) :
    BlobOk (convertBlob b convert epoch contentRevision clearLineage) := by
  refine ⟨⟨?_, rfl, Nat.mod_lt _ (by decide), h.count, h.next, h.total⟩, hepoch, hrevision, ?_⟩
  · have hcount := h.count
    change (b.rows.map convert ++ List.replicate _ Entry.zero).length = messageStoreCapacity
    rw [List.length_append, List.length_map, h.length_rows, List.length_replicate]
    omega
  · rw [convertBlob_rows h]
    refine ⟨List.pairwise_map.mpr (hrows.ascending.imp fun hlt => ?_), ?_, ?_⟩
    · rw [hseq, hseq]
      exact hlt
    · exact List.forall_mem_map.mpr fun e he => hvalid e (hrows.valid e he)
    · exact List.forall_mem_map.mpr fun e he => (hseq e).trans_lt (hrows.below e he)

theorem migrationRevision_ne_zero (totalWritten : Nat) : migrationRevision totalWritten ≠ 0 := by
  unfold migrationRevision
  split_ifs
  · decide
  · omega

theorem convertEntry_valid {textLen : Nat} {old : LegacyEntry textLen} {direction : CharArray 4}
    {author : CharArray 24} {text : CharArray 139} (hseq : 0 < old.seq)
    (hdirection : plainTextIsValid direction = true) (hauthor : plainTextIsValid author = true)
    (htext : userTextIsValid text = true) :
    entryIsValid (convertEntry old direction author text) = true := by
  have hpublic : publicId ≠ 0 := by decide
  simp only [entryIsValid, convertEntry, Bool.and_eq_true]
  exact ⟨⟨⟨⟨⟨decide_eq_true hseq, decide_eq_true hpublic⟩, rfl⟩, hdirection⟩, hauthor⟩, htext⟩

theorem convertV4Entry_valid {old : EntryV4} (h : entryV4IsValid old = true) :
    entryIsValid (convertV4Entry old) = true := by
  simp only [entryV4IsValid, Bool.and_eq_true, decide_eq_true_eq] at h
  obtain ⟨⟨⟨hseq, hdirection⟩, hauthor⟩, htext⟩ := h
  exact convertEntry_valid hseq hdirection hauthor htext

theorem legacyEntryIsValid_parts {textLen : Nat} {old : LegacyEntry textLen}
    (h : legacyEntryIsValid old = true) : 0 < old.seq ∧ plainTextIsValid old.direction = true ∧
      plainTextIsValid old.author = true ∧ plainTextIsValid old.text = true := by
  simpa only [legacyEntryIsValid, Bool.and_eq_true, decide_eq_true_eq, and_assoc] using h

theorem convertV4Entry_of_legacy {old : EntryV4} (h : legacyEntryIsValid old = true) :
    entryIsValid (convertV4Entry old) = true := by
  obtain ⟨hseq, hdirection, hauthor, htext⟩ := legacyEntryIsValid_parts h
  exact convertEntry_valid hseq hdirection hauthor (userTextIsValid_plain htext (by decide) rfl)

theorem convertV1Entry_carried {old : EntryV1} (h : legacyEntryIsValid old = true) :
    (convertV1Entry old).carried = old.carried := by
  obtain ⟨_, hdirection, hauthor, htext⟩ := legacyEntryIsValid_parts h
  simp only [Entry.carried, LegacyEntry.carried, convertV1Entry, convertEntry,
    sanitizeAscii_plain hdirection (le_refl 4), sanitizeAscii_plain hauthor (le_refl 24),
    sanitizeAscii_plain htext (by decide : 96 ≤ 139)]

theorem plainTextIsValid_of_bytes {n : Nat} {text copy : CharArray n}
    (hvalid : plainTextIsValid text = true) (hbytes : copy.bytes = text.bytes) :
    plainTextIsValid copy = true := by
  rwa [CharArray.ext_bytes hbytes]

theorem convertV1Entry_valid {old : EntryV1} (h : legacyEntryIsValid old = true) :
    entryIsValid (convertV1Entry old) = true := by
  obtain ⟨hseq, hdirection, hauthor, htext⟩ := legacyEntryIsValid_parts h
  apply convertEntry_valid hseq
  · exact plainTextIsValid_of_bytes hdirection (sanitizeAscii_plain hdirection (le_refl 4))
  · exact plainTextIsValid_of_bytes hauthor (sanitizeAscii_plain hauthor (le_refl 24))
  · exact userTextIsValid_plain htext (by decide) (sanitizeAscii_plain htext (by decide))

def RawBlob.isValid : RawBlob → Bool
  | .current b => blobIsValid b
  | .v4 b => blobV4IsValid b
  | .v3 b => blobV3IsValid b
  | .v2 b => blobV2IsValid b
  | .v1 b => blobV1IsValid b
  | .other => false

def RawBlob.carried : RawBlob → List Carried
  | .current b => b.rows.map Entry.carried
  | .v4 b => b.rows.map LegacyEntry.carried
  | .v3 b => b.rows.map LegacyEntry.carried
  | .v2 b => b.rows.map LegacyEntry.carried
  | .v1 b => b.rows.map LegacyEntry.carried
  | .other => []

def counters (b : BlobV2 ε) : Nat × Nat × Nat := (b.nextSeq, b.totalWritten, b.droppedOldest)

def RawBlob.counters : RawBlob → Nat × Nat × Nat
  | .current b => Message.counters b.toBlobV2
  | .v4 b => Message.counters b.toBlobV2
  | .v3 b => Message.counters b.toBlobV2
  | .v2 b => Message.counters b
  | .v1 b => Message.counters b
  | .other => (0, 0, 0)

structure Decoded (raw : RawBlob) (b : Blob) : Prop where
  ok : BlobOk b
  carried : b.rows.map Entry.carried = raw.carried
  counters : Message.counters b.toBlobV2 = raw.counters

theorem convertBlob_carried {textLen : Nat} {b : BlobV2 (LegacyEntry textLen)}
    {convert : LegacyEntry textLen → Entry} (h : HeaderOk b schema)
    (hcarried : ∀ e ∈ b.rows, (convert e).carried = e.carried) :
    (convertBlob b convert epoch contentRevision clearLineage).rows.map Entry.carried =
      b.rows.map LegacyEntry.carried := by
  rw [convertBlob_rows h, List.map_map]
  exact List.map_congr_left hcarried

theorem decodeBlob_valid {raw : RawBlob} (h : raw.isValid = true) :
    ∃ b migrated, decodeBlob raw = .ok (b, migrated) ∧ Decoded raw b := by
  cases raw with
  | current b => exact ⟨b, false, if_pos h, blobIsValid_iff.mp h, rfl, rfl⟩
  | v4 b =>
    obtain ⟨hheader, hrows⟩ := Bool.and_eq_true_iff.mp h
    obtain ⟨hheader, hepoch, hrevision⟩ := headerV3IsValid_iff.mp hheader
    have hok := convertBlob_ok b.clearLineage hheader
      (rowsAreValid_iff.mp hrows).1 (fun _ => rfl) (fun _ => convertV4Entry_valid) hepoch hrevision
    exact ⟨_, true, if_pos h, hok, convertBlob_carried hheader fun _ _ => rfl, rfl⟩
  | v3 b =>
    obtain ⟨hheader, hrows⟩ := Bool.and_eq_true_iff.mp h
    obtain ⟨hheader, hepoch, hrevision⟩ := headerV3IsValid_iff.mp hheader
    have hok := convertBlob_ok 0 hheader
      (rowsAreValid_iff.mp hrows).1 (fun _ => rfl) (fun _ => convertV4Entry_of_legacy) hepoch
      hrevision
    exact ⟨_, true, if_pos h, hok, convertBlob_carried hheader fun _ _ => rfl, rfl⟩
  | v2 b =>
    obtain ⟨hheader, hrows⟩ := Bool.and_eq_true_iff.mp h
    have hheader := headerV2IsValid_iff.mp hheader
    have hok := convertBlob_ok 0 hheader
      (rowsAreValid_iff.mp hrows).1 (fun _ => rfl) (fun _ => convertV4Entry_of_legacy)
      Nat.one_ne_zero (migrationRevision_ne_zero b.totalWritten)
    exact ⟨_, true, if_pos h, hok, convertBlob_carried hheader fun _ _ => rfl, rfl⟩
  | v1 b =>
    obtain ⟨hheader, hrows⟩ := Bool.and_eq_true_iff.mp h
    have hheader := headerV2IsValid_iff.mp hheader
    have hvalid := (rowsAreValid_iff.mp hrows).1
    have hok := convertBlob_ok 0 hheader hvalid (fun _ => rfl)
      (fun _ => convertV1Entry_valid) Nat.one_ne_zero (migrationRevision_ne_zero b.totalWritten)
    exact ⟨_, true, if_pos h, hok,
      convertBlob_carried hheader fun e he => convertV1Entry_carried (hvalid.valid e he), rfl⟩
  | other => cases h

end Conversion

end Sigui.Message

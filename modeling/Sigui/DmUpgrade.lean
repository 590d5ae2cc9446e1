import Sigui.DmDecode
import Sigui.DmEntryValid

/-! What an upgrade of the stored history keeps: every layout its own validator accepts is read
back as the same rows under the current schema. -/
namespace Sigui.Dm

theorem persistedAsciiIsValid_iff {n : Nat} {text : CharArray n} :
    persistedAsciiIsValid text false = true ↔ text.bytes.length < n ∧ text.bytes ≠ [] ∧
      ∀ c ∈ text.bytes, 32 ≤ c.toNat ∧ c.toNat ≤ 126 := by
  simp only [persistedAsciiIsValid, CharArray.terminated, Bool.false_or, Bool.and_eq_true,
    Bool.not_eq_true', List.isEmpty_eq_false_iff, decide_eq_true_eq, List.all_eq_true, and_assoc]

theorem persistedAsciiIsValid_widen {n m : Nat} {text : CharArray n} (h : n ≤ m)
    (hvalid : persistedAsciiIsValid text false = true) :
    persistedAsciiIsValid (widenChars text h) false = true := by
  obtain ⟨hlen, hne, hprint⟩ := persistedAsciiIsValid_iff.mp hvalid
  exact persistedAsciiIsValid_iff.mpr ⟨hlen.trans_le h, hne, hprint⟩

theorem userText_of_persistedAscii {text : CharArray 139}
    (hvalid : persistedAsciiIsValid text false = true) :
    (userTextValidateBounded text false).result = .ok := by
  obtain ⟨hlen, hne, hprint⟩ := persistedAsciiIsValid_iff.mp hvalid
  exact userTextValidateBounded_printable (decide_eq_true hlen) hne (Nat.le_of_lt_succ hlen) hprint

section Rows

/-- A row as the older layouts have it, before it is given a delivery state. -/
def copyV1Entry (old : DmEntryV1) : DmEntry :=
  copyLegacyFields old (sanitizeAsciiBounded 17 old.contactFingerprint)
    (sanitizeAsciiBounded 32 old.contactAlias) (sanitizeAsciiBounded 4 old.direction)
    (sanitizeAsciiBounded 139 old.text)

def copyV4Entry (old : DmEntryV4) : DmEntry :=
  copyLegacyFields old old.contactFingerprint (widenChars old.contactAlias CharArray.short_le_long)
    old.direction old.text

theorem migrationDeliverySessionId_ne_zero (e : DmEntry) : migrationDeliverySessionId e ≠ 0 := by
  unfold migrationDeliverySessionId
  dsimp only
  split_ifs with hzero
  · decide
  · exact hzero

/-- The delivery fields of an older outbound row under the session id `session`. -/
def legacyOutbound (e : DmEntry) (session : UInt64) : DmEntry :=
  { e with
    deliverySessionId := session
    deliveryState := if e.acked then .acknowledged else .interruptedByReboot
    deliveryReason := .legacyImport
    deliveryLastError := if e.acked then espOk else dmInterruptedError
    deliveryRetryCount := 0
    deliveryRevision := 1
    delivered := e.acked }

def legacyInbound (e : DmEntry) : DmEntry :=
  { e with
    deliverySessionId := 0
    deliveryState := .notApplicable
    deliveryReason := .none
    deliveryLastError := espOk
    deliveryRetryCount := 0
    deliveryRevision := 0 }

variable (e : DmEntry)

theorem initialize_outbound (hout : e.outbound = true) :
    initializeLegacyDeliveryMetadata e = legacyOutbound e (migrationDeliverySessionId e) := by
  unfold initializeLegacyDeliveryMetadata legacyOutbound
  rw [hout, Bool.not_true, if_neg Bool.false_ne_true]

theorem initialize_inbound (hout : e.outbound = false) :
    initializeLegacyDeliveryMetadata e = legacyInbound e := by
  unfold initializeLegacyDeliveryMetadata legacyInbound
  rw [hout, Bool.not_false, if_pos rfl]

theorem initialize_cases : ∃ session,
    initializeLegacyDeliveryMetadata e = legacyOutbound e session ∨
      initializeLegacyDeliveryMetadata e = legacyInbound e := by
  cases hout : e.outbound with
  | false => exact ⟨0, Or.inr (initialize_inbound e hout)⟩
  | true => exact ⟨_, Or.inl (initialize_outbound e hout)⟩

theorem initialize_seq : (initializeLegacyDeliveryMetadata e).seq = e.seq := by
  obtain ⟨session, h | h⟩ := initialize_cases e <;> rw [h] <;> rfl

theorem initialize_text :
    persistedTextIsValid (initializeLegacyDeliveryMetadata e) = persistedTextIsValid e := by
  obtain ⟨session, h | h⟩ := initialize_cases e <;> rw [h] <;> rfl

theorem initialize_ackPart : (initializeLegacyDeliveryMetadata e).ackPart = e.ackPart := by
  obtain ⟨session, h | h⟩ := initialize_cases e <;> rw [h] <;> rfl

theorem initialize_session : (initializeLegacyDeliveryMetadata e).deliverySessionId =
    if e.outbound then migrationDeliverySessionId e else 0 := by
  cases hout : e.outbound with
  | false =>
    rw [initialize_inbound e hout, if_neg Bool.false_ne_true]
    rfl
  | true => rw [initialize_outbound e hout, if_pos rfl, legacyOutbound]

theorem legacyInbound_delivery (hout : e.outbound = false) :
    deliveryMetadataIsValid (legacyInbound e) = true := by
  have hsame : (legacyInbound e).outbound = false := hout
  rw [deliveryMetadataIsValid, hsame]
  rfl

theorem legacyOutbound_delivery (hout : e.outbound = true) {session : UInt64}
    (hsession : session ≠ 0) : deliveryMetadataIsValid (legacyOutbound e session) = true := by
  refine (deliveryMetadataIsValid_outbound_iff (e := legacyOutbound e session) hout).mpr ?_
  have hrevision : (1 : Nat) ≠ 0 := Nat.one_ne_zero
  have herror : dmInterruptedError ≠ espOk := by decide
  unfold legacyOutbound
  cases e.acked with
  | false =>
    exact ⟨hsession, nofun, nofun, rfl, hrevision, Nat.zero_le _, rfl, rfl, fun _ => herror⟩
  | true =>
    exact ⟨hsession, nofun, nofun, rfl, hrevision, Nat.zero_le _, rfl, rfl, fun h => nomatch h⟩

theorem initialize_delivery :
    deliveryMetadataIsValid (initializeLegacyDeliveryMetadata e) = true := by
  cases hout : e.outbound with
  | false =>
    rw [initialize_inbound e hout]
    exact legacyInbound_delivery e hout
  | true =>
    rw [initialize_outbound e hout]
    exact legacyOutbound_delivery e hout (migrationDeliverySessionId_ne_zero e)

variable {e}

theorem initialize_sound (htext : persistedTextIsValid e = true)
    (hack : ackMetadataIsValid e = true) : RowSound (initializeLegacyDeliveryMetadata e) := by
  refine ⟨(initialize_text e).trans htext, ?_, initialize_delivery e⟩
  rw [← DmEntry.ackMetadataIsValid_ackPart, initialize_ackPart, DmEntry.ackMetadataIsValid_ackPart]
  exact hack

end Rows

/-- The session ids that a migration derives for its outbound rows. -/
def migratedSessionIds (rows : List DmEntry) : List UInt64 :=
  (rows.filter DmEntry.outbound).map migrationDeliverySessionId

theorem initialize_distinct {rows : List DmEntry} (hids : (migratedSessionIds rows).Nodup)
    (hdigests : rows.Pairwise fun previous entry => validIdentityDigestEqual previous entry = false) :
    (rows.map initializeLegacyDeliveryMetadata).Pairwise
      fun previous entry => rowsClash previous entry = false := by
  have hids : rows.Pairwise fun a b => a.outbound = true → b.outbound = true →
      migrationDeliverySessionId a ≠ migrationDeliverySessionId b :=
    List.pairwise_filter.mp (List.pairwise_map.mp hids)
  refine List.pairwise_map.mpr (hdigests.imp₂ (fun a b hdigest hdiffer => ?_) hids)
  obtain ⟨hav, had⟩ := DmEntry.digest_of_ackPart (initialize_ackPart a)
  obtain ⟨hbv, hbd⟩ := DmEntry.digest_of_ackPart (initialize_ackPart b)
  have hsame : validIdentityDigestEqual (initializeLegacyDeliveryMetadata a)
      (initializeLegacyDeliveryMetadata b) = false := by
    rw [validIdentityDigestEqual, hav, had, hbv, hbd]
    exact hdigest
  rw [rowsClash, hsame, Bool.false_or, initialize_session, initialize_session,
    Bool.and_eq_false_imp]
  intro hnonzero
  refine decide_eq_false ?_
  cases hb : b.outbound with
  | false => simp [hb] at hnonzero
  | true =>
    cases ha : a.outbound with
    | false => simpa using (migrationDeliverySessionId_ne_zero b).symm
    | true => simpa using hdiffer ha hb

section Blobs

structure HeaderOk {ε : Type} (b : BlobV2 ε) : Prop where
  slots : b.entries.length = dmStoreCapacity
  count : b.count ≤ dmStoreCapacity
  next : b.nextSeq ≠ 0
  total : b.count ≤ b.totalWritten

variable {ε : Type} {b : BlobV2 ε} {schema : Nat}

theorem headerV2IsValid_ok (h : headerV2IsValid b schema = true) : HeaderOk b := by
  simp only [headerV2IsValid, Bool.and_eq_true, decide_eq_true_eq] at h
  obtain ⟨⟨⟨⟨⟨hslots, _⟩, _⟩, hcount⟩, hnext⟩, htotal⟩ := h
  exact ⟨hslots, hcount, hnext, htotal⟩

theorem headerV3IsValid_ok {b : BlobV3 ε} (h : headerV3IsValid b schema = true) :
    HeaderOk b.toBlobV2 ∧ b.epoch ≠ 0 ∧ b.contentRevision ≠ 0 := by
  simp only [headerV3IsValid, Bool.and_eq_true, decide_eq_true_eq] at h
  obtain ⟨⟨⟨hheader, hepoch⟩, hrevision⟩, _⟩ := h
  exact ⟨headerV2IsValid_ok hheader, hepoch, hrevision⟩

theorem HeaderOk.length_rows (h : HeaderOk b) : b.rows.length = b.count := by
  rw [BlobV2.rows, List.length_take, List.length_rotate, h.slots]
  exact Nat.min_eq_left h.count

variable {convert : ε → DmEntry} {epoch contentRevision : Nat} {clearLineage : UInt64}

theorem convertBlob_rows (h : HeaderOk b) :
    (convertBlob b convert epoch contentRevision clearLineage).rows = b.rows.map convert := by
  have hlength : (b.rows.map convert).length = b.count := by rw [List.length_map, h.length_rows]
  change (b.rows.map convert ++ _).take (min b.count dmStoreCapacity) = _
  rw [Nat.min_eq_left h.count, ← hlength, List.take_left]

theorem convertBlob_valid (h : HeaderOk b) (hepoch : epoch ≠ 0) (hrevision : contentRevision ≠ 0)
    (hrows : RowsValid b.nextSeq (b.rows.map convert)) :
    BlobValid (convertBlob b convert epoch contentRevision clearLineage) := by
  refine ⟨?_, rfl, hepoch, hrevision, h.count, h.next, h.total, rfl, ?_⟩
  · have hcount := h.count
    change (b.rows.map convert ++ List.replicate _ _).length = dmStoreCapacity
    rw [List.length_append, List.length_map, h.length_rows, List.length_replicate]
    omega
  · rw [convertBlob_rows h]
    exact hrows

theorem migrationRevision_ne_zero (totalWritten : Nat) : migrationRevision totalWritten ≠ 0 := by
  unfold migrationRevision
  split_ifs
  · decide
  · exact Nat.succ_ne_zero _

theorem rowsRise_iff {seqOf : ε → Nat} {valid : ε → Bool} {rows : List ε} {previousSeq : Nat} :
    rowsRise seqOf valid previousSeq rows = true ↔
      (∀ e ∈ rows, valid e = true) ∧ Ascending seqOf rows ∧ ∀ e ∈ rows, previousSeq < seqOf e := by
  induction rows generalizing previousSeq with
  | nil => exact iff_of_true rfl ⟨by simp, List.Pairwise.nil, by simp⟩
  | cons e rows ih =>
    rw [rowsRise, Bool.and_eq_true, Bool.and_eq_true, decide_eq_true_eq, ih]
    constructor
    · rintro ⟨⟨hvalid, hprevious⟩, hrest, hasc, habove⟩
      exact ⟨List.forall_mem_cons.mpr ⟨hvalid, hrest⟩, List.pairwise_cons.mpr ⟨habove, hasc⟩,
        List.forall_mem_cons.mpr ⟨hprevious, fun x hx => hprevious.trans (habove x hx)⟩⟩
    · rintro ⟨hvalid, hasc, hprevious⟩
      obtain ⟨hvalid, hrest⟩ := List.forall_mem_cons.mp hvalid
      obtain ⟨habove, hasc⟩ := List.pairwise_cons.mp hasc
      exact ⟨⟨hvalid, hprevious e List.mem_cons_self⟩, hrest, hasc, habove⟩

theorem initialize_rows {copy : ε → DmEntry} {seqOf : ε → Nat} {rows : List ε} {nextSeq : Nat}
    (hseq : ∀ e, (copy e).seq = seqOf e) (hasc : Ascending seqOf rows)
    (hbounds : ∀ e ∈ rows, 0 < seqOf e ∧ seqOf e < nextSeq)
    (hsound : ∀ e ∈ rows, persistedTextIsValid (copy e) = true ∧ ackMetadataIsValid (copy e) = true)
    (hdigests : (rows.map copy).Pairwise
      fun previous entry => validIdentityDigestEqual previous entry = false)
    (hids : (migratedSessionIds (rows.map copy)).Nodup) :
    RowsValid nextSeq (rows.map fun e => initializeLegacyDeliveryMetadata (copy e)) := by
  have hmap : rows.map (fun e => initializeLegacyDeliveryMetadata (copy e)) =
      (rows.map copy).map initializeLegacyDeliveryMetadata := by rw [List.map_map]; rfl
  have hnumber : ∀ e, (initializeLegacyDeliveryMetadata (copy e)).seq = seqOf e := fun e =>
    (initialize_seq _).trans (hseq e)
  refine ⟨List.forall_mem_map.mpr fun e he => ?_, List.pairwise_map.mpr (hasc.imp fun hlt => ?_), ?_⟩
  · obtain ⟨hpos, hlt⟩ := hbounds e he
    obtain ⟨htext, hack⟩ := hsound e he
    rw [persistedEntryIsValid_iff, hnumber]
    exact ⟨hpos, hlt, initialize_sound htext hack⟩
  · rw [hnumber, hnumber]
    exact hlt
  · rw [hmap]
    exact initialize_distinct hids hdigests

end Blobs

section Copies

variable {nextSeq : Nat}

theorem copyV4Entry_sound {old : DmEntryV4} (h : legacyEntryIsValid nextSeq old = true) :
    (0 < old.seq ∧ old.seq < nextSeq) ∧ persistedTextIsValid (copyV4Entry old) = true := by
  simp only [legacyEntryIsValid, Bool.and_eq_true] at h
  obtain ⟨⟨⟨⟨⟨⟨⟨⟨hpos, hlt⟩, hfingerprint⟩, halias⟩, hdirection⟩, htext⟩, hhash⟩, hhops⟩, hpath⟩ := h
  refine ⟨⟨of_decide_eq_true hpos, of_decide_eq_true hlt⟩, ?_⟩
  simp only [persistedTextIsValid, Bool.and_eq_true]
  exact ⟨⟨⟨⟨⟨⟨hfingerprint, persistedAsciiIsValid_widen (by decide) halias⟩, hdirection⟩,
    decide_eq_true (userText_of_persistedAscii htext)⟩, hhash⟩, hhops⟩, hpath⟩

theorem withV5Metadata_sound {old : DmEntryV5} (h : v5EntryIsValid nextSeq old = true) :
    (0 < old.seq ∧ old.seq < nextSeq) ∧ persistedTextIsValid (withV5Metadata old) = true ∧
      ackMetadataIsValid (withV5Metadata old) = true := by
  obtain ⟨hlegacy, hack⟩ := Bool.and_eq_true_iff.mp h
  obtain ⟨hbounds, htext⟩ := copyV4Entry_sound hlegacy
  exact ⟨hbounds, htext, hack⟩

/-- What is asked of a row of schema 1, whose own validator only looks at the header: texts that
are not empty, and a number and a path within bounds. -/
def v1EntryIsReadable (nextSeq : Nat) (old : DmEntryV1) : Bool :=
  decide (0 < old.seq) && decide (old.seq < nextSeq) &&
    decide (old.contactFingerprint.bytes ≠ []) && decide (old.contactAlias.bytes ≠ []) &&
    decide (old.direction.bytes ≠ []) && decide (old.text.bytes ≠ []) &&
    decide (old.pathHashBytes ≤ 3) && decide (old.pathHops ≤ 63) &&
    decide (old.pathHashBytes * old.pathHops ≤ 64)

theorem copyV1Entry_sound {old : DmEntryV1} (h : v1EntryIsReadable nextSeq old = true) :
    (0 < old.seq ∧ old.seq < nextSeq) ∧ persistedTextIsValid (copyV1Entry old) = true := by
  simp only [v1EntryIsReadable, Bool.and_eq_true, decide_eq_true_eq] at h
  obtain ⟨⟨⟨⟨⟨⟨⟨⟨hpos, hlt⟩, hfingerprint⟩, halias⟩, hdirection⟩, htext⟩, hhash⟩, hhops⟩, hpath⟩ := h
  refine ⟨⟨hpos, hlt⟩, ?_⟩
  simp only [persistedTextIsValid, Bool.and_eq_true]
  refine ⟨⟨⟨⟨⟨⟨?_, ?_⟩, ?_⟩, decide_eq_true (userText_of_persistedAscii ?_)⟩,
    decide_eq_true hhash⟩, decide_eq_true hhops⟩, decide_eq_true hpath⟩
  · exact persistedAsciiIsValid_sanitizeAscii (by decide) hfingerprint
  · exact persistedAsciiIsValid_sanitizeAscii (by decide) halias
  · exact persistedAsciiIsValid_sanitizeAscii (by decide) hdirection
  · exact persistedAsciiIsValid_sanitizeAscii (by decide) htext

theorem noDigests {ε : Type} {copy : ε → DmEntry} (rows : List ε)
    (hnone : ∀ e, (copy e).identityDigestValid = false) : (rows.map copy).Pairwise
      fun previous entry => validIdentityDigestEqual previous entry = false := by
  refine List.pairwise_map.mpr (List.pairwise_of_forall fun a b => ?_)
  rw [validIdentityDigestEqual, hnone a, Bool.false_and, Bool.false_and]

end Copies

section Upgrade

structure Carried where
  seq : Nat
  uptimeMs : Nat
  contactFingerprint : List UInt8
  contactAlias : List UInt8
  direction : List UInt8
  text : List UInt8
  rssiDbm : Int
  snrTenths : Int
  pathHashBytes : Nat
  pathHops : Nat
  attempt : Nat
  ackHash : Nat
  deriving DecidableEq

def DmEntry.carried (e : DmEntry) : Carried :=
  ⟨e.seq, e.uptimeMs, e.contactFingerprint.bytes, e.contactAlias.bytes, e.direction.bytes,
    e.text.bytes, e.rssiDbm, e.snrTenths, e.pathHashBytes, e.pathHops, e.attempt, e.ackHash⟩

def LegacyEntry.carried {textLen : Nat} (e : LegacyEntry textLen) : Carried :=
  ⟨e.seq, e.uptimeMs, e.contactFingerprint.bytes, e.contactAlias.bytes, e.direction.bytes,
    e.text.bytes, e.rssiDbm, e.snrTenths, e.pathHashBytes, e.pathHops, e.attempt, e.ackHash⟩

/-- A row of schema 1 as `sanitize_ascii_bounded` copies it: cut to the room there is, and with
every byte replaced that is not plain. -/
def sanitizedCarried (e : DmEntryV1) : Carried :=
  { e.carried with
    contactFingerprint := (e.contactFingerprint.bytes.take 16).map sanitizeByte
    contactAlias := e.contactAlias.bytes.map sanitizeByte
    direction := (e.direction.bytes.take 3).map sanitizeByte
    text := e.text.bytes.map sanitizeByte }

/-- The verdict on an older value of the validator of its own schema. -/
def RawBlob.accepted : RawBlob → Bool
  | .current b => blobLayoutIsValid b 6
  | .v6Narrow b => v6NarrowIsValid b
  | .v5 b => v5IsValid b
  | .v4 b => v4IsValid b
  | .v3 b => v3IsValid b
  | .v2 b => v2IsValid b
  | .v1 b => v1HeaderIsValid b
  | .other => false

def RawBlob.carried : RawBlob → List Carried
  | .current b => b.rows.map DmEntry.carried
  | .v6Narrow b => b.rows.map fun e => e.toLegacyEntry.carried
  | .v5 b => b.rows.map fun e => e.toLegacyEntry.carried
  | .v4 b => b.rows.map LegacyEntry.carried
  | .v3 b => b.rows.map LegacyEntry.carried
  | .v2 b => b.rows.map LegacyEntry.carried
  | .v1 b => b.rows.map LegacyEntry.carried
  | .other => []

/-- The rows as an upgrade copies them: as they are, but for schema 1. -/
def RawBlob.copied : RawBlob → List Carried
  | .v1 b => b.rows.map sanitizedCarried
  | raw => raw.carried

def BlobV2.counters {ε : Type} (b : BlobV2 ε) : Nat × Nat × Nat × Nat :=
  (b.nextSeq, b.totalWritten, b.droppedOldest, b.count)

def DmBlob.counters (b : DmBlob) : Nat × Nat × Nat × Nat :=
  (b.nextSeq, b.totalWritten, b.droppedOldest, b.count)

def RawBlob.counters : RawBlob → Nat × Nat × Nat × Nat
  | .current b => b.counters
  | .v6Narrow b => b.toBlobV2.counters
  | .v5 b => b.toBlobV2.counters
  | .v4 b => b.toBlobV2.counters
  | .v3 b => b.toBlobV2.counters
  | .v2 b => b.counters
  | .v1 b => b.counters
  | .other => (0, 0, 0, 0)

def RawBlob.readable : RawBlob → Bool
  | .v1 b => rowsRise (·.seq) (v1EntryIsReadable b.nextSeq) 0 b.rows
  | _ => true

/-- The session ids derived for the outbound rows of a value that has none. -/
def RawBlob.derivedSessionIds : RawBlob → List UInt64
  | .v5 b => migratedSessionIds (b.rows.map withV5Metadata)
  | .v4 b => migratedSessionIds (b.rows.map copyV4Entry)
  | .v3 b => migratedSessionIds (b.rows.map copyV4Entry)
  | .v2 b => migratedSessionIds (b.rows.map copyV4Entry)
  | .v1 b => migratedSessionIds (b.rows.map copyV1Entry)
  | _ => []

/-- The value is read back as a valid history of the rows `rows` under the same counters, and what
is then written is read back unchanged. -/
def Survives (raw : RawBlob) (rows : List Carried) : Prop :=
  ∃ b, decodeRawBlob raw = .ok (b, true) ∧ blobIsValid b = true ∧
    b.rows.map DmEntry.carried = rows ∧ b.counters = raw.counters ∧
      decodeRawBlob (.current b) = .ok (b, false)

theorem initialize_carried (e : DmEntry) :
    (initializeLegacyDeliveryMetadata e).carried = e.carried := by
  obtain ⟨session, h | h⟩ := initialize_cases e <;> rw [h] <;> rfl

theorem copyV1Entry_carried (e : DmEntryV1) : (copyV1Entry e).carried = sanitizedCarried e := by
  have halias : e.contactAlias.bytes.take (32 - 1) = e.contactAlias.bytes :=
    List.take_of_length_le (e.contactAlias.length_le.trans (by decide))
  have htext : e.text.bytes.take (139 - 1) = e.text.bytes :=
    List.take_of_length_le (e.text.length_le.trans (by decide))
  simp only [DmEntry.carried, sanitizedCarried, copyV1Entry, copyLegacyFields, sanitizeAsciiBounded,
    sanitizeAscii, LegacyEntry.carried, halias, htext]

variable {raw : RawBlob} {layoutIsValid : Bool} {out : DmBlob}

theorem survives_of_valid (hdecode : decodeRawBlob raw = acceptUpgrade layoutIsValid out)
    (hlayout : layoutIsValid = true) (hvalid : BlobValid out) {rows : List Carried}
    (hrows : out.rows.map DmEntry.carried = rows) (hcounters : out.counters = raw.counters) :
    Survives raw rows := by
  have hout := (blobIsValid_iff out).mpr hvalid
  refine ⟨out, ?_, hout, hrows, hcounters, ?_⟩
  · rw [hdecode, acceptUpgrade, hlayout, hout]
    rfl
  · rw [decodeRawBlob, if_pos hvalid.schema, if_pos hout]

variable {ε : Type} {b : BlobV2 ε} {copy : ε → DmEntry} {epoch contentRevision : Nat}
  {clearLineage : UInt64} {carried : ε → Carried}

theorem survives_of_rows
    (hdecode : decodeRawBlob raw = acceptUpgrade layoutIsValid (convertBlob b
      (fun e => initializeLegacyDeliveryMetadata (copy e)) epoch contentRevision clearLineage))
    (hlayout : layoutIsValid = true) (hheader : HeaderOk b) (hepoch : epoch ≠ 0)
    (hrevision : contentRevision ≠ 0)
    (hrows : RowsValid b.nextSeq (b.rows.map fun e => initializeLegacyDeliveryMetadata (copy e)))
    (hcarried : ∀ e, (copy e).carried = carried e) (hcounters : b.counters = raw.counters) :
    Survives raw (b.rows.map carried) := by
  refine survives_of_valid hdecode hlayout (convertBlob_valid hheader hepoch hrevision hrows) ?_
    hcounters
  rw [convertBlob_rows hheader, List.map_map]
  exact List.map_congr_left fun e _ => (initialize_carried (copy e)).trans (hcarried e)

theorem survives_v4 {b : BlobV2 DmEntryV4}
    (hdecode : decodeRawBlob raw =
      acceptUpgrade layoutIsValid (convertBlob b convertV4Entry epoch contentRevision clearLineage))
    (hlayout : layoutIsValid = true) (hheader : HeaderOk b) (hepoch : epoch ≠ 0)
    (hrevision : contentRevision ≠ 0)
    (hrise : rowsRise (·.seq) (legacyEntryIsValid b.nextSeq) 0 b.rows = true)
    (hids : (migratedSessionIds (b.rows.map copyV4Entry)).Nodup)
    (hcounters : b.counters = raw.counters) : Survives raw (b.rows.map LegacyEntry.carried) := by
  obtain ⟨hvalid, hasc, _⟩ := rowsRise_iff.mp hrise
  refine survives_of_rows hdecode hlayout hheader hepoch hrevision ?_ (fun _ => rfl) hcounters
  exact initialize_rows (fun _ => rfl) hasc (fun e he => (copyV4Entry_sound (hvalid e he)).1)
    (fun e he => ⟨(copyV4Entry_sound (hvalid e he)).2, rfl⟩) (noDigests _ fun _ => rfl) hids

theorem survives_v5 {b : BlobV4 DmEntryV5} (haccepted : v5IsValid b = true)
    (hids : (migratedSessionIds (b.rows.map withV5Metadata)).Nodup) :
    Survives (.v5 b) (RawBlob.v5 b).carried := by
  have hparts := haccepted
  simp only [v5IsValid, Bool.and_eq_true, decide_eq_true_eq] at hparts
  obtain ⟨⟨hheader, hrise⟩, hdigests⟩ := hparts
  obtain ⟨hheader, hepoch, hrevision⟩ := headerV3IsValid_ok hheader
  obtain ⟨hvalid, hasc, _⟩ := rowsRise_iff.mp hrise
  refine survives_of_rows rfl haccepted hheader hepoch hrevision ?_ (fun _ => rfl) rfl
  refine initialize_rows (fun _ => rfl) hasc
    (fun e he => (withV5Metadata_sound (hvalid e he)).1)
    (fun e he => (withV5Metadata_sound (hvalid e he)).2) ?_ hids
  refine List.pairwise_map.mpr (hdigests.imp fun {a b} hdiffer => ?_)
  refine Bool.eq_false_iff.mpr fun hsame => hdiffer ?_
  rw [validIdentityDigestEqual, Bool.and_eq_true, Bool.and_eq_true, beq_iff_eq] at hsame
  exact ⟨hsame.1.1, hsame.1.2, hsame.2⟩

theorem survives_v1 {b : BlobV2 DmEntryV1} (haccepted : v1HeaderIsValid b = true)
    (hreadable : rowsRise (·.seq) (v1EntryIsReadable b.nextSeq) 0 b.rows = true)
    (hids : (migratedSessionIds (b.rows.map copyV1Entry)).Nodup) :
    Survives (.v1 b) (RawBlob.v1 b).copied := by
  obtain ⟨hvalid, hasc, _⟩ := rowsRise_iff.mp hreadable
  refine survives_of_rows rfl haccepted (headerV2IsValid_ok haccepted) Nat.one_ne_zero
    (migrationRevision_ne_zero _) ?_ copyV1Entry_carried rfl
  exact initialize_rows (fun _ => rfl) hasc (fun e he => (copyV1Entry_sound (hvalid e he)).1)
    (fun e he => ⟨(copyV1Entry_sound (hvalid e he)).2, rfl⟩) (noDigests _ fun _ => rfl) hids

theorem survives_v6Narrow {b : BlobV4 DmEntryV6Narrow} (haccepted : v6NarrowIsValid b = true) :
    Survives (.v6Narrow b) (RawBlob.v6Narrow b).carried := by
  have hparts := haccepted
  simp only [v6NarrowIsValid, Bool.and_eq_true] at hparts
  obtain ⟨⟨hheader, _⟩, hloop⟩ := hparts
  obtain ⟨hheader, hepoch, hrevision⟩ := headerV3IsValid_ok hheader
  have hrows := ((rowLoopIsValid_iff _ _ _ _).mp hloop).1
  refine survives_of_valid rfl haccepted (convertBlob_valid hheader hepoch hrevision hrows) ?_ rfl
  rw [convertBlob_rows hheader, List.map_map]
  rfl

theorem survives_v6Wide {b : DmBlob} (haccepted : blobLayoutIsValid b 6 = true) :
    Survives (.current b) (RawBlob.current b).carried := by
  have hvalid : blobIsValid { b with schema := dmStoreSchema } = true := by
    simp only [blobIsValid, blobLayoutIsValid, Bool.and_eq_true] at haccepted ⊢
    obtain ⟨⟨⟨⟨⟨⟨⟨⟨⟨hlength, _⟩, hepoch⟩, hrevision⟩, hhead⟩, hcount⟩, hnext⟩, htotal⟩, hpacked⟩,
      hloop⟩ := haccepted
    exact ⟨⟨⟨⟨⟨⟨⟨⟨⟨hlength, rfl⟩, hepoch⟩, hrevision⟩, hhead⟩, hcount⟩, hnext⟩, htotal⟩, hpacked⟩,
      hloop⟩
  have hschema : b.schema ≠ dmStoreSchema := by
    simp only [blobLayoutIsValid, Bool.and_eq_true, decide_eq_true_eq] at haccepted
    obtain ⟨⟨⟨⟨⟨⟨⟨⟨⟨_, hschema⟩, _⟩, _⟩, _⟩, _⟩, _⟩, _⟩, _⟩, _⟩ := haccepted
    rw [hschema]
    decide
  have hdecode : decodeRawBlob (.current b) =
      acceptUpgrade (blobLayoutIsValid b 6) { b with schema := dmStoreSchema } := if_neg hschema
  exact survives_of_valid hdecode haccepted ((blobIsValid_iff _).mp hvalid) rfl rfl

/-- An older history whose rows can be told apart under the current schema is read back with its
rows and counters, and what is written back is read back unchanged. -/
theorem upgrade_survives {raw : RawBlob} (haccepted : raw.accepted = true)
    (hreadable : raw.readable = true) (hids : raw.derivedSessionIds.Nodup) :
    Survives raw raw.copied := by
  cases raw with
  | current b => exact survives_v6Wide haccepted
  | v6Narrow b => exact survives_v6Narrow haccepted
  | v5 b => exact survives_v5 haccepted hids
  | v4 b =>
    obtain ⟨hheader, hrise⟩ := Bool.and_eq_true_iff.mp haccepted
    obtain ⟨hheader, hepoch, hrevision⟩ := headerV3IsValid_ok hheader
    exact survives_v4 rfl haccepted hheader hepoch hrevision hrise hids rfl
  | v3 b =>
    obtain ⟨hheader, hrise⟩ := Bool.and_eq_true_iff.mp haccepted
    obtain ⟨hheader, hepoch, hrevision⟩ := headerV3IsValid_ok hheader
    exact survives_v4 rfl haccepted hheader hepoch hrevision hrise hids rfl
  | v2 b =>
    obtain ⟨hheader, hrise⟩ := Bool.and_eq_true_iff.mp haccepted
    exact survives_v4 rfl haccepted (headerV2IsValid_ok hheader) Nat.one_ne_zero
      (migrationRevision_ne_zero _) hrise hids rfl
  | v1 b => exact survives_v1 haccepted hreadable hids
  | other => cases haccepted

end Upgrade

/-- A row of the contact `A` with the text `text`. -/
def sampleV4Entry (seq uptimeMs : Nat) : DmEntryV4 where
  seq := seq
  uptimeMs := uptimeMs
  contactFingerprint := .lit [65]
  contactAlias := .lit [66]
  direction := .lit txLiteral
  text := .lit [104, 105]
  rssiDbm := -90
  snrTenths := 40
  pathHashBytes := 1
  pathHops := 0
  attempt := 0
  delivered := false
  acked := false
  ackHash := 7

/-- Two outbound rows written at `first` and `second`. -/
def sampleV4Blob (first second : Nat) : BlobV4 DmEntryV4 where
  schema := 4
  nextSeq := 3
  totalWritten := 2
  droppedOldest := 0
  head := 2
  count := 2
  entries := [sampleV4Entry 1 first, sampleV4Entry 2 second] ++
    List.replicate 14 (sampleV4Entry 0 0)
  epoch := 1
  contentRevision := 3
  clearLineage := 0

theorem upgrade_survives_apart :
    Survives (.v4 (sampleV4Blob 1000 2000)) (RawBlob.v4 (sampleV4Blob 1000 2000)).copied :=
  upgrade_survives (by decide +kernel) rfl (by decide +kernel)

def accentedV1Blob : BlobV2 DmEntryV1 where
  schema := 1
  nextSeq := 2
  totalWritten := 1
  droppedOldest := 0
  head := 1
  count := 1
  entries := List.replicate 16
    { seq := 1
      uptimeMs := 1000
      contactFingerprint := .lit [65]
      contactAlias := .lit [66]
      direction := .lit rxLiteral
      text := .lit [0xC3, 0xA9]
      rssiDbm := -90
      snrTenths := 40
      pathHashBytes := 1
      pathHops := 0
      attempt := 0
      delivered := false
      acked := false
      ackHash := 7 }

/-- Schema 1 is sanitized on the way, and two outbound rows that only differ in their number make
the whole history unreadable. -/
theorem upgrade_changes_or_refuses :
    ((RawBlob.v1 accentedV1Blob).accepted = true ∧
        ¬ Survives (.v1 accentedV1Blob) (RawBlob.v1 accentedV1Blob).carried) ∧
      ((RawBlob.v4 (sampleV4Blob 1000 1000)).accepted = true ∧
        ¬ Survives (.v4 (sampleV4Blob 1000 1000)) (RawBlob.v4 (sampleV4Blob 1000 1000)).carried) := by
  refine ⟨⟨by decide +kernel, ?_⟩, ⟨by decide +kernel, ?_⟩⟩
  · rintro ⟨b, hdecode, _, hrows, _⟩
    have hread : decodeRawBlob (.v1 accentedV1Blob) = .ok (convertV1Blob accentedV1Blob, true) := by
      rw [decodeRawBlob, acceptUpgrade, if_pos (by decide +kernel)]
    rw [hread] at hdecode
    cases hdecode
    revert hrows
    decide +kernel
  · rintro ⟨b, hdecode, _⟩
    have hread : decodeRawBlob (.v4 (sampleV4Blob 1000 1000)) = .error espErrInvalidState := by
      rw [decodeRawBlob, acceptUpgrade, if_neg (by decide +kernel)]
    rw [hread] at hdecode
    cases hdecode

end Sigui.Dm

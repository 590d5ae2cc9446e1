import Sigui.AdminQuery
import Mathlib.Data.List.GetD
import Mathlib.Data.List.TakeDrop

/-! Which telemetry responses are decoded, and what their text shows: the records of a grammar,
one line each, cut where the text is full. -/
namespace Sigui.Admin

structure TelemetryRecord where
  channel : UInt8
  type : UInt8
  value : List UInt8

def TelemetryRecord.bytes (r : TelemetryRecord) : List UInt8 := r.channel :: r.type :: r.value

/-- A supported record with a value of its type's length; a polyline says its length itself. -/
structure TelemetryRecord.Ok (r : TelemetryRecord) : Prop where
  channel : r.channel ≠ 0
  value : telemetryValueLen r.type.toNat r.value = some r.value.length
  polyline : r.type = 240 → 8 ≤ byteAt r.value 0

def TelemetryRecord.line (r : TelemetryRecord) : List UInt8 :=
  channelLine r.channel.toNat (telemetryReading r.type.toNat r.value)

inductive TelemetryEnd
  | padding (count : Nat)
  -- a record of a type that the decoder does not know, with whatever follows it
  | unsupported (channel type : UInt8) (rest : List UInt8)

def TelemetryEnd.bytes : TelemetryEnd → List UInt8
  | padding count => List.replicate count 0
  | unsupported channel type rest => channel :: type :: rest

def TelemetryEnd.Ok : TelemetryEnd → Prop
  | padding count => count ≤ maxPaddingBytes
  | unsupported channel type rest =>
    channel ≠ 0 ∧ rest ≠ [] ∧ telemetryValueLen type.toNat rest = none

def TelemetryEnd.hidden : TelemetryEnd → Bool
  | padding _ => false
  | unsupported _ _ _ => true

def TelemetryEnd.counted : TelemetryEnd → Nat
  | padding _ => 0
  | unsupported _ _ _ => 1

/-- `bytes` is a tag, the records and their end. -/
structure TelemetryForm (bytes : List UInt8) (records : List TelemetryRecord)
    (ending : TelemetryEnd) : Prop where
  parts : ∃ tag : List UInt8, tag.length = 4 ∧
    bytes = tag ++ records.flatMap TelemetryRecord.bytes ++ ending.bytes
  records : ∀ r ∈ records, r.Ok
  ending : ending.Ok

def TelemetryEnd.line (records : List TelemetryRecord) : TelemetryEnd → List UInt8
  | padding _ => if records = [] then ascii "No telemetry fields returned.\n" else []
  | unsupported channel type _ =>
    channelLine channel.toNat
      (ascii "unsupported type " ++ decimal type.toNat ++ ascii " (remaining data hidden)")

def fullText (records : List TelemetryRecord) (ending : TelemetryEnd) : List UInt8 :=
  ascii "Telemetry\n" ++ records.flatMap TelemetryRecord.line ++ ending.line records

/-- `text[]` of a result: the bytes, and the zeros it was initialised with behind them. -/
def QueryText.buffer (text : QueryText) : List UInt8 :=
  text.bytes ++ List.replicate (maxQueryTextBytes + 1 - text.bytes.length) 0

/-- The result shows as much of the text as fits, and says whether that is all of it. -/
structure ShowsText (result : QueryResult) (full : List UInt8) (hidden : Bool) : Prop where
  cut : result.text.bytes <+: full
  truncated : result.truncated = true ↔ result.text.bytes ≠ full ∨ hidden = true
  size : result.text.buffer.length = maxQueryTextBytes + 1
  string : result.text.buffer.takeWhile (· ≠ 0) = result.text.bytes
  terminated : result.text.buffer.getD result.text.bytes.length 1 = 0

/-- What a response of this form is decoded to. The counters are `uint16_t`. -/
structure Decoded (parsed : QueryResult) (records : List TelemetryRecord) (ending : TelemetryEnd) :
    Prop where
  kind : parsed.kind = .telemetry
  valid : parsed.valid = true
  count : parsed.count = (records.length + ending.counted) % 0x10000
  total : ending.hidden = false → parsed.total = records.length % 0x10000
  text : ShowsText parsed (fullText records ending) ending.hidden

/-- `d1l_meshcore_telemetry_decode` with the result it is given. -/
def telemetryDecodeInto (plaintext : List UInt8) (out : QueryResult) : Bool × QueryResult :=
  match telemetryDecode plaintext with
  | some parsed => (true, parsed)
  | none => (false, out)

section Values

variable {type : Nat} {value rest : List UInt8}

theorem byteAt_append {i : Nat} (h : i < value.length) :
    byteAt (value ++ rest) i = byteAt value i := by
  unfold byteAt
  rw [List.getD_append _ _ _ _ h]

theorem telemetryValueLen_pos (h : telemetryValueLen type value = some n)
    (hpolyline : type = 240 → 8 ≤ byteAt value 0) : 0 < n := by
  by_cases hlength : type = 240
  · have hmin := hpolyline hlength
    rw [hlength, telemetryValueLen, Option.some.injEq] at h
    omega
  · unfold telemetryValueLen at h
    split at h <;> simp only [Option.some.injEq, reduceCtorEq] at h <;> omega

theorem telemetryValueLen_append (hpos : 0 < value.length) :
    telemetryValueLen type (value ++ rest) = telemetryValueLen type value := by
  unfold telemetryValueLen
  rw [byteAt_append hpos]

theorem telemetryReading_append (h : telemetryValueLen type value = some value.length)
    (hpolyline : type = 240 → 8 ≤ byteAt value 0) :
    telemetryReading type (value ++ rest) = telemetryReading type value := by
  have hpos := telemetryValueLen_pos h hpolyline
  have hat : ∀ i, i < value.length → byteAt (value ++ rest) i = byteAt value i :=
    fun i hi => byteAt_append hi
  unfold telemetryReading
  split <;> simp only [telemetryValueLen, Option.some.injEq] at h <;>
    simp only [readBeI16, readBe16, readBe32, readBeI24, hat _ hpos, Nat.zero_add, Nat.reduceAdd,
      hat 1, hat 2, hat 3, hat 4, hat 5, hat 6, hat 7, hat 8, ← h, Nat.reduceLT]

end Values

section Text

/-- The text is what fits of `full`, and `truncated` says whether something did not. -/
structure Rendered (result : QueryResult) (full : List UInt8) : Prop where
  text : result.text.bytes = full.take maxQueryTextBytes
  truncated : result.truncated = true ↔ maxQueryTextBytes < full.length

variable {result : QueryResult} {full line : List UInt8}

theorem Rendered.append (h : Rendered result full) (hline : line ≠ []) :
    Rendered (queryAppend result line) (full ++ line) := by
  have hpos := List.length_pos_of_ne_nil hline
  have hlength : result.text.bytes.length = min maxQueryTextBytes full.length := by
    rw [h.text, List.length_take]
  unfold queryAppend
  by_cases hfull : maxQueryTextBytes ≤ result.text.bytes.length
  · rw [if_pos hfull]
    refine ⟨?_, iff_of_true rfl ?_⟩
    · rw [List.take_append_of_le_length (by omega)]
      exact h.text
    · rw [List.length_append]
      omega
  · rw [if_neg hfull]
    have hall : result.text.bytes = full := by
      rw [h.text]
      exact List.take_of_length_le (by omega)
    by_cases hfits : (result.text.bytes ++ line).length ≤ maxQueryTextBytes
    · rw [dif_pos hfits]
      rw [hall] at hfits
      refine ⟨?_, ?_⟩
      · change result.text.bytes ++ line = _
        rw [hall, List.take_of_length_le hfits]
      · change result.truncated = true ↔ _
        rw [h.truncated]
        exact iff_of_false (by omega) (by omega)
    · rw [dif_neg hfits]
      rw [hall] at hfits
      refine ⟨?_, iff_of_true rfl (by omega)⟩
      change (result.text.bytes ++ line).take _ = _
      rw [hall]

theorem Rendered.of_full (h : Rendered result (full ++ line))
    (hfull : maxQueryTextBytes < full.length) : Rendered result full := by
  refine ⟨?_, h.truncated.trans (iff_of_true ?_ hfull)⟩
  · rw [h.text, List.take_append_of_le_length hfull.le]
  · rw [List.length_append]
    omega

def Printed (text : List UInt8) : Prop := ∀ b ∈ text, b ≠ 0

instance (text : List UInt8) : Decidable (Printed text) :=
  List.decidableBAll (· ≠ 0) text

theorem printed_append {text more : List UInt8} :
    Printed (text ++ more) ↔ Printed text ∧ Printed more := by
  simp only [Printed, List.mem_append, or_imp, forall_and]

theorem printed_decimal (n : Nat) : Printed (decimal n) := by
  intro b hb
  obtain ⟨c, hc, rfl⟩ := List.mem_map.mp hb
  have hdigit := Nat.isDigit_of_mem_toDigits (by decide) (by decide) hc
  obtain ⟨hlow, hhigh⟩ := Char.isDigit_iff_toNat.mp hdigit
  have hlow' : 48 ≤ c.toNat := hlow
  have hhigh' : c.toNat ≤ 57 := hhigh
  intro hzero
  have hvalue : c.toNat % 256 = 0 := by
    have := congrArg UInt8.toNat hzero
    simpa using this
  omega

theorem printed_decimalPadded (width n : Nat) : Printed (decimalPadded width n) := by
  refine printed_append.mpr ⟨fun b hb => ?_, printed_decimal n⟩
  rw [List.eq_of_mem_replicate hb]
  decide

theorem printed_sign (z : Int) : Printed (if z < 0 then ascii "-" else []) := by
  split_ifs <;> decide

theorem printed_signedDecimal (z : Int) : Printed (signedDecimal z) :=
  printed_append.mpr ⟨printed_sign z, printed_decimal _⟩

theorem printed_formatScaled (value : Int) (divisor decimals : Nat) :
    Printed (formatScaled value divisor decimals) := by
  unfold formatScaled
  simp only [printed_append]
  exact ⟨⟨⟨printed_sign value, printed_decimal _⟩, by decide⟩, printed_decimalPadded _ _⟩

theorem printed_formatScaledUnsigned (value divisor decimals : Nat) :
    Printed (formatScaledUnsigned value divisor decimals) := by
  unfold formatScaledUnsigned
  simp only [printed_append]
  exact ⟨⟨printed_decimal _, by decide⟩, printed_decimalPadded _ _⟩

theorem printed_hexByte {n : Nat} (h : n < 256) : Printed (hexByte n) := by
  have hdigit : ∀ d : Fin 16,
      UInt8.ofNat (if d.val < 10 then 48 + d.val else 55 + d.val) ≠ 0 := by decide
  intro b hb
  obtain ⟨d, hd, rfl⟩ := List.mem_map.mp hb
  have hd16 : d < 16 := by
    simp only [List.mem_cons, List.not_mem_nil, or_false] at hd
    omega
  exact hdigit ⟨d, hd16⟩

theorem byteAt_lt (data : List UInt8) (i : Nat) : byteAt data i < 256 := UInt8.toNat_lt _

theorem printed_telemetryReading (type : Nat) (value : List UInt8) :
    Printed (telemetryReading type value) := by
  unfold telemetryReading
  split <;>
    simp only [printed_append, printed_decimal, printed_signedDecimal, printed_formatScaled,
      printed_formatScaledUnsigned, printed_hexByte (byteAt_lt _ _), and_true] <;>
    decide

theorem printed_channelLine {reading : List UInt8} (channel : Nat) (h : Printed reading) :
    Printed (channelLine channel reading) := by
  unfold channelLine
  simp only [printed_append]
  exact ⟨⟨⟨⟨by decide, printed_decimal _⟩, by decide⟩, h⟩, by decide⟩

theorem printed_fullText (records : List TelemetryRecord) (ending : TelemetryEnd) :
    Printed (fullText records ending) := by
  refine printed_append.mpr ⟨printed_append.mpr ⟨by decide, fun b hb => ?_⟩, ?_⟩
  · obtain ⟨r, _, hline⟩ := List.mem_flatMap.mp hb
    exact printed_channelLine _ (printed_telemetryReading _ _) b hline
  · cases ending with
    | padding count =>
      change Printed (if records = [] then _ else [])
      split_ifs <;> decide
    | unsupported channel type rest =>
      refine printed_channelLine _ ?_
      simp only [printed_append]
      exact ⟨⟨by decide, printed_decimal _⟩, by decide⟩

theorem Rendered.shows (h : Rendered result full) (hprinted : Printed full) {hidden : Bool}
    {shown : QueryResult} (htext : shown.text = result.text)
    (htruncated : shown.truncated = true ↔ result.truncated = true ∨ hidden = true) :
    ShowsText shown full hidden := by
  have hbytes : shown.text.bytes = full.take maxQueryTextBytes := by rw [htext, h.text]
  have hle := shown.text.length_le
  refine ⟨?_, ?_, ?_, ?_, ?_⟩
  · rw [hbytes]
    exact List.take_prefix _ _
  · rw [htruncated, h.truncated, hbytes, ne_eq, List.take_eq_self_iff, not_le]
  · rw [QueryText.buffer, List.length_append, List.length_replicate]
    omega
  · have hnonzero : ∀ b ∈ shown.text.bytes, decide (b ≠ 0) = true := fun b hb => by
      rw [hbytes] at hb
      exact decide_eq_true (hprinted b (List.mem_of_mem_take hb))
    rw [QueryText.buffer, List.takeWhile_append_of_pos hnonzero,
      show maxQueryTextBytes + 1 - shown.text.bytes.length =
        maxQueryTextBytes - shown.text.bytes.length + 1 by omega, List.replicate_succ]
    exact List.append_nil _
  · rw [QueryText.buffer, List.getD_append_right _ _ _ _ le_rfl, Nat.sub_self,
      show maxQueryTextBytes + 1 - shown.text.bytes.length =
        maxQueryTextBytes - shown.text.bytes.length + 1 by omega, List.replicate_succ]
    rfl

end Text

section Parsing

variable {records : List TelemetryRecord} {ending : TelemetryEnd} {rest : List UInt8}
  {result parsed : QueryResult}

theorem endsHere_of_channel {channel : UInt8} (h : channel ≠ 0) (rest : List UInt8) :
    endsHere (channel :: rest) = false := by
  have hzero : bytesAllZero (channel :: rest) = false := by
    rw [bytesAllZero, List.all_cons, beq_false_of_ne h, Bool.false_and]
  rw [endsHere, hzero, Bool.and_false]
  rfl

theorem parse_record {r : TelemetryRecord} (hr : r.Ok) (rest : List UInt8) (result : QueryResult) :
    parseTelemetryRecords (r.bytes ++ rest) result =
      parseTelemetryRecords rest (queryAppend result r.line).counted := by
  obtain ⟨channel, type, value⟩ := r
  obtain ⟨hchannel, hvalue, hpolyline⟩ := hr
  dsimp only at hchannel hvalue hpolyline
  have hpolyline' : type.toNat = 240 → 8 ≤ byteAt value 0 := fun h =>
    hpolyline (UInt8.toNat_inj.mp h)
  have hpos := telemetryValueLen_pos hvalue hpolyline'
  have hchannel' : channel.toNat ≠ 0 := fun h => hchannel (UInt8.toNat_inj.mp h)
  have hlength : (channel :: type :: (value ++ rest)).length = value.length + rest.length + 2 := by
    rw [List.length_cons, List.length_cons, List.length_append]
  change parseTelemetryRecords (channel :: type :: (value ++ rest)) result = _
  have hends : ¬ endsHere (channel :: type :: (value ++ rest)) = true := by
    rw [endsHere_of_channel hchannel]
    exact Bool.false_ne_true
  rw [parseTelemetryRecords, if_neg hends, if_neg ?_]
  · have htype : byteAt (channel :: type :: (value ++ rest)) 1 = type.toNat := rfl
    dsimp only
    rw [htype, List.drop_succ_cons, List.drop_succ_cons, List.drop_zero, if_neg ?_,
      telemetryValueLen_append hpos, hvalue]
    · change (if _ : (channel :: type :: (value ++ rest)).length < 2 + value.length then none
        else parseTelemetryRecords ((channel :: type :: (value ++ rest)).drop (2 + value.length))
          (queryAppend result
            (channelLine channel.toNat (telemetryReading type.toNat (value ++ rest)))).counted) = _
      have hdrop : (channel :: type :: (value ++ rest)).drop (2 + value.length) = rest := by
        rw [Nat.add_comm, List.drop_succ_cons, List.drop_succ_cons, List.drop_left]
      rw [dif_neg (by omega), hdrop, telemetryReading_append hvalue hpolyline']
      rfl
    · rintro ⟨h240, hshort⟩
      have hmin := hpolyline' h240
      rw [byteAt_append hpos] at hshort
      omega
  · rintro (hshort | hzero)
    · omega
    · exact hchannel' hzero

theorem parse_records (hrecords : ∀ r ∈ records, r.Ok) (rest : List UInt8) (result : QueryResult) :
    parseTelemetryRecords (records.flatMap TelemetryRecord.bytes ++ rest) result =
      parseTelemetryRecords rest
        (records.foldl (fun shown r => (queryAppend shown r.line).counted) result) := by
  induction records generalizing result with
  | nil => rfl
  | cons r records ih =>
    rw [List.flatMap_cons, List.append_assoc, parse_record (hrecords r List.mem_cons_self),
      ih fun other hother => hrecords other (List.mem_cons_of_mem _ hother)]
    rfl

theorem parse_padding {count : Nat} (hcount : count ≤ maxPaddingBytes) (result : QueryResult) :
    parseTelemetryRecords (List.replicate count 0) result =
      (let shown :=
        if result.count = 0 then queryAppend result (ascii "No telemetry fields returned.\n")
        else result
      some { shown with total := shown.count }) := by
  have hends : endsHere (List.replicate count 0) = true := by
    have hzero : bytesAllZero (List.replicate count 0) = true :=
      List.all_eq_true.mpr fun b hb => by rw [List.eq_of_mem_replicate hb]; rfl
    rw [endsHere, hzero, List.length_replicate, decide_eq_true hcount, Bool.and_true, Bool.or_true]
  rw [parseTelemetryRecords, if_pos hends]

theorem parse_unsupported {channel type : UInt8} (hchannel : channel ≠ 0) (hrest : rest ≠ [])
    (hunknown : telemetryValueLen type.toNat rest = none) (result : QueryResult) :
    parseTelemetryRecords (channel :: type :: rest) result =
      some
        { (queryAppend result ((TelemetryEnd.unsupported channel type rest).line [])).counted with
          truncated := true } := by
  have hpos := List.length_pos_of_ne_nil hrest
  have h240 : type.toNat ≠ 240 := fun h => by
    rw [h] at hunknown
    exact Option.some_ne_none _ hunknown
  have hends : ¬ endsHere (channel :: type :: rest) = true := by
    rw [endsHere_of_channel hchannel]
    exact Bool.false_ne_true
  rw [parseTelemetryRecords, if_neg hends, if_neg ?_]
  · have htype : byteAt (channel :: type :: rest) 1 = type.toNat := rfl
    dsimp only
    rw [htype, List.drop_succ_cons, List.drop_succ_cons, List.drop_zero,
      if_neg fun h => h240 h.1, hunknown]
    rfl
  · rintro (hshort | hzero)
    · rw [List.length_cons, List.length_cons] at hshort
      omega
    · exact hchannel (UInt8.toNat_inj.mp hzero)

theorem padding_of_ends (h : endsHere rest = true) :
    ∃ count, count ≤ maxPaddingBytes ∧ rest = List.replicate count 0 := by
  rcases Bool.or_eq_true_iff.mp h with hempty | hpadding
  · exact ⟨0, Nat.zero_le _, List.isEmpty_iff.mp hempty⟩
  · obtain ⟨hcount, hzero⟩ := Bool.and_eq_true_iff.mp hpadding
    refine ⟨rest.length, of_decide_eq_true hcount, List.eq_replicate_of_mem fun b hb => ?_⟩
    exact eq_of_beq (List.all_eq_true.mp hzero b hb)

theorem header_of_long (h : ¬(rest.length < 3 ∨ byteAt rest 0 = 0)) :
    ∃ channel type tail, rest = channel :: type :: tail ∧ channel ≠ 0 ∧ tail ≠ [] := by
  obtain ⟨hlength, hchannel⟩ := not_or.mp h
  match rest, hlength, hchannel with
  | channel :: type :: first :: tail, _, hchannel =>
    exact ⟨channel, type, first :: tail, rfl, fun hzero => hchannel (congrArg UInt8.toNat hzero),
      List.cons_ne_nil _ _⟩
  | [], hlength, _ => exact absurd (by decide) hlength
  | [_], hlength, _ => exact absurd (by decide : 1 < 3) hlength
  | [_, _], hlength, _ => exact absurd (by decide : 2 < 3) hlength

theorem parse_form (h : parseTelemetryRecords rest result = some parsed) :
    ∃ (records : List TelemetryRecord) (ending : TelemetryEnd),
      (∀ r ∈ records, r.Ok) ∧ ending.Ok ∧
        rest = records.flatMap TelemetryRecord.bytes ++ ending.bytes := by
  fun_induction parseTelemetryRecords rest result with
  | case1 rest result hends shown =>
    obtain ⟨count, hcount, hrest⟩ := padding_of_ends hends
    exact ⟨[], .padding count, (fun _ hr => nomatch hr), hcount, hrest⟩
  | case2 => cases h
  | case3 => cases h
  | case4 rest result hends hlong channel₀ type₀ value₀ hpolyline hunknown line =>
    obtain ⟨channel, type, tail, rfl, hchannel, htail⟩ := header_of_long hlong
    exact ⟨[], .unsupported channel type tail, (fun _ hr => nomatch hr),
      ⟨hchannel, htail, hunknown⟩, rfl⟩
  | case5 => cases h
  | case6 rest result hends hlong channel₀ type₀ value₀ hpolyline valueLen hknown hfits ih =>
    obtain ⟨channel, type, tail, rfl, hchannel, htail⟩ := header_of_long hlong
    obtain ⟨records, ending, hrecords, hending, hrest⟩ := ih h
    have hknown' : telemetryValueLen type.toNat tail = some valueLen := hknown
    have hmin : type.toNat = 240 → 8 ≤ byteAt tail 0 := fun h240 =>
      Nat.not_lt.mp fun hshort => hpolyline ⟨h240, hshort⟩
    have hpos := telemetryValueLen_pos hknown' hmin
    have hle : valueLen ≤ tail.length := by
      rw [List.length_cons, List.length_cons] at hfits
      omega
    have hlength : (tail.take valueLen).length = valueLen := List.length_take_of_le hle
    have htake : tail.take valueLen ++ tail.drop valueLen = tail := List.take_append_drop _ _
    have hsome : 0 < (tail.take valueLen).length := by rw [hlength]; exact hpos
    have hvalue : telemetryValueLen type.toNat (tail.take valueLen ++ tail.drop valueLen) =
        telemetryValueLen type.toNat (tail.take valueLen) := telemetryValueLen_append hsome
    have hfirst : byteAt (tail.take valueLen ++ tail.drop valueLen) 0 =
        byteAt (tail.take valueLen) 0 := byteAt_append hsome
    rw [htake] at hvalue hfirst
    refine ⟨⟨channel, type, tail.take valueLen⟩ :: records, ending, fun r hr => ?_, hending, ?_⟩
    · rcases List.mem_cons.mp hr with rfl | hold
      · refine ⟨hchannel, ?_, fun h240 => ?_⟩
        · rw [← hvalue, hlength]
          exact hknown'
        · rw [← hfirst]
          exact hmin (congrArg UInt8.toNat h240)
      · exact hrecords r hold
    · have hdrop : (channel :: type :: tail).drop (2 + valueLen) = tail.drop valueLen := by
        rw [Nat.add_comm, List.drop_succ_cons, List.drop_succ_cons]
      rw [hdrop] at hrest
      rw [List.flatMap_cons, List.append_assoc, ← hrest]
      exact congrArg (fun shown => channel :: type :: shown) htake.symm

end Parsing

section Decoding

variable {records : List TelemetryRecord} {ending : TelemetryEnd} {result : QueryResult}
  {full : List UInt8}

theorem queryAppend_frame (result : QueryResult) (line : List UInt8) :
    (queryAppend result line).count = result.count ∧ (queryAppend result line).kind = result.kind ∧
      (queryAppend result line).valid = result.valid := by
  unfold queryAppend
  split_ifs <;> exact ⟨rfl, rfl, rfl⟩

theorem channelLine_ne_nil (channel : Nat) (reading : List UInt8) :
    channelLine channel reading ≠ [] := by
  unfold channelLine
  exact List.append_ne_nil_of_right_ne_nil _ (by decide)

structure ShownLines (result : QueryResult) (full : List UInt8) (count : Nat) : Prop where
  text : Rendered result full
  count : result.count = count % 0x10000
  kind : result.kind = .telemetry
  valid : result.valid = true

theorem ShownLines.line {count : Nat} {line : List UInt8} (h : ShownLines result full count)
    (hline : line ≠ []) :
    ShownLines (queryAppend result line).counted (full ++ line) (count + 1) := by
  obtain ⟨hcount, hkind, hvalid⟩ := queryAppend_frame result line
  obtain ⟨htext, htruncated⟩ := h.text.append hline
  refine ⟨⟨htext, htruncated⟩, ?_, hkind.trans h.kind, hvalid.trans h.valid⟩
  change ((queryAppend result line).count + 1) % 0x10000 = _
  rw [hcount, h.count, Nat.mod_add_mod]

theorem ShownLines.lines {count : Nat} (h : ShownLines result full count)
    (records : List TelemetryRecord) :
    ShownLines (records.foldl (fun shown r => (queryAppend shown r.line).counted) result)
      (full ++ records.flatMap TelemetryRecord.line) (count + records.length) := by
  induction records generalizing result full count with
  | nil =>
    rw [List.flatMap_nil, List.append_nil]
    exact h
  | cons r records ih =>
    have hnext := ih (h.line (channelLine_ne_nil r.channel.toNat
      (telemetryReading r.type.toNat r.value)))
    rw [List.append_assoc, Nat.add_assoc, Nat.add_comm 1] at hnext
    exact hnext

theorem length_lines (records : List TelemetryRecord) :
    records.length ≤ (records.flatMap TelemetryRecord.line).length := by
  induction records with
  | nil => exact Nat.zero_le _
  | cons r records ih =>
    have hpos := List.length_pos_of_ne_nil (channelLine_ne_nil r.channel.toNat
      (telemetryReading r.type.toNat r.value))
    have hline : (TelemetryRecord.line r).length =
        (channelLine r.channel.toNat (telemetryReading r.type.toNat r.value)).length := rfl
    rw [List.flatMap_cons, List.length_append, List.length_cons]
    omega

theorem telemetryDecode_form {plaintext : List UInt8}
    (hform : TelemetryForm plaintext records ending) :
    ∃ parsed, telemetryDecode plaintext = some parsed ∧ Decoded parsed records ending := by
  obtain ⟨⟨tag, htag, rfl⟩, hrecords, hending⟩ := hform
  have hempty : Rendered { QueryResult.zero with kind := .telemetry, valid := true } [] :=
    ⟨rfl, by decide⟩
  have hheading : ShownLines
      (queryAppend { QueryResult.zero with kind := .telemetry, valid := true }
        (ascii "Telemetry\n")) (ascii "Telemetry\n") 0 :=
    ⟨hempty.append (by decide), by decide, by decide, by decide⟩
  have hshown := hheading.lines records
  have hdrop : (tag ++ records.flatMap TelemetryRecord.bytes ++ ending.bytes).drop 4 =
      records.flatMap TelemetryRecord.bytes ++ ending.bytes := by
    rw [List.append_assoc, ← htag, List.drop_left]
  unfold telemetryDecode
  rw [if_neg (by rw [List.append_assoc, List.length_append]; omega), hdrop,
    parse_records hrecords]
  generalize hlines : records.foldl _ _ = shown at hshown ⊢
  have hprinted := printed_fullText records ending
  rw [Nat.zero_add] at hshown
  cases ending with
  | unsupported channel type rest =>
    obtain ⟨hchannel, hrest, hunknown⟩ := hending
    have hlast := hshown.line (channelLine_ne_nil channel.toNat
      (ascii "unsupported type " ++ decimal type.toNat ++ ascii " (remaining data hidden)"))
    refine ⟨_, parse_unsupported hchannel hrest hunknown shown, hlast.kind, hlast.valid,
      hlast.count, (fun h => Bool.noConfusion h), ?_⟩
    exact hlast.text.shows hprinted rfl (iff_of_true rfl (.inr rfl))
  | padding count =>
    by_cases hcount : shown.count = 0
    · refine ⟨_, parse_padding hending shown, ?_⟩
      rw [if_pos hcount]
      have hnone := queryAppend_frame shown (ascii "No telemetry fields returned.\n")
      have hline : ascii "No telemetry fields returned.\n" ≠ [] := by decide
      have hlast := hshown.text.append hline
      have hfull : Rendered (queryAppend shown (ascii "No telemetry fields returned.\n"))
          (fullText records (.padding count)) := by
        by_cases hnil : records = []
        · subst hnil
          exact hlast
        · have htext : fullText records (.padding count) =
              ascii "Telemetry\n" ++ records.flatMap TelemetryRecord.line := by
            change _ ++ (if records = [] then _ else []) = _
            rw [if_neg hnil, List.append_nil]
          rw [htext]
          -- The count has come round, so the text has long been full.
          refine hlast.of_full ?_
          have hpos := List.length_pos_of_ne_nil hnil
          have hmany := length_lines records
          have hround := hshown.count
          rw [hcount] at hround
          rw [List.length_append]
          have hmax : maxQueryTextBytes = 768 := rfl
          omega
      refine ⟨hnone.2.1.trans hshown.kind, hnone.2.2.trans hshown.valid,
        hnone.1.trans hshown.count, fun _ => hnone.1.trans hshown.count, ?_⟩
      exact hfull.shows hprinted rfl (by rw [TelemetryEnd.hidden]; simp)
    · refine ⟨_, parse_padding hending shown, ?_⟩
      rw [if_neg hcount]
      have hnil : records ≠ [] := fun h => by
        have hzero := hshown.count
        rw [h] at hzero
        exact hcount hzero
      have htext : fullText records (.padding count) =
          ascii "Telemetry\n" ++ records.flatMap TelemetryRecord.line := by
        change _ ++ (if records = [] then _ else []) = _
        rw [if_neg hnil, List.append_nil]
      refine ⟨hshown.kind, hshown.valid, hshown.count, fun _ => hshown.count, ?_⟩
      rw [htext] at hprinted ⊢
      exact hshown.text.shows hprinted rfl (by rw [TelemetryEnd.hidden]; simp)

theorem telemetryDecodeInto_of_some {plaintext : List UInt8}
    (h : telemetryDecode plaintext = some result) (out : QueryResult) :
    telemetryDecodeInto plaintext out = (true, result) := by
  rw [telemetryDecodeInto, h]

theorem form_of_decoded {plaintext : List UInt8} (h : telemetryDecode plaintext = some result) :
    ∃ records ending, TelemetryForm plaintext records ending := by
  unfold telemetryDecode at h
  by_cases hshort : plaintext.length < 4
  · rw [if_pos hshort] at h
    cases h
  · rw [if_neg hshort] at h
    obtain ⟨records, ending, hrecords, hending, hrest⟩ := parse_form h
    refine ⟨records, ending, ⟨plaintext.take 4, ?_, ?_⟩, hrecords, hending⟩
    · rw [List.length_take]
      omega
    · rw [List.append_assoc, ← hrest, List.take_append_drop]

/-- A response is decoded if and only if it is a tag, supported records and either a padding or a
record of an unknown type; else the result stays as it was. The counters count the records, and
the text shows what fits of their lines. -/
theorem telemetry_decode_exact (plaintext : List UInt8) (out : QueryResult) :
    (∀ records ending, TelemetryForm plaintext records ending → ∃ parsed,
      telemetryDecodeInto plaintext out = (true, parsed) ∧ Decoded parsed records ending) ∧
    ((∀ records ending, ¬ TelemetryForm plaintext records ending) →
      telemetryDecodeInto plaintext out = (false, out)) ∧
    ∀ parsed, telemetryDecodeInto plaintext out = (true, parsed) →
      ∃ records ending, TelemetryForm plaintext records ending ∧ Decoded parsed records ending := by
  have haccept : ∀ records ending, TelemetryForm plaintext records ending → ∃ parsed,
      telemetryDecodeInto plaintext out = (true, parsed) ∧ Decoded parsed records ending := by
    intro records ending hform
    obtain ⟨parsed, hparsed, hdecoded⟩ := telemetryDecode_form hform
    exact ⟨parsed, telemetryDecodeInto_of_some hparsed out, hdecoded⟩
  refine ⟨haccept, fun hnone => ?_, fun parsed hparsed => ?_⟩
  · cases hdecode : telemetryDecode plaintext with
    | none => rw [telemetryDecodeInto, hdecode]
    | some parsed =>
      obtain ⟨records, ending, hform⟩ := form_of_decoded hdecode
      exact absurd hform (hnone records ending)
  · cases hdecode : telemetryDecode plaintext with
    | none =>
      rw [telemetryDecodeInto, hdecode] at hparsed
      exact Bool.noConfusion (Prod.mk.inj hparsed).1
    | some found =>
      obtain ⟨records, ending, hform⟩ := form_of_decoded hdecode
      obtain ⟨decoded, hsame, hdecoded⟩ := haccept records ending hform
      rw [hparsed] at hsame
      obtain rfl := (Prod.mk.inj hsame).2
      exact ⟨records, ending, hform, hdecoded⟩

/-- One digital input and two zeros behind it. -/
theorem telemetry_decode_exact_digital : ∃ parsed,
    telemetryDecodeInto [1, 2, 3, 4, 1, 0, 5, 0, 0] .zero = (true, parsed) ∧
      Decoded parsed [⟨1, 0, [5]⟩] (.padding 2) := by
  refine (telemetry_decode_exact [1, 2, 3, 4, 1, 0, 5, 0, 0] .zero).1 _ _
    ⟨⟨[1, 2, 3, 4], rfl, rfl⟩, fun r hr => ?_, (by decide : 2 ≤ maxPaddingBytes)⟩
  rw [List.mem_singleton.mp hr]
  exact ⟨by decide, rfl, fun h => absurd h (by decide)⟩

/-- 65536 records are counted as none. -/
theorem telemetry_count_comes_round :
    ¬ ∀ (tag : List UInt8) (records : List TelemetryRecord) (count : Nat) (out : QueryResult),
      tag.length = 4 → (∀ r ∈ records, r.Ok) → count ≤ maxPaddingBytes →
        ∃ parsed, telemetryDecodeInto
            (tag ++ records.flatMap TelemetryRecord.bytes ++ List.replicate count 0) out =
              (true, parsed) ∧
          parsed.count = records.length ∧ parsed.total = records.length := by
  intro h
  have hok : ∀ r ∈ List.replicate 0x10000 (⟨1, 0, [0]⟩ : TelemetryRecord), r.Ok := fun r hr => by
    rw [List.eq_of_mem_replicate hr]
    exact ⟨by decide, rfl, fun h => absurd h (by decide)⟩
  obtain ⟨parsed, hinto, hcount, _⟩ := h [0, 0, 0, 0] _ 0 .zero rfl hok (Nat.zero_le _)
  have hend : (TelemetryEnd.padding 0).Ok := Nat.zero_le _
  have hform : TelemetryForm _ _ (.padding 0) := ⟨⟨[0, 0, 0, 0], rfl, rfl⟩, hok, hend⟩
  obtain ⟨decoded, hdecode, hdecoded⟩ := telemetryDecode_form hform
  have hsame := (telemetryDecodeInto_of_some hdecode .zero).symm.trans hinto
  obtain rfl := (Prod.mk.inj hsame).2
  have hround := hdecoded.count
  rw [hcount, List.length_replicate] at hround
  exact absurd hround (by decide)

end Decoding

end Sigui.Admin

import Sigui.TraceTracker
import Sigui.Wire

/-! The TRACE frame: how the source builds it, and how a frame that was forwarded is read. -/
namespace Sigui.Trace

open Wire MeshPath

def traceFixedBytes : Nat := 9
def payloadTrace : Nat := 0x09
/-- `(D1L_MESHCORE_PAYLOAD_TRACE << 2U) | D1L_MESHCORE_ROUTE_DIRECT` -/
def traceHeader : UInt8 := .ofNat (payloadTrace * 4 + routeDirect)

structure TraceSource where
  key : TraceKey
  raw : List UInt8
  rawLen : Nat
  deriving DecidableEq

inductive FrameKind
  | malformed
  | unsupported
  | source
  | inFlight
  | terminal
  deriving DecidableEq

def flagsForHashWidth (pathHashBytes : Nat) : UInt8 :=
  if pathHashBytes = 1 then 0 else if pathHashBytes = 2 then 1
  else if pathHashBytes = 4 then 2 else 3

/-- `d1l_meshcore_trace_build_source` -/
def buildSource (tag authCode : UInt32) (pathHashBytes : Nat) (pathHashes : Option Bytes.Memory)
    (pathHops : Nat) : Option TraceSource :=
  let pathBytes := pathHops * pathHashBytes
  if traceMaxHops < pathHops ∨ hashWidthSupported pathHashBytes = false ∨
      traceMaxPathBytes < pathBytes ∨ (0 < pathBytes ∧ pathHashes.isNone) then none
  else
    match wireWritePrefix traceHeader 0 0 0 none ⟨some (List.replicate maxRawPacket 0), some 0⟩ with
    | (true, ⟨some raw, some rawLen⟩) =>
      if maxRawPacket < rawLen + traceFixedBytes + pathBytes then none
      else
        let hashes := pointed pathHashes pathBytes
        let raw := Bytes.write raw rawLen (le32 tag.toNat)
        let raw := Bytes.write raw (rawLen + 4) (le32 authCode.toNat)
        let raw := Bytes.write raw (rawLen + 8) [flagsForHashWidth pathHashBytes]
        let raw := if 0 < pathBytes then Bytes.write raw (rawLen + 9) hashes else raw
        some
          { key :=
              { tag := tag.toNat
                authCode := authCode.toNat
                pathHashBytes := pathHashBytes
                pathHops := pathHops
                pathHashes := hashes ++ List.replicate (traceMaxPathBytes - pathBytes) 0 }
            raw := raw
            rawLen := (rawLen + traceFixedBytes + pathBytes) % 256 }
    | _ => none

/-- What `d1l_meshcore_trace_classify` makes of a packet; a terminal one is put out. -/
def classifyPacket (packet : WirePacket) : FrameKind × Option TraceTerminal :=
  if packet.route ≠ routeDirect ∨ packet.type ≠ payloadTrace ∨ packet.pathHashBytes ≠ 1 ∨
      packet.payloadLen < traceFixedBytes then (.malformed, none)
  else
    let payload := packet.payloadBytes
    let flags := (payload.getD 8 0).toNat
    let explicitPathBytes := packet.payloadLen - traceFixedBytes
    let explicitHashBytes := 2 ^ (flags % 4)
    if explicitPathBytes = 0 then (.unsupported, none)
    else if explicitPathBytes % explicitHashBytes ≠ 0 then (.malformed, none)
    else
      let explicitHops := explicitPathBytes / explicitHashBytes
      if explicitHops = 0 ∨ traceMaxHops < explicitHops ∨ packet.pathByteLen ≠ packet.pathHops ∨
          explicitHops < packet.pathHops then (.malformed, none)
      else if 4 ≤ flags ∨ traceMaxPathBytes < explicitPathBytes then (.unsupported, none)
      else if packet.pathHops = 0 then (.source, none)
      else if packet.pathHops < explicitHops then (.inFlight, none)
      else
        (.terminal,
          some
            { key :=
                { tag := Admin.readLe32 payload 0
                  authCode := Admin.readLe32 payload 4
                  pathHashBytes := explicitHashBytes
                  pathHops := explicitHops
                  pathHashes := payload.drop traceFixedBytes ++
                    List.replicate (traceMaxPathBytes - explicitPathBytes) 0 }
              pathSnrsQuarterDb :=
                (packet.pathBytes.take explicitHops).map (fun snr => Admin.signed 8 snr.toNat) ++
                  List.replicate (traceMaxHops - explicitHops) 0 })

/-- `d1l_meshcore_trace_classify`, with what `*out_terminal` holds afterwards. -/
def classify (raw : Option (List UInt8)) (out : Option TraceTerminal) :
    FrameKind × Option TraceTerminal :=
  match raw with
  | none => (.malformed, out)
  | some raw =>
    match decodePacketV1 raw with
    | none => (.malformed, out)
    | some packet =>
      let (kind, terminal) := classifyPacket packet
      (kind, if terminal.isSome ∧ out.isSome then terminal else out)

/-- A repeater puts one SNR byte behind the outer path of a frame without transport codes. -/
def appendSnr (raw : List UInt8) (snr : UInt8) : List UInt8 :=
  match raw with
  | header :: pathLen :: rest =>
    header :: (pathLen + 1) ::
      (rest.take (wirePathByteLen pathLen) ++ snr :: rest.drop (wirePathByteLen pathLen))
  | raw => raw

section LifeCycle

theorem hashWidthSupported_iff {w : Nat} :
    hashWidthSupported w = true ↔ w = 1 ∨ w = 2 ∨ w = 4 ∨ w = 8 := by
  constructor
  · intro h
    have hsmall : ∀ w, w < 9 → hashWidthSupported w = true → w = 1 ∨ w = 2 ∨ w = 4 ∨ w = 8 := by
      decide
    have hle : w ≤ traceMaxHashBytes := by
      simp only [hashWidthSupported, Bool.and_eq_true, decide_eq_true_eq] at h
      exact h.1.2
    exact hsmall w (Nat.lt_succ_of_le hle) h
  · rintro (rfl | rfl | rfl | rfl) <;> decide

theorem flags_width {w : Nat} (h : hashWidthSupported w = true) :
    (flagsForHashWidth w).toNat < 4 ∧ 2 ^ ((flagsForHashWidth w).toNat % 4) = w := by
  rcases hashWidthSupported_iff.mp h with rfl | rfl | rfl | rfl <;> decide

def tracePayload (tag authCode : UInt32) (w : Nat) (hashes : List UInt8) : List UInt8 :=
  le32 tag.toNat ++ le32 authCode.toNat ++ flagsForHashWidth w :: hashes

/-- A TRACE frame that has passed the repeaters whose samples it carries. -/
def traceFrame (tag authCode : UInt32) (w : Nat) (hashes snrs : List UInt8) : List UInt8 :=
  traceHeader :: UInt8.ofNat snrs.length :: (snrs ++ tracePayload tag authCode w hashes)

theorem length_le32 (n : Nat) : (le32 n).length = 4 := rfl

theorem length_tracePayload (tag authCode : UInt32) (w : Nat) (hashes : List UInt8) :
    (tracePayload tag authCode w hashes).length = traceFixedBytes + hashes.length := by
  simp only [tracePayload, List.length_append, length_le32, List.length_cons, traceFixedBytes]
  omega

theorem wirePath_ofNat {n : Nat} (h : n ≤ 63) :
    wirePathHashSize (.ofNat n) = 1 ∧ wirePathHashCount (.ofNat n) = n ∧
      wirePathByteLen (.ofNat n) = n ∧ wirePathLenValid (.ofNat n) = true := by
  have hn : (UInt8.ofNat n).toNat = n := by
    rw [UInt8.toNat_ofNat']
    omega
  have hsize : wirePathHashSize (.ofNat n) = 1 := by
    unfold wirePathHashSize
    omega
  have hcount : wirePathHashCount (.ofNat n) = n := by
    unfold wirePathHashCount
    omega
  refine ⟨hsize, hcount, ?_, ?_⟩
  · unfold wirePathByteLen
    rw [hsize, hcount]
    omega
  · unfold wirePathLenValid maxPathBytes
    rw [hsize, hcount]
    simp only [Bool.and_eq_true, decide_eq_true_eq]
    omega

theorem appendSnr_traceFrame {tag authCode : UInt32} {w : Nat} {hashes snrs : List UInt8}
    (h : snrs.length < 63) (snr : UInt8) :
    appendSnr (traceFrame tag authCode w hashes snrs) snr =
      traceFrame tag authCode w hashes (snrs ++ [snr]) := by
  obtain ⟨-, -, hlen, -⟩ := wirePath_ofNat (n := snrs.length) (by omega)
  unfold appendSnr traceFrame
  dsimp only
  have hsucc : UInt8.ofNat snrs.length + 1 = UInt8.ofNat (snrs ++ [snr]).length := by
    rw [← UInt8.toNat_inj, UInt8.toNat_add, UInt8.toNat_ofNat', UInt8.toNat_ofNat',
      List.length_append, List.length_singleton]
    change (snrs.length % 2 ^ 8 + 1) % 2 ^ 8 = (snrs.length + 1) % 2 ^ 8
    omega
  rw [hlen, hsucc, List.take_left, List.drop_left, List.append_assoc]
  rfl

theorem forwarded_traceFrame {tag authCode : UInt32} {w : Nat} {hashes : List UInt8}
    (passed snrs : List UInt8) (h : passed.length + snrs.length ≤ 63) :
    snrs.foldl appendSnr (traceFrame tag authCode w hashes passed) =
      traceFrame tag authCode w hashes (passed ++ snrs) := by
  induction snrs generalizing passed with
  | nil => rw [List.foldl_nil, List.append_nil]
  | cons snr snrs ih =>
    rw [List.length_cons] at h
    have hpassed : (passed ++ [snr]).length + snrs.length ≤ 63 := by
      rw [List.length_append, List.length_singleton]
      omega
    rw [List.foldl_cons, appendSnr_traceFrame (by omega), ih _ hpassed, List.append_assoc]
    rfl

structure PathFits (w h : Nat) (hashes : List UInt8) : Prop where
  width : hashWidthSupported w = true
  length : hashes.length = h * w
  pos : 1 ≤ h
  hops : h ≤ traceMaxHops
  bytes : h * w ≤ traceMaxPathBytes

variable {w h : Nat} {hashes snrs : List UInt8}

theorem PathFits.width_pos (hfits : PathFits w h hashes) : 0 < w := by
  rcases hashWidthSupported_iff.mp hfits.width with rfl | rfl | rfl | rfl <;> decide

theorem PathFits.bytes_pos (hfits : PathFits w h hashes) : 0 < h * w :=
  Nat.mul_pos hfits.pos hfits.width_pos

theorem write_tracePrefix : wireWritePrefix traceHeader 0 0 0 none
    ⟨some (List.replicate maxRawPacket 0), some 0⟩ =
      (true, ⟨some (Bytes.write (List.replicate maxRawPacket 0) 0 [traceHeader, 0]), some 2⟩) := by
  decide +kernel

theorem buildSource_frame (tag authCode : UInt32) (hfits : PathFits w h hashes) :
    ∃ source, buildSource tag authCode w (some (Bytes.pointer hashes 0)) h = some source ∧
      source.raw.take source.rawLen = traceFrame tag authCode w hashes [] := by
  have hpos := hfits.bytes_pos
  have hbytes := hfits.bytes
  have hmax : traceMaxPathBytes = 175 := rfl
  have hread : pointed (some (Bytes.pointer hashes 0)) (h * w) = hashes := by
    unfold pointed
    dsimp only
    rw [Bytes.read_pointer (by rw [hfits.length]; omega), List.drop_zero, ← hfits.length,
      List.take_length]
  have hguard : ¬(traceMaxHops < h ∨ hashWidthSupported w = false ∨ traceMaxPathBytes < h * w ∨
      (0 < h * w ∧ (some (Bytes.pointer hashes 0)).isNone = true)) := by
    rintro (hhops | hwidth | hlong | ⟨-, hnull⟩)
    · exact absurd hfits.hops (Nat.not_le.mpr hhops)
    · exact Bool.noConfusion (hwidth.symm.trans hfits.width)
    · exact absurd hbytes (Nat.not_le.mpr hlong)
    · exact Bool.noConfusion hnull
  have hroom : ¬maxRawPacket < 2 + traceFixedBytes + h * w := by
    unfold maxRawPacket traceFixedBytes
    omega
  unfold buildSource
  dsimp only
  rw [if_neg hguard, write_tracePrefix]
  dsimp only
  rw [if_neg hroom, if_pos hpos, hread]
  refine ⟨_, rfl, ?_⟩
  dsimp only
  have hwrites : Bytes.write (Bytes.write (Bytes.write (Bytes.write
      (Bytes.write (List.replicate maxRawPacket 0) 0 [traceHeader, 0]) 2 (le32 tag.toNat))
      (2 + 4) (le32 authCode.toNat)) (2 + 8) [flagsForHashWidth w]) (2 + 9) hashes =
      Bytes.write (List.replicate maxRawPacket 0) 0 (traceFrame tag authCode w hashes []) := by
    rw [show (2 : Nat) = [traceHeader, (0 : UInt8)].length from rfl, Bytes.write_write,
      show [traceHeader, (0 : UInt8)].length + 4 =
        ([traceHeader, 0] ++ le32 tag.toNat).length from rfl, Bytes.write_write,
      show [traceHeader, (0 : UInt8)].length + 8 =
        ([traceHeader, 0] ++ le32 tag.toNat ++ le32 authCode.toNat).length from rfl,
      Bytes.write_write,
      show [traceHeader, (0 : UInt8)].length + 9 = ([traceHeader, 0] ++ le32 tag.toNat ++
        le32 authCode.toNat ++ [flagsForHashWidth w]).length from rfl, Bytes.write_write]
    simp only [traceFrame, tracePayload, List.append_assoc, List.cons_append, List.nil_append]
    rfl
  have hlength : (2 + traceFixedBytes + h * w) % 256 =
      (traceFrame tag authCode w hashes []).length := by
    simp only [traceFrame, List.length_cons, List.nil_append, length_tracePayload, hfits.length,
      traceFixedBytes]
    omega
  rw [hwrites, hlength, Bytes.take_write]

theorem decode_traceFrame (tag authCode : UInt32) (hfits : PathFits w h hashes)
    (hsnrs : snrs.length ≤ 63) :
    ∃ packet, decodePacketV1 (traceFrame tag authCode w hashes snrs) = some packet ∧
      packet.route = routeDirect ∧ packet.type = payloadTrace ∧ packet.pathHashBytes = 1 ∧
      packet.pathHops = snrs.length ∧ packet.pathByteLen = snrs.length ∧
      packet.pathBytes = snrs ∧ packet.payloadBytes = tracePayload tag authCode w hashes ∧
      packet.payloadLen = traceFixedBytes + h * w := by
  obtain ⟨hsize, hcount, hbytes, hvalid⟩ := wirePath_ofNat hsnrs
  have hload := length_tracePayload tag authCode w hashes
  have hmax := hfits.bytes
  rw [hfits.length] at hload
  have hlong : ([traceHeader] ++ UInt8.ofNat snrs.length ::
      (snrs ++ tracePayload tag authCode w hashes)).length ≤ maxRawPacket := by
    simp only [List.length_append, List.length_cons, List.length_nil, hload]
    unfold traceMaxPathBytes at hmax
    unfold traceFixedBytes maxRawPacket
    omega
  have hhead : [traceHeader].length =
      if routeHasTransportCodes (routeOf ([traceHeader].getD 0 0)) then 5 else 1 := by
    decide
  obtain ⟨q, hq, hheader, hpathLen, hpath, hpayload, -⟩ :=
    decodePacket_parts hhead hvalid hbytes.symm
      (by rw [hload]; exact Nat.add_pos_left (by decide) _)
      (by
        rw [hload]
        unfold traceMaxPathBytes at hmax
        unfold traceFixedBytes maxPacketPayload
        omega) hlong
  obtain ⟨hroute, htype, hversion, hhash, hhops, hpathBytes⟩ := decodePacket_fields hq
  rw [hheader] at hroute htype hversion
  rw [hpathLen] at hhash hhops hpathBytes
  refine ⟨q, ?_, hroute, htype, hhash.trans hsize, hhops.trans hcount, hpathBytes.trans hbytes,
    hpath, hpayload, ?_⟩
  · exact decodePacketV1_of hq hversion
  · have hsome := (decodePacket_sound hq).2.payload
    have hlength : q.payloadBytes.length = q.payloadLen := length_pointed fun _ => hsome
    rw [← hlength, hpayload, hload]

/-- The terminal result that belongs to a path and the samples taken along it. -/
def terminalOf (tag authCode : UInt32) (w h : Nat) (hashes snrs : List UInt8) : TraceTerminal where
  key :=
    { tag := tag.toNat
      authCode := authCode.toNat
      pathHashBytes := w
      pathHops := h
      pathHashes := hashes ++ List.replicate (traceMaxPathBytes - h * w) 0 }
  pathSnrsQuarterDb :=
    snrs.map (fun snr => Admin.signed 8 snr.toNat) ++ List.replicate (traceMaxHops - h) 0

/-- What a frame is taken for after `k` of `h` repeaters. -/
def kindAt (k h : Nat) : FrameKind :=
  if k = 0 then .source else if k < h then .inFlight else if k = h then .terminal else .malformed

theorem readLe32_tracePayload (tag authCode : UInt32) (w : Nat) (hashes : List UInt8) :
    Admin.readLe32 (tracePayload tag authCode w hashes) 0 = tag.toNat ∧
      Admin.readLe32 (tracePayload tag authCode w hashes) 4 = authCode.toNat :=
  ⟨readLe32_le32 tag.toNat_lt, readLe32_le32 authCode.toNat_lt⟩

theorem classify_traceFrame (tag authCode : UInt32) (hfits : PathFits w h hashes)
    (hsnrs : snrs.length ≤ 63) (out : TraceTerminal) :
    classify (some (traceFrame tag authCode w hashes snrs)) (some out) =
      (kindAt snrs.length h,
        some (if snrs.length = h then terminalOf tag authCode w h hashes snrs else out)) := by
  obtain ⟨packet, hdecode, hroute, htype, hhash, hhops, hbyteLen, hpath, hpayload, hlen⟩ :=
    decode_traceFrame tag authCode hfits hsnrs
  obtain ⟨hflags, hwidth⟩ := flags_width hfits.width
  have hflag : (tracePayload tag authCode w hashes).getD 8 0 = flagsForHashWidth w := rfl
  have hexplicit : packet.payloadLen - traceFixedBytes = h * w := by omega
  have hpos := hfits.bytes_pos
  have hone := hfits.pos
  have hhopsMax := hfits.hops
  have hdrop : (tracePayload tag authCode w hashes).drop traceFixedBytes = hashes := rfl
  have hpacket : classifyPacket packet =
      (kindAt snrs.length h,
        if snrs.length = h then some (terminalOf tag authCode w h hashes snrs) else none) := by
    unfold classifyPacket
    dsimp only
    rw [if_neg (by
      rintro (hne | hne | hne | hshort)
      · exact hne hroute
      · exact hne htype
      · exact hne hhash
      · omega), hpayload, hflag, hexplicit, hwidth, if_neg hpos.ne',
      if_neg (not_not.mpr (Nat.mul_mod_left h w)), Nat.mul_div_cancel h hfits.width_pos,
      hbyteLen, hhops]
    unfold kindAt
    by_cases hover : h < snrs.length
    · rw [if_pos (.inr (.inr (.inr hover))), if_neg (by omega), if_neg (by omega),
        if_neg (by omega), if_neg (by omega)]
    rw [if_neg (by
      rintro (hzero | hmany | hne | hlt)
      · omega
      · omega
      · exact hne rfl
      · exact hover hlt), if_neg (by
      rintro (hbits | hlong)
      · omega
      · exact absurd hfits.bytes (Nat.not_le.mpr hlong))]
    by_cases hzero : snrs.length = 0
    · rw [if_pos hzero, if_pos hzero, if_neg (by omega)]
    rw [if_neg hzero, if_neg hzero]
    by_cases hlt : snrs.length < h
    · rw [if_pos hlt, if_pos hlt, if_neg (by omega)]
    have heq : snrs.length = h := by omega
    obtain ⟨htag, hauth⟩ := readLe32_tracePayload tag authCode w hashes
    rw [if_neg hlt, if_neg hlt, if_pos heq, if_pos heq, htag, hauth, hdrop, hpath, ← heq,
      List.take_length]
    rfl
  unfold classify
  dsimp only
  rw [hdecode]
  dsimp only
  rw [hpacket]
  dsimp only
  split_ifs with heq hsome hsome
  · rfl
  · exact absurd ⟨rfl, rfl⟩ hsome
  · exact absurd hsome.1 (by decide)
  · rfl

/-- From the source over any number of repeaters: what the frame is taken for on the way. -/
theorem trace_life_cycle (tag authCode : UInt32) (hfits : PathFits w h hashes) :
    ∃ source, buildSource tag authCode w (some (Bytes.pointer hashes 0)) h = some source ∧
      ∀ snrs : List UInt8, snrs.length ≤ 63 → ∀ out,
        classify (some (snrs.foldl appendSnr (source.raw.take source.rawLen))) (some out) =
          (kindAt snrs.length h,
            some (if snrs.length = h then terminalOf tag authCode w h hashes snrs else out)) := by
  obtain ⟨source, hbuild, hraw⟩ := buildSource_frame tag authCode hfits
  refine ⟨source, hbuild, fun snrs hsnrs out => ?_⟩
  rw [hraw, forwarded_traceFrame [] snrs (by simpa using hsnrs), List.nil_append]
  exact classify_traceFrame tag authCode hfits hsnrs out

/-- Two hops of two-byte hashes. -/
theorem trace_life_cycle_two_hops :
    ∃ source, buildSource 7 9 2 (some (Bytes.pointer [1, 2, 3, 4] 0)) 2 = some source ∧
      ∀ snrs : List UInt8, snrs.length ≤ 63 → ∀ out,
        classify (some (snrs.foldl appendSnr (source.raw.take source.rawLen))) (some out) =
          (kindAt snrs.length 2,
            some (if snrs.length = 2 then terminalOf 7 9 2 2 [1, 2, 3, 4] snrs else out)) :=
  trace_life_cycle 7 9 ⟨by decide, rfl, by decide, by decide, by decide⟩

end LifeCycle

end Sigui.Trace

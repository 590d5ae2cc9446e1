import Mathlib.Data.Nat.Bitwise
import Sigui.ByteBuffer
import Sigui.Text

/-! The three-byte framing of the companion link: the encoder, and the decoder that is fed one
byte at a time. -/
namespace Sigui.Companion

def headerSize : Nat := 3
def maxFrameSize : Nat := 512
def appToRadio : UInt8 := 60
def radioToApp : UInt8 := 62

def isFrameType (frameType : UInt8) : Bool := frameType == appToRadio || frameType == radioToApp

/-- `d1l_companion3_encode` into a buffer of `outCap` bytes. -/
def encode (frameType : UInt8) (payload : List UInt8) (outCap : Nat) :
    Except EspErr (List UInt8) :=
  if isFrameType frameType = false then .error espErrInvalidArg
  else if maxFrameSize < payload.length then .error espErrInvalidSize
  else if outCap < headerSize + payload.length then .error espErrNoMem
  else .ok ([frameType, UInt8.ofNat (payload.length &&& 0xFF),
    UInt8.ofNat (payload.length >>> 8)] ++ payload)

inductive DecoderState
  | idle
  | lenLsb
  | lenMsb
  | payload
  | unknown
deriving DecidableEq

structure Decoder where
  state : DecoderState
  frameType : UInt8
  frameLen : Nat
  rxLen : Nat
  dropping : Bool
deriving DecidableEq

/-- `d1l_companion3_decoder_init` -/
def Decoder.init : Decoder := ⟨.idle, 0, 0, 0, false⟩

inductive FeedResult
  | waiting
  | frameComplete
  | frameDropped
deriving DecidableEq

/-- The decoder, and what its caller passes to it and reads back. -/
structure Receiver where
  decoder : Decoder
  dest : List UInt8
  frameType : UInt8
  frameLen : Nat

structure Fed where
  receiver : Receiver
  result : FeedResult
  ret : EspErr

/-- `d1l_companion3_decoder_feed`; the lengths are `uint16_t`. -/
def feed (r : Receiver) (byte : UInt8) : Fed :=
  let d := r.decoder
  match d.state with
  | .idle =>
    if isFrameType byte then
      ⟨{ r with decoder := ⟨.lenLsb, byte, 0, 0, false⟩ }, .waiting, espOk⟩
    else ⟨r, .waiting, espOk⟩
  | .lenLsb =>
    ⟨{ r with decoder := { d with frameLen := byte.toNat, state := .lenMsb } }, .waiting, espOk⟩
  | .lenMsb =>
    let frameLen := d.frameLen ||| byte.toNat <<< 8
    let dropping := decide (maxFrameSize < frameLen) || decide (r.dest.length < frameLen)
    if frameLen = 0 then
      ⟨{ r with decoder := .init, frameType := d.frameType, frameLen := 0 },
        .frameComplete, espOk⟩
    else
      ⟨{ r with decoder := ⟨.payload, d.frameType, frameLen, 0, dropping⟩ }, .waiting,
        if dropping then espErrInvalidSize else espOk⟩
  | .payload =>
    let dest := if d.dropping = false ∧ d.rxLen < r.dest.length
      then Bytes.write r.dest d.rxLen [byte] else r.dest
    let rxLen := (d.rxLen + 1) % 65536
    if d.frameLen ≤ rxLen then
      if d.dropping then
        ⟨{ r with decoder := .init, dest := dest }, .frameDropped, espErrInvalidSize⟩
      else
        ⟨⟨.init, dest, d.frameType, d.frameLen⟩, .frameComplete, espOk⟩
    else ⟨{ r with decoder := { d with rxLen := rxLen }, dest := dest }, .waiting, espOk⟩
  | .unknown => ⟨{ r with decoder := .init }, .waiting, espErrInvalidState⟩

inductive Report
  | complete (frameType : UInt8) (payload : List UInt8)
  | dropped
deriving DecidableEq

def Fed.report (f : Fed) : Option Report :=
  match f.result with
  | .waiting => none
  | .frameComplete =>
    some (.complete f.receiver.frameType (f.receiver.dest.take f.receiver.frameLen))
  | .frameDropped => some .dropped

def feedAll : Receiver → List UInt8 → Receiver × List Report
  | r, [] => (r, [])
  | r, byte :: rest =>
    let fed := feed r byte
    let later := feedAll fed.receiver rest
    (later.1, fed.report.toList ++ later.2)

section Stream

variable {r : Receiver} {bytes payload : List UInt8} {frameType : UInt8}

/-- What a stretch of the stream is, with the reports it is due. -/
inductive Piece : List UInt8 → List Report → Prop
  | frame {frameType : UInt8} {payload bytes : List UInt8} {outCap : Nat}
      (h : encode frameType payload outCap = .ok bytes) :
      Piece bytes [.complete frameType payload]
  | tooLong {frameType lsb msb : UInt8} {bytes : List UInt8} (htype : isFrameType frameType = true)
      (hlen : lsb.toNat + 256 * msb.toNat = bytes.length) (hlong : maxFrameSize < bytes.length) :
      Piece ([frameType, lsb, msb] ++ bytes) [.dropped]
  | noise {bytes : List UInt8} (h : ∀ b ∈ bytes, isFrameType b = false) : Piece bytes []

structure Ready (r : Receiver) : Prop where
  decoder : r.decoder = .init
  room : maxFrameSize ≤ r.dest.length

theorem feedAll_append (r : Receiver) (bytes more : List UInt8) :
    feedAll r (bytes ++ more) =
      ((feedAll (feedAll r bytes).1 more).1,
        (feedAll r bytes).2 ++ (feedAll (feedAll r bytes).1 more).2) := by
  induction bytes generalizing r with
  | nil => simp [feedAll]
  | cons byte rest ih => simp only [List.cons_append, feedAll, ih, List.append_assoc]

def afterHeader (r : Receiver) (frameType : UInt8) (frameLen : Nat) : Receiver :=
  { r with
    decoder := ⟨.payload, frameType, frameLen, 0,
      decide (maxFrameSize < frameLen) || decide (r.dest.length < frameLen)⟩ }

theorem frameLen_bytes (lsb msb : UInt8) :
    lsb.toNat ||| msb.toNat <<< 8 = lsb.toNat + 256 * msb.toNat := by
  have hlsb : lsb.toNat < 2 ^ 8 := lsb.toNat_lt
  calc lsb.toNat ||| msb.toNat <<< 8 = msb.toNat <<< 8 ||| lsb.toNat := Nat.or_comm _ _
    _ = msb.toNat <<< 8 + lsb.toNat := (Nat.shiftLeft_add_eq_or_of_lt hlsb _).symm
    _ = lsb.toNat + 256 * msb.toNat := by
      rw [Nat.shiftLeft_eq]
      omega

theorem feedAll_header (h : r.decoder = .init) {lsb msb : UInt8}
    (htype : isFrameType frameType = true) {n : Nat} (hn : n = lsb.toNat + 256 * msb.toNat)
    (hpos : 0 < n) : feedAll r [frameType, lsb, msb] = (afterHeader r frameType n, []) := by
  have hlen : lsb.toNat ||| msb.toNat <<< 8 = n := by rw [frameLen_bytes, hn]
  have hne : n ≠ 0 := by omega
  simp only [feedAll, feed, h, Decoder.init, htype, if_true, hlen, hne, if_false, Fed.report,
    afterHeader, Option.toList_none, List.append_nil]

/-- The loop over a payload that is kept: `done` is in the buffer already. -/
theorem feedAll_payload {dest : List UInt8} (hroom : payload.length ≤ dest.length)
    (hlen : payload.length < 65536) (frameType outType : UInt8) (outLen : Nat)
    (done rest : List UInt8) (hsplit : done ++ rest = payload) (hrest : rest ≠ []) :
    feedAll ⟨⟨.payload, frameType, payload.length, done.length, false⟩,
        Bytes.write dest 0 done, outType, outLen⟩ rest =
      (⟨.init, Bytes.write dest 0 payload, frameType, payload.length⟩,
        [.complete frameType payload]) := by
  induction rest generalizing done with
  | nil => exact absurd rfl hrest
  | cons byte rest ih =>
    have hcount : done.length + (rest.length + 1) = payload.length := by
      rw [← hsplit, List.length_append, List.length_cons]
    have hin : done.length < (Bytes.write dest 0 done).length := by
      rw [Bytes.length_write (by omega)]
      omega
    have hwrite : Bytes.write (Bytes.write dest 0 done) done.length [byte] =
        Bytes.write dest 0 (done ++ [byte]) := Bytes.write_write dest done [byte]
    have hmod : (done.length + 1) % 65536 = done.length + 1 := Nat.mod_eq_of_lt (by omega)
    rw [feedAll]
    by_cases hlast : rest = []
    · -- the last byte completes the frame
      subst hlast
      have hfull : payload.length ≤ done.length + 1 := by
        simp only [List.length_nil] at hcount
        omega
      simp only [feed, hin, and_self, if_true, hwrite, hmod, hfull, Bool.false_eq_true, if_false,
        Fed.report, feedAll, hsplit, Bytes.take_write, Option.toList_some, List.append_nil]
    · have hmore : ¬payload.length ≤ done.length + 1 := by
        have := List.length_pos_iff.mpr hlast
        omega
      have hnext := ih (done ++ [byte]) (by rw [List.append_assoc]; exact hsplit) hlast
      rw [List.length_append, List.length_singleton] at hnext
      simp only [feed, hin, and_self, if_true, hwrite, hmod, hmore, if_false, Fed.report, hnext,
        Option.toList_none, List.nil_append]

/-- The loop over a payload that is thrown away. -/
theorem feedAll_dropping {n : Nat} (hn : n < 65536) (r : Receiver) (frameType : UInt8)
    (seen : Nat) (rest : List UInt8) (hsplit : seen + rest.length = n) (hrest : rest ≠ []) :
    feedAll { r with decoder := ⟨.payload, frameType, n, seen, true⟩ } rest =
      ({ r with decoder := .init }, [.dropped]) := by
  induction rest generalizing seen with
  | nil => exact absurd rfl hrest
  | cons byte rest ih =>
    rw [List.length_cons] at hsplit
    have hmod : (seen + 1) % 65536 = seen + 1 := Nat.mod_eq_of_lt (by omega)
    rw [feedAll]
    by_cases hlast : rest = []
    · subst hlast
      have hfull : n ≤ seen + 1 := by
        simp only [List.length_nil] at hsplit
        omega
      simp only [feed, Bool.true_eq_false, false_and, if_false, hmod, hfull, if_true, Fed.report,
        feedAll, Option.toList_some, List.append_nil]
    · have hmore : ¬n ≤ seen + 1 := by
        have := List.length_pos_iff.mpr hlast
        omega
      have hnext := ih (seen + 1) (by omega) hlast
      simp only [feed, Bool.true_eq_false, false_and, if_false, hmod, hmore, Fed.report, hnext,
        Option.toList_none, List.nil_append]

theorem feedAll_noise (h : r.decoder = .init) (hnoise : ∀ b ∈ bytes, isFrameType b = false) :
    feedAll r bytes = (r, []) := by
  induction bytes with
  | nil => rfl
  | cons byte rest ih =>
    obtain ⟨hbyte, hrest⟩ := List.forall_mem_cons.mp hnoise
    have hfeed : feed r byte = ⟨r, .waiting, espOk⟩ := by
      simp only [feed, h, Decoder.init, hbyte, Bool.false_eq_true, if_false]
    simp only [feedAll, hfeed, ih hrest, Fed.report, Option.toList_none, List.append_nil]

/-- What a successful encoding says of its frame. -/
theorem encode_ok {outCap : Nat} (h : encode frameType payload outCap = .ok bytes) :
    isFrameType frameType = true ∧ payload.length ≤ maxFrameSize ∧
      ∃ lsb msb : UInt8, bytes = [frameType, lsb, msb] ++ payload ∧
        payload.length = lsb.toNat + 256 * msb.toNat := by
  unfold encode at h
  split at h
  · cases h
  rename_i htype
  split at h
  · cases h
  rename_i hsize
  split at h
  · cases h
  have hle : payload.length ≤ 512 := by
    unfold maxFrameSize at hsize
    omega
  refine ⟨by simpa using htype, hle, _, _, (Except.ok.inj h).symm, ?_⟩
  -- the two bytes of a length below 65536
  have hand : payload.length &&& 0xFF = payload.length % 2 ^ 8 :=
    Nat.and_two_pow_sub_one_eq_mod _ 8
  rw [UInt8.toNat_ofNat', UInt8.toNat_ofNat', hand, Nat.shiftRight_eq_div_pow]
  omega

theorem Ready.frame (h : Ready r) {outCap : Nat}
    (hencode : encode frameType payload outCap = .ok bytes) :
    (feedAll r bytes).2 = [.complete frameType payload] ∧ Ready (feedAll r bytes).1 := by
  obtain ⟨htype, hsize, lsb, msb, rfl, hlen⟩ := encode_ok hencode
  have hfits : payload.length ≤ r.dest.length := le_trans hsize h.room
  by_cases hempty : payload = []
  · -- the header alone completes an empty frame
    subst hempty
    rw [List.length_nil] at hlen
    have hzero : lsb.toNat ||| msb.toNat <<< 8 = 0 := by rw [frameLen_bytes, ← hlen]
    have hrun : feedAll r [frameType, lsb, msb] =
        ({ r with decoder := .init, frameType := frameType, frameLen := 0 },
          [.complete frameType []]) := by
      simp only [feedAll, feed, h.decoder, Decoder.init, htype, if_true, hzero, Fed.report,
        Option.toList_none, Option.toList_some, List.append_nil, List.nil_append, List.take_zero]
    rw [List.append_nil, hrun]
    exact ⟨rfl, rfl, h.room⟩
  · have hpos : 0 < payload.length := List.length_pos_iff.mpr hempty
    have hmax : payload.length ≤ 512 := hsize
    have hkept : (decide (maxFrameSize < payload.length) ||
        decide (r.dest.length < payload.length)) = false := by
      simp only [Bool.or_eq_false_iff, decide_eq_false_iff_not, Nat.not_lt]
      exact ⟨hsize, hfits⟩
    have hloop := feedAll_payload hfits (by omega) frameType r.frameType r.frameLen []
      payload rfl hempty
    have hstart : Bytes.write r.dest 0 [] = r.dest := by simp [Bytes.write]
    rw [List.length_nil, hstart] at hloop
    rw [feedAll_append, feedAll_header h.decoder htype hlen hpos, afterHeader, hkept, hloop]
    refine ⟨rfl, rfl, ?_⟩
    change maxFrameSize ≤ (Bytes.write r.dest 0 payload).length
    rw [Bytes.length_write (by omega)]
    exact h.room

theorem Ready.tooLong (h : Ready r) {lsb msb : UInt8} (htype : isFrameType frameType = true)
    (hlen : lsb.toNat + 256 * msb.toNat = bytes.length) (hlong : maxFrameSize < bytes.length) :
    (feedAll r ([frameType, lsb, msb] ++ bytes)).2 = [.dropped] ∧
      Ready (feedAll r ([frameType, lsb, msb] ++ bytes)).1 := by
  have hpos : 0 < bytes.length := lt_of_le_of_lt (Nat.zero_le _) hlong
  have hlsb := lsb.toNat_lt
  have hmsb := msb.toNat_lt
  have hdrop : (decide (maxFrameSize < bytes.length) || decide (r.dest.length < bytes.length)) =
      true := by
    simp only [hlong, decide_true, Bool.true_or]
  rw [feedAll_append, feedAll_header h.decoder htype hlen.symm hpos, afterHeader, hdrop,
    feedAll_dropping (by omega) r frameType 0 bytes (Nat.zero_add _) (List.length_pos_iff.mp hpos)]
  exact ⟨rfl, rfl, h.room⟩

theorem Ready.piece (h : Ready r) {reports : List Report} (hpiece : Piece bytes reports) :
    (feedAll r bytes).2 = reports ∧ Ready (feedAll r bytes).1 := by
  cases hpiece with
  | frame hencode => exact h.frame hencode
  | tooLong htype hlen hlong => exact h.tooLong htype hlen hlong
  | noise hnoise =>
    rw [feedAll_noise h.decoder hnoise]
    exact ⟨rfl, h⟩

theorem Ready.pieces (h : Ready r) {pieces : List (List UInt8 × List Report)}
    (hpieces : ∀ p ∈ pieces, Piece p.1 p.2) :
    (feedAll r (pieces.flatMap Prod.fst)).2 = pieces.flatMap Prod.snd ∧
      Ready (feedAll r (pieces.flatMap Prod.fst)).1 := by
  induction pieces generalizing r with
  | nil => exact ⟨rfl, h⟩
  | cons p rest ih =>
    obtain ⟨hp, hrest⟩ := List.forall_mem_cons.mp hpieces
    obtain ⟨hreports, hready⟩ := h.piece hp
    obtain ⟨hlater, hend⟩ := ih hready hrest
    rw [List.flatMap_cons, List.flatMap_cons, feedAll_append]
    exact ⟨by rw [hreports, hlater], hend⟩

/-- After every piece of the stream exactly the frames so far have been reported, and the decoder
is back where it started. -/
theorem stream_is_decoded {r : Receiver} (hinit : r.decoder = .init)
    (hroom : maxFrameSize ≤ r.dest.length) {pieces : List (List UInt8 × List Report)}
    (hpieces : ∀ p ∈ pieces, Piece p.1 p.2) :
    ∀ done, done <+: pieces →
      (feedAll r (done.flatMap Prod.fst)).2 = done.flatMap Prod.snd ∧
      (feedAll r (done.flatMap Prod.fst)).1.decoder = .init := by
  intro done hdone
  have hready : Ready r := ⟨hinit, hroom⟩
  obtain ⟨hreports, hend⟩ := hready.pieces fun p hp => hpieces p (hdone.subset hp)
  exact ⟨hreports, hend.decoder⟩

/-- A start byte within a payload, an empty frame, and noise before them. -/
theorem stream_is_decoded_start_byte :
    let r : Receiver := ⟨.init, List.replicate 512 0, 0, 0⟩
    (feedAll r ([7] ++ [60, 2, 0, 62, 60] ++ [62, 0, 0])).2 =
      [.complete 60 [62, 60], .complete 62 []] := by
  intro r
  have hpieces : ∀ p ∈ [(([7] : List UInt8), ([] : List Report)),
      ([60, 2, 0, 62, 60], [.complete 60 [62, 60]]), ([62, 0, 0], [.complete 62 []])],
      Piece p.1 p.2 := by
    simp only [List.forall_mem_cons, List.not_mem_nil, false_implies, implies_true, and_true]
    refine ⟨.noise (List.forall_mem_singleton.mpr rfl), @Piece.frame _ _ _ 5 ?_,
      @Piece.frame _ _ _ 3 ?_⟩ <;> rfl
  have hroom : maxFrameSize ≤ r.dest.length := (List.length_replicate (n := 512)).ge
  exact (stream_is_decoded rfl hroom hpieces _ (List.prefix_refl _)).1

end Stream

end Sigui.Companion

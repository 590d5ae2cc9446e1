import Sigui.ByteBuffer
import Sigui.MeshPath
import Sigui.SettingsEnvelope

/-! The MeshCore wire packet: an optional pair of transport codes, a packed path and a payload. -/
namespace Sigui.Wire

open MeshPath

def routeTransportFlood : Nat := 0x00
def routeFlood : Nat := 0x01
def routeDirect : Nat := 0x02
def routeTransportDirect : Nat := 0x03

def maxRawPacket : Nat := 255
def maxPacketPayload : Nat := 184
def payloadVer1 : Nat := 0

structure WirePacket where
  header : UInt8
  route : Nat
  type : Nat
  version : Nat
  transportCode0 : UInt16
  transportCode1 : UInt16
  pathLen : UInt8
  pathHashBytes : Nat
  pathHops : Nat
  path : Option Bytes.Memory
  pathByteLen : Nat
  payload : Option Bytes.Memory
  payloadLen : Nat

def pointed (memory : Option Bytes.Memory) (n : Nat) : List UInt8 :=
  match memory with
  | some memory => Bytes.read memory n
  | none => []

namespace WirePacket

def pathBytes (p : WirePacket) : List UInt8 := pointed p.path (wirePathByteLen p.pathLen)

def payloadBytes (p : WirePacket) : List UInt8 := pointed p.payload p.payloadLen

end WirePacket

def routeOf (header : UInt8) : Nat := header.toNat % 4

def routeHasTransportCodes (route : Nat) : Bool :=
  decide (route = routeTransportFlood) || decide (route = routeTransportDirect)

def readLe16 (raw : List UInt8) (i : Nat) : UInt16 := .ofNat (Admin.readLe16 raw i)

/-- `d1l_meshcore_wire_decode` between its argument check and the write of `*out_packet`. -/
def decodePacket (raw : List UInt8) : Option WirePacket :=
  let size := raw.length
  if size < 3 ∨ maxRawPacket < size then none
  else
    let header := raw.getD 0 0
    let transport := routeHasTransportCodes (routeOf header)
    if transport ∧ size - 1 < 5 then none
    else
      let index := if transport then 5 else 1
      let pathLen := raw.getD index 0
      if !wirePathLenValid pathLen then none
      else
        let pathByteLen := wirePathByteLen pathLen
        if size - (index + 1) ≤ pathByteLen then none
        else
          let payloadLen := size - (index + 1 + pathByteLen)
          if payloadLen = 0 ∨ maxPacketPayload < payloadLen then none
          else
            some
              { header := header
                route := routeOf header
                type := header.toNat / 4 % 16
                version := header.toNat / 64 % 4
                transportCode0 := if transport then readLe16 raw 1 else 0
                transportCode1 := if transport then readLe16 raw 3 else 0
                pathLen := pathLen
                pathHashBytes := wirePathHashSize pathLen
                pathHops := wirePathHashCount pathLen
                path := if 0 < pathByteLen then some (Bytes.pointer raw (index + 1)) else none
                pathByteLen := pathByteLen
                payload := some (Bytes.pointer raw (index + 1 + pathByteLen))
                payloadLen := payloadLen }

/-- `d1l_meshcore_wire_decode`; a null pointer is `none`, and `out` is what `*out_packet` holds. -/
def wireDecode (raw : Option (List UInt8)) (out : Option WirePacket) : Bool × Option WirePacket :=
  match raw, out with
  | some raw, some _ =>
    match decodePacket raw with
    | some packet => (true, some packet)
    | none => (false, out)
  | _, _ => (false, out)

/-- `d1l_meshcore_wire_decode_v1` -/
def decodePacketV1 (raw : List UInt8) : Option WirePacket :=
  match decodePacket raw with
  | some packet => if packet.version = payloadVer1 then some packet else none
  | none => none

def prefixBytes (header : UInt8) (code0 code1 : UInt16) (pathLen : UInt8)
    (path : List UInt8) : List UInt8 :=
  header ::
    ((if routeHasTransportCodes (routeOf header) then le16 code0.toNat ++ le16 code1.toNat
      else []) ++ pathLen :: path)

structure Output where
  dest : Option (List UInt8)
  outLen : Option Nat
  deriving DecidableEq

/-- `d1l_meshcore_wire_write_prefix`; the size of the buffer is `dest_size`. -/
def wireWritePrefix (header : UInt8) (code0 code1 : UInt16) (pathLen : UInt8)
    (path : Option Bytes.Memory) (out : Output) : Bool × Output :=
  match out.dest, out.outLen with
  | some dest, some _ =>
    if !wirePathLenValid pathLen then (false, out)
    else
      let pathBytes := wirePathByteLen pathLen
      if 0 < pathBytes ∧ path.isNone then (false, out)
      else
        let transport := routeHasTransportCodes (routeOf header)
        let prefixLen := 2 + pathBytes + if transport then 4 else 0
        if dest.length < prefixLen ∨ maxRawPacket ≤ prefixLen then (false, out)
        else
          let written := prefixBytes header code0 code1 pathLen (pointed path pathBytes)
          (true, ⟨some (Bytes.write dest 0 written), some written.length⟩)
  | _, _ => (false, out)

/-- `d1l_meshcore_wire_encode` -/
def wireEncode (packet : Option WirePacket) (out : Output) : Bool × Output :=
  match packet, out.dest, out.outLen with
  | some packet, some dest, some _ =>
    if packet.payload.isNone ∨ packet.payloadLen = 0 ∨ maxPacketPayload < packet.payloadLen then
      (false, out)
    else if !wirePathLenValid packet.pathLen then (false, out)
    else
      let pathBytes := wirePathByteLen packet.pathLen
      if 0 < pathBytes ∧ packet.path.isNone then (false, out)
      else
        let transport := routeHasTransportCodes (routeOf packet.header)
        let requiredLen := 2 + pathBytes + (if transport then 4 else 0) + packet.payloadLen
        if dest.length < requiredLen ∨ maxRawPacket < requiredLen then (false, out)
        else
          match wireWritePrefix packet.header packet.transportCode0 packet.transportCode1
            packet.pathLen packet.path ⟨some dest, some 0⟩ with
          | (true, ⟨some dest, some prefixLen⟩) =>
            (true, ⟨some (Bytes.write dest prefixLen packet.payloadBytes),
              some (prefixLen + packet.payloadLen)⟩)
          | (_, written) => (false, ⟨written.dest, out.outLen⟩)
  | _, _, _ => (false, out)

section Frames

def WirePacket.frame (p : WirePacket) : List UInt8 :=
  prefixBytes p.header p.transportCode0 p.transportCode1 p.pathLen p.pathBytes ++ p.payloadBytes

structure Encodable (p : WirePacket) : Prop where
  payload : p.payload.isSome = true
  payloadPos : 0 < p.payloadLen
  payloadMax : p.payloadLen ≤ maxPacketPayload
  pathLen : wirePathLenValid p.pathLen = true
  path : 0 < wirePathByteLen p.pathLen → p.path.isSome = true
  size : p.frame.length ≤ maxRawPacket

variable {p : WirePacket}

theorem length_pointed {memory : Option Bytes.Memory} {n : Nat}
    (h : 0 < n → memory.isSome = true) : (pointed memory n).length = n := by
  cases memory with
  | some memory => exact Bytes.length_read memory n
  | none =>
    have hn : n = 0 := by
      by_contra hn
      exact Bool.noConfusion (h (Nat.pos_of_ne_zero hn))
    rw [hn]
    rfl

theorem length_prefixBytes (header : UInt8) (code0 code1 : UInt16) (pathLen : UInt8)
    (path : List UInt8) :
    (prefixBytes header code0 code1 pathLen path).length =
      2 + path.length + if routeHasTransportCodes (routeOf header) then 4 else 0 := by
  unfold prefixBytes
  split_ifs <;> simp only [List.length_cons, List.length_append, List.length_nil, le16] <;> omega

theorem length_frame (hpayload : p.payload.isSome = true)
    (hpath : 0 < wirePathByteLen p.pathLen → p.path.isSome = true) :
    p.frame.length = 2 + wirePathByteLen p.pathLen +
      (if routeHasTransportCodes (routeOf p.header) then 4 else 0) + p.payloadLen := by
  have hbytes : p.pathBytes.length = wirePathByteLen p.pathLen := length_pointed hpath
  have hload : p.payloadBytes.length = p.payloadLen := length_pointed fun _ => hpayload
  simp only [WirePacket.frame, List.length_append, length_prefixBytes, hbytes, hload]

theorem wireWritePrefix_fits (header : UInt8) (code0 code1 : UInt16) {pathLen : UInt8}
    {path : Option Bytes.Memory} {dest : List UInt8} (hvalid : wirePathLenValid pathLen = true)
    (hpath : 0 < wirePathByteLen pathLen → path.isSome = true)
    (hdest : 2 + wirePathByteLen pathLen +
      (if routeHasTransportCodes (routeOf header) then 4 else 0) ≤ dest.length)
    (hraw : 2 + wirePathByteLen pathLen +
      (if routeHasTransportCodes (routeOf header) then 4 else 0) < maxRawPacket) (len : Nat) :
    wireWritePrefix header code0 code1 pathLen path ⟨some dest, some len⟩ =
      (true, ⟨some (Bytes.write dest 0
          (prefixBytes header code0 code1 pathLen (pointed path (wirePathByteLen pathLen)))),
        some (prefixBytes header code0 code1 pathLen
          (pointed path (wirePathByteLen pathLen))).length⟩) := by
  have hnull : ¬(0 < wirePathByteLen pathLen ∧ path.isNone = true) := by
    rintro ⟨hlt, hnone⟩
    have hsome := hpath hlt
    rw [Option.isNone_iff_eq_none.mp hnone] at hsome
    exact Bool.noConfusion hsome
  unfold wireWritePrefix
  dsimp only
  rw [if_neg (by simpa using hvalid), if_neg hnull, if_neg (by omega)]

theorem wireEncode_eq (p : WirePacket) (dest : List UInt8) (len : Nat) :
    wireEncode (some p) ⟨some dest, some len⟩ =
        (true, ⟨some (Bytes.write dest 0 p.frame), some p.frame.length⟩) ∧
        Encodable p ∧ p.frame.length ≤ dest.length ∨
      wireEncode (some p) ⟨some dest, some len⟩ = (false, ⟨some dest, some len⟩) ∧
        ¬(Encodable p ∧ p.frame.length ≤ dest.length) := by
  unfold wireEncode
  dsimp only
  by_cases hpayload : p.payload.isNone = true ∨ p.payloadLen = 0 ∨ maxPacketPayload < p.payloadLen
  · rw [if_pos hpayload]
    refine .inr ⟨rfl, fun h => ?_⟩
    rcases hpayload with hnone | hzero | hlong
    · rw [Option.isNone_iff_eq_none] at hnone
      have hsome := h.1.payload
      rw [hnone] at hsome
      exact Bool.noConfusion hsome
    · exact absurd hzero h.1.payloadPos.ne'
    · exact absurd h.1.payloadMax (Nat.not_le.mpr hlong)
  rw [if_neg hpayload]
  obtain ⟨hsome, hpos, hmax⟩ : p.payload.isSome = true ∧ 0 < p.payloadLen ∧
      p.payloadLen ≤ maxPacketPayload := by
    simp only [not_or, Nat.not_lt, Option.isNone_iff_eq_none] at hpayload
    exact ⟨Option.ne_none_iff_isSome.mp hpayload.1, Nat.pos_of_ne_zero hpayload.2.1, hpayload.2.2⟩
  by_cases hvalid : wirePathLenValid p.pathLen = true
  swap
  · rw [if_pos (by simpa using hvalid)]
    exact .inr ⟨rfl, fun h => hvalid h.1.pathLen⟩
  rw [if_neg (by simpa using hvalid)]
  by_cases hnull : 0 < wirePathByteLen p.pathLen ∧ p.path.isNone = true
  · rw [if_pos hnull]
    refine .inr ⟨rfl, fun h => ?_⟩
    have hpath := h.1.path hnull.1
    rw [Option.isNone_iff_eq_none.mp hnull.2] at hpath
    exact Bool.noConfusion hpath
  rw [if_neg hnull]
  have hpath : 0 < wirePathByteLen p.pathLen → p.path.isSome = true := by
    intro hlt
    exact Option.ne_none_iff_isSome.mp fun hnone => hnull ⟨hlt, Option.isNone_iff_eq_none.mpr hnone⟩
  have hlength := length_frame hsome hpath
  rw [← hlength]
  by_cases hfits : dest.length < p.frame.length ∨ maxRawPacket < p.frame.length
  · rw [if_pos hfits]
    refine .inr ⟨rfl, fun h => ?_⟩
    rcases hfits with hdest | hraw
    · exact absurd h.2 (Nat.not_le.mpr hdest)
    · exact absurd h.1.size (Nat.not_le.mpr hraw)
  rw [if_neg hfits]
  simp only [not_or, Nat.not_lt] at hfits
  left
  -- The payload is not empty, so the shorter prefix passes its own limits.
  have hprefix : ¬(dest.length < 2 + wirePathByteLen p.pathLen +
        (if routeHasTransportCodes (routeOf p.header) then 4 else 0) ∨
      maxRawPacket ≤ 2 + wirePathByteLen p.pathLen +
        if routeHasTransportCodes (routeOf p.header) then 4 else 0) := by
    omega
  have hwritten := wireWritePrefix_fits p.header p.transportCode0 p.transportCode1 hvalid hpath
    (show _ ≤ dest.length by omega) (by omega) 0
  rw [hwritten]
  refine ⟨?_, ⟨hsome, hpos, hmax, hvalid, hpath, hfits.2⟩, hfits.1⟩
  have hload : p.payloadBytes.length = p.payloadLen := length_pointed fun _ => hsome
  dsimp only
  rw [Bytes.write_write]
  unfold WirePacket.frame WirePacket.pathBytes
  rw [List.length_append, hload]

end Frames

section RoundTrip

variable {raw : List UInt8}

theorem le16_ofNat (a b : UInt8) : le16 (UInt16.ofNat (a.toNat + b.toNat * 0x100)).toNat = [a, b] := by
  have ha := a.toNat_lt
  have hb := b.toNat_lt
  simp only [le16, UInt16.toNat_ofNat', List.cons.injEq, and_true, ← UInt8.toNat_inj,
    UInt8.toNat_ofNat']
  constructor <;> omega

theorem ofNat_le16 (code : UInt16) :
    UInt16.ofNat ((UInt8.ofNat code.toNat).toNat + (UInt8.ofNat (code.toNat / 0x100)).toNat * 0x100) =
      code := by
  have hcode := code.toNat_lt
  rw [← UInt16.toNat_inj, UInt16.toNat_ofNat', UInt8.toNat_ofNat', UInt8.toNat_ofNat']
  omega

/-- What the receiver of a frame learns of the packet that was sent. -/
structure SamePacket (p q : WirePacket) : Prop where
  header : q.header = p.header
  pathLen : q.pathLen = p.pathLen
  path : q.pathBytes = p.pathBytes
  payload : q.payloadBytes = p.payloadBytes
  codes : routeHasTransportCodes (routeOf p.header) = true →
    q.transportCode0 = p.transportCode0 ∧ q.transportCode1 = p.transportCode1

theorem decodePacket_parts {head path payload : List UInt8} {pathLen : UInt8}
    (hhead : head.length =
      if routeHasTransportCodes (routeOf (head.getD 0 0)) then 5 else 1)
    (hvalid : wirePathLenValid pathLen = true) (hpath : path.length = wirePathByteLen pathLen)
    (hpos : 0 < payload.length) (hmax : payload.length ≤ maxPacketPayload)
    (hsize : (head ++ pathLen :: (path ++ payload)).length ≤ maxRawPacket) :
    ∃ q, decodePacket (head ++ pathLen :: (path ++ payload)) = some q ∧
      q.header = head.getD 0 0 ∧ q.pathLen = pathLen ∧ q.pathBytes = path ∧
      q.payloadBytes = payload ∧
      (routeHasTransportCodes (routeOf (head.getD 0 0)) = true →
        q.transportCode0 = readLe16 head 1 ∧ q.transportCode1 = readLe16 head 3) := by
  have hsome : 1 ≤ head.length := by
    rw [hhead]
    split_ifs <;> decide
  have hlength : (head ++ pathLen :: (path ++ payload)).length =
      head.length + 1 + wirePathByteLen pathLen + payload.length := by
    simp only [List.length_append, List.length_cons, hpath]
    omega
  have hfirst : (head ++ pathLen :: (path ++ payload)).getD 0 0 = head.getD 0 0 :=
    List.getD_append _ _ _ _ hsome
  have hindex : (head ++ pathLen :: (path ++ payload)).getD head.length 0 = pathLen := by
    rw [List.getD_append_right _ _ _ _ le_rfl, Nat.sub_self]
    rfl
  have hafter : (head ++ pathLen :: (path ++ payload)).drop (head.length + 1) = path ++ payload := by
    rw [← List.drop_drop, List.drop_left]
    rfl
  have hpathRead : Bytes.read (Bytes.pointer (head ++ pathLen :: (path ++ payload))
      (head.length + 1)) (wirePathByteLen pathLen) = path := by
    rw [Bytes.read_pointer (by omega), hafter, ← hpath, List.take_left]
  have hpayloadRead : Bytes.read (Bytes.pointer (head ++ pathLen :: (path ++ payload))
      (head.length + 1 + wirePathByteLen pathLen)) payload.length = payload := by
    rw [Bytes.read_pointer (by omega), ← List.drop_drop, hafter, ← hpath, List.drop_left,
      List.take_length]
  have hcode : ∀ i, i + 1 < head.length →
      readLe16 (head ++ pathLen :: (path ++ payload)) i = readLe16 head i := by
    intro i hi
    unfold readLe16 Admin.readLe16 Admin.byteAt
    rw [List.getD_append _ _ _ _ (by omega), List.getD_append _ _ _ _ hi]
  generalize head ++ pathLen :: (path ++ payload) = raw at *
  unfold decodePacket
  dsimp only
  rw [hfirst, ← hhead, hindex, if_neg (by omega), if_neg (by
    rintro ⟨htransport, hshort⟩
    rw [if_pos htransport] at hhead
    omega), if_neg (by simpa using hvalid), if_neg (by omega), if_neg (by omega)]
  refine ⟨_, rfl, rfl, rfl, ?_, ?_, ?_⟩
  · unfold WirePacket.pathBytes
    dsimp only
    split_ifs with hlt
    · exact hpathRead
    · rw [List.eq_nil_of_length_eq_zero (by omega : path.length = 0)]
      rfl
  · have hload : raw.length - (head.length + 1 + wirePathByteLen pathLen) = payload.length := by
      omega
    unfold WirePacket.payloadBytes
    dsimp only
    rw [hload]
    exact hpayloadRead
  · intro htransport
    rw [if_pos htransport] at hhead
    dsimp only
    rw [if_pos htransport, if_pos htransport]
    exact ⟨hcode 1 (by omega), hcode 3 (by omega)⟩

theorem decodePacket_frame {p : WirePacket} (h : Encodable p) :
    ∃ q, decodePacket p.frame = some q ∧ SamePacket p q := by
  have hpath : p.pathBytes.length = wirePathByteLen p.pathLen := length_pointed h.path
  have hload : p.payloadBytes.length = p.payloadLen := length_pointed fun _ => h.payload
  let codes : List UInt8 := if routeHasTransportCodes (routeOf p.header) then
    le16 p.transportCode0.toNat ++ le16 p.transportCode1.toNat else []
  have hframe : p.frame = (p.header :: codes) ++ p.pathLen :: (p.pathBytes ++ p.payloadBytes) := by
    simp only [WirePacket.frame, prefixBytes, codes, List.cons_append, List.append_assoc]
  have hhead : (p.header :: codes).length =
      if routeHasTransportCodes (routeOf p.header) then 5 else 1 := by
    simp only [codes]
    split_ifs <;> rfl
  have hsize := h.size
  rw [hframe] at hsize ⊢
  obtain ⟨q, hq, hheader, hlen, hbytes, hpayload, hcodes⟩ :=
    decodePacket_parts hhead h.pathLen hpath (hload ▸ h.payloadPos) (hload ▸ h.payloadMax) hsize
  refine ⟨q, hq, hheader, hlen, hbytes, hpayload, fun htransport => ?_⟩
  obtain ⟨h0, h1⟩ := hcodes htransport
  simp only [codes, if_pos htransport] at h0 h1
  exact ⟨h0.trans (ofNat_le16 p.transportCode0), h1.trans (ofNat_le16 p.transportCode1)⟩

theorem cut_at {index n : Nat} (h : index < raw.length) : raw.take index ++ raw.getD index 0 ::
      ((raw.drop (index + 1)).take n ++ raw.drop (index + 1 + n)) = raw := by
  have hrest : (raw.drop (index + 1)).take n ++ raw.drop (index + 1 + n) = raw.drop (index + 1) := by
    rw [← List.drop_drop (i := n), List.take_append_drop]
  rw [hrest, List.getD_eq_getElem raw 0 h, List.getElem_cons_drop, List.take_append_drop]

theorem take_head {transport : Bool} (hsize : 3 ≤ raw.length)
    (hlong : transport = true → 6 ≤ raw.length) :
    raw.take (if transport then 5 else 1) = raw.getD 0 0 ::
      (if transport then le16 (readLe16 raw 1).toNat ++ le16 (readLe16 raw 3).toNat else []) := by
  cases transport with
  | true =>
    match raw, hlong rfl with
    | a :: b :: c :: d :: e :: rest, _ =>
      have h1 : le16 (readLe16 (a :: b :: c :: d :: e :: rest) 1).toNat = [b, c] := le16_ofNat b c
      have h3 : le16 (readLe16 (a :: b :: c :: d :: e :: rest) 3).toNat = [d, e] := le16_ofNat d e
      rw [if_pos rfl, if_pos rfl, h1, h3]
      rfl
  | false =>
    match raw, hsize with
    | a :: rest, _ => rfl

theorem decodePacket_sound {p : WirePacket} (h : decodePacket raw = some p) :
    p.frame = raw ∧ Encodable p := by
  unfold decodePacket at h
  dsimp only at h
  by_cases hsize : raw.length < 3 ∨ maxRawPacket < raw.length
  · rw [if_pos hsize] at h
    cases h
  rw [if_neg hsize] at h
  simp only [not_or, Nat.not_lt] at hsize
  by_cases hshort : routeHasTransportCodes (routeOf (raw.getD 0 0)) = true ∧ raw.length - 1 < 5
  · rw [if_pos hshort] at h
    cases h
  rw [if_neg hshort] at h
  have hlong : routeHasTransportCodes (routeOf (raw.getD 0 0)) = true → 6 ≤ raw.length := by
    intro ht
    have := not_and.mp hshort ht
    omega
  have hhead := take_head hsize.1 hlong
  generalize hindex : (if routeHasTransportCodes (routeOf (raw.getD 0 0)) = true then 5 else 1) =
    index at h hhead
  have hin : index < raw.length := by
    rw [← hindex]
    split_ifs with ht
    · have := hlong ht
      omega
    · omega
  have hcut := fun n => cut_at (n := n) hin
  generalize raw.getD index 0 = pathLen at h hcut
  by_cases hvalid : wirePathLenValid pathLen = true
  swap
  · rw [if_pos (by simpa using hvalid)] at h
    cases h
  rw [if_neg (by simpa using hvalid)] at h
  by_cases hroom : raw.length - (index + 1) ≤ wirePathByteLen pathLen
  · rw [if_pos hroom] at h
    cases h
  rw [if_neg hroom] at h
  by_cases hpayload : raw.length - (index + 1 + wirePathByteLen pathLen) = 0 ∨
      maxPacketPayload < raw.length - (index + 1 + wirePathByteLen pathLen)
  · rw [if_pos hpayload] at h
    cases h
  rw [if_neg hpayload, Option.some.injEq] at h
  simp only [not_or, Nat.not_lt] at hpayload
  have hpath : p.pathBytes = (raw.drop (index + 1)).take (wirePathByteLen pathLen) := by
    rw [← h]
    unfold WirePacket.pathBytes
    dsimp only
    split_ifs with hlt
    · exact Bytes.read_pointer (by omega)
    · have hzero : wirePathByteLen pathLen = 0 := by omega
      rw [hzero]
      rfl
  have hload : p.payloadBytes = raw.drop (index + 1 + wirePathByteLen pathLen) := by
    rw [← h]
    have hend : index + 1 + wirePathByteLen pathLen +
        (raw.length - (index + 1 + wirePathByteLen pathLen)) ≤ raw.length := by
      omega
    refine (Bytes.read_pointer hend).trans ?_
    rw [List.take_of_length_le (by simp)]
  have hframe : p.frame = raw := by
    refine Eq.trans ?_ (hcut (wirePathByteLen pathLen))
    unfold WirePacket.frame
    rw [hhead, hpath, hload, ← h]
    unfold prefixBytes
    dsimp only
    split_ifs <;> simp only [List.cons_append, List.append_assoc, List.nil_append]
  refine ⟨hframe, ?_⟩
  rw [← h]
  refine ⟨rfl, Nat.pos_of_ne_zero hpayload.1, hpayload.2, hvalid, fun hlt => ?_, ?_⟩
  · dsimp only at hlt ⊢
    rw [if_pos hlt]
    rfl
  · rw [h, hframe]
    exact hsize.2

theorem decodePacket_fields {q : WirePacket} (h : decodePacket raw = some q) :
    q.route = routeOf q.header ∧ q.type = q.header.toNat / 4 % 16 ∧
      q.version = q.header.toNat / 64 % 4 ∧ q.pathHashBytes = wirePathHashSize q.pathLen ∧
      q.pathHops = wirePathHashCount q.pathLen ∧ q.pathByteLen = wirePathByteLen q.pathLen := by
  unfold decodePacket at h
  dsimp only at h
  generalize (if routeHasTransportCodes (routeOf (raw.getD 0 0)) = true then 5 else 1) = index at h
  split_ifs at h
  all_goals
    cases h
    exact ⟨rfl, rfl, rfl, rfl, rfl, rfl⟩

theorem decodePacketV1_of {q : WirePacket} (h : decodePacket raw = some q)
    (hversion : q.version = payloadVer1) : decodePacketV1 raw = some q := by
  unfold decodePacketV1
  rw [h]
  exact if_pos hversion

structure CodecExact : Prop where
  reencoded : ∀ raw out packet, wireDecode (some raw) out = (true, packet) →
    ∀ dest len, raw.length ≤ dest.length →
      wireEncode packet ⟨some dest, some len⟩ =
        (true, ⟨some (Bytes.write dest 0 raw), some raw.length⟩)
  redecoded : ∀ p out dest len, wireEncode (some p) out = (true, ⟨some dest, some len⟩) →
    ∀ held, ∃ q, wireDecode (some (dest.take len)) (some held) = (true, some q) ∧ SamePacket p q
  decodeRejects : ∀ raw out, (wireDecode raw out).1 = false → (wireDecode raw out).2 = out
  encodeRejects : ∀ packet out, (wireEncode packet out).1 = false → (wireEncode packet out).2 = out

theorem wire_codec_exact : CodecExact where
  reencoded := by
    intro raw out packet h dest len hfits
    unfold wireDecode at h
    cases out with
    | none => cases h
    | some held =>
      dsimp only at h
      cases hd : decodePacket raw with
      | none =>
        rw [hd] at h
        cases h
      | some p =>
        rw [hd] at h
        cases h
        obtain ⟨hframe, hencodable⟩ := decodePacket_sound hd
        rcases wireEncode_eq p dest len with ⟨heq, -⟩ | ⟨-, hnot⟩
        · rw [heq, hframe]
        · exact absurd ⟨hencodable, hframe ▸ hfits⟩ hnot
  redecoded := by
    intro p out dest len h held
    obtain ⟨dest₀, len₀⟩ := out
    cases dest₀ with
    | none => cases h
    | some dest₀ =>
      cases len₀ with
      | none => cases h
      | some len₀ =>
        rcases wireEncode_eq p dest₀ len₀ with ⟨heq, hencodable, -⟩ | ⟨heq, -⟩
        · rw [heq] at h
          cases h
          obtain ⟨q, hq, hsame⟩ := decodePacket_frame hencodable
          refine ⟨q, ?_, hsame⟩
          rw [Bytes.take_write]
          unfold wireDecode
          dsimp only
          rw [hq]
        · rw [heq] at h
          cases h
  decodeRejects := by
    intro raw out h
    cases raw with
    | none => rfl
    | some raw =>
      cases out with
      | none => rfl
      | some held =>
        unfold wireDecode at h ⊢
        dsimp only at h ⊢
        cases hd : decodePacket raw with
        | none => rfl
        | some p =>
          rw [hd] at h
          cases h
  encodeRejects := by
    intro packet out h
    obtain ⟨dest, len⟩ := out
    cases packet with
    | none => rfl
    | some p =>
      cases dest with
      | none => rfl
      | some dest =>
        cases len with
        | none => rfl
        | some len =>
          rcases wireEncode_eq p dest len with ⟨heq, -⟩ | ⟨heq, -⟩
          · rw [heq] at h
            cases h
          · rw [heq]

end RoundTrip

end Sigui.Wire

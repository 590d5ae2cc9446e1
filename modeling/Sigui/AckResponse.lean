import Sigui.DmText

/-! The three shapes of an ACK: how the receiver of a direct message plans and builds one, and what
the sender reads from each. -/
namespace Sigui.DmText

open TextPlaintext MeshCrypto Wire MeshPath

def ackWireBytes : Nat := 6
def ackDelayMs : Nat := 200

/-- `D1L_MESHCORE_ACK_DISPATCH_*` -/
inductive AckDispatchKind
  | none
  | floodAck
  | directAck
  | floodAckPath
  deriving DecidableEq

/-- `d1l_meshcore_ack_dispatch_plan_t`; the two paths have as many bytes as their lengths say. -/
structure AckDispatchPlan where
  kind : AckDispatchKind
  route : Nat
  pathLen : UInt8
  path : List UInt8
  returnPathLen : UInt8
  returnPath : List UInt8
  ack : List UInt8
  delayMs : Nat
  deriving DecidableEq

def floodPathLen (floodPathHashBytes : Nat) : UInt8 := .ofNat ((floodPathHashBytes - 1) * 64)

/-- `d1l_meshcore_ack_dispatch_plan` -/
def ackDispatchPlan (inbound : WirePacket) (floodPathHashBytes : Nat) (outboundPathValid : Bool)
    (outboundPath : Option Bytes.Memory) (outboundPathLen : UInt8) (ackHash : List UInt8)
    (extendedAttempt nonce : UInt8) : Option AckDispatchPlan :=
  if inbound.version ≠ payloadVer1 ∨ inbound.type ≠ payloadText ∨
      routeTransportDirect < inbound.route ∨ floodPathHashBytes < 1 ∨ 3 < floodPathHashBytes ∨
      wirePathLenValid inbound.pathLen = false then none
  else
    let inboundPathBytes := wirePathByteLen inbound.pathLen
    if inbound.pathByteLen ≠ inboundPathBytes ∨
        (0 < inboundPathBytes ∧ inbound.path.isNone) then none
    else if outboundPathValid = true ∧ (wirePathLenValid outboundPathLen = false ∨
        (0 < wirePathByteLen outboundPathLen ∧ outboundPath.isNone)) then none
    else
      let ack := ackHash.take 4 ++ [extendedAttempt, nonce]
      if inbound.route = routeFlood ∨ inbound.route = routeTransportFlood then
        some
          { kind := .floodAckPath, route := routeFlood, pathLen := floodPathLen floodPathHashBytes
            path := [], returnPathLen := inbound.pathLen, returnPath := inbound.pathBytes
            ack := ack, delayMs := ackDelayMs }
      else if outboundPathValid then
        some
          { kind := .directAck, route := routeDirect, pathLen := outboundPathLen
            path := pointed outboundPath (wirePathByteLen outboundPathLen), returnPathLen := 0
            returnPath := [], ack := ack, delayMs := ackDelayMs }
      else
        some
          { kind := .floodAck, route := routeFlood, pathLen := floodPathLen floodPathHashBytes
            path := [], returnPathLen := 0, returnPath := [], ack := ack, delayMs := ackDelayMs }

def ackPathPlain (plan : AckDispatchPlan) (ackLen : Nat) : List UInt8 :=
  plan.returnPathLen :: (plan.returnPath ++ UInt8.ofNat payloadAck :: plan.ack.take ackLen)

/-- `build_dm_ack_response`: the first `*out_len` bytes of a buffer of `rawSize`. -/
def buildDmAckResponse (c : Crypto) (settings : LocalIdentity) (senderPub secret : List UInt8)
    (plan : AckDispatchPlan) (ackLen rawSize : Nat) : Except EspErr (List UInt8) :=
  if !settings.ready ∨ (ackLen ≠ 4 ∧ ackLen ≠ ackWireBytes) then .error espErrInvalidArg
  else
    match plan.kind with
    | .none => .error espErrInvalidArg
    | .floodAckPath =>
      match wireWritePrefix (.ofNat (payloadPath * 4 + routeFlood)) 0 0 plan.pathLen none
        ⟨some (List.replicate rawSize 0), some 0⟩ with
      | (true, ⟨some raw, some i⟩) =>
        if rawSize - i < 2 then .error espErrInvalidSize
        else
          let raw := Bytes.write raw i [senderPub.getD 0 0, settings.publicKey.getD 0 0]
          match encryptThenMac c secret (rawSize - (i + 2)) (ackPathPlain plan ackLen) with
          | .error ret => .error ret
          | .ok macCipher =>
            if uint8Max < i + 2 + macCipher.length then .error espErrInvalidSize
            else .ok ((Bytes.write raw (i + 2) macCipher).take (i + 2 + macCipher.length))
      | _ => .error espErrInvalidSize
    | _ =>
      match wireWritePrefix (.ofNat (payloadAck * 4 + plan.route)) 0 0 plan.pathLen
        (if plan.path = [] then none else some (Bytes.pointer plan.path 0))
        ⟨some (List.replicate rawSize 0), some 0⟩ with
      | (true, ⟨some raw, some i⟩) =>
        if rawSize - i < ackLen then .error espErrInvalidSize
        else if uint8Max < i + ackLen then .error espErrInvalidSize
        else .ok ((Bytes.write raw i (plan.ack.take ackLen)).take (i + ackLen))
      | _ => .error espErrInvalidSize

def payloadMultipart : Nat := 0x0A

/-- The hash `parse_rx_ack_packet` finds in an ACK or in a part of one. -/
def readAckPacket (payload : List UInt8) : Option Nat :=
  match decodePacketV1 payload with
  | none => none
  | some packet =>
    if packet.type = payloadAck ∧ 4 ≤ packet.payloadLen then
      some (Admin.readLe32 packet.payloadBytes 0)
    else if packet.type = payloadMultipart ∧ 5 ≤ packet.payloadLen ∧
        (packet.payloadBytes.getD 0 0).toNat % 16 = payloadAck then
      some (Admin.readLe32 packet.payloadBytes 1)
    else none

/-- `D1L_MESHCORE_PATH_EXTRA_*` -/
inductive PathExtraKind
  | none
  | ack
  | response
  deriving DecidableEq

def pathSourceAckPath : Nat := 2
def pathSourcePathResponse : Nat := 3
def pathExtraTypeResponse : Nat := 0x01

/-- `d1l_meshcore_path_plain_t` -/
structure PathPlain where
  pathLen : UInt8
  path : List UInt8
  rawExtraType : UInt8
  extra : List UInt8
  source : Nat
  kind : PathExtraKind
  deriving DecidableEq

/-- `d1l_meshcore_path_plain_decode` -/
def pathPlainDecode (plain : List UInt8) : Option PathPlain :=
  let pathLen := plain.getD 0 0
  if plain.length < 2 ∨ wirePathLenValid pathLen = false then none
  else
    let pathBytes := wirePathByteLen pathLen
    if plain.length < pathBytes + 2 then none
    else
      let rawExtraType := plain.getD (1 + pathBytes) 0
      let extra := plain.drop (2 + pathBytes)
      let extraType := rawExtraType.toNat % 16
      some
        { pathLen := pathLen
          path := (plain.drop 1).take pathBytes
          rawExtraType := rawExtraType
          extra := extra
          source :=
            if extraType = payloadAck then pathSourceAckPath
            else if extraType = pathExtraTypeResponse then pathSourcePathResponse
            else pathSourceObserved
          kind :=
            if extra.length < 4 then .none
            else if extraType = payloadAck then .ack
            else if extraType = pathExtraTypeResponse then .response
            else .none }

/-- The contact whose secret opens a PATH packet, and what is inside: the loop of
`parse_rx_path_packet` over the contacts. -/
def openPathPacket (c : Crypto) (settings : LocalIdentity) (packet : WirePacket) :
    List Contact.ContactEntry → Option (Contact.ContactEntry × PathPlain)
  | [] => none
  | contact :: contacts =>
    match hexToBytes pubKeySize contact.publicKeyHex.bytes with
    | none => openPathPacket c settings packet contacts
    | some senderPub =>
      if senderPub.getD 0 0 ≠ packet.payloadBytes.getD 1 0 then
        openPathPacket c settings packet contacts
      else
        match settings.sharedSecret senderPub with
        | .error _ => openPathPacket c settings packet contacts
        | .ok secret =>
          match pathPlainDecode
            (decryptAfterMac c secret maxRawPacket (packet.payloadBytes.drop 2)) with
          | none => openPathPacket c settings packet contacts
          | some decoded => some (contact, decoded)

/-- The hash `parse_rx_path_packet` finds in a PATH packet that no administration call claims. -/
def readPathAck (c : Crypto) (settings : LocalIdentity) (scan : List Contact.ContactEntry)
    (payload : List UInt8) : Option Nat :=
  match decodePacketV1 payload with
  | none => none
  | some packet =>
    if packet.type ≠ payloadPath ∨ packet.payloadLen ≤ 2 + macSize ∨ settings.ready = false ∨
        packet.payloadBytes.getD 0 0 ≠ settings.publicKey.getD 0 0 then none
    else
      match openPathPacket c settings packet scan with
      | some (_, decoded) =>
        if decoded.kind = .ack then some (Admin.readLe32 decoded.extra 0) else none
      | none => none

end Sigui.DmText

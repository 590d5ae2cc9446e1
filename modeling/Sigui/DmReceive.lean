import Sigui.AckResponse
import Sigui.ChannelRx
import Sigui.ContactOps

/-! How a received direct message is opened under the secret of a contact, and the answer that is
prepared for it. -/
namespace Sigui.DmText

open TextPlaintext MeshCrypto Wire MeshPath PacketHash

/-- `D1L_MESHCORE_PEER_*` -/
inductive PeerOutcome
  | unknown
  | self
  | authorized
  deriving DecidableEq

/-- `d1l_meshcore_peer_dispatch_classify` -/
def peerDispatchClassify (localPublicKey candidatePublicKey : List UInt8)
    (candidateAuthorized : Bool) : PeerOutcome :=
  if localPublicKey = candidatePublicKey then .self
  else if candidateAuthorized then .authorized
  else .unknown

/-- `d1l_contact_store_can_dm` -/
def canDm (e : Contact.ContactEntry) : Bool :=
  Contact.isCanonical e && decide (e.type.bytes = Contact.chatType)

section Open

/-- What the administration session says: whether a command waits for a reply of the contact,
whether a reply was considered, and whether its room is the active one. -/
structure AdminHooks where
  pending : Contact.ContactEntry → Bool
  considered : Contact.ContactEntry → Nat → List UInt8 → Bool
  roomActive : Contact.ContactEntry → Bool

structure OpenedDm where
  contact : Contact.ContactEntry
  senderPub : List UInt8
  secret : List UInt8
  plain : List UInt8
  roomPost : Bool
  view : TextView
  storedMessage : List UInt8
  deriving DecidableEq

/-- One round of the loop over the contacts: `continue`, `return false`, or a message. -/
inductive Candidate
  | skip
  | stop
  | take (opened : OpenedDm)

def upperHexDigit (n : Nat) : UInt8 := .ofNat (if n < 10 then 48 + n else 55 + n)

/-- `"%02X%02X%02X%02X: "` of the author of a room post. -/
def roomPrefix (plain : List UInt8) : List UInt8 :=
  ((plain.drop 5).take 4).flatMap
      (fun b => [upperHexDigit (b.toNat / 16), upperHexDigit (b.toNat % 16)]) ++ [58, 32]

/-- The loop that shortens the text until it is valid behind the prefix. -/
def displayTextLen (front message : List UInt8) : Nat → Nat
  | 0 => 0
  | n + 1 =>
    if (userTextValidateSpan (front ++ message.take (n + 1)) false).result = .ok then n + 1
    else displayTextLen front message n

/-- `room_display`, of `D1L_MESSAGE_TEXT_LEN` bytes with its NUL. -/
def roomDisplay (plain message : List UInt8) : Option (List UInt8) :=
  let front := roomPrefix plain
  let shown := displayTextLen front message (min message.length (userTextMaxBytes - front.length))
  let display := front ++ message.take shown
  if (userTextValidate (some (ChannelRx.cString display))).result ≠ .ok then none else some display

variable (c : Crypto)

/-- `packet_hash_ready` and a hit in the cache. -/
def packetHashSeen (cache : PacketHashCache) (packet : WirePacket) : Bool :=
  match packetHashCalculate c packet with
  | .ok hash => cache.holds hash
  | .error _ => false

/-- The round after the plaintext was opened under the secret of the contact. -/
def readDmPlain (hooks : AdminHooks) (cache : PacketHashCache) (packet : WirePacket)
    (contact : Contact.ContactEntry) (senderPub secret plain : List UInt8) : Candidate :=
  if plain.length < 6 then .skip
  else
    let txtType := (plain.getD 4 0).toNat / 4
    let lowAttempt := (plain.getD 4 0).toNat % 4
    if txtType = txtTypeCliData then
      if lowAttempt ≠ 0 then .skip
      else
        match textPlaintextView (plain.drop 5) false 0 with
        | none => .skip
        | some view =>
          if hooks.pending contact = false then .skip
          else if packetHashSeen c cache packet = true then .stop
          else if hooks.considered contact (Admin.readLe32 plain 0) view.text then .stop
          else .skip
    else if txtType = txtTypeSignedPlain then
      if plain.length < 10 ∨ hooks.roomActive contact = false then .skip
      else
        match textPlaintextView (plain.drop 9) false 0 with
        | none => .skip
        | some view =>
          match roomDisplay plain view.text with
          | none => .skip
          | some display => .take ⟨contact, senderPub, secret, plain, true, view, display⟩
    else if txtType = txtTypePlain then
      match textPlaintextView (plain.drop 5) true lowAttempt with
      | none => .skip
      | some view => .take ⟨contact, senderPub, secret, plain, false, view, view.text⟩
    else .skip

def tryDmContact (settings : LocalIdentity) (hooks : AdminHooks) (cache : PacketHashCache)
    (packet : WirePacket) (contact : Contact.ContactEntry) : Candidate :=
  match hexToBytes pubKeySize contact.publicKeyHex.bytes with
  | none => .skip
  | some senderPub =>
    if senderPub.getD 0 0 ≠ packet.payloadBytes.getD 1 0 then .skip
    else if peerDispatchClassify settings.publicKey senderPub (canDm contact) ≠ .authorized then
      .skip
    else
      match settings.sharedSecret senderPub with
      | .error _ => .skip
      | .ok secret =>
        readDmPlain c hooks cache packet contact senderPub secret
          (decryptAfterMac c secret maxRawPacket (packet.payloadBytes.drop 2))

def scanDmContacts (settings : LocalIdentity) (hooks : AdminHooks) (cache : PacketHashCache)
    (packet : WirePacket) : List Contact.ContactEntry → Option OpenedDm
  | [] => none
  | contact :: contacts =>
    match tryDmContact c settings hooks cache packet contact with
    | .skip => scanDmContacts settings hooks cache packet contacts
    | .stop => none
    | .take opened => some opened

/-- `parse_rx_dm_packet` until the message is open; `scan` is the copy of the contacts. -/
def openDmPacket (settings : LocalIdentity) (hooks : AdminHooks) (cache : PacketHashCache)
    (scan : List Contact.ContactEntry) (payload : List UInt8) : Option (WirePacket × OpenedDm) :=
  match decodePacketV1 payload with
  | none => none
  | some packet =>
    if packet.type ≠ payloadText ∨ packet.payloadLen ≤ 2 + macSize ∨ settings.ready = false ∨
        packet.payloadBytes.getD 0 0 ≠ settings.publicKey.getD 0 0 then none
    else (scanDmContacts c settings hooks cache packet scan).map fun opened => (packet, opened)

end Open

namespace OpenedDm

variable (o : OpenedDm)

def wireMessageLen : Nat := o.view.text.length + if o.roomPost then 4 else 0

def ackWireLen : Nat := if o.roomPost then 4 else ackWireBytes

def extendedAttempt : UInt8 := if o.roomPost then 0 else .ofNat o.view.extendedAttempt

def storedAttempt : Nat := if o.roomPost then 0 else (o.plain.getD 4 0).toNat % 4

def ackHash (c : Crypto) (settings : LocalIdentity) : Nat :=
  calcDmAckHash c (o.plain.take (5 + o.wireMessageLen))
    (if o.roomPost then settings.publicKey else o.senderPub)

def identityDigest (c : Crypto) : Except EspErr (List UInt8) :=
  calcDmIdentityDigest c o.plain o.wireMessageLen o.senderPub

end OpenedDm

/-- What the answer depends on besides the message: `lookup_boot_route` of the contact's path, the
clock, the settings and a random byte. -/
structure AckEnv where
  learnedThisBoot : Bool
  nowMs : Nat
  pathHashBytes : Nat
  nonce : UInt8

/-- The plan of the ACK and the packet, built in a buffer of `D1L_MESHCORE_MAX_RAW_PACKET`. -/
def planDmAck (c : Crypto) (settings : LocalIdentity) (env : AckEnv) (packet : WirePacket)
    (o : OpenedDm) (contact : Contact.ContactEntry) :
    Except EspErr (AckDispatchPlan × List UInt8) :=
  match o.identityDigest c with
  | .error ret => .error ret
  | .ok _ =>
    match routeSelectCanonical contact.outPathValid (contact.outPathValid && env.learnedThisBoot)
      (some contact.outPath.bytes) contact.outPathLen contact.outPathState env.nowMs
      env.pathHashBytes with
    | none => .error espErrInvalidArg
    | some selection =>
      let direct := decide (selection.route = .direct)
      match ackDispatchPlan packet env.pathHashBytes direct
        (if direct then some (Bytes.pointer selection.path 0) else none)
        (if direct then .ofNat selection.pathLen else 0) (le32 (o.ackHash c settings))
        o.extendedAttempt env.nonce with
      | none => .error espErrInvalidArg
      | some plan =>
        match buildDmAckResponse c settings o.senderPub o.secret plan o.ackWireLen maxRawPacket with
        | .error ret => .error ret
        | .ok raw => .ok (plan, raw)

end Sigui.DmText

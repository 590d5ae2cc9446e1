import Sigui.ChannelText
import Sigui.MessageStore
import Sigui.PacketHash
import Sigui.PacketEntry
import Sigui.RouteOps

/-! How a received channel packet is opened, told apart from the packets already taken, and put into
the message store. -/
namespace Sigui.ChannelRx

open TextPlaintext MeshCrypto Wire ChannelText PacketHash

/-- `D1L_MESHCORE_CHANNEL_DISPATCH_*` -/
inductive DispatchOutcome
  | invalid
  | unknown
  | authFailed
  | accepted
  | ambiguous
  deriving DecidableEq

structure ChannelDispatch where
  candidateCount : Nat
  nextCandidate : Nat
  authenticatedCount : Nat
  selectedCandidate : Nat
  valid : Bool
  deriving DecidableEq

def dispatchBegin (candidateCount : Nat) : Option ChannelDispatch :=
  if Channel.channelStoreCapacity < candidateCount then none
  else some ⟨candidateCount, 0, 0, 0, true⟩

def dispatchObserve (d : ChannelDispatch) (candidateIndex : Nat) (authenticated : Bool) :
    ChannelDispatch × Bool :=
  if d.valid = false ∨ candidateIndex ≠ d.nextCandidate ∨ d.candidateCount ≤ candidateIndex then
    ({ d with valid := false }, false)
  else
    ({ d with
        selectedCandidate :=
          if authenticated ∧ d.authenticatedCount = 0 then candidateIndex else d.selectedCandidate
        authenticatedCount :=
          if authenticated then d.authenticatedCount + 1 else d.authenticatedCount
        nextCandidate := d.nextCandidate + 1 }, true)

def dispatchFinish (d : ChannelDispatch) : DispatchOutcome :=
  if d.valid = false ∨ d.nextCandidate ≠ d.candidateCount then .invalid
  else if d.candidateCount = 0 then .unknown
  else if d.authenticatedCount = 0 then .authFailed
  else if d.authenticatedCount ≠ 1 then .ambiguous
  else .accepted

/-- The dispatch with the first plaintext that was opened and its key. -/
structure Candidates where
  dispatch : ChannelDispatch
  selected : Option (List UInt8 × ProtocolKey)

/-- The loop over the candidates; `none` is the early return. -/
def tryCandidates (c : Crypto) (sealed : List UInt8) (index : Nat) (acc : Candidates) :
    List ProtocolKey → Option Candidates
  | [] => some acc
  | key :: keys =>
    let plain := decryptAfterMac c key.secret.bytes maxRawPacket sealed
    let authenticated := !plain.isEmpty
    let selected :=
      if authenticated ∧ acc.dispatch.authenticatedCount = 0 then some (plain, key)
      else acc.selected
    match dispatchObserve acc.dispatch index authenticated with
    | (dispatch, true) => tryCandidates c sealed (index + 1) ⟨dispatch, selected⟩ keys
    | (_, false) => none

/-- `channel_protocol_keys_equal` -/
def protocolKeysEqual (lhs rhs : ProtocolKey) : Bool :=
  decide (lhs.channelId = rhs.channelId) && decide (lhs.channelHash = rhs.channelHash) &&
    decide (lhs.secretLen = rhs.secretLen) &&
    decide (lhs.secretLen ≤ Channel.channelSecretMaxLen) &&
    lhs.secret.bytes.take lhs.secretLen == rhs.secret.bytes.take lhs.secretLen

section Coordinator

open Channel

def retainedRows (m : Message.Store) : List RetainedRow :=
  m.history.rows.map fun e => ⟨e.channelId, e.seq, decide (e.direction.bytes.head? = some 114)⟩

/-- One round of `d1l_channel_message_reconcile`: how NVS answered, and whether the message store
moved on meanwhile. -/
structure ReconcileAttempt where
  nowMs : Nat
  write : NvsWrite
  revisionMoved : Bool

/-- `d1l_channel_message_reconcile`; the attempts are at most three, and the pending flag is left
set unless the result is `ESP_OK`. -/
def channelMessageReconcile (m : Message.Store) (d : ChannelDevice) (ret : EspErr) :
    List ReconcileAttempt → ChannelDevice × EspErr
  | [] => (d, if ret = espOk then espErrInvalidState else ret)
  | attempt :: attempts =>
    if !m.loaded then (d, espErrInvalidState)
    else
      match reconcileRetainedRows d (some (retainedRows m))
        (some ⟨m.history.epoch, m.history.nextSeq, m.history.clearLineage⟩) attempt.nowMs
        attempt.write with
      | (d, ret) =>
        if ret ≠ espOk then (d, ret)
        else if attempt.revisionMoved = false then (d, espOk)
        else channelMessageReconcile m d ret attempts

end Coordinator

/-- The counters of `s_status` that a channel packet can raise. -/
structure RxStatus where
  rxPackets : Nat
  hashCollision : Nat
  unknownHash : Nat
  decryptFailed : Nat
  reconcileBlocked : Nat
  deriving DecidableEq

structure LoggedPacket where
  kind : CStr
  rssiDbm : Int
  snrTenths : Int
  pathHashBytes : Nat
  pathHops : Nat
  payloadLen : Nat
  raw : List UInt8
  note : CharArray Packet.noteLen

/-- The receiver. The last two lists are what went to the route store and the packet log. -/
structure RxNode where
  channels : Channel.ChannelDevice
  reconcilePending : Bool
  messages : Message.Store
  seen : PacketHashCache
  status : RxStatus
  observations : List Route.ObservationArgs
  logged : List LoggedPacket

structure RxEnv where
  nowMs : Nat
  before : List ReconcileAttempt
  after : List ReconcileAttempt

def cString (bytes : List UInt8) : CStr :=
  ⟨bytes.takeWhile (· != 0), fun h => absurd (List.mem_takeWhile_imp h) (by decide)⟩

def routeName (route : Nat) : CStr :=
  if route = routeTransportFlood then
    ⟨[116, 114, 97, 110, 115, 112, 111, 114, 116, 95, 102, 108, 111, 111, 100], by decide⟩
  else if route = routeFlood then ⟨[102, 108, 111, 111, 100], by decide⟩
  else if route = routeDirect then ⟨[100, 105, 114, 101, 99, 116], by decide⟩
  else if route = routeTransportDirect then
    ⟨[116, 114, 97, 110, 115, 112, 111, 114, 116, 95, 100, 105, 114, 101, 99, 116], by decide⟩
  else Route.unknownArg

def channelPacketKind (channelId : UInt64) : CStr :=
  if channelId = Channel.channelPublicId then
    ⟨[112, 117, 98, 108, 105, 99, 95, 116, 101, 120, 116], by decide⟩
  else ⟨[99, 104, 97, 110, 110, 101, 108, 95, 116, 101, 120, 116], by decide⟩

def hexDigit (n : Nat) : UInt8 := .ofNat (if n < 10 then 48 + n else 87 + n)

/-- `channel_route_target`: sixteen hexadecimal digits, or the name of the public channel. -/
def channelRouteTarget (channelId : UInt64) : CStr :=
  if channelId = Channel.channelPublicId then ⟨[112, 117, 98, 108, 105, 99], by decide⟩
  else cString ((List.range 16).map fun i => hexDigit (channelId.toNat / 16 ^ (15 - i) % 16))

def channelMessageGenerationReady (node : RxNode) (env : RxEnv) : RxNode × Bool :=
  if node.reconcilePending = false then (node, true)
  else
    let (channels, ret) := channelMessageReconcile node.messages node.channels espOk env.before
    ({ node with channels := channels, reconcilePending := decide (ret ≠ espOk) },
      decide (ret = espOk))

def reconcileChannelMessages (node : RxNode) (env : RxEnv) (messageSeq : Nat) : RxNode :=
  if messageSeq = 0 then node
  else
    let (channels, ret) := channelMessageReconcile node.messages node.channels espOk env.after
    { node with channels := channels, reconcilePending := decide (ret ≠ espOk) }

def authorLen : Nat := 24
def colonByte : UInt8 := 58
def spaceByte : UInt8 := 32

/-- The author and the body of a message, when it has the form of the two. -/
def splitAuthor (message : List UInt8) : Option (List UInt8 × List UInt8) :=
  match message.findIdx? (· == colonByte) with
  | none => none
  | some length =>
    if 0 < length ∧ length < authorLen then
      let after := message.drop (length + 1)
      let after := if after.head? = some spaceByte then after.drop 1 else after
      if after = [] then none else some (message.take length, after)
    else none

def channelFallback : CStr := ⟨[67, 104, 97, 110, 110, 101, 108], by decide⟩

def rxAppendArgs (channelId : UInt64) (author body : CStr) (rssi snrQuarters : Int)
    (pathHashBytes pathHops : Nat) : Message.AppendArgs where
  channelId := channelId
  direction := some Route.rxArg
  author := some author
  text := some body
  rssiDbm := rssi
  snrTenths := (snrQuarters * 10).tdiv 4
  pathHashBytes := pathHashBytes
  pathHops := pathHops
  delivered := true
  persist := true

/-- `append_channel_message_store_rx`: the store up to its flush, and the sequence that was
assigned. -/
def appendChannelMessageStoreRx (m : Message.Store) (channelId : UInt64)
    (channelName message : CStr) (rssi snrQuarters : Int) (pathHashBytes pathHops nowMs : Nat) :
    Message.Store × Nat :=
  let fallback := (sanitizeAscii authorLen
    (if channelName.bytes = [] then channelFallback else channelName)).bytes
  let (author, body) := (splitAuthor message.bytes).getD (fallback, message.bytes)
  if (userTextValidate (some (cString body))).result ≠ .ok then (m, 0)
  else
    let (m', ret) := Message.appendChannel m (rxAppendArgs channelId (cString author) (cString body)
      rssi snrQuarters pathHashBytes pathHops) nowMs
    (m', if ret = espOk then m.history.nextSeq else 0)

section Parse

variable (c : Crypto)

/-- `packet_hash_ready` and a hit in the cache. -/
def packetSeen (node : RxNode) (packet : WirePacket) : Bool :=
  match packetHashCalculate c packet with
  | .ok hash => node.seen.holds hash
  | .error _ => false

def rememberPacket (node : RxNode) (packet : WirePacket) : PacketHashCache :=
  match packetHashCalculate c packet with
  | .ok hash => (node.seen.remember hash).1
  | .error _ => node.seen

/-- `selected_current`: the key under which the packet was opened is still the channel's. -/
def selectedCurrent (s : Channel.ChannelStore) (selected : ProtocolKey) (packet : WirePacket) :
    Bool :=
  match copyProtocolKey s selected.channelId with
  | .ok key =>
    decide (key.channelHash = packet.payloadBytes.getD 0 0) && protocolKeysEqual selected key
  | .error _ => false

/-- The part of `parse_rx_channel_packet` after the plaintext and its channel are settled. -/
def admitChannelText (node : RxNode) (env : RxEnv) (payload : List UInt8) (packet : WirePacket)
    (rssi snr : Int) (channelId : UInt64) (message : CStr) : RxNode :=
  match node.channels.store.entries.find? (fun e => decide (e.channelId = channelId)) with
  | none => node
  | some e =>
    if e.enabled = 0 then node
    else
      if packetSeen c node packet = true then node
      else
        match channelMessageGenerationReady node env with
        | (node, false) =>
          { node with
            status := { node.status with
              reconcileBlocked := u32Succ node.status.reconcileBlocked } }
        | (node, true) =>
          let name := cString e.name.bytes
          let (messages, seq) := appendChannelMessageStoreRx node.messages channelId name message
            rssi snr packet.pathHashBytes packet.pathHops env.nowMs
          let node := reconcileChannelMessages { node with messages := messages } env seq
          if seq = 0 then node
          else
            { node with
              seen := rememberPacket c node packet
              status := { node.status with rxPackets := u32Succ node.status.rxPackets }
              observations := node.observations ++
                [{ target := some (channelRouteTarget channelId), label := some name
                   kind := some (channelPacketKind channelId)
                   route := some (routeName packet.route), direction := some Route.rxArg
                   rssiDbm := rssi, snrTenths := (snr * 10).tdiv 4
                   pathHashBytes := packet.pathHashBytes, pathHops := packet.pathHops
                   payloadLen := payload.length }]
              logged := node.logged ++
                [{ kind := channelPacketKind channelId, rssiDbm := rssi
                   snrTenths := (snr * 10).tdiv 4, pathHashBytes := packet.pathHashBytes
                   pathHops := packet.pathHops, payloadLen := payload.length, raw := payload
                   note := sanitizeAscii _ message }] }

def decryptFailed (node : RxNode) : RxNode :=
  { node with
    status := { node.status with decryptFailed := u32Succ node.status.decryptFailed } }

def hashCollision (node : RxNode) : RxNode :=
  { node with
    status := { node.status with hashCollision := u32Succ node.status.hashCollision } }

def unknownHash (node : RxNode) : RxNode :=
  { node with status := { node.status with unknownHash := u32Succ node.status.unknownHash } }

def openChannelText (node : RxNode) (env : RxEnv) (payload : List UInt8) (packet : WirePacket)
    (rssi snr : Int) (plain : List UInt8) (selected : ProtocolKey) : RxNode :=
  if selectedCurrent node.channels.store selected packet = false ∨
      Channel.channelAvailableInReleaseProfile selected.channelId = false then
    decryptFailed node
  else if plain.length < 6 ∨ (plain.getD 4 0).toNat / 4 ≠ 0 then decryptFailed node
  else
    match textPlaintextView (plain.drop 5) false 0 with
    | none => node
    | some view =>
      admitChannelText c node env payload packet rssi snr selected.channelId (cString view.text)

def parseRxChannelPacket (node : RxNode) (env : RxEnv) (payload : List UInt8) (rssi snr : Int) :
    RxNode :=
  match decodePacketV1 payload with
  | none => node
  | some packet =>
    if packet.type ≠ payloadGroupText ∨ packet.payloadLen < 3 then node
    else
      let candidates := copyRxHashMatches node.channels.store (packet.payloadBytes.getD 0 0)
        Channel.channelStoreCapacity
      match dispatchBegin candidates.length with
      | none => hashCollision node
      | some dispatch =>
        match tryCandidates c (packet.payloadBytes.drop 1) 0 ⟨dispatch, none⟩ candidates with
        | none => hashCollision node
        | some tried =>
          match dispatchFinish tried.dispatch, tried.selected with
          | .accepted, some (plain, selected) =>
            openChannelText c node env payload packet rssi snr plain selected
          | .unknown, _ => unknownHash node
          | .authFailed, _ => decryptFailed node
          | _, _ => hashCollision node

end Parse

end Sigui.ChannelRx

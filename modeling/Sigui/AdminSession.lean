import Sigui.AdminQuery
import Sigui.AdminReplay
import Sigui.AdminReply

/-! The session of a remote console: the record behind the runtime's lock and its operations. -/
namespace Sigui.Admin

inductive Role
  | none
  | repeater
  | room
  deriving DecidableEq

inductive AdminState
  | idle
  | loginPending
  | authenticated
  | statusPending
  | mutationPending
  | cliPending
  | queryPending
  | timedOut
  | rejectedCredentials
  | disconnected
  | unsupportedProtocol
  | radioBusy
  | volatileReplayRejected
  | durableReplayRejected
  | localStorageFailed
  deriving DecidableEq

/-- The states `d1l_meshcore_admin_fail` accepts. -/
def AdminState.failure : AdminState → Bool
  | .timedOut | .rejectedCredentials | .disconnected | .unsupportedProtocol | .radioBusy
  | .volatileReplayRejected | .durableReplayRejected | .localStorageFailed => true
  | _ => false

def AdminState.requestPending : AdminState → Bool
  | .statusPending | .mutationPending | .cliPending | .queryPending => true
  | _ => false

def AdminState.active (state : AdminState) : Bool :=
  decide (state = .authenticated) || state.requestPending

inductive ResponseResult
  | unmatched
  | accepted
  | rejected
  | malformed
  | expired
  | replayed
  deriving DecidableEq

structure Status where
  batteryMillivolts : Nat
  txQueueLength : Nat
  noiseFloorDbm : Int
  lastRssiDbm : Int
  packetsReceived : Nat
  packetsSent : Nat
  txAirTimeSeconds : Nat
  uptimeSeconds : Nat
  sentFlood : Nat
  sentDirect : Nat
  receivedFlood : Nat
  receivedDirect : Nat
  errorFlags : Nat
  lastSnrQuarterDb : Int
  directDuplicates : Nat
  floodDuplicates : Nat
  rxAirTimeSeconds : Nat
  receiveErrors : Nat
  postsCreated : Nat
  postsPushed : Nat

def Status.zero : Status := ⟨0, 0, 0, 0, 0, 0, 0, 0, 0, 0, 0, 0, 0, 0, 0, 0, 0, 0, 0, 0⟩

def maxCliReplyBytes : Nat := 160

structure Session where
  state : AdminState
  role : Role
  generation : Nat
  peerPublicKey : Key
  localPublicKey : Key
  sessionSecret : Key
  permissions : UInt8
  firmwareLevel : UInt8
  serverTimestamp : Nat
  pendingTag : Nat
  lastCompletedTag : Nat
  pendingMutation : Mutation
  lastMutation : Mutation
  pendingQuery : Query
  pendingQueryOffset : Nat
  lastMutationSuccess : Bool
  pendingCliSensitive : Bool
  pendingCliReadOnly : Bool
  pendingCliReplyProfile : CliReplyProfile
  cliReplyValid : Bool
  cliReplyRedacted : Bool
  cliReplySuccess : Bool
  cliReply : CharArray (maxCliReplyBytes + 1)
  requestDeadlineUs : Nat
  idleTimeoutUs : Nat
  idleDeadlineUs : Nat
  absoluteTimeoutUs : Nat
  absoluteDeadlineUs : Nat
  statusValid : Bool
  status : Status
  queryResult : QueryResult

def Session.zero (state : AdminState) (role : Role) (generation : Nat) : Session where
  state := state
  role := role
  generation := generation
  peerPublicKey := zeroKey
  localPublicKey := zeroKey
  sessionSecret := zeroKey
  permissions := 0
  firmwareLevel := 0
  serverTimestamp := 0
  pendingTag := 0
  lastCompletedTag := 0
  pendingMutation := .none
  lastMutation := .none
  pendingQuery := .none
  pendingQueryOffset := 0
  lastMutationSuccess := false
  pendingCliSensitive := false
  pendingCliReadOnly := false
  pendingCliReplyProfile := .default
  cliReplyValid := false
  cliReplyRedacted := false
  cliReplySuccess := false
  cliReply := .empty
  requestDeadlineUs := 0
  idleTimeoutUs := 0
  idleDeadlineUs := 0
  absoluteTimeoutUs := 0
  absoluteDeadlineUs := 0
  statusValid := false
  status := .zero
  queryResult := .zero

def uint64Max : Nat := 0xFFFFFFFFFFFFFFFF

def deadlineAfter (nowUs timeoutUs : Nat) : Nat :=
  if uint64Max - timeoutUs < nowUs then uint64Max else nowUs + timeoutUs

def deadlineDue (deadlineUs nowUs : Nat) : Bool :=
  decide (deadlineUs ≠ 0) && decide (deadlineUs ≤ nowUs)

def authenticatedDeadlineDue (s : Session) (nowUs : Nat) : Bool :=
  deadlineDue s.idleDeadlineUs nowUs || deadlineDue s.absoluteDeadlineUs nowUs

def refreshIdleDeadline (s : Session) (nowUs : Nat) : Session :=
  { s with idleDeadlineUs := min (deadlineAfter nowUs s.idleTimeoutUs) s.absoluteDeadlineUs }

def nextGeneration (current : Nat) : Nat := if current = uint32Max then 1 else current + 1

/-- `d1l_meshcore_admin_reset` -/
def reset (s : Session) : Session := .zero .idle .none (nextGeneration s.generation)

/-- What `d1l_meshcore_admin_fail` leaves behind. -/
def failed (s : Session) (failureState : AdminState) : Session :=
  .zero failureState s.role (nextGeneration s.generation)

/-- `d1l_meshcore_admin_fail` -/
def fail (s : Session) (failureState : AdminState) : Bool × Session :=
  if failureState.failure then (true, failed s failureState) else (false, s)

/-- `d1l_meshcore_admin_timeout` -/
def timeout (s : Session) : Session := failed s .timedOut

/-- The arguments of `d1l_meshcore_admin_begin_login`; null pointers are `none`. -/
structure LoginArgs where
  role : Role
  peerPublicKey : Option Key
  localPublicKey : Option Key
  sessionSecret : Option Key
  requestDeadlineUs : Nat
  idleTimeoutUs : Nat
  absoluteTimeoutUs : Nat

def LoginArgs.valid (args : LoginArgs) : Bool :=
  args.peerPublicKey.isSome && args.localPublicKey.isSome && args.sessionSecret.isSome &&
    decide (args.requestDeadlineUs ≠ 0) && decide (args.idleTimeoutUs ≠ 0) &&
    decide (args.absoluteTimeoutUs ≠ 0) &&
    decide (args.idleTimeoutUs ≤ args.absoluteTimeoutUs) && decide (args.role ≠ .none)

def LoginArgs.session (args : LoginArgs) (generation : Nat) : Session :=
  { Session.zero .loginPending args.role generation with
    peerPublicKey := args.peerPublicKey.getD zeroKey
    localPublicKey := args.localPublicKey.getD zeroKey
    sessionSecret := args.sessionSecret.getD zeroKey
    requestDeadlineUs := args.requestDeadlineUs
    idleTimeoutUs := args.idleTimeoutUs
    absoluteTimeoutUs := args.absoluteTimeoutUs }

/-- `d1l_meshcore_admin_begin_login` -/
def beginLogin (s : Session) (args : LoginArgs) : Bool × Session :=
  if args.valid && (decide (s.state = .idle) || s.state.failure) then
    (true, args.session (nextGeneration s.generation))
  else (false, s)

/-- `d1l_meshcore_admin_peer_matches` -/
def peerMatches (s : Session) (peer : Option Key) : Bool := decide (peer = some s.peerPublicKey)

/-- `d1l_meshcore_admin_note_authenticated_activity` -/
def noteAuthenticatedActivity (s : Session) (nowUs : Nat) : Bool × Session :=
  if s.state.active then
    if authenticatedDeadlineDue s nowUs then (false, timeout s)
    else (true, refreshIdleDeadline s nowUs)
  else (false, s)

/-- `d1l_meshcore_admin_expire_if_due` -/
def expireIfDue (s : Session) (nowUs : Nat) : Bool × Session :=
  let due :=
    if s.state = .loginPending then deadlineDue s.requestDeadlineUs nowUs
    else if s.state = .authenticated then authenticatedDeadlineDue s nowUs
    else if s.state.requestPending then
      authenticatedDeadlineDue s nowUs || deadlineDue s.requestDeadlineUs nowUs
    else false
  if due then (true, timeout s) else (false, s)

def expectedLegacyRole (role : Role) (permissions : UInt8) : UInt8 :=
  if permissions &&& permissionRoleMask = permissionAdmin then 1
  else if role = .room ∧ permissions &&& permissionRoleMask = permissionGuest then 2
  else 0

def expectedLoginFirmware (role : Role) : UInt8 := if role = .repeater then 2 else 1

def authenticate (s : Session) (plaintext : List UInt8) (nowUs : Nat) : Session :=
  { refreshIdleDeadline
      { s with
        serverTimestamp := readLe32 plaintext 0
        permissions := plaintext.getD 7 0
        firmwareLevel := plaintext.getD 12 0
        requestDeadlineUs := 0
        absoluteDeadlineUs := deadlineAfter nowUs s.absoluteTimeoutUs } nowUs with
    state := .authenticated
    generation := nextGeneration s.generation }

/-- `d1l_meshcore_admin_accept_login_response` -/
def acceptLoginResponse (s : Session) (cache : ReplayCache) (peer : Option Key)
    (plaintext : Option (List UInt8)) (nowUs : Nat) : ResponseResult × Session × ReplayCache :=
  if s.state = .loginPending ∧ peerMatches s peer = true then
    if deadlineDue s.requestDeadlineUs nowUs then (.expired, timeout s, cache)
    else if canonicalSpan plaintext loginResponseBytes then
      let bytes := plaintext.getD []
      if bytes.getD 4 0 ≠ 0 then (.rejected, failed s .rejectedCredentials, cache)
      else if bytes.getD 5 0 ≠ 0 ∨ bytes.getD 6 0 ≠ expectedLegacyRole s.role (bytes.getD 7 0) ∨
          bytes.getD 12 0 ≠ expectedLoginFirmware s.role then
        (.malformed, failed s .unsupportedProtocol, cache)
      else if readLe32 bytes 0 = 0 then (.malformed, failed s .unsupportedProtocol, cache)
      else if replayCacheContains cache s.peerPublicKey (loginResponse bytes) (readLe32 bytes 0) then
        (.replayed, failed s .volatileReplayRejected, cache)
      else
        (.accepted, authenticate s bytes nowUs,
          replayCacheRemember cache s.peerPublicKey (loginResponse bytes) (readLe32 bytes 0))
    else (.malformed, failed s .unsupportedProtocol, cache)
  else (.unmatched, s, cache)

def beginRequest (s : Session) (admissible : Bool) (nowUs : Nat) (pend : Session → Session) :
    Bool × Session :=
  if admissible then
    if authenticatedDeadlineDue s nowUs then (false, timeout s)
    else (true, { pend s with generation := nextGeneration s.generation })
  else (false, s)

def requestAdmissible (s : Session) (tag requestDeadlineUs : Nat) : Bool :=
  decide (s.state = .authenticated) && decide (tag ≠ 0) && decide (requestDeadlineUs ≠ 0) &&
    decide (tag ≠ s.lastCompletedTag)

def queryAllowed (role : Role) (permissions : UInt8) (query : Query) : Bool :=
  decide (role ≠ .none) &&
    match query with
    | .telemetry => true
    | .accessList => decide (permissions &&& permissionRoleMask = permissionAdmin)
    | .neighbours => decide (role = .repeater)
    | .none => false

def expectedFirmware : Role → UInt8
  | .repeater => 2
  | .room => 1
  | .none => 0

/-- Mutations and CLI commands are for an administrator of a known firmware. -/
def administers (s : Session) : Bool :=
  decide (s.permissions &&& permissionAdmin = permissionAdmin) &&
    decide (expectedFirmware s.role ≠ 0) && decide (s.firmwareLevel = expectedFirmware s.role)

/-- `d1l_meshcore_admin_begin_status_request` -/
def beginStatusRequest (s : Session) (tag nowUs requestDeadlineUs : Nat) : Bool × Session :=
  beginRequest s (requestAdmissible s tag requestDeadlineUs) nowUs fun s =>
    { s with
      pendingTag := tag
      requestDeadlineUs := requestDeadlineUs
      state := .statusPending }

/-- `d1l_meshcore_admin_begin_query_request` -/
def beginQueryRequest (s : Session) (query : Query) (offset tag nowUs requestDeadlineUs : Nat) :
    Bool × Session :=
  beginRequest s
    (requestAdmissible s tag requestDeadlineUs && queryAllowed s.role s.permissions query &&
      (decide (query = .neighbours) || decide (offset = 0))) nowUs fun s =>
    { s with
      pendingTag := tag
      pendingQuery := query
      pendingQueryOffset := offset
      requestDeadlineUs := requestDeadlineUs
      state := .queryPending }

/-- `d1l_meshcore_admin_begin_mutation` -/
def beginMutation (s : Session) (mutation : Mutation) (tag nowUs requestDeadlineUs : Nat) :
    Bool × Session :=
  beginRequest s
    (requestAdmissible s tag requestDeadlineUs && (mutationCommand mutation).isSome &&
      administers s) nowUs fun s =>
    { s with
      pendingTag := tag
      pendingMutation := mutation
      requestDeadlineUs := requestDeadlineUs
      state := .mutationPending }

/-- `d1l_meshcore_admin_begin_cli_command`; it also drops the reply of the last command. A reply
profile past the last one is `none`. -/
def beginCliCommand (s : Session) (tag : Nat) (sensitive readOnly : Bool)
    (replyProfile : Option CliReplyProfile) (nowUs requestDeadlineUs : Nat) : Bool × Session :=
  beginRequest s
    (requestAdmissible s tag requestDeadlineUs && administers s && replyProfile.isSome) nowUs
    fun s => { s with
      pendingTag := tag
      pendingCliSensitive := sensitive
      pendingCliReadOnly := readOnly
      pendingCliReplyProfile := replyProfile.getD .default
      requestDeadlineUs := requestDeadlineUs
      cliReplyValid := false
      cliReplyRedacted := false
      cliReplySuccess := false
      cliReply := .empty
      state := .cliPending }

/-- The pending fields of every kind at rest, the session authenticated again. -/
def settle (s : Session) : Session :=
  { s with
    pendingTag := 0
    requestDeadlineUs := 0
    state := .authenticated
    generation := nextGeneration s.generation }

/-- `d1l_meshcore_admin_cancel_status_request` -/
def cancelStatusRequest (s : Session) (tag : Nat) : Bool × Session :=
  if s.state = .statusPending ∧ s.pendingTag = tag then (true, settle s) else (false, s)

/-- `d1l_meshcore_admin_cancel_query_request` -/
def cancelQueryRequest (s : Session) (query : Query) (tag : Nat) : Bool × Session :=
  if s.state = .queryPending ∧ s.pendingQuery = query ∧ s.pendingTag = tag then
    (true, settle { s with pendingQuery := .none, pendingQueryOffset := 0 })
  else (false, s)

/-- `d1l_meshcore_admin_cancel_mutation` -/
def cancelMutation (s : Session) (mutation : Mutation) (tag : Nat) : Bool × Session :=
  if s.state = .mutationPending ∧ s.pendingMutation = mutation ∧ s.pendingTag = tag then
    (true, settle { s with pendingMutation := .none })
  else (false, s)

def clearCli (s : Session) : Session :=
  { s with
    pendingCliSensitive := false
    pendingCliReadOnly := false
    pendingCliReplyProfile := .default }

/-- `d1l_meshcore_admin_cancel_cli_command` -/
def cancelCliCommand (s : Session) (tag : Nat) : Bool × Session :=
  if s.state = .cliPending ∧ s.pendingTag = tag then (true, settle (clearCli s)) else (false, s)

/-- What the four accept operations ask before they look at the response; `read` is what the
operation makes of it. -/
def acceptResponse (s : Session) (pending : AdminState) (peer : Option Key) (nowUs : Nat)
    (read : ResponseResult × Session) : ResponseResult × Session :=
  if s.state = pending ∧ peerMatches s peer = true then
    if authenticatedDeadlineDue s nowUs || deadlineDue s.requestDeadlineUs nowUs then
      (.expired, timeout s)
    else read
  else (.unmatched, s)

/-- The pending request is over; `s` has its result. -/
def complete (s : Session) (tag nowUs : Nat) : Session :=
  settle (refreshIdleDeadline { s with lastCompletedTag := tag } nowUs)

def cliReplyText (sensitive : Bool) (text : List UInt8) : List UInt8 :=
  if sensitive then ascii "[sensitive response hidden]" else text

/-- A text copied into a `char[n + 1]` and terminated. -/
def terminatedCopy (n : Nat) (text : List UInt8) : CharArray (n + 1) where
  bytes := (text.takeWhile (· != 0)).take n
  length_le := (List.length_take_le _ _).trans (Nat.le_succ n)
  no_nul h := by
    have hne := List.mem_takeWhile_imp (List.mem_of_mem_take h)
    cases hne

def replyReadable (s : Session) (responseTimestamp : Nat) (text : Option (List UInt8))
    (maxBytes : Nat) (byteValid : UInt8 → Bool) : Bool :=
  match text with
  | none => false
  | some bytes =>
    decide (0 < bytes.length) && decide (bytes.length ≤ maxBytes) &&
      decide (responseTimestamp ≠ 0) && decide (s.serverTimestamp < responseTimestamp) &&
      bytes.all byteValid

def takeCli (s : Session) (responseTimestamp : Nat) (text : Option (List UInt8)) (nowUs : Nat) :
    ResponseResult × Session :=
  if replyReadable s responseTimestamp text maxCliReplyBytes cliReplyByteValid then
    let bytes := text.getD []
    let rejected := cliReplyIsError bytes s.pendingCliSensitive s.pendingCliReadOnly
      s.pendingCliReplyProfile
    (if rejected then .rejected else .accepted,
      complete (clearCli { s with
        cliReply := terminatedCopy maxCliReplyBytes (cliReplyText s.pendingCliSensitive bytes)
        cliReplyRedacted := s.pendingCliSensitive
        cliReplyValid := true
        cliReplySuccess := !rejected
        serverTimestamp := responseTimestamp }) s.pendingTag nowUs)
  else (.malformed, s)

/-- `d1l_meshcore_admin_accept_cli_response` -/
def acceptCliResponse (s : Session) (peer : Option Key) (responseTimestamp : Nat)
    (text : Option (List UInt8)) (nowUs : Nat) : ResponseResult × Session :=
  acceptResponse s .cliPending peer nowUs (takeCli s responseTimestamp text nowUs)

def mutationReplyMaxBytes : Nat := 64

def printable (value : UInt8) : Bool := decide (0x20 ≤ value.toNat ∧ value.toNat ≤ 0x7E)

def takeMutation (s : Session) (responseTimestamp : Nat) (text : Option (List UInt8))
    (nowUs : Nat) : ResponseResult × Session :=
  if replyReadable s responseTimestamp text mutationReplyMaxBytes printable then
    let bytes := text.getD []
    let success := decide (mutationSuccessReply s.pendingMutation = some bytes)
    if !success && !mutationErrorReply bytes then (.unmatched, s)
    else
      (if success then .accepted else .rejected,
        complete { s with
          serverTimestamp := responseTimestamp
          lastMutation := s.pendingMutation
          lastMutationSuccess := success
          pendingMutation := .none } s.pendingTag nowUs)
  else (.malformed, s)

/-- `d1l_meshcore_admin_accept_mutation_response` -/
def acceptMutationResponse (s : Session) (peer : Option Key) (responseTimestamp : Nat)
    (text : Option (List UInt8)) (nowUs : Nat) : ResponseResult × Session :=
  acceptResponse s .mutationPending peer nowUs (takeMutation s responseTimestamp text nowUs)

/-- `d1l_meshcore_admin_status_logical_size` -/
def statusLogicalSize : Role → Nat
  | .repeater => 60
  | .room => 56
  | .none => 0

/-- The fields of a status response, in the order of the bytes after the tag. -/
def readStatus (role : Role) (bytes : List UInt8) : Status where
  batteryMillivolts := readLe16 bytes 4
  txQueueLength := readLe16 bytes 6
  noiseFloorDbm := readLeI16 bytes 8
  lastRssiDbm := readLeI16 bytes 10
  packetsReceived := readLe32 bytes 12
  packetsSent := readLe32 bytes 16
  txAirTimeSeconds := readLe32 bytes 20
  uptimeSeconds := readLe32 bytes 24
  sentFlood := readLe32 bytes 28
  sentDirect := readLe32 bytes 32
  receivedFlood := readLe32 bytes 36
  receivedDirect := readLe32 bytes 40
  errorFlags := readLe16 bytes 44
  lastSnrQuarterDb := readLeI16 bytes 46
  directDuplicates := readLe16 bytes 48
  floodDuplicates := readLe16 bytes 50
  rxAirTimeSeconds := if role = .repeater then readLe32 bytes 52 else 0
  receiveErrors := if role = .repeater then readLe32 bytes 56 else 0
  postsCreated := if role = .repeater then 0 else readLe16 bytes 52
  postsPushed := if role = .repeater then 0 else readLe16 bytes 54

def answersTag (s : Session) (tag : Nat) : Bool :=
  decide (tag = s.pendingTag) && decide (tag ≠ s.lastCompletedTag)

def takeStatus (s : Session) (plaintext : Option (List UInt8)) (nowUs : Nat) :
    ResponseResult × Session :=
  if statusLogicalSize s.role ≠ 0 ∧
      canonicalSpan plaintext (statusLogicalSize s.role) = true then
    let bytes := plaintext.getD []
    let tag := readLe32 bytes 0
    if answersTag s tag then
      (.accepted,
        complete { s with status := readStatus s.role bytes, statusValid := true } tag nowUs)
    else (.unmatched, s)
  else (.malformed, s)

/-- `d1l_meshcore_admin_accept_status_response` -/
def acceptStatusResponse (s : Session) (peer : Option Key) (plaintext : Option (List UInt8))
    (nowUs : Nat) : ResponseResult × Session :=
  acceptResponse s .statusPending peer nowUs (takeStatus s plaintext nowUs)

def takeQuery (s : Session) (plaintext : Option (List UInt8)) (nowUs : Nat) :
    ResponseResult × Session :=
  match plaintext with
  | none => (.malformed, s)
  | some bytes =>
    if bytes.length < 4 then (.malformed, s)
    else
      let tag := readLe32 bytes 0
      if answersTag s tag then
        match parseQuery s.pendingQuery s.pendingQueryOffset bytes with
        | none => (.malformed, s)
        | some parsed =>
          (.accepted,
            complete { s with
              queryResult := parsed
              pendingQuery := .none
              pendingQueryOffset := 0 } tag nowUs)
      else (.unmatched, s)

/-- `d1l_meshcore_admin_accept_query_response` -/
def acceptQueryResponse (s : Session) (peer : Option Key) (plaintext : Option (List UInt8))
    (nowUs : Nat) : ResponseResult × Session :=
  acceptResponse s .queryPending peer nowUs (takeQuery s plaintext nowUs)

end Sigui.Admin

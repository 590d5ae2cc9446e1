import Sigui.AdminSession

/-! The runtime around the admin session: the binding of each call, the counters, and the replay
record in flash. -/
namespace Sigui.Admin

def espErrInvalidResponse : EspErr := 0x108
def espErrNotAllowed : EspErr := 0x10D
def espErrNvsNotFound : EspErr := 0x1102
def espErrNvsInvalidLength : EspErr := 0x110C

def fingerprintSize : Nat := 17

structure Metrics where
  loginTxQueued : Nat
  statusTxQueued : Nat
  queryTxQueued : Nat
  queryAccepted : Nat
  queryRejected : Nat
  mutationTxQueued : Nat
  mutationAccepted : Nat
  mutationRejected : Nat
  cliTxQueued : Nat
  cliAccepted : Nat
  cliRejected : Nat
  responseAccepted : Nat
  responseUnmatched : Nat
  responseMalformed : Nat
  responseExpired : Nat
  responseReplayed : Nat
  lastError : EspErr

def Metrics.zero : Metrics := ⟨0, 0, 0, 0, 0, 0, 0, 0, 0, 0, 0, 0, 0, 0, 0, 0, espOk⟩

structure Binding where
  fingerprint : CharArray fingerprintSize
  role : Role
  peerPublicKey : Key
  localPublicKey : Key
  sessionSecret : Key

structure Runtime where
  session : Session
  replayCache : ReplayCache
  fingerprint : CharArray fingerprintSize
  metrics : Metrics

/-- `d1l_meshcore_admin_runtime_init` -/
def Runtime.init : Runtime :=
  ⟨reset (.zero .idle .none 0), .cleared, .empty, .zero⟩

structure DurableRecord where
  magic : Nat
  version : Nat
  peerPublicKey : Key
  highestServerTimestamp : Nat
  lastResponse : LoginResponse

/-- A stored blob; a record of another size reads as garbage that the size check refuses. -/
structure NvsBlob where
  size : Nat
  record : DurableRecord

abbrev Nvs := List UInt8 → Option NvsBlob

def replayMagic : Nat := 0x41444D52
def replayVersion : Nat := 1
def durableRecordBytes : Nat := 60

/-- What the flash driver answers during one commit. A read either fails for a reason of its own or
finds the last record; `kept` says whether a write that failed to commit survives. -/
structure NvsAnswers where
  openRet : EspErr
  getRet : Option { e : EspErr // e ≠ espOk ∧ e ≠ espErrNvsNotFound }
  setRet : EspErr
  commitRet : EspErr
  kept : Bool

def hexByteLower (n : Nat) : List UInt8 :=
  [n / 16, n % 16].map fun d => UInt8.ofNat (if d < 10 then 48 + d else 87 + d)

def durableReplayKey (peer : Key) : List UInt8 :=
  ascii "p" ++ ((peer.toList.take 7).map fun b => hexByteLower b.toNat).flatten

def durableRecord (peer : Key) (response : LoginResponse) (serverTimestamp : Nat) : NvsBlob :=
  ⟨durableRecordBytes, replayMagic, replayVersion, peer, serverTimestamp, response⟩

def durableCheck (nvs : Nvs) (answers : NvsAnswers) (peer : Key) (serverTimestamp : Nat) :
    EspErr :=
  match answers.getRet with
  | some e => e
  | none =>
    match nvs (durableReplayKey peer) with
    | none => espOk
    | some blob =>
      if durableRecordBytes < blob.size then espErrNvsInvalidLength
      else if blob.size ≠ durableRecordBytes ∨ blob.record.magic ≠ replayMagic ∨
          blob.record.version ≠ replayVersion ∨ blob.record.peerPublicKey ≠ peer then
        espErrInvalidState
      else if serverTimestamp ≤ blob.record.highestServerTimestamp then espErrInvalidResponse
      else espOk

def durableReplayCommit (nvs : Nvs) (answers : NvsAnswers) (peer : Key) (response : LoginResponse)
    (serverTimestamp : Nat) : EspErr × Nvs :=
  let written := Function.update nvs (durableReplayKey peer)
    (some (durableRecord peer response serverTimestamp))
  if serverTimestamp = 0 then (espErrInvalidArg, nvs)
  else if answers.openRet ≠ espOk then (answers.openRet, nvs)
  else if durableCheck nvs answers peer serverTimestamp ≠ espOk then
    (durableCheck nvs answers peer serverTimestamp, nvs)
  else if answers.setRet ≠ espOk then (answers.setRet, nvs)
  else if answers.commitRet ≠ espOk then
    (answers.commitRet, if answers.kept then written else nvs)
  else (espOk, written)

def loginTimeoutUs : Nat := 60000000
def requestTimeoutUs : Nat := 60000000
def runtimeIdleTimeoutUs : Nat := 300000000
def runtimeAbsoluteTimeoutUs : Nat := 1800000000

def failureStateForError (reason : EspErr) : AdminState :=
  if reason = espErrTimeout then .radioBusy
  else if reason = espErrNotSupported then .unsupportedProtocol
  else if reason = espErrNotAllowed then .rejectedCredentials
  else .disconnected

def Runtime.setError (r : Runtime) (reason : EspErr) : Runtime :=
  { r with metrics := { r.metrics with lastError := reason } }

/-- `fail_session_locked` -/
def failSession (r : Runtime) (failureState : AdminState) (reason : EspErr) : Runtime :=
  { r with session := (fail r.session failureState).2 }.setError reason

/-- `response_expired++` and its error. -/
def noteExpired (r : Runtime) : Runtime :=
  { r with
    metrics := { r.metrics with
      responseExpired := u32Succ r.metrics.responseExpired
      lastError := espErrTimeout } }

/-- `d1l_meshcore_admin_binding_matches` -/
def sessionBindingMatches (s : Session) (binding : Binding) : Bool :=
  decide (binding.role = s.role) && decide (binding.role ≠ .none) &&
    decide (s.peerPublicKey = binding.peerPublicKey) &&
    decide (s.localPublicKey = binding.localPublicKey) &&
    decide (s.sessionSecret = binding.sessionSecret)

def sameFingerprint (r : Runtime) (binding : Binding) : Bool :=
  decide (r.fingerprint = binding.fingerprint)

/-- `binding_matches_locked` -/
def bindingMatches (r : Runtime) : Option Binding → Bool
  | none => false
  | some binding => sameFingerprint r binding && sessionBindingMatches r.session binding

/-- `note_response_locked` -/
def noteResponse (r : Runtime) (result : ResponseResult) : Runtime :=
  { r with
    metrics :=
      match result with
      | .accepted =>
        { r.metrics with
          responseAccepted := u32Succ r.metrics.responseAccepted, lastError := espOk }
      | .rejected => { r.metrics with lastError := espErrInvalidResponse }
      | .unmatched =>
        { r.metrics with responseUnmatched := u32Succ r.metrics.responseUnmatched }
      | .malformed =>
        { r.metrics with
          responseMalformed := u32Succ r.metrics.responseMalformed
          lastError := espErrInvalidResponse }
      | .expired =>
        { r.metrics with
          responseExpired := u32Succ r.metrics.responseExpired, lastError := espErrTimeout }
      | .replayed =>
        { r.metrics with
          responseReplayed := u32Succ r.metrics.responseReplayed
          lastError := espErrInvalidResponse } }

/-- A `char[n]` copied through `snprintf`. -/
def copyFingerprint (text : CharArray fingerprintSize) : CharArray fingerprintSize where
  bytes := text.bytes.take (fingerprintSize - 1)
  length_le := (List.length_take_le _ _).trans (Nat.sub_le _ _)
  no_nul h := text.no_nul (List.mem_of_mem_take h)

def Binding.loginArgs (binding : Binding) (nowUs : Nat) : LoginArgs where
  role := binding.role
  peerPublicKey := some binding.peerPublicKey
  localPublicKey := some binding.localPublicKey
  sessionSecret := some binding.sessionSecret
  requestDeadlineUs := deadlineAfter nowUs loginTimeoutUs
  idleTimeoutUs := runtimeIdleTimeoutUs
  absoluteTimeoutUs := runtimeAbsoluteTimeoutUs

/-- `d1l_meshcore_admin_runtime_begin_login`; `wanted` says that there is a place for the
generation. -/
def runtimeBeginLogin (r : Runtime) (binding : Option Binding) (nowUs : Nat) (wanted : Bool) :
    Bool × Runtime :=
  match binding with
  | none => (false, r)
  | some binding =>
    if wanted = false ∨ binding.fingerprint.bytes = [] then (false, r)
    else
      let (began, session) := beginLogin r.session (binding.loginArgs nowUs)
      if began then
        (true,
          { r with
            session := session
            fingerprint := copyFingerprint binding.fingerprint }.setError espOk)
      else (false, { r with session := session })

/-- The five transmit notes: the attempt of that generation fails with its transmission. `count`
is the counter of a queued one. -/
def noteTx (r : Runtime) (generation : Nat) (result : EspErr) (applies : Bool)
    (count : Metrics → Metrics) : Runtime :=
  if result = espOk then { r with metrics := count r.metrics }
  else if r.session.generation = generation ∧ applies = true then
    (failSession r (failureStateForError result) result).setError result
  else r.setError result

/-- `d1l_meshcore_admin_runtime_note_login_tx` -/
def noteLoginTx (r : Runtime) (generation : Nat) (result : EspErr) : Runtime :=
  noteTx r generation result (decide (r.session.state = .loginPending)) fun m =>
    { m with loginTxQueued := u32Succ m.loginTxQueued }

/-- `d1l_meshcore_admin_runtime_note_status_tx`; the tag is not looked at. -/
def noteStatusTx (r : Runtime) (generation _tag : Nat) (result : EspErr) : Runtime :=
  noteTx r generation result true fun m => { m with statusTxQueued := u32Succ m.statusTxQueued }

/-- `d1l_meshcore_admin_runtime_note_query_tx` -/
def noteQueryTx (r : Runtime) (generation : Nat) (_query : Query) (_tag : Nat) (result : EspErr) :
    Runtime :=
  noteTx r generation result true fun m => { m with queryTxQueued := u32Succ m.queryTxQueued }

/-- `d1l_meshcore_admin_runtime_note_mutation_tx` -/
def noteMutationTx (r : Runtime) (generation : Nat) (_mutation : Mutation) (_tag : Nat)
    (result : EspErr) : Runtime :=
  noteTx r generation result true fun m =>
    { m with mutationTxQueued := u32Succ m.mutationTxQueued }

/-- `d1l_meshcore_admin_runtime_note_cli_tx` -/
def noteCliTx (r : Runtime) (generation _tag : Nat) (result : EspErr) : Runtime :=
  noteTx r generation result true fun m => { m with cliTxQueued := u32Succ m.cliTxQueued }

/-- `d1l_meshcore_admin_runtime_validate_binding` -/
def validateBinding (r : Runtime) (binding : Option Binding) (generation : Nat) :
    Bool × Runtime :=
  if r.session.generation = generation then
    if bindingMatches r binding then (true, r)
    else (false, failSession r .disconnected espErrInvalidState)
  else (false, r)

/-- `d1l_meshcore_admin_runtime_note_room_activity` -/
def noteRoomActivity (r : Runtime) (binding : Option Binding) (generation nowUs : Nat) :
    Bool × Runtime :=
  if r.session.state.active = true ∧ r.session.role = .room ∧
      r.session.generation = generation ∧ bindingMatches r binding = true then
    let (noted, session) := noteAuthenticatedActivity r.session nowUs
    if noted then (true, { r with session := session })
    else (false, noteExpired { r with session := session })
  else (false, r)

/-- The four runtime begins; `begin` is the operation on the session. -/
def runtimeBegin (r : Runtime) (binding : Option Binding) (generation : Nat) (wanted : Bool)
    (begin : Session → Bool × Session) : Bool × Runtime :=
  if wanted then
    let (began, r) :=
      if r.session.generation = generation then
        if bindingMatches r binding then
          ((begin r.session).1, { r with session := (begin r.session).2 })
        else (false, failSession r .disconnected espErrInvalidState)
      else (false, r)
    if began then (true, r.setError espOk)
    else if r.session.state = .timedOut then (false, noteExpired r)
    else (false, r)
  else (false, r)

/-- `d1l_meshcore_admin_runtime_begin_status` -/
def runtimeBeginStatus (r : Runtime) (binding : Option Binding) (generation tag nowUs : Nat)
    (wanted : Bool) : Bool × Runtime :=
  runtimeBegin r binding generation wanted fun s =>
    beginStatusRequest s tag nowUs (deadlineAfter nowUs requestTimeoutUs)

/-- `d1l_meshcore_admin_runtime_begin_query` -/
def runtimeBeginQuery (r : Runtime) (binding : Option Binding) (generation : Nat) (query : Query)
    (offset tag nowUs : Nat) (wanted : Bool) : Bool × Runtime :=
  runtimeBegin r binding generation wanted fun s =>
    beginQueryRequest s query offset tag nowUs (deadlineAfter nowUs requestTimeoutUs)

/-- `d1l_meshcore_admin_runtime_begin_mutation` -/
def runtimeBeginMutation (r : Runtime) (binding : Option Binding) (generation : Nat)
    (mutation : Mutation) (tag nowUs : Nat) (wanted : Bool) : Bool × Runtime :=
  runtimeBegin r binding generation wanted fun s =>
    beginMutation s mutation tag nowUs (deadlineAfter nowUs requestTimeoutUs)

/-- `d1l_meshcore_admin_runtime_begin_cli` -/
def runtimeBeginCli (r : Runtime) (binding : Option Binding) (generation tag : Nat)
    (sensitive readOnly : Bool) (replyProfile : Option CliReplyProfile) (nowUs : Nat)
    (wanted : Bool) : Bool × Runtime :=
  runtimeBegin r binding generation wanted fun s =>
    beginCliCommand s tag sensitive readOnly replyProfile nowUs
      (deadlineAfter nowUs requestTimeoutUs)

def failMalformed (r : Runtime) (result : ResponseResult) : Runtime :=
  if result = .malformed ∧ r.session.state ≠ .unsupportedProtocol then
    failSession r .unsupportedProtocol espErrInvalidResponse
  else r

/-- The two text responses; `considered` tells the caller that the attempt was this one. -/
def dispatchText (r : Runtime) (pending : AdminState) (binding : Option Binding)
    (generation : Nat) (text : Option (List UInt8))
    (accept : Session → Option Key → ResponseResult × Session)
    (count : ResponseResult → Metrics → Metrics) : ResponseResult × Bool × Runtime :=
  match binding, text with
  | some binding, some _ =>
    if r.session.state = pending ∧ r.session.generation = generation ∧
        sameFingerprint r binding = true then
      if bindingMatches r (some binding) then
        let (result, session) := accept r.session (some binding.peerPublicKey)
        let r := failMalformed { r with session := session } result
        (result, true, noteResponse { r with metrics := count result r.metrics } result)
      else (.unmatched, true, failSession r .disconnected espErrInvalidState)
    else (.unmatched, false, r)
  | _, _ => (.unmatched, false, r)

/-- `d1l_meshcore_admin_runtime_dispatch_mutation_response` -/
def dispatchMutationResponse (r : Runtime) (binding : Option Binding)
    (generation responseTimestamp : Nat) (text : Option (List UInt8)) (nowUs : Nat) :
    ResponseResult × Bool × Runtime :=
  dispatchText r .mutationPending binding generation text
    (fun s peer => acceptMutationResponse s peer responseTimestamp text nowUs) fun result m =>
      match result with
      | .accepted => { m with mutationAccepted := u32Succ m.mutationAccepted }
      | .rejected => { m with mutationRejected := u32Succ m.mutationRejected }
      | _ => m

/-- `d1l_meshcore_admin_runtime_dispatch_cli_response` -/
def dispatchCliResponse (r : Runtime) (binding : Option Binding)
    (generation responseTimestamp : Nat) (text : Option (List UInt8)) (nowUs : Nat) :
    ResponseResult × Bool × Runtime :=
  dispatchText r .cliPending binding generation text
    (fun s peer => acceptCliResponse s peer responseTimestamp text nowUs) fun result m =>
      match result with
      | .accepted => { m with cliAccepted := u32Succ m.cliAccepted }
      | .rejected => { m with cliRejected := u32Succ m.cliRejected }
      | _ => m

structure Device where
  runtime : Runtime
  nvs : Nvs

/-- The candidate session is published only once the flash has its timestamp. The second component
is the error of a storage failure. -/
def publishLogin (d : Device) (answers : NvsAnswers) (peer : Key) (response : LoginResponse)
    (candidate : Session) (replay : ReplayCache) : ResponseResult × EspErr × Device :=
  let (durableRet, nvs) :=
    durableReplayCommit d.nvs answers peer response candidate.serverTimestamp
  if durableRet = espOk then
    (.accepted, espOk, ⟨{ d.runtime with session := candidate, replayCache := replay }, nvs⟩)
  else if durableRet = espErrInvalidResponse then
    (.replayed, espOk,
      ⟨failSession d.runtime .durableReplayRejected espErrInvalidResponse, nvs⟩)
  else (.rejected, durableRet, ⟨failSession d.runtime .localStorageFailed durableRet, nvs⟩)

/-- The login branch of the dispatcher works on copies of the session and of the replay cache. -/
def dispatchLogin (d : Device) (answers : NvsAnswers) (peer : Key) (plaintext : List UInt8)
    (nowUs : Nat) : ResponseResult × EspErr × Device :=
  let (result, candidate, replay) :=
    acceptLoginResponse d.runtime.session d.runtime.replayCache (some peer) (some plaintext) nowUs
  if result = .accepted then
    publishLogin d answers peer (loginResponse plaintext) candidate replay
  else
    (result, espOk, { d with
      runtime := { d.runtime with session := candidate, replayCache := replay } })

def AdminState.awaitsResponse (state : AdminState) : Bool :=
  decide (state = .loginPending) || decide (state = .statusPending) ||
    decide (state = .queryPending)

def countQuery (result : ResponseResult) (m : Metrics) : Metrics :=
  if result = .accepted then { m with queryAccepted := u32Succ m.queryAccepted }
  else if result = .unmatched then m
  else { m with queryRejected := u32Succ m.queryRejected }

def dispatchPending (d : Device) (answers : NvsAnswers) (peer : Key) (plaintext : List UInt8)
    (nowUs : Nat) : ResponseResult × EspErr × Device :=
  let s := d.runtime.session
  if s.state = .loginPending then dispatchLogin d answers peer plaintext nowUs
  else
    let (result, session) :=
      if s.state = .statusPending then acceptStatusResponse s (some peer) (some plaintext) nowUs
      else acceptQueryResponse s (some peer) (some plaintext) nowUs
    (result, espOk, { d with runtime := { d.runtime with session := session } })

def finishResponse (r : Runtime) (result : ResponseResult) (queryAttempt : Bool)
    (durableFailure : EspErr) : Runtime :=
  let r := failMalformed r result
  let r := if queryAttempt then { r with metrics := countQuery result r.metrics } else r
  let r := noteResponse r result
  if durableFailure = espOk then r else r.setError durableFailure

/-- `d1l_meshcore_admin_runtime_dispatch_response` -/
def dispatchResponse (d : Device) (answers : NvsAnswers) (binding : Option Binding)
    (generation : Nat) (plaintext : Option (List UInt8)) (nowUs : Nat) :
    ResponseResult × Bool × Device :=
  match binding, plaintext with
  | some binding, some bytes =>
    if d.runtime.session.state.awaitsResponse = true ∧
        d.runtime.session.generation = generation ∧
        sameFingerprint d.runtime binding = true then
      if bindingMatches d.runtime (some binding) then
        let queryAttempt := decide (d.runtime.session.state = .queryPending)
        let (result, durableFailure, d') :=
          dispatchPending d answers binding.peerPublicKey bytes nowUs
        (result, true,
          { d' with runtime := finishResponse d'.runtime result queryAttempt durableFailure })
      else
        (.unmatched, true,
          { d with runtime := failSession d.runtime .disconnected espErrInvalidState })
    else (.unmatched, false, d)
  | _, _ => (.unmatched, false, d)

/-- `d1l_meshcore_admin_runtime_expire` -/
def runtimeExpire (r : Runtime) (nowUs : Nat) : Bool × Runtime :=
  let (expired, session) := expireIfDue r.session nowUs
  if expired then (true, noteExpired { r with session := session })
  else (false, { r with session := session })

/-- `d1l_meshcore_admin_runtime_report_failure` -/
def reportFailure (r : Runtime) (reason : EspErr) : Runtime :=
  if r.session.state ≠ failureStateForError reason ∨ r.metrics.lastError ≠ reason then
    failSession r (failureStateForError reason) reason
  else r

/-- `d1l_meshcore_admin_runtime_invalidate` -/
def invalidate (r : Runtime) (reason : EspErr) : Runtime :=
  if reason = espOk then
    { r with session := reset r.session, fingerprint := .empty }.setError espOk
  else reportFailure r reason

/-- `d1l_meshcore_admin_runtime_logout` -/
def logout (r : Runtime) : Runtime := invalidate r espOk

end Sigui.Admin

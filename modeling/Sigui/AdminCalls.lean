import Sigui.AdminRuntime
import Sigui.AdminSessionInv

/-! The calls into the admin runtime, and everything one of them can do. -/
namespace Sigui.Admin

/-- The calls that can change the session. The captures and the snapshot only read it. -/
inductive RuntimeCall
  | beginLogin (binding : Option Binding) (nowUs : Nat) (wanted : Bool)
  | noteLoginTx (generation : Nat) (result : EspErr)
  | noteStatusTx (generation tag : Nat) (result : EspErr)
  | noteQueryTx (generation : Nat) (query : Query) (tag : Nat) (result : EspErr)
  | noteMutationTx (generation : Nat) (mutation : Mutation) (tag : Nat) (result : EspErr)
  | noteCliTx (generation tag : Nat) (result : EspErr)
  | validateBinding (binding : Option Binding) (generation : Nat)
  | noteRoomActivity (binding : Option Binding) (generation nowUs : Nat)
  | beginStatus (binding : Option Binding) (generation tag nowUs : Nat) (wanted : Bool)
  | beginQuery (binding : Option Binding) (generation : Nat) (query : Query)
    (offset tag nowUs : Nat) (wanted : Bool)
  | beginMutation (binding : Option Binding) (generation : Nat) (mutation : Mutation)
    (tag nowUs : Nat) (wanted : Bool)
  | beginCli (binding : Option Binding) (generation tag : Nat) (sensitive readOnly : Bool)
    (replyProfile : Option CliReplyProfile) (nowUs : Nat) (wanted : Bool)
  | dispatchMutation (binding : Option Binding) (generation responseTimestamp : Nat)
    (text : Option (List UInt8)) (nowUs : Nat)
  | dispatchCli (binding : Option Binding) (generation responseTimestamp : Nat)
    (text : Option (List UInt8)) (nowUs : Nat)
  | dispatch (answers : NvsAnswers) (binding : Option Binding) (generation : Nat)
    (plaintext : Option (List UInt8)) (nowUs : Nat)
  | expire (nowUs : Nat)
  | reportFailure (reason : EspErr)
  | invalidate (reason : EspErr)
  | logout

def RuntimeCall.carried : RuntimeCall → Option Nat
  | .noteLoginTx generation _ | .noteStatusTx generation _ _ | .noteQueryTx generation _ _ _
  | .noteMutationTx generation _ _ _ | .noteCliTx generation _ _ | .validateBinding _ generation
  | .noteRoomActivity _ generation _ | .beginStatus _ generation _ _ _
  | .beginQuery _ generation _ _ _ _ _ | .beginMutation _ generation _ _ _ _
  | .beginCli _ generation _ _ _ _ _ _ | .dispatchMutation _ generation _ _ _
  | .dispatchCli _ generation _ _ _ | .dispatch _ _ generation _ _ => some generation
  | .beginLogin .. | .expire _ | .reportFailure _ | .invalidate _ | .logout => none

inductive RuntimeResult
  | done
  | flag (value : Bool)
  | began (generation : Option Nat)
  | response (result : ResponseResult) (considered : Bool)
  deriving DecidableEq

def Device.with (d : Device) (r : Runtime) : Device := { d with runtime := r }

def begun (d : Device) (r : Bool × Runtime) : RuntimeResult × Device :=
  (.began (if r.1 then some r.2.session.generation else none), d.with r.2)

def noted (d : Device) (r : Bool × Runtime) : RuntimeResult × Device :=
  (.flag r.1, d.with r.2)

def answered (d : Device) (r : ResponseResult × Bool × Runtime) : RuntimeResult × Device :=
  (.response r.1 r.2.1, d.with r.2.2)

def RuntimeCall.run (d : Device) : RuntimeCall → RuntimeResult × Device
  | .beginLogin binding nowUs wanted => begun d (runtimeBeginLogin d.runtime binding nowUs wanted)
  | .noteLoginTx generation result => (.done, d.with (Admin.noteLoginTx d.runtime generation result))
  | .noteStatusTx generation tag result =>
    (.done, d.with (Admin.noteStatusTx d.runtime generation tag result))
  | .noteQueryTx generation query tag result =>
    (.done, d.with (Admin.noteQueryTx d.runtime generation query tag result))
  | .noteMutationTx generation mutation tag result =>
    (.done, d.with (Admin.noteMutationTx d.runtime generation mutation tag result))
  | .noteCliTx generation tag result =>
    (.done, d.with (Admin.noteCliTx d.runtime generation tag result))
  | .validateBinding binding generation =>
    noted d (Admin.validateBinding d.runtime binding generation)
  | .noteRoomActivity binding generation nowUs =>
    noted d (Admin.noteRoomActivity d.runtime binding generation nowUs)
  | .beginStatus binding generation tag nowUs wanted =>
    begun d (runtimeBeginStatus d.runtime binding generation tag nowUs wanted)
  | .beginQuery binding generation query offset tag nowUs wanted =>
    begun d (runtimeBeginQuery d.runtime binding generation query offset tag nowUs wanted)
  | .beginMutation binding generation mutation tag nowUs wanted =>
    begun d (runtimeBeginMutation d.runtime binding generation mutation tag nowUs wanted)
  | .beginCli binding generation tag sensitive readOnly replyProfile nowUs wanted =>
    begun d (runtimeBeginCli d.runtime binding generation tag sensitive readOnly replyProfile
      nowUs wanted)
  | .dispatchMutation binding generation responseTimestamp text nowUs =>
    answered d (dispatchMutationResponse d.runtime binding generation responseTimestamp text nowUs)
  | .dispatchCli binding generation responseTimestamp text nowUs =>
    answered d (dispatchCliResponse d.runtime binding generation responseTimestamp text nowUs)
  | .dispatch answers binding generation plaintext nowUs =>
    let r := dispatchResponse d answers binding generation plaintext nowUs
    (.response r.1 r.2.1, r.2.2)
  | .expire nowUs => noted d (runtimeExpire d.runtime nowUs)
  | .reportFailure reason => (.done, d.with (Admin.reportFailure d.runtime reason))
  | .invalidate reason => (.done, d.with (Admin.invalidate d.runtime reason))
  | .logout => (.done, d.with (Admin.logout d.runtime))

def AdminState.awaiting (state : AdminState) : Bool :=
  decide (state = .loginPending) || state.requestPending

/-- A result by which no request began and no response was accepted. -/
def RuntimeResult.idle : RuntimeResult → Bool
  | .began (some _) | .response .accepted _ => false
  | _ => true

/-- A write of a replay record: only over an older one of the same peer. -/
structure RecordWrite (nvs : Nvs) (peer : Key) (serverTimestamp : Nat) : Prop where
  older : ∀ blob, nvs (durableReplayKey peer) = some blob →
    blob.record.peerPublicKey = peer ∧ blob.record.highestServerTimestamp < serverTimestamp

def NvsStep (nvs nvs' : Nvs) : Prop :=
  nvs' = nvs ∨ ∃ peer response serverTimestamp, RecordWrite nvs peer serverTimestamp ∧
    nvs' = Function.update nvs (durableReplayKey peer)
      (some (durableRecord peer response serverTimestamp))

theorem recordWrite_of_check {nvs : Nvs} {answers : NvsAnswers} {peer : Key}
    {serverTimestamp : Nat} (h : durableCheck nvs answers peer serverTimestamp = espOk) :
    RecordWrite nvs peer serverTimestamp := by
  refine ⟨fun blob hblob => ?_⟩
  rw [durableCheck] at h
  cases hget : answers.getRet with
  | some e =>
    rw [hget] at h
    exact absurd h e.2.1
  | none =>
    rw [hget, hblob] at h
    dsimp only at h
    split at h
    · cases h
    split at h
    · cases h
    split at h
    · cases h
    rename_i _ hrecord hlater
    simp only [not_or, not_not] at hrecord
    exact ⟨hrecord.2.2.2, Nat.lt_of_not_le hlater⟩

theorem durableReplayCommit_cases (nvs : Nvs) (answers : NvsAnswers) (peer : Key)
    (response : LoginResponse) (serverTimestamp : Nat) :
    (RecordWrite nvs peer serverTimestamp ∧
      durableReplayCommit nvs answers peer response serverTimestamp =
        (espOk, Function.update nvs (durableReplayKey peer)
          (some (durableRecord peer response serverTimestamp)))) ∨
      ∃ e nvs', e ≠ espOk ∧ NvsStep nvs nvs' ∧
        durableReplayCommit nvs answers peer response serverTimestamp = (e, nvs') := by
  rw [durableReplayCommit]
  by_cases hzero : serverTimestamp = 0
  · rw [if_pos hzero]
    exact .inr ⟨espErrInvalidArg, nvs, by decide, .inl rfl, rfl⟩
  rw [if_neg hzero]
  by_cases hopen : answers.openRet ≠ espOk
  · rw [if_pos hopen]
    exact .inr ⟨_, _, hopen, .inl rfl, rfl⟩
  rw [if_neg hopen]
  by_cases hcheck : durableCheck nvs answers peer serverTimestamp ≠ espOk
  · rw [if_pos hcheck]
    exact .inr ⟨_, _, hcheck, .inl rfl, rfl⟩
  rw [if_neg hcheck]
  have hwrite := recordWrite_of_check (not_not.mp hcheck)
  by_cases hset : answers.setRet ≠ espOk
  · rw [if_pos hset]
    exact .inr ⟨_, _, hset, .inl rfl, rfl⟩
  rw [if_neg hset]
  by_cases hcommit : answers.commitRet ≠ espOk
  · rw [if_pos hcommit]
    refine .inr ⟨_, _, hcommit, ?_, rfl⟩
    cases answers.kept with
    | false => exact .inl rfl
    | true => exact .inr ⟨peer, response, serverTimestamp, hwrite, rfl⟩
  · rw [if_neg hcommit]
    exact .inl ⟨hwrite, rfl⟩

section Steps

variable {nowUs : Nat} {s : Session} {plaintext : List UInt8}

/-- Everything one call can do to the session, the fingerprint, the replay cache and the flash. -/
inductive CallStep (d : Device) (call : RuntimeCall) (result : RuntimeResult) (d' : Device) : Prop
  | kept (hresult : result.idle = true) (session : d'.runtime.session = d.runtime.session)
      (fingerprint : d'.runtime.fingerprint = d.runtime.fingerprint)
      (cache : d'.runtime.replayCache = d.runtime.replayCache) (nvs : d'.nvs = d.nvs)
  | refreshed (hresult : result.idle = true) (nowUs : Nat)
      (hgeneration : call.carried = some d.runtime.session.generation)
      (session : d'.runtime.session = refreshIdleDeadline d.runtime.session nowUs)
      (cache : d'.runtime.replayCache = d.runtime.replayCache) (nvs : d'.nvs = d.nvs)
  | ended (hresult : result.idle = true)
      (hgeneration : ∀ g, call.carried = some g → g = d.runtime.session.generation)
      (generation : d'.runtime.session.generation = nextGeneration d.runtime.session.generation)
      (hover : d'.runtime.session.state.over = true)
      (cache : d'.runtime.replayCache = d.runtime.replayCache) (nvs : NvsStep d.nvs d'.nvs)
  | beganLogin (hcall : call.carried = none)
      (hresult : result = .began (some d'.runtime.session.generation))
      (generation : d'.runtime.session.generation = nextGeneration d.runtime.session.generation)
      (state : d'.runtime.session.state = .loginPending)
      (cache : d'.runtime.replayCache = d.runtime.replayCache) (nvs : d'.nvs = d.nvs)
  | beganRequest (hgeneration : call.carried = some d.runtime.session.generation)
      (hresult : result = .began (some d'.runtime.session.generation))
      (generation : d'.runtime.session.generation = nextGeneration d.runtime.session.generation)
      (before : d.runtime.session.state = .authenticated)
      (after : d'.runtime.session.state.requestPending = true)
      (peer : d'.runtime.session.peerPublicKey = d.runtime.session.peerPublicKey)
      (cache : d'.runtime.replayCache = d.runtime.replayCache) (nvs : d'.nvs = d.nvs)
  | completed (taken : ResponseResult)
      (hgeneration : call.carried = some d.runtime.session.generation)
      (hresult : result = .response taken true)
      (generation : d'.runtime.session.generation = nextGeneration d.runtime.session.generation)
      (before : d.runtime.session.state.requestPending = true)
      (after : d'.runtime.session.state = .authenticated)
      (peer : d'.runtime.session.peerPublicKey = d.runtime.session.peerPublicKey)
      (cache : d'.runtime.replayCache = d.runtime.replayCache) (nvs : d'.nvs = d.nvs)
  | loggedIn (plaintext : List UInt8) (nowUs : Nat)
      (hgeneration : call.carried = some d.runtime.session.generation)
      (hresult : result = .response .accepted true)
      (before : d.runtime.session.state = .loginPending)
      (session : d'.runtime.session = authenticate d.runtime.session plaintext nowUs)
      (write : RecordWrite d.nvs d.runtime.session.peerPublicKey (readLe32 plaintext 0))
      (nvs : d'.nvs = Function.update d.nvs (durableReplayKey d.runtime.session.peerPublicKey)
        (some (durableRecord d.runtime.session.peerPublicKey (loginResponse plaintext)
          (readLe32 plaintext 0))))

variable {d : Device} {call : RuntimeCall} {result : RuntimeResult}

theorem CallStep.counters (hresult : result.idle = true) {r : Runtime}
    (session : r.session = d.runtime.session) (fingerprint : r.fingerprint = d.runtime.fingerprint)
    (cache : r.replayCache = d.runtime.replayCache) : CallStep d call result (d.with r) :=
  .kept hresult session fingerprint cache rfl

theorem CallStep.failed (hresult : result.idle = true)
    (hgeneration : ∀ g, call.carried = some g → g = d.runtime.session.generation)
    {state : AdminState} (hstate : state.failure = true) {r : Runtime}
    (session : r.session = Admin.failed d.runtime.session state)
    (cache : r.replayCache = d.runtime.replayCache) : CallStep d call result (d.with r) := by
  refine .ended hresult hgeneration ?_ ?_ cache (.inl rfl)
  · exact congrArg Session.generation session
  · rw [show (d.with r).runtime.session = r.session from rfl, session]
    exact (by rw [AdminState.over, hstate, Bool.or_true] : state.over = true)

theorem failSession_session (r : Runtime) {state : AdminState} (hstate : state.failure = true)
    (reason : EspErr) : (failSession r state reason).session = Admin.failed r.session state := by
  change (fail r.session state).2 = _
  rw [fail, if_pos hstate]

theorem failureStateForError_failure (reason : EspErr) :
    (failureStateForError reason).failure = true := by
  unfold failureStateForError
  split
  · rfl
  split
  · rfl
  split <;> rfl

theorem noteTx_step (d : Device) (generation : Nat) (result : EspErr) (applies : Bool)
    (count : Metrics → Metrics) (hcall : call.carried = some generation) :
    CallStep d call .done (d.with (noteTx d.runtime generation result applies count)) := by
  rw [noteTx]
  by_cases hok : result = espOk
  · rw [if_pos hok]
    exact .counters rfl rfl rfl rfl
  rw [if_neg hok]
  by_cases hown : d.runtime.session.generation = generation ∧ applies = true
  · rw [if_pos hown]
    have hfailure := failureStateForError_failure result
    refine .failed rfl (fun g hg => ?_) hfailure (failSession_session _ hfailure _) rfl
    rw [hcall, Option.some.injEq] at hg
    exact hg.symm.trans hown.1.symm
  · rw [if_neg hown]
    exact .counters rfl rfl rfl rfl

theorem disconnected_step (hresult : result.idle = true)
    (hgeneration : call.carried = some d.runtime.session.generation) (reason : EspErr) :
    CallStep d call result (d.with (failSession d.runtime .disconnected reason)) := by
  refine .failed hresult (fun g hg => ?_) rfl (failSession_session _ rfl _) rfl
  rw [hgeneration, Option.some.injEq] at hg
  exact hg.symm

theorem validateBinding_step (d : Device) (binding : Option Binding) (generation : Nat) :
    CallStep d (.validateBinding binding generation)
      (RuntimeCall.run d (.validateBinding binding generation)).1
      (RuntimeCall.run d (.validateBinding binding generation)).2 := by
  rw [RuntimeCall.run, Admin.validateBinding]
  by_cases hown : d.runtime.session.generation = generation
  · rw [if_pos hown]
    cases bindingMatches d.runtime binding with
    | true => exact .counters rfl rfl rfl rfl
    | false =>
      have hcarried : (RuntimeCall.validateBinding binding generation).carried =
          some d.runtime.session.generation := congrArg some hown.symm
      exact disconnected_step rfl hcarried _
  · rw [if_neg hown]
    exact .counters rfl rfl rfl rfl

theorem noteRoomActivity_step (d : Device) (binding : Option Binding) (generation nowUs : Nat) :
    CallStep d (.noteRoomActivity binding generation nowUs)
      (RuntimeCall.run d (.noteRoomActivity binding generation nowUs)).1
      (RuntimeCall.run d (.noteRoomActivity binding generation nowUs)).2 := by
  rw [RuntimeCall.run, Admin.noteRoomActivity]
  by_cases hown : d.runtime.session.state.active = true ∧ d.runtime.session.role = .room ∧
      d.runtime.session.generation = generation ∧ bindingMatches d.runtime binding = true
  · rw [if_pos hown, noteAuthenticatedActivity, if_pos hown.1]
    have hcarried : (RuntimeCall.noteRoomActivity binding generation nowUs).carried =
        some d.runtime.session.generation := congrArg some hown.2.2.1.symm
    cases authenticatedDeadlineDue d.runtime.session nowUs with
    | true =>
      refine .failed rfl (fun g hg => ?_) rfl rfl rfl
      rw [hcarried, Option.some.injEq] at hg
      exact hg.symm
    | false => exact .refreshed rfl nowUs hcarried rfl rfl rfl
  · rw [if_neg hown]
    exact .counters rfl rfl rfl rfl

theorem runtimeBeginLogin_step (d : Device) (binding : Option Binding) (nowUs : Nat)
    (wanted : Bool) :
    CallStep d (.beginLogin binding nowUs wanted)
      (RuntimeCall.run d (.beginLogin binding nowUs wanted)).1
      (RuntimeCall.run d (.beginLogin binding nowUs wanted)).2 := by
  rw [RuntimeCall.run]
  cases binding with
  | none => exact .counters rfl rfl rfl rfl
  | some binding =>
    rw [runtimeBeginLogin]
    by_cases hrefused : wanted = false ∨ binding.fingerprint.bytes = []
    · rw [if_pos hrefused]
      exact .counters rfl rfl rfl rfl
    rw [if_neg hrefused, Admin.beginLogin]
    by_cases hok : ((binding.loginArgs nowUs).valid &&
        (decide (d.runtime.session.state = .idle) || d.runtime.session.state.failure)) = true
    · rw [if_pos hok]
      exact .beganLogin rfl rfl rfl rfl rfl rfl
    · rw [if_neg hok]
      exact .counters rfl rfl rfl rfl

inductive BeginResult (s : Session) : Bool × Session → Prop
  | refused : BeginResult s (false, s)
  | late : BeginResult s (false, timeout s)
  | pending (s' : Session) (before : s.state = .authenticated)
      (after : s'.state.requestPending = true)
      (generation : s'.generation = nextGeneration s.generation)
      (peer : s'.peerPublicKey = s.peerPublicKey) : BeginResult s (true, s')

theorem beginRequest_result {admissible : Bool} {pend : Session → Session} (nowUs : Nat)
    (hadmissible : admissible = true → s.state = .authenticated)
    (hstate : (pend s).state.requestPending = true)
    (hpeer : (pend s).peerPublicKey = s.peerPublicKey) :
    BeginResult s (beginRequest s admissible nowUs pend) := by
  rcases beginRequest_cases s admissible nowUs pend with hr | hr | ⟨hok, _, hr⟩
  · rw [hr]
    exact .refused
  · rw [hr]
    exact .late
  · rw [hr]
    exact .pending _ (hadmissible hok) hstate rfl hpeer

theorem requestAdmissible_state {tag deadline : Nat} {rest : Bool}
    (h : (requestAdmissible s tag deadline && rest) = true) : s.state = .authenticated := by
  simp only [requestAdmissible, Bool.and_eq_true, decide_eq_true_eq] at h
  exact h.1.1.1.1

theorem runtimeBegin_step {binding : Option Binding} {generation : Nat} {wanted : Bool}
    {begin : Session → Bool × Session} (hcall : call.carried = some generation)
    (hbegin : BeginResult d.runtime.session (begin d.runtime.session)) :
    CallStep d call (begun d (runtimeBegin d.runtime binding generation wanted begin)).1
      (begun d (runtimeBegin d.runtime binding generation wanted begin)).2 := by
  rw [runtimeBegin]
  cases wanted with
  | false => exact .counters rfl rfl rfl rfl
  | true =>
    rw [if_pos rfl]
    by_cases hown : d.runtime.session.generation = generation
    · have hcarried : call.carried = some d.runtime.session.generation := by rw [hcall, hown]
      have hsame : ∀ g, call.carried = some g → g = d.runtime.session.generation := by
        intro g hg
        rw [hcarried, Option.some.injEq] at hg
        exact hg.symm
      rw [if_pos hown]
      cases bindingMatches d.runtime binding with
      | true =>
        rw [if_pos rfl]
        generalize begin d.runtime.session = r at hbegin
        cases hbegin with
        | refused =>
          dsimp only
          rw [if_neg nofun]
          split
          · exact .counters rfl rfl rfl rfl
          · exact .counters rfl rfl rfl rfl
        | late => exact .failed rfl hsame rfl rfl rfl
        | pending s' before after hgeneration hpeer =>
          exact .beganRequest hcarried rfl hgeneration before after hpeer rfl rfl
      | false => exact disconnected_step rfl hcarried _
    · rw [if_neg hown]
      dsimp only
      rw [if_neg nofun]
      split
      · exact .counters rfl rfl rfl rfl
      · exact .counters rfl rfl rfl rfl

inductive TakeResult (s : Session) : ResponseResult × Session → Prop
  | ignored (result : ResponseResult) (h : result ≠ .accepted) : TakeResult s (result, s)
  | late : TakeResult s (.expired, timeout s)
  | taken (result : ResponseResult) (s' : Session) (hresult : result ≠ .malformed)
      (before : s.state.requestPending = true) (after : s'.state = .authenticated)
      (generation : s'.generation = nextGeneration s.generation)
      (peer : s'.peerPublicKey = s.peerPublicKey) : TakeResult s (result, s')

theorem acceptResponse_result {pending : AdminState} {peer : Option Key}
    {read : ResponseResult × Session} (hread : s.state = pending → TakeResult s read) :
    TakeResult s (acceptResponse s pending peer nowUs read) := by
  rcases acceptResponse_cases s pending peer nowUs read with hr | hr | ⟨hstate, _, _, hr⟩
  · rw [hr]
    exact .ignored _ nofun
  · rw [hr]
    exact .late
  · rw [hr]
    exact hread hstate

theorem acceptStatusResponse_result (s : Session) (peer : Option Key)
    (plaintext : Option (List UInt8)) (nowUs : Nat) :
    TakeResult s (acceptStatusResponse s peer plaintext nowUs) := by
  refine acceptResponse_result fun hstate => ?_
  rcases takeStatus_cases s plaintext nowUs with hr | hr | ⟨status, tag, hr⟩
  · rw [hr]
    exact .ignored _ nofun
  · rw [hr]
    exact .ignored _ nofun
  · rw [hr]
    exact .taken _ _ nofun (by rw [hstate]; rfl) rfl rfl rfl

theorem acceptQueryResponse_result (s : Session) (peer : Option Key)
    (plaintext : Option (List UInt8)) (nowUs : Nat) :
    TakeResult s (acceptQueryResponse s peer plaintext nowUs) := by
  refine acceptResponse_result fun hstate => ?_
  rcases takeQuery_cases s plaintext nowUs with hr | hr | ⟨parsed, tag, hr⟩
  · rw [hr]
    exact .ignored _ nofun
  · rw [hr]
    exact .ignored _ nofun
  · rw [hr]
    exact .taken _ _ nofun (by rw [hstate]; rfl) rfl rfl rfl

theorem acceptMutationResponse_result (s : Session) (peer : Option Key) (responseTimestamp : Nat)
    (text : Option (List UInt8)) (nowUs : Nat) :
    TakeResult s (acceptMutationResponse s peer responseTimestamp text nowUs) := by
  refine acceptResponse_result fun hstate => ?_
  rcases takeMutation_cases s responseTimestamp text nowUs with hr | hr | ⟨_, success, hr⟩
  · rw [hr]
    exact .ignored _ nofun
  · rw [hr]
    exact .ignored _ nofun
  · rw [hr]
    cases success <;> exact .taken _ _ nofun (by rw [hstate]; rfl) rfl rfl rfl

theorem acceptCliResponse_result (s : Session) (peer : Option Key) (responseTimestamp : Nat)
    (text : Option (List UInt8)) (nowUs : Nat) :
    TakeResult s (acceptCliResponse s peer responseTimestamp text nowUs) := by
  refine acceptResponse_result fun hstate => ?_
  rcases takeCli_cases s responseTimestamp text nowUs with hr | ⟨_, rejected, _, _, _, hr⟩
  · rw [hr]
    exact .ignored _ nofun
  · rw [hr]
    cases rejected <;> exact .taken _ _ nofun (by rw [hstate]; rfl) rfl rfl rfl

theorem TakeResult.step {r : ResponseResult × Session} {r' : Runtime}
    (h : TakeResult d.runtime.session r)
    (hgeneration : call.carried = some d.runtime.session.generation)
    (hsession : r'.session =
      (failMalformed { d.runtime with session := r.2 } r.1).session)
    (hfingerprint : r'.fingerprint = d.runtime.fingerprint)
    (hcache : r'.replayCache = d.runtime.replayCache) :
    CallStep d call (.response r.1 true) (d.with r') := by
  have hsame : ∀ g, call.carried = some g → g = d.runtime.session.generation := by
    intro g hg
    rw [hgeneration, Option.some.injEq] at hg
    exact hg.symm
  rw [failMalformed] at hsession
  cases h with
  | ignored result hne =>
    have hidle : (RuntimeResult.response result true).idle = true := by
      cases result with
      | accepted => exact absurd rfl hne
      | unmatched | rejected | malformed | expired | replayed => rfl
    dsimp only at hsession
    split at hsession
    · exact .failed hidle hsame rfl hsession hcache
    · exact .counters hidle hsession hfingerprint hcache
  | late =>
    rw [if_neg (fun hmalformed => nomatch hmalformed.1)] at hsession
    exact .failed rfl hsame rfl hsession hcache
  | taken result s' hresult before after hnext hpeer =>
    rw [if_neg (fun hmalformed => hresult hmalformed.1)] at hsession
    refine .completed result hgeneration rfl ?_ before ?_ ?_ hcache rfl
    · exact (congrArg Session.generation hsession).trans hnext
    · exact (congrArg Session.state hsession).trans after
    · exact (congrArg Session.peerPublicKey hsession).trans hpeer

theorem dispatchText_step {pending : AdminState} {binding : Option Binding} {generation : Nat}
    {text : Option (List UInt8)} {accept : Session → Option Key → ResponseResult × Session}
    {count : ResponseResult → Metrics → Metrics} (hcall : call.carried = some generation)
    (haccept : ∀ peer, TakeResult d.runtime.session (accept d.runtime.session peer)) :
    CallStep d call
      (answered d (dispatchText d.runtime pending binding generation text accept count)).1
      (answered d (dispatchText d.runtime pending binding generation text accept count)).2 := by
  cases binding with
  | none => exact .counters rfl rfl rfl rfl
  | some binding =>
    cases text with
    | none => exact .counters rfl rfl rfl rfl
    | some bytes =>
      rw [dispatchText]
      by_cases hown : d.runtime.session.state = pending ∧
          d.runtime.session.generation = generation ∧ sameFingerprint d.runtime binding = true
      · rw [if_pos hown]
        have hcarried : call.carried = some d.runtime.session.generation := by
          rw [hcall, hown.2.1]
        cases bindingMatches d.runtime (some binding) with
        | true =>
          rw [if_pos rfl]
          have htake := haccept (some binding.peerPublicKey)
          generalize accept d.runtime.session (some binding.peerPublicKey) = r at htake ⊢
          refine htake.step hcarried rfl ?_ ?_
          · dsimp only [noteResponse, failMalformed]
            split <;> rfl
          · dsimp only [noteResponse, failMalformed]
            split <;> rfl
        | false => exact disconnected_step rfl hcarried _
      · rw [if_neg hown]
        exact .counters rfl rfl rfl rfl

inductive LoginResult (d : Device) (plaintext : List UInt8) (nowUs : Nat) :
    ResponseResult → EspErr → Device → Prop
  | ignored : LoginResult d plaintext nowUs .unmatched espOk d
  | failed (result : ResponseResult) (e : EspErr) (r : Runtime) (nvs : Nvs) (state : AdminState)
      (hresult : result ≠ .accepted) (hstate : state.failure = true)
      (session : r.session = Admin.failed d.runtime.session state)
      (cache : r.replayCache = d.runtime.replayCache) (hnvs : NvsStep d.nvs nvs)
      (hmalformed : result = .malformed → state = .unsupportedProtocol) :
      LoginResult d plaintext nowUs result e ⟨r, nvs⟩
  | accepted (r : Runtime) (before : d.runtime.session.state = .loginPending)
      (session : r.session = authenticate d.runtime.session plaintext nowUs)
      (write : RecordWrite d.nvs d.runtime.session.peerPublicKey (readLe32 plaintext 0)) :
      LoginResult d plaintext nowUs .accepted espOk
        ⟨r, Function.update d.nvs (durableReplayKey d.runtime.session.peerPublicKey)
          (some (durableRecord d.runtime.session.peerPublicKey (loginResponse plaintext)
            (readLe32 plaintext 0)))⟩

theorem publishLogin_cases (d : Device) (answers : NvsAnswers) (peer : Key)
    (response : LoginResponse) (candidate : Session) (replay : ReplayCache) :
    (RecordWrite d.nvs peer candidate.serverTimestamp ∧
      publishLogin d answers peer response candidate replay =
        (.accepted, espOk, ⟨{ d.runtime with session := candidate, replayCache := replay },
          Function.update d.nvs (durableReplayKey peer)
            (some (durableRecord peer response candidate.serverTimestamp))⟩)) ∨
      ∃ result e state nvs, result ≠ .accepted ∧ result ≠ .malformed ∧ state.failure = true ∧
        NvsStep d.nvs nvs ∧ ∃ reason, publishLogin d answers peer response candidate replay =
          (result, e, ⟨failSession d.runtime state reason, nvs⟩) := by
  rw [publishLogin]
  rcases durableReplayCommit_cases d.nvs answers peer response candidate.serverTimestamp with
    ⟨hwrite, hc⟩ | ⟨e, nvs, he, hnvs, hc⟩
  · rw [hc]
    exact .inl ⟨hwrite, rfl⟩
  · rw [hc]
    dsimp only
    rw [if_neg he]
    by_cases hreplayed : e = espErrInvalidResponse
    · rw [if_pos hreplayed]
      exact .inr ⟨.replayed, espOk, .durableReplayRejected, nvs, nofun, nofun, rfl, hnvs, _, rfl⟩
    · rw [if_neg hreplayed]
      exact .inr ⟨.rejected, e, .localStorageFailed, nvs, nofun, nofun, rfl, hnvs, _, rfl⟩

theorem dispatchLogin_of_accepted {answers : NvsAnswers} {peer : Key} {candidate : Session}
    {replay : ReplayCache}
    (h : acceptLoginResponse d.runtime.session d.runtime.replayCache (some peer) (some plaintext)
      nowUs = (.accepted, candidate, replay)) : dispatchLogin d answers peer plaintext nowUs =
      publishLogin d answers peer (loginResponse plaintext) candidate replay := by
  rw [dispatchLogin, h]
  rfl

theorem dispatchLogin_of_refused {answers : NvsAnswers} {peer : Key} {result : ResponseResult}
    {candidate : Session} {replay : ReplayCache} (hresult : result ≠ .accepted)
    (h : acceptLoginResponse d.runtime.session d.runtime.replayCache (some peer) (some plaintext)
      nowUs = (result, candidate, replay)) : dispatchLogin d answers peer plaintext nowUs =
      (result, espOk, { d with
        runtime := { d.runtime with session := candidate, replayCache := replay } }) := by
  rw [dispatchLogin, h]
  exact if_neg hresult

theorem dispatchLogin_result (d : Device) (answers : NvsAnswers) (peer : Key)
    (plaintext : List UInt8) (nowUs : Nat) :
    LoginResult d plaintext nowUs (dispatchLogin d answers peer plaintext nowUs).1
      (dispatchLogin d answers peer plaintext nowUs).2.1
      (dispatchLogin d answers peer plaintext nowUs).2.2 := by
  rcases acceptLoginResponse_cases d.runtime.session d.runtime.replayCache (some peer)
    (some plaintext) nowUs with hr | ⟨_, result, state, hne, hstate, hmalformed, hr⟩ |
      ⟨hstate, hpeer, _, _, hr⟩
  · rw [dispatchLogin_of_refused (by decide : ResponseResult.unmatched ≠ .accepted) hr]
    exact .ignored
  · rw [dispatchLogin_of_refused hne hr]
    exact .failed result espOk _ _ state hne hstate rfl rfl (.inl rfl) hmalformed
  · have hkey : peer = d.runtime.session.peerPublicKey := Option.some.inj hpeer
    subst hkey
    rw [dispatchLogin_of_accepted hr, Option.getD_some]
    rcases publishLogin_cases d answers d.runtime.session.peerPublicKey (loginResponse plaintext)
      (authenticate d.runtime.session plaintext nowUs) _ with
        ⟨hwrite, hp⟩ | ⟨result, e, state, nvs, hne, hmalformed, hfailure, hnvs, reason, hp⟩
    · rw [hp]
      exact .accepted _ hstate rfl hwrite
    · rw [hp]
      exact .failed result e _ nvs state hne hfailure (failSession_session _ hfailure _) rfl hnvs
        fun h => absurd h hmalformed

theorem finishResponse_session (r : Runtime) (result : ResponseResult) (queryAttempt : Bool)
    (e : EspErr) :
    (finishResponse r result queryAttempt e).session = (failMalformed r result).session ∧
      (finishResponse r result queryAttempt e).fingerprint = r.fingerprint ∧
      (finishResponse r result queryAttempt e).replayCache = r.replayCache := by
  have hmalformed : (failMalformed r result).fingerprint = r.fingerprint ∧
      (failMalformed r result).replayCache = r.replayCache := by
    rw [failMalformed]
    split <;> exact ⟨rfl, rfl⟩
  unfold finishResponse
  cases queryAttempt <;> dsimp only <;> split <;> exact ⟨rfl, hmalformed⟩

theorem LoginResult.step {result : ResponseResult} {e : EspErr} {d' : Device}
    (h : LoginResult d plaintext nowUs result e d')
    (hgeneration : call.carried = some d.runtime.session.generation) (queryAttempt : Bool) :
    CallStep d call (.response result true)
      { d' with runtime := finishResponse d'.runtime result queryAttempt e } := by
  have hsame : ∀ g, call.carried = some g → g = d.runtime.session.generation := by
    intro g hg
    rw [hgeneration, Option.some.injEq] at hg
    exact hg.symm
  obtain ⟨hsession, hfingerprint, hcache⟩ := finishResponse_session d'.runtime result queryAttempt e
  rw [failMalformed] at hsession
  cases h with
  | ignored =>
    rw [if_neg (fun h => nomatch h.1)] at hsession
    exact .kept rfl hsession hfingerprint hcache rfl
  | failed _ _ r nvs state hresult hstate session cache hnvs hmalformed =>
    have hidle : (RuntimeResult.response result true).idle = true := by
      cases result with
      | accepted => exact absurd rfl hresult
      | unmatched | rejected | malformed | expired | replayed => rfl
    have hfailed : (finishResponse r result queryAttempt e).session =
        Admin.failed d.runtime.session state := by
      rw [hsession, if_neg, session]
      rintro ⟨hbad, hother⟩
      rw [session] at hother
      exact hother (hmalformed hbad)
    refine .ended hidle hsame ?_ ?_ (hcache.trans cache) hnvs
    · exact congrArg Session.generation hfailed
    · change (finishResponse r result queryAttempt e).session.state.over = true
      rw [hfailed]
      exact (by rw [AdminState.over, hstate, Bool.or_true] : state.over = true)
  | accepted r before session write =>
    rw [if_neg (fun h => nomatch h.1)] at hsession
    exact .loggedIn plaintext nowUs hgeneration rfl before (hsession.trans session) write rfl

theorem dispatchResponse_step (d : Device) (answers : NvsAnswers) (binding : Option Binding)
    (generation : Nat) (plaintext : Option (List UInt8)) (nowUs : Nat) :
    CallStep d (.dispatch answers binding generation plaintext nowUs)
      (RuntimeCall.run d (.dispatch answers binding generation plaintext nowUs)).1
      (RuntimeCall.run d (.dispatch answers binding generation plaintext nowUs)).2 := by
  rw [RuntimeCall.run]
  dsimp only
  cases binding with
  | none => exact .kept rfl rfl rfl rfl rfl
  | some binding =>
    cases plaintext with
    | none => exact .kept rfl rfl rfl rfl rfl
    | some bytes =>
      rw [dispatchResponse]
      by_cases hown : d.runtime.session.state.awaitsResponse = true ∧
          d.runtime.session.generation = generation ∧ sameFingerprint d.runtime binding = true
      · rw [if_pos hown]
        have hcarried :
            (RuntimeCall.dispatch answers (some binding) generation (some bytes) nowUs).carried =
              some d.runtime.session.generation := congrArg some hown.2.1.symm
        cases bindingMatches d.runtime (some binding) with
        | false => exact disconnected_step rfl hcarried _
        | true =>
          rw [if_pos rfl]
          dsimp only
          rw [dispatchPending]
          by_cases hlogin : d.runtime.session.state = .loginPending
          · rw [if_pos hlogin]
            exact (dispatchLogin_result d answers binding.peerPublicKey bytes nowUs).step hcarried _
          · rw [if_neg hlogin]
            have htake : TakeResult d.runtime.session
                (if d.runtime.session.state = .statusPending then
                  acceptStatusResponse d.runtime.session (some binding.peerPublicKey) (some bytes)
                    nowUs
                else
                  acceptQueryResponse d.runtime.session (some binding.peerPublicKey) (some bytes)
                    nowUs) := by
              split
              · exact acceptStatusResponse_result _ _ _ _
              · exact acceptQueryResponse_result _ _ _ _
            generalize (if d.runtime.session.state = .statusPending then _ else _) = r at htake ⊢
            obtain ⟨hsession, hfingerprint, hcache⟩ := finishResponse_session
              { d.runtime with session := r.2 } r.1
              (decide (d.runtime.session.state = .queryPending)) espOk
            exact htake.step hcarried hsession hfingerprint hcache
      · rw [if_neg hown]
        exact .kept rfl rfl rfl rfl rfl

theorem runtimeExpire_step (d : Device) (nowUs : Nat) :
    CallStep d (.expire nowUs) (RuntimeCall.run d (.expire nowUs)).1
      (RuntimeCall.run d (.expire nowUs)).2 := by
  rw [RuntimeCall.run, runtimeExpire]
  rcases expireIfDue_cases d.runtime.session nowUs with hr | hr
  · rw [hr]
    exact .failed rfl (fun g hg => by cases hg) rfl rfl rfl
  · rw [hr]
    exact .counters rfl rfl rfl rfl

theorem reportFailure_step (hcall : call.carried = none) (d : Device) (reason : EspErr) :
    CallStep d call .done (d.with (Admin.reportFailure d.runtime reason)) := by
  rw [Admin.reportFailure]
  have hfailure := failureStateForError_failure reason
  split
  · refine .failed rfl (fun g hg => ?_) hfailure (failSession_session _ hfailure _) rfl
    rw [hcall] at hg
    cases hg
  · exact .counters rfl rfl rfl rfl

theorem invalidate_step (hcall : call.carried = none) (d : Device) (reason : EspErr) :
    CallStep d call .done (d.with (Admin.invalidate d.runtime reason)) := by
  rw [Admin.invalidate]
  by_cases hok : reason = espOk
  · rw [if_pos hok]
    refine .ended rfl (fun g hg => ?_) rfl rfl rfl (.inl rfl)
    rw [hcall] at hg
    cases hg
  · rw [if_neg hok]
    exact reportFailure_step hcall d reason

theorem run_step (d : Device) (call : RuntimeCall) :
    CallStep d call (call.run d).1 (call.run d).2 := by
  cases call with
  | beginLogin binding nowUs wanted => exact runtimeBeginLogin_step d binding nowUs wanted
  | noteLoginTx generation result => exact noteTx_step d generation result _ _ rfl
  | noteStatusTx generation tag result => exact noteTx_step d generation result _ _ rfl
  | noteQueryTx generation query tag result => exact noteTx_step d generation result _ _ rfl
  | noteMutationTx generation mutation tag result => exact noteTx_step d generation result _ _ rfl
  | noteCliTx generation tag result => exact noteTx_step d generation result _ _ rfl
  | validateBinding binding generation => exact validateBinding_step d binding generation
  | noteRoomActivity binding generation nowUs =>
    exact noteRoomActivity_step d binding generation nowUs
  | beginStatus binding generation tag nowUs wanted =>
    refine runtimeBegin_step rfl (beginRequest_result nowUs (fun h => ?_) rfl rfl)
    exact requestAdmissible_state ((Bool.and_true _).trans h)
  | beginQuery binding generation query offset tag nowUs wanted =>
    refine runtimeBegin_step rfl (beginRequest_result nowUs (fun h => ?_) rfl rfl)
    rw [Bool.and_assoc] at h
    exact requestAdmissible_state h
  | beginMutation binding generation mutation tag nowUs wanted =>
    refine runtimeBegin_step rfl (beginRequest_result nowUs (fun h => ?_) rfl rfl)
    rw [Bool.and_assoc] at h
    exact requestAdmissible_state h
  | beginCli binding generation tag sensitive readOnly replyProfile nowUs wanted =>
    refine runtimeBegin_step rfl (beginRequest_result nowUs (fun h => ?_) rfl rfl)
    rw [Bool.and_assoc] at h
    exact requestAdmissible_state h
  | dispatchMutation binding generation responseTimestamp text nowUs =>
    exact dispatchText_step rfl fun peer => acceptMutationResponse_result _ _ _ _ _
  | dispatchCli binding generation responseTimestamp text nowUs =>
    exact dispatchText_step rfl fun peer => acceptCliResponse_result _ _ _ _ _
  | dispatch answers binding generation plaintext nowUs =>
    exact dispatchResponse_step d answers binding generation plaintext nowUs
  | expire nowUs => exact runtimeExpire_step d nowUs
  | reportFailure reason => exact reportFailure_step rfl d reason
  | invalidate reason => exact invalidate_step rfl d reason
  | logout => exact invalidate_step rfl d espOk

end Steps

end Sigui.Admin

import Sigui.AdminSessionInv

/-! The calls an admin session is used through, and everything one call can do. -/
namespace Sigui.Admin

/-- The arguments of `d1l_meshcore_admin_accept_login_response`. -/
structure LoginReply where
  cache : ReplayCache
  peer : Option Key
  plaintext : Option (List UInt8)
  nowUs : Nat

def LoginReply.bytes (reply : LoginReply) : List UInt8 := reply.plaintext.getD []

inductive SessionOp
  | beginLogin (args : LoginArgs)
  | acceptLogin (reply : LoginReply)
  | beginStatus (tag nowUs requestDeadlineUs : Nat)
  | cancelStatus (tag : Nat)
  | acceptStatus (peer : Option Key) (plaintext : Option (List UInt8)) (nowUs : Nat)
  | beginQuery (query : Query) (offset tag nowUs requestDeadlineUs : Nat)
  | cancelQuery (query : Query) (tag : Nat)
  | acceptQuery (peer : Option Key) (plaintext : Option (List UInt8)) (nowUs : Nat)
  | beginMutation (mutation : Mutation) (tag nowUs requestDeadlineUs : Nat)
  | cancelMutation (mutation : Mutation) (tag : Nat)
  | acceptMutation (peer : Option Key) (responseTimestamp : Nat) (text : Option (List UInt8))
    (nowUs : Nat)
  | beginCli (tag : Nat) (sensitive readOnly : Bool) (replyProfile : Option CliReplyProfile)
    (nowUs requestDeadlineUs : Nat)
  | cancelCli (tag : Nat)
  | acceptCli (peer : Option Key) (responseTimestamp : Nat) (text : Option (List UInt8))
    (nowUs : Nat)
  | noteActivity (nowUs : Nat)
  | expireIfDue (nowUs : Nat)
  | fail (failureState : AdminState)
  | reset

inductive Outcome
  | done
  | flag (value : Bool)
  | response (result : ResponseResult)
  deriving DecidableEq

def flagged (r : Bool × Session) : Outcome × Session := (.flag r.1, r.2)

def responded (r : ResponseResult × Session) : Outcome × Session := (.response r.1, r.2)

def SessionOp.apply (s : Session) : SessionOp → Outcome × Session
  | .beginLogin args => flagged (Admin.beginLogin s args)
  | .acceptLogin reply =>
    let r := acceptLoginResponse s reply.cache reply.peer reply.plaintext reply.nowUs
    (.response r.1, r.2.1)
  | .beginStatus tag nowUs requestDeadlineUs =>
    flagged (beginStatusRequest s tag nowUs requestDeadlineUs)
  | .cancelStatus tag => flagged (cancelStatusRequest s tag)
  | .acceptStatus peer plaintext nowUs => responded (acceptStatusResponse s peer plaintext nowUs)
  | .beginQuery query offset tag nowUs requestDeadlineUs =>
    flagged (beginQueryRequest s query offset tag nowUs requestDeadlineUs)
  | .cancelQuery query tag => flagged (cancelQueryRequest s query tag)
  | .acceptQuery peer plaintext nowUs => responded (acceptQueryResponse s peer plaintext nowUs)
  | .beginMutation mutation tag nowUs requestDeadlineUs =>
    flagged (Admin.beginMutation s mutation tag nowUs requestDeadlineUs)
  | .cancelMutation mutation tag => flagged (Admin.cancelMutation s mutation tag)
  | .acceptMutation peer responseTimestamp text nowUs =>
    responded (acceptMutationResponse s peer responseTimestamp text nowUs)
  | .beginCli tag sensitive readOnly replyProfile nowUs requestDeadlineUs =>
    flagged (beginCliCommand s tag sensitive readOnly replyProfile nowUs requestDeadlineUs)
  | .cancelCli tag => flagged (cancelCliCommand s tag)
  | .acceptCli peer responseTimestamp text nowUs =>
    responded (acceptCliResponse s peer responseTimestamp text nowUs)
  | .noteActivity nowUs => flagged (noteAuthenticatedActivity s nowUs)
  | .expireIfDue nowUs => flagged (Admin.expireIfDue s nowUs)
  | .fail failureState => flagged (Admin.fail s failureState)
  | .reset => (.done, Admin.reset s)

structure LogEntry where
  op : SessionOp
  outcome : Outcome

def LogEntry.began (e : LogEntry) : Option LoginArgs :=
  match e.op, e.outcome with
  | .beginLogin args, .flag true => some args
  | _, _ => none

/-- The server timestamp of a response that was taken. An error reply to a command or a mutation
is one. -/
def LogEntry.timestamp (e : LogEntry) : Option Nat :=
  match e.op, e.outcome with
  | .acceptLogin reply, .response .accepted => some (readLe32 reply.bytes 0)
  | .acceptCli _ responseTimestamp _ _, .response .accepted
  | .acceptCli _ responseTimestamp _ _, .response .rejected
  | .acceptMutation _ responseTimestamp _ _, .response .accepted
  | .acceptMutation _ responseTimestamp _ _, .response .rejected => some responseTimestamp
  | _, _ => none

def LogEntry.takenAt (e : LogEntry) : Option Nat :=
  match e.op, e.outcome with
  | .beginStatus _ nowUs _, .flag true
  | .beginQuery _ _ _ nowUs _, .flag true
  | .beginMutation _ _ nowUs _, .flag true
  | .beginCli _ _ _ _ nowUs _, .flag true
  | .acceptStatus _ _ nowUs, .response .accepted
  | .acceptQuery _ _ nowUs, .response .accepted
  | .acceptMutation _ _ _ nowUs, .response .accepted
  | .acceptMutation _ _ _ nowUs, .response .rejected
  | .acceptCli _ _ _ nowUs, .response .accepted
  | .acceptCli _ _ _ nowUs, .response .rejected => some nowUs
  | _, _ => none

/-- An entry that neither begins a login nor takes a response or begins a request. -/
structure LogEntry.Quiet (e : LogEntry) : Prop where
  began : e.began = none
  timestamp : e.timestamp = none
  takenAt : e.takenAt = none

section Steps

variable {op : SessionOp} {nowUs : Nat} {t : Session}

structure Authority where
  role : Role
  peerPublicKey : Key
  localPublicKey : Key
  sessionSecret : Key
  permissions : UInt8
  firmwareLevel : UInt8
  idleTimeoutUs : Nat
  absoluteTimeoutUs : Nat
  absoluteDeadlineUs : Nat

def Session.authority (s : Session) : Authority where
  role := s.role
  peerPublicKey := s.peerPublicKey
  localPublicKey := s.localPublicKey
  sessionSecret := s.sessionSecret
  permissions := s.permissions
  firmwareLevel := s.firmwareLevel
  idleTimeoutUs := s.idleTimeoutUs
  absoluteTimeoutUs := s.absoluteTimeoutUs
  absoluteDeadlineUs := s.absoluteDeadlineUs

structure Within (s : Session) (e : LogEntry) (s' : Session) : Prop where
  before : s.state.active = true
  after : s'.state.active = true
  authority : s'.authority = s.authority
  began : e.began = none
  fresh : ∀ nowUs, e.takenAt = some nowUs →
    nowUs < s.idleDeadlineUs ∧ nowUs < s.absoluteDeadlineUs
  kept : e.timestamp = none → s'.serverTimestamp = s.serverTimestamp
  later : ∀ t, e.timestamp = some t → s.serverTimestamp < t ∧ s'.serverTimestamp = t

inductive SessionStep (s : Session) (e : LogEntry) : Session → Prop
  | same (h : e.Quiet) : SessionStep s e s
  | cleared (state : AdminState) (role : Role) (generation : Nat) (hstate : state.over = true)
      (h : e.Quiet) : SessionStep s e (.zero state role generation)
  | began (args : LoginArgs) (generation : Nat) (h : e = ⟨.beginLogin args, .flag true⟩)
      (hvalid : args.valid = true) : SessionStep s e (args.session generation)
  | loggedIn (reply : LoginReply) (h : e = ⟨.acceptLogin reply, .response .accepted⟩)
      (hstate : s.state = .loginPending) (hpeer : reply.peer = some s.peerPublicKey)
      (hfresh : reply.nowUs < s.requestDeadlineUs) :
      SessionStep s e (authenticate s reply.bytes reply.nowUs)
  | within (s' : Session) (h : Within s e s') (hinv : SessionInv s') : SessionStep s e s'

variable {s : Session}

theorem SessionStep.failed {e : LogEntry} {state : AdminState} (hstate : state.failure = true)
    (h : e.Quiet) : SessionStep s e (Admin.failed s state) :=
  .cleared _ _ _ (by rw [AdminState.over, hstate, Bool.or_true]) h

theorem step_beginLogin (s : Session) (args : LoginArgs) :
    SessionStep s ⟨.beginLogin args, (SessionOp.apply s (.beginLogin args)).1⟩
      (SessionOp.apply s (.beginLogin args)).2 := by
  simp only [SessionOp.apply, flagged, beginLogin]
  by_cases hok : (args.valid && (decide (s.state = .idle) || s.state.failure)) = true
  · rw [if_pos hok]
    exact .began args _ rfl (Bool.and_eq_true _ _ ▸ hok).1
  · rw [if_neg hok]
    exact .same ⟨rfl, rfl, rfl⟩

theorem step_acceptLogin (hs : SessionInv s) (reply : LoginReply) :
    SessionStep s ⟨.acceptLogin reply, (SessionOp.apply s (.acceptLogin reply)).1⟩
      (SessionOp.apply s (.acceptLogin reply)).2 := by
  rw [SessionOp.apply]
  rcases acceptLoginResponse_cases s reply.cache reply.peer reply.plaintext reply.nowUs with
    hr | ⟨_, result, state, hne, hstate, _, hr⟩ | ⟨hstate, hpeer, hdue, _, hr⟩
  · rw [hr]
    exact .same ⟨rfl, rfl, rfl⟩
  · rw [hr]
    refine .failed hstate ⟨rfl, ?_, rfl⟩
    cases result with
    | accepted => exact absurd rfl hne
    | unmatched | rejected | malformed | expired | replayed => rfl
  · rw [hr]
    obtain ⟨args, hvalid, hargs⟩ := hs.waiting hstate
    have hdeadline : s.requestDeadlineUs ≠ 0 := by
      rw [hargs]
      exact (LoginArgs.valid_timeouts hvalid).1
    exact .loggedIn reply rfl hstate hpeer (deadlineDue_eq_false hdeadline hdue)

theorem requestAdmissible_authenticated {tag requestDeadlineUs : Nat}
    (h : requestAdmissible s tag requestDeadlineUs = true) :
    s.state = .authenticated ∧ tag ≠ 0 := by
  simp only [requestAdmissible, Bool.and_eq_true, decide_eq_true_eq] at h
  exact ⟨h.1.1.1, h.1.1.2⟩

theorem step_begin {admissible : Bool} {pend : Session → Session} (hs : SessionInv s)
    (hrefused : LogEntry.Quiet ⟨op, .flag false⟩)
    (hbegan : LogEntry.began ⟨op, .flag true⟩ = none)
    (htimestamp : LogEntry.timestamp ⟨op, .flag true⟩ = none)
    (htaken : LogEntry.takenAt ⟨op, .flag true⟩ = some nowUs)
    (hadmissible : admissible = true → s.state = .authenticated)
    (hpend : admissible = true → Timed s → AtRest s →
      SessionInv { pend s with generation := nextGeneration s.generation } ∧
        (pend s).state.active = true ∧ (pend s).authority = s.authority ∧
        (pend s).serverTimestamp = s.serverTimestamp) :
    SessionStep s ⟨op, .flag (beginRequest s admissible nowUs pend).1⟩
      (beginRequest s admissible nowUs pend).2 := by
  rcases beginRequest_cases s admissible nowUs pend with hr | hr | ⟨hok, hdue, hr⟩
  · rw [hr]
    exact .same hrefused
  · rw [hr]
    exact .failed rfl hrefused
  · rw [hr]
    have hstate := hadmissible hok
    have hactive : s.state.active = true := by rw [hstate]; rfl
    have htimed := hs.timed hactive
    have hrest : AtRest s := by
      apply hs.atRest <;> · rw [hstate]; exact nofun
    obtain ⟨hinv, hafter, hauthority, hserver⟩ := hpend hok htimed hrest
    refine .within _ ?_ hinv
    exact
      { before := hactive
        after := hafter
        authority := hauthority
        began := hbegan
        fresh := fun t ht => by
          rw [htaken, Option.some.injEq] at ht
          exact ht ▸ htimed.fresh hdue
        kept := fun _ => hserver
        later := fun t ht => by rw [htimestamp] at ht; cases ht }

theorem step_beginStatus (hs : SessionInv s) (tag nowUs requestDeadlineUs : Nat) :
    SessionStep s
      ⟨.beginStatus tag nowUs requestDeadlineUs,
        (SessionOp.apply s (.beginStatus tag nowUs requestDeadlineUs)).1⟩
      (SessionOp.apply s (.beginStatus tag nowUs requestDeadlineUs)).2 := by
  refine step_begin hs ⟨rfl, rfl, rfl⟩ rfl rfl rfl
    (fun h => (requestAdmissible_authenticated h).1) ?_
  intro h htimed hrest
  have htag := (requestAdmissible_authenticated h).2
  refine ⟨sessionInv_pending ?_ rfl htag ?_ ?_ fun _ => hrest.cli, rfl, rfl, rfl⟩
  · exact ⟨htimed.order, htimed.idle, htimed.absolute, htimed.timeout⟩
  · exact ⟨fun hne => absurd hrest.mutation hne, nofun⟩
  · exact ⟨fun hne => absurd hrest.query hne, nofun⟩

theorem step_beginQuery (hs : SessionInv s) (query : Query)
    (offset tag nowUs requestDeadlineUs : Nat) :
    SessionStep s
      ⟨.beginQuery query offset tag nowUs requestDeadlineUs,
        (SessionOp.apply s (.beginQuery query offset tag nowUs requestDeadlineUs)).1⟩
      (SessionOp.apply s (.beginQuery query offset tag nowUs requestDeadlineUs)).2 := by
  refine step_begin hs ⟨rfl, rfl, rfl⟩ rfl rfl rfl (fun h => ?_) ?_
  · simp only [Bool.and_eq_true] at h
    exact (requestAdmissible_authenticated h.1.1).1
  intro h htimed hrest
  simp only [Bool.and_eq_true] at h
  have htag := (requestAdmissible_authenticated h.1.1).2
  have hquery : query ≠ .none := by
    rintro rfl
    have hallowed := h.1.2
    rw [queryAllowed, Bool.and_false] at hallowed
    cases hallowed
  refine ⟨sessionInv_pending ?_ rfl htag ?_ ⟨fun _ => rfl, fun _ => hquery⟩ fun _ => hrest.cli,
    rfl, rfl, rfl⟩
  · exact ⟨htimed.order, htimed.idle, htimed.absolute, htimed.timeout⟩
  · exact ⟨fun hne => absurd hrest.mutation hne, nofun⟩

theorem step_beginMutation (hs : SessionInv s) (mutation : Mutation)
    (tag nowUs requestDeadlineUs : Nat) :
    SessionStep s
      ⟨.beginMutation mutation tag nowUs requestDeadlineUs,
        (SessionOp.apply s (.beginMutation mutation tag nowUs requestDeadlineUs)).1⟩
      (SessionOp.apply s (.beginMutation mutation tag nowUs requestDeadlineUs)).2 := by
  refine step_begin hs ⟨rfl, rfl, rfl⟩ rfl rfl rfl (fun h => ?_) ?_
  · simp only [Bool.and_eq_true] at h
    exact (requestAdmissible_authenticated h.1.1).1
  intro h htimed hrest
  simp only [Bool.and_eq_true] at h
  have htag := (requestAdmissible_authenticated h.1.1).2
  have hmutation : mutation ≠ .none := by
    rintro rfl
    have hcommand := h.1.2
    cases hcommand
  refine ⟨sessionInv_pending ?_ rfl htag ⟨fun _ => rfl, fun _ => hmutation⟩ ?_ fun _ => hrest.cli,
    rfl, rfl, rfl⟩
  · exact ⟨htimed.order, htimed.idle, htimed.absolute, htimed.timeout⟩
  · exact ⟨fun hne => absurd hrest.query hne, nofun⟩

theorem step_beginCli (hs : SessionInv s) (tag : Nat) (sensitive readOnly : Bool)
    (replyProfile : Option CliReplyProfile) (nowUs requestDeadlineUs : Nat) :
    SessionStep s
      ⟨.beginCli tag sensitive readOnly replyProfile nowUs requestDeadlineUs,
        (SessionOp.apply s
          (.beginCli tag sensitive readOnly replyProfile nowUs requestDeadlineUs)).1⟩
      (SessionOp.apply s
        (.beginCli tag sensitive readOnly replyProfile nowUs requestDeadlineUs)).2 := by
  refine step_begin hs ⟨rfl, rfl, rfl⟩ rfl rfl rfl (fun h => ?_) ?_
  · simp only [Bool.and_eq_true] at h
    exact (requestAdmissible_authenticated h.1.1).1
  intro h htimed hrest
  simp only [Bool.and_eq_true] at h
  have htag := (requestAdmissible_authenticated h.1.1).2
  refine ⟨sessionInv_pending ?_ rfl htag ?_ ?_ fun hne => absurd rfl hne, rfl, rfl, rfl⟩
  · exact ⟨htimed.order, htimed.idle, htimed.absolute, htimed.timeout⟩
  · exact ⟨fun hne => absurd hrest.mutation hne, nofun⟩
  · exact ⟨fun hne => absurd hrest.query hne, nofun⟩

theorem Timed.of_authority (h : Timed s) (hauthority : t.authority = s.authority)
    (hidle : t.idleDeadlineUs = s.idleDeadlineUs) : Timed t := by
  have habsolute := congrArg Authority.absoluteDeadlineUs hauthority
  have htimeout := congrArg Authority.idleTimeoutUs hauthority
  dsimp only [Session.authority] at habsolute htimeout
  refine ⟨?_, ?_, ?_, ?_⟩
  · rw [hidle, habsolute]
    exact h.order
  · rw [hidle]
    exact h.idle
  · rw [habsolute]
    exact h.absolute
  · rw [htimeout]
    exact h.timeout

theorem step_cancel {cond : Prop} [Decidable cond] (hs : SessionInv s)
    (hquiet : ∀ b, LogEntry.Quiet ⟨op, .flag b⟩) (hactive : cond → s.state.active = true)
    (hrest : cond → AtRest t) (hauthority : t.authority = s.authority)
    (hidle : t.idleDeadlineUs = s.idleDeadlineUs)
    (hserver : t.serverTimestamp = s.serverTimestamp) :
    SessionStep s ⟨op, .flag (if cond then (true, settle t) else (false, s)).1⟩
      (if cond then (true, settle t) else (false, s)).2 := by
  by_cases hcond : cond
  · rw [if_pos hcond]
    have htimed := (hs.timed (hactive hcond)).of_authority hauthority hidle
    refine .within _ ?_ (sessionInv_settle htimed (hrest hcond))
    exact
      { before := hactive hcond
        after := rfl
        authority := hauthority
        began := (hquiet true).began
        fresh := fun n hn => by rw [(hquiet true).takenAt] at hn; cases hn
        kept := fun _ => hserver
        later := fun n hn => by rw [(hquiet true).timestamp] at hn; cases hn }
  · rw [if_neg hcond]
    exact .same (hquiet false)

theorem step_cancelStatus (hs : SessionInv s) (tag : Nat) :
    SessionStep s ⟨.cancelStatus tag, (SessionOp.apply s (.cancelStatus tag)).1⟩
      (SessionOp.apply s (.cancelStatus tag)).2 := by
  refine step_cancel hs (fun _ => ⟨rfl, rfl, rfl⟩) (fun h => ?_) (fun h => ?_) rfl rfl rfl
  · rw [h.1]
    rfl
  · apply hs.atRest <;> · rw [h.1]; exact nofun

theorem step_cancelQuery (hs : SessionInv s) (query : Query) (tag : Nat) :
    SessionStep s ⟨.cancelQuery query tag, (SessionOp.apply s (.cancelQuery query tag)).1⟩
      (SessionOp.apply s (.cancelQuery query tag)).2 := by
  refine step_cancel hs (fun _ => ⟨rfl, rfl, rfl⟩) (fun h => ?_) (fun h => ?_) rfl rfl rfl
  · rw [h.1]
    rfl
  · refine ⟨not_not.mp fun hne => ?_, rfl, hs.cli (by rw [h.1]; exact nofun)⟩
    have hstate := hs.mutation.mp hne
    rw [h.1] at hstate
    cases hstate

theorem step_cancelMutation (hs : SessionInv s) (mutation : Mutation) (tag : Nat) :
    SessionStep s ⟨.cancelMutation mutation tag, (SessionOp.apply s (.cancelMutation mutation tag)).1⟩
      (SessionOp.apply s (.cancelMutation mutation tag)).2 := by
  refine step_cancel hs (fun _ => ⟨rfl, rfl, rfl⟩) (fun h => ?_) (fun h => ?_) rfl rfl rfl
  · rw [h.1]
    rfl
  · refine ⟨rfl, not_not.mp fun hne => ?_, hs.cli (by rw [h.1]; exact nofun)⟩
    have hstate := hs.query.mp hne
    rw [h.1] at hstate
    cases hstate

theorem clearCli_atRest (hs : SessionInv s) (hstate : s.state = .cliPending) :
    AtRest (clearCli s) := by
  refine ⟨not_not.mp fun hne => ?_, not_not.mp fun hne => ?_, rfl, rfl, rfl⟩
  · have hother := hs.mutation.mp hne
    rw [hstate] at hother
    cases hother
  · have hother := hs.query.mp hne
    rw [hstate] at hother
    cases hother

theorem step_cancelCli (hs : SessionInv s) (tag : Nat) :
    SessionStep s ⟨.cancelCli tag, (SessionOp.apply s (.cancelCli tag)).1⟩
      (SessionOp.apply s (.cancelCli tag)).2 := by
  refine step_cancel hs (fun _ => ⟨rfl, rfl, rfl⟩) (fun h => ?_) (fun h => ?_) rfl rfl rfl
  · rw [h.1]
    rfl
  · exact clearCli_atRest hs h.1

theorem step_accept {pending : AdminState} {peer : Option Key} {read : ResponseResult × Session}
    (hs : SessionInv s) (hpending : pending.active = true)
    (hunmatched : LogEntry.Quiet ⟨op, .response .unmatched⟩)
    (hexpired : LogEntry.Quiet ⟨op, .response .expired⟩)
    (hread : s.state = pending → s.state.active = true →
      nowUs < s.idleDeadlineUs ∧ nowUs < s.absoluteDeadlineUs →
      SessionStep s ⟨op, .response read.1⟩ read.2) :
    SessionStep s ⟨op, .response (acceptResponse s pending peer nowUs read).1⟩
      (acceptResponse s pending peer nowUs read).2 := by
  rcases acceptResponse_cases s pending peer nowUs read with hr | hr | ⟨hstate, _, hdue, hr⟩
  · rw [hr]
    exact .same hunmatched
  · rw [hr]
    exact .failed rfl hexpired
  · rw [hr]
    have hactive : s.state.active = true := hstate ▸ hpending
    exact hread hstate hactive ((hs.timed hactive).fresh hdue)

theorem step_complete {e : LogEntry} {tag : Nat} (hs : SessionInv s)
    (hactive : s.state.active = true) (hrest : AtRest t) (hauthority : t.authority = s.authority)
    (hidle : t.idleDeadlineUs = s.idleDeadlineUs) (hbegan : e.began = none)
    (hfresh : nowUs < s.idleDeadlineUs ∧ nowUs < s.absoluteDeadlineUs)
    (htaken : e.takenAt = some nowUs)
    (hkept : e.timestamp = none → t.serverTimestamp = s.serverTimestamp)
    (hlater : ∀ n, e.timestamp = some n → s.serverTimestamp < n ∧ t.serverTimestamp = n) :
    SessionStep s e (complete t tag nowUs) := by
  have htimed := (hs.timed hactive).of_authority hauthority hidle
  refine .within _ ?_ (sessionInv_complete htimed hrest tag nowUs)
  exact
    { before := hactive
      after := rfl
      authority := hauthority
      began := hbegan
      fresh := fun n hn => by
        rw [htaken, Option.some.injEq] at hn
        exact hn ▸ hfresh
      kept := hkept
      later := hlater }

theorem step_acceptStatus (hs : SessionInv s) (peer : Option Key)
    (plaintext : Option (List UInt8)) (nowUs : Nat) :
    SessionStep s
      ⟨.acceptStatus peer plaintext nowUs,
        (SessionOp.apply s (.acceptStatus peer plaintext nowUs)).1⟩
      (SessionOp.apply s (.acceptStatus peer plaintext nowUs)).2 := by
  refine step_accept hs rfl ⟨rfl, rfl, rfl⟩ ⟨rfl, rfl, rfl⟩ ?_
  intro hstate hactive hfresh
  have hrest : AtRest s := by
    apply hs.atRest <;> · rw [hstate]; exact nofun
  rcases takeStatus_cases s plaintext nowUs with hr | hr | ⟨status, tag, hr⟩
  · rw [hr]
    exact .same ⟨rfl, rfl, rfl⟩
  · rw [hr]
    exact .same ⟨rfl, rfl, rfl⟩
  · rw [hr]
    exact step_complete hs hactive ⟨hrest.mutation, hrest.query, hrest.cli⟩ rfl rfl rfl hfresh rfl
      (fun _ => rfl) nofun

theorem step_acceptQuery (hs : SessionInv s) (peer : Option Key)
    (plaintext : Option (List UInt8)) (nowUs : Nat) :
    SessionStep s
      ⟨.acceptQuery peer plaintext nowUs,
        (SessionOp.apply s (.acceptQuery peer plaintext nowUs)).1⟩
      (SessionOp.apply s (.acceptQuery peer plaintext nowUs)).2 := by
  refine step_accept hs rfl ⟨rfl, rfl, rfl⟩ ⟨rfl, rfl, rfl⟩ ?_
  intro hstate hactive hfresh
  have hmutation : s.pendingMutation = .none := not_not.mp fun hne => by
    have hother := hs.mutation.mp hne
    rw [hstate] at hother
    cases hother
  have hcli := hs.cli (by rw [hstate]; exact nofun)
  rcases takeQuery_cases s plaintext nowUs with hr | hr | ⟨parsed, tag, hr⟩
  · rw [hr]
    exact .same ⟨rfl, rfl, rfl⟩
  · rw [hr]
    exact .same ⟨rfl, rfl, rfl⟩
  · rw [hr]
    exact step_complete hs hactive ⟨hmutation, rfl, hcli⟩ rfl rfl rfl hfresh rfl (fun _ => rfl) nofun

theorem step_acceptMutation (hs : SessionInv s) (peer : Option Key) (responseTimestamp : Nat)
    (text : Option (List UInt8)) (nowUs : Nat) :
    SessionStep s
      ⟨.acceptMutation peer responseTimestamp text nowUs,
        (SessionOp.apply s (.acceptMutation peer responseTimestamp text nowUs)).1⟩
      (SessionOp.apply s (.acceptMutation peer responseTimestamp text nowUs)).2 := by
  refine step_accept hs rfl ⟨rfl, rfl, rfl⟩ ⟨rfl, rfl, rfl⟩ ?_
  intro hstate hactive hfresh
  have hquery : s.pendingQuery = .none := not_not.mp fun hne => by
    have hother := hs.query.mp hne
    rw [hstate] at hother
    cases hother
  have hcli := hs.cli (by rw [hstate]; exact nofun)
  rcases takeMutation_cases s responseTimestamp text nowUs with hr | hr | ⟨hlater, success, hr⟩
  · rw [hr]
    exact .same ⟨rfl, rfl, rfl⟩
  · rw [hr]
    exact .same ⟨rfl, rfl, rfl⟩
  · rw [hr]
    cases success with
    | true =>
      exact step_complete hs hactive ⟨rfl, hquery, hcli⟩ rfl rfl rfl hfresh rfl nofun
        fun n hn => by cases hn; exact ⟨hlater, rfl⟩
    | false =>
      exact step_complete hs hactive ⟨rfl, hquery, hcli⟩ rfl rfl rfl hfresh rfl nofun
        fun n hn => by cases hn; exact ⟨hlater, rfl⟩

theorem step_acceptCli (hs : SessionInv s) (peer : Option Key) (responseTimestamp : Nat)
    (text : Option (List UInt8)) (nowUs : Nat) :
    SessionStep s
      ⟨.acceptCli peer responseTimestamp text nowUs,
        (SessionOp.apply s (.acceptCli peer responseTimestamp text nowUs)).1⟩
      (SessionOp.apply s (.acceptCli peer responseTimestamp text nowUs)).2 := by
  refine step_accept hs rfl ⟨rfl, rfl, rfl⟩ ⟨rfl, rfl, rfl⟩ ?_
  intro hstate hactive hfresh
  have hrest := clearCli_atRest hs hstate
  rcases takeCli_cases s responseTimestamp text nowUs with
    hr | ⟨hlater, rejected, redacted, success, reply, hr⟩
  · rw [hr]
    exact .same ⟨rfl, rfl, rfl⟩
  · rw [hr]
    cases rejected with
    | true =>
      exact step_complete hs hactive ⟨hrest.mutation, hrest.query, hrest.cli⟩ rfl rfl rfl hfresh
        rfl nofun fun n hn => by cases hn; exact ⟨hlater, rfl⟩
    | false =>
      exact step_complete hs hactive ⟨hrest.mutation, hrest.query, hrest.cli⟩ rfl rfl rfl hfresh
        rfl nofun fun n hn => by cases hn; exact ⟨hlater, rfl⟩

theorem step_noteActivity (hs : SessionInv s) (nowUs : Nat) :
    SessionStep s ⟨.noteActivity nowUs, (SessionOp.apply s (.noteActivity nowUs)).1⟩
      (SessionOp.apply s (.noteActivity nowUs)).2 := by
  rw [SessionOp.apply, noteAuthenticatedActivity]
  cases hactive : s.state.active with
  | false => exact .same ⟨rfl, rfl, rfl⟩
  | true =>
    rw [if_pos rfl]
    cases authenticatedDeadlineDue s nowUs with
    | true => exact .failed rfl ⟨rfl, rfl, rfl⟩
    | false =>
      refine .within _ ?_ (hs.refresh hactive nowUs)
      exact
        { before := hactive
          after := hactive
          authority := rfl
          began := rfl
          fresh := nofun
          kept := fun _ => rfl
          later := nofun }

theorem step_expireIfDue (s : Session) (nowUs : Nat) :
    SessionStep s ⟨.expireIfDue nowUs, (SessionOp.apply s (.expireIfDue nowUs)).1⟩
      (SessionOp.apply s (.expireIfDue nowUs)).2 := by
  rw [SessionOp.apply]
  rcases expireIfDue_cases s nowUs with hr | hr
  · rw [hr]
    exact .failed rfl ⟨rfl, rfl, rfl⟩
  · rw [hr]
    exact .same ⟨rfl, rfl, rfl⟩

theorem step_fail (s : Session) (failureState : AdminState) :
    SessionStep s ⟨.fail failureState, (SessionOp.apply s (.fail failureState)).1⟩
      (SessionOp.apply s (.fail failureState)).2 := by
  rw [SessionOp.apply, Admin.fail]
  cases hfailure : failureState.failure with
  | true => exact .failed hfailure ⟨rfl, rfl, rfl⟩
  | false => exact .same ⟨rfl, rfl, rfl⟩

theorem apply_step (hs : SessionInv s) (op : SessionOp) :
    SessionStep s ⟨op, (op.apply s).1⟩ (op.apply s).2 := by
  cases op with
  | beginLogin args => exact step_beginLogin s args
  | acceptLogin reply => exact step_acceptLogin hs reply
  | beginStatus tag nowUs deadline => exact step_beginStatus hs tag nowUs deadline
  | cancelStatus tag => exact step_cancelStatus hs tag
  | acceptStatus peer plaintext nowUs => exact step_acceptStatus hs peer plaintext nowUs
  | beginQuery query offset tag nowUs deadline =>
    exact step_beginQuery hs query offset tag nowUs deadline
  | cancelQuery query tag => exact step_cancelQuery hs query tag
  | acceptQuery peer plaintext nowUs => exact step_acceptQuery hs peer plaintext nowUs
  | beginMutation mutation tag nowUs deadline =>
    exact step_beginMutation hs mutation tag nowUs deadline
  | cancelMutation mutation tag => exact step_cancelMutation hs mutation tag
  | acceptMutation peer responseTimestamp text nowUs =>
    exact step_acceptMutation hs peer responseTimestamp text nowUs
  | beginCli tag sensitive readOnly replyProfile nowUs deadline =>
    exact step_beginCli hs tag sensitive readOnly replyProfile nowUs deadline
  | cancelCli tag => exact step_cancelCli hs tag
  | acceptCli peer responseTimestamp text nowUs =>
    exact step_acceptCli hs peer responseTimestamp text nowUs
  | noteActivity nowUs => exact step_noteActivity hs nowUs
  | expireIfDue nowUs => exact step_expireIfDue s nowUs
  | fail failureState => exact step_fail s failureState
  | reset => exact .cleared _ _ _ rfl ⟨rfl, rfl, rfl⟩

end Steps

end Sigui.Admin

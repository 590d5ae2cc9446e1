import Sigui.AdminSessionSteps
import Sigui.RunRules

/-! Every sequence of admin-session operations, with the calls and their results beside it. -/
namespace Sigui.Admin

section Logs

structure Logged where
  session : Session
  log : List LogEntry

def Logged.apply (w : Logged) (op : SessionOp) : Logged :=
  ⟨(op.apply w.session).2, ⟨op, (op.apply w.session).1⟩ :: w.log⟩

def Logged.start (generation : Nat) : Logged := ⟨.zero .idle .none generation, []⟩

def lastLogin (log : List LogEntry) : Option LoginArgs := log.findSome? LogEntry.began

def sinceLogin (log : List LogEntry) : List LogEntry := log.takeWhile fun e => e.began.isNone

def timestamps (log : List LogEntry) : List Nat := (sinceLogin log).filterMap LogEntry.timestamp

variable {e : LogEntry} {log : List LogEntry}

theorem lastLogin_cons_of_none (h : e.began = none) : lastLogin (e :: log) = lastLogin log := by
  rw [lastLogin, List.findSome?_cons, h]
  rfl

theorem sinceLogin_cons_of_none (h : e.began = none) :
    sinceLogin (e :: log) = e :: sinceLogin log := by
  rw [sinceLogin, List.takeWhile_cons, h]
  rfl

theorem sinceLogin_began {args : LoginArgs} (h : e.began = some args) :
    sinceLogin (e :: log) = [] := by
  rw [sinceLogin, List.takeWhile_cons, h]
  rfl

theorem timestamps_cons_of_none (h : e.began = none) (ht : e.timestamp = none) :
    timestamps (e :: log) = timestamps log := by
  rw [timestamps, sinceLogin_cons_of_none h, List.filterMap_cons_none ht]
  rfl

theorem timestamps_cons_of_some (h : e.began = none) {t : Nat} (ht : e.timestamp = some t) :
    timestamps (e :: log) = t :: timestamps log := by
  rw [timestamps, sinceLogin_cons_of_none h, List.filterMap_cons_some ht]
  rfl

end Logs

section Invariant

/-- The session is the one this login response opened after these arguments began it. -/
structure LoggedIn (w : Logged) (args : LoginArgs) (reply : LoginReply) : Prop where
  began : lastLogin w.log = some args
  accepted : ⟨.acceptLogin reply, .response .accepted⟩ ∈ sinceLogin w.log
  peer : reply.peer = some w.session.peerPublicKey
  bound : args.peerPublicKey = some w.session.peerPublicKey
  role : w.session.role = args.role
  permissions : w.session.permissions = reply.bytes.getD 7 0
  firmware : w.session.firmwareLevel = reply.bytes.getD 12 0
  absolute : w.session.absoluteDeadlineUs = deadlineAfter reply.nowUs args.absoluteTimeoutUs

structure LogInv (w : Logged) : Prop where
  inv : SessionInv w.session
  waiting : w.session.state = .loginPending → ∃ args : LoginArgs, lastLogin w.log = some args ∧
    args.valid = true ∧ w.session = args.session w.session.generation ∧ timestamps w.log = []
  loggedIn : w.session.state.active = true → ∃ args reply, LoggedIn w args reply
  ordered : (timestamps w.log).Pairwise (· > ·)
  latest : w.session.state.active = true → ∀ t ∈ timestamps w.log, t ≤ w.session.serverTimestamp

theorem logInv_start (generation : Nat) : LogInv (.start generation) where
  inv := .zero rfl _ _
  waiting h := by cases h
  loggedIn h := by cases h
  ordered := List.Pairwise.nil
  latest h := by cases h

variable {s s' : Session} {log : List LogEntry} {e : LogEntry}

theorem LogInv.quiet (h : LogInv ⟨s, log⟩) (he : e.Quiet) : LogInv ⟨s, e :: log⟩ where
  inv := h.inv
  waiting hstate := by
    rw [lastLogin_cons_of_none he.began, timestamps_cons_of_none he.began he.timestamp]
    exact h.waiting hstate
  loggedIn hactive := by
    obtain ⟨args, reply, hin⟩ := h.loggedIn hactive
    refine ⟨args, reply, ?_, ?_, hin.peer, hin.bound, hin.role, hin.permissions, hin.firmware,
      hin.absolute⟩
    · rw [lastLogin_cons_of_none he.began]
      exact hin.began
    · rw [sinceLogin_cons_of_none he.began]
      exact List.mem_cons_of_mem _ hin.accepted
  ordered := by
    rw [timestamps_cons_of_none he.began he.timestamp]
    exact h.ordered
  latest hactive := by
    rw [timestamps_cons_of_none he.began he.timestamp]
    exact h.latest hactive

theorem LogInv.cleared (h : LogInv ⟨s, log⟩) {state : AdminState} (hstate : state.over = true)
    (role : Role) (generation : Nat) (he : e.Quiet) :
    LogInv ⟨.zero state role generation, e :: log⟩ := by
  obtain ⟨hlogin, hactive⟩ := AdminState.over_iff.mp hstate
  exact
    { inv := .zero hstate _ _
      waiting := fun heq => absurd heq hlogin
      loggedIn := fun heq => absurd (hactive.symm.trans heq) nofun
      ordered := (h.quiet he).ordered
      latest := fun heq => absurd (hactive.symm.trans heq) nofun }

theorem LogInv.began {args : LoginArgs} (hvalid : args.valid = true)
    (generation : Nat) : LogInv ⟨args.session generation, ⟨.beginLogin args, .flag true⟩ :: log⟩ := by
  have hempty : timestamps (⟨.beginLogin args, .flag true⟩ :: log) = [] := by
    rw [timestamps, @sinceLogin_began _ _ args rfl]
    rfl
  exact
    { inv := .session hvalid _
      waiting := fun _ => ⟨args, rfl, hvalid, rfl, hempty⟩
      loggedIn := fun heq => by cases heq
      ordered := by rw [hempty]; exact List.Pairwise.nil
      latest := fun heq => by cases heq }

theorem LogInv.login (h : LogInv ⟨s, log⟩) {reply : LoginReply} (hstate : s.state = .loginPending)
    (hpeer : reply.peer = some s.peerPublicKey) :
    LogInv ⟨authenticate s reply.bytes reply.nowUs,
      ⟨.acceptLogin reply, .response .accepted⟩ :: log⟩ := by
  obtain ⟨args, hlast, hvalid, hs, hempty⟩ := h.waiting hstate
  dsimp only at hs hlast hempty
  have htimes : timestamps (⟨.acceptLogin reply, .response .accepted⟩ :: log) =
      [readLe32 reply.bytes 0] := by
    rw [timestamps_cons_of_some (t := readLe32 reply.bytes 0) rfl rfl, hempty]
  have hbound : args.peerPublicKey = some s.peerPublicKey := by
    rw [hs]
    have hsome := hvalid
    simp only [LoginArgs.valid, Bool.and_eq_true] at hsome
    obtain ⟨key, hkey⟩ := Option.isSome_iff_exists.mp hsome.1.1.1.1.1.1.1
    rw [hkey]
    exact congrArg some (by rw [LoginArgs.session, hkey]; rfl)
  refine
    { inv := h.inv.authenticate hstate _ _
      waiting := fun heq => by cases heq
      loggedIn := fun _ => ⟨args, reply, ?_⟩
      ordered := by rw [htimes]; exact List.pairwise_singleton _ _
      latest := fun _ t ht => ?_ }
  · refine ⟨hlast, List.mem_cons_self, hpeer, hbound, ?_, rfl, rfl, ?_⟩
    · exact congrArg Session.role hs
    · have htimeout := congrArg Session.absoluteTimeoutUs hs
      change deadlineAfter reply.nowUs s.absoluteTimeoutUs = _
      rw [htimeout]
      rfl
  · rw [htimes, List.mem_singleton] at ht
    exact ht.le

theorem LogInv.within (h : LogInv ⟨s, log⟩) (hw : Within s e s') (hinv : SessionInv s') :
    LogInv ⟨s', e :: log⟩ where
  inv := hinv
  waiting heq := by
    have hafter := hw.after
    rw [show s'.state = .loginPending from heq] at hafter
    cases hafter
  loggedIn _ := by
    obtain ⟨args, reply, hin⟩ := h.loggedIn hw.before
    have hauthority := hw.authority
    simp only [Session.authority, Authority.mk.injEq] at hauthority
    obtain ⟨hrole, hkey, _, _, hpermissions, hfirmware, _, _, habsolute⟩ := hauthority
    refine ⟨args, reply, ?_, ?_, ?_, ?_, ?_, ?_, ?_, ?_⟩
    · rw [lastLogin_cons_of_none hw.began]
      exact hin.began
    · rw [sinceLogin_cons_of_none hw.began]
      exact List.mem_cons_of_mem _ hin.accepted
    · exact hin.peer.trans (congrArg some hkey.symm)
    · exact hin.bound.trans (congrArg some hkey.symm)
    · exact hrole.trans hin.role
    · exact hpermissions.trans hin.permissions
    · exact hfirmware.trans hin.firmware
    · exact habsolute.trans hin.absolute
  ordered := by
    cases ht : e.timestamp with
    | none =>
      rw [timestamps_cons_of_none hw.began ht]
      exact h.ordered
    | some t =>
      rw [timestamps_cons_of_some hw.began ht]
      refine List.pairwise_cons.mpr ⟨fun t' ht' => ?_, h.ordered⟩
      exact (h.latest hw.before t' ht').trans_lt (hw.later t ht).1
  latest _ t' ht' := by
    cases ht : e.timestamp with
    | none =>
      rw [timestamps_cons_of_none hw.began ht] at ht'
      exact (h.latest hw.before t' ht').trans_eq (hw.kept ht).symm
    | some t =>
      obtain ⟨hlt, hnow⟩ := hw.later t ht
      rw [timestamps_cons_of_some hw.began ht] at ht'
      rw [hnow]
      rcases List.mem_cons.mp ht' with rfl | ht'
      · exact le_rfl
      · exact ((h.latest hw.before t' ht').trans_lt hlt).le

theorem LogInv.step {w : Logged} (h : LogInv w) (op : SessionOp) : LogInv (w.apply op) := by
  obtain ⟨s, log⟩ := w
  have hstep := apply_step h.inv op
  unfold Logged.apply
  dsimp only
  generalize (op.apply s).2 = s' at hstep ⊢
  cases hstep with
  | same he => exact h.quiet he
  | cleared state role generation hstate he => exact h.cleared hstate role generation he
  | began args generation he hvalid =>
    rw [he]
    exact .began hvalid generation
  | loggedIn reply he hstate hpeer =>
    rw [he]
    exact h.login hstate hpeer
  | within _ hw hinv => exact h.within hw hinv

end Invariant

structure SessionSafe (w : Logged) : Prop where
  /-- Logged in only through an accepted response of the bound peer, with its authority. -/
  authority : w.session.state.active = true → ∃ args reply, LoggedIn w args reply
  /-- Idle or failed, nothing is left but the state, the role and the generation. -/
  wiped : w.session.state.over = true →
    w.session = .zero w.session.state w.session.role w.session.generation
  deadlines : w.session.idleDeadlineUs ≤ w.session.absoluteDeadlineUs
  absolute : ∀ op : SessionOp, w.session.state.active = true →
    (w.apply op).session.state.active = true →
    (w.apply op).session.absoluteDeadlineUs = w.session.absoluteDeadlineUs
  fresh : ∀ (op : SessionOp) (nowUs : Nat),
    LogEntry.takenAt ⟨op, (op.apply w.session).1⟩ = some nowUs →
    nowUs < w.session.idleDeadlineUs ∧ nowUs < w.session.absoluteDeadlineUs
  tag : w.session.pendingTag ≠ 0 ↔ w.session.state.requestPending = true
  mutation : w.session.pendingMutation ≠ .none ↔ w.session.state = .mutationPending
  query : w.session.pendingQuery ≠ .none ↔ w.session.state = .queryPending
  cli : w.session.state ≠ .cliPending → w.session.pendingCliSensitive = false ∧
    w.session.pendingCliReadOnly = false ∧ w.session.pendingCliReplyProfile = .default
  timestamps : (timestamps w.log).Pairwise (· > ·)

theorem SessionInv.deadlines {s : Session} (h : SessionInv s) :
    s.idleDeadlineUs ≤ s.absoluteDeadlineUs := by
  cases hactive : s.state.active with
  | true => exact (h.timed hactive).order
  | false =>
    by_cases hlogin : s.state = .loginPending
    · obtain ⟨args, _, hs⟩ := h.waiting hlogin
      rw [hs]
      exact le_rfl
    · rw [h.cleared (AdminState.over_iff.mpr ⟨hlogin, hactive⟩)]
      exact le_rfl

theorem SessionStep.absolute {s s' : Session} {e : LogEntry} (h : SessionStep s e s')
    (hbefore : s.state.active = true) (hafter : s'.state.active = true) :
    s'.absoluteDeadlineUs = s.absoluteDeadlineUs := by
  cases h with
  | same => rfl
  | cleared state role generation hstate =>
    exact absurd ((AdminState.over_iff.mp hstate).2.symm.trans hafter) nofun
  | began => cases hafter
  | loggedIn reply _ hstate =>
    rw [hstate] at hbefore
    cases hbefore
  | within _ hw => exact congrArg Authority.absoluteDeadlineUs hw.authority

theorem SessionStep.fresh {s s' : Session} {e : LogEntry} (h : SessionStep s e s') {nowUs : Nat}
    (ht : e.takenAt = some nowUs) : nowUs < s.idleDeadlineUs ∧ nowUs < s.absoluteDeadlineUs := by
  cases h with
  | same he => rw [he.takenAt] at ht; cases ht
  | cleared state role generation hstate he => rw [he.takenAt] at ht; cases ht
  | began args generation he => rw [he] at ht; cases ht
  | loggedIn reply he => rw [he] at ht; cases ht
  | within _ hw => exact hw.fresh nowUs ht

theorem LogInv.safe {w : Logged} (h : LogInv w) : SessionSafe w where
  authority := h.loggedIn
  wiped := h.inv.cleared
  deadlines := h.inv.deadlines
  absolute op := (apply_step h.inv op).absolute
  fresh op _ := (apply_step h.inv op).fresh
  tag := h.inv.tag
  mutation := h.inv.mutation
  query := h.inv.query
  cli := h.inv.cli
  timestamps := h.ordered

/-- After any sequence of operations, whatever their arguments and times. -/
theorem admin_session_safe (generation : Nat) (ops : List SessionOp) :
    SessionSafe (runSteps Logged.apply (.start generation) ops) :=
  LogInv.safe (run_always (fun _ op hw => hw.step op) ops (logInv_start generation))

end Sigui.Admin

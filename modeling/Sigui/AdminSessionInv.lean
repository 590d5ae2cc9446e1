import Sigui.AdminSession

/-! What every operation keeps of an admin session. -/
namespace Sigui.Admin

section Rules

def AdminState.over (state : AdminState) : Bool := decide (state = .idle) || state.failure

theorem AdminState.over_iff {state : AdminState} :
    state.over = true ↔ state ≠ .loginPending ∧ state.active = false := by
  cases state <;> decide

theorem requestPending_active {state : AdminState} (h : state.requestPending = true) :
    state.active = true := by
  rw [AdminState.active, h, Bool.or_true]

theorem deadlineAfter_ne_zero {nowUs timeoutUs : Nat} (h : timeoutUs ≠ 0) :
    deadlineAfter nowUs timeoutUs ≠ 0 := by
  unfold deadlineAfter
  split
  · decide
  · omega

theorem deadlineDue_eq_false {deadlineUs nowUs : Nat} (h : deadlineUs ≠ 0)
    (hdue : deadlineDue deadlineUs nowUs = false) : nowUs < deadlineUs := by
  rw [deadlineDue, decide_eq_true h, Bool.true_and] at hdue
  exact Nat.lt_of_not_le (of_decide_eq_false hdue)

theorem LoginArgs.valid_timeouts {args : LoginArgs} (h : args.valid = true) :
    args.requestDeadlineUs ≠ 0 ∧ args.idleTimeoutUs ≠ 0 ∧ args.absoluteTimeoutUs ≠ 0 := by
  simp only [LoginArgs.valid, Bool.and_eq_true, decide_eq_true_eq] at h
  exact ⟨h.1.1.1.1.2, h.1.1.1.2, h.1.1.2⟩

structure Timed (s : Session) : Prop where
  order : s.idleDeadlineUs ≤ s.absoluteDeadlineUs
  idle : s.idleDeadlineUs ≠ 0
  absolute : s.absoluteDeadlineUs ≠ 0
  timeout : s.idleTimeoutUs ≠ 0

theorem Timed.refresh {s : Session} (h : Timed s) (nowUs : Nat) :
    Timed (refreshIdleDeadline s nowUs) where
  order := Nat.min_le_right _ _
  idle hzero := by
    rcases Nat.min_eq_zero_iff.mp hzero with hnow | habs
    · exact deadlineAfter_ne_zero h.timeout hnow
    · exact h.absolute habs
  absolute := h.absolute
  timeout := h.timeout

theorem Timed.fresh {s : Session} (h : Timed s) {nowUs : Nat}
    (hdue : authenticatedDeadlineDue s nowUs = false) :
    nowUs < s.idleDeadlineUs ∧ nowUs < s.absoluteDeadlineUs := by
  rw [authenticatedDeadlineDue, Bool.or_eq_false_iff] at hdue
  exact ⟨deadlineDue_eq_false h.idle hdue.1, deadlineDue_eq_false h.absolute hdue.2⟩

structure AtRest (s : Session) : Prop where
  mutation : s.pendingMutation = .none
  query : s.pendingQuery = .none
  cli : s.pendingCliSensitive = false ∧ s.pendingCliReadOnly = false ∧
    s.pendingCliReplyProfile = .default

structure SessionInv (s : Session) : Prop where
  cleared : s.state.over = true → s = .zero s.state s.role s.generation
  timed : s.state.active = true → Timed s
  waiting : s.state = .loginPending → ∃ args : LoginArgs, args.valid = true ∧
    s = args.session s.generation
  tag : s.pendingTag ≠ 0 ↔ s.state.requestPending = true
  mutation : s.pendingMutation ≠ .none ↔ s.state = .mutationPending
  query : s.pendingQuery ≠ .none ↔ s.state = .queryPending
  cli : s.state ≠ .cliPending → s.pendingCliSensitive = false ∧ s.pendingCliReadOnly = false ∧
    s.pendingCliReplyProfile = .default

variable {s : Session}

theorem SessionInv.zero {state : AdminState} (h : state.over = true) (role : Role)
    (generation : Nat) : SessionInv (.zero state role generation) := by
  obtain ⟨hlogin, hactive⟩ := AdminState.over_iff.mp h
  have hrequest : state.requestPending = false := by
    cases hpending : state.requestPending with
    | false => rfl
    | true => rw [requestPending_active hpending] at hactive; cases hactive
  exact
    { cleared := fun _ => rfl
      timed := fun heq => absurd (hactive.symm.trans heq) nofun
      waiting := fun heq => absurd heq hlogin
      tag := ⟨fun hne => absurd rfl hne, fun heq => absurd (hrequest.symm.trans heq) nofun⟩
      mutation := ⟨fun hne => absurd rfl hne, fun heq => by
        rw [show state = .mutationPending from heq] at hrequest; cases hrequest⟩
      query := ⟨fun hne => absurd rfl hne, fun heq => by
        rw [show state = .queryPending from heq] at hrequest; cases hrequest⟩
      cli := fun _ => ⟨rfl, rfl, rfl⟩ }

theorem SessionInv.session {args : LoginArgs} (h : args.valid = true) (generation : Nat) :
    SessionInv (args.session generation) where
  cleared heq := by cases heq
  timed heq := by cases heq
  waiting _ := ⟨args, h, rfl⟩
  tag := ⟨fun hne => absurd rfl hne, fun heq => by cases heq⟩
  mutation := ⟨fun hne => absurd rfl hne, fun heq => by cases heq⟩
  query := ⟨fun hne => absurd rfl hne, fun heq => by cases heq⟩
  cli _ := ⟨rfl, rfl, rfl⟩

theorem sessionInv_of_rest (hstate : s.state = .authenticated) (htimed : Timed s)
    (hrest : AtRest s) (htag : s.pendingTag = 0) : SessionInv s where
  cleared heq := by rw [hstate] at heq; cases heq
  timed _ := htimed
  waiting heq := by rw [hstate] at heq; cases heq
  tag := ⟨fun hne => absurd htag hne, fun heq => by rw [hstate] at heq; cases heq⟩
  mutation := ⟨fun hne => absurd hrest.mutation hne, fun heq => by rw [hstate] at heq; cases heq⟩
  query := ⟨fun hne => absurd hrest.query hne, fun heq => by rw [hstate] at heq; cases heq⟩
  cli _ := hrest.cli

theorem SessionInv.atRest (h : SessionInv s) (hmutation : s.state ≠ .mutationPending)
    (hquery : s.state ≠ .queryPending) (hcli : s.state ≠ .cliPending) : AtRest s where
  mutation := not_not.mp fun hne => hmutation (h.mutation.mp hne)
  query := not_not.mp fun hne => hquery (h.query.mp hne)
  cli := h.cli hcli

theorem SessionInv.authenticate (h : SessionInv s) (hstate : s.state = .loginPending)
    (bytes : List UInt8) (nowUs : Nat) : SessionInv (authenticate s bytes nowUs) := by
  obtain ⟨args, hvalid, hs⟩ := h.waiting hstate
  have htimeouts := (LoginArgs.valid_timeouts hvalid).2
  have habsolute : deadlineAfter nowUs s.absoluteTimeoutUs ≠ 0 := by
    rw [hs]
    exact deadlineAfter_ne_zero htimeouts.2
  have hidle : s.idleTimeoutUs ≠ 0 := by
    rw [hs]
    exact htimeouts.1
  have htag : s.pendingTag = 0 := by rw [hs]; rfl
  have hrest : AtRest s := by rw [hs]; exact ⟨rfl, rfl, rfl, rfl, rfl⟩
  refine sessionInv_of_rest rfl ⟨Nat.min_le_right _ _, ?_, habsolute, hidle⟩
    ⟨hrest.mutation, hrest.query, hrest.cli⟩ htag
  intro hzero
  rcases Nat.min_eq_zero_iff.mp hzero with hnow | habs
  · exact deadlineAfter_ne_zero hidle hnow
  · exact habsolute habs

theorem SessionInv.refresh (h : SessionInv s) (hactive : s.state.active = true) (nowUs : Nat) :
    SessionInv (refreshIdleDeadline s nowUs) where
  cleared heq := by
    have hover := AdminState.over_iff.mp (show s.state.over = true from heq)
    rw [hactive] at hover
    cases hover.2
  timed _ := (h.timed hactive).refresh nowUs
  waiting heq := by
    have hstate : s.state = .loginPending := heq
    rw [hstate] at hactive
    cases hactive
  tag := h.tag
  mutation := h.mutation
  query := h.query
  cli := h.cli

theorem sessionInv_pending (htimed : Timed s) (hstate : s.state.requestPending = true)
    (htag : s.pendingTag ≠ 0) (hmutation : s.pendingMutation ≠ .none ↔ s.state = .mutationPending)
    (hquery : s.pendingQuery ≠ .none ↔ s.state = .queryPending)
    (hcli : s.state ≠ .cliPending → s.pendingCliSensitive = false ∧ s.pendingCliReadOnly = false ∧
      s.pendingCliReplyProfile = .default) : SessionInv s where
  cleared heq := by
    have hover := (AdminState.over_iff.mp heq).2
    rw [requestPending_active hstate] at hover
    cases hover
  timed _ := htimed
  waiting heq := by rw [heq] at hstate; cases hstate
  tag := ⟨fun _ => hstate, fun _ => htag⟩
  mutation := hmutation
  query := hquery
  cli := hcli

theorem sessionInv_settle (htimed : Timed s) (hrest : AtRest s) : SessionInv (settle s) :=
  sessionInv_of_rest rfl ⟨htimed.order, htimed.idle, htimed.absolute, htimed.timeout⟩
    ⟨hrest.mutation, hrest.query, hrest.cli⟩ rfl

theorem sessionInv_complete (htimed : Timed s) (hrest : AtRest s) (tag nowUs : Nat) :
    SessionInv (complete s tag nowUs) := by
  have htagged : Timed { s with lastCompletedTag := tag } :=
    ⟨htimed.order, htimed.idle, htimed.absolute, htimed.timeout⟩
  exact sessionInv_settle (htagged.refresh nowUs) ⟨hrest.mutation, hrest.query, hrest.cli⟩

end Rules

section Cases

variable {s : Session}

theorem acceptLoginResponse_cases (s : Session) (cache : ReplayCache) (peer : Option Key)
    (plaintext : Option (List UInt8)) (nowUs : Nat) :
    acceptLoginResponse s cache peer plaintext nowUs = (.unmatched, s, cache) ∨
      (s.state = .loginPending ∧ ∃ result state, result ≠ .accepted ∧ state.failure = true ∧
        (result = .malformed → state = .unsupportedProtocol) ∧
        acceptLoginResponse s cache peer plaintext nowUs = (result, failed s state, cache)) ∨
      (s.state = .loginPending ∧ peer = some s.peerPublicKey ∧
        deadlineDue s.requestDeadlineUs nowUs = false ∧ readLe32 (plaintext.getD []) 0 ≠ 0 ∧
        acceptLoginResponse s cache peer plaintext nowUs =
          (.accepted, authenticate s (plaintext.getD []) nowUs,
            replayCacheRemember cache s.peerPublicKey (loginResponse (plaintext.getD []))
              (readLe32 (plaintext.getD []) 0))) := by
  generalize hr : acceptLoginResponse s cache peer plaintext nowUs = r
  rw [acceptLoginResponse] at hr
  by_cases hmatch : s.state = .loginPending ∧ peerMatches s peer = true
  · rw [if_pos hmatch] at hr
    have hfailed : ∀ (result : ResponseResult) (state : AdminState), result ≠ .accepted →
        state.failure = true → (result = .malformed → state = .unsupportedProtocol) →
        (result, failed s state, cache) = r →
        ∃ result state, result ≠ .accepted ∧ state.failure = true ∧
          (result = .malformed → state = .unsupportedProtocol) ∧
          r = (result, failed s state, cache) :=
      fun result state hne hstate hmalformed heq =>
        ⟨result, state, hne, hstate, hmalformed, heq.symm⟩
    refine .inr ?_
    cases hdue : deadlineDue s.requestDeadlineUs nowUs with
    | true =>
      rw [hdue, if_pos rfl] at hr
      exact .inl ⟨hmatch.1, hfailed .expired .timedOut nofun rfl nofun hr⟩
    | false =>
      rw [hdue, if_neg nofun] at hr
      cases hspan : canonicalSpan plaintext loginResponseBytes with
      | false =>
        rw [hspan, if_neg nofun] at hr
        exact .inl ⟨hmatch.1, hfailed .malformed .unsupportedProtocol nofun rfl (fun _ => rfl) hr⟩
      | true =>
        rw [hspan, if_pos rfl] at hr
        dsimp only at hr
        split at hr
        · exact .inl ⟨hmatch.1, hfailed .rejected .rejectedCredentials nofun rfl nofun hr⟩
        split at hr
        · exact .inl ⟨hmatch.1, hfailed .malformed .unsupportedProtocol nofun rfl (fun _ => rfl) hr⟩
        by_cases hzero : readLe32 (plaintext.getD []) 0 = 0
        · rw [if_pos hzero] at hr
          exact .inl ⟨hmatch.1, hfailed .malformed .unsupportedProtocol nofun rfl (fun _ => rfl) hr⟩
        rw [if_neg hzero] at hr
        split at hr
        · exact .inl ⟨hmatch.1, hfailed .replayed .volatileReplayRejected nofun rfl nofun hr⟩
        · exact .inr ⟨hmatch.1, of_decide_eq_true hmatch.2, rfl, hzero, hr.symm⟩
  · rw [if_neg hmatch] at hr
    exact .inl hr.symm

theorem beginRequest_cases (s : Session) (admissible : Bool) (nowUs : Nat)
    (pend : Session → Session) :
    beginRequest s admissible nowUs pend = (false, s) ∨
      beginRequest s admissible nowUs pend = (false, timeout s) ∨
      (admissible = true ∧ authenticatedDeadlineDue s nowUs = false ∧
        beginRequest s admissible nowUs pend =
          (true, { pend s with generation := nextGeneration s.generation })) := by
  rw [beginRequest]
  cases admissible with
  | false => exact .inl rfl
  | true =>
    rw [if_pos rfl]
    cases authenticatedDeadlineDue s nowUs with
    | true => exact .inr (.inl rfl)
    | false => exact .inr (.inr ⟨rfl, rfl, rfl⟩)

theorem acceptResponse_cases (s : Session) (pending : AdminState) (peer : Option Key) (nowUs : Nat)
    (read : ResponseResult × Session) :
    acceptResponse s pending peer nowUs read = (.unmatched, s) ∨
      acceptResponse s pending peer nowUs read = (.expired, timeout s) ∨
      (s.state = pending ∧ peer = some s.peerPublicKey ∧
        authenticatedDeadlineDue s nowUs = false ∧
        acceptResponse s pending peer nowUs read = read) := by
  rw [acceptResponse]
  by_cases hmatch : s.state = pending ∧ peerMatches s peer = true
  · rw [if_pos hmatch]
    cases hdue : authenticatedDeadlineDue s nowUs with
    | true => exact .inr (.inl rfl)
    | false =>
      cases deadlineDue s.requestDeadlineUs nowUs with
      | true => exact .inr (.inl rfl)
      | false => exact .inr (.inr ⟨hmatch.1, of_decide_eq_true hmatch.2, rfl, rfl⟩)
  · exact .inl (if_neg hmatch)

theorem expireIfDue_cases (s : Session) (nowUs : Nat) :
    expireIfDue s nowUs = (true, timeout s) ∨ expireIfDue s nowUs = (false, s) := by
  rw [expireIfDue]
  generalize (if s.state = .loginPending then deadlineDue s.requestDeadlineUs nowUs else _) = due
  cases due with
  | true => exact .inl rfl
  | false => exact .inr rfl

theorem takeStatus_cases (s : Session) (plaintext : Option (List UInt8)) (nowUs : Nat) :
    takeStatus s plaintext nowUs = (.malformed, s) ∨ takeStatus s plaintext nowUs = (.unmatched, s) ∨
      ∃ status tag, takeStatus s plaintext nowUs =
        (.accepted, complete { s with status := status, statusValid := true } tag nowUs) := by
  rw [takeStatus]
  split
  · dsimp only
    split
    · exact .inr (.inr ⟨_, _, rfl⟩)
    · exact .inr (.inl rfl)
  · exact .inl rfl

theorem takeQuery_cases (s : Session) (plaintext : Option (List UInt8)) (nowUs : Nat) :
    takeQuery s plaintext nowUs = (.malformed, s) ∨ takeQuery s plaintext nowUs = (.unmatched, s) ∨
      ∃ parsed tag, takeQuery s plaintext nowUs =
        (.accepted,
          complete { s with queryResult := parsed, pendingQuery := .none, pendingQueryOffset := 0 }
            tag nowUs) := by
  cases plaintext with
  | none => exact .inl rfl
  | some bytes =>
    rw [takeQuery]
    split
    · exact .inl rfl
    dsimp only
    split
    · split
      · exact .inl rfl
      · exact .inr (.inr ⟨_, _, rfl⟩)
    · exact .inr (.inl rfl)

theorem replyReadable_later {responseTimestamp maxBytes : Nat} {text : Option (List UInt8)}
    {byteValid : UInt8 → Bool}
    (h : replyReadable s responseTimestamp text maxBytes byteValid = true) :
    s.serverTimestamp < responseTimestamp := by
  cases text with
  | none => cases h
  | some bytes =>
    simp only [replyReadable, Bool.and_eq_true, decide_eq_true_eq] at h
    exact h.1.2

theorem takeMutation_cases (s : Session) (responseTimestamp : Nat) (text : Option (List UInt8))
    (nowUs : Nat) :
    takeMutation s responseTimestamp text nowUs = (.malformed, s) ∨
      takeMutation s responseTimestamp text nowUs = (.unmatched, s) ∨
      (s.serverTimestamp < responseTimestamp ∧ ∃ success : Bool,
        takeMutation s responseTimestamp text nowUs =
          (if success then .accepted else .rejected,
            complete { s with
              serverTimestamp := responseTimestamp
              lastMutation := s.pendingMutation
              lastMutationSuccess := success
              pendingMutation := .none } s.pendingTag nowUs)) := by
  rw [takeMutation]
  split
  · rename_i hreadable
    dsimp only
    split
    · exact .inr (.inl rfl)
    · exact .inr (.inr ⟨replyReadable_later hreadable, _, rfl⟩)
  · exact .inl rfl

theorem takeCli_cases (s : Session) (responseTimestamp : Nat) (text : Option (List UInt8))
    (nowUs : Nat) :
    takeCli s responseTimestamp text nowUs = (.malformed, s) ∨
      (s.serverTimestamp < responseTimestamp ∧ ∃ (rejected redacted success : Bool) (reply : _),
        takeCli s responseTimestamp text nowUs =
          (if rejected then .rejected else .accepted,
            complete (clearCli { s with
              cliReply := reply
              cliReplyRedacted := redacted
              cliReplyValid := true
              cliReplySuccess := success
              serverTimestamp := responseTimestamp }) s.pendingTag nowUs)) := by
  rw [takeCli]
  split
  · rename_i hreadable
    exact .inr ⟨replyReadable_later hreadable, _, _, _, _, rfl⟩
  · exact .inl rfl

end Cases

end Sigui.Admin

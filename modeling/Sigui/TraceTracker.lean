import Sigui.Clock
import Mathlib.Tactic.SplitIfs
import Mathlib.Data.List.Basic

/-! The tracker that correlates a TRACE answer with the attempt that asked for it. -/
namespace Sigui.Trace

def traceMaxHops : Nat := 63
def traceMaxHashBytes : Nat := 8
/-- `D1L_MESHCORE_MAX_PACKET_PAYLOAD - D1L_MESHCORE_TRACE_FIXED_BYTES` -/
def traceMaxPathBytes : Nat := 184 - 9
def tracePendingTimeoutMs : Nat := 30000
def traceCooldownMs : Nat := 30000
def traceDuplicateWindowMs : Nat := 60000

/-- What a TRACE and its answer are compared by. `pathHashes` is the whole byte array. -/
structure TraceKey where
  tag : Nat
  authCode : Nat
  pathHashBytes : Nat
  pathHops : Nat
  pathHashes : List UInt8
  deriving DecidableEq

structure TraceTerminal where
  key : TraceKey
  pathSnrsQuarterDb : List Int
  deriving DecidableEq

inductive TraceOutcome
  | none
  | pending
  | matched
  | noResponse
  deriving DecidableEq

inductive TraceCorrelation
  | matched
  | duplicate
  | unmatched
  | expired
  | authMismatch
  | pathMismatch
  deriving DecidableEq

structure TraceTracker where
  pending : Bool
  pendingKey : TraceKey
  pendingStartedMs : Nat
  expiredAttemptValid : Bool
  expiredKey : TraceKey
  expiredAtMs : Nat
  attemptValid : Bool
  attemptOutcome : TraceOutcome
  attemptOutcomeAtMs : Nat
  completed : Bool
  completedAtMs : Nat
  lastResult : TraceTerminal
  deriving DecidableEq

def TraceKey.zero : TraceKey := ⟨0, 0, 0, 0, List.replicate traceMaxPathBytes 0⟩

def TraceTracker.zero : TraceTracker where
  pending := false
  pendingKey := .zero
  pendingStartedMs := 0
  expiredAttemptValid := false
  expiredKey := .zero
  expiredAtMs := 0
  attemptValid := false
  attemptOutcome := .none
  attemptOutcomeAtMs := 0
  completed := false
  completedAtMs := 0
  lastResult := ⟨.zero, List.replicate traceMaxHops 0⟩

def hashWidthSupported (pathHashBytes : Nat) : Bool :=
  decide (0 < pathHashBytes) && decide (pathHashBytes ≤ traceMaxHashBytes) &&
    decide (pathHashBytes &&& (pathHashBytes - 1) = 0)

def TraceOutcome.isTerminal : TraceOutcome → Bool
  | .matched | .noResponse => true
  | .none | .pending => false

/-- `d1l_meshcore_trace_tracker_cooldown_remaining_ms` -/
def cooldownRemainingMs (tracker : TraceTracker) (nowMs : Nat) : Nat :=
  if !tracker.attemptValid || !tracker.attemptOutcome.isTerminal then 0
  else traceCooldownMs - ageMs tracker.attemptOutcomeAtMs nowMs

def TraceTracker.expire (tracker : TraceTracker) (nowMs : Nat) : TraceTracker :=
  { tracker with
    pending := false, expiredAttemptValid := true, expiredKey := tracker.pendingKey
    expiredAtMs := nowMs, attemptValid := true, attemptOutcome := .noResponse
    attemptOutcomeAtMs := nowMs }

def TraceTracker.timedOut (tracker : TraceTracker) (nowMs : Nat) : Bool :=
  decide (tracePendingTimeoutMs ≤ ageMs tracker.pendingStartedMs nowMs)

/-- `d1l_meshcore_trace_tracker_expire_pending` -/
def expirePending (tracker : TraceTracker) (nowMs : Nat) : Option TraceTracker :=
  if !tracker.pending || !tracker.timedOut nowMs then none else some (tracker.expire nowMs)

/-- The key `d1l_meshcore_trace_tracker_begin` stores for its arguments. -/
def beginKey (tag authCode pathHashBytes pathHops : Nat) (pathHashes : Option (List UInt8)) :
    TraceKey where
  tag := tag
  authCode := authCode
  pathHashBytes := pathHashBytes
  pathHops := pathHops
  pathHashes := (pathHashes.getD []).take (pathHops * pathHashBytes) ++
    List.replicate (traceMaxPathBytes - pathHops * pathHashBytes) 0

/-- `d1l_meshcore_trace_tracker_begin`; a null path is `none`. -/
def begin (tracker : TraceTracker) (tag authCode pathHashBytes : Nat)
    (pathHashes : Option (List UInt8)) (pathHops nowMs : Nat) : Option TraceTracker :=
  let pathBytes := pathHops * pathHashBytes
  if tracker.pending || decide (0 < cooldownRemainingMs tracker nowMs) ||
      (tracker.attemptValid && !tracker.attemptOutcome.isTerminal) ||
      decide (traceMaxHops < pathHops) || !hashWidthSupported pathHashBytes ||
      decide (traceMaxPathBytes < pathBytes) ||
      (decide (0 < pathBytes) && pathHashes.isNone) then none
  else
    some { tracker with
      pending := true
      pendingKey := beginKey tag authCode pathHashBytes pathHops pathHashes
      pendingStartedMs := nowMs, attemptValid := true, attemptOutcome := .pending
      attemptOutcomeAtMs := nowMs }

/-- `d1l_meshcore_trace_tracker_cancel` -/
def cancel (tracker : TraceTracker) (tag authCode : Nat) : Option TraceTracker :=
  if !tracker.pending || decide (tracker.pendingKey.tag ≠ tag) ||
      decide (tracker.pendingKey.authCode ≠ authCode) then none
  else
    some { tracker with
      pending := false, attemptValid := false, attemptOutcome := .none
      attemptOutcomeAtMs := 0, pendingKey := .zero, pendingStartedMs := 0 }

/-- `d1l_meshcore_trace_path_matches` -/
def pathMatches (terminal expected : TraceKey) : Bool :=
  let expectedBytes := expected.pathHashBytes * expected.pathHops
  decide (terminal.pathHashBytes = expected.pathHashBytes) &&
    decide (terminal.pathHops = expected.pathHops) &&
    (decide (expected.pathHops = 0) ||
      decide (terminal.pathHashes.take expectedBytes = expected.pathHashes.take expectedBytes))

/-- The tag, the auth code and the path of a terminal are those expected. -/
def keyMatches (terminal expected : TraceKey) : Bool :=
  decide (terminal.tag = expected.tag) && decide (terminal.authCode = expected.authCode) &&
    pathMatches terminal expected

def matchesExpired (tracker : TraceTracker) (terminal : TraceTerminal) (nowMs : Nat) : Bool :=
  tracker.expiredAttemptValid &&
    decide (ageMs tracker.expiredAtMs nowMs < traceDuplicateWindowMs) &&
    keyMatches terminal.key tracker.expiredKey

def leftover (tracker : TraceTracker) (terminal : TraceTerminal) (nowMs : Nat) :
    TraceCorrelation :=
  if tracker.completed &&
      decide (ageMs tracker.completedAtMs nowMs < traceDuplicateWindowMs) &&
      keyMatches terminal.key tracker.lastResult.key then .duplicate
  else .unmatched

def TraceTracker.complete (tracker : TraceTracker) (terminal : TraceTerminal) (nowMs : Nat) :
    TraceTracker :=
  { tracker with
    pending := false, attemptValid := true, attemptOutcome := .matched
    attemptOutcomeAtMs := nowMs, completed := true, completedAtMs := nowMs
    lastResult := terminal }

/-- `d1l_meshcore_trace_tracker_consume` -/
def consume (tracker : TraceTracker) (terminal : TraceTerminal) (nowMs : Nat) :
    TraceTracker × TraceCorrelation :=
  if matchesExpired tracker terminal nowMs then (tracker, .expired)
  else if !tracker.pending then (tracker, leftover tracker terminal nowMs)
  else if tracker.timedOut nowMs then
    -- the attempt is given up here, whichever terminal came
    let tracker' := tracker.expire nowMs
    if keyMatches terminal.key tracker.pendingKey then (tracker', .expired)
    else (tracker', leftover tracker' terminal nowMs)
  else if terminal.key.tag = tracker.pendingKey.tag then
    if terminal.key.authCode ≠ tracker.pendingKey.authCode then (tracker, .authMismatch)
    else if !pathMatches terminal.key tracker.pendingKey then (tracker, .pathMismatch)
    else (tracker.complete terminal nowMs, .matched)
  else (tracker, leftover tracker terminal nowMs)

inductive TraceCall
  | begin (tag authCode pathHashBytes : Nat) (pathHashes : Option (List UInt8)) (pathHops : Nat)
  | cancel (tag authCode : Nat)
  | consume (terminal : TraceTerminal)
  | expirePending
  deriving DecidableEq

inductive TraceEvent
  | unchanged
  | began (key : TraceKey)
  | cancelled
  | expired (key : TraceKey)
  | matched (terminal : TraceTerminal)
  deriving DecidableEq

def runCall (tracker : TraceTracker) (nowMs : Nat) : TraceCall → TraceTracker × TraceEvent
  | .begin tag authCode pathHashBytes pathHashes pathHops =>
    match begin tracker tag authCode pathHashBytes pathHashes pathHops nowMs with
    | some begun => (begun, .began begun.pendingKey)
    | none => (tracker, .unchanged)
  | .cancel tag authCode =>
    match cancel tracker tag authCode with
    | some cancelled => (cancelled, .cancelled)
    | none => (tracker, .unchanged)
  | .consume terminal =>
    match consume tracker terminal nowMs with
    | (consumed, .matched) => (consumed, .matched terminal)
    | (consumed, _) =>
      (consumed, if tracker.pending && !consumed.pending then .expired tracker.pendingKey
        else .unchanged)
  | .expirePending =>
    match expirePending tracker nowMs with
    | some ended => (ended, .expired tracker.pendingKey)
    | none => (tracker, .unchanged)

inductive TraceStep (tracker : TraceTracker) (nowMs : Nat) :
    TraceTracker → TraceEvent → Prop
  | unchanged : TraceStep tracker nowMs tracker .unchanged
  | began {key : TraceKey} (hidle : tracker.pending = false)
      (hcool : cooldownRemainingMs tracker nowMs = 0) :
      TraceStep tracker nowMs
        { tracker with
          pending := true, pendingKey := key, pendingStartedMs := nowMs, attemptValid := true
          attemptOutcome := .pending, attemptOutcomeAtMs := nowMs }
        (.began key)
  | cancelled (hpending : tracker.pending = true) :
      TraceStep tracker nowMs
        { tracker with
          pending := false, attemptValid := false, attemptOutcome := .none
          attemptOutcomeAtMs := 0, pendingKey := .zero, pendingStartedMs := 0 }
        .cancelled
  | expired (hpending : tracker.pending = true) (hold : tracker.timedOut nowMs = true) :
      TraceStep tracker nowMs (tracker.expire nowMs) (.expired tracker.pendingKey)
  | matched {terminal : TraceTerminal} (hpending : tracker.pending = true)
      (hyoung : tracker.timedOut nowMs = false)
      (hkey : keyMatches terminal.key tracker.pendingKey = true) :
      TraceStep tracker nowMs (tracker.complete terminal nowMs) (.matched terminal)

theorem begin_spec {tracker begun : TraceTracker} {tag authCode pathHashBytes pathHops nowMs : Nat}
    {pathHashes : Option (List UInt8)}
    (h : begin tracker tag authCode pathHashBytes pathHashes pathHops nowMs = some begun) :
    tracker.pending = false ∧ cooldownRemainingMs tracker nowMs = 0 ∧
      begun = { tracker with
        pending := true
        pendingKey := beginKey tag authCode pathHashBytes pathHops pathHashes
        pendingStartedMs := nowMs, attemptValid := true, attemptOutcome := .pending
        attemptOutcomeAtMs := nowMs } := by
  unfold begin at h
  dsimp only at h
  split_ifs at h with hrefused
  cases h
  simp only [Bool.or_eq_true, not_or, Bool.not_eq_true, decide_eq_true_eq,
    Nat.not_lt, Nat.le_zero] at hrefused
  exact ⟨hrefused.1.1.1.1.1.1, hrefused.1.1.1.1.1.2, rfl⟩

theorem cancel_spec {tracker cancelled : TraceTracker} {tag authCode : Nat}
    (h : cancel tracker tag authCode = some cancelled) :
    tracker.pending = true ∧ cancelled = { tracker with
      pending := false, attemptValid := false, attemptOutcome := .none
      attemptOutcomeAtMs := 0, pendingKey := .zero, pendingStartedMs := 0 } := by
  unfold cancel at h
  split_ifs at h with hrefused
  cases h
  simp only [Bool.or_eq_true, not_or, Bool.not_eq_true', Bool.not_eq_false] at hrefused
  exact ⟨hrefused.1.1, rfl⟩

theorem expirePending_spec {tracker ended : TraceTracker} {nowMs : Nat}
    (h : expirePending tracker nowMs = some ended) :
    tracker.pending = true ∧ tracker.timedOut nowMs = true ∧ ended = tracker.expire nowMs := by
  unfold expirePending at h
  split_ifs at h with hrefused
  cases h
  simp only [Bool.or_eq_true, not_or, Bool.not_eq_true', Bool.not_eq_false] at hrefused
  exact ⟨hrefused.1, hrefused.2, rfl⟩

theorem leftover_ne_matched (tracker : TraceTracker) (terminal : TraceTerminal) (nowMs : Nat) :
    leftover tracker terminal nowMs ≠ .matched := by
  unfold leftover
  split_ifs
  all_goals exact nofun

theorem keyMatches_iff {terminal expected : TraceKey} :
    keyMatches terminal expected = true ↔
      terminal.tag = expected.tag ∧ terminal.authCode = expected.authCode ∧
        pathMatches terminal expected = true := by
  simp only [keyMatches, Bool.and_eq_true, decide_eq_true_eq, and_assoc]

theorem consume_cases (tracker : TraceTracker) (terminal : TraceTerminal) (nowMs : Nat) :
    (consume tracker terminal nowMs = (tracker.complete terminal nowMs, .matched) ∧
      tracker.pending = true ∧ tracker.timedOut nowMs = false ∧
      keyMatches terminal.key tracker.pendingKey = true) ∨
    ((consume tracker terminal nowMs).1 = tracker ∧
      (consume tracker terminal nowMs).2 ≠ .matched) ∨
    ((consume tracker terminal nowMs).1 = tracker.expire nowMs ∧
      (consume tracker terminal nowMs).2 ≠ .matched ∧
      tracker.pending = true ∧ tracker.timedOut nowMs = true) := by
  rw [consume]
  by_cases hexpired : matchesExpired tracker terminal nowMs = true
  · rw [if_pos hexpired]
    exact .inr (.inl ⟨rfl, nofun⟩)
  rw [if_neg hexpired]
  by_cases hpending : (!tracker.pending) = true
  · rw [if_pos hpending]
    exact .inr (.inl ⟨rfl, leftover_ne_matched _ _ _⟩)
  rw [if_neg hpending]
  rw [Bool.not_eq_true', Bool.not_eq_false] at hpending
  by_cases hold : tracker.timedOut nowMs = true
  · -- the late answer itself and any other terminal both leave the expired attempt
    rw [if_pos hold]
    refine .inr (.inr ?_)
    by_cases hkey : keyMatches terminal.key tracker.pendingKey = true
    · rw [if_pos hkey]
      exact ⟨rfl, nofun, hpending, hold⟩
    · rw [if_neg hkey]
      exact ⟨rfl, leftover_ne_matched _ _ _, hpending, hold⟩
  rw [if_neg hold]
  by_cases htag : terminal.key.tag = tracker.pendingKey.tag
  · rw [if_pos htag]
    by_cases hauth : terminal.key.authCode ≠ tracker.pendingKey.authCode
    · rw [if_pos hauth]
      exact .inr (.inl ⟨rfl, nofun⟩)
    rw [if_neg hauth]
    by_cases hpath : (!pathMatches terminal.key tracker.pendingKey) = true
    · rw [if_pos hpath]
      exact .inr (.inl ⟨rfl, nofun⟩)
    rw [if_neg hpath]
    rw [Bool.not_eq_true', Bool.not_eq_false] at hpath
    exact .inl ⟨rfl, hpending, Bool.eq_false_iff.mpr hold,
      keyMatches_iff.mpr ⟨htag, not_not.mp hauth, hpath⟩⟩
  · rw [if_neg htag]
    exact .inr (.inl ⟨rfl, leftover_ne_matched _ _ _⟩)

theorem consume_own {tracker : TraceTracker} {terminal : TraceTerminal} {nowMs : Nat}
    (hpending : tracker.pending = true) (hyoung : tracker.timedOut nowMs = false)
    (hkey : keyMatches terminal.key tracker.pendingKey = true)
    (hexpired : matchesExpired tracker terminal nowMs = false) :
    (consume tracker terminal nowMs).2 = .matched := by
  obtain ⟨htag, hauth, hpath⟩ := keyMatches_iff.mp hkey
  rw [consume, hexpired, hpending, hyoung, if_neg Bool.false_ne_true, if_neg (by decide),
    if_neg Bool.false_ne_true, if_pos htag, if_neg (not_not.mpr hauth), hpath]
  rfl

theorem runCall_consume (tracker : TraceTracker) (terminal : TraceTerminal) (nowMs : Nat) :
    TraceStep tracker nowMs (runCall tracker nowMs (.consume terminal)).1
        (runCall tracker nowMs (.consume terminal)).2 ∧
      (runCall tracker nowMs (.consume terminal)).1 = (consume tracker terminal nowMs).1 := by
  rw [runCall]
  rcases consume_cases tracker terminal nowMs with
    ⟨hconsume, hpending, hyoung, hkey⟩ | ⟨hstate, hresult⟩ |
    ⟨hstate, hresult, hpending, hold⟩
  · rw [hconsume]
    exact ⟨.matched hpending hyoung hkey, rfl⟩
  · generalize consume tracker terminal nowMs = consumed at hstate hresult ⊢
    obtain ⟨consumed, result⟩ := consumed
    cases (show consumed = tracker from hstate)
    have hsame : (tracker.pending && !tracker.pending) = false := by
      cases tracker.pending <;> rfl
    cases result with
    | matched => exact absurd rfl hresult
    | duplicate | unmatched | expired | authMismatch | pathMismatch =>
      refine ⟨?_, rfl⟩
      dsimp only
      rw [hsame]
      exact .unchanged
  · generalize consume tracker terminal nowMs = consumed at hstate hresult ⊢
    obtain ⟨consumed, result⟩ := consumed
    cases (show consumed = tracker.expire nowMs from hstate)
    have hended : (tracker.pending && !(tracker.expire nowMs).pending) = true := by
      rw [hpending]
      rfl
    cases result with
    | matched => exact absurd rfl hresult
    | duplicate | unmatched | expired | authMismatch | pathMismatch =>
      refine ⟨?_, rfl⟩
      dsimp only
      rw [hended]
      exact .expired hpending hold

theorem runCall_step (tracker : TraceTracker) (nowMs : Nat) (call : TraceCall) :
    TraceStep tracker nowMs (runCall tracker nowMs call).1 (runCall tracker nowMs call).2 := by
  cases call with
  | begin tag authCode pathHashBytes pathHashes pathHops =>
    rw [runCall]
    cases hbegin : begin tracker tag authCode pathHashBytes pathHashes pathHops nowMs with
    | none => exact .unchanged
    | some begun =>
      obtain ⟨hidle, hcool, hbegun⟩ := begin_spec hbegin
      rw [hbegun]
      exact .began hidle hcool
  | cancel tag authCode =>
    rw [runCall]
    cases hcancel : cancel tracker tag authCode with
    | none => exact .unchanged
    | some cancelled =>
      obtain ⟨hpending, hcancelled⟩ := cancel_spec hcancel
      rw [hcancelled]
      exact .cancelled hpending
  | consume terminal => exact (runCall_consume tracker terminal nowMs).1
  | expirePending =>
    rw [runCall]
    cases hexpire : expirePending tracker nowMs with
    | none => exact .unchanged
    | some ended =>
      obtain ⟨hpending, hold, hended⟩ := expirePending_spec hexpire
      rw [hended]
      exact .expired hpending hold

end Sigui.Trace

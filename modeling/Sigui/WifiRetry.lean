import Mathlib.Data.Nat.Init
import Sigui.RunRules
import Sigui.Text

/-! When a lost Wi-Fi connection is tried again: the retry policy under any order of calls. -/
namespace Sigui.Wifi

inductive RuntimeState
  | off
  | profileRequired
  | starting
  | scanning
  | connecting
  | connected
  | authFailed
  | apUnavailable
  | retryBackoff
  | safeModeDisabled
deriving DecidableEq

inductive FailureClass
  | none
  | transient
  | auth
  | apUnavailable
deriving DecidableEq

def baseDelayMs : Nat := 1000
def maxDelayMs : Nat := 30000
def maxJitterMs : Nat := 1000
def maxWindowMs : Nat := 300000
def maxAttempts : Nat := 8
def uint64Max : Nat := 2 ^ 64 - 1

structure RetryPolicy where
  state : RuntimeState
  lastFailure : FailureClass
  retryWindowStartedMs : Nat
  retryDueMs : Nat
  retryDelayMs : Nat
  retryAttempt : Nat
  enabled : Bool
  profileAvailable : Bool
  userCancelled : Bool
  safeMode : Bool
  retryWindowActive : Bool
  retryScheduled : Bool

def clearRetry (p : RetryPolicy) : RetryPolicy :=
  { p with
    retryWindowStartedMs := 0, retryDueMs := 0, retryDelayMs := 0, retryAttempt := 0
    retryWindowActive := false, retryScheduled := false }

def selectIdleState (p : RetryPolicy) : RetryPolicy :=
  { p with state :=
    if p.enabled = false ∨ p.userCancelled then .off
    else if p.safeMode then .safeModeDisabled
    else if p.profileAvailable = false then .profileRequired
    else .starting }

/-- The loop of `retry_delay_ms`. -/
def backoff : Nat → Nat → Nat
  | 0, base => base
  | shifts + 1, base => if maxDelayMs ≤ base * 2 then maxDelayMs else backoff shifts (base * 2)

def retryDelay (attempt jitterSeed : Nat) : Nat :=
  let base := min (backoff attempt baseDelayMs) maxDelayMs
  let jitterCap := min (min (base / 4) maxJitterMs) (maxDelayMs - base)
  base + if jitterCap = 0 then 0 else jitterSeed % (jitterCap + 1)

/-- `d1l_wifi_retry_policy_init` -/
def initPolicy (enabled profileAvailable : Bool) : RetryPolicy :=
  selectIdleState
    ⟨.off, .none, 0, 0, 0, 0, enabled, profileAvailable, false, false, false, false⟩

/-- The guard of all that happens without the user. -/
def permits (p : RetryPolicy) : Bool :=
  p.enabled && p.profileAvailable && !p.userCancelled && !p.safeMode

def configure (p : RetryPolicy) (enabled profileAvailable : Bool) : RetryPolicy :=
  selectIdleState (clearRetry { p with
    enabled := enabled, profileAvailable := profileAvailable, userCancelled := false
    safeMode := false, lastFailure := .none })

def beginManualConnect (p : RetryPolicy) : RetryPolicy :=
  let q := clearRetry { p with userCancelled := false, safeMode := false }
  if p.enabled = false ∨ p.profileAvailable = false then selectIdleState q
  else { q with lastFailure := .none, state := .starting }

def markStarting (p : RetryPolicy) : RetryPolicy :=
  if p.state = .scanning ∧ p.enabled ∧ p.userCancelled = false ∧ p.safeMode = false then p
  else if permits p then { p with state := .starting }
  else selectIdleState p

def markConnecting (p : RetryPolicy) : RetryPolicy :=
  if permits p then { p with state := .connecting } else selectIdleState p

/-- `d1l_wifi_retry_policy_begin_scan`, with `scan_allowed` -/
def beginScan (p : RetryPolicy) : RetryPolicy :=
  if p.enabled = false ∨ p.userCancelled ∨ p.safeMode then p else { p with state := .scanning }

def finishScan (p : RetryPolicy) (connected connecting : Bool) : RetryPolicy :=
  if permits p = false then selectIdleState p
  else { p with state :=
    if connected then .connected
    else if p.retryScheduled then .retryBackoff
    else if connecting then .connecting
    else .starting }

/-- `d1l_wifi_retry_policy_on_disconnect`; the delay is what it returns through its pointer, 0
together with `false`. -/
def onDisconnect (p : RetryPolicy) (failure : FailureClass) (nowMs jitterSeed : Nat) :
    RetryPolicy × Nat :=
  let q := { p with retryDueMs := 0, retryDelayMs := 0, retryScheduled := false }
  if permits p = false then (selectIdleState q, 0)
  else if failure = .auth then
    ({ clearRetry q with lastFailure := failure, state := .authFailed }, 0)
  else
    let q := { q with
      lastFailure := failure, retryWindowActive := true
      retryWindowStartedMs := if p.retryWindowActive then p.retryWindowStartedMs else nowMs }
    let delay := retryDelay q.retryAttempt jitterSeed
    if nowMs < q.retryWindowStartedMs ∨ maxWindowMs ≤ nowMs - q.retryWindowStartedMs ∨
        maxAttempts ≤ q.retryAttempt then ({ q with state := .apUnavailable }, 0)
    else if maxWindowMs - (nowMs - q.retryWindowStartedMs) ≤ delay ∨ uint64Max - nowMs < delay then
      ({ q with state := .apUnavailable }, 0)
    else
      ({ q with
        retryAttempt := (q.retryAttempt + 1) % 256, retryDelayMs := delay
        retryDueMs := nowMs + delay, retryScheduled := true, state := .retryBackoff }, delay)

/-- The first test of `begin_due_retry`. -/
def isDue (p : RetryPolicy) (nowMs : Nat) : Bool :=
  permits p && p.retryScheduled && decide (p.state = .retryBackoff) && decide (p.retryDueMs ≤ nowMs)

/-- The second one. -/
def inWindow (p : RetryPolicy) (nowMs : Nat) : Bool :=
  p.retryWindowActive && decide (p.retryWindowStartedMs ≤ nowMs) &&
    decide (nowMs - p.retryWindowStartedMs < maxWindowMs)

/-- `d1l_wifi_retry_policy_begin_due_retry` -/
def beginDueRetry (p : RetryPolicy) (nowMs : Nat) : RetryPolicy × Bool :=
  if isDue p nowMs = false then (p, false)
  else
    let q := { p with retryScheduled := false, retryDueMs := 0, retryDelayMs := 0 }
    if inWindow p nowMs = false then ({ q with state := .apUnavailable }, false)
    else ({ q with state := .connecting }, true)

def connected (p : RetryPolicy) : RetryPolicy :=
  if permits p = false then selectIdleState (clearRetry p)
  else clearRetry { p with
    userCancelled := false, safeMode := false, lastFailure := .none, state := .connected }

def cancel (p : RetryPolicy) : RetryPolicy :=
  clearRetry { p with userCancelled := true, lastFailure := .none, state := .off }

def disable (p : RetryPolicy) : RetryPolicy :=
  clearRetry { p with
    enabled := false, userCancelled := false, safeMode := false, lastFailure := .none, state := .off }

def enterSafeMode (p : RetryPolicy) : RetryPolicy :=
  clearRetry { p with safeMode := true, userCancelled := false, state := .safeModeDisabled }

def clearSafeMode (p : RetryPolicy) : RetryPolicy :=
  selectIdleState (clearRetry { p with safeMode := false })

inductive Op
  | configure (enabled profileAvailable : Bool)
  | beginManualConnect
  | markStarting
  | markConnecting
  | beginScan
  | finishScan (connected connecting : Bool)
  | onDisconnect (failure : FailureClass) (nowMs jitterSeed : Nat)
  | beginDueRetry (nowMs : Nat)
  | connected
  | cancel
  | disable
  | enterSafeMode
  | clearSafeMode
deriving DecidableEq

def step (p : RetryPolicy) : Op → RetryPolicy
  | .configure enabled profileAvailable => Wifi.configure p enabled profileAvailable
  | .beginManualConnect => Wifi.beginManualConnect p
  | .markStarting => Wifi.markStarting p
  | .markConnecting => Wifi.markConnecting p
  | .beginScan => Wifi.beginScan p
  | .finishScan connected connecting => Wifi.finishScan p connected connecting
  | .onDisconnect failure nowMs jitterSeed => (Wifi.onDisconnect p failure nowMs jitterSeed).1
  | .beginDueRetry nowMs => (Wifi.beginDueRetry p nowMs).1
  | .connected => Wifi.connected p
  | .cancel => Wifi.cancel p
  | .disable => Wifi.disable p
  | .enterSafeMode => Wifi.enterSafeMode p
  | .clearSafeMode => Wifi.clearSafeMode p

/-- The call clears the record of the retries. -/
def clears (p : RetryPolicy) : Op → Bool
  | .configure _ _ | .beginManualConnect | .connected | .cancel | .disable | .enterSafeMode
  | .clearSafeMode => true
  | .onDisconnect failure _ _ => permits p && decide (failure = .auth)
  | _ => false

/-- The time at which the call begins a due retry, if it does. -/
def beginsAt (p : RetryPolicy) : Op → List Nat
  | .beginDueRetry nowMs => if (Wifi.beginDueRetry p nowMs).2 then [nowMs] else []
  | _ => []

/-- The times at which the due retries of a run begin. -/
def begunAt (p : RetryPolicy) : List Op → List Nat
  | [] => []
  | op :: ops => beginsAt p op ++ begunAt (step p op) ops

/-- The user lets Wi-Fi run again, or the device leaves safe mode. -/
def grants : Op → Bool
  | .configure _ _ | .beginManualConnect | .clearSafeMode => true
  | _ => false

/-- A loss of the link that is no refused password is reported. -/
def losesLink : Op → Bool
  | .onDisconnect failure _ _ => decide (failure ≠ .auth)
  | _ => false

theorem backoff_eq {base : Nat} (h : base ≤ maxDelayMs) (shifts : Nat) :
    backoff shifts base = min (base * 2 ^ shifts) maxDelayMs := by
  induction shifts generalizing base with
  | zero => rw [backoff, Nat.pow_zero, Nat.mul_one, Nat.min_eq_left h]
  | succ shifts ih =>
    rw [backoff, Nat.pow_succ', ← Nat.mul_assoc]
    split_ifs with hcap
    · have hpow : base * 2 ≤ base * 2 * 2 ^ shifts := Nat.le_mul_of_pos_right _ (Nat.two_pow_pos _)
      rw [Nat.min_eq_right (hcap.trans hpow)]
    · exact ih (Nat.le_of_lt (Nat.not_le.mp hcap))

theorem retryDelay_bounds (attempt jitterSeed : Nat) :
    min (baseDelayMs * 2 ^ attempt) maxDelayMs ≤ retryDelay attempt jitterSeed ∧
      retryDelay attempt jitterSeed ≤ maxDelayMs := by
  have hbase : min (backoff attempt baseDelayMs) maxDelayMs =
      min (baseDelayMs * 2 ^ attempt) maxDelayMs := by
    rw [backoff_eq (by decide), Nat.min_assoc, Nat.min_self]
  unfold retryDelay
  rw [hbase]
  generalize hb : min (baseDelayMs * 2 ^ attempt) maxDelayMs = base
  have hle : base ≤ maxDelayMs := by
    rw [← hb]
    exact Nat.min_le_right _ _
  dsimp only
  split_ifs with hzero
  · omega
  · have hmod : jitterSeed % (min (min (base / 4) maxJitterMs) (maxDelayMs - base) + 1) <
        min (min (base / 4) maxJitterMs) (maxDelayMs - base) + 1 :=
      Nat.mod_lt _ (Nat.succ_pos _)
    omega

section Steps

variable {p : RetryPolicy}

/-- The retries that may still begin before the record is cleared. -/
def credit (p : RetryPolicy) : Nat :=
  maxAttempts - p.retryAttempt + if p.retryScheduled then 1 else 0

/-- A retry that is scheduled may begin when it is due. -/
structure Scheduled (p : RetryPolicy) : Prop where
  permits : permits p = true
  attempt : 0 < p.retryAttempt
  window : p.retryWindowActive = true
  started : p.retryWindowStartedMs ≤ p.retryDueMs
  due : p.retryDueMs < p.retryWindowStartedMs + maxWindowMs
  fits : p.retryDueMs ≤ uint64Max

structure PolicyOk (p : RetryPolicy) : Prop where
  attempts : p.retryAttempt ≤ maxAttempts
  scheduled : p.retryScheduled = true → Scheduled p

/-- The retry fields and the permission are what they were. -/
structure SameRetry (p q : RetryPolicy) : Prop where
  permits : permits q = permits p
  started : q.retryWindowStartedMs = p.retryWindowStartedMs
  due : q.retryDueMs = p.retryDueMs
  attempt : q.retryAttempt = p.retryAttempt
  active : q.retryWindowActive = p.retryWindowActive
  scheduled : q.retryScheduled = p.retryScheduled

def reportsLoss : Op → Bool
  | .onDisconnect _ _ _ => true
  | _ => false

/-- What one call can do to the retry. -/
inductive Effect (p q : RetryPolicy) : Op → Prop
  | same {op : Op} (hop : reportsLoss op = false) (hclears : clears p op = false) (hbegins : beginsAt p op = [])
      (h : SameRetry p q) : Effect p q op
  | cleared {op : Op} (hclears : clears p op = true) (hbegins : beginsAt p op = [])
      (hattempt : q.retryAttempt = 0) (hscheduled : q.retryScheduled = false) : Effect p q op
  | dropped {failure : FailureClass} {nowMs jitterSeed : Nat}
      (hdelay : (onDisconnect p failure nowMs jitterSeed).2 = 0)
      (hscheduled : q.retryScheduled = false) (hattempt : q.retryAttempt = p.retryAttempt)
      (hstarted : p.retryWindowActive = true → q.retryWindowActive = true ∧
        q.retryWindowStartedMs = p.retryWindowStartedMs) :
      Effect p q (.onDisconnect failure nowMs jitterSeed)
  | rescheduled {failure : FailureClass} {nowMs jitterSeed : Nat} (hother : failure ≠ .auth)
      (hdelay : (onDisconnect p failure nowMs jitterSeed).2 = retryDelay p.retryAttempt jitterSeed)
      (hdue : q.retryDueMs = nowMs + retryDelay p.retryAttempt jitterSeed)
      (hsound : Scheduled q) (hroom : p.retryAttempt < maxAttempts)
      (hattempt : q.retryAttempt = p.retryAttempt + 1)
      (hstarted : p.retryWindowActive = true → q.retryWindowStartedMs = p.retryWindowStartedMs) :
      Effect p q (.onDisconnect failure nowMs jitterSeed)
  | begun {nowMs : Nat} (hdue : isDue p nowMs = true) (hwindow : inWindow p nowMs = true)
      (hbegins : beginsAt p (.beginDueRetry nowMs) = [nowMs]) (hscheduled : q.retryScheduled = false)
      (hattempt : q.retryAttempt = p.retryAttempt) (hactive : q.retryWindowActive = true)
      (hstarted : q.retryWindowStartedMs = p.retryWindowStartedMs) :
      Effect p q (.beginDueRetry nowMs)
  | expired {nowMs : Nat} (hdue : isDue p nowMs = true) (hwindow : inWindow p nowMs = false)
      (hbegins : beginsAt p (.beginDueRetry nowMs) = []) (hscheduled : q.retryScheduled = false)
      (hattempt : q.retryAttempt = p.retryAttempt) (hstate : q.state = .apUnavailable)
      (hactive : q.retryWindowActive = p.retryWindowActive)
      (hstarted : q.retryWindowStartedMs = p.retryWindowStartedMs) :
      Effect p q (.beginDueRetry nowMs)

theorem onDisconnect_effect (p : RetryPolicy) (failure : FailureClass) (nowMs jitterSeed : Nat) :
    Effect p (onDisconnect p failure nowMs jitterSeed).1
      (.onDisconnect failure nowMs jitterSeed) := by
  cases hpermits : permits p with
  | false =>
    have hrun : onDisconnect p failure nowMs jitterSeed = (selectIdleState
        { p with retryDueMs := 0, retryDelayMs := 0, retryScheduled := false }, 0) := if_pos hpermits
    rw [hrun]
    exact .dropped (by rw [hrun]) rfl rfl fun hactive => ⟨hactive, rfl⟩
  | true =>
    by_cases hauth : failure = .auth
    · have hclears : clears p (.onDisconnect failure nowMs jitterSeed) = true := by
        simp [clears, hpermits, hauth]
      have hrun : (onDisconnect p failure nowMs jitterSeed).1.retryAttempt = 0 ∧
          (onDisconnect p failure nowMs jitterSeed).1.retryScheduled = false := by
        simp [onDisconnect, hpermits, hauth, clearRetry]
      exact .cleared hclears rfl hrun.1 hrun.2
    · obtain ⟨q, hq⟩ : ∃ q, onDisconnect p failure nowMs jitterSeed = q := ⟨_, rfl⟩
      have hrun := hq
      unfold onDisconnect at hrun
      rw [if_neg (by rw [hpermits]; exact Bool.noConfusion), if_neg hauth] at hrun
      dsimp only at hrun
      generalize hstarted : (if p.retryWindowActive = true then p.retryWindowStartedMs else nowMs) =
        started at hrun
      have hkept : p.retryWindowActive = true → started = p.retryWindowStartedMs := by
        intro hactive
        rw [← hstarted, if_pos hactive]
      rw [hq]
      split_ifs at hrun with hclosed hlate
      · subst hrun
        exact .dropped (by rw [hq]) rfl rfl fun hactive => ⟨rfl, hkept hactive⟩
      · subst hrun
        exact .dropped (by rw [hq]) rfl rfl fun hactive => ⟨rfl, hkept hactive⟩
      · have hdelay := (retryDelay_bounds p.retryAttempt jitterSeed).1
        have hpos := Nat.two_pow_pos p.retryAttempt
        have hroom : p.retryAttempt < maxAttempts := by omega
        have hattempt : (p.retryAttempt + 1) % 256 = p.retryAttempt + 1 :=
          Nat.mod_eq_of_lt (by unfold maxAttempts at hroom; omega)
        subst hrun
        refine .rescheduled hauth (by rw [hq]) rfl ⟨hpermits, ?_, rfl, ?_, ?_, ?_⟩ hroom hattempt
          hkept
        · change 0 < (p.retryAttempt + 1) % 256
          omega
        · change started ≤ nowMs + retryDelay p.retryAttempt jitterSeed
          omega
        · change nowMs + retryDelay p.retryAttempt jitterSeed < started + maxWindowMs
          omega
        · -- the delay is not 0, so a clock past the largest time is refused too
          change nowMs + retryDelay p.retryAttempt jitterSeed ≤ uint64Max
          unfold baseDelayMs maxDelayMs at hdelay
          omega

theorem beginDueRetry_effect (p : RetryPolicy) (nowMs : Nat) :
    Effect p (beginDueRetry p nowMs).1 (.beginDueRetry nowMs) := by
  cases hdue : isDue p nowMs with
  | false =>
    have hrun : beginDueRetry p nowMs = (p, false) := if_pos hdue
    rw [hrun]
    exact .same rfl rfl (by rw [beginsAt, hrun]; rfl) ⟨rfl, rfl, rfl, rfl, rfl, rfl⟩
  | true =>
    have hopen : beginDueRetry p nowMs = _ := if_neg (by rw [hdue]; exact Bool.noConfusion)
    cases hwindow : inWindow p nowMs with
    | false =>
      rw [if_pos hwindow] at hopen
      rw [hopen]
      exact .expired hdue hwindow (by rw [beginsAt, hopen]; rfl) rfl rfl rfl rfl rfl
    | true =>
      rw [if_neg (by rw [hwindow]; exact Bool.noConfusion)] at hopen
      have hactive : p.retryWindowActive = true := by
        simp only [inWindow, Bool.and_eq_true] at hwindow
        exact hwindow.1.1
      rw [hopen]
      exact .begun hdue hwindow (by rw [beginsAt, hopen]; rfl) rfl rfl hactive rfl

theorem step_effect (p : RetryPolicy) (op : Op) : Effect p (step p op) op := by
  cases op with
  | configure => exact .cleared rfl rfl rfl rfl
  | beginManualConnect =>
    refine .cleared rfl rfl ?_ ?_ <;>
      · simp only [step, beginManualConnect]
        split <;> rfl
  | markStarting =>
    simp only [step, markStarting]
    split_ifs <;> exact .same rfl rfl rfl ⟨rfl, rfl, rfl, rfl, rfl, rfl⟩
  | markConnecting =>
    simp only [step, markConnecting]
    split_ifs <;> exact .same rfl rfl rfl ⟨rfl, rfl, rfl, rfl, rfl, rfl⟩
  | beginScan =>
    simp only [step, beginScan]
    split_ifs <;> exact .same rfl rfl rfl ⟨rfl, rfl, rfl, rfl, rfl, rfl⟩
  | finishScan connected connecting =>
    simp only [step, finishScan]
    split_ifs <;> exact .same rfl rfl rfl ⟨rfl, rfl, rfl, rfl, rfl, rfl⟩
  | onDisconnect failure nowMs jitterSeed => exact onDisconnect_effect p failure nowMs jitterSeed
  | beginDueRetry nowMs => exact beginDueRetry_effect p nowMs
  | connected =>
    refine .cleared rfl rfl ?_ ?_ <;>
      · simp only [step, Wifi.connected]
        split <;> rfl
  | cancel => exact .cleared rfl rfl rfl rfl
  | disable => exact .cleared rfl rfl rfl rfl
  | enterSafeMode => exact .cleared rfl rfl rfl rfl
  | clearSafeMode => exact .cleared rfl rfl rfl rfl

theorem Scheduled.same {q : RetryPolicy} (h : Scheduled p) (hsame : SameRetry p q) :
    Scheduled q := by
  refine ⟨hsame.permits.trans h.permits, ?_, hsame.active.trans h.window, ?_, ?_, ?_⟩
  · rw [hsame.attempt]
    exact h.attempt
  · rw [hsame.started, hsame.due]
    exact h.started
  · rw [hsame.started, hsame.due]
    exact h.due
  · rw [hsame.due]
    exact h.fits

theorem PolicyOk.step (h : PolicyOk p) (op : Op) : PolicyOk (step p op) := by
  have drop {q : RetryPolicy} (hattempt : q.retryAttempt ≤ maxAttempts)
      (hscheduled : q.retryScheduled = false) : PolicyOk q :=
    ⟨hattempt, fun hyes => absurd hyes (by rw [hscheduled]; exact Bool.noConfusion)⟩
  cases step_effect p op with
  | same _ _ _ hsame =>
    refine ⟨hsame.attempt.trans_le h.attempts, fun hscheduled => ?_⟩
    exact (h.scheduled (hsame.scheduled.symm.trans hscheduled)).same hsame
  | cleared _ _ hattempt hscheduled => exact drop (by rw [hattempt]; exact Nat.zero_le _) hscheduled
  | dropped _ hscheduled hattempt => exact drop (hattempt.trans_le h.attempts) hscheduled
  | rescheduled _ _ _ hsound hroom hattempt => exact ⟨by rw [hattempt]; omega, fun _ => hsound⟩
  | begun _ _ _ hscheduled hattempt => exact drop (hattempt.trans_le h.attempts) hscheduled
  | expired _ _ _ hscheduled hattempt => exact drop (hattempt.trans_le h.attempts) hscheduled

theorem policyOk_run (enabled profileAvailable : Bool) (ops : List Op) :
    PolicyOk (runSteps step (initPolicy enabled profileAvailable) ops) :=
  run_always (fun _ op h => h.step op) ops ⟨Nat.zero_le _, fun h => Bool.noConfusion h⟩

theorem isDue_scheduled {nowMs : Nat} (h : isDue p nowMs = true) :
    p.retryScheduled = true ∧ p.retryDueMs ≤ nowMs := by
  simp only [isDue, Bool.and_eq_true, decide_eq_true_eq] at h
  exact ⟨h.1.1.2, h.2⟩

theorem inWindow_iff {nowMs : Nat} :
    inWindow p nowMs = true ↔ p.retryWindowActive = true ∧ p.retryWindowStartedMs ≤ nowMs ∧
      nowMs < p.retryWindowStartedMs + maxWindowMs := by
  simp only [inWindow, Bool.and_eq_true, decide_eq_true_eq, and_assoc]
  exact and_congr_right fun _ => and_congr_right fun hstarted =>
    Nat.sub_lt_iff_lt_add' hstarted

end Steps

section Runs

variable {p : RetryPolicy} {op : Op} {ops : List Op}

/-- No call of the run clears the record. -/
def Uncleared : RetryPolicy → List Op → Prop :=
  RunOk step fun p op => clears p op = false

theorem step_credit (hkeep : clears p op = false) :
    (beginsAt p op).length + credit (step p op) ≤ credit p := by
  unfold credit
  cases step_effect p op with
  | same _ _ hbegins hsame => simp [hbegins, hsame.attempt, hsame.scheduled]
  | cleared hclears => exact absurd hclears (by rw [hkeep]; exact Bool.noConfusion)
  | dropped _ hscheduled hattempt => simp [beginsAt, hscheduled, hattempt]
  | rescheduled _ _ _ _ hroom hattempt =>
    rw [hattempt, beginsAt, List.length_nil]
    · split_ifs <;> omega
    · exact fun _ h => Op.noConfusion h
  | begun hdue _ hbegins hscheduled hattempt =>
    simp [hbegins, hscheduled, hattempt, (isDue_scheduled hdue).1, Nat.add_comm]
  | expired _ _ hbegins hscheduled hattempt => simp [hbegins, hscheduled, hattempt]

/-- The credit of a sound policy is no more than the attempts: a scheduled retry is one of them. -/
theorem PolicyOk.credit_le (h : PolicyOk p) : credit p ≤ maxAttempts := by
  have hattempts := h.attempts
  unfold credit
  split_ifs with hscheduled
  · have hpos := (h.scheduled hscheduled).attempt
    omega
  · omega

theorem run_credit (hkeep : Uncleared p ops) : (begunAt p ops).length ≤ credit p := by
  induction ops generalizing p with
  | nil => exact Nat.zero_le _
  | cons op ops ih =>
    have hstep := step_credit hkeep.1
    have hrest := ih hkeep.2
    rw [begunAt, List.length_append]
    omega

theorem beginsAt_window {nowMs : Nat} (h : nowMs ∈ beginsAt p op) :
    p.retryWindowActive = true ∧ p.retryWindowStartedMs ≤ nowMs ∧
      nowMs < p.retryWindowStartedMs + maxWindowMs := by
  cases step_effect p op with
  | same _ _ hbegins | cleared _ hbegins | expired _ _ hbegins =>
    rw [hbegins] at h
    exact absurd h List.not_mem_nil
  | dropped | rescheduled => exact absurd h List.not_mem_nil
  | begun _ hwindow hbegins =>
    rw [hbegins, List.mem_singleton] at h
    subst h
    exact inWindow_iff.mp hwindow

/-- An open window stays where it is until the record is cleared. -/
theorem step_window (hkeep : clears p op = false) (hactive : p.retryWindowActive = true) :
    (step p op).retryWindowActive = true ∧
      (step p op).retryWindowStartedMs = p.retryWindowStartedMs := by
  cases step_effect p op with
  | same _ _ _ hsame => exact ⟨hsame.active.trans hactive, hsame.started⟩
  | cleared hclears => exact absurd hclears (by rw [hkeep]; exact Bool.noConfusion)
  | dropped _ _ _ hstarted => exact hstarted hactive
  | rescheduled _ _ _ hsound _ _ hstarted => exact ⟨hsound.window, hstarted hactive⟩
  | begun _ _ _ _ _ hopen hstarted => exact ⟨hopen, hstarted⟩
  | expired _ _ _ _ _ _ hopen hstarted => exact ⟨hopen.trans hactive, hstarted⟩

theorem run_window (hkeep : Uncleared p ops) :
    ∃ started, (p.retryWindowActive = true → started = p.retryWindowStartedMs) ∧
      ∀ nowMs ∈ begunAt p ops, started ≤ nowMs ∧ nowMs < started + maxWindowMs := by
  induction ops generalizing p with
  | nil => exact ⟨p.retryWindowStartedMs, fun _ => rfl, fun nowMs h => absurd h List.not_mem_nil⟩
  | cons op ops ih =>
    obtain ⟨started, hstarted, hrest⟩ := ih hkeep.2
    cases hactive : p.retryWindowActive with
    | true =>
      obtain ⟨hopen, hsame⟩ := step_window hkeep.1 hactive
      have hp : started = p.retryWindowStartedMs := (hstarted hopen).trans hsame
      refine ⟨started, fun _ => hp, fun nowMs h => ?_⟩
      rcases List.mem_append.mp h with hnow | hlater
      · rw [hp]
        exact (beginsAt_window hnow).2
      · exact hrest nowMs hlater
    | false =>
      refine ⟨started, fun h => Bool.noConfusion h, fun nowMs h => ?_⟩
      rcases List.mem_append.mp h with hnow | hlater
      · have hopen := (beginsAt_window hnow).1
        rw [hactive] at hopen
        exact Bool.noConfusion hopen
      · exact hrest nowMs hlater

/-- An invariant under which no call begins a retry: no run begins one. -/
theorem begunAt_nil {Inv : RetryPolicy → Prop} {quiet : Op → Bool}
    (hstep : ∀ p op, Inv p → quiet op = false → Inv (step p op) ∧ beginsAt p op = []) (hp : Inv p)
    (hops : ∀ op ∈ ops, quiet op = false) : begunAt p ops = [] := by
  induction ops generalizing p with
  | nil => rfl
  | cons op ops ih =>
    obtain ⟨hkept, hnone⟩ := hstep p op hp (hops op List.mem_cons_self)
    rw [begunAt, hnone, List.nil_append]
    exact ih hkept fun op' hop' => hops op' (List.mem_cons_of_mem _ hop')

theorem step_blocked (p : RetryPolicy) (op : Op)
    (h : p.enabled = false ∨ p.userCancelled = true ∨ p.safeMode = true)
    (hgrants : grants op = false) :
    ((step p op).enabled = false ∨ (step p op).userCancelled = true ∨
      (step p op).safeMode = true) ∧ beginsAt p op = [] := by
  have hpermits : permits p = false := by
    rcases h with h | h | h
    all_goals simp [permits, h]
  cases op with
  | configure | beginManualConnect | clearSafeMode => exact Bool.noConfusion hgrants
  | markStarting =>
    refine ⟨?_, rfl⟩
    simp only [step, markStarting]
    split_ifs <;> exact h
  | markConnecting =>
    refine ⟨?_, rfl⟩
    rw [step, markConnecting, hpermits]
    exact h
  | beginScan =>
    refine ⟨?_, rfl⟩
    have hrefused : p.enabled = false ∨ p.userCancelled ∨ p.safeMode := h
    rw [step, Wifi.beginScan, if_pos hrefused]
    exact h
  | finishScan =>
    refine ⟨?_, rfl⟩
    rw [step, finishScan, if_pos hpermits]
    exact h
  | onDisconnect =>
    refine ⟨?_, rfl⟩
    rw [step, onDisconnect, if_pos hpermits]
    exact h
  | beginDueRetry nowMs =>
    have hrun : Wifi.beginDueRetry p nowMs = (p, false) := if_pos (by rw [isDue, hpermits]; rfl)
    rw [step, beginsAt, hrun]
    exact ⟨h, rfl⟩
  | connected =>
    refine ⟨?_, rfl⟩
    rw [step, Wifi.connected, if_pos hpermits]
    exact h
  | cancel => exact ⟨.inr (.inl rfl), rfl⟩
  | disable => exact ⟨.inl rfl, rfl⟩
  | enterSafeMode => exact ⟨.inr (.inr rfl), rfl⟩

theorem step_unscheduled (p : RetryPolicy) (op : Op) (h : p.retryScheduled = false)
    (hloses : losesLink op = false) :
    (step p op).retryScheduled = false ∧ beginsAt p op = [] := by
  cases step_effect p op with
  | same _ _ hbegins hsame => exact ⟨hsame.scheduled.trans h, hbegins⟩
  | cleared _ hbegins _ hscheduled => exact ⟨hscheduled, hbegins⟩
  | dropped _ hscheduled => exact ⟨hscheduled, rfl⟩
  | rescheduled hother => exact absurd hother (of_decide_eq_false hloses)
  | begun hdue | expired hdue =>
    have hyes := (isDue_scheduled hdue).1
    rw [h] at hyes
    exact Bool.noConfusion hyes

/-- What one call does with a scheduled retry. -/
theorem step_scheduled (h : p.retryScheduled = true) (op : Op) :
    ((step p op).retryScheduled = true ∧ (step p op).retryDueMs = p.retryDueMs) ∨
      (clears p op = true ∧ (step p op).retryScheduled = false) ∨
      (∃ failure nowMs jitterSeed, op = .onDisconnect failure nowMs jitterSeed) ∨
      ∃ nowMs, op = .beginDueRetry nowMs ∧ p.retryDueMs ≤ nowMs ∧
        (step p op).retryScheduled = false ∧
        (beginsAt p op = [nowMs] ∨ (step p op).state = .apUnavailable) := by
  cases step_effect p op with
  | same _ _ _ hsame => exact .inl ⟨hsame.scheduled.trans h, hsame.due⟩
  | cleared hclears _ _ hscheduled => exact .inr (.inl ⟨hclears, hscheduled⟩)
  | dropped | rescheduled => exact .inr (.inr (.inl ⟨_, _, _, rfl⟩))
  | begun hdue _ hbegins hscheduled =>
    exact .inr (.inr (.inr ⟨_, rfl, (isDue_scheduled hdue).2, hscheduled, .inl hbegins⟩))
  | expired hdue _ _ hscheduled _ hstate =>
    exact .inr (.inr (.inr ⟨_, rfl, (isDue_scheduled hdue).2, hscheduled, .inr hstate⟩))

theorem PolicyOk.begins_when_due (h : PolicyOk p) (hscheduled : p.retryScheduled = true)
    (hstate : p.state = .retryBackoff) : (beginDueRetry p p.retryDueMs).2 = true := by
  have hsound := h.scheduled hscheduled
  have hdue : isDue p p.retryDueMs = true := by
    simp [isDue, hsound.permits, hscheduled, hstate]
  have hwindow : inWindow p p.retryDueMs = true :=
    inWindow_iff.mpr ⟨hsound.window, hsound.started, hsound.due⟩
  rw [beginDueRetry, if_neg (by rw [hdue]; exact Bool.noConfusion)]
  dsimp only
  rw [if_neg (by rw [hwindow]; exact Bool.noConfusion)]

theorem onDisconnect_delay {failure : FailureClass} {nowMs jitterSeed : Nat}
    (h : (onDisconnect p failure nowMs jitterSeed).1.retryScheduled = true) :
    let run := onDisconnect p failure nowMs jitterSeed
    min (baseDelayMs * 2 ^ p.retryAttempt) maxDelayMs ≤ run.2 ∧ run.2 ≤ maxDelayMs ∧
      run.1.retryDueMs = nowMs + run.2 ∧ nowMs + run.2 ≤ uint64Max := by
  obtain ⟨hleast, hmost⟩ := retryDelay_bounds p.retryAttempt jitterSeed
  cases onDisconnect_effect p failure nowMs jitterSeed with
  | same hop => exact Bool.noConfusion hop
  | cleared _ _ _ hscheduled | dropped _ hscheduled =>
    rw [hscheduled] at h
    exact Bool.noConfusion h
  | rescheduled _ hdelay hdue hsound =>
    dsimp only
    rw [hdelay]
    exact ⟨hleast, hmost, hdue, hdue ▸ hsound.fits⟩

/-- The retries are bounded between two calls that clear their record, keep their delays, end with
their permission, and are not lost on the way. -/
theorem retries_are_bounded (enabled profileAvailable : Bool) (ops : List Op) :
    let p := runSteps step (initPolicy enabled profileAvailable) ops
    (∀ rest, Uncleared p rest → (begunAt p rest).length ≤ maxAttempts ∧
      ∃ started, (p.retryWindowActive = true → started = p.retryWindowStartedMs) ∧
        ∀ nowMs ∈ begunAt p rest, started ≤ nowMs ∧ nowMs < started + maxWindowMs) ∧
    (∀ failure nowMs jitterSeed,
      let run := onDisconnect p failure nowMs jitterSeed
      run.1.retryScheduled = true →
        min (baseDelayMs * 2 ^ p.retryAttempt) maxDelayMs ≤ run.2 ∧ run.2 ≤ maxDelayMs ∧
          run.1.retryDueMs = nowMs + run.2 ∧ nowMs + run.2 ≤ uint64Max) ∧
    (∀ stop ∈ [Op.cancel, .disable, .enterSafeMode], ∀ rest, (∀ op ∈ rest, grants op = false) →
      begunAt (step p stop) rest = []) ∧
    (∀ nowMs jitterSeed rest, (∀ op ∈ rest, losesLink op = false) →
      begunAt (step p (.onDisconnect .auth nowMs jitterSeed)) rest = []) ∧
    (p.retryScheduled = true → ∀ op,
      ((step p op).retryScheduled = true ∧ (step p op).retryDueMs = p.retryDueMs) ∨
        (clears p op = true ∧ (step p op).retryScheduled = false) ∨
        (∃ failure nowMs jitterSeed, op = .onDisconnect failure nowMs jitterSeed) ∨
        ∃ nowMs, op = .beginDueRetry nowMs ∧ p.retryDueMs ≤ nowMs ∧
          (step p op).retryScheduled = false ∧
          (beginsAt p op = [nowMs] ∨ (step p op).state = .apUnavailable)) ∧
    (p.retryScheduled = true → p.state = .retryBackoff →
      (beginDueRetry p p.retryDueMs).2 = true) := by
  intro p
  have hp : PolicyOk p := policyOk_run enabled profileAvailable ops
  refine ⟨fun rest hkeep => ⟨(run_credit hkeep).trans hp.credit_le, run_window hkeep⟩,
    fun _ _ _ => onDisconnect_delay, fun stop hstop rest hrest => ?_,
    fun nowMs jitterSeed rest hrest => ?_, step_scheduled, hp.begins_when_due⟩
  · refine begunAt_nil step_blocked ?_ hrest
    simp only [List.mem_cons, List.not_mem_nil, or_false] at hstop
    rcases hstop with rfl | rfl | rfl
    · exact .inr (.inl rfl)
    · exact .inl rfl
    · exact .inr (.inr rfl)
  · refine begunAt_nil step_unscheduled ?_ hrest
    cases onDisconnect_effect p .auth nowMs jitterSeed with
    | same hop => exact Bool.noConfusion hop
    | cleared _ _ _ hscheduled | dropped _ hscheduled => exact hscheduled
    | rescheduled hother => exact absurd rfl hother

/-- After a refused password another loss starts the retries again without the user, and a retry
stays scheduled when the link is marked as connecting. -/
theorem retries_restart_after_auth :
    begunAt (initPolicy true true)
        [.beginManualConnect, .onDisconnect .auth 0 0, .onDisconnect .transient 0 0,
          .beginDueRetry 1000] = [1000] ∧
      (let p := runSteps step (initPolicy true true) [.onDisconnect .transient 0 0, .markConnecting]
      p.retryScheduled = true ∧ ∀ nowMs, (beginDueRetry p nowMs).2 = false) :=
  ⟨by decide, rfl, fun _ => rfl⟩

end Runs

end Sigui.Wifi

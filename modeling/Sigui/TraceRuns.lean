import Sigui.TraceTracker
import Sigui.RunRules

/-! Runs of the TRACE tracker: an attempt is matched at most once and by its own answer. -/
namespace Sigui.Trace

abbrev TimedCall := Nat × TraceCall

abbrev TraceLog := List (Nat × TraceEvent)

/-- The attempt no match, cancel or expiry has closed, with the time it began at. -/
def openAttempt : TraceLog → Option (TraceKey × Nat)
  | [] => none
  | (t, .began key) :: _ => some (key, t)
  | (_, .unchanged) :: earlier => openAttempt earlier
  | (_, .cancelled) :: _ | (_, .expired _) :: _ | (_, .matched _) :: _ => none

def lastExpired : TraceLog → Option TraceKey
  | [] => none
  | (_, .expired key) :: _ => some key
  | _ :: earlier => lastExpired earlier

def TraceEvent.isOutcome : TraceEvent → Bool
  | .matched _ | .expired _ => true
  | .unchanged | .began _ | .cancelled => false

/-- The tracker with the log of its calls. `lookedAt` is the last time the age of a pending
attempt was looked at, its start included. -/
structure Tracked where
  tracker : TraceTracker
  log : TraceLog
  calledAt : Nat
  startedAt : Nat
  lookedAt : Nat
  deriving DecidableEq

def begun (t : Nat) : Tracked := ⟨.zero, [], t, t, t⟩

/-- Whether a call compares the age of the pending attempt with the timeout. -/
def looksAtAge (tracker : TraceTracker) (nowMs : Nat) : TraceCall → Bool
  | .expirePending => true
  | .consume terminal => !matchesExpired tracker terminal nowMs
  | .begin .. | .cancel .. => false

def TraceEvent.isBegin : TraceEvent → Bool
  | .began _ => true
  | .unchanged | .cancelled | .expired _ | .matched _ => false

def Tracked.step (w : Tracked) (call : TimedCall) : Tracked :=
  let done := runCall w.tracker (clockMs call.1) call.2
  { tracker := done.1
    log := (call.1, done.2) :: w.log
    calledAt := call.1
    startedAt := if done.2.isBegin then call.1 else w.startedAt
    lookedAt :=
      if done.2.isBegin || looksAtAge w.tracker (clockMs call.1) call.2 then call.1
      else w.lookedAt }

def Ordered (w : Tracked) (t : Nat) : Prop := w.calledAt ≤ t

/-- In order, and the age of a pending attempt was looked at less than `2^31` ms ago. -/
def Watched (w : Tracked) (t : Nat) : Prop :=
  w.calledAt ≤ t ∧ (w.tracker.pending = true → t < w.lookedAt + 2 ^ 31)

abbrev OrderedRun (w : Tracked) (calls : List TimedCall) : Prop :=
  RunOk Tracked.step (fun w call => Ordered w call.1) w calls

abbrev WatchedRun (w : Tracked) (calls : List TimedCall) : Prop :=
  RunOk Tracked.step (fun w call => Watched w call.1) w calls

abbrev runTracker (w : Tracked) (calls : List TimedCall) : Tracked :=
  runSteps Tracked.step w calls

theorem openAttempt_eq_some {log : TraceLog} {key : TraceKey} {t : Nat}
    (h : openAttempt log = some (key, t)) :
    ∃ later earlier, log = later ++ (t, .began key) :: earlier ∧
      ∀ e ∈ later, e.2 = .unchanged := by
  induction log with
  | nil => cases h
  | cons entry earlier ih =>
    obtain ⟨at', event⟩ := entry
    cases event with
    | began key' =>
      cases h
      exact ⟨[], earlier, rfl, nofun⟩
    | unchanged =>
      obtain ⟨later, before, hlog, hsame⟩ := ih h
      refine ⟨(at', .unchanged) :: later, before, by rw [hlog]; rfl, ?_⟩
      intro e he
      rcases List.mem_cons.mp he with rfl | he
      · rfl
      · exact hsame e he
    | cancelled | expired | matched => cases h

structure Tracked.Sound (w : Tracked) : Prop where
  opened : openAttempt w.log =
    if w.tracker.pending then some (w.tracker.pendingKey, w.startedAt) else none
  started : w.tracker.pending = true →
    w.tracker.pendingStartedMs = clockMs w.startedAt ∧ w.startedAt ≤ w.calledAt
  past : ∀ e ∈ w.log, e.1 ≤ w.calledAt
  cooled : w.tracker.pending = true ∨ w.tracker.attemptValid = false →
    ∀ e ∈ w.log, e.2.isOutcome = true → e.1 + traceCooldownMs ≤ w.calledAt
  cooling : w.tracker.pending = false → w.tracker.attemptValid = true →
    w.tracker.attemptOutcome.isTerminal = true ∧
      ∃ t, w.tracker.attemptOutcomeAtMs = clockMs t ∧ t ≤ w.calledAt ∧
        ∀ e ∈ w.log, e.2.isOutcome = true → e.1 ≤ t
  expired : w.tracker.expiredAttemptValid = true →
    lastExpired w.log = some w.tracker.expiredKey

theorem begun_sound (t : Nat) : (begun t).Sound where
  opened := rfl
  started h := by cases h
  past := nofun
  cooled := nofun
  cooling _ h := by cases h
  expired h := by cases h

theorem Tracked.Sound.cooldown_over {w : Tracked} (h : w.Sound) {t : Nat} (ht : Ordered w t)
    (hidle : w.tracker.pending = false)
    (hcool : cooldownRemainingMs w.tracker (clockMs t) = 0) :
    ∀ e ∈ w.log, e.2.isOutcome = true → e.1 + traceCooldownMs ≤ t := by
  intro e he houtcome
  cases hvalid : w.tracker.attemptValid with
  | false => exact (h.cooled (.inr hvalid) e he houtcome).trans ht
  | true =>
    obtain ⟨hterminal, at', hstamp, hle, hlast⟩ := h.cooling hidle hvalid
    rw [cooldownRemainingMs, hvalid, hterminal, if_neg (by decide), hstamp] at hcool
    have hage : traceCooldownMs ≤ t - at' :=
      (Nat.sub_eq_zero_iff_le.mp hcool).trans (ageMs_clockMs_le (hle.trans ht))
    have hafter := hlast e he houtcome
    have hbefore : at' ≤ t := hle.trans ht
    omega

section Steps

variable {w : Tracked} {t : Nat}

theorem Tracked.Sound.past_step (h : w.Sound) (ht : Ordered w t) (event : TraceEvent) :
    ∀ e ∈ (t, event) :: w.log, e.1 ≤ t :=
  List.forall_mem_cons.mpr ⟨Nat.le_refl _, fun e he => (h.past e he).trans ht⟩

theorem outcomes_cons {log : TraceLog} {event : TraceEvent} (hevent : event.isOutcome = false)
    {P : Nat → Prop} (hlog : ∀ e ∈ log, e.2.isOutcome = true → P e.1) :
    ∀ e ∈ (t, event) :: log, e.2.isOutcome = true → P e.1 := by
  refine List.forall_mem_cons.mpr ⟨fun houtcome => ?_, hlog⟩
  rw [hevent] at houtcome
  cases houtcome

theorem Tracked.Sound.step {call : TraceCall} (h : w.Sound) (ht : Ordered w t) :
    (w.step (t, call)).Sound := by
  have hstep := runCall_step w.tracker (clockMs t) call
  have hlog : (w.step (t, call)).log = (t, (runCall w.tracker (clockMs t) call).2) :: w.log := rfl
  have htracker : (w.step (t, call)).tracker = (runCall w.tracker (clockMs t) call).1 := rfl
  have hcalled : (w.step (t, call)).calledAt = t := rfl
  have hstarted : (w.step (t, call)).startedAt =
      if (runCall w.tracker (clockMs t) call).2.isBegin then t else w.startedAt := rfl
  generalize w.step (t, call) = w' at hlog htracker hcalled hstarted ⊢
  generalize (runCall w.tracker (clockMs t) call).1 = tracker',
    (runCall w.tracker (clockMs t) call).2 = event at hstep hlog htracker hstarted
  have hpast : ∀ e ∈ w'.log, e.1 ≤ w'.calledAt := by
    rw [hlog, hcalled]
    exact h.past_step ht event
  cases hstep with
  | unchanged =>
    refine ⟨?_, ?_, hpast, ?_, ?_, ?_⟩
    · rw [hlog, htracker, hstarted]
      exact h.opened
    · rw [htracker, hstarted, hcalled]
      intro hpending
      exact ⟨(h.started hpending).1, (h.started hpending).2.trans ht⟩
    · rw [hlog, htracker, hcalled]
      intro hopen
      exact outcomes_cons (P := (· + traceCooldownMs ≤ t)) rfl fun e he houtcome =>
        (h.cooled hopen e he houtcome).trans ht
    · rw [hlog, htracker, hcalled]
      intro hidle hvalid
      obtain ⟨hterminal, at', hstamp, hle, hlast⟩ := h.cooling hidle hvalid
      exact ⟨hterminal, at', hstamp, hle.trans ht, outcomes_cons (P := (· ≤ at')) rfl hlast⟩
    · rw [hlog, htracker]
      exact h.expired
  | began hidle hcool =>
    refine ⟨?_, ?_, hpast, ?_, ?_, ?_⟩
    · rw [hlog, htracker, hstarted]
      rfl
    · rw [htracker, hstarted, hcalled]
      exact fun _ => ⟨rfl, Nat.le_refl _⟩
    · rw [hlog, hcalled]
      exact fun _ => outcomes_cons (P := (· + traceCooldownMs ≤ t)) rfl
        (h.cooldown_over ht hidle hcool)
    · rw [htracker]
      intro hidle'
      cases hidle'
    · rw [hlog, htracker]
      exact h.expired
  | cancelled hpending =>
    refine ⟨?_, ?_, hpast, ?_, ?_, ?_⟩
    · rw [hlog, htracker]
      rfl
    · rw [htracker]
      intro hpending'
      cases hpending'
    · rw [hlog, hcalled]
      exact fun _ => outcomes_cons (P := (· + traceCooldownMs ≤ t)) rfl fun e he houtcome =>
        (h.cooled (.inl hpending) e he houtcome).trans ht
    · rw [htracker]
      intro _ hvalid
      cases hvalid
    · rw [hlog, htracker]
      exact h.expired
  | expired hpending hold =>
    refine ⟨?_, ?_, hpast, ?_, ?_, ?_⟩
    · rw [hlog, htracker]
      rfl
    · rw [htracker]
      intro hpending'
      cases hpending'
    · rw [htracker]
      intro hopen
      rcases hopen with hopen | hopen <;> cases hopen
    · rw [hlog, htracker, hcalled]
      exact fun _ _ => ⟨rfl, t, rfl, Nat.le_refl _, fun e he _ => h.past_step ht _ e he⟩
    · rw [hlog, htracker]
      exact fun _ => rfl
  | matched hpending hyoung hkey =>
    refine ⟨?_, ?_, hpast, ?_, ?_, ?_⟩
    · rw [hlog, htracker]
      rfl
    · rw [htracker]
      intro hpending'
      cases hpending'
    · rw [htracker]
      intro hopen
      rcases hopen with hopen | hopen <;> cases hopen
    · rw [hlog, htracker, hcalled]
      exact fun _ _ => ⟨rfl, t, rfl, Nat.le_refl _, fun e he _ => h.past_step ht _ e he⟩
    · rw [hlog, htracker]
      exact h.expired

theorem run_sound {calls : List TimedCall} {startedAt : Nat}
    (hrun : OrderedRun (begun startedAt) calls) : (runTracker (begun startedAt) calls).Sound :=
  run_invariant (fun _ _ hs ht => hs.step ht) hrun (begun_sound startedAt)

def Tracked.YoungWhenLooked (w : Tracked) : Prop :=
  w.tracker.pending = true → w.lookedAt ≤ w.startedAt + tracePendingTimeoutMs

theorem Tracked.Sound.true_age (h : w.Sound) (hyoung : w.YoungWhenLooked) (ht : Watched w t)
    (hpending : w.tracker.pending = true) :
    ageMs w.tracker.pendingStartedMs (clockMs t) = t - w.startedAt := by
  obtain ⟨hstamp, hle⟩ := h.started hpending
  rw [hstamp]
  exact elapsed_of_looked (by decide : tracePendingTimeoutMs + 2 ^ 31 < 2 ^ 32)
    (hle.trans ht.1) (hyoung hpending) (ht.2 hpending).le

theorem runCall_timedOut {tracker : TraceTracker} {nowMs : Nat} {call : TraceCall}
    (hpending : tracker.pending = true) (hold : tracker.timedOut nowMs = true)
    (hlooks : looksAtAge tracker nowMs call = true) :
    (runCall tracker nowMs call).1.pending = false := by
  cases call with
  | begin | cancel => cases hlooks
  | expirePending =>
    rw [runCall, expirePending, hpending, hold]
    rfl
  | consume terminal =>
    have hexpired : matchesExpired tracker terminal nowMs = false := by
      simpa only [looksAtAge, Bool.not_eq_true'] using hlooks
    rw [(runCall_consume tracker terminal nowMs).2, consume, hexpired, hpending, hold,
      if_neg Bool.false_ne_true, if_neg (by decide), if_pos rfl]
    dsimp only
    split_ifs <;> rfl

theorem Tracked.Sound.young_step {call : TraceCall} (h : w.Sound) (hyoung : w.YoungWhenLooked)
    (ht : Watched w t) : (w.step (t, call)).YoungWhenLooked := by
  intro hpending'
  have hstep := runCall_step w.tracker (clockMs t) call
  have hlooked : (w.step (t, call)).lookedAt =
      if (runCall w.tracker (clockMs t) call).2.isBegin ||
        looksAtAge w.tracker (clockMs t) call then t else w.lookedAt := rfl
  have hstarted : (w.step (t, call)).startedAt =
      if (runCall w.tracker (clockMs t) call).2.isBegin then t else w.startedAt := rfl
  have hleft := fun hpending hold => @runCall_timedOut w.tracker (clockMs t) call hpending hold
  change (runCall w.tracker (clockMs t) call).1.pending = true at hpending'
  rw [hlooked, hstarted]
  generalize (runCall w.tracker (clockMs t) call).1 = tracker',
    (runCall w.tracker (clockMs t) call).2 = event at hstep hpending' hleft ⊢
  cases hstep with
  | began hidle hcool => exact Nat.le_add_right _ _
  | cancelled | expired | matched => cases hpending'
  | unchanged =>
    change (if looksAtAge w.tracker (clockMs t) call = true then t else w.lookedAt) ≤
      w.startedAt + tracePendingTimeoutMs
    by_cases hlooks : looksAtAge w.tracker (clockMs t) call = true
    · rw [if_pos hlooks]
      by_contra hlate
      -- the attempt would have been given up at this look
      have hold : w.tracker.timedOut (clockMs t) = true := by
        rw [TraceTracker.timedOut, decide_eq_true_eq, h.true_age hyoung ht hpending']
        omega
      rw [hleft hpending' hold hlooks] at hpending'
      cases hpending'
    · rw [if_neg hlooks]
      exact hyoung hpending'

theorem watched_run_young {calls : List TimedCall} {startedAt : Nat}
    (hrun : WatchedRun (begun startedAt) calls) :
    (runTracker (begun startedAt) calls).Sound ∧
      (runTracker (begun startedAt) calls).YoungWhenLooked := by
  refine @run_invariant _ _ _ _ (fun w => w.Sound ∧ w.YoungWhenLooked) ?_ _ _ hrun ?_
  · exact fun w call hs ht => ⟨hs.1.step ht.1, hs.1.young_step hs.2 ht⟩
  · exact ⟨begun_sound startedAt, fun hpending => nomatch hpending⟩

end Steps

section Answers

variable {w : Tracked} {t : Nat}

theorem Tracked.Sound.openAttempt_pending (h : w.Sound) (hpending : w.tracker.pending = true) :
    openAttempt w.log = some (w.tracker.pendingKey, w.startedAt) := by
  rw [h.opened, if_pos hpending]

theorem Tracked.Sound.pending_of_open (h : w.Sound) {key : TraceKey} {since : Nat}
    (hopen : openAttempt w.log = some (key, since)) :
    w.tracker.pending = true ∧ w.tracker.pendingKey = key ∧ w.startedAt = since := by
  rw [h.opened] at hopen
  split_ifs at hopen with hpending
  cases hopen
  exact ⟨hpending, rfl, rfl⟩

theorem Tracked.Sound.timedOut_true (h : w.Sound) (ht : Ordered w t)
    (hpending : w.tracker.pending = true) (hold : w.tracker.timedOut (clockMs t) = true) :
    w.startedAt + tracePendingTimeoutMs ≤ t := by
  obtain ⟨hstamp, hle⟩ := h.started hpending
  have hage := of_decide_eq_true hold
  rw [hstamp] at hage
  have hreal := hage.trans (ageMs_clockMs_le (hle.trans ht))
  have hbefore : w.startedAt ≤ t := hle.trans ht
  omega

theorem Tracked.Sound.not_timedOut (h : w.Sound) (ht : Ordered w t)
    (hpending : w.tracker.pending = true) (hyoung : t < w.startedAt + tracePendingTimeoutMs) :
    w.tracker.timedOut (clockMs t) = false := by
  obtain ⟨hstamp, hle⟩ := h.started hpending
  have hshort : t - w.startedAt < tracePendingTimeoutMs := by
    have hbefore : w.startedAt ≤ t := hle.trans ht
    omega
  have hage : ageMs (clockMs w.startedAt) (clockMs t) = t - w.startedAt :=
    ageMs_clockMs_of_lt (hle.trans ht)
      (hshort.trans (by decide : tracePendingTimeoutMs < 2 ^ 32))
  rw [TraceTracker.timedOut, hstamp, hage]
  exact decide_eq_false (Nat.not_le_of_lt hshort)

theorem Tracked.Sound.matched (h : w.Sound) {terminal : TraceTerminal}
    (hmatched : (consume w.tracker terminal (clockMs t)).2 = .matched) :
    w.tracker.pending = true ∧ w.tracker.timedOut (clockMs t) = false ∧
      keyMatches terminal.key w.tracker.pendingKey = true := by
  rcases consume_cases w.tracker terminal (clockMs t) with hcase | hcase | hcase
  · exact hcase.2
  · exact absurd hmatched hcase.2
  · exact absurd hmatched hcase.2.1

theorem Tracked.Sound.unmatched (h : w.Sound) (ht : Ordered w t) {terminal : TraceTerminal}
    (hother : (consume w.tracker terminal (clockMs t)).2 ≠ .matched) :
    (consume w.tracker terminal (clockMs t)).1 = w.tracker ∨
      ∃ key since, openAttempt w.log = some (key, since) ∧
        since + tracePendingTimeoutMs ≤ t ∧
        (consume w.tracker terminal (clockMs t)).1 = w.tracker.expire (clockMs t) := by
  rcases consume_cases w.tracker terminal (clockMs t) with hcase | hcase | hcase
  · exact absurd (by rw [hcase.1]) hother
  · exact .inl hcase.1
  · obtain ⟨hstate, _, hpending, hold⟩ := hcase
    exact .inr ⟨_, _, h.openAttempt_pending hpending, h.timedOut_true ht hpending hold, hstate⟩

end Answers

/-- An attempt is matched at most once, by its own answer and before it is closed. A terminal that
does not match changes the tracker only by giving up an attempt whose timeout has passed. -/
theorem trace_matched_once_by_own_answer {startedAt t : Nat} {calls : List TimedCall}
    (hrun : OrderedRun (begun startedAt) calls)
    (ht : Ordered (runTracker (begun startedAt) calls) t) :
    (∀ terminal,
      (consume (runTracker (begun startedAt) calls).tracker terminal (clockMs t)).2 =
          .matched →
      ∃ key since later earlier,
        (runTracker (begun startedAt) calls).log = later ++ (since, .began key) :: earlier ∧
        (∀ e ∈ later, e.2 = .unchanged) ∧ keyMatches terminal.key key = true ∧
        (WatchedRun (begun startedAt) calls →
          Watched (runTracker (begun startedAt) calls) t → t < since + tracePendingTimeoutMs)) ∧
    (∀ terminal,
      (consume (runTracker (begun startedAt) calls).tracker terminal (clockMs t)).2 ≠
          .matched →
      (consume (runTracker (begun startedAt) calls).tracker terminal (clockMs t)).1 =
          (runTracker (begun startedAt) calls).tracker ∨
        ∃ key since,
          openAttempt (runTracker (begun startedAt) calls).log = some (key, since) ∧
          since + tracePendingTimeoutMs ≤ t ∧
          (consume (runTracker (begun startedAt) calls).tracker terminal (clockMs t)).1 =
            (runTracker (begun startedAt) calls).tracker.expire (clockMs t)) ∧
    (∀ tag authCode pathHashBytes pathHashes pathHops,
      (begin (runTracker (begun startedAt) calls).tracker tag authCode pathHashBytes pathHashes
        pathHops (clockMs t)).isSome = true →
      openAttempt (runTracker (begun startedAt) calls).log = none ∧
        ∀ e ∈ (runTracker (begun startedAt) calls).log, e.2.isOutcome = true →
          e.1 + traceCooldownMs ≤ t) ∧
    ∀ terminal key since,
      openAttempt (runTracker (begun startedAt) calls).log = some (key, since) →
      t < since + tracePendingTimeoutMs → keyMatches terminal.key key = true →
      (consume (runTracker (begun startedAt) calls).tracker terminal (clockMs t)).2 =
          .matched ∨
        ∃ last, lastExpired (runTracker (begun startedAt) calls).log = some last ∧
          keyMatches terminal.key last = true := by
  have hsound := run_sound hrun
  have hwatched := @watched_run_young calls startedAt
  generalize runTracker (begun startedAt) calls = w at *
  refine ⟨?_, ?_, ?_, ?_⟩
  · intro terminal hmatched
    obtain ⟨hpending, hyoung, hkey⟩ := hsound.matched hmatched
    obtain ⟨later, earlier, hlog, hsame⟩ :=
      openAttempt_eq_some (hsound.openAttempt_pending hpending)
    refine ⟨_, _, later, earlier, hlog, hsame, hkey, ?_⟩
    intro hrun' ht'
    -- under the watch the 32-bit age that was compared is the true one
    have hage := of_decide_eq_false hyoung
    rw [(hwatched hrun').1.true_age (hwatched hrun').2 ht' hpending] at hage
    have hbefore : w.startedAt ≤ t := (hsound.started hpending).2.trans ht
    omega
  · intro terminal hother
    exact hsound.unmatched ht hother
  · intro tag authCode pathHashBytes pathHashes pathHops hbegin
    obtain ⟨begun', hbegun⟩ := Option.isSome_iff_exists.mp hbegin
    obtain ⟨hidle, hcool, _⟩ := begin_spec hbegun
    refine ⟨?_, hsound.cooldown_over ht hidle hcool⟩
    rw [hsound.opened, hidle]
    rfl
  · intro terminal key since hopen hyoung hkey
    obtain ⟨hpending, rfl, rfl⟩ := hsound.pending_of_open hopen
    cases hexpired : matchesExpired w.tracker terminal (clockMs t) with
    | false =>
      exact .inl (consume_own hpending (hsound.not_timedOut ht hpending hyoung) hkey hexpired)
    | true =>
      rw [matchesExpired, Bool.and_eq_true, Bool.and_eq_true] at hexpired
      exact .inr ⟨_, hsound.expired hexpired.1.1, hexpired.2⟩

def pingKey (tag : Nat) : TraceKey := beginKey tag 9 1 0 none

/-- The tag 7 is asked for, expires unanswered, and after the cooldown tag 8 is asked for. -/
def secondAttempt : List TimedCall :=
  [(1000, .begin 7 9 1 none 0), (31000, .expirePending), (61000, .begin 8 9 1 none 0)]

theorem trace_matched_once_second_attempt :
    (consume (runTracker (begun 0) secondAttempt).tracker ⟨pingKey 8, []⟩ (clockMs 62000)).2 =
        .matched ∨
      ∃ last, lastExpired (runTracker (begun 0) secondAttempt).log = some last ∧
        keyMatches (pingKey 8) last = true := by
  have hrun : OrderedRun (begun 0) secondAttempt :=
    ⟨Nat.zero_le _, (by decide : 1000 ≤ 31000), (by decide : 31000 ≤ 61000), trivial⟩
  have ht : Ordered (runTracker (begun 0) secondAttempt) 62000 :=
    (by decide : 61000 ≤ 62000)
  exact (trace_matched_once_by_own_answer hrun ht).2.2.2 ⟨pingKey 8, []⟩ (pingKey 8) 61000
    (by decide +kernel) (by decide) (by decide +kernel)

/-- Less than `2^31` ms after the last call. -/
def Close (w : Tracked) (t : Nat) : Prop :=
  w.calledAt ≤ t ∧ t < w.calledAt + 2 ^ 31

/-- The attempt that refused begins leave unlooked at for a full turn of the clock. -/
def unwatchedAttempt : List TimedCall :=
  [(0, .begin 7 9 1 none 0), (2147483647, .begin 8 9 1 none 0),
    (4294967294, .begin 8 9 1 none 0)]

/-- Frequent calls alone do not bound the age of a match, and a foreign terminal gives up an
attempt that has timed out. -/
theorem stale_match_and_lazy_expiry :
    (¬ ∀ startedAt calls t, RunOk Tracked.step (fun w call => Close w call.1) (begun startedAt)
        calls → Close (runTracker (begun startedAt) calls) t →
      ∀ terminal key since,
        openAttempt (runTracker (begun startedAt) calls).log = some (key, since) →
        (consume (runTracker (begun startedAt) calls).tracker terminal (clockMs t)).2 =
          .matched → t < since + tracePendingTimeoutMs) ∧
    ¬ ∀ startedAt calls t, RunOk Tracked.step (fun w call => Close w call.1) (begun startedAt)
        calls → Close (runTracker (begun startedAt) calls) t →
      ∀ terminal,
        (consume (runTracker (begun startedAt) calls).tracker terminal (clockMs t)).2 ≠
          .matched →
        (consume (runTracker (begun startedAt) calls).tracker terminal (clockMs t)).1.pending =
          (runTracker (begun startedAt) calls).tracker.pending := by
  constructor
  · intro h
    have hyoung := h 0 unwatchedAttempt 4294967301
      ⟨⟨by decide, by decide⟩, ⟨by decide, by decide⟩, ⟨by decide, by decide⟩, trivial⟩
      ⟨by decide, by decide⟩ ⟨pingKey 7, []⟩ (pingKey 7) 0 (by decide +kernel)
      (by decide +kernel)
    revert hyoung
    decide
  · intro h
    have hkept := h 0 [(0, .begin 7 9 1 none 0)] 30000
      ⟨⟨by decide, by decide⟩, trivial⟩ ⟨by decide, by decide⟩ ⟨pingKey 8, []⟩
      (by decide +kernel)
    revert hkept
    decide +kernel

end Sigui.Trace

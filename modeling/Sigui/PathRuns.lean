import Sigui.RouteSelection
import Sigui.RunRules
import Mathlib.Data.List.Infix

/-! Runs of the path calls under a millisecond clock that wraps, and what a direct selection and
a late transmission result may rely on. -/
namespace Sigui.MeshPath

inductive PathCall
  | learn (source : Nat)
  | expireIfDue
  | noteDirectResult (expectedGeneration : Nat) (success : Bool)
  | reset
  deriving DecidableEq

inductive PathEvent
  | kept
  | learned
  | expired
  | succeeded
  | failed
  | fellBack
  | forgotten
  deriving DecidableEq

def PathEvent.endsGeneration : PathEvent → Bool
  | .learned | .expired | .fellBack => true
  | .kept | .succeeded | .failed | .forgotten => false

def runCall (state : PathState) (nowMs : Nat) : PathCall → PathState × PathEvent
  | .learn source =>
    match learn state source nowMs with
    | some learned => (learned, .learned)
    | none => (state, .kept)
  | .expireIfDue =>
    match expireIfDue state nowMs with
    | some ended => (ended, .expired)
    | none => (state, .kept)
  | .noteDirectResult expectedGeneration success =>
    match noteDirectResult state expectedGeneration success nowMs with
    | (noted, .updated) => (noted, if success then .succeeded else .failed)
    | (noted, .floodFallback) => (noted, .fellBack)
    | (noted, .stale) => (noted, .kept)
  | .reset => (.empty, .forgotten)

abbrev TimedCall := Nat × PathCall

def stepPath (state : PathState) (call : TimedCall) : PathState :=
  (runCall state (clockMs call.1) call.2).1

def runPath (state : PathState) (calls : List TimedCall) : PathState :=
  runSteps stepPath state calls

/-- What an observer of the calls knows, in true time: the last learn or success, and the
failures since. -/
structure Evidence where
  validatedAt : Option Nat
  failures : Nat
  deriving DecidableEq

def Evidence.note (evidence : Evidence) (t : Nat) : PathEvent → Evidence
  | .learned | .succeeded => ⟨some t, 0⟩
  | .failed | .fellBack => { evidence with failures := evidence.failures + 1 }
  | .forgotten => ⟨none, 0⟩
  | .kept | .expired => evidence

/-- A path with its evidence, the time of the last call and of the last look at its expiry. -/
structure Tracked where
  state : PathState
  evidence : Evidence
  calledAt : Nat
  expiryLookedAt : Nat
  deriving DecidableEq

def begun (state : PathState) (startedAt : Nat) : Tracked :=
  ⟨state, ⟨none, 0⟩, startedAt, startedAt⟩

def Tracked.step (w : Tracked) (call : TimedCall) : Tracked where
  state := stepPath w.state call
  evidence := w.evidence.note call.1 (runCall w.state (clockMs call.1) call.2).2
  calledAt := call.1
  expiryLookedAt := if call.2 = .expireIfDue then call.1 else w.expiryLookedAt

/-- Time does not go back, and the expiry was looked at in the last `2^31` milliseconds. -/
def InTime (w : Tracked) (t : Nat) : Prop :=
  w.calledAt ≤ t ∧ t ≤ w.expiryLookedAt + 2 ^ 31

abbrev TimelyRun (w : Tracked) (calls : List TimedCall) : Prop :=
  RunOk Tracked.step (fun w call => InTime w call.1) w calls

def Advances (state : PathState) (calls : List TimedCall) : Prop :=
  ∃ earlier call later, calls = earlier ++ call :: later ∧
    (runCall (runPath state earlier) (clockMs call.1) call.2).2.endsGeneration = true

/-- The path was reset, and what was learned since has come back to the generation `captured`. -/
def Reused (captured : Nat) (calls : List TimedCall) : Prop :=
  ∃ earlier t later, calls = earlier ++ (t, .reset) :: later ∧
    (runPath .empty later).lifecycle = pathStateValid ∧
    (runPath .empty later).generation = captured

inductive PathStep (state : PathState) (nowMs : Nat) : PathState → PathEvent → Prop
  | kept : PathStep state nowMs state .kept
  | learned {source : Nat} (hgen : state.generation ≠ uint32Max) :
      PathStep state nowMs
        { PathState.empty with
          learnedAtMs := nowMs, expiresAtMs := u32Add nowMs directPathMaxAgeMs
          generation := state.generation + 1, source := source, lifecycle := pathStateValid }
        .learned
  | expired (hvalid : state.lifecycle = pathStateValid) :
      PathStep state nowMs
        { state with
          lifecycle := pathStateExpired, generation := endedGeneration state.generation }
        .expired
  | succeeded (hvalid : state.lifecycle = pathStateValid) :
      PathStep state nowMs
        { state with
          lastSuccessMs := nowMs, flags := state.flags ||| pathFlagHasSuccess
          expiresAtMs := u32Add nowMs directPathMaxAgeMs, consecutiveFailures := 0 }
        .succeeded
  | failed (hvalid : state.lifecycle = pathStateValid)
      (hfew : state.consecutiveFailures + 1 < directPathFailureThreshold) :
      PathStep state nowMs
        { state with
          lastFailureMs := nowMs, consecutiveFailures := state.consecutiveFailures + 1 }
        .failed
  | fellBack {failures : Nat} (hvalid : state.lifecycle = pathStateValid) :
      PathStep state nowMs
        { state with
          lastFailureMs := nowMs, consecutiveFailures := failures
          lifecycle := pathStateFailed, generation := endedGeneration state.generation }
        .fellBack
  | forgotten : PathStep state nowMs .empty .forgotten

theorem success_flag_set (flags : Nat) :
    (flags ||| pathFlagHasSuccess) &&& pathFlagHasSuccess ≠ 0 := by
  rw [Nat.and_or_distrib_right, pathFlagHasSuccess, Nat.and_self]
  intro h
  cases (Nat.or_eq_zero_iff.mp h).2

theorem noteDirectResult_stale {state : PathState} {expectedGeneration : Nat} (success : Bool)
    (nowMs : Nat)
    (h : expectedGeneration = 0 ∨ state.generation ≠ expectedGeneration ∨
      state.lifecycle ≠ pathStateValid) :
    noteDirectResult state expectedGeneration success nowMs = (state, .stale) :=
  if_pos h

theorem noteDirectResult_taken {state : PathState} {expectedGeneration : Nat} (success : Bool)
    (nowMs : Nat) (hzero : expectedGeneration ≠ 0) (hgen : state.generation = expectedGeneration)
    (hvalid : state.lifecycle = pathStateValid) :
    (noteDirectResult state expectedGeneration success nowMs).2 ≠ .stale := by
  rw [noteDirectResult, if_neg (by simp only [hzero, hgen, hvalid, ne_eq, not_true, or_self,
    not_false_eq_true])]
  cases success with
  | true => exact nofun
  | false =>
    rw [if_neg Bool.false_ne_true]
    dsimp only
    split_ifs
    all_goals exact nofun

theorem runCall_note_step (state : PathState) (nowMs expectedGeneration : Nat) (success : Bool) :
    PathStep state nowMs
      (runCall state nowMs (.noteDirectResult expectedGeneration success)).1
      (runCall state nowMs (.noteDirectResult expectedGeneration success)).2 := by
  rw [runCall]
  by_cases hstale : expectedGeneration = 0 ∨ state.generation ≠ expectedGeneration ∨
      state.lifecycle ≠ pathStateValid
  · rw [noteDirectResult_stale success nowMs hstale]
    exact .kept
  · rw [noteDirectResult, if_neg hstale]
    have hvalid : state.lifecycle = pathStateValid := by
      by_contra hne
      exact hstale (.inr (.inr hne))
    cases success with
    | true => exact .succeeded hvalid
    | false =>
      rw [if_neg Bool.false_ne_true]
      by_cases hroom : state.consecutiveFailures < uint8Max
      · rw [if_pos hroom]
        by_cases hfew : state.consecutiveFailures + 1 < directPathFailureThreshold
        · rw [if_pos hfew]
          exact .failed hvalid hfew
        · rw [if_neg hfew]
          exact .fellBack hvalid
      · -- a saturated counter is past the threshold
        have hmany : ¬ state.consecutiveFailures < directPathFailureThreshold := fun hfew =>
          hroom (hfew.trans (by decide : directPathFailureThreshold < uint8Max))
        rw [if_neg hroom, if_neg hmany]
        exact .fellBack hvalid

theorem runCall_step (state : PathState) (nowMs : Nat) (call : PathCall) :
    PathStep state nowMs (runCall state nowMs call).1 (runCall state nowMs call).2 := by
  cases call with
  | learn source =>
    rw [runCall, learn]
    by_cases hsource : (!pathSourceValid source) = true
    · rw [if_pos hsource]
      exact .kept
    · rw [if_neg hsource, nextGeneration]
      by_cases hgen : state.generation = uint32Max
      · rw [if_pos hgen]
        exact .kept
      · rw [if_neg hgen]
        exact .learned hgen
  | expireIfDue =>
    cases hexpire : expireIfDue state nowMs with
    | none =>
      rw [runCall, hexpire]
      exact .kept
    | some ended =>
      obtain ⟨hvalid, hended⟩ := expireIfDue_spec hexpire
      rw [runCall, hexpire, hended]
      exact .expired hvalid
  | noteDirectResult expectedGeneration success =>
    exact runCall_note_step state nowMs expectedGeneration success
  | reset => exact .forgotten

theorem runCall_forgotten {state : PathState} {nowMs : Nat} {call : PathCall}
    (h : (runCall state nowMs call).2 = .forgotten) : call = .reset := by
  cases call with
  | learn source =>
    rw [runCall] at h
    cases hlearn : learn state source nowMs with
    | none => rw [hlearn] at h; cases h
    | some learned => rw [hlearn] at h; cases h
  | expireIfDue =>
    rw [runCall] at h
    cases hexpire : expireIfDue state nowMs with
    | none => rw [hexpire] at h; cases h
    | some ended => rw [hexpire] at h; cases h
  | noteDirectResult expectedGeneration success =>
    rw [runCall] at h
    cases hnote : noteDirectResult state expectedGeneration success nowMs with
    | mk noted result =>
      rw [hnote] at h
      cases result with
      | stale => cases h
      | updated => cases success <;> cases h
      | floodFallback => cases h
  | reset => rfl

section Evidence

variable {w : Tracked} {t : Nat} {start : PathState}

/-- The evidence agrees with the record as long as the record is valid. -/
structure Tracked.Sound (w : Tracked) : Prop where
  looked_le : w.expiryLookedAt ≤ w.calledAt
  backed : w.state.lifecycle = pathStateValid →
    ∃ v, w.evidence.validatedAt = some v ∧ validatedAtMs w.state = clockMs v ∧
      v ≤ w.calledAt ∧ w.expiryLookedAt ≤ v + directPathMaxAgeMs ∧
      w.evidence.failures = w.state.consecutiveFailures ∧
      w.state.consecutiveFailures < directPathFailureThreshold

theorem begun_sound (hstart : start.lifecycle ≠ pathStateValid) (startedAt : Nat) :
    (begun start startedAt).Sound where
  looked_le := Nat.le_refl _
  backed hvalid := absurd hvalid hstart

theorem ageMs_clockMs_of_looked {v now : Nat} (hv : v ≤ w.calledAt)
    (hyoung : w.expiryLookedAt ≤ v + directPathMaxAgeMs) (hnow : InTime w now) :
    ageMs (clockMs v) (clockMs now) = now - v :=
  elapsed_of_looked (by decide : directPathMaxAgeMs + 2 ^ 31 < 2 ^ 32)
    (hv.trans hnow.1) hyoung hnow.2

theorem expireIfDue_none {state : PathState} {nowMs : Nat} (h : expireIfDue state nowMs = none)
    (hvalid : state.lifecycle = pathStateValid) :
    ageMs (validatedAtMs state) nowMs ≤ directPathMaxAgeMs := by
  unfold expireIfDue at h
  rw [if_neg (not_not.mpr hvalid)] at h
  split_ifs at h with hcurrent
  exact of_decide_eq_true hcurrent

theorem Tracked.Sound.look (h : w.Sound) (ht : InTime w t) : (w.step (t, .expireIfDue)).Sound := by
  refine ⟨Nat.le_refl _, fun hvalid => ?_⟩
  cases hexpire : expireIfDue w.state (clockMs t) with
  | some ended =>
    have hended := (expireIfDue_spec hexpire).2
    have hstate : (w.step (t, .expireIfDue)).state = ended := by
      simp only [step, stepPath, runCall, hexpire]
    rw [hstate, hended] at hvalid
    exact absurd hvalid (by decide : pathStateExpired ≠ pathStateValid)
  | none =>
    have hstate : (w.step (t, .expireIfDue)).state = w.state := by
      simp only [step, stepPath, runCall, hexpire]
    have hevidence : (w.step (t, .expireIfDue)).evidence = w.evidence := by
      simp only [step, runCall, hexpire, Evidence.note]
    rw [hstate] at hvalid ⊢
    rw [hevidence]
    obtain ⟨v, hv, hstamp, hle, hyoung, hfailures⟩ := h.backed hvalid
    have hage := expireIfDue_none hexpire hvalid
    rw [hstamp, ageMs_clockMs_of_looked hle hyoung ht] at hage
    exact ⟨v, hv, hstamp, hle.trans ht.1, Nat.sub_le_iff_le_add'.mp hage, hfailures⟩

theorem Tracked.Sound.call (h : w.Sound) (ht : InTime w t) {call : PathCall}
    (hcall : call ≠ .expireIfDue) : (w.step (t, call)).Sound := by
  have hlooked : (w.step (t, call)).expiryLookedAt = w.expiryLookedAt := if_neg hcall
  have hlate : w.expiryLookedAt ≤ t := h.looked_le.trans ht.1
  refine ⟨hlooked ▸ hlate, ?_⟩
  rw [hlooked]
  change (runCall w.state (clockMs t) call).1.lifecycle = pathStateValid →
    ∃ v, (w.evidence.note t (runCall w.state (clockMs t) call).2).validatedAt = some v ∧
      validatedAtMs (runCall w.state (clockMs t) call).1 = clockMs v ∧ v ≤ t ∧
      w.expiryLookedAt ≤ v + directPathMaxAgeMs ∧
      (w.evidence.note t (runCall w.state (clockMs t) call).2).failures =
        (runCall w.state (clockMs t) call).1.consecutiveFailures ∧
      (runCall w.state (clockMs t) call).1.consecutiveFailures < directPathFailureThreshold
  have hfresh : w.expiryLookedAt ≤ t + directPathMaxAgeMs := hlate.trans (Nat.le_add_right _ _)
  have hstep := runCall_step w.state (clockMs t) call
  generalize (runCall w.state (clockMs t) call).1 = state',
    (runCall w.state (clockMs t) call).2 = event at hstep ⊢
  cases hstep with
  | kept =>
    intro hvalid
    obtain ⟨v, hv, hstamp, hle, hrest⟩ := h.backed hvalid
    exact ⟨v, hv, hstamp, hle.trans ht.1, hrest⟩
  | learned hgen =>
    exact fun _ => ⟨t, rfl, if_neg (not_not.mpr (Nat.zero_and _)), Nat.le_refl _, hfresh, rfl,
      Nat.two_pos⟩
  | expired hvalid => exact fun hne => absurd hne (by decide : pathStateExpired ≠ pathStateValid)
  | succeeded hvalid =>
    exact fun _ => ⟨t, rfl, if_pos (success_flag_set _), Nat.le_refl _, hfresh, rfl, Nat.two_pos⟩
  | failed hvalid hfew =>
    intro _
    obtain ⟨v, hv, hstamp, hle, hyoung, hfailures, _⟩ := h.backed hvalid
    exact ⟨v, hv, hstamp, hle.trans ht.1, hyoung, congrArg (· + 1) hfailures, hfew⟩
  | fellBack hvalid => exact fun hne => absurd hne (by decide : pathStateFailed ≠ pathStateValid)
  | forgotten => exact fun hne => absurd hne (by decide : pathStateNone ≠ pathStateValid)

theorem Tracked.Sound.step {call : TimedCall} (h : w.Sound) (ht : InTime w call.1) :
    (w.step call).Sound := by
  obtain ⟨t, made⟩ := call
  by_cases hcall : made = .expireIfDue
  · rw [hcall]
    exact h.look ht
  · exact h.call ht hcall

theorem run_sound (hstart : start.lifecycle ≠ pathStateValid) {startedAt : Nat}
    {calls : List TimedCall} (hrun : TimelyRun (begun start startedAt) calls) :
    (runSteps Tracked.step (begun start startedAt) calls).Sound :=
  run_invariant (fun _ _ hs ht => hs.step ht) hrun (begun_sound hstart startedAt)

theorem Tracked.Sound.direct (h : w.Sound) {now : Nat} (hnow : InTime w now) {known boot : Bool}
    {path : Option (List UInt8)} {pathLen : UInt8} {floodBytes : Nat} {selection : RouteSelection}
    (hselect : routeSelectCanonical known boot path pathLen w.state (clockMs now) floodBytes =
      some selection) (hdirect : selection.route = .direct) :
    boot = true ∧ w.state.lifecycle = pathStateValid ∧
      w.evidence.failures < directPathFailureThreshold ∧
      ∃ v, w.evidence.validatedAt = some v ∧ v ≤ now ∧ now - v ≤ directPathMaxAgeMs := by
  obtain ⟨_, hboot, _, hvalid, hage⟩ := routeSelectCanonical_direct hselect hdirect
  obtain ⟨v, hv, hstamp, hle, hyoung, hfailures, hfew⟩ := h.backed hvalid
  rw [hstamp, ageMs_clockMs_of_looked hle hyoung hnow] at hage
  exact ⟨hboot, hvalid, hfailures ▸ hfew, v, hv, hle.trans hnow.1, hage⟩

end Evidence

section Generations

variable {state state' : PathState} {nowMs captured : Nat} {event : PathEvent}
  {calls : List TimedCall}

theorem runPath_append (state : PathState) (earlier later : List TimedCall) :
    runPath state (earlier ++ later) = runPath (runPath state earlier) later :=
  runSteps_append state earlier later

theorem tracked_state (w : Tracked) (calls : List TimedCall) :
    (runSteps Tracked.step w calls).state = runPath w.state calls := by
  induction calls generalizing w with
  | nil => rfl
  | cons call calls ih => exact ih (w.step call)

theorem le_endedGeneration (generation : Nat) : generation ≤ endedGeneration generation := by
  unfold endedGeneration nextGeneration
  split_ifs
  · exact Nat.le_refl _
  · exact Nat.le_succ _

theorem lt_endedGeneration {generation : Nat} (h : generation ≠ uint32Max) :
    generation < endedGeneration generation := by
  rw [endedGeneration, nextGeneration, if_neg h]
  exact Nat.lt_succ_self _

/-- The generation `captured` is over: a later one has begun, or the last one has ended. -/
def Over (captured : Nat) (state : PathState) : Prop :=
  captured < state.generation ∨
    (captured = state.generation ∧ captured = uint32Max ∧ state.lifecycle ≠ pathStateValid)

theorem Over.stale (h : Over captured state) (success : Bool) (nowMs : Nat) :
    noteDirectResult state captured success nowMs = (state, .stale) := by
  apply noteDirectResult_stale
  rcases h with hlt | ⟨_, _, hended⟩
  · exact .inr (.inl hlt.ne')
  · exact .inr (.inr hended)

theorem PathStep.generation_le (h : PathStep state nowMs state' event)
    (hkept : event ≠ .forgotten) : state.generation ≤ state'.generation := by
  cases h with
  | kept | succeeded | failed => exact Nat.le_refl _
  | learned => exact Nat.le_succ _
  | expired | fellBack => exact le_endedGeneration _
  | forgotten => exact absurd rfl hkept

theorem PathStep.over (h : PathStep state nowMs state' event)
    (hends : event.endsGeneration = true) (hle : captured ≤ state.generation) :
    Over captured state' := by
  have hended : ∀ ended : PathState, ended.generation = endedGeneration state.generation →
      ended.lifecycle ≠ pathStateValid → Over captured ended := by
    intro ended hgen hne
    by_cases hmax : state.generation = uint32Max
    · have hsame : ended.generation = state.generation := by
        rw [hgen, endedGeneration, nextGeneration, if_pos hmax]
        rfl
      rcases hle.lt_or_eq with hlt | heq
      · exact .inl (hsame ▸ hlt)
      · exact .inr ⟨heq.trans hsame.symm, heq.trans hmax, hne⟩
    · exact .inl (hgen ▸ hle.trans_lt (lt_endedGeneration hmax))
  cases h with
  | kept | succeeded | failed | forgotten => cases hends
  | learned => exact .inl (Nat.lt_succ_of_le hle)
  | expired => exact hended _ rfl (by decide : pathStateExpired ≠ pathStateValid)
  | fellBack => exact hended _ rfl (by decide : pathStateFailed ≠ pathStateValid)

theorem PathStep.stays_over (h : PathStep state nowMs state' event) (hkept : event ≠ .forgotten)
    (hover : Over captured state) : Over captured state' := by
  rcases hover with hlt | ⟨heq, hmax, hended⟩
  · exact .inl (hlt.trans_le (h.generation_le hkept))
  · cases h with
    | kept => exact .inr ⟨heq, hmax, hended⟩
    | learned hgen => exact absurd (heq.symm.trans hmax) hgen
    | expired hvalid | succeeded hvalid | failed hvalid | fellBack hvalid =>
      exact absurd hvalid hended
    | forgotten => exact absurd rfl hkept

theorem run_generation_le (hkept : ∀ call ∈ calls, call.2 ≠ .reset) :
    state.generation ≤ (runPath state calls).generation := by
  induction calls generalizing state with
  | nil => exact Nat.le_refl _
  | cons call calls ih =>
    have hcall : (runCall state (clockMs call.1) call.2).2 ≠ .forgotten := fun h =>
      hkept call (List.mem_cons_self ..) (runCall_forgotten h)
    exact ((runCall_step state _ call.2).generation_le hcall).trans
      (ih fun c hc => hkept c (List.mem_cons_of_mem _ hc))

theorem run_stays_over (hkept : ∀ call ∈ calls, call.2 ≠ .reset) (hover : Over captured state) :
    Over captured (runPath state calls) := by
  induction calls generalizing state with
  | nil => exact hover
  | cons call calls ih =>
    have hcall : (runCall state (clockMs call.1) call.2).2 ≠ .forgotten := fun h =>
      hkept call (List.mem_cons_self ..) (runCall_forgotten h)
    exact ih (fun c hc => hkept c (List.mem_cons_of_mem _ hc))
      ((runCall_step state _ call.2).stays_over hcall hover)

theorem Advances.over (h : Advances state calls) (hkept : ∀ call ∈ calls, call.2 ≠ .reset) :
    Over state.generation (runPath state calls) := by
  obtain ⟨earlier, call, later, rfl, hends⟩ := h
  rw [runPath_append]
  change Over _ (runPath (stepPath (runPath state earlier) call) later)
  have hbefore : state.generation ≤ (runPath state earlier).generation :=
    run_generation_le fun c hc => hkept c (List.mem_append_left _ hc)
  apply run_stays_over
  · exact fun c hc => hkept c (List.mem_append_right _ (List.mem_cons_of_mem _ hc))
  · exact (runCall_step _ _ call.2).over hends hbefore

theorem run_valid_generation (h : state.lifecycle = pathStateValid → state.generation ≠ 0) :
    (runPath state calls).lifecycle = pathStateValid → (runPath state calls).generation ≠ 0 := by
  induction calls generalizing state with
  | nil => exact h
  | cons call calls ih =>
    apply @ih (stepPath state call)
    change (runCall state (clockMs call.1) call.2).1.lifecycle = pathStateValid →
      (runCall state (clockMs call.1) call.2).1.generation ≠ 0
    have hstep := runCall_step state (clockMs call.1) call.2
    generalize (runCall state (clockMs call.1) call.2).1 = state',
      (runCall state (clockMs call.1) call.2).2 = event at hstep ⊢
    cases hstep with
    | kept => exact h
    | learned => exact fun _ => Nat.succ_ne_zero _
    | expired hvalid | fellBack hvalid => exact fun _ => endedGeneration_ne_zero (h hvalid)
    | succeeded hvalid | failed hvalid => exact fun _ => h hvalid
    | forgotten => exact fun hne => absurd hne (by decide : pathStateNone ≠ pathStateValid)

end Generations

theorem late_result_iff {state : PathState} {calls : List TimedCall} (h : Advances state calls)
    (success : Bool) (nowMs : Nat) :
    noteDirectResult (runPath state calls) state.generation success nowMs =
        (runPath state calls, .stale) ↔
      ¬ Reused state.generation calls := by
  constructor
  · rintro hstale ⟨earlier, t, later, hcalls, hvalid, hgen⟩
    have hend : runPath state calls = runPath .empty later := by
      rw [hcalls, runPath_append]
      rfl
    have hzero : state.generation ≠ 0 := by
      rw [← hgen]
      exact run_valid_generation (fun hne => absurd hne (by decide)) hvalid
    rw [hend] at hstale
    exact noteDirectResult_taken success nowMs hzero hgen hvalid (by rw [hstale])
  · intro hfresh
    by_cases hreset : ∀ call ∈ calls, call.2 ≠ .reset
    · exact (h.over hreset).stale success nowMs
    · obtain ⟨⟨t, made⟩, hcall, hmade⟩ : ∃ call ∈ calls, call.2 = .reset := by
        simpa only [not_forall, not_not, exists_prop] using hreset
      obtain ⟨earlier, later, rfl⟩ := List.append_of_mem hcall
      have hend : runPath state (earlier ++ (t, made) :: later) = runPath .empty later := by
        rw [runPath_append, show made = .reset from hmade]
        rfl
      apply noteDirectResult_stale
      by_contra htaken
      rw [not_or, not_or, not_not, not_not, hend] at htaken
      exact hfresh ⟨earlier, t, later, by rw [show made = .reset from hmade], htaken.2.2,
        htaken.2.1⟩

/-- A direct route is chosen on current evidence only. A result for a generation that has ended
since is ignored exactly when no reset has let the generation be used again. -/
theorem direct_route_current_result_ignored_iff {start : PathState}
    (hstart : start.lifecycle ≠ pathStateValid) :
    (∀ startedAt calls now, TimelyRun (begun start startedAt) calls →
      InTime (runSteps Tracked.step (begun start startedAt) calls) now →
      ∀ known boot path pathLen floodBytes selection,
        routeSelectCanonical known boot path pathLen (runPath start calls) (clockMs now)
          floodBytes = some selection →
        selection.route = .direct →
        boot = true ∧ (runPath start calls).lifecycle = pathStateValid ∧
          (runSteps Tracked.step (begun start startedAt) calls).evidence.failures <
            directPathFailureThreshold ∧
          ∃ v, (runSteps Tracked.step (begun start startedAt) calls).evidence.validatedAt =
              some v ∧ v ≤ now ∧ now - v ≤ directPathMaxAgeMs) ∧
    ∀ earlier later, Advances (runPath start earlier) later → ∀ success t,
      noteDirectResult (runPath start (earlier ++ later)) (runPath start earlier).generation
          success (clockMs t) = (runPath start (earlier ++ later), .stale) ↔
        ¬ Reused (runPath start earlier).generation later := by
  refine ⟨?_, ?_⟩
  · intro startedAt calls now hrun hnow known boot path pathLen floodBytes selection hselect
      hdirect
    have hstate : (runSteps Tracked.step (begun start startedAt) calls).state =
        runPath start calls := tracked_state _ _
    rw [← hstate] at hselect ⊢
    exact (run_sound hstart hrun).direct hnow hselect hdirect
  · intro earlier later hadvances success t
    rw [runPath_append]
    exact late_result_iff hadvances success (clockMs t)

/-- A path learned and confirmed, then expired and learned again. -/
theorem direct_route_current_result_ignored_relearned :
    (∃ v, (runSteps Tracked.step (begun .empty 500) [(1000, .learn 2),
        (2000, .noteDirectResult 1 true), (3000, .expireIfDue)]).evidence.validatedAt = some v ∧
      v ≤ 4000 ∧ 4000 - v ≤ directPathMaxAgeMs) ∧
    noteDirectResult (runPath .empty [(1000, .learn 2), (2000000, .expireIfDue),
        (2100000, .learn 3)]) 1 false (clockMs 2200000) =
      (runPath .empty [(1000, .learn 2), (2000000, .expireIfDue), (2100000, .learn 3)],
        .stale) := by
  have hall := direct_route_current_result_ignored_iff
    (by decide : PathState.empty.lifecycle ≠ pathStateValid)
  constructor
  · have hselected := hall.1 500 [(1000, .learn 2), (2000, .noteDirectResult 1 true),
      (3000, .expireIfDue)] 4000
      ⟨⟨by decide, by decide⟩, ⟨by decide, by decide⟩, ⟨by decide, by decide⟩, trivial⟩
      ⟨by decide, by decide⟩ true true (some [7]) 1 1 _ rfl (by decide +kernel)
    exact hselected.2.2.2
  · apply (hall.2 [(1000, .learn 2)] [(2000000, .expireIfDue), (2100000, .learn 3)]
      ⟨[], (2000000, .expireIfDue), [(2100000, .learn 3)], rfl, by decide +kernel⟩ false
      2200000).mpr
    rintro ⟨earlier, t, later, hcalls, _⟩
    have hreset : (t, PathCall.reset) ∈ ([(2000000, .expireIfDue), (2100000, .learn 3)] :
        List TimedCall) := by
      rw [hcalls]
      exact List.mem_append_right _ (List.mem_cons_self ..)
    simp only [List.mem_cons, Prod.mk.injEq, reduceCtorEq, and_false, List.not_mem_nil,
      or_self] at hreset

/-- After a reset the next path is generation 1 again: the late failure of the forgotten path is
counted against the new one. -/
theorem reset_lets_generation_return :
    ¬ ∀ earlier later, Advances (runPath .empty earlier) later →
      (∀ past, past <+: earlier ++ later → (runPath .empty past).generation < uint32Max) →
      ∀ success t,
        (noteDirectResult (runPath .empty (earlier ++ later)) (runPath .empty earlier).generation
          success (clockMs t)).1 = runPath .empty (earlier ++ later) := by
  intro h
  have hsame := h [(1000, .learn 2)] [(2000, .reset), (3000, .learn 2)]
    ⟨[(2000, .reset)], (3000, .learn 2), [], rfl, by decide +kernel⟩
    (fun past hpast => by
      have hmem := (List.mem_inits past _).mpr hpast
      revert hmem
      exact (by decide +kernel : ∀ past ∈ List.inits ([(1000, .learn 2), (2000, .reset),
        (3000, .learn 2)] : List TimedCall), (runPath .empty past).generation < uint32Max) past)
    false 4000
  revert hsame
  decide +kernel

end Sigui.MeshPath

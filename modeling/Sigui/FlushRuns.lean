import Sigui.FlushHoldings

/-! What holds of the forced flush and the quiesce in every interleaving, and the run in which the
numbers of the requests come round. -/
namespace Sigui.FlushWorker

section Guarantees

variable {τ : Type} [DecidableEq τ] {s : State τ}

/-- Nothing is held by `t`. -/
structure Released (s : State τ) (t : τ) : Prop where
  request : s.requestMutex ≠ some t
  flush : s.flushMutex ≠ some (.task t)
  requester : s.quiesceRequester ≠ some t
  owner : s.quiesceOwner ≠ some t
  force : s.forceFlushRequester ≠ some t

structure Guarantees (s : State τ) : Prop where
  /-- a quiesce has one owner -/
  one : ∀ t u, (s.tasks t).owns = true → (s.tasks u).owns = true → t = u
  /-- no pass is under way during a quiesce -/
  alone : ∀ t, (s.tasks t).owns = true → s.worker.holdsFlush = false
  yields : ∀ t u, (s.tasks t).owns = true → u ≠ t → s.persistenceShouldYield u = true
  /-- a pass is only cancelled for a quiesce that asked to preempt -/
  spared : ∀ id pass mode, s.worker = .passing id pass (some mode) → mode = true
  /-- a call that fails leaves the quiesce as it found it -/
  failed : ∀ t, (s.tasks t).phase = .idle → (s.tasks t).ret ≠ espOk →
    (s.tasks t).owns = (s.tasks t).ownedAtCall
  /-- between its calls, a task holds nothing but a quiesce of its own -/
  released : ∀ t, (s.tasks t).phase = .idle → (s.tasks t).owns = false → Released s t
  calm : s.quiesceRequester = none → s.quiesceOwner = none → s.preemptRequested = false
  /-- a forced flush that returns `ESP_OK` has the result of a pass that started after its request
  was queued -/
  fresh : ∀ t, (s.tasks t).phase = .idle → (s.tasks t).call = .forceFlush →
    (s.tasks t).ret = espOk → ∃ e, (s.tasks t).evidence = some e ∧ e.queuedAfter < e.pass

omit [DecidableEq τ] in
theorem Sound.one_owner (hs : Sound s) {t u : τ} (ht : (s.tasks t).owns = true)
    (hu : (s.tasks u).owns = true) : t = u := by
  have howner := (hs.tasks t).owner.mpr ht
  rw [(hs.tasks u).owner.mpr hu] at howner
  exact (Option.some.inj howner).symm

theorem Sound.guarantees (hs : Sound s) : Guarantees s := by
  refine ⟨fun t u => hs.one_owner, fun t ht => ?_, fun t u ht hu => ?_, hs.worker.spared,
    fun t _ hret => (hs.tasks t).kept (Or.inr hret), fun t hidle howns => ?_,
    fun hnone _ => hs.calm hnone, fun t hidle hcall hret => ?_⟩
  · have htask := (hs.tasks t).flush.mpr (Or.inl ht)
    refine Bool.eq_false_iff.mpr fun hworker => ?_
    rw [hs.worker.flush.mpr hworker] at htask
    cases htask
  · have hrequester := (hs.tasks t).requester.mpr (Or.inl ht)
    have howner := (hs.tasks t).owner.mpr ht
    have hother : some t ≠ some u := fun h => hu (Option.some.inj h).symm
    rw [State.persistenceShouldYield, (hs.tasks t).owned ht, hrequester, howner,
      decide_eq_true hother]
    rfl
  · have h := hs.tasks t
    have hnone : ∀ b : Bool, b = false → ¬((s.tasks t).owns = true ∨ b = true) := fun b hb => by
      simp [howns, hb]
    refine ⟨fun hheld => ?_, fun hheld => ?_, fun hheld => ?_, fun hheld => ?_, fun hheld => ?_⟩
    · exact hnone _ (by rw [hidle]; rfl) (h.request.mp hheld)
    · exact hnone _ (by rw [hidle]; rfl) (h.flush.mp hheld)
    · exact hnone _ (by rw [hidle]; rfl) (h.requester.mp hheld)
    · exact absurd (h.owner.mp hheld) (by simp [howns])
    · have hforces := h.force.mp hheld
      rw [hidle] at hforces
      cases hforces
  · refine (hs.tasks t).outcome hcall ?_
    rw [hidle]
    exact congrArg some hret

end Guarantees

section Runs

variable {τ : Type} [DecidableEq τ] {s : State τ}

/-- The number is neither that of the result published last nor that of the request in the
worker's hands. -/
def State.numberIsFresh (s : State τ) (id : Nat) : Bool :=
  decide (s.resultRequestId ≠ id) && decide (s.worker.inHand.map Prod.fst ≠ some id)

/-- What is asked of a step: a request is queued under a fresh number. -/
def meets (s : State τ) (act : Act τ) : Bool :=
  match act with
  | .advance t _ =>
    match (s.tasks t).phase with
    | .sending id => decide (queueLength ≤ s.queue.length) || s.numberIsFresh id
    | _ => true
  | _ => true

omit [DecidableEq τ] in
theorem Sound.boot : Sound (boot : State τ) := by
  refine ⟨fun t => ?_, ⟨by simp [FlushWorker.boot, Worker.holdsFlush], by simp [FlushWorker.boot]⟩,
    fun _ => rfl⟩
  constructor <;> simp [FlushWorker.boot, Phase.holdsRequest, Phase.holdsFlush, Phase.requests,
    Phase.forces, Phase.ofQuiesce]

theorem Sound.step (hs : Sound s) {act : Act τ} (hmeets : meets s act = true) :
    Sound (step s act) := by
  cases act with
  | call t call timeoutMs =>
    unfold FlushWorker.step
    dsimp only
    split_ifs with hidle
    · exact hs.enter hidle call timeoutMs
    · exact hs
  | advance t late =>
    refine hs.advance fun id hphase hroom => ?_
    simp only [meets, hphase, State.numberIsFresh, Bool.or_eq_true, Bool.and_eq_true,
      decide_eq_true_eq] at hmeets
    obtain ⟨hresult, hhand⟩ := hmeets.resolve_left (Nat.not_le.mpr hroom)
    exact ⟨hresult, fun pass hpass => hhand (by rw [hpass]; rfl)⟩
  | work late ret =>
    unfold FlushWorker.step
    dsimp only
    split_ifs
    · exact hs.work
    · exact hs

/-- In every interleaving of any tasks in which no request is queued under a number that is still
in use, a forced flush and a quiesce exclude each other and leave nothing behind. -/
theorem flush_and_quiesce {acts : List (Act τ)}
    (hmeets : RunOk step (fun s act => meets s act = true) boot acts) :
    Guarantees (runSteps step (boot : State τ) acts) :=
  (run_invariant (fun _ _ hs h => hs.step h) hmeets Sound.boot).guarantees

end Runs

def advances (late : List Bool) : List (Act Unit) := late.map fun late => .advance () late

/-- A forced flush from its call to the queue, on a worker that runs. -/
def flushToQueue : List (Act Unit) := .call () .forceFlush 1000 :: advances (List.replicate 5 false)

/-- The worker takes a request and serves it with `ESP_OK`. -/
def servedRequest : List (Act Unit) :=
  [.work false espOk, .work false espOk, .work true espOk, .work false espOk, .work false espOk]

def firstFlush : List (Act Unit) :=
  .call () .forceFlush 1000 :: advances (List.replicate 7 false) ++ servedRequest ++
    advances (List.replicate 3 false)

theorem flush_and_quiesce_first : Guarantees (runSteps step boot firstFlush) :=
  flush_and_quiesce (show RunOk step (fun s act => meets s act = true) boot firstFlush by decide)

def lateFlush : List (Act Unit) :=
  flushToQueue ++ advances [false, true, false, false]

def refusedFlush : List (Act Unit) := flushToQueue ++ advances (List.replicate 3 false)

/-- The worker is not scheduled, the queue is full, and the last number given out is `n`. -/
def stuffed (n : Nat) : State Unit where
  requestMutex := none
  flushMutex := none
  queue := [2, 3]
  quiesceRequester := none
  quiesceOwner := none
  forceFlushRequester := none
  preemptRequested := false
  started := true
  starting := false
  workerRuns := true
  nextRequestId := n
  resultRequestId := 1
  result := espOk
  resultPass := 1
  worker := .receiving
  passes := 1
  tasks := fun _ => ⟨.idle, .forceFlush, espErrTimeout, false, false, none⟩

theorem stuffed_reached : runSteps step boot (firstFlush ++ lateFlush ++ lateFlush) = stuffed 3 := rfl

theorem refusedFlush_stuffed {n : Nat} (h : n < uint32Max) :
    runSteps step (stuffed n) refusedFlush = stuffed (n + 1) := by
  have hnext : (stuffed n).nextId = n + 1 := by
    have hsucc : u32Succ n = n + 1 := Nat.mod_eq_of_lt (Nat.succ_lt_succ h)
    rw [State.nextId, show (stuffed n).nextRequestId = n from rfl, hsucc, if_neg (Nat.succ_ne_zero n)]
  rw [← hnext]
  rfl

theorem refusedFlushes_stuffed {n : Nat} (k : Nat) (h : n + k ≤ uint32Max) :
    runSteps step (stuffed n) (List.replicate k refusedFlush).flatten = stuffed (n + k) := by
  induction k generalizing n with
  | zero => rfl
  | succ k ih =>
    rw [List.replicate_succ, List.flatten_cons, runSteps_append,
      refusedFlush_stuffed (by omega), ih (by omega)]
    congr 1
    omega

/-- The worker takes a request at last, and the next number is 1 again. -/
def comesRound : List (Act Unit) :=
  .work false espOk :: flushToQueue ++ advances (List.replicate 4 false)

/-- A forced flush is answered at once with the result that request 1 had before all others. -/
theorem flush_answered_by_old_pass :
    ¬ ∀ acts : List (Act Unit), Guarantees (runSteps step boot acts) := by
  intro h
  have hfresh := (h (firstFlush ++ lateFlush ++ lateFlush ++
    (List.replicate (uint32Max - 3) refusedFlush).flatten ++ comesRound)).fresh ()
  rw [runSteps_append, runSteps_append, stuffed_reached, refusedFlushes_stuffed _ (by decide)]
    at hfresh
  obtain ⟨e, he, hlt⟩ := hfresh (by decide +kernel) (by decide +kernel) (by decide +kernel)
  have hold : ((runSteps step (stuffed (3 + (uint32Max - 3))) comesRound).tasks ()).evidence =
      some ⟨2, 1⟩ := by decide +kernel
  rw [hold] at he
  cases he
  exact absurd hlt (by decide)

end Sigui.FlushWorker

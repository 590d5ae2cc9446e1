import Sigui.FlushWorker

/-! Who holds what. A task holds exactly the mutexes and flags that its place in the code and its
quiesce account for, and the worker holds the flush mutex during a pass. -/
namespace Sigui.FlushWorker

def Phase.holdsRequest : Phase → Bool
  | .checkingDeadline | .registering | .numbering | .sending _ | .polling _ _ | .unregistering _
  | .givingRequest _ | .seekingFlush | .confirming | .promoting | .givingFlush
  | .withdrawing .request | .withdrawing .both | .endingFlush | .endingRequest => true
  | _ => false

def Phase.holdsFlush : Phase → Bool
  | .confirming | .promoting | .withdrawing .both | .givingFlush | .endingFlush => true
  | _ => false

def Phase.requests : Phase → Bool
  | .seekingRequest | .seekingFlush | .confirming | .promoting | .withdrawing _ => true
  | _ => false

def Phase.forces : Phase → Bool
  | .numbering | .sending _ | .polling _ _ | .unregistering _ => true
  | _ => false

def Phase.ofQuiesce : Phase → Bool
  | .announcing | .seekingRequest | .seekingFlush | .confirming | .promoting | .endingFlush
  | .endingRequest => true
  | _ => false

def Phase.ends : Phase → Bool
  | .endingFlush | .endingRequest => true
  | _ => false

def Worker.holdsFlush : Worker → Bool
  | .passing _ _ _ | .giving _ _ _ => true
  | _ => false

/-- The request in the worker's hands, with the pass that serves it. -/
def Worker.inHand : Worker → Option (Nat × Nat)
  | .entering (some id) pass | .passing (some id) pass _ | .giving (some id) pass _
  | .publishing id pass _ => some (id, pass)
  | _ => none

/-- What a call is about to return, or has returned as `ret`. -/
def Phase.returning (ret : EspErr) : Phase → Option EspErr
  | .idle => some ret
  | .unregistering ret => some ret
  | .givingRequest ret => some ret
  | _ => none

variable {τ : Type} [DecidableEq τ]

/-- The shared state as far as the task `t` at `l` is concerned. -/
structure Fits (s : State τ) (t : τ) (l : Local) : Prop where
  request : s.requestMutex = some t ↔ l.owns = true ∨ l.phase.holdsRequest = true
  flush : s.flushMutex = some (.task t) ↔ l.owns = true ∨ l.phase.holdsFlush = true
  requester : s.quiesceRequester = some t ↔ l.owns = true ∨ l.phase.requests = true
  owner : s.quiesceOwner = some t ↔ l.owns = true
  force : s.forceFlushRequester = some t ↔ l.phase.forces = true
  mode : l.phase.requests = true → s.preemptRequested = l.call.preempts
  owned : l.owns = true → s.preemptRequested = true
  apart : l.owns = true → l.phase.holdsRequest = false ∧ l.phase.requests = false
  kept : l.phase ≠ .idle ∧ l.phase.ends = false ∨ l.ret ≠ espOk → l.owns = l.ownedAtCall
  kind : l.phase.ofQuiesce = true → l.call ≠ .forceFlush
  polling : ∀ id queuedAfter, l.phase = .polling id queuedAfter → queuedAfter ≤ s.passes ∧
    (s.resultRequestId = id → queuedAfter < s.resultPass) ∧
    ∀ pass, s.worker.inHand = some (id, pass) → queuedAfter < pass
  outcome : l.call = .forceFlush → l.phase.returning l.ret = some espOk →
    ∃ e, l.evidence = some e ∧ e.queuedAfter < e.pass

structure WorkerFits (s : State τ) : Prop where
  flush : s.flushMutex = some .worker ↔ s.worker.holdsFlush = true
  spared : ∀ id pass mode, s.worker = .passing id pass (some mode) → mode = true

structure Sound (s : State τ) : Prop where
  tasks : ∀ t, Fits s t (s.tasks t)
  worker : WorkerFits s
  calm : s.quiesceRequester = none → s.preemptRequested = false

section Rules

/-- What a step of `t` leaves as it is for the others and for the worker. -/
structure Frame (s s' : State τ) (t : τ) : Prop where
  tasks : s'.tasks = s.tasks
  request : ∀ u ≠ t, s'.requestMutex = some u ↔ s.requestMutex = some u
  flush : ∀ h ≠ .task t, s'.flushMutex = some h ↔ s.flushMutex = some h
  requester : ∀ u ≠ t, s'.quiesceRequester = some u ↔ s.quiesceRequester = some u
  owner : ∀ u ≠ t, s'.quiesceOwner = some u ↔ s.quiesceOwner = some u
  force : ∀ u ≠ t, s'.forceFlushRequester = some u ↔ s.forceFlushRequester = some u
  preempt : ∀ u ≠ t, s.quiesceRequester = some u → s'.preemptRequested = s.preemptRequested
  calm : s'.quiesceRequester = none → s'.preemptRequested = false
  worker : s'.worker = s.worker
  passes : s'.passes = s.passes
  resultRequestId : s'.resultRequestId = s.resultRequestId
  resultPass : s'.resultPass = s.resultPass

variable {s s' : State τ} {t : τ} {l : Local}

omit [DecidableEq τ] in
theorem Fits.frame {u : τ} (hu : u ≠ t) (hf : Frame s s' t) (h : Fits s u l) : Fits s' u l := by
  have hflush : (Holder.task u) ≠ .task t := fun heq => hu (Holder.task.inj heq)
  refine ⟨(hf.request u hu).trans h.request, (hf.flush _ hflush).trans h.flush,
    (hf.requester u hu).trans h.requester, (hf.owner u hu).trans h.owner,
    (hf.force u hu).trans h.force, fun hr => ?_, fun ho => ?_, h.apart, h.kept, h.kind,
    ?_, h.outcome⟩
  · rw [hf.preempt u hu (h.requester.mpr (Or.inr hr))]
    exact h.mode hr
  · rw [hf.preempt u hu (h.requester.mpr (Or.inl ho))]
    exact h.owned ho
  · rw [hf.passes, hf.resultRequestId, hf.resultPass, hf.worker]
    exact h.polling

theorem Sound.put (hs : Sound s) (hf : Frame s s' t) (hfits : Fits s' t l) :
    Sound (s'.put t l) := by
  have hother : ∀ u ≠ t, Fits s' u (s.tasks u) := fun u hu => (hs.tasks u).frame hu hf
  have hput : ∀ u k, Fits s' u k → Fits (s'.put t l) u k := fun u k h =>
    ⟨h.request, h.flush, h.requester, h.owner, h.force, h.mode, h.owned, h.apart, h.kept,
      h.kind, h.polling, h.outcome⟩
  refine ⟨fun u => hput u _ ?_, ⟨?_, ?_⟩, hf.calm⟩
  · by_cases hu : u = t
    · subst hu
      rw [State.put_self]
      exact hfits
    · rw [State.put_other s' l hu, hf.tasks]
      exact hother u hu
  · change s'.flushMutex = some .worker ↔ s'.worker.holdsFlush = true
    rw [hf.flush _ (by simp), hf.worker]
    exact hs.worker.flush
  · change ∀ id pass mode, s'.worker = .passing id pass (some mode) → mode = true
    rw [hf.worker]
    exact hs.worker.spared

omit [DecidableEq τ] in
theorem Frame.refl (hs : Sound s) (t : τ) : Frame s s t :=
  ⟨rfl, fun _ _ => Iff.rfl, fun _ _ => Iff.rfl, fun _ _ => Iff.rfl, fun _ _ => Iff.rfl,
    fun _ _ => Iff.rfl, fun _ _ _ => rfl, hs.calm, rfl, rfl, rfl, rfl⟩

theorem own_change {α : Type} {x y : Option α} {a : α} (hx : x = none ∨ x = some a)
    (hy : y = none ∨ y = some a) : ∀ b ≠ a, y = some b ↔ x = some b := by
  intro b hb
  have hne : some a ≠ some b := fun h => hb (Option.some.inj h).symm
  rcases hx with rfl | rfl <;> rcases hy with rfl | rfl <;> simp [hne]

end Rules

section Steps

attribute [local simp] Phase.holdsRequest Phase.holdsFlush Phase.requests Phase.forces Phase.ends
  Phase.ofQuiesce Phase.returning Local.returns

variable {s : State τ} {t : τ} {late : Bool}

theorem Sound.flush_begins (hs : Sound s)
    (hphase : (s.tasks t).phase ∈ [Phase.takingRequest, .checkingDeadline, .registering, .numbering]) :
    Sound (s.advance t late) := by
  have hlate : espErrTimeout ≠ espOk := by decide
  have hstate : espErrInvalidState ≠ espOk := by decide
  have h := hs.tasks t
  unfold State.advance
  generalize s.tasks t = l at h hphase ⊢
  obtain ⟨hrequest, hflush, hrequester, howner, hforce, hmode, howned, hapart, hkept, hkind,
    hpolling, houtcome⟩ := h
  simp only [List.mem_cons, List.not_mem_nil, or_false] at hphase
  rcases hphase with hphase | hphase | hphase | hphase <;> dsimp only <;> rw [hphase] <;> dsimp only
  -- the place in the code settles most of what the task may hold, once for all fields below
  all_goals simp [hphase] at hrequest hflush hrequester howner hforce hmode hkept hkind houtcome
  · split_ifs with hwait hfree
    · refine hs.put (Frame.refl hs t) ?_
      constructor <;> simp_all
    · refine hs.put { Frame.refl hs t with request := own_change (Or.inl hfree) (Or.inr rfl) } ?_
      constructor <;> simp_all
    · exact hs
  · refine hs.put (Frame.refl hs t) ?_
    cases late <;> constructor <;> simp_all
  · split_ifs with hfree
    · refine hs.put { Frame.refl hs t with force := own_change (Or.inl hfree) (Or.inr rfl) } ?_
      constructor <;> simp_all
    · refine hs.put (Frame.refl hs t) ?_
      constructor <;> simp_all
  · refine hs.put { Frame.refl hs t with } ?_
    constructor <;> simp_all

theorem Sound.flush_ends (hs : Sound s) (id queuedAfter : Nat) (ret : EspErr)
    (hphase : (s.tasks t).phase ∈ [Phase.sending id, .polling id queuedAfter, .unregistering ret,
      .givingRequest ret])
    (hfresh : (s.tasks t).phase = .sending id → s.queue.length < queueLength →
      s.resultRequestId ≠ id ∧ ∀ pass, s.worker.inHand ≠ some (id, pass)) :
    Sound (s.advance t late) := by
  have hlate : espErrTimeout ≠ espOk := by decide
  have h := hs.tasks t
  unfold State.advance
  generalize s.tasks t = l at h hphase hfresh ⊢
  obtain ⟨hrequest, hflush, hrequester, howner, hforce, hmode, howned, hapart, hkept, hkind,
    hpolling, houtcome⟩ := h
  simp only [List.mem_cons, List.not_mem_nil, or_false] at hphase
  rcases hphase with hphase | hphase | hphase | hphase <;> dsimp only <;> rw [hphase] <;> dsimp only
  all_goals simp [hphase] at hrequest hflush hrequester howner hforce hmode hkept hkind houtcome
  · split_ifs with hroom
    · obtain ⟨hresult, hhand⟩ := hfresh hphase hroom
      refine hs.put { Frame.refl hs t with } ?_
      constructor <;> simp_all
    · refine hs.put (Frame.refl hs t) ?_
      constructor <;> simp_all
  · split_ifs with hresult hwait
    · refine hs.put (Frame.refl hs t) ?_
      constructor <;> simp_all
    · refine hs.put (Frame.refl hs t) ?_
      constructor <;> simp_all
    · exact hs
  · have hmine : s.forceFlushRequester = some t := by simp_all
    refine hs.put { Frame.refl hs t with force := own_change (Or.inr hmine) ?_ } ?_
    · exact Or.inl (if_pos hmine)
    · constructor <;> simp_all
  · have hmine : s.requestMutex = some t := by simp_all
    refine hs.put { Frame.refl hs t with request := own_change (Or.inr hmine) (Or.inl rfl) } ?_
    constructor <;> simp_all

theorem Sound.start (hs : Sound s)
    (hphase : (s.tasks t).phase ∈ [Phase.creating, .created]) : Sound (s.advance t late) := by
  have hmem : espErrNoMem ≠ espOk := by decide
  have h := hs.tasks t
  unfold State.advance
  generalize s.tasks t = l at h hphase ⊢
  obtain ⟨hrequest, hflush, hrequester, howner, hforce, hmode, howned, hapart, hkept, hkind,
    hpolling, houtcome⟩ := h
  simp only [List.mem_cons, List.not_mem_nil, or_false] at hphase
  rcases hphase with hphase | hphase <;> dsimp only <;> rw [hphase] <;> dsimp only
  all_goals simp [hphase] at hrequest hflush hrequester howner hforce hmode hkept hkind houtcome
  · split_ifs
    · refine hs.put { Frame.refl hs t with } ?_
      constructor <;> simp_all
    · refine hs.put { Frame.refl hs t with } ?_
      constructor <;> simp_all
  · refine hs.put { Frame.refl hs t with } ?_
    cases hcall : l.call <;> constructor <;> simp_all [Call.body]

theorem Sound.quiesce_begins (hs : Sound s)
    (hphase : (s.tasks t).phase ∈ [Phase.announcing, .seekingRequest, .seekingFlush, .confirming]) :
    Sound (s.advance t late) := by
  have hstate : espErrInvalidState ≠ espOk := by decide
  have h := hs.tasks t
  unfold State.advance
  generalize s.tasks t = l at h hphase ⊢
  obtain ⟨hrequest, hflush, hrequester, howner, hforce, hmode, howned, hapart, hkept, hkind,
    hpolling, houtcome⟩ := h
  simp only [List.mem_cons, List.not_mem_nil, or_false] at hphase
  rcases hphase with hphase | hphase | hphase | hphase <;> dsimp only <;> rw [hphase] <;> dsimp only
  all_goals simp [hphase] at hrequest hflush hrequester howner hforce hmode hkept hkind houtcome
  · split_ifs with hnone
    · obtain ⟨hnoOwner, hnoRequester⟩ := hnone
      refine hs.put { Frame.refl hs t with
        requester := own_change (Or.inl hnoRequester) (Or.inr rfl)
        preempt := fun u _ hu => by simp [hnoRequester] at hu
        calm := fun hgone => by simp at hgone } ?_
      constructor <;> simp_all
    · refine hs.put (Frame.refl hs t) ?_
      constructor <;> simp_all
  · split_ifs with hwait hfree
    · refine hs.put (Frame.refl hs t) ?_
      constructor <;> simp_all
    · refine hs.put { Frame.refl hs t with request := own_change (Or.inl hfree) (Or.inr rfl) } ?_
      constructor <;> simp_all
    · exact hs
  · split_ifs with hwait hfree
    · refine hs.put (Frame.refl hs t) ?_
      constructor <;> simp_all
    · refine hs.put { Frame.refl hs t with flush := own_change (Or.inl hfree) (Or.inr rfl) } ?_
      constructor <;> simp_all
    · exact hs
  · refine hs.put (Frame.refl hs t) ?_
    cases late <;> constructor <;> simp_all

omit [DecidableEq τ] in
theorem Sound.requester_of_owner (hs : Sound s) {u : τ} (hu : s.quiesceOwner = some u) :
    s.quiesceRequester = some u :=
  (hs.tasks u).requester.mpr (Or.inl ((hs.tasks u).owner.mp hu))

theorem Sound.quiesce_ends (hs : Sound s) (held : Held)
    (hphase : (s.tasks t).phase ∈ [Phase.promoting, .withdrawing held, .givingFlush, .endingFlush,
      .endingRequest]) : Sound (s.advance t late) := by
  have hlate : espErrTimeout ≠ espOk := by decide
  have h := hs.tasks t
  have howners := fun u => hs.requester_of_owner (u := u)
  unfold State.advance
  generalize s.tasks t = l at h hphase ⊢
  obtain ⟨hrequest, hflush, hrequester, howner, hforce, hmode, howned, hapart, hkept, hkind,
    hpolling, houtcome⟩ := h
  simp only [List.mem_cons, List.not_mem_nil, or_false] at hphase
  rcases hphase with hphase | hphase | hphase | hphase | hphase <;> dsimp only <;> rw [hphase] <;>
    dsimp only
  all_goals simp [hphase] at hrequest hflush hrequester howner hforce hmode hkept hkind houtcome
  · have hmine : s.quiesceRequester = some t := by simp_all
    have hnobody : s.quiesceOwner = none ∨ s.quiesceOwner = some t := by
      cases hu : s.quiesceOwner with
      | none => exact Or.inl rfl
      | some u => exact Or.inr (((howners u hu).symm.trans hmine))
    refine hs.put { Frame.refl hs t with
      owner := own_change hnobody (Or.inr rfl)
      preempt := fun u hne hu => absurd (Option.some.inj (hu.symm.trans hmine)) hne
      calm := fun hgone => by simp [hmine] at hgone } ?_
    constructor <;> simp_all
  · have hmine : s.quiesceRequester = some t := by simp_all
    rw [if_pos hmine]
    refine hs.put { Frame.refl hs t with
      requester := own_change (Or.inr hmine) (Or.inl rfl)
      preempt := fun u hne hu => absurd (Option.some.inj (hu.symm.trans hmine)) hne
      calm := fun _ => rfl } ?_
    cases held <;> constructor <;> simp_all
  · have hmine : s.flushMutex = some (.task t) := by simp_all
    refine hs.put { Frame.refl hs t with flush := own_change (Or.inr hmine) (Or.inl rfl) } ?_
    constructor <;> simp_all
  · have hmine : s.flushMutex = some (.task t) := by simp_all
    refine hs.put { Frame.refl hs t with flush := own_change (Or.inr hmine) (Or.inl rfl) } ?_
    constructor <;> simp_all
  · have hmine : s.requestMutex = some t := by simp_all
    refine hs.put { Frame.refl hs t with request := own_change (Or.inr hmine) (Or.inl rfl) } ?_
    constructor <;> simp_all

theorem Sound.enter (hs : Sound s) (hphase : (s.tasks t).phase = .idle) (call : Call)
    (timeoutMs : Nat) : Sound (s.enter t call timeoutMs) := by
  have harg : espErrInvalidArg ≠ espOk := by decide
  have hstate : espErrInvalidState ≠ espOk := by decide
  have h := hs.tasks t
  have howners := fun u => hs.requester_of_owner (u := u)
  unfold State.enter
  generalize s.tasks t = l at h hphase ⊢
  obtain ⟨hrequest, hflush, hrequester, howner, hforce, hmode, howned, hapart, hkept, hkind,
    hpolling, houtcome⟩ := h
  cases call with
  | quiesceEnd =>
    dsimp only
    split_ifs with hmine
    · have hrequests := howners t hmine
      refine hs.put { Frame.refl hs t with
        owner := own_change (Or.inr hmine) (Or.inl rfl)
        requester := own_change (Or.inr hrequests) (Or.inl rfl)
        preempt := fun u hne hu => absurd (Option.some.inj (hu.symm.trans hrequests)) hne
        calm := fun _ => rfl } ?_
      constructor <;> simp_all
    · refine hs.put (Frame.refl hs t) ?_
      constructor <;> simp_all
  | forceFlush =>
    dsimp only
    split_ifs
    · refine hs.put (Frame.refl hs t) ?_
      constructor <;> simp_all
    · refine hs.put (Frame.refl hs t) ?_
      constructor <;> simp_all [Call.body]
    · refine hs.put (Frame.refl hs t) ?_
      constructor <;> simp_all
    · refine hs.put { Frame.refl hs t with } ?_
      constructor <;> simp_all
  | quiesce preempt =>
    dsimp only
    split_ifs
    · refine hs.put (Frame.refl hs t) ?_
      constructor <;> simp_all
    · refine hs.put (Frame.refl hs t) ?_
      constructor <;> simp_all [Call.body]
    · refine hs.put (Frame.refl hs t) ?_
      constructor <;> simp_all
    · refine hs.put { Frame.refl hs t with } ?_
      constructor <;> simp_all

theorem Sound.advance (hs : Sound s)
    (hfresh : ∀ id, (s.tasks t).phase = .sending id → s.queue.length < queueLength →
      s.resultRequestId ≠ id ∧ ∀ pass, s.worker.inHand ≠ some (id, pass)) :
    Sound (s.advance t late) := by
  cases hphase : (s.tasks t).phase with
  | idle =>
    unfold State.advance
    dsimp only
    rw [hphase]
    exact hs
  | creating => exact hs.start (by simp [hphase])
  | created => exact hs.start (by simp [hphase])
  | takingRequest => exact hs.flush_begins (by simp [hphase])
  | checkingDeadline => exact hs.flush_begins (by simp [hphase])
  | registering => exact hs.flush_begins (by simp [hphase])
  | numbering => exact hs.flush_begins (by simp [hphase])
  | sending id =>
    exact hs.flush_ends id 0 0 (by simp [hphase]) (hfresh id)
  | polling id queuedAfter =>
    exact hs.flush_ends id queuedAfter 0 (by simp [hphase]) (by simp [hphase])
  | unregistering ret =>
    exact hs.flush_ends 0 0 ret (by simp [hphase]) (by simp [hphase])
  | givingRequest ret =>
    exact hs.flush_ends 0 0 ret (by simp [hphase]) (by simp [hphase])
  | announcing => exact hs.quiesce_begins (by simp [hphase])
  | seekingRequest => exact hs.quiesce_begins (by simp [hphase])
  | seekingFlush => exact hs.quiesce_begins (by simp [hphase])
  | confirming => exact hs.quiesce_begins (by simp [hphase])
  | promoting => exact hs.quiesce_ends .nothing (by simp [hphase])
  | withdrawing held => exact hs.quiesce_ends held (by simp [hphase])
  | givingFlush => exact hs.quiesce_ends .nothing (by simp [hphase])
  | endingFlush => exact hs.quiesce_ends .nothing (by simp [hphase])
  | endingRequest => exact hs.quiesce_ends .nothing (by simp [hphase])

end Steps

section Worker

variable {s s' : State τ} {ret : EspErr} {late : Bool}

structure Apart (s s' : State τ) : Prop where
  tasks : s'.tasks = s.tasks
  request : s'.requestMutex = s.requestMutex
  requester : s'.quiesceRequester = s.quiesceRequester
  owner : s'.quiesceOwner = s.quiesceOwner
  force : s'.forceFlushRequester = s.forceFlushRequester
  preempt : s'.preemptRequested = s.preemptRequested

omit [DecidableEq τ] in
theorem Sound.worked (hs : Sound s) (happart : Apart s s') (hworker : WorkerFits s')
    (hflush : ∀ h ≠ .worker, s'.flushMutex = some h ↔ s.flushMutex = some h)
    (hpasses : s.passes ≤ s'.passes)
    (hfresh : ∀ id queuedAfter, queuedAfter ≤ s.passes →
      (s.resultRequestId = id → queuedAfter < s.resultPass) →
      (∀ pass, s.worker.inHand = some (id, pass) → queuedAfter < pass) →
      (s'.resultRequestId = id → queuedAfter < s'.resultPass) ∧
        ∀ pass, s'.worker.inHand = some (id, pass) → queuedAfter < pass) : Sound s' := by
  refine ⟨fun t => ?_, hworker, ?_⟩
  · have h := hs.tasks t
    rw [happart.tasks]
    refine ⟨?_, (hflush _ (by simp)).trans h.flush, ?_, ?_, ?_, ?_, ?_, h.apart, h.kept, h.kind, ?_,
      h.outcome⟩
    · rw [happart.request]
      exact h.request
    · rw [happart.requester]
      exact h.requester
    · rw [happart.owner]
      exact h.owner
    · rw [happart.force]
      exact h.force
    · rw [happart.preempt]
      exact h.mode
    · rw [happart.preempt]
      exact h.owned
    · intro id queuedAfter hphase
      obtain ⟨hle, hresult, hhand⟩ := h.polling id queuedAfter hphase
      exact ⟨hle.trans hpasses, hfresh id queuedAfter hle hresult hhand⟩
  · rw [happart.requester, happart.preempt]
    exact hs.calm

omit [DecidableEq τ] in
theorem Sound.requestedMode (hs : Sound s) (hpass : s.worker.holdsFlush = true)
    (hrequested : s.workerQuiesceRequested = true) : s.requestedMode = true := by
  obtain ⟨hsome, hpreempt⟩ := Bool.and_eq_true_iff.mp hrequested
  obtain ⟨t, ht⟩ := Option.isSome_iff_exists.mp hsome
  have h := hs.tasks t
  have hworker := hs.worker.flush.mpr hpass
  have hnot : (s.tasks t).owns = false := by
    by_contra howns
    have htask := h.flush.mpr (Or.inl (by simpa using howns))
    rw [hworker] at htask
    cases htask
  have hrequests : (s.tasks t).phase.requests = true :=
    (h.requester.mp ht).resolve_left (by simp [hnot])
  rw [State.requestedMode, ht]
  exact (h.mode hrequests).symm.trans hpreempt

omit [DecidableEq τ] in
theorem Sound.finishPass (hs : Sound s) {id : Option Nat} {pass : Nat} {m : Option (Holder τ)}
    (hidle : m ≠ some .worker) (hothers : ∀ h ≠ .worker, m = some h ↔ s.flushMutex = some h)
    (hhand : ∀ k, id = some k → s.worker.inHand = some (k, pass)) :
    Sound ({ s with flushMutex := m }.finishPass id pass ret) := by
  cases id with
  | none =>
    exact hs.worked ⟨rfl, rfl, rfl, rfl, rfl, rfl⟩
      ⟨by simpa [State.finishPass, Worker.holdsFlush] using hidle, by simp [State.finishPass]⟩
      hothers le_rfl
      fun id queuedAfter _ hresult _ => ⟨hresult, by simp [State.finishPass, Worker.inHand]⟩
  | some k =>
    refine hs.worked ⟨rfl, rfl, rfl, rfl, rfl, rfl⟩
      ⟨by simpa [State.finishPass, Worker.holdsFlush] using hidle, by simp [State.finishPass]⟩
      hothers le_rfl fun id queuedAfter _ hresult hold => ⟨hresult, ?_⟩
    intro pass' hmine
    have hsame : k = id ∧ pass = pass' := by simpa [State.finishPass, Worker.inHand] using hmine
    obtain ⟨rfl, rfl⟩ := hsame
    exact hold pass (hhand k rfl)

omit [DecidableEq τ] in
theorem Sound.work (hs : Sound s) : Sound (s.work late ret) := by
  have hflush := hs.worker.flush
  unfold State.work
  cases hworker : s.worker with
  | receiving =>
    have hidle : s.flushMutex ≠ some .worker := by simpa [hworker, Worker.holdsFlush] using hflush
    dsimp only
    cases hqueue : s.queue with
    | nil =>
      dsimp only
      split_ifs
      · exact hs.worked ⟨rfl, rfl, rfl, rfl, rfl, rfl⟩
          ⟨by simpa [Worker.holdsFlush] using hidle, by simp⟩ (fun _ _ => Iff.rfl)
          (Nat.le_succ _) fun _ _ _ hresult _ => ⟨hresult, by simp [Worker.inHand]⟩
      · exact hs
    | cons id queue =>
      refine hs.worked ⟨rfl, rfl, rfl, rfl, rfl, rfl⟩
        ⟨by simpa [Worker.holdsFlush] using hidle, by simp⟩ (fun _ _ => Iff.rfl)
        (Nat.le_succ _) fun other queuedAfter hle hresult _ => ⟨hresult, ?_⟩
      -- This pass starts after everything that is in the queue was queued.
      intro pass hmine
      have hsame : id = other ∧ s.passes + 1 = pass := by simpa [Worker.inHand] using hmine
      omega
  | entering id pass =>
    have hidle : s.flushMutex ≠ some .worker := by simpa [hworker, Worker.holdsFlush] using hflush
    dsimp only
    split_ifs with hlate hfree
    · refine hs.finishPass hidle (fun _ _ => Iff.rfl) fun k hk => ?_
      rw [hworker, hk]
      rfl
    · refine hs.worked ⟨rfl, rfl, rfl, rfl, rfl, rfl⟩ ⟨by simp [Worker.holdsFlush], by simp⟩ ?_
        le_rfl fun _ _ _ hresult hold => ⟨hresult, ?_⟩
      · exact own_change (Or.inl hfree) (Or.inr rfl)
      · rw [hworker] at hold
        cases id <;> exact hold
    · exact hs
  | passing id pass cancelledBy =>
    have hmine : s.flushMutex = some .worker := hflush.mpr (by rw [hworker]; rfl)
    have hspared := hs.worker.spared id pass
    dsimp only
    split_ifs with hlate hrequested
    · refine hs.worked ⟨rfl, rfl, rfl, rfl, rfl, rfl⟩ ⟨by simp [Worker.holdsFlush, hmine], by simp⟩
        (fun _ _ => Iff.rfl) le_rfl fun _ _ _ hresult hold => ⟨hresult, ?_⟩
      rw [hworker] at hold
      cases id <;> exact hold
    · refine hs.worked ⟨rfl, rfl, rfl, rfl, rfl, rfl⟩ ⟨by simp [Worker.holdsFlush, hmine], ?_⟩
        (fun _ _ => Iff.rfl) le_rfl fun _ _ _ hresult hold => ⟨hresult, ?_⟩
      · intro _ _ mode hmode
        have hseen := hs.requestedMode (by rw [hworker]; rfl) hrequested
        simp only [Worker.passing.injEq, Option.some.injEq] at hmode
        rw [← hmode.2.2, hseen]
      · rw [hworker] at hold
        cases id <;> exact hold
    · refine hs.worked ⟨rfl, rfl, rfl, rfl, rfl, rfl⟩ ⟨by simp [Worker.holdsFlush, hmine], ?_⟩
        (fun _ _ => Iff.rfl) le_rfl fun _ _ _ hresult hold => ⟨hresult, ?_⟩
      · intro _ _ mode hmode
        simp only [Worker.passing.injEq] at hmode
        exact hspared mode (by rw [hworker, hmode.2.2])
      · rw [hworker] at hold
        cases id <;> exact hold
  | giving id pass ret =>
    have hmine : s.flushMutex = some .worker := hflush.mpr (by rw [hworker]; rfl)
    refine hs.finishPass (by simp) (own_change (Or.inr hmine) (Or.inl rfl)) fun k hk => ?_
    rw [hworker, hk]
    rfl
  | publishing id pass ret =>
    have hidle : s.flushMutex ≠ some .worker := by simpa [hworker, Worker.holdsFlush] using hflush
    refine hs.worked ⟨rfl, rfl, rfl, rfl, rfl, rfl⟩
      ⟨by simpa [Worker.holdsFlush] using hidle, by simp⟩ (fun _ _ => Iff.rfl) le_rfl
      fun other queuedAfter _ _ hold => ⟨fun hid => ?_, by simp [Worker.inHand]⟩
    subst hid
    exact hold pass (by rw [hworker]; rfl)

end Worker

end Sigui.FlushWorker

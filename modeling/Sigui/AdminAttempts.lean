import Sigui.AdminCalls
import Sigui.RunRules

/-! What a late call for an old attempt can do to the admin session, and which requests the accepted
responses belong to. -/
namespace Sigui.Admin

section Generations

def runCalls (d : Device) (calls : List RuntimeCall) : Device :=
  runSteps (fun d (call : RuntimeCall) => (call.run d).2) d calls

def generationChanges (d : Device) : List RuntimeCall → Nat
  | [] => 0
  | call :: calls =>
    (if (call.run d).2.runtime.session.generation = d.runtime.session.generation then 0 else 1) +
      generationChanges (call.run d).2 calls

/-- `n` changes after generation `g`. The counter runs over `1..UINT32_MAX`. -/
def advanced (g n : Nat) : Nat := (g - 1 + n) % uint32Max + 1

def GenerationOk (g : Nat) : Prop := 1 ≤ g ∧ g ≤ uint32Max

variable {g n : Nat} {d d' : Device} {call : RuntimeCall} {result : RuntimeResult}

theorem nextGeneration_ok (h : GenerationOk g) : GenerationOk (nextGeneration g) := by
  obtain ⟨hpos, hle⟩ := h
  unfold nextGeneration GenerationOk
  by_cases hmax : g = uint32Max
  · rw [if_pos hmax]
    decide
  · rw [if_neg hmax]
    omega

theorem nextGeneration_ne (h : GenerationOk g) : nextGeneration g ≠ g := by
  obtain ⟨hpos, hle⟩ := h
  unfold nextGeneration
  by_cases hmax : g = uint32Max
  · rw [if_pos hmax, hmax]
    decide
  · rw [if_neg hmax]
    omega

theorem advanced_zero (h : GenerationOk g) : advanced g 0 = g := by
  obtain ⟨hpos, hle⟩ := h
  rw [advanced, Nat.add_zero, Nat.mod_eq_of_lt (by omega)]
  omega

theorem advanced_next (h : GenerationOk g) : advanced (nextGeneration g) n = advanced g (1 + n) := by
  obtain ⟨hpos, hle⟩ := h
  unfold advanced nextGeneration
  by_cases hmax : g = uint32Max
  · rw [if_pos hmax, hmax, Nat.sub_self, Nat.zero_add]
    have hsum : uint32Max - 1 + (1 + n) = n + uint32Max := by
      have hone : 1 ≤ uint32Max := by decide
      omega
    rw [hsum, Nat.add_mod_right]
  · rw [if_neg hmax]
    congr 2
    omega

theorem advanced_ne (h : GenerationOk g) (hpos : 0 < n) (hlt : n < uint32Max) :
    advanced g n ≠ g := by
  obtain ⟨hone, hle⟩ := h
  unfold advanced
  intro heq
  by_cases hwrap : g - 1 + n < uint32Max
  · rw [Nat.mod_eq_of_lt hwrap] at heq
    omega
  · rw [Nat.mod_eq_sub_mod (Nat.le_of_not_lt hwrap), Nat.mod_eq_of_lt (by omega)] at heq
    omega

theorem CallStep.generation (h : CallStep d call result d') :
    d'.runtime.session.generation = d.runtime.session.generation ∨
      d'.runtime.session.generation = nextGeneration d.runtime.session.generation := by
  cases h with
  | kept _ hsession => exact .inl (congrArg Session.generation hsession)
  | refreshed _ _ _ hsession =>
    rw [hsession]
    exact .inl rfl
  | ended _ _ hgeneration => exact .inr hgeneration
  | beganLogin _ _ hgeneration => exact .inr hgeneration
  | beganRequest _ _ hgeneration => exact .inr hgeneration
  | completed _ _ _ hgeneration => exact .inr hgeneration
  | loggedIn _ _ _ _ _ hsession =>
    rw [hsession]
    exact .inr rfl

theorem run_generation (h : GenerationOk d.runtime.session.generation)
    (calls : List RuntimeCall) :
    GenerationOk (runCalls d calls).runtime.session.generation ∧
      (runCalls d calls).runtime.session.generation =
        advanced d.runtime.session.generation (generationChanges d calls) := by
  induction calls generalizing d with
  | nil => exact ⟨h, (advanced_zero h).symm⟩
  | cons call calls ih =>
    have hrun : runCalls d (call :: calls) = runCalls (call.run d).2 calls := rfl
    rw [hrun, generationChanges]
    rcases (run_step d call).generation with hsame | hnext
    · have hok : GenerationOk (call.run d).2.runtime.session.generation := hsame ▸ h
      obtain ⟨hok', hgeneration⟩ := ih hok
      rw [if_pos hsame, Nat.zero_add]
      exact ⟨hok', by rw [hgeneration, hsame]⟩
    · have hok : GenerationOk (call.run d).2.runtime.session.generation :=
        hnext ▸ nextGeneration_ok h
      obtain ⟨hok', hgeneration⟩ := ih hok
      have hne : (call.run d).2.runtime.session.generation ≠ d.runtime.session.generation :=
        hnext ▸ nextGeneration_ne h
      rw [if_neg hne]
      exact ⟨hok', by rw [hgeneration, hnext, advanced_next h]⟩

theorem CallStep.stale (h : CallStep d call result d') {g : Nat} (hcall : call.carried = some g)
    (hstale : g ≠ d.runtime.session.generation) :
    d'.runtime.session = d.runtime.session ∧ d'.runtime.fingerprint = d.runtime.fingerprint ∧
      d'.runtime.replayCache = d.runtime.replayCache ∧ d'.nvs = d.nvs := by
  have hother : call.carried ≠ some d.runtime.session.generation := by
    rw [hcall]
    exact fun heq => hstale (Option.some.inj heq)
  cases h with
  | kept _ hsession hfingerprint hcache hnvs => exact ⟨hsession, hfingerprint, hcache, hnvs⟩
  | refreshed _ _ hown => exact absurd hown hother
  | ended _ hown => exact absurd (hown g hcall) hstale
  | beganLogin hnone => rw [hcall] at hnone; cases hnone
  | beganRequest hown => exact absurd hown hother
  | completed _ hown => exact absurd hown hother
  | loggedIn _ _ hown => exact absurd hown hother

end Generations

section Counted

def RuntimeResult.counted (result : RuntimeResult) (n : Nat) : Nat :=
  match result with
  | .response .accepted _ => u32Succ n
  | _ => n

variable {d : Device} {result : ResponseResult}

theorem noteResponse_counted (r : Runtime) (result : ResponseResult) (considered : Bool) :
    (noteResponse r result).metrics.responseAccepted =
      (RuntimeResult.response result considered).counted r.metrics.responseAccepted := by
  cases result <;> rfl

theorem failMalformed_counted (r : Runtime) (result : ResponseResult) :
    (failMalformed r result).metrics.responseAccepted = r.metrics.responseAccepted := by
  rw [failMalformed]
  split <;> rfl

theorem noteTx_counted (r : Runtime) (generation : Nat) (result : EspErr) (applies : Bool)
    {count : Metrics → Metrics} (hcount : ∀ m, (count m).responseAccepted = m.responseAccepted) :
    (noteTx r generation result applies count).metrics.responseAccepted =
      r.metrics.responseAccepted := by
  rw [noteTx]
  split
  · exact hcount r.metrics
  split <;> rfl

theorem runtimeBegin_counted (r : Runtime) (binding : Option Binding) (generation : Nat)
    (wanted : Bool) (begin : Session → Bool × Session) :
    (runtimeBegin r binding generation wanted begin).2.metrics.responseAccepted =
      r.metrics.responseAccepted := by
  rw [runtimeBegin]
  cases wanted with
  | false => rfl
  | true =>
    rw [if_pos rfl]
    by_cases hown : r.session.generation = generation
    · rw [if_pos hown]
      cases bindingMatches r binding with
      | true =>
        rw [if_pos rfl]
        generalize begin r.session = began
        obtain ⟨ok, session⟩ := began
        cases ok with
        | true => rfl
        | false =>
          dsimp only
          rw [if_neg Bool.false_ne_true]
          split <;> rfl
      | false => rfl
    · rw [if_neg hown]
      dsimp only
      rw [if_neg Bool.false_ne_true]
      split <;> rfl

theorem dispatchText_counted (r : Runtime) (pending : AdminState) (binding : Option Binding)
    (generation : Nat) (text : Option (List UInt8))
    (accept : Session → Option Key → ResponseResult × Session)
    {count : ResponseResult → Metrics → Metrics}
    (hcount : ∀ result m, (count result m).responseAccepted = m.responseAccepted) :
    (dispatchText r pending binding generation text accept count).2.2.metrics.responseAccepted =
      (RuntimeResult.response (dispatchText r pending binding generation text accept count).1
        (dispatchText r pending binding generation text accept count).2.1).counted
          r.metrics.responseAccepted := by
  cases binding with
  | none => rfl
  | some binding =>
    cases text with
    | none => rfl
    | some bytes =>
      rw [dispatchText]
      by_cases hown : r.session.state = pending ∧ r.session.generation = generation ∧
          sameFingerprint r binding = true
      · rw [if_pos hown]
        cases bindingMatches r (some binding) with
        | false => rfl
        | true =>
          rw [if_pos rfl]
          generalize accept r.session (some binding.peerPublicKey) = taken
          obtain ⟨result, session⟩ := taken
          dsimp only
          rw [noteResponse_counted _ result true, hcount, failMalformed_counted]
      · rw [if_neg hown]
        rfl

theorem finishResponse_counted (r : Runtime) (result : ResponseResult) (queryAttempt : Bool)
    (e : EspErr) (considered : Bool) :
    (finishResponse r result queryAttempt e).metrics.responseAccepted =
      (RuntimeResult.response result considered).counted r.metrics.responseAccepted := by
  have hquery : ∀ m, (countQuery result m).responseAccepted = m.responseAccepted := by
    intro m
    rw [countQuery]
    split
    · rfl
    split <;> rfl
  have hnoted : ∀ r' : Runtime, r'.metrics.responseAccepted = r.metrics.responseAccepted →
      (if e = espOk then noteResponse r' result
        else (noteResponse r' result).setError e).metrics.responseAccepted =
        (RuntimeResult.response result considered).counted r.metrics.responseAccepted := by
    intro r' hr'
    rw [← hr']
    split
    · exact noteResponse_counted r' result considered
    · exact noteResponse_counted r' result considered
  cases queryAttempt with
  | true => exact hnoted _ ((hquery _).trans (failMalformed_counted r result))
  | false => exact hnoted _ (failMalformed_counted r result)

theorem dispatchLogin_counted (d : Device) (answers : NvsAnswers) (peer : Key)
    (plaintext : List UInt8) (nowUs : Nat) :
    (dispatchLogin d answers peer plaintext nowUs).2.2.runtime.metrics.responseAccepted =
      d.runtime.metrics.responseAccepted := by
  rcases hr : acceptLoginResponse d.runtime.session d.runtime.replayCache (some peer)
    (some plaintext) nowUs with ⟨result, candidate, replay⟩
  by_cases hresult : result = .accepted
  · subst hresult
    rw [dispatchLogin_of_accepted hr]
    rcases publishLogin_cases d answers peer (loginResponse plaintext) candidate replay with
      ⟨_, hp⟩ | ⟨_, _, state, nvs, _, _, _, _, reason, hp⟩
    · rw [hp]
    · rw [hp]
      rfl
  · rw [dispatchLogin_of_refused hresult hr]

theorem dispatchPending_counted (d : Device) (answers : NvsAnswers) (peer : Key)
    (plaintext : List UInt8) (nowUs : Nat) :
    (dispatchPending d answers peer plaintext nowUs).2.2.runtime.metrics.responseAccepted =
      d.runtime.metrics.responseAccepted := by
  rw [dispatchPending]
  by_cases hlogin : d.runtime.session.state = .loginPending
  · rw [if_pos hlogin]
    exact dispatchLogin_counted d answers peer plaintext nowUs
  · rw [if_neg hlogin]

theorem dispatchResponse_counted (d : Device) (answers : NvsAnswers) (binding : Option Binding)
    (generation : Nat) (plaintext : Option (List UInt8)) (nowUs : Nat) :
    (dispatchResponse d answers binding generation plaintext
        nowUs).2.2.runtime.metrics.responseAccepted =
      (RuntimeResult.response (dispatchResponse d answers binding generation plaintext nowUs).1
        (dispatchResponse d answers binding generation plaintext nowUs).2.1).counted
          d.runtime.metrics.responseAccepted := by
  cases binding with
  | none => rfl
  | some binding =>
    cases plaintext with
    | none => rfl
    | some bytes =>
      rw [dispatchResponse]
      by_cases hown : d.runtime.session.state.awaitsResponse = true ∧
          d.runtime.session.generation = generation ∧ sameFingerprint d.runtime binding = true
      · rw [if_pos hown]
        cases bindingMatches d.runtime (some binding) with
        | false => rfl
        | true =>
          rw [if_pos rfl]
          have hpending := dispatchPending_counted d answers binding.peerPublicKey bytes nowUs
          generalize dispatchPending d answers binding.peerPublicKey bytes nowUs = r at hpending ⊢
          obtain ⟨result, e, d'⟩ := r
          dsimp only at hpending ⊢
          rw [finishResponse_counted _ result _ e true, hpending]
      · rw [if_neg hown]
        rfl

theorem runtimeBeginLogin_counted (r : Runtime) (binding : Option Binding) (nowUs : Nat)
    (wanted : Bool) :
    (runtimeBeginLogin r binding nowUs wanted).2.metrics.responseAccepted =
      r.metrics.responseAccepted := by
  cases binding with
  | none => rfl
  | some binding =>
    rw [runtimeBeginLogin]
    split
    · rfl
    · generalize beginLogin r.session (binding.loginArgs nowUs) = began
      obtain ⟨ok, session⟩ := began
      cases ok <;> rfl

theorem noteRoomActivity_counted (r : Runtime) (binding : Option Binding)
    (generation nowUs : Nat) :
    (Admin.noteRoomActivity r binding generation nowUs).2.metrics.responseAccepted =
      r.metrics.responseAccepted := by
  rw [Admin.noteRoomActivity]
  split
  · generalize noteAuthenticatedActivity r.session nowUs = noted
    obtain ⟨ok, session⟩ := noted
    cases ok <;> rfl
  · rfl

theorem reportFailure_counted (r : Runtime) (reason : EspErr) :
    (Admin.reportFailure r reason).metrics.responseAccepted = r.metrics.responseAccepted := by
  rw [Admin.reportFailure]
  split <;> rfl

theorem invalidate_counted (r : Runtime) (reason : EspErr) :
    (Admin.invalidate r reason).metrics.responseAccepted = r.metrics.responseAccepted := by
  rw [Admin.invalidate]
  split
  · rfl
  · exact reportFailure_counted r reason

theorem run_counted (d : Device) (call : RuntimeCall) :
    (call.run d).2.runtime.metrics.responseAccepted =
      (call.run d).1.counted d.runtime.metrics.responseAccepted := by
  cases call with
  | beginLogin binding nowUs wanted => exact runtimeBeginLogin_counted _ _ _ _
  | noteLoginTx generation result => exact noteTx_counted _ _ _ _ fun _ => rfl
  | noteStatusTx generation tag result => exact noteTx_counted _ _ _ _ fun _ => rfl
  | noteQueryTx generation query tag result => exact noteTx_counted _ _ _ _ fun _ => rfl
  | noteMutationTx generation mutation tag result => exact noteTx_counted _ _ _ _ fun _ => rfl
  | noteCliTx generation tag result => exact noteTx_counted _ _ _ _ fun _ => rfl
  | validateBinding binding generation =>
    rw [RuntimeCall.run, Admin.validateBinding]
    split
    · split <;> rfl
    · rfl
  | noteRoomActivity binding generation nowUs => exact noteRoomActivity_counted _ _ _ _
  | beginStatus binding generation tag nowUs wanted => exact runtimeBegin_counted _ _ _ _ _
  | beginQuery binding generation query offset tag nowUs wanted =>
    exact runtimeBegin_counted _ _ _ _ _
  | beginMutation binding generation mutation tag nowUs wanted =>
    exact runtimeBegin_counted _ _ _ _ _
  | beginCli binding generation tag sensitive readOnly replyProfile nowUs wanted =>
    exact runtimeBegin_counted _ _ _ _ _
  | dispatchMutation binding generation responseTimestamp text nowUs =>
    refine dispatchText_counted _ _ _ _ _ _ fun result m => ?_
    cases result <;> rfl
  | dispatchCli binding generation responseTimestamp text nowUs =>
    refine dispatchText_counted _ _ _ _ _ _ fun result m => ?_
    cases result <;> rfl
  | dispatch answers binding generation plaintext nowUs =>
    exact dispatchResponse_counted d answers binding generation plaintext nowUs
  | expire nowUs =>
    rw [RuntimeCall.run, runtimeExpire]
    generalize expireIfDue d.runtime.session nowUs = r
    obtain ⟨expired, session⟩ := r
    cases expired <;> rfl
  | reportFailure reason => exact reportFailure_counted _ _
  | invalidate reason => exact invalidate_counted _ _
  | logout => exact invalidate_counted _ _

end Counted

section Requests

structure CallEntry where
  call : RuntimeCall
  result : RuntimeResult

def CallEntry.begun (e : CallEntry) : Option Nat :=
  match e.result with
  | .began generation => generation
  | _ => none

def CallEntry.accepted (e : CallEntry) : Bool :=
  match e.result with
  | .response .accepted _ => true
  | _ => false

structure Called where
  device : Device
  log : List CallEntry

def Called.step (w : Called) (call : RuntimeCall) : Called :=
  ⟨(call.run w.device).2, ⟨call, (call.run w.device).1⟩ :: w.log⟩

def Called.start (nvs : Nvs) : Called := ⟨⟨.init, nvs⟩, []⟩

/-- The request begun last has this generation, and no response was accepted since. -/
def OpenRequest (log : List CallEntry) (g : Nat) : Prop :=
  ∃ between b older, log = between ++ b :: older ∧ b.begun = some g ∧
    ∀ e ∈ between, e.accepted = false ∧ e.begun = none

/-- Every accepted response has a request of its own: the last one begun, with the generation the
response was passed on for, and no other response accepted since. -/
def OneEach : List CallEntry → Prop
  | [] => True
  | e :: log => (e.accepted = true → ∃ g, e.call.carried = some g ∧ OpenRequest log g) ∧ OneEach log

def countAccepted : List CallEntry → Nat
  | [] => 0
  | e :: log => e.result.counted (countAccepted log)

structure CalledInv (w : Called) : Prop where
  awaiting : w.device.runtime.session.state.awaiting = true →
    OpenRequest w.log w.device.runtime.session.generation
  each : OneEach w.log
  counted : w.device.runtime.metrics.responseAccepted = countAccepted w.log

variable {log : List CallEntry} {g : Nat} {e : CallEntry}

theorem OpenRequest.quiet (h : OpenRequest log g) (haccepted : e.accepted = false)
    (hbegun : e.begun = none) : OpenRequest (e :: log) g := by
  obtain ⟨between, b, older, rfl, hb, hbetween⟩ := h
  refine ⟨e :: between, b, older, rfl, hb, ?_⟩
  intro x hx
  rcases List.mem_cons.mp hx with rfl | hx
  · exact ⟨haccepted, hbegun⟩
  · exact hbetween x hx

theorem openRequest_begun (he : e.begun = some g) : OpenRequest (e :: log) g :=
  ⟨[], e, log, rfl, he, fun _ hmem => absurd hmem List.not_mem_nil⟩

theorem idle_entry {call : RuntimeCall} {result : RuntimeResult} (h : result.idle = true) :
    CallEntry.accepted ⟨call, result⟩ = false ∧ CallEntry.begun ⟨call, result⟩ = none := by
  cases result with
  | done => exact ⟨rfl, rfl⟩
  | flag => exact ⟨rfl, rfl⟩
  | began generation =>
    cases generation with
    | none => exact ⟨rfl, rfl⟩
    | some g => cases h
  | response r considered =>
    cases r with
    | accepted => cases h
    | unmatched | rejected | malformed | expired | replayed => exact ⟨rfl, rfl⟩

theorem over_not_awaiting {state : AdminState} (h : state.over = true) :
    state.awaiting = false := by
  cases state <;> first | rfl | cases h

theorem CalledInv.step {w : Called} (h : CalledInv w) (call : RuntimeCall) :
    CalledInv (w.step call) := by
  have hstep := run_step w.device call
  have hcounted := run_counted w.device call
  unfold Called.step
  generalize (call.run w.device).1 = result, (call.run w.device).2 = d' at hstep hcounted ⊢
  have hcount : d'.runtime.metrics.responseAccepted = countAccepted (⟨call, result⟩ :: w.log) := by
    rw [hcounted, h.counted]
    rfl
  -- a quiet call leaves the open request open
  have hquiet : result.idle = true →
      OneEach (⟨call, result⟩ :: w.log) ∧
        ∀ g, OpenRequest w.log g → OpenRequest (⟨call, result⟩ :: w.log) g := by
    intro hidle
    obtain ⟨haccepted, hbegun⟩ := @idle_entry call result hidle
    refine ⟨⟨fun hyes => ?_, h.each⟩, fun g hopen => hopen.quiet haccepted hbegun⟩
    rw [haccepted] at hyes
    cases hyes
  have hbegan : ∀ g, result = .began (some g) →
      OneEach (⟨call, result⟩ :: w.log) ∧ OpenRequest (⟨call, result⟩ :: w.log) g := by
    intro g hresult
    rw [hresult]
    refine ⟨⟨fun hyes => ?_, h.each⟩, openRequest_begun rfl⟩
    cases hyes
  -- a response that is taken belongs to the request that was open
  have htaken : call.carried = some w.device.runtime.session.generation →
      w.device.runtime.session.state.awaiting = true →
      OneEach (⟨call, result⟩ :: w.log) := by
    intro hcarried hawaiting
    exact ⟨fun _ => ⟨_, hcarried, h.awaiting hawaiting⟩, h.each⟩
  cases hstep with
  | kept hidle hsession =>
    refine ⟨fun hawaiting => ?_, (hquiet hidle).1, hcount⟩
    rw [hsession] at hawaiting ⊢
    exact (hquiet hidle).2 _ (h.awaiting hawaiting)
  | refreshed hidle _ _ hsession =>
    refine ⟨fun hawaiting => ?_, (hquiet hidle).1, hcount⟩
    rw [hsession] at hawaiting ⊢
    exact (hquiet hidle).2 _ (h.awaiting hawaiting)
  | ended hidle _ _ hover =>
    refine ⟨fun hawaiting => ?_, (hquiet hidle).1, hcount⟩
    rw [over_not_awaiting hover] at hawaiting
    cases hawaiting
  | beganLogin _ hresult => exact ⟨fun _ => (hbegan _ hresult).2, (hbegan _ hresult).1, hcount⟩
  | beganRequest _ hresult => exact ⟨fun _ => (hbegan _ hresult).2, (hbegan _ hresult).1, hcount⟩
  | completed _ hcarried _ _ hbefore hafter =>
    have hawaiting : w.device.runtime.session.state.awaiting = true := by
      rw [AdminState.awaiting, hbefore, Bool.or_true]
    refine ⟨fun hyes => ?_, htaken hcarried hawaiting, hcount⟩
    rw [hafter] at hyes
    cases hyes
  | loggedIn _ _ hcarried _ hbefore hsession =>
    have hawaiting : w.device.runtime.session.state.awaiting = true := by
      rw [hbefore]
      rfl
    refine ⟨fun hyes => ?_, htaken hcarried hawaiting, hcount⟩
    rw [hsession] at hyes
    cases hyes

theorem calledInv_start (nvs : Nvs) : CalledInv (.start nvs) where
  awaiting h := by cases h
  each := trivial
  counted := rfl

theorem called_device (w : Called) (calls : List RuntimeCall) :
    (runSteps Called.step w calls).device = runCalls w.device calls := by
  induction calls generalizing w with
  | nil => rfl
  | cons call calls ih => exact ih (w.step call)

end Requests

def boot (nvs : Nvs) : Device := ⟨.init, nvs⟩

/-- What the calls of one attempt can do to another: nothing to a newer one, and no response
belongs to two of them. -/
structure AttemptsSeparate (nvs : Nvs) (calls : List RuntimeCall) : Prop where
  /-- A call with a generation from before the last change leaves the session alone. -/
  untouched : ∀ earlier later, calls = earlier ++ later →
    0 < generationChanges (runCalls (boot nvs) earlier) later →
    ∀ call : RuntimeCall,
      call.carried = some (runCalls (boot nvs) earlier).runtime.session.generation →
      (call.run (runCalls (boot nvs) calls)).2.runtime.session =
        (runCalls (boot nvs) calls).runtime.session
  each : OneEach (runSteps Called.step (.start nvs) calls).log
  counted : (runCalls (boot nvs) calls).runtime.metrics.responseAccepted =
    countAccepted (runSteps Called.step (.start nvs) calls).log

theorem runCalls_append (d : Device) (earlier later : List RuntimeCall) :
    runCalls d (earlier ++ later) = runCalls (runCalls d earlier) later :=
  runSteps_append d earlier later

theorem generationChanges_append (d : Device) (earlier later : List RuntimeCall) :
    generationChanges d (earlier ++ later) =
      generationChanges d earlier + generationChanges (runCalls d earlier) later := by
  induction earlier generalizing d with
  | nil => exact (Nat.zero_add _).symm
  | cons call earlier ih =>
    rw [List.cons_append, generationChanges, generationChanges, ih, Nat.add_assoc]
    rfl

/-- In every run with fewer changes of the generation than it has values. -/
theorem admin_attempts_separate (nvs : Nvs) (calls : List RuntimeCall)
    (hchanges : generationChanges (boot nvs) calls < uint32Max) :
    AttemptsSeparate nvs calls := by
  have hinv : CalledInv (runSteps Called.step (.start nvs) calls) :=
    run_always (fun _ call h => h.step call) calls (calledInv_start nvs)
  refine ⟨?_, hinv.each, ?_⟩
  · intro earlier later hsplit hpos call hcall
    rw [hsplit, generationChanges_append] at hchanges
    have hboot : GenerationOk Runtime.init.session.generation := ⟨by decide, by decide⟩
    obtain ⟨hok, _⟩ := run_generation (d := boot nvs) hboot earlier
    obtain ⟨_, hlater⟩ := run_generation hok later
    rw [hsplit, runCalls_append]
    refine ((run_step _ call).stale hcall ?_).1
    rw [hlater]
    exact (advanced_ne hok hpos (by omega)).symm
  · rw [← hinv.counted, called_device]
    rfl

/-- A login that is begun twice: the first transmission fails once the second one waits. -/
def roomBinding : Binding where
  fingerprint := ⟨[0x41, 0x42], by decide, by decide⟩
  role := .room
  peerPublicKey := Vector.replicate 32 1
  localPublicKey := Vector.replicate 32 2
  sessionSecret := Vector.replicate 32 3

def loginTwice : List RuntimeCall :=
  [.beginLogin (some roomBinding) 1000 true, .invalidate espErrTimeout,
    .beginLogin (some roomBinding) 2000 true]

theorem loginTwice_separate :
    generationChanges (boot fun _ => none) loginTwice = 3 ∧
      AttemptsSeparate (fun _ => none) loginTwice ∧
      (RuntimeCall.run (runCalls (boot fun _ => none) loginTwice)
        (.noteLoginTx 2 espErrTimeout)).2.runtime.session =
          (runCalls (boot fun _ => none) loginTwice).runtime.session := by
  have hseparate := admin_attempts_separate (fun _ => none) loginTwice (by decide +kernel)
  refine ⟨by decide +kernel, hseparate, ?_⟩
  exact hseparate.untouched [.beginLogin (some roomBinding) 1000 true] _ rfl (by decide +kernel)
    (.noteLoginTx 2 espErrTimeout) (by decide +kernel)

end Sigui.Admin

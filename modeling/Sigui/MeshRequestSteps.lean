import Sigui.MeshRequestInv

/-! Each step of a task and of the owner moves one request along its journey. -/
namespace Sigui.MeshRequest

open AdminSlot (RequestState RequestId GuardWord zeros copyInto)

theorem Credential.take_wiped (kind : CredentialKind) : (wiped kind).take kind = none := by
  simp [take, wiped]

theorem Authority.take_wiped (kind : CredentialKind) :
    (Authority.wiped.get kind).take kind = none := by
  cases kind
  · exact Credential.take_wiped .password
  · exact Credential.take_wiped .cli

theorem Credential.take_fill {c : Credential} {kind : CredentialKind} {secret out : List UInt8}
    (h : (c.fill secret).take kind = some out) : out = secret := by
  unfold take at h
  split_ifs at h
  have hout : ((copyInto secret c.bytes).set secret.length 0).take secret.length = out :=
    Option.some.inj h
  rw [← hout, List.take_set_of_le le_rfl, copyInto, List.take_left]

theorem Authority.take_put {a : Authority} {kind kind' : CredentialKind} {c : Credential}
    {out : List UInt8} (h : ((a.put kind c).get kind').take kind' = some out) :
    kind' = kind ∧ c.take kind = some out ∨ (a.get kind').take kind' = some out := by
  cases kind <;> cases kind' <;> simp_all [put, get]

theorem History.cons {log : List Event} (h : History log) {event : Event}
    (hexecuted : ∀ id, event = .executed id →
      .executed id ∉ log ∧ ∀ ret, .returned id (.cancelled ret) ∉ log)
    (hanswer : ∀ id result, event = .resultSet id result → ∀ other, .resultSet id other ∉ log)
    (hown : ∀ id kind secret, event = .handedOut id kind secret → .stored id kind secret ∈ log)
    (hcompletion : ∀ id result, event = .returned id (.completion result) →
      .resultSet id result ∈ log)
    (hcancelled : ∀ id ret, event = .returned id (.cancelled ret) → .executed id ∉ log) :
    History (event :: log) := by
  refine ⟨fun id => ?_, fun id result result' hr hr' => ?_, fun id kind secret hmem => ?_,
    fun id result hmem => ?_, fun id ret hmem hexec => ?_⟩
  · by_cases he : event = .executed id
    · rw [he, List.count_cons_self, List.count_eq_zero_of_not_mem (hexecuted id he).1]
    · rw [List.count_cons_of_ne he]
      exact h.once id
  · obtain rfl | hr := List.mem_cons.mp hr
    · obtain heq | hr' := List.mem_cons.mp hr'
      · cases heq
        rfl
      · exact absurd hr' (hanswer id result rfl _)
    · obtain heq | hr' := List.mem_cons.mp hr'
      · exact absurd hr (hanswer id result' heq.symm _)
      · exact h.oneAnswer id result result' hr hr'
  · obtain rfl | hmem := List.mem_cons.mp hmem
    · exact List.mem_cons_of_mem _ (hown id kind secret rfl)
    · exact List.mem_cons_of_mem _ (h.own id kind secret hmem)
  · obtain rfl | hmem := List.mem_cons.mp hmem
    · exact List.mem_cons_of_mem _ (hcompletion id result rfl)
    · exact List.mem_cons_of_mem _ (h.completion id result hmem)
  · obtain rfl | hmem := List.mem_cons.mp hmem
    · obtain heq | hexec := List.mem_cons.mp hexec
      · cases heq
      · exact hcancelled id ret rfl hexec
    · obtain heq | hexec := List.mem_cons.mp hexec
      · exact (hexecuted id heq.symm).2 ret hmem
      · exact h.cancelled id ret hmem hexec

theorem At.change {s s' : Shared} {cmd : Command} {j j' : Journey} (h : At s cmd j) {slot : Slot}
    (hslot : s'.slots cmd.slot = slot) (hkept : s.log ⊆ s'.log) (hvalid : j'.valid = true)
    (hword : slot.word = ⟨cmd.requestId, j'.state⟩) (hsignal : slot.signal = j'.signal)
    (hplace : j'.Place s' cmd)
    (hauthority : slot.authority = .wiped ∨
      slot.authority = (s.slots cmd.slot).authority ∧ (j'.keeps = false → j.keeps = false))
    (hunexecuted : j'.unexecuted = true → j.unexecuted = true ∧
      (.executed cmd.requestId ∈ s'.log → .executed cmd.requestId ∈ s.log))
    (hunanswered : j'.answered = false → j.answered = false ∧ ∀ result,
      .resultSet cmd.requestId result ∈ s'.log → .resultSet cmd.requestId result ∈ s.log)
    (hanswered : j'.answered = true → .resultSet cmd.requestId slot.result ∈ s'.log)
    (hsignalled : ∀ state, j' = .given state ∨ j' = .taken state →
      .signalled cmd.requestId ∈ s'.log) :
    At s' cmd j' := by
  subst hslot
  refine ⟨hvalid, hword, hsignal, hplace, fun hkeeps => ?_, fun kind secret htake => ?_, ?_, ?_,
    hanswered, hsignalled⟩
  · obtain hwiped | ⟨hsame, hkeep⟩ := hauthority
    · exact hwiped
    · rw [hsame]
      exact h.wiped (hkeep hkeeps)
  · obtain hwiped | ⟨hsame, _⟩ := hauthority
    · rw [hwiped, Authority.take_wiped] at htake
      cases htake
    · rw [hsame] at htake
      exact hkept (h.own kind secret htake)
  · intro hj hmem
    obtain ⟨hold, hback⟩ := hunexecuted hj
    exact h.unexecuted hold (hback hmem)
  · intro hj result hmem
    obtain ⟨hold, hback⟩ := hunanswered hj
    exact h.unanswered hold result (hback result hmem)

theorem At.setSlot {s : Shared} {cmd : Command} {j j' : Journey} (h : At s cmd j) {slot : Slot}
    (hvalid : j'.valid = true) (hword : slot.word = ⟨cmd.requestId, j'.state⟩)
    (hsignal : slot.signal = j'.signal) (hplace : j'.Place s cmd)
    (hauthority : slot.authority = .wiped ∨
      slot.authority = (s.slots cmd.slot).authority ∧ (j'.keeps = false → j.keeps = false))
    (hunexecuted : j'.unexecuted = true → j.unexecuted = true) (hanswer : j'.answered = j.answered)
    (hresult : j'.answered = true → slot.result = (s.slots cmd.slot).result)
    (hsignalled : ∀ state, j' = .given state ∨ j' = .taken state →
      .signalled cmd.requestId ∈ s.log) :
    At (s.setSlot cmd.slot slot) cmd j' := by
  refine h.change (Function.update_self ..) (fun _ he => he) hvalid hword hsignal ?_ hauthority
    (fun hj => ⟨hunexecuted hj, id⟩) (fun hj => ⟨hanswer ▸ hj, fun _ => id⟩) (fun hj => ?_)
    hsignalled
  · cases j' <;> exact hplace
  · rw [hresult hj]
    exact h.answered (hanswer ▸ hj)

variable {τ : Type} [DecidableEq τ] {s : System τ} {t : τ}

section Caller

omit [DecidableEq τ] in
theorem Inv.notReturned (h : Inv s) (hactive : (s.part t).active = true) (outcome : Outcome) :
    .returned (s.cmd t).requestId outcome ∉ s.log :=
  fun hmem => h.retired _ outcome hmem t hactive rfl

theorem Inv.stay (h : Inv s) (hhold : (s.part t).holds = true) {phase : Phase}
    (hphase : phase.part.holds = true) (slot : Slot) {j : Journey}
    (hj : phase.part.allows j = true)
    (hat : At (s.toShared.setSlot (s.cmd t).slot slot) (s.cmd t) j)
    (hcarried : ∀ result, phase.carries = some result →
      .resultSet (s.cmd t).requestId result ∈ s.log) :
    Inv (s.goTo t phase (s.toShared.setSlot (s.cmd t).slot slot)) := by
  obtain ⟨_, _, hold⟩ := h.journey t hhold
  have hheld : (s.slots (s.cmd t).slot).word.id = (s.cmd t).requestId :=
    congrArg GuardWord.id hold.word
  have hactive := Part.active_of_holds hhold
  refine h.goTo hactive (Frame.setSlot (Or.inr hheld) slot) rfl (fun _ => ⟨j, hj, hat⟩)
    (fun hnum => ?_) hcarried (Or.inr (Or.inl ⟨hphase, congrArg GuardWord.id hat.word⟩))
    (fun _ _ _ _ => hphase) (fun _ outcome => h.notReturned hactive outcome) h.flight h.history
  rw [hnum] at hphase
  cases hphase

theorem Inv.goOn (h : Inv s) (hhold : (s.part t).holds = true) {phase : Phase}
    (hphase : phase.part.holds = true) {j : Journey} (hj : phase.part.allows j = true)
    (hat : At s.toShared (s.cmd t) j)
    (hcarried : ∀ result, phase.carries = some result →
      .resultSet (s.cmd t).requestId result ∈ s.log) :
    Inv (s.goTo t phase s.toShared) := by
  have hsame : s.toShared.setSlot (s.cmd t).slot (s.slots (s.cmd t).slot) = s.toShared := by
    rw [Shared.setSlot, Function.update_eq_self]
  have hstay := h.stay hhold hphase (s.slots (s.cmd t).slot) hj (by rw [hsame]; exact hat) hcarried
  rw [hsame] at hstay
  exact hstay

theorem Inv.leave (h : Inv s) (hhold : (s.part t).holds = true) {j : Journey}
    (hat : At s.toShared (s.cmd t) j)
    (hkeeps : j.keeps = false) (hsignal : j.signal = false)
    (hfree : ∀ stage, s.owner.stage = some (s.cmd t, stage) → stage = .considering)
    (outcome : Outcome)
    (hcompletion : ∀ result, outcome = .completion result →
      .resultSet (s.cmd t).requestId result ∈ s.log)
    (hcancelled : ∀ ret, outcome = .cancelled ret → .executed (s.cmd t).requestId ∉ s.log) :
    Inv (s.follow t (.back outcome) (s.toShared.withWord (s.cmd t).slot .zero)) := by
  have hheld : (s.slots (s.cmd t).slot).word.id = (s.cmd t).requestId :=
    congrArg GuardWord.id hat.word
  refine h.goTo (Part.active_of_holds hhold)
    ((Frame.setSlot (Or.inr hheld) _).note rfl) rfl (fun hno => by cases hno)
    (fun hno => by cases hno) (fun _ hno => by cases hno) (Or.inl ?_)
    (fun stage hstage hlate _ => absurd (hfree stage hstage) hlate) (fun hno => by cases hno)
    h.flight ?_
  · have hslot : ∀ slot, ((s.toShared.setSlot (s.cmd t).slot slot).slots (s.cmd t).slot) = slot :=
      fun slot => Function.update_self ..
    change Slot.Free ((s.toShared.setSlot (s.cmd t).slot _).slots (s.cmd t).slot)
    rw [hslot]
    exact ⟨rfl, hat.wiped hkeeps, by rw [← hsignal]; exact hat.signal⟩
  · refine h.history.cons (fun _ hno => by cases hno) (fun _ _ hno => by cases hno)
      (fun _ _ _ hno => by cases hno) (fun id result heq => ?_) fun id ret heq => ?_
    · cases heq
      exact hcompletion result rfl
    · cases heq
      exact hcancelled ret rfl

section Journeys

variable (h : Inv s)
include h

omit [DecidableEq τ] in
theorem Inv.claimed_at (hpart : s.part t = .claimed) : At s.toShared (s.cmd t) .claimed := by
  obtain ⟨j, hj, hat⟩ := h.journey t (by rw [hpart]; rfl)
  rw [hpart] at hj
  cases j <;> simp_all [Part.allows]

omit [DecidableEq τ] in
theorem Inv.unqueued_at (hpart : s.part t = .unqueued) : At s.toShared (s.cmd t) .unqueued := by
  obtain ⟨j, hj, hat⟩ := h.journey t (by rw [hpart]; rfl)
  rw [hpart] at hj
  cases j <;> simp_all [Part.allows]

omit [DecidableEq τ] in
theorem Inv.cancelled_at {wiped : Bool} (hpart : s.part t = .cancelled wiped) :
    At s.toShared (s.cmd t) (.cancelled wiped) := by
  obtain ⟨j, hj, hat⟩ := h.journey t (by rw [hpart]; rfl)
  rw [hpart] at hj
  cases j <;> simp_all [Part.allows]

omit [DecidableEq τ] in
theorem Inv.taken_at {state : RequestState} (hpart : s.part t = .taken (some state)) :
    At s.toShared (s.cmd t) (.taken state) := by
  obtain ⟨j, hj, hat⟩ := h.journey t (by rw [hpart]; rfl)
  rw [hpart] at hj
  cases j <;> simp_all [Part.allows]

end Journeys

theorem Inv.take (h : Inv s) (hhold : (s.part t).holds = true) {state : RequestState}
    (hat : At s.toShared (s.cmd t) (.given state)) {phase : Phase}
    (hphase : phase.part = .taken none) (hcarries : phase.carries = none) :
    Inv (s.goTo t phase (s.toShared.withSignal (s.cmd t).slot false)) := by
  refine h.stay hhold (by rw [hphase]; rfl) _ (j := .taken state) (by rw [hphase]; rfl) ?_
    (by simp [hcarries])
  exact hat.setSlot hat.valid hat.word rfl hat.place (Or.inr ⟨rfl, fun _ => rfl⟩) (fun hno => hno)
    rfl (fun _ => rfl) fun _ _ => hat.signalled state (Or.inl rfl)

theorem Inv.cancel (h : Inv s) (hhold : (s.part t).holds = true) {j : Journey}
    (hat : At s.toShared (s.cmd t) j) (hj : j = .unqueued ∨ j = .queued ∨
      ∃ state, j = .owned .considering state) (who : Canceller) :
    Inv (s.goTo t (.wiping (.cancel who))
      (s.toShared.withWord (s.cmd t).slot ⟨(s.cmd t).requestId, .callerCancelled⟩)) := by
  have hkept : j.unexecuted = true ∧ j.answered = false ∧ j.signal = false := by
    obtain rfl | rfl | ⟨state, rfl⟩ := hj <;> exact ⟨rfl, rfl, rfl⟩
  refine h.stay hhold rfl _ (j := .cancelled false) rfl ?_ fun _ hno => by cases hno
  refine hat.setSlot rfl rfl (hat.signal.trans hkept.2.2) ?_
    (Or.inr ⟨rfl, fun hno => by cases hno⟩) (fun _ => hkept.1) hkept.2.1.symm
    (fun hno => by cases hno) fun _ hno => by simp at hno
  intro other stage hstage hid
  obtain rfl | rfl | ⟨state, rfl⟩ := hj
  · exact absurd hid (hat.place other (mem_inFlight.mpr (Or.inl ⟨stage, hstage⟩)))
  · -- The command is in the queue, so that the owner has another one.
    have hnodup := h.flight
    rw [Shared.inFlight, hstage] at hnodup
    have hmem : (s.cmd t).requestId ∈ s.queue.map (·.requestId) :=
      List.mem_map_of_mem hat.place
    rw [← hid] at hmem
    exact absurd hmem (List.nodup_cons.mp hnodup).1
  · have hplace : s.owner.stage = some (s.cmd t, .considering) := hat.place
    rw [hstage] at hplace
    exact (Prod.mk.inj (Option.some.inj hplace)).2

theorem Caller.published_part (c : Caller) :
    c.published.part = .unqueued ∧ c.published.carries = none := by
  unfold published
  cases c.cmd.credential <;> exact ⟨rfl, rfl⟩

theorem Inv.wiping (h : Inv s) {who : Wiper} (hphase : (s.callers t).phase = .wiping who) :
    Inv (s.goTo t (who.next (s.cmd t).credential)
      (s.toShared.withAuthority (s.cmd t).slot .wiped)) := by
  cases who with
  | claim =>
    have hpart : s.part t = .claimed := by rw [System.part, hphase]; rfl
    have hat := h.claimed_at hpart
    exact h.stay (by rw [hpart]; rfl) rfl _ (j := .claimed) rfl
      (hat.setSlot rfl hat.word hat.signal hat.place (Or.inl rfl) id rfl (fun _ => rfl)
        fun _ hno => by simp at hno) fun _ hno => by cases hno
  | store =>
    have hpart : s.part t = .unqueued := by rw [System.part, hphase]; rfl
    have hat := h.unqueued_at hpart
    have hnext : (Wiper.store.next (s.cmd t).credential).part = .unqueued ∧
        (Wiper.store.next (s.cmd t).credential).carries = none := by
      cases (s.cmd t).credential <;> exact ⟨rfl, rfl⟩
    exact h.stay (by rw [hpart]; rfl) (by rw [hnext.1]; rfl) _ (j := .unqueued)
      (by rw [hnext.1]; rfl)
      (hat.setSlot rfl hat.word hat.signal hat.place (Or.inl rfl) id rfl (fun _ => rfl)
        fun _ hno => by simp at hno) (by simp [hnext.2])
  | cancel who =>
    have hpart : s.part t = .cancelled false := by rw [System.part, hphase]; rfl
    have hat := h.cancelled_at hpart
    exact h.stay (by rw [hpart]; rfl) rfl _ (j := .cancelled true) rfl
      (hat.setSlot rfl hat.word hat.signal hat.place (Or.inl rfl) id rfl (fun _ => rfl)
        fun _ hno => by simp at hno) fun _ hno => by cases hno
  | release who =>
    cases who with
    | claim =>
      obtain ⟨j, hj, _⟩ := h.journey t (by rw [System.part, hphase]; rfl)
      rw [System.part, hphase] at hj
      cases hj
    | consume state result =>
      have hpart : s.part t = .taken (some state) := by rw [System.part, hphase]; rfl
      have hat := h.taken_at hpart
      exact h.stay (by rw [hpart]; rfl) rfl _ (j := .taken state)
        (by simp [Wiper.next, Phase.part, Releaser.part, Part.allows])
        (hat.setSlot hat.valid hat.word hat.signal hat.place (Or.inl rfl) id rfl (fun _ => rfl)
          hat.signalled)
        fun result' hr => h.carried t result' (by rw [hphase]; exact hr)

omit [DecidableEq τ] in
theorem Inv.found (h : Inv s) (hhold : (s.part t).holds = true) :
    guardMatches (s.cmd t).requestId (s.slots (s.cmd t).slot).word = true := by
  obtain ⟨j, _, hat⟩ := h.journey t hhold
  simp [guardMatches, hat.word, (h.known t (Part.active_of_holds hhold)).1]

theorem Inv.look_unqueued (h : Inv s) {look : Look} (hpart : s.part t = .unqueued)
    (hlook : look.part = .unqueued) :
    Inv (s.follow t (look.next (s.cmd t) (s.slots (s.cmd t).slot).word) s.toShared) := by
  have hhold : (s.part t).holds = true := by rw [hpart]; rfl
  have hat := h.unqueued_at hpart
  have hfound := h.found hhold
  have hstate : (s.slots (s.cmd t).slot).word.state = .pending :=
    congrArg GuardWord.state hat.word
  have hgo : ∀ phase : Phase, phase.part = .unqueued → phase.carries = none →
      Inv (s.goTo t phase s.toShared) := fun phase hphase hcarries =>
    h.goOn hhold (by rw [hphase]; rfl) (j := .unqueued) (by rw [hphase]; rfl) hat
      (by simp [hcarries])
  cases look <;> simp only [Look.next, hfound, hstate, if_true]
  case releaseMatches who | releaseState who => cases who <;> cases hlook
  case waitSlot | taken | overtaken | signalled | consumeSlot | consumeState => cases hlook
  all_goals exact hgo _ rfl rfl

theorem Inv.look_waiting (h : Inv s) (hphase : (s.callers t).phase = .looking .waitSlot) :
    Inv (s.follow t (Look.waitSlot.next (s.cmd t) (s.slots (s.cmd t).slot).word) s.toShared) := by
  have hpart : s.part t = .waiting := by rw [System.part, hphase]; rfl
  obtain ⟨j, hj, hat⟩ := h.journey t (by rw [hpart]; rfl)
  have hfound := h.found (t := t) (by rw [hpart]; rfl)
  simp only [Look.next, hfound, if_true]
  rw [hpart] at hj
  exact h.goOn (by rw [hpart]; rfl) rfl hj hat fun _ hno => by cases hno

theorem Journey.past_of_overtaken {j : Journey} (hj : Part.overtaken.allows j = true)
    (hvalid : j.valid = true) : (decide (j.state = .admitted) || terminal j.state) = true := by
  cases j with
  | owned stage state =>
    cases stage <;> cases state <;>
      first | rfl | exact absurd hj (by decide) | exact absurd hvalid (by decide)
  | given state => cases state <;> first | rfl | exact absurd hvalid (by decide)
  | _ => cases hj

theorem Inv.look_overtaken (h : Inv s) (hphase : (s.callers t).phase = .looking .overtaken) :
    Inv (s.follow t (Look.overtaken.next (s.cmd t) (s.slots (s.cmd t).slot).word) s.toShared) := by
  have hpart : s.part t = .overtaken := by rw [System.part, hphase]; rfl
  obtain ⟨j, hj, hat⟩ := h.journey t (by rw [hpart]; rfl)
  rw [hpart] at hj
  have hstate : (s.slots (s.cmd t).slot).word.state = j.state := congrArg GuardWord.state hat.word
  have hpast := Journey.past_of_overtaken hj hat.valid
  simp only [Look.next, hstate]
  rw [if_pos (by simpa using hpast)]
  exact h.goOn (by rw [hpart]; rfl) rfl hj hat fun _ hno => by cases hno

theorem Inv.look_taken (h : Inv s) {look : Look} (hpart : s.part t = .taken none)
    (hlook : look.part = .taken none) :
    Inv (s.follow t (look.next (s.cmd t) (s.slots (s.cmd t).slot).word) s.toShared) := by
  obtain ⟨j, hj, hat⟩ := h.journey t (by rw [hpart]; rfl)
  rw [hpart] at hj
  have hstate : (s.slots (s.cmd t).slot).word.state = j.state := congrArg GuardWord.state hat.word
  have hvalid := hat.valid
  cases j <;> simp [Part.allows] at hj
  case taken state =>
    simp only [Journey.valid] at hvalid
    have hgo : Inv (s.goTo t (.looking (.consumeSlot state)) s.toShared) :=
      h.goOn (by rw [hpart]; rfl) rfl (j := .taken state)
        (by simp [Phase.part, Look.part, Part.allows]) hat fun _ hno => by cases hno
    cases look <;> simp only [Look.next, hstate, Journey.state, hvalid, if_true]
    case releaseMatches who | releaseState who => cases who <;> cases hlook
    case taken | signalled => exact hgo
    all_goals cases hlook

theorem Inv.look_consuming (h : Inv s) {look : Look} {state : RequestState}
    (hphase : (s.callers t).phase = .looking look) (hlook : look.part = .taken (some state)) :
    Inv (s.follow t (look.next (s.cmd t) (s.slots (s.cmd t).slot).word) s.toShared) := by
  have hpart : s.part t = .taken (some state) := by rw [System.part, hphase]; exact hlook
  have hhold : (s.part t).holds = true := by rw [hpart]; rfl
  have hat := h.taken_at hpart
  have hfound := h.found hhold
  have hstate : (s.slots (s.cmd t).slot).word.state = state := congrArg GuardWord.state hat.word
  have hgo : ∀ phase : Phase, phase.part = .taken (some state) →
      (∀ result, phase.carries = some result → (s.callers t).phase.carries = some result) →
      Inv (s.goTo t phase s.toShared) := fun phase hphase hcarries =>
    h.goOn hhold (by rw [hphase]; rfl) (j := .taken state) (by simp [hphase, Part.allows]) hat
      fun result hr => h.carried t result (hcarries result hr)
  cases look <;> simp only [Look.next, hfound, hstate, if_true]
  case consumeSlot expected =>
    cases hlook
    exact hgo _ rfl fun _ hno => by cases hno
  case consumeState expected =>
    cases hlook
    simp only [if_true]
    exact hgo _ rfl fun _ hno => by cases hno
  case releaseMatches who =>
    cases who <;> cases hlook
    exact hgo _ rfl fun result hr => by rw [hphase]; exact hr
  case releaseState who =>
    cases who <;> cases hlook
    simp only [Releaser.state, if_true]
    exact hgo _ rfl fun result hr => by rw [hphase]; exact hr
  all_goals cases hlook

theorem Inv.publishing (h : Inv s) (hphase : (s.callers t).phase = .publishing) :
    Inv (s.goTo t (s.callers t).published
      (s.toShared.withWord (s.cmd t).slot ⟨(s.cmd t).requestId, .pending⟩)) := by
  have hpart : s.part t = .claimed := by rw [System.part, hphase]; rfl
  have hat := h.claimed_at hpart
  obtain ⟨hnext, hcarries⟩ := (s.callers t).published_part
  exact h.stay (by rw [hpart]; rfl) (by rw [hnext]; rfl) _ (j := .unqueued) (by rw [hnext]; rfl)
    (hat.setSlot rfl rfl hat.signal hat.place (Or.inr ⟨rfl, fun hno => by cases hno⟩)
      (fun _ => rfl) rfl (fun hno => by cases hno) fun _ hno => by simp at hno) (by simp [hcarries])

theorem Inv.filling (h : Inv s) {kind : CredentialKind}
    (hphase : (s.callers t).phase = .filling kind) :
    Inv (s.goTo t (.looking .sendSlot)
      ((s.toShared.withAuthority (s.cmd t).slot
        ((s.slots (s.cmd t).slot).authority.put kind
          (((s.slots (s.cmd t).slot).authority.get kind).fill (s.callers t).secret))).note
        (.stored (s.cmd t).requestId kind (s.callers t).secret))) := by
  have hpart : s.part t = .unqueued := by rw [System.part, hphase]; rfl
  have hactive : (s.part t).active = true := by rw [hpart]; rfl
  have hat := h.unqueued_at hpart
  have hheld : (s.slots (s.cmd t).slot).word.id = (s.cmd t).requestId :=
    congrArg GuardWord.id hat.word
  refine h.goTo hactive ((Frame.setSlot (Or.inr hheld) _).note rfl) rfl
    (fun _ => ⟨.unqueued, rfl, ?_⟩) (fun hno => by cases hno) (fun _ hno => by cases hno)
    (Or.inr (Or.inl ⟨rfl, ?_⟩)) (fun _ _ _ _ => rfl) (fun _ outcome hmem => ?_) h.flight ?_
  · have hslot : ∀ slot : Slot,
        (s.toShared.setSlot (s.cmd t).slot slot).slots (s.cmd t).slot = slot :=
      fun slot => Function.update_self ..
    refine ⟨rfl, ?_, ?_, hat.place, (fun hno => by cases hno), fun kind' secret htake => ?_,
      fun hu hmem => ?_, fun hu result hmem => ?_, (fun hno => by cases hno),
      fun _ hno => by simp at hno⟩
    · change ((s.toShared.setSlot _ _).slots _).word = _
      rw [hslot]
      exact hat.word
    · change ((s.toShared.setSlot _ _).slots _).signal = _
      rw [hslot]
      exact hat.signal
    · change ((((s.toShared.setSlot _ _).slots _).authority).get kind').take kind' = _ at htake
      rw [hslot] at htake
      obtain ⟨rfl, hfill⟩ | hold := Authority.take_put htake
      · rw [Credential.take_fill hfill]
        exact List.mem_cons_self
      · exact List.mem_cons_of_mem _ (hat.own kind' secret hold)
    · obtain heq | hmem := List.mem_cons.mp hmem
      · cases heq
      · exact hat.unexecuted rfl hmem
    · obtain heq | hmem := List.mem_cons.mp hmem
      · cases heq
      · exact hat.unanswered rfl result hmem
  · change ((s.toShared.setSlot _ _).slots _).word.id = _
    rw [show (s.toShared.setSlot (s.cmd t).slot _).slots (s.cmd t).slot = _ from
      Function.update_self ..]
    exact hheld
  · obtain heq | hmem := List.mem_cons.mp hmem
    · cases heq
    · exact h.notReturned hactive outcome hmem
  · exact h.history.cons (fun _ hno => by cases hno) (fun _ _ hno => by cases hno)
      (fun _ _ _ hno => by cases hno) (fun _ _ hno => by cases hno) fun _ _ hno => by cases hno

theorem Inv.sending (h : Inv s) (hphase : (s.callers t).phase = .sending) :
    Inv (s.goTo t (.looking .waitSlot)
      { s.toShared with queue := s.queue ++ [s.cmd t] }) := by
  have hpart : s.part t = .unqueued := by rw [System.part, hphase]; rfl
  have hactive : (s.part t).active = true := by rw [hpart]; rfl
  have hat := h.unqueued_at hpart
  have hheld : (s.slots (s.cmd t).slot).word.id = (s.cmd t).requestId :=
    congrArg GuardWord.id hat.word
  have hf : Frame s.toShared { s.toShared with queue := s.queue ++ [s.cmd t] } (s.cmd t) := by
    refine ⟨rfl, fun _ hne => absurd rfl hne, fun other hid => ?_, fun _ _ _ => Iff.rfl,
      fun _ _ => Iff.rfl, fun _ he => he⟩
    have hne : other ≠ s.cmd t := fun heq => hid (heq ▸ rfl)
    simp [hne]
  refine h.goTo hactive hf rfl (fun _ => ⟨.queued, rfl, ?_⟩) (fun hno => by cases hno)
    (fun _ hno => by cases hno) (Or.inr (Or.inl ⟨rfl, hheld⟩)) (fun _ _ _ _ => rfl)
    (fun _ outcome => h.notReturned hactive outcome) ?_ h.history
  · exact ⟨rfl, hat.word, hat.signal, List.mem_append_cons_self,
      (fun hno => by cases hno), hat.own, hat.unexecuted, hat.unanswered, (fun hno => by cases hno),
      fun _ hno => by simp at hno⟩
  · have hfresh : (s.cmd t).requestId ∉ s.inFlight.map (·.requestId) := by
      intro hmem
      obtain ⟨other, hother, heq⟩ := List.mem_map.mp hmem
      exact hat.place other hother heq
    change ((s.owner.stage.map (·.1)).toList ++ (s.queue ++ [s.cmd t]) |>.map
      (·.requestId)).Nodup
    rw [← List.append_assoc, List.map_append]
    refine List.nodup_append.mpr ⟨h.flight, by simp, ?_⟩
    intro id hid other hother heq
    rw [List.map_singleton, List.mem_singleton] at hother
    rw [heq, hother] at hid
    exact hfresh hid

theorem Inv.drainingLast (h : Inv s) {state : RequestState} {result : EspErr}
    (hphase : (s.callers t).phase = .drainingLast state result) :
    Inv (s.goTo t (.looking (.releaseMatches (.consume state result)))
      (s.toShared.withSignal (s.cmd t).slot false)) := by
  have hpart : s.part t = .taken (some state) := by rw [System.part, hphase]; rfl
  have hat := h.taken_at hpart
  exact h.stay (by rw [hpart]; rfl) rfl _ (j := .taken state)
    (by simp [Phase.part, Look.part, Releaser.part, Part.allows])
    (hat.setSlot hat.valid hat.word rfl hat.place (Or.inr ⟨rfl, fun hk => hk⟩) id rfl
      (fun _ => rfl) hat.signalled)
    fun result' hr => h.carried t result' (by rw [hphase]; exact hr)

theorem Inv.readingResult (h : Inv s) {state : RequestState}
    (hphase : (s.callers t).phase = .readingResult state) :
    Inv (s.goTo t (.drainingLast state (s.slots (s.cmd t).slot).result) s.toShared) := by
  have hpart : s.part t = .taken (some state) := by rw [System.part, hphase]; rfl
  have hat := h.taken_at hpart
  refine h.goOn (by rw [hpart]; rfl) rfl (j := .taken state) (by simp [Phase.part, Part.allows])
    hat fun result hr => ?_
  cases hr
  exact hat.answered rfl

theorem Inv.cancelReleasing (h : Inv s) {who : Canceller}
    (hphase : (s.callers t).phase = .cancelReleasing who) :
    Inv (s.follow t (who.next true) (s.toShared.withWord (s.cmd t).slot .zero)) := by
  have hpart : s.part t = .cancelled true := by rw [System.part, hphase]; rfl
  have hat := h.cancelled_at hpart
  have hleave : ∀ ret, Inv (s.follow t (.back (.cancelled ret))
      (s.toShared.withWord (s.cmd t).slot .zero)) := fun ret =>
    h.leave (by rw [hpart]; rfl) hat rfl rfl (fun stage hstage => hat.place _ stage hstage rfl) _
      (fun _ hno => by cases hno) fun _ _ => hat.unexecuted rfl
  cases who <;> exact hleave _

theorem Inv.releasing (h : Inv s) {state : RequestState} {result : EspErr}
    (hphase : (s.callers t).phase = .releasing (.consume state result)) :
    Inv (s.follow t (.back (.completion result))
      (s.toShared.withWord (s.cmd t).slot .zero)) := by
  have hpart : s.part t = .taken (some state) := by rw [System.part, hphase]; rfl
  have hat := h.taken_at hpart
  refine h.leave (by rw [hpart]; rfl) hat rfl rfl (fun stage hstage => ?_) _ (fun result' heq => ?_)
    fun _ hno => by cases hno
  · exact absurd rfl (hat.place _ (mem_inFlight.mpr (Or.inl ⟨stage, hstage⟩)))
  · cases heq
    exact h.carried t result (by rw [hphase]; rfl)

theorem Inv.claimNext (h : Inv s) (hpart : s.part t = .numbered) (i : SlotIndex) :
    Inv (s.goTo t (.claiming i) s.toShared) := by
  have hactive : (s.part t).active = true := by rw [hpart]; rfl
  exact h.goTo hactive (Frame.refl _ _) rfl (fun hno => by cases hno) (fun _ => ⟨hpart, rfl⟩)
    (fun _ hno => by cases hno) (Or.inr (Or.inr ⟨rfl, by rw [hpart]; rfl, rfl⟩))
    (fun _ _ _ hhold => by rw [hpart] at hhold; cases hhold)
    (fun _ outcome => h.notReturned hactive outcome) h.flight h.history

theorem Inv.claimNone (h : Inv s) (hpart : s.part t = .numbered) (ret : EspErr) :
    Inv (s.follow t (.back (.refused ret)) s.toShared) := by
  have hactive : (s.part t).active = true := by rw [hpart]; rfl
  refine h.goTo hactive ((Frame.refl _ _).note rfl) rfl (fun hno => by cases hno)
    (fun hno => by cases hno)
    (fun _ hno => by cases hno) (Or.inr (Or.inr ⟨rfl, by rw [hpart]; rfl, rfl⟩))
    (fun _ _ _ hhold => by rw [hpart] at hhold; cases hhold)
    (fun hno => by cases hno) h.flight ?_
  exact h.history.cons (fun _ hno => by cases hno) (fun _ _ hno => by cases hno)
    (fun _ _ _ hno => by cases hno) (fun _ _ hno => by cases hno) fun _ _ hno => by cases hno

theorem Inv.claimed (h : Inv s) {i : SlotIndex} (hphase : (s.callers t).phase = .claiming i)
    (hfree : (s.slots i).word = .zero) :
    Inv (s.setCaller t
      { s.callers t with phase := .wiping .claim, cmd := { s.cmd t with slot := i } }
      (s.toShared.withWord i ⟨(s.cmd t).requestId, .claimed⟩)) := by
  have hpart : s.part t = .numbered := by rw [System.part, hphase]; rfl
  have hactive : (s.part t).active = true := by rw [hpart]; rfl
  have hid := h.known t hactive
  -- The task may well point to this slot before it has it.
  let c : Caller := { s.callers t with cmd := { s.cmd t with slot := i } }
  let s₁ := s.setCaller t c s.toShared
  have hc : c.phase = .claiming i := hphase
  have h₁ : Inv s₁ := h.enroll (by rw [hpart]; rfl) (by rw [hc]; rfl) (by rw [hc]; rfl)
    (Fin.le_refl _) fun _ =>
      ⟨hid.1, hid.2, fun u hu hactive' heq => hu (h.distinct u t hactive' hactive heq),
        h.numbered t hpart⟩
  have hcmd : s₁.cmd t = { s.cmd t with slot := i } := by
    rw [System.cmd, System.setCaller_self]
  have hpart₁ : s₁.part t = .numbered := by
    rw [System.part, System.setCaller_self]
    exact hpart
  have hslot : ∀ slot : Slot, (s.toShared.setSlot i slot).slots i = slot :=
    fun slot => Function.update_self ..
  have hclean : (s.slots i).Free := by
    obtain hclean | ⟨u, hhold, _, hword⟩ := h.slots i
    · exact hclean
    · rw [hfree] at hword
      exact absurd hword.symm (h.known u (Part.active_of_holds hhold)).1
  have hnone := h.numbered t hpart
  have hat : At (s.toShared.withWord i ⟨(s.cmd t).requestId, .claimed⟩)
      { s.cmd t with slot := i } .claimed := by
    refine ⟨rfl, ?_, ?_, hnone.1, fun _ => ?_, fun kind secret htake => ?_,
      fun _ hmem => hnone.2 _ hmem rfl, fun _ _ hmem => hnone.2 _ hmem rfl,
      (fun hno => by cases hno), fun _ hno => by simp at hno⟩
    · change ((s.toShared.setSlot i _).slots i).word = _
      rw [hslot]
      rfl
    · change ((s.toShared.setSlot i _).slots i).signal = _
      rw [hslot]
      exact hclean.2.2
    · change ((s.toShared.setSlot i _).slots i).authority = _
      rw [hslot]
      exact hclean.2.1
    · change (((s.toShared.setSlot i _).slots i).authority.get kind).take kind = _ at htake
      rw [hslot] at htake
      have hwiped : (s.slots i).authority = .wiped := hclean.2.1
      dsimp only at htake
      rw [hwiped, Authority.take_wiped] at htake
      cases htake
  have hgo : Inv (s₁.goTo t (.wiping .claim)
      (s.toShared.withWord i ⟨(s.cmd t).requestId, .claimed⟩)) := by
    refine h₁.goTo (by rw [hpart₁]; rfl) ?_ ?_ (fun _ => ⟨.claimed, rfl, by rw [hcmd]; exact hat⟩)
      ?_ ?_ (Or.inr (Or.inl ⟨rfl, ?_⟩)) (fun _ _ _ _ => rfl) (fun _ outcome => ?_) h.flight
      h.history
    · rw [hcmd]
      have hf : ∀ slot : Slot, Frame s.toShared (s.toShared.setSlot i slot)
          { s.cmd t with slot := i } :=
        @Frame.setSlot s.toShared { s.cmd t with slot := i } (Or.inl hfree)
      exact hf _
    · rfl
    · intro hno
      cases hno
    · intro _ hno
      cases hno
    · rw [hcmd]
      exact congrArg GuardWord.id hat.word
    · rw [hcmd]
      exact h.notReturned hactive outcome
  have hsame : s₁.goTo t (.wiping .claim)
      (s.toShared.withWord i ⟨(s.cmd t).requestId, .claimed⟩) = s.setCaller t
        { s.callers t with phase := .wiping .claim, cmd := { s.cmd t with slot := i } }
        (s.toShared.withWord i ⟨(s.cmd t).requestId, .claimed⟩) := by
    rw [System.goTo, System.setCaller_self]
    simp only [s₁, System.setCaller, Function.update_idem, c]
  rw [← hsame]
  exact hgo

theorem lt_succ_of_ne_max {id : RequestId} (h : id ≠ idMax) : id < id + 1 := by
  have hval : id.val ≠ 2 ^ 29 - 1 := fun heq => h (Fin.ext heq)
  have hlt := id.isLt
  have hone : (1 : RequestId).val = 1 := rfl
  rw [Fin.lt_def, Fin.val_add, hone]
  omega

theorem Inv.takeNumber (h : Inv s) (hpart : s.part t = .outside) (hmax : s.nextRequestId ≠ idMax) :
    Inv (s.setCaller t
      { s.callers t with
        phase := .claiming 0, cmd := { s.cmd t with requestId := s.nextRequestId + 1 } }
      { s.toShared with nextRequestId := s.nextRequestId + 1 }) := by
  have hlt := lt_succ_of_ne_max hmax
  refine h.enroll (by rw [hpart]; rfl) rfl rfl (Fin.le_of_lt hlt) fun _ =>
    ⟨fun hzero => ?_, Fin.le_refl _, fun u _ hactive => ?_, fun cmd hcmd => ?_,
      fun event hevent => ?_⟩
  · change s.nextRequestId + 1 = 0 at hzero
    rw [hzero] at hlt
    exact absurd hlt (Fin.not_lt_zero _)
  · exact Fin.ne_of_lt (Fin.lt_of_le_of_lt (h.known u hactive).2 hlt)
  · exact Fin.ne_of_lt (Fin.lt_of_le_of_lt (h.flightKnown cmd hcmd) hlt)
  · exact Fin.ne_of_lt (Fin.lt_of_le_of_lt (h.logKnown event hevent) hlt)

omit [DecidableEq τ] in
theorem Inv.waiting_at (h : Inv s) (hpart : s.part t = .waiting ∨ s.part t = .overtaken) :
    ∃ j, (s.part t).allows j = true ∧ At s.toShared (s.cmd t) j ∧
      (j.signal = true → ∃ state, j = .given state) := by
  obtain ⟨j, hj, hat⟩ := h.journey t (by obtain hp | hp := hpart <;> rw [hp] <;> rfl)
  refine ⟨j, hj, hat, fun hsignal => ?_⟩
  cases j with
  | given state => exact ⟨state, rfl⟩
  | _ => cases hsignal

theorem Inv.taking (h : Inv s) (hphase : (s.callers t).phase = .taking)
    (hsignal : (s.slots (s.cmd t).slot).signal = true) :
    Inv (s.goTo t (.looking .taken) (s.toShared.withSignal (s.cmd t).slot false)) := by
  have hpart : s.part t = .waiting := by rw [System.part, hphase]; rfl
  obtain ⟨j, _, hat, hgiven⟩ := h.waiting_at (Or.inl hpart)
  obtain ⟨state, rfl⟩ := hgiven (hat.signal.symm.trans hsignal)
  exact h.take (by rw [hpart]; rfl) hat rfl rfl

theorem Inv.takingForever (h : Inv s) (hphase : (s.callers t).phase = .takingForever)
    (hsignal : (s.slots (s.cmd t).slot).signal = true) :
    Inv (s.goTo t (.looking .signalled) (s.toShared.withSignal (s.cmd t).slot false)) := by
  have hpart : s.part t = .overtaken := by rw [System.part, hphase]; rfl
  obtain ⟨j, _, hat, hgiven⟩ := h.waiting_at (Or.inr hpart)
  obtain ⟨state, rfl⟩ := hgiven (hat.signal.symm.trans hsignal)
  exact h.take (by rw [hpart]; rfl) hat rfl rfl

theorem Inv.cancelling (h : Inv s) {who : Canceller}
    (hphase : (s.callers t).phase = .cancelling who) :
    ((s.slots (s.cmd t).slot).word = ⟨(s.cmd t).requestId, .pending⟩ →
      Inv (s.goTo t (.wiping (.cancel who))
        (s.toShared.withWord (s.cmd t).slot ⟨(s.cmd t).requestId, .callerCancelled⟩))) ∧
    ((s.slots (s.cmd t).slot).word ≠ ⟨(s.cmd t).requestId, .pending⟩ →
      Inv (s.follow t (who.next false) s.toShared)) := by
  have hpart : s.part t = who.part := by rw [System.part, hphase]; rfl
  have hholds : who.part.holds = true := by cases who <;> rfl
  obtain ⟨j, hj, hat⟩ := h.journey t (by rw [hpart]; exact hholds)
  rw [hpart] at hj
  have hword := hat.word
  refine ⟨fun hpending => ?_, fun hnot => ?_⟩
  · refine h.cancel (by rw [hpart]; exact hholds) hat ?_ who
    rw [hpending] at hword
    have hstate : j.state = .pending := (congrArg GuardWord.state hword).symm
    have hvalid := hat.valid
    cases j with
    | unqueued => exact Or.inl rfl
    | queued => exact Or.inr (Or.inl rfl)
    | owned stage state =>
      simp only [Journey.state] at hstate
      subst hstate
      cases stage <;> first | exact Or.inr (Or.inr ⟨_, rfl⟩) | exact absurd hvalid (by decide)
    | given state | taken state =>
      simp only [Journey.state] at hstate
      subst hstate
      exact absurd hvalid (by decide)
    | _ => cases hstate
  · -- Only a wait can find that the owner was first.
    cases who with
    | enqueue | abort ret =>
      have hat := h.unqueued_at (t := t) hpart
      exact absurd hat.word hnot
    | wait =>
      refine h.goOn (by rw [hpart]; rfl) rfl (j := j) ?_ hat fun _ hno => by cases hno
      cases j with
      | queued => exact absurd hword hnot
      | owned stage state =>
        have hvalid := hat.valid
        cases stage <;> first | rfl | skip
        simp only [Journey.valid, OwnerStage.fits, decide_eq_true_eq] at hvalid
        subst hvalid
        exact absurd hword hnot
      | given state => rfl
      | _ => cases hj

theorem Inv.advance (h : Inv s) (late : Bool) : Inv (s.advance t late) := by
  unfold System.advance
  dsimp only
  cases hphase : (s.callers t).phase <;> dsimp only
  case idle => exact h
  case loadingId =>
    exact h.enroll (by rw [System.part, hphase]; rfl) rfl rfl (Fin.le_refl _)
      fun hno => by cases hno
  case takingId observed =>
    have hpart : s.part t = .outside := by rw [System.part, hphase]; rfl
    split_ifs with hmax hsame
    · exact h.enroll (by rw [hpart]; rfl) rfl rfl (Fin.le_refl _) fun hno => by cases hno
    · subst hsame
      exact h.takeNumber hpart hmax
    · exact h.enroll (by rw [hpart]; rfl) rfl rfl (Fin.le_refl _) fun hno => by cases hno
  case claiming i =>
    have hpart : s.part t = .numbered := by rw [System.part, hphase]; rfl
    split_ifs with hfree hmore
    · exact h.claimed hphase hfree
    · exact h.claimNext hpart _
    · exact h.claimNone hpart _
  case wiping who => exact h.wiping hphase
  case draining =>
    have hpart : s.part t = .claimed := by rw [System.part, hphase]; rfl
    have hat := h.claimed_at hpart
    have hsignal : (s.slots (s.callers t).cmd.slot).signal = false := hat.signal
    rw [if_neg (by simp [hsignal])]
    exact h.goOn (by rw [hpart]; rfl) rfl (j := .claimed) rfl hat fun _ hno => by cases hno
  case settingResult =>
    have hpart : s.part t = .claimed := by rw [System.part, hphase]; rfl
    have hat := h.claimed_at hpart
    exact h.stay (by rw [hpart]; rfl) rfl _ (j := .claimed) rfl
      (hat.setSlot rfl hat.word hat.signal hat.place (Or.inr ⟨rfl, id⟩) id rfl
        (fun hno => by cases hno) fun _ hno => by simp at hno) fun _ hno => by cases hno
  case publishing =>
    have hword := (h.claimed_at (t := t) (by rw [System.part, hphase]; rfl)).word
    rw [if_pos (by exact hword)]
    exact h.publishing hphase
  case looking look =>
    have hpart : s.part t = look.part := by rw [System.part, hphase]; rfl
    cases look with
    | waitSlot => exact h.look_waiting hphase
    | taken | signalled => exact h.look_taken hpart rfl
    | overtaken => exact h.look_overtaken hphase
    | consumeSlot | consumeState => exact h.look_consuming hphase rfl
    | releaseMatches who | releaseState who =>
      cases who with
      | claim =>
        obtain ⟨j, hj, _⟩ := h.journey t (by rw [hpart]; rfl)
        rw [hpart] at hj
        cases hj
      | consume => exact h.look_consuming hphase rfl
    | _ => exact h.look_unqueued hpart rfl
  case filling kind => exact h.filling hphase
  case sending =>
    have hpart : s.part t = .unqueued := by rw [System.part, hphase]; rfl
    split_ifs
    · exact h.goOn (by rw [hpart]; rfl) rfl (j := .unqueued) rfl (h.unqueued_at hpart)
        fun _ hno => by cases hno
    · exact h.sending hphase
  case cancelling who =>
    split_ifs with hword
    · exact (h.cancelling hphase).1 hword
    · exact (h.cancelling hphase).2 hword
  case cancelReleasing who =>
    have hpart : s.part t = .cancelled true := by rw [System.part, hphase]; rfl
    have hword := (h.cancelled_at hpart).word
    rw [if_pos (by exact hword)]
    exact h.cancelReleasing hphase
  case taking =>
    split_ifs with hsignal
    · exact h.taking hphase hsignal
    · have hpart : s.part t = .waiting := by rw [System.part, hphase]; rfl
      obtain ⟨j, hj, hat⟩ := h.journey t (by rw [hpart]; rfl)
      rw [hpart] at hj
      exact h.goOn (by rw [hpart]; rfl) rfl hj hat fun _ hno => by cases hno
    · exact h
  case takingForever =>
    split_ifs with hsignal
    · exact h.takingForever hphase hsignal
    · exact h
  case readingResult state => exact h.readingResult hphase
  case drainingLast state result => exact h.drainingLast hphase
  case releasing who =>
    cases who with
    | claim =>
      obtain ⟨j, hj, _⟩ := h.journey t (by rw [System.part, hphase]; rfl)
      rw [System.part, hphase] at hj
      cases hj
    | consume state result =>
      have hpart : s.part t = .taken (some state) := by rw [System.part, hphase]; rfl
      have hword := (h.taken_at hpart).word
      rw [if_pos (by exact hword)]
      exact h.releasing hphase

theorem Inv.call (h : Inv s) (hidle : (s.callers t).phase = .idle)
    (credential : Option CredentialKind) (secret : List UInt8) :
    Inv (s.call t credential secret) := by
  have hstart : ∀ c : Caller, c.phase = .loadingId → Inv (s.setCaller t c s.toShared) :=
    fun c hc => h.enroll (by rw [System.part, hidle]; rfl) (by rw [hc]; rfl) (by rw [hc]; rfl)
      (Fin.le_refl _) fun hactive => by rw [hc] at hactive; cases hactive
  unfold System.call
  cases credential with
  | none => exact hstart _ rfl
  | some kind =>
    dsimp only
    split_ifs
    · exact hstart _ rfl
    · exact h

end Caller

section Owner

variable {cmd : Command} {stage : OwnerStage}

theorem At.sameStage {s : Shared} {j : Journey} (h : At s cmd j) {owner : Owner}
    (hsame : owner.stage = s.owner.stage) : At (s.setOwner owner) cmd j := by
  have hflight : (s.setOwner owner).inFlight = s.inFlight := by
    simp only [Shared.inFlight, Shared.setOwner, hsame]
  refine ⟨h.valid, h.word, h.signal, ?_, h.wiped, h.own, h.unexecuted, h.unanswered, h.answered,
    h.signalled⟩
  have hplace := h.place
  cases j with
  | claimed | unqueued | given | taken =>
    change ∀ other ∈ (s.setOwner owner).inFlight, _
    rw [hflight]
    exact hplace
  | queued => exact hplace
  | cancelled wiped =>
    intro other stage hstage
    exact hplace other stage (hsame.symm.trans hstage)
  | owned stage state => exact hsame.trans hplace

omit [DecidableEq τ] in
theorem Inv.sameStage (h : Inv s) {owner : Owner} (hsame : owner.stage = s.owner.stage) :
    Inv { s with toShared := s.toShared.setOwner owner } := by
  have hflight : (s.toShared.setOwner owner).inFlight = s.inFlight := by
    simp only [Shared.inFlight, Shared.setOwner, hsame]
  refine ⟨h.known, fun cmd hcmd => h.flightKnown cmd (hflight ▸ hcmd), h.logKnown, h.distinct, ?_,
    fun t ht => ⟨fun cmd hcmd => (h.numbered t ht).1 cmd (hflight ▸ hcmd), (h.numbered t ht).2⟩,
    fun t ht => ?_, h.carried, h.retired, h.slots,
    fun cmd stage hstage => h.owner cmd stage (hsame.symm.trans hstage), h.history⟩
  · change ((s.toShared.setOwner owner).inFlight.map _).Nodup
    rw [hflight]
    exact h.flight
  · obtain ⟨j, hj, hat⟩ := h.journey t ht
    exact ⟨j, hj, hat.sameStage hsame⟩

omit [DecidableEq τ] in
theorem Inv.flight_cons (h : Inv s) (hstage : s.owner.stage = some (cmd, stage)) :
    ((cmd :: s.queue).map (·.requestId)).Nodup := by
  have hflight := h.flight
  rw [Shared.inFlight, hstage] at hflight
  exact hflight

omit [DecidableEq τ] in
theorem Inv.not_queued (h : Inv s) (hstage : s.owner.stage = some (cmd, stage)) {other : Command}
    (hid : other.requestId = cmd.requestId) : other ∉ s.queue := by
  intro hmem
  have hnodup := h.flight_cons hstage
  rw [List.map_cons, List.nodup_cons] at hnodup
  exact hnodup.1 (hid ▸ List.mem_map_of_mem hmem)

omit [DecidableEq τ] in
theorem Inv.owned_of (h : Inv s) (hstage : s.owner.stage = some (cmd, stage))
    (hhold : (s.part t).holds = true) (hid : (s.cmd t).requestId = cmd.requestId)
    (hlate : stage ≠ .considering ∨ (s.slots (s.cmd t).slot).word.state = .pending) :
    s.cmd t = cmd ∧ ∃ state, (s.part t).allows (.owned stage state) = true ∧
      At s.toShared cmd (.owned stage state) := by
  obtain ⟨j, hj, hat⟩ := h.journey t hhold
  have hmem : cmd ∈ s.inFlight := mem_inFlight.mpr (Or.inl ⟨stage, hstage⟩)
  have hplace := hat.place
  cases j with
  | claimed | unqueued | given | taken => exact absurd hid.symm (hplace cmd hmem)
  | queued => exact absurd hplace (h.not_queued hstage hid)
  | cancelled wiped =>
    obtain hlate | hpending := hlate
    · exact absurd (hplace cmd stage hstage hid.symm) hlate
    · rw [hat.word] at hpending
      cases hpending
  | owned stage' state =>
    obtain ⟨hcmd, hsame⟩ := Prod.mk.inj (Option.some.inj (hplace.symm.trans hstage))
    subst hsame
    rw [hcmd] at hat
    exact ⟨hcmd, state, hj, hat⟩

omit [DecidableEq τ] in
theorem Inv.owned_at (h : Inv s) (hstage : s.owner.stage = some (cmd, stage))
    (hlate : stage ≠ .considering) : ∃ t, (s.part t).holds = true ∧ s.cmd t = cmd ∧
      ∃ state, (s.part t).allows (.owned stage state) = true ∧
        At s.toShared cmd (.owned stage state) := by
  obtain ⟨t, hhold, hcmd⟩ := h.owner cmd stage hstage hlate
  exact ⟨t, hhold, hcmd, (h.owned_of hstage hhold (congrArg _ hcmd) (Or.inl hlate)).2⟩

omit [DecidableEq τ] in
theorem Inv.considered_at (h : Inv s) (hstage : s.owner.stage = some (cmd, .considering))
    (hword : (s.slots cmd.slot).word = ⟨cmd.requestId, .pending⟩) :
    ∃ t, (s.part t).holds = true ∧ s.cmd t = cmd ∧
      ∃ state, (s.part t).allows (.owned .considering state) = true ∧
        At s.toShared cmd (.owned .considering state) := by
  obtain hfree | ⟨t, hhold, hslot, hid⟩ := h.slots cmd.slot
  · rw [hfree.1] at hword
    exact absurd (congrArg GuardWord.state hword) (by simp [GuardWord.zero])
  · rw [hword] at hid
    have hpending : (s.slots (s.cmd t).slot).word.state = .pending := by rw [hslot, hword]
    exact ⟨t, hhold, h.owned_of hstage hhold hid.symm (Or.inr hpending)⟩

omit [DecidableEq τ] in
theorem Inv.move (h : Inv s) (hstage : s.owner.stage = some (cmd, stage))
    (hhold : (s.part t).holds = true) (hcmd : s.cmd t = cmd) {s' : Shared}
    (hf : Frame s.toShared s' cmd)
    {j : Journey} (hj : (s.part t).allows j = true) (hat : At s' cmd j)
    (howner : s'.owner.stage = none ∨ ∃ stage', s'.owner.stage = some (cmd, stage'))
    (hqueue : s'.queue = s.queue)
    (hreturned : ∀ id outcome, .returned id outcome ∈ s'.log → .returned id outcome ∈ s.log)
    (hhistory : History s'.log) : Inv { s with toShared := s' } := by
  have hactive := Part.active_of_holds hhold
  have hmem : cmd ∈ s.inFlight := mem_inFlight.mpr (Or.inl ⟨stage, hstage⟩)
  have hnodup := h.flight_cons hstage
  obtain ⟨_, _, hold⟩ := h.journey t hhold
  rw [hcmd] at hold
  refine h.worked (h.flightKnown cmd hmem) hf (fun u j' hu hid _ _ => ?_)
    (fun u hu hid => (h.numbered u hu).1 cmd hmem hid.symm)
    (Or.inr ⟨congrArg GuardWord.id hold.word, ?_, congrArg GuardWord.id hat.word⟩)
    (fun other stage' hother _ => ?_) hreturned ?_ hhistory
  · obtain rfl := h.distinct u t (Part.active_of_holds hu) hactive (by rw [hid, hcmd])
    exact ⟨j, hj, by rw [hcmd]; exact hat⟩
  · rw [← hcmd]
    exact (h.known t hactive).1
  · obtain hnone | ⟨stage'', hsome⟩ := howner
    · rw [hnone] at hother
      cases hother
    · rw [hsome] at hother
      exact ⟨t, hhold, hcmd.trans (Prod.mk.inj (Option.some.inj hother)).1⟩
  · rw [Shared.inFlight, hqueue]
    obtain hnone | ⟨stage'', hsome⟩ := howner
    · rw [hnone]
      exact (List.nodup_cons.mp hnodup).2
    · rw [hsome]
      exact hnodup

omit [DecidableEq τ] in
theorem Inv.drop (h : Inv s) (hstage : s.owner.stage = some (cmd, .considering))
    (hword : (s.slots cmd.slot).word ≠ ⟨cmd.requestId, .pending⟩) :
    Inv { s with toShared := s.toShared.setOwner .idle } := by
  have hmem : cmd ∈ s.inFlight := mem_inFlight.mpr (Or.inl ⟨_, hstage⟩)
  refine h.worked (h.flightKnown cmd hmem)
    ((Frame.refl _ _).setOwner hstage (Or.inl rfl)) (fun t j hhold hid hj hat => ?_)
    (fun u hu hid => (h.numbered u hu).1 cmd hmem hid.symm) (Or.inl rfl)
    (fun _ _ hno _ => by cases hno) (fun _ _ hr => hr) ?_ h.history
  · refine ⟨j, hj, hat.valid, hat.word, hat.signal, ?_, hat.wiped, hat.own, hat.unexecuted,
      hat.unanswered, hat.answered, hat.signalled⟩
    have hplace := hat.place
    cases j with
    | claimed | unqueued | given | taken => exact absurd hid.symm (hplace cmd hmem)
    | queued => exact hplace
    | cancelled wiped =>
      intro _ _ hno
      cases hno
    | owned stage state =>
      obtain ⟨hcmd, rfl⟩ := Prod.mk.inj (Option.some.inj (hplace.symm.trans hstage))
      have hpending : state = .pending := by simpa [Journey.valid, OwnerStage.fits] using hat.valid
      subst hpending
      rw [hcmd] at hat
      exact absurd hat.word hword
  · exact (List.nodup_cons.mp (h.flight_cons hstage)).2

theorem Part.waiting_of_queued {p : Part} (h : p.allows .queued = true) : p = .waiting := by
  cases p with
  | waiting => rfl
  | taken state => cases state <;> cases h
  | _ => cases h

omit [DecidableEq τ] in
theorem Inv.dequeue (h : Inv s) (hidle : s.owner = .idle) {queue : List Command}
    (hqueue : s.queue = cmd :: queue) :
    Inv { s with toShared :=
      { s.toShared with queue := queue, owner := .looking .admitSlot cmd } } := by
  have hstage : s.owner.stage = none := by rw [hidle]; rfl
  have hmem : cmd ∈ s.inFlight := by
    rw [Shared.inFlight, hstage, hqueue]
    exact List.mem_cons_self
  have hflight : ({ s.toShared with queue := queue, owner := .looking .admitSlot cmd } :
      Shared).inFlight = s.inFlight := by
    rw [Shared.inFlight, Shared.inFlight, hstage, hqueue]
    rfl
  have hf : Frame s.toShared
      { s.toShared with queue := queue, owner := .looking .admitSlot cmd } cmd := by
    refine ⟨rfl, fun _ hne => absurd rfl hne, fun other hid => ?_, fun other stage hid => ?_,
      fun _ _ => Iff.rfl, fun _ he => he⟩
    · have hne : other ≠ cmd := fun heq => hid (heq ▸ rfl)
      rw [hqueue]
      simp [hne]
    · have hne : cmd ≠ other := fun heq => hid (heq ▸ rfl)
      rw [hstage]
      simp [Owner.stage, hne]
  refine h.worked (h.flightKnown cmd hmem) hf (fun t j hhold hid hj hat => ?_)
    (fun u hu hid => (h.numbered u hu).1 cmd hmem hid.symm) (Or.inl rfl)
    (fun other stage' hother hlate => ?_) (fun _ _ hr => hr) ?_ h.history
  · have hplace := hat.place
    cases j with
    | claimed | unqueued | given | taken => exact absurd hid.symm (hplace cmd hmem)
    | queued =>
      have hcmd : s.cmd t = cmd := by
        have hnodup := h.flight
        rw [Shared.inFlight, hstage, hqueue] at hnodup
        change s.cmd t ∈ s.queue at hplace
        rw [hqueue] at hplace
        obtain heq | htail := List.mem_cons.mp hplace
        · exact heq
        · have htwice : (s.cmd t).requestId ∈ queue.map (·.requestId) :=
            List.mem_map_of_mem htail
          rw [hid] at htwice
          exact absurd htwice (List.nodup_cons.mp hnodup).1
      refine ⟨.owned .considering .pending, ?_, rfl, hat.word, hat.signal, ?_,
        (fun hno => by cases hno), hat.own, hat.unexecuted, hat.unanswered,
        (fun hno => by cases hno), fun _ hno => by simp at hno⟩
      · rw [Part.waiting_of_queued hj]
        rfl
      · change Owner.stage (.looking .admitSlot cmd) = some (s.cmd t, .considering)
        rw [hcmd]
        rfl
    | cancelled wiped =>
      refine ⟨.cancelled wiped, hj, hat.valid, hat.word, hat.signal, ?_, hat.wiped, hat.own,
        hat.unexecuted, hat.unanswered, hat.answered, hat.signalled⟩
      intro other stage hother _
      exact (Prod.mk.inj (Option.some.inj hother)).2.symm
    | owned stage state =>
      rw [Journey.Place, hstage] at hplace
      cases hplace
  · exact absurd (Prod.mk.inj (Option.some.inj hother)).2.symm hlate
  · rw [hflight]
    exact h.flight

theorem Part.allows_next {p : Part} {state state' : RequestState} {stage stage' : OwnerStage}
    (h : p.allows (.owned stage state) = true) (hlate : stage' ≠ .considering) :
    p.allows (.owned stage' state') = true := by
  cases p with
  | waiting => rfl
  | overtaken => simp [Part.allows, hlate]
  | taken state => cases state <;> cases h
  | _ => cases h

theorem Part.allows_given {p : Part} {state state' : RequestState} {stage : OwnerStage}
    (h : p.allows (.owned stage state) = true) : p.allows (.given state') = true := by
  cases p with
  | waiting | overtaken => rfl
  | taken state => cases state <;> cases h
  | _ => cases h

section Moves

variable {s' : Shared} {slot : Slot} {state : RequestState} {stage' : OwnerStage} {owner : Owner}

theorem At.moveOn {s : Shared} {state' : RequestState} (h : At s cmd (.owned stage state))
    (howner : owner.stage = some (cmd, stage')) (hfits : stage'.fits state' = true)
    (hword : slot.word = ⟨cmd.requestId, state'⟩)
    (hsignal : slot.signal = (s.slots cmd.slot).signal)
    (hauthority : slot.authority = .wiped ∨ slot.authority = (s.slots cmd.slot).authority ∧
      ((Journey.owned stage' state').keeps = false → (Journey.owned stage state).keeps = false))
    (hunexecuted : (Journey.owned stage' state').unexecuted = true →
      (Journey.owned stage state).unexecuted = true)
    (hanswer : (Journey.owned stage' state').answered = (Journey.owned stage state).answered)
    (hresult : slot.result = (s.slots cmd.slot).result) :
    At ((s.setSlot cmd.slot slot).setOwner owner) cmd (.owned stage' state') :=
  h.change (Function.update_self ..) (fun _ he => he) hfits hword (hsignal.trans h.signal) howner
    hauthority (fun hj => ⟨hunexecuted hj, id⟩) (fun hj => ⟨hanswer ▸ hj, fun _ => id⟩)
    (fun hj => by rw [hresult]; exact h.answered (hanswer ▸ hj)) fun _ hno => by simp at hno

theorem Shared.slots_setSlot (s : Shared) (k : SlotIndex) (slot : Slot) :
    (s.setSlot k slot).slots k = slot := Function.update_self ..

omit [DecidableEq τ] in
theorem Inv.moveOn (h : Inv s) (hstage : s.owner.stage = some (cmd, stage))
    (hhold : (s.part t).holds = true) (hcmd : s.cmd t = cmd)
    (hat : At s.toShared cmd (.owned stage state)) (howner : owner.stage = some (cmd, stage'))
    {state' : RequestState} (hj : (s.part t).allows (.owned stage' state') = true)
    (hnew : At ((s.toShared.setSlot cmd.slot slot).setOwner owner) cmd (.owned stage' state')) :
    Inv { s with toShared := (s.toShared.setSlot cmd.slot slot).setOwner owner } :=
  h.move hstage hhold hcmd
    ((Frame.setSlot (Or.inr (congrArg GuardWord.id hat.word)) slot).setOwner hstage
      (Or.inr ⟨stage', howner⟩)) hj hnew (Or.inr ⟨stage', howner⟩) rfl (fun _ _ hr => hr) h.history

omit [DecidableEq τ] in
theorem Inv.expiring (h : Inv s) (howner : s.owner = .expiring cmd)
    (hword : (s.slots cmd.slot).word = ⟨cmd.requestId, .pending⟩) :
    Inv { s with toShared :=
      (s.toShared.withWord cmd.slot ⟨cmd.requestId, .ownerExpired⟩).setOwner <|
        .expireWiping cmd } := by
  have hstage : s.owner.stage = some (cmd, .considering) := by rw [howner]; rfl
  obtain ⟨t, hhold, hcmd, state, hj, hat⟩ := h.considered_at hstage hword
  exact h.moveOn hstage hhold hcmd hat rfl (Part.allows_next hj (by simp))
    (hat.moveOn rfl rfl rfl rfl (Or.inr ⟨rfl, fun hno => by cases hno⟩) (fun _ => rfl) rfl rfl)

omit [DecidableEq τ] in
theorem Inv.admitting (h : Inv s) (howner : s.owner = .admitting cmd)
    (hword : (s.slots cmd.slot).word = ⟨cmd.requestId, .pending⟩) :
    Inv { s with toShared :=
      (s.toShared.withWord cmd.slot ⟨cmd.requestId, .admitted⟩).setOwner (.dispatching cmd) } := by
  have hstage : s.owner.stage = some (cmd, .considering) := by rw [howner]; rfl
  obtain ⟨t, hhold, hcmd, state, hj, hat⟩ := h.considered_at hstage hword
  exact h.moveOn hstage hhold hcmd hat rfl (Part.allows_next hj (by simp))
    (hat.moveOn rfl rfl rfl rfl (Or.inr ⟨rfl, fun hno => by cases hno⟩) (fun _ => rfl) rfl rfl)

omit [DecidableEq τ] in
theorem Inv.ownerWiping (h : Inv s) (hstage : s.owner.stage = some (cmd, stage))
    (howner : owner.stage = some (cmd, stage'))
    (hnext : stage = .expireWiping ∧ stage' = .expireResult ∨
      stage = .executing ∧ stage' = .executing ∨ stage = .answered ∧ stage' = .completing) :
    Inv { s with toShared := (s.toShared.withAuthority cmd.slot .wiped).setOwner owner } := by
  have hlate : stage ≠ .considering := by rintro rfl; simp at hnext
  have hlate' : stage' ≠ .considering := by rintro rfl; simp at hnext
  obtain ⟨t, hhold, hcmd, state, hj, hat⟩ := h.owned_at hstage hlate
  refine h.moveOn hstage hhold hcmd hat howner (Part.allows_next hj hlate')
    (hat.moveOn howner ?_ hat.word rfl (Or.inl rfl) ?_ ?_ rfl)
  · have hvalid : stage.fits state = true := hat.valid
    obtain ⟨rfl, rfl⟩ | ⟨rfl, rfl⟩ | ⟨rfl, rfl⟩ := hnext <;> exact hvalid
  · obtain ⟨rfl, rfl⟩ | ⟨rfl, rfl⟩ | ⟨rfl, rfl⟩ := hnext <;> exact id
  · obtain ⟨rfl, rfl⟩ | ⟨rfl, rfl⟩ | ⟨rfl, rfl⟩ := hnext <;> rfl

omit [DecidableEq τ] in
theorem Inv.answering (h : Inv s) (hstage : s.owner.stage = some (cmd, stage))
    (howner : owner.stage = some (cmd, stage')) (result : EspErr)
    (hnext : stage = .expireResult ∧ stage' = .giving ∨ stage = .executing ∧ stage' = .answered) :
    Inv { s with toShared := ((s.toShared.withResult cmd.slot result).note
      (.resultSet cmd.requestId result)).setOwner owner } := by
  have hlate : stage ≠ .considering := by rintro rfl; simp at hnext
  have hlate' : stage' ≠ .considering := by rintro rfl; simp at hnext
  obtain ⟨t, hhold, hcmd, state, hj, hat⟩ := h.owned_at hstage hlate
  have hheld : (s.slots cmd.slot).word.id = cmd.requestId := congrArg GuardWord.id hat.word
  have hunanswered : (Journey.owned stage state).answered = false := by
    obtain ⟨rfl, rfl⟩ | ⟨rfl, rfl⟩ := hnext <;> rfl
  have hanswered : (Journey.owned stage' state).answered = true := by
    obtain ⟨rfl, rfl⟩ | ⟨rfl, rfl⟩ := hnext <;> rfl
  refine h.move hstage hhold hcmd (((Frame.setSlot (Or.inr hheld) _).note rfl).setOwner hstage
    (Or.inr ⟨stage', howner⟩)) (j := .owned stage' state) (Part.allows_next hj hlate')
    (hat.change (Shared.slots_setSlot _ _ _) (List.subset_cons_self _ _) ?_ hat.word hat.signal
      howner (Or.inr ⟨rfl, ?_⟩) (fun hu => ?_) (fun hno => ?_) (fun _ => List.mem_cons_self)
      fun _ hno => by simp at hno) (Or.inr ⟨stage', howner⟩) rfl (fun id outcome hmem => ?_) ?_
  · have hvalid : stage.fits state = true := hat.valid
    obtain ⟨rfl, rfl⟩ | ⟨rfl, rfl⟩ := hnext
    · have hexpired : state = .ownerExpired := by simpa [OwnerStage.fits] using hvalid
      rw [hexpired]
      rfl
    · exact hvalid
  · obtain ⟨rfl, rfl⟩ | ⟨rfl, rfl⟩ := hnext
    · exact fun _ => rfl
    · exact id
  · obtain ⟨rfl, rfl⟩ | ⟨rfl, rfl⟩ := hnext <;> cases hu
  · rw [hanswered] at hno
    cases hno
  · obtain heq | hmem := List.mem_cons.mp hmem
    · cases heq
    · exact hmem
  · refine h.history.cons (fun _ hno => by cases hno) (fun id result' heq => ?_)
      (fun _ _ _ hno => by cases hno) (fun _ _ hno => by cases hno) fun _ _ hno => by cases hno
    cases heq
    exact hat.unanswered hunanswered

omit [DecidableEq τ] in
theorem Inv.dispatching (h : Inv s) (howner : s.owner = .dispatching cmd) :
    Inv { s with toShared :=
      (s.toShared.note (.executed cmd.requestId)).setOwner (.executing cmd) } := by
  have hstage : s.owner.stage = some (cmd, .dispatching) := by rw [howner]; rfl
  obtain ⟨t, hhold, hcmd, state, hj, hat⟩ := h.owned_at hstage (by simp)
  refine h.move hstage hhold hcmd (((Frame.refl _ _).note rfl).setOwner hstage
    (Or.inr ⟨_, rfl⟩)) (j := .owned .executing state) (Part.allows_next hj (by simp))
    (hat.change rfl (List.subset_cons_self _ _) hat.valid hat.word hat.signal rfl
      (Or.inr ⟨rfl, fun hno => by cases hno⟩) (fun hno => by cases hno) (fun _ => ⟨rfl, ?_⟩)
      (fun hno => by cases hno) fun _ hno => by simp at hno) (Or.inr ⟨_, rfl⟩) rfl
    (fun id outcome hmem => ?_) ?_
  · intro result hmem
    obtain heq | hmem := List.mem_cons.mp hmem
    · cases heq
    · exact hmem
  · obtain heq | hmem := List.mem_cons.mp hmem
    · cases heq
    · exact hmem
  · refine h.history.cons (fun id heq => ?_) (fun _ _ hno => by cases hno)
      (fun _ _ _ hno => by cases hno) (fun _ _ hno => by cases hno) fun _ _ hno => by cases hno
    cases heq
    refine ⟨hat.unexecuted rfl, fun ret hmem => ?_⟩
    rw [← hcmd] at hmem
    exact h.notReturned (Part.active_of_holds hhold) _ hmem

omit [DecidableEq τ] in
theorem Inv.copying (h : Inv s) (howner : s.owner = .copying cmd) {kind : CredentialKind}
    {secret : List UInt8}
    (htake : ((s.slots cmd.slot).authority.get kind).take kind = some secret) :
    Inv { s with toShared :=
      (s.toShared.note (.handedOut cmd.requestId kind secret)).setOwner (.takeWiping cmd) } := by
  have hstage : s.owner.stage = some (cmd, .executing) := by rw [howner]; rfl
  obtain ⟨t, hhold, hcmd, state, hj, hat⟩ := h.owned_at hstage (by simp)
  refine h.move hstage hhold hcmd (((Frame.refl _ _).note rfl).setOwner hstage
    (Or.inr ⟨_, rfl⟩)) (j := .owned .executing state) (Part.allows_next hj (by simp))
    (hat.change rfl (List.subset_cons_self _ _) hat.valid hat.word hat.signal rfl
      (Or.inr ⟨rfl, fun hno => by cases hno⟩) (fun hno => by cases hno) (fun _ => ⟨rfl, ?_⟩)
      (fun hno => by cases hno) fun _ hno => by simp at hno) (Or.inr ⟨_, rfl⟩) rfl
    (fun id outcome hmem => ?_) ?_
  · intro result hmem
    obtain heq | hmem := List.mem_cons.mp hmem
    · cases heq
    · exact hmem
  · obtain heq | hmem := List.mem_cons.mp hmem
    · cases heq
    · exact hmem
  · refine h.history.cons (fun _ hno => by cases hno) (fun _ _ hno => by cases hno)
      (fun id kind' secret' heq => ?_) (fun _ _ hno => by cases hno) fun _ _ hno => by cases hno
    cases heq
    exact hat.own kind secret htake

omit [DecidableEq τ] in
theorem Inv.completing (h : Inv s) (howner : s.owner = .completing cmd) :
    (s.slots cmd.slot).word = ⟨cmd.requestId, .admitted⟩ ∧
    Inv { s with toShared :=
      (s.toShared.withWord cmd.slot ⟨cmd.requestId, .completed⟩).setOwner (.giving cmd) } := by
  have hstage : s.owner.stage = some (cmd, .completing) := by rw [howner]; rfl
  obtain ⟨t, hhold, hcmd, state, hj, hat⟩ := h.owned_at hstage (by simp)
  have hadmitted : state = .admitted := by simpa [Journey.valid, OwnerStage.fits] using hat.valid
  subst hadmitted
  exact ⟨hat.word, h.moveOn hstage hhold hcmd hat rfl (Part.allows_next hj (by simp))
    (hat.moveOn rfl rfl rfl rfl (Or.inr ⟨rfl, fun _ => rfl⟩) (fun hno => by cases hno) rfl rfl)⟩

omit [DecidableEq τ] in
theorem Inv.giving (h : Inv s) (howner : s.owner = .giving cmd) :
    Inv { s with toShared := ((s.toShared.withSignal cmd.slot true).note
      (.signalled cmd.requestId)).setOwner .idle } := by
  have hstage : s.owner.stage = some (cmd, .giving) := by rw [howner]; rfl
  obtain ⟨t, hhold, hcmd, state, hj, hat⟩ := h.owned_at hstage (by simp)
  have hheld : (s.slots cmd.slot).word.id = cmd.requestId := congrArg GuardWord.id hat.word
  refine h.move hstage hhold hcmd (((Frame.setSlot (Or.inr hheld) _).note rfl).setOwner hstage
    (Or.inl rfl)) (j := .given state) (Part.allows_given hj)
    (hat.change (Shared.slots_setSlot _ _ _) (List.subset_cons_self _ _) hat.valid hat.word rfl
      ?_ (Or.inr ⟨rfl, fun _ => rfl⟩) (fun hno => by cases hno) (fun hno => by cases hno)
      (fun _ => List.mem_cons_of_mem _ (hat.answered rfl)) fun _ _ => List.mem_cons_self)
    (Or.inl rfl) rfl (fun id outcome hmem => ?_) ?_
  · intro other hother hid
    exact h.not_queued hstage hid hother
  · obtain heq | hmem := List.mem_cons.mp hmem
    · cases heq
    · exact hmem
  · exact h.history.cons (fun _ hno => by cases hno) (fun _ _ hno => by cases hno)
      (fun _ _ _ hno => by cases hno) (fun _ _ hno => by cases hno) fun _ _ hno => by cases hno

end Moves

omit [DecidableEq τ] in
theorem Inv.ownerLooking (h : Inv s) {look : OwnerLook} (howner : s.owner = .looking look cmd) :
    Inv { s with toShared :=
      s.toShared.setOwner (look.next cmd (s.slots cmd.slot).word) } := by
  have hstage : s.owner.stage = some (cmd, look.stage) := by rw [howner]; rfl
  have hsame : ∀ owner : Owner, owner.stage = some (cmd, look.stage) →
      Inv { s with toShared := s.toShared.setOwner owner } := fun owner ho =>
    h.sameStage (ho.trans hstage.symm)
  by_cases hfirst : look = .admitSlot
  · subst hfirst
    unfold OwnerLook.next
    dsimp only
    split_ifs with hfound
    · exact hsame _ rfl
    · apply h.drop hstage
      intro hword
      obtain ⟨t, hhold, hcmd, _⟩ := h.considered_at hstage hword
      have hne := (h.known t (Part.active_of_holds hhold)).1
      rw [hcmd] at hne
      exact hfound (by simp [guardMatches, hword, hne])
  · have hlate : look.stage ≠ .considering := by
      cases look <;> first | exact absurd rfl hfirst | simp [OwnerLook.stage]
    obtain ⟨t, hhold, hcmd, state, _, hat⟩ := h.owned_at hstage hlate
    have hfound := h.found hhold
    rw [hcmd] at hfound
    have hadmitted : (s.slots cmd.slot).word.state = .admitted := by
      have hvalid : look.stage.fits state = true := hat.valid
      rw [hat.word]
      change state = .admitted
      cases look <;>
        first | exact absurd rfl hfirst | simpa [OwnerLook.stage, OwnerStage.fits] using hvalid
    apply hsame
    cases look <;> simp only [OwnerLook.next, hfound, hadmitted, if_true] <;> rfl

omit [DecidableEq τ] in
theorem Inv.work (h : Inv s) (due takes : Bool) (ret : EspErr) :
    Inv { s with toShared := s.toShared.work due takes ret } := by
  unfold Shared.work
  cases howner : s.owner <;> dsimp only
  case idle =>
    cases hqueue : s.queue with
    | nil => exact h
    | cons cmd queue => exact h.dequeue howner hqueue
  case looking look cmd => exact h.ownerLooking howner
  case checkingDeadline cmd =>
    apply h.sameStage
    rw [howner]
    split_ifs <;> rfl
  case expiring cmd =>
    split_ifs with hword
    · exact h.expiring howner hword
    · apply h.sameStage
      rw [howner]
      rfl
  case expireWiping cmd =>
    exact h.ownerWiping (by rw [howner]; rfl) rfl (Or.inl ⟨rfl, rfl⟩)
  case expireResult cmd =>
    exact h.answering (by rw [howner]; rfl) rfl _ (Or.inl ⟨rfl, rfl⟩)
  case admitting cmd =>
    split_ifs with hword
    · exact h.admitting howner hword
    · exact h.drop (by rw [howner]; rfl) hword
  case dispatching cmd => exact h.dispatching howner
  case executing cmd =>
    apply h.sameStage
    rw [howner]
    split_ifs <;> rfl
  case copying cmd =>
    have hstay : ∀ owner : Owner, owner.stage = some (cmd, .executing) →
        Inv { s with toShared := s.toShared.setOwner owner } := fun owner ho =>
      h.sameStage (by rw [ho, howner]; rfl)
    cases cmd.credential with
    | none => exact hstay _ rfl
    | some kind =>
      dsimp only
      split
      · exact h.copying howner ‹_›
      · exact hstay _ rfl
  case takeWiping cmd =>
    exact h.ownerWiping (by rw [howner]; rfl) rfl (Or.inr (Or.inl ⟨rfl, rfl⟩))
  case completeResult cmd result =>
    exact h.answering (by rw [howner]; rfl) rfl _ (Or.inr ⟨rfl, rfl⟩)
  case completeWiping cmd =>
    exact h.ownerWiping (by rw [howner]; rfl) rfl (Or.inr (Or.inr ⟨rfl, rfl⟩))
  case completing cmd =>
    obtain ⟨hword, hnext⟩ := h.completing howner
    rw [if_pos hword]
    exact hnext
  case giving cmd => exact h.giving howner

end Owner

theorem Inv.step (h : Inv s) (act : Act τ) : Inv (step s act) := by
  cases act with
  | call t credential secret =>
    rw [MeshRequest.step]
    split_ifs with hidle
    · exact h.call hidle credential secret
    · exact h
  | advance t late => exact h.advance late
  | work due takes ret => exact h.work due takes ret

omit [DecidableEq τ] in
theorem inv_boot : Inv (boot : System τ) := by
  refine ⟨?_, ?_, ?_, ?_, ?_, ?_, ?_, ?_, ?_, fun _ => Or.inl ⟨rfl, rfl, rfl⟩, ?_, ?_⟩
  · intro _ hno
    cases hno
  · intro _ hno
    cases hno
  · intro _ hno
    cases hno
  · intro _ _ hno
    cases hno
  · exact List.nodup_nil
  · intro _ hno
    cases hno
  · intro _ hno
    cases hno
  · intro _ _ hno
    cases hno
  · intro _ _ hno
    cases hno
  · intro _ _ hno
    cases hno
  · refine ⟨fun _ => Nat.zero_le _, ?_, ?_, ?_, ?_⟩ <;> intro _ _ <;> intros <;> contradiction

end Sigui.MeshRequest

import Sigui.RadioTerminalInv

/-! What every step keeps of the ledger of operations. -/
namespace Sigui.RadioTerminal

variable {ι : Type} {s s' : State ι} {i j : Identity}

def Note.quiet : Note → Prop
  | .latched _ _ | .taken _ => True
  | _ => False

theorem began_of_quiet {new log : List Note} (hnew : ∀ n ∈ new, n.quiet)
    (h : .began i ∈ new ++ log) : .began i ∈ log := by
  rcases List.mem_append.mp h with h | h
  · exact (hnew _ h).elim
  · exact h

theorem accepted_of_quiet {new log : List Note} (hnew : ∀ n ∈ new, n.quiet)
    (h : .accepted i ∈ new ++ log) : .accepted i ∈ log := by
  rcases List.mem_append.mp h with h | h
  · exact (hnew _ h).elim
  · exact h

structure Calm (s s' : State ι) : Prop where
  next : s'.nextRadioTxOperationId = s.nextRadioTxOperationId
  active : s'.activeRadioTx = s.activeRadioTx ∨ s'.activeRadioTx = .zero
  publishes : ∀ i, s'.owner.publishes = some i → s.owner.publishes = some i
  log : ∃ new, s'.log = new ++ s.log ∧ ∀ n ∈ new, n.quiet

theorem Ledger.calm (h : Ledger s) (hs : Calm s s') : Ledger s' := by
  obtain ⟨new, hlog, hnew⟩ := hs.log
  have hbegan : ∀ i, .began i ∈ s'.log → .began i ∈ s.log :=
    fun i hi => began_of_quiet hnew (hlog ▸ hi)
  have hbegan' : ∀ i, .began i ∈ s.log → .began i ∈ s'.log :=
    fun i hi => hlog ▸ List.mem_append_right _ hi
  have haccepted : ∀ i, .accepted i ∈ s'.log → .accepted i ∈ s.log :=
    fun i hi => accepted_of_quiet hnew (hlog ▸ hi)
  have hactive : s'.activeRadioTx.valid = true → s'.activeRadioTx = s.activeRadioTx := by
    intro hvalid
    rcases hs.active with hsame | hzero
    · exact hsame
    · rw [hzero] at hvalid
      cases hvalid
  refine ⟨hs.next ▸ h.nextBound, ?_, ?_, ?_, ?_, ?_, ?_, ?_⟩
  · intro i hi
    exact hs.next ▸ h.began i (hbegan i hi)
  · intro i j hi hj
    exact h.unique i j (hbegan i hi) (hbegan j hj)
  · intro hvalid
    have hsame := hactive hvalid
    rw [hsame] at hvalid ⊢
    obtain ⟨hmem, hid⟩ := h.active hvalid
    exact ⟨hbegan' _ hmem, hid.trans hs.next.symm⟩
  · intro i hi
    obtain ⟨hmem, hid⟩ := h.publishing i (hs.publishes i hi)
    exact ⟨hbegan' _ hmem, hid.trans hs.next.symm⟩
  · intro i hi
    exact hbegan' i (h.accepted i (haccepted i hi))
  · intro hvalid hmem
    have hsame := hactive hvalid
    rw [hsame] at hvalid hmem
    exact h.open_ hvalid (haccepted _ hmem)
  · intro i
    have hzero : new.count (.accepted i) = 0 :=
      List.count_eq_zero.mpr fun hmem => (hnew _ hmem).elim
    rw [hlog, List.count_append, hzero, Nat.zero_add]
    exact h.once i

theorem Calm.refl (s : State ι) : Calm s s := ⟨rfl, .inl rfl, fun _ h => h, [], rfl, nofun⟩

theorem Calm.goesOn (hnext : s'.nextRadioTxOperationId = s.nextRadioTxOperationId)
    (hactive : s'.activeRadioTx = s.activeRadioTx) (hlog : s'.log = s.log)
    (hpublishes : ∀ i, s'.owner.publishes = some i → s.owner.publishes = some i) : Calm s s' :=
  ⟨hnext, .inl hactive, hpublishes, [], hlog, nofun⟩

theorem calm_scanOn (s : State ι) (scan : Scan) : Calm s (s.scanOn scan) := by
  unfold State.scanOn
  split
  · exact .goesOn rfl rfl rfl nofun
  · split
    · exact .goesOn rfl rfl rfl nofun
    · split
      · exact .goesOn rfl rfl rfl nofun
      · refine ⟨rfl, .inl rfl, nofun, [_], rfl, ?_⟩
        intro n hn
        rw [List.mem_singleton.mp hn]
        trivial

theorem calm_scanCapture (s : State ι) (slot : SlotIndex) (scan : Scan) (outcome : Outcome)
    (capture : Capture) : Calm s (s.scanCapture slot scan outcome capture) := by
  cases capture with
  | reading reader => exact .goesOn rfl rfl rfl nofun
  | failed => exact calm_scanOn s scan
  | captured identity =>
    unfold State.scanCapture
    dsimp only
    split
    · split
      · exact calm_scanOn s scan
      · exact .goesOn rfl rfl rfl nofun
    · exact .goesOn rfl rfl rfl nofun

theorem calm_own (s : State ι) : Calm s s.own := by
  unfold State.own
  cases howner : s.owner with
  | idle => exact .refl s
  | loadingSequence identity =>
    exact .goesOn rfl rfl rfl fun i hi => by rw [howner]; exact hi
  | storingOdd identity sequence =>
    exact .goesOn rfl rfl rfl fun i hi => by rw [howner]; exact hi
  | storingWord identity sequence n =>
    refine .goesOn rfl rfl rfl fun i hi => ?_
    rw [howner]
    dsimp only [State.setOwner] at hi
    split_ifs at hi <;> exact hi
  | clearingTimeLow identity sequence =>
    exact .goesOn rfl rfl rfl fun i hi => by rw [howner]; exact hi
  | clearingTimeHigh identity sequence =>
    exact .goesOn rfl rfl rfl fun i hi => by rw [howner]; exact hi
  | clearingTerminal identity sequence =>
    exact .goesOn rfl rfl rfl fun i hi => by rw [howner]; exact hi
  | storingEven identity sequence => exact .goesOn rfl rfl rfl nofun
  | takingPending =>
    have h := calm_scanOn { s with terminalLane := (Runtime.takePending s.terminalLane).1 }
      ⟨State.slotsOf (Runtime.takePending s.terminalLane).2,
        State.slotsOf (Runtime.takePending s.terminalLane).2, false, none⟩
    exact ⟨h.next, h.active, h.publishes, h.log⟩
  | inspecting slot scan =>
    dsimp only
    split
    · exact calm_scanOn s _
    · exact calm_scanOn s _
    · exact .goesOn rfl rfl rfl nofun
    · exact .goesOn rfl rfl rfl nofun
  | loadingOrigin slot scan outcome => exact calm_scanCapture s slot scan outcome _
  | capturing slot scan outcome reader => exact calm_scanCapture s slot scan outcome _
  | loadingTimeLow slot scan outcome identity => exact .goesOn rfl rfl rfl nofun
  | loadingTimeHigh slot scan outcome identity timeLow => exact calm_scanOn s _
  | republishing slots =>
    cases slots with
    | nil => exact .goesOn rfl rfl rfl nofun
    | cons slot rest => exact .goesOn rfl rfl rfl nofun

theorem calm_callBack [DecidableEq ι] (s : State ι) (c : ι) (nowUs : Nat) : Calm s (s.callBack c nowUs) := by
  unfold State.callBack
  cases s.callbacks c with
  | idle => exact .refl s
  | capturing outcome reader => exact .goesOn rfl rfl rfl fun _ hi => hi
  | publishingSlot outcome identity => exact .goesOn rfl rfl rfl fun _ hi => hi
  | claiming outcome identity =>
    dsimp only
    split_ifs <;> exact .goesOn rfl rfl rfl fun _ hi => hi
  | writingTimeLow outcome identity nowUs => exact .goesOn rfl rfl rfl fun _ hi => hi
  | writingTimeHigh outcome identity nowUs => exact .goesOn rfl rfl rfl fun _ hi => hi
  | writingOutcome outcome identity =>
    refine ⟨rfl, .inl rfl, fun _ hi => hi, [.latched identity outcome], rfl, ?_⟩
    intro n hn
    rw [List.mem_singleton.mp hn]
    trivial

theorem Ledger.new (h : Ledger s) (hid : i.operationId = s.nextRadioTxOperationId + 1) :
    .began i ∉ s.log := by
  intro hmem
  have hle := (h.began i hmem).2
  omega

/-- What a call of `begin` does: nothing, or it burns an operation id, or it begins the operation
with that id. -/
inductive Begun (s : State ι) : State ι → Prop
  | refused : Begun s s
  | burnt (active : Identity) (hnext : s.nextRadioTxOperationId < uint32Max)
      (hidle : s.activeRadioTx.valid = false)
      (hactive : active = s.activeRadioTx ∨ active = .zero) :
      Begun s { s with
        nextRadioTxOperationId := s.nextRadioTxOperationId + 1, activeRadioTx := active }
  | began (identity : Identity) (hnext : s.nextRadioTxOperationId < uint32Max)
      (hid : identity.operationId = s.nextRadioTxOperationId + 1)
      (hvalid : identity.valid = true) :
      Begun s (({ s with
        nextRadioTxOperationId := s.nextRadioTxOperationId + 1, activeRadioTx := identity
        }.note (.began identity)).setOwner (.loadingSequence identity))

theorem beginIdentity_id {id : Nat} {kind : OperationKind} {delivery : Option Delivery}
    (h : State.beginIdentity id kind delivery = some i) : i.operationId = id := by
  unfold State.beginIdentity at h
  split_ifs at h with hdm
  · split at h
    · split_ifs at h
      cases h
      rfl
    · cases h
  · cases h
    rfl

theorem begun_begin (hs : s.nextRadioTxOperationId ≤ uint32Max) (kind : OperationKind)
    (delivery : Option Delivery) (armed : Bool) : Begun s (s.begin kind delivery armed) := by
  unfold State.begin
  by_cases hguard : (s.activeRadioTx.valid || decide (s.nextRadioTxOperationId = uint32Max)) = true
  · rw [if_pos hguard]
    exact .refused
  rw [if_neg hguard]
  rw [Bool.or_eq_true, not_or, Bool.not_eq_true, decide_eq_true_eq] at hguard
  obtain ⟨hidle, hnext⟩ := hguard
  have hlt : s.nextRadioTxOperationId < uint32Max := by omega
  dsimp only
  cases hidentity : State.beginIdentity (s.nextRadioTxOperationId + 1) kind delivery with
  | none => exact .burnt s.activeRadioTx hlt hidle (.inl rfl)
  | some identity =>
    dsimp only
    by_cases hvalid : identity.valid = true
    · rw [if_pos hvalid]
      split_ifs
      · exact .began identity hlt (beginIdentity_id hidentity) hvalid
      · exact .burnt .zero hlt hidle (.inr rfl)
    · rw [if_neg hvalid]
      exact .burnt s.activeRadioTx hlt hidle (.inl rfl)

theorem Ledger.begun (h : Ledger s) (howner : s.owner = .idle) (hs : Begun s s') : Ledger s' := by
  cases hs with
  | refused => exact h
  | burnt active hnext hidle hactive =>
    have hinvalid : active.valid = false := by
      rcases hactive with rfl | rfl
      · exact hidle
      · rfl
    refine ⟨hnext, ?_, h.unique, ?_, ?_, h.accepted, ?_, h.once⟩
    · intro i hi
      obtain ⟨hvalid, hle⟩ := h.began i hi
      exact ⟨hvalid, Nat.le_succ_of_le hle⟩
    · intro hvalid
      exact absurd (hinvalid.symm.trans hvalid) Bool.false_ne_true
    · intro i hi
      rw [show _ = s.owner from rfl, howner] at hi
      cases hi
    · intro hvalid
      exact absurd (hinvalid.symm.trans hvalid) Bool.false_ne_true
  | began identity hnext hid hvalid =>
    have hnew := h.new hid
    have hmem : ∀ i, .began i ∈ Note.began identity :: s.log →
        i = identity ∨ .began i ∈ s.log := by
      intro i hi
      rcases List.mem_cons.mp hi with heq | hi
      · cases heq
        exact .inl rfl
      · exact .inr hi
    have hlt : ∀ i, .began i ∈ s.log → i.operationId ≠ identity.operationId := by
      intro i hi
      have hle := (h.began i hi).2
      omega
    refine ⟨hnext, ?_, ?_, ?_, ?_, ?_, ?_, ?_⟩
    · intro i hi
      rcases hmem i hi with rfl | hi
      · exact ⟨hvalid, hid.le⟩
      · exact ⟨(h.began i hi).1, Nat.le_succ_of_le (h.began i hi).2⟩
    · intro i j hi hj hij
      rcases hmem i hi with hi | hi <;> rcases hmem j hj with hj | hj
      · exact hi.trans hj.symm
      · exact absurd (hij.symm.trans (congrArg _ hi)) (hlt j hj)
      · exact absurd (hij.trans (congrArg _ hj)) (hlt i hi)
      · exact h.unique i j hi hj hij
    · intro _
      exact ⟨List.mem_cons_self, hid⟩
    · intro i hi
      cases hi
      exact ⟨List.mem_cons_self, hid⟩
    · intro i hi
      rcases List.mem_cons.mp hi with heq | hi
      · cases heq
      · exact List.mem_cons_of_mem _ (h.accepted i hi)
    · intro _ hi
      rcases List.mem_cons.mp hi with heq | hi
      · cases heq
      · exact hnew (h.accepted identity hi)
    · intro i
      have hne : Note.began identity ≠ .accepted i := fun heq => by cases heq
      exact (List.count_cons_of_ne hne).trans_le (h.once i)

theorem equal_iff : i.equal j = true ↔ i.valid = true ∧ i = j := by
  rw [Identity.equal, Bool.and_eq_true, Bool.and_eq_true, decide_eq_true_eq]
  constructor
  · rintro ⟨⟨hvalid, _⟩, heq⟩
    exact ⟨hvalid, heq⟩
  · rintro ⟨hvalid, rfl⟩
    exact ⟨⟨hvalid, hvalid⟩, rfl⟩

theorem terminalMatches_active {event : Event} {delivery : Delivery}
    (h : s.terminalMatches event delivery = true) :
    s.activeRadioTx.valid = true ∧ event.operation = s.activeRadioTx := by
  unfold State.terminalMatches at h
  split_ifs at h with hequal
  all_goals
    obtain ⟨hvalid, heq⟩ := equal_iff.mp hequal
    exact ⟨heq ▸ hvalid, heq⟩

theorem Ledger.handle (h : Ledger s) (howner : s.owner = .idle) (event : Event)
    (delivery : Delivery) : Ledger (s.handle event delivery) := by
  unfold State.handle
  split_ifs with hmatch
  · obtain ⟨hvalid, hactive⟩ := terminalMatches_active hmatch
    obtain ⟨hbegan, hid⟩ := h.active hvalid
    have hfresh := h.open_ hvalid
    rw [← hactive] at hbegan hfresh
    have hmem : ∀ i, .began i ∈ Note.accepted event.operation :: s.log → .began i ∈ s.log := by
      intro i hi
      rcases List.mem_cons.mp hi with heq | hi
      · cases heq
      · exact hi
    refine ⟨h.nextBound, fun i hi => h.began i (hmem i hi),
      fun i j hi hj => h.unique i j (hmem i hi) (hmem j hj), nofun, ?_, ?_, nofun, ?_⟩
    · intro i hi
      rw [show (s.note _).clear.owner = s.owner from rfl, howner] at hi
      cases hi
    · intro i hi
      rcases List.mem_cons.mp hi with heq | hi
      · cases heq
        exact List.mem_cons_of_mem _ hbegan
      · exact List.mem_cons_of_mem _ (h.accepted i hi)
    · intro i
      by_cases hi : i = event.operation
      · rw [hi]
        exact (List.count_cons_self.trans (by rw [List.count_eq_zero.mpr hfresh])).le
      · refine (List.count_cons_of_ne ?_).trans_le (h.once i)
        intro heq
        cases heq
        exact hi rfl
  · exact h

theorem Owner.isIdle_iff {o : Owner} : o.isIdle = true ↔ o = .idle := by
  cases o <;> simp [Owner.isIdle]

theorem Ledger.step [DecidableEq ι] (h : Ledger s) (act : Act ι) : Ledger (step s act) := by
  cases act with
  | begin kind delivery armed =>
    unfold RadioTerminal.step
    dsimp only
    split_ifs with hidle
    · exact h.begun (Owner.isIdle_iff.mp hidle) (begun_begin h.nextBound _ _ _)
    · exact h
  | handle event delivery =>
    unfold RadioTerminal.step
    dsimp only
    split_ifs with hidle
    · exact h.handle (Owner.isIdle_iff.mp hidle) event delivery
    · exact h
  | clear =>
    unfold RadioTerminal.step
    dsimp only
    split_ifs
    · exact h.calm ⟨rfl, .inr rfl, fun _ hi => hi, [], rfl, nofun⟩
    · exact h
  | take =>
    unfold RadioTerminal.step
    dsimp only
    split_ifs
    · exact h.calm (.goesOn rfl rfl rfl nofun)
    · exact h
  | reserve =>
    unfold RadioTerminal.step
    dsimp only
    split_ifs
    · exact h.calm (.goesOn rfl rfl rfl fun _ hi => hi)
    · exact h
  | release =>
    unfold RadioTerminal.step
    dsimp only
    split_ifs
    · exact h.calm (.goesOn rfl rfl rfl fun _ hi => hi)
    · exact h
  | own => exact h.calm (calm_own s)
  | start c outcome origin =>
    unfold RadioTerminal.step
    dsimp only
    split_ifs
    · exact h.calm (.goesOn rfl rfl rfl fun _ hi => hi)
    · exact h
  | callBack c nowUs => exact h.calm (calm_callBack s c nowUs)

end Sigui.RadioTerminal

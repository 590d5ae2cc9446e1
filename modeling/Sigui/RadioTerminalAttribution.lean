import Sigui.RadioTerminalRuns

/-! The terminals are attributed to their operations in every run that releases its slots, and a
run in which one is hidden. -/
namespace Sigui.RadioTerminal

variable {ι : Type} [DecidableEq ι] {s s' : State ι} {i j : Identity}

section Finish

/-- The callback `c` works for the operation `i`, or someone has claimed its terminal. -/
def Serving (s : State ι) (c : ι) (i : Identity) : Prop :=
  (∃ outcome r, s.callbacks c = .capturing outcome r ∧ r.origin = i.operationId ∧
    (r.place ≠ .before → r.before = (s.history (slotOf i.operationId)).sequence)) ∨
  (s.callbacks c).identity = some i ∨
  (s.history (slotOf i.operationId)).terminalState ≠ .none

omit [DecidableEq ι] in
theorem Serving.frame {c : ι} (h : Serving s c i) (hc : s'.callbacks c = s.callbacks c)
    (hsequence : (s'.history (slotOf i.operationId)).sequence =
      (s.history (slotOf i.operationId)).sequence)
    (hstate : (s.history (slotOf i.operationId)).terminalState ≠ .none →
      (s'.history (slotOf i.operationId)).terminalState ≠ .none) : Serving s' c i := by
  rcases h with ⟨outcome, r, hr, horigin, hexact⟩ | hidentity | hclaimed
  · exact .inl ⟨outcome, r, hc.trans hr, horigin, hsequence ▸ hexact⟩
  · exact .inr (.inl (hc.symm ▸ hidentity))
  · exact .inr (.inr (hstate hclaimed))

theorem callBack_keeps (s : State ι) (d : ι) (nowUs : Nat) :
    (s.callBack d nowUs).owner = s.owner ∧
      (s.callBack d nowUs).activeRadioTx = s.activeRadioTx ∧
      (∀ c ≠ d, (s.callBack d nowUs).callbacks c = s.callbacks c) ∧
      ∀ k, ((s.callBack d nowUs).history k).sequence = (s.history k).sequence ∧
        ((s.history k).terminalState ≠ .none →
          ((s.callBack d nowUs).history k).terminalState ≠ .none) := by
  have hcallbacks : ∀ callback, ∀ c ≠ d,
      Function.update s.callbacks d callback c = s.callbacks c :=
    fun _ _ hc => Function.update_of_ne hc ..
  unfold State.callBack
  cases s.callbacks d with
  | idle => exact ⟨rfl, rfl, fun _ _ => rfl, fun _ => ⟨rfl, id⟩⟩
  | capturing | publishingSlot => exact ⟨rfl, rfl, hcallbacks _, fun _ => ⟨rfl, id⟩⟩
  | claiming outcome identity =>
    dsimp only
    split_ifs with hnone
    · refine ⟨rfl, rfl, hcallbacks _, fun k => ⟨setSlot_field Snapshot.sequence (by rfl) k, ?_⟩⟩
      intro hk
      by_cases hslot : k = slotOf identity.operationId
      · exact absurd hnone (hslot ▸ hk)
      · exact fun h => hk ((congrArg Snapshot.terminalState (setSlot_other hslot)).symm.trans h)
    · exact ⟨rfl, rfl, hcallbacks _, fun _ => ⟨rfl, id⟩⟩
  | writingTimeLow outcome identity nowUs | writingTimeHigh outcome identity nowUs =>
    refine ⟨rfl, rfl, hcallbacks _, fun k => ⟨setSlot_field Snapshot.sequence (by rfl) k, ?_⟩⟩
    exact fun hk h => hk ((setSlot_field Snapshot.terminalState (by rfl) k).symm.trans h)
  | writingOutcome outcome identity =>
    refine ⟨rfl, rfl, hcallbacks _, fun k => ⟨setSlot_field Snapshot.sequence (by rfl) k, ?_⟩⟩
    intro hk h
    by_cases hslot : k = slotOf identity.operationId
    · rw [hslot] at h
      have houtcome := (congrArg Snapshot.terminalState setSlot_self).symm.trans h
      cases outcome <;> cases houtcome
    · exact hk ((congrArg Snapshot.terminalState (setSlot_other hslot)).symm.trans h)

theorem Serving.callBack {c : ι} (h : Serving s c i) (hs : Sound s) (hi : Holds s i)
    (nowUs : Nat) : Serving (s.callBack c nowUs) c i := by
  obtain ⟨hvalid, hle⟩ := hs.ledger.began i hi.began
  have hbound : i.operationId ≤ uint32Max := hle.trans hs.ledger.nextBound
  obtain ⟨-, -, -, hhistory⟩ := callBack_keeps s c nowUs
  rcases h with ⟨outcome, r, hr, horigin, hexact⟩ | hidentity | hclaimed
  · have hfits := hs.snapshots.reader c outcome r hr
    rw [horigin] at hfits
    have heven := hs.snapshots.even _ hi.settled
    unfold State.callBack
    rw [hr]
    dsimp only
    rw [horigin]
    rcases Reader.step_scan hfits heven hi.words hvalid horigin hexact with
      hstep | ⟨r', hstep, hplace, hbefore⟩
    · rw [hstep]
      refine .inr (.inl ?_)
      rw [setCallback_self, Callback.ofCapture, hvalid, decide_eq_true hbound]
      rfl
    · have horigin' : r'.origin = i.operationId := by
        rcases hfits.step_cases with ⟨r'', hr'', hsame, -⟩ | hfailed | ⟨j, hcaptured, -⟩
        · cases hstep.symm.trans hr''
          exact hsame.trans horigin
        · cases hstep.symm.trans hfailed
        · cases hstep.symm.trans hcaptured
      rw [hstep]
      exact .inl ⟨outcome, r', setCallback_self, horigin', fun _ => hbefore⟩
  · unfold State.callBack
    cases hc : s.callbacks c with
    | publishingSlot outcome identity =>
      rw [hc] at hidentity
      cases hidentity
      exact .inr (.inl (congrArg Callback.identity setCallback_self))
    | claiming outcome identity =>
      rw [hc] at hidentity
      cases hidentity
      dsimp only
      split_ifs with hnone
      · exact .inr (.inl (congrArg Callback.identity setCallback_self))
      · exact .inr (.inr hnone)
    | writingTimeLow outcome identity nowUs | writingTimeHigh outcome identity nowUs =>
      rw [hc] at hidentity
      cases hidentity
      exact .inr (.inl (congrArg Callback.identity setCallback_self))
    | writingOutcome outcome identity =>
      rw [hc] at hidentity
      cases hidentity
      refine .inr (.inr fun h => ?_)
      have houtcome := (congrArg Snapshot.terminalState setSlot_self).symm.trans h
      cases outcome <;> cases houtcome
    | _ =>
      rw [hc] at hidentity
      cases hidentity
  · exact .inr (.inr ((hhistory _).2 hclaimed))

/-- As long as `i` is active, its terminal will come from the callback `c`, or it is claimed. -/
structure Serves (c : ι) (i : Identity) (s : State ι) : Prop where
  sound : Sound s
  known : i.operationId ≤ s.nextRadioTxOperationId
  serving : s.activeRadioTx = i → s.owner.publishes = none ∧ Serving s c i

theorem Serves.step (hvalid : i.valid = true) {c : ι} (h : Serves c i s) {act : Act ι}
    (hreleased : SlotReleased s act) : Serves c i (step s act) := by
  have hsound := h.sound.step hreleased
  have hzero : Identity.zero ≠ i := by
    rintro rfl
    cases hvalid
  -- nothing that the callback `c` sees has changed
  have same : ∀ {s' : State ι}, Sound s' → s'.nextRadioTxOperationId = s.nextRadioTxOperationId →
      (s'.activeRadioTx = i → s.activeRadioTx = i) → (s.owner.publishes = none →
        s'.owner.publishes = none) → s'.callbacks c = s.callbacks c →
      (s.owner.publishes = none → s'.history = s.history) → Serves c i s' := by
    intro s' hs hnext hactive hpublishes hc hhistory
    refine ⟨hs, hnext ▸ h.known, fun hi => ?_⟩
    obtain ⟨hnone, hserving⟩ := h.serving (hactive hi)
    refine ⟨hpublishes hnone, hserving.frame hc ?_ ?_⟩
    · rw [hhistory hnone]
    · rw [hhistory hnone]
      exact id
  cases act with
  | begin kind delivery armed =>
    unfold RadioTerminal.step at hsound ⊢
    dsimp only at hsound ⊢
    split_ifs at hsound ⊢ with hidle
    · have hbegun := begun_begin h.sound.ledger.nextBound kind delivery armed
      generalize s.begin kind delivery armed = s' at hsound hbegun
      cases hbegun with
      | refused => exact h
      | burnt active hnext hinvalid hactive =>
        refine ⟨hsound, Nat.le_succ_of_le h.known, fun hi => ?_⟩
        change active = i at hi
        rcases hactive with hsame | hzero'
        · rw [← hsame, hi, hvalid] at hinvalid
          cases hinvalid
        · exact absurd (hzero'.symm.trans hi) hzero
      | began identity hnext hid hvalid' =>
        refine ⟨hsound, Nat.le_succ_of_le h.known, fun hi => ?_⟩
        change identity = i at hi
        have hknown := h.known
        rw [← hi, hid] at hknown
        omega
    · exact h
  | take =>
    unfold RadioTerminal.step at hsound ⊢
    dsimp only at hsound ⊢
    split_ifs at hsound ⊢
    · exact same hsound rfl id (fun _ => rfl) rfl fun _ => rfl
    · exact h
  | clear =>
    unfold RadioTerminal.step at hsound ⊢
    dsimp only at hsound ⊢
    split_ifs at hsound ⊢
    · exact same hsound rfl (fun hi => absurd hi hzero) id rfl fun _ => rfl
    · exact h
  | handle event delivery =>
    unfold RadioTerminal.step at hsound ⊢
    dsimp only at hsound ⊢
    split_ifs at hsound ⊢
    · unfold State.handle at hsound ⊢
      split_ifs at hsound ⊢
      · exact same hsound rfl (fun hi => absurd hi hzero) id rfl fun _ => rfl
      · exact h
    · exact h
  | reserve | release =>
    unfold RadioTerminal.step at hsound ⊢
    dsimp only at hsound ⊢
    split_ifs at hsound ⊢
    · exact same hsound rfl id id rfl fun _ => rfl
    · exact h
  | own =>
    obtain ⟨hcallbacks, hactive, hhistory⟩ := own_keeps s
    refine same hsound (calm_own s).next (fun hi => hactive.symm.trans hi) (fun hnone => ?_)
      (congrFun hcallbacks c) hhistory
    cases hpublishes : s.own.owner.publishes with
    | none => exact hpublishes
    | some j => exact absurd ((calm_own s).publishes j hpublishes) (by rw [hnone]; nofun)
  | start d outcome origin =>
    unfold RadioTerminal.step at hsound ⊢
    dsimp only at hsound ⊢
    split_ifs at hsound ⊢ with hidle
    · by_cases hcd : c = d
      · refine ⟨hsound, h.known, fun hi => ?_⟩
        obtain ⟨hnone, hserving⟩ := h.serving hi
        refine ⟨hnone, ?_⟩
        have hc := hcd ▸ Callback.isIdle_iff.mp hidle
        rcases hserving with ⟨o, r, hr, -⟩ | hidentity | hclaimed
        · cases hc.symm.trans hr
        · rw [hc] at hidentity
          cases hidentity
        · exact .inr (.inr hclaimed)
      · exact same hsound rfl id id (setCallback_other hcd) fun _ => rfl
    · exact h
  | callBack d nowUs =>
    obtain ⟨howner, hactive, hother, hhistory⟩ := callBack_keeps s d nowUs
    refine ⟨hsound, (calm_callBack s d nowUs).next ▸ h.known, fun hi => ?_⟩
    have hi' := hactive.symm.trans hi
    obtain ⟨hnone, hserving⟩ := h.serving hi'
    refine ⟨(congrArg Owner.publishes howner).trans hnone, ?_⟩
    by_cases hcd : c = d
    · have hholds := h.sound.lane.held (hi'.symm ▸ hvalid) hnone
      rw [hi'] at hholds
      rw [← hcd]
      exact hserving.callBack h.sound hholds nowUs
    · exact hserving.frame (hother c hcd) (hhistory _).1 (hhistory _).2

theorem Sound.latches (h : Sound s) (hvalid : s.activeRadioTx.valid = true)
    (hnone : s.owner.publishes = none) {c : ι} (hc : s.callbacks c = .idle) (outcome : Outcome)
    {later : List (Act ι)}
    (hok : RunOk RadioTerminal.step SlotReleased s
      (.start c outcome s.activeRadioTx.operationId :: later))
    (hactive : (runSteps RadioTerminal.step s
      (.start c outcome s.activeRadioTx.operationId :: later)).activeRadioTx = s.activeRadioTx)
    (hquiet : ∀ d, (runSteps RadioTerminal.step s
      (.start c outcome s.activeRadioTx.operationId :: later)).callbacks d = .idle) :
    ∃ outcome', .latched s.activeRadioTx outcome' ∈ (runSteps RadioTerminal.step s
      (.start c outcome s.activeRadioTx.operationId :: later)).log := by
  obtain ⟨hstart, hlater⟩ := hok
  have hpos : s.activeRadioTx.operationId ≠ 0 := by
    intro hzero
    rw [Identity.valid, hzero] at hvalid
    cases hvalid
  have hserves : Serves c s.activeRadioTx (RadioTerminal.step s
      (.start c outcome s.activeRadioTx.operationId)) := by
    have hsound := h.step hstart
    have hidle : (s.callbacks c).isIdle = true := by rw [hc]; rfl
    unfold RadioTerminal.step at hsound ⊢
    dsimp only at hsound ⊢
    rw [if_pos hidle, startCapture, if_neg hpos] at hsound ⊢
    refine ⟨hsound, (h.ledger.active hvalid).2.le, fun _ => ⟨hnone, .inl ⟨outcome, _,
      setCallback_self, rfl, fun hplace => absurd rfl hplace⟩⟩⟩
  have hrun := run_invariant
    (fun _ _ (hs : Serves c s.activeRadioTx _) hreleased => hs.step hvalid hreleased)
    hlater hserves
  have hend : Serves c s.activeRadioTx (runSteps RadioTerminal.step s
      (.start c outcome s.activeRadioTx.operationId :: later)) := hrun
  generalize runSteps RadioTerminal.step s
    (.start c outcome s.activeRadioTx.operationId :: later) = s' at hactive hquiet hend
  obtain ⟨hnone', hserving⟩ := hend.serving hactive
  have hheld := hend.sound.lane.held (hactive.symm ▸ hvalid) hnone'
  rw [hactive] at hheld
  have hterminal := hend.sound.snapshots.terminal hend.sound.ledger hheld
  have hclaimed : (s'.history (slotOf s.activeRadioTx.operationId)).terminalState ≠ .none := by
    rcases hserving with ⟨o, r, hr, -⟩ | hidentity | hclaimed
    · cases (hquiet c).symm.trans hr
    · rw [hquiet c] at hidentity
      cases hidentity
    · exact hclaimed
  cases hstate : (s'.history (slotOf s.activeRadioTx.operationId)).terminalState with
  | none => exact absurd hstate hclaimed
  | writing =>
    obtain ⟨-, d, hd⟩ := hterminal.writing hstate
    rw [hquiet d] at hd
    cases hd
  | done => exact ⟨.done, hterminal.outcome .done hstate⟩
  | timeout => exact ⟨.timeout, hterminal.outcome .timeout hstate⟩

end Finish

/-- With no callback running, some number of calls up to `bound` returns the terminal that was
latched for the active operation. -/
def Returned (bound : Nat) (s : State ι) : Prop :=
  s.owner = .idle → (∀ c, s.callbacks c = .idle) → s.activeRadioTx.valid = true →
    (∃ outcome, .latched s.activeRadioTx outcome ∈ s.log) →
      ∃ calls ≤ bound, ∃ event, event.operation = s.activeRadioTx ∧
        .taken event ∈ (runSteps step s (takeCalls calls)).log

structure Attributed (bound : Nat) (s : State ι) : Prop where
  ordered : Ordered s.log
  once : ∀ i outcome outcome', .latched i outcome ∈ s.log → .latched i outcome' ∈ s.log →
    outcome = outcome'
  returned : Returned bound s
  matching : ∀ event delivery, s.terminalMatches event delivery = true →
    event.operation = s.activeRadioTx ∧
      event.operation.operationId = s.nextRadioTxOperationId ∧ .accepted event.operation ∉ s.log
  accepted : ∀ i, s.log.count (.accepted i) ≤ 1

theorem Sound.attributed (h : Sound s) : Attributed 1 s where
  ordered := h.snapshots.ordered
  once := h.snapshots.latchedOnce
  returned howner hquiet hvalid hlatched := by
    obtain ⟨outcome, hlatched⟩ := hlatched
    obtain ⟨event, hop, htaken⟩ := h.returns howner hquiet hvalid hlatched
    refine ⟨1, le_rfl, event, hop, ?_⟩
    rw [takeCalls, List.replicate_one, List.flatten_singleton]
    exact htaken
  matching event delivery hmatch := by
    obtain ⟨hvalid, hactive⟩ := terminalMatches_active hmatch
    rw [hactive]
    exact ⟨rfl, (h.ledger.active hvalid).2, h.ledger.open_ hvalid⟩
  accepted := h.ledger.once

instance [Fintype ι] (s : State ι) : ∀ act : Act ι, Decidable (SlotReleased s act)
  | .own =>
    match h : s.owner with
    | .storingOdd i sequence =>
      decidable_of_iff (s.terminalLane.getLsbD (slotOf i.operationId) = false ∧
          ∀ c, ((s.callbacks c).identity.all
            fun j => decide (slotOf j.operationId ≠ slotOf i.operationId)) = true) <| by
        simp only [SlotReleased, h, Owner.storingOdd.injEq, and_imp, Option.all_eq_true,
          decide_eq_true_eq]
        constructor
        · rintro hfree i' sequence' rfl rfl
          exact hfree
        · exact fun hfree => hfree i sequence rfl rfl
    | .idle | .loadingSequence _ | .storingWord .. | .clearingTimeLow .. | .clearingTimeHigh ..
    | .clearingTerminal .. | .storingEven .. | .takingPending | .inspecting .. | .loadingOrigin ..
    | .capturing .. | .loadingTimeLow .. | .loadingTimeHigh .. | .republishing _ =>
      isTrue fun i sequence howner => by cases h.symm.trans howner
  | .begin .. | .take | .clear | .handle .. | .reserve | .release | .start .. | .callBack .. =>
    isTrue trivial

def beginCall : List (Act Unit) := .begin .generic none true :: List.replicate 12 .own

/-- A callback of the operation `origin` from its start to its end. -/
def callbackCall (origin : Nat) : List (Act Unit) :=
  .start () .done origin :: List.replicate 13 (.callBack () 0)

/-- In every run that starts to overwrite a slot only when it is released, the terminals are
attributed, and a callback of the active operation does not end before a terminal is latched. -/
theorem terminals_attributed {acts : List (Act ι)} (h : RunOk step SlotReleased boot acts) :
    Attributed 1 (runSteps step boot acts) ∧
      ∀ c outcome later, (runSteps step boot acts).callbacks c = .idle →
        (runSteps step boot acts).owner = .idle →
        (runSteps step boot acts).activeRadioTx.valid = true →
        let start := .start c outcome (runSteps step boot acts).activeRadioTx.operationId
        let s' := runSteps step (runSteps step boot acts) (start :: later)
        RunOk step SlotReleased (runSteps step boot acts) (start :: later) →
        s'.activeRadioTx = (runSteps step boot acts).activeRadioTx →
        (∀ d, s'.callbacks d = .idle) →
        ∃ outcome', .latched s'.activeRadioTx outcome' ∈ s'.log := by
  have hsound := sound_run h
  refine ⟨hsound.attributed, ?_⟩
  intro c outcome later hc howner hvalid start s' hok hactive hquiet
  rw [hactive]
  exact hsound.latches hvalid (by rw [howner]; rfl) hc outcome hok hactive hquiet

/-- The theorem on a run that begins an operation and on a callback of that operation. -/
theorem terminals_attributed_begin :
    Attributed 1 (runSteps step boot beginCall) ∧
      ∃ outcome, .latched ⟨1, .generic, 0, 0⟩ outcome ∈
        (runSteps step (runSteps step boot beginCall) (callbackCall 1)).log := by
  have hbegin := terminals_attributed (show RunOk step SlotReleased boot beginCall by
    decide +kernel)
  refine ⟨hbegin.1, ?_⟩
  exact hbegin.2 () .done (List.replicate 13 (.callBack () 0))
    (Callback.isIdle_iff.mp (by decide +kernel)) (Owner.isIdle_iff.mp (by decide +kernel))
    (by decide +kernel) (by decide +kernel) (by decide +kernel)
    (fun ⟨⟩ => Callback.isIdle_iff.mp (by decide +kernel))

section Hidden

/-- The bit of a slot whose terminal state was reset is in the lane or with the owner, and no
callback is running. -/
structure Hidden (k : SlotIndex) (s : State ι) : Prop where
  quiet : ∀ c, s.callbacks c = .idle
  none : (s.history k).terminalState = .none
  place : s.bit k = true ∧ (s.owner = .idle ∨ s.owner = .takingPending) ∨
    (∃ slot scan, Scanning s.owner slot scan ∧ k ∈ scan.taken ∧
      (k ∈ scan.rest ∨ scan.incompleteSnapshot = true ∨ s.owner = .inspecting k scan)) ∨
    ∃ slots, s.owner = .republishing slots ∧ (k ∈ slots ∨ s.bit k = true)

variable {k : SlotIndex}

omit [DecidableEq ι] in
theorem hidden_scanOn {scan : Scan} (hquiet : ∀ c, s.callbacks c = .idle)
    (hnone : (s.history k).terminalState = .none) (htaken : k ∈ scan.taken)
    (hahead : k ∈ scan.rest ∨ scan.incompleteSnapshot = true) :
    Hidden k (s.scanOn scan) ∧ (s.scanOn scan).log = s.log := by
  unfold State.scanOn
  split
  · rename_i slot rest hrest
    refine ⟨⟨hquiet, hnone, .inr (.inl ⟨slot, { scan with rest := rest },
      ⟨rfl, rfl, rfl, rfl, nofun⟩, htaken, ?_⟩)⟩, rfl⟩
    rw [hrest] at hahead
    rcases hahead with hin | hincomplete
    · rcases List.mem_cons.mp hin with rfl | hin
      · exact .inr (.inr rfl)
      · exact .inl hin
    · exact .inr (.inl hincomplete)
  · rename_i hrest
    rw [hrest] at hahead
    rw [if_pos (hahead.resolve_left List.not_mem_nil)]
    exact ⟨⟨hquiet, hnone, .inr (.inr ⟨scan.taken, rfl, .inl htaken⟩)⟩, rfl⟩

omit [DecidableEq ι] in
theorem hidden_setOwner {scan : Scan} (hquiet : ∀ c, s.callbacks c = .idle)
    (hnone : (s.history k).terminalState = .none) (htaken : k ∈ scan.taken)
    (hahead : k ∈ scan.rest ∨ scan.incompleteSnapshot = true) {o : Owner} {slot : SlotIndex}
    (ho : Scanning o slot scan) : Hidden k (s.setOwner o) ∧ (s.setOwner o).log = s.log :=
  ⟨⟨hquiet, hnone, .inr (.inl ⟨slot, scan, ho, htaken,
    hahead.elim .inl fun hincomplete => .inr (.inl hincomplete)⟩)⟩, rfl⟩

omit [DecidableEq ι] in
theorem hidden_scanCapture {scan : Scan} {slot : SlotIndex} {outcome : Outcome}
    {capture : Capture} (hquiet : ∀ c, s.callbacks c = .idle)
    (hnone : (s.history k).terminalState = .none) (htaken : k ∈ scan.taken)
    (hahead : k ∈ scan.rest ∨ scan.incompleteSnapshot = true) :
    Hidden k (s.scanCapture slot scan outcome capture) ∧
      (s.scanCapture slot scan outcome capture).log = s.log := by
  cases capture with
  | reading reader =>
    exact hidden_setOwner hquiet hnone htaken hahead ⟨rfl, rfl, rfl, rfl, nofun⟩
  | failed => exact hidden_scanOn hquiet hnone htaken hahead
  | captured identity =>
    unfold State.scanCapture
    dsimp only
    split
    · split_ifs
      · exact hidden_scanOn hquiet hnone htaken hahead
      · exact hidden_setOwner hquiet hnone htaken hahead ⟨rfl, rfl, rfl, rfl, nofun⟩
    · exact hidden_setOwner hquiet hnone htaken hahead ⟨rfl, rfl, rfl, rfl, nofun⟩

omit [DecidableEq ι] in
theorem Hidden.own (h : Hidden k s) : Hidden k s.own ∧ s.own.log = s.log := by
  obtain ⟨hquiet, hnone, hplace⟩ := h
  unfold State.own
  rcases hplace with ⟨hbit, howner | howner⟩ | ⟨slot, scan, hs, htaken, hahead⟩ |
    ⟨slots, howner, hin⟩
  · rw [howner]
    exact ⟨⟨hquiet, hnone, .inl ⟨hbit, .inl howner⟩⟩, rfl⟩
  · rw [howner]
    have hmem : k ∈ State.slotsOf (Runtime.takePending s.terminalLane).2 := by
      rw [mem_slotsOf, Runtime.takePending_snd_getLsbD _ (slot_lt k)]
      exact hbit
    exact hidden_scanOn (s := { s with terminalLane := _ }) hquiet hnone hmem (.inl hmem)
  · have hscan := hs.scans
    cases howner : s.owner with
    | inspecting slot' scan' =>
      rw [howner] at hscan hahead
      cases hscan
      dsimp only
      have hincomplete : Hidden k (s.scanOn { scan with incompleteSnapshot := true }) ∧
          (s.scanOn { scan with incompleteSnapshot := true }).log = s.log :=
        hidden_scanOn hquiet hnone htaken (.inr rfl)
      have hgoes : slot' ≠ k → ∀ outcome,
          Hidden k (s.setOwner (.loadingOrigin slot' scan outcome)) ∧
            (s.setOwner (.loadingOrigin slot' scan outcome)).log = s.log := by
        intro hne outcome
        refine hidden_setOwner hquiet hnone htaken ?_ ⟨rfl, rfl, rfl, rfl, nofun⟩
        rcases hahead with hin | hincomplete | hcur
        · exact .inl hin
        · exact .inr hincomplete
        · cases hcur
          exact absurd rfl hne
      split
      · exact hincomplete
      · exact hincomplete
      · refine hgoes ?_ .done
        rintro rfl
        rename_i hdone
        cases hdone.symm.trans hnone
      · refine hgoes ?_ .timeout
        rintro rfl
        rename_i htimeout
        cases htimeout.symm.trans hnone
    | loadingOrigin slot' scan' outcome =>
      rw [howner] at hscan hahead
      cases hscan
      exact hidden_scanCapture hquiet hnone htaken (hahead.imp_right (Or.resolve_right · nofun))
    | capturing slot' scan' outcome reader =>
      rw [howner] at hscan hahead
      cases hscan
      exact hidden_scanCapture hquiet hnone htaken (hahead.imp_right (Or.resolve_right · nofun))
    | loadingTimeLow slot' scan' outcome identity =>
      rw [howner] at hscan hahead
      cases hscan
      exact hidden_setOwner hquiet hnone htaken (hahead.imp_right (Or.resolve_right · nofun))
        ⟨rfl, rfl, rfl, rfl, nofun⟩
    | loadingTimeHigh slot' scan' outcome identity timeLow =>
      rw [howner] at hscan hahead
      cases hscan
      exact hidden_scanOn hquiet hnone htaken (hahead.imp_right (Or.resolve_right · nofun))
    | _ =>
      rw [howner] at hscan
      cases hscan
  · rw [howner]
    cases slots with
    | nil =>
      exact ⟨⟨hquiet, hnone, .inl ⟨hin.resolve_left List.not_mem_nil, .inl rfl⟩⟩, rfl⟩
    | cons slot rest =>
      have hbit : (s.publishSlot slot).bit k = (s.bit k || decide (slot.val = k.val)) :=
        Runtime.publishSlot_getLsbD s.terminalLane slot (slot_lt k)
      refine ⟨⟨hquiet, hnone, .inr (.inr ⟨rest, rfl, ?_⟩)⟩, rfl⟩
      rcases hin with hin | hset
      · rcases List.mem_cons.mp hin with rfl | hin
        · exact .inr (hbit.trans (by rw [decide_eq_true rfl, Bool.or_true]))
        · exact .inl hin
      · exact .inr (hbit.trans (by rw [hset]; rfl))

theorem Hidden.takes (h : Hidden k s) (calls : Nat) :
    (runSteps step s (takeCalls calls)).log = s.log := by
  have howns : ∀ n, ∀ {s : State ι}, Hidden k s →
      Hidden k (runSteps step s (List.replicate n .own)) ∧
        (runSteps step s (List.replicate n .own)).log = s.log := by
    intro n
    induction n with
    | zero => exact fun h => ⟨h, rfl⟩
    | succ n ih =>
      intro s h
      obtain ⟨hown, hlog⟩ := h.own
      obtain ⟨hrun, hrunLog⟩ := ih hown
      exact ⟨hrun, hrunLog.trans hlog⟩
  have htake : ∀ {s : State ι}, Hidden k s → Hidden k (step s .take) ∧
      (step s .take).log = s.log := by
    intro s h
    unfold step
    dsimp only
    split_ifs with hidle
    · rw [Owner.isIdle_iff] at hidle
      rcases h.place with ⟨hbit, -⟩ | ⟨slot, scan, hs, -⟩ | ⟨slots, howner, -⟩
      · exact ⟨⟨h.quiet, h.none, .inl ⟨hbit, .inr rfl⟩⟩, rfl⟩
      · have hscan := hs.scans
        rw [hidle] at hscan
        cases hscan
      · cases hidle.symm.trans howner
    · exact ⟨h, rfl⟩
  have hcalls : ∀ calls, ∀ {s : State ι}, Hidden k s →
      (runSteps step s (takeCalls calls)).log = s.log := by
    intro calls
    induction calls with
    | zero => exact fun _ => rfl
    | succ calls ih =>
      intro s h
      obtain ⟨hstart, hlog⟩ := htake h
      obtain ⟨hrun, hrunLog⟩ := howns takeSteps hstart
      have hcall : runSteps step s takeCall =
          runSteps step (step s .take) (List.replicate takeSteps .own) := List.foldl_cons ..
      rw [takeCalls, List.replicate_succ, List.flatten_cons, runSteps_append, hcall]
      have hrest := ih hrun
      rw [takeCalls] at hrest
      rw [hrest, hrunLog, hlog]
  exact hcalls calls h

/-- The admissible runs of the counterexample: no operation begins while a callback runs. -/
def NoCallbackRuns (s : State ι) : Act ι → Prop
  | .begin .. => ∀ c, (s.callbacks c).isIdle = true
  | _ => True

instance [Fintype ι] : ∀ (s : State ι) (act : Act ι), Decidable (NoCallbackRuns s act)
  | s, .begin .. => inferInstanceAs (Decidable (∀ c, (s.callbacks c).isIdle = true))
  | _, .take | _, .clear | _, .handle .. | _, .reserve | _, .release | _, .own | _, .start ..
  | _, .callBack .. => isTrue trivial

def Note.isTaken : Note → Bool
  | .taken _ => true
  | _ => false

/-- The terminal of operation 1 is latched and not taken; operation 9 resets its slot; then the
terminal of operation 10 is latched. -/
def hidingRun : List (Act Unit) :=
  beginCall ++ callbackCall 1 ++ [.clear] ++ (List.replicate 8 (beginCall ++ [.clear])).flatten ++
    beginCall ++ callbackCall 10

/-- A latched terminal stays hidden for ever, although no operation begins while a callback runs:
the slot that was reset with its bit set makes every take incomplete. -/
theorem latched_terminal_hidden : ¬ ∃ bound, ∀ acts : List (Act Unit),
    RunOk step NoCallbackRuns boot acts → Attributed bound (runSteps step boot acts) := by
  rintro ⟨bound, h⟩
  have hreturned := (h hidingRun (by decide +kernel)).returned
  have hhidden : Hidden 0 (runSteps step boot hidingRun) :=
    ⟨fun ⟨⟩ => Callback.isIdle_iff.mp (by decide +kernel), by decide +kernel,
      .inl ⟨by decide +kernel, .inl (Owner.isIdle_iff.mp (by decide +kernel))⟩⟩
  obtain ⟨calls, -, event, -, htaken⟩ := hreturned (Owner.isIdle_iff.mp (by decide +kernel))
    hhidden.quiet (by decide +kernel) ⟨.done, by decide +kernel⟩
  rw [hhidden.takes calls] at htaken
  have hnone : (runSteps step boot hidingRun).log.any Note.isTaken = false := by decide +kernel
  exact Bool.false_ne_true (hnone.symm.trans (List.any_eq_true.mpr ⟨_, htaken, rfl⟩))

end Hidden

end Sigui.RadioTerminal

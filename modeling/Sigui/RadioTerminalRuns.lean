import Sigui.RadioTerminalLane

/-! Terminals over whole runs. -/
namespace Sigui.RadioTerminal

variable {ι : Type} [DecidableEq ι] {s s' : State ι} {i j : Identity}

section Sound

structure Sound (s : State ι) : Prop where
  ledger : Ledger s
  snapshots : Snapshots s
  lane : Lane s

theorem Sound.step (h : Sound s) {act : Act ι} (hreleased : SlotReleased s act) :
    Sound (step s act) :=
  ⟨h.ledger.step act, h.snapshots.step h.ledger hreleased,
    h.lane.step h.snapshots h.ledger hreleased⟩

omit [DecidableEq ι] in
theorem sound_boot : Sound (boot : State ι) := by
  refine ⟨⟨Nat.zero_le _, nofun, nofun, nofun, nofun, nofun, nofun, fun _ => Nat.zero_le _⟩,
    ⟨fun _ _ => rfl, fun _ _ => .inl ⟨rfl, rfl⟩, nofun, nofun, nofun, nofun, nofun, nofun, trivial,
      nofun, trivial, nofun, trivial⟩, ⟨nofun, ?_, nofun, nofun, nofun, trivial⟩⟩
  rintro k (hk | hk)
  · exact absurd (BitVec.getLsbD_zero.symm.trans hk) Bool.false_ne_true
  · cases hk

theorem sound_run {acts : List (Act ι)} (h : RunOk step SlotReleased boot acts) :
    Sound (runSteps step boot acts) :=
  run_invariant (fun _ _ hs hreleased => hs.step hreleased) h sound_boot

end Sound

section Take

variable {scan : Scan} {slot : SlotIndex}

/-- How many steps the owner has still to make in a take that finds every terminal complete. -/
def Reader.rank (r : Reader) : Nat :=
  match r.place with
  | .before => 10
  | .word i => 9 - i.val
  | .after => 3

def Owner.rank : Owner → Nat
  | .takingPending => 97
  | .inspecting _ scan => 12 + 12 * scan.rest.length
  | .loadingOrigin _ scan _ => 11 + 12 * scan.rest.length
  | .capturing _ scan _ reader => reader.rank + 12 * scan.rest.length
  | .loadingTimeLow _ scan _ _ => 2 + 12 * scan.rest.length
  | .loadingTimeHigh _ scan _ _ _ => 1 + 12 * scan.rest.length
  | _ => 0

theorem Reader.rank_step {r r' : Reader} {snapshot : Snapshot}
    (hstep : r.step snapshot = .reading r') (hplace : r'.place ≠ .before) : r'.rank < r.rank := by
  have hagain : r.again = .reading r' → r'.place = .before := by
    intro h
    unfold Reader.again at h
    split_ifs at h
    cases h
    rfl
  unfold Reader.step at hstep
  cases hr : r.place with
  | before =>
    rw [hr] at hstep
    dsimp only at hstep
    split_ifs at hstep
    · exact absurd (hagain hstep) hplace
    · cases hstep
      rw [Reader.rank, Reader.rank, hr]
      exact Nat.lt_succ_self 9
  | word n =>
    rw [hr] at hstep
    dsimp only at hstep
    split_ifs at hstep with hlast
    · cases hstep
      rw [Reader.rank, Reader.rank, hr]
      dsimp only
      omega
    · cases hstep
      rw [Reader.rank, Reader.rank, hr]
      have hn := n.isLt
      dsimp only
      omega
  | after =>
    rw [hr] at hstep
    dsimp only at hstep
    split_ifs at hstep
    exact absurd (hagain hstep) hplace

theorem Reader.rank_pos (r : Reader) : 3 ≤ r.rank := by
  unfold Reader.rank
  split
  · decide
  · rename_i n _
    have hn := n.isLt
    omega
  · exact le_rfl

/-- The owner is in a take that no callback disturbs and that has found every terminal complete. -/
structure Taking (s : State ι) : Prop where
  sound : Sound s
  quiet : ∀ c, s.callbacks c = .idle
  place : s.owner = .takingPending ∨ (∀ k, s.bit k = false) ∧
    ∃ slot scan, Scanning s.owner slot scan ∧ scan.incompleteSnapshot = false

structure Taken (s : State ι) : Prop where
  sound : Sound s
  idle : s.owner = .idle
  empty : ∀ k, s.bit k = false

omit [DecidableEq ι] in
theorem scanOn_complete (hcomplete : scan.incompleteSnapshot = false) :
    (s.scanOn scan).owner = .idle ∨ ∃ slot rest, scan.rest = slot :: rest ∧
      (s.scanOn scan).owner = .inspecting slot { scan with rest := rest } := by
  unfold State.scanOn
  split
  · rename_i slot rest hrest
    exact .inr ⟨slot, rest, hrest, rfl⟩
  · rw [hcomplete, if_neg Bool.false_ne_true]
    split <;> exact .inl rfl

omit [DecidableEq ι] in
theorem scanOn_keeps (scan : Scan) : (s.scanOn scan).callbacks = s.callbacks ∧
    (s.scanOn scan).terminalLane = s.terminalLane ∧
      (s.scanOn scan).activeRadioTx = s.activeRadioTx ∧ (s.scanOn scan).history = s.history := by
  unfold State.scanOn
  split
  · exact ⟨rfl, rfl, rfl, rfl⟩
  · split_ifs
    · exact ⟨rfl, rfl, rfl, rfl⟩
    · split <;> exact ⟨rfl, rfl, rfl, rfl⟩

omit [DecidableEq ι] in
theorem scanCapture_keeps (slot : SlotIndex) (scan : Scan) (outcome : Outcome)
    (capture : Capture) :
    (s.scanCapture slot scan outcome capture).callbacks = s.callbacks ∧
      (s.scanCapture slot scan outcome capture).activeRadioTx = s.activeRadioTx ∧
      (s.scanCapture slot scan outcome capture).history = s.history := by
  obtain ⟨hcallbacks, -, hactive, hhistory⟩ := scanOn_keeps (s := s) scan
  cases capture with
  | reading reader => exact ⟨rfl, rfl, rfl⟩
  | failed => exact ⟨hcallbacks, hactive, hhistory⟩
  | captured identity =>
    unfold State.scanCapture
    dsimp only
    split
    · split_ifs
      · exact ⟨hcallbacks, hactive, hhistory⟩
      · exact ⟨rfl, rfl, rfl⟩
    · exact ⟨rfl, rfl, rfl⟩

omit [DecidableEq ι] in
theorem own_keeps (s : State ι) : s.own.callbacks = s.callbacks ∧
    s.own.activeRadioTx = s.activeRadioTx ∧
      (s.owner.publishes = none → s.own.history = s.history) := by
  unfold State.own
  cases howner : s.owner with
  | loadingSequence => exact ⟨rfl, rfl, fun _ => rfl⟩
  | storingOdd | storingWord | clearingTimeLow | clearingTimeHigh | clearingTerminal
  | storingEven => exact ⟨rfl, rfl, nofun⟩
  | takingPending =>
    obtain ⟨hcallbacks, -, hactive, hhistory⟩ :=
      scanOn_keeps (s := { s with terminalLane := (Runtime.takePending s.terminalLane).1 })
        ⟨State.slotsOf (Runtime.takePending s.terminalLane).2,
          State.slotsOf (Runtime.takePending s.terminalLane).2, false, none⟩
    exact ⟨hcallbacks, hactive, fun _ => hhistory⟩
  | inspecting slot scan =>
    obtain ⟨hcallbacks, -, hactive, hhistory⟩ :=
      scanOn_keeps (s := s) { scan with incompleteSnapshot := true }
    dsimp only
    split
    · exact ⟨hcallbacks, hactive, fun _ => hhistory⟩
    · exact ⟨hcallbacks, hactive, fun _ => hhistory⟩
    · exact ⟨rfl, rfl, fun _ => rfl⟩
    · exact ⟨rfl, rfl, fun _ => rfl⟩
  | loadingOrigin slot scan outcome =>
    obtain ⟨hcallbacks, hactive, hhistory⟩ := scanCapture_keeps (s := s) slot scan outcome
      (startCapture ((s.history slot).words 0))
    exact ⟨hcallbacks, hactive, fun _ => hhistory⟩
  | capturing slot scan outcome reader =>
    obtain ⟨hcallbacks, hactive, hhistory⟩ := scanCapture_keeps (s := s) slot scan outcome
      (reader.step (s.history (slotOf reader.origin)))
    exact ⟨hcallbacks, hactive, fun _ => hhistory⟩
  | loadingTimeHigh slot scan outcome identity timeLow =>
    let time := join timeLow (s.history slot).terminalMonotonicUsHigh
    obtain ⟨hcallbacks, -, hactive, hhistory⟩ :=
      scanOn_keeps (s := s) { scan with best := some ⟨outcome, time, identity⟩ }
    exact ⟨hcallbacks, hactive, fun _ => hhistory⟩
  | republishing slots =>
    cases slots with
    | nil => exact ⟨rfl, rfl, fun _ => rfl⟩
    | cons slot rest => exact ⟨rfl, rfl, fun _ => rfl⟩
  | idle | loadingTimeLow => exact ⟨rfl, rfl, fun _ => rfl⟩

variable {rank : Nat}

def GoesOn (s : State ι) (rank : Nat) : Prop := Taken s ∨ Taking s ∧ s.owner.rank < rank

omit [DecidableEq ι] in
theorem goesOn_scanOn (hsound : Sound (s.scanOn scan)) (hquiet : ∀ c, s.callbacks c = .idle)
    (hempty : ∀ k, s.bit k = false) (hcomplete : scan.incompleteSnapshot = false)
    (hrank : 12 * scan.rest.length < rank) : GoesOn (s.scanOn scan) rank := by
  obtain ⟨hcallbacks, hlane, -, -⟩ := scanOn_keeps (s := s) scan
  have hempty' : ∀ k, (s.scanOn scan).bit k = false := fun k => by
    rw [State.bit, hlane]
    exact hempty k
  rcases scanOn_complete (s := s) hcomplete with hidle | ⟨slot, rest, hrest, howner⟩
  · exact .inl ⟨hsound, hidle, hempty'⟩
  · refine .inr ⟨⟨hsound, fun c => by rw [hcallbacks]; exact hquiet c, .inr ⟨hempty', slot,
      { scan with rest := rest }, ?_, hcomplete⟩⟩, ?_⟩
    · rw [howner]
      exact ⟨rfl, rfl, rfl, rfl, fun _ h => Owner.noConfusion h⟩
    · rw [howner]
      rw [hrest, List.length_cons] at hrank
      change 12 + 12 * rest.length < rank
      omega

omit [DecidableEq ι] in
theorem goesOn_setOwner {o : Owner} (hsound : Sound (s.setOwner o))
    (hquiet : ∀ c, s.callbacks c = .idle) (hempty : ∀ k, s.bit k = false)
    (hs : Scanning o slot scan) (hcomplete : scan.incompleteSnapshot = false)
    (hrank : o.rank < rank) : GoesOn (s.setOwner o) rank :=
  .inr ⟨⟨hsound, hquiet, .inr ⟨hempty, slot, scan, hs, hcomplete⟩⟩, hrank⟩

omit [DecidableEq ι] in
theorem goesOn_scanCapture {outcome : Outcome} {capture : Capture}
    (hsound : Sound (s.scanCapture slot scan outcome capture))
    (hquiet : ∀ c, s.callbacks c = .idle) (hempty : ∀ k, s.bit k = false)
    (hcomplete : scan.incompleteSnapshot = false)
    (hreading : ∀ r, capture = .reading r → r.rank + 12 * scan.rest.length < rank)
    (hrank : 2 + 12 * scan.rest.length < rank) :
    GoesOn (s.scanCapture slot scan outcome capture) rank := by
  cases capture with
  | reading reader =>
    exact goesOn_setOwner hsound hquiet hempty ⟨rfl, rfl, rfl, rfl, nofun⟩ hcomplete
      (hreading reader rfl)
  | failed => exact goesOn_scanOn hsound hquiet hempty hcomplete (by omega)
  | captured identity =>
    unfold State.scanCapture at hsound ⊢
    dsimp only at hsound ⊢
    split
    · rename_i best hbest
      rw [hbest] at hsound
      dsimp only at hsound
      split_ifs at hsound ⊢
      · exact goesOn_scanOn hsound hquiet hempty hcomplete (by omega)
      · exact goesOn_setOwner hsound hquiet hempty ⟨rfl, rfl, rfl, rfl, nofun⟩ hcomplete hrank
    · rename_i hbest
      rw [hbest] at hsound
      exact goesOn_setOwner hsound hquiet hempty ⟨rfl, rfl, rfl, rfl, nofun⟩ hcomplete hrank

theorem Taking.own (h : Taking s) : GoesOn s.own s.owner.rank := by
  have hsound : Sound s.own := by
    have hreleased : SlotReleased s .own := by
      intro i sequence howner
      exfalso
      rcases h.place with htaking | ⟨-, slot, scan, hs, -⟩
      · rw [howner] at htaking
        cases htaking
      · have hnone := hs.publishes
        rw [howner] at hnone
        cases hnone
    exact h.sound.step hreleased
  have hquiet := h.quiet
  rcases h.place with htaking | ⟨hempty, slot, scan, hs, hcomplete⟩
  · unfold State.own at hsound ⊢
    rw [htaking] at hsound ⊢
    refine goesOn_scanOn hsound hquiet
      (fun k => Runtime.takePending_fst_getLsbD s.terminalLane (slot_lt k)) rfl ?_
    have hlength := List.length_filter_le
      (fun slot : SlotIndex => (Runtime.takePending s.terminalLane).2.getLsbD slot)
      (List.finRange historyLength)
    rw [List.length_finRange] at hlength
    change 12 * (State.slotsOf (Runtime.takePending s.terminalLane).2).length < 97
    unfold State.slotsOf
    have height : historyLength = 8 := rfl
    omega
  · have hscan := hs.scans
    have hpending := h.sound.lane.pending
    cases howner : s.owner with
    | inspecting slot' scan' =>
      have hin := h.sound.lane.ahead slot' (by rw [howner]; exact List.mem_cons_self)
      rw [howner] at hscan
      cases hscan
      unfold State.own at hsound ⊢
      rw [howner] at hsound ⊢
      dsimp only at hsound ⊢
      rcases hpending slot' (.inr hin) with ⟨outcome, hstate⟩ | ⟨c, i, hc, -⟩
      · rw [hstate] at hsound ⊢
        cases outcome with
        | done =>
          exact goesOn_setOwner hsound hquiet hempty ⟨rfl, rfl, rfl, rfl, nofun⟩ hcomplete
            (show 11 + _ < 12 + _ by omega)
        | timeout =>
          exact goesOn_setOwner hsound hquiet hempty ⟨rfl, rfl, rfl, rfl, nofun⟩ hcomplete
            (show 11 + _ < 12 + _ by omega)
      · rw [hquiet c] at hc
        cases hc
    | loadingOrigin slot' scan' outcome =>
      rw [howner] at hscan
      cases hscan
      unfold State.own at hsound ⊢
      rw [howner] at hsound ⊢
      refine goesOn_scanCapture hsound hquiet hempty hcomplete (fun r hr => ?_)
        (show 2 + _ < 11 + _ by omega)
      unfold startCapture at hr
      split_ifs at hr
      cases hr
      exact (show 10 + _ < 11 + _ by omega)
    | capturing slot' scan' outcome reader =>
      rw [howner] at hscan
      cases hscan
      have hrank := reader.rank_pos
      have hstep := h.sound.lane.capture_step h.sound.snapshots h.sound.ledger howner
      unfold State.own at hsound ⊢
      rw [howner] at hsound ⊢
      refine goesOn_scanCapture hsound hquiet hempty hcomplete (fun r hr => ?_)
        (show 2 + _ < reader.rank + _ by omega)
      rcases hstep with ⟨i, hcaptured, -⟩ | ⟨r', hreading, hplace, -⟩
      · cases hcaptured.symm.trans hr
      · cases hreading.symm.trans hr
        have hlt := Reader.rank_step hr hplace
        exact (show r.rank + _ < reader.rank + _ by omega)
    | loadingTimeLow slot' scan' outcome identity =>
      rw [howner] at hscan
      cases hscan
      unfold State.own at hsound ⊢
      rw [howner] at hsound ⊢
      exact goesOn_setOwner hsound hquiet hempty ⟨rfl, rfl, rfl, rfl, nofun⟩ hcomplete
        (show 1 + _ < 2 + _ by omega)
    | loadingTimeHigh slot' scan' outcome identity timeLow =>
      rw [howner] at hscan
      cases hscan
      unfold State.own at hsound ⊢
      rw [howner] at hsound ⊢
      exact goesOn_scanOn hsound hquiet hempty hcomplete
        (show 12 * scan.rest.length < 1 + 12 * scan.rest.length by omega)
    | _ =>
      rw [howner] at hscan
      cases hscan

/-- The steps of a call of `take_latched_terminal`: to take the lane, to look at eight slots in
twelve loads each, and to publish them again. -/
def takeSteps : Nat := 1 + 12 * historyLength + historyLength + 1

def takeCall : List (Act ι) := .take :: List.replicate takeSteps .own

/-- The owner calls `take_latched_terminal` again and again. -/
def takeCalls (calls : Nat) : List (Act ι) := (List.replicate calls takeCall).flatten

theorem own_idle {n : Nat} (h : s.owner = .idle) :
    runSteps step s (List.replicate n .own) = s := by
  induction n with
  | zero => rfl
  | succ n ih =>
    change runSteps step s.own (List.replicate n .own) = s
    rw [State.own, h]
    exact ih

omit [DecidableEq ι] in
theorem Scanning.rank_pos {o : Owner} (hs : Scanning o slot scan) : 0 < o.rank := by
  have hscan := hs.scans
  cases o with
  | capturing slot scan outcome reader =>
    have hrank := reader.rank_pos
    change 0 < reader.rank + _
    omega
  | inspecting | loadingOrigin | loadingTimeLow | loadingTimeHigh =>
    unfold Owner.rank
    dsimp only
    omega
  | _ => cases hscan

theorem Taking.run {n : Nat} (h : Taking s) (hn : s.owner.rank ≤ n) :
    Taken (runSteps step s (List.replicate n .own)) := by
  induction n generalizing s with
  | zero =>
    exfalso
    rcases h.place with htaking | ⟨-, slot, scan, hs, -⟩
    · rw [htaking] at hn
      exact absurd hn (by decide)
    · have hpos := hs.rank_pos
      omega
  | succ n ih =>
    change Taken (runSteps step s.own (List.replicate n .own))
    rcases h.own with htaken | ⟨htaking, hlt⟩
    · rw [own_idle htaken.idle]
      exact htaken
    · exact ih htaking (by omega)

theorem owns_keep (n : Nat) :
    (runSteps step s (List.replicate n .own)).activeRadioTx = s.activeRadioTx ∧
      ∀ i outcome, .latched i outcome ∈ s.log →
        .latched i outcome ∈ (runSteps step s (List.replicate n .own)).log := by
  induction n generalizing s with
  | zero => exact ⟨rfl, fun _ _ hmem => hmem⟩
  | succ n ih =>
    obtain ⟨-, hactive, -⟩ := own_keeps s
    obtain ⟨new, hlog, -⟩ := (calm_own s).log
    obtain ⟨hactive', hlatched⟩ := ih (s := s.own)
    refine ⟨hactive'.trans hactive, fun i outcome hmem => hlatched i outcome ?_⟩
    rw [hlog]
    exact List.mem_append_right _ hmem

theorem Sound.returns (h : Sound s) (howner : s.owner = .idle)
    (hquiet : ∀ c, s.callbacks c = .idle) (hvalid : s.activeRadioTx.valid = true)
    {outcome : Outcome} (hlatched : .latched s.activeRadioTx outcome ∈ s.log) :
    ∃ event, event.operation = s.activeRadioTx ∧
      .taken event ∈ (runSteps RadioTerminal.step s takeCall).log := by
  let start := s.setOwner .takingPending
  have hstart : RadioTerminal.step s .take = start := by
    unfold RadioTerminal.step
    dsimp only
    rw [howner]
    rfl
  have htaking : Taking start :=
    ⟨hstart ▸ h.step (show SlotReleased s .take from trivial), hquiet, .inl rfl⟩
  obtain ⟨hactive, hkeeps⟩ := owns_keep (s := start) takeSteps
  have hend := htaking.run (n := takeSteps) (show 97 ≤ takeSteps by decide)
  have hcall : runSteps RadioTerminal.step s takeCall = runSteps RadioTerminal.step
      (RadioTerminal.step s .take) (List.replicate takeSteps .own) := List.foldl_cons ..
  rw [hcall, hstart]
  generalize runSteps RadioTerminal.step start (List.replicate takeSteps .own) = s' at hend hactive hkeeps
  have hvalid' : s'.activeRadioTx.valid = true := by
    rw [hactive]
    exact hvalid
  have hnone : s'.owner.publishes = none := by
    rw [hend.idle]
    rfl
  have hheld := hend.sound.lane.held hvalid' hnone
  have hmarked : Marked s' s'.activeRadioTx := by
    refine .inl fun hstate => ?_
    refine (hend.sound.snapshots.terminal hend.sound.ledger hheld).none hstate outcome ?_
    rw [hactive]
    exact hkeeps _ _ hlatched
  rcases hend.sound.lane.kept hvalid' hnone hmarked with hset | hminds | ⟨event, hevent, hop⟩
  · exact absurd ((hend.empty _).symm.trans hset) Bool.false_ne_true
  · rw [hend.idle] at hminds
    rcases hminds with ⟨scan, hscan, -⟩ | ⟨slots, hslots, -⟩
    · cases hscan
    · cases hslots
  · exact ⟨event, hop.trans hactive, hevent⟩

end Take

end Sigui.RadioTerminal

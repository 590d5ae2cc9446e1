import Sigui.RunRules
import Mathlib.Data.List.Count
import Mathlib.Data.List.Induction

/-! The lane word that orders exact terminals before ordinary work, and the choice of the owner's
next work. -/
namespace Sigui.Runtime

section Lane

/-- `D1L_MESH_TERMINAL_LANE_OWNER_RESERVED` -/
def ownerReserved : BitVec 32 := BitVec.twoPow 32 31

/-- `D1L_MESH_TERMINAL_LANE_PENDING_MASK` -/
def pendingMask : BitVec 32 := ownerReserved - 1

/-- `d1l_mesh_terminal_lane_publish_slot` -/
def publishSlot (lane : BitVec 32) (slot : Nat) : BitVec 32 × Bool :=
  if 31 ≤ slot then (lane, false) else (lane ||| BitVec.twoPow 32 slot, true)

/-- `d1l_mesh_terminal_lane_take_pending` -/
def takePending (lane : BitVec 32) : BitVec 32 × BitVec 32 :=
  (lane &&& ownerReserved, lane &&& pendingMask)

/-- `d1l_mesh_terminal_lane_try_reserve_owner` -/
def tryReserveOwner (lane : BitVec 32) : BitVec 32 × Bool :=
  if lane = 0 then (ownerReserved, true) else (lane, false)

/-- `d1l_mesh_terminal_lane_owner_still_reserved`: the exchange writes back what it expects. -/
def ownerStillReserved (lane : BitVec 32) : Bool := decide (lane = ownerReserved)

/-- `d1l_mesh_terminal_lane_release_owner` -/
def releaseOwner (lane : BitVec 32) : BitVec 32 := lane &&& ~~~ownerReserved

/-- One atomic step of a callback (`publish`) or of the owner. -/
inductive LaneOp
  | publish (slot : Nat)
  | takePending
  | tryReserveOwner
  | ownerStillReserved
  | releaseOwner
  deriving DecidableEq

def stepLane (lane : BitVec 32) : LaneOp → BitVec 32
  | .publish slot => (publishSlot lane slot).1
  | .takePending => (takePending lane).1
  | .tryReserveOwner => (tryReserveOwner lane).1
  | .ownerStillReserved => lane
  | .releaseOwner => releaseOwner lane

abbrev runLane (lane : BitVec 32) (ops : List LaneOp) : BitVec 32 := runSteps stepLane lane ops

def takes (lane : BitVec 32) : List LaneOp → List (BitVec 32)
  | [] => []
  | .takePending :: ops => (takePending lane).2 :: takes (takePending lane).1 ops
  | op :: ops => takes (stepLane lane op) ops

def Outstanding (ops : List LaneOp) (slot : Nat) : Prop :=
  ∃ before later, ops = before ++ .publish slot :: later ∧ .takePending ∉ later

variable {slot : Nat}

theorem pendingMask_eq : pendingMask = ~~~ownerReserved := by decide

theorem ownerReserved_getLsbD (hslot : slot < 31) : ownerReserved.getLsbD slot = false := by
  rw [ownerReserved, BitVec.getLsbD_twoPow]
  simp only [decide_eq_false (show ¬ 31 = slot by omega), Bool.and_false]

theorem publishSlot_getLsbD (lane : BitVec 32) (published : Nat) (hslot : slot < 31) :
    (publishSlot lane published).1.getLsbD slot =
      (lane.getLsbD slot || decide (published = slot)) := by
  unfold publishSlot
  split_ifs with hlarge
  · rw [decide_eq_false (show ¬ published = slot by omega), Bool.or_false]
  · rw [BitVec.getLsbD_or, BitVec.getLsbD_twoPow, decide_eq_true (show published < 32 by omega),
      Bool.true_and]

theorem takePending_fst_getLsbD (lane : BitVec 32) (hslot : slot < 31) :
    (takePending lane).1.getLsbD slot = false := by
  rw [takePending, BitVec.getLsbD_and, ownerReserved_getLsbD hslot, Bool.and_false]

theorem takePending_snd_getLsbD (lane : BitVec 32) (hslot : slot < 31) :
    (takePending lane).2.getLsbD slot = lane.getLsbD slot := by
  rw [takePending, pendingMask_eq, BitVec.getLsbD_and, BitVec.getLsbD_not,
    ownerReserved_getLsbD hslot, decide_eq_true (show slot < 32 by omega)]
  exact Bool.and_true _

theorem takePending_snd_high (lane : BitVec 32) (hslot : 31 ≤ slot) :
    (takePending lane).2.getLsbD slot = false := by
  rw [takePending, pendingMask_eq, BitVec.getLsbD_and, BitVec.getLsbD_not, ownerReserved,
    BitVec.getLsbD_twoPow]
  rcases Nat.lt_or_ge slot 32 with hlt | hge
  · rw [show slot = 31 by omega]
    exact Bool.and_false _
  · rw [decide_eq_false (show ¬ slot < 32 by omega), Bool.false_and, Bool.and_false]

theorem stepLane_getLsbD (lane : BitVec 32) (op : LaneOp) (hslot : slot < 31) :
    (stepLane lane op).getLsbD slot =
      match op with
      | .publish published => lane.getLsbD slot || decide (published = slot)
      | .takePending => false
      | .tryReserveOwner | .ownerStillReserved | .releaseOwner => lane.getLsbD slot := by
  cases op with
  | publish published => exact publishSlot_getLsbD lane published hslot
  | takePending => exact takePending_fst_getLsbD lane hslot
  | tryReserveOwner =>
    change (tryReserveOwner lane).1.getLsbD slot = _
    unfold tryReserveOwner
    split_ifs with hzero
    · rw [hzero, ownerReserved_getLsbD hslot]
      exact BitVec.getLsbD_zero.symm
    · rfl
  | ownerStillReserved => rfl
  | releaseOwner =>
    change (releaseOwner lane).getLsbD slot = _
    rw [releaseOwner, BitVec.getLsbD_and, BitVec.getLsbD_not, ownerReserved_getLsbD hslot,
      decide_eq_true (show slot < 32 by omega)]
    exact Bool.and_true _

theorem outstanding_snoc {ops : List LaneOp} {op : LaneOp} :
    Outstanding (ops ++ [op]) slot ↔
      op = .publish slot ∨ (op ≠ .takePending ∧ Outstanding ops slot) := by
  constructor
  · rintro ⟨before, later, hops, hlater⟩
    rcases later.eq_nil_or_concat' with rfl | ⟨rest, last, rfl⟩
    · exact .inl (by simpa using (List.append_inj_right' hops rfl))
    · have hsplit : ops ++ [op] = (before ++ .publish slot :: rest) ++ [last] := by
        rw [hops, List.append_assoc]
        rfl
      obtain ⟨hbefore, hlast⟩ := List.append_inj' hsplit rfl
      cases hlast
      refine .inr ⟨?_, before, rest, hbefore, fun h => hlater (List.mem_append_left _ h)⟩
      rintro rfl
      exact hlater (List.mem_append_right _ (List.mem_singleton_self _))
  · rintro (rfl | ⟨hop, before, later, rfl, hlater⟩)
    · exact ⟨ops, [], rfl, nofun⟩
    · refine ⟨before, later ++ [op], by rw [List.append_assoc]; rfl, ?_⟩
      intro hmem
      rcases List.mem_append.mp hmem with hmem | hmem
      · exact hlater hmem
      · exact hop (List.mem_singleton.mp hmem).symm

theorem runLane_getLsbD (ops : List LaneOp) (hslot : slot < 31) :
    (runLane 0 ops).getLsbD slot = true ↔ Outstanding ops slot := by
  induction ops using List.reverseRecOn with
  | nil =>
    refine ⟨fun h => ?_, fun ⟨before, later, hops, _⟩ => ?_⟩
    · rw [show runLane 0 [] = 0#32 from rfl, BitVec.getLsbD_zero] at h
      cases h
    · cases before <;> cases hops
  | append_singleton ops op ih =>
    rw [outstanding_snoc, runLane, runSteps_append]
    change (stepLane (runLane 0 ops) op).getLsbD slot = true ↔ _
    rw [stepLane_getLsbD _ _ hslot]
    cases op with
    | publish published =>
      simp only [Bool.or_eq_true, decide_eq_true_eq, ih, LaneOp.publish.injEq, ne_eq,
        reduceCtorEq, not_false_eq_true, true_and]
      exact or_comm
    | takePending => simp only [reduceCtorEq, ne_eq, not_true, false_and, or_self,
        Bool.false_eq_true]
    | tryReserveOwner | ownerStillReserved | releaseOwner =>
      simp only [ih, reduceCtorEq, ne_eq, not_false_eq_true, true_and, false_or]

theorem takes_countP {ops : List LaneOp} (hslot : slot < 31) (hops : .publish slot ∉ ops)
    (lane : BitVec 32) :
    (takes lane ops).countP (·.getLsbD slot) =
      if lane.getLsbD slot = true ∧ .takePending ∈ ops then 1 else 0 := by
  induction ops generalizing lane with
  | nil => simp only [takes, List.countP_nil, List.not_mem_nil, and_false, if_false]
  | cons op ops ih =>
    have hrest : .publish slot ∉ ops := fun h => hops (List.mem_cons_of_mem _ h)
    have hop : op ≠ .publish slot := fun h => hops (h ▸ List.mem_cons_self ..)
    cases op with
    | takePending =>
      rw [takes, List.countP_cons, ih hrest, takePending_fst_getLsbD lane hslot,
        takePending_snd_getLsbD lane hslot, if_neg (fun h => nomatch h.1), Nat.zero_add]
      simp only [List.mem_cons_self, and_true]
    | publish published =>
      have hother : (stepLane lane (.publish published)).getLsbD slot = lane.getLsbD slot := by
        rw [stepLane_getLsbD _ _ hslot]
        have hne : ¬ published = slot := fun h => hop (h ▸ rfl)
        simp only [decide_eq_false hne, Bool.or_false]
      rw [takes, ih hrest, hother]
      · simp only [List.mem_cons, reduceCtorEq, false_or]
      · exact nofun
    | tryReserveOwner | ownerStillReserved | releaseOwner =>
      rw [takes, ih hrest, stepLane_getLsbD _ _ hslot]
      · simp only [List.mem_cons, reduceCtorEq, false_or]
      · exact nofun

theorem ownerStillReserved_empty {ops : List LaneOp}
    (h : ownerStillReserved (runLane 0 ops) = true) (hslot : slot < 31) :
    ¬ Outstanding ops slot := by
  rw [← runLane_getLsbD ops hslot, of_decide_eq_true h, ownerReserved_getLsbD hslot]
  exact nofun

end Lane

def radioEventBurstMax : Nat := 4
def priorityCommandBurstMax : Nat := 2

inductive OwnerWork
  | idle
  | terminalRecovery
  | radioEvent
  | priorityCommand
  | normalCommand
  deriving DecidableEq

structure OwnerScheduler where
  radioEventBurst : Nat
  priorityCommandBurst : Nat
  deriving DecidableEq

structure Availability where
  terminalRecoveryPending : Bool
  radioEventAvailable : Bool
  priorityCommandAvailable : Bool
  normalCommandAvailable : Bool
  deriving DecidableEq

structure Choice where
  scheduler : OwnerScheduler
  work : OwnerWork
  forcedNormal : Bool
  deriving DecidableEq

/-- `d1l_mesh_owner_scheduler_choose` -/
def choose (scheduler : OwnerScheduler) (found : Availability) : Choice :=
  if found.terminalRecoveryPending then ⟨scheduler, .terminalRecovery, false⟩
  else if found.radioEventAvailable &&
      decide (scheduler.radioEventBurst < radioEventBurstMax) then
    ⟨{ scheduler with radioEventBurst := scheduler.radioEventBurst + 1 }, .radioEvent, false⟩
  else if found.normalCommandAvailable && found.priorityCommandAvailable &&
      decide (priorityCommandBurstMax ≤ scheduler.priorityCommandBurst) then
    ⟨⟨0, 0⟩, .normalCommand, true⟩
  else if found.priorityCommandAvailable then
    ⟨⟨0, if scheduler.priorityCommandBurst < priorityCommandBurstMax then
        scheduler.priorityCommandBurst + 1 else scheduler.priorityCommandBurst⟩,
      .priorityCommand, false⟩
  else if found.normalCommandAvailable then ⟨⟨0, 0⟩, .normalCommand, false⟩
  else if found.radioEventAvailable then
    -- no command to protect: the burst stays saturated
    ⟨scheduler, .radioEvent, false⟩
  else ⟨⟨0, 0⟩, .idle, false⟩

def stepScheduler (scheduler : OwnerScheduler) (found : Availability) : OwnerScheduler :=
  (choose scheduler found).scheduler

def works (scheduler : OwnerScheduler) : List Availability → List OwnerWork
  | [] => []
  | found :: rest => (choose scheduler found).work :: works (stepScheduler scheduler found) rest

/-- How many other choices the bursts still allow before a normal command. -/
def OwnerScheduler.credit (scheduler : OwnerScheduler) : Nat :=
  (priorityCommandBurstMax - scheduler.priorityCommandBurst) * (radioEventBurstMax + 1) +
    (radioEventBurstMax - scheduler.radioEventBurst)

theorem choose_terminal {scheduler : OwnerScheduler} {found : Availability}
    (h : found.terminalRecoveryPending = true) :
    choose scheduler found = ⟨scheduler, .terminalRecovery, false⟩ :=
  if_pos h

theorem choose_spends {scheduler : OwnerScheduler} {found : Availability}
    (hterminal : found.terminalRecoveryPending = false)
    (hnormal : found.normalCommandAvailable = true)
    (hother : (choose scheduler found).work ≠ .normalCommand) :
    (stepScheduler scheduler found).credit + 1 ≤ scheduler.credit := by
  revert hother
  rw [stepScheduler, choose, hterminal, if_neg Bool.false_ne_true, hnormal]
  by_cases hradio : (found.radioEventAvailable &&
      decide (scheduler.radioEventBurst < radioEventBurstMax)) = true
  · rw [if_pos hradio]
    intro _
    have hroom := of_decide_eq_true (Bool.and_eq_true _ _ ▸ hradio).2
    simp only [OwnerScheduler.credit]
    omega
  rw [if_neg hradio]
  cases hpriority : found.priorityCommandAvailable with
  | false => exact fun h => absurd rfl h
  | true =>
    by_cases hfull : priorityCommandBurstMax ≤ scheduler.priorityCommandBurst
    · rw [decide_eq_true hfull]
      exact fun h => absurd rfl h
    · -- a priority command gives the radio its burst back, which costs one of two priority turns
      intro _
      have hroom : scheduler.priorityCommandBurst < priorityCommandBurstMax :=
        Nat.lt_of_not_le hfull
      rw [decide_eq_false hfull, if_neg (by decide), if_pos rfl, if_pos hroom]
      simp only [OwnerScheduler.credit, priorityCommandBurstMax, radioEventBurstMax] at hroom ⊢
      omega

theorem credit_le (scheduler : OwnerScheduler) : scheduler.credit ≤ 14 := by
  simp only [OwnerScheduler.credit, priorityCommandBurstMax, radioEventBurstMax]
  omega

theorem normal_mem_works {window : List Availability}
    (hnormal : ∀ found ∈ window, found.terminalRecoveryPending = false →
      found.normalCommandAvailable = true) (scheduler : OwnerScheduler)
    (hlong : scheduler.credit < window.countP (!·.terminalRecoveryPending)) :
    .normalCommand ∈ works scheduler window := by
  induction window generalizing scheduler with
  | nil => cases hlong
  | cons found window ih =>
    have hrest : ∀ found' ∈ window, found'.terminalRecoveryPending = false →
        found'.normalCommandAvailable = true :=
      fun found' h => hnormal found' (List.mem_cons_of_mem _ h)
    rw [works]
    by_cases hchosen : (choose scheduler found).work = .normalCommand
    · rw [hchosen]
      exact List.mem_cons_self ..
    · apply List.mem_cons_of_mem
      apply ih hrest
      rw [List.countP_cons] at hlong
      cases hterminal : found.terminalRecoveryPending with
      | true =>
        -- a terminal leaves the bursts as they were
        rw [hterminal, if_neg (by decide), Nat.add_zero] at hlong
        rw [stepScheduler, choose_terminal hterminal]
        exact hlong
      | false =>
        have hspent := choose_spends hterminal (hnormal found (List.mem_cons_self ..) hterminal)
          hchosen
        rw [hterminal, if_pos (by decide)] at hlong
        omega

/-- Every published slot is returned by exactly one take, the reservation is only confirmed over an
empty lane, terminals are chosen whenever they wait, and a waiting normal command is chosen among
any fifteen other choices. -/
theorem owner_loop_keeps_terminals_and_serves_normal :
    (∀ ops slot, (takePending (runLane 0 ops)).2.getLsbD slot = true ↔
      slot < 31 ∧ Outstanding ops slot) ∧
    (∀ ops later slot, slot < 31 → .publish slot ∉ later →
      (takes (runLane 0 (ops ++ [.publish slot])) later).countP (·.getLsbD slot) =
        if .takePending ∈ later then 1 else 0) ∧
    (∀ ops, ownerStillReserved (runLane 0 ops) = true →
      ∀ slot < 31, ¬ Outstanding ops slot) ∧
    (∀ past found, found.terminalRecoveryPending = true →
      (choose (runSteps stepScheduler ⟨0, 0⟩ past) found).work = .terminalRecovery) ∧
    ∀ past window,
      (∀ found ∈ window, found.terminalRecoveryPending = false →
        found.normalCommandAvailable = true) →
      15 ≤ window.countP (!·.terminalRecoveryPending) →
      .normalCommand ∈ works (runSteps stepScheduler ⟨0, 0⟩ past) window := by
  refine ⟨?_, ?_, ?_, ?_, ?_⟩
  · intro ops slot
    rcases Nat.lt_or_ge slot 31 with hslot | hslot
    · rw [takePending_snd_getLsbD _ hslot, runLane_getLsbD ops hslot]
      exact ⟨fun h => ⟨hslot, h⟩, fun h => h.2⟩
    · rw [takePending_snd_high _ hslot]
      exact ⟨nofun, fun h => absurd h.1 (Nat.not_lt_of_ge hslot)⟩
  · intro ops later slot hslot hlater
    have hpublished : (runLane 0 (ops ++ [.publish slot])).getLsbD slot = true :=
      (runLane_getLsbD _ hslot).mpr ⟨ops, [], rfl, nofun⟩
    rw [takes_countP hslot hlater, hpublished]
    simp only [true_and]
  · intro ops hreserved slot hslot
    exact ownerStillReserved_empty hreserved hslot
  · intro past found hterminal
    rw [choose_terminal hterminal]
  · intro past window hnormal hlong
    exact normal_mem_works hnormal _ (Nat.lt_of_le_of_lt (credit_le _) hlong)

end Sigui.Runtime

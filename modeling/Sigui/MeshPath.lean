import Sigui.Text
import Mathlib.Data.Nat.Bitwise

/-! The life cycle of a direct path as a contact retains it, and the length byte of a path. -/
namespace Sigui.MeshPath

def directPathMaxAgeMs : Nat := 30 * 60 * 1000
def directPathFailureThreshold : Nat := 2
def pathFlagHasSuccess : Nat := 1
/-- `(uint8_t)~D1L_MESHCORE_PATH_FLAGS_MASK` -/
def pathFlagsUnused : Nat := 0xFE
def maxPathBytes : Nat := 64

/-- `D1L_MESHCORE_PATH_SOURCE_*` -/
def pathSourceNone : Nat := 0
def pathSourceObserved : Nat := 4
def pathSourceMigrated : Nat := 5
def pathSourceCount : Nat := 6

/-- `D1L_MESHCORE_PATH_STATE_*` -/
def pathStateNone : Nat := 0
def pathStateValid : Nat := 1
def pathStateExpired : Nat := 2
def pathStateFailed : Nat := 3
def pathStateCount : Nat := 4

structure PathState where
  learnedAtMs : Nat
  lastSuccessMs : Nat
  lastFailureMs : Nat
  expiresAtMs : Nat
  generation : Nat
  source : Nat
  lifecycle : Nat
  consecutiveFailures : Nat
  flags : Nat
  deriving DecidableEq

/-- `d1l_meshcore_path_state_reset` -/
def PathState.empty : PathState := ⟨0, 0, 0, 0, 0, 0, 0, 0, 0⟩

def nextGeneration (generation : Nat) : Option Nat :=
  if generation = uint32Max then none else some (generation + 1)

def pathSourceValid (source : Nat) : Bool :=
  decide (pathSourceNone < source) && decide (source < pathSourceCount)

/-- `d1l_meshcore_path_state_learn` -/
def learn (state : PathState) (source nowMs : Nat) : Option PathState :=
  if !pathSourceValid source then none
  else
    (nextGeneration state.generation).map fun generation =>
      { PathState.empty with
        learnedAtMs := nowMs, expiresAtMs := u32Add nowMs directPathMaxAgeMs
        generation := generation, source := source, lifecycle := pathStateValid }

def validatedAtMs (state : PathState) : Nat :=
  if state.flags &&& pathFlagHasSuccess ≠ 0 then state.lastSuccessMs else state.learnedAtMs

/-- `d1l_meshcore_lifetime_age_current_u32` -/
def ageCurrent (observedAtMs nowMs maxAgeMs : Nat) : Bool :=
  decide ((nowMs + (uint32Max + 1) - observedAtMs) % (uint32Max + 1) ≤ maxAgeMs)

/-- The generation of a path that is given up; at its maximum it stays. -/
def endedGeneration (generation : Nat) : Nat := (nextGeneration generation).getD generation

/-- `d1l_meshcore_path_state_expire_if_due` -/
def expireIfDue (state : PathState) (nowMs : Nat) : Option PathState :=
  if state.lifecycle ≠ pathStateValid then none
  else if ageCurrent (validatedAtMs state) nowMs directPathMaxAgeMs then none
  else
    some { state with
      lifecycle := pathStateExpired, generation := endedGeneration state.generation }

inductive PathResult
  | stale
  | updated
  | floodFallback
  deriving DecidableEq

/-- `d1l_meshcore_path_state_note_direct_result` -/
def noteDirectResult (state : PathState) (expectedGeneration : Nat) (success : Bool)
    (nowMs : Nat) : PathState × PathResult :=
  if expectedGeneration = 0 ∨ state.generation ≠ expectedGeneration ∨
      state.lifecycle ≠ pathStateValid then (state, .stale)
  else if success then
    ({ state with
        lastSuccessMs := nowMs, flags := state.flags ||| pathFlagHasSuccess
        expiresAtMs := u32Add nowMs directPathMaxAgeMs, consecutiveFailures := 0 }, .updated)
  else
    let failures :=
      if state.consecutiveFailures < uint8Max then state.consecutiveFailures + 1
      else state.consecutiveFailures
    let failed := { state with lastFailureMs := nowMs, consecutiveFailures := failures }
    if failures < directPathFailureThreshold then (failed, .updated)
    else
      ({ failed with
          lifecycle := pathStateFailed, generation := endedGeneration state.generation },
        .floodFallback)

def wirePathHashSize (pathLen : UInt8) : Nat := pathLen.toNat / 64 + 1

def wirePathHashCount (pathLen : UInt8) : Nat := pathLen.toNat % 64

def wirePathLenValid (pathLen : UInt8) : Bool :=
  decide (wirePathHashSize pathLen < 4) &&
    decide (wirePathHashCount pathLen * wirePathHashSize pathLen ≤ maxPathBytes)

/-- The product of two bytes as a `uint8_t`. -/
def wirePathByteLen (pathLen : UInt8) : Nat :=
  wirePathHashSize pathLen * wirePathHashCount pathLen % 256

theorem wirePathByteLen_le {pathLen : UInt8} (h : wirePathLenValid pathLen = true) :
    wirePathByteLen pathLen ≤ maxPathBytes := by
  simp only [wirePathLenValid, Bool.and_eq_true, decide_eq_true_eq] at h
  exact (Nat.mod_le _ _).trans (Nat.mul_comm _ _ ▸ h.2)

section LifeCycle

variable {state state' : PathState} {nowMs : Nat}

theorem endedGeneration_ne_zero {generation : Nat} (h : generation ≠ 0) :
    endedGeneration generation ≠ 0 := by
  unfold endedGeneration nextGeneration
  split_ifs
  · exact h
  · exact Nat.succ_ne_zero _

theorem learn_spec {source : Nat} (h : learn state source nowMs = some state') :
    state'.lifecycle = pathStateValid ∧ state'.generation ≠ 0 ∧ state'.flags = 0 ∧
      state'.consecutiveFailures = 0 ∧ pathSourceValid state'.source = true := by
  unfold learn nextGeneration at h
  split_ifs at h with hsource hmax
  · cases h
  · cases h
    exact ⟨rfl, Nat.succ_ne_zero _, rfl, rfl, by simpa using hsource⟩

theorem learn_isSome {source : Nat} (hsource : pathSourceValid source = true)
    (hgen : state.generation ≠ uint32Max) : (learn state source nowMs).isSome = true := by
  rw [learn, hsource, nextGeneration, if_neg hgen]
  rfl

theorem expireIfDue_spec (h : expireIfDue state nowMs = some state') :
    state.lifecycle = pathStateValid ∧ state' = { state with
      lifecycle := pathStateExpired, generation := endedGeneration state.generation } := by
  unfold expireIfDue at h
  split_ifs at h with hvalid hcurrent
  cases h
  exact ⟨not_not.mp hvalid, rfl⟩

theorem noteDirectResult_spec {expectedGeneration : Nat} {success : Bool} {result : PathResult}
    (h : noteDirectResult state expectedGeneration success nowMs = (state', result)) :
    (result = .stale ∧ state' = state) ∨
    (state.lifecycle = pathStateValid ∧ result = .updated ∧ state'.lifecycle = pathStateValid ∧
      state'.generation = state.generation ∧ state'.source = state.source ∧
      (state'.flags = state.flags ∨ state'.flags = state.flags ||| pathFlagHasSuccess) ∧
      state'.consecutiveFailures < directPathFailureThreshold) ∨
    (state.lifecycle = pathStateValid ∧ result = .floodFallback ∧
      state'.lifecycle = pathStateFailed ∧
      state'.generation = endedGeneration state.generation ∧ state'.source = state.source ∧
      state'.flags = state.flags ∧
      directPathFailureThreshold ≤ state'.consecutiveFailures) := by
  unfold noteDirectResult at h
  by_cases hstale : expectedGeneration = 0 ∨ state.generation ≠ expectedGeneration ∨
      state.lifecycle ≠ pathStateValid
  · rw [if_pos hstale] at h
    cases h
    exact .inl ⟨rfl, rfl⟩
  · rw [if_neg hstale] at h
    have hvalid : state.lifecycle = pathStateValid := by
      by_contra hne
      exact hstale (.inr (.inr hne))
    refine .inr ?_
    cases success with
    | true =>
      cases h
      exact .inl ⟨hvalid, rfl, hvalid, rfl, rfl, .inr rfl, Nat.two_pos⟩
    | false =>
      rw [if_neg Bool.false_ne_true] at h
      dsimp only at h
      by_cases hfew : (if state.consecutiveFailures < uint8Max then state.consecutiveFailures + 1
          else state.consecutiveFailures) < directPathFailureThreshold
      · rw [if_pos hfew] at h
        cases h
        exact .inl ⟨hvalid, rfl, hvalid, rfl, rfl, .inl rfl, hfew⟩
      · rw [if_neg hfew] at h
        cases h
        exact .inr ⟨hvalid, rfl, rfl, rfl, rfl, rfl, Nat.le_of_not_lt hfew⟩

theorem flags_unused_or {flags : Nat} (h : flags &&& pathFlagsUnused = 0) :
    (flags ||| pathFlagHasSuccess) &&& pathFlagsUnused = 0 := by
  rw [Nat.and_or_distrib_right, h]
  rfl

end LifeCycle

end Sigui.MeshPath

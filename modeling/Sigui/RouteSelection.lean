import Sigui.MeshPath
import Sigui.Clock

/-! The choice between a direct and a flood route for one outbound packet. -/
namespace Sigui.MeshPath

/-- `D1L_MESHCORE_ROUTE_*`, as far as a selection uses them. -/
inductive Route
  | flood
  | direct
  deriving DecidableEq

inductive SelectionReason
  | none
  | directProven
  | floodNoPath
  | floodPrebootPath
  | floodStalePath
  | floodMalformedPath
  | floodExpiredPath
  | floodFailedPath
  | floodDirectRetry
  deriving DecidableEq

structure RouteSelection where
  route : Route
  pathLen : Nat
  path : List UInt8
  pathByteLen : Nat
  pathHashBytes : Nat
  pathHops : Nat
  pathAgeMs : Nat
  pathGeneration : Nat
  reason : SelectionReason
  deriving DecidableEq

/-- `flood_path_hash_bytes < 1U || flood_path_hash_bytes > 3U` is the refused policy. -/
def floodPolicyValid (floodPathHashBytes : Nat) : Bool :=
  decide (1 ≤ floodPathHashBytes) && decide (floodPathHashBytes ≤ 3)

def floodSelection (floodPathHashBytes : Nat) : RouteSelection where
  route := .flood
  pathLen := (floodPathHashBytes - 1) * 64
  path := List.replicate maxPathBytes 0
  pathByteLen := 0
  pathHashBytes := floodPathHashBytes
  pathHops := 0
  pathAgeMs := 0
  pathGeneration := 0
  reason := .floodNoPath

/-- `d1l_meshcore_route_select`; a null path is `none`. -/
def routeSelect (learnedPathKnown learnedThisBoot : Bool) (learnedPath : Option (List UInt8))
    (learnedPathLen : UInt8) (learnedAtMs nowMs floodPathHashBytes : Nat) :
    Option RouteSelection :=
  if !floodPolicyValid floodPathHashBytes then none
  else
    let selection := floodSelection floodPathHashBytes
    if !learnedPathKnown then some selection
    else
      let encodedPathValid := wirePathLenValid learnedPathLen
      let learnedPathBytes := if encodedPathValid then wirePathByteLen learnedPathLen else 0
      if !encodedPathValid || (decide (0 < learnedPathBytes) && learnedPath.isNone) then
        some { selection with reason := .floodMalformedPath }
      else if !learnedThisBoot then some { selection with reason := .floodPrebootPath }
      else
        let pathAgeMs := ageMs learnedAtMs nowMs
        if directPathMaxAgeMs < pathAgeMs then
          some { selection with pathAgeMs := pathAgeMs, reason := .floodStalePath }
        else
          some {
            route := .direct
            pathLen := learnedPathLen.toNat
            path := (learnedPath.getD []).take learnedPathBytes ++
              List.replicate (maxPathBytes - learnedPathBytes) 0
            pathByteLen := learnedPathBytes
            pathHashBytes := wirePathHashSize learnedPathLen
            pathHops := wirePathHashCount learnedPathLen
            pathAgeMs := pathAgeMs
            pathGeneration := 0
            reason := .directProven }

/-- Whether the retained life cycle lets the path be looked at, and the reason when it does not. -/
def canonicalGate (pathKnown : Bool) (lifecycle : Nat) : Bool × SelectionReason :=
  if lifecycle = pathStateNone then
    (false, if pathKnown then .floodMalformedPath else .none)
  else if lifecycle = pathStateExpired then (false, .floodExpiredPath)
  else if lifecycle = pathStateFailed then (false, .floodFailedPath)
  else if lifecycle ≠ pathStateValid || !pathKnown then (false, .floodMalformedPath)
  else (pathKnown, .none)

/-- A reason the life cycle forces, with the age of a path that was given up. -/
def forceReason (selection : RouteSelection) (forcedReason : SelectionReason)
    (state : PathState) (nowMs : Nat) : RouteSelection :=
  if forcedReason = .none then selection
  else if forcedReason = .floodExpiredPath ∨ forcedReason = .floodFailedPath then
    { selection with reason := forcedReason, pathAgeMs := ageMs (validatedAtMs state) nowMs }
  else { selection with reason := forcedReason }

/-- `d1l_meshcore_route_select_canonical` -/
def routeSelectCanonical (pathKnown learnedThisBoot : Bool) (path : Option (List UInt8))
    (pathLen : UInt8) (state : PathState) (nowMs floodPathHashBytes : Nat) :
    Option RouteSelection :=
  let gate := canonicalGate pathKnown state.lifecycle
  (routeSelect gate.1 learnedThisBoot path pathLen (validatedAtMs state) nowMs
      floodPathHashBytes).map fun selection =>
    { forceReason selection gate.2 state nowMs with pathGeneration := state.generation }

theorem routeSelect_direct {known boot : Bool} {path : Option (List UInt8)} {pathLen : UInt8}
    {learnedAtMs nowMs floodBytes : Nat} {selection : RouteSelection}
    (h : routeSelect known boot path pathLen learnedAtMs nowMs floodBytes = some selection)
    (hdirect : selection.route = .direct) :
    known = true ∧ boot = true ∧ wirePathLenValid pathLen = true ∧
      ageMs learnedAtMs nowMs ≤ directPathMaxAgeMs := by
  unfold routeSelect at h
  -- every branch but the last keeps the route of `floodSelection`
  by_cases hpolicy : (!floodPolicyValid floodBytes) = true
  · rw [if_pos hpolicy] at h
    cases h
  rw [if_neg hpolicy] at h
  cases known with
  | false =>
    cases h
    cases hdirect
  | true =>
    cases hwire : wirePathLenValid pathLen with
    | false =>
      rw [hwire] at h
      cases h
      cases hdirect
    | true =>
      simp only [hwire, Bool.not_true, Bool.false_or, Bool.false_eq_true, if_false, if_true] at h
      split_ifs at h with hbytes hboot hstale
      · cases h
        cases hdirect
      · cases h
        cases hdirect
      · cases h
        cases hdirect
      · exact ⟨rfl, by simpa using hboot, rfl, Nat.le_of_not_lt hstale⟩

theorem canonicalGate_fst {pathKnown : Bool} {lifecycle : Nat}
    (h : (canonicalGate pathKnown lifecycle).1 = true) :
    lifecycle = pathStateValid ∧ pathKnown = true := by
  unfold canonicalGate at h
  split_ifs at h with hnone hexpired hfailed hvalid
  simp only [Bool.or_eq_true, decide_eq_true_eq, not_or, not_not, Bool.not_eq_true',
    Bool.not_eq_false] at hvalid
  exact hvalid

theorem forceReason_route (selection : RouteSelection) (forcedReason : SelectionReason)
    (state : PathState) (nowMs : Nat) :
    (forceReason selection forcedReason state nowMs).route = selection.route := by
  unfold forceReason
  split_ifs <;> rfl

theorem routeSelectCanonical_direct {known boot : Bool} {path : Option (List UInt8)}
    {pathLen : UInt8} {state : PathState} {nowMs floodBytes : Nat} {selection : RouteSelection}
    (h : routeSelectCanonical known boot path pathLen state nowMs floodBytes = some selection)
    (hdirect : selection.route = .direct) :
    known = true ∧ boot = true ∧ wirePathLenValid pathLen = true ∧
      state.lifecycle = pathStateValid ∧
      ageMs (validatedAtMs state) nowMs ≤ directPathMaxAgeMs := by
  obtain ⟨inner, hinner, hsel⟩ := Option.map_eq_some_iff.mp h
  have hroute : inner.route = .direct := by
    rw [← hdirect, ← hsel]
    exact (forceReason_route ..).symm
  obtain ⟨hgate, hboot, hwire, hage⟩ := routeSelect_direct hinner hroute
  obtain ⟨hvalid, hknown⟩ := canonicalGate_fst hgate
  exact ⟨hknown, hboot, hwire, hvalid, hage⟩

end Sigui.MeshPath

import Sigui.Nvs
import Sigui.ProtocolMigration

/-! The core of the time service: the wall clock, the protocol timestamps it may lift, and the
reservation that a timestamp needs. -/
namespace Sigui.Time

open Nvs
open Migration (timestampBase reservationSize)

def int64Max : Int := 0x7FFFFFFFFFFFFFFF
def wallMinEpoch : Int := 1704067200
def sntpMaxForwardSec : Int := 2592000
def sntpMinProtocolHeadroomSec : Int := 316224000
def sntpMaxProtocolEpoch : Int := uint32Max - sntpMinProtocolHeadroomSec

inductive Validity
  | unset
  | monotonicOnly
  | approximate
  | networkValidated
  | companionValidated
  deriving DecidableEq

inductive Source
  | none
  | bootMonotonic
  | retainedAuthenticated
  | sntp
  | companionAuthenticated
  | retainedValidatedCheckpoint
  deriving DecidableEq

inductive PersistenceState
  | uninitialized
  | fresh
  | ready
  | migrationRequired
  | corrupt
  | storageError
  deriving DecidableEq

inductive WallAdmission
  | sequenceOnly
  | approximateIgnored
  | sntpAdmitted
  | sntpForwardBlocked
  | companionAuthorized
  | unrepresentable
  deriving DecidableEq

structure Core where
  bootMonotonicUs : Nat
  lastMonotonicUs : Nat
  wallAnchorMonotonicUs : Nat
  wallAnchorEpochSec : Int
  buildEpochSec : Nat
  wallGeneration : Nat
  protocolNext : Nat
  protocolReservedThrough : Nat
  protocolTrustAnchor : Nat
  protocolSntpCeiling : Nat
  wallValidity : Validity
  wallSource : Source
  protocolWallAdmission : WallAdmission
  wallSet : Bool
  protocolStarted : Bool
  protocolExhausted : Bool
  deriving DecidableEq

def Core.zero : Core :=
  ⟨0, 0, 0, 0, 0, 0, 0, 0, 0, 0, .unset, .none, .sequenceOnly, false, false, false⟩

def wallPairValid : Validity → Source → Bool
  | .approximate, source =>
    source = .retainedAuthenticated ∨ source = .retainedValidatedCheckpoint
  | .networkValidated, source => source = .sntp
  | .companionValidated, source => source = .companionAuthenticated
  | _, _ => false

/-- `d1l_time_core_certificate_validity` -/
def certificateValidity (validity : Validity) : Bool :=
  validity = .networkValidated ∨ validity = .companionValidated

def wallAt (core : Core) (nowUs : Nat) : Int :=
  let elapsedSec : Int := ((nowUs - core.wallAnchorMonotonicUs) / 1000000 : Nat)
  if int64Max < elapsedSec ∨ int64Max - elapsedSec < core.wallAnchorEpochSec then int64Max
  else core.wallAnchorEpochSec + elapsedSec

def reservationThrough (first : Nat) : Nat :=
  let extra := reservationSize - 1
  if uint32Max - first < extra then uint32Max else first + extra

def sntpCeiling (anchor : Nat) : Nat :=
  let ceiling : Int := anchor + sntpMaxForwardSec
  (if sntpMaxProtocolEpoch < ceiling then sntpMaxProtocolEpoch else ceiling).toNat

def admissionHasContinuousAnchor (admission : WallAdmission) : Bool :=
  admission = .sntpAdmitted ∨ admission = .companionAuthorized

def protocolTrustAnchorAt (core : Core) (nowUs : Nat) : Nat :=
  let anchor := max core.buildEpochSec core.protocolReservedThrough
  if core.wallSet ∧ admissionHasContinuousAnchor core.protocolWallAdmission then
    let currentWall := wallAt core nowUs
    if (anchor : Int) < currentWall then
      if (uint32Max : Int) < currentWall then uint32Max else currentWall.toNat
    else anchor
  else anchor

/-- `d1l_time_core_observe_monotonic` -/
def observeMonotonic (core : Core) (observedNowUs : Nat) : Core :=
  if core.lastMonotonicUs < observedNowUs then { core with lastMonotonicUs := observedNowUs }
  else core

/-- `d1l_time_core_preflight_wall` -/
def preflightWall (core : Core) (epochSec : Int) (validity : Validity) (source : Source) :
    EspErr :=
  if epochSec < wallMinEpoch ∨ ¬ wallPairValid validity source then espErrInvalidArg
  else if core.wallGeneration = uint32Max then espErrInvalidState
  else espOk

/-- How `d1l_time_core_set_wall` admits a wall time into the protocol. -/
def admissionOf (epochSec : Int) (source : Source) (ceiling : Nat) : WallAdmission :=
  if source = .sntp then
    if epochSec ≤ ceiling then .sntpAdmitted else .sntpForwardBlocked
  else if source = .companionAuthenticated then
    if epochSec ≤ uint32Max then .companionAuthorized else .unrepresentable
  else .approximateIgnored

/-- `d1l_time_core_set_wall` -/
def setWall (core : Core) (epochSec : Int) (observedNowUs : Nat) (validity : Validity)
    (source : Source) : EspErr × Core :=
  let preflight := preflightWall core epochSec validity source
  if preflight ≠ espOk then (preflight, core)
  else
    let core := observeMonotonic core observedNowUs
    let trustAnchor := protocolTrustAnchorAt core core.lastMonotonicUs
    let ceiling := sntpCeiling trustAnchor
    (espOk, { core with
      wallAnchorMonotonicUs := core.lastMonotonicUs
      wallAnchorEpochSec := epochSec
      protocolTrustAnchor := trustAnchor
      protocolSntpCeiling := ceiling
      protocolWallAdmission := admissionOf epochSec source ceiling
      wallValidity := validity
      wallSource := source
      wallSet := true
      wallGeneration := core.wallGeneration + 1 })

/-- `d1l_time_core_set_wall_if_generation` -/
def setWallIfGeneration (core : Core) (expectedGeneration : Nat) (epochSec : Int)
    (observedNowUs : Nat) (validity : Validity) (source : Source) : EspErr × Core :=
  if core.wallGeneration ≠ expectedGeneration then (espErrInvalidState, core)
  else setWall core epochSec observedNowUs validity source

/-- A wall time that is only a lower bound: it gives way to a validated or a later one. -/
def raiseWall (core : Core) (epochSec : Int) (source : Source) : EspErr × Core :=
  if core.wallSet ∧ (certificateValidity core.wallValidity ∨
      epochSec ≤ wallAt core core.lastMonotonicUs) then (espOk, core)
  else setWall core epochSec core.lastMonotonicUs .approximate source

/-- `d1l_time_core_note_authenticated_lower_bound` -/
def noteAuthenticatedLowerBound (core : Core) (epochSec : Int) (observedNowUs : Nat) :
    EspErr × Core :=
  if epochSec < wallMinEpoch then (espErrInvalidArg, core)
  else raiseWall (observeMonotonic core observedNowUs) epochSec .retainedAuthenticated

/-- The guard of `d1l_time_core_recover_retained_checkpoint`. -/
def RecoverRejects (core : Core) (epochSec : Int) (reservedAtCommit : Nat) : Prop :=
  epochSec < wallMinEpoch ∨ reservedAtCommit < timestampBase ∨
    core.protocolReservedThrough < reservedAtCommit

instance (core : Core) (epochSec : Int) (n : Nat) : Decidable (RecoverRejects core epochSec n) := by
  unfold RecoverRejects; infer_instance

/-- `d1l_time_core_recover_retained_checkpoint` -/
def recoverRetainedCheckpoint (core : Core) (epochSec : Int) (reservedAtCommit observedNowUs : Nat) :
    EspErr × Core :=
  if RecoverRejects core epochSec reservedAtCommit then (espErrInvalidArg, core)
  else raiseWall (observeMonotonic core observedNowUs) epochSec .retainedValidatedCheckpoint

/-- `d1l_time_core_wall_checkpoint_eligible` -/
def wallCheckpointEligible (core : Core) : Bool :=
  core.wallSet ∧
    (core.wallValidity = .networkValidated ∧ core.wallSource = .sntp ∧
        core.protocolWallAdmission = .sntpAdmitted ∨
      core.wallValidity = .companionValidated ∧ core.wallSource = .companionAuthenticated ∧
        core.protocolWallAdmission = .companionAuthorized)

def protocolCandidateAt (core : Core) (observedNowUs : Nat) : Except EspErr Nat :=
  if core.protocolExhausted then .error espErrInvalidState
  else
    let nowUs := max observedNowUs core.lastMonotonicUs
    let candidate := core.protocolNext
    if core.wallSet ∧ certificateValidity core.wallValidity ∧
        (candidate : Int) < wallAt core nowUs then
      if (uint32Max : Int) < wallAt core nowUs ∨
          core.protocolWallAdmission = .sntpForwardBlocked ∨
          core.protocolWallAdmission = .unrepresentable then .error espErrInvalidState
      else if core.protocolWallAdmission = .sntpAdmitted ∨
          core.protocolWallAdmission = .companionAuthorized then .ok (wallAt core nowUs).toNat
      else .ok candidate
    else .ok candidate

/-- `d1l_time_core_init` -/
def coreInit (core : Core) (nowUs buildEpochSec : Nat) : EspErr × Core :=
  if buildEpochSec < timestampBase ∨ sntpMaxProtocolEpoch < buildEpochSec then
    (espErrInvalidArg, core)
  else
    (espOk, { Core.zero with
      bootMonotonicUs := nowUs
      lastMonotonicUs := nowUs
      buildEpochSec := buildEpochSec
      wallValidity := .monotonicOnly
      wallSource := .bootMonotonic
      protocolWallAdmission := .sequenceOnly
      protocolNext := max (timestampBase + 1) buildEpochSec
      protocolReservedThrough := timestampBase
      protocolTrustAnchor := buildEpochSec
      protocolSntpCeiling := sntpCeiling buildEpochSec })

/-- `d1l_time_core_classify_protocol_seed` -/
def classifyProtocolSeed (legacyPresent highWaterPresent : Bool) (highWater : Nat) :
    PersistenceState :=
  if legacyPresent then .migrationRequired
  else if ¬ highWaterPresent then .fresh
  else if timestampBase ≤ highWater then .ready else .corrupt

/-- `d1l_time_core_seed_protocol` -/
def seedProtocol (core : Core) (persisted : Bool) (reservedThrough : Nat) : EspErr × Core :=
  if core.protocolStarted then (espErrInvalidState, core)
  else
    let seeded :=
      if ¬ persisted ∨ reservedThrough < timestampBase then
        { core with
          protocolNext := max (timestampBase + 1) core.buildEpochSec
          protocolReservedThrough := timestampBase
          protocolExhausted := false }
      else if reservedThrough = uint32Max then
        { core with
          protocolReservedThrough := reservedThrough
          protocolNext := uint32Max
          protocolExhausted := true }
      else
        { core with
          protocolReservedThrough := reservedThrough
          protocolNext := max (reservedThrough + 1) core.buildEpochSec
          protocolExhausted := false }
    let trustAnchor := max core.buildEpochSec seeded.protocolReservedThrough
    (espOk, { seeded with
      protocolTrustAnchor := trustAnchor
      protocolSntpCeiling := sntpCeiling trustAnchor })

/-- `d1l_time_core_preflight_protocol_timestamp` -/
def preflightProtocolTimestamp (core : Core) (observedNowUs : Nat) : EspErr :=
  match protocolCandidateAt core observedNowUs with
  | .error code => code
  | .ok _ => espOk

/-- The core once `reservedThrough` has been reserved. -/
def Core.reserved (core : Core) (reservedThrough : Nat) : Core :=
  let trustAnchor := max core.buildEpochSec reservedThrough
  { core with
    protocolReservedThrough := reservedThrough
    protocolTrustAnchor := trustAnchor
    protocolSntpCeiling := sntpCeiling trustAnchor }

/-- The core once `candidate` has been handed out. -/
def Core.issued (core : Core) (candidate : Nat) : Core :=
  if candidate = uint32Max then { core with protocolStarted := true, protocolExhausted := true }
  else { core with protocolStarted := true, protocolNext := candidate + 1 }

/-- `d1l_time_core_next_protocol_timestamp`, with the timestamp of a successful call. The callback
`reserve` has a context of its own. -/
def nextProtocolTimestamp {σ ρ : Type} (core : Core) (observedNowUs : Nat) (context : ρ)
    (reserve : ρ → Nat → Io σ (EspErr × ρ)) : Io σ (EspErr × Option Nat × Core × ρ) :=
  let core := observeMonotonic core observedNowUs
  match protocolCandidateAt core core.lastMonotonicUs with
  | .error code => pure (code, none, core, context)
  | .ok candidate =>
    if core.protocolReservedThrough < candidate then do
      let (ret, context) ← reserve context (reservationThrough candidate)
      if ret ≠ espOk then pure (ret, none, core, context)
      else
        pure (espOk, some candidate,
          (core.reserved (reservationThrough candidate)).issued candidate, context)
    else pure (espOk, some candidate, core.issued candidate, context)

section Rules

variable {core : Core} {candidate nowUs : Nat}

theorem le_reservationThrough (h : candidate ≤ uint32Max) :
    candidate ≤ reservationThrough candidate ∧ reservationThrough candidate ≤ uint32Max := by
  unfold reservationThrough
  dsimp only
  split_ifs <;> omega

theorem protocolCandidateAt_ok (hnext : core.protocolNext ≤ uint32Max)
    (h : protocolCandidateAt core nowUs = .ok candidate) :
    core.protocolExhausted = false ∧ core.protocolNext ≤ candidate ∧ candidate ≤ uint32Max := by
  unfold protocolCandidateAt at h
  dsimp only at h
  split_ifs at h with hexhausted hwall hblocked hadmitted
  · obtain rfl := Except.ok.inj h
    have hlow := hwall.2.2
    have hhigh : ¬ (uint32Max : Int) < wallAt core (max nowUs core.lastMonotonicUs) :=
      fun hh => hblocked (.inl hh)
    refine ⟨by simpa using hexhausted, ?_, ?_⟩ <;> omega
  · obtain rfl := Except.ok.inj h
    exact ⟨by simpa using hexhausted, Nat.le_refl _, hnext⟩
  · obtain rfl := Except.ok.inj h
    exact ⟨by simpa using hexhausted, Nat.le_refl _, hnext⟩

theorem protocolCandidateAt_error {code : EspErr}
    (h : protocolCandidateAt core nowUs = .error code) : code ≠ espOk := by
  unfold protocolCandidateAt at h
  dsimp only at h
  split_ifs at h <;> exact Except.error.inj h ▸ (by decide)

theorem protocolCandidateAt_observed (core : Core) (nowUs : Nat) :
    protocolCandidateAt (observeMonotonic core nowUs) (observeMonotonic core nowUs).lastMonotonicUs =
      protocolCandidateAt core nowUs := by
  unfold observeMonotonic
  split_ifs with hlater
  · have hmax : max nowUs core.lastMonotonicUs = nowUs := by omega
    unfold protocolCandidateAt
    dsimp only
    rw [hmax, Nat.max_self]
    rfl
  · have hmax : max nowUs core.lastMonotonicUs = core.lastMonotonicUs := by omega
    unfold protocolCandidateAt
    rw [hmax, Nat.max_self]

end Rules

end Sigui.Time

import Sigui.TimeCheckpoint

/-! The time service: its variables, the sections its calls run under the time mutex, and the
device that runs them boot after boot. -/
namespace Sigui.Time

open Nvs
open Migration (timestampBase)
open WallCheckpoint (Checkpoint Saved)

def checkpointRetryBackoffUs : Nat := 30000000
def uint64Max : Nat := 0xFFFFFFFFFFFFFFFF

structure Flash where
  protocol : Migration.Flash
  checkpoint : WallCheckpoint.Flash
  deriving DecidableEq

def onProtocol {α : Type} (m : Io Migration.Flash α) : Io Flash α :=
  m.zoom Flash.protocol fun t s => { s with protocol := t }

def onCheckpoint {α : Type} (m : Io WallCheckpoint.Flash α) : Io Flash α :=
  m.zoom Flash.checkpoint fun t s => { s with checkpoint := t }

/-- The variables of the service in RAM, and the build epoch of the firmware. -/
structure Ram where
  buildEpochSec : Nat
  core : Core
  initialized : Bool
  protocolSeedReady : Bool
  persistenceState : PersistenceState
  persistenceError : EspErr
  migrationStatus : Migration.Status
  checkpointStatus : WallCheckpoint.Status
  checkpointRecoveryError : EspErr
  checkpointLoadAttempted : Bool
  checkpointRecovered : Bool
  pending : Checkpoint
  pendingGeneration : Nat
  retryNotBeforeUs : Nat
  dirty : Bool
  writeBlocked : Bool
  deriving DecidableEq

def Ram.booted (buildEpochSec : Nat) : Ram where
  buildEpochSec := buildEpochSec
  core := .zero
  initialized := false
  protocolSeedReady := false
  persistenceState := .uninitialized
  persistenceError := espErrInvalidState
  migrationStatus := .cleared
  checkpointStatus := .cleared
  checkpointRecoveryError := espErrInvalidState
  checkpointLoadAttempted := false
  checkpointRecovered := false
  pending := .zero
  pendingGeneration := 0
  retryNotBeforeUs := 0
  dirty := false
  writeBlocked := false

def migrationBlock (state : Migration.State) : Prop := state = .required ∨ state = .pending

def migrationQuarantine (state : Migration.State) : Prop :=
  state = .quarantinedNewerSchema ∨ state = .quarantinedMalformed ∨
    state = .quarantinedChecksum ∨ state = .quarantinedDowngrade ∨ state = .revisionSaturated

instance (state : Migration.State) : Decidable (migrationBlock state) := by
  unfold migrationBlock; infer_instance

instance (state : Migration.State) : Decidable (migrationQuarantine state) := by
  unfold migrationQuarantine; infer_instance

/-- The end of `load_protocol_seed_locked`. -/
def Ram.seedLoaded (ram : Ram) (ret : EspErr) (core : Core) (state : PersistenceState) : Ram :=
  { ram with
    core := core
    persistenceState :=
      if ret ≠ espOk ∧ state ≠ .migrationRequired ∧ state ≠ .corrupt then .storageError else state
    protocolSeedReady := ret = espOk
    persistenceError := ret }

/-- `load_protocol_seed_locked` once the migration has been inspected. -/
def Ram.seed (ram : Ram) (inspected : EspErr × Migration.Status) : EspErr × Ram :=
  let status := inspected.2
  let ram := { ram with migrationStatus := status }
  if inspected.1 = espOk ∧ (status.state = .absent ∨ status.state = .complete) then
    let reservedThrough :=
      if status.highWaterPresent then status.observedHighWater else timestampBase
    let state := classifyProtocolSeed false status.highWaterPresent reservedThrough
    match state with
    | .fresh =>
      let (ret, core) := seedProtocol ram.core false timestampBase
      (ret, ram.seedLoaded ret core state)
    | .ready =>
      let (ret, core) := seedProtocol ram.core true reservedThrough
      (ret, ram.seedLoaded ret core state)
    | _ => (espErrInvalidState, ram.seedLoaded espErrInvalidState ram.core state)
  else
    let state :=
      if inspected.1 = espOk then .migrationRequired
      else if migrationBlock status.state then .migrationRequired
      else if migrationQuarantine status.state then .corrupt
      else .storageError
    let ret := if inspected.1 = espOk then espErrInvalidState else inspected.1
    (ret, ram.seedLoaded ret ram.core state)

/-- `load_protocol_seed_locked` -/
def loadProtocolSeed (ram : Ram) : Io Flash (EspErr × Ram) := do
  let inspected ← onProtocol Migration.inspect
  pure (ram.seed inspected)

/-- `load_wall_checkpoint_locked` once the checkpoint has been loaded. -/
def Ram.recover (ram : Ram) (loaded : WallCheckpoint.Loaded) (nowUs : Nat) : Ram :=
  let ram := { ram with
    checkpointLoadAttempted := true
    checkpointStatus := loaded.status
    checkpointRecoveryError := loaded.ret }
  if loaded.ret ≠ espOk ∨ ¬ loaded.status.found then
    { ram with
      writeBlocked := loaded.status.state = .quarantinedNewerSchema ∨
        loaded.status.state = .quarantinedMalformed ∨ loaded.status.state = .quarantinedChecksum }
  else
    let (ret, core) := recoverRetainedCheckpoint ram.core loaded.checkpoint.epochSec
      loaded.checkpoint.protocolReservedThrough nowUs
    { ram with
      core := core
      checkpointRecoveryError := ret
      writeBlocked := ret ≠ espOk
      checkpointRecovered := ret = espOk ∧ core.wallSet ∧
        core.wallSource = .retainedValidatedCheckpoint }

/-- `load_wall_checkpoint_locked` -/
def loadWallCheckpoint (ram : Ram) (nowUs : Nat) : Io Flash Ram :=
  if ram.checkpointLoadAttempted then pure ram
  else do
    let loaded ← onCheckpoint WallCheckpoint.load
    pure (ram.recover loaded nowUs)

/-- `queue_validated_wall_checkpoint_locked` -/
def Ram.queueCheckpoint (ram : Ram) (epochSec : Int) (source : WallCheckpoint.Source) : Ram :=
  if ram.writeBlocked then ram
  else if ram.pendingGeneration = uint64Max then ram
  else
    { ram with
      pending := ⟨epochSec, ram.core.protocolReservedThrough, source⟩
      pendingGeneration := ram.pendingGeneration + 1
      dirty := true }

/-- A flush between its two locked sections: what it copied, and what the save returned. -/
structure Flight where
  copy : Checkpoint
  generation : Nat
  startedUs : Nat
  saved : Option Saved
  deriving DecidableEq

/-- The first locked section of `flush_wall_checkpoint`. -/
def Ram.flushBegin (ram : Ram) (force : Bool) (nowUs : Nat) : Option Flight :=
  if ¬ ram.dirty then none
  else if ¬ force ∧ nowUs < ram.retryNotBeforeUs then none
  else some ⟨ram.pending, ram.pendingGeneration, nowUs, none⟩

def permanentFailure (state : WallCheckpoint.State) : Prop :=
  state = .quarantinedNewerSchema ∨ state = .quarantinedMalformed ∨
    state = .quarantinedChecksum ∨ state = .revisionSaturated

instance (state : WallCheckpoint.State) : Decidable (permanentFailure state) := by
  unfold permanentFailure; infer_instance

/-- The second locked section of `flush_wall_checkpoint`. -/
def Ram.flushEnd (ram : Ram) (flight : Flight) (saved : Saved) : Ram :=
  let ram := { ram with
    checkpointStatus :=
      if ram.checkpointStatus.revision ≤ saved.status.revision ∨
          ram.checkpointStatus.state = WallCheckpoint.State.uninitialized then saved.status
      else ram.checkpointStatus }
  if saved.ret = espOk then
    { ram with
      retryNotBeforeUs := 0
      dirty := if flight.generation = ram.pendingGeneration then false else ram.dirty }
  else if permanentFailure saved.status.state then
    { ram with
      writeBlocked := true
      dirty := if flight.generation = ram.pendingGeneration then false else ram.dirty }
  else
    { ram with
      retryNotBeforeUs :=
        if uint64Max - flight.startedUs < checkpointRetryBackoffUs then uint64Max
        else flight.startedUs + checkpointRetryBackoffUs }

/-- The seed, loaded unless it is ready; `ret` is what the call has so far. -/
def ensureSeed (ram : Ram) (ret : EspErr) : Io Flash (EspErr × Ram) :=
  if ram.protocolSeedReady then pure (ret, ram) else loadProtocolSeed ram

/-- `d1l_time_service_init`, with the two readings of the monotonic clock it may make. -/
def serviceInit (ram : Ram) (nowUs checkpointUs : Nat) : Io Flash (EspErr × Ram) :=
  let started := if ram.initialized then (espOk, ram.core)
    else coreInit ram.core nowUs ram.buildEpochSec
  if started.1 ≠ espOk then pure (started.1, ram)
  else do
    let ram := { ram with core := started.2, initialized := true }
    let (ret, ram) ← ensureSeed ram espOk
    if ram.protocolSeedReady then
      let ram ← loadWallCheckpoint ram checkpointUs
      pure (ret, ram)
    else pure (ret, ram)

/-- The locked section of `d1l_time_service_preflight_protocol_timestamp`. -/
def preflightSection (ram : Ram) (ret : EspErr) (nowUs : Nat) : Io Flash (EspErr × Ram) := do
  let (ret, ram) ← ensureSeed ram ret
  if ret = espOk then pure (preflightProtocolTimestamp ram.core nowUs, ram)
  else pure (ret, ram)

def reserveProtocolRange (ram : Ram) (reservedThrough : Nat) : Io Flash (EspErr × Ram) := do
  let ret ← onProtocol
    (transact Migration.Flash.createProtocol (Migration.Flash.setHighWater · reservedThrough))
  if ret = espOk then
    pure (ret, { ram with
      persistenceState := .ready
      persistenceError := ret
      migrationStatus := { ram.migrationStatus with
        highWaterPresent := true, observedHighWater := reservedThrough } })
  else pure (ret, { ram with persistenceState := .storageError, persistenceError := ret })

/-- The locked section of `d1l_time_service_next_protocol_timestamp`. -/
def nextSection (ram : Ram) (ret : EspErr) (nowUs : Nat) :
    Io Flash (EspErr × Option Nat × Ram) := do
  let (ret, ram) ← ensureSeed ram ret
  if ret = espOk then
    let (ret, timestamp, core, ram) ←
      nextProtocolTimestamp ram.core nowUs ram reserveProtocolRange
    pure (ret, timestamp, { ram with core := core })
  else pure (ret, none, ram)

/-- `d1l_time_service_preflight_protocol_timestamp`, its two sections one after the other. -/
def servicePreflight (ram : Ram) (initUs checkpointUs nowUs : Nat) : Io Flash (EspErr × Ram) := do
  let (ret, ram) ← serviceInit ram initUs checkpointUs
  if ret ≠ espOk ∧ ¬ ram.protocolSeedReady then pure (ret, ram)
  else preflightSection ram ret nowUs

/-- `d1l_time_service_next_protocol_timestamp`, its two sections one after the other. -/
def serviceNext (ram : Ram) (initUs checkpointUs nowUs : Nat) :
    Io Flash (EspErr × Option Nat × Ram) := do
  let (ret, ram) ← serviceInit ram initUs checkpointUs
  if ret ≠ espOk ∧ ¬ ram.protocolSeedReady then pure (ret, none, ram)
  else nextSection ram ret nowUs

/-- The locked section of `d1l_time_service_migrate_legacy_protocol_timestamp`. -/
def migrateSection (ram : Ram) (request : Migration.Request) (nowUs : Nat) :
    Io Flash (EspErr × Ram) :=
  if ram.core.protocolStarted ∧ ram.migrationStatus.state ≠ .complete then
    pure (espErrInvalidState, ram)
  else do
    let out ← onProtocol (Migration.run request)
    let ram := { ram with migrationStatus := out.status }
    if out.ret = espOk ∧ ¬ ram.protocolSeedReady then
      let (ret, ram) ← loadProtocolSeed ram
      if ret = espOk then
        let ram ← loadWallCheckpoint ram nowUs
        pure (ret, ram)
      else pure (ret, ram)
    else pure (out.ret, ram)

/-- `snapshot_certificate_valid_locked` of the core once it has observed the clock. -/
def snapshotCertificateValid (core : Core) : Bool :=
  core.wallSet ∧ certificateValidity core.wallValidity ∧
    wallMinEpoch ≤ wallAt core core.lastMonotonicUs

/-- `accept_sntp_system_time`: `wall` is the system clock, `setUs` and `readyUs` the readings of
the monotonic clock. -/
def acceptSntp (ram : Ram) (expectedGeneration : Nat) (wall : Int64) (setUs readyUs : Nat) :
    EspErr × Ram :=
  if ram.core.wallGeneration ≠ expectedGeneration then
    let core := observeMonotonic ram.core readyUs
    (if snapshotCertificateValid core then espOk else espErrNotFinished, { ram with core := core })
  else if wall.toInt < wallMinEpoch then (espErrNotFinished, ram)
  else
    let (ret, core) := setWallIfGeneration ram.core expectedGeneration wall.toInt setUs
      .networkValidated .sntp
    if ret ≠ espOk then (ret, { ram with core := core })
    else
      let core := observeMonotonic core readyUs
      let ram := { ram with core := core }
      if ¬ snapshotCertificateValid core then (espErrInvalidState, ram)
      else if wallCheckpointEligible core then (espOk, ram.queueCheckpoint wall.toInt .sntp)
      else (espOk, ram)

/-- The locked section of `d1l_time_service_set_companion_time`; `clockSet` says whether
`settimeofday` succeeds. -/
def setCompanionTime (ram : Ram) (epochSec : Int64) (clockSet : Bool) (nowUs : Nat) :
    EspErr × Ram :=
  let preflight := preflightWall ram.core epochSec.toInt .companionValidated
    .companionAuthenticated
  if preflight ≠ espOk then (preflight, ram)
  else if ¬ clockSet then (espFail, ram)
  else
    let (ret, core) := setWall ram.core epochSec.toInt nowUs .companionValidated
      .companionAuthenticated
    let ram := { ram with core := core }
    if ret = espOk ∧ wallCheckpointEligible core then
      (ret, ram.queueCheckpoint epochSec.toInt .companionAuthenticated)
    else (ret, ram)

/-- The device: its flash, its RAM while it runs, the flushes in flight, and the timestamps it has
handed out with the flash at that moment, the newest first. -/
structure Device where
  flash : Flash
  ram : Option Ram
  flights : List Flight
  issued : List (Nat × Flash)
  deriving DecidableEq

abbrev Answers := List (Answer Fault Bool)

inductive Event
  | boot (buildEpochSec : Nat)
  | powerLoss
  | init (nowUs checkpointUs : Nat) (answers : Answers)
  | preflight (ret : EspErr) (nowUs : Nat) (answers : Answers)
  | next (ret : EspErr) (nowUs : Nat) (answers : Answers)
  | migrate (request : Migration.Request) (nowUs : Nat) (answers : Answers)
  | sntp (expectedGeneration : Nat) (wall : Int64) (setUs readyUs : Nat)
  | companion (epochSec : Int64) (authenticated clockSet : Bool) (nowUs : Nat)
  | lowerBound (epochSec : Int64) (authenticated : Bool) (nowUs : Nat)
  | observe (nowUs : Nat)
  | flushBegin (force : Bool) (nowUs : Nat)
  | flushSave (flight : Nat) (answers : Answers)
  | flushEnd (flight : Nat)

def Device.off (d : Device) : Device := { d with ram := none, flights := [] }

/-- A program over the flash: when the power is lost in it, what it wrote is all that stays. -/
def Device.perform {α : Type} (d : Device) (answers : Answers) (m : Io Flash α)
    (done : α → Device → Device) : Device :=
  match m answers d.flash with
  | (some a, _, flash) => done a { d with flash := flash }
  | (none, _, flash) => { d with flash := flash }.off

def Device.withRam (d : Device) (ram : Ram) : Device := { d with ram := some ram }

/-- One section while the device runs. Every call goes through the init first, so the others find
the service initialized. -/
def Device.run (d : Device) (ram : Ram) : Event → Device
  | .boot buildEpochSec => { d.off with ram := some (.booted buildEpochSec) }
  | .powerLoss => d.off
  | .init nowUs checkpointUs answers =>
    d.perform answers (serviceInit ram nowUs checkpointUs) fun r d => d.withRam r.2
  | .preflight ret nowUs answers =>
    if ram.initialized then
      d.perform answers (preflightSection ram ret nowUs) fun r d => d.withRam r.2
    else d
  | .next ret nowUs answers =>
    if ram.initialized then
      d.perform answers (nextSection ram ret nowUs) fun r d =>
        { d.withRam r.2.2 with issued := (r.2.1.map (·, d.flash)).toList ++ d.issued }
    else d
  | .migrate request nowUs answers =>
    if ram.initialized then
      d.perform answers (migrateSection ram request nowUs) fun r d => d.withRam r.2
    else d
  | .sntp expectedGeneration wall setUs readyUs =>
    if ram.initialized then d.withRam (acceptSntp ram expectedGeneration wall setUs readyUs).2
    else d
  | .companion epochSec authenticated clockSet nowUs =>
    if ram.initialized ∧ authenticated ∧ wallMinEpoch ≤ epochSec.toInt then
      d.withRam (setCompanionTime ram epochSec clockSet nowUs).2
    else d
  | .lowerBound epochSec authenticated nowUs =>
    if ram.initialized ∧ authenticated ∧ wallMinEpoch ≤ epochSec.toInt then
      d.withRam { ram with
        core := (noteAuthenticatedLowerBound ram.core epochSec.toInt nowUs).2 }
    else d
  | .observe nowUs =>
    if ram.initialized then d.withRam { ram with core := observeMonotonic ram.core nowUs } else d
  | .flushBegin force nowUs =>
    if ram.initialized then { d with flights := d.flights ++ (ram.flushBegin force nowUs).toList }
    else d
  | .flushSave flight answers =>
    match d.flights[flight]? with
    | some f =>
      if f.saved.isNone then
        d.perform answers (onCheckpoint (WallCheckpoint.save f.copy)) fun saved d =>
          { d with flights := d.flights.set flight { f with saved := some saved } }
      else d
    | none => d
  | .flushEnd flight =>
    match d.flights[flight]? with
    | some f =>
      match f.saved with
      | some saved =>
        { d.withRam (ram.flushEnd f saved) with flights := d.flights.eraseIdx flight }
      | none => d
    | none => d

def Device.step (d : Device) (e : Event) : Device :=
  match d.ram, e with
  | some ram, e => d.run ram e
  | none, .boot buildEpochSec => { d with ram := some (.booted buildEpochSec) }
  | none, _ => d

end Sigui.Time

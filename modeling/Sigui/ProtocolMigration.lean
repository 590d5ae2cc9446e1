import Sigui.Nvs
import Sigui.SettingsEnvelope

/-! The migration of a predecessor's protocol timestamp: the receipt that records its progress,
the classification of what is on flash, and the call that takes the migration forward. -/
namespace Sigui.Migration

open Nvs

def timestampBase : Nat := 1767225600
def reservationSize : Nat := 64
def receiptSchemaVersion : Nat := 1
def domainMagic : Nat := 0x31474D54
def phaseIntent : Nat := 1
def phaseComplete : Nat := 2
def intentRevision : Nat := 1
def completeRevision : Nat := 2
def maxReceiptSize : Nat := 256
def payloadSize : Nat := 32

/-- `"CONFIRM-EXACT-DEVICE-PROTOCOL-UPPER-BOUND"` -/
def confirmationText : List UInt8 := Admin.ascii "CONFIRM-EXACT-DEVICE-PROTOCOL-UPPER-BOUND"

/-- The protocol's two values in the namespace `d1l_settings`. -/
structure ProtocolKeys where
  legacy : Option UInt32
  highWater : Option UInt32
  deriving DecidableEq

/-- The keys on flash, by namespace: a namespace that was never opened for writing is absent. -/
structure Flash where
  protocol : Option ProtocolKeys
  receipt : Option (Option (List UInt8))
  deriving DecidableEq

namespace Flash

variable (s : Flash)

def legacy : Option Nat := s.protocol.bind fun keys => keys.legacy.map UInt32.toNat
def highWater : Option Nat := s.protocol.bind fun keys => keys.highWater.map UInt32.toNat
def receiptBlob : Option (List UInt8) := s.receipt.join

def createProtocol : Flash := { s with protocol := some (s.protocol.getD ⟨none, none⟩) }
def createReceipt : Flash := { s with receipt := some s.receipt.join }

def setHighWater (value : Nat) : Flash :=
  { s with
    protocol := some { s.protocol.getD ⟨none, none⟩ with highWater := some (.ofNat value) } }

def eraseLegacy : Flash :=
  { s with protocol := s.protocol.map ({ · with legacy := none }) }

def setReceipt (blob : List UInt8) : Flash := { s with receipt := some (some blob) }

end Flash

structure Payload where
  schemaVersion : Nat
  domainMagic : Nat
  revision : Nat
  phase : Nat
  legacyValue : Nat
  confirmedUpperBound : Nat
  targetHighWater : Nat
  reserved : Nat
  deriving DecidableEq

def Payload.zero : Payload := ⟨0, 0, 0, 0, 0, 0, 0, 0⟩

def Payload.words (p : Payload) : List Nat :=
  [p.schemaVersion, p.domainMagic, p.revision, p.phase, p.legacyValue, p.confirmedUpperBound,
    p.targetHighWater, p.reserved]

def Payload.bytes (p : Payload) : List UInt8 := le32s p.words

def Payload.read (bytes : List UInt8) : Payload where
  schemaVersion := Admin.readLe32 bytes 0
  domainMagic := Admin.readLe32 bytes 4
  revision := Admin.readLe32 bytes 8
  phase := Admin.readLe32 bytes 12
  legacyValue := Admin.readLe32 bytes 16
  confirmedUpperBound := Admin.readLe32 bytes 20
  targetHighWater := Admin.readLe32 bytes 24
  reserved := Admin.readLe32 bytes 28

inductive State
  | uninitialized
  | absent
  | required
  | pending
  | complete
  | quarantinedNewerSchema
  | quarantinedMalformed
  | quarantinedChecksum
  | quarantinedDowngrade
  | storageError
  | revisionSaturated
  deriving DecidableEq

structure Status where
  state : State
  error : EspErr
  receiptSchemaVersion : Nat
  receiptPhase : Nat
  revision : Nat
  legacyValue : Nat
  observedLegacyValue : Nat
  confirmedUpperBound : Nat
  targetHighWater : Nat
  observedHighWater : Nat
  receiptFound : Bool
  legacyPresent : Bool
  highWaterPresent : Bool
  confirmationRequired : Bool
  resumeRequired : Bool
  writeBlocked : Bool
  intentCommitted : Bool
  completionCommitted : Bool
  deriving DecidableEq

/-- `clear_status` -/
def Status.cleared : Status :=
  ⟨.uninitialized, espErrInvalidState, 0, 0, 0, 0, 0, 0, 0, 0, false, false, false, false, false,
    false, false, false⟩

def Status.setState (status : Status) (state : State) (error : EspErr) : Status :=
  { status with
    state := state
    error := error
    confirmationRequired := state = .required
    resumeRequired := state = .pending
    writeBlocked := state ≠ .absent ∧ state ≠ .complete
    intentCommitted := state = .pending ∧ status.receiptFound ∧ status.receiptPhase = phaseIntent
    completionCommitted :=
      state = .complete ∧ status.receiptFound ∧ status.receiptPhase = phaseComplete }

def Payload.phaseValid (p : Payload) : Prop := p.phase = phaseIntent ∨ p.phase = phaseComplete

def Payload.revisionValid (p : Payload) : Prop :=
  p.phase = phaseIntent ∧ p.revision = intentRevision ∨
    p.phase = phaseComplete ∧ p.revision = completeRevision

def Payload.semanticValid (p : Payload) (headerRevision : Nat) : Prop :=
  p.schemaVersion = receiptSchemaVersion ∧ p.domainMagic = Migration.domainMagic ∧
    p.revision = headerRevision ∧ p.phaseValid ∧ p.revisionValid ∧
    timestampBase ≤ p.legacyValue ∧ p.legacyValue ≤ p.confirmedUpperBound ∧
    p.confirmedUpperBound ≤ uint32Max - reservationSize ∧
    p.targetHighWater = p.confirmedUpperBound ∧ p.reserved = 0

instance (p : Payload) : Decidable p.phaseValid := by unfold Payload.phaseValid; infer_instance

instance (p : Payload) : Decidable p.revisionValid := by
  unfold Payload.revisionValid; infer_instance

instance (p : Payload) (n : Nat) : Decidable (p.semanticValid n) := by
  unfold Payload.semanticValid; infer_instance

/-- What a step of `read_receipt` returns. -/
structure Reading where
  error : EspErr
  payload : Payload
  status : Status
  deriving DecidableEq

def Reading.quarantined (payload : Payload) (status : Status) (state : State) (error : EspErr) :
    Reading :=
  ⟨error, payload, status.setState state error⟩

/-- The part of `read_receipt` for a payload longer than the current one, under a header of the
current schema. -/
def readExtended (status : Status) (header : Envelope.Header) (extended : List UInt8) : Reading :=
  if header.payloadChecksum ≠ Envelope.checksum extended then
    .quarantined .zero status .quarantinedChecksum espFail
  else
    let extendedSchema := Admin.readLe32 extended 0
    let extendedDomain := Admin.readLe32 extended 4
    let status := { status with receiptSchemaVersion := extendedSchema }
    if extendedDomain ≠ domainMagic then
      .quarantined .zero status .quarantinedMalformed espErrInvalidArg
    else if receiptSchemaVersion < extendedSchema then
      .quarantined .zero status .quarantinedNewerSchema espErrNotSupported
    else if extendedSchema < receiptSchemaVersion then
      .quarantined .zero status .quarantinedDowngrade espErrInvalidState
    else .quarantined .zero status .quarantinedMalformed espErrInvalidSize

/-- The part of `read_receipt` after the envelope has been validated. -/
def readPayload (status : Status) (header : Envelope.Header) (payload : Payload) : Reading :=
  let status := { status with
    receiptSchemaVersion := payload.schemaVersion
    receiptPhase := payload.phase
    revision := payload.revision
    legacyValue := payload.legacyValue
    confirmedUpperBound := payload.confirmedUpperBound
    targetHighWater := payload.targetHighWater }
  if receiptSchemaVersion < payload.schemaVersion then
    .quarantined payload status .quarantinedNewerSchema espErrNotSupported
  else if payload.schemaVersion < receiptSchemaVersion then
    .quarantined payload status .quarantinedDowngrade espErrInvalidState
  else if payload.phaseValid ∧ ¬ payload.revisionValid then
    .quarantined payload status .quarantinedDowngrade espErrInvalidState
  else if ¬ payload.semanticValid header.revision then
    .quarantined .zero status .quarantinedMalformed espErrInvalidArg
  else ⟨espOk, payload, status⟩

def readValidated (status : Status) (blob : List UInt8) : Reading :=
  match Envelope.validate blob payloadSize with
  | (.valid, header, bytes) =>
    readPayload { status with revision := header.revision } header (.read bytes)
  | (.schemaNewer, header, _) =>
    .quarantined .zero { status with revision := header.revision } .quarantinedNewerSchema
      espErrNotSupported
  | (.checksumMismatch, header, _) =>
    .quarantined .zero { status with revision := header.revision } .quarantinedChecksum espFail
  | (_, header, _) =>
    .quarantined .zero { status with revision := header.revision } .quarantinedMalformed
      espErrInvalidSize

/-- The part of `read_receipt` that looks at the bytes it has read. -/
def readBlob (status : Status) (blob : List UInt8) : Reading :=
  if Envelope.headerSize ≤ blob.length then
    let header := Envelope.Header.read blob
    let status := { status with revision := header.revision }
    let shapeValid : Prop := header.magic = Envelope.magic ∧ header.reserved = 0 ∧
      header.revision ≠ 0 ∧ header.payloadLength = blob.length - Envelope.headerSize
    if shapeValid ∧ Envelope.schemaVersion < header.schemaVersion then
      .quarantined .zero status .quarantinedNewerSchema espErrNotSupported
    else if shapeValid ∧ header.schemaVersion = Envelope.schemaVersion ∧
        payloadSize < header.payloadLength then
      readExtended status header (blob.drop Envelope.headerSize)
    else readValidated status blob
  else readValidated status blob

def readReceipt (status : Status) : Io Flash Reading := do
  let opened ← openReadOnly fun s => s.receipt.isSome
  if opened = errNotFound then pure ⟨espOk, .zero, status⟩
  else if opened ≠ espOk then pure ⟨opened, .zero, status⟩
  else
    match ← get fun s => s.receiptBlob.map List.length with
    | .error code =>
      if code = errNotFound then pure ⟨espOk, .zero, status⟩
      else pure ⟨code, .zero, { status with receiptFound := true }⟩
    | .ok blobLength =>
      let status := { status with receiptFound := true }
      if blobLength = 0 ∨ maxReceiptSize < blobLength then
        pure (.quarantined .zero status .quarantinedMalformed espErrInvalidSize)
      else
        match ← get Flash.receiptBlob with
        | .error code => pure ⟨code, .zero, status⟩
        | .ok blob =>
          if blob.length ≠ blobLength then pure ⟨espErrInvalidSize, .zero, status⟩
          else pure (readBlob status blob)

/-- `read_optional_u32` -/
def readOptional (value : Flash → Option Nat) : Io Flash (EspErr × Option Nat) := do
  match ← get value with
  | .ok n => pure (espOk, some n)
  | .error code => pure (if code = errNotFound then espOk else code, none)

def readProtocolValues (status : Status) : Io Flash (EspErr × Status) := do
  let opened ← openReadOnly fun s => s.protocol.isSome
  if opened = errNotFound then pure (espOk, status)
  else if opened ≠ espOk then pure (opened, status)
  else
    let (ret, legacy) ← readOptional Flash.legacy
    let status := { status with
      legacyPresent := legacy.isSome, observedLegacyValue := legacy.getD 0 }
    if ret ≠ espOk then pure (ret, status)
    else
      let (ret, highWater) ← readOptional Flash.highWater
      pure (ret, { status with
        highWaterPresent := highWater.isSome, observedHighWater := highWater.getD 0 })

def settled (status : Status) (state : State) (error ret : EspErr) : EspErr × Status :=
  (ret, status.setState state error)

/-- The part of `inspect_locked` for a device without a receipt. -/
def classifyUnreceipted (status : Status) : EspErr × Status :=
  let status := { status with legacyValue := status.observedLegacyValue }
  if ¬ status.legacyPresent then settled status .absent espOk espOk
  else if status.observedLegacyValue < timestampBase then
    settled status .quarantinedMalformed espErrInvalidArg espErrInvalidArg
  else if status.highWaterPresent then
    settled status .quarantinedDowngrade espErrInvalidState espErrInvalidState
  else
    settled { status with confirmedUpperBound := 0, targetHighWater := 0 } .required
      espErrInvalidState espOk

/-- The part of `inspect_locked` for a device with a receipt. -/
def classifyReceipted (payload : Payload) (status : Status) : EspErr × Status :=
  let downgraded := settled status .quarantinedDowngrade espErrInvalidState espErrInvalidState
  let malformed := settled status .quarantinedMalformed espErrInvalidState espErrInvalidState
  if payload.phase = phaseComplete ∧ status.legacyPresent then downgraded
  else if status.legacyPresent ∧ status.observedLegacyValue ≠ payload.legacyValue then downgraded
  else if status.highWaterPresent ∧
      (payload.phase = phaseComplete ∧ status.observedHighWater < payload.targetHighWater ∨
        payload.phase ≠ phaseComplete ∧
          status.observedHighWater ≠ payload.targetHighWater) then downgraded
  else if payload.phase = phaseComplete then
    if ¬ status.highWaterPresent then malformed else settled status .complete espOk espOk
  else if ¬ status.legacyPresent ∧ ¬ status.highWaterPresent ∨
      ¬ status.legacyPresent ∧ status.observedHighWater ≠ payload.targetHighWater then malformed
  else settled status .pending espErrInvalidState espOk

/-- `inspect_locked`, and so `d1l_time_protocol_migration_inspect` -/
def inspect : Io Flash (EspErr × Status) := do
  let reading ← readReceipt .cleared
  if reading.error ≠ espOk then
    if reading.status.state = .uninitialized then
      pure (settled reading.status .storageError reading.error reading.error)
    else pure (reading.error, reading.status)
  else
    let (ret, status) ← readProtocolValues reading.status
    if ret ≠ espOk then pure (settled status .storageError ret ret)
    else if ¬ status.receiptFound then pure (classifyUnreceipted status)
    else pure (classifyReceipted reading.payload status)

/-- The receipt that `write_receipt` builds. -/
def receiptPayload (phase legacyValue confirmedUpperBound revision : Nat) : Payload :=
  ⟨receiptSchemaVersion, domainMagic, revision, phase, legacyValue, confirmedUpperBound,
    confirmedUpperBound, 0⟩

def writeReceipt (phase legacyValue confirmedUpperBound revision : Nat) : Io Flash EspErr :=
  let payload := (receiptPayload phase legacyValue confirmedUpperBound revision).bytes
  match Envelope.build (Envelope.headerSize + payloadSize) payload revision with
  | none => pure espErrInvalidSize
  | some blob => transact Flash.createReceipt (Flash.setReceipt · blob)

def writeHighWater (highWater : Nat) : Io Flash EspErr :=
  transact Flash.createProtocol (Flash.setHighWater · highWater)

/-- `erase_legacy`: `nvs_erase_key` fails when the key is absent. -/
def eraseLegacy : Io Flash EspErr := do
  let opened ← openReadWrite Flash.createProtocol
  if opened = espOk then
    match ← get Flash.legacy with
    | .error code => pure code
    | .ok _ =>
      let erased ← stage Flash.eraseLegacy
      if erased = espOk then commit Flash.eraseLegacy else pure erased
  else pure opened

/-- What `d1l_time_protocol_migration_run` returns, with `*out_written` and `*out_status`. -/
structure Outcome where
  ret : EspErr
  written : Bool
  status : Status
  deriving DecidableEq

/-- `refresh_after_failure`, and the return that follows it. -/
def refreshAfterFailure (failure : EspErr) (written : Bool) : Io Flash Outcome := do
  let (_, status) ← inspect
  let status := if status.state = .uninitialized then status.setState .storageError failure
    else status
  pure ⟨failure, written, { status with error := failure }⟩

structure Request where
  expectedLegacyValue : Nat
  confirmedUpperBound : Nat
  confirmation : Option (List UInt8)
  deriving DecidableEq

def Request.Valid (r : Request) : Prop :=
  r.confirmation = some confirmationText ∧ timestampBase ≤ r.expectedLegacyValue ∧
    r.expectedLegacyValue ≤ r.confirmedUpperBound ∧
    r.confirmedUpperBound ≤ uint32Max - reservationSize

instance (r : Request) : Decidable r.Valid := by unfold Request.Valid; infer_instance

/-- A write of `d1l_time_protocol_migration_run` and the inspection after it, which must find the
migration still pending before `rest` goes on. -/
def stageThen (write : Io Flash EspErr) (written : Bool) (rest : Status → Io Flash Outcome) :
    Io Flash Outcome := do
  let ret ← write
  if ret ≠ espOk then refreshAfterFailure ret written
  else
    let (ret, status) ← inspect
    if ret ≠ espOk ∨ status.state ≠ .pending then
      pure ⟨if ret ≠ espOk then ret else espErrInvalidState, true, status⟩
    else rest status

/-- The last part of `d1l_time_protocol_migration_run`: the completion receipt. -/
def runComplete (r : Request) (written : Bool) (status : Status) : Io Flash Outcome :=
  match Envelope.nextRevision status.revision with
  | none => pure ⟨espErrInvalidState, written,
      status.setState .revisionSaturated espErrInvalidState⟩
  | some revision =>
    if revision ≠ completeRevision then
      pure ⟨espErrInvalidState, written, status.setState .quarantinedDowngrade espErrInvalidState⟩
    else do
      let ret ← writeReceipt phaseComplete r.expectedLegacyValue r.confirmedUpperBound revision
      if ret ≠ espOk then refreshAfterFailure ret written
      else
        let (ret, status) ← inspect
        pure ⟨if ret = espOk ∧ status.state ≠ .complete then espErrInvalidState else ret, true,
          status⟩

def runErase (r : Request) (written : Bool) (status : Status) : Io Flash Outcome :=
  if status.legacyPresent then stageThen eraseLegacy written (runComplete r true)
  else runComplete r written status

def runHighWater (r : Request) (written : Bool) (status : Status) : Io Flash Outcome :=
  if ¬ status.highWaterPresent then
    stageThen (writeHighWater r.confirmedUpperBound) written (runErase r true)
  else runErase r written status

def runIntent (r : Request) (status : Status) : Io Flash Outcome :=
  if status.state = .required then
    stageThen (writeReceipt phaseIntent r.expectedLegacyValue r.confirmedUpperBound
      intentRevision) false (runHighWater r true)
  else runHighWater r false status

/-- `d1l_time_protocol_migration_run` once it has inspected the flash. -/
def runAfter (r : Request) (x : EspErr × Status) : Io Flash Outcome :=
  if ¬ r.Valid then pure ⟨espErrInvalidArg, false, x.2⟩
  else if x.1 ≠ espOk ∨
      x.2.state ≠ .required ∧ x.2.state ≠ .pending ∧ x.2.state ≠ .complete then
    pure ⟨if x.1 ≠ espOk then x.1 else espErrInvalidState, false, x.2⟩
  else if x.2.state = .complete then
    if x.2.legacyValue = r.expectedLegacyValue ∧
        x.2.confirmedUpperBound = r.confirmedUpperBound then pure ⟨espOk, false, x.2⟩
    else pure ⟨espErrInvalidArg, false, x.2⟩
  else if x.2.legacyValue ≠ r.expectedLegacyValue ∨
      x.2.state = .pending ∧ x.2.confirmedUpperBound ≠ r.confirmedUpperBound then
    pure ⟨espErrInvalidArg, false, x.2⟩
  else runIntent r x.2

/-- `d1l_time_protocol_migration_run` -/
def run (r : Request) : Io Flash Outcome := inspect >>= runAfter r

end Sigui.Migration

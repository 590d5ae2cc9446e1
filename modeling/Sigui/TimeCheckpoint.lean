import Sigui.TimeCore

/-! The wall-clock checkpoint on flash: how it is read, when a new one is worth a write, and the
save. -/
namespace Sigui.WallCheckpoint

open Nvs
open Migration (timestampBase)
open Time (wallMinEpoch int64Max)

def schemaVersion : Nat := 1
def minAdvanceSec : Nat := 21600
def payloadMagic : Nat := 0x314B4354
def payloadSize : Nat := 32

inductive Source
  | none
  | sntp
  | companionAuthenticated
  deriving DecidableEq

/-- The enumeration as the `uint32_t` on flash. -/
def Source.code : Source → Nat
  | .none => 0
  | .sntp => 1
  | .companionAuthenticated => 2

/-- A `uint32_t` from flash as the enumeration; a value outside it is no valid source. -/
def Source.ofCode : Nat → Source
  | 1 => .sntp
  | 2 => .companionAuthenticated
  | _ => .none

structure Checkpoint where
  epochSec : Int
  protocolReservedThrough : Nat
  source : Source
  deriving DecidableEq

def Checkpoint.zero : Checkpoint := ⟨0, 0, .none⟩

inductive State
  | uninitialized
  | absent
  | ready
  | quarantinedNewerSchema
  | quarantinedMalformed
  | quarantinedChecksum
  | storageError
  | revisionSaturated
  deriving DecidableEq

structure Status where
  state : State
  error : EspErr
  revision : Nat
  epochSec : Int
  protocolReservedThrough : Nat
  source : Source
  found : Bool
  deriving DecidableEq

/-- `set_status` -/
def Status.of (state : State) (error : EspErr) (revision : Nat) (found : Bool) : Status :=
  ⟨state, error, revision, 0, 0, .none, found⟩

def Status.cleared : Status := .of .uninitialized espErrInvalidState 0 false

def Status.withCheckpoint (status : Status) (c : Checkpoint) : Status :=
  { status with
    epochSec := c.epochSec
    protocolReservedThrough := c.protocolReservedThrough
    source := c.source }

/-- `checkpoint_valid` -/
def Checkpoint.Valid (c : Checkpoint) : Prop :=
  (c.source = .sntp ∨ c.source = .companionAuthenticated) ∧ wallMinEpoch ≤ c.epochSec ∧
    timestampBase ≤ c.protocolReservedThrough

instance (c : Checkpoint) : Decidable c.Valid := by unfold Checkpoint.Valid; infer_instance

/-- The checkpoint's namespace, absent until it is opened for writing, and the blob in it. -/
abbrev Flash := Option (Option (List UInt8))

def Flash.blob (s : Flash) : Option (List UInt8) := s.join

structure Payload where
  schemaVersion : Nat
  domainMagic : Nat
  revision : Nat
  source : Nat
  epochSec : Int
  protocolReservedThrough : Nat
  reserved : Nat
  deriving DecidableEq

def Payload.bytes (p : Payload) : List UInt8 :=
  le32s [p.schemaVersion, p.domainMagic, p.revision, p.source] ++
    le64 (p.epochSec % 0x10000000000000000).toNat ++ le32s [p.protocolReservedThrough, p.reserved]

def Payload.read (bytes : List UInt8) : Payload where
  schemaVersion := Admin.readLe32 bytes 0
  domainMagic := Admin.readLe32 bytes 4
  revision := Admin.readLe32 bytes 8
  source := Admin.readLe32 bytes 12
  epochSec := Admin.signed 64 (readLe64 bytes 16)
  protocolReservedThrough := Admin.readLe32 bytes 24
  reserved := Admin.readLe32 bytes 28

def Payload.checkpoint (p : Payload) : Checkpoint :=
  ⟨p.epochSec, p.protocolReservedThrough, .ofCode p.source⟩

/-- What `load_locked` returns: the code, the checkpoint and the status. -/
structure Loaded where
  ret : EspErr
  checkpoint : Checkpoint
  status : Status
  deriving DecidableEq

def Loaded.failed (state : State) (error : EspErr) (revision : Nat) (found : Bool) : Loaded :=
  ⟨error, .zero, .of state error revision found⟩

/-- The part of `load_locked` that looks at the bytes it has read. -/
def readBlob (blob : List UInt8) : Loaded :=
  match Envelope.validate blob payloadSize with
  | (.valid, header, bytes) =>
    let payload := Payload.read bytes
    if schemaVersion < payload.schemaVersion then
      .failed .quarantinedNewerSchema espErrNotSupported header.revision true
    else if payload.schemaVersion = schemaVersion ∧ payload.domainMagic = payloadMagic ∧
        payload.revision = header.revision ∧ payload.reserved = 0 ∧ payload.checkpoint.Valid then
      ⟨espOk, payload.checkpoint,
        (Status.of .ready espOk header.revision true).withCheckpoint payload.checkpoint⟩
    else .failed .quarantinedMalformed espErrInvalidArg header.revision true
  | (.schemaNewer, header, _) =>
    .failed .quarantinedNewerSchema espErrNotSupported header.revision true
  | (.checksumMismatch, header, _) =>
    .failed .quarantinedChecksum espFail header.revision true
  | (_, header, _) => .failed .quarantinedMalformed espErrInvalidSize header.revision true

def Loaded.absent : Loaded := ⟨espOk, .zero, .of .absent espOk 0 false⟩

section Load

/-- `load_locked`, and so `d1l_settings_time_checkpoint_load` -/
def load : Io Flash Loaded := do
  let opened ← openReadOnly Option.isSome
  if opened = errNotFound then pure .absent
  else if opened ≠ espOk then pure (.failed .storageError opened 0 false)
  else
    match ← get fun s : Flash => s.blob.map List.length with
    | .error code =>
      if code = errNotFound then pure .absent
      else pure (.failed .storageError code 0 false)
    | .ok blobLength =>
      if blobLength = 0 ∨ Envelope.headerSize + payloadSize < blobLength then
        pure (.failed .quarantinedMalformed espErrInvalidSize 0 true)
      else
        match ← get Flash.blob with
        | .error code => pure (.failed .storageError code 0 true)
        | .ok blob =>
          if blob.length ≠ blobLength then pure (.failed .storageError espErrInvalidSize 0 true)
          else pure (readBlob blob)

def view (s : Flash) : Loaded :=
  match s.blob with
  | none => .absent
  | some blob =>
    if blob.length = 0 ∨ Envelope.headerSize + payloadSize < blob.length then
      .failed .quarantinedMalformed espErrInvalidSize 0 true
    else readBlob blob

variable (may : Prop) (s : Flash)

theorem load_reads : load.Reads may s fun r => r = view s ∨
    may ∧ r.ret ≠ espOk ∧ r.status.state = .storageError := by
  apply Faulty.Reads.bind (openReadOnly_reads may _ s)
  intro opened hopened
  apply Faulty.Reads.ite
  · intro habsent
    have hnone : s = none := by
      subst habsent
      simpa using hopened.absent
    apply Faulty.Reads.pure
    rw [view, hnone]
    exact .inl rfl
  intro hpresent
  apply Faulty.Reads.ite
  · intro hfailed
    exact .pure (.inr ⟨hopened.failed hfailed hpresent, hfailed, rfl⟩)
  intro _
  apply Faulty.Reads.bind (get_reads may _ s)
  rintro r (rfl | ⟨hmay, fault, rfl⟩)
  · cases hblob : s.blob with
    | none =>
      apply Faulty.Reads.pure
      rw [view, hblob]
      exact .inl rfl
    | some blob =>
      have hview : view s =
          if blob.length = 0 ∨ Envelope.headerSize + payloadSize < blob.length then
            .failed .quarantinedMalformed espErrInvalidSize 0 true
          else readBlob blob := by
        rw [view, hblob]
      apply Faulty.Reads.ite
      · intro hsize
        exact .pure (.inl (by rw [hview, if_pos hsize]))
      intro hsize
      apply Faulty.Reads.bind (get_reads may _ s)
      rw [hblob]
      rintro r (rfl | ⟨hmay, fault, rfl⟩)
      · apply Faulty.Reads.ite
        · intro hne
          exact absurd rfl hne
        · intro _
          exact .pure (.inl (by rw [hview, if_neg hsize]))
      · exact .pure (.inr ⟨hmay, fault.ne_ok, rfl⟩)
  · apply Faulty.Reads.ite
    · intro habsent
      exact absurd habsent fault.ne_not_found
    · intro _
      exact .pure (.inr ⟨hmay, fault.ne_ok, rfl⟩)

end Load

def sourceIsStronger (candidate current : Source) : Prop :=
  candidate = .companionAuthenticated ∧ current = .sntp

instance (a b : Source) : Decidable (sourceIsStronger a b) := by
  unfold sourceIsStronger; infer_instance

/-- `checkpoint_write_required` -/
def WriteRequired (candidate current : Checkpoint) (currentFound : Bool) : Prop :=
  if ¬ currentFound then True
  else if candidate.epochSec = current.epochSec then
    sourceIsStronger candidate.source current.source
  else if sourceIsStronger candidate.source current.source then True
  else minAdvanceSec ≤ (candidate.epochSec - current.epochSec).natAbs

instance (candidate current : Checkpoint) (found : Bool) :
    Decidable (WriteRequired candidate current found) := by
  unfold WriteRequired; infer_instance

/-- The payload of a checkpoint stored under `revision`. -/
def payloadOf (c : Checkpoint) (revision : Nat) : Payload :=
  ⟨schemaVersion, payloadMagic, revision, c.source.code, c.epochSec, c.protocolReservedThrough, 0⟩

structure Saved where
  ret : EspErr
  written : Bool
  status : Status
  deriving DecidableEq

/-- `d1l_settings_time_checkpoint_save` -/
def save (c : Checkpoint) : Io Flash Saved :=
  if ¬ c.Valid then pure ⟨espErrInvalidArg, false, .cleared⟩
  else do
    let current ← load
    if current.ret ≠ espOk then pure ⟨current.ret, false, current.status⟩
    else if ¬ WriteRequired c current.checkpoint current.status.found then
      pure ⟨espOk, false, current.status⟩
    else
      match Envelope.nextRevision current.status.revision with
      | none =>
        pure ⟨espErrInvalidState, false,
          (Status.of .revisionSaturated espErrInvalidState current.status.revision
            current.status.found).withCheckpoint current.checkpoint⟩
      | some revision =>
        match Envelope.build (Envelope.headerSize + payloadSize) (payloadOf c revision).bytes
            revision with
        | none =>
          pure ⟨espErrInvalidSize, false,
            (Status.of .storageError espErrInvalidSize current.status.revision
              current.status.found).withCheckpoint current.checkpoint⟩
        | some blob =>
          let ret ← transact (fun s : Flash => some s.join) fun _ => some (some blob)
          if ret ≠ espOk then
            pure ⟨ret, false, (Status.of .storageError ret current.status.revision
              current.status.found).withCheckpoint current.checkpoint⟩
          else
            pure ⟨espOk, true, (Status.of .ready espOk revision true).withCheckpoint c⟩

end Sigui.WallCheckpoint

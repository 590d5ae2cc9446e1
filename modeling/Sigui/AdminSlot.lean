import Sigui.AtomicSteps
import Sigui.Text

/-! The guarded slot of an admin response, one atomic step at a time: a producer claims, fills and
publishes it, the runtime owner reaps or admits it. -/
namespace Sigui.AdminSlot

inductive RequestState
  | free
  | claimed
  | pending
  | admitted
  | callerCancelled
  | ownerExpired
  | completed
  | releasing
  deriving DecidableEq

/-- The ids up to `D1L_MESH_REQUEST_ID_MAX`; a claim refuses any other. -/
abbrev RequestId := Fin (2 ^ 29)

instance requestId_neZero : @NeZero Nat Zero.ofOfNat0 (2 ^ 29) := ⟨by decide⟩

structure GuardWord where
  id : RequestId
  state : RequestState
  deriving DecidableEq

def GuardWord.zero : GuardWord := ⟨0, .free⟩

def fingerprintCapacity : Nat := 17
def plaintextCapacity : Nat := 256

structure SlotContents where
  deadlineUs : Nat
  sessionGeneration : Nat
  fingerprint : List UInt8
  plaintext : List UInt8
  plaintextLen : Nat
  countRxOnAccept : Bool
  present : Bool
  deriving DecidableEq

def zeros (n : Nat) : List UInt8 := List.replicate n 0

def SlotContents.wiped : SlotContents :=
  ⟨0, 0, zeros fingerprintCapacity, zeros plaintextCapacity, 0, false, false⟩

/-- What a producer publishes; null pointers are `none`. -/
structure PublishArgs where
  fingerprint : Option CStr
  sessionGeneration : Nat
  plaintext : Option (List UInt8)
  countRxOnAccept : Bool
  deadlineUs : Nat
  deriving DecidableEq

def PublishArgs.fingerprintBytes (args : PublishArgs) : List UInt8 :=
  (args.fingerprint.map (·.bytes)).getD []

def PublishArgs.fingerprintLen (args : PublishArgs) : Nat :=
  min fingerprintCapacity args.fingerprintBytes.length

def PublishArgs.plaintextBytes (args : PublishArgs) : List UInt8 := args.plaintext.getD []

/-- The checks of `publish` that do not look at the slot. -/
def PublishArgs.valid (args : PublishArgs) : Bool :=
  decide (args.sessionGeneration ≠ 0) && decide (args.deadlineUs ≠ 0) &&
    args.plaintext.isSome && decide (0 < args.plaintextBytes.length) &&
    decide (args.plaintextBytes.length ≤ plaintextCapacity) &&
    decide (0 < args.fingerprintLen) && decide (args.fingerprintLen < fingerprintCapacity)

inductive SlotEvent
  | claimed (id : RequestId)
  | published (id : RequestId) (args : PublishArgs)
  | admitted (id : RequestId)
  | cancelled (id : RequestId)
  | expired (id : RequestId)
  | released (id : RequestId)
  deriving DecidableEq

structure Slot where
  word : GuardWord
  contents : SlotContents
  history : List SlotEvent
  deriving DecidableEq

def Slot.empty : Slot := ⟨.zero, .wiped, []⟩

/-- A program over the slot; each step is tagged with the request it is made for. -/
abbrev SlotProg (α : Type) := Prog RequestId Slot α

def compareExchange (id : RequestId) (expected desired : GuardWord) (event : SlotEvent) :
    SlotProg Bool :=
  .atomic id
    (fun s =>
      if s.word = expected then { s with word := desired, history := event :: s.history } else s)
    fun s => .ret (decide (s.word = expected))

/-- `d1l_mesh_request_guard_claim` -/
def guardClaim (id : RequestId) : SlotProg Bool :=
  if id = 0 then pure false
  else compareExchange id .zero ⟨id, .claimed⟩ (.claimed id)

/-- `d1l_mesh_request_guard_transition`; `d1l_mesh_request_guard_publish` is the one from
`claimed` to `pending`. -/
def guardTransition (id : RequestId) (expectedState nextState : RequestState)
    (event : SlotEvent) : SlotProg Bool :=
  if id = 0 then pure false
  else compareExchange id ⟨id, expectedState⟩ ⟨id, nextState⟩ event

/-- `d1l_mesh_request_guard_release` -/
def guardRelease (id : RequestId) (expectedState : RequestState) : SlotProg Bool :=
  if id = 0 then pure false
  else compareExchange id ⟨id, expectedState⟩ .zero (.released id)

/-- `d1l_mesh_request_guard_matches` -/
def guardMatches (id : RequestId) : SlotProg Bool :=
  if id = 0 then pure false else .read id fun s => decide (s.word.id = id)

/-- `d1l_mesh_request_guard_state` -/
def guardState (id : RequestId) : SlotProg RequestState := .read id fun s => s.word.state

/-- The two loads `guard_matches && guard_state == state`. -/
def guardIs (id : RequestId) (state : RequestState) : SlotProg Bool := do
  if ← guardMatches id then
    return decide ((← guardState id) = state)
  else
    return false

def writeField (id : RequestId) (f : SlotContents → SlotContents) : SlotProg Unit :=
  .write id fun s => { s with contents := f s.contents }

def readField {α : Type} (id : RequestId) (f : SlotContents → α) : SlotProg α :=
  .read id fun s => f s.contents

/-- `d1l_mesh_admin_response_request_wipe` -/
def wipe (id : RequestId) : SlotProg Unit := do
  writeField id fun c => { c with fingerprint := zeros fingerprintCapacity }
  writeField id fun c => { c with plaintext := zeros plaintextCapacity }
  writeField id fun c => { c with deadlineUs := 0 }
  writeField id fun c => { c with sessionGeneration := 0 }
  writeField id fun c => { c with plaintextLen := 0 }
  writeField id fun c => { c with countRxOnAccept := false }
  writeField id fun c => { c with present := false }

/-- `memcpy` to the front of an array. -/
def copyInto (source array : List UInt8) : List UInt8 := source ++ array.drop source.length

inductive EnqueueResult
  | invalid
  | queued
  | saturated
  deriving DecidableEq

/-- `d1l_mesh_admin_response_request_claim` -/
def claim (id : RequestId) : SlotProg Bool := do
  if ← guardClaim id then
    wipe id
    return true
  else
    return false

def publishRefused (id : RequestId) : SlotProg Bool := do
  if ← guardIs id .claimed then
    wipe id
    let _ ← guardRelease id .claimed
    return false
  else
    return false

/-- The field writes of `publish`, in its order. -/
def fillSlot (id : RequestId) (args : PublishArgs) : SlotProg Unit := do
  writeField id fun c => { c with
    fingerprint := copyInto (args.fingerprintBytes.take args.fingerprintLen) c.fingerprint }
  writeField id fun c => { c with fingerprint := c.fingerprint.set args.fingerprintLen 0 }
  writeField id fun c => { c with plaintext := copyInto args.plaintextBytes c.plaintext }
  writeField id fun c => { c with plaintextLen := args.plaintextBytes.length }
  writeField id fun c => { c with sessionGeneration := args.sessionGeneration }
  writeField id fun c => { c with deadlineUs := args.deadlineUs }
  writeField id fun c => { c with countRxOnAccept := args.countRxOnAccept }
  writeField id fun c => { c with present := true }

/-- `d1l_mesh_admin_response_request_publish` -/
def publish (id : RequestId) (args : PublishArgs) : SlotProg Bool := do
  if id ≠ 0 ∧ args.valid = true then
    if ← guardIs id .claimed then
      fillSlot id args
      if ← guardTransition id .claimed .pending (.published id args) then
        return true
      else
        wipe id
        let _ ← guardRelease id .claimed
        return false
    else
      publishRefused id
  else
    publishRefused id

/-- `d1l_mesh_admin_response_request_cancel` -/
def cancel (id : RequestId) : SlotProg Bool := do
  if ← guardTransition id .pending .callerCancelled (.cancelled id) then
    wipe id
    guardRelease id .callerCancelled
  else
    return false

/-- `d1l_mesh_admin_response_request_enqueue`; `taken` is the answer of the queue. -/
def enqueue (id : RequestId) (taken : Bool) : SlotProg EnqueueResult := do
  if ← guardIs id .pending then
    if taken then
      return .queued
    else if ← cancel id then
      return .saturated
    else
      return .invalid
  else
    return .invalid

inductive ProducerOp
  | claim (id : RequestId)
  | publish (id : RequestId) (args : PublishArgs)
  | enqueue (id : RequestId) (taken : Bool)
  | cancel (id : RequestId)
  deriving DecidableEq

inductive ProducerResult
  | done (value : Bool)
  | enqueued (result : EnqueueResult)
  deriving DecidableEq

def producer : ProducerOp → SlotProg ProducerResult
  | .claim id => do return .done (← claim id)
  | .publish id args => do return .done (← publish id args)
  | .enqueue id taken => do return .enqueued (← enqueue id taken)
  | .cancel id => do return .done (← cancel id)

/-- The view points into the slot: its arrays are those it finds there. -/
structure ResponseView where
  fingerprint : List UInt8
  plaintext : List UInt8
  plaintextLen : Nat
  sessionGeneration : Nat
  deadlineUs : Nat
  countRxOnAccept : Bool
  deriving DecidableEq

inductive AdmitResult
  | invalid
  | ownerRequired
  | staleSession
  | expired
  | accepted (view : ResponseView)
  deriving DecidableEq

/-- `d1l_mesh_admin_response_request_owner_reap`. The first load is made for no request yet. -/
def ownerReap (callerIsOwner : Bool) (currentSessionGeneration nowUs : Nat) : SlotProg Bool := do
  if callerIsOwner then
    let observed ← Prog.read 0 fun s : Slot => s.word
    let id := observed.id
    if id = 0 ∨ observed.state ≠ .pending then
      return false
    else
      let unset ← readField id fun c => decide (c.deadlineUs = 0)
      let due ← if unset then pure true else readField id fun c => decide (c.deadlineUs ≤ nowUs)
      let stale ← readField id fun c => decide (c.sessionGeneration ≠ currentSessionGeneration)
      if due || stale then
        if ← compareExchange id observed ⟨id, .ownerExpired⟩ (.expired id) then
          wipe id
          guardRelease id .ownerExpired
        else
          return false
      else
        return false
  else
    return false

def structurallyValid (id : RequestId) : SlotProg Bool := do
  if ← readField id (·.present) then
    if ← readField id fun c => decide (c.sessionGeneration ≠ 0) then
      if ← readField id fun c => decide (c.deadlineUs ≠ 0) then
        if ← readField id fun c => decide (c.fingerprint.head? ≠ some 0) then
          if ← readField id fun c => decide (0 < c.plaintextLen) then
            readField id fun c => decide (c.plaintextLen ≤ plaintextCapacity)
          else return false
        else return false
      else return false
    else return false
  else return false

/-- An admitted response that is not handed out is wiped and released. -/
def admitRefused (id : RequestId) (result : AdmitResult) : SlotProg AdmitResult := do
  wipe id
  let _ ← guardRelease id .admitted
  return result

def readView (id : RequestId) : SlotProg ResponseView := do
  let fingerprint ← readField id (·.fingerprint)
  let plaintext ← readField id (·.plaintext)
  let plaintextLen ← readField id (·.plaintextLen)
  let sessionGeneration ← readField id (·.sessionGeneration)
  let deadlineUs ← readField id (·.deadlineUs)
  let countRxOnAccept ← readField id (·.countRxOnAccept)
  return ⟨fingerprint, plaintext, plaintextLen, sessionGeneration, deadlineUs, countRxOnAccept⟩

/-- `d1l_mesh_admin_response_request_admit` -/
def admitRequest (id : RequestId) (callerIsOwner : Bool) (currentSessionGeneration nowUs : Nat) :
    SlotProg AdmitResult := do
  if callerIsOwner then
    if ← guardMatches id then
      if ← guardTransition id .pending .admitted (.admitted id) then
        if ← structurallyValid id then
          if ← readField id fun c => decide (c.deadlineUs ≤ nowUs) then
            admitRefused id .expired
          else if ← readField id fun c =>
              decide (c.sessionGeneration ≠ currentSessionGeneration) then
            admitRefused id .staleSession
          else
            return .accepted (← readView id)
        else
          admitRefused id .invalid
      else
        return .invalid
    else
      return .invalid
  else
    return .ownerRequired

/-- `d1l_mesh_admin_response_request_complete` -/
def complete (id : RequestId) : SlotProg Bool := do
  if ← guardIs id .admitted then
    wipe id
    guardRelease id .admitted
  else
    return false

inductive OwnerOp
  | reap (callerIsOwner : Bool) (currentSessionGeneration nowUs : Nat)
  | admitRequest (id : RequestId) (callerIsOwner : Bool) (currentSessionGeneration nowUs : Nat)
  | complete (id : RequestId)
  deriving DecidableEq

inductive OwnerResult
  | done (value : Bool)
  | admitted (id : RequestId) (result : AdmitResult)
  deriving DecidableEq

def owner : OwnerOp → SlotProg OwnerResult
  | .reap callerIsOwner currentSessionGeneration nowUs => do
    return .done (← ownerReap callerIsOwner currentSessionGeneration nowUs)
  | .admitRequest id callerIsOwner currentSessionGeneration nowUs => do
    return .admitted id (← admitRequest id callerIsOwner currentSessionGeneration nowUs)
  | .complete id => do return .done (← complete id)

end Sigui.AdminSlot

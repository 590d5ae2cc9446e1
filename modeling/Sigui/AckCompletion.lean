import Sigui.DmDeliveryState
import Sigui.RunRules

/-! The coordinator that lets an acknowledgement take its terminal effects once, the receipt it is
bound to, and the owner of the delivery. -/
namespace Sigui.Ack

open Sigui.Dm (DeliveryState deliveryTransitionAllowed)

/-- `UINT32_MAX` as a revision. -/
def revisionMax : UInt32 := 0xFFFFFFFF

structure DeliveryOwner where
  active : Bool
  sessionId : UInt64
  revision : UInt32
  ackHash : UInt32
  state : DeliveryState
  deriving DecidableEq

/-- `d1l_dm_delivery_owner_clear` -/
def DeliveryOwner.zero : DeliveryOwner := ⟨false, 0, 0, 0, .notApplicable⟩

/-- `d1l_dm_delivery_owner_begin` -/
def ownerBegin (owner : DeliveryOwner) (sessionId : UInt64) (revision ackHash : UInt32) :
    Option DeliveryOwner :=
  if owner.active || sessionId == 0 || revision == 0 then none
  else some ⟨true, sessionId, revision, ackHash, .queued⟩

/-- `d1l_dm_delivery_owner_apply` -/
def ownerApply (owner : DeliveryOwner) (sessionId : UInt64) (expectedRevision : UInt32)
    (nextState : DeliveryState) (nextRevision : UInt32) : Option DeliveryOwner :=
  if !owner.active || owner.sessionId != sessionId || owner.revision != expectedRevision ||
      expectedRevision == revisionMax || nextRevision != expectedRevision + 1 ||
      !deliveryTransitionAllowed owner.state nextState ||
      (nextState == .acknowledged && owner.state != .awaitingAck) then none
  else some { owner with state := nextState, revision := nextRevision }

structure ReceiptBinding where
  sessionId : UInt64
  baseRevision : UInt32
  ackHash : UInt32
  valid : Bool
  deriving DecidableEq

def ReceiptBinding.zero : ReceiptBinding := ⟨0, 0, 0, false⟩

/-- `d1l_meshcore_ack_receipt_binding_matches` -/
def receiptMatches (binding : ReceiptBinding) (sessionId : UInt64)
    (baseRevision ackHash : UInt32) : Bool :=
  binding.valid && sessionId != 0 && baseRevision != 0 && baseRevision != revisionMax &&
    binding.sessionId == sessionId && binding.baseRevision == baseRevision &&
    binding.ackHash == ackHash

/-- `d1l_meshcore_ack_receipt_binding_begin` -/
def receiptBegin (binding : ReceiptBinding) (sessionId : UInt64)
    (baseRevision ackHash : UInt32) : ReceiptBinding × Bool :=
  if sessionId == 0 || baseRevision == 0 || baseRevision == revisionMax then (binding, false)
  else if binding.valid then (binding, receiptMatches binding sessionId baseRevision ackHash)
  else (⟨sessionId, baseRevision, ackHash, true⟩, true)

structure AckCompletion where
  sessionId : UInt64
  baseRevision : UInt32
  admittedRevision : UInt32
  active : Bool
  casAdmitted : Bool
  durable : Bool
  terminalEffectsTaken : Bool
  deriving DecidableEq

def AckCompletion.zero : AckCompletion := ⟨0, 0, 0, false, false, false, false⟩

inductive CasResult
  | rejected
  | stale
  | acceptedPending
  | acceptedDurable
  | alreadyPending
  | alreadyDurable
  deriving DecidableEq

/-- `d1l_meshcore_ack_completion_begin` -/
def completionBegin (completion : AckCompletion) (sessionId : UInt64) (baseRevision : UInt32) :
    Option AckCompletion :=
  if completion.active || sessionId == 0 || baseRevision == 0 || baseRevision == revisionMax then
    none
  else some { AckCompletion.zero with sessionId, baseRevision, active := true }

/-- `d1l_meshcore_ack_completion_observe_cas` -/
def observeCas (completion : AckCompletion) (sessionId : UInt64)
    (expectedRevision resultingRevision : UInt32) (casAdmitted durable : Bool) :
    AckCompletion × CasResult :=
  if !casAdmitted then (completion, .rejected)
  else if !completion.active || completion.sessionId != sessionId ||
      completion.baseRevision != expectedRevision || expectedRevision == revisionMax ||
      resultingRevision != expectedRevision + 1 then (completion, .stale)
  else if completion.casAdmitted then
    if completion.admittedRevision != resultingRevision then (completion, .stale)
    else
      let observed := if durable then { completion with durable := true } else completion
      (observed, if observed.durable then .alreadyDurable else .alreadyPending)
  else
    ({ completion with
        casAdmitted := true, admittedRevision := resultingRevision, durable := durable },
      if durable then .acceptedDurable else .acceptedPending)

/-- `d1l_meshcore_ack_completion_mark_reconciled` -/
def markReconciled (completion : AckCompletion) (sessionId : UInt64)
    (durableRevision : UInt32) : Option AckCompletion :=
  if !completion.active || !completion.casAdmitted || completion.sessionId != sessionId ||
      completion.admittedRevision != durableRevision || completion.terminalEffectsTaken then none
  else some { completion with durable := true }

/-- `d1l_meshcore_ack_completion_suppresses_rf_retry` -/
def suppressesRfRetry (completion : AckCompletion) : Bool :=
  completion.active && completion.casAdmitted && !completion.terminalEffectsTaken

/-- `d1l_meshcore_ack_completion_take_terminal_effects` -/
def takeTerminalEffects (completion : AckCompletion) (sessionId : UInt64)
    (publishedRevision : UInt32) : Option AckCompletion :=
  if !completion.active || !completion.casAdmitted || !completion.durable ||
      completion.terminalEffectsTaken || completion.sessionId != sessionId ||
      completion.admittedRevision != publishedRevision then none
  else some { completion with terminalEffectsTaken := true }

/-- The pending acknowledgement of the runtime: its delivery owner, its completion and the
receipt. -/
structure PendingAck where
  owner : DeliveryOwner
  completion : AckCompletion
  receipt : ReceiptBinding
  deriving DecidableEq

def PendingAck.zero : PendingAck := ⟨.zero, .zero, .zero⟩

/-- The calls of the runtime. The clears are its `memset` of a record before the next use. -/
inductive AckCall
  | ownerBegin (sessionId : UInt64) (revision ackHash : UInt32)
  | ownerApply (sessionId : UInt64) (expectedRevision : UInt32) (nextState : DeliveryState)
      (nextRevision : UInt32)
  | ownerClear
  | completionBegin (sessionId : UInt64) (baseRevision : UInt32)
  | observeCas (sessionId : UInt64) (expectedRevision resultingRevision : UInt32)
      (casAdmitted durable : Bool)
  | markReconciled (sessionId : UInt64) (durableRevision : UInt32)
  | takeTerminalEffects (sessionId : UInt64) (publishedRevision : UInt32)
  | completionClear
  | receiptBegin (sessionId : UInt64) (baseRevision ackHash : UInt32)
  | receiptClear
  deriving DecidableEq

inductive AckAnswer
  | flag (value : Bool)
  | cas (result : CasResult)
  deriving DecidableEq

/-- A call that either changes a record and returns true, or returns false. -/
def answer {ρ : Type} (old : ρ) (new : Option ρ) : ρ × AckAnswer :=
  (new.getD old, .flag new.isSome)

def runCall (pending : PendingAck) : AckCall → PendingAck × AckAnswer
  | .ownerBegin sessionId revision ackHash =>
    let done := answer pending.owner (ownerBegin pending.owner sessionId revision ackHash)
    ({ pending with owner := done.1 }, done.2)
  | .ownerApply sessionId expectedRevision nextState nextRevision =>
    let done := answer pending.owner
      (ownerApply pending.owner sessionId expectedRevision nextState nextRevision)
    ({ pending with owner := done.1 }, done.2)
  | .ownerClear => ({ pending with owner := .zero }, .flag true)
  | .completionBegin sessionId baseRevision =>
    let done := answer pending.completion
      (completionBegin pending.completion sessionId baseRevision)
    ({ pending with completion := done.1 }, done.2)
  | .observeCas sessionId expectedRevision resultingRevision casAdmitted durable =>
    let done := observeCas pending.completion sessionId expectedRevision resultingRevision
      casAdmitted durable
    ({ pending with completion := done.1 }, .cas done.2)
  | .markReconciled sessionId durableRevision =>
    let done := answer pending.completion
      (markReconciled pending.completion sessionId durableRevision)
    ({ pending with completion := done.1 }, done.2)
  | .takeTerminalEffects sessionId publishedRevision =>
    let done := answer pending.completion
      (takeTerminalEffects pending.completion sessionId publishedRevision)
    ({ pending with completion := done.1 }, done.2)
  | .completionClear => ({ pending with completion := .zero }, .flag true)
  | .receiptBegin sessionId baseRevision ackHash =>
    let done := receiptBegin pending.receipt sessionId baseRevision ackHash
    ({ pending with receipt := done.1 }, .flag done.2)
  | .receiptClear => ({ pending with receipt := .zero }, .flag true)

end Sigui.Ack

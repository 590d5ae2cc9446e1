import Sigui.Text

/-! The outbound delivery state machine. -/
namespace Sigui.Dm

inductive DeliveryState
  | notApplicable
  | queued
  | waitingRadio
  | txActive
  | txDone
  | awaitingAck
  | acknowledged
  | retryWait
  | retryTx
  | failedRadio
  | failedTimeout
  | failedQueue
  | interruptedByReboot
  | cancelled
  deriving DecidableEq, Inhabited

inductive DeliveryReason
  | none
  | enqueued
  | radioReserved
  | radioStarted
  | radioCompleted
  | ackExpected
  | ackReceived
  | retryScheduled
  | retryStarted
  | queueRejected
  | radioError
  | ackTimeout
  | rebootRecovery
  | userCancelled
  | userRetry
  | legacyImport
  deriving DecidableEq, Inhabited

open DeliveryState in
def deliveryTransitionAllowed (source target : DeliveryState) : Bool :=
  if source = target || source = notApplicable || target = notApplicable then false
  -- A matching ACK is stronger evidence than a local timeout, radio error or reboot.
  else if target = acknowledged then
    source ≠ acknowledged && source ≠ failedQueue && source ≠ cancelled
  else
    match source with
    | queued => target ∈ [waitingRadio, failedQueue, cancelled]
    | waitingRadio => target ∈ [txActive, failedQueue, retryWait, cancelled]
    | txActive => target ∈ [txDone, failedRadio, retryWait, cancelled]
    | txDone => target ∈ [awaitingAck, retryWait, failedTimeout, cancelled]
    | awaitingAck => target ∈ [retryWait, failedTimeout, cancelled]
    | retryWait => target ∈ [retryTx, failedTimeout, cancelled]
    | retryTx =>
      target ∈ [waitingRadio, txActive, failedQueue, failedRadio, retryWait, cancelled]
    | failedRadio | failedTimeout | failedQueue => target ∈ [queued, retryWait, cancelled]
    | interruptedByReboot => target ∈ [queued, retryWait, failedTimeout, cancelled]
    | _ => false

open DeliveryState in
def deliveryInterruptedByReboot (state : DeliveryState) : Bool :=
  state ∈ [waitingRadio, txActive, txDone, awaitingAck, retryTx]

open DeliveryState in
def deliveryStateTerminal (state : DeliveryState) : Bool :=
  state ∈ [acknowledged, failedRadio, failedTimeout, failedQueue, interruptedByReboot, cancelled]

open DeliveryState in
def deliveryStateIsFailure (state : DeliveryState) : Bool :=
  state ∈ [failedRadio, failedTimeout, failedQueue, interruptedByReboot]

def deliveryReasonMatchesTarget (state : DeliveryState) (reason : DeliveryReason) : Bool :=
  match state with
  | .queued => reason = .enqueued || reason = .userRetry
  | .waitingRadio => reason = .radioReserved
  | .txActive => reason = .radioStarted
  | .txDone => reason = .radioCompleted
  | .awaitingAck => reason = .ackExpected
  | .acknowledged => reason = .ackReceived || reason = .legacyImport
  | .retryWait => reason = .retryScheduled
  | .retryTx => reason = .retryStarted
  | .failedRadio => reason = .radioError
  | .failedTimeout => reason = .ackTimeout
  | .failedQueue => reason = .queueRejected
  | .interruptedByReboot => reason = .rebootRecovery || reason = .legacyImport
  | .cancelled => reason = .userCancelled
  | .notApplicable => false

theorem deliveryTransitionAllowed_target {source target : DeliveryState}
    (h : deliveryTransitionAllowed source target = true) : target ≠ .notApplicable := by
  rintro rfl
  simp [deliveryTransitionAllowed] at h

theorem deliveryReason_ne_none {state : DeliveryState} {reason : DeliveryReason}
    (h : deliveryReasonMatchesTarget state reason = true) : reason ≠ .none := by
  rintro rfl
  cases state <;> simp [deliveryReasonMatchesTarget] at h

end Sigui.Dm

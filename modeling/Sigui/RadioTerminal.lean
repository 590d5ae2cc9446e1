import Mathlib.Algebra.Group.Nat.Defs
import Mathlib.Data.Fintype.Basic
import Mathlib.Logic.Function.Basic
import Sigui.OwnerLoop

/-! The terminals of radio transmissions. The owner begins operations and publishes each in a ring
of snapshots; callbacks capture the identity of the operation that they were started with and latch
its outcome in the ring; the owner takes the latched terminals. Each access to shared memory is one
step, and any number of callbacks may run. -/
namespace Sigui.RadioTerminal

/-- `d1l_mesh_tx_operation_kind_t` -/
inductive OperationKind
  | none
  | generic
  | publicTx
  | advert
  | ackResponse
  | dm
  deriving DecidableEq

def OperationKind.code : OperationKind → Nat
  | .none => 0
  | .generic => 1
  | .publicTx => 2
  | .advert => 3
  | .ackResponse => 4
  | .dm => 5

def OperationKind.ofCode : Nat → OperationKind
  | 1 => .generic
  | 2 => .publicTx
  | 3 => .advert
  | 4 => .ackResponse
  | 5 => .dm
  | _ => .none

/-- `d1l_mesh_tx_operation_identity_t` -/
structure Identity where
  operationId : Nat
  kind : OperationKind
  dmSessionId : Nat
  dmRevision : Nat
  deriving DecidableEq

def Identity.zero : Identity := ⟨0, .none, 0, 0⟩

/-- `d1l_mesh_tx_operation_identity_valid` -/
def Identity.valid (i : Identity) : Bool :=
  if i.operationId = 0 || decide (i.kind = .none) then false
  else if i.kind = .dm then decide (i.dmSessionId ≠ 0) && decide (i.dmRevision ≠ 0)
  else decide (i.dmSessionId = 0) && decide (i.dmRevision = 0)

/-- `d1l_mesh_tx_operation_identity_equal` -/
def Identity.equal (left right : Identity) : Bool :=
  left.valid && right.valid && decide (left = right)

/-- `UINT32_MAX` -/
def uint32Max : Nat := 2 ^ 32 - 1

/-- `D1L_MESHCORE_TX_ORIGIN_HISTORY_LEN` -/
abbrev historyLength : Nat := 8

abbrev SlotIndex := Fin historyLength

def slotOf (operationId : Nat) : SlotIndex :=
  ⟨(operationId - 1) % historyLength, Nat.mod_lt _ (by decide)⟩

inductive TerminalState
  | none
  | writing
  | done
  | timeout
  deriving DecidableEq

/-- `TX_DONE` or `TX_TIMEOUT` -/
inductive Outcome
  | done
  | timeout
  deriving DecidableEq

def Outcome.state : Outcome → TerminalState
  | .done => .done
  | .timeout => .timeout

def TerminalState.outcome : TerminalState → Option Outcome
  | .done => some .done
  | .timeout => some .timeout
  | _ => Option.none

/-- The low and the high half of the operation id, the kind, the halves of the session id and the
revision. -/
abbrev WordIndex := Fin 6

scoped instance wordIndex_neZero : @NeZero Nat Zero.ofOfNat0 6 := ⟨by decide⟩

/-- `d1l_callback_tx_snapshot_t` -/
structure Snapshot where
  sequence : Nat
  words : WordIndex → Nat
  terminalState : TerminalState
  terminalMonotonicUsLow : Nat
  terminalMonotonicUsHigh : Nat

def Snapshot.zero : Snapshot := ⟨0, fun _ => 0, .none, 0, 0⟩

def low (value : Nat) : Nat := value % 2 ^ 32

def high (value : Nat) : Nat := value / 2 ^ 32

def join (low high : Nat) : Nat := high * 2 ^ 32 + low

def Identity.words (i : Identity) : WordIndex → Nat
  | 0 => low i.operationId
  | 1 => high i.operationId
  | 2 => i.kind.code
  | 3 => low i.dmSessionId
  | 4 => high i.dmSessionId
  | 5 => i.dmRevision

def Identity.ofWords (words : WordIndex → Nat) : Identity :=
  ⟨join (words 0) (words 1), .ofCode (words 2), join (words 3) (words 4), words 5⟩

/-- What `take_latched_terminal` hands to the owner. -/
structure Event where
  outcome : Outcome
  monotonicUs : Nat
  operation : Identity
  deriving DecidableEq

/-- Where `capture_callback_tx_operation` is in its attempt. -/
inductive ReadAt
  | before
  | word (i : WordIndex)
  | after
  deriving DecidableEq

structure Reader where
  origin : Nat
  /-- attempts that are left after this one -/
  attempts : Nat
  place : ReadAt
  before : Nat
  copy : WordIndex → Nat

inductive Capture
  | reading (reader : Reader)
  | captured (identity : Identity)
  | failed

def startCapture (origin : Nat) : Capture :=
  if origin = 0 then .failed else .reading ⟨origin, 2, .before, 0, fun _ => 0⟩

def Reader.again (r : Reader) : Capture :=
  if r.attempts = 0 then .failed
  else .reading { r with attempts := r.attempts - 1, place := .before }

def Reader.step (r : Reader) (snapshot : Snapshot) : Capture :=
  match r.place with
  | .before =>
    if snapshot.sequence % 2 = 1 then r.again
    else .reading { r with place := .word 0, before := snapshot.sequence }
  | .word i =>
    let r' := { r with copy := Function.update r.copy i (snapshot.words i) }
    if h : i.val + 1 < 6 then .reading { r' with place := .word ⟨i.val + 1, h⟩ }
    else .reading { r' with place := .after }
  | .after =>
    if r.before ≠ snapshot.sequence ∨ snapshot.sequence % 2 = 1 then r.again
    else
      let identity := Identity.ofWords r.copy
      if identity.operationId = r.origin && identity.valid then .captured identity else .failed

/-- `on_tx_done` or `on_tx_timeout`: the next step of a callback. -/
inductive Callback
  | idle
  | capturing (outcome : Outcome) (reader : Reader)
  /-- `d1l_mesh_terminal_lane_publish_slot` -/
  | publishingSlot (outcome : Outcome) (identity : Identity)
  | claiming (outcome : Outcome) (identity : Identity)
  | writingTimeLow (outcome : Outcome) (identity : Identity) (nowUs : Nat)
  | writingTimeHigh (outcome : Outcome) (identity : Identity) (nowUs : Nat)
  | writingOutcome (outcome : Outcome) (identity : Identity)

/-- After the capture, `meshcore_service_latch_radio_recovery` drops an invalid identity. -/
def Callback.ofCapture (outcome : Outcome) : Capture → Callback
  | .reading reader => .capturing outcome reader
  | .captured identity =>
    if identity.valid && decide (identity.operationId ≤ uint32Max) then
      .publishingSlot outcome identity
    else .idle
  | .failed => .idle

/-- The operation that a callback works for once it has captured it. -/
def Callback.identity : Callback → Option Identity
  | .publishingSlot _ identity | .claiming _ identity | .writingTimeLow _ identity _
  | .writingTimeHigh _ identity _ | .writingOutcome _ identity => some identity
  | _ => Option.none

/-- The scan of `take_latched_terminal`: the slots it has still to look at, all it took from the
lane, and what it has found. -/
structure Scan where
  rest : List SlotIndex
  taken : List SlotIndex
  incompleteSnapshot : Bool
  best : Option Event

inductive Owner
  | idle
  | loadingSequence (identity : Identity)
  | storingOdd (identity : Identity) (sequence : Nat)
  | storingWord (identity : Identity) (sequence : Nat) (i : WordIndex)
  | clearingTimeLow (identity : Identity) (sequence : Nat)
  | clearingTimeHigh (identity : Identity) (sequence : Nat)
  | clearingTerminal (identity : Identity) (sequence : Nat)
  | storingEven (identity : Identity) (sequence : Nat)
  | takingPending
  | inspecting (slot : SlotIndex) (scan : Scan)
  | loadingOrigin (slot : SlotIndex) (scan : Scan) (outcome : Outcome)
  | capturing (slot : SlotIndex) (scan : Scan) (outcome : Outcome) (reader : Reader)
  | loadingTimeLow (slot : SlotIndex) (scan : Scan) (outcome : Outcome) (identity : Identity)
  | loadingTimeHigh (slot : SlotIndex) (scan : Scan) (outcome : Outcome) (identity : Identity)
    (timeLow : Nat)
  /-- the slots that are still to be published again -/
  | republishing (slots : List SlotIndex)

inductive Note
  | began (identity : Identity)
  | latched (identity : Identity) (outcome : Outcome)
  | taken (event : Event)
  | accepted (identity : Identity)
  deriving DecidableEq

/-- `s_pending_dm_tx.delivery`, as far as it is compared. -/
structure Delivery where
  active : Bool
  sessionId : Nat
  revision : Nat
  txActive : Bool
  deriving DecidableEq

variable {ι : Type} [DecidableEq ι]

structure State (ι : Type) where
  nextRadioTxOperationId : Nat
  activeRadioTx : Identity
  history : SlotIndex → Snapshot
  terminalLane : BitVec 32
  owner : Owner
  callbacks : ι → Callback
  log : List Note

namespace State

def setSlot (s : State ι) (slot : SlotIndex) (snapshot : Snapshot) : State ι :=
  { s with history := Function.update s.history slot snapshot }

def setCallback (s : State ι) (c : ι) (callback : Callback) : State ι :=
  { s with callbacks := Function.update s.callbacks c callback }

def setOwner (s : State ι) (owner : Owner) : State ι := { s with owner := owner }

def note (s : State ι) (note : Note) : State ι := { s with log := note :: s.log }

def publishSlot (s : State ι) (slot : SlotIndex) : State ι :=
  { s with terminalLane := (Runtime.publishSlot s.terminalLane slot).1 }

/-- The identity that `meshcore_radio_tx_operation_begin` makes up. -/
def beginIdentity (id : Nat) (kind : OperationKind) (delivery : Option Delivery) :
    Option Identity :=
  if kind = .dm then
    match delivery with
    | some d => if d.active then some ⟨id, kind, d.sessionId, d.revision⟩ else Option.none
    | Option.none => Option.none
  else some ⟨id, kind, 0, 0⟩

/-- `meshcore_radio_tx_operation_begin` up to the publication; `armed` is the answer of
`d1l_mesh_tx_watchdog_arm`. -/
def begin (s : State ι) (kind : OperationKind) (delivery : Option Delivery) (armed : Bool) :
    State ι :=
  if s.activeRadioTx.valid || decide (s.nextRadioTxOperationId = uint32Max) then s
  else
    let id := s.nextRadioTxOperationId + 1
    let s' := { s with nextRadioTxOperationId := id }
    match beginIdentity id kind delivery with
    | Option.none => s'
    | some identity =>
      if identity.valid then
        if armed then
          ({ s' with activeRadioTx := identity }.note (.began identity)).setOwner
            (.loadingSequence identity)
        else { s' with activeRadioTx := .zero }
      else s'

/-- `meshcore_radio_tx_operation_clear` -/
def clear (s : State ι) : State ι := { s with activeRadioTx := .zero }

/-- `meshcore_radio_terminal_matches` -/
def terminalMatches (s : State ι) (event : Event) (delivery : Delivery) : Bool :=
  if event.operation.equal s.activeRadioTx then
    if event.operation.kind = .dm then
      delivery.active && decide (delivery.sessionId = event.operation.dmSessionId) &&
        decide (delivery.revision = event.operation.dmRevision) && delivery.txActive
    else true
  else false

/-- A terminal handler: a terminal that matches clears the operation first of all. -/
def handle (s : State ι) (event : Event) (delivery : Delivery) : State ι :=
  if s.terminalMatches event delivery then (s.note (.accepted event.operation)).clear else s

def slotsOf (mask : BitVec 32) : List SlotIndex :=
  (List.finRange historyLength).filter fun slot => mask.getLsbD slot

def scanOn (s : State ι) (scan : Scan) : State ι :=
  match scan.rest with
  | slot :: rest => s.setOwner (.inspecting slot { scan with rest := rest })
  | [] =>
    if scan.incompleteSnapshot then s.setOwner (.republishing scan.taken)
    else
      match scan.best with
      | Option.none => s.setOwner .idle
      | some event => (s.note (.taken event)).setOwner .idle

def scanCapture (s : State ι) (slot : SlotIndex) (scan : Scan) (outcome : Outcome) :
    Capture → State ι
  | .reading reader => s.setOwner (.capturing slot scan outcome reader)
  | .failed => s.scanOn scan
  | .captured identity =>
    match scan.best with
    | some best =>
      if identity.operationId ≤ best.operation.operationId then s.scanOn scan
      else s.setOwner (.loadingTimeLow slot scan outcome identity)
    | Option.none => s.setOwner (.loadingTimeLow slot scan outcome identity)

def own (s : State ι) : State ι :=
  match s.owner with
  | .idle => s
  | .loadingSequence identity =>
    let sequence := (s.history (slotOf identity.operationId)).sequence
    s.setOwner (.storingOdd identity (if sequence % 2 = 1 then sequence + 1 else sequence))
  | .storingOdd identity sequence =>
    let slot := slotOf identity.operationId
    (s.setSlot slot { s.history slot with sequence := sequence + 1 }).setOwner
      (.storingWord identity sequence 0)
  | .storingWord identity sequence i =>
    let slot := slotOf identity.operationId
    (s.setSlot slot
      { s.history slot with words := Function.update (s.history slot).words i (identity.words i)
        }).setOwner
      (if h : i.val + 1 < 6 then .storingWord identity sequence ⟨i.val + 1, h⟩
        else .clearingTimeLow identity sequence)
  | .clearingTimeLow identity sequence =>
    let slot := slotOf identity.operationId
    (s.setSlot slot { s.history slot with terminalMonotonicUsLow := 0 }).setOwner
      (.clearingTimeHigh identity sequence)
  | .clearingTimeHigh identity sequence =>
    let slot := slotOf identity.operationId
    (s.setSlot slot { s.history slot with terminalMonotonicUsHigh := 0 }).setOwner
      (.clearingTerminal identity sequence)
  | .clearingTerminal identity sequence =>
    let slot := slotOf identity.operationId
    (s.setSlot slot { s.history slot with terminalState := .none }).setOwner
      (.storingEven identity sequence)
  | .storingEven identity sequence =>
    let slot := slotOf identity.operationId
    (s.setSlot slot { s.history slot with sequence := sequence + 2 }).setOwner .idle
  | .takingPending =>
    let (lane, pending) := Runtime.takePending s.terminalLane
    let slots := slotsOf pending
    { s with terminalLane := lane }.scanOn ⟨slots, slots, false, Option.none⟩
  | .inspecting slot scan =>
    match (s.history slot).terminalState with
    | .none | .writing => s.scanOn { scan with incompleteSnapshot := true }
    | .done => s.setOwner (.loadingOrigin slot scan .done)
    | .timeout => s.setOwner (.loadingOrigin slot scan .timeout)
  | .loadingOrigin slot scan outcome =>
    s.scanCapture slot scan outcome (startCapture ((s.history slot).words 0))
  | .capturing slot scan outcome reader =>
    s.scanCapture slot scan outcome (reader.step (s.history (slotOf reader.origin)))
  | .loadingTimeLow slot scan outcome identity =>
    s.setOwner (.loadingTimeHigh slot scan outcome identity
      (s.history slot).terminalMonotonicUsLow)
  | .loadingTimeHigh slot scan outcome identity timeLow =>
    let time := join timeLow (s.history slot).terminalMonotonicUsHigh
    s.scanOn { scan with best := some ⟨outcome, time, identity⟩ }
  | .republishing slots =>
    match slots with
    | [] => s.setOwner .idle
    | slot :: rest => (s.publishSlot slot).setOwner (.republishing rest)

/-- The next step of the callback `c`; `nowUs` is the time it reads after its claim. -/
def callBack (s : State ι) (c : ι) (nowUs : Nat) : State ι :=
  match s.callbacks c with
  | .idle => s
  | .capturing outcome reader =>
    s.setCallback c (.ofCapture outcome (reader.step (s.history (slotOf reader.origin))))
  | .publishingSlot outcome identity =>
    (s.publishSlot (slotOf identity.operationId)).setCallback c (.claiming outcome identity)
  | .claiming outcome identity =>
    let slot := slotOf identity.operationId
    if (s.history slot).terminalState = .none then
      (s.setSlot slot { s.history slot with terminalState := .writing }).setCallback c
        (.writingTimeLow outcome identity nowUs)
    else s.setCallback c .idle
  | .writingTimeLow outcome identity nowUs =>
    let slot := slotOf identity.operationId
    (s.setSlot slot { s.history slot with terminalMonotonicUsLow := low nowUs }).setCallback c
      (.writingTimeHigh outcome identity nowUs)
  | .writingTimeHigh outcome identity nowUs =>
    let slot := slotOf identity.operationId
    (s.setSlot slot { s.history slot with terminalMonotonicUsHigh := high nowUs }).setCallback c
      (.writingOutcome outcome identity)
  | .writingOutcome outcome identity =>
    let slot := slotOf identity.operationId
    ((s.setSlot slot { s.history slot with terminalState := outcome.state }).note
      (.latched identity outcome)).setCallback c .idle

end State

inductive Act (ι : Type)
  | begin (kind : OperationKind) (delivery : Option Delivery) (armed : Bool)
  | take
  | clear
  | handle (event : Event) (delivery : Delivery)
  /-- `try_reserve_owner`, `owner_still_reserved` and `release_owner` -/
  | reserve
  | release
  | own
  | start (c : ι) (outcome : Outcome) (origin : Nat)
  | callBack (c : ι) (nowUs : Nat)

def Owner.isIdle : Owner → Bool
  | .idle => true
  | _ => false

def Callback.isIdle : Callback → Bool
  | .idle => true
  | _ => false

def step (s : State ι) (act : Act ι) : State ι :=
  match act with
  | .begin kind delivery armed => if s.owner.isIdle then s.begin kind delivery armed else s
  | .take => if s.owner.isIdle then s.setOwner .takingPending else s
  | .clear => if s.owner.isIdle then s.clear else s
  | .handle event delivery => if s.owner.isIdle then s.handle event delivery else s
  | .reserve =>
    if s.owner.isIdle then { s with terminalLane := (Runtime.tryReserveOwner s.terminalLane).1 }
    else s
  | .release =>
    if s.owner.isIdle then { s with terminalLane := Runtime.releaseOwner s.terminalLane } else s
  | .own => s.own
  | .start c outcome origin =>
    if (s.callbacks c).isIdle then
      s.setCallback c (.ofCapture outcome (startCapture origin))
    else s
  | .callBack c nowUs => s.callBack c nowUs

/-- After the initialisation, which zeroes the history and the lane. -/
def boot : State ι where
  nextRadioTxOperationId := 0
  activeRadioTx := .zero
  history := fun _ => .zero
  terminalLane := 0
  owner := .idle
  callbacks := fun _ => .idle
  log := []

end Sigui.RadioTerminal

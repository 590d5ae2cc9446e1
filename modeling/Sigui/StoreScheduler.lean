import Sigui.Text

/-! One pass of the scheduler over the retained stores. The clock, the cancellation and the stores
answer as they like; what they answer may depend on everything that was asked before. -/
namespace Sigui.StoreScheduler

/-- `D1L_RETAINED_STORE_SCHEDULER_MAX_STORES` -/
def maxStores : Nat := 8

inductive Kind
  | messages
  | directMessages
  | packets
  | routes
  | contacts
  | readState
  | timeCheckpoint
  | nodes
  deriving DecidableEq

inductive Outcome
  | notRun
  | skippedClean
  | noChange
  | committed
  | coalesced
  | failed
  | cancelledDeadline
  | cancelledQuiesce
  deriving DecidableEq

structure Observation where
  revision : Nat
  commitCount : Nat
  failureCount : Nat
  dirty : Bool
  reconcilePending : Bool
  deriving DecidableEq

instance : Inhabited Observation := ⟨⟨0, 0, 0, false, false⟩⟩

/-- `observation_pending` -/
def Observation.pending (o : Observation) : Bool := o.dirty || o.reconcilePending

inductive Event
  | clock (nowUs : Int)
  | cancelRequested (answer : Bool)
  | observe (store : Nat) (seen : Observation)
  | progress (store : Nat) (starting : Bool)
  | flush (store : Nat) (force : Bool) (ret : EspErr)
  deriving DecidableEq

abbrev Trace := List Event

/-- A store: `flush`, `flush_if_due` and `observe` of a descriptor. -/
structure Descriptor where
  kind : Kind
  name : CStr
  flush : Trace → EspErr
  flushIfDue : Trace → EspErr
  observe : Trace → Observation

/-- `progress` says whether there is such a callback; it has nothing to answer. -/
structure Options where
  force : Bool
  deadlineUs : Int
  clock : Trace → Int
  cancelRequested : Option (Trace → Bool)
  progress : Bool

structure StoreResult where
  kind : Kind
  name : CharArray 16
  outcome : Outcome
  result : EspErr
  startedUs : Int
  finishedUs : Int
  before : Observation
  after : Observation

structure Pass where
  force : Bool
  deadlineExhausted : Bool
  quiesceCancelled : Bool
  deadlineUs : Int
  startedUs : Int
  finishedUs : Int
  result : EspErr
  storeCount : Nat
  attemptedCount : Nat
  committedCount : Nat
  coalescedCount : Nat
  skippedCleanCount : Nat
  failedCount : Nat
  stores : List StoreResult

abbrev Ask := StateM Trace

def readClock (o : Options) : Ask Int := fun trace =>
  (o.clock trace, .clock (o.clock trace) :: trace)

def cancellationRequested (o : Options) : Ask Bool := fun trace =>
  match o.cancelRequested with
  | none => (false, trace)
  | some requested => (requested trace, .cancelRequested (requested trace) :: trace)

def observe (i : Nat) (d : Descriptor) : Ask Observation := fun trace =>
  (d.observe trace, .observe i (d.observe trace) :: trace)

def reportProgress (o : Options) (i : Nat) (starting : Bool) : Ask Unit := fun trace =>
  ((), if o.progress then .progress i starting :: trace else trace)

def flushStore (o : Options) (i : Nat) (d : Descriptor) : Ask EspErr := fun trace =>
  let ret := if o.force then d.flush trace else d.flushIfDue trace
  (ret, .flush i o.force ret :: trace)

def deadlineExhausted (o : Options) (nowUs : Int) : Bool :=
  decide (0 < o.deadlineUs) && decide (o.deadlineUs ≤ nowUs)

inductive Stop
  | deadline
  | quiesce
  deriving DecidableEq

/-- The clock is read, and the pass has to stop when the deadline is reached or, failing that, a
cancellation is requested. -/
def checkpoint (o : Options) : Ask (Int × Option Stop) := do
  let nowUs ← readClock o
  if deadlineExhausted o nowUs then pure (nowUs, some .deadline)
  else
    let requested ← cancellationRequested o
    pure (nowUs, if requested then some .quiesce else none)

def initializeResult (d : Descriptor) : StoreResult where
  kind := d.kind
  name :=
    { bytes := d.name.bytes.take 15
      length_le := (List.length_take_le _ _).trans (by decide)
      no_nul := fun h => d.name.no_nul (List.mem_of_mem_take h) }
  outcome := .notRun
  result := espOk
  startedUs := 0
  finishedUs := 0
  before := default
  after := default

def completedOutcome (before after : Observation) : Outcome :=
  if after.commitCount ≠ before.commitCount ∨ (before.pending && !after.pending) = true then
    .committed
  else if after.pending then .coalesced
  else .noChange

/-- What a turn of the loop comes to; a store that was flushed may still be the last one. -/
inductive Turn
  | stopped (stop : Stop) (result : StoreResult)
  | skipped (result : StoreResult)
  | flushed (result : StoreResult) (stop : Option Stop)

def flushTurn (o : Options) (i : Nat) (d : Descriptor) (before : Observation) (startedUs : Int) :
    Ask Turn := do
  reportProgress o i true
  match ← checkpoint o with
  | (nowUs, some stop) =>
    reportProgress o i false
    pure (.stopped stop
      { initializeResult d with
        startedUs := startedUs, finishedUs := nowUs, before := before, after := before })
  | (_, none) =>
    let ret ← flushStore o i d
    let after ← observe i d
    reportProgress o i false
    let (finishedUs, stop) ← checkpoint o
    pure (.flushed
      { initializeResult d with
        outcome := if ret ≠ espOk then .failed else completedOutcome before after
        result := ret
        startedUs := startedUs, finishedUs := finishedUs, before := before, after := after } stop)

def storeTurn (o : Options) (i : Nat) (d : Descriptor) : Ask Turn := do
  match ← checkpoint o with
  | (_, some stop) => pure (.stopped stop (initializeResult d))
  | (_, none) =>
    let before ← observe i d
    match ← checkpoint o with
    | (_, some stop) => pure (.stopped stop { initializeResult d with before := before })
    | (nowUs, none) =>
      if before.pending then flushTurn o i d before nowUs
      else
        pure (.skipped
          { initializeResult d with
            outcome := .skippedClean
            startedUs := nowUs, finishedUs := nowUs, before := before, after := before })

def cancelRemaining (pass : Pass) (first : Nat) (outcome : Outcome) (result : EspErr) : Pass :=
  { pass with
    stores := pass.stores.take first ++ (pass.stores.drop first).map fun r =>
      { r with outcome := outcome, result := result } }

/-- `cancel_pass`, with the outcome and the error that each caller gives it. -/
def cancelPass (o : Options) (pass : Pass) (first : Nat) (firstError : EspErr) :
    Stop → Pass × EspErr
  | .deadline =>
    ({ cancelRemaining pass first .cancelledDeadline espErrTimeout with deadlineExhausted := true },
      espErrTimeout)
  | .quiesce =>
    let cancellation := if o.force then espErrTimeout else espOk
    ({ cancelRemaining pass first .cancelledQuiesce cancellation with quiesceCancelled := true },
      if firstError = espOk then cancellation else firstError)

def countFlushed (pass : Pass) (outcome : Outcome) : Pass :=
  { pass with
    attemptedCount := pass.attemptedCount + 1
    failedCount := if outcome = .failed then pass.failedCount + 1 else pass.failedCount
    committedCount := if outcome = .committed then pass.committedCount + 1 else pass.committedCount
    coalescedCount :=
      if outcome = .coalesced then pass.coalescedCount + 1 else pass.coalescedCount }

def putResult (pass : Pass) (i : Nat) (result : StoreResult) : Pass :=
  { pass with stores := pass.stores.set i result }

def runStores (o : Options) : Nat → List Descriptor → Pass → EspErr → Ask (Pass × EspErr)
  | _, [], pass, firstError => pure (pass, firstError)
  | i, d :: rest, pass, firstError => do
    match ← storeTurn o i d with
    | .stopped stop result => pure (cancelPass o (putResult pass i result) i firstError stop)
    | .skipped result =>
      runStores o (i + 1) rest
        { putResult pass i result with skippedCleanCount := pass.skippedCleanCount + 1 } firstError
    | .flushed result stop =>
      let counted := countFlushed (putResult pass i result) result.outcome
      let firstError := if firstError = espOk then result.result else firstError
      match stop with
      | some stop => pure (cancelPass o counted (i + 1) firstError stop)
      | none => runStores o (i + 1) rest counted firstError

def initialPass (o : Options) (ds : List Descriptor) (startedUs : Int) : Pass where
  force := o.force
  deadlineExhausted := false
  quiesceCancelled := false
  deadlineUs := o.deadlineUs
  startedUs := startedUs
  finishedUs := 0
  result := espOk
  storeCount := ds.length
  attemptedCount := 0
  committedCount := 0
  coalescedCount := 0
  skippedCleanCount := 0
  failedCount := 0
  stores := ds.map initializeResult

/-- `d1l_retained_store_scheduler_run`; no pass is written when the arguments are refused. -/
def schedulerRun (o : Options) (ds : List Descriptor) : Ask (Option Pass × EspErr) := do
  if ds.length = 0 ∨ maxStores < ds.length ∨ (o.force = true ∧ o.deadlineUs ≤ 0) then
    pure (none, espErrInvalidArg)
  else
    match ← checkpoint o with
    | (startedUs, some stop) =>
      let (pass, ret) := cancelPass o (initialPass o ds startedUs) 0 espOk stop
      pure (some { pass with finishedUs := startedUs, result := ret }, ret)
    | (startedUs, none) =>
      let (pass, ret) ← runStores o 0 ds (initialPass o ds startedUs) espOk
      let finishedUs ← readClock o
      pure (some { pass with finishedUs := finishedUs, result := ret }, ret)

end Sigui.StoreScheduler

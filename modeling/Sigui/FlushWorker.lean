import Mathlib.Logic.Function.Basic
import Sigui.RunRules
import Sigui.Text

/-! The persistence worker with its forced flushes and its quiesce. Any number of tasks call in;
each critical section, each take or give of a mutex and each queue operation is one step. Every
wait may end in time or late, as the step says. -/
namespace Sigui.FlushWorker

/-- `D1L_ROUTE_STORE_WORKER_QUEUE_LENGTH` -/
def queueLength : Nat := 2

/-- What a task can call. `quiesce true` is `quiesce_begin`, `quiesce false` is
`quiesce_wait_begin`. -/
inductive Call
  | forceFlush
  | quiesce (preempt : Bool)
  | quiesceEnd
  deriving DecidableEq

def Call.preempts : Call → Bool
  | .quiesce preempt => preempt
  | _ => false

inductive Held
  | nothing
  | request
  | both
  deriving DecidableEq

inductive Phase
  | idle
  /-- `xTaskCreate` in `d1l_route_store_worker_start` -/
  | creating
  /-- the worker runs, and `s_worker_task` is set next -/
  | created
  | takingRequest
  | checkingDeadline
  | registering
  | numbering
  | sending (id : Nat)
  | polling (id queuedAfter : Nat)
  | unregistering (ret : EspErr)
  | givingRequest (ret : EspErr)
  | announcing
  | seekingRequest
  | seekingFlush
  | confirming
  | promoting
  | withdrawing (held : Held)
  | givingFlush
  | endingFlush
  | endingRequest
  deriving DecidableEq

/-- Which pass a result came from: the `pass`-th to start, when `queuedAfter` had started before
the request was queued. -/
structure Evidence where
  queuedAfter : Nat
  pass : Nat
  deriving DecidableEq

/-- A task: where it is, its last call, what that returned, and whether the quiesce is its own. -/
structure Local where
  phase : Phase
  call : Call
  ret : EspErr
  owns : Bool
  ownedAtCall : Bool
  evidence : Option Evidence
  deriving DecidableEq

def Local.returns (l : Local) (ret : EspErr) : Local := { l with phase := .idle, ret := ret }

def Call.body : Call → Phase
  | .forceFlush => .takingRequest
  | .quiesce _ => .announcing
  | .quiesceEnd => .idle

/-- The worker task. `id` is the request it serves, if any; a background pass has none. -/
inductive Worker
  | receiving
  | entering (id : Option Nat) (pass : Nat)
  /-- `d1l_retained_store_scheduler_run` under the flush mutex; `cancelledBy` is the kind of
  quiesce that made it stop -/
  | passing (id : Option Nat) (pass : Nat) (cancelledBy : Option Bool)
  | giving (id : Option Nat) (pass : Nat) (ret : EspErr)
  | publishing (id pass : Nat) (ret : EspErr)
  deriving DecidableEq

inductive Holder (τ : Type)
  | task (t : τ)
  | worker
  deriving DecidableEq

variable {τ : Type} [DecidableEq τ]

structure State (τ : Type) where
  requestMutex : Option τ
  flushMutex : Option (Holder τ)
  queue : List Nat
  quiesceRequester : Option τ
  quiesceOwner : Option τ
  forceFlushRequester : Option τ
  preemptRequested : Bool
  started : Bool
  starting : Bool
  workerRuns : Bool
  nextRequestId : Nat
  resultRequestId : Nat
  result : EspErr
  resultPass : Nat
  worker : Worker
  /-- passes started so far -/
  passes : Nat
  tasks : τ → Local

namespace State

def put (s : State τ) (t : τ) (l : Local) : State τ :=
  { s with tasks := Function.update s.tasks t l }

theorem put_self (s : State τ) (t : τ) (l : Local) : (s.put t l).tasks t = l :=
  Function.update_self ..

theorem put_other (s : State τ) {t u : τ} (l : Local) (h : u ≠ t) :
    (s.put t l).tasks u = s.tasks u := Function.update_of_ne h ..

def workerQuiesceRequested (s : State τ) : Bool := s.quiesceRequester.isSome && s.preemptRequested

/-- `d1l_route_store_persistence_should_yield`, asked by `current`, which is not the worker -/
def persistenceShouldYield (s : State τ) (current : τ) : Bool :=
  (s.preemptRequested && s.quiesceRequester.isSome &&
      decide (s.quiesceRequester ≠ some current) && decide (s.quiesceOwner ≠ some current)) ||
    (s.forceFlushRequester.isSome && decide (s.forceFlushRequester ≠ some current))

def nextId (s : State τ) : Nat :=
  if u32Succ s.nextRequestId = 0 then u32Succ 0 else u32Succ s.nextRequestId

/-- The first section of a call; the others of `start` follow as steps of their own. -/
def enter (s : State τ) (t : τ) (call : Call) (timeoutMs : Nat) : State τ :=
  let l := { s.tasks t with
    call := call, ownedAtCall := (s.tasks t).owns, ret := espOk, evidence := none }
  match call with
  | .quiesceEnd =>
    if s.quiesceOwner = some t then
      { s with quiesceOwner := none, quiesceRequester := none, preemptRequested := false }.put t
        { l with phase := .endingFlush, owns := false }
    else s.put t l
  | _ =>
    if timeoutMs = 0 then s.put t (l.returns espErrInvalidArg)
    else if s.started then s.put t { l with phase := call.body }
    else if s.starting then s.put t (l.returns espErrInvalidState)
    else { s with starting := true }.put t { l with phase := .creating }

/-- The next step of the call of `t`. `late` says that a wait or a deadline has run out, or that
the worker could not be created. A take of a mutex that is not free leaves the task where it is. -/
def advance (s : State τ) (t : τ) (late : Bool) : State τ :=
  let l := s.tasks t
  match l.phase with
  | .idle => s
  | .creating =>
    if late then { s with starting := false }.put t (l.returns espErrNoMem)
    else { s with workerRuns := true }.put t { l with phase := .created }
  | .created =>
    { s with started := true, starting := false }.put t { l with phase := l.call.body }
  | .takingRequest =>
    if late then s.put t (l.returns espErrTimeout)
    else if s.requestMutex = none then
      { s with requestMutex := some t }.put t { l with phase := .checkingDeadline }
    else s
  | .checkingDeadline =>
    s.put t { l with phase := if late then .givingRequest espErrTimeout else .registering }
  | .registering =>
    if s.forceFlushRequester = none then
      { s with forceFlushRequester := some t }.put t { l with phase := .numbering }
    else s.put t { l with phase := .givingRequest espErrInvalidState }
  | .numbering =>
    { s with nextRequestId := s.nextId }.put t { l with phase := .sending s.nextId }
  | .sending id =>
    if s.queue.length < queueLength then
      { s with queue := s.queue ++ [id] }.put t { l with phase := .polling id s.passes }
    else s.put t { l with phase := .unregistering espErrTimeout }
  | .polling id queuedAfter =>
    if s.resultRequestId = id then
      s.put t
        { l with phase := .unregistering s.result, evidence := some ⟨queuedAfter, s.resultPass⟩ }
    else if late then s.put t { l with phase := .unregistering espErrTimeout }
    else s
  | .unregistering ret =>
    { s with forceFlushRequester :=
        if s.forceFlushRequester = some t then none else s.forceFlushRequester }.put t
      { l with phase := .givingRequest ret }
  | .givingRequest ret => { s with requestMutex := none }.put t (l.returns ret)
  | .announcing =>
    if s.quiesceOwner = none ∧ s.quiesceRequester = none then
      { s with quiesceRequester := some t, preemptRequested := l.call.preempts }.put t
        { l with phase := .seekingRequest }
    else s.put t (l.returns espErrInvalidState)
  | .seekingRequest =>
    if late then s.put t { l with phase := .withdrawing .nothing }
    else if s.requestMutex = none then
      { s with requestMutex := some t }.put t { l with phase := .seekingFlush }
    else s
  | .seekingFlush =>
    if late then s.put t { l with phase := .withdrawing .request }
    else if s.flushMutex = none then
      { s with flushMutex := some (.task t) }.put t { l with phase := .confirming }
    else s
  | .confirming =>
    s.put t { l with phase := if late then .withdrawing .both else .promoting }
  | .promoting =>
    { s with quiesceOwner := some t, preemptRequested := true }.put t
      { l.returns espOk with owns := true }
  | .withdrawing held =>
    (if s.quiesceRequester = some t then
        { s with quiesceRequester := none, preemptRequested := false } else s).put t
      (match held with
      | .nothing => l.returns espErrTimeout
      | .request => { l with phase := .givingRequest espErrTimeout }
      | .both => { l with phase := .givingFlush })
  | .givingFlush =>
    { s with flushMutex := none }.put t { l with phase := .givingRequest espErrTimeout }
  | .endingFlush => { s with flushMutex := none }.put t { l with phase := .endingRequest }
  | .endingRequest => { s with requestMutex := none }.put t (l.returns espOk)

def requestedMode (s : State τ) : Bool :=
  match s.quiesceRequester with
  | some t => (s.tasks t).call.preempts
  | none => false

/-- `flush_retained_stores_locked` has returned `ret`. -/
def finishPass (s : State τ) (id : Option Nat) (pass : Nat) (ret : EspErr) : State τ :=
  match id with
  | some id => { s with worker := .publishing id pass ret }
  | none => { s with worker := .receiving }

/-- The next step of the worker. During a pass, it polls for a quiesce, or (`late`) the pass is
over with `ret`. -/
def work (s : State τ) (late : Bool) (ret : EspErr) : State τ :=
  match s.worker with
  | .receiving =>
    match s.queue with
    | id :: queue =>
      { s with queue := queue, passes := s.passes + 1, worker := .entering (some id) (s.passes + 1) }
    | [] =>
      if late then { s with passes := s.passes + 1, worker := .entering none (s.passes + 1) } else s
  | .entering id pass =>
    if late && id.isSome then s.finishPass id pass espErrTimeout
    else if s.flushMutex = none then
      { s with flushMutex := some .worker, worker := .passing id pass none }
    else s
  | .passing id pass cancelledBy =>
    if late then { s with worker := .giving id pass ret }
    else if s.workerQuiesceRequested then
      { s with worker := .passing id pass (some s.requestedMode) }
    else { s with worker := .passing id pass cancelledBy }
  | .giving id pass ret => { s with flushMutex := none }.finishPass id pass ret
  | .publishing id pass ret =>
    { s with resultRequestId := id, result := ret, resultPass := pass, worker := .receiving }

end State

inductive Act (τ : Type)
  | call (t : τ) (call : Call) (timeoutMs : Nat)
  | advance (t : τ) (late : Bool)
  | work (late : Bool) (ret : EspErr)

def step (s : State τ) (act : Act τ) : State τ :=
  match act with
  | .call t call timeoutMs => if (s.tasks t).phase = .idle then s.enter t call timeoutMs else s
  | .advance t late => s.advance t late
  | .work late ret => if s.workerRuns then s.work late ret else s

def boot : State τ where
  requestMutex := none
  flushMutex := none
  queue := []
  quiesceRequester := none
  quiesceOwner := none
  forceFlushRequester := none
  preemptRequested := false
  started := false
  starting := false
  workerRuns := false
  nextRequestId := 0
  resultRequestId := 0
  result := espOk
  resultPass := 0
  worker := .receiving
  passes := 0
  tasks := fun _ => ⟨.idle, .quiesceEnd, espOk, false, false, none⟩

end Sigui.FlushWorker

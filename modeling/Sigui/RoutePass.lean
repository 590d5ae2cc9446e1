import Sigui.RoutePersist
import Sigui.RunRules

/-! The passes of `persist_route_snapshot` beside the calls that do not take the I/O lock. A pass
gives up the store lock between its parts, so a call may come between any two of them. -/
namespace Sigui.Route

inductive RoutePass
  | idle
  | reconcile (sdPrimaryRequired : Bool) (nowMs : Nat)
  | reconcileFailed (sdPrimaryRequired : Bool)
  | collect (sdPrimaryRequired : Bool) (nowMs : Nat)
  | write (sdPrimaryRequired : Bool) (nowMs : Nat) (snapshot : PersistSnapshot)
  | writeFallback (sdPrimaryRequired : Bool) (snapshot : PersistSnapshot)
  deriving DecidableEq

/-- `s_persist_snapshot` while it is on its way to the backends. -/
def RoutePass.snapshot : RoutePass → Option PersistSnapshot
  | .write _ _ snapshot => some snapshot
  | .writeFallback _ snapshot => some snapshot
  | _ => none

/-- The store, its pass, and the blobs handed to the backends so far. -/
structure RouteDesk where
  store : RouteStore
  pass : RoutePass := .idle
  written : List RouteBlob := []
  deriving DecidableEq

structure WriteAnswers where
  matchesBefore : Bool
  sdRet : EspErr
  nvsRet : EspErr
  generationChanged : Bool

inductive DeskOp
  | observe (a : ObservationArgs) (persist lockTaken : Bool) (nowMs : Nat)
  | clearTarget (target : Option CStr) (nowMs : Nat) (retire : EspErr)
  | begin (sdPrimaryRequired : Bool) (generation nowMs : Nat) (force : Bool)
  | reconcile (reads : ReconcileReads)
  | collect
  | write (answers : WriteAnswers)

/-- The start of a pass; it is refused while another pass holds the I/O lock. -/
def beginPass (d : RouteDesk) (sdPrimaryRequired : Bool) (generation nowMs : Nat)
    (force : Bool) : RouteDesk :=
  match d.pass with
  | .idle =>
    let (store, start) := persistBegin d.store sdPrimaryRequired generation nowMs force
    match start with
    | .finished _ => { d with store := store }
    | .proceed true => { d with store := store, pass := .reconcile sdPrimaryRequired nowMs }
    | .proceed false => { d with store := store, pass := .collect sdPrimaryRequired nowMs }
  | _ => d

def reconcilePass (d : RouteDesk) (reads : ReconcileReads) : RouteDesk :=
  match d.pass with
  | .reconcile sdPrimaryRequired nowMs =>
    let (store, ret) := reconcileSdPrimary d.store reads nowMs
    if ret = espOk then { d with store := store, pass := .collect sdPrimaryRequired nowMs }
    else if ret = espErrNotFinished then { d with store := store, pass := .idle }
    else { d with store := store, pass := .reconcileFailed sdPrimaryRequired }
  | _ => d

def collectPass (d : RouteDesk) : RouteDesk :=
  match d.pass with
  | .collect sdPrimaryRequired nowMs =>
    let (store, snapshot) := takeSnapshot d.store sdPrimaryRequired
    match snapshot with
    | some snapshot =>
      { d with store := store, pass := .write sdPrimaryRequired nowMs snapshot }
    | none => { d with store := store, pass := .idle }
  | .reconcileFailed sdPrimaryRequired =>
    match takeFallback d.store with
    | some snapshot => { d with pass := .writeFallback sdPrimaryRequired snapshot }
    | none => { d with pass := .idle }
  | _ => d

/-- What is handed to the backends: nothing follows a write of the card that is not finished. -/
def handedOut (snapshot : PersistSnapshot) (answers : WriteAnswers) : List RouteBlob :=
  (if snapshot.sdAttempt then [snapshot.primary] else []) ++
    if snapshot.nvsAttempt && !(snapshot.sdAttempt && decide (answers.sdRet = espErrNotFinished))
    then [snapshot.fallback] else []

def writePass (d : RouteDesk) (answers : WriteAnswers) : RouteDesk :=
  match d.pass with
  | .write sdPrimaryRequired nowMs snapshot =>
    if snapshot.sdAttempt && !answers.matchesBefore then
      { d with
        store := noteSdReconcileFailure d.store espErrInvalidState nowMs
        pass := .idle }
    else
      let written := d.written ++ handedOut snapshot answers
      if snapshot.sdAttempt && decide (answers.sdRet = espErrNotFinished) then
        { d with pass := .idle, written := written }
      else
        { store := persistFinish d.store snapshot sdPrimaryRequired
            (if snapshot.sdAttempt then answers.sdRet else espOk)
            (if snapshot.nvsAttempt then answers.nvsRet else espOk)
            answers.generationChanged nowMs
          pass := .idle
          written := written }
  | .writeFallback sdPrimaryRequired snapshot =>
    { store := fallbackFinish d.store snapshot sdPrimaryRequired answers.nvsRet
      pass := .idle
      written := d.written ++ [snapshot.fallback] }
  | _ => d

def stepDesk (d : RouteDesk) : DeskOp → RouteDesk
  | .observe a persist lockTaken nowMs =>
    { d with store := (upsertObservation d.store a persist lockTaken nowMs).1 }
  | .clearTarget target nowMs retire =>
    { d with store := (clearTarget d.store target nowMs retire).1 }
  | .begin sdPrimaryRequired generation nowMs force =>
    beginPass d sdPrimaryRequired generation nowMs force
  | .reconcile reads => reconcilePass d reads
  | .collect => collectPass d
  | .write answers => writePass d answers

end Sigui.Route

import Sigui.DmStore

/-! The mutations of a loaded store, each the work done under one hold of the store lock. The
flush that an immediate variant runs afterwards is a step of its own. -/
namespace Sigui.Dm

def findAckPersistencePending (s : DmStore) (deliverySessionId : UInt64) (targetRevision : Nat) :
    Option AckPersistencePending :=
  s.ackPersistencePending.find? fun pending =>
    pending.deliverySessionId = deliverySessionId &&
      (targetRevision = 0 || pending.targetRevision = targetRevision)

def reserveAckPersistencePending (s : DmStore) (entry : DmEntry) :
    Option AckPersistencePending :=
  if entry.deliverySessionId = 0 || entry.deliveryRevision = uint32Max then none
  else if s.ackPersistencePending.any (·.deliverySessionId = entry.deliverySessionId) then none
  else if dmStoreCapacity ≤ s.ackPersistencePending.length then none
  else some
    { deliverySessionId := entry.deliverySessionId
      previousRevision := entry.deliveryRevision
      targetRevision := entry.deliveryRevision + 1
      previousState := entry.deliveryState
      previousReason := entry.deliveryReason
      previousError := entry.deliveryLastError }

/-- The row as a public read shows it: an ACK that is not stored yet is hidden. -/
def projectAckPersistenceTruth (s : DmStore) (entry : DmEntry) : DmEntry :=
  if entry.deliveryState ≠ .acknowledged then entry
  else
    match findAckPersistencePending s entry.deliverySessionId entry.deliveryRevision with
    | none => entry
    | some pending =>
      { entry with
        deliveryState := pending.previousState
        deliveryReason := pending.previousReason
        deliveryLastError := pending.previousError
        deliveryRevision := pending.previousRevision
        acked := false
        delivered := false }

def mix64 (value : UInt64) : UInt64 :=
  let value := (value ^^^ (value >>> 30)) * 0xbf58476d1ce4e5b9
  let value := (value ^^^ (value >>> 27)) * 0x94d049bb133111eb
  value ^^^ (value >>> 31)

def deliverySessionIdExists (s : DmStore) (sessionId : UInt64) : Bool :=
  sessionId = 0 || (s.entries.findRaw fun e => e.deliverySessionId = sessionId).isSome

def sessionSeed (s : DmStore) : UInt64 :=
  s.clearLineage ^^^ (UInt64.ofNat s.epoch <<< 32) ^^^ UInt64.ofNat s.nextSeq ^^^
    0xd1d34e5e55100101

def sessionProbe (seed : UInt64) (probe : Nat) : UInt64 :=
  let candidate := mix64 (seed + UInt64.ofNat probe)
  if candidate = 0 then 0xd1d34e5e55100101 ^^^ UInt64.ofNat probe else candidate

/-- Eight random draws, then a probe sequence; `0` when every candidate is taken. -/
def newDeliverySessionId (s : DmStore) (random : Fin 8 → UInt64) : UInt64 :=
  match (List.ofFn random).find? fun candidate => !deliverySessionIdExists s candidate with
  | some candidate => candidate
  | none =>
    let probes := (List.range (dmStoreCapacity + 1)).map (sessionProbe (sessionSeed s))
    (probes.find? fun candidate => !deliverySessionIdExists s candidate).getD 0

theorem deliverySessionIdExists_false {s : DmStore} {sessionId : UInt64}
    (h : deliverySessionIdExists s sessionId = false) :
    sessionId ≠ 0 ∧ ∀ e ∈ s.rows, e.deliverySessionId ≠ sessionId := by
  simp only [deliverySessionIdExists, Bool.or_eq_false_iff, decide_eq_false_iff_not,
    Option.isSome_eq_false_iff, Option.isNone_iff_eq_none] at h
  exact ⟨h.1, fun e he => by simpa using AnchoredRing.findRaw_eq_none h.2 e he⟩

theorem newDeliverySessionId_fresh {s : DmStore} {random : Fin 8 → UInt64}
    (h : newDeliverySessionId s random ≠ 0) :
    deliverySessionIdExists s (newDeliverySessionId s random) = false := by
  unfold newDeliverySessionId at h ⊢
  cases hdraw : (List.ofFn random).find? fun c => !deliverySessionIdExists s c with
  | some candidate => simpa using List.find?_some hdraw
  | none =>
    simp only [hdraw] at h ⊢
    cases hprobe : ((List.range (dmStoreCapacity + 1)).map (sessionProbe (sessionSeed s))).find?
        fun c => !deliverySessionIdExists s c with
    | some candidate => simpa using List.find?_some hprobe
    | none => simp [hprobe] at h

structure RowArgs where
  contactFingerprint : Option CStr
  contactAlias : Option CStr
  text : Option CStr
  rssiDbm : Int
  snrTenths : Int
  pathHashBytes : Nat
  pathHops : Nat
  attempt : Nat
  ackHash : Nat

structure AppendArgs extends RowArgs where
  direction : Option CStr
  delivered : Bool
  acked : Bool
  persist : Bool
  flushNow : Bool
  identityDigest : Option Digest

structure AppendOutcome where
  inserted : Bool := false
  rowSeq : Nat := 0
  deliverySessionId : UInt64 := 0
  error : EspErr
  deriving DecidableEq

def txArg : CStr := ⟨txLiteral, by decide⟩
def rxArg : CStr := ⟨rxLiteral, by decide⟩

/-- `argument && argument[0]`, else the fallback. -/
def nonEmptyOr (argument : Option CStr) (fallback : CStr) : CStr :=
  match argument with
  | some value => if value.bytes = [] then fallback else value
  | none => fallback

def copyText (text : CStr) : CharArray 139 where
  bytes := text.bytes.take 139
  length_le := by
    simp only [List.length_take]
    omega
  no_nul := fun h => text.no_nul (List.mem_of_mem_take h)

def appendCheck (a : AppendArgs) : Option EspErr :=
  let textInfo := userTextValidate a.text
  let fingerprintMissing := match a.contactFingerprint with
    | none => true
    | some fingerprint => fingerprint.bytes.isEmpty
  let digestNotInbound := a.identityDigest.isSome &&
    (!a.persist || match a.direction with
      | none => true
      | some direction => direction.prefixOf 4 != rxLiteral)
  if fingerprintMissing || (textInfo.result ≠ .ok && textInfo.result ≠ .tooLong) ||
      3 < a.pathHashBytes || 63 < a.pathHops || 64 < a.pathHashBytes * a.pathHops ||
      (!a.persist && a.flushNow) || digestNotInbound then
    some espErrInvalidArg
  else if textInfo.result = .tooLong then some espErrInvalidSize
  else none

def baseEntry (s : DmStore) (a : AppendArgs) (nowMs : Nat) : DmEntry :=
  let fingerprint := a.contactFingerprint.getD (.lit [])
  { seq := s.nextSeq
    uptimeMs := nowMs
    rssiDbm := a.rssiDbm
    snrTenths := a.snrTenths
    pathHashBytes := a.pathHashBytes
    pathHops := a.pathHops
    attempt := a.attempt
    delivered := a.delivered
    acked := a.acked
    ackHash := a.ackHash
    ackState := if a.identityDigest.isSome then .retryable else .legacyUnverified
    ackLastError := espOk
    identityDigestValid := a.identityDigest.isSome
    identityDigest := a.identityDigest.getD 0
    contactFingerprint := sanitizeAscii 17 fingerprint
    contactAlias := sanitizeAscii 32 (nonEmptyOr a.contactAlias fingerprint)
    direction := sanitizeAscii 4 (nonEmptyOr a.direction rxArg)
    text := copyText (a.text.getD (.lit [])) }

def startDelivery (acked : Bool) (entry : DmEntry) : DmEntry :=
  if entry.outbound then
    { entry with
      deliveryState := if acked then .acknowledged else .queued
      deliveryReason := if acked then .ackReceived else .enqueued
      deliveryLastError := espOk
      deliveryRetryCount := 0
      deliveryRevision := 1
      acked := acked
      delivered := acked }
  else
    { entry with
      deliveryState := .notApplicable
      deliveryReason := .none
      deliveryLastError := espOk
      deliveryRetryCount := 0
      deliveryRevision := 0 }

/-- The row an append builds; the session id of an outbound row is drawn later. -/
def newEntry (s : DmStore) (a : AppendArgs) (nowMs : Nat) : DmEntry :=
  startDelivery a.acked (baseEntry s a nowMs)

@[simp] theorem startDelivery_seq (acked : Bool) (entry : DmEntry) :
    (startDelivery acked entry).seq = entry.seq := by
  unfold startDelivery
  split_ifs <;> rfl

@[simp] theorem startDelivery_frozen (acked : Bool) (entry : DmEntry) :
    (startDelivery acked entry).frozen = entry.frozen := by
  unfold startDelivery
  split_ifs <;> rfl

@[simp] theorem startDelivery_ackPart (acked : Bool) (entry : DmEntry) :
    (startDelivery acked entry).ackPart = entry.ackPart := by
  unfold startDelivery
  split_ifs <;> rfl

/-- A full ring may not drop an outbound row whose public state is not terminal. -/
def oldestBlocksAppend (s : DmStore) : Bool :=
  let oldest := s.entries.slots ⟨s.entries.head, s.entries.head_lt⟩
  let oldestDeliveryState :=
    match findAckPersistencePending s oldest.deliverySessionId oldest.deliveryRevision with
    | some pending => pending.previousState
    | none => oldest.deliveryState
  s.entries.count = dmStoreCapacity && oldest.outbound &&
    !deliveryStateTerminal oldestDeliveryState

def countersExhausted (s : DmStore) : Bool :=
  s.nextSeq = uint32Max || s.totalWritten = uint32Max ||
    (s.entries.count = dmStoreCapacity && s.droppedOldest = uint32Max)

/-- Both dirty flags and the marks that make this boot's history live. -/
def noteMutation (s : DmStore) : DmStore :=
  { s with
    contentRevision := saturatingSucc s.contentRevision
    stateRevision := s.stateRevision + 1
    mutatedSinceInit := true
    deviceLineageAuthoritative := true
    sdPrimaryDirty := true
    nvsFallbackDirty := true }

def insertRow (s : DmStore) (entry : DmEntry) : DmStore :=
  noteMutation
    { s with
      volatileEntry := none
      nextSeq := s.nextSeq + 1
      entries := s.entries.push entry
      droppedOldest :=
        if s.entries.count < dmStoreCapacity then s.droppedOldest else s.droppedOldest + 1
      totalWritten := s.totalWritten + 1
      mutationsSinceInit := saturatingSucc s.mutationsSinceInit }

def appendLocked (s : DmStore) (a : AppendArgs) (nowMs : Nat) (random : Fin 8 → UInt64) :
    DmStore × AppendOutcome :=
  let entry := newEntry s a nowMs
  if !a.persist then ({ s with volatileEntry := some entry }, { error := espOk })
  else if oldestBlocksAppend s then (s, { error := espErrNoMem })
  else if countersExhausted s then (s, { error := espErrInvalidState })
  else if entry.outbound then
    let sessionId := newDeliverySessionId s random
    if sessionId = 0 then (s, { error := espErrInvalidState })
    else (insertRow s { entry with deliverySessionId := sessionId },
      { inserted := true, rowSeq := entry.seq, deliverySessionId := sessionId, error := espOk })
  else (insertRow s entry, { inserted := true, rowSeq := entry.seq, error := espOk })

/-- A store that is not loaded refuses; the immediate variants run init beforehand. -/
def appendInternal (s : DmStore) (a : AppendArgs) (nowMs : Nat) (random : Fin 8 → UInt64) :
    DmStore × AppendOutcome :=
  match appendCheck a with
  | some error => (s, { error := error })
  | none =>
    if !s.loaded then (s, { error := espErrInvalidState }) else appendLocked s a nowMs random

def append (r : RowArgs) (direction : Option CStr) (delivered acked : Bool) : AppendArgs :=
  { r with
    direction := direction, delivered := delivered, acked := acked
    persist := true, flushNow := true, identityDigest := none }

def appendTx (r : RowArgs) : AppendArgs :=
  { r with
    direction := some txArg, delivered := false, acked := false
    persist := true, flushNow := true, identityDigest := none }

def appendRxIdentity (r : RowArgs) (identityDigest : Digest) : AppendArgs :=
  { r with
    direction := some rxArg, delivered := true, acked := false
    persist := true, flushNow := true, identityDigest := some identityDigest }

def appendVolatile (r : RowArgs) (direction : Option CStr) (delivered acked : Bool) :
    AppendArgs :=
  { append r direction delivered acked with persist := false, flushNow := false }

def persistenceDirty (s : DmStore) (sdPrimaryRequired : Bool) : Bool :=
  s.nvsFallbackDirty || (sdPrimaryRequired && (s.sdPrimaryDirty || s.sdReconcilePending))

def findRxIdentity (s : DmStore) (identityDigest : Digest) (rowSeq : Nat) :
    Option (Fin dmStoreCapacity) :=
  s.entries.findSlot fun e =>
    e.identityDigestValid && (rowSeq = 0 || e.seq = rowSeq) && e.identityDigest = identityDigest

structure AckReservation where
  reserved : Bool := false
  rowSeq : Nat := 0
  dispatchCount : Nat := 0
  error : EspErr
  deriving DecidableEq

/-- Rewrites the row in slot `k` and marks the store as changed. -/
def updateRow (s : DmStore) (k : Fin dmStoreCapacity) (f : DmEntry → DmEntry) : DmStore :=
  noteMutation { s with entries := s.entries.modify k f }

def dispatchKindIsValid (dispatchKind : Nat) : Bool :=
  dispatchKind ≠ 0 && dispatchKind ≤ dmAckDispatchKindMax

def reserveAckDispatch (s : DmStore) (identityDigest : Digest) (dispatchKind : Nat)
    (flushNow : Bool) : DmStore × AckReservation :=
  if !dispatchKindIsValid dispatchKind then (s, { error := espErrInvalidArg })
  else if !s.loaded then (s, { error := espErrInvalidState })
  else
    match findRxIdentity s identityDigest 0 with
    | none => (s, { error := espErrNotFound })
    | some k =>
      let entry := s.entries.slots k
      if (flushNow && persistenceDirty s s.lastSdPrimaryRequired) ||
          (entry.ackState ≠ .retryable && entry.ackState ≠ .sent) ||
          dmAckDispatchMax ≤ entry.ackDispatchCount then
        (s, { error := espErrInvalidState })
      else
        (updateRow s k fun e =>
          { e with
            ackDispatchCount := e.ackDispatchCount + 1
            ackDispatchKind := dispatchKind
            ackState := .pending
            ackLastError := espOk },
          { reserved := true, rowSeq := entry.seq
            dispatchCount := entry.ackDispatchCount + 1, error := espOk })

def rebindPendingAckDispatch (s : DmStore) (rowSeq : Nat) (identityDigest : Digest)
    (dispatchKind : Nat) : DmStore × EspErr :=
  if rowSeq = 0 || !dispatchKindIsValid dispatchKind then (s, espErrInvalidArg)
  else if !s.loaded then (s, espErrInvalidState)
  else
    match findRxIdentity s identityDigest rowSeq with
    | none => (s, espErrNotFound)
    | some k =>
      let entry := s.entries.slots k
      if entry.ackState ≠ .pending || entry.ackDispatchCount = 0 then (s, espErrInvalidState)
      else if entry.ackDispatchKind = dispatchKind then (s, espOk)
      else (updateRow s k fun e => { e with ackDispatchKind := dispatchKind }, espOk)

/-- The row is found by digest alone: a reconcile may have given it another sequence. -/
def completeAckDispatch (s : DmStore) (rowSeq : Nat) (identityDigest : Digest) (sent : Bool)
    (error : EspErr) : DmStore × EspErr :=
  if rowSeq = 0 || (sent && error ≠ espOk) || (!sent && error = espOk) then
    (s, espErrInvalidArg)
  else if !s.loaded then (s, espErrInvalidState)
  else
    match findRxIdentity s identityDigest 0 with
    | none => (s, espErrNotFound)
    | some k =>
      let entry := s.entries.slots k
      if entry.ackState ≠ .pending || entry.ackDispatchCount = 0 then (s, espErrInvalidState)
      else
        (updateRow s k fun e =>
          if sent then { e with ackState := .sent, ackLastError := espOk }
          else
            { e with
              ackState := if dmAckDispatchMax ≤ e.ackDispatchCount then .terminal else .retryable
              ackLastError := error }, espOk)

structure TransitionArgs where
  deliverySessionId : UInt64
  expectedState : DeliveryState
  expectedDeliveryRevision : Nat
  nextState : DeliveryState
  reason : DeliveryReason
  error : EspErr
  rebindRetryAck : Bool
  retryAckHash : Nat
  flushNow : Bool

structure TransitionOutcome where
  changed : Bool := false
  durable : Bool := false
  persistenceRetry : Bool := false
  deliverySessionId : UInt64
  rowSeq : Nat := 0
  previousState : DeliveryState
  currentState : DeliveryState
  retryCount : Nat := 0
  attempt : Nat := 0
  ackHash : Nat := 0
  deliveryRevision : Nat := 0
  error : EspErr
  deriving DecidableEq

def advancesAttempt (a : TransitionArgs) : Bool :=
  a.nextState = .retryTx || (a.nextState = .queued && a.reason = .userRetry)

/-- The guard of `apply_delivery_transition_locked`; `true` refuses the transition. -/
def transitionRefused (entry : DmEntry) (a : TransitionArgs) : Bool :=
  !entry.outbound || entry.deliveryState ≠ a.expectedState ||
    entry.deliveryRevision ≠ a.expectedDeliveryRevision || a.reason = .legacyImport ||
    (a.nextState = .queued && a.reason ≠ .userRetry) ||
    !deliveryTransitionAllowed a.expectedState a.nextState ||
    !deliveryReasonMatchesTarget a.nextState a.reason ||
    (deliveryStateIsFailure a.nextState && a.error = espOk) ||
    (a.nextState = .acknowledged && a.error ≠ espOk) || entry.deliveryRevision = uint32Max ||
    (advancesAttempt a && (entry.deliveryRetryCount = uint8Max || entry.attempt = uint8Max))

def applyDeliveryTransition (a : TransitionArgs) (entry : DmEntry) : DmEntry :=
  { entry with
    deliveryState := a.nextState
    deliveryReason := a.reason
    deliveryLastError := a.error
    deliveryRevision := entry.deliveryRevision + 1
    deliveryRetryCount := entry.deliveryRetryCount + if advancesAttempt a then 1 else 0
    attempt := entry.attempt + if advancesAttempt a then 1 else 0
    acked := a.nextState = .acknowledged
    delivered := a.nextState = .acknowledged
    ackHash := if a.rebindRetryAck then a.retryAckHash else entry.ackHash }

def transitionArgsRefused (a : TransitionArgs) : Bool :=
  a.deliverySessionId = 0 || a.expectedDeliveryRevision = 0 ||
    (!a.flushNow &&
      (a.expectedState ≠ .awaitingAck || a.nextState ≠ .acknowledged ||
        a.reason ≠ .ackReceived || a.error ≠ espOk || a.rebindRetryAck))

def rebindRefused (a : TransitionArgs) : Bool :=
  a.rebindRetryAck &&
    (a.expectedState ≠ .retryWait || a.nextState ≠ .retryTx || a.reason ≠ .retryStarted ||
      a.error ≠ espOk)

/-- The caller repeats a transition to ACKNOWLEDGED that the row already shows. -/
def isPersistenceRetry (entry : DmEntry) (a : TransitionArgs) : Bool :=
  a.nextState = .acknowledged && a.reason = .ackReceived && a.error = espOk &&
    a.expectedDeliveryRevision ≠ uint32Max && entry.deliveryState = .acknowledged &&
    entry.deliveryReason = .ackReceived && entry.deliveryLastError = espOk &&
    entry.deliveryRevision = a.expectedDeliveryRevision + 1 && entry.acked && entry.delivered &&
    deliveryTransitionAllowed a.expectedState a.nextState

def findDeliverySession (s : DmStore) (deliverySessionId : UInt64) :
    Option (Fin dmStoreCapacity) :=
  s.entries.findRaw fun e => e.deliverySessionId = deliverySessionId

def emptyOutcome (a : TransitionArgs) (error : EspErr) : TransitionOutcome :=
  { deliverySessionId := a.deliverySessionId, previousState := a.expectedState
    currentState := a.expectedState, error := error }

/-- The outcome fields copied from the row, before and after a change. -/
def rowOutcome (a : TransitionArgs) (entry : DmEntry) (error : EspErr) : TransitionOutcome :=
  { deliverySessionId := a.deliverySessionId, rowSeq := entry.seq
    previousState := entry.deliveryState, currentState := entry.deliveryState
    retryCount := entry.deliveryRetryCount, attempt := entry.attempt, ackHash := entry.ackHash
    deliveryRevision := entry.deliveryRevision, error := error }

/-- `transition_delivery_internal` up to its flush. With `flushNow` the fields `durable` and
`error` of a successful outcome are overwritten by what the flush returns. -/
def transitionDelivery (s : DmStore) (a : TransitionArgs) : DmStore × TransitionOutcome :=
  if transitionArgsRefused a then (s, emptyOutcome a espErrInvalidArg)
  else if !s.loaded then (s, emptyOutcome a espErrInvalidState)
  else
    match findDeliverySession s a.deliverySessionId with
    | none => (s, emptyOutcome a espErrNotFound)
    | some k =>
      let entry := s.entries.slots k
      if rebindRefused a then (s, rowOutcome a entry espErrInvalidState)
      else if isPersistenceRetry entry a then
        let pending :=
          findAckPersistencePending s entry.deliverySessionId entry.deliveryRevision
        (s, { rowOutcome a entry espOk with
              persistenceRetry := true
              previousState := a.expectedState
              durable := !a.flushNow && pending.isNone })
      else
        let reserved := reserveAckPersistencePending s entry
        if a.nextState = .acknowledged && reserved.isNone then
          (s, rowOutcome a entry espErrNoMem)
        else if transitionRefused entry a then (s, rowOutcome a entry espErrInvalidState)
        else
          let pending := if a.nextState = .acknowledged then reserved.toList else []
          let after := applyDeliveryTransition a entry
          (updateRow { s with ackPersistencePending := s.ackPersistencePending ++ pending } k
            (applyDeliveryTransition a),
            { rowOutcome a after espOk with changed := true, previousState := entry.deliveryState })

/-- `d1l_dm_store_transition_delivery_retry` -/
def transitionDeliveryRetry (deliverySessionId : UInt64) (expectedDeliveryRevision : Nat)
    (retryAckHash : Nat) : TransitionArgs :=
  { deliverySessionId := deliverySessionId, expectedState := .retryWait
    expectedDeliveryRevision := expectedDeliveryRevision, nextState := .retryTx
    reason := .retryStarted, error := espOk, rebindRetryAck := true
    retryAckHash := retryAckHash, flushNow := true }

/-- The transition `d1l_dm_store_mark_acked` issues for the first outbound row with this hash;
none when no row has it or its public state is already ACKNOWLEDGED. -/
def markAckedRequest (s : DmStore) (ackHash : Nat) : Option TransitionArgs :=
  match s.entries.findRaw fun e => e.ackHash = ackHash && e.outbound with
  | none => none
  | some k =>
    let entry := s.entries.slots k
    let (deliveryState, deliveryRevision) :=
      match findAckPersistencePending s entry.deliverySessionId entry.deliveryRevision with
      | some pending => (pending.previousState, pending.previousRevision)
      | none => (entry.deliveryState, entry.deliveryRevision)
    if ackHash = 0 || entry.deliverySessionId = 0 || deliveryState = .acknowledged then none
    else some
      { deliverySessionId := entry.deliverySessionId, expectedState := deliveryState
        expectedDeliveryRevision := deliveryRevision, nextState := .acknowledged
        reason := .ackReceived, error := espOk, rebindRetryAck := false, retryAckHash := 0
        flushNow := true }

/-- `d1l_dm_store_clear` up to the backend erase: a new random lineage, sequence back to one. -/
def clearStore (s : DmStore) (lineage : UInt64) : DmStore :=
  let s := clearHistory s
  { s with
    epoch := if s.epoch = uint32Max then 1 else s.epoch + 1
    clearLineage := lineage
    contentRevision := saturatingSucc s.contentRevision
    stateRevision := s.stateRevision + 1
    mutatedSinceInit := true
    deviceLineageAuthoritative := true
    bootNextSeq := s.nextSeq
    mutationsSinceInit := 0
    sdPrimaryDirty := true
    nvsFallbackDirty := true }

end Sigui.Dm

import Sigui.RouteStore

/-! The calls that observe a route or forget one, each the work done under one hold of the
store lock. -/
namespace Sigui.Route

def packetArg : CStr := .lit [112, 97, 99, 107, 101, 116]
def unknownArg : CStr := .lit [117, 110, 107, 110, 111, 119, 110]
def rxArg : CStr := .lit [114, 120]

/-- `text && text[0] ? text : fallback` -/
def nonemptyOr (text : Option CStr) (fallback : CStr) : CStr :=
  match text with
  | some text => if text.bytes.isEmpty then fallback else text
  | none => fallback

theorem nonemptyOr_ne_nil {text : Option CStr} {fallback : CStr} (h : fallback.bytes ≠ []) :
    (nonemptyOr text fallback).bytes ≠ [] := by
  cases text with
  | none => exact h
  | some text =>
    rw [nonemptyOr]
    split_ifs with hempty
    · exact h
    · simpa using hempty

structure ObservationArgs where
  target : Option CStr
  label : Option CStr
  kind : Option CStr
  route : Option CStr
  direction : Option CStr
  rssiDbm : Int
  snrTenths : Int
  pathHashBytes : Nat
  pathHops : Nat
  payloadLen : Nat

/-- `text ? text : ""` -/
def orEmpty (text : Option CStr) : List UInt8 :=
  match text with
  | some text => text.bytes
  | none => []

/-- Three `strncmp`s of an entry's texts with a caller's strings. -/
def textsMatch (target kind direction : List UInt8) (e : RouteEntry) : Bool :=
  e.target.equalsLiteral target && e.kind.equalsLiteral kind &&
    e.direction.equalsLiteral direction

def findIndex (entries : List RouteEntry) (target kind direction : List UInt8) :
    Option (List RouteEntry × RouteEntry × List RouteEntry) :=
  if target.isEmpty then none
  else splitFirst (textsMatch target kind direction) entries

/-- The observation that passed the checks of the arguments, with its target. -/
def acceptedTarget (a : ObservationArgs) : Option CStr :=
  match a.target with
  | none => none
  | some target =>
    if target.bytes.isEmpty || !pathIsValid a.pathHashBytes a.pathHops ||
        decide (routeStoreMaxPayloadLen < a.payloadLen) then none
    else some target

def storedIdentity (target : CStr) (a : ObservationArgs) : RouteIdentity where
  target := sanitizeAscii 17 target
  kind := sanitizeAscii 16 (nonemptyOr a.kind packetArg)
  direction := sanitizeAscii 4 (nonemptyOr a.direction rxArg)

/-- The fields an upsert overwrites; `seenCount` and `firstSeenMs` go on from `e`. -/
def writeObservation (e : RouteEntry) (target : CStr) (a : ObservationArgs) (seq nowMs : Nat) :
    RouteEntry :=
  { e with
    seq := seq
    lastSeenMs := nowMs
    seenCount := u32Succ e.seenCount
    lastRssiDbm := a.rssiDbm
    lastSnrTenths := a.snrTenths
    pathHashBytes := a.pathHashBytes
    pathHops := a.pathHops
    confidence := routeConfidence a.pathHops
    payloadLen := a.payloadLen
    target := (storedIdentity target a).target
    label := sanitizeAscii 24 (nonemptyOr a.label target)
    kind := (storedIdentity target a).kind
    route := sanitizeAscii 18 (nonemptyOr a.route unknownArg)
    direction := (storedIdentity target a).direction }

/-- `memset` and the new row's `first_seen_ms`. -/
def blankEntry (nowMs : Nat) : RouteEntry where
  seq := 0
  firstSeenMs := nowMs
  lastSeenMs := 0
  seenCount := 0
  target := .empty
  label := .empty
  kind := .empty
  route := .empty
  direction := .empty
  lastRssiDbm := 0
  lastSnrTenths := 0
  pathHashBytes := 0
  pathHops := 0
  confidence := 0
  payloadLen := 0

def seenAt (e : RouteEntry) (nowMs : Nat) : RouteEntry :=
  { e with firstSeenMs := min nowMs e.firstSeenMs }

def routeMateriallyChanged (before after : RouteEntry) : Bool :=
  decide (before.target ≠ after.target) || decide (before.label ≠ after.label) ||
    decide (before.kind ≠ after.kind) || decide (before.route ≠ after.route) ||
    decide (before.direction ≠ after.direction) ||
    decide (before.pathHashBytes ≠ after.pathHashBytes) ||
    decide (before.pathHops ≠ after.pathHops) || decide (before.payloadLen ≠ after.payloadLen)

/-- `entry` and what stays around it. -/
structure UpsertSlot where
  pre : List RouteEntry
  entry : RouteEntry
  post : List RouteEntry
  isNew : Bool
  evicted : Bool

/-- The row an observation is written to: the matching one, a fresh one at the end, or the place
of the oldest row. -/
def upsertSlot (s : RouteStore) (target : CStr) (a : ObservationArgs) (nowMs : Nat) :
    UpsertSlot :=
  match findIndex s.entries target.bytes (orEmpty a.kind) (orEmpty a.direction) with
  | some (pre, e, post) => ⟨pre, seenAt e nowMs, post, false, false⟩
  | none =>
    if s.entries.length < routeStoreCapacity then ⟨s.entries, blankEntry nowMs, [], true, false⟩
    else
      match firstOldest RouteEntry.seq s.entries with
      | some (pre, _, post) => ⟨pre, blankEntry nowMs, post, true, true⟩
      | none => ⟨[], blankEntry nowMs, [], true, true⟩

/-- The volatile branch: a preview row under the next sequence number. -/
def upsertVolatile (s : RouteStore) (target : CStr) (a : ObservationArgs) (nowMs : Nat) :
    RouteStore :=
  let base :=
    match s.volatileEntry with
    | some e =>
      if textsMatch target.bytes (orEmpty a.kind) (orEmpty a.direction) e then seenAt e nowMs
      else blankEntry nowMs
    | none => blankEntry nowMs
  { s with volatileEntry := some (writeObservation base target a s.nextSeq nowMs) }

def upsertPersistent (s : RouteStore) (target : CStr) (a : ObservationArgs) (nowMs : Nat) :
    RouteStore :=
  let slot := upsertSlot s target a nowMs
  let entry := writeObservation slot.entry target a s.nextSeq nowMs
  let written :=
    { s with
      volatileEntry := none
      entries := slot.pre ++ entry :: slot.post
      nextSeq := u32Succ s.nextSeq
      totalWritten := u32Succ s.totalWritten
      droppedOldest := if slot.evicted then u32Succ s.droppedOldest else s.droppedOldest
      revision := s.revision + 1
      mutatedSinceInit := true
      mutationsSinceInit := u32Succ s.mutationsSinceInit
      sdPrimaryDirty := true
      nvsFallbackDirty := true }
  notePersistenceDirty written (slot.isNew || routeMateriallyChanged slot.entry entry) false nowMs

/-- `upsert_observation_internal`; `lockTaken` is what `try_take` answers a deferred call. -/
def upsertObservation (s : RouteStore) (a : ObservationArgs) (persist lockTaken : Bool)
    (nowMs : Nat) : RouteStore × EspErr :=
  match acceptedTarget a with
  | none => (s, espErrInvalidArg)
  | some target =>
    if !lockTaken then (s, espErrTimeout)
    else if !s.loaded then (s, espErrInvalidState)
    else if persist then (upsertPersistent s target a nowMs, espOk)
    else (upsertVolatile s target a nowMs, espOk)

def targetMatches (target : List UInt8) (e : RouteEntry) : Bool :=
  e.target.equalsLiteral target

/-- The rows without those of the target, and whether there were any. -/
def dropTarget (s : RouteStore) (target : List UInt8) : RouteStore × Bool :=
  let kept := s.entries.filter fun e => !targetMatches target e
  let volatileKept := s.volatileEntry.filter fun e => !targetMatches target e
  let changed := decide (kept.length < s.entries.length) ||
    (s.volatileEntry.isSome && volatileKept.isNone)
  ({ s with entries := kept, volatileEntry := volatileKept }, changed)

/-- `d1l_route_store_clear_target` on a loaded store. The caller erases the NVS keys only when
rows were dropped, and `retire` is what the erase of the v2 key returned. -/
def clearTarget (s : RouteStore) (target : Option CStr) (nowMs : Nat) (retire : EspErr) :
    RouteStore × EspErr :=
  match target with
  | none => (s, espErrInvalidArg)
  | some target =>
    if target.bytes.isEmpty then (s, espErrInvalidArg)
    else
      let (dropped, changed) := dropTarget s target.bytes
      if changed then
        (notePersistenceDirty
          { dropped with
            revision := s.revision + 1
            mutatedSinceInit := true
            mutationsSinceInit := u32Succ s.mutationsSinceInit
            sdPrimaryDirty := true
            nvsFallbackDirty := true } true false nowMs, retire)
      else (dropped, espOk)

end Sigui.Route

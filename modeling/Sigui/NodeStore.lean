import Sigui.NodeEntry
import Sigui.ListRules

/-! The heard nodes in RAM: how a signed advert is taken up, how a blob of the card is merged in,
and which markers the map is given. Counters that only `d1l_node_store_stats` reports and the
boot-local reachability of a slot are left out. -/
namespace Sigui.Node

def nodeStoreCapacity : Nat := 512
def nodeStoreSdSchema : Nat := 5

def zeroNode : NodeEntry where
  seq := 0
  firstHeardMs := 0
  lastHeardMs := 0
  advertTimestamp := 0
  heardCount := 0
  fingerprint := .empty
  publicKeyHex := .empty
  name := .empty
  type := .empty
  rssiDbm := 0
  snrTenths := 0
  pathHashBytes := 0
  pathHops := 0
  locationValid := false
  latE6 := 0
  lonE6 := 0
  locationAdvertTimestamp := 0
  locationSeq := 0

/-- `d1l_node_store_sd_blob_t`; the count is the length of the row list. -/
structure NodeBlob where
  schema : Nat
  epoch : Nat
  nextSeq : Nat
  totalWritten : Nat
  droppedOldest : Nat
  entries : List NodeEntry
  deriving DecidableEq

structure NodeStore where
  entries : List NodeEntry := []
  nextSeq : Nat := 1
  totalWritten : Nat := 0
  droppedOldest : Nat := 0
  markerGeneration : Nat := 1
  epoch : Nat := 1
  loaded : Bool := false
  persistenceDirty : Bool := false
  sdReconcilePending : Bool := false
  dirtyTimingStarted : Bool := false
  persistenceImmediateDue : Bool := false
  retryPending : Bool := false
  legacyCleanupPending : Bool := false
  dirtySinceMs : Nat := 0
  lastPersistAttemptMs : Nat := 0
  lastSdBackendGeneration : Nat := 0
  sdPrimaryLastError : EspErr := espOk
  revision : Nat := 0
  deriving DecidableEq

def clearRam (s : NodeStore) : NodeStore :=
  { s with entries := [], nextSeq := 1, totalWritten := 0, droppedOldest := 0 }

/-- Zero is what a store that could not be loaded answers, so it is skipped. -/
def bumpMarkerGeneration (generation : Nat) : Nat :=
  if u32Succ generation = 0 then 1 else u32Succ generation

def locationInBounds (latE6 lonE6 : Int) : Bool :=
  decide (-90000000 ≤ latE6 ∧ latE6 ≤ 90000000 ∧ -180000000 ≤ lonE6 ∧ lonE6 ≤ 180000000)

/-- Whether the map has to be drawn again when one row gives way to another. -/
def markerMaterialChanged (before after : NodeEntry) : Bool :=
  if before.locationValid ≠ after.locationValid then true
  else if !before.locationValid then false
  else
    decide (before.latE6 ≠ after.latE6) || decide (before.lonE6 ≠ after.lonE6) ||
      decide (before.fingerprint ≠ after.fingerprint) || decide (before.name ≠ after.name) ||
      decide (before.type ≠ after.type)

def notePersistenceDirty (s : NodeStore) (immediate : Bool) (nowMs : Nat) : NodeStore :=
  { s with
    dirtyTimingStarted := true
    dirtySinceMs := if s.dirtyTimingStarted then s.dirtySinceMs else nowMs
    persistenceDirty := true
    persistenceImmediateDue := s.persistenceImmediateDue || immediate }

def sdBlobIsValid (blob : NodeBlob) : Bool :=
  decide (blob.schema = nodeStoreSdSchema) && decide (0 < blob.epoch) &&
    decide (blob.entries.length ≤ nodeStoreCapacity) && decide (0 < blob.nextSeq)

abbrev RowSplit : Type := List NodeEntry × NodeEntry × List NodeEntry

/-- `strncmp(row, fingerprint, 17) == 0` -/
def fingerprintIs (fingerprint : List UInt8) (e : NodeEntry) : Bool :=
  decide (e.fingerprint.bytes = fingerprint.take 17)

def findByFingerprint (entries : List NodeEntry) (fingerprint : List UInt8) : Option RowSplit :=
  if fingerprint.isEmpty then none else splitFirst (fingerprintIs fingerprint) entries

def splitLeast (test : NodeEntry → Bool) (less : NodeEntry → NodeEntry → Bool) :
    List NodeEntry → Option RowSplit
  | [] => none
  | e :: rest =>
    match splitLeast test less rest with
    | none => if test e then some ([], e, rest) else none
    | some (pre, least, post) =>
      if test e && !less least e then some ([], e, rest) else some (e :: pre, least, post)

def isUnlocated (e : NodeEntry) : Bool := !e.locationValid

/-- `oldest_unlocated_index` -/
def oldestUnlocated (entries : List NodeEntry) : Option RowSplit :=
  splitLeast isUnlocated (fun a b => decide (a.seq < b.seq)) entries

def advertOlder (a b : NodeEntry) : Bool :=
  decide (a.advertTimestamp < b.advertTimestamp) ||
    (decide (a.advertTimestamp = b.advertTimestamp) && decide (a.seq < b.seq))

/-- `least_recent_unlocated_advert_index` -/
def leastRecentUnlocatedAdvert (entries : List NodeEntry) : Option RowSplit :=
  splitLeast isUnlocated advertOlder entries

def persistedEntryIsValid (e : NodeEntry) : Bool :=
  e.fingerprint.terminated && e.publicKeyHex.terminated && e.name.terminated &&
    e.type.terminated && !e.fingerprint.bytes.isEmpty &&
    (!e.locationValid || locationInBounds e.latE6 e.lonE6)

/-- A newer advert of a known node keeps the retained location, unless it brings a later one. -/
def takeNewer (current incoming : NodeEntry) : NodeEntry :=
  if current.locationValid && (!incoming.locationValid ||
      decide (incoming.locationAdvertTimestamp < current.locationAdvertTimestamp)) then
    { incoming with
      locationValid := true, latE6 := current.latE6, lonE6 := current.lonE6
      locationAdvertTimestamp := current.locationAdvertTimestamp
      locationSeq := current.locationSeq }
  else incoming

def fillMissing (current incoming : NodeEntry) : Option NodeEntry :=
  let location := incoming.locationValid && (!current.locationValid ||
    decide (current.locationAdvertTimestamp < incoming.locationAdvertTimestamp))
  let key := current.publicKeyHex.bytes.isEmpty && !incoming.publicKeyHex.bytes.isEmpty
  let name := current.name.bytes.isEmpty && !incoming.name.bytes.isEmpty
  let e :=
    if location then
      { current with
        locationValid := true, latE6 := incoming.latE6, lonE6 := incoming.lonE6
        locationAdvertTimestamp := incoming.locationAdvertTimestamp
        locationSeq := incoming.locationSeq }
    else current
  if location || key || name then
    some { e with
      publicKeyHex := if key then incoming.publicKeyHex else current.publicKeyHex
      name := if name then incoming.name else current.name }
  else none

/-- What a row of the card makes of the retained row of its fingerprint. -/
def mergeKnown (current incoming : NodeEntry) : Option NodeEntry :=
  if current.advertTimestamp < incoming.advertTimestamp then some (takeNewer current incoming)
  else if incoming.advertTimestamp = current.advertTimestamp then fillMissing current incoming
  else none

/-- `merge_persisted_entry_locked`: the store when it changed, and whether a marker did. -/
def mergePersistedEntry (s : NodeStore) (incoming : NodeEntry) : Option (NodeStore × Bool) :=
  if !persistedEntryIsValid incoming then none
  else
    match findByFingerprint s.entries incoming.fingerprint.bytes with
    | some (pre, current, post) =>
      (mergeKnown current incoming).map fun e =>
        ({ s with entries := pre ++ e :: post }, markerMaterialChanged current e)
    | none =>
      if s.entries.length < nodeStoreCapacity then
        some ({ s with entries := s.entries ++ [incoming] },
          markerMaterialChanged zeroNode incoming)
      else
        match leastRecentUnlocatedAdvert s.entries with
        | none => none
        | some (pre, oldest, post) =>
          if advertOlder oldest incoming then
            some ({ s with
              entries := pre ++ incoming :: post
              droppedOldest := u32Succ s.droppedOldest }, markerMaterialChanged oldest incoming)
          else none

/-- One turn of the merge loop, with `changed` and `markers_changed`. -/
def mergeTurn (acc : NodeStore × Bool × Bool) (incoming : NodeEntry) : NodeStore × Bool × Bool :=
  match mergePersistedEntry acc.1 incoming with
  | none => acc
  | some (s, marker) => (s, true, acc.2.2 || marker)

def raiseNextSeq (nextSeq : Nat) (entries : List NodeEntry) : Nat :=
  entries.foldl (fun next e => if next ≤ e.seq ∧ e.seq < uint32Max then e.seq + 1 else next)
    nextSeq

def raiseCounters (s : NodeStore) (blob : NodeBlob) : NodeStore :=
  let next := raiseNextSeq (max blob.nextSeq s.nextSeq) s.entries
  { s with
    nextSeq := if next = 0 then 1 else next
    totalWritten := max blob.totalWritten s.totalWritten
    droppedOldest := max blob.droppedOldest s.droppedOldest }

/-- `merge_sd_blob_locked` -/
def mergeSdBlob (s : NodeStore) (blob : NodeBlob) : NodeStore × Bool :=
  if blob.epoch ≠ s.epoch then (s, false)
  else
    let (merged, changed, markers) := blob.entries.foldl mergeTurn (s, false, false)
    let raised := raiseCounters merged blob
    ({ raised with
      markerGeneration :=
        if markers then bumpMarkerGeneration raised.markerGeneration
        else raised.markerGeneration }, changed)

def lowerHexChar (c : UInt8) : UInt8 :=
  if 65 ≤ c.toNat ∧ c.toNat ≤ 70 then c + 32 else c

/-- Two texts of 64 characters that differ in the case of hex digits only. -/
def publicKeysEqual (left right : List UInt8) : Bool :=
  decide (left.length = 64) && decide (right.length = 64) &&
    decide (left.map lowerHexChar = right.map lowerHexChar)

def typeName (typeCode : UInt8) : CStr :=
  if typeCode = 67 then ⟨[99, 104, 97, 116], by decide⟩
  else if typeCode = 80 then ⟨[114, 101, 112, 101, 97, 116, 101, 114], by decide⟩
  else if typeCode = 82 then ⟨[114, 111, 111, 109], by decide⟩
  else if typeCode = 83 then ⟨[115, 101, 110, 115, 111, 114], by decide⟩
  else ⟨[110, 111, 100, 101], by decide⟩

/-- The arguments of `d1l_node_store_upsert_advert`. -/
structure Advert where
  fingerprint : Option CStr
  publicKeyHex : Option CStr
  name : Option CStr
  typeCode : UInt8
  rssiDbm : Int
  snrTenths : Int
  pathHashBytes : Nat
  pathHops : Nat
  advertTimestamp : Nat
  locationValid : Bool
  latE6 : Int
  lonE6 : Int

/-- `text && text[0] != '\0'` -/
def givenText (text : Option CStr) : Option CStr := text.filter fun t => !t.bytes.isEmpty

def keyCollides (e : NodeEntry) (publicKeyHex : Option CStr) : Bool :=
  match givenText publicKeyHex with
  | none => false
  | some key => !e.publicKeyHex.bytes.isEmpty && !publicKeysEqual e.publicKeyHex.bytes key.bytes

/-- The row an advert leaves; `base` is the retained row, or a blank one. -/
def advertRow (base : NodeEntry) (a : Advert) (fingerprint : CStr) (seq nowMs : Nat) : NodeEntry :=
  let stored : CharArray 17 := sanitizeAscii 17 fingerprint
  let name : CharArray 24 := ((givenText a.name).map (sanitizeAscii 24)).getD base.name
  let e := { base with
    seq := seq
    lastHeardMs := nowMs
    advertTimestamp := a.advertTimestamp
    heardCount := u32Succ base.heardCount
    rssiDbm := a.rssiDbm
    snrTenths := a.snrTenths
    pathHashBytes := a.pathHashBytes
    pathHops := a.pathHops
    fingerprint := stored
    publicKeyHex := ((givenText a.publicKeyHex).map (sanitizeAscii 65)).getD base.publicKeyHex
    name := if name.bytes.isEmpty then sanitizeAscii 24 stored.cstr else name
    type := sanitizeAscii 9 (typeName a.typeCode) }
  if a.locationValid then
    { e with
      locationValid := true, latE6 := a.latE6, lonE6 := a.lonE6
      locationAdvertTimestamp := a.advertTimestamp, locationSeq := seq }
  else e

def blankNode (nowMs : Nat) : NodeEntry := { zeroNode with firstHeardMs := nowMs }

def storeAdvert (s : NodeStore) (before : NodeEntry) (pre post : List NodeEntry) (row : NodeEntry)
    (nowMs : Nat) : NodeStore :=
  notePersistenceDirty
    { s with
      entries := pre ++ row :: post
      nextSeq := u32Succ s.nextSeq
      markerGeneration :=
        if markerMaterialChanged before row then bumpMarkerGeneration s.markerGeneration
        else s.markerGeneration
      totalWritten := u32Succ s.totalWritten
      revision := s.revision + 1 } false nowMs

/-- `d1l_node_store_upsert_advert` on a loaded store; the flag is `out_stale`. -/
def upsertAdvert (s : NodeStore) (a : Advert) (nowMs : Nat) : NodeStore × EspErr × Bool :=
  match givenText a.fingerprint with
  | none => (s, espErrInvalidArg, false)
  | some fingerprint =>
    if a.locationValid && !locationInBounds a.latE6 a.lonE6 then (s, espErrInvalidArg, false)
    else
      match findByFingerprint s.entries fingerprint.bytes with
      | some (pre, e, post) =>
        if keyCollides e a.publicKeyHex then (s, espErrInvalidState, false)
        else if a.advertTimestamp ≤ e.advertTimestamp then (s, espOk, true)
        else
          (storeAdvert s e pre post (advertRow e a fingerprint s.nextSeq nowMs) nowMs, espOk, false)
      | none =>
        let row := advertRow (blankNode nowMs) a fingerprint s.nextSeq nowMs
        if s.entries.length < nodeStoreCapacity then
          (storeAdvert s zeroNode s.entries [] row nowMs, espOk, false)
        else
          match oldestUnlocated s.entries with
          | none => (s, espErrNoMem, false)
          | some (pre, e, post) =>
            (storeAdvert { s with droppedOldest := u32Succ s.droppedOldest } e pre post row nowMs,
              espOk, false)

structure NodeMarker where
  fingerprint : CharArray 17
  name : CharArray 24
  type : CharArray 9
  latE6 : Int
  lonE6 : Int
  locationAdvertTimestamp : Nat
  locationSeq : Nat
  deriving DecidableEq

def markerOf (e : NodeEntry) : NodeMarker where
  fingerprint := sanitizeAscii 17 e.fingerprint.cstr
  name := sanitizeAscii 24 e.name.cstr
  type := sanitizeAscii 9 e.type.cstr
  latE6 := e.latE6
  lonE6 := e.lonE6
  locationAdvertTimestamp := e.locationAdvertTimestamp
  locationSeq := e.locationSeq

def markerBefore (a b : NodeEntry) : Bool :=
  decide (b.locationSeq < a.locationSeq) ||
    (decide (a.locationSeq = b.locationSeq) && decide (b.seq < a.seq))

/-- `d1l_node_store_copy_markers`: the best of the located rows, and then the best of the rest. -/
def copyMarkers (entries : List NodeEntry) : Nat → List NodeMarker
  | 0 => []
  | maxMarkers + 1 =>
    match splitLeast (fun e => e.locationValid) markerBefore entries with
    | none => []
    | some (pre, best, post) => markerOf best :: copyMarkers (pre ++ post) maxMarkers

/-- What `d1l_node_store_clear` does to RAM once the new epoch is stored. -/
def clearNodes (s : NodeStore) (backendEnabled : Bool) (nowMs : Nat) : NodeStore :=
  let cleared := { clearRam s with
    epoch := if u32Succ s.epoch = 0 then 1 else u32Succ s.epoch
    revision := s.revision + 1
    sdReconcilePending := !backendEnabled
    loaded := true
    markerGeneration :=
      if s.entries.any fun e => e.locationValid then bumpMarkerGeneration s.markerGeneration
      else s.markerGeneration }
  notePersistenceDirty cleared true nowMs

end Sigui.Node

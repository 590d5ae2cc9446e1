import Sigui.ContactPersist

/-! The operations of the contact store. Each is an edit of the loaded store: an answer that
changes nothing, a change that waits for the next flush, or a change that is persisted at once and
rolled back when that fails. -/
namespace Sigui.Contact

open Sigui.Channel (Bytes)
open Sigui.MeshPath

/-- `D1L_CONTACT_VERIFIED_ADVERT_*` and `D1L_CONTACT_IMPORT_*` -/
inductive ContactResult
  | none
  | created
  | updated
  | promotedPlaceholder
  | collision
  | roleConflict
  | full
  deriving DecidableEq

structure Reply (ρ : Type) where
  ret : EspErr
  result : ρ
  entry : Option ContactEntry

/-- `entry` is read from the store as it is after the persist pass. -/
inductive Edit (ρ : Type)
  | answered (reply : Reply ρ)
  | deferred (edited : ContactStore) (reply : Reply ρ)
  | persisted (edited : ContactStore) (result failed : ρ)
      (entry : ContactStore → Option ContactEntry)

def callLoaded {ρ : Type} (d : ContactDevice) (io : OpIo) (unloaded : ρ)
    (edit : ContactStore → Edit ρ) : ContactDevice × Reply ρ :=
  let (d, initRet) := ensureLoaded d io.init
  if initRet ≠ espOk then (d, ⟨initRet, unloaded, none⟩)
  else
    match edit d.store with
    | .answered reply => (d, reply)
    | .deferred edited reply =>
      ({ d with store := edited }, reply)
    | .persisted edited result failed entry =>
      let (persisted, ret) :=
        persistStoreOrRollback { d with store := edited } d.store io.persist io.nowMs
      (persisted,
        if ret = espOk then ⟨ret, result, entry persisted.store⟩ else ⟨ret, failed, none⟩)

/-- An operation: arguments that are refused, or an edit of the store. -/
def answerCall {ρ : Type} (d : ContactDevice) (io : OpIo) (failed : ρ) :
    Option (ContactStore → Edit ρ) → ContactDevice × Reply ρ
  | none => (d, ⟨espErrInvalidArg, failed, none⟩)
  | some edit => callLoaded d io failed edit

def fingerprintMatches (fingerprint : List UInt8) (e : ContactEntry) : Bool :=
  fixedHexStringValid e.fingerprint.bytes fingerprintChars &&
    fixedHexStringsEqual e.fingerprint.bytes fingerprint fingerprintChars

def publicKeyMatches (key : List UInt8) (e : ContactEntry) : Bool :=
  fixedHexStringValid e.publicKeyHex.bytes publicKeyChars &&
    fixedHexStringsEqual e.publicKeyHex.bytes key publicKeyChars

/-- The first match, with what stands around it, and whether there is another one. -/
def findUnique (p : ContactEntry → Bool) (entries : List ContactEntry) :
    Option (List ContactEntry × ContactEntry × List ContactEntry) × Bool :=
  match splitFirst p entries with
  | some (pre, e, post) => (some (pre, e, post), post.any p)
  | none => (none, false)

/-- `find_index_by_fingerprint`: an ambiguous fingerprint finds nothing. -/
def findByFingerprint (entries : List ContactEntry) (fingerprint : List UInt8) :
    Option (List ContactEntry × ContactEntry × List ContactEntry) :=
  if !fixedHexStringValid fingerprint fingerprintChars then none
  else
    match findUnique (fingerprintMatches fingerprint) entries with
    | (_, true) => none
    | (found, false) => found

def evictable (e : ContactEntry) : Bool := !e.favorite && !isCanonical e

/-- `oldest_evictable_placeholder_index` -/
def oldestEvictablePlaceholder : List ContactEntry →
    Option (List ContactEntry × ContactEntry × List ContactEntry)
  | [] => none
  | e :: rest =>
    match oldestEvictablePlaceholder rest with
    | none => if evictable e then some ([], e, rest) else none
    | some (pre, oldest, post) =>
      if evictable e && decide (e.seq ≤ oldest.seq) then some ([], e, rest)
      else some (e :: pre, oldest, post)

/-- A row takes the next sequence number; a placeholder that gives way is remembered as deleted. -/
def storeRow (s : ContactStore) (touched : CStr) (evicted : Option ContactEntry)
    (pre post : List ContactEntry) (row : ContactEntry) : Option ContactStore :=
  (reserveSequencedMutation s).map fun reserved =>
    let s :=
      match evicted with
      | none => reserved
      | some e =>
        { rememberDeletedRow reserved e with droppedOldest := u32Succ reserved.droppedOldest }
    { rememberTouchedFingerprint s touched.bytes touched.no_nul with
      entries := pre ++ { row with seq := reserved.nextSeq } :: post
      nextSeq := reserved.nextSeq + 1 }

def removeRow (s : ContactStore) (pre : List ContactEntry) (e : ContactEntry)
    (post : List ContactEntry) : Option ContactStore :=
  (reservePersistenceRevision s true).map fun reserved =>
    { rememberDeletedRow reserved e with entries := pre ++ post }

/-- `s_entries[index]`; the slots past the rows are zero. -/
def rowAt (s : ContactStore) (index : Nat) : ContactEntry := s.entries.getD index zeroEntry

def deferRow {ρ : Type} (s : ContactStore) (pre : List ContactEntry) (e : ContactEntry)
    (post : List ContactEntry) (row : ContactEntry) (nowMs : Nat) (result failed : ρ) : Edit ρ :=
  match storeRow s e.fingerprint.cstr none pre post row with
  | none => .answered ⟨espErrInvalidState, failed, none⟩
  | some edited =>
    .deferred (markDeferredPersistence edited nowMs)
      ⟨espOk, result, some (rowAt edited pre.length)⟩

def persistRow {ρ : Type} (s : ContactStore) (touched : CStr) (evicted : Option ContactEntry)
    (pre post : List ContactEntry) (row : ContactEntry) (result failed : ρ) : Edit ρ :=
  match storeRow s touched evicted pre post row with
  | none => .answered ⟨espErrInvalidState, failed, none⟩
  | some edited => .persisted edited result failed fun s => some (rowAt s pre.length)

/-- A passive observation is not identity authorization: a canonical contact keeps its name and
its role. -/
def noteHeard (e : ContactEntry) (canonicalBefore : Bool) (node : NodeEntry) : ContactEntry :=
  { e with
    heardName :=
      if !canonicalBefore && !node.name.bytes.isEmpty then sanitizeAscii 24 node.name.cstr
      else e.heardName
    type :=
      if !canonicalBefore && !node.type.bytes.isEmpty then sanitizeAscii 9 node.type.cstr
      else e.type
    lastRssiDbm := node.rssiDbm
    lastSnrTenths := node.snrTenths
    pathHashBytes := node.pathHashBytes
    pathHops := node.pathHops }

def heardNodeName (heard : Option NodeEntry) : Option CStr :=
  heard.bind fun node => if node.name.bytes.isEmpty then none else some node.name.cstr

def nonemptyText (text : Option CStr) : Option CStr :=
  text.filter fun t => !t.bytes.isEmpty

def chooseAlias (e : ContactEntry) (isNew : Bool) (fingerprint : CStr) (contactAlias : Option CStr)
    (heard : Option NodeEntry) : CharArray 32 :=
  match nonemptyText contactAlias with
  | some text => sanitizeAscii 32 text
  | none =>
    if isNew || e.contactAlias.bytes.isEmpty then
      sanitizeAscii 32 ((heardNodeName heard).getD fingerprint)
    else e.contactAlias

def fillTexts (e : ContactEntry) : ContactEntry :=
  { e with
    heardName :=
      if e.heardName.bytes.isEmpty then sanitizeAscii 24 e.contactAlias.cstr else e.heardName
    type := if e.type.bytes.isEmpty then typeText unknownType else e.type }

/-- The row a node observation leaves; `base` is the row it is written over, or a blank one. -/
def nodeRow (base : ContactEntry) (isNew : Bool) (fingerprint : CStr) (contactAlias : Option CStr)
    (heard : Option NodeEntry) (nowMs : Nat) : ContactEntry :=
  let canonicalBefore := !isNew && isCanonical base
  let e := { base with
    updatedMs := nowMs, fingerprint := copyLowerHex 17 fingerprint fingerprintChars }
  let e :=
    match heard with
    | none => e
    | some node => noteHeard e canonicalBefore node
  fillTexts { e with contactAlias := chooseAlias e isNew fingerprint contactAlias heard }

def blankRow (nowMs : Nat) : ContactEntry := { zeroEntry with createdMs := nowMs }

def nodeEdit (fingerprint : CStr) (contactAlias : Option CStr) (heard : Option NodeEntry)
    (nowMs : Nat) (s : ContactStore) : Edit Unit :=
  match findUnique (fingerprintMatches fingerprint.bytes) s.entries with
  | (_, true) => .answered ⟨espErrInvalidState, (), none⟩
  | (some (pre, e, post), false) =>
    persistRow s fingerprint none pre post (nodeRow e false fingerprint contactAlias heard nowMs)
      () ()
  | (none, false) =>
    let row := nodeRow (blankRow nowMs) true fingerprint contactAlias heard nowMs
    if s.entries.length < contactStoreCapacity then
      persistRow s fingerprint none s.entries [] row () ()
    else
      match oldestEvictablePlaceholder s.entries with
      | none => .answered ⟨espErrNoMem, (), none⟩
      | some (pre, e, post) => persistRow s fingerprint (some e) pre post row () ()

def upsertFromNodeEdit (fingerprint contactAlias : Option CStr) (heard : Option NodeEntry)
    (nowMs : Nat) : Option (ContactStore → Edit Unit) :=
  match fingerprint with
  | none => none
  | some fingerprint =>
    if !fixedHexStringValid fingerprint.bytes fingerprintChars then none
    else some (nodeEdit fingerprint contactAlias heard nowMs)

/-- `d1l_contact_store_upsert_from_node` -/
def upsertFromNode (d : ContactDevice) (fingerprint contactAlias : Option CStr)
    (heard : Option NodeEntry) (io : OpIo) : ContactDevice × Reply Unit :=
  answerCall d io () (upsertFromNodeEdit fingerprint contactAlias heard io.nowMs)

def foundIndex (found : Option (List ContactEntry × ContactEntry × List ContactEntry)) :
    Option Nat :=
  found.map fun (pre, _, _) => pre.length

/-- Where a contact with a full key goes: over its own row, over a placeholder, or at the end. -/
inductive IdentitySlot
  | known (pre : List ContactEntry) (e : ContactEntry) (post : List ContactEntry)
  | placeholder (pre : List ContactEntry) (e : ContactEntry) (post : List ContactEntry)
  | append

def identitySlot (entries : List ContactEntry) (fingerprint key : List UInt8) :
    Except ContactResult IdentitySlot :=
  let byFingerprint := findUnique (fingerprintMatches fingerprint) entries
  let byKey := findUnique (publicKeyMatches key) entries
  if byFingerprint.2 || byKey.2 ||
      (byKey.1.isSome && decide (foundIndex byFingerprint.1 ≠ foundIndex byKey.1)) then
    .error .collision
  else
    match byKey.1, byFingerprint.1 with
    | some (pre, e, post), _ => .ok (.known pre e post)
    | none, some (pre, e, post) =>
      if !e.publicKeyHex.bytes.isEmpty then .error .collision else .ok (.placeholder pre e post)
    | none, none =>
      if contactStoreCapacity ≤ entries.length then .error .full else .ok .append

def slotError (result : ContactResult) : EspErr :=
  if result = .full then espErrNoMem else espErrInvalidState

def advertRow (base : ContactEntry) (fingerprint : CStr) (node : NodeEntry) (nowMs : Nat) :
    ContactEntry :=
  let e := { base with
    updatedMs := nowMs
    fingerprint := copyLowerHex 17 fingerprint fingerprintChars
    publicKeyHex := copyLowerHex 65 node.publicKeyHex.cstr publicKeyChars
    heardName :=
      if node.name.bytes.isEmpty then base.heardName else sanitizeAscii 24 node.name.cstr
    type := if node.type.bytes.isEmpty then base.type else sanitizeAscii 9 node.type.cstr
    lastRssiDbm := node.rssiDbm
    lastSnrTenths := node.snrTenths
    pathHashBytes := node.pathHashBytes
    pathHops := node.pathHops
    verificationSource := verificationSignedAdvert
    verifiedAtMs := nowMs
    signedAdvertTimestamp := node.advertTimestamp
    lastHeardMs := node.lastHeardMs }
  fillTexts { e with
    contactAlias :=
      if !e.contactAlias.bytes.isEmpty then e.contactAlias
      else if !node.name.bytes.isEmpty then sanitizeAscii 32 node.name.cstr
      else copyLowerHex 32 fingerprint fingerprintChars }

def advertEdit (fingerprint : CStr) (node : NodeEntry) (nowMs : Nat) (s : ContactStore) :
    Edit ContactResult :=
  match identitySlot s.entries fingerprint.bytes node.publicKeyHex.bytes with
  | .error result => .answered ⟨slotError result, result, none⟩
  | .ok (.known pre e post) =>
    persistRow s fingerprint none pre post (advertRow e fingerprint node nowMs) .updated .none
  | .ok (.placeholder pre e post) =>
    persistRow s fingerprint none pre post (advertRow e fingerprint node nowMs)
      .promotedPlaceholder .none
  | .ok .append =>
    persistRow s fingerprint none s.entries []
      (advertRow (blankRow nowMs) fingerprint node nowMs) .created .none

/-- The fingerprint and the key of an advert are well formed and belong together. -/
def advertIsConsistent (fingerprint : CStr) (node : NodeEntry) : Bool :=
  fixedHexStringValid fingerprint.bytes fingerprintChars &&
    fixedHexStringValid node.publicKeyHex.bytes publicKeyChars &&
    fixedHexStringsEqual fingerprint.bytes node.publicKeyHex.bytes fingerprintChars

def upsertVerifiedAdvertEdit (fingerprint : Option CStr) (verifiedNode : Option NodeEntry)
    (nowMs : Nat) : Option (ContactStore → Edit ContactResult) :=
  match fingerprint, verifiedNode with
  | some fingerprint, some node =>
    if !advertIsConsistent fingerprint node then none
    else some (advertEdit fingerprint node nowMs)
  | _, _ => none

/-- `d1l_contact_store_upsert_verified_advert` -/
def upsertVerifiedAdvert (d : ContactDevice) (fingerprint : Option CStr)
    (verifiedNode : Option NodeEntry) (io : OpIo) : ContactDevice × Reply ContactResult :=
  answerCall d io .none (upsertVerifiedAdvertEdit fingerprint verifiedNode io.nowMs)

def signedRoleAuthoritative (e : ContactEntry) : Bool :=
  decide (e.verificationSource = verificationSignedAdvert) ||
    decide (e.verificationSource = verificationMigratedSignedAdvert)

/-- A URI never overwrites another role, nor an unknown one that a signed advert settled. -/
def importRoleConflicts (e : ContactEntry) (typeId : Nat) : Bool :=
  (decide (meshcoreTypeId e.type.bytes ≠ 0) && decide (meshcoreTypeId e.type.bytes ≠ typeId)) ||
    (signedRoleAuthoritative e && decide (meshcoreTypeId e.type.bytes = 0))

def importedType (typeId : Nat) : CharArray 9 :=
  if typeId = 1 then typeText chatType
  else if typeId = 2 then typeText repeaterType
  else if typeId = 3 then typeText roomType
  else if typeId = 4 then typeText sensorType
  else typeText unknownType

def importRow (base : ContactEntry) (fingerprint : CStr) (uri : ContactUri) (nowMs : Nat) :
    ContactEntry :=
  let e := { base with
    updatedMs := nowMs
    fingerprint := copyLowerHex 17 fingerprint fingerprintChars
    publicKeyHex := copyLowerHex 65 uri.publicKeyHex publicKeyChars
    type := importedType uri.typeId
    contactAlias := if base.contactAlias.bytes.isEmpty then uri.name else base.contactAlias }
  if signedRoleAuthoritative base then e
  else
    { e with
      verificationSource := verificationUriImport, verifiedAtMs := nowMs
      signedAdvertTimestamp := 0, lastHeardMs := 0 }

def ContactUri.fingerprint (uri : ContactUri) : CStr :=
  ⟨uri.publicKeyHex.bytes.take fingerprintChars,
    fun h => uri.publicKeyHex.no_nul (List.mem_of_mem_take h)⟩

def importEdit (uri : ContactUri) (nowMs : Nat) (s : ContactStore) : Edit ContactResult :=
  match identitySlot s.entries uri.fingerprint.bytes uri.publicKeyHex.bytes with
  | .error result => .answered ⟨slotError result, result, none⟩
  | .ok (.known pre e post) =>
    if importRoleConflicts e uri.typeId then
      .answered ⟨espErrInvalidState, .roleConflict, none⟩
    else if sourceIsAuthoritative e.verificationSource && !e.contactAlias.bytes.isEmpty then
      .answered ⟨espOk, .updated, some e⟩
    else
      persistRow s uri.fingerprint none pre post (importRow e uri.fingerprint uri nowMs)
        .updated .none
  | .ok (.placeholder pre e post) =>
    persistRow s uri.fingerprint none pre post (importRow e uri.fingerprint uri nowMs)
      .promotedPlaceholder .none
  | .ok .append =>
    persistRow s uri.fingerprint none s.entries []
      (importRow (blankRow nowMs) uri.fingerprint uri nowMs) .created .none

def importUriEdit (uri : List UInt8) (nowMs : Nat) :
    Option (ContactStore → Edit ContactResult) :=
  match parseContactUri uri with
  | none => none
  | some uri =>
    if (meshcoreTypeName uri.typeId).isNone then none else some (importEdit uri nowMs)

/-- `d1l_contact_store_import_uri` -/
def importUri (d : ContactDevice) (uri : List UInt8) (io : OpIo) :
    ContactDevice × Reply ContactResult :=
  answerCall d io .none (importUriEdit uri io.nowMs)

def contactPathLenValid (pathLen : UInt8) : Bool :=
  wirePathLenValid pathLen && decide (wirePathByteLen pathLen ≤ 64)

/-- `fingerprint && fingerprint[0] != '\0'`, then an edit of the contact with that fingerprint. -/
def editFound {ρ : Type} (fingerprint : Option CStr) (failed : ρ)
    (edit : ContactStore → List ContactEntry → ContactEntry → List ContactEntry → Edit ρ) :
    Option (ContactStore → Edit ρ) :=
  (nonemptyText fingerprint).map fun fingerprint s =>
    match findByFingerprint s.entries fingerprint.bytes with
    | none => .answered ⟨espErrNotFound, failed, none⟩
    | some (pre, e, post) => edit s pre e post

def learnedRow (e : ContactEntry) (state : PathState) (path : List UInt8) (pathLen : UInt8)
    (nowMs : Nat) : ContactEntry :=
  if h : (path.take (wirePathByteLen pathLen)).length ≤ 64 then
    { e with
      outPathState := state, updatedMs := nowMs, outPathUpdatedMs := nowMs, outPathValid := true
      outPathLen := pathLen
      outPath := Bytes.zero.overwrite (path.take (wirePathByteLen pathLen)) h }
  else e

def pathlessRow (e : ContactEntry) (state : PathState) (nowMs : Nat) : ContactEntry :=
  { e with
    outPathState := state, updatedMs := nowMs, outPathValid := false, outPathLen := 0
    outPath := .zero }

def updatePathEdit (fingerprint : Option CStr) (path : Option (List UInt8)) (pathLen : UInt8)
    (source nowMs : Nat) : Option (ContactStore → Edit Unit) :=
  if !contactPathLenValid pathLen || !pathSourceValid source ||
      (decide (0 < wirePathByteLen pathLen) && path.isNone) then none
  else
    editFound fingerprint () fun s pre e post =>
      match learn e.outPathState source nowMs with
      | none => .answered ⟨espErrInvalidArg, (), none⟩
      | some state =>
        deferRow s pre e post (learnedRow e state (path.getD []) pathLen nowMs) nowMs () ()

/-- `d1l_contact_store_update_path_from_source` -/
def updatePathFromSource (d : ContactDevice) (fingerprint : Option CStr)
    (path : Option (List UInt8)) (pathLen : UInt8) (source : Nat) (io : OpIo) :
    ContactDevice × Reply Unit :=
  answerCall d io () (updatePathEdit fingerprint path pathLen source io.nowMs)

/-- `d1l_contact_store_update_path` -/
def updatePath (d : ContactDevice) (fingerprint : Option CStr) (path : Option (List UInt8))
    (pathLen : UInt8) (io : OpIo) : ContactDevice × Reply Unit :=
  updatePathFromSource d fingerprint path pathLen pathSourceObserved io

/-- `already_clear` -/
def pathAlreadyClear (e : ContactEntry) : Bool :=
  pathIsGone e && decide (e.outPathState = PathState.empty)

def resetPathEdit (fingerprint : Option CStr) (nowMs : Nat) :
    Option (ContactStore → Edit Unit) :=
  editFound fingerprint () fun s pre e post =>
    if pathAlreadyClear e then .answered ⟨espOk, (), some e⟩
    else
      deferRow s pre e post { pathlessRow e .empty nowMs with outPathUpdatedMs := nowMs } nowMs
        () ()

/-- `d1l_contact_store_reset_path` -/
def resetPath (d : ContactDevice) (fingerprint : Option CStr) (io : OpIo) :
    ContactDevice × Reply Unit :=
  answerCall d io () (resetPathEdit fingerprint io.nowMs)

def preparePathEdit (fingerprint : Option CStr) (nowMs : Nat) :
    Option (ContactStore → Edit Bool) :=
  editFound fingerprint false fun s pre e post =>
    match expireIfDue e.outPathState nowMs with
    | none => .answered ⟨espOk, false, some e⟩
    | some state => deferRow s pre e post (pathlessRow e state nowMs) nowMs true false

/-- `d1l_contact_store_prepare_path_route`; the result is `out_expired`. -/
def preparePathRoute (d : ContactDevice) (fingerprint : Option CStr) (nowMs : Nat) (io : OpIo) :
    ContactDevice × Reply Bool :=
  answerCall d io false (preparePathEdit fingerprint nowMs)

def notedRow (e : ContactEntry) (state : PathState) (result : PathResult) (nowMs : Nat) :
    ContactEntry :=
  if result = .floodFallback then pathlessRow e state nowMs
  else { e with outPathState := state, updatedMs := nowMs }

def notePathEdit (fingerprint : Option CStr) (expectedGeneration : Nat) (success : Bool)
    (nowMs : Nat) : Option (ContactStore → Edit PathResult) :=
  if expectedGeneration = 0 then none
  else
    editFound fingerprint .stale fun s pre e post =>
      match noteDirectResult e.outPathState expectedGeneration success nowMs with
      | (_, .stale) => .answered ⟨espErrInvalidState, .stale, some e⟩
      | (state, result) =>
        deferRow s pre e post (notedRow e state result nowMs) nowMs result .stale

/-- `d1l_contact_store_note_path_result` -/
def notePathResult (d : ContactDevice) (fingerprint : Option CStr) (expectedGeneration : Nat)
    (success : Bool) (nowMs : Nat) (io : OpIo) : ContactDevice × Reply PathResult :=
  answerCall d io .stale (notePathEdit fingerprint expectedGeneration success nowMs)

def setFlagsEdit (fingerprint : Option CStr) (favorite muted : Bool) (nowMs : Nat) :
    Option (ContactStore → Edit Unit) :=
  editFound fingerprint () fun s pre e post =>
    if e.favorite = favorite ∧ e.muted = muted then .answered ⟨espOk, (), some e⟩
    else
      persistRow s e.fingerprint.cstr none pre post
        { e with updatedMs := nowMs, favorite := favorite, muted := muted } () ()

/-- `d1l_contact_store_set_flags` -/
def setFlags (d : ContactDevice) (fingerprint : Option CStr) (favorite muted : Bool) (io : OpIo) :
    ContactDevice × Reply Unit :=
  answerCall d io () (setFlagsEdit fingerprint favorite muted io.nowMs)

def renameEdit (fingerprint contactAlias : Option CStr) (nowMs : Nat) :
    Option (ContactStore → Edit Unit) :=
  (nonemptyText contactAlias).bind fun contactAlias =>
    editFound fingerprint () fun s pre e post =>
      let sanitized : CharArray 32 := sanitizeAscii 32 contactAlias
      if sanitized.bytes.isEmpty then .answered ⟨espErrInvalidArg, (), none⟩
      else if e.contactAlias = sanitized then .answered ⟨espOk, (), some e⟩
      else
        persistRow s e.fingerprint.cstr none pre post
          { e with updatedMs := nowMs, contactAlias := sanitized } () ()

/-- `d1l_contact_store_rename` -/
def renameContact (d : ContactDevice) (fingerprint contactAlias : Option CStr) (io : OpIo) :
    ContactDevice × Reply Unit :=
  answerCall d io () (renameEdit fingerprint contactAlias io.nowMs)

def deleteEdit (fingerprint : Option CStr) : Option (ContactStore → Edit Unit) :=
  editFound fingerprint () fun s pre e post =>
    match removeRow s pre e post with
    | none => .answered ⟨espErrInvalidState, (), none⟩
    | some edited => .persisted edited () () fun _ => some e

/-- `d1l_contact_store_delete` -/
def deleteContact (d : ContactDevice) (fingerprint : Option CStr) (io : OpIo) :
    ContactDevice × Reply Unit :=
  answerCall d io () (deleteEdit fingerprint)

end Sigui.Contact

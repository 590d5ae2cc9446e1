import Sigui.ChannelStore

/-! The mutations of a loaded channel store. Each takes a copy, edits RAM, writes it to NVS and
goes back to the copy when the write fails. A call on a store that is not loaded runs init first,
which is a step of its own. -/
namespace Sigui.Channel

/-- `D1L_CHANNEL_MUTATION_*` -/
inductive Mutation
  | none
  | created
  | updated
  | removed
  | existing
  | nameCollision
  | secretCollision
  | full
  | guarded
  deriving DecidableEq

structure Reply where
  ret : EspErr
  result : Mutation := .none
  info : Option ChannelEntry := none
  deriving DecidableEq

/-- Writes the edited store, and names the mutation once it is stored. -/
def commit (d : ChannelDevice) (edited : ChannelStore) (w : NvsWrite) (result : Mutation)
    (info : Option ChannelEntry) : ChannelDevice × Reply :=
  let before := fillBlob d.store
  let (d, ret) := persistStoreOrRollback { d with store := noteMutation edited } before w
  (d, if ret = espOk then ⟨ret, result, info⟩ else ⟨ret, .none, none⟩)

section Create

/-- The copy of the first `secretLen` bytes into a zeroed entry. -/
def copySecret (secret : Secret) (secretLen : Nat) : Secret :=
  Bytes.zero.overwrite (secret.bytes.take secretLen) (by
    rw [List.length_take, secret.length_eq]
    exact Nat.min_le_right _ _)

/-- The id a new channel would get: the next one that is not the lineage. -/
def candidateId (s : ChannelStore) : UInt64 :=
  if s.nextChannelId = s.lineage ∧ s.nextChannelId < uint64Max then s.nextChannelId + 1
  else s.nextChannelId

def noCandidate (s : ChannelStore) : Bool :=
  decide (channelStoreCapacity ≤ s.entries.length) || decide (candidateId s ≤ channelPublicId) ||
    decide (candidateId s = s.lineage) || decide (uint64Max - 1 ≤ candidateId s)

structure CreateArgs where
  name : CStr
  secret : Secret
  secretLen : Nat
  channelHash : UInt8
  source : Nat
  enabled : Bool
  makeDefault : Bool
  importedAtMs : Nat
  nowMs : Nat

def newEntry (s : ChannelStore) (a : CreateArgs) : ChannelEntry :=
  { zeroEntry with
    channelId := candidateId s
    historyKey := historyKeyFor s.lineage (candidateId s)
    createdMs := a.nowMs
    updatedMs := a.nowMs
    importedAtMs := a.importedAtMs
    name := copyName .zero a.name.bytes
    secret := copySecret a.secret a.secretLen
    secretLen := a.secretLen
    channelHash := a.channelHash
    source := a.source
    enabled := if a.enabled || a.makeDefault then 1 else 0
    isDefault := 0 }

def withNewEntry (s : ChannelStore) (a : CreateArgs) : ChannelStore :=
  { s with
    entries :=
      if a.makeDefault then onlyDefault s.entries (newEntry s a) []
      else s.entries ++ [newEntry s a]
    nextChannelId := candidateId s + 1 }

def createLocked (d : ChannelDevice) (a : CreateArgs) (w : NvsWrite) : ChannelDevice × Reply :=
  let s := d.store
  match splitFirst (fun e => secretsEqual e.secret e.secretLen a.secret a.secretLen) s.entries with
  | some (_, e, _) =>
    if namesEqual e.name.text a.name.bytes then (d, ⟨espOk, .existing, some e⟩)
    else (d, ⟨espErrInvalidState, .secretCollision, none⟩)
  | none =>
    if s.entries.any fun e => namesEqual e.name.text a.name.bytes then
      (d, ⟨espErrInvalidState, .nameCollision, none⟩)
    else if noCandidate s then (d, ⟨espErrNoMem, .full, none⟩)
    else if !mutationCounterAvailable s then (d, ⟨espErrInvalidState, .none, none⟩)
    else
      let created := newEntry s a
      commit d (withNewEntry s a) w .created
        (some (if a.makeDefault then makeDefault 1 created else created))

variable (md : List UInt8 → Option UInt8)

/-- `d1l_channel_store_add`; `secret` is the caller's buffer of `secret_len` bytes. -/
def addChannel (d : ChannelDevice) (name : Option CStr) (secret : Option (List UInt8))
    (enabled makeDefault : Bool) (nowMs : Nat) (w : NvsWrite) : ChannelDevice × Reply :=
  match name, secret.bind normalizeSecret with
  | some name, some (normalized, len) =>
    if !utf8NameIsValid name.bytes then (d, ⟨espErrInvalidArg, .none, none⟩)
    else
      match protocolHash md normalized len with
      | none => (d, ⟨espFail, .none, none⟩)
      | some hash =>
        createLocked d
          ⟨name, normalized, len, hash, sourceManual, enabled, makeDefault, 0, nowMs⟩ w
  | _, _ => (d, ⟨espErrInvalidArg, .none, none⟩)

end Create

def uriScheme : List UInt8 :=
  [109, 101, 115, 104, 99, 111, 114, 101, 58, 47, 47, 99, 104, 97, 110, 110, 101, 108, 47, 97, 100,
    100, 63]

def nameField : List UInt8 := [110, 97, 109, 101]
def secretField : List UInt8 := [115, 101, 99, 114, 101, 116]
def channelShareUriLen : Nat := 256

/-- `byte_is_hex` and `hex_value` -/
def hexValue (value : UInt8) : Option UInt8 :=
  if 48 ≤ value.toNat ∧ value.toNat ≤ 57 then some (value - 48)
  else if 97 ≤ value.toNat ∧ value.toNat ≤ 102 then some (value - 97 + 10)
  else if 65 ≤ value.toNat ∧ value.toNat ≤ 70 then some (value - 65 + 10)
  else none

def hexByte (high low : UInt8) : Option UInt8 := do
  let high ← hexValue high
  let low ← hexValue low
  return high * 16 + low

/-- The percent and plus decoding of a name, before its length and text are checked. -/
def decodeUriText : List UInt8 → Option (List UInt8)
  | [] => some []
  | value :: rest =>
    if value = 37 then
      match rest with
      | high :: low :: rest => do
        let value ← hexByte high low
        if value = 0 then none else return value :: (← decodeUriText rest)
      | _ => none
    else if value = 0 then none
    else do return (if value = 43 then 32 else value) :: (← decodeUriText rest)

/-- `decode_uri_name`; the text loop gives up when the 33-byte buffer is full. -/
def decodeUriName (encoded : List UInt8) : Option (List UInt8) := do
  let text ← decodeUriText encoded
  if utf8NameIsValid text then return text else none

def hexPairs : List UInt8 → Option (List UInt8)
  | [] => some []
  | high :: low :: rest => do return (← hexByte high low) :: (← hexPairs rest)
  | [_] => none

def decodeUriSecret (encoded : List UInt8) : Option (List UInt8) :=
  if encoded.length = channelSecret128Len * 2 then hexPairs encoded else none

structure ChannelUri where
  name : List UInt8
  secret : List UInt8

/-- One `key=value` field. -/
def parseUriField (parsed : Option (List UInt8) × Option (List UInt8)) (field : List UInt8) :
    Option (Option (List UInt8) × Option (List UInt8)) :=
  let key := field.takeWhile (· != 61)
  match field.drop key.length with
  | [] => none
  | _ :: value =>
    if key.isEmpty || value.contains 61 then none
    else if key = nameField then
      if parsed.1.isSome then none
      else (decodeUriName value).map fun name => (some name, parsed.2)
    else if key = secretField then
      if parsed.2.isSome then none
      else (decodeUriSecret value).map fun secret => (parsed.1, some secret)
    else none

def parseChannelUri (uri : Option (List UInt8)) : Option ChannelUri := do
  let uri ← uri
  if uri.isEmpty || decide (channelShareUriLen ≤ uri.length) || uri.contains 0 then none
  else if uri.length ≤ uriScheme.length ∨ uri.take uriScheme.length ≠ uriScheme then none
  else
    let fields := (uri.drop uriScheme.length).splitOn 38
    let (name, secret) ← fields.foldlM parseUriField (none, none)
    return ⟨← name, ← secret⟩

section Import

variable (md : List UInt8 → Option UInt8)

def importedEntry (e : ChannelEntry) (name : List UInt8) (nowMs : Nat) : ChannelEntry :=
  { e with
    name := copyName e.name name, source := sourceUriImport, importedAtMs := nowMs
    updatedMs := nowMs }

/-- The name and the secret of a parsed URI as the store takes them. -/
def uriArgs (uri : ChannelUri) : Option (CStr × Secret) :=
  if h : 0 ∉ uri.name ∧ uri.secret.length ≤ channelSecretMaxLen then
    some (⟨uri.name, h.1⟩, Bytes.zero.overwrite uri.secret h.2)
  else none

/-- `d1l_channel_store_import_uri` -/
def importUri (d : ChannelDevice) (uri : Option (List UInt8)) (nowMs : Nat) (w : NvsWrite) :
    ChannelDevice × Reply :=
  match (parseChannelUri uri).bind uriArgs with
  | none => (d, ⟨espErrInvalidArg, .none, none⟩)
  | some (name, secret) =>
    match protocolHash md secret channelSecret128Len with
    | none => (d, ⟨espFail, .none, none⟩)
    | some hash =>
      match splitFirst (fun e => secretsEqual e.secret e.secretLen secret channelSecret128Len)
          d.store.entries with
      | none =>
        createLocked d
          ⟨name, secret, channelSecret128Len, hash, sourceUriImport, true, false, nowMs, nowMs⟩ w
      | some (pre, e, post) =>
        if e.channelId = channelPublicId ∧ name.bytes ≠ publicName then
          (d, ⟨espErrNotSupported, .guarded, none⟩)
        else if (pre ++ post).any fun o => namesEqual o.name.text name.bytes then
          (d, ⟨espErrInvalidState, .nameCollision, none⟩)
        else if e.channelId = channelPublicId then (d, ⟨espOk, .existing, some e⟩)
        else if !mutationCounterAvailable d.store then (d, ⟨espErrInvalidState, .none, none⟩)
        else
          let renamed := importedEntry e name.bytes nowMs
          commit d { d.store with entries := pre ++ renamed :: post } w .updated (some renamed)

end Import

/-- The public channel becomes the default; `none` when there is none. -/
def publicDefault (entries : List ChannelEntry) : Option (List ChannelEntry) :=
  (splitById entries channelPublicId).map fun (pre, e, post) => onlyDefault pre e post

def updatedEntry (e : ChannelEntry) (name : List UInt8) (enabled : Bool) (nowMs : Nat) :
    ChannelEntry :=
  { e with name := copyName e.name name, enabled := if enabled then 1 else 0, updatedMs := nowMs }

/-- `fallback_default`: a channel that is turned off gives the default away. -/
def fallbackDefault (e : ChannelEntry) (enabled : Bool) : Bool :=
  !enabled && decide (e.isDefault ≠ 0)

def updateChanges (e : ChannelEntry) (name : List UInt8) (enabled makeDefault : Bool) : Bool :=
  decide (e.name.text ≠ name) || decide (e.enabled ≠ if enabled then 1 else 0) ||
    (makeDefault && decide (e.isDefault = 0)) || fallbackDefault e enabled

def updatedEntries (pre post : List ChannelEntry) (e changed : ChannelEntry)
    (enabled makeDefault : Bool) : Option (List ChannelEntry) :=
  if makeDefault then some (onlyDefault pre changed post)
  else if fallbackDefault e enabled then publicDefault (pre ++ changed :: post)
  else some (pre ++ changed :: post)

/-- `d1l_channel_store_update` -/
def updateChannel (d : ChannelDevice) (channelId : UInt64) (name : Option CStr)
    (enabled makeDefault : Bool) (nowMs : Nat) (w : NvsWrite) : ChannelDevice × Reply :=
  match name with
  | none => (d, ⟨espErrInvalidArg, .none, none⟩)
  | some name =>
    if channelId = 0 ∨ utf8NameIsValid name.bytes = false ∨ (makeDefault && !enabled) = true then
      (d, ⟨espErrInvalidArg, .none, none⟩)
    else
      match splitById d.store.entries channelId with
      | none => (d, ⟨espErrNotFound, .none, none⟩)
      | some (pre, e, post) =>
        if channelId = channelPublicId ∧ (name.bytes ≠ publicName ∨ enabled = false) then
          (d, ⟨espErrNotSupported, .guarded, none⟩)
        else if (pre ++ post).any fun o => namesEqual o.name.text name.bytes then
          (d, ⟨espErrInvalidState, .nameCollision, none⟩)
        else if !updateChanges e name.bytes enabled makeDefault then
          (d, ⟨espOk, .existing, some e⟩)
        else if !mutationCounterAvailable d.store then (d, ⟨espErrInvalidState, .none, none⟩)
        else
          let changed := updatedEntry e name.bytes enabled nowMs
          match updatedEntries pre post e changed enabled makeDefault with
          | none => (d, ⟨espErrInvalidState, .none, none⟩)
          | some edited =>
            commit d { d.store with entries := edited } w .updated edited[pre.length]?

/-- `d1l_channel_store_select` -/
def selectChannel (d : ChannelDevice) (channelId : UInt64) (nowMs : Nat) (w : NvsWrite) :
    ChannelDevice × Reply :=
  if channelId = 0 then (d, ⟨espErrInvalidArg, .none, none⟩)
  else
    match splitById d.store.entries channelId with
    | none => (d, ⟨espErrNotFound, .none, none⟩)
    | some (pre, e, post) =>
      if e.enabled = 0 then (d, ⟨espErrInvalidState, .none, none⟩)
      else if e.isDefault ≠ 0 then (d, ⟨espOk, .existing, some e⟩)
      else if !mutationCounterAvailable d.store then (d, ⟨espErrInvalidState, .none, none⟩)
      else
        let selected := { e with updatedMs := nowMs }
        commit d { d.store with entries := onlyDefault pre selected post } w .updated
          (some (makeDefault 1 selected))

/-- `d1l_channel_store_remove` -/
def removeChannel (d : ChannelDevice) (channelId : UInt64) (w : NvsWrite) :
    ChannelDevice × Reply :=
  if channelId = 0 then (d, ⟨espErrInvalidArg, .none, none⟩)
  else
    match splitById d.store.entries channelId with
    | none => (d, ⟨espErrNotFound, .none, none⟩)
    | some (pre, e, post) =>
      if channelId = channelPublicId then (d, ⟨espErrNotSupported, .guarded, none⟩)
      else if !mutationCounterAvailable d.store then (d, ⟨espErrInvalidState, .none, none⟩)
      else
        let edited := if e.isDefault ≠ 0 then publicDefault (pre ++ post) else some (pre ++ post)
        match edited with
        | none => (d, ⟨espErrInvalidState, .none, none⟩)
        | some edited => commit d { d.store with entries := edited } w .removed (some e)

section Onboarding

def botName : CStr := ⟨[35, 98, 111, 116], by decide⟩
def testName : CStr := ⟨[35, 116, 101, 115, 116], by decide⟩

def botSecret : List UInt8 :=
  [0xeb, 0x50, 0xa1, 0xbc, 0xb3, 0xe4, 0xe5, 0xd7, 0xbf, 0x69, 0xa5, 0x7c, 0x9d, 0xad, 0xa2, 0x11]

def testSecret : List UInt8 :=
  [0x9c, 0xd8, 0xfc, 0xf2, 0x2a, 0x47, 0x33, 0x3b, 0x59, 0x1d, 0x96, 0xa2, 0xb8, 0x48, 0xb7, 0x3f]

structure OnboardingEnv where
  nowMs : Nat
  botWrite : NvsWrite
  testWrite : NvsWrite
  selectWrite : NvsWrite

def defaultAdded (reply : Reply) (name : CStr) : Bool :=
  decide (reply.ret = espOk) &&
    (decide (reply.result = .created) || decide (reply.result = .existing)) &&
    match reply.info with
    | some e => decide (e.name.text = name.bytes) && decide (e.enabled ≠ 0)
    | none => false

def onboardingRet (reply : Reply) : EspErr :=
  if reply.ret = espOk then espErrInvalidState else reply.ret

variable (md : List UInt8 → Option UInt8)

/-- `d1l_channel_store_seed_onboarding_defaults`: three calls, each with a write of its own. -/
def seedOnboardingDefaults (d : ChannelDevice) (env : OnboardingEnv) : ChannelDevice × EspErr :=
  let (d, bot) := addChannel md d (some botName) (some botSecret) true false env.nowMs env.botWrite
  if !defaultAdded bot botName then (d, onboardingRet bot)
  else
    let (d, test) :=
      addChannel md d (some testName) (some testSecret) true false env.nowMs env.testWrite
    if !defaultAdded test testName then (d, onboardingRet test)
    else
      let (d, selected) := selectChannel d channelPublicId env.nowMs env.selectWrite
      let isPublic := decide (selected.ret = espOk) &&
        (decide (selected.result = .updated) || decide (selected.result = .existing)) &&
        match selected.info with
        | some e => decide (e.enabled ≠ 0) && decide (e.isDefault ≠ 0)
        | none => false
      (d, if isPublic then espOk else onboardingRet selected)

end Onboarding

/-- `d1l_channel_store_note_message` on the entry that was found; a full unread counter was
refused. -/
def notedEntry (e : ChannelEntry) (messageSeq : Nat) (unread : Bool) (nowMs : Nat) :
    ChannelEntry :=
  { e with
    newestMessageSeq := messageSeq
    unreadCount := if unread then e.unreadCount + 1 else e.unreadCount
    readThroughSeq :=
      if unread then e.readThroughSeq
      else if e.unreadCount = 0 then messageSeq else e.readThroughSeq
    updatedMs := nowMs }

/-- `d1l_channel_store_note_message` -/
def noteMessage (d : ChannelDevice) (channelId : UInt64) (messageSeq : Nat) (unread : Bool)
    (nowMs : Nat) (w : NvsWrite) : ChannelDevice × EspErr :=
  if channelId = 0 ∨ messageSeq = 0 then (d, espErrInvalidArg)
  else
    match splitById d.store.entries channelId with
    | none => (d, espErrNotFound)
    | some (pre, e, post) =>
      if messageSeq ≤ e.newestMessageSeq then (d, espOk)
      else if mutationCounterAvailable d.store = false ∨
          (unread = true ∧ e.unreadCount = uint32Max) then (d, espErrInvalidState)
      else
        let (d, reply) := commit d
          { d.store with entries := pre ++ notedEntry e messageSeq unread nowMs :: post } w .none none
        (d, reply.ret)

def readEntry (e : ChannelEntry) (nowMs : Nat) : ChannelEntry :=
  { e with readThroughSeq := e.newestMessageSeq, unreadCount := 0, updatedMs := nowMs }

/-- `d1l_channel_store_mark_all_read` -/
def markAllRead (d : ChannelDevice) (channelId : UInt64) (nowMs : Nat) (w : NvsWrite) :
    ChannelDevice × EspErr :=
  if channelId = 0 then (d, espErrInvalidArg)
  else
    match splitById d.store.entries channelId with
    | none => (d, espErrNotFound)
    | some (pre, e, post) =>
      if e.readThroughSeq = e.newestMessageSeq ∧ e.unreadCount = 0 then (d, espOk)
      else if !mutationCounterAvailable d.store then (d, espErrInvalidState)
      else
        let (d, reply) :=
          commit d { d.store with entries := pre ++ readEntry e nowMs :: post } w .none none
        (d, reply.ret)

end Sigui.Channel

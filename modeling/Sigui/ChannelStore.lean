import Sigui.ChannelEntry
import Sigui.ListRules

/-! The channel store in RAM and the blob it keeps in NVS, in the three layouts init reads. -/
namespace Sigui.Channel

def crc32Bit (crc : UInt32) : UInt32 :=
  (crc >>> 1) ^^^ (if crc &&& 1 = 1 then 0xedb88320 else 0)

def crc32Byte (crc : UInt32) (byte : UInt8) : UInt32 :=
  (List.range 8).foldl (fun crc _ => crc32Bit crc) (crc ^^^ byte.toUInt32)

def crc32Bytes (bytes : List UInt8) : UInt32 :=
  bytes.foldl crc32Byte 0xFFFFFFFF ^^^ 0xFFFFFFFF

def littleEndian (size value : Nat) : List UInt8 :=
  (List.range size).map fun i => UInt8.ofNat (value / 256 ^ i)

def u32Bytes (value : Nat) : List UInt8 := littleEndian 4 value
def u64Bytes (value : UInt64) : List UInt8 := littleEndian 8 value.toNat

def entryBytes (e : ChannelEntry) : List UInt8 :=
  u64Bytes e.channelId ++ u64Bytes e.historyKey ++ u32Bytes e.createdMs ++ u32Bytes e.updatedMs ++
    u32Bytes e.importedAtMs ++ u32Bytes e.newestMessageSeq ++ u32Bytes e.readThroughSeq ++
    u32Bytes e.unreadCount ++ e.name.bytes ++ e.secret.bytes ++
    [UInt8.ofNat e.secretLen, e.channelHash, UInt8.ofNat e.source, UInt8.ofNat e.enabled,
      UInt8.ofNat e.isDefault] ++ e.reserved.bytes

def channelStoreMagic : Nat := 0x43484e4c
def channelStoreSchemaV1 : Nat := 1
def channelStoreSchemaV2 : Nat := 2
def channelStoreSchema : Nat := 3

/-- `sizeof` of the blob and of its part from `lineage` on. -/
def blobLength : Nat := 976
def blobPayloadLength : Nat := 952
def blobV2Length : Nat := 960
def blobV2PayloadLength : Nat := 936

def zeroEntry : ChannelEntry where
  channelId := 0
  historyKey := 0
  createdMs := 0
  updatedMs := 0
  importedAtMs := 0
  newestMessageSeq := 0
  readThroughSeq := 0
  unreadCount := 0
  name := .zero
  secret := .zero
  secretLen := 0
  channelHash := 0
  source := 0
  enabled := 0
  isDefault := 0
  reserved := .zero

/-- The fields the second and the third layout share, up to the message generation. -/
structure ChannelBlobV2 where
  magic : Nat
  schema : Nat
  blobLength : Nat
  payloadLength : Nat
  payloadChecksum : UInt32
  envelopeReserved : Nat
  lineage : UInt64
  generation : UInt64
  nextChannelId : UInt64
  revision : Nat
  totalMutations : Nat
  count : Nat
  payloadReserved : Nat
  entries : List ChannelEntry
  deriving DecidableEq

/-- `d1l_channel_store_blob_t` -/
structure ChannelBlob extends ChannelBlobV2 where
  messageEpoch : Nat
  messageNextSeq : Nat
  messageClearLineage : UInt64
  deriving DecidableEq

structure ChannelEntryV1 where
  channelId : UInt64
  createdMs : Nat
  updatedMs : Nat
  newestMessageSeq : Nat
  readThroughSeq : Nat
  unreadCount : Nat
  name : Bytes channelNameLen
  secret : Secret
  secretLen : Nat
  channelHash : UInt8
  enabled : Nat
  isDefault : Nat
  deriving DecidableEq

structure ChannelBlobV1 where
  schema : Nat
  count : Nat
  nextChannelId : UInt64
  entries : List ChannelEntryV1
  deriving DecidableEq

def payloadHeadBytes (b : ChannelBlobV2) : List UInt8 :=
  u64Bytes b.lineage ++ u64Bytes b.generation ++ u64Bytes b.nextChannelId ++ u32Bytes b.revision ++
    u32Bytes b.totalMutations ++ u32Bytes b.count ++ u32Bytes b.payloadReserved

def payloadBytesV2 (b : ChannelBlobV2) : List UInt8 :=
  payloadHeadBytes b ++ b.entries.flatMap entryBytes

def payloadBytes (b : ChannelBlob) : List UInt8 :=
  payloadHeadBytes b.toChannelBlobV2 ++ u32Bytes b.messageEpoch ++ u32Bytes b.messageNextSeq ++
    u64Bytes b.messageClearLineage ++ b.entries.flatMap entryBytes

/-- What is stored under the NVS key. The layouts differ in size, so the length tells them apart. -/
inductive ChannelImage
  | v3 (blob : ChannelBlob)
  | v2 (blob : ChannelBlobV2)
  | v1 (blob : ChannelBlobV1)
  | unknown
  deriving DecidableEq

structure ChannelStore where
  entries : List ChannelEntry := []
  lineage : UInt64 := 0
  generation : UInt64 := 0
  nextChannelId : UInt64 := 0
  revision : Nat := 0
  totalMutations : Nat := 0
  messageEpoch : Nat := 0
  messageNextSeq : Nat := 0
  messageClearLineage : UInt64 := 0
  loaded : Bool := false
  loadStatus : EspErr := espErrInvalidState
  deriving DecidableEq

section Validators

variable (md : List UInt8 → Option UInt8)

/-- `stored_entries_are_valid`; the source's loop accumulates the counts and the highest id. -/
def storedEntriesAreValid (entries : List ChannelEntry) (lineage nextChannelId : UInt64) : Bool :=
  entries.all (fun e => entryIsValid md e lineage) &&
    entries.all (fun e =>
      if e.channelId = channelPublicId then publicEntryIsExact e lineage
      else decide (e.source ≠ sourceBuiltin)) &&
    decide (entries.Pairwise fun other e => entriesClash other e = false) &&
    decide (entries.countP (fun e => decide (e.channelId = channelPublicId)) = 1) &&
    decide (entries.countP (fun e => decide (e.isDefault ≠ 0)) = 1) &&
    entries.all fun e => decide (e.channelId < nextChannelId)

def ChannelBlobV2.rows (b : ChannelBlobV2) : List ChannelEntry := b.entries.take b.count

def headerIsValid (b : ChannelBlobV2) (schema length payloadLength : Nat) (checksum : UInt32) :
    Bool :=
  decide (b.entries.length = channelStoreCapacity) && decide (b.magic = channelStoreMagic) &&
    decide (b.schema = schema) && decide (b.blobLength = length) &&
    decide (b.payloadLength = payloadLength) && decide (b.envelopeReserved = 0) &&
    decide (b.payloadReserved = 0) && decide (b.payloadChecksum = checksum) &&
    decide (b.lineage ≠ 0) && decide (b.lineage ≠ channelPublicId) &&
    decide (b.generation ≠ 0) && decide (b.count ≠ 0) &&
    decide (b.count ≤ channelStoreCapacity) && decide (channelPublicId < b.nextChannelId) &&
    decide (b.nextChannelId ≠ uint64Max) && decide (b.revision ≠ 0)

def messageGenerationIsValid (epoch nextSeq : Nat) (clearLineage : UInt64) : Bool :=
  if epoch = 0 then decide (nextSeq = 0) && decide (clearLineage = 0) else decide (nextSeq ≠ 0)

def blobIsValid (b : ChannelBlob) : Bool :=
  headerIsValid b.toChannelBlobV2 channelStoreSchema blobLength blobPayloadLength
      (crc32Bytes (payloadBytes b)) &&
    messageGenerationIsValid b.messageEpoch b.messageNextSeq b.messageClearLineage &&
    storedEntriesAreValid md b.rows b.lineage b.nextChannelId

def blobV2IsValid (b : ChannelBlobV2) : Bool :=
  headerIsValid b channelStoreSchemaV2 blobV2Length blobV2PayloadLength
      (crc32Bytes (payloadBytesV2 b)) &&
    storedEntriesAreValid md b.rows b.lineage b.nextChannelId

def v1EntryIsValid (e : ChannelEntryV1) : Bool :=
  decide (e.channelId ≠ 0) && boundedNameIsValid e.name &&
    storedSecretIsValid e.secret e.secretLen && flagsAreValid e.enabled e.isDefault &&
    cursorsAreValid e.newestMessageSeq e.readThroughSeq e.unreadCount &&
    decide (protocolHash md e.secret e.secretLen = some e.channelHash)

def v1PublicEntryIsExact (e : ChannelEntryV1) : Bool :=
  decide (e.name.text = publicName) && decide (e.secretLen = channelSecret128Len) &&
    decide (e.secret = publicSecret) && decide (e.enabled = 1)

def v1EntriesClash (other e : ChannelEntryV1) : Bool :=
  decide (other.channelId = e.channelId) || namesEqual other.name.text e.name.text ||
    secretsEqual other.secret other.secretLen e.secret e.secretLen

def ChannelBlobV1.rows (b : ChannelBlobV1) : List ChannelEntryV1 := b.entries.take b.count

def blobV1IsValid (b : ChannelBlobV1) : Bool :=
  decide (b.entries.length = channelStoreCapacity) && decide (b.schema = channelStoreSchemaV1) &&
    decide (b.count ≠ 0) && decide (b.count ≤ channelStoreCapacity) &&
    decide (channelPublicId < b.nextChannelId) && decide (b.nextChannelId ≠ uint64Max) &&
    b.rows.all (fun e => v1EntryIsValid md e) &&
    b.rows.all (fun e => !decide (e.channelId = channelPublicId) || v1PublicEntryIsExact e) &&
    decide (b.rows.Pairwise fun other e => v1EntriesClash other e = false) &&
    decide (b.rows.countP (fun e => decide (e.channelId = channelPublicId)) = 1) &&
    decide (b.rows.countP (fun e => decide (e.isDefault ≠ 0)) = 1) &&
    b.rows.all fun e => decide (e.channelId < b.nextChannelId)

end Validators

section Ram

def blobBody (s : ChannelStore) : ChannelBlob where
  magic := channelStoreMagic
  schema := channelStoreSchema
  blobLength := Channel.blobLength
  payloadLength := blobPayloadLength
  payloadChecksum := 0
  envelopeReserved := 0
  lineage := s.lineage
  generation := s.generation
  nextChannelId := s.nextChannelId
  revision := s.revision
  totalMutations := s.totalMutations
  count := s.entries.length
  payloadReserved := 0
  entries := s.entries ++ List.replicate (channelStoreCapacity - s.entries.length) zeroEntry
  messageEpoch := s.messageEpoch
  messageNextSeq := s.messageNextSeq
  messageClearLineage := s.messageClearLineage

def fillBlob (s : ChannelStore) : ChannelBlob :=
  { blobBody s with payloadChecksum := crc32Bytes (payloadBytes (blobBody s)) }

def restoreBlob (s : ChannelStore) (b : ChannelBlob) : ChannelStore :=
  { s with
    entries := if b.count ≤ channelStoreCapacity then b.entries.take b.count else []
    lineage := b.lineage
    generation := b.generation
    nextChannelId := b.nextChannelId
    revision := b.revision
    totalMutations := b.totalMutations
    messageEpoch := b.messageEpoch
    messageNextSeq := b.messageNextSeq
    messageClearLineage := b.messageClearLineage }

theorem restoreBlob_fillBlob {s t : ChannelStore} (hlen : s.entries.length ≤ channelStoreCapacity)
    (hloaded : t.loaded = s.loaded) (hstatus : t.loadStatus = s.loadStatus) :
    restoreBlob t (fillBlob s) = s := by
  have hrows : (s.entries ++ List.replicate (channelStoreCapacity - s.entries.length)
      zeroEntry).take s.entries.length = s.entries := List.take_left
  cases s
  dsimp only at hlen hrows
  simp only [restoreBlob, fillBlob, blobBody, hloaded, hstatus, if_pos hlen, hrows]

def makeDefault (value : Nat) (e : ChannelEntry) : ChannelEntry := { e with isDefault := value }

/-- The list around the entry of a channel; `index_by_id`. -/
def splitById (entries : List ChannelEntry) (channelId : UInt64) :
    Option (List ChannelEntry × ChannelEntry × List ChannelEntry) :=
  splitFirst (fun e => decide (e.channelId = channelId)) entries

/-- `make_only_default` at the place of `e`. -/
def onlyDefault (pre : List ChannelEntry) (e : ChannelEntry) (post : List ChannelEntry) :
    List ChannelEntry :=
  pre.map (makeDefault 0) ++ makeDefault 1 e :: post.map (makeDefault 0)

def mutationCounterAvailable (s : ChannelStore) : Bool :=
  decide (s.generation ≠ uint64Max) && decide (s.revision ≠ uint32Max) &&
    decide (s.totalMutations ≠ uint32Max)

/-- Called only while `mutationCounterAvailable`, so no counter comes round to zero. -/
def noteMutation (s : ChannelStore) : ChannelStore :=
  { s with
    generation := s.generation + 1
    revision := s.revision + 1
    totalMutations := s.totalMutations + 1 }

def publicEntry (lineage : UInt64) (channelHash : UInt8) : ChannelEntry :=
  { zeroEntry with
    channelId := channelPublicId
    historyKey := historyKeyFor lineage channelPublicId
    name := copyName .zero publicName
    secret := publicSecret
    secretLen := channelSecret128Len
    channelHash := channelHash
    source := sourceBuiltin
    enabled := 1
    isDefault := 1 }

variable (md : List UInt8 → Option UInt8)

/-- `seed_public_ram`; without a digest the hash stays zero and the caller fails. -/
def seedPublicRam (s : ChannelStore) (lineage generation nextChannelId : UInt64) :
    ChannelStore × EspErr :=
  let hash := protocolHash md publicSecret channelSecret128Len
  ({ s with
      entries := [publicEntry lineage (hash.getD 0)]
      lineage := lineage
      generation := generation
      nextChannelId := nextChannelId
      revision := 1
      totalMutations := 0
      messageEpoch := 0
      messageNextSeq := 0
      messageClearLineage := 0 }, if hash.isSome then espOk else espFail)

def clearUnloadedRam (s : ChannelStore) : ChannelStore := { loadStatus := s.loadStatus }

end Ram

/-- The first draw that `random_nonzero_u64` accepts; `none` while it is still drawing. -/
def randomNonzeroU64 (excluded : UInt64) (draws : List UInt64) : Option UInt64 :=
  draws.find? fun value => decide (value ≠ 0) && decide (value ≠ channelPublicId) &&
    decide (value ≠ excluded) && decide (value ≠ uint64Max)

/-- The draw of `migrate_v1_blob`, which also avoids the ids of the migrated channels. -/
def migrationLineage (rows : List ChannelEntryV1) (draws : List UInt64) : Option UInt64 :=
  draws.find? fun value => decide (value ≠ 0) && decide (value ≠ channelPublicId) &&
    decide (value ≠ uint64Max) && rows.all fun e => decide (e.channelId ≠ value)

def mix64 (value : UInt64) : UInt64 :=
  let value := (value ^^^ (value >>> 30)) * 0xbf58476d1ce4e5b9
  let value := (value ^^^ (value >>> 27)) * 0x94d049bb133111eb
  value ^^^ (value >>> 31)

def nextIdIsRefused (lineage candidate : UInt64) : Bool :=
  decide (candidate ≤ channelPublicId) || decide (candidate = lineage) ||
    decide (uint64Max - 1 ≤ candidate)

/-- The loop of `initial_next_channel_id`; `none` when `fuel` turns do not end it. -/
def initialNextLoop (lineage : UInt64) : Nat → UInt64 → Option UInt64
  | 0, _ => none
  | fuel + 1, candidate =>
    if nextIdIsRefused lineage candidate then
      initialNextLoop lineage fuel (mix64 (candidate + 0x9e3779b97f4a7c15))
    else some candidate

def initialNextChannelId (lineage : UInt64) : Option UInt64 :=
  initialNextLoop lineage 8 (mix64 (lineage ^^^ 0xd1c4a66e1d5eed01))

structure ChannelDevice where
  store : ChannelStore
  nvs : Option ChannelImage
  deriving DecidableEq

/-- How opening NVS, setting the blob and committing it came out. A write that is reported as
failed may have been `kept` all the same. -/
structure NvsWrite where
  ret : EspErr
  kept : Bool
  deriving DecidableEq

def persistStore (d : ChannelDevice) (w : NvsWrite) : ChannelDevice × EspErr :=
  ({ d with
      nvs := if w.ret = espOk ∨ w.kept = true then some (.v3 (fillBlob d.store)) else d.nvs },
    w.ret)

def persistStoreOrRollback (d : ChannelDevice) (before : ChannelBlob) (w : NvsWrite) :
    ChannelDevice × EspErr :=
  let (d, ret) := persistStore d w
  if ret ≠ espOk then ({ d with store := restoreBlob d.store before }, ret) else (d, ret)

def migrateV2Blob (s : ChannelStore) (old : ChannelBlobV2) : ChannelStore :=
  { s with
    entries := old.rows
    lineage := old.lineage
    generation := old.generation
    nextChannelId := old.nextChannelId
    revision := old.revision
    totalMutations := old.totalMutations
    messageEpoch := 0
    messageNextSeq := 0
    messageClearLineage := 0 }

def migrateV1Entry (lineage : UInt64) (e : ChannelEntryV1) : ChannelEntry :=
  { zeroEntry with
    channelId := e.channelId
    historyKey := historyKeyFor lineage e.channelId
    createdMs := e.createdMs
    updatedMs := e.updatedMs
    newestMessageSeq := e.newestMessageSeq
    readThroughSeq := e.readThroughSeq
    unreadCount := e.unreadCount
    name := e.name
    secret := e.secret
    secretLen := e.secretLen
    channelHash := e.channelHash
    source := if e.channelId = channelPublicId then sourceBuiltin else sourceMigrated
    enabled := e.enabled
    isDefault := e.isDefault }

def migrateV1Blob (s : ChannelStore) (old : ChannelBlobV1) (lineage : UInt64) : ChannelStore :=
  { s with
    entries := old.rows.map (migrateV1Entry lineage)
    lineage := lineage
    generation := 1
    nextChannelId := old.nextChannelId
    revision := 1
    totalMutations := 0
    messageEpoch := 0
    messageNextSeq := 0
    messageClearLineage := 0 }

section Init

variable (md : List UInt8 → Option UInt8)

structure InitEnv where
  draws : List UInt64
  migrationDraws : List UInt64
  openRet : EspErr
  readRet : EspErr
  write : NvsWrite

/-- What the blob under the key makes of a freshly seeded store: the store, the result, and whether
it must be written and was migrated. `none` while a lineage is still being drawn. -/
def initRead (seeded : ChannelStore) (env : InitEnv) :
    Option ChannelImage → Option (ChannelStore × EspErr × Bool × Bool)
  | none => some (seeded, espOk, true, false)
  | some image =>
    if env.readRet ≠ espOk then some (seeded, env.readRet, false, false)
    else
      match image with
      | .v3 b =>
        if blobIsValid md b then some (restoreBlob seeded b, espOk, false, false)
        else some (seeded, espErrInvalidState, false, false)
      | .v2 b =>
        if blobV2IsValid md b then some (migrateV2Blob seeded b, espOk, true, true)
        else some (seeded, espErrInvalidState, false, false)
      | .v1 b =>
        if blobV1IsValid md b then
          (migrationLineage b.rows env.migrationDraws).map fun lineage =>
            (migrateV1Blob seeded b lineage, espOk, true, true)
        else some (seeded, espErrInvalidState, false, false)
      | .unknown => some (seeded, espErrInvalidState, false, false)

/-- The end of init: the write, and what is left after one that failed. -/
def initFinish (d : ChannelDevice) (ret : EspErr) (mustPersist migrated : Bool) (w : NvsWrite) :
    ChannelDevice × EspErr :=
  let (d, ret) := if ret = espOk ∧ mustPersist = true then persistStore d w else (d, ret)
  let store := if ret ≠ espOk ∧ migrated = true then clearUnloadedRam d.store else d.store
  ({ d with store := { store with loaded := decide (ret = espOk), loadStatus := ret } }, ret)

/-- `d1l_channel_store_init`; `none` while random numbers are still being drawn. -/
def initStore (d : ChannelDevice) (env : InitEnv) : Option (ChannelDevice × EspErr) := do
  let lineage ← randomNonzeroU64 d.store.lineage env.draws
  let next ← initialNextChannelId lineage
  let (seeded, seedRet) := seedPublicRam md d.store lineage 1 next
  let refused := fun ret =>
    ({ d with store := { seeded with loaded := false, loadStatus := ret } }, ret)
  if seedRet ≠ espOk then return refused seedRet
  if env.openRet ≠ espOk then return refused env.openRet
  let (store, ret, mustPersist, migrated) ← initRead md seeded env d.nvs
  return initFinish { d with store := store } ret mustPersist migrated env.write

structure ResetEnv where
  draws : List UInt64
  generationDraws : List UInt64
  write : NvsWrite

def resetGeneration (s : ChannelStore) (env : ResetEnv) : Option UInt64 :=
  if !s.loaded then some 1
  else if s.generation = uint64Max then randomNonzeroU64 s.generation env.generationDraws
  else some (s.generation + 1)

def resetNextChannelId (s : ChannelStore) (lineage : UInt64) : Option UInt64 :=
  if s.loaded then some s.nextChannelId else initialNextChannelId lineage

/-- The write of the seeded store, and what is left after one that failed. -/
def resetFinish (d : ChannelDevice) (seeded : ChannelStore) (seedRet : EspErr) (w : NvsWrite) :
    ChannelDevice × EspErr :=
  let rollback := fillBlob d.store
  let (written, ret) :=
    if seedRet = espOk then persistStore { d with store := seeded } w
    else ({ d with store := seeded }, seedRet)
  let store :=
    if ret ≠ espOk ∧ d.store.loaded = true then restoreBlob written.store rollback
    else written.store
  ({ written with
    store := { store with
      loaded := decide (ret = espOk) || d.store.loaded
      loadStatus :=
        if ret = espOk then espOk else if d.store.loaded then d.store.loadStatus else ret } }, ret)

/-- `d1l_channel_store_reset`; `none` while random numbers are still being drawn. -/
def resetStore (d : ChannelDevice) (env : ResetEnv) : Option (ChannelDevice × EspErr) := do
  let lineage ← randomNonzeroU64 d.store.lineage env.draws
  let generation ← resetGeneration d.store env
  let next ← resetNextChannelId d.store lineage
  let (seeded, seedRet) := seedPublicRam md d.store lineage generation next
  return resetFinish d seeded seedRet env.write

end Init

end Sigui.Channel

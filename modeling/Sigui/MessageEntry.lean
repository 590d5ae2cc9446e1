import Mathlib.Data.List.Rotate
import Sigui.RouteEntry
import Sigui.SeqSort

/-! Rows of the channel message store, the blobs of its five schemas, their validators and the
conversion of the older ones. -/
namespace Sigui.Message

def messageStoreCapacity : Nat := 16

/-- `D1L_CHANNEL_PUBLIC_ID` -/
def publicId : UInt64 := 1

structure Entry where
  seq : Nat
  uptimeMs : Nat
  direction : CharArray 4
  author : CharArray 24
  text : CharArray 139
  rssiDbm : Int
  snrTenths : Int
  pathHashBytes : Nat
  pathHops : Nat
  delivered : Bool
  reserved : List UInt8
  channelId : UInt64
  deriving DecidableEq

def Entry.withSeq (e : Entry) (seq : Nat) : Entry := { e with seq := seq }

@[simp] theorem Entry.withSeq_seq (e : Entry) (seq : Nat) : (e.withSeq seq).seq = seq := rfl

def zeroReserved : List UInt8 := [0, 0, 0, 0, 0]

/-- A slot that `memset` has cleared. -/
def Entry.zero : Entry where
  seq := 0
  uptimeMs := 0
  direction := .empty
  author := .empty
  text := .empty
  rssiDbm := 0
  snrTenths := 0
  pathHashBytes := 0
  pathHops := 0
  delivered := false
  reserved := zeroReserved
  channelId := 0

/-- The rows of schemas 1 to 4, which differ in the width of the text. -/
structure LegacyEntry (textLen : Nat) where
  seq : Nat
  uptimeMs : Nat
  direction : CharArray 4
  author : CharArray 24
  text : CharArray textLen
  rssiDbm : Int
  snrTenths : Int
  pathHashBytes : Nat
  pathHops : Nat
  delivered : Bool

abbrev EntryV1 := LegacyEntry 96
abbrev EntryV4 := LegacyEntry 139

/-- `persisted_ascii_is_valid(_, _, true)` of this store, which refuses the same bytes as the route
store does. -/
def plainTextIsValid {capacity : Nat} (text : CharArray capacity) : Bool :=
  Route.persistedTextIsValid text true

def userTextIsValid {capacity : Nat} (text : CharArray capacity) : Bool :=
  decide ((userTextValidateBounded text false).result = .ok)

def entryIsValid (e : Entry) : Bool :=
  decide (0 < e.seq) && decide (e.channelId ≠ 0) && decide (e.reserved = zeroReserved) &&
    plainTextIsValid e.direction && plainTextIsValid e.author && userTextIsValid e.text

/-- `entry_v1_is_valid` and `legacy_entry_is_valid` -/
def legacyEntryIsValid {textLen : Nat} (e : LegacyEntry textLen) : Bool :=
  decide (0 < e.seq) && plainTextIsValid e.direction && plainTextIsValid e.author &&
    plainTextIsValid e.text

def entryV4IsValid (e : EntryV4) : Bool :=
  decide (0 < e.seq) && plainTextIsValid e.direction && plainTextIsValid e.author &&
    userTextIsValid e.text

def entriesEqual (left right : Entry) : Bool :=
  decide ({ left with reserved := right.reserved } = right)

structure BlobV2 (ε : Type) where
  schema : Nat
  nextSeq : Nat
  totalWritten : Nat
  droppedOldest : Nat
  head : Nat
  count : Nat
  entries : List ε
  deriving DecidableEq

structure BlobV3 (ε : Type) extends BlobV2 ε where
  epoch : Nat
  contentRevision : Nat
  deriving DecidableEq

structure BlobV4 (ε : Type) extends BlobV3 ε where
  clearLineage : UInt64
  deriving DecidableEq

abbrev Blob := BlobV4 Entry

def blobOldestIndex (head count : Nat) : Nat :=
  if count = 0 then 0 else (head + messageStoreCapacity - count) % messageStoreCapacity

/-- `entries[(oldest + i) % capacity]` for `i < count`. -/
def BlobV2.rows {ε : Type} (b : BlobV2 ε) : List ε :=
  (b.entries.rotate (blobOldestIndex b.head b.count)).take b.count

inductive RawBlob
  | current (b : Blob)
  | v4 (b : BlobV4 EntryV4)
  | v3 (b : BlobV3 EntryV4)
  | v2 (b : BlobV2 EntryV4)
  | v1 (b : BlobV2 EntryV1)
  | other

def rowsAreValid {ε : Type} (seqOf : ε → Nat) (valid : ε → Bool) (nextSeq : Nat) :
    Nat → List ε → Bool
  | _, [] => true
  | previousSeq, e :: rows =>
    valid e && decide (previousSeq < seqOf e) && decide (seqOf e < nextSeq) &&
      rowsAreValid seqOf valid nextSeq (seqOf e) rows

def headerV2IsValid {ε : Type} (b : BlobV2 ε) (schema : Nat) : Bool :=
  decide (b.entries.length = messageStoreCapacity) && decide (b.schema = schema) &&
    decide (b.head < messageStoreCapacity) && decide (b.count ≤ messageStoreCapacity) &&
    decide (b.nextSeq ≠ 0) && decide (b.count ≤ b.totalWritten)

def headerV3IsValid {ε : Type} (b : BlobV3 ε) (schema : Nat) : Bool :=
  headerV2IsValid b.toBlobV2 schema && decide (b.epoch ≠ 0) && decide (b.contentRevision ≠ 0)

def blobIsValid (b : Blob) : Bool :=
  headerV3IsValid b.toBlobV3 5 && rowsAreValid Entry.seq entryIsValid b.nextSeq 0 b.rows

def blobV4IsValid (b : BlobV4 EntryV4) : Bool :=
  headerV3IsValid b.toBlobV3 4 &&
    rowsAreValid LegacyEntry.seq entryV4IsValid b.nextSeq 0 b.rows

def blobV3IsValid (b : BlobV3 EntryV4) : Bool :=
  headerV3IsValid b 3 && rowsAreValid LegacyEntry.seq legacyEntryIsValid b.nextSeq 0 b.rows

def blobV2IsValid (b : BlobV2 EntryV4) : Bool :=
  headerV2IsValid b 2 && rowsAreValid LegacyEntry.seq legacyEntryIsValid b.nextSeq 0 b.rows

def blobV1IsValid (b : BlobV2 EntryV1) : Bool :=
  headerV2IsValid b 1 && rowsAreValid LegacyEntry.seq legacyEntryIsValid b.nextSeq 0 b.rows

def blobsEquivalent (left right : Blob) : Bool :=
  decide (left.clearLineage = right.clearLineage) && decide (left.epoch = right.epoch) &&
    decide (left.contentRevision = right.contentRevision) &&
    decide (left.nextSeq = right.nextSeq) && decide (left.totalWritten = right.totalWritten) &&
    decide (left.droppedOldest = right.droppedOldest) && decide (left.count = right.count) &&
    (left.rows.zip right.rows).all fun (l, r) => entriesEqual l r

def blobIsNewer (left right : Blob) : Bool :=
  if left.epoch ≠ right.epoch then decide (right.epoch < left.epoch)
  else if left.contentRevision ≠ right.contentRevision then
    decide (right.contentRevision < left.contentRevision)
  else if left.totalWritten ≠ right.totalWritten then decide (right.totalWritten < left.totalWritten)
  else decide (right.nextSeq < left.nextSeq)

def migrationRevision (totalWritten : Nat) : Nat :=
  if totalWritten = uint32Max then uint32Max else totalWritten + 1

def convertEntry {textLen : Nat} (old : LegacyEntry textLen) (direction : CharArray 4)
    (author : CharArray 24) (text : CharArray 139) : Entry where
  seq := old.seq
  uptimeMs := old.uptimeMs
  direction := direction
  author := author
  text := text
  rssiDbm := old.rssiDbm
  snrTenths := old.snrTenths
  pathHashBytes := old.pathHashBytes
  pathHops := old.pathHops
  delivered := old.delivered
  reserved := zeroReserved
  channelId := publicId

def convertV4Entry (old : EntryV4) : Entry := convertEntry old old.direction old.author old.text

/-- The body of the loop of `convert_v1_blob`. -/
def convertV1Entry (old : EntryV1) : Entry :=
  convertEntry old (sanitizeAscii 4 ⟨old.direction.bytes, old.direction.no_nul⟩)
    (sanitizeAscii 24 ⟨old.author.bytes, old.author.no_nul⟩)
    (sanitizeAscii 139 ⟨old.text.bytes, old.text.no_nul⟩)

/-- A current blob with the header of `b` and its converted rows from slot 0 on. -/
def convertBlob {ε : Type} (b : BlobV2 ε) (convert : ε → Entry) (epoch contentRevision : Nat)
    (clearLineage : UInt64) : Blob where
  schema := 5
  nextSeq := b.nextSeq
  totalWritten := b.totalWritten
  droppedOldest := b.droppedOldest
  head := b.count % messageStoreCapacity
  count := b.count
  entries := b.rows.map convert ++ List.replicate (messageStoreCapacity - b.count) Entry.zero
  epoch := epoch
  contentRevision := contentRevision
  clearLineage := clearLineage

def convertV4Blob (b : BlobV4 EntryV4) : Blob :=
  convertBlob b.toBlobV2 convertV4Entry b.epoch b.contentRevision b.clearLineage

def convertV3Blob (b : BlobV3 EntryV4) : Blob :=
  convertBlob b.toBlobV2 convertV4Entry b.epoch b.contentRevision 0

def convertV2Blob (b : BlobV2 EntryV4) : Blob :=
  convertBlob b convertV4Entry 1 (migrationRevision b.totalWritten) 0

def convertV1Blob (b : BlobV2 EntryV1) : Blob :=
  convertBlob b convertV1Entry 1 (migrationRevision b.totalWritten) 0

/-- `read_blob_target` once the value is there; the flag is `*out_migrated`. -/
def decodeBlob : RawBlob → Except EspErr (Blob × Bool)
  | .current b => if blobIsValid b then .ok (b, false) else .error espErrInvalidState
  | .v4 b => if blobV4IsValid b then .ok (convertV4Blob b, true) else .error espErrInvalidState
  | .v3 b => if blobV3IsValid b then .ok (convertV3Blob b, true) else .error espErrInvalidState
  | .v2 b => if blobV2IsValid b then .ok (convertV2Blob b, true) else .error espErrInvalidState
  | .v1 b => if blobV1IsValid b then .ok (convertV1Blob b, true) else .error espErrInvalidState
  | .other => .error espErrInvalidState

end Sigui.Message

import Sigui.AdminBytes

/-! The envelope around a settings record on flash: a 20-byte header with the length, the revision
and the CRC-32 of the payload. -/
namespace Sigui

def le16 (n : Nat) : List UInt8 := [.ofNat n, .ofNat (n / 0x100)]

def le32 (n : Nat) : List UInt8 := le16 n ++ le16 (n / 0x10000)

def le64 (n : Nat) : List UInt8 := le32 n ++ le32 (n / 0x100000000)

def readLe64 (data : List UInt8) (i : Nat) : Nat :=
  Admin.readLe32 data i + Admin.readLe32 data (i + 4) * 0x100000000

theorem readLe16_le16 {n : Nat} (h : n < 0x10000) : Admin.readLe16 (le16 n) 0 = n := by
  show (UInt8.ofNat n).toNat + (UInt8.ofNat (n / 0x100)).toNat * 0x100 = n
  simp only [UInt8.toNat_ofNat']
  omega

theorem readLe32_le32 {n : Nat} (h : n < 0x100000000) : Admin.readLe32 (le32 n) 0 = n := by
  show (UInt8.ofNat n).toNat + (UInt8.ofNat (n / 0x100)).toNat * 0x100 +
    ((UInt8.ofNat (n / 0x10000)).toNat + (UInt8.ofNat (n / 0x10000 / 0x100)).toNat * 0x100) *
      0x10000 = n
  simp only [UInt8.toNat_ofNat']
  omega

theorem readLe64_le64 {n : Nat} (h : n < 0x10000000000000000) : readLe64 (le64 n) 0 = n := by
  have hlow : Admin.readLe32 (le32 (n % 0x100000000)) 0 = n % 0x100000000 :=
    readLe32_le32 (Nat.mod_lt _ (by decide))
  have hhigh : Admin.readLe32 (le32 (n / 0x100000000)) 0 = n / 0x100000000 :=
    readLe32_le32 (by omega)
  have hmod : le32 (n % 0x100000000) = le32 n := by
    simp only [le32, le16, List.cons_append, List.nil_append, List.cons.injEq, and_true,
      ← UInt8.toNat_inj, UInt8.toNat_ofNat']
    omega
  rw [hmod] at hlow
  show Admin.readLe32 (le32 n) 0 + Admin.readLe32 (le32 (n / 0x100000000)) 0 * 0x100000000 = n
  rw [hlow, hhigh]
  omega

theorem readLe32_lt (data : List UInt8) (i : Nat) : Admin.readLe32 data i < 0x100000000 := by
  have hbyte : ∀ j, Admin.byteAt data j < 0x100 := fun j => UInt8.toNat_lt _
  have h0 := hbyte i
  have h1 := hbyte (i + 1)
  have h2 := hbyte (i + 2)
  have h3 := hbyte (i + 2 + 1)
  unfold Admin.readLe32 Admin.readLe16
  omega

/-- `uint32_t` fields laid out one after the other. -/
def le32s (words : List Nat) : List UInt8 := words.flatMap le32

theorem readLe32_le32s {words : List Nat} (h : ∀ w ∈ words, w < 0x100000000) {i : Nat}
    (hi : i < words.length) : Admin.readLe32 (le32s words) (4 * i) = words.getD i 0 := by
  induction words generalizing i with
  | nil => exact absurd hi (Nat.not_lt_zero i)
  | cons w words ih =>
    obtain ⟨hw, hwords⟩ := List.forall_mem_cons.mp h
    cases i with
    | zero => exact readLe32_le32 hw
    | succ i => exact ih hwords (Nat.lt_of_succ_lt_succ hi)

namespace Envelope

/-- One of the eight rounds that `crc32_update` makes for a byte. -/
def crc32Round (crc : UInt32) : UInt32 :=
  if crc &&& 1 = 1 then (crc >>> 1) ^^^ 0xedb88320 else crc >>> 1

def crc32Update (crc : UInt32) (data : List UInt8) : UInt32 :=
  ~~~data.foldl (fun crc byte => Nat.repeat crc32Round 8 (crc ^^^ byte.toUInt32)) (~~~crc)

def checksum (payload : List UInt8) : Nat := (crc32Update 0 payload).toNat

theorem checksum_lt (payload : List UInt8) : checksum payload < 0x100000000 := UInt32.toNat_lt _

def magic : Nat := 0x53473144
def schemaVersion : Nat := 1
def headerSize : Nat := 20

structure Header where
  magic : Nat
  schemaVersion : Nat
  reserved : Nat
  payloadLength : Nat
  revision : Nat
  payloadChecksum : Nat
  deriving DecidableEq

def Header.zero : Header := ⟨0, 0, 0, 0, 0, 0⟩

/-- The header `memcpy`d from the first bytes of a blob. -/
def Header.read (blob : List UInt8) : Header where
  magic := Admin.readLe32 blob 0
  schemaVersion := Admin.readLe16 blob 4
  reserved := Admin.readLe16 blob 6
  payloadLength := Admin.readLe32 blob 8
  revision := Admin.readLe32 blob 12
  payloadChecksum := Admin.readLe32 blob 16

def Header.bytes (h : Header) : List UInt8 :=
  le32 h.magic ++ le16 h.schemaVersion ++ le16 h.reserved ++ le32 h.payloadLength ++
    le32 h.revision ++ le32 h.payloadChecksum

/-- `d1l_settings_envelope_next_revision` -/
def nextRevision (current : Nat) : Option Nat :=
  if current = uint32Max then none else some (current + 1)

/-- The header that `d1l_settings_envelope_build` puts before a payload. -/
def headerOf (payload : List UInt8) (revision : Nat) : Header :=
  ⟨magic, schemaVersion, 0, payload.length, revision, checksum payload⟩

/-- `d1l_settings_envelope_build`: `none` where it returns false. -/
def build (destinationSize : Nat) (payload : List UInt8) (revision : Nat) : Option (List UInt8) :=
  if payload.length = 0 ∨ uint32Max < payload.length ∨ revision = 0 then none
  else if destinationSize < headerSize + payload.length then none
  else some ((headerOf payload revision).bytes ++ payload)

inductive Validation
  | valid
  | notEnvelope
  | malformed
  | schemaNewer
  | checksumMismatch
  deriving DecidableEq

/-- `d1l_settings_envelope_validate`, with the header it copies out and the payload of a valid
blob. -/
def validate (blob : List UInt8) (expectedPayloadLength : Nat) :
    Validation × Header × List UInt8 :=
  let found := if 4 ≤ blob.length then Admin.readLe32 blob 0 else 0
  if found ≠ magic then (.notEnvelope, .zero, [])
  else if blob.length < headerSize then (.malformed, .zero, [])
  else
    let header := Header.read blob
    if schemaVersion < header.schemaVersion then (.schemaNewer, header, [])
    else if header.schemaVersion ≠ schemaVersion ∨ header.reserved ≠ 0 ∨ header.revision = 0 ∨
        header.payloadLength ≠ expectedPayloadLength ∨
        blob.length ≠ headerSize + header.payloadLength then (.malformed, header, [])
    else
      let payload := blob.drop headerSize
      if header.payloadChecksum ≠ checksum payload then (.checksumMismatch, header, [])
      else (.valid, header, payload)

section RoundTrip

variable {payload : List UInt8} {revision : Nat}

theorem bytes_length (h : Header) : h.bytes.length = headerSize := rfl

theorem read_bytes {h : Header} (hmagic : h.magic < 0x100000000)
    (hschema : h.schemaVersion < 0x10000) (hreserved : h.reserved < 0x10000)
    (hlength : h.payloadLength < 0x100000000) (hrevision : h.revision < 0x100000000)
    (hchecksum : h.payloadChecksum < 0x100000000) (rest : List UInt8) :
    Header.read (h.bytes ++ rest) = h := by
  have hread : Header.read (h.bytes ++ rest) =
      ⟨Admin.readLe32 (le32 h.magic) 0, Admin.readLe16 (le16 h.schemaVersion) 0,
        Admin.readLe16 (le16 h.reserved) 0, Admin.readLe32 (le32 h.payloadLength) 0,
        Admin.readLe32 (le32 h.revision) 0, Admin.readLe32 (le32 h.payloadChecksum) 0⟩ := rfl
  rw [hread, readLe32_le32 hmagic, readLe16_le16 hschema, readLe16_le16 hreserved,
    readLe32_le32 hlength, readLe32_le32 hrevision, readLe32_le32 hchecksum]

theorem read_headerOf (hlength : payload.length < 0x100000000) (hrevision : revision < 0x100000000) :
    Header.read ((headerOf payload revision).bytes ++ payload) = headerOf payload revision :=
  read_bytes (show magic < 0x100000000 by decide) (show schemaVersion < 0x10000 by decide)
    (show 0 < 0x10000 by decide) hlength hrevision (checksum_lt payload) payload

theorem validate_built (hlength : payload.length < 0x100000000) (hpositive : revision ≠ 0)
    (hrevision : revision < 0x100000000) :
    validate ((headerOf payload revision).bytes ++ payload) payload.length =
      (.valid, headerOf payload revision, payload) := by
  have hheader := read_headerOf hlength hrevision
  have hmagic : Admin.readLe32 ((headerOf payload revision).bytes ++ payload) 0 = magic :=
    congrArg Header.magic hheader
  have hsize : ((headerOf payload revision).bytes ++ payload).length =
      headerSize + payload.length := by
    rw [List.length_append, bytes_length]
  have hdrop : ((headerOf payload revision).bytes ++ payload).drop headerSize = payload := rfl
  have hhead : headerSize = 20 := rfl
  have hfound : (if 4 ≤ headerSize + payload.length then magic else 0) = magic :=
    if_pos (by omega)
  unfold validate
  rw [hheader, hmagic, hsize, hdrop]
  dsimp only
  rw [hfound, if_neg (by simp), if_neg (by omega), if_neg (by simp [headerOf]),
    if_neg (by simp [headerOf, hpositive]), if_neg (by simp [headerOf])]

end RoundTrip

end Envelope

end Sigui

import Sigui.Text
import Mathlib.Data.List.Pairwise

/-! A channel of the channel store: its name, its secret and the checks a stored one must pass.
The digest of a secret comes from a library, so `md` stands for it: the first byte of SHA-256, or
nothing when the library reports an error. -/
namespace Sigui.Channel

def channelStoreCapacity : Nat := 8
def channelNameLen : Nat := 33
def channelSecretMaxLen : Nat := 32
def channelSecret128Len : Nat := 16
def channelSecret256Len : Nat := 32
def channelPublicId : UInt64 := 1
def uint64Max : UInt64 := 0xFFFFFFFFFFFFFFFF

/-- A `uint8_t[n]` or `char[n]` with all of its bytes. -/
structure Bytes (n : Nat) where
  bytes : List UInt8
  length_eq : bytes.length = n
  deriving DecidableEq

namespace Bytes

variable {n : Nat}

def zero : Bytes n := ⟨List.replicate n 0, List.length_replicate⟩

def text (b : Bytes n) : List UInt8 := b.bytes.takeWhile (· != 0)

/-- `memcpy(dest, src, count)` into the front of `dest`. -/
def overwrite (dest : Bytes n) (src : List UInt8) (h : src.length ≤ n) : Bytes n where
  bytes := src ++ dest.bytes.drop src.length
  length_eq := by
    rw [List.length_append, List.length_drop, dest.length_eq]
    omega

theorem ext_bytes {a b : Bytes n} (h : a.bytes = b.bytes) : a = b := by
  cases a
  cases b
  simpa using h

end Bytes

def continuationByte (byte : UInt8) : Bool := byte &&& 0xC0 == 0x80

def codepointIsValid (minimum codepoint : Nat) : Bool :=
  decide (minimum ≤ codepoint) && decide (codepoint ≤ 0x10FFFF) &&
    !decide (0xD800 ≤ codepoint ∧ codepoint ≤ 0xDFFF) && !decide (codepoint ≤ 0x1F) &&
    !decide (0x7F ≤ codepoint ∧ codepoint ≤ 0x9F)

/-- The decoding loop of `utf8_name_is_valid`. -/
def utf8Scan : List UInt8 → Bool
  | [] => true
  | lead :: rest =>
    let b0 := lead.toNat
    if b0 ≤ 0x7F then codepointIsValid 0 b0 && utf8Scan rest
    else if 0xC2 ≤ b0 ∧ b0 ≤ 0xDF then
      match rest with
      | c1 :: rest =>
        continuationByte c1 && codepointIsValid 0x80 (b0 % 0x20 * 0x40 + c1.toNat % 0x40) &&
          utf8Scan rest
      | [] => false
    else if 0xE0 ≤ b0 ∧ b0 ≤ 0xEF then
      match rest with
      | c1 :: c2 :: rest =>
        continuationByte c1 && continuationByte c2 &&
          codepointIsValid 0x800
            (b0 % 0x10 * 0x1000 + c1.toNat % 0x40 * 0x40 + c2.toNat % 0x40) && utf8Scan rest
      | _ => false
    else if 0xF0 ≤ b0 ∧ b0 ≤ 0xF4 then
      match rest with
      | c1 :: c2 :: c3 :: rest =>
        continuationByte c1 && continuationByte c2 && continuationByte c3 &&
          codepointIsValid 0x10000 (b0 % 0x08 * 0x40000 + c1.toNat % 0x40 * 0x1000 +
            c2.toNat % 0x40 * 0x40 + c3.toNat % 0x40) && utf8Scan rest
      | _ => false
    else false

def utf8NameIsValid (text : List UInt8) : Bool :=
  !text.isEmpty && decide (text.length < channelNameLen) && utf8Scan text

def boundedNameIsValid (name : Bytes channelNameLen) : Bool := utf8NameIsValid name.text

theorem length_of_utf8NameIsValid {text : List UInt8} (h : utf8NameIsValid text = true) :
    text.length < channelNameLen := by
  simp only [utf8NameIsValid, Bool.and_eq_true, decide_eq_true_eq] at h
  exact h.1.2

def asciiFold (value : UInt8) : UInt8 :=
  if 65 ≤ value.toNat ∧ value.toNat ≤ 90 then value + 32 else value

/-- `names_equal` on the bytes before the terminators: two terminated names that agree up to the
case of ASCII letters. -/
def namesEqual (left right : List UInt8) : Bool :=
  decide (left.length < channelNameLen) && decide (right.length < channelNameLen) &&
    left.map asciiFold == right.map asciiFold

theorem namesEqual_comm (left right : List UInt8) :
    namesEqual left right = namesEqual right left := by
  rw [namesEqual, namesEqual, Bool.and_comm (decide (left.length < channelNameLen)),
    Bool.beq_comm]

/-- `memcpy(name, text, strlen(text) + 1)` -/
def copyName (name : Bytes channelNameLen) (text : List UInt8) : Bytes channelNameLen :=
  if h : (text ++ [0]).length ≤ channelNameLen then name.overwrite (text ++ [0]) h else name

theorem copyName_text {name : Bytes channelNameLen} {text : List UInt8}
    (hlen : text.length < channelNameLen) (hnul : 0 ∉ text) : (copyName name text).text = text := by
  have hfits : (text ++ [0]).length ≤ channelNameLen := by
    rw [List.length_append, List.length_singleton]
    exact hlen
  have hall : ∀ c ∈ text, (c != 0) = true := fun c hc => bne_iff_ne.mpr fun h => hnul (h ▸ hc)
  rw [copyName, dif_pos hfits]
  change ((text ++ [0]) ++ _).takeWhile (· != 0) = text
  rw [List.append_assoc, List.takeWhile_append_of_pos hall]
  simp

section Secrets

abbrev Secret := Bytes channelSecretMaxLen

def tailIsZero (secret : Secret) : Bool := (secret.bytes.drop channelSecret128Len).all (· == 0)

def secretLenIsValid (secretLen : Nat) : Bool :=
  decide (secretLen = channelSecret128Len) || decide (secretLen = channelSecret256Len)

def normalizeSecret (secret : List UInt8) : Option (Secret × Nat) :=
  if h : secretLenIsValid secret.length = true then
    have hle : secret.length ≤ channelSecretMaxLen := by
      simp only [secretLenIsValid, Bool.or_eq_true, decide_eq_true_eq] at h
      rcases h with h | h
      · exact h.le.trans (by decide)
      · exact h.le
    let dest := Bytes.zero.overwrite secret hle
    some (dest, if secret.length = channelSecret256Len ∧ tailIsZero dest = true then
      channelSecret128Len else secret.length)
  else none

/-- `stored_secret_is_valid`: a short secret has a zero tail and a long one has not. -/
def storedSecretIsValid (secret : Secret) (secretLen : Nat) : Bool :=
  secretLenIsValid secretLen && (tailIsZero secret == decide (secretLen = channelSecret128Len))

def secretsEqual (left : Secret) (leftLen : Nat) (right : Secret) (rightLen : Nat) : Bool :=
  decide (leftLen = rightLen) && left.bytes.take leftLen == right.bytes.take leftLen

theorem secretsEqual_comm (left right : Secret) (leftLen rightLen : Nat) :
    secretsEqual left leftLen right rightLen = secretsEqual right rightLen left leftLen := by
  by_cases h : leftLen = rightLen
  · rw [h, secretsEqual, secretsEqual, Bool.beq_comm]
  · rw [secretsEqual, secretsEqual, decide_eq_false h, decide_eq_false (Ne.symm h)]
    rfl

variable (md : List UInt8 → Option UInt8)

/-- `d1l_channel_store_protocol_hash`; `none` stands for `ESP_FAIL`. -/
def protocolHash (secret : Secret) (secretLen : Nat) : Option UInt8 :=
  let effectiveLen :=
    if secretLen = channelSecret256Len ∧ tailIsZero secret = true then channelSecret128Len
    else secretLen
  md (secret.bytes.take effectiveLen)

theorem tailIsZero_zero_overwrite {secret : List UInt8} (hle : secret.length ≤ channelSecretMaxLen)
    (hshort : secret.length ≤ channelSecret128Len) :
    tailIsZero (Bytes.zero.overwrite secret hle) = true := by
  simp only [tailIsZero, Bytes.overwrite, Bytes.zero, List.all_eq_true]
  intro b hb
  rw [List.drop_append, List.drop_of_length_le hshort, List.nil_append] at hb
  have hzero : b ∈ List.replicate channelSecretMaxLen (0 : UInt8) :=
    List.mem_of_mem_drop (List.mem_of_mem_drop hb)
  rw [(List.mem_replicate.mp hzero).2]
  rfl

theorem storedSecretIsValid_normalizeSecret {secret : List UInt8} {dest : Secret} {len : Nat}
    (h : normalizeSecret secret = some (dest, len)) : storedSecretIsValid dest len = true := by
  unfold normalizeSecret at h
  split_ifs at h with hlen
  simp only [Option.some.injEq, Prod.mk.injEq] at h
  obtain ⟨rfl, rfl⟩ := h
  have hcases : secret.length = channelSecret128Len ∨ secret.length = channelSecret256Len := by
    simpa [secretLenIsValid] using hlen
  rcases hcases with hshort | hlong
  · have hne : secret.length ≠ channelSecret256Len := by
      rw [hshort]
      decide
    rw [if_neg fun hc => hne hc.1, storedSecretIsValid, hlen,
      tailIsZero_zero_overwrite _ hshort.le, decide_eq_true hshort]
    rfl
  · by_cases htail : tailIsZero (Bytes.zero.overwrite secret (by rw [hlong]; decide)) = true
    · rw [if_pos ⟨hlong, htail⟩, storedSecretIsValid, htail]
      rfl
    · have hne : secret.length ≠ channelSecret128Len := by
        rw [hlong]
        decide
      rw [Bool.not_eq_true] at htail
      rw [if_neg fun hc => absurd (htail.symm.trans hc.2) Bool.false_ne_true, storedSecretIsValid,
        hlen, decide_eq_false hne, htail]
      rfl

end Secrets

/-- `D1L_CHANNEL_SOURCE_*` -/
def sourceBuiltin : Nat := 1
def sourceManual : Nat := 2
def sourceUriImport : Nat := 3
def sourceMigrated : Nat := 4

def sourceIsValid (source : Nat) : Bool :=
  decide (sourceBuiltin ≤ source) && decide (source ≤ sourceMigrated)

structure ChannelEntry where
  channelId : UInt64
  historyKey : UInt64
  createdMs : Nat
  updatedMs : Nat
  importedAtMs : Nat
  newestMessageSeq : Nat
  readThroughSeq : Nat
  unreadCount : Nat
  name : Bytes channelNameLen
  secret : Secret
  secretLen : Nat
  channelHash : UInt8
  source : Nat
  enabled : Nat
  isDefault : Nat
  reserved : Bytes 2
  deriving DecidableEq

def historyKeyFor (lineage channelId : UInt64) : UInt64 := lineage ^^^ channelId

theorem historyKeyFor_injective (lineage : UInt64) {a b : UInt64}
    (h : historyKeyFor lineage a = historyKeyFor lineage b) : a = b := by
  have hcancel : lineage ^^^ historyKeyFor lineage a = lineage ^^^ historyKeyFor lineage b :=
    congrArg (lineage ^^^ ·) h
  simpa only [historyKeyFor, ← UInt64.xor_assoc, UInt64.xor_self, UInt64.zero_xor] using hcancel

def publicName : List UInt8 := [80, 117, 98, 108, 105, 99]

def publicSecret : Secret :=
  ⟨[0x8b, 0x33, 0x87, 0xe9, 0xc5, 0xcd, 0xea, 0x6a, 0xc9, 0xe5, 0xed, 0xba, 0xa1, 0x15, 0xcd,
    0x72, 0, 0, 0, 0, 0, 0, 0, 0, 0, 0, 0, 0, 0, 0, 0, 0], rfl⟩

def cursorsAreValid (newest readThrough unread : Nat) : Bool :=
  decide (readThrough ≤ newest) && decide (unread ≤ newest) &&
    !(decide (unread = 0) && decide (readThrough ≠ newest)) &&
    !(decide (unread ≠ 0) && decide (readThrough = newest))

def flagsAreValid (enabled isDefault : Nat) : Bool :=
  decide (enabled ≤ 1) && decide (isDefault ≤ 1) &&
    !(decide (isDefault ≠ 0) && decide (enabled = 0))

def publicEntryIsExact (e : ChannelEntry) (lineage : UInt64) : Bool :=
  decide (e.channelId = channelPublicId) &&
    decide (e.historyKey = historyKeyFor lineage channelPublicId) &&
    decide (e.name.text = publicName) && decide (e.secretLen = channelSecret128Len) &&
    decide (e.secret = publicSecret) && decide (e.source = sourceBuiltin) &&
    decide (e.enabled = 1)

variable (md : List UInt8 → Option UInt8)

def entryIsValid (e : ChannelEntry) (lineage : UInt64) : Bool :=
  decide (e.channelId ≠ 0) && decide (e.channelId ≠ lineage) &&
    decide (e.historyKey = historyKeyFor lineage e.channelId) && boundedNameIsValid e.name &&
    storedSecretIsValid e.secret e.secretLen && sourceIsValid e.source &&
    flagsAreValid e.enabled e.isDefault &&
    cursorsAreValid e.newestMessageSeq e.readThroughSeq e.unreadCount &&
    decide (protocolHash md e.secret e.secretLen = some e.channelHash)

def entriesClash (other e : ChannelEntry) : Bool :=
  decide (other.channelId = e.channelId) || decide (other.historyKey = e.historyKey) ||
    namesEqual other.name.text e.name.text ||
    secretsEqual other.secret other.secretLen e.secret e.secretLen

theorem entriesClash_comm (a b : ChannelEntry) : entriesClash a b = entriesClash b a := by
  rw [entriesClash, entriesClash, namesEqual_comm a.name.text, secretsEqual_comm a.secret]
  congr 3
  · exact decide_eq_decide.mpr eq_comm
  · exact decide_eq_decide.mpr eq_comm

end Sigui.Channel

import Sigui.ChannelEntry
import Sigui.MeshPath
import Sigui.NodeEntry

/-! A contact of the contact store: the two hexadecimal names it goes by, what makes it canonical,
and the check its retained path must pass. -/
namespace Sigui.Contact

open Sigui.Channel (Bytes)
open Sigui.MeshPath

def contactStoreCapacity : Nat := 16
def fingerprintChars : Nat := 16
def publicKeyChars : Nat := 64

section Hex

def isHexChar (c : UInt8) : Bool :=
  decide (48 ≤ c.toNat ∧ c.toNat ≤ 57) || decide (97 ≤ c.toNat ∧ c.toNat ≤ 102) ||
    decide (65 ≤ c.toNat ∧ c.toNat ≤ 70)

def lowerHexChar (c : UInt8) : UInt8 :=
  if 65 ≤ c.toNat ∧ c.toNat ≤ 70 then c + 32 else c

def fixedHexStringValid (value : List UInt8) (hexChars : Nat) : Bool :=
  decide (value.length = hexChars) && value.all isHexChar

def fixedHexStringsEqual (left right : List UInt8) (hexChars : Nat) : Bool :=
  (left.take hexChars).map lowerHexChar == (right.take hexChars).map lowerHexChar

/-- What a text of `hexChars` digits names, up to case; other texts name nothing. -/
def hexName (value : List UInt8) (hexChars : Nat) : Option (List UInt8) :=
  if fixedHexStringValid value hexChars then some (value.map lowerHexChar) else none

variable {value left right : List UInt8} {hexChars : Nat}

theorem length_of_fixedHexStringValid (h : fixedHexStringValid value hexChars = true) :
    value.length = hexChars := by
  simp only [fixedHexStringValid, Bool.and_eq_true, decide_eq_true_eq] at h
  exact h.1

theorem hexName_eq_some {name : List UInt8} : hexName value hexChars = some name ↔
    fixedHexStringValid value hexChars = true ∧ value.map lowerHexChar = name := by
  unfold hexName
  split_ifs with h
  · simp [h]
  · simp [h]

theorem hexName_isSome : (hexName value hexChars).isSome = fixedHexStringValid value hexChars := by
  unfold hexName
  split_ifs with h
  · exact h.symm
  · simpa using h

theorem fixedHexStringsEqual_iff (hl : fixedHexStringValid left hexChars = true)
    (hr : fixedHexStringValid right hexChars = true) :
    fixedHexStringsEqual left right hexChars = true ↔
      hexName left hexChars = hexName right hexChars := by
  have hleft := length_of_fixedHexStringValid hl
  have hright := length_of_fixedHexStringValid hr
  rw [hexName, if_pos hl, hexName, if_pos hr, fixedHexStringsEqual, List.take_of_length_le hleft.le,
    List.take_of_length_le hright.le, beq_iff_eq, Option.some.injEq]

theorem lowerHexChar_ne_zero {c : UInt8} (h : c ≠ 0) : lowerHexChar c ≠ 0 := by
  unfold lowerHexChar
  split_ifs with hupper
  · intro hzero
    have hnat := congrArg UInt8.toNat hzero
    rw [UInt8.toNat_add] at hnat
    change (c.toNat + 32) % 256 = 0 at hnat
    omega
  · exact h

theorem isHexChar_lowerHexChar {c : UInt8} (h : isHexChar c = true) :
    isHexChar (lowerHexChar c) = true := by
  unfold lowerHexChar
  split_ifs with hupper
  · have hnat : (c + 32).toNat = c.toNat + 32 := by
      rw [UInt8.toNat_add]
      change (c.toNat + 32) % 256 = c.toNat + 32
      omega
    simp only [isHexChar, hnat, Bool.or_eq_true, decide_eq_true_eq]
    omega
  · exact h

theorem lowerHexChar_idem (c : UInt8) : lowerHexChar (lowerHexChar c) = lowerHexChar c := by
  by_cases hupper : 65 ≤ c.toNat ∧ c.toNat ≤ 70
  · have hlow : lowerHexChar c = c + 32 := if_pos hupper
    have hnat : (c + 32).toNat = c.toNat + 32 := by
      rw [UInt8.toNat_add]
      change (c.toNat + 32) % 256 = c.toNat + 32
      omega
    rw [hlow]
    exact if_neg (by omega)
  · have hsame : lowerHexChar c = c := if_neg hupper
    rw [hsame, hsame]

/-- `copy_lower_hex` into a `char[n]` that has room. -/
def copyLowerHex (n : Nat) (src : CStr) (hexChars : Nat) : CharArray n where
  bytes := (src.bytes.take (min hexChars (n - 1))).map lowerHexChar
  length_le := by
    rw [List.length_map, List.length_take]
    omega
  no_nul := by
    simp only [List.mem_map, not_exists, not_and]
    exact fun c hc => lowerHexChar_ne_zero fun h => src.no_nul (h ▸ List.mem_of_mem_take hc)

theorem hexName_copyLowerHex {n : Nat} {src : CStr} (hroom : hexChars < n)
    (h : fixedHexStringValid src.bytes hexChars = true) :
    hexName (copyLowerHex n src hexChars).bytes hexChars = hexName src.bytes hexChars := by
  have hlen := length_of_fixedHexStringValid h
  have hall : src.bytes.all isHexChar = true := (Bool.and_eq_true_iff.mp h).2
  have hbytes : (copyLowerHex n src hexChars).bytes = src.bytes.map lowerHexChar := by
    change (src.bytes.take (min hexChars (n - 1))).map lowerHexChar = _
    rw [List.take_of_length_le (by omega)]
  have hvalid : fixedHexStringValid (src.bytes.map lowerHexChar) hexChars = true := by
    rw [fixedHexStringValid, List.length_map, decide_eq_true hlen, Bool.true_and, List.all_map]
    rw [List.all_eq_true] at hall ⊢
    exact fun c hc => isHexChar_lowerHexChar (hall c hc)
  rw [hbytes, hexName, if_pos hvalid, hexName, if_pos h, List.map_map]
  congr 1
  exact List.map_congr_left fun c _ => lowerHexChar_idem c

end Hex

/-- `D1L_CONTACT_VERIFICATION_*` -/
def verificationNone : Nat := 0
def verificationSignedAdvert : Nat := 1
def verificationUriImport : Nat := 2
def verificationMigratedSignedAdvert : Nat := 3

def chatType : List UInt8 := [99, 104, 97, 116]
def repeaterType : List UInt8 := [114, 101, 112, 101, 97, 116, 101, 114]
def roomType : List UInt8 := [114, 111, 111, 109]
def sensorType : List UInt8 := [115, 101, 110, 115, 111, 114]
def unknownType : List UInt8 := [117, 110, 107, 110, 111, 119, 110]

/-- `d1l_contact_entry_t` -/
structure ContactEntry where
  seq : Nat
  createdMs : Nat
  updatedMs : Nat
  outPathUpdatedMs : Nat
  fingerprint : CharArray 17
  publicKeyHex : CharArray 65
  contactAlias : CharArray 32
  heardName : CharArray 24
  type : CharArray 9
  lastRssiDbm : Int
  lastSnrTenths : Int
  pathHashBytes : Nat
  pathHops : Nat
  outPathValid : Bool
  outPathLen : UInt8
  outPath : Bytes 64
  favorite : Bool
  muted : Bool
  verificationSource : Nat
  verifiedAtMs : Nat
  signedAdvertTimestamp : Nat
  lastHeardMs : Nat
  outPathState : PathState
  deriving DecidableEq

/-- `memset(entry, 0, sizeof(*entry))` -/
def zeroEntry : ContactEntry where
  seq := 0
  createdMs := 0
  updatedMs := 0
  outPathUpdatedMs := 0
  fingerprint := .empty
  publicKeyHex := .empty
  contactAlias := .empty
  heardName := .empty
  type := .empty
  lastRssiDbm := 0
  lastSnrTenths := 0
  pathHashBytes := 0
  pathHops := 0
  outPathValid := false
  outPathLen := 0
  outPath := .zero
  favorite := false
  muted := false
  verificationSource := verificationNone
  verifiedAtMs := 0
  signedAdvertTimestamp := 0
  lastHeardMs := 0
  outPathState := .empty

def ContactEntry.fp (e : ContactEntry) : Option (List UInt8) :=
  hexName e.fingerprint.bytes fingerprintChars

/-- The full public key of a contact, up to case; a placeholder has none. -/
def ContactEntry.key (e : ContactEntry) : Option (List UInt8) :=
  hexName e.publicKeyHex.bytes publicKeyChars

/-- Whether the two are one contact, and whether their keys contradict their fingerprints. -/
def contactEntriesSameIdentity (left right : ContactEntry) : Bool × Bool :=
  let leftKeyValid := fixedHexStringValid left.publicKeyHex.bytes publicKeyChars
  let rightKeyValid := fixedHexStringValid right.publicKeyHex.bytes publicKeyChars
  if leftKeyValid && rightKeyValid &&
      fixedHexStringsEqual left.publicKeyHex.bytes right.publicKeyHex.bytes publicKeyChars then
    (true, false)
  else
    let sameFingerprint := fixedHexStringValid left.fingerprint.bytes fingerprintChars &&
      fixedHexStringValid right.fingerprint.bytes fingerprintChars &&
      fixedHexStringsEqual left.fingerprint.bytes right.fingerprint.bytes fingerprintChars
    if sameFingerprint && leftKeyValid && rightKeyValid then (false, true)
    else (sameFingerprint, false)

def SameKey (a b : ContactEntry) : Prop := a.key.isSome = true ∧ a.key = b.key

def SameFp (a b : ContactEntry) : Prop := a.fp.isSome = true ∧ a.fp = b.fp

theorem SameKey.symm {a b : ContactEntry} (h : SameKey a b) : SameKey b a :=
  ⟨h.2 ▸ h.1, h.2.symm⟩

theorem SameFp.symm {a b : ContactEntry} (h : SameFp a b) : SameFp b a :=
  ⟨h.2 ▸ h.1, h.2.symm⟩

theorem bothValid_iff {left right : List UInt8} {hexChars : Nat} :
    (fixedHexStringValid left hexChars && fixedHexStringValid right hexChars &&
      fixedHexStringsEqual left right hexChars) = true ↔
      (hexName left hexChars).isSome = true ∧ hexName left hexChars = hexName right hexChars := by
  rw [Bool.and_eq_true, Bool.and_eq_true, hexName_isSome]
  refine ⟨fun h => ⟨h.1.1, (fixedHexStringsEqual_iff h.1.1 h.1.2).mp h.2⟩, fun h => ?_⟩
  have hright : fixedHexStringValid right hexChars = true := by
    rw [← hexName_isSome, ← h.2, hexName_isSome]
    exact h.1
  exact ⟨⟨h.1, hright⟩, (fixedHexStringsEqual_iff h.1 hright).mpr h.2⟩

theorem contactEntriesSameIdentity_cases (a b : ContactEntry) :
    (contactEntriesSameIdentity a b = (true, false) ∧
      (SameKey a b ∨ (SameFp a b ∧ ¬(a.key.isSome = true ∧ b.key.isSome = true)))) ∨
    (contactEntriesSameIdentity a b = (false, true) ∧ ¬SameKey a b ∧ SameFp a b ∧
      a.key.isSome = true ∧ b.key.isSome = true) ∨
    (contactEntriesSameIdentity a b = (false, false) ∧ ¬SameKey a b ∧ ¬SameFp a b) := by
  have hkey : (fixedHexStringValid a.publicKeyHex.bytes publicKeyChars &&
      fixedHexStringValid b.publicKeyHex.bytes publicKeyChars &&
      fixedHexStringsEqual a.publicKeyHex.bytes b.publicKeyHex.bytes publicKeyChars) = true ↔
      SameKey a b := bothValid_iff
  have hfp : (fixedHexStringValid a.fingerprint.bytes fingerprintChars &&
      fixedHexStringValid b.fingerprint.bytes fingerprintChars &&
      fixedHexStringsEqual a.fingerprint.bytes b.fingerprint.bytes fingerprintChars) = true ↔
      SameFp a b := bothValid_iff
  have ha : a.key.isSome = fixedHexStringValid a.publicKeyHex.bytes publicKeyChars := hexName_isSome
  have hb : b.key.isSome = fixedHexStringValid b.publicKeyHex.bytes publicKeyChars := hexName_isSome
  unfold contactEntriesSameIdentity
  dsimp only
  by_cases hk : SameKey a b
  · rw [if_pos (hkey.mpr hk)]
    exact .inl ⟨rfl, .inl hk⟩
  · rw [if_neg fun h => hk (hkey.mp h), ha, hb]
    by_cases hf : SameFp a b
    · rw [hfp.mpr hf, Bool.true_and]
      by_cases hboth : fixedHexStringValid a.publicKeyHex.bytes publicKeyChars = true ∧
          fixedHexStringValid b.publicKeyHex.bytes publicKeyChars = true
      · rw [if_pos (Bool.and_eq_true_iff.mpr hboth)]
        exact .inr (.inl ⟨rfl, hk, hf, hboth⟩)
      · rw [if_neg fun h => hboth (Bool.and_eq_true_iff.mp h)]
        exact .inl ⟨rfl, .inr ⟨hf, hboth⟩⟩
    · rw [Bool.eq_false_iff.mpr fun h => hf (hfp.mp h)]
      exact .inr (.inr ⟨rfl, hk, hf⟩)

def Identified (a b : ContactEntry) : Prop := SameKey a b ∨ SameFp a b

theorem Identified.symm {a b : ContactEntry} (h : Identified a b) : Identified b a :=
  h.imp SameKey.symm SameFp.symm

def Distinct (entries : List ContactEntry) : Prop :=
  entries.Pairwise fun a b => ¬Identified a b

def meshcoreTypeId (type : List UInt8) : Nat :=
  if type = chatType then 1
  else if type = repeaterType then 2
  else if type = roomType then 3
  else if type = sensorType then 4
  else 0

def hasExportKey (e : ContactEntry) : Bool :=
  fixedHexStringValid e.publicKeyHex.bytes publicKeyChars

def sourceIsAuthoritative (source : Nat) : Bool :=
  decide (source = verificationSignedAdvert) || decide (source = verificationUriImport) ||
    decide (source = verificationMigratedSignedAdvert)

def fingerprintOfKey (e : ContactEntry) : Bool :=
  fixedHexStringValid e.fingerprint.bytes fingerprintChars &&
    fixedHexStringsEqual e.fingerprint.bytes e.publicKeyHex.bytes fingerprintChars

def isCanonical (e : ContactEntry) : Bool :=
  sourceIsAuthoritative e.verificationSource && hasExportKey e && fingerprintOfKey e &&
    decide (meshcoreTypeId e.type.bytes ≠ 0)

/-- Every byte from `offset` on is zero. -/
def pathBytesAreZero (path : Bytes 64) (offset : Nat) : Bool :=
  decide (offset ≤ 64) && (path.bytes.drop offset).all (· == 0)

def pathIsGone (e : ContactEntry) : Bool :=
  !e.outPathValid && decide (e.outPathLen = 0) && pathBytesAreZero e.outPath 0

def pathStateIsLabelled (state : PathState) : Bool :=
  decide (state.generation ≠ 0) && decide (state.flags &&& pathFlagsUnused = 0) &&
    pathSourceValid state.source

def retainedPathRecordIsValid (e : ContactEntry) : Bool :=
  let state := e.outPathState
  if state.lifecycle = pathStateNone then pathIsGone e && decide (state = PathState.empty)
  else if state.lifecycle = pathStateValid then
    e.outPathValid && pathStateIsLabelled state &&
      decide (state.consecutiveFailures < directPathFailureThreshold) &&
      wirePathLenValid e.outPathLen &&
      pathBytesAreZero e.outPath (wirePathByteLen e.outPathLen)
  else if state.lifecycle = pathStateExpired then pathIsGone e && pathStateIsLabelled state
  else if state.lifecycle = pathStateFailed then
    pathIsGone e && pathStateIsLabelled state &&
      decide (directPathFailureThreshold ≤ state.consecutiveFailures)
  else false

end Sigui.Contact

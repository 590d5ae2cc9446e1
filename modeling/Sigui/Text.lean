import Mathlib.Algebra.Group.Nat.Defs
import Mathlib.Data.List.Basic
import Mathlib.Data.List.TakeWhile
import Mathlib.Tactic.SplitIfs

/-! Error codes, fixed-width limits, character arrays and the user-text validator. -/
namespace Sigui

abbrev EspErr := Int

def espOk : EspErr := 0
def espFail : EspErr := -1
def espErrNoMem : EspErr := 0x101
def espErrInvalidArg : EspErr := 0x102
def espErrInvalidState : EspErr := 0x103
def espErrInvalidSize : EspErr := 0x104
def espErrNotFound : EspErr := 0x105
def espErrNotSupported : EspErr := 0x106
def espErrTimeout : EspErr := 0x107
def espErrNotFinished : EspErr := 0x10C

def uint8Max : Nat := 0xFF
def uint32Max : Nat := 0xFFFFFFFF

/-- `value + 1` on a `uint32_t` that the source guards against its maximum. -/
def saturatingSucc (value : Nat) : Nat :=
  if value < uint32Max then value + 1 else value

theorem le_saturatingSucc (value : Nat) : value ≤ saturatingSucc value := by
  unfold saturatingSucc
  split_ifs <;> omega

/-- `n + 1` on an unguarded `uint32_t`. -/
def u32Succ (n : Nat) : Nat := (n + 1) % (uint32Max + 1)

def u32Add (n m : Nat) : Nat := (n + m) % (uint32Max + 1)

theorem u32Succ_of_lt {n : Nat} (h : n < uint32Max) : u32Succ n = n + 1 :=
  Nat.mod_eq_of_lt (Nat.succ_lt_succ h)

theorem u32Succ_max : u32Succ uint32Max = 0 := Nat.mod_self _

structure CStr where
  bytes : List UInt8
  no_nul : 0 ∉ bytes
  deriving DecidableEq

/-- A string literal. -/
def CStr.lit (bytes : List UInt8)
    (h : bytes.contains 0 = false := by exact Eq.refl false) : CStr :=
  ⟨bytes, by simpa using h⟩

/-- A `char[n]` read up to its first NUL. When all `n` bytes are used there is no terminator. -/
structure CharArray (n : Nat) where
  bytes : List UInt8
  length_le : bytes.length ≤ n
  no_nul : 0 ∉ bytes
  deriving DecidableEq

namespace CharArray

variable {n : Nat}

def empty : CharArray n := ⟨[], Nat.zero_le n, by simp⟩

/-- An array that a literal initializes. -/
def lit (bytes : List UInt8)
    (h : (bytes.length.ble n && !bytes.contains 0) = true := by exact Eq.refl true) :
    CharArray n :=
  have hfits : bytes.length ≤ n ∧ 0 ∉ bytes := by simpa using h
  ⟨bytes, hfits.1, hfits.2⟩

theorem length_le_of_le {m : Nat} (a : CharArray n) (h : n ≤ m) : a.bytes.length ≤ m :=
  a.length_le.trans h

/-- The arrays of the older blobs are shorter. -/
theorem short_le_long : 24 ≤ 32 := by decide

instance : Inhabited (CharArray n) := ⟨empty⟩

theorem ext_bytes {a b : CharArray n} (h : a.bytes = b.bytes) : a = b := by
  cases a
  cases b
  simpa using h

/-- `memchr(text, 0, n) != NULL` -/
def terminated (a : CharArray n) : Bool := decide (a.bytes.length < n)

/-- `strncmp(a, literal, n) == 0` -/
def equalsLiteral (a : CharArray n) (literal : List UInt8) : Bool :=
  a.bytes == literal.take n

end CharArray

/-- The bytes a C string compares with through `strncmp(_, _, n)`. -/
def CStr.prefixOf (s : CStr) (n : Nat) : List UInt8 := s.bytes.take n

def sanitizeByte (c : UInt8) : UInt8 :=
  if c.toNat < 32 ∨ 126 < c.toNat ∨ c.toNat = 34 ∨ c.toNat = 92 then 95 else c

theorem sanitizeByte_ne_zero (c : UInt8) : sanitizeByte c ≠ 0 := by
  unfold sanitizeByte
  split_ifs with h
  · decide
  · intro hc
    subst hc
    exact h (Or.inl (by decide))

theorem sanitizeByte_printable (c : UInt8) :
    32 ≤ (sanitizeByte c).toNat ∧ (sanitizeByte c).toNat ≤ 126 := by
  unfold sanitizeByte
  split_ifs with h
  · decide
  · omega

/-- Copies at most `dest_size - 1` bytes and replaces what is not printable ASCII. -/
def sanitizeAscii (destSize : Nat) (src : CStr) : CharArray destSize where
  bytes := (src.bytes.take (destSize - 1)).map sanitizeByte
  length_le := by
    simp only [List.length_map, List.length_take]
    omega
  no_nul := by
    simp only [List.mem_map, not_exists, not_and]
    exact fun c _ => sanitizeByte_ne_zero c

def persistedAsciiIsValid {capacity : Nat} (text : CharArray capacity) (allowEmpty : Bool) :
    Bool :=
  text.terminated && (allowEmpty || !text.bytes.isEmpty) &&
    text.bytes.all fun c => decide (32 ≤ c.toNat ∧ c.toNat ≤ 126)

theorem persistedAsciiIsValid_sanitizeAscii {destSize : Nat} {src : CStr} (hd : 2 ≤ destSize)
    (hs : src.bytes ≠ []) : persistedAsciiIsValid (sanitizeAscii destSize src) false = true := by
  have hlen : ((src.bytes.take (destSize - 1)).map sanitizeByte).length < destSize := by
    simp only [List.length_map, List.length_take]
    omega
  have hne : (src.bytes.take (destSize - 1)).map sanitizeByte ≠ [] := by
    simp only [ne_eq, List.map_eq_nil_iff, List.take_eq_nil_iff, hs, or_false]
    omega
  simp only [persistedAsciiIsValid, CharArray.terminated, sanitizeAscii, hlen, decide_true,
    Bool.true_and, Bool.false_or, Bool.and_eq_true, Bool.not_eq_true', List.isEmpty_eq_false_iff]
  refine ⟨hne, ?_⟩
  rw [List.all_map, List.all_eq_true]
  exact fun c _ => decide_eq_true (sanitizeByte_printable c)

inductive UserTextResult
  | ok
  | empty
  | tooLong
  | notTerminated
  | invalidUtf8
  | controlCharacter
  deriving DecidableEq

structure UserTextInfo where
  result : UserTextResult
  byteCount : Nat
  characterCount : Nat
  deriving DecidableEq

def userTextMaxBytes : Nat := 138

def continuation (byte : UInt8) : Bool := decide (0x80 ≤ byte.toNat ∧ byte.toNat ≤ 0xBF)

def forbiddenControl (scalar : Nat) : Bool :=
  decide (scalar < 0x20 ∨ (0x7F ≤ scalar ∧ scalar ≤ 0x9F))

/-- The decoding loop of `d1l_user_text_validate_span`; `byteCount` is reported unchanged. -/
def userTextScan (byteCount : Nat) : List UInt8 → Nat → UserTextInfo
  | [], characters => ⟨.ok, byteCount, characters⟩
  | first :: rest, characters =>
    let b0 := first.toNat
    if b0 ≤ 0x7F then
      if forbiddenControl b0 then ⟨.controlCharacter, byteCount, characters⟩
      else userTextScan byteCount rest (characters + 1)
    else if 0xC2 ≤ b0 ∧ b0 ≤ 0xDF then
      match rest with
      | c1 :: rest =>
        if !continuation c1 then ⟨.invalidUtf8, byteCount, characters⟩
        else if forbiddenControl (b0 % 0x20 * 0x40 + c1.toNat % 0x40) then
          ⟨.controlCharacter, byteCount, characters⟩
        else userTextScan byteCount rest (characters + 1)
      | [] => ⟨.invalidUtf8, byteCount, characters⟩
    else if 0xE0 ≤ b0 ∧ b0 ≤ 0xEF then
      match rest with
      | c1 :: c2 :: rest =>
        if !continuation c1 || !continuation c2 ||
            (b0 == 0xE0 && decide (c1.toNat < 0xA0)) ||
            (b0 == 0xED && decide (0x9F < c1.toNat)) then
          ⟨.invalidUtf8, byteCount, characters⟩
        else if forbiddenControl
            (b0 % 0x10 * 0x1000 + c1.toNat % 0x40 * 0x40 + c2.toNat % 0x40) then
          ⟨.controlCharacter, byteCount, characters⟩
        else userTextScan byteCount rest (characters + 1)
      | _ => ⟨.invalidUtf8, byteCount, characters⟩
    else if 0xF0 ≤ b0 ∧ b0 ≤ 0xF4 then
      match rest with
      | c1 :: c2 :: c3 :: rest =>
        if !continuation c1 || !continuation c2 || !continuation c3 ||
            (b0 == 0xF0 && decide (c1.toNat < 0x90)) ||
            (b0 == 0xF4 && decide (0x8F < c1.toNat)) then
          ⟨.invalidUtf8, byteCount, characters⟩
        else if forbiddenControl
            (b0 % 0x08 * 0x40000 + c1.toNat % 0x40 * 0x1000 + c2.toNat % 0x40 * 0x40 +
              c3.toNat % 0x40) then
          ⟨.controlCharacter, byteCount, characters⟩
        else userTextScan byteCount rest (characters + 1)
      | _ => ⟨.invalidUtf8, byteCount, characters⟩
    else ⟨.invalidUtf8, byteCount, characters⟩

def userTextValidateSpan (text : List UInt8) (allowEmpty : Bool) : UserTextInfo :=
  if text.length = 0 then ⟨if allowEmpty then .ok else .empty, 0, 0⟩
  else if userTextMaxBytes < text.length then ⟨.tooLong, text.length, 0⟩
  else userTextScan text.length text 0

def userTextValidate : Option CStr → UserTextInfo
  | none => ⟨.empty, 0, 0⟩
  | some text =>
    if userTextMaxBytes < text.bytes.length then ⟨.tooLong, userTextMaxBytes + 1, 0⟩
    else userTextValidateSpan text.bytes false

def userTextValidateBounded {capacity : Nat} (text : CharArray capacity) (allowEmpty : Bool) :
    UserTextInfo :=
  if capacity = 0 then ⟨.notTerminated, 0, 0⟩
  else if !text.terminated then ⟨.notTerminated, capacity, 0⟩
  else userTextValidateSpan text.bytes allowEmpty

theorem userTextScan_printable {byteCount : Nat} {text : List UInt8}
    (h : ∀ c ∈ text, 32 ≤ c.toNat ∧ c.toNat ≤ 126) (characters : Nat) :
    (userTextScan byteCount text characters).result = .ok := by
  induction text generalizing characters with
  | nil => rfl
  | cons c text ih =>
    obtain ⟨hc, hrest⟩ := List.forall_mem_cons.mp h
    have hcontrol : forbiddenControl c.toNat = false := decide_eq_false (by omega)
    unfold userTextScan
    dsimp only
    rw [if_pos (by omega), hcontrol, if_neg Bool.false_ne_true]
    exact ih hrest (characters + 1)

theorem userTextValidateBounded_printable {capacity : Nat} {text : CharArray capacity}
    (hterminated : text.terminated = true) (hne : text.bytes ≠ [])
    (hlen : text.bytes.length ≤ userTextMaxBytes)
    (hprint : ∀ c ∈ text.bytes, 32 ≤ c.toNat ∧ c.toNat ≤ 126) :
    (userTextValidateBounded text false).result = .ok := by
  have hpos : text.bytes.length ≠ 0 := fun h => hne (List.length_eq_zero_iff.mp h)
  have hcap : capacity ≠ 0 := by
    have hle := of_decide_eq_true hterminated
    omega
  rw [userTextValidateBounded, if_neg hcap, hterminated, Bool.not_true, if_neg Bool.false_ne_true,
    userTextValidateSpan, if_neg hpos, if_neg (by omega)]
  exact userTextScan_printable hprint 0

theorem userTextValidate_ok_length {text : CStr}
    (h : (userTextValidate (some text)).result = .ok) : text.bytes.length ≤ userTextMaxBytes := by
  by_contra hlong
  rw [userTextValidate, if_pos (by omega)] at h
  exact UserTextResult.noConfusion h

theorem userTextValidateBounded_of_validate {text : CStr}
    (h : (userTextValidate (some text)).result = .ok) {capacity : Nat} (row : CharArray capacity)
    (hcap : userTextMaxBytes < capacity) (hrow : row.bytes = text.bytes) :
    (userTextValidateBounded row false).result = .ok := by
  have hlen := userTextValidate_ok_length h
  have hterm : row.terminated = true := by
    simp only [CharArray.terminated, hrow, decide_eq_true_eq]
    omega
  rw [userTextValidateBounded, if_neg (by omega), hterm, hrow]
  simpa only [userTextValidate, if_neg (Nat.not_lt.mpr hlen), Bool.not_true,
    Bool.false_eq_true, if_false] using h

end Sigui

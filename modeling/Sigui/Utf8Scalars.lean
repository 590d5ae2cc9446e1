import Mathlib.Data.List.Basic

/-! The bytes of a Unicode scalar value in UTF-8, by the ranges of the lead byte and of the bytes
that continue it. -/
namespace Sigui.Utf8

def Continues (byte : UInt8) : Prop := 0x80 ≤ byte.toNat ∧ byte.toNat ≤ 0xBF

def scalarTwo (b0 c1 : UInt8) : Nat := b0.toNat % 0x20 * 0x40 + c1.toNat % 0x40

def scalarThree (b0 c1 c2 : UInt8) : Nat :=
  b0.toNat % 0x10 * 0x1000 + c1.toNat % 0x40 * 0x40 + c2.toNat % 0x40

def scalarFour (b0 c1 c2 c3 : UInt8) : Nat :=
  b0.toNat % 0x08 * 0x40000 + c1.toNat % 0x40 * 0x1000 + c2.toNat % 0x40 * 0x40 + c3.toNat % 0x40

inductive Encodes : List UInt8 → Nat → Prop
  | one {b0 : UInt8} (h : b0.toNat ≤ 0x7F) : Encodes [b0] b0.toNat
  | two {b0 c1 : UInt8} (h : 0xC2 ≤ b0.toNat ∧ b0.toNat ≤ 0xDF) (h1 : Continues c1) :
    Encodes [b0, c1] (scalarTwo b0 c1)
  | three {b0 c1 c2 : UInt8} (h : 0xE0 ≤ b0.toNat ∧ b0.toNat ≤ 0xEF) (h1 : Continues c1)
    (h2 : Continues c2) (hmin : 0x800 ≤ scalarThree b0 c1 c2)
    (hsurrogate : ¬(0xD800 ≤ scalarThree b0 c1 c2 ∧ scalarThree b0 c1 c2 ≤ 0xDFFF)) :
    Encodes [b0, c1, c2] (scalarThree b0 c1 c2)
  | four {b0 c1 c2 c3 : UInt8} (h : 0xF0 ≤ b0.toNat ∧ b0.toNat ≤ 0xF4) (h1 : Continues c1)
    (h2 : Continues c2) (h3 : Continues c3) (hmin : 0x10000 ≤ scalarFour b0 c1 c2 c3)
    (hmax : scalarFour b0 c1 c2 c3 ≤ 0x10FFFF) :
    Encodes [b0, c1, c2, c3] (scalarFour b0 c1 c2 c3)

theorem exists_char {v : Nat} (hmax : v ≤ 0x10FFFF) (hsurrogate : ¬(0xD800 ≤ v ∧ v ≤ 0xDFFF)) :
    ∃ c : Char, c.val.toNat = v := by
  have hvalid : v.isValidChar := by
    simp only [Nat.isValidChar]
    omega
  refine ⟨Char.ofNatAux v hvalid, ?_⟩
  rfl

theorem char_range (c : Char) : c.val.toNat ≤ 0x10FFFF ∧
    ¬(0xD800 ≤ c.val.toNat ∧ c.val.toNat ≤ 0xDFFF) := by
  have hvalid := c.valid
  simp only [UInt32.isValidChar, Nat.isValidChar] at hvalid
  omega

theorem toNat_ofNat_byte {n : Nat} (h : n < 256) : (UInt8.ofNat n).toNat = n := by
  rw [UInt8.toNat_ofNat', Nat.mod_eq_of_lt h]

theorem encodes_char (c : Char) : Encodes (String.utf8EncodeChar c) c.val.toNat := by
  obtain ⟨hmax, hsurrogate⟩ := char_range c
  unfold String.utf8EncodeChar
  dsimp only
  generalize c.val.toNat = v at hmax hsurrogate
  by_cases hone : v ≤ 0x7F
  · rw [if_pos hone]
    have h0 : (UInt8.ofNat v).toNat = v := toNat_ofNat_byte (by omega)
    have hform := Encodes.one (h0.symm ▸ hone : (UInt8.ofNat v).toNat ≤ 0x7F)
    rwa [h0] at hform
  rw [if_neg hone]
  have hlow : ∀ n, (UInt8.ofNat (n % 0x40 + 0x80)).toNat = n % 0x40 + 0x80 := fun n =>
    toNat_ofNat_byte (by omega)
  have hcontinues : ∀ n, Continues (UInt8.ofNat (n % 0x40 + 0x80)) := by
    intro n
    unfold Continues
    rw [hlow]
    omega
  by_cases htwo : v ≤ 0x7FF
  · rw [if_pos htwo]
    have h0 : (UInt8.ofNat (v / 64 % 0x20 + 0xC0)).toNat = v / 64 % 0x20 + 0xC0 :=
      toNat_ofNat_byte (by omega)
    have hlead : 0xC2 ≤ (UInt8.ofNat (v / 64 % 0x20 + 0xC0)).toNat ∧
        (UInt8.ofNat (v / 64 % 0x20 + 0xC0)).toNat ≤ 0xDF := by
      rw [h0]
      omega
    have hform := Encodes.two hlead (hcontinues v)
    have hv : scalarTwo (UInt8.ofNat (v / 64 % 0x20 + 0xC0)) (UInt8.ofNat (v % 0x40 + 0x80)) =
        v := by
      rw [scalarTwo, h0, hlow]
      omega
    rwa [hv] at hform
  rw [if_neg htwo]
  by_cases hthree : v ≤ 0xFFFF
  · rw [if_pos hthree]
    have h0 : (UInt8.ofNat (v / 4096 % 0x10 + 0xE0)).toNat = v / 4096 % 0x10 + 0xE0 :=
      toNat_ofNat_byte (by omega)
    have hv : scalarThree (UInt8.ofNat (v / 4096 % 0x10 + 0xE0))
        (UInt8.ofNat (v / 64 % 0x40 + 0x80)) (UInt8.ofNat (v % 0x40 + 0x80)) = v := by
      rw [scalarThree, h0, hlow, hlow]
      omega
    have hlead : 0xE0 ≤ (UInt8.ofNat (v / 4096 % 0x10 + 0xE0)).toNat ∧
        (UInt8.ofNat (v / 4096 % 0x10 + 0xE0)).toNat ≤ 0xEF := by
      rw [h0]
      omega
    have hform := Encodes.three hlead (hcontinues (v / 64)) (hcontinues v) (by rw [hv]; omega)
      (by rw [hv]; exact hsurrogate)
    rwa [hv] at hform
  rw [if_neg hthree]
  have h0 : (UInt8.ofNat (v / 262144 % 0x08 + 0xF0)).toNat = v / 262144 % 0x08 + 0xF0 :=
    toNat_ofNat_byte (by omega)
  have hv : scalarFour (UInt8.ofNat (v / 262144 % 0x08 + 0xF0))
      (UInt8.ofNat (v / 4096 % 0x40 + 0x80)) (UInt8.ofNat (v / 64 % 0x40 + 0x80))
      (UInt8.ofNat (v % 0x40 + 0x80)) = v := by
    rw [scalarFour, h0, hlow, hlow, hlow]
    omega
  have hlead : 0xF0 ≤ (UInt8.ofNat (v / 262144 % 0x08 + 0xF0)).toNat ∧
      (UInt8.ofNat (v / 262144 % 0x08 + 0xF0)).toNat ≤ 0xF4 := by
    rw [h0]
    omega
  have hform := Encodes.four hlead (hcontinues (v / 4096)) (hcontinues (v / 64)) (hcontinues v)
    (by rw [hv]; omega) (by rw [hv]; exact hmax)
  rwa [hv] at hform

theorem byte_eq {n : Nat} {b : UInt8} (h : n = b.toNat) : UInt8.ofNat n = b := by
  rw [h, UInt8.ofNat_toNat]

theorem Encodes.char {bytes : List UInt8} {v : Nat} (h : Encodes bytes v) :
    ∃ c : Char, c.val.toNat = v ∧ String.utf8EncodeChar c = bytes := by
  cases h with
  | @one b0 h =>
    obtain ⟨c, hc⟩ := exists_char (show b0.toNat ≤ 0x10FFFF by omega) (by omega)
    refine ⟨c, hc, ?_⟩
    unfold String.utf8EncodeChar
    dsimp only
    rw [hc, if_pos h, UInt8.ofNat_toNat]
  | @two b0 c1 h h1 =>
    unfold Continues at h1
    have hv : scalarTwo b0 c1 = b0.toNat % 0x20 * 0x40 + c1.toNat % 0x40 := rfl
    obtain ⟨c, hc⟩ := exists_char (show scalarTwo b0 c1 ≤ 0x10FFFF by omega) (by omega)
    refine ⟨c, hc, ?_⟩
    unfold String.utf8EncodeChar
    dsimp only
    rw [hc, if_neg (by omega), if_pos (by omega), byte_eq (b := b0) (by omega),
      byte_eq (b := c1) (by omega)]
  | @three b0 c1 c2 h h1 h2 hmin hsurrogate =>
    unfold Continues at h1 h2
    have hv : scalarThree b0 c1 c2 =
        b0.toNat % 0x10 * 0x1000 + c1.toNat % 0x40 * 0x40 + c2.toNat % 0x40 := rfl
    obtain ⟨c, hc⟩ := exists_char (show scalarThree b0 c1 c2 ≤ 0x10FFFF by omega) hsurrogate
    refine ⟨c, hc, ?_⟩
    unfold String.utf8EncodeChar
    dsimp only
    rw [hc, if_neg (by omega), if_neg (by omega), if_pos (by omega),
      byte_eq (b := b0) (by omega), byte_eq (b := c1) (by omega), byte_eq (b := c2) (by omega)]
  | @four b0 c1 c2 c3 h h1 h2 h3 hmin hmax =>
    unfold Continues at h1 h2 h3
    have hv : scalarFour b0 c1 c2 c3 = b0.toNat % 0x08 * 0x40000 + c1.toNat % 0x40 * 0x1000 +
        c2.toNat % 0x40 * 0x40 + c3.toNat % 0x40 := rfl
    obtain ⟨c, hc⟩ := exists_char hmax (by omega)
    refine ⟨c, hc, ?_⟩
    unfold String.utf8EncodeChar
    dsimp only
    rw [hc, if_neg (by omega), if_neg (by omega), if_neg (by omega),
      byte_eq (b := b0) (by omega), byte_eq (b := c1) (by omega), byte_eq (b := c2) (by omega),
      byte_eq (b := c3) (by omega)]

end Sigui.Utf8

import Sigui.Text
import Mathlib.Data.List.TakeDrop

/-! AES-128 in ECB mode under a truncated HMAC, and the hash that tells packets apart. The ciphers
and digests come from a library that is passed in. -/
namespace Sigui.MeshCrypto

def secretSize : Nat := 32
def macSize : Nat := 2
def blockSize : Nat := 16

/-- The library: one block under a key of 16 bytes, HMAC-SHA256 and SHA-256. -/
structure Crypto where
  aesEncrypt : List UInt8 → List UInt8 → List UInt8
  aesDecrypt : List UInt8 → List UInt8 → List UInt8
  hmacSha256 : List UInt8 → List UInt8 → List UInt8
  sha256 : List UInt8 → List UInt8

structure Crypto.Lawful (c : Crypto) : Prop where
  decrypt_encrypt : ∀ key block, key.length = blockSize → block.length = blockSize →
    c.aesDecrypt key (c.aesEncrypt key block) = block
  length_encrypt : ∀ key block, key.length = blockSize → block.length = blockSize →
    (c.aesEncrypt key block).length = blockSize
  length_hmac : ∀ key message, (c.hmacSha256 key message).length = 32
  length_sha : ∀ message, (c.sha256 message).length = 32

section Blocks

/-- `memset` of a block, and `memcpy` of what is left of the source. -/
def fillBlock (source : List UInt8) : List UInt8 :=
  source.take blockSize ++ List.replicate (blockSize - source.length) 0

variable (c : Crypto) (key : List UInt8)

/-- The loop of `encrypt_then_mac` over its blocks. -/
def encryptBlocks : Nat → List UInt8 → List UInt8
  | 0, _ => []
  | n + 1, source => c.aesEncrypt key (fillBlock source) ++ encryptBlocks n (source.drop blockSize)

/-- The loop of `decrypt_after_mac`. -/
def decryptBlocks : Nat → List UInt8 → List UInt8
  | 0, _ => []
  | n + 1, source =>
    c.aesDecrypt key (source.take blockSize) ++ decryptBlocks n (source.drop blockSize)

def zeroPadded (n : Nat) (source : List UInt8) : List UInt8 :=
  source ++ List.replicate (n * blockSize - source.length) 0

variable {c key}

theorem length_fillBlock (source : List UInt8) : (fillBlock source).length = blockSize := by
  simp only [fillBlock, List.length_append, List.length_take, List.length_replicate]
  omega

theorem length_encryptBlocks (hc : c.Lawful) (hkey : key.length = blockSize) (n : Nat)
    (source : List UInt8) : (encryptBlocks c key n source).length = n * blockSize := by
  induction n generalizing source with
  | zero => rw [encryptBlocks, List.length_nil, Nat.zero_mul]
  | succ n ih =>
    rw [encryptBlocks, List.length_append, ih,
      hc.length_encrypt key _ hkey (length_fillBlock source), Nat.succ_mul, Nat.add_comm]

theorem decryptBlocks_encryptBlocks (hc : c.Lawful) (hkey : key.length = blockSize) (n : Nat)
    {source : List UInt8} (hle : source.length ≤ n * blockSize) :
    decryptBlocks c key n (encryptBlocks c key n source) = zeroPadded n source := by
  induction n generalizing source with
  | zero =>
    have hnil : source = [] := List.length_eq_zero_iff.mp (by omega)
    rw [decryptBlocks, hnil, zeroPadded, Nat.zero_mul]
    rfl
  | succ n ih =>
    have hblock := hc.length_encrypt key _ hkey (length_fillBlock source)
    have hrest : (source.drop blockSize).length ≤ n * blockSize := by
      rw [List.length_drop, Nat.sub_le_iff_le_add, ← Nat.succ_mul]
      exact hle
    rw [encryptBlocks, decryptBlocks, ← hblock, List.take_left, List.drop_left, hblock,
      hc.decrypt_encrypt key _ hkey (length_fillBlock source), ih hrest]
    unfold fillBlock zeroPadded
    by_cases hlong : blockSize ≤ source.length
    · have hcount : n * blockSize - (source.drop blockSize).length =
          (n + 1) * blockSize - source.length := by
        rw [List.length_drop, Nat.succ_mul]
        omega
      rw [hcount, Nat.sub_eq_zero_of_le hlong, List.replicate_zero, List.append_nil,
        ← List.append_assoc, List.take_append_drop]
    · have hshort : source.length ≤ blockSize := by omega
      have hcount : blockSize - source.length + n * blockSize =
          (n + 1) * blockSize - source.length := by
        rw [Nat.succ_mul]
        omega
      rw [List.take_of_length_le hshort, List.drop_of_length_le hshort, List.nil_append,
        List.length_nil, Nat.sub_zero, List.append_assoc, List.replicate_append_replicate, hcount]

end Blocks

section Sealed

variable (c : Crypto)

def aesKey (secret : List UInt8) : List UInt8 := secret.take blockSize

/-- The blocks a source of `n` bytes takes. -/
def blockCount (n : Nat) : Nat := (n + blockSize - 1) / blockSize

/-- `d1l_meshcore_crypto_encrypt_then_mac`: the bytes it writes to a destination of `destSize`. -/
def encryptThenMac (secret : List UInt8) (destSize : Nat) (source : List UInt8) :
    Except EspErr (List UInt8) :=
  if source.length = 0 then .error espErrInvalidArg
  else if destSize < macSize + blockCount source.length * blockSize then .error espErrInvalidSize
  else
    let ciphertext := encryptBlocks c (aesKey secret) (blockCount source.length) source
    .ok ((c.hmacSha256 secret ciphertext).take macSize ++ ciphertext)

/-- `d1l_meshcore_crypto_decrypt_after_mac`; the empty list stands for a length of zero. -/
def decryptAfterMac (secret : List UInt8) (destSize : Nat) (source : List UInt8) : List UInt8 :=
  if source.length ≤ macSize then []
  else
    let ciphertext := source.drop macSize
    if ciphertext.length % blockSize ≠ 0 ∨ destSize < ciphertext.length then []
    else if (c.hmacSha256 secret ciphertext).take macSize ≠ source.take macSize then []
    else decryptBlocks c (aesKey secret) (ciphertext.length / blockSize) ciphertext

variable {c} {secret source : List UInt8}

theorem blockCount_bounds (n : Nat) :
    n ≤ blockCount n * blockSize ∧ blockCount n * blockSize < n + blockSize := by
  unfold blockCount blockSize
  omega

theorem length_aesKey (h : secret.length = secretSize) : (aesKey secret).length = blockSize := by
  rw [aesKey, List.length_take, h]
  rfl

theorem sealed_opens (hc : c.Lawful) (hsecret : secret.length = secretSize)
    (hpos : 0 < source.length) {destSize : Nat}
    (hfits : macSize + blockCount source.length * blockSize ≤ destSize) :
    ∃ packet, encryptThenMac c secret destSize source = .ok packet ∧
      packet.length = macSize + blockCount source.length * blockSize ∧
      ∀ openSize, blockCount source.length * blockSize ≤ openSize →
        decryptAfterMac c secret openSize packet =
          zeroPadded (blockCount source.length) source := by
  have hkey := length_aesKey hsecret
  obtain ⟨hle, -⟩ := blockCount_bounds source.length
  have hlength := length_encryptBlocks hc hkey (blockCount source.length) source
  generalize hcipher : encryptBlocks c (aesKey secret) (blockCount source.length) source = cipher
    at hlength
  have hmac : ((c.hmacSha256 secret cipher).take macSize).length = macSize := by
    rw [List.length_take, hc.length_hmac]
    rfl
  refine ⟨(c.hmacSha256 secret cipher).take macSize ++ cipher, ?_, ?_, ?_⟩
  · unfold encryptThenMac
    rw [if_neg hpos.ne', if_neg (Nat.not_lt.mpr hfits), hcipher]
  · rw [List.length_append, hmac, hlength]
  · intro openSize hopen
    have hdrop : ((c.hmacSha256 secret cipher).take macSize ++ cipher).drop macSize = cipher :=
      List.drop_left' hmac
    have htake : ((c.hmacSha256 secret cipher).take macSize ++ cipher).take macSize =
        (c.hmacSha256 secret cipher).take macSize := List.take_left' hmac
    unfold decryptAfterMac
    rw [if_neg (by rw [List.length_append, hmac, hlength]; omega), hdrop, htake]
    dsimp only
    rw [hlength, if_neg (by
      rintro (hmod | hsmall)
      · exact hmod (Nat.mul_mod_left _ _)
      · exact absurd hopen (Nat.not_le.mpr hsmall)), if_neg (not_not.mpr rfl),
      Nat.mul_div_cancel _ (by decide), ← hcipher, decryptBlocks_encryptBlocks hc hkey _ hle]

end Sealed

end Sigui.MeshCrypto

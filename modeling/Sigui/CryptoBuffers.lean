import Sigui.ByteBuffer
import Sigui.MeshCrypto

/-! Sealing and opening as the firmware does it, block by block into a buffer, with a library whose
calls can fail. -/
namespace Sigui.MeshCrypto

open Bytes

/-- Which calls of the library fail in one run; the blocks are told by their offset. -/
structure Faults where
  setkey : Bool
  crypt : Nat → Bool
  digest : Bool
  hmac : Bool

def Faults.none : Faults := ⟨false, fun _ => false, false, false⟩

/-- `SIZE_MAX` of the target. -/
def sizeMax : Nat := 2 ^ 32 - 1

section Loops

variable (c : Crypto) (faults : Faults) (key source : List UInt8)

/-- The bytes of one block, as the loop of `encrypt_then_mac` puts them together. -/
def blockAt (offset : Nat) : List UInt8 :=
  let remaining := if offset < source.length then source.length - offset else 0
  let copyLength := if blockSize < remaining then blockSize else remaining
  write (List.replicate blockSize 0) 0 ((source.drop offset).take copyLength)

/-- The loop of `encrypt_then_mac` with `n` blocks to go. It says whether it came to its end. -/
def encryptLoop : Nat → Nat → List UInt8 → List UInt8 × Bool
  | 0, _, destination => (destination, true)
  | n + 1, offset, destination =>
    if faults.crypt offset then (destination, false)
    else encryptLoop n (offset + blockSize)
      (write destination (macSize + offset) (c.aesEncrypt key (blockAt source offset)))

/-- The loop of `decrypt_after_mac`. -/
def decryptLoop : Nat → Nat → List UInt8 → List UInt8 × Bool
  | 0, _, destination => (destination, true)
  | n + 1, offset, destination =>
    if faults.crypt offset then (destination, false)
    else decryptLoop n (offset + blockSize)
      (write destination offset
        (c.aesDecrypt key ((source.drop (macSize + offset)).take blockSize)))

end Loops

def cryptoBytesEqual (left right : List UInt8) (size : Nat) : Bool :=
  (List.range size).foldl
    (fun difference index => difference ||| (left.getD index 0 ^^^ right.getD index 0)) 0 == 0

/-- `d1l_meshcore_crypto_encrypt_then_mac`; a pointer is NULL if it is `none`. -/
def cryptoEncryptThenMac (c : Crypto) (faults : Faults)
    (secret destination source : Option (List UInt8)) (outLength : Option Nat) :
    EspErr × Option (List UInt8) × Option Nat :=
  let outLength := outLength.map fun _ => 0
  match secret, destination, source, outLength with
  | some secret, some destination, some source, some _ =>
    let refused (code : EspErr) (destination : List UInt8) :=
      (code, some destination, outLength)
    if source.length = 0 then refused espErrInvalidArg destination
    else if sizeMax - (blockSize - 1) < source.length then refused espErrInvalidSize destination
    else
      let encryptedLength := blockCount source.length * blockSize
      if sizeMax - macSize < encryptedLength ∨ destination.length < macSize + encryptedLength then
        refused espErrInvalidSize destination
      else if faults.setkey then refused espFail destination
      else
        let filled := encryptLoop c faults (aesKey secret) source (blockCount source.length) 0
          destination
        if filled.2 = false then refused espFail filled.1
        else if faults.digest then refused espFail filled.1
        else if faults.hmac then refused espFail filled.1
        else
          let hmac := c.hmacSha256 secret ((filled.1.drop macSize).take encryptedLength)
          (espOk, some (write filled.1 0 (hmac.take macSize)), some (macSize + encryptedLength))
  | _, _, _, _ => (espErrInvalidArg, destination, outLength)

/-- `d1l_meshcore_crypto_decrypt_after_mac` -/
def cryptoDecryptAfterMac (c : Crypto) (faults : Faults)
    (secret destination source : Option (List UInt8)) : Nat × Option (List UInt8) :=
  match secret, destination, source with
  | some secret, some destination, some source =>
    if source.length ≤ macSize then (0, some destination)
    else
      let encryptedLength := source.length - macSize
      if encryptedLength % blockSize ≠ 0 ∨ destination.length < encryptedLength then
        (0, some destination)
      else if faults.digest then (0, some destination)
      else
        let hmac := c.hmacSha256 secret (source.drop macSize)
        if faults.hmac ∨ cryptoBytesEqual hmac source macSize = false then (0, some destination)
        else if faults.setkey then (0, some destination)
        else
          let opened := decryptLoop c faults (aesKey secret) source (encryptedLength / blockSize) 0
            destination
          if opened.2 = false then (0, some opened.1) else (encryptedLength, some opened.1)
  | _, _, _ => (0, destination)

section Refinement

variable {c : Crypto} {key source : List UInt8}

theorem blockAt_eq (offset : Nat) : blockAt source offset = fillBlock (source.drop offset) := by
  have hremaining : (if offset < source.length then source.length - offset else 0) =
      (source.drop offset).length := by
    rw [List.length_drop]
    split_ifs with hinside <;> omega
  have htake : (source.drop offset).take (if blockSize < (source.drop offset).length then blockSize
      else (source.drop offset).length) = (source.drop offset).take blockSize := by
    split_ifs with hlong
    · rfl
    · rw [List.take_of_length_le (le_refl _), List.take_of_length_le (Nat.not_lt.mp hlong)]
  unfold blockAt fillBlock
  rw [hremaining]
  dsimp only
  rw [htake]
  unfold write
  rw [List.take_zero, List.nil_append, List.drop_replicate, List.length_take]
  congr 2
  omega

theorem encryptLoop_writes (hc : c.Lawful) (hkey : key.length = blockSize) (n : Nat) {offset : Nat}
    {destination : List UInt8}
    (hfits : macSize + offset + n * blockSize ≤ destination.length) :
    encryptLoop c .none key source n offset destination =
      (write destination (macSize + offset) (encryptBlocks c key n (source.drop offset)),
        true) := by
  induction n generalizing offset destination with
  | zero =>
    have hnothing : write destination (macSize + offset) [] = destination := by
      unfold write
      rw [List.append_nil, List.length_nil, Nat.add_zero, List.take_append_drop]
    rw [encryptLoop, encryptBlocks, hnothing]
  | succ n ih =>
    have hsplit : (n + 1) * blockSize = n * blockSize + blockSize := Nat.succ_mul n blockSize
    have hblock : (c.aesEncrypt key (fillBlock (source.drop offset))).length = blockSize :=
      hc.length_encrypt key _ hkey (length_fillBlock _)
    have hroom : macSize + offset + (c.aesEncrypt key (fillBlock (source.drop offset))).length ≤
        destination.length := by
      rw [hblock]
      omega
    have hnext : encryptLoop c .none key source (n + 1) offset destination =
        encryptLoop c .none key source n (offset + blockSize)
          (write destination (macSize + offset)
            (c.aesEncrypt key (blockAt source offset))) := if_neg Bool.false_ne_true
    rw [hnext, blockAt_eq, ih (by rw [length_write hroom]; omega), encryptBlocks, List.drop_drop]
    have hindex : macSize + (offset + blockSize) = macSize + offset +
        (c.aesEncrypt key (fillBlock (source.drop offset))).length := by
      rw [hblock]
      omega
    rw [hindex, write_write_at _ hroom]

theorem decryptLoop_writes (hdec : ∀ key block, key.length = blockSize → block.length = blockSize →
      (c.aesDecrypt key block).length = blockSize) (hkey : key.length = blockSize) (n : Nat)
    {offset : Nat} {destination : List UInt8} (hfits : offset + n * blockSize ≤ destination.length)
    (hsource : macSize + offset + n * blockSize ≤ source.length) :
    decryptLoop c .none key source n offset destination =
      (write destination offset (decryptBlocks c key n (source.drop (macSize + offset))),
        true) := by
  induction n generalizing offset destination with
  | zero =>
    have hnothing : write destination offset [] = destination := by
      unfold write
      rw [List.append_nil, List.length_nil, Nat.add_zero, List.take_append_drop]
    rw [decryptLoop, decryptBlocks, hnothing]
  | succ n ih =>
    have hsplit : (n + 1) * blockSize = n * blockSize + blockSize := Nat.succ_mul n blockSize
    have htaken : ((source.drop (macSize + offset)).take blockSize).length = blockSize := by
      rw [List.length_take, List.length_drop]
      omega
    have hblock := hdec key _ hkey htaken
    have hroom : offset + (c.aesDecrypt key
        ((source.drop (macSize + offset)).take blockSize)).length ≤ destination.length := by
      rw [hblock]
      omega
    have hnext : decryptLoop c .none key source (n + 1) offset destination =
        decryptLoop c .none key source n (offset + blockSize) (write destination offset
          (c.aesDecrypt key ((source.drop (macSize + offset)).take blockSize))) :=
      if_neg Bool.false_ne_true
    rw [hnext, ih (by rw [length_write hroom]; omega) (by omega), decryptBlocks, List.drop_drop]
    have hindex : offset + blockSize = offset + (c.aesDecrypt key
        ((source.drop (macSize + offset)).take blockSize)).length := by rw [hblock]
    have hdrop : macSize + (offset + blockSize) = macSize + offset + blockSize :=
      (Nat.add_assoc _ _ _).symm
    rw [hdrop, hindex, write_write_at _ hroom]

theorem foldl_difference (f : Nat → UInt8) (indices : List Nat) (difference : UInt8) :
    indices.foldl (fun difference index => difference ||| f index) difference = 0 ↔
      difference = 0 ∧ ∀ index ∈ indices, f index = 0 := by
  induction indices generalizing difference with
  | nil => simp
  | cons index indices ih =>
    rw [List.foldl_cons, ih, UInt8.or_eq_zero_iff, List.forall_mem_cons, and_assoc]

theorem cryptoBytesEqual_iff {left right : List UInt8} {size : Nat} (hleft : size ≤ left.length)
    (hright : size ≤ right.length) :
    cryptoBytesEqual left right size = true ↔ left.take size = right.take size := by
  unfold cryptoBytesEqual
  rw [beq_iff_eq, foldl_difference]
  constructor
  · rintro ⟨-, hsame⟩
    apply List.ext_getElem
    · rw [List.length_take, List.length_take]
      omega
    · intro index hi hi'
      have hlt : index < size := by
        rw [List.length_take] at hi
        omega
      have hbyte := UInt8.xor_eq_zero_iff.mp (hsame index (List.mem_range.mpr hlt))
      rw [List.getD_eq_getElem _ _ (by omega), List.getD_eq_getElem _ _ (by omega)] at hbyte
      rw [List.getElem_take, List.getElem_take]
      exact hbyte
  · intro hsame
    refine ⟨rfl, ?_⟩
    intro index hindex
    have hlt := List.mem_range.mp hindex
    rw [UInt8.xor_eq_zero_iff, List.getD_eq_getElem _ _ (by omega),
      List.getD_eq_getElem _ _ (by omega)]
    have hget : (left.take size)[index]? = (right.take size)[index]? := by rw [hsame]
    rw [List.getElem?_take_of_lt hlt, List.getElem?_take_of_lt hlt,
      List.getElem?_eq_getElem (by omega), List.getElem?_eq_getElem (by omega)] at hget
    exact Option.some.inj hget

end Refinement

section Calls

variable {c : Crypto}

theorem source_inside {destination source : List UInt8} (hsize : destination.length ≤ sizeMax)
    (hfits : macSize + blockCount source.length * blockSize ≤ destination.length) :
    source.length ≤ sizeMax - (blockSize - 1) ∧
      blockCount source.length * blockSize ≤ sizeMax - macSize := by
  obtain ⟨hle, -⟩ := blockCount_bounds source.length
  unfold sizeMax macSize blockSize at *
  omega

theorem cryptoEncryptThenMac_writes (hc : c.Lawful) {secret destination source : List UInt8}
    (hsecret : secret.length = secretSize) (hpos : 0 < source.length)
    (hsize : destination.length ≤ sizeMax)
    (hfits : macSize + blockCount source.length * blockSize ≤ destination.length) (old : Nat) :
    ∃ packet, encryptThenMac c secret destination.length source = .ok packet ∧
      packet.length = macSize + blockCount source.length * blockSize ∧
      cryptoEncryptThenMac c .none (some secret) (some destination) (some source) (some old) =
        (espOk, some (write destination 0 packet), some packet.length) := by
  have hkey := length_aesKey hsecret
  obtain ⟨hsource, hencrypted⟩ := source_inside hsize hfits
  have hlength := length_encryptBlocks hc hkey (blockCount source.length) source
  have hloop : encryptLoop c .none (aesKey secret) source (blockCount source.length) 0
      destination = (write destination macSize
        (encryptBlocks c (aesKey secret) (blockCount source.length) source), true) :=
    encryptLoop_writes hc hkey _ hfits
  generalize hcipher : encryptBlocks c (aesKey secret) (blockCount source.length) source = cipher
    at hlength hloop
  have hmac : ((c.hmacSha256 secret cipher).take macSize).length = macSize := by
    rw [List.length_take, hc.length_hmac]
    rfl
  have hread : ((write destination macSize cipher).drop macSize).take
      (blockCount source.length * blockSize) = cipher := by
    have hfront : (destination.take macSize).length = macSize := by
      rw [List.length_take]
      omega
    unfold write
    rw [List.append_assoc, List.drop_left' hfront, ← hlength, List.take_left]
  have hjoined : write (write destination macSize cipher) 0
      ((c.hmacSha256 secret cipher).take macSize) =
        write destination 0 ((c.hmacSha256 secret cipher).take macSize ++ cipher) := by
    have hfront : (destination.take macSize).length = macSize := by
      rw [List.length_take]
      omega
    have hdrop : (destination.take macSize ++ cipher ++
        destination.drop (macSize + cipher.length)).drop (0 + macSize) =
          cipher ++ destination.drop (macSize + cipher.length) := by
      rw [Nat.zero_add, List.append_assoc, List.drop_left' hfront]
    unfold write
    rw [List.take_zero, List.nil_append, List.take_zero, List.nil_append, hmac, hdrop,
      List.length_append, hmac, Nat.zero_add, List.append_assoc]
  refine ⟨(c.hmacSha256 secret cipher).take macSize ++ cipher, ?_, ?_, ?_⟩
  · unfold encryptThenMac
    rw [if_neg hpos.ne', if_neg (Nat.not_lt.mpr hfits), hcipher]
  · rw [List.length_append, hmac, hlength]
  · unfold cryptoEncryptThenMac
    dsimp only [Option.map_some]
    rw [if_neg hpos.ne', if_neg (Nat.not_lt.mpr hsource),
      if_neg (not_or_intro (Nat.not_lt.mpr hencrypted) (Nat.not_lt.mpr hfits)),
      if_neg (show ¬ Faults.none.setkey = true from Bool.false_ne_true), hloop,
      if_neg (show ¬ true = false from Bool.noConfusion),
      if_neg (show ¬ Faults.none.digest = true from Bool.false_ne_true),
      if_neg (show ¬ Faults.none.hmac = true from Bool.false_ne_true), hread, hjoined,
      List.length_append, hmac, hlength]

theorem encryptThenMac_digest (hc : c.Lawful) {secret source packet : List UInt8} {destSize : Nat}
    (h : encryptThenMac c secret destSize source = .ok packet) :
    packet.take macSize = (c.hmacSha256 secret (packet.drop macSize)).take macSize := by
  have hmac : ∀ cipher, ((c.hmacSha256 secret cipher).take macSize).length = macSize := by
    intro cipher
    rw [List.length_take, hc.length_hmac]
    rfl
  unfold encryptThenMac at h
  split_ifs at h with hempty hsmall
  obtain rfl := Except.ok.inj h
  rw [List.take_left' (hmac _), List.drop_left' (hmac _)]

/-- What is opened must be whole blocks behind the first bytes of their digest. -/
def Authentic (c : Crypto) (secret source : Option (List UInt8)) : Prop :=
  ∃ key packet k, secret = some key ∧ source = some packet ∧ 1 ≤ k ∧
    packet.length = macSize + k * blockSize ∧
    packet.take macSize = (c.hmacSha256 key (packet.drop macSize)).take macSize

theorem cryptoDecryptAfterMac_refuses (hc : c.Lawful) (faults : Faults)
    {secret source : Option (List UInt8)} (destination : Option (List UInt8))
    (hbad : ¬ Authentic c secret source) :
    cryptoDecryptAfterMac c faults secret destination source = (0, destination) := by
  unfold cryptoDecryptAfterMac
  split
  · next key buffer packet =>
    by_cases hshort : packet.length ≤ macSize
    · exact if_pos hshort
    rw [if_neg hshort]
    dsimp only
    by_cases hshape : (packet.length - macSize) % blockSize ≠ 0 ∨
        buffer.length < packet.length - macSize
    · exact if_pos hshape
    rw [if_neg hshape]
    cases hdigest : faults.digest with
    | true => exact if_pos rfl
    | false =>
      rw [if_neg Bool.false_ne_true]
      apply if_pos
      right
      have hwhole : (packet.length - macSize) % blockSize = 0 := not_not.mp (not_or.mp hshape).1
      rw [← Bool.not_eq_true, cryptoBytesEqual_iff (by rw [hc.length_hmac]; decide) (by omega)]
      intro hmac
      apply hbad
      refine ⟨key, packet, (packet.length - macSize) / blockSize, rfl, rfl, ?_, ?_, hmac.symm⟩
      · exact Nat.div_pos (Nat.le_of_dvd (by omega) (Nat.dvd_of_mod_eq_zero hwhole)) (by decide)
      · rw [Nat.div_mul_cancel (Nat.dvd_of_mod_eq_zero hwhole)]
        omega
  · rfl

theorem cryptoDecryptAfterMac_writes (hc : c.Lawful)
    (hdec : ∀ key block, key.length = blockSize → block.length = blockSize →
      (c.aesDecrypt key block).length = blockSize)
    {secret destination source : List UInt8} (hsecret : secret.length = secretSize) {n : Nat}
    (hpos : 0 < n) (hlength : source.length = macSize + n * blockSize)
    (hmac : source.take macSize = (c.hmacSha256 secret (source.drop macSize)).take macSize)
    (hfits : n * blockSize ≤ destination.length) :
    cryptoDecryptAfterMac c .none (some secret) (some destination) (some source) =
      (n * blockSize, some (write destination 0
        (decryptAfterMac c secret destination.length source))) := by
  have hkey := length_aesKey hsecret
  have hblocks : 0 < n * blockSize := Nat.mul_pos hpos (by decide)
  have hencrypted : source.length - macSize = n * blockSize := by omega
  have hcount : n * blockSize / blockSize = n := Nat.mul_div_cancel _ (by decide)
  have hloop : decryptLoop c .none (aesKey secret) source n 0 destination =
      (write destination 0 (decryptBlocks c (aesKey secret) n (source.drop macSize)), true) :=
    decryptLoop_writes hdec hkey n (by omega) (by omega)
  have hopened : decryptAfterMac c secret destination.length source =
      decryptBlocks c (aesKey secret) n (source.drop macSize) := by
    unfold decryptAfterMac
    rw [if_neg (by omega)]
    dsimp only
    rw [List.length_drop, hencrypted, if_neg (by
      rintro (hmod | hsmall)
      · exact hmod (Nat.mul_mod_left _ _)
      · omega), if_neg (not_not.mpr hmac.symm), hcount]
  have hequal : cryptoBytesEqual (c.hmacSha256 secret (source.drop macSize)) source macSize =
      true :=
    (cryptoBytesEqual_iff (by rw [hc.length_hmac]; decide) (by omega)).mpr hmac.symm
  unfold cryptoDecryptAfterMac
  dsimp only
  rw [if_neg (by omega), hencrypted, if_neg (by
    rintro (hmod | hsmall)
    · exact hmod (Nat.mul_mod_left _ _)
    · omega), if_neg (show ¬ Faults.none.digest = true from Bool.false_ne_true), hequal,
    if_neg (by
      rintro (hfails | hdiffers)
      · exact Bool.false_ne_true hfails
      · exact Bool.noConfusion hdiffers),
    if_neg (show ¬ Faults.none.setkey = true from Bool.false_ne_true), hcount, hloop,
    if_neg (show ¬ true = false from Bool.noConfusion), hopened]

/-- Sealing takes the blocks and two bytes more, opening gives the source back with the zeros behind
it, and nothing but whole blocks behind their digest is ever opened, or written. -/
theorem crypto_round_trip (c : Crypto) (hc : c.Lawful)
    (hdec : ∀ key block, key.length = blockSize → block.length = blockSize →
      (c.aesDecrypt key block).length = blockSize) :
    (∀ secret source destination : List UInt8, ∀ old, secret.length = secretSize →
      1 ≤ source.length → destination.length ≤ sizeMax →
      macSize + blockCount source.length * blockSize ≤ destination.length →
      ∃ packet : List UInt8,
        packet.length = macSize + blockCount source.length * blockSize ∧
        cryptoEncryptThenMac c .none (some secret) (some destination) (some source) (some old) =
          (espOk, some (write destination 0 packet), some packet.length) ∧
        ∀ opened : List UInt8, blockCount source.length * blockSize ≤ opened.length →
          cryptoDecryptAfterMac c .none (some secret) (some opened) (some packet) =
            (blockCount source.length * blockSize,
              some (write opened 0 (zeroPadded (blockCount source.length) source)))) ∧
    (∀ faults secret destination source,
      ((cryptoDecryptAfterMac c faults secret destination source).1 ≠ 0 →
        Authentic c secret source) ∧
      (¬ Authentic c secret source →
        cryptoDecryptAfterMac c faults secret destination source = (0, destination))) := by
  constructor
  · intro secret source destination old hsecret hpos hsize hfits
    obtain ⟨packet, hpacket, hlength, hwritten⟩ :=
      cryptoEncryptThenMac_writes hc hsecret hpos hsize hfits old
    refine ⟨packet, hlength, hwritten, ?_⟩
    intro opened hroom
    obtain ⟨packet', hpacket', -, hopens⟩ := sealed_opens hc hsecret hpos hfits
    obtain rfl : packet = packet' := Except.ok.inj (hpacket.symm.trans hpacket')
    have hcount : 0 < blockCount source.length := by
      obtain ⟨hle, -⟩ := blockCount_bounds source.length
      by_contra hzero
      rw [Nat.eq_zero_of_not_pos hzero, Nat.zero_mul] at hle
      omega
    rw [cryptoDecryptAfterMac_writes hc hdec hsecret hcount hlength
        (encryptThenMac_digest hc hpacket) hroom,
      hopens opened.length hroom]
  · intro faults secret destination source
    refine ⟨fun hopened => ?_, cryptoDecryptAfterMac_refuses hc faults destination⟩
    by_contra hbad
    rw [cryptoDecryptAfterMac_refuses hc faults destination hbad] at hopened
    exact hopened rfl

def idleCrypto : Crypto where
  aesEncrypt := fun _ block => block
  aesDecrypt := fun _ block => block
  hmacSha256 := fun _ _ => List.replicate 32 0
  sha256 := fun _ => List.replicate 32 0

theorem idleCrypto_lawful : idleCrypto.Lawful :=
  ⟨fun _ _ _ _ => rfl, fun _ _ _ h => h, fun _ _ => rfl, fun _ => rfl⟩

theorem crypto_round_trip_block :
    ∃ packet : List UInt8, packet.length = 18 ∧
      cryptoEncryptThenMac idleCrypto .none (some (List.replicate 32 7))
        (some (List.replicate 18 0)) (some [1, 2, 3]) (some 0) =
          (espOk, some packet, some 18) ∧
      cryptoDecryptAfterMac idleCrypto .none (some (List.replicate 32 7))
        (some (List.replicate 16 9)) (some packet) =
          (16, some ([1, 2, 3] ++ List.replicate 13 0)) := by
  obtain ⟨packet, hlength, hsealed, hopens⟩ :=
    (crypto_round_trip idleCrypto idleCrypto_lawful fun _ _ _ h => h).1 (List.replicate 32 7)
      [1, 2, 3] (List.replicate 18 0) 0 rfl (by decide) (by decide) (by decide)
  have hlength' : packet.length = 18 := hlength
  have hwhole : write (List.replicate 18 0) 0 packet = packet := by
    unfold write
    rw [List.take_zero, List.nil_append, List.drop_replicate, hlength']
    exact List.append_nil packet
  refine ⟨packet, hlength', ?_, hopens (List.replicate 16 9) (by decide)⟩
  rw [hsealed, hwhole, hlength']

end Calls

end Sigui.MeshCrypto

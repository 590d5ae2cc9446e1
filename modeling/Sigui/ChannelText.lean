import Sigui.ChannelReconcile
import Sigui.TextPlaintext

/-! How a channel message is put into a packet: the sender's name and the text under the key of the
channel. -/
namespace Sigui.ChannelText

open TextPlaintext MeshCrypto Wire

def nodeNameLen : Nat := 32

/-- `d1l_settings_node_name_valid` -/
def nodeNameValid : Option CStr → Bool
  | none => false
  | some name =>
    decide (0 < name.bytes.length) && decide (name.bytes.length < nodeNameLen) &&
      (name.bytes.all fun c =>
        !decide (c.toNat < 32) && !decide (126 < c.toNat) && decide (c ≠ 34) && decide (c ≠ 92)) &&
      name.bytes.any (· != 32)

section Keys

open Channel

/-- `d1l_channel_protocol_key_t` -/
structure ProtocolKey where
  channelId : UInt64
  channelHash : UInt8
  secretLen : Nat
  secret : Secret
  deriving DecidableEq

/-- `copy_protocol_key` -/
def protocolKey (e : ChannelEntry) : ProtocolKey :=
  ⟨e.channelId, e.channelHash, e.secretLen, e.secret⟩

/-- `d1l_channel_store_copy_protocol_key` on a loaded store. -/
def copyProtocolKey (s : ChannelStore) (channelId : UInt64) : Except EspErr ProtocolKey :=
  if channelId = 0 then .error espErrInvalidArg
  else
    match s.entries.find? (fun e => decide (e.channelId = channelId)) with
    | none => .error espErrNotFound
    | some e => if e.enabled = 0 then .error espErrInvalidState else .ok (protocolKey e)

/-- `d1l_channel_store_copy_rx_hash_matches` on a loaded store, with room for `maxKeys`. -/
def copyRxHashMatches (s : ChannelStore) (channelHash : UInt8) (maxKeys : Nat) :
    List ProtocolKey :=
  ((s.entries.filter fun e =>
    channelAvailableInReleaseProfile e.channelId && decide (e.enabled ≠ 0) &&
      decide (e.channelHash = channelHash)).map protocolKey).take maxKeys

end Keys

section Build

def payloadGroupText : Nat := 0x05
def headerGroupTextFlood : UInt8 := .ofNat (payloadGroupText * 4 + routeFlood)
def maxTextBytes : Nat := 176

/-- `plain` up to `plain_len`. -/
def channelPlain (txTimestamp : UInt32) (senderName text : List UInt8) : List UInt8 :=
  le32 txTimestamp.toNat ++ 0 :: (senderName ++ 58 :: 32 :: text)

/-- `build_channel_text_packet`: the first `*out_len` bytes of a buffer of `rawSize`. -/
def buildChannelTextPacket (c : Crypto) (channel : Option ProtocolKey)
    (senderName text : Option CStr) (pathHashBytes : Nat) (txTimestamp : UInt32) (rawSize : Nat) :
    Except EspErr (List UInt8) :=
  match channel, senderName with
  | some channel, some senderName =>
    if channel.channelId = 0 ∨ Channel.secretLenIsValid channel.secretLen = false then
      .error espErrInvalidArg
    else if validateUserText text ≠ espOk then .error (validateUserText text)
    else if pathHashBytes < 1 ∨ 3 < pathHashBytes then .error espErrInvalidArg
    else
      match text with
      | none => .error espErrInvalidArg
      | some text =>
        let senderNameLen := senderName.bytes.length
        if senderNameLen = 0 ∨ nodeNameLen ≤ senderNameLen then .error espErrInvalidArg
        else if maxTextBytes < 5 + senderNameLen + 2 + text.bytes.length then
          .error espErrInvalidSize
        else
          let plain := channelPlain txTimestamp senderName.bytes text.bytes
          match wireWritePrefix headerGroupTextFlood 0 0 (.ofNat ((pathHashBytes - 1) * 64)) none
            ⟨some (List.replicate rawSize 0), some 0⟩ with
          | (true, ⟨some raw, some i⟩) =>
            if rawSize ≤ i then .error espErrInvalidSize
            else
              let raw := Bytes.write raw i [channel.channelHash]
              match encryptThenMac c channel.secret.bytes (rawSize - (i + 1)) plain with
              | .error ret => .error ret
              | .ok macCipher =>
                if uint8Max < i + 1 + macCipher.length then .error espErrInvalidSize
                else .ok ((Bytes.write raw (i + 1) macCipher).take (i + 1 + macCipher.length))
          | _ => .error espErrInvalidSize
  | _, _ => .error espErrInvalidArg

variable {c : Crypto} {channel : ProtocolKey} {senderName text : CStr} {pathHashBytes : Nat}

theorem length_channelPlain (txTimestamp : UInt32) (senderName text : List UInt8) :
    (channelPlain txTimestamp senderName text).length =
      5 + senderName.length + 2 + text.length := by
  simp only [channelPlain, le32, le16, List.length_append, List.length_cons, List.length_nil]
  omega

theorem nodeNameValid_iff : nodeNameValid (some senderName) = true ↔
    0 < senderName.bytes.length ∧ senderName.bytes.length < nodeNameLen ∧
      (∀ c ∈ senderName.bytes, 32 ≤ c.toNat ∧ c.toNat ≤ 126 ∧ c ≠ 34 ∧ c ≠ 92) ∧
        ∃ c ∈ senderName.bytes, c ≠ 32 := by
  simp only [nodeNameValid, Bool.and_eq_true, decide_eq_true_eq, List.all_eq_true, List.any_eq_true,
    Bool.not_eq_true', decide_eq_false_iff_not, Nat.not_lt, bne_iff_ne, and_assoc]

theorem emptyPath_spec (h : 1 ≤ pathHashBytes ∧ pathHashBytes ≤ 3) :
    MeshPath.wirePathHashSize (.ofNat ((pathHashBytes - 1) * 64)) = pathHashBytes ∧
      MeshPath.wirePathHashCount (.ofNat ((pathHashBytes - 1) * 64)) = 0 ∧
      MeshPath.wirePathByteLen (.ofNat ((pathHashBytes - 1) * 64)) = 0 ∧
      MeshPath.wirePathLenValid (.ofNat ((pathHashBytes - 1) * 64)) = true := by
  obtain ⟨hlow, hhigh⟩ := h
  have hcases : pathHashBytes = 1 ∨ pathHashBytes = 2 ∨ pathHashBytes = 3 := by omega
  rcases hcases with rfl | rfl | rfl <;> decide

def channelFrame (pathHashBytes : Nat) (channelHash : UInt8) (macCipher : List UInt8) :
    List UInt8 :=
  headerGroupTextFlood :: .ofNat ((pathHashBytes - 1) * 64) :: channelHash :: macCipher

theorem buildChannelTextPacket_ok (hc : c.Lawful) (hid : channel.channelId ≠ 0)
    (hlen : Channel.secretLenIsValid channel.secretLen = true)
    (hname : nodeNameValid (some senderName) = true)
    (htext : validateUserText (some text) = espOk)
    (hhash : 1 ≤ pathHashBytes ∧ pathHashBytes ≤ 3) (txTimestamp : UInt32) :
    ∃ macCipher,
      buildChannelTextPacket c (some channel) (some senderName) (some text) pathHashBytes
          txTimestamp maxRawPacket =
        .ok (channelFrame pathHashBytes channel.channelHash macCipher) ∧
      macCipher.length = macSize +
        blockCount (channelPlain txTimestamp senderName.bytes text.bytes).length * blockSize ∧
      macCipher.length ≤ 178 ∧
      ∀ openSize, 176 ≤ openSize → decryptAfterMac c channel.secret.bytes openSize macCipher =
        zeroPadded (blockCount (channelPlain txTimestamp senderName.bytes text.bytes).length)
          (channelPlain txTimestamp senderName.bytes text.bytes) := by
  obtain ⟨hpos, hshort, -, -⟩ := nodeNameValid_iff.mp hname
  have htextLen := userTextValidate_ok_length (validateUserText_ok.mp htext)
  obtain ⟨-, -, hbytes, hvalid⟩ := emptyPath_spec hhash
  have hplain := length_channelPlain txTimestamp senderName.bytes text.bytes
  unfold nodeNameLen at hshort
  unfold userTextMaxBytes at htextLen
  generalize hp : channelPlain txTimestamp senderName.bytes text.bytes = plain at hplain
  obtain ⟨hle, hlt⟩ := blockCount_bounds plain.length
  have hblocks : blockCount plain.length * blockSize ≤ 176 := by
    unfold blockCount blockSize
    omega
  have hroom : macSize + blockCount plain.length * blockSize ≤ maxRawPacket - (2 + 1) := by
    unfold macSize maxRawPacket
    omega
  obtain ⟨macCipher, hsealed, hsealedLen, hopen⟩ := sealed_opens hc
    (show channel.secret.bytes.length = secretSize from channel.secret.length_eq)
    (show 0 < plain.length by omega) hroom
  have hcipherLen : macCipher.length ≤ 178 := by
    unfold macSize at hsealedLen
    omega
  refine ⟨macCipher, ?_, hsealedLen, hcipherLen, fun openSize hsize => hopen openSize (by omega)⟩
  have hprefix : wireWritePrefix headerGroupTextFlood 0 0 (.ofNat ((pathHashBytes - 1) * 64)) none
      ⟨some (List.replicate maxRawPacket 0), some 0⟩ =
      (true, ⟨some (Bytes.write (List.replicate maxRawPacket 0) 0
        [headerGroupTextFlood, .ofNat ((pathHashBytes - 1) * 64)]), some 2⟩) := by
    rw [wireWritePrefix_fits headerGroupTextFlood 0 0 hvalid
      (fun h => absurd (hbytes ▸ h) (lt_irrefl 0))
      (by rw [hbytes, List.length_replicate]; decide) (by rw [hbytes]; decide), hbytes]
    rfl
  unfold buildChannelTextPacket
  dsimp only
  rw [if_neg (by
      rintro (hzero | hbad)
      · exact hid hzero
      · exact Bool.noConfusion (hbad.symm.trans hlen)), if_neg (not_not.mpr htext),
    if_neg (by omega), if_neg (by unfold nodeNameLen; omega),
    if_neg (by unfold maxTextBytes; omega), hprefix]
  dsimp only
  rw [if_neg (by unfold maxRawPacket; omega), hp, hsealed]
  dsimp only
  rw [if_neg (by unfold uint8Max; omega)]
  have hwrites : Bytes.write (Bytes.write (Bytes.write (List.replicate maxRawPacket 0) 0
      [headerGroupTextFlood, .ofNat ((pathHashBytes - 1) * 64)]) 2 [channel.channelHash])
      (2 + 1) macCipher = Bytes.write (List.replicate maxRawPacket 0) 0
        (channelFrame pathHashBytes channel.channelHash macCipher) := by
    rw [show (2 : Nat) = [headerGroupTextFlood, UInt8.ofNat ((pathHashBytes - 1) * 64)].length
      from rfl, Bytes.write_write]
    exact Bytes.write_write _ [headerGroupTextFlood, .ofNat ((pathHashBytes - 1) * 64),
      channel.channelHash] macCipher
  have hlength : 2 + 1 + macCipher.length =
      (channelFrame pathHashBytes channel.channelHash macCipher).length := by
    simp only [channelFrame, List.length_cons]
    omega
  rw [hwrites, hlength, Bytes.take_write]

end Build

end Sigui.ChannelText

import Sigui.ChannelOps
import Sigui.ContactEntry
import Sigui.RouteSelection
import Sigui.TextPlaintext

/-! How a direct message is put into a packet, and the two hashes taken of its plaintext: the one
its ACK must carry, and the one a repeat of it is known by. -/
namespace Sigui.DmText

open TextPlaintext MeshCrypto Wire MeshPath

def pubKeySize : Nat := 32
def payloadText : Nat := 0x02
def payloadAck : Nat := 0x03
def payloadPath : Nat := 0x08
def txtTypePlain : Nat := 0
def txtTypeCliData : Nat := 1
def txtTypeSignedPlain : Nat := 2
def maxTextBytes : Nat := 176

def hexToBytes (destLen : Nat) (srcHex : List UInt8) : Option (List UInt8) :=
  if srcHex.length = destLen * 2 then Channel.hexPairs srcHex else none

/-- The identity of the settings; `sharedSecret` is `derive_local_identity_shared_secret` for its
own public key. -/
structure LocalIdentity where
  ready : Bool
  publicKey : List UInt8
  sharedSecret : List UInt8 → Except EspErr (List UInt8)

section Hashes

variable (c : Crypto)

def calcDmAckHash (plain senderPub : List UInt8) : Nat :=
  Admin.readLe32 (c.sha256 (plain ++ senderPub)) 0

def identityPrefixBytes : Nat := pubKeySize + 5

/-- `d1l_meshcore_dm_identity_material` -/
def dmIdentityMaterial (sender plain : List UInt8) (messageLen outSize : Nat) :
    Option (List UInt8) :=
  if plain.length < 5 ∨ plain.length - 5 < messageLen then none
  else if outSize < identityPrefixBytes + messageLen then none
  else
    some (sender ++ (plain.take 4 ++
      UInt8.ofNat ((plain.getD 4 0).toNat / 4) :: (plain.drop 5).take messageLen))

def calcDmIdentityDigest (plain : List UInt8) (messageLen : Nat) (senderPub : List UInt8) :
    Except EspErr (List UInt8) :=
  match dmIdentityMaterial senderPub plain messageLen (identityPrefixBytes + maxTextBytes) with
  | none => .error espErrInvalidSize
  | some material => .ok (c.sha256 material)

end Hashes

def selectionEncodes (s : RouteSelection) : Bool :=
  wirePathLenValid (.ofNat s.pathLen) &&
    decide (s.pathByteLen = wirePathByteLen (.ofNat s.pathLen)) &&
    decide (s.pathHashBytes = wirePathHashSize (.ofNat s.pathLen)) &&
    decide (s.pathHops = wirePathHashCount (.ofNat s.pathLen)) &&
    !(decide (s.route = .flood) && (decide (s.pathByteLen ≠ 0) || decide (s.pathHops ≠ 0)))

def dmTextHeader (route : Route) : UInt8 :=
  match route with
  | .direct => .ofNat (payloadText * 4 + routeDirect)
  | .flood => .ofNat (payloadText * 4 + routeFlood)

/-- `plain` up to `plain_len`. -/
def dmPlain (txTimestamp : UInt32) (attempt : Nat) (text : List UInt8) : List UInt8 :=
  le32 txTimestamp.toNat ++ UInt8.ofNat (txtTypePlain * 4 + attempt % 4) :: text

/-- `build_dm_text_packet`: the first `*out_len` bytes of a buffer of `rawSize`, with the ACK
hash. -/
def buildDmTextPacket (c : Crypto) (settings : LocalIdentity) (contact : Contact.ContactEntry)
    (text : Option CStr) (selection : RouteSelection) (attempt : Nat) (txTimestamp : UInt32)
    (rawSize : Nat) : Except EspErr (List UInt8 × Nat) :=
  if !settings.ready then .error espErrInvalidArg
  else if validateUserText text ≠ espOk then .error (validateUserText text)
  else if contact.publicKeyHex.bytes = [] then .error espErrInvalidState
  else if 3 < attempt ∨ selectionEncodes selection = false then .error espErrInvalidArg
  else
    match text, hexToBytes pubKeySize contact.publicKeyHex.bytes with
    | some text, some destPub =>
      match settings.sharedSecret destPub with
      | .error ret => .error ret
      | .ok secret =>
        let plain := dmPlain txTimestamp attempt text.bytes
        match wireWritePrefix (dmTextHeader selection.route) 0 0 (.ofNat selection.pathLen)
          (if 0 < selection.pathByteLen then some (Bytes.pointer selection.path 0) else none)
          ⟨some (List.replicate rawSize 0), some 0⟩ with
        | (true, ⟨some raw, some i⟩) =>
          if rawSize - i < 2 then .error espErrInvalidSize
          else
            let raw := Bytes.write raw i [destPub.getD 0 0, settings.publicKey.getD 0 0]
            match encryptThenMac c secret (rawSize - (i + 2)) plain with
            | .error ret => .error ret
            | .ok macCipher =>
              if uint8Max < i + 2 + macCipher.length then .error espErrInvalidSize
              else
                .ok ((Bytes.write raw (i + 2) macCipher).take (i + 2 + macCipher.length),
                  calcDmAckHash c plain settings.publicKey)
        | _ => .error espErrInvalidSize
    | _, _ => .error espErrInvalidArg

end Sigui.DmText

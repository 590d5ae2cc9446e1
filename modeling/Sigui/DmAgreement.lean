import Sigui.DmReceive

/-! A direct message from the sender's packet to the receiver's message and back to the sender as an
ACK. -/
namespace Sigui.DmText

open TextPlaintext MeshCrypto Wire MeshPath

section Frames

variable {header pathLen : UInt8} {path payload : List UInt8}

def airFrame (header pathLen : UInt8) (path payload : List UInt8) : List UInt8 :=
  header :: pathLen :: (path ++ payload)

/-- What arrives of a packet: repeaters write their hashes behind the path of a flooded packet, and
take theirs off the path of a direct one. -/
def Carried (sent received : List UInt8) : Prop :=
  ∃ header pathLen path payload pathLen' path', sent = airFrame header pathLen path payload ∧
    path.length = wirePathByteLen pathLen ∧ received = airFrame header pathLen' path' payload ∧
    wirePathLenValid pathLen' = true ∧ path'.length = wirePathByteLen pathLen'

theorem airFrame_inj {header' pathLen' : UInt8} {path' payload' : List UInt8}
    (h : airFrame header pathLen path payload = airFrame header' pathLen' path' payload')
    (hpath : path.length = wirePathByteLen pathLen)
    (hpath' : path'.length = wirePathByteLen pathLen') :
    header = header' ∧ pathLen = pathLen' ∧ path = path' ∧ payload = payload' := by
  simp only [airFrame, List.cons.injEq] at h
  obtain ⟨hheader, hlen, hrest⟩ := h
  have hsame : path.length = path'.length := by
    rw [hpath, hpath', hlen]
  exact ⟨hheader, hlen, List.append_inj hrest hsame⟩

theorem Carried.frame {received : List UInt8} (h : Carried (airFrame header pathLen path payload)
    received) (hpath : path.length = wirePathByteLen pathLen) :
    ∃ pathLen' path', received = airFrame header pathLen' path' payload ∧
      wirePathLenValid pathLen' = true ∧ path'.length = wirePathByteLen pathLen' := by
  obtain ⟨header', pathLen₀, path₀, payload', pathLen', path', hsent, hlen, hreceived, hvalid,
    hlen'⟩ := h
  obtain ⟨rfl, -, -, rfl⟩ := airFrame_inj hsent hpath hlen
  exact ⟨pathLen', path', hreceived, hvalid, hlen'⟩

theorem prefixBytes_plain (h : routeHasTransportCodes (routeOf header) = false)
    (code0 code1 : UInt16) :
    prefixBytes header code0 code1 pathLen path = header :: pathLen :: path := by
  rw [prefixBytes, h, if_neg Bool.false_ne_true, List.nil_append]

theorem decode_airFrame (hcodes : routeHasTransportCodes (routeOf header) = false)
    (hversion : header.toNat / 64 % 4 = payloadVer1) (hvalid : wirePathLenValid pathLen = true)
    (hpath : path.length = wirePathByteLen pathLen) (hpos : 0 < payload.length)
    (hmax : payload.length ≤ maxPacketPayload) :
    ∃ q, decodePacketV1 (airFrame header pathLen path payload) = some q ∧
      q.route = routeOf header ∧ q.type = header.toNat / 4 % 16 ∧ q.version = payloadVer1 ∧
      q.pathLen = pathLen ∧ q.pathBytes = path ∧ q.pathByteLen = wirePathByteLen pathLen ∧
      (0 < wirePathByteLen pathLen → q.path.isSome = true) ∧ q.payloadBytes = payload ∧
      q.payloadLen = payload.length := by
  have hle := wirePathByteLen_le hvalid
  have hsize : ([header] ++ pathLen :: (path ++ payload)).length ≤ maxRawPacket := by
    simp only [List.length_append, List.length_cons, List.length_nil, hpath]
    unfold maxPathBytes at hle
    unfold maxPacketPayload at hmax
    unfold maxRawPacket
    omega
  have hhead : [header].length =
      if routeHasTransportCodes (routeOf ([header].getD 0 0)) then 5 else 1 := by
    rw [List.getD_cons_zero, hcodes, if_neg Bool.false_ne_true, List.length_singleton]
  obtain ⟨q, hq, hqheader, hqlen, hqpath, hqload, -⟩ :=
    decodePacket_parts hhead hvalid hpath hpos hmax hsize
  rw [List.getD_cons_zero] at hqheader
  obtain ⟨hroute, htype, hver, -, -, hbytes⟩ := decodePacket_fields hq
  rw [hqheader] at hroute htype hver
  rw [hqlen] at hbytes
  obtain ⟨-, hfits⟩ := decodePacket_sound hq
  have hload : q.payloadLen = payload.length := by
    rw [← hqload]
    exact (length_pointed fun _ => hfits.payload).symm
  exact ⟨q, decodePacketV1_of hq (hver.trans hversion), hroute, htype, hver.trans hversion, hqlen,
    hqpath, hbytes, fun hlt => hfits.path (hqlen ▸ hlt), hqload, hload⟩

theorem wireWritePrefix_plain {memory : Option Bytes.Memory}
    (hcodes : routeHasTransportCodes (routeOf header) = false)
    (hvalid : wirePathLenValid pathLen = true)
    (hpath : 0 < wirePathByteLen pathLen → memory.isSome = true) :
    wireWritePrefix header 0 0 pathLen memory ⟨some (List.replicate maxRawPacket 0), some 0⟩ =
      (true, ⟨some (Bytes.write (List.replicate maxRawPacket 0) 0
        (header :: pathLen :: pointed memory (wirePathByteLen pathLen))),
        some (2 + wirePathByteLen pathLen)⟩) := by
  have hle := wirePathByteLen_le hvalid
  unfold maxPathBytes at hle
  have hlength : (header :: pathLen :: pointed memory (wirePathByteLen pathLen)).length =
      2 + wirePathByteLen pathLen := by
    rw [List.length_cons, List.length_cons, length_pointed hpath]
    omega
  rw [wireWritePrefix_fits header 0 0 hvalid hpath
      (by rw [hcodes, List.length_replicate, if_neg Bool.false_ne_true]; unfold maxRawPacket; omega)
      (by rw [hcodes, if_neg Bool.false_ne_true]; unfold maxRawPacket; omega),
    prefixBytes_plain hcodes, hlength]

theorem write_sealed (raw pre macCipher : List UInt8) (a b : UInt8) :
    (Bytes.write (Bytes.write (Bytes.write raw 0 pre) pre.length [a, b]) (pre.length + 2)
      macCipher).take (pre.length + 2 + macCipher.length) = pre ++ (a :: b :: macCipher) := by
  have hwrites := Bytes.take_writes raw pre [a, b] macCipher
  rw [List.append_assoc] at hwrites
  exact hwrites

end Frames

section Plaintext

variable {text : CStr} {txTimestamp : UInt32} {attempt : Nat}

theorem validateUserText_span (h : validateUserText (some text) = espOk) :
    (userTextValidateSpan text.bytes false).result = .ok ∧ 0 < text.bytes.length ∧
      text.bytes.length ≤ userTextMaxBytes := by
  have htext := validateUserText_ok.mp h
  have hlen := userTextValidate_ok_length htext
  rw [userTextValidate, if_neg (Nat.not_lt.mpr hlen)] at htext
  refine ⟨htext, Nat.pos_of_ne_zero fun hzero => ?_, hlen⟩
  rw [userTextValidateSpan, if_pos hzero] at htext
  exact UserTextResult.noConfusion htext

theorem length_dmPlain (txTimestamp : UInt32) (attempt : Nat) (text : List UInt8) :
    (dmPlain txTimestamp attempt text).length = 5 + text.length := by
  simp only [dmPlain, le32, le16, List.length_append, List.length_cons, List.length_nil]
  omega

theorem dmPlain_fields (txTimestamp : UInt32) {attempt : Nat} (hattempt : attempt ≤ 3)
    (text padding : List UInt8) :
    (dmPlain txTimestamp attempt text ++ padding).take 4 = le32 txTimestamp.toNat ∧
      ((dmPlain txTimestamp attempt text ++ padding).getD 4 0).toNat = attempt ∧
      (dmPlain txTimestamp attempt text ++ padding).drop 5 = text ++ padding ∧
      (dmPlain txTimestamp attempt text ++ padding).take (5 + text.length) =
        dmPlain txTimestamp attempt text := by
  refine ⟨rfl, ?_, rfl, ?_⟩
  · change (UInt8.ofNat (txtTypePlain * 4 + attempt % 4)).toNat = attempt
    rw [UInt8.toNat_ofNat']
    unfold txtTypePlain
    omega
  · rw [← length_dmPlain txTimestamp attempt text, List.take_left]

end Plaintext

section Build

variable {c : Crypto} {settings : LocalIdentity} {contact : Contact.ContactEntry}
variable {selection : RouteSelection} {text : CStr} {attempt : Nat} {destPub secret : List UInt8}

theorem dmTextHeader_spec (route : Route) :
    routeHasTransportCodes (routeOf (dmTextHeader route)) = false ∧
      (dmTextHeader route).toNat / 64 % 4 = payloadVer1 ∧
      (dmTextHeader route).toNat / 4 % 16 = payloadText ∧
      routeOf (dmTextHeader route) = (match route with
        | .flood => routeFlood
        | .direct => routeDirect) := by
  cases route <;> decide

def selectionPath (selection : RouteSelection) : List UInt8 :=
  pointed (if 0 < selection.pathByteLen then some (Bytes.pointer selection.path 0) else none)
    (wirePathByteLen (.ofNat selection.pathLen))

theorem selectionEncodes_spec (h : selectionEncodes selection = true) :
    wirePathLenValid (.ofNat selection.pathLen) = true ∧
      selection.pathByteLen = wirePathByteLen (.ofNat selection.pathLen) ∧
      (selectionPath selection).length = wirePathByteLen (.ofNat selection.pathLen) := by
  simp only [selectionEncodes, Bool.and_eq_true, decide_eq_true_eq] at h
  obtain ⟨⟨⟨⟨hvalid, hbytes⟩, -⟩, -⟩, -⟩ := h
  refine ⟨hvalid, hbytes, length_pointed fun hlt => ?_⟩
  rw [if_pos (hbytes ▸ hlt)]
  rfl

theorem buildDmTextPacket_ok (hc : c.Lawful) (hready : settings.ready = true)
    (htext : validateUserText (some text) = espOk)
    (hcontact : hexToBytes pubKeySize contact.publicKeyHex.bytes = some destPub)
    (hderived : settings.sharedSecret destPub = .ok secret) (hsecret : secret.length = secretSize)
    (hattempt : attempt ≤ 3) (hselection : selectionEncodes selection = true)
    (txTimestamp : UInt32) :
    ∃ macCipher,
      buildDmTextPacket c settings contact (some text) selection attempt txTimestamp
          maxRawPacket =
        .ok (airFrame (dmTextHeader selection.route) (.ofNat selection.pathLen)
            (selectionPath selection)
            (destPub.getD 0 0 :: settings.publicKey.getD 0 0 :: macCipher),
          calcDmAckHash c (dmPlain txTimestamp attempt text.bytes) settings.publicKey) ∧
      macSize < macCipher.length ∧ macCipher.length + 2 ≤ maxPacketPayload ∧
      encryptThenMac c secret
          (maxRawPacket - (2 + wirePathByteLen (.ofNat selection.pathLen) + 2))
          (dmPlain txTimestamp attempt text.bytes) = .ok macCipher ∧
      decryptAfterMac c secret maxRawPacket macCipher =
        zeroPadded (blockCount (dmPlain txTimestamp attempt text.bytes).length)
          (dmPlain txTimestamp attempt text.bytes) := by
  obtain ⟨-, hpos, hlong⟩ := validateUserText_span htext
  obtain ⟨hvalid, hbytes, hpath⟩ := selectionEncodes_spec hselection
  obtain ⟨hcodes, -, -, -⟩ := dmTextHeader_spec selection.route
  have hpathMax := wirePathByteLen_le hvalid
  have hplain := length_dmPlain txTimestamp attempt text.bytes
  unfold userTextMaxBytes at hlong
  unfold maxPathBytes at hpathMax
  generalize hp : dmPlain txTimestamp attempt text.bytes = plain at hplain
  obtain ⟨hle, hlt⟩ := blockCount_bounds plain.length
  have hblocks : blockCount plain.length * blockSize ≤ 144 := by
    unfold blockCount blockSize
    omega
  have hroom : macSize + blockCount plain.length * blockSize ≤
      maxRawPacket - (2 + wirePathByteLen (.ofNat selection.pathLen) + 2) := by
    unfold macSize maxRawPacket
    omega
  obtain ⟨macCipher, hsealed, hsealedLen, hopen⟩ :=
    sealed_opens hc hsecret (show 0 < plain.length by omega) hroom
  unfold macSize at hsealedLen
  refine ⟨macCipher, ?_, by unfold macSize; omega, by unfold maxPacketPayload; omega, hsealed,
    hopen maxRawPacket (by unfold maxRawPacket; omega)⟩
  have hnotNull : 0 < wirePathByteLen (.ofNat selection.pathLen) →
      (if 0 < selection.pathByteLen then some (Bytes.pointer selection.path 0) else none).isSome =
        true := by
    intro h
    rw [if_pos (hbytes ▸ h)]
    rfl
  have hfront := wireWritePrefix_plain hcodes hvalid hnotNull
  have hwritten := write_sealed (List.replicate maxRawPacket 0)
    (dmTextHeader selection.route :: .ofNat selection.pathLen :: selectionPath selection) macCipher
    (destPub.getD 0 0) (settings.publicKey.getD 0 0)
  have hlength : (dmTextHeader selection.route :: .ofNat selection.pathLen ::
      selectionPath selection).length = 2 + wirePathByteLen (.ofNat selection.pathLen) := by
    rw [List.length_cons, List.length_cons, hpath]
    omega
  rw [hlength] at hwritten
  have hkey : contact.publicKeyHex.bytes ≠ [] := by
    intro hnil
    rw [hnil] at hcontact
    cases hcontact
  unfold buildDmTextPacket
  dsimp only
  rw [if_neg (by rw [hready]; exact Bool.false_ne_true), if_neg (not_not.mpr htext), if_neg hkey,
    if_neg (by
      rintro (hover | hbad)
      · omega
      · exact Bool.noConfusion (hbad.symm.trans hselection)), hcontact]
  dsimp only
  rw [hderived]
  dsimp only
  rw [hfront]
  dsimp only
  rw [if_neg (by unfold maxRawPacket; omega), hp, hsealed]
  dsimp only
  rw [if_neg (by unfold uint8Max; omega)]
  exact congrArg (fun raw => Except.ok (raw, calcDmAckHash c plain settings.publicKey)) hwritten

end Build

/-- The other contacts' secrets do not pass the MAC of what this secret sealed. -/
def OthersFail (c : Crypto) (settings : LocalIdentity) (secret : List UInt8)
    (scan : List Contact.ContactEntry) (own : Contact.ContactEntry) : Prop :=
  ∀ contact ∈ scan, contact ≠ own → ∀ pub other,
    hexToBytes pubKeySize contact.publicKeyHex.bytes = some pub →
    settings.sharedSecret pub = .ok other → ∀ plain destSize packet openSize,
      encryptThenMac c secret destSize plain = .ok packet →
        decryptAfterMac c other openSize packet = []

section Receive

variable {c : Crypto} {settings : LocalIdentity} {hooks : AdminHooks}
variable {cache : PacketHash.PacketHashCache} {packet : WirePacket}
variable {scan : List Contact.ContactEntry} {own : Contact.ContactEntry} {opened : OpenedDm}

theorem scanDmContacts_take (hmem : own ∈ scan)
    (hown : tryDmContact c settings hooks cache packet own = .take opened)
    (hother : ∀ contact ∈ scan, contact ≠ own →
      tryDmContact c settings hooks cache packet contact = .skip) :
    scanDmContacts c settings hooks cache packet scan = some opened := by
  induction scan with
  | nil => cases hmem
  | cons contact contacts ih =>
    rw [scanDmContacts]
    by_cases heq : contact = own
    · rw [heq, hown]
    · rw [hother contact List.mem_cons_self heq]
      refine ih ?_ fun f hf => hother f (List.mem_cons_of_mem _ hf)
      exact (List.mem_cons.mp hmem).resolve_left (Ne.symm heq)

theorem tryDmContact_skip {contact : Contact.ContactEntry}
    (h : ∀ pub other, hexToBytes pubKeySize contact.publicKeyHex.bytes = some pub →
      settings.sharedSecret pub = .ok other →
      decryptAfterMac c other maxRawPacket (packet.payloadBytes.drop 2) = []) :
    tryDmContact c settings hooks cache packet contact = .skip := by
  unfold tryDmContact
  cases hpub : hexToBytes pubKeySize contact.publicKeyHex.bytes with
  | none => rfl
  | some pub =>
    dsimp only
    by_cases hfirst : pub.getD 0 0 ≠ packet.payloadBytes.getD 1 0
    · rw [if_pos hfirst]
    rw [if_neg hfirst]
    by_cases hpeer : peerDispatchClassify settings.publicKey pub (canDm contact) ≠ .authorized
    · rw [if_pos hpeer]
    rw [if_neg hpeer]
    cases hsecret : settings.sharedSecret pub with
    | error ret => rfl
    | ok other =>
      dsimp only
      rw [h pub other hpub hsecret]
      exact if_pos (by decide)

theorem readDmPlain_padded {text : CStr} {attempt : Nat} {senderPub secret : List UInt8}
    (htext : validateUserText (some text) = espOk) (hattempt : attempt ≤ 3)
    (txTimestamp : UInt32) (k : Nat) :
    readDmPlain c hooks cache packet own senderPub secret
        (dmPlain txTimestamp attempt text.bytes ++ List.replicate k 0) =
      .take ⟨own, senderPub, secret, dmPlain txTimestamp attempt text.bytes ++ List.replicate k 0,
        false, ⟨text.bytes, userTextValidateSpan text.bytes false, 0⟩, text.bytes⟩ := by
  obtain ⟨hspan, hpos, -⟩ := validateUserText_span htext
  obtain ⟨-, hflags, hdrop, -⟩ :=
    dmPlain_fields txTimestamp hattempt text.bytes (List.replicate k 0)
  have hlong : ¬(dmPlain txTimestamp attempt text.bytes ++ List.replicate k 0).length < 6 := by
    rw [List.length_append, length_dmPlain]
    omega
  have hview := textPlaintextView_padded (n := k) text.no_nul (by omega) true hattempt
  rw [if_neg (not_not.mpr hspan)] at hview
  unfold readDmPlain
  dsimp only
  rw [if_neg hlong, hflags, hdrop, if_neg (by unfold txtTypeCliData; omega),
    if_neg (by unfold txtTypeSignedPlain; omega), if_pos (by unfold txtTypePlain; omega),
    Nat.mod_eq_of_lt (by omega), hview]

end Receive

/-- A direct message between two nodes, with the contacts each of them has. -/
structure Exchange where
  crypto : Crypto
  sender : LocalIdentity
  receiver : LocalIdentity
  secret : List UInt8
  receiverContact : Contact.ContactEntry
  senderContact : Contact.ContactEntry
  senderScan : List Contact.ContactEntry
  receiverScan : List Contact.ContactEntry
  text : CStr
  attempt : Nat
  txTimestamp : UInt32
  selection : RouteSelection

namespace Exchange

/-- The two nodes know each other, the key exchange gives them one secret that nobody else has, and
the message is one the sender accepts. -/
structure Fair (e : Exchange) : Prop where
  crypto : e.crypto.Lawful
  senderReady : e.sender.ready = true
  receiverReady : e.receiver.ready = true
  senderKey : e.sender.publicKey.length = pubKeySize
  apart : e.receiver.publicKey ≠ e.sender.publicKey
  receiverContact : hexToBytes pubKeySize e.receiverContact.publicKeyHex.bytes =
    some e.receiver.publicKey
  senderContact : hexToBytes pubKeySize e.senderContact.publicKeyHex.bytes =
    some e.sender.publicKey
  senderDerives : e.sender.sharedSecret e.receiver.publicKey = .ok e.secret
  receiverDerives : e.receiver.sharedSecret e.sender.publicKey = .ok e.secret
  secret : e.secret.length = secretSize
  senderScan : e.receiverContact ∈ e.senderScan
  receiverScan : e.senderContact ∈ e.receiverScan
  authorized : canDm e.senderContact = true
  senderOthers : OthersFail e.crypto e.sender e.secret e.senderScan e.receiverContact
  receiverOthers : OthersFail e.crypto e.receiver e.secret e.receiverScan e.senderContact
  text : validateUserText (some e.text) = espOk
  attempt : e.attempt ≤ 3
  selection : selectionEncodes e.selection = true

variable (e : Exchange)

def built : Except EspErr (List UInt8 × Nat) :=
  buildDmTextPacket e.crypto e.sender e.receiverContact (some e.text) e.selection e.attempt
    e.txTimestamp maxRawPacket

def plain : List UInt8 := dmPlain e.txTimestamp e.attempt e.text.bytes

def padded : List UInt8 := zeroPadded (blockCount e.plain.length) e.plain

def opened : OpenedDm where
  contact := e.senderContact
  senderPub := e.sender.publicKey
  secret := e.secret
  plain := e.padded
  roomPost := false
  view := ⟨e.text.bytes, userTextValidateSpan e.text.bytes false, 0⟩
  storedMessage := e.text.bytes

variable {e}

theorem Fair.delivered (h : e.Fair) : ∃ raw,
    e.built = .ok (raw, calcDmAckHash e.crypto e.plain e.sender.publicKey) ∧
      ∀ received, Carried raw received → ∀ hooks cache, ∃ packet,
        openDmPacket e.crypto e.receiver hooks cache e.receiverScan received =
          some (packet, e.opened) ∧
        packet.version = payloadVer1 ∧ packet.type = payloadText ∧
        packet.route = routeOf (dmTextHeader e.selection.route) ∧
        wirePathLenValid packet.pathLen = true ∧
        packet.pathByteLen = wirePathByteLen packet.pathLen ∧
        packet.pathBytes.length = wirePathByteLen packet.pathLen ∧
        (0 < wirePathByteLen packet.pathLen → packet.path.isSome = true) := by
  obtain ⟨macCipher, hbuilt, hlong, hmax, hsealed, hopen⟩ :=
    buildDmTextPacket_ok h.crypto h.senderReady h.text h.receiverContact h.senderDerives h.secret
      h.attempt h.selection e.txTimestamp
  obtain ⟨-, -, hpath⟩ := selectionEncodes_spec h.selection
  obtain ⟨hcodes, hversion, htype, -⟩ := dmTextHeader_spec e.selection.route
  refine ⟨_, hbuilt, fun received hcarried hooks cache => ?_⟩
  obtain ⟨pathLen', path', rfl, hvalid', hlen'⟩ := hcarried.frame hpath
  obtain ⟨q, hq, hroute, hqtype, hqver, hqlen, hqpath, hqbytes, hqsome, hqload, hqsize⟩ :=
    decode_airFrame hcodes hversion hvalid' hlen'
      (show 0 < (e.receiver.publicKey.getD 0 0 :: e.sender.publicKey.getD 0 0 :: macCipher).length
        from Nat.succ_pos _) hmax
  refine ⟨q, ?_, hqver, hqtype.trans htype, hroute, hqlen ▸ hvalid', hqlen ▸ hqbytes,
    by rw [hqpath, hqlen, hlen'], fun hlt => hqsome (hqlen ▸ hlt)⟩
  have hsealedBytes : q.payloadBytes.drop 2 = macCipher := by
    rw [hqload]
    rfl
  have hown : tryDmContact e.crypto e.receiver hooks cache q e.senderContact = .take e.opened := by
    unfold tryDmContact
    rw [h.senderContact]
    dsimp only
    rw [if_neg (by rw [hqload]; exact not_not.mpr rfl), if_neg (by
      unfold peerDispatchClassify
      rw [if_neg h.apart, h.authorized, if_pos rfl]
      exact not_not.mpr rfl), h.receiverDerives]
    dsimp only
    rw [hsealedBytes, hopen]
    exact readDmPlain_padded h.text h.attempt e.txTimestamp _
  have hothers : ∀ contact ∈ e.receiverScan, contact ≠ e.senderContact →
      tryDmContact e.crypto e.receiver hooks cache q contact = .skip := by
    intro contact hmem hne
    apply tryDmContact_skip
    intro pub other hpub hother
    rw [hsealedBytes]
    exact h.receiverOthers contact hmem hne pub other hpub hother _ _ _ _ hsealed
  unfold openDmPacket
  rw [hq]
  dsimp only
  rw [if_neg (by
    rintro (hbad | hshort | hbad | hbad)
    · exact hbad (hqtype.trans htype)
    · rw [hqsize] at hshort
      simp only [List.length_cons] at hshort
      omega
    · exact Bool.noConfusion (hbad.symm.trans h.receiverReady)
    · rw [hqload] at hbad
      exact hbad rfl), scanDmContacts_take h.receiverScan hown hothers]
  rfl

end Exchange

end Sigui.DmText

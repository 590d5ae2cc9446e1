import Sigui.ChannelArrival
import Sigui.DmAgreement

/-! The ACK of a direct message on its way back: every shape of it gives the sender the hash that
was stored with the message. -/
namespace Sigui.DmText

open TextPlaintext MeshCrypto Wire MeshPath

section Plans

variable {inbound : WirePacket} {floodPathHashBytes : Nat} {outboundPathValid : Bool}
variable {outboundPath : Option Bytes.Memory} {outboundPathLen : UInt8} {ackHash : List UInt8}
variable {extendedAttempt nonce : UInt8} {plan : AckDispatchPlan}

structure PlanRoutes (plan : AckDispatchPlan) : Prop where
  pathLen : wirePathLenValid plan.pathLen = true
  path : plan.path.length = wirePathByteLen plan.pathLen
  route : plan.route = routeFlood ∨ plan.route = routeDirect

theorem floodPathLen_spec (h : 1 ≤ floodPathHashBytes ∧ floodPathHashBytes ≤ 3) :
    wirePathLenValid (floodPathLen floodPathHashBytes) = true ∧
      wirePathByteLen (floodPathLen floodPathHashBytes) = 0 := by
  obtain ⟨-, -, hbytes, hvalid⟩ := ChannelText.emptyPath_spec h
  exact ⟨hvalid, hbytes⟩

theorem ackDispatchPlan_spec
    (h : ackDispatchPlan inbound floodPathHashBytes outboundPathValid outboundPath outboundPathLen
      ackHash extendedAttempt nonce = some plan) :
    PlanRoutes plan ∧ plan.ack = ackHash.take 4 ++ [extendedAttempt, nonce] ∧
      (plan.kind = .floodAckPath ∧ plan.route = routeFlood ∧ plan.path = [] ∧
          plan.returnPathLen = inbound.pathLen ∧ plan.returnPath = inbound.pathBytes ∧
          wirePathLenValid inbound.pathLen = true ∧
          inbound.pathBytes.length = wirePathByteLen inbound.pathLen ∨
        plan.kind = .directAck ∨ plan.kind = .floodAck) := by
  unfold ackDispatchPlan at h
  by_cases hrefused : inbound.version ≠ payloadVer1 ∨ inbound.type ≠ payloadText ∨
      routeTransportDirect < inbound.route ∨ floodPathHashBytes < 1 ∨ 3 < floodPathHashBytes ∨
      wirePathLenValid inbound.pathLen = false
  · rw [if_pos hrefused] at h
    cases h
  rw [if_neg hrefused] at h
  simp only [not_or, Nat.not_lt, Bool.not_eq_false] at hrefused
  obtain ⟨-, -, -, hlow, hhigh, hinbound⟩ := hrefused
  obtain ⟨hvalid, hnone⟩ := floodPathLen_spec ⟨hlow, hhigh⟩
  dsimp only at h
  by_cases hnull : inbound.pathByteLen ≠ wirePathByteLen inbound.pathLen ∨
      (0 < wirePathByteLen inbound.pathLen ∧ inbound.path.isNone = true)
  · rw [if_pos hnull] at h
    cases h
  rw [if_neg hnull] at h
  have hinboundPath : 0 < wirePathByteLen inbound.pathLen → inbound.path.isSome = true := by
    intro hlt
    by_contra hsome
    exact hnull (.inr ⟨hlt, by simpa using hsome⟩)
  by_cases hout : outboundPathValid = true ∧ (wirePathLenValid outboundPathLen = false ∨
      (0 < wirePathByteLen outboundPathLen ∧ outboundPath.isNone = true))
  · rw [if_pos hout] at h
    cases h
  rw [if_neg hout] at h
  by_cases hflood : inbound.route = routeFlood ∨ inbound.route = routeTransportFlood
  · rw [if_pos hflood] at h
    cases h
    exact ⟨⟨hvalid, hnone.symm, .inl rfl⟩, rfl,
      .inl ⟨rfl, rfl, rfl, rfl, rfl, hinbound, length_pointed hinboundPath⟩⟩
  rw [if_neg hflood] at h
  by_cases hdirect : outboundPathValid = true
  · rw [if_pos hdirect] at h
    cases h
    have hvalidOut : wirePathLenValid outboundPathLen = true := by
      by_contra hbad
      exact hout ⟨hdirect, .inl (by simpa using hbad)⟩
    have hsomeOut : 0 < wirePathByteLen outboundPathLen → outboundPath.isSome = true := by
      intro hlt
      by_contra hsome
      exact hout ⟨hdirect, .inr ⟨hlt, by simpa using hsome⟩⟩
    exact ⟨⟨hvalidOut, length_pointed hsomeOut, .inr rfl⟩, rfl, .inr (.inl rfl)⟩
  · rw [if_neg hdirect] at h
    cases h
    exact ⟨⟨hvalid, hnone.symm, .inl rfl⟩, rfl, .inr (.inr rfl)⟩

theorem ackDispatchPlan_some (hversion : inbound.version = payloadVer1)
    (htype : inbound.type = payloadText) (hroute : inbound.route ≤ routeTransportDirect)
    (hflood : 1 ≤ floodPathHashBytes ∧ floodPathHashBytes ≤ 3)
    (hvalid : wirePathLenValid inbound.pathLen = true)
    (hbytes : inbound.pathByteLen = wirePathByteLen inbound.pathLen)
    (hsome : 0 < wirePathByteLen inbound.pathLen → inbound.path.isSome = true)
    (hout : outboundPathValid = true → wirePathLenValid outboundPathLen = true ∧
      outboundPath.isSome = true) (ackHash : List UInt8) (extendedAttempt nonce : UInt8) :
    ∃ plan, ackDispatchPlan inbound floodPathHashBytes outboundPathValid outboundPath
      outboundPathLen ackHash extendedAttempt nonce = some plan := by
  have haccepted : ¬(inbound.version ≠ payloadVer1 ∨ inbound.type ≠ payloadText ∨
      routeTransportDirect < inbound.route ∨ floodPathHashBytes < 1 ∨ 3 < floodPathHashBytes ∨
      wirePathLenValid inbound.pathLen = false) := by
    rintro (hbad | hbad | hbad | hbad | hbad | hbad)
    · exact hbad hversion
    · exact hbad htype
    · omega
    · omega
    · omega
    · exact Bool.noConfusion (hbad.symm.trans hvalid)
  have hinbound : ¬(inbound.pathByteLen ≠ wirePathByteLen inbound.pathLen ∨
      (0 < wirePathByteLen inbound.pathLen ∧ inbound.path.isNone = true)) := by
    rintro (hbad | ⟨hlt, hnone⟩)
    · exact hbad hbytes
    · rw [Option.isNone_iff_eq_none] at hnone
      exact Bool.noConfusion ((congrArg Option.isSome hnone).symm.trans (hsome hlt))
  have houtbound : ¬(outboundPathValid = true ∧ (wirePathLenValid outboundPathLen = false ∨
      (0 < wirePathByteLen outboundPathLen ∧ outboundPath.isNone = true))) := by
    rintro ⟨hvalidOut, hbad⟩
    obtain ⟨hlen, hpath⟩ := hout hvalidOut
    rcases hbad with hbad | ⟨-, hnone⟩
    · exact Bool.noConfusion (hbad.symm.trans hlen)
    · rw [Option.isNone_iff_eq_none] at hnone
      exact Bool.noConfusion ((congrArg Option.isSome hnone).symm.trans hpath)
  unfold ackDispatchPlan
  rw [if_neg haccepted]
  dsimp only
  rw [if_neg hinbound, if_neg houtbound]
  split_ifs <;> exact ⟨_, rfl⟩

end Plans

section Build

variable {c : Crypto} {settings : LocalIdentity} {plan : AckDispatchPlan}
variable {senderPub secret : List UInt8} {ackLen : Nat}

def ackHeader (route : Nat) : UInt8 := .ofNat (payloadAck * 4 + route)

def pathHeader : UInt8 := .ofNat (payloadPath * 4 + routeFlood)

theorem ackHeader_spec {route : Nat} (h : route = routeFlood ∨ route = routeDirect) :
    routeHasTransportCodes (routeOf (ackHeader route)) = false ∧
      (ackHeader route).toNat / 64 % 4 = payloadVer1 ∧
      (ackHeader route).toNat / 4 % 16 = payloadAck := by
  rcases h with rfl | rfl <;> decide

theorem pathHeader_spec : routeHasTransportCodes (routeOf pathHeader) = false ∧
    pathHeader.toNat / 64 % 4 = payloadVer1 ∧ pathHeader.toNat / 4 % 16 = payloadPath := by
  decide

theorem buildDmAckResponse_ack (hready : settings.ready = true)
    (hlen : ackLen = 4 ∨ ackLen = ackWireBytes) (hroutes : PlanRoutes plan)
    (hkind : plan.kind = .directAck ∨ plan.kind = .floodAck) (hack : plan.ack.length = 6) :
    buildDmAckResponse c settings senderPub secret plan ackLen maxRawPacket =
      .ok (airFrame (ackHeader plan.route) plan.pathLen plan.path (plan.ack.take ackLen)) := by
  obtain ⟨hcodes, -, -⟩ := ackHeader_spec hroutes.route
  have hmax := wirePathByteLen_le hroutes.pathLen
  unfold maxPathBytes at hmax
  have hsix : ackLen ≤ 6 := by
    unfold ackWireBytes at hlen
    omega
  have hpath : pointed (if plan.path = [] then none else some (Bytes.pointer plan.path 0))
      (wirePathByteLen plan.pathLen) = plan.path := by
    rw [← hroutes.path]
    by_cases hnil : plan.path = []
    · rw [if_pos hnil, hnil]
      rfl
    · rw [if_neg hnil]
      refine (Bytes.read_pointer (by omega)).trans ?_
      rw [List.drop_zero, List.take_length]
  have hnotNull : 0 < wirePathByteLen plan.pathLen →
      (if plan.path = [] then none else some (Bytes.pointer plan.path 0)).isSome = true := by
    intro hlt
    rw [if_neg fun hnil => by
      rw [← hroutes.path, hnil] at hlt
      exact Nat.lt_irrefl 0 hlt]
    rfl
  have hfront := wireWritePrefix_plain hcodes hroutes.pathLen hnotNull
  rw [hpath] at hfront
  have hlength : (ackHeader plan.route :: plan.pathLen :: plan.path).length =
      2 + wirePathByteLen plan.pathLen := by
    rw [List.length_cons, List.length_cons, hroutes.path]
    omega
  have htake : (plan.ack.take ackLen).length = ackLen := by
    rw [List.length_take, hack]
    omega
  have hwritten := Bytes.write_write (List.replicate maxRawPacket 0)
    (ackHeader plan.route :: plan.pathLen :: plan.path) (plan.ack.take ackLen)
  rw [hlength] at hwritten
  unfold buildDmAckResponse
  rw [if_neg (by
    rintro (hbad | hbad)
    · rw [hready] at hbad
      exact Bool.noConfusion hbad
    · omega)]
  have hframe : (Bytes.write (Bytes.write (List.replicate maxRawPacket 0) 0
      (ackHeader plan.route :: plan.pathLen :: plan.path)) (2 + wirePathByteLen plan.pathLen)
      (plan.ack.take ackLen)).take (2 + wirePathByteLen plan.pathLen + ackLen) =
      airFrame (ackHeader plan.route) plan.pathLen plan.path (plan.ack.take ackLen) := by
    have hall : 2 + wirePathByteLen plan.pathLen + ackLen =
        ((ackHeader plan.route :: plan.pathLen :: plan.path) ++ plan.ack.take ackLen).length := by
      rw [List.length_append, hlength, htake]
    rw [hwritten, hall, Bytes.take_write]
    rfl
  rcases hkind with hkind | hkind
  all_goals
    rw [hkind]
    dsimp only
    rw [show UInt8.ofNat (payloadAck * 4 + plan.route) = ackHeader plan.route from rfl, hfront]
    dsimp only
    rw [if_neg (by unfold maxRawPacket; omega), if_neg (by unfold uint8Max; omega), hframe]

theorem buildDmAckResponse_path (hc : c.Lawful) (hready : settings.ready = true)
    (hlen : ackLen = 4 ∨ ackLen = ackWireBytes) (hroutes : PlanRoutes plan)
    (hkind : plan.kind = .floodAckPath) (hpath : plan.path = [])
    (hvalid : wirePathLenValid plan.returnPathLen = true)
    (hreturn : plan.returnPath.length = wirePathByteLen plan.returnPathLen)
    (hsecret : secret.length = secretSize) :
    ∃ macCipher destSize,
      buildDmAckResponse c settings senderPub secret plan ackLen maxRawPacket =
        .ok (airFrame pathHeader plan.pathLen []
          (senderPub.getD 0 0 :: settings.publicKey.getD 0 0 :: macCipher)) ∧
      macSize < macCipher.length ∧ macCipher.length + 2 ≤ maxPacketPayload ∧
      encryptThenMac c secret destSize (ackPathPlain plan ackLen) = .ok macCipher ∧
      decryptAfterMac c secret maxRawPacket macCipher =
        zeroPadded (blockCount (ackPathPlain plan ackLen).length) (ackPathPlain plan ackLen) := by
  have hmax := wirePathByteLen_le hvalid
  unfold maxPathBytes at hmax
  have hplain : 2 ≤ (ackPathPlain plan ackLen).length ∧
      (ackPathPlain plan ackLen).length ≤ 72 := by
    have htake : (plan.ack.take ackLen).length ≤ 6 := by
      rw [List.length_take]
      unfold ackWireBytes at hlen
      omega
    simp only [ackPathPlain, List.length_cons, List.length_append, hreturn]
    omega
  obtain ⟨hcodes, -, -⟩ := pathHeader_spec
  have hnone : wirePathByteLen plan.pathLen = 0 := by
    rw [← hroutes.path, hpath, List.length_nil]
  generalize hp : ackPathPlain plan ackLen = plain at hplain
  obtain ⟨hle, hlt⟩ := blockCount_bounds plain.length
  have hblocks : blockCount plain.length * blockSize ≤ 80 := by
    unfold blockCount blockSize
    omega
  have hroom : macSize + blockCount plain.length * blockSize ≤ maxRawPacket - (2 + 2) := by
    unfold macSize maxRawPacket
    omega
  obtain ⟨macCipher, hsealed, hsealedLen, hopen⟩ :=
    sealed_opens hc hsecret (show 0 < plain.length by omega) hroom
  unfold macSize at hsealedLen
  refine ⟨macCipher, maxRawPacket - (2 + 2), ?_, by unfold macSize; omega,
    by unfold maxPacketPayload; omega, hsealed,
    hopen maxRawPacket (by unfold maxRawPacket; omega)⟩
  have hfront := wireWritePrefix_plain hcodes hroutes.pathLen
    (show 0 < wirePathByteLen plan.pathLen → (none : Option Bytes.Memory).isSome = true from
      fun hpos => absurd (hnone ▸ hpos) (Nat.lt_irrefl 0))
  rw [hnone] at hfront
  have hwritten := write_sealed (List.replicate maxRawPacket 0) [pathHeader, plan.pathLen] macCipher
    (senderPub.getD 0 0) (settings.publicKey.getD 0 0)
  unfold buildDmAckResponse
  rw [if_neg (by
    rintro (hbad | hbad)
    · rw [hready] at hbad
      exact Bool.noConfusion hbad
    · omega), hkind]
  dsimp only
  rw [show UInt8.ofNat (payloadPath * 4 + routeFlood) = pathHeader from rfl, hfront]
  dsimp only
  rw [if_neg (by decide), hp, hsealed]
  dsimp only
  rw [if_neg (by unfold uint8Max; omega)]
  exact congrArg Except.ok hwritten

end Build

section Read

variable {c : Crypto} {settings : LocalIdentity} {scan : List Contact.ContactEntry}
variable {own : Contact.ContactEntry} {packet : WirePacket}

theorem readLe32_front {n : Nat} (h : n < 0x100000000) (rest : List UInt8) :
    Admin.readLe32 (le32 n ++ rest) 0 = n :=
  (show Admin.readLe32 (le32 n ++ rest) 0 = Admin.readLe32 (le32 n) 0 from rfl).trans
    (readLe32_le32 h)

theorem readAckPacket_frame {route pathHash : Nat} {pathLen : UInt8} {path rest : List UInt8}
    (hroute : route = routeFlood ∨ route = routeDirect) (hvalid : wirePathLenValid pathLen = true)
    (hpath : path.length = wirePathByteLen pathLen) (hhash : pathHash < 0x100000000)
    (hrest : rest.length ≤ 2) :
    readAckPacket (airFrame (ackHeader route) pathLen path (le32 pathHash ++ rest)) =
      some pathHash := by
  obtain ⟨hcodes, hversion, htype⟩ := ackHeader_spec hroute
  have hlen : (le32 pathHash ++ rest).length = 4 + rest.length := by
    rw [List.length_append]
    rfl
  obtain ⟨q, hq, -, hqtype, -, -, -, -, -, hqload, hqsize⟩ :=
    decode_airFrame hcodes hversion hvalid hpath (show 0 < (le32 pathHash ++ rest).length by omega)
      (by unfold maxPacketPayload; omega)
  unfold readAckPacket
  rw [hq]
  dsimp only
  rw [if_pos ⟨hqtype.trans htype, by omega⟩, hqload, readLe32_front hhash]

theorem pathPlainDecode_ack {pathLen : UInt8} {path extra : List UInt8}
    (hvalid : wirePathLenValid pathLen = true) (hpath : path.length = wirePathByteLen pathLen)
    (hextra : 4 ≤ extra.length) :
    pathPlainDecode (pathLen :: (path ++ UInt8.ofNat payloadAck :: extra)) =
      some ⟨pathLen, path, .ofNat payloadAck, extra, pathSourceAckPath, .ack⟩ := by
  have hlength : (pathLen :: (path ++ UInt8.ofNat payloadAck :: extra)).length =
      wirePathByteLen pathLen + 2 + extra.length := by
    simp only [List.length_cons, List.length_append, hpath]
    omega
  have htype : (pathLen :: (path ++ UInt8.ofNat payloadAck :: extra)).getD
      (1 + wirePathByteLen pathLen) 0 = UInt8.ofNat payloadAck := by
    rw [Nat.add_comm, List.getD_cons_succ, ← hpath, List.getD_append_right _ _ _ _ le_rfl,
      Nat.sub_self]
    rfl
  have htake : ((pathLen :: (path ++ UInt8.ofNat payloadAck :: extra)).drop 1).take
      (wirePathByteLen pathLen) = path := by
    rw [List.drop_succ_cons, List.drop_zero, ← hpath, List.take_left]
  have hdrop : (pathLen :: (path ++ UInt8.ofNat payloadAck :: extra)).drop
      (2 + wirePathByteLen pathLen) = extra := by
    rw [show 2 + wirePathByteLen pathLen = (path.length + 1) + 1 by omega, List.drop_succ_cons,
      ← List.drop_drop, List.drop_left]
    rfl
  have hroom : ¬(pathLen :: (path ++ UInt8.ofNat payloadAck :: extra)).length <
      wirePathByteLen pathLen + 2 := by
    omega
  unfold pathPlainDecode
  dsimp only
  rw [List.getD_cons_zero, if_neg (by
      rintro (hshort | hbad)
      · omega
      · exact Bool.noConfusion (hbad.symm.trans hvalid)), if_neg hroom, htype, htake, hdrop,
    if_neg (Nat.not_lt.mpr hextra)]
  rfl

theorem openPathPacket_found {pub secret sealed : List UInt8} {decoded : PathPlain}
    (hmem : own ∈ scan) (hpub : hexToBytes pubKeySize own.publicKeyHex.bytes = some pub)
    (hsecret : settings.sharedSecret pub = .ok secret)
    (hfirst : pub.getD 0 0 = packet.payloadBytes.getD 1 0)
    (hsealed : packet.payloadBytes.drop 2 = sealed)
    (hopen : pathPlainDecode (decryptAfterMac c secret maxRawPacket sealed) = some decoded)
    (hother : ∀ contact ∈ scan, contact ≠ own → ∀ pub other,
      hexToBytes pubKeySize contact.publicKeyHex.bytes = some pub →
      settings.sharedSecret pub = .ok other → decryptAfterMac c other maxRawPacket sealed = []) :
    openPathPacket c settings packet scan = some (own, decoded) := by
  induction scan with
  | nil => cases hmem
  | cons contact contacts ih =>
    by_cases heq : contact = own
    · rw [openPathPacket, heq, hpub]
      dsimp only
      rw [if_neg (not_not.mpr hfirst), hsecret]
      dsimp only
      rw [hsealed, hopen]
    · have hrest : openPathPacket c settings packet contacts = some (own, decoded) :=
        ih ((List.mem_cons.mp hmem).resolve_left (Ne.symm heq)) fun f hf =>
          hother f (List.mem_cons_of_mem _ hf)
      rw [openPathPacket]
      cases hkey : hexToBytes pubKeySize contact.publicKeyHex.bytes with
      | none => exact hrest
      | some key =>
        dsimp only
        by_cases hbyte : key.getD 0 0 ≠ packet.payloadBytes.getD 1 0
        · rw [if_pos hbyte]
          exact hrest
        rw [if_neg hbyte]
        cases hderived : settings.sharedSecret key with
        | error ret => exact hrest
        | ok other =>
          dsimp only
          rw [hsealed, hother contact List.mem_cons_self heq key other hkey hderived]
          exact hrest

theorem zeroPadded_ackPathPlain {plan : AckDispatchPlan} {ackLen n : Nat} {front rest : List UInt8}
    (h : plan.ack.take ackLen = front ++ rest) :
    zeroPadded n (ackPathPlain plan ackLen) =
      plan.returnPathLen :: (plan.returnPath ++ UInt8.ofNat payloadAck :: (front ++ (rest ++
        List.replicate (n * blockSize - (ackPathPlain plan ackLen).length) 0))) := by
  generalize hk : n * blockSize - (ackPathPlain plan ackLen).length = k
  rw [zeroPadded, hk, ackPathPlain, h]
  simp only [List.cons_append, List.append_assoc]

theorem readPathAck_frame {pub secret macCipher path returnPath rest : List UInt8}
    {pathLen returnPathLen : UInt8} {hash : Nat} (hready : settings.ready = true)
    (hmem : own ∈ scan) (hpub : hexToBytes pubKeySize own.publicKeyHex.bytes = some pub)
    (hsecret : settings.sharedSecret pub = .ok secret)
    (hvalid : wirePathLenValid pathLen = true) (hpath : path.length = wirePathByteLen pathLen)
    (hlong : macSize < macCipher.length) (hmax : macCipher.length + 2 ≤ maxPacketPayload)
    (hopen : decryptAfterMac c secret maxRawPacket macCipher = returnPathLen :: (returnPath ++
      UInt8.ofNat payloadAck :: (le32 hash ++ rest)))
    (hreturnValid : wirePathLenValid returnPathLen = true)
    (hreturn : returnPath.length = wirePathByteLen returnPathLen) (hhash : hash < 0x100000000)
    (hother : ∀ contact ∈ scan, contact ≠ own → ∀ pub other,
      hexToBytes pubKeySize contact.publicKeyHex.bytes = some pub →
      settings.sharedSecret pub = .ok other → decryptAfterMac c other maxRawPacket macCipher = []) :
    readPathAck c settings scan (airFrame pathHeader pathLen path
      (settings.publicKey.getD 0 0 :: pub.getD 0 0 :: macCipher)) = some hash := by
  obtain ⟨hcodes, hversion, htype⟩ := pathHeader_spec
  obtain ⟨q, hq, -, hqtype, -, -, -, -, -, hqload, hqsize⟩ :=
    decode_airFrame hcodes hversion hvalid hpath
      (show 0 < (settings.publicKey.getD 0 0 :: pub.getD 0 0 :: macCipher).length
        from Nat.succ_pos _) hmax
  have hdecoded := pathPlainDecode_ack hreturnValid hreturn
    (show 4 ≤ (le32 hash ++ rest).length from Nat.le_add_left 4 _)
  rw [← hopen] at hdecoded
  have hfound := openPathPacket_found hmem hpub hsecret (by rw [hqload]; rfl)
    (show q.payloadBytes.drop 2 = macCipher by rw [hqload]; rfl) hdecoded hother
  unfold readPathAck
  rw [hq]
  dsimp only
  rw [if_neg (by
    rintro (hbad | hshort | hbad | hbad)
    · exact hbad (hqtype.trans htype)
    · rw [hqsize] at hshort
      simp only [List.length_cons] at hshort
      omega
    · exact Bool.noConfusion (hbad.symm.trans hready)
    · rw [hqload] at hbad
      exact hbad rfl), hfound]
  dsimp only
  rw [if_pos rfl, readLe32_front hhash]

end Read

theorem routeSelect_pathLen {known boot : Bool} {path : Option (List UInt8)} {pathLen : UInt8}
    {learnedAtMs nowMs floodBytes : Nat} {selection : RouteSelection}
    (h : routeSelect known boot path pathLen learnedAtMs nowMs floodBytes = some selection)
    (hdirect : selection.route = .direct) : wirePathLenValid (.ofNat selection.pathLen) = true := by
  obtain ⟨-, -, hvalid, -⟩ := routeSelect_direct h hdirect
  have hlen : selection.pathLen = pathLen.toNat := by
    unfold routeSelect at h
    dsimp only at h
    split_ifs at h
    all_goals
      cases h
      first
        | rfl
        | cases hdirect
  rw [hlen, UInt8.ofNat_toNat]
  exact hvalid

theorem routeSelectCanonical_pathLen {known boot : Bool} {path : Option (List UInt8)}
    {pathLen : UInt8} {state : PathState} {nowMs floodBytes : Nat} {selection : RouteSelection}
    (h : routeSelectCanonical known boot path pathLen state nowMs floodBytes = some selection)
    (hdirect : selection.route = .direct) :
    wirePathLenValid (.ofNat selection.pathLen) = true := by
  obtain ⟨inner, hinner, hsel⟩ := Option.map_eq_some_iff.mp h
  have hroute : inner.route = .direct := by
    rw [← hdirect, ← hsel]
    exact (forceReason_route ..).symm
  have hlen : selection.pathLen = inner.pathLen := by
    rw [← hsel]
    unfold forceReason
    split_ifs <;> rfl
  rw [hlen]
  exact routeSelect_pathLen hinner hroute

theorem routeSelectCanonical_some {floodBytes : Nat} (h : 1 ≤ floodBytes ∧ floodBytes ≤ 3)
    (known boot : Bool) (path : Option (List UInt8)) (pathLen : UInt8) (state : PathState)
    (nowMs : Nat) :
    ∃ selection, routeSelectCanonical known boot path pathLen state nowMs floodBytes =
      some selection := by
  have hpolicy : ¬(!floodPolicyValid floodBytes) = true := by
    rw [floodPolicyValid, decide_eq_true h.1, decide_eq_true h.2]
    exact Bool.false_ne_true
  have hsome : ∀ known, ∃ inner, routeSelect known boot path pathLen (validatedAtMs state) nowMs
      floodBytes = some inner := by
    intro known
    unfold routeSelect
    rw [if_neg hpolicy]
    dsimp only
    split_ifs <;> exact ⟨_, rfl⟩
  obtain ⟨inner, hinner⟩ := hsome (canonicalGate known state.lifecycle).1
  unfold routeSelectCanonical
  dsimp only
  rw [hinner]
  exact ⟨_, rfl⟩

def OpenedDm.identityInput (o : OpenedDm) : Option (List UInt8) :=
  dmIdentityMaterial o.senderPub o.plain o.wireMessageLen (identityPrefixBytes + maxTextBytes)

namespace Exchange

variable (e : Exchange)

/-- A message the receiver opened from something that arrived of the sender's packet. -/
def Opens (packet : WirePacket) (o : OpenedDm) (hash : Nat) : Prop :=
  ∃ raw received hooks cache, e.built = .ok (raw, hash) ∧ Carried raw received ∧
    openDmPacket e.crypto e.receiver hooks cache e.receiverScan received = some (packet, o)

def readAck (kind : AckDispatchKind) (arrived : List UInt8) : Option Nat :=
  match kind with
  | .floodAckPath => readPathAck e.crypto e.sender e.senderScan arrived
  | _ => readAckPacket arrived

structure Agrees : Prop where
  built : ∃ raw hash, e.built = .ok (raw, hash)
  delivered : ∀ raw hash, e.built = .ok (raw, hash) → ∀ received, Carried raw received →
    ∀ hooks cache, ∃ packet o,
      openDmPacket e.crypto e.receiver hooks cache e.receiverScan received = some (packet, o)
  recovered : ∀ packet o hash, e.Opens packet o hash →
    o.contact = e.senderContact ∧ o.roomPost = false ∧ o.storedMessage = e.text.bytes ∧
      o.storedAttempt = e.attempt ∧ o.ackHash e.crypto e.receiver = hash
  answered : ∀ packet o hash, e.Opens packet o hash → ∀ env contact,
    1 ≤ env.pathHashBytes ∧ env.pathHashBytes ≤ 3 →
      ∃ plan ack, planDmAck e.crypto e.receiver env packet o contact = .ok (plan, ack)
  acknowledged : ∀ packet o hash, e.Opens packet o hash → ∀ env contact plan ack,
    planDmAck e.crypto e.receiver env packet o contact = .ok (plan, ack) →
      (plan.kind = .floodAckPath ∧ plan.returnPathLen = packet.pathLen ∧
          plan.returnPath = packet.pathBytes ∨ plan.kind = .directAck ∨ plan.kind = .floodAck) ∧
        ∀ arrived, Carried ack arrived → e.readAck plan.kind arrived = some hash
  repeated : ∀ e' : Exchange, e'.Fair → e'.crypto = e.crypto →
    e'.sender.publicKey = e.sender.publicKey → e'.txTimestamp = e.txTimestamp →
    e'.text = e.text → ∀ packet packet' o o' hash hash', e.Opens packet o hash →
      e'.Opens packet' o' hash' → o'.identityDigest e.crypto = o.identityDigest e.crypto
  apart : ∀ e' : Exchange, e'.Fair → ∀ packet packet' o o' hash hash', e.Opens packet o hash →
    e'.Opens packet' o' hash' → o'.identityInput = o.identityInput →
      e'.sender.publicKey = e.sender.publicKey ∧ e'.txTimestamp = e.txTimestamp ∧ e'.text = e.text

variable {e}

theorem Fair.opened_eq (h : e.Fair) {packet : WirePacket} {o : OpenedDm} {hash : Nat}
    (ho : e.Opens packet o hash) :
    o = e.opened ∧ hash = calcDmAckHash e.crypto e.plain e.sender.publicKey ∧
      packet.version = payloadVer1 ∧ packet.type = payloadText ∧
      packet.route = routeOf (dmTextHeader e.selection.route) ∧
      wirePathLenValid packet.pathLen = true ∧
      packet.pathByteLen = wirePathByteLen packet.pathLen ∧
      packet.pathBytes.length = wirePathByteLen packet.pathLen ∧
      (0 < wirePathByteLen packet.pathLen → packet.path.isSome = true) := by
  obtain ⟨raw, received, hooks, cache, hbuilt, hcarried, hopened⟩ := ho
  obtain ⟨raw', hbuilt', hdelivered⟩ := h.delivered
  obtain ⟨rfl, rfl⟩ := Prod.mk.inj (Except.ok.inj (hbuilt.symm.trans hbuilt'))
  obtain ⟨packet', hopened', hpacket⟩ := hdelivered received hcarried hooks cache
  obtain ⟨rfl, rfl⟩ := Prod.mk.inj (Option.some.inj (hopened.symm.trans hopened'))
  exact ⟨rfl, rfl, hpacket⟩

theorem opened_facts (h : e.Fair) : e.opened.storedAttempt = e.attempt ∧
    e.opened.ackHash e.crypto e.receiver = calcDmAckHash e.crypto e.plain e.sender.publicKey ∧
    e.opened.identityInput =
      some (e.sender.publicKey ++ (le32 e.txTimestamp.toNat ++ 0 :: e.text.bytes)) := by
  obtain ⟨-, hpos, hlong⟩ := validateUserText_span h.text
  obtain ⟨hstamp, hflags, hdrop, hplain⟩ := dmPlain_fields e.txTimestamp h.attempt e.text.bytes
    (List.replicate (blockCount e.plain.length * blockSize - e.plain.length) 0)
  have hlength : 5 + e.text.bytes.length ≤ e.padded.length := by
    unfold padded zeroPadded
    rw [List.length_append]
    exact (length_dmPlain e.txTimestamp e.attempt e.text.bytes).ge.trans (Nat.le_add_right _ _)
  have hattempt := h.attempt
  unfold userTextMaxBytes at hlong
  refine ⟨?_, ?_, ?_⟩
  · change (e.padded.getD 4 0).toNat % 4 = e.attempt
    rw [show (e.padded.getD 4 0).toNat = e.attempt from hflags]
    omega
  · change calcDmAckHash e.crypto (e.padded.take (5 + e.text.bytes.length)) e.sender.publicKey = _
    rw [show e.padded.take (5 + e.text.bytes.length) = e.plain from hplain]
  · change dmIdentityMaterial e.sender.publicKey e.padded e.text.bytes.length
      (identityPrefixBytes + maxTextBytes) = _
    have hkind : UInt8.ofNat ((e.padded.getD 4 0).toNat / 4) = 0 := by
      rw [show (e.padded.getD 4 0).toNat = e.attempt from hflags, Nat.div_eq_of_lt (by omega)]
      rfl
    unfold dmIdentityMaterial
    rw [if_neg (by omega), if_neg (by unfold identityPrefixBytes maxTextBytes; omega), hkind,
      show e.padded.take 4 = le32 e.txTimestamp.toNat from hstamp,
      show e.padded.drop 5 = e.text.bytes ++ List.replicate
        (blockCount e.plain.length * blockSize - e.plain.length) 0 from hdrop, List.take_left]

theorem planDmAck_ok {c : Crypto} {settings : LocalIdentity} {env : AckEnv} {packet : WirePacket}
    {o : OpenedDm} {contact : Contact.ContactEntry} {plan : AckDispatchPlan} {ack : List UInt8}
    (h : planDmAck c settings env packet o contact = .ok (plan, ack)) :
    (∃ outboundPathValid outboundPath outboundPathLen,
      ackDispatchPlan packet env.pathHashBytes outboundPathValid outboundPath outboundPathLen
        (le32 (o.ackHash c settings)) o.extendedAttempt env.nonce = some plan) ∧
      buildDmAckResponse c settings o.senderPub o.secret plan o.ackWireLen maxRawPacket =
        .ok ack := by
  unfold planDmAck at h
  cases hdigest : o.identityDigest c with
  | error ret =>
    rw [hdigest] at h
    cases h
  | ok digest =>
    rw [hdigest] at h
    dsimp only at h
    split at h
    · cases h
    · split at h
      · cases h
      · rename_i hplan
        split at h
        · cases h
        · rename_i hbuilt
          cases h
          exact ⟨⟨_, _, _, hplan⟩, hbuilt⟩

theorem Fair.answered (h : e.Fair) {packet : WirePacket} {o : OpenedDm} {hash : Nat}
    (ho : e.Opens packet o hash) {env : AckEnv}
    (henv : 1 ≤ env.pathHashBytes ∧ env.pathHashBytes ≤ 3) (contact : Contact.ContactEntry) :
    ∃ plan ack, planDmAck e.crypto e.receiver env packet o contact = .ok (plan, ack) := by
  obtain ⟨rfl, -, hversion, htype, hroute, hvalid, hbytes, hpath, hsome⟩ := h.opened_eq ho
  obtain ⟨-, -, hinput⟩ := opened_facts h
  have hdigest : e.opened.identityDigest e.crypto =
      .ok (e.crypto.sha256
        (e.sender.publicKey ++ (le32 e.txTimestamp.toNat ++ 0 :: e.text.bytes))) := by
    unfold OpenedDm.identityDigest calcDmIdentityDigest
    rw [show dmIdentityMaterial e.opened.senderPub e.opened.plain e.opened.wireMessageLen
      (identityPrefixBytes + maxTextBytes) = _ from hinput]
  obtain ⟨selection, hselection⟩ := routeSelectCanonical_some henv contact.outPathValid
    (contact.outPathValid && env.learnedThisBoot) (some contact.outPath.bytes) contact.outPathLen
    contact.outPathState env.nowMs
  have hrouteLe : packet.route ≤ routeTransportDirect := by
    rw [hroute]
    exact Nat.le_of_lt_succ (Nat.mod_lt _ (by decide))
  have hout : decide (selection.route = .direct) = true →
      wirePathLenValid (if decide (selection.route = .direct) = true then .ofNat selection.pathLen
        else 0) = true ∧
      (if decide (selection.route = .direct) = true then some (Bytes.pointer selection.path 0)
        else none).isSome = true := by
    intro hdirect
    rw [if_pos hdirect, if_pos hdirect]
    exact ⟨routeSelectCanonical_pathLen hselection (of_decide_eq_true hdirect), rfl⟩
  obtain ⟨plan, hplan⟩ := ackDispatchPlan_some hversion htype hrouteLe henv hvalid hbytes hsome hout
    (le32 (e.opened.ackHash e.crypto e.receiver)) e.opened.extendedAttempt env.nonce
  obtain ⟨hroutes, hack, hkind⟩ := ackDispatchPlan_spec hplan
  have hbuilt : ∃ ack, buildDmAckResponse e.crypto e.receiver e.opened.senderPub e.opened.secret
      plan e.opened.ackWireLen maxRawPacket = .ok ack := by
    rcases hkind with ⟨hkind, -, hnil, hlen, hreturn, hvalidIn, hlenIn⟩ | hkind
    · obtain ⟨_, _, hbuilt, -⟩ := buildDmAckResponse_path h.crypto h.receiverReady (.inr rfl)
        hroutes hkind hnil (hlen ▸ hvalidIn) (by rw [hreturn, hlen, hlenIn]) h.secret
      exact ⟨_, hbuilt⟩
    · exact ⟨_, buildDmAckResponse_ack h.receiverReady (.inr rfl) hroutes hkind (by rw [hack]; rfl)⟩
  obtain ⟨ack, hbuilt⟩ := hbuilt
  refine ⟨plan, ack, ?_⟩
  unfold planDmAck
  rw [hdigest]
  dsimp only
  rw [hselection]
  dsimp only
  rw [hplan]
  dsimp only
  rw [hbuilt]

theorem Fair.acknowledged (h : e.Fair) {packet : WirePacket} {o : OpenedDm} {hash : Nat}
    (ho : e.Opens packet o hash) {env : AckEnv} {contact : Contact.ContactEntry}
    {plan : AckDispatchPlan} {ack : List UInt8}
    (hanswer : planDmAck e.crypto e.receiver env packet o contact = .ok (plan, ack)) :
    (plan.kind = .floodAckPath ∧ plan.returnPathLen = packet.pathLen ∧
        plan.returnPath = packet.pathBytes ∨ plan.kind = .directAck ∨ plan.kind = .floodAck) ∧
      ∀ arrived, Carried ack arrived → e.readAck plan.kind arrived = some hash := by
  obtain ⟨rfl, rfl, -⟩ := h.opened_eq ho
  obtain ⟨-, hhash, -⟩ := opened_facts h
  obtain ⟨⟨_, _, _, hplan⟩, hbuilt⟩ := planDmAck_ok hanswer
  obtain ⟨hroutes, hack, hkind⟩ := ackDispatchPlan_spec hplan
  rw [hhash] at hack
  have hrange := readLe32_lt (e.crypto.sha256 (e.plain ++ e.sender.publicKey)) 0
  have hackBytes : plan.ack.take ackWireBytes =
      le32 (calcDmAckHash e.crypto e.plain e.sender.publicKey) ++
        [e.opened.extendedAttempt, env.nonce] := by
    rw [hack]
    rfl
  rcases hkind with ⟨hkind, hflood, hnil, hlen, hreturn, hvalidIn, hlenIn⟩ | hkind
  · refine ⟨.inl ⟨hkind, hlen, hreturn⟩, fun arrived hcarried => ?_⟩
    obtain ⟨macCipher, destSize, hpath, hlong, hmax, hsealed, hopen⟩ :=
      buildDmAckResponse_path h.crypto h.receiverReady (.inr rfl) hroutes hkind hnil
        (hlen ▸ hvalidIn) (by rw [hreturn, hlen, hlenIn]) h.secret
    obtain rfl := Except.ok.inj (hbuilt.symm.trans hpath)
    obtain ⟨pathLen', path', rfl, hvalid', hlen'⟩ :=
      hcarried.frame (show ([] : List UInt8).length = _ from hnil ▸ hroutes.path)
    rw [zeroPadded_ackPathPlain hackBytes] at hopen
    rw [hkind]
    exact readPathAck_frame h.senderReady h.senderScan h.receiverContact h.senderDerives hvalid'
      hlen' hlong hmax hopen (hlen ▸ hvalidIn) (by rw [hreturn, hlen, hlenIn]) hrange
      fun contact hmem hne pub other hpub hother =>
        h.senderOthers contact hmem hne pub other hpub hother _ _ _ _ hsealed
  · refine ⟨.inr hkind, fun arrived hcarried => ?_⟩
    change buildDmAckResponse _ _ _ _ plan ackWireBytes _ = _ at hbuilt
    rw [buildDmAckResponse_ack h.receiverReady (.inr rfl) hroutes hkind (by rw [hack]; rfl),
      hackBytes] at hbuilt
    obtain rfl := Except.ok.inj hbuilt
    obtain ⟨pathLen', path', rfl, hvalid', hlen'⟩ := hcarried.frame hroutes.path
    have hread := readAckPacket_frame hroutes.route hvalid' hlen' hrange
      (show [e.opened.extendedAttempt, env.nonce].length ≤ 2 from le_rfl)
    rcases hkind with hkind | hkind
    all_goals
      rw [hkind]
      exact hread

theorem cstr_eq {a b : CStr} (h : a.bytes = b.bytes) : a = b := by
  cases a
  cases b
  cases h
  rfl

theorem material_inj {key key' : List UInt8} {stamp stamp' : UInt32} {text text' : List UInt8}
    (hlen : key.length = key'.length)
    (h : key ++ (le32 stamp.toNat ++ 0 :: text) = key' ++ (le32 stamp'.toNat ++ 0 :: text')) :
    key = key' ∧ stamp = stamp' ∧ text = text' := by
  obtain ⟨hkey, hrest⟩ := List.append_inj h hlen
  obtain ⟨hstamp, htext⟩ := List.append_inj hrest rfl
  refine ⟨hkey, ?_, (List.cons.inj htext).2⟩
  have hread : Admin.readLe32 (le32 stamp.toNat) 0 = Admin.readLe32 (le32 stamp'.toNat) 0 := by
    rw [hstamp]
  rw [readLe32_le32 stamp.toNat_lt, readLe32_le32 stamp'.toNat_lt] at hread
  exact UInt32.toNat_inj.mp hread

/-- A direct message and its ACK agree end to end. -/
theorem Fair.agrees (h : e.Fair) : e.Agrees where
  built := by
    obtain ⟨raw, hbuilt, -⟩ := h.delivered
    exact ⟨raw, _, hbuilt⟩
  delivered := by
    intro raw hash hbuilt received hcarried hooks cache
    obtain ⟨raw', hbuilt', hdelivered⟩ := h.delivered
    obtain ⟨rfl, -⟩ := Prod.mk.inj (Except.ok.inj (hbuilt.symm.trans hbuilt'))
    obtain ⟨packet, hopened, -⟩ := hdelivered received hcarried hooks cache
    exact ⟨packet, _, hopened⟩
  recovered := by
    intro packet o hash ho
    obtain ⟨rfl, rfl, -⟩ := h.opened_eq ho
    obtain ⟨hattempt, hhash, -⟩ := opened_facts h
    exact ⟨rfl, rfl, rfl, hattempt, hhash⟩
  answered := fun _ _ _ ho _ contact henv => h.answered ho henv contact
  acknowledged := fun _ _ _ ho _ _ _ _ hanswer => h.acknowledged ho hanswer
  repeated := by
    intro e' h' _ hkey hstamp htext packet packet' o o' hash hash' ho ho'
    obtain ⟨rfl, -⟩ := h.opened_eq ho
    obtain ⟨rfl, -⟩ := h'.opened_eq ho'
    obtain ⟨-, -, hinput⟩ := opened_facts h
    obtain ⟨-, -, hinput'⟩ := opened_facts h'
    rw [hkey, hstamp, htext, ← hinput] at hinput'
    unfold OpenedDm.identityDigest calcDmIdentityDigest
    unfold OpenedDm.identityInput at hinput'
    rw [hinput']
  apart := by
    intro e' h' packet packet' o o' hash hash' ho ho' hsame
    obtain ⟨rfl, -⟩ := h.opened_eq ho
    obtain ⟨rfl, -⟩ := h'.opened_eq ho'
    obtain ⟨-, -, hinput⟩ := opened_facts h
    obtain ⟨-, -, hinput'⟩ := opened_facts h'
    rw [hinput, hinput'] at hsame
    obtain ⟨hkey, hstamp, htext⟩ := material_inj (h'.senderKey.trans h.senderKey.symm)
      (Option.some.inj hsame)
    exact ⟨hkey, hstamp, cstr_eq htext⟩

def peerContact (digit : UInt8) (h : (0 : UInt8) ∉ List.replicate 64 digit)
    (h' : (0 : UInt8) ∉ List.replicate 16 digit) : Contact.ContactEntry :=
  { Contact.zeroEntry with
    fingerprint := ⟨List.replicate 16 digit, List.length_replicate.le.trans (by decide), h'⟩
    publicKeyHex := ⟨List.replicate 64 digit, List.length_replicate.le.trans (by decide), h⟩
    type := .lit Contact.chatType
    verificationSource := Contact.verificationSignedAdvert }

def onesToTwos : Exchange where
  crypto := ChannelRx.Delivery.plainCrypto
  sender := ⟨true, List.replicate 32 0x11, fun _ => .ok (List.replicate 32 7)⟩
  receiver := ⟨true, List.replicate 32 0x22, fun _ => .ok (List.replicate 32 7)⟩
  secret := List.replicate 32 7
  receiverContact := peerContact 50 (by decide) (by decide)
  senderContact := peerContact 49 (by decide) (by decide)
  senderScan := [peerContact 50 (by decide) (by decide)]
  receiverScan := [peerContact 49 (by decide) (by decide)]
  text := .lit [104, 105]
  attempt := 1
  txTimestamp := 1700000000
  selection := floodSelection 1

theorem agrees_ones : onesToTwos.Agrees :=
  Fair.agrees
    { crypto := ChannelRx.Delivery.plainCrypto_lawful
      senderReady := rfl
      receiverReady := rfl
      senderKey := rfl
      apart := by decide
      receiverContact := by decide +kernel
      senderContact := by decide +kernel
      senderDerives := rfl
      receiverDerives := rfl
      secret := rfl
      senderScan := List.mem_singleton_self _
      receiverScan := List.mem_singleton_self _
      authorized := by decide +kernel
      senderOthers := fun _ hmem hne => absurd (List.mem_singleton.mp hmem) hne
      receiverOthers := fun _ hmem hne => absurd (List.mem_singleton.mp hmem) hne
      text := by decide
      attempt := by decide
      selection := by decide }

end Exchange

end Sigui.DmText

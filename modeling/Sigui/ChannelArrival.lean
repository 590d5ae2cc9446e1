import Sigui.ChannelBoot
import Sigui.ChannelRx
import Sigui.RunRules

/-! A channel message from the sender's text box to the receiver's message store. -/
namespace Sigui.ChannelRx

open TextPlaintext MeshCrypto Wire ChannelText PacketHash

section Names

/-- The text a channel packet carries: the sender, a colon, a space and the message. -/
def spokenText (name text : List UInt8) : List UInt8 := name ++ colonByte :: spaceByte :: text

variable {name text : List UInt8}

theorem length_spokenText : (spokenText name text).length = name.length + 2 + text.length := by
  simp only [spokenText, List.length_append, List.length_cons]
  omega

theorem splitAuthor_spokenText (hpos : 0 < name.length) (hshort : name.length < authorLen)
    (hcolon : colonByte ∉ name) (htext : text ≠ []) :
    splitAuthor (spokenText name text) = some (name, text) := by
  have hfind : (spokenText name text).findIdx? (· == colonByte) = some name.length := by
    rw [spokenText, List.findIdx?_append, List.findIdx?_eq_none_iff.mpr (fun c hc => by
      simpa using fun h : c = colonByte => hcolon (h ▸ hc)), List.findIdx?_cons]
    simp
  have hdrop : (spokenText name text).drop (name.length + 1) = spaceByte :: text := by
    rw [spokenText, ← List.drop_drop, List.drop_left]
    rfl
  unfold splitAuthor
  rw [hfind]
  dsimp only
  rw [if_pos ⟨hpos, hshort⟩, hdrop, List.head?_cons, if_pos rfl, List.drop_succ_cons,
    List.drop_zero, if_neg htext, spokenText, List.take_left]

theorem splitAuthor_longer (hwrong : authorLen ≤ name.length ∨ colonByte ∈ name)
    (text fallback : List UInt8) :
    text.length <
      ((splitAuthor (spokenText name text)).getD (fallback, spokenText name text)).2.length := by
  unfold splitAuthor
  cases hfind : (spokenText name text).findIdx? (· == colonByte) with
  | none =>
    change text.length < (spokenText name text).length
    rw [length_spokenText]
    omega
  | some length =>
    dsimp only
    by_cases hfits : 0 < length ∧ length < authorLen
    · rw [if_pos hfits]
      have hbefore : length < name.length := by
        rcases hwrong with hlong | hcolon
        · omega
        · rw [spokenText, List.findIdx?_append] at hfind
          have hsome : (name.findIdx? (· == colonByte)).isSome = true := by
            rw [List.findIdx?_isSome]
            exact List.any_eq_true.mpr ⟨colonByte, hcolon, beq_self_eq_true _⟩
          obtain ⟨i, hi⟩ := Option.isSome_iff_exists.mp hsome
          rw [hi] at hfind
          cases hfind
          exact (List.findIdx?_eq_some_iff_findIdx_eq.mp hi).1
      have hafter : ((spokenText name text).drop (length + 1)).length =
          name.length + 2 + text.length - (length + 1) := by
        rw [List.length_drop, length_spokenText]
      generalize (spokenText name text).drop (length + 1) = after at hafter
      have hstripped : text.length <
          (if after.head? = some spaceByte then after.drop 1 else after).length := by
        split_ifs
        · rw [List.length_drop]
          omega
        · omega
      rw [if_neg fun hnil => by
        rw [hnil, List.length_nil] at hstripped
        exact Nat.not_lt_zero _ hstripped]
      exact hstripped
    · rw [if_neg hfits]
      change text.length < (spokenText name text).length
      rw [length_spokenText]
      omega

end Names

section Append

open Message

variable {m : Store}

theorem append_row_inj {h : History} {e e' : Message.Entry} (heq : h.append e = h.append e') :
    e = e' := by
  have hlast : ∀ e : Message.Entry, (h.append e).rows.getLast? = some e := by
    intro e
    have hdrop : (h.rows ++ [e]).length - messageStoreCapacity ≤ h.rows.length := by
      rw [List.length_append, List.length_singleton]
      unfold messageStoreCapacity
      omega
    change (keepLast messageStoreCapacity (h.rows ++ [e])).getLast? = some e
    rw [keepLast, List.drop_append_of_le_length hdrop, List.getLast?_append_cons]
    rfl
  exact Option.some.inj ((hlast e).symm.trans ((congrArg (·.rows.getLast?) heq).trans (hlast e')))

theorem append_ne_self (h : History) (e : Message.Entry) : h ≠ h.append e := by
  intro heq
  have hnext : h.nextSeq = h.nextSeq + 1 := congrArg History.nextSeq heq
  omega

theorem appendChannel_history {a : AppendArgs} {text : CStr} (ha : a.text = some text)
    (hid : a.channelId ≠ 0) (hpersist : a.persist = true)
    (hvalid : (userTextValidate (some text)).result = .ok) (hloaded : m.loaded = true)
    (hroom : m.history.full = false) (nowMs : Nat) :
    (appendChannel m a nowMs).1.history =
      m.history.append (appendEntry m.history a text nowMs) := by
  unfold appendChannel
  rw [ha]
  dsimp only
  rw [if_neg hid, if_neg (not_not.mpr hvalid), hloaded, hpersist, hroom]
  rfl

theorem appendRx_history (hloaded : m.loaded = true) (hroom : m.history.full = false)
    {channelId : UInt64} (hid : channelId ≠ 0) (channelName message : CStr) (rssi snr : Int)
    (pathHashBytes pathHops nowMs : Nat) :
    let fallback := (sanitizeAscii authorLen
      (if channelName.bytes = [] then channelFallback else channelName)).bytes
    let split := (splitAuthor message.bytes).getD (fallback, message.bytes)
    let after := (appendChannelMessageStoreRx m channelId channelName message rssi snr pathHashBytes
      pathHops nowMs).1
    (userTextValidate (some (cString split.2))).result = .ok ∧
        (∃ row : Message.Entry, after.history = m.history.append row ∧ row.channelId = channelId ∧
          row.author = textOr (some (cString split.1)) publicLiteral ∧
          row.text = copyText (cString split.2)) ∨
      (userTextValidate (some (cString split.2))).result ≠ .ok ∧ after.history = m.history := by
  intro fallback split after
  by_cases hvalid : (userTextValidate (some (cString split.2))).result = .ok
  · left
    refine ⟨hvalid, appendEntry m.history (rxAppendArgs channelId (cString split.1)
      (cString split.2) rssi snr pathHashBytes pathHops) (cString split.2) nowMs, ?_, rfl, rfl, rfl⟩
    change (appendChannelMessageStoreRx _ _ _ _ _ _ _ _ _).1.history = _
    unfold appendChannelMessageStoreRx
    dsimp only
    rw [if_neg (not_not.mpr hvalid)]
    exact appendChannel_history rfl hid rfl hvalid hloaded hroom nowMs
  · right
    refine ⟨hvalid, ?_⟩
    change (appendChannelMessageStoreRx _ _ _ _ _ _ _ _ _).1.history = _
    unfold appendChannelMessageStoreRx
    dsimp only
    rw [if_pos hvalid]

end Append

section Keys

open Channel

variable {md : List UInt8 → Option UInt8} {s : ChannelStore} {e : ChannelEntry}

theorem rows_around (hs : StoreValid md s) (he : e ∈ s.entries) :
    ∃ pre post, s.entries = pre ++ e :: post ∧
      ∀ f ∈ pre ++ post, f.channelId ≠ e.channelId ∧ f ≠ e := by
  obtain ⟨pre, post, heq⟩ := List.append_of_mem he
  refine ⟨pre, post, heq, fun f hf => ?_⟩
  have hapart := hs.rows.apart
  rw [heq, List.pairwise_append, List.pairwise_cons] at hapart
  have hclash : entriesClash f e = false := by
    rcases List.mem_append.mp hf with hpre | hpost
    · exact hapart.2.2 f hpre e List.mem_cons_self
    · exact (entriesClash_comm f e).trans (hapart.2.1.1 f hpost)
  have hid : f.channelId ≠ e.channelId := by
    simp only [entriesClash, Bool.or_eq_false_iff, decide_eq_false_iff_not] at hclash
    exact hclash.1.1.1
  exact ⟨hid, fun hfe => hid (congrArg ChannelEntry.channelId hfe)⟩

theorem find_by_id (hs : StoreValid md s) (he : e ∈ s.entries) :
    s.entries.find? (fun f => decide (f.channelId = e.channelId)) = some e := by
  obtain ⟨pre, post, heq, hother⟩ := rows_around hs he
  rw [heq, List.find?_append, List.find?_eq_none.mpr fun f hf => by
    simpa using (hother f (List.mem_append_left _ hf)).1]
  simp

theorem copyRxHashMatches_only (hs : StoreValid md s) (he : e ∈ s.entries) (hon : e.enabled ≠ 0)
    (honly : ∀ f ∈ s.entries, f.enabled ≠ 0 → f.channelHash = e.channelHash → f = e) :
    copyRxHashMatches s e.channelHash channelStoreCapacity = [protocolKey e] := by
  obtain ⟨pre, post, heq, hother⟩ := rows_around hs he
  have hnone : ∀ f ∈ pre ++ post, (channelAvailableInReleaseProfile f.channelId &&
      decide (f.enabled ≠ 0) && decide (f.channelHash = e.channelHash)) = false := by
    intro f hf
    by_contra htrue
    simp only [Bool.not_eq_false, Bool.and_eq_true, decide_eq_true_eq] at htrue
    have hmem : f ∈ s.entries := by
      rw [heq]
      rcases List.mem_append.mp hf with hpre | hpost
      · exact List.mem_append_left _ hpre
      · exact List.mem_append_right _ (List.mem_cons_of_mem _ hpost)
    exact (hother f hf).2 (honly f hmem htrue.1.2 htrue.2)
  have hself : (channelAvailableInReleaseProfile e.channelId && decide (e.enabled ≠ 0) &&
      decide (e.channelHash = e.channelHash)) = true := by
    simp [channelAvailableInReleaseProfile, multiChannelManagement, hon]
  have hempty : ∀ l : List ChannelEntry, (∀ f ∈ l, f ∈ pre ++ post) →
      l.filter (fun f => channelAvailableInReleaseProfile f.channelId && decide (f.enabled ≠ 0) &&
        decide (f.channelHash = e.channelHash)) = [] := by
    intro l hl
    rw [List.filter_eq_nil_iff]
    intro f hf
    rw [hnone f (hl f hf)]
    exact Bool.false_ne_true
  unfold copyRxHashMatches
  rw [heq, List.filter_append, hempty pre (fun f hf => List.mem_append_left _ hf),
    List.filter_cons, if_pos hself, hempty post (fun f hf => List.mem_append_right _ hf)]
  rfl

theorem copyProtocolKey_found (hs : StoreValid md s) (he : e ∈ s.entries) (hon : e.enabled ≠ 0) :
    copyProtocolKey s e.channelId = .ok (protocolKey e) := by
  unfold copyProtocolKey
  rw [if_neg (hs.rows.sound e he).id_ne_zero, find_by_id hs he]
  exact if_neg hon

theorem protocolKeysEqual_self (hs : StoreValid md s) (he : e ∈ s.entries) :
    protocolKeysEqual (protocolKey e) (protocolKey e) = true := by
  have hlen := (hs.rows.sound e he).secret
  simp only [storedSecretIsValid, secretLenIsValid, Bool.and_eq_true, Bool.or_eq_true,
    decide_eq_true_eq] at hlen
  have hle : e.secretLen ≤ channelSecretMaxLen := by
    unfold channelSecretMaxLen
    unfold channelSecret128Len channelSecret256Len at hlen
    omega
  simp [protocolKeysEqual, protocolKey, hle]

end Keys

section Frames

variable {c : Crypto} {pathHashBytes : Nat} {macCipher : List UInt8}

theorem decode_channelFrame (channelHash : UInt8)
    (hhash : 1 ≤ pathHashBytes ∧ pathHashBytes ≤ 3) (hpos : 2 ≤ macCipher.length)
    (hmax : macCipher.length ≤ 178) :
    ∃ packet, decodePacketV1 (channelFrame pathHashBytes channelHash macCipher) = some packet ∧
      decodePacket (channelFrame pathHashBytes channelHash macCipher) = some packet ∧
      packet.type = payloadGroupText ∧ packet.payloadBytes = channelHash :: macCipher ∧
      3 ≤ packet.payloadLen ∧ packet.pathHashBytes = pathHashBytes ∧ packet.pathHops = 0 := by
  obtain ⟨hsize, hcount, hbytes, hvalid⟩ := emptyPath_spec hhash
  have hhead : [headerGroupTextFlood].length =
      if routeHasTransportCodes (routeOf ([headerGroupTextFlood].getD 0 0)) then 5 else 1 := by
    decide
  have hnoPath : ([] : List UInt8).length =
      MeshPath.wirePathByteLen (.ofNat ((pathHashBytes - 1) * 64)) := hbytes.symm
  have hload : 0 < (channelHash :: macCipher).length ∧
      (channelHash :: macCipher).length ≤ maxPacketPayload := by
    rw [List.length_cons]
    unfold maxPacketPayload
    omega
  have hraw : ([headerGroupTextFlood] ++ UInt8.ofNat ((pathHashBytes - 1) * 64) ::
      ([] ++ channelHash :: macCipher)).length ≤ maxRawPacket := by
    simp only [List.length_append, List.length_cons, List.length_nil]
    unfold maxRawPacket
    omega
  obtain ⟨q, hq, hheader, hpathLen, hpath, hpayload, -⟩ :=
    decodePacket_parts hhead hvalid hnoPath hload.1 hload.2 hraw
  obtain ⟨hroute, htype, hversion, hhashBytes, hhops, hpathBytes⟩ := decodePacket_fields hq
  rw [hheader] at htype hversion
  rw [hpathLen] at hhashBytes hhops
  have hlength : q.payloadBytes.length = q.payloadLen :=
    length_pointed fun _ => (decodePacket_sound hq).2.payload
  refine ⟨q, ?_, hq, htype, hpayload, ?_, hhashBytes.trans hsize, hhops.trans hcount⟩
  · exact decodePacketV1_of hq hversion
  · rw [← hlength, hpayload, List.length_cons]
    omega

end Frames

section Parse

variable {c : Crypto} {node : RxNode} {raw : List UInt8} {packet : WirePacket} {key : ProtocolKey}

theorem parseRxChannelPacket_single (hdecode : decodePacketV1 raw = some packet)
    (htype : packet.type = payloadGroupText) (hlen : 3 ≤ packet.payloadLen)
    (honly : copyRxHashMatches node.channels.store (packet.payloadBytes.getD 0 0)
      Channel.channelStoreCapacity = [key])
    {plain : List UInt8} (hplain : plain ≠ [])
    (hopen : decryptAfterMac c key.secret.bytes maxRawPacket (packet.payloadBytes.drop 1) = plain)
    (env : RxEnv) (rssi snr : Int) :
    parseRxChannelPacket c node env raw rssi snr =
      openChannelText c node env raw packet rssi snr plain key := by
  have htried : tryCandidates c (packet.payloadBytes.drop 1) 0 ⟨⟨1, 0, 0, 0, true⟩, none⟩ [key] =
      some ⟨⟨1, 1, 1, 0, true⟩, some (plain, key)⟩ := by
    unfold tryCandidates
    dsimp only
    rw [hopen, List.isEmpty_eq_false_iff.mpr hplain]
    rfl
  have hbegin : dispatchBegin [key].length = some ⟨1, 0, 0, 0, true⟩ := rfl
  unfold parseRxChannelPacket
  rw [hdecode]
  dsimp only
  rw [if_neg (by
    rintro (hne | hlt)
    · exact hne htype
    · omega), honly, hbegin]
  dsimp only
  rw [htried]
  rfl

end Parse

section Admission

variable {c : Crypto} {node : RxNode} {env : RxEnv} {e : Channel.ChannelEntry}

theorem ready_messages (node : RxNode) (env : RxEnv) :
    (channelMessageGenerationReady node env).1.messages = node.messages := by
  unfold channelMessageGenerationReady
  split_ifs <;> rfl

theorem reconcile_messages (node : RxNode) (env : RxEnv) (seq : Nat) :
    (reconcileChannelMessages node env seq).messages = node.messages := by
  unfold reconcileChannelMessages
  split_ifs <;> rfl

theorem admitChannelText_history {packet : WirePacket}
    (hfind : node.channels.store.entries.find? (fun f => decide (f.channelId = e.channelId)) =
      some e)
    (hon : e.enabled ≠ 0)
    (hunseen : ∀ hash, packetHashCalculate c packet = .ok hash → node.seen.holds hash = false)
    (hready : (channelMessageGenerationReady node env).2 = true) (payload : List UInt8)
    (rssi snr : Int) (message : CStr) :
    (admitChannelText c node env payload packet rssi snr e.channelId message).messages.history =
      (appendChannelMessageStoreRx node.messages e.channelId (cString e.name.bytes) message rssi snr
        packet.pathHashBytes packet.pathHops env.nowMs).1.history := by
  have hseen : packetSeen c node packet = false := by
    unfold packetSeen
    cases hhash : packetHashCalculate c packet with
    | ok hash => exact hunseen hash hhash
    | error _ => rfl
  have hmessages := ready_messages node env
  unfold admitChannelText
  rw [hfind]
  simp only
  rw [if_neg hon, hseen, if_neg Bool.false_ne_true]
  rcases hr : channelMessageGenerationReady node env with ⟨node', ready⟩
  rw [hr] at hready hmessages
  cases (show ready = true from hready)
  dsimp only
  rw [show node'.messages = node.messages from hmessages]
  split_ifs
  · exact congrArg Message.Store.history (reconcile_messages _ _ _)
  · exact congrArg Message.Store.history (reconcile_messages _ _ _)

theorem openChannelText_history {packet : WirePacket} {md : List UInt8 → Option UInt8}
    (hs : Channel.StoreValid md node.channels.store) (he : e ∈ node.channels.store.entries)
    (hon : e.enabled ≠ 0) (hhash : packet.payloadBytes.getD 0 0 = e.channelHash)
    (hunseen : ∀ hash, packetHashCalculate c packet = .ok hash → node.seen.holds hash = false)
    (hready : (channelMessageGenerationReady node env).2 = true) (payload : List UInt8)
    (rssi snr : Int) {head text : List UInt8} {zeros : Nat} (hhead : head.length = 4)
    (hnul : 0 ∉ text) (hpos : 0 < text.length) :
    (openChannelText c node env payload packet rssi snr
        (head ++ 0 :: (text ++ List.replicate zeros 0)) (protocolKey e)).messages.history =
      if (userTextValidateSpan text false).result ≠ .ok then node.messages.history
      else
        (appendChannelMessageStoreRx node.messages e.channelId (cString e.name.bytes) (cString text)
          rssi snr packet.pathHashBytes packet.pathHops env.nowMs).1.history := by
  have hcurrent : selectedCurrent node.channels.store (protocolKey e) packet = true := by
    unfold selectedCurrent
    rw [show (protocolKey e).channelId = e.channelId from rfl, copyProtocolKey_found hs he hon,
      hhash]
    dsimp only
    rw [protocolKeysEqual_self hs he, Bool.and_true]
    exact decide_eq_true rfl
  have hdrop : (head ++ (0 : UInt8) :: (text ++ List.replicate zeros 0)).drop 5 =
      text ++ List.replicate zeros 0 := by
    rw [show (5 : Nat) = head.length + 1 by rw [hhead], ← List.drop_drop, List.drop_left]
    rfl
  have hkind : (head ++ (0 : UInt8) :: (text ++ List.replicate zeros 0)).getD 4 0 = 0 := by
    rw [List.getD_append_right _ _ _ _ hhead.le, hhead]
    rfl
  unfold openChannelText
  rw [hcurrent, if_neg (by
      rintro (hfalse | hfalse)
      · exact Bool.noConfusion hfalse
      · simp [Channel.channelAvailableInReleaseProfile, Channel.multiChannelManagement] at hfalse),
    if_neg (by
      rintro (hshort | hkind')
      · simp only [List.length_append, List.length_cons] at hshort
        omega
      · rw [hkind] at hkind'
        exact hkind' (by decide)),
    hdrop, textPlaintextView_padded hnul (Nat.add_pos_left hpos _) false (Nat.zero_le 3)]
  by_cases hvalid : (userTextValidateSpan text false).result = .ok
  · rw [if_neg (not_not.mpr hvalid), if_neg (not_not.mpr hvalid)]
    exact admitChannelText_history (find_by_id hs he) hon hunseen hready payload rssi snr _
  · rw [if_pos hvalid, if_pos hvalid]

end Admission

section Delivery

open Channel

structure Delivery where
  crypto : Crypto
  sender : ChannelStore
  mine : ChannelEntry
  theirs : ChannelEntry
  name : CStr
  text : CStr
  pathHashBytes : Nat
  txTimestamp : UInt32
  node : RxNode
  env : RxEnv
  rssi : Int
  snr : Int

namespace Delivery

def digest (d : Delivery) (bytes : List UInt8) : Option UInt8 := (d.crypto.sha256 bytes).head?

def packet (d : Delivery) : Except EspErr (List UInt8) :=
  buildChannelTextPacket d.crypto (some (protocolKey d.mine)) (some d.name) (some d.text)
    d.pathHashBytes d.txTimestamp maxRawPacket

/-- Both nodes hold the channel, the sender's inputs are accepted, and the receiver can work. -/
structure Fair (d : Delivery) : Prop where
  crypto : d.crypto.Lawful
  sender : StoreValid d.digest d.sender
  receiver : StoreValid d.digest d.node.channels.store
  mine : d.mine ∈ d.sender.entries
  theirs : d.theirs ∈ d.node.channels.store.entries
  enabled : d.theirs.enabled ≠ 0
  sameSecret : d.mine.secret = d.theirs.secret
  sameHash : d.mine.channelHash = d.theirs.channelHash
  only : ∀ e ∈ d.node.channels.store.entries, e.enabled ≠ 0 →
    e.channelHash = d.theirs.channelHash → e = d.theirs
  name : nodeNameValid (some d.name) = true
  text : validateUserText (some d.text) = espOk
  pathHash : 1 ≤ d.pathHashBytes ∧ d.pathHashBytes ≤ 3
  loaded : d.node.messages.loaded = true
  room : d.node.messages.history.full = false
  ready : (channelMessageGenerationReady d.node d.env).2 = true
  unseen : ∀ raw, d.packet = .ok raw → ∀ packet hash, decodePacketV1 raw = some packet →
    packetHashCalculate d.crypto packet = .ok hash → d.node.seen.holds hash = false

/-- The packet is built, and one row with the text and the author comes in. -/
def Arrives (d : Delivery) : Prop :=
  ∃ raw, d.packet = .ok raw ∧ ∃ row : Message.Entry,
    (parseRxChannelPacket d.crypto d.node d.env raw d.rssi d.snr).messages.history =
      d.node.messages.history.append row ∧ row.channelId = d.theirs.channelId ∧
    row.text.bytes = d.text.bytes ∧ row.author.bytes = d.name.bytes.take (authorLen - 1)

/-- The name and the text fit one text together, and the name fits the author field and has no
colon. -/
def Fits (d : Delivery) : Prop :=
  d.name.bytes.length + 2 + d.text.bytes.length ≤ userTextMaxBytes ∧
    d.name.bytes.length < authorLen ∧ colonByte ∉ d.name.bytes

variable {d : Delivery}

theorem cString_bytes {bytes : List UInt8} (h : 0 ∉ bytes) : (cString bytes).bytes = bytes := by
  have hall : ∀ c ∈ bytes, (c != 0) = true := fun c hc => bne_iff_ne.mpr fun hz => h (hz ▸ hc)
  exact List.takeWhile_eq_self_iff.mpr hall

theorem cString_self (text : CStr) : cString text.bytes = text := by
  obtain ⟨bytes, hnul⟩ := text
  simpa only [cString, CStr.mk.injEq] using cString_bytes hnul

theorem no_nul_split (fallback : List UInt8) {message : List UInt8} (h : 0 ∉ message) :
    0 ∉ ((splitAuthor message).getD (fallback, message)).2 := by
  unfold splitAuthor
  split
  · exact h
  · dsimp only
    by_cases hfits : 0 < ‹Nat› ∧ ‹Nat› < authorLen
    · rw [if_pos hfits]
      split_ifs
      · exact h
      · exact fun hmem => h (List.mem_of_mem_drop (List.mem_of_mem_drop hmem))
      · exact h
      · exact fun hmem => h (List.mem_of_mem_drop hmem)
    · rw [if_neg hfits]
      exact h

theorem no_nul_spokenText (name text : CStr) : 0 ∉ spokenText name.bytes text.bytes := by
  unfold spokenText
  rw [List.mem_append, List.mem_cons, List.mem_cons]
  rintro (h | h | h | h)
  · exact name.no_nul h
  · exact absurd h (by decide)
  · exact absurd h (by decide)
  · exact text.no_nul h

theorem Fair.received (h : d.Fair) : ∃ raw, d.packet = .ok raw ∧
    (parseRxChannelPacket d.crypto d.node d.env raw d.rssi d.snr).messages.history =
      if (userTextValidateSpan (spokenText d.name.bytes d.text.bytes) false).result ≠ .ok then
        d.node.messages.history
      else
        (appendChannelMessageStoreRx d.node.messages d.theirs.channelId
          (cString d.theirs.name.bytes) (cString (spokenText d.name.bytes d.text.bytes)) d.rssi
          d.snr d.pathHashBytes 0 d.env.nowMs).1.history := by
  have hsound := h.sender.rows.sound _ h.mine
  have hsecret : secretLenIsValid d.mine.secretLen = true := by
    have hstored := hsound.secret
    simp only [storedSecretIsValid, Bool.and_eq_true] at hstored
    exact hstored.1
  obtain ⟨macCipher, hbuilt, hlen, hmax, hopen⟩ := buildChannelTextPacket_ok h.crypto
    (show (protocolKey d.mine).channelId ≠ 0 from hsound.id_ne_zero) hsecret h.name h.text
    h.pathHash d.txTimestamp
  have hunseen := h.unseen _ hbuilt
  obtain ⟨packet, hdecode, hraw, htype, hpayload, hpayloadLen, hpathHash, hhops⟩ :=
    decode_channelFrame (protocolKey d.mine).channelHash h.pathHash
      (hlen ▸ Nat.le_add_right 2 _) hmax
  refine ⟨_, hbuilt, ?_⟩
  have hkey : (protocolKey d.theirs).secret.bytes = (protocolKey d.mine).secret.bytes :=
    congrArg Bytes.bytes h.sameSecret.symm
  have hplain : channelPlain d.txTimestamp d.name.bytes d.text.bytes =
      le32 d.txTimestamp.toNat ++ 0 :: spokenText d.name.bytes d.text.bytes := rfl
  have hopened := hopen maxRawPacket (by decide)
  rw [hplain, zeroPadded, List.append_assoc, List.cons_append] at hopened
  generalize hzeros : blockCount _ * blockSize - _ = zeros at hopened
  have hload : packet.payloadBytes.getD 0 0 = d.theirs.channelHash := by
    rw [hpayload]
    exact h.sameHash
  have honly := copyRxHashMatches_only h.receiver h.theirs h.enabled h.only
  rw [← hload] at honly
  have hsealed : decryptAfterMac d.crypto (protocolKey d.theirs).secret.bytes maxRawPacket
      (packet.payloadBytes.drop 1) = le32 d.txTimestamp.toNat ++
        0 :: (spokenText d.name.bytes d.text.bytes ++ List.replicate zeros 0) := by
    rw [hpayload, hkey]
    exact hopened
  rw [parseRxChannelPacket_single hdecode htype hpayloadLen honly
      (List.append_ne_nil_of_right_ne_nil _ (List.cons_ne_nil _ _)) hsealed,
    openChannelText_history h.receiver h.theirs h.enabled hload
      (fun hash => hunseen packet hash hdecode) h.ready _ d.rssi d.snr rfl
      (no_nul_spokenText d.name d.text) (by
      rw [length_spokenText]
      omega), hpathHash, hhops]

theorem author_kept {author : CStr} (hpos : 0 < author.bytes.length)
    (hprint : ∀ c ∈ author.bytes, 32 ≤ c.toNat ∧ c.toNat ≤ 126 ∧ c ≠ 34 ∧ c ≠ 92)
    (default : CStr) :
    (Message.textOr (some author) default : CharArray 24).bytes =
      author.bytes.take (authorLen - 1) := by
  have hsame : (sanitizeAscii 24 author).bytes = author.bytes.take (authorLen - 1) := by
    have hid : ∀ c ∈ author.bytes.take 23, sanitizeByte c = c := by
      intro c hc
      obtain ⟨hlow, hhigh, hquote, hslash⟩ := hprint c (List.mem_of_mem_take hc)
      have hquote' : c.toNat ≠ 34 := fun h => hquote (UInt8.toNat_inj.mp h)
      have hslash' : c.toNat ≠ 92 := fun h => hslash (UInt8.toNat_inj.mp h)
      unfold sanitizeByte
      rw [if_neg (by omega)]
    exact (List.map_congr_left hid).trans (List.map_id _)
  have hne : (sanitizeAscii 24 author).bytes ≠ [] := by
    rw [hsame]
    intro hnil
    rw [List.take_eq_nil_iff] at hnil
    rcases hnil with hzero | hnil
    · exact absurd hzero (by decide)
    · rw [hnil] at hpos
      exact Nat.lt_irrefl 0 hpos
  unfold Message.textOr
  dsimp only [Option.getD_some]
  rw [if_neg hne, hsame]

theorem Fair.spanOk (h : d.Fair) : (userTextValidateSpan d.text.bytes false).result = .ok ∧
    d.text.bytes.length ≤ userTextMaxBytes := by
  have htext := validateUserText_ok.mp h.text
  have htextLen := userTextValidate_ok_length htext
  rw [userTextValidate, if_neg (Nat.not_lt.mpr htextLen)] at htext
  exact ⟨htext, htextLen⟩

theorem Fair.fits_of_arrives (h : d.Fair) (harrives : d.Arrives) : d.Fits := by
  obtain ⟨raw, hbuilt, hreceived⟩ := h.received
  have happended := appendRx_history h.loaded h.room (h.receiver.rows.sound _ h.theirs).id_ne_zero
    (cString d.theirs.name.bytes) (cString (spokenText d.name.bytes d.text.bytes)) d.rssi d.snr
    d.pathHashBytes 0 d.env.nowMs
  dsimp only at happended
  rw [cString_bytes (no_nul_spokenText d.name d.text)] at happended
  obtain ⟨raw', hbuilt', row, hrow, -, hbody, -⟩ := harrives
  rw [hbuilt] at hbuilt'
  cases hbuilt'
  rw [hreceived] at hrow
  by_cases hvalid : (userTextValidateSpan (spokenText d.name.bytes d.text.bytes) false).result = .ok
  swap
  · rw [if_pos hvalid] at hrow
    exact absurd hrow (append_ne_self _ _)
  rw [if_neg (not_not.mpr hvalid)] at hrow
  have hfits : d.name.bytes.length + 2 + d.text.bytes.length ≤ userTextMaxBytes := by
    rw [← length_spokenText]
    exact userTextValidateSpan_ok_length hvalid
  by_contra hnot
  have hwrong : authorLen ≤ d.name.bytes.length ∨ colonByte ∈ d.name.bytes := by
    by_contra hneither
    rw [not_or, Nat.not_le] at hneither
    exact hnot ⟨hfits, hneither⟩
  generalize hfallback : (sanitizeAscii authorLen (if (cString d.theirs.name.bytes).bytes = [] then
    channelFallback else cString d.theirs.name.bytes)).bytes = fallback at happended
  have hlonger := splitAuthor_longer hwrong d.text.bytes fallback
  rcases happended with ⟨hok, row', hrow', -, -, hcopied⟩ | ⟨-, hsame⟩
  · -- The row holds the whole body, and the body is longer than what was typed.
    have hlen := userTextValidate_ok_length hok
    have hkept := cString_bytes (no_nul_split fallback (no_nul_spokenText d.name d.text))
    rw [append_row_inj (hrow.symm.trans hrow'), hcopied] at hbody
    change List.take 139 (cString _).bytes = _ at hbody
    rw [List.take_of_length_le (hlen.trans (by decide)), hkept] at hbody
    exact absurd (congrArg List.length hbody) hlonger.ne'
  · exact append_ne_self _ _ (hsame.symm.trans hrow)

theorem Fair.arrives_of_fits (h : d.Fair) (hfit : d.Fits) : d.Arrives := by
  obtain ⟨raw, hbuilt, hreceived⟩ := h.received
  obtain ⟨hpos, -, hprint, -⟩ := nodeNameValid_iff.mp h.name
  obtain ⟨hspan, htextLen⟩ := h.spanOk
  obtain ⟨hfits, hshort, hcolon⟩ := hfit
  have htextNe : d.text.bytes ≠ [] := by
    intro hnil
    rw [hnil] at hspan
    exact UserTextResult.noConfusion hspan
  have happended := appendRx_history h.loaded h.room (h.receiver.rows.sound _ h.theirs).id_ne_zero
    (cString d.theirs.name.bytes) (cString (spokenText d.name.bytes d.text.bytes)) d.rssi d.snr
    d.pathHashBytes 0 d.env.nowMs
  dsimp only at happended
  rw [cString_bytes (no_nul_spokenText d.name d.text)] at happended
  have hvalid :
      (userTextValidateSpan (spokenText d.name.bytes d.text.bytes) false).result = .ok := by
    have hfront : ∀ c ∈ d.name.bytes ++ [colonByte, spaceByte], 32 ≤ c.toNat ∧ c.toNat ≤ 126 := by
      intro c hc
      rcases List.mem_append.mp hc with hname | hrest
      · exact ⟨(hprint c hname).1, (hprint c hname).2.1⟩
      · rcases List.mem_cons.mp hrest with rfl | hspace
        · decide
        · rw [List.mem_singleton.mp hspace]
          decide
    have hsplit : spokenText d.name.bytes d.text.bytes =
        (d.name.bytes ++ [colonByte, spaceByte]) ++ d.text.bytes := by
      rw [spokenText, List.append_assoc]
      rfl
    rw [hsplit]
    apply userTextValidateSpan_printable_append hfront hspan
    rw [← hsplit, length_spokenText]
    exact hfits
  rw [splitAuthor_spokenText hpos hshort hcolon htextNe, Option.getD_some, cString_self,
    cString_self] at happended
  rcases happended with ⟨-, row, hrow, hchannel, hauthor, hcopied⟩ | ⟨hbad, -⟩
  · refine ⟨raw, hbuilt, row, ?_, hchannel, ?_, ?_⟩
    · rw [hreceived, if_neg (not_not.mpr hvalid)]
      exact hrow
    · rw [hcopied]
      exact List.take_of_length_le (htextLen.trans (by decide))
    · rw [hauthor]
      exact author_kept hpos hprint _
  · exact absurd (validateUserText_ok.mp h.text) hbad

/-- A message arrives exactly when its name and text fit the receiver's limits. -/
theorem arrives_iff (h : d.Fair) : d.Arrives ↔ d.Fits :=
  ⟨h.fits_of_arrives, h.arrives_of_fits⟩

def plainCrypto : Crypto where
  aesEncrypt := fun _ block => block
  aesDecrypt := fun _ block => block
  hmacSha256 := fun _ _ => List.replicate 32 0
  sha256 := fun _ => List.replicate 32 0

theorem plainCrypto_lawful : plainCrypto.Lawful :=
  ⟨fun _ _ _ _ => rfl, fun _ _ _ h => h, fun _ _ => rfl, fun _ => rfl⟩

def publicStore : ChannelStore := (seedPublicRam (fun _ => some 0) {} 2 1 5).1

def emptyMessages : Message.Store where
  history := .empty
  window := ⟨false, 1, 0⟩
  volatileEntry := none
  loaded := true
  sdPrimaryDirty := false
  sdReconcilePending := false
  nvsFallbackDirty := false
  retryPending := false
  persistAttemptedThisBoot := false
  deviceLineageAuthoritative := false
  lastSdBackendGeneration := 0
  lastPersistAttemptMs := 0
  sdPrimaryLastError := espOk
  nvsFallbackLastError := espOk
  revision := 1
  nvsBlobScratch := Message.fillBlob .empty

/-- A message on the public channel to a node that has heard nothing yet. -/
def onPublic (name text : CStr) : Delivery where
  crypto := plainCrypto
  sender := publicStore
  mine := publicEntry 2 0
  theirs := publicEntry 2 0
  name := name
  text := text
  pathHashBytes := 1
  txTimestamp := 1700000000
  node := ⟨⟨publicStore, none⟩, false, emptyMessages, .empty, ⟨0, 0, 0, 0, 0⟩, [], []⟩
  env := ⟨0, [], []⟩
  rssi := -80
  snr := 20

theorem publicStore_valid : StoreValid (fun _ => some 0) publicStore :=
  seedPublicRam_valid {} (by decide) (by decide) (by decide) (by decide) (by decide) rfl

theorem onPublic_fair {name text : CStr} (hname : nodeNameValid (some name) = true)
    (htext : validateUserText (some text) = espOk) : (onPublic name text).Fair where
  crypto := plainCrypto_lawful
  sender := publicStore_valid
  receiver := publicStore_valid
  mine := List.mem_singleton_self _
  theirs := List.mem_singleton_self _
  enabled := Nat.one_ne_zero
  sameSecret := rfl
  sameHash := rfl
  only := fun _ he _ _ => List.mem_singleton.mp he
  name := hname
  text := htext
  pathHash := (by decide : 1 ≤ 1 ∧ 1 ≤ 3)
  loaded := rfl
  room := rfl
  ready := rfl
  unseen := fun _ _ _ hash _ _ => by
    change PacketHashCache.empty.holds hash = false
    simp [PacketHashCache.holds, PacketHashCache.empty, cacheCapacity]

def nameA : CStr := .lit [65]

theorem arrives_iff_hello : (onPublic nameA ⟨[104, 105], by decide⟩).Arrives ↔
    (onPublic nameA ⟨[104, 105], by decide⟩).Fits :=
  arrives_iff (onPublic_fair (by decide) (by decide))

def longText : CStr := ⟨List.replicate 138 120, by decide +kernel⟩

theorem long_text_lost : ¬∀ d : Delivery, d.Fair → d.Arrives := by
  intro h
  have hfair : (onPublic nameA longText).Fair := onPublic_fair (by decide) (by decide +kernel)
  have hfits := hfair.fits_of_arrives (h _ hfair)
  exact absurd hfits.1 (by decide +kernel)

end Delivery

end Delivery

section Repeats

variable {c : Crypto} {node next : RxNode} {raw : List UInt8}

/-- The packet hash of a frame as it came from the radio. -/
def frameHash (c : Crypto) (raw : List UInt8) : List UInt8 :=
  ((decodePacketV1 raw).bind fun packet => (packetHashCalculate c packet).toOption).getD []

/-- Two frames with one packet hash have as many others between them as the cache holds. -/
def Apart (c : Crypto) (frames : List (List UInt8)) : Prop :=
  ∀ older raw newer raw' rest, frames = older ++ raw :: (newer ++ raw' :: rest) →
    newer.length < cacheCapacity → frameHash c raw ≠ frameHash c raw'

structure RepeatInv (c : Crypto) (node : RxNode) : Prop where
  recalls : Recalls node.seen ((node.logged.map LoggedPacket.raw).map (frameHash c))
  apart : Apart c (node.logged.map LoggedPacket.raw)

/-- A frame is left out of the cache and the log, or it is new and goes into both. -/
inductive Admits (c : Crypto) (raw : List UInt8) (node next : RxNode) : Prop
  | ignored (seen : next.seen = node.seen) (logged : next.logged = node.logged)
  | taken (new : node.seen.holds (frameHash c raw) = false)
      (seen : next.seen = (node.seen.remember (frameHash c raw)).1)
      (logged : next.logged.map LoggedPacket.raw = node.logged.map LoggedPacket.raw ++ [raw])

theorem admitChannelText_admits {packet : WirePacket}
    (hhash : packetHashCalculate c packet = .ok (frameHash c raw)) (env : RxEnv) (rssi snr : Int)
    (channelId : UInt64) (message : CStr) :
    Admits c raw node (admitChannelText c node env raw packet rssi snr channelId message) := by
  have hready : (channelMessageGenerationReady node env).1.seen = node.seen ∧
      (channelMessageGenerationReady node env).1.logged = node.logged := by
    unfold channelMessageGenerationReady
    split_ifs <;> exact ⟨rfl, rfl⟩
  have hkept (n : RxNode) (seq : Nat) : (reconcileChannelMessages n env seq).seen = n.seen ∧
      (reconcileChannelMessages n env seq).logged = n.logged := by
    unfold reconcileChannelMessages
    split_ifs <;> exact ⟨rfl, rfl⟩
  unfold admitChannelText packetSeen rememberPacket
  rw [hhash]
  split
  · exact .ignored rfl rfl
  split_ifs with hoff hseen
  · exact .ignored rfl rfl
  · exact .ignored rfl rfl
  generalize channelMessageGenerationReady node env = ready at hready ⊢
  obtain ⟨n, ok⟩ := ready
  obtain ⟨hn, hlog⟩ := hready
  cases ok with
  | false => exact .ignored hn hlog
  | true =>
    dsimp only
    split_ifs with hseq
    · exact .ignored ((hkept _ _).1.trans hn) ((hkept _ _).2.trans hlog)
    · refine .taken (Bool.eq_false_iff.mpr hseen) ?_ ?_
      · rw [(hkept _ _).1]
        exact congrArg (fun seen => (PacketHashCache.remember seen _).1) hn
      · rw [(hkept _ _).2, List.map_append]
        exact congrArg (fun log => List.map LoggedPacket.raw log ++ _) hlog

theorem parseRxChannelPacket_admits (c : Crypto) (node : RxNode) (env : RxEnv) (raw : List UInt8)
    (rssi snr : Int) : Admits c raw node (parseRxChannelPacket c node env raw rssi snr) := by
  unfold parseRxChannelPacket
  cases hdecode : decodePacketV1 raw with
  | none => exact .ignored rfl rfl
  | some packet =>
    dsimp only
    split_ifs with hkind
    · exact .ignored rfl rfl
    have hhash : packetHashCalculate c packet = .ok (frameHash c raw) := by
      have hsound : Encodable packet := by
        unfold decodePacketV1 at hdecode
        split at hdecode
        · next q hq =>
          split_ifs at hdecode
          cases hdecode
          exact (decodePacket_sound hq).2
        · cases hdecode
      have hok : ¬(packet.payload.isNone = true ∨ 0x0f < packet.type ∨ packet.payloadLen = 0 ∨
          maxPacketPayload < packet.payloadLen) := by
        simp only [not_or, not_not] at hkind
        rw [hkind.1, ← Option.not_isSome, hsound.payload]
        rintro (h | h | h | h)
        · cases h
        · exact absurd h (by decide)
        · exact hsound.payloadPos.ne' h
        · exact hsound.payloadMax.not_gt h
      unfold frameHash packetHashCalculate
      rw [hdecode, Option.bind_some, if_neg hok]
      rfl
    repeat' split
    all_goals try exact .ignored rfl rfl
    unfold openChannelText
    repeat' split
    all_goals try exact .ignored rfl rfl
    exact admitChannelText_admits hhash env rssi snr _ _

theorem RepeatInv.admits (h : RepeatInv c node) (hadmits : Admits c raw node next) :
    RepeatInv c next := by
  cases hadmits with
  | ignored seen logged =>
    refine ⟨?_, ?_⟩
    · rw [seen, logged]
      exact h.recalls
    · rw [logged]
      exact h.apart
  | taken new seen logged =>
    refine ⟨?_, ?_⟩
    · rw [seen, logged, List.map_append]
      exact h.recalls.remember new
    · rw [logged]
      intro older first newer last rest hsplit hshort
      rcases List.eq_nil_or_concat' rest with rfl | ⟨rest, other, rfl⟩
      · rw [← List.cons_append, ← List.append_assoc] at hsplit
        obtain ⟨hlog, hlast⟩ := List.append_inj' hsplit rfl
        have hrecalls := h.recalls
        rw [hlog, List.map_append, List.map_cons] at hrecalls
        intro hsame
        rw [hsame, ← (List.cons.inj hlast).1] at hrecalls
        have hheld := hrecalls.holds (by rwa [List.length_map])
        exact Bool.noConfusion (hheld.symm.trans new)
      · apply h.apart older first newer last rest ?_ hshort
        refine (List.append_inj' (hsplit.trans (?_ : _ = _ ++ [other])) rfl).1
        simp only [List.append_assoc, List.cons_append]

/-- Channel frames in any order and number: a frame is taken again only when as many others as
the cache holds were taken in between. -/
theorem repeats_not_taken (c : Crypto) (node : RxNode)
    (frames : List (RxEnv × List UInt8 × Int × Int)) :
    Apart c ((runSteps (fun node (env, raw, rssi, snr) =>
        parseRxChannelPacket c node env raw rssi snr)
      { node with seen := .empty, logged := [] } frames).logged.map LoggedPacket.raw) := by
  have hstep (node : RxNode) (frame : RxEnv × List UInt8 × Int × Int) (h : RepeatInv c node) :
      RepeatInv c (parseRxChannelPacket c node frame.1 frame.2.1 frame.2.2.1 frame.2.2.2) :=
    h.admits (parseRxChannelPacket_admits c node _ _ _ _)
  refine (run_always hstep frames ⟨⟨List.length_replicate, Nat.succ_pos 159, ?_⟩, ?_⟩).apart
  · exact fun older _ _ hsplit => by simp at hsplit
  · exact fun older _ _ _ _ hsplit => by simp at hsplit

end Repeats

end Sigui.ChannelRx

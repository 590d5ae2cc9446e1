import Sigui.ChannelCalls
import Sigui.TextLanguage
import Sigui.UriText

/-! The share URI of a channel, and the parser that takes it back. -/
namespace Sigui.Channel

open UriText

/-- `"0123456789abcdef"[n]` -/
def lowerHex (n : Nat) : UInt8 := .ofNat (if n < 10 then 48 + n else 87 + n)

def secretHex (secret : List UInt8) : List UInt8 :=
  secret.flatMap fun b => [lowerHex (b.toNat / 16), lowerHex (b.toNat % 16)]

/-- What `d1l_channel_store_export_share_uri` writes for a name and a 128-bit secret. -/
def shareUri (name secret : List UInt8) (destSize : Nat) : Except EspErr (List UInt8) :=
  match encodeUriName name (channelNameLen * 3) with
  | none => .error espErrInvalidState
  | some encodedName =>
    let uri := uriScheme ++
      (fieldText nameField encodedName ++ 38 :: fieldText secretField (secretHex secret))
    if destSize ≤ uri.length then .error espErrInvalidSize else .ok uri

/-- `d1l_channel_store_export_share_uri` on a loaded store. -/
def exportShareUri (s : ChannelStore) (channelId : UInt64) (destSize : Nat) :
    Except EspErr (List UInt8) :=
  if channelId = 0 ∨ destSize = 0 then .error espErrInvalidArg
  else
    match s.entries.find? (fun e => decide (e.channelId = channelId)) with
    | none => .error espErrNotFound
    | some e =>
      if e.secretLen ≠ channelSecret128Len then .error espErrNotSupported
      else shareUri e.name.text (e.secret.bytes.take e.secretLen) destSize

theorem lowerHex_spec {n : Nat} (h : n < 16) :
    plainByte (lowerHex n) = true ∧ hexValue (lowerHex n) = some (.ofNat n) := by
  have hcases : ∀ n : Fin 16, plainByte (lowerHex n) = true ∧
      hexValue (lowerHex n) = some (.ofNat n) := by
    decide
  exact hcases ⟨n, h⟩

theorem hexByte_lowerHex (value : UInt8) :
    hexByte (lowerHex (value.toNat / 16)) (lowerHex (value.toNat % 16)) = some value := by
  have hlt := value.toNat_lt
  unfold hexByte
  rw [(lowerHex_spec (show value.toNat / 16 < 16 by omega)).2,
    (lowerHex_spec (show value.toNat % 16 < 16 by omega)).2]
  change some (UInt8.ofNat (value.toNat / 16) * 16 + UInt8.ofNat (value.toNat % 16)) = some value
  congr 1
  rw [← UInt8.toNat_inj, UInt8.toNat_add, UInt8.toNat_mul, UInt8.toNat_ofNat', UInt8.toNat_ofNat']
  change (value.toNat / 16 % 256 * 16 % 256 + value.toNat % 16 % 256) % 256 = value.toNat
  omega

theorem hexPairs_secretHex (secret : List UInt8) : hexPairs (secretHex secret) = some secret := by
  induction secret with
  | nil => rfl
  | cons value rest ih =>
    change hexPairs
      (lowerHex (value.toNat / 16) :: lowerHex (value.toNat % 16) :: secretHex rest) = _
    rw [hexPairs, hexByte_lowerHex, ih]
    rfl

theorem length_secretHex (secret : List UInt8) : (secretHex secret).length = 2 * secret.length := by
  have hpairs := hexPairs_length (hexPairs_secretHex secret)
  exact hpairs

theorem secretHex_safe {secret : List UInt8} {c : UInt8} (hc : c ∈ secretHex secret) :
    SafeByte c := by
  obtain ⟨b, -, hb⟩ := List.mem_flatMap.mp hc
  have hlt := b.toNat_lt
  simp only [List.mem_cons, List.not_mem_nil, or_false] at hb
  rcases hb with rfl | rfl
  · exact .inl (lowerHex_spec (by omega)).1
  · exact .inl (lowerHex_spec (by omega)).1

section RoundTrip

variable {name secret : List UInt8}

theorem nameField_parsed {encoded : List UInt8} (hname : utf8NameIsValid name = true)
    (hdecoded : decodeUriText encoded = some name) (hsafe : ∀ c ∈ encoded, SafeByte c)
    (found : Option (List UInt8)) :
    parseUriField (none, found) (fieldText nameField encoded) = some (some name, found) := by
  have hequals : encoded.contains 61 = false := by
    rw [List.contains_eq_mem, decide_eq_false_iff_not]
    exact fun hmem => (hsafe 61 hmem).no_separator.2.1 rfl
  have hvalue : decodeUriName encoded = some name := by
    unfold decodeUriName
    rw [hdecoded]
    change (if utf8NameIsValid name = true then some name else none) = some name
    rw [if_pos hname]
  unfold parseUriField
  dsimp only
  rw [takeWhile_field (by decide), drop_field]
  dsimp only
  rw [hequals, if_neg (by decide), if_pos rfl,
    Option.isSome_none, if_neg Bool.false_ne_true, hvalue]
  rfl

theorem secretField_parsed (hlen : secret.length = channelSecret128Len)
    (found : Option (List UInt8)) :
    parseUriField (found, none) (fieldText secretField (secretHex secret)) =
      some (found, some secret) := by
  have hequals : (secretHex secret).contains 61 = false := by
    rw [List.contains_eq_mem, decide_eq_false_iff_not]
    exact fun hmem => (secretHex_safe hmem).no_separator.2.1 rfl
  have hvalue : decodeUriSecret (secretHex secret) = some secret := by
    unfold decodeUriSecret
    rw [length_secretHex, hlen, if_pos (Nat.mul_comm _ _), hexPairs_secretHex]
  unfold parseUriField
  dsimp only
  rw [takeWhile_field (by decide), drop_field]
  dsimp only
  rw [hequals, if_neg (by decide), if_neg (by decide),
    if_pos rfl, Option.isSome_none, if_neg Bool.false_ne_true, hvalue]
  rfl

theorem shareUri_parses (hname : utf8NameIsValid name = true) (hnul : 0 ∉ name)
    (hlen : secret.length = channelSecret128Len) :
    ∃ uri, shareUri name secret channelShareUriLen = .ok uri ∧
      parseChannelUri (some uri) = some ⟨name, secret⟩ := by
  have hshort := length_of_utf8NameIsValid hname
  have hroom : 0 + 3 * name.length < channelNameLen * 3 := by omega
  obtain ⟨encoded, hencoded, hencodedLen⟩ := encodeFrom_fits hroom
  obtain ⟨hdecoded, hsafe⟩ := encodeFrom_decodes hnul hencoded
  have hsecretLen := length_secretHex secret
  unfold channelNameLen at hshort
  unfold channelSecret128Len at hlen
  generalize hfields :
    fieldText nameField encoded ++ 38 :: fieldText secretField (secretHex secret) = fields
  have hfieldsLen : 0 < fields.length ∧ fields.length ≤ 5 + 96 + 1 + 7 + 32 := by
    rw [← hfields]
    simp only [fieldText, nameField, secretField, List.length_append, List.length_cons,
      List.length_nil]
    omega
  have huriLen : (uriScheme ++ fields).length = 23 + fields.length := by
    rw [List.length_append]
    rfl
  have hnameText : 38 ∉ fieldText nameField encoded ∧ 0 ∉ fieldText nameField encoded :=
    fieldText_separators (by decide) hsafe
  have hsecretText : 38 ∉ fieldText secretField (secretHex secret) ∧
      0 ∉ fieldText secretField (secretHex secret) :=
    fieldText_separators (by decide) fun _ => secretHex_safe
  have hsplit : fields.splitOn 38 =
      [fieldText nameField encoded, fieldText secretField (secretHex secret)] := by
    rw [← hfields, List.splitOn_append_cons_self_of_not_mem hnameText.1,
      List.splitOn_eq_singleton hsecretText.1]
  have hclean : (uriScheme ++ fields).contains 0 = false := by
    rw [List.contains_eq_mem, decide_eq_false_iff_not, List.mem_append, not_or, ← hfields,
      List.mem_append, not_or, List.mem_cons, not_or]
    exact ⟨by decide, hnameText.2, by decide, hsecretText.2⟩
  have hwritten : shareUri name secret channelShareUriLen = .ok (uriScheme ++ fields) := by
    unfold shareUri encodeUriName
    rw [hencoded]
    dsimp only
    rw [hfields, if_neg (by unfold channelShareUriLen; omega)]
  refine ⟨uriScheme ++ fields, hwritten, ?_⟩
  have hempty : (uriScheme ++ fields).isEmpty = false := rfl
  simp only [parseChannelUri, Option.bind_eq_bind, Option.bind_some]
  rw [hempty, hclean, decide_eq_false (by unfold channelShareUriLen; omega), if_neg (by decide),
    if_neg (by
      rintro (hnone | hscheme)
      · rw [huriLen] at hnone
        exact absurd hnone (by change ¬_ ≤ 23; omega)
      · exact hscheme List.take_left), List.drop_left, hsplit, List.foldlM_cons,
    nameField_parsed hname hdecoded hsafe]
  simp only [Option.bind_eq_bind, Option.bind_some, List.foldlM_cons, List.foldlM_nil]
  rw [secretField_parsed hlen]
  rfl

theorem no_nul_of_valid (h : utf8NameIsValid name = true) : 0 ∉ name := by
  simp only [utf8NameIsValid, Bool.and_eq_true] at h
  exact TextLanguage.no_nul_of_utf8Scan h.2

/-- What the share URI of a channel says, and what any accepted URI says when it is shared again. -/
theorem share_round_trip :
    (∀ (s : ChannelStore) (channelId : UInt64) (e : ChannelEntry), channelId ≠ 0 →
      s.entries.find? (fun e => decide (e.channelId = channelId)) = some e →
      e.secretLen = channelSecret128Len → utf8NameIsValid e.name.text = true →
      ∃ uri, exportShareUri s channelId channelShareUriLen = .ok uri ∧
        parseChannelUri (some uri) = some ⟨e.name.text, e.secret.bytes.take channelSecret128Len⟩) ∧
    ∀ (uri : Option (List UInt8)) (parsed : ChannelUri), parseChannelUri uri = some parsed →
      ∃ uri', shareUri parsed.name parsed.secret channelShareUriLen = .ok uri' ∧
        parseChannelUri (some uri') = some parsed := by
  constructor
  · intro s channelId e hid hfound hlen hname
    have hsecret : (e.secret.bytes.take channelSecret128Len).length = channelSecret128Len := by
      rw [List.length_take, e.secret.length_eq]
      decide
    obtain ⟨uri, hshared, hparsed⟩ := shareUri_parses hname (no_nul_of_valid hname) hsecret
    refine ⟨uri, ?_, hparsed⟩
    unfold exportShareUri
    rw [if_neg (by
      rintro (hzero | hempty)
      · exact hid hzero
      · exact absurd hempty (by decide)), hfound]
    dsimp only
    rw [if_neg (not_not.mpr hlen), hlen]
    exact hshared
  · intro uri parsed hparsed
    obtain ⟨hname, hlen⟩ := parseChannelUri_sound hparsed
    exact shareUri_parses hname (no_nul_of_valid hname) hlen

theorem share_round_trip_public :
    ∃ uri, exportShareUri (seedPublicRam (fun _ => some 0) {} 2 1 5).1 channelPublicId
        channelShareUriLen = .ok uri ∧
      parseChannelUri (some uri) =
        some ⟨(publicEntry 2 0).name.text,
          (publicEntry 2 0).secret.bytes.take channelSecret128Len⟩ :=
  share_round_trip.1 _ _ (publicEntry 2 0) (by decide) (by decide +kernel) (by decide)
    (by decide +kernel)

end RoundTrip

end Sigui.Channel

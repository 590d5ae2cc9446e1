import Sigui.TextLanguage
import Sigui.UriText

/-! The URI a contact is shared as, and the parser that takes it back. -/
namespace Sigui.Contact

open Sigui.Channel (decodeUriText utf8Scan nameField)
open UriText TextLanguage

/-- `name_is_valid` -/
def uriNameIsValid (name : CharArray 32) : Bool :=
  name.terminated && contactUtf8NameIsValid name.bytes

/-- `"name=%s&public_key=%s&type=%u"` with a type of one digit. -/
def contactUriFields (encodedName key : List UInt8) (typeId : Nat) : List UInt8 :=
  fieldText nameField encodedName ++ 38 :: (fieldText publicKeyField key ++ 38 ::
    fieldText typeField [UInt8.ofNat (48 + typeId)])

/-- `d1l_contact_uri_format`; `none` leaves an empty string. -/
def formatContactUri (name : CharArray 32) (publicKeyHex : CharArray 65) (typeId destSize : Nat) :
    Option (List UInt8) :=
  if destSize = 0 then none
  else if uriNameIsValid name = false ∨
      fixedHexStringValid publicKeyHex.bytes publicKeyChars = false ∨ typeId < 1 ∨ 4 < typeId then
    none
  else
    match encodeUriName name.bytes (contactUriNameLen * 3) with
    | none => none
    | some encodedName =>
      let uri := contactUriScheme ++
        contactUriFields encodedName (publicKeyHex.bytes.map lowerHexChar) typeId
      if destSize ≤ uri.length then none else some uri

section Fields

variable {name encoded key : List UInt8} {parsed : UriFields}

theorem nameField_taken (hvalid : contactUtf8NameIsValid name = true)
    (hshort : name.length < contactUriNameLen) (hdecoded : decodeUriText encoded = some name)
    (hsafe : ∀ c ∈ encoded, SafeByte c) (hfree : parsed.name = none) :
    parseContactField parsed (fieldText nameField encoded) =
      some { parsed with name := some name } := by
  have hequals : encoded.contains 61 = false := by
    rw [List.contains_eq_mem, decide_eq_false_iff_not]
    exact fun hmem => (hsafe 61 hmem).no_separator.2.1 rfl
  have hvalue : decodeContactName encoded = some name := by
    simp only [contactUtf8NameIsValid, Bool.and_eq_true] at hvalid
    unfold decodeContactName
    rw [hdecoded]
    change (if (!name.isEmpty && decide (name.length < contactUriNameLen) && utf8Scan name) = true
      then some name else none) = some name
    rw [hvalid.1, hvalid.2, decide_eq_true hshort]
    rfl
  unfold parseContactField
  dsimp only
  rw [takeWhile_field (by decide), drop_field]
  dsimp only
  rw [hequals, if_neg (by decide), if_pos rfl, hfree, Option.isSome_none, if_neg Bool.false_ne_true,
    hvalue]
  rfl

theorem hex_safe {c : UInt8} (h : isHexChar c = true) : SafeByte c := by
  simp only [isHexChar, Bool.or_eq_true, decide_eq_true_eq] at h
  left
  simp only [plainByte, Bool.or_eq_true, decide_eq_true_eq]
  omega

theorem key_safe (h : fixedHexStringValid key publicKeyChars = true) :
    ∀ c ∈ key, SafeByte c := by
  simp only [fixedHexStringValid, Bool.and_eq_true, List.all_eq_true] at h
  exact fun c hc => hex_safe (h.2 c hc)

theorem lowerKey_valid (h : fixedHexStringValid key publicKeyChars = true) :
    fixedHexStringValid (key.map lowerHexChar) publicKeyChars = true ∧
      (key.map lowerHexChar).map lowerHexChar = key.map lowerHexChar := by
  simp only [fixedHexStringValid, Bool.and_eq_true, List.all_eq_true, decide_eq_true_eq] at h
  constructor
  · simp only [fixedHexStringValid, Bool.and_eq_true, List.all_eq_true, decide_eq_true_eq,
      List.length_map, List.mem_map, forall_exists_index, and_imp, forall_apply_eq_imp_iff₂]
    exact ⟨h.1, fun c hc => isHexChar_lowerHexChar (h.2 c hc)⟩
  · rw [List.map_map]
    exact List.map_congr_left fun c _ => lowerHexChar_idem c

theorem publicKeyField_taken (h : fixedHexStringValid key publicKeyChars = true)
    (hlower : key.map lowerHexChar = key) (hfree : parsed.publicKey = none) :
    parseContactField parsed (fieldText publicKeyField key) =
      some { parsed with publicKey := some key } := by
  have hequals : key.contains 61 = false := by
    rw [List.contains_eq_mem, decide_eq_false_iff_not]
    exact fun hmem => (key_safe h 61 hmem).no_separator.2.1 rfl
  have hvalue : parsePublicKey key = some key := by
    rw [parsePublicKey, if_pos h, hlower]
  unfold parseContactField
  dsimp only
  rw [takeWhile_field (by decide), drop_field]
  dsimp only
  rw [hequals, if_neg (by decide), if_neg (by decide), if_pos rfl, hfree, Option.isSome_none,
    if_neg Bool.false_ne_true, hvalue]
  rfl

theorem typeField_taken {typeId : Nat} (h : 1 ≤ typeId ∧ typeId ≤ 4)
    (hfree : parsed.typeId = none) :
    parseContactField parsed (fieldText typeField [UInt8.ofNat (48 + typeId)]) =
      some { parsed with typeId := some typeId } := by
  have hcases : typeId = 1 ∨ typeId = 2 ∨ typeId = 3 ∨ typeId = 4 := by omega
  unfold parseContactField
  dsimp only
  rw [takeWhile_field (by decide), drop_field]
  dsimp only
  rw [hfree]
  rcases hcases with rfl | rfl | rfl | rfl <;> rfl

end Fields

section RoundTrip

variable {name : CharArray 32} {publicKeyHex : CharArray 65} {typeId : Nat}

theorem formatContactUri_parses (hname : uriNameIsValid name = true)
    (hkey : fixedHexStringValid publicKeyHex.bytes publicKeyChars = true)
    (htype : 1 ≤ typeId ∧ typeId ≤ 4) {destSize : Nat} (hdest : 224 ≤ destSize) :
    ∃ uri parsed, formatContactUri name publicKeyHex typeId destSize = some uri ∧
      uri.length ≤ contactUriMaxLen ∧ parseContactUri uri = some parsed ∧
      parsed.name.bytes = name.bytes ∧
      parsed.publicKeyHex.bytes = publicKeyHex.bytes.map lowerHexChar ∧ parsed.typeId = typeId := by
  obtain ⟨hkeyValid, hkeyLower⟩ := lowerKey_valid hkey
  generalize hk : publicKeyHex.bytes.map lowerHexChar = key at hkeyValid hkeyLower
  have hnameValid : name.bytes.length < contactUriNameLen ∧
      contactUtf8NameIsValid name.bytes = true := by
    simp only [uriNameIsValid, Bool.and_eq_true, CharArray.terminated, decide_eq_true_eq] at hname
    exact hname
  obtain ⟨hshort, hvalid⟩ := hnameValid
  have hroom : 0 + 3 * name.bytes.length < contactUriNameLen * 3 := by omega
  obtain ⟨encoded, hencoded, hencodedLen⟩ := encodeFrom_fits hroom
  obtain ⟨hdecoded, hsafe⟩ := encodeFrom_decodes name.no_nul hencoded
  have hkeyLen := length_of_fixedHexStringValid hkeyValid
  have hdigit : ∀ c ∈ [UInt8.ofNat (48 + typeId)], SafeByte c := by
    intro c hc
    rw [List.mem_singleton.mp hc]
    have hcases : typeId = 1 ∨ typeId = 2 ∨ typeId = 3 ∨ typeId = 4 := by omega
    rcases hcases with rfl | rfl | rfl | rfl <;> exact .inl (by decide)
  have hnameText : 38 ∉ fieldText nameField encoded ∧ 0 ∉ fieldText nameField encoded :=
    fieldText_separators (by decide) hsafe
  have hkeyText : 38 ∉ fieldText publicKeyField key ∧ 0 ∉ fieldText publicKeyField key :=
    fieldText_separators (by decide) (key_safe hkeyValid)
  have htypeText : 38 ∉ fieldText typeField [UInt8.ofNat (48 + typeId)] ∧
      0 ∉ fieldText typeField [UInt8.ofNat (48 + typeId)] :=
    fieldText_separators (by decide) hdigit
  generalize hfields : contactUriFields encoded key typeId = fields
  have hfieldsLen : 0 < fields.length ∧ fields.length ≤ 5 + 93 + 1 + 11 + 64 + 1 + 5 + 1 := by
    rw [← hfields]
    unfold contactUriNameLen at hshort
    unfold publicKeyChars at hkeyLen
    simp only [contactUriFields, fieldText, nameField, publicKeyField, typeField,
      List.length_append, List.length_cons, List.length_nil]
    omega
  have huriLen : (contactUriScheme ++ fields).length = 23 + fields.length := by
    rw [List.length_append]
    rfl
  have hsplit : fields.splitOn 38 = [fieldText nameField encoded, fieldText publicKeyField key,
      fieldText typeField [UInt8.ofNat (48 + typeId)]] := by
    rw [← hfields, contactUriFields, List.splitOn_append_cons_self_of_not_mem hnameText.1,
      List.splitOn_append_cons_self_of_not_mem hkeyText.1, List.splitOn_eq_singleton htypeText.1]
  have hclean : (contactUriScheme ++ fields).contains 0 = false := by
    rw [List.contains_eq_mem, decide_eq_false_iff_not, List.mem_append, not_or, ← hfields,
      contactUriFields, List.mem_append, not_or, List.mem_cons, not_or, List.mem_append, not_or,
      List.mem_cons, not_or]
    exact ⟨by decide, hnameText.2, by decide, hkeyText.2, by decide, htypeText.2⟩
  have hnul : 0 ∉ key := fun hmem => (key_safe hkeyValid 0 hmem).no_separator.2.2 rfl
  have hfits : (name.bytes.length ≤ contactUriNameLen ∧ 0 ∉ name.bytes) ∧ 0 ∉ key ∧
      fixedHexStringValid key publicKeyChars = true :=
    ⟨⟨hshort.le, name.no_nul⟩, hnul, hkeyValid⟩
  refine ⟨contactUriScheme ++ fields,
    ⟨⟨name.bytes, hfits.1.1, hfits.1.2⟩, ⟨key, hnul⟩, typeId, hkeyValid⟩, ?_, ?_, ?_, rfl, rfl, rfl⟩
  · unfold formatContactUri encodeUriName
    rw [if_neg (by omega), if_neg (by
      rintro (hbad | hbad | hbad | hbad)
      · exact Bool.noConfusion (hbad.symm.trans hname)
      · exact Bool.noConfusion (hbad.symm.trans hkey)
      · omega
      · omega), hencoded]
    dsimp only
    rw [hk, hfields, if_neg (by omega)]
  · unfold contactUriMaxLen
    omega
  · have hempty : (contactUriScheme ++ fields).isEmpty = false := rfl
    simp only [parseContactUri, Option.bind_eq_bind]
    rw [hempty, hclean, decide_eq_false (by unfold contactUriMaxLen; omega), if_neg (by decide),
      if_neg (by
        rintro (hnone | hscheme)
        · rw [huriLen] at hnone
          exact absurd hnone (by change ¬_ ≤ 23; omega)
        · exact hscheme List.take_left), List.drop_left, hsplit, List.foldlM_cons,
      nameField_taken hvalid hshort hdecoded hsafe rfl]
    simp only [Option.bind_eq_bind, Option.bind_some, List.foldlM_cons, List.foldlM_nil]
    rw [publicKeyField_taken hkeyValid hkeyLower rfl]
    simp only [Option.bind_some]
    rw [typeField_taken htype rfl]
    simp only [Option.bind_some, Option.pure_def, contactUriOf, Option.bind_eq_bind]
    rw [dif_pos hfits]

end RoundTrip

structure FieldsTaken (parsed : UriFields) : Prop where
  name : ∀ name, parsed.name = some name →
    name.length < contactUriNameLen ∧ contactUtf8NameIsValid name = true
  key : ∀ key, parsed.publicKey = some key → key.map lowerHexChar = key
  typeId : ∀ typeId, parsed.typeId = some typeId → 1 ≤ typeId ∧ typeId ≤ 4

theorem decodeContactName_taken {encoded name : List UInt8}
    (h : decodeContactName encoded = some name) :
    name.length < contactUriNameLen ∧ contactUtf8NameIsValid name = true := by
  simp only [decodeContactName, Option.bind_eq_bind, Option.bind_eq_some_iff] at h
  obtain ⟨text, -, htext⟩ := h
  split_ifs at htext with hvalid
  cases htext
  simp only [Bool.and_eq_true, decide_eq_true_eq] at hvalid
  rw [contactUtf8NameIsValid, hvalid.1.1, hvalid.2]
  exact ⟨hvalid.1.2, rfl⟩

theorem parsePublicKey_taken {value key : List UInt8} (h : parsePublicKey value = some key) :
    key.map lowerHexChar = key := by
  unfold parsePublicKey at h
  split_ifs at h with hvalid
  cases h
  exact (lowerKey_valid hvalid).2

theorem parseTypeId_taken {value : List UInt8} {typeId : Nat}
    (h : parseTypeId value = some typeId) : 1 ≤ typeId ∧ typeId ≤ 4 := by
  rcases value with _ | ⟨digit, _ | ⟨_, _⟩⟩
  · cases h
  · unfold parseTypeId at h
    dsimp only at h
    split_ifs at h with hrange
    cases h
    omega
  · cases h

theorem parseContactField_taken {parsed parsed' : UriFields} {text : List UInt8}
    (hs : FieldsTaken parsed) (h : parseContactField parsed text = some parsed') :
    FieldsTaken parsed' := by
  simp only [parseContactField] at h
  cases hdrop : text.drop (text.takeWhile (· != 61)).length with
  | nil =>
    rw [hdrop] at h
    cases h
  | cons sep value =>
    rw [hdrop] at h
    dsimp only at h
    split_ifs at h with hsep hname hnamed hkey hkeyed htype htyped
    · obtain ⟨name, hdecoded, rfl⟩ := Option.map_eq_some_iff.mp h
      refine ⟨fun text htext => ?_, hs.key, hs.typeId⟩
      cases htext
      exact decodeContactName_taken hdecoded
    · obtain ⟨key, hparsed, rfl⟩ := Option.map_eq_some_iff.mp h
      refine ⟨hs.name, fun text htext => ?_, hs.typeId⟩
      cases htext
      exact parsePublicKey_taken hparsed
    · obtain ⟨typeId, hparsed, rfl⟩ := Option.map_eq_some_iff.mp h
      refine ⟨hs.name, hs.key, fun n hn => ?_⟩
      cases hn
      exact parseTypeId_taken hparsed

theorem parseContactFields_taken {fields : List (List UInt8)} {parsed parsed' : UriFields}
    (hs : FieldsTaken parsed) (h : fields.foldlM parseContactField parsed = some parsed') :
    FieldsTaken parsed' := by
  induction fields generalizing parsed with
  | nil =>
    cases h
    exact hs
  | cons field fields ih =>
    rw [List.foldlM_cons] at h
    obtain ⟨next, hfield, hrest⟩ := Option.bind_eq_some_iff.mp h
    exact ih (parseContactField_taken hs hfield) hrest

theorem parseContactUri_taken {input : List UInt8} {parsed : ContactUri}
    (h : parseContactUri input = some parsed) :
    uriNameIsValid parsed.name = true ∧
      parsed.publicKeyHex.bytes.map lowerHexChar = parsed.publicKeyHex.bytes ∧
      1 ≤ parsed.typeId ∧ parsed.typeId ≤ 4 := by
  simp only [parseContactUri, Option.bind_eq_bind] at h
  split_ifs at h with hbytes hscheme
  obtain ⟨fields, hfields, hcontact⟩ := Option.bind_eq_some_iff.mp h
  have hstart : FieldsTaken {} := by
    constructor
    all_goals
      intro value hvalue
      cases hvalue
  have htaken := parseContactFields_taken hstart hfields
  simp only [contactUriOf, Option.bind_eq_bind, Option.bind_eq_some_iff] at hcontact
  obtain ⟨name, hname, key, hkey, typeId, htype, hcontact⟩ := hcontact
  split_ifs at hcontact with hfits
  cases hcontact
  obtain ⟨hshort, hvalid⟩ := htaken.name name hname
  refine ⟨?_, htaken.key key hkey, htaken.typeId typeId htype⟩
  rw [uriNameIsValid, CharArray.terminated, hvalid, Bool.and_true, decide_eq_true_eq]
  exact hshort

def ContactUri.keyArray (contact : ContactUri) : CharArray 65 where
  bytes := contact.publicKeyHex.bytes
  length_le := by
    rw [length_of_fixedHexStringValid contact.key_valid]
    decide
  no_nul := contact.publicKeyHex.no_nul

theorem ContactUri.ext_fields {a b : ContactUri} (hname : a.name.bytes = b.name.bytes)
    (hkey : a.publicKeyHex.bytes = b.publicKeyHex.bytes) (htype : a.typeId = b.typeId) : a = b := by
  obtain ⟨⟨_, _, _⟩, ⟨_, _⟩, _, _⟩ := a
  obtain ⟨⟨_, _, _⟩, ⟨_, _⟩, _, _⟩ := b
  cases hname
  cases hkey
  cases htype
  rfl

/-- A contact comes back from its URI, and an accepted URI gives the same contact when it is written
again. -/
theorem contact_uri_round_trip :
    (∀ (name : CharArray 32) (publicKeyHex : CharArray 65) (typeId destSize : Nat),
      uriNameIsValid name = true →
      fixedHexStringValid publicKeyHex.bytes publicKeyChars = true →
      1 ≤ typeId ∧ typeId ≤ 4 → 224 ≤ destSize →
      ∃ uri parsed, formatContactUri name publicKeyHex typeId destSize = some uri ∧
        uri.length ≤ contactUriMaxLen ∧ parseContactUri uri = some parsed ∧
        parsed.name = name ∧
        parsed.publicKeyHex.bytes = publicKeyHex.bytes.map lowerHexChar ∧
        parsed.typeId = typeId) ∧
    ∀ (input : List UInt8) (parsed : ContactUri) (destSize : Nat),
      parseContactUri input = some parsed → 224 ≤ destSize →
      ∃ uri, formatContactUri parsed.name parsed.keyArray parsed.typeId destSize = some uri ∧
        parseContactUri uri = some parsed := by
  constructor
  · intro name publicKeyHex typeId destSize hname hkey htype hdest
    obtain ⟨uri, parsed, hformatted, hlen, hparsed, hsame, hfolded, hid⟩ :=
      formatContactUri_parses hname hkey htype hdest
    exact ⟨uri, parsed, hformatted, hlen, hparsed, CharArray.ext_bytes hsame, hfolded, hid⟩
  · intro input parsed destSize hinput hdest
    obtain ⟨hname, hlower, htype⟩ := parseContactUri_taken hinput
    obtain ⟨uri, parsed', hformatted, -, hparsed, hsame, hfolded, hid⟩ :=
      formatContactUri_parses hname
        (show fixedHexStringValid parsed.keyArray.bytes publicKeyChars = true from parsed.key_valid)
        htype hdest
    refine ⟨uri, hformatted, ?_⟩
    rw [hparsed, ContactUri.ext_fields hsame (hfolded.trans hlower) hid]

/-- A chat contact with one digit over and over as its key. -/
theorem contact_uri_round_trip_chat :
    ∃ uri parsed, formatContactUri ⟨[65], by decide, by decide⟩
        ⟨List.replicate 64 65, by decide, by decide⟩ 1 224 = some uri ∧
      uri.length ≤ contactUriMaxLen ∧ parseContactUri uri = some parsed ∧
      parsed.name = ⟨[65], by decide, by decide⟩ ∧
      parsed.publicKeyHex.bytes = (List.replicate 64 65).map lowerHexChar ∧ parsed.typeId = 1 :=
  contact_uri_round_trip.1 _ _ _ _ (by decide) (by decide +kernel) (by decide) (by decide)

end Sigui.Contact

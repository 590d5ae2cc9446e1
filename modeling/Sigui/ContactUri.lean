import Sigui.ChannelOps
import Sigui.ContactEntry

/-! The contact URI: three fields, each exactly once, in any order. -/
namespace Sigui.Contact

open Sigui.Channel (decodeUriText utf8Scan nameField)

/-- `D1L_CONTACT_URI_SCHEME`, `meshcore://contact/add?` -/
def contactUriScheme : List UInt8 :=
  [109, 101, 115, 104, 99, 111, 114, 101, 58, 47, 47, 99, 111, 110, 116, 97, 99, 116, 47, 97, 100,
    100, 63]

def contactUriMaxLen : Nat := 223
def contactUriNameLen : Nat := 32

def publicKeyField : List UInt8 := [112, 117, 98, 108, 105, 99, 95, 107, 101, 121]
def typeField : List UInt8 := [116, 121, 112, 101]

/-- `decode_name`: a NUL is refused with the other control characters, and the loop gives up when
the buffer is full. -/
def decodeContactName (encoded : List UInt8) : Option (List UInt8) := do
  let text ← decodeUriText encoded
  if !text.isEmpty && decide (text.length < contactUriNameLen) && utf8Scan text then return text
  else none

def parsePublicKey (value : List UInt8) : Option (List UInt8) :=
  if fixedHexStringValid value publicKeyChars then some (value.map lowerHexChar) else none

/-- One digit from `1` to `4`. -/
def parseTypeId : List UInt8 → Option Nat
  | [digit] => if 49 ≤ digit.toNat ∧ digit.toNat ≤ 52 then some (digit.toNat - 48) else none
  | _ => none

structure UriFields where
  name : Option (List UInt8) := none
  publicKey : Option (List UInt8) := none
  typeId : Option Nat := none

/-- One `field=value` of the URI. -/
def parseContactField (parsed : UriFields) (text : List UInt8) : Option UriFields :=
  let field := text.takeWhile (· != 61)
  match text.drop field.length with
  | [] => none
  | _ :: value =>
    if field.isEmpty || value.contains 61 then none
    else if field = nameField then
      if parsed.name.isSome then none
      else (decodeContactName value).map fun name => { parsed with name := some name }
    else if field = publicKeyField then
      if parsed.publicKey.isSome then none
      else (parsePublicKey value).map fun key => { parsed with publicKey := some key }
    else if field = typeField then
      if parsed.typeId.isSome then none
      else (parseTypeId value).map fun typeId => { parsed with typeId := some typeId }
    else none

/-- `d1l_contact_uri_t`: the key is 64 hexadecimal digits. -/
structure ContactUri where
  name : CharArray 32
  publicKeyHex : CStr
  typeId : Nat
  key_valid : fixedHexStringValid publicKeyHex.bytes publicKeyChars = true

def contactUriOf (fields : UriFields) : Option ContactUri := do
  let name ← fields.name
  let key ← fields.publicKey
  let typeId ← fields.typeId
  if h : (name.length ≤ contactUriNameLen ∧ 0 ∉ name) ∧ 0 ∉ key ∧
      fixedHexStringValid key publicKeyChars = true then
    return ⟨⟨name, h.1.1, h.1.2⟩, ⟨key, h.2.1⟩, typeId, h.2.2⟩
  else none

/-- `d1l_contact_uri_parse`; an empty field or one after a trailing separator has no `=`. -/
def parseContactUri (input : List UInt8) : Option ContactUri := do
  if input.isEmpty || decide (contactUriMaxLen < input.length) || input.contains 0 then none
  else if input.length ≤ contactUriScheme.length ∨
      input.take contactUriScheme.length ≠ contactUriScheme then none
  else
    let fields ← ((input.drop contactUriScheme.length).splitOn 38).foldlM parseContactField {}
    contactUriOf fields

def meshcoreTypeName (typeId : Nat) : Option (List UInt8) :=
  if typeId = 1 then some chatType
  else if typeId = 2 then some repeaterType
  else if typeId = 3 then some roomType
  else if typeId = 4 then some sensorType
  else none

end Sigui.Contact

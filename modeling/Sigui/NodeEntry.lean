import Sigui.Text

/-! A heard node as the node store keeps it and as it is handed to the contact store. -/
namespace Sigui

/-- `d1l_node_entry_t` -/
structure NodeEntry where
  seq : Nat
  firstHeardMs : Nat
  lastHeardMs : Nat
  advertTimestamp : Nat
  heardCount : Nat
  fingerprint : CharArray 17
  publicKeyHex : CharArray 65
  name : CharArray 24
  type : CharArray 9
  rssiDbm : Int
  snrTenths : Int
  pathHashBytes : Nat
  pathHops : Nat
  locationValid : Bool
  latE6 : Int
  lonE6 : Int
  locationAdvertTimestamp : Nat
  locationSeq : Nat
  deriving DecidableEq

def CharArray.cstr {n : Nat} (a : CharArray n) : CStr := ⟨a.bytes, a.no_nul⟩

end Sigui

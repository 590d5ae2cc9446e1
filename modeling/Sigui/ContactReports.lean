import Sigui.ContactRollback

/-! The contact that a call reports in `out_entry`. The row is copied from the index it was written
to, after a persist pass that may have merged the rows with the card's. -/
namespace Sigui.Contact

open Sigui.MeshPath

section Reports

variable {ρ : Type} {name : Option (List UInt8)} {wrote : ContactEntry → Prop}
  {s t : ContactStore} {pre post : List ContactEntry} {row e : ContactEntry}

end Reports

section Calls

variable {d : ContactDevice} {io : OpIo} {call : ContactCall} {s : ContactStore} {ρ : Type}
  {name : Option (List UInt8)} {wrote : ContactEntry → Prop} {pre post : List ContactEntry}
  {row e : ContactEntry}

end Calls

/-- The contact `aaaaaaaaaaaaaaaa` was heard while there was no card; then one with another contact
was put in. -/
def lateCard : ContactDevice :=
  runSteps stepContact ⟨{}, false, 0, none, none⟩
    [.call (.upsertFromNode (some (fingerprintOf 97)) none none) (.accepted 10),
      .mount true 1 (some (.current (plainBlob [plainContact 1 98])))]

end Sigui.Contact

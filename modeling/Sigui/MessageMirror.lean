import Sigui.MessageInit

/-! Whether a mirror that init leaves marked as clean says what RAM says. -/
namespace Sigui.Message

/-- Everything that `blobs_equivalent` looks at. -/
structure Shown where
  clearLineage : UInt64
  epoch : Nat
  contentRevision : Nat
  nextSeq : Nat
  totalWritten : Nat
  droppedOldest : Nat
  rows : List Entry

def Entry.cleared (e : Entry) : Entry := { e with reserved := zeroReserved }

def Blob.shown (b : Blob) : Shown :=
  ⟨b.clearLineage, b.epoch, b.contentRevision, b.nextSeq, b.totalWritten, b.droppedOldest,
    b.rows.map Entry.cleared⟩

section Mirrors

def Raised (r : InitReads) (nvs sd : StoredBlob) (merged : History) : Prop :=
  r.generationChanged = false ∧ initChanged nvs.blob sd.blob merged = true ∧
    merged.contentRevision < uint32Max

variable {r : InitReads} {nvs sd : StoredBlob} {s t : Store}

end Mirrors

end Sigui.Message

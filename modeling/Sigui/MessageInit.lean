import Sigui.MessageValid

/-! What the message store's init makes of the two blobs it has read: which of them is loaded, and
what the merge leaves in the buffer that held the NVS blob. -/
namespace Sigui.Message

section Branch

variable (nvs sd : Blob)

def sdSelected : Bool := decide (sd.clearLineage = nvs.clearLineage) && blobIsNewer sd nvs

def selectedBlob : Blob := if sdSelected nvs sd then sd else nvs

/-- The merge brings something that the selected blob does not have. -/
def initChanged (merged : History) : Bool :=
  !blobsEquivalent (fillBlob (loadBlob (selectedBlob nvs sd))) (fillBlob merged)

end Branch

section Merge

variable {s : Store} {nvs sd : StoredBlob}

end Merge

section Init

variable {r : InitReads} {nvs sd : StoredBlob}

/-- The store as init has loaded it, before the generation is looked at once more. -/
def initLoaded (s : Store) (r : InitReads) : Store := initLoad (resetStore s r.generation) r

end Init

end Sigui.Message

import Sigui.DmPersist

/-! What the DM store's init is left with when the card is exchanged under its merge. -/
namespace Sigui.Dm

section Settled

variable {s t : DmStore}

/-- What a boot makes of a blob alone: the blob, with what the reboot has interrupted settled. -/
def settled (b : DmBlob) : DmBlob := fillBlob (normalizeInterrupted (loadBlob bootStore b))

end Settled

section Merge

variable {r : InitReads} {nvs sd : StoredBlob} {s : DmStore}

end Merge

end Sigui.Dm

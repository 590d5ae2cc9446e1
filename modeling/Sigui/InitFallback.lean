import Sigui.DmFallback
import Sigui.DmLiveRows
import Sigui.MessageMirror

/-! Init when the card is exchanged under the merge: both stores load the buffer that held the
NVS blob, and the merge of one branch has written to it. -/
namespace Sigui

namespace Message

variable {r : InitReads} {nvs sd : StoredBlob}

end Message

end Sigui

import Sigui.AckAgreement
import Sigui.AckDedupe
import Sigui.AckRuns
import Sigui.AdminAttempts
import Sigui.AdminReplayRuns
import Sigui.AdminSessionRuns
import Sigui.AdminSlotSafety
import Sigui.AdminTelemetry
import Sigui.ChannelShare
import Sigui.ChannelUnread
import Sigui.CheckpointOrder
import Sigui.CompanionFrames
import Sigui.ContactIdentity
import Sigui.ContactReports
import Sigui.ContactShare
import Sigui.CryptoBuffers
import Sigui.DmOwners
import Sigui.DmPages
import Sigui.DmUpgrade
import Sigui.FlushRuns
import Sigui.InitFallback
import Sigui.MapGate
import Sigui.MapPaths
import Sigui.MapPrefetchPass
import Sigui.MeshRequestRuns
import Sigui.MessageClear
import Sigui.MessagePages
import Sigui.NodeFresh
import Sigui.NodeMarkers
import Sigui.PacketCompletes
import Sigui.PacketPageExact
import Sigui.PacketReport
import Sigui.PathRuns
import Sigui.RadioTerminalAttribution
import Sigui.RouteForget
import Sigui.SchedulerPass
import Sigui.StoreClears
import Sigui.TracePlan
import Sigui.TraceRuns
import Sigui.WifiRetry

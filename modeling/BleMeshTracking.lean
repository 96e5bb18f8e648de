import BleMeshTracking.RuleChain.ZoneRuns
import BleMeshTracking.RuleChain.OutOfRangeVerdict
import BleMeshTracking.RuleChain.Interleaving
import BleMeshTracking.RuleChain.StaleSamples
import BleMeshTracking.RuleChain.ZoneHistory
import BleMeshTracking.Scanner.Replay
import BleMeshTracking.Scanner.TagSession
import BleMeshTracking.Scanner.FailClosed
import BleMeshTracking.Scanner.Rejected
import BleMeshTracking.Scanner.AntiReplay
import BleMeshTracking.Scanner.Beacons
import BleMeshTracking.Scanner.Publishing
import BleMeshTracking.Scanner.LossStatistics
import BleMeshTracking.Scanner.ExactFilter
import BleMeshTracking.Scanner.Independence
import BleMeshTracking.Scanner.LossOverflow
import BleMeshTracking.Scanner.OtaPause
import BleMeshTracking.Gateway.OutOfRange
import BleMeshTracking.Gateway.ZoneLock
import BleMeshTracking.Gateway.TagSessions
import BleMeshTracking.Gateway.Provisioning
import BleMeshTracking.Gateway.StaleEntries
import BleMeshTracking.Gateway.ConfigAcks
import BleMeshTracking.Gateway.Heartbeat
import BleMeshTracking.Gateway.NodeStatus
import BleMeshTracking.Gateway.ResetCycle
import BleMeshTracking.Gateway.MacCache
import BleMeshTracking.Gateway.TrackedTags
import BleMeshTracking.Gateway.NodeBlob
import BleMeshTracking.Gateway.LostAcks
import BleMeshTracking.Mesh.NodeState
import BleMeshTracking.Tag.KeyCache
import BleMeshTracking.Ota.BeaconKeys
import BleMeshTracking.Ota.PendingResult
import BleMeshTracking.Ota.GatewayLock
import BleMeshTracking.Ota.FetchAndFlash
import BleMeshTracking.Ota.Broadcast
import BleMeshTracking.Ota.WifiNet
import BleMeshTracking.Ota.WifiSession
import BleMeshTracking.Ota.WifiTidy
import BleMeshTracking.Ota.WifiRefinement
import BleMeshTracking.Ota.Distribute
import BleMeshTracking.Tag.Beaconing
import BleMeshTracking.Scanner.Identity
import BleMeshTracking.Gateway.Console
import BleMeshTracking.Gateway.Watchdog
import BleMeshTracking.Gateway.Rpc
import BleMeshTracking.Gateway.MeshKeys
import BleMeshTracking.System.TagPath
import BleMeshTracking.System.Reception
import BleMeshTracking.System.OtaOutcome
import BleMeshTracking.System.OtaBeacon

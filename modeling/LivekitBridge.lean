import LivekitBridge.Lib.Machine
import LivekitBridge.Lib.Threads
import LivekitBridge.Lib.Locking
import LivekitBridge.Lib.Assoc
import LivekitBridge.Lib.PackedCount
import LivekitBridge.Lib.Segments
import LivekitBridge.Lib.FirstSeen
import LivekitBridge.Lib.PercentEncoding
import LivekitBridge.Lib.Delimited
import LivekitBridge.Text
import LivekitBridge.Names.Pattern
import LivekitBridge.Names.RosExpansion
import LivekitBridge.Names.Node
import LivekitBridge.Names.Canonical
import LivekitBridge.AccessPolicy
import LivekitBridge.Streams.Spec
import LivekitBridge.Leases.DataTrack
import LivekitBridge.Leases.Manager
import LivekitBridge.Leases.Registry
import LivekitBridge.Leases.Sessions
import LivekitBridge.Bridge.TopicPublisher
import LivekitBridge.Bridge.PublisherRuns
import LivekitBridge.Bridge.TopicNames
import LivekitBridge.Bridge.Coverage
import LivekitBridge.Services.Caller
import LivekitBridge.Services.Sections
import LivekitBridge.Services.Accounting
import LivekitBridge.Services.Failure
import LivekitBridge.Executor.Queue
import LivekitBridge.Executor.ExactlyOnce
import LivekitBridge.Executor.Wakeups
import LivekitBridge.Utils.CallbackGate
import LivekitBridge.Utils.UseGate
import LivekitBridge.Utils.FailureHandler
import LivekitBridge.Utils.LogEvent
import LivekitBridge.Utils.MessageStream
import LivekitBridge.Utils.PercentEncode
import LivekitBridge.Connection.Watchdog
import LivekitBridge.Connection.State
import LivekitBridge.Connection.MediaTracks
import LivekitBridge.Streams.TrackNames
import LivekitBridge.Streams.TrackPublishers
import LivekitBridge.Leases.EchoOnce
import LivekitBridge.Leases.Throttle
import LivekitBridge.Protocol.Json
import LivekitBridge.Leases.Reports
import LivekitBridge.Leases.Logging
import LivekitBridge.Protocol.Heartbeat
import LivekitBridge.Protocol.Status
import LivekitBridge.Video.StreamLocks
import LivekitBridge.Lib.Base64
import LivekitBridge.Lib.Traversal
import LivekitBridge.Protocol.Base64
import LivekitBridge.Protocol.Cdr
import LivekitBridge.Protocol.Requests
import LivekitBridge.Protocol.Trimming
import LivekitBridge.Services.Timeout
import LivekitBridge.Interfaces.Definitions
import LivekitBridge.Interfaces.Lookup
import LivekitBridge.Interfaces.Registered
import LivekitBridge.Lib.Fallible
import LivekitBridge.Rpc.Listing
import LivekitBridge.Rpc.Router
import LivekitBridge.Streams.Qos
import LivekitBridge.Streams.Rules
import LivekitBridge.Streams.PublishOptions
import LivekitBridge.Services.Waitable
import LivekitBridge.Lib.Simulation
import LivekitBridge.Connection.WatchdogWakeups
import LivekitBridge.Video.RosStream
import LivekitBridge.Video.RosFrames
import LivekitBridge.Video.CodecNames
import LivekitBridge.Connection.Lifecycle
import LivekitBridge.Connection.LifecycleRuns
import LivekitBridge.Bridge.Runtime
import LivekitBridge.Bridge.Teardown
import LivekitBridge.Services.Clients
import LivekitBridge.Leases.DataTrackRuns
import LivekitBridge.Video.I420
import LivekitBridge.Streams.Endpoints
import LivekitBridge.Streams.OtherSources
import LivekitBridge.Video.StreamClosing
import LivekitBridge.Bridge.StartupConfig

import RemoteLink.Library.Runs
import RemoteLink.Library.HashMap
import RemoteLink.Library.Text
import RemoteLink.Library.Bytes
import RemoteLink.Protocol.Message
import RemoteLink.Server.Session
import RemoteLink.Server.SessionInvariant
import RemoteLink.Auth.Otp
import RemoteLink.Auth.Identity
import RemoteLink.Server.Otp
import RemoteLink.Server.Ws
import RemoteLink.Server.WsInvariant
import RemoteLink.Server.OtpConsumeOnce
import RemoteLink.Net.Transport
import RemoteLink.Net.Mock
import RemoteLink.Platform.Input
import RemoteLink.Platform.Ipc
import RemoteLink.Host.Session
import RemoteLink.Library.Fallible
import RemoteLink.Host.SessionGate
import RemoteLink.Host.Agent
import RemoteLink.Host.ControlLoop
import RemoteLink.Host.AgentInvariant
import RemoteLink.Host.Policy
import RemoteLink.Library.Interaction
import RemoteLink.Server.SessionAtomicity
import RemoteLink.Server.SessionCases
import RemoteLink.Server.SessionTraffic
import RemoteLink.Server.SessionReconnect
import RemoteLink.Server.SignalOrder
import RemoteLink.Server.OtpAttempts
import RemoteLink.Server.SessionHangup
import RemoteLink.Viewer.Connect
import RemoteLink.Viewer.Session
import RemoteLink.Viewer.OfferVerification
import RemoteLink.Viewer.PhaseAlignment
import RemoteLink.Library.Trace
import RemoteLink.Net.LiveWire
import RemoteLink.Net.Live
import RemoteLink.Net.LiveIdentity
import RemoteLink.Host.LiveOtp
import RemoteLink.Viewer.LiveBind
import RemoteLink.Auth.Transcripts
import RemoteLink.Host.AccessPolicy
import RemoteLink.Host.BootSecret
import RemoteLink.Host.ControlLockstep
import RemoteLink.Host.SessionIsolation
import RemoteLink.Host.WsSession
import RemoteLink.Library.Reader
import RemoteLink.Net.LiveRoundTrip
import RemoteLink.Platform.Framing
import RemoteLink.Protocol.Scancode
import RemoteLink.Viewer.FingerprintParsers
import RemoteLink.Viewer.InputCapture
import RemoteLink.Viewer.InputDiscipline
import RemoteLink.Host.OtpUpkeep
import RemoteLink.Host.SessionRelease
import RemoteLink.Host.LiveInput
import RemoteLink.Repo.Durable
import RemoteLink.Routes.Devices
import RemoteLink.Routes.Lifecycle
import RemoteLink.Server.AuthAttempts
import RemoteLink.Server.Hello
import RemoteLink.Auth.DeviceId
import RemoteLink.Library.IpAddr
import RemoteLink.Routes.Blocklist
import RemoteLink.Routes.Refresh
import RemoteLink.Host.SessionChrome
import RemoteLink.Server.Negotiation
import RemoteLink.Library.Raster
import RemoteLink.Platform.BoxDownscale
import RemoteLink.Platform.LoopbackCapture
import RemoteLink.Platform.RateLimitedInjector
import RemoteLink.Server.ClientIp
import RemoteLink.Server.TokenBucket
import RemoteLink.Host.AgentAgreement
import RemoteLink.Viewer.Decode
import RemoteLink.Viewer.LiveBuffers
import RemoteLink.Library.Switches
import RemoteLink.Viewer.InputLink
import RemoteLink.Host.HangUp
import RemoteLink.Library.Serial
import RemoteLink.Repo.BackEnds
import RemoteLink.Host.MediaRetry
import RemoteLink.Library.Duration
import RemoteLink.Library.LittleEndian
import RemoteLink.Library.StableQueue
import RemoteLink.Media.JitterBuffer
import RemoteLink.Media.JitterEstimate
import RemoteLink.Media.MockBitstream
import RemoteLink.Media.MockEncoder
import RemoteLink.Media.Opus
import RemoteLink.Media.SkewController
import RemoteLink.Platform.MediaFoundation
import RemoteLink.Auth.IdentityScan
import RemoteLink.Auth.Luhn
import RemoteLink.Host.Enrollment
import RemoteLink.Host.IcePayload
import RemoteLink.Host.Intake
import RemoteLink.Library.Batches
import RemoteLink.Library.LengthPrefixed
import RemoteLink.Media.DecoderTotal
import RemoteLink.Net.Avcc
import RemoteLink.Net.LiveSchedule
import RemoteLink.Routes.Admin
import RemoteLink.Inventory.ImplBlocks
import RemoteLink.Inventory.Structure
import RemoteLink.Net.Keyframe
import RemoteLink.Viewer.Playout
import RemoteLink.Common.Metrics
import RemoteLink.Common.UpdateManifest
import RemoteLink.Library.Duplex
import RemoteLink.Library.OrderedMap
import RemoteLink.Library.Outcome
import RemoteLink.Library.Simulation
import RemoteLink.Media.Freeze
import RemoteLink.Net.MockPair
import RemoteLink.Platform.KillSwitch
import RemoteLink.Protocol.Wire
import RemoteLink.Routes.Registration
import RemoteLink.Server.SessionViews
import RemoteLink.Agents.Chaos
import RemoteLink.Desktop.HostWorker

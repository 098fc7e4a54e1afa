import DroneComms.Fpv.ArmGuard
import DroneComms.Command.Trail
import DroneComms.Command.Supervision
import DroneComms.Command.Agreement
import DroneComms.Command.Interlock
import DroneComms.Command.Pump
import DroneComms.Jetson.Bridge
import DroneComms.Jetson.Pipeline
import DroneComms.Py.Json
import DroneComms.Py.JsonRoundTrip
import DroneComms.Command.AuditLog
import DroneComms.Mesh.Models
import DroneComms.Mesh.Router
import DroneComms.Mesh.FanOut
import DroneComms.Py.Calendar
import DroneComms.Py.Datetime
import DroneComms.Py.ElementTree
import DroneComms.Py.XmlRoundTrip
import DroneComms.Transports.Pacing
import DroneComms.Py.Interpreter
import DroneComms.Mesh.Payloads
import DroneComms.Mesh.Cot
import DroneComms.Mesh.CotIdentity
import DroneComms.Mesh.CotTrip
import DroneComms.Mesh.CotRelay
import DroneComms.Mesh.CotLink
import DroneComms.Mesh.CotKinds
import DroneComms.Lib.Wire
import DroneComms.Mesh.Compact
import DroneComms.Mesh.CompactTrip
import DroneComms.Mesh.Frames
import DroneComms.Mesh.Decoding
import DroneComms.Lib.Window
import DroneComms.Mesh.Ledger
import DroneComms.Mesh.JsonCodec
import DroneComms.Mesh.Echo
import DroneComms.Mesh.Budget
import DroneComms.Mesh.Media
import DroneComms.Mesh.Families
import DroneComms.Mesh.Loop
import DroneComms.Mesh.Storm
import DroneComms.Fpv.Frame
import DroneComms.Fpv.Framing
import DroneComms.Fpv.Rc
import DroneComms.Fpv.Link
import DroneComms.Fpv.Jsonl
import DroneComms.Fpv.LinkHealth
import DroneComms.Fpv.Hysteresis
import DroneComms.Fpv.Acquisition
import DroneComms.Fpv.Recovery
import DroneComms.Fpv.Dataset
import DroneComms.Fpv.Replay
import DroneComms.Fpv.FlightLogger
import DroneComms.Lib.Truncation
import DroneComms.Py.JsonTruncation
import DroneComms.Mesh.CompactTruncation
import DroneComms.Lib.Recency
import DroneComms.Ui.Snapshot
import DroneComms.Inference.Client
import DroneComms.Inference.OfflineQueue
import DroneComms.Inference.Replay
import DroneComms.Inference.RateGate
import DroneComms.Py.Math
import DroneComms.Cv.Geo
import DroneComms.Cv.Pinhole
import DroneComms.Lib.Stepping
import DroneComms.Py.Bisect
import DroneComms.Scout.Coverage
import DroneComms.Scout.Schemas
import DroneComms.Scout.Store
import DroneComms.Scout.Dedup
import DroneComms.Scout.Pipeline
import DroneComms.Scout.Rounds
import DroneComms.Scout.Triage
import DroneComms.Scout.Conservation
import DroneComms.Scout.Identity
import DroneComms.Jetson.Ned
import DroneComms.Transports.MavlinkSource
import DroneComms.Jetson.LandingTarget
import DroneComms.Mesh.Assembly
import DroneComms.Jetson.Step
import DroneComms.Jetson.Accounts
import DroneComms.Ui.Finite
import DroneComms.Transports.Meshtastic
import DroneComms.Transports.FlightHistory
import DroneComms.Command.Endpoint
import DroneComms.Mesh.Reencoding
import DroneComms.Command.Retries
import DroneComms.Fpv.PassThrough
import DroneComms.Transports.Inbox
import DroneComms.Lib.BitPolynomial
import DroneComms.Fpv.Crc
import DroneComms.Fpv.RcRoundTrip
import DroneComms.Ui.DetectionKeys
import DroneComms.Ui.LogRing
import DroneComms.Lib.Search
import DroneComms.Py.XmlTags
import DroneComms.Transports.CotFramer
import DroneComms.Transports.TakTcp
import DroneComms.Transports.TakMulticast
import DroneComms.Command.Encoding
import DroneComms.Fpv.UntypedReplay
import DroneComms.Fpv.DamagedLog
import DroneComms.Lib.Interpolation
import DroneComms.Scout.Terrain
import DroneComms.Cv.Distance
import DroneComms.Inference.Retry
import DroneComms.Inference.HttpSession
import DroneComms.Scout.Clusters
import DroneComms.Scout.PoseIndex
import DroneComms.Scout.Sampling
import DroneComms.Jetson.TrackCount
import DroneComms.Scout.Replay
import DroneComms.Lib.Exposition
import DroneComms.Mesh.Metrics
import DroneComms.Transports.MeshtasticLink
import DroneComms.Scout.Table
import DroneComms.Py.Format
import DroneComms.Jetson.PoseSource
import DroneComms.Jetson.NedGuard
import DroneComms.Jetson.Rays
import DroneComms.Jetson.RunLoop
import DroneComms.Fpv.TelemetryParser
import DroneComms.Llm.Sources
import DroneComms.Transports.CrsfSource
import DroneComms.Lib.Flooding
import DroneComms.Mesh.LoopbackBus
import DroneComms.Scout.MissionFile
import DroneComms.Scout.FloatSurvey
import DroneComms.Scout.Exports
import DroneComms.Lib.Purging
import DroneComms.Web.Kit
import DroneComms.Web.Station
import DroneComms.Llm.Agent
import DroneComms.Web.Services
import DroneComms.Config.Environment

import Dlms.Apdu.Service
import Dlms.Apdu.Get
import Dlms.Apdu.Action
import Dlms.Apdu.Set
import Dlms.Apdu.Ber
import Dlms.Apdu.Initiate
import Dlms.Apdu.Acse
import Dlms.Apdu.Xdlms
import Dlms.Security.Types
import Dlms.Xdlms.Server
import Dlms.Cosem.Registry
import Dlms.Server.Adapter
import Dlms.Server.Addressing
import Dlms.Xdlms.Dispatch
import Dlms.Xdlms.Encoding
import Dlms.Server.Executed
import Dlms.Profile.Channel
import Dlms.Xdlms.Client
import Dlms.Xdlms.Exchange
import Dlms.Xdlms.GetTransfer
import Dlms.Xdlms.SetTransfer
import Dlms.Xdlms.ActionTransfer
import Dlms.Xdlms.Delivery
import Dlms.Security.Counters
import Dlms.Security.Suite0AesGcm
import Dlms.Security.CipheredApduProcessor
import Dlms.Association.Server
import Dlms.Endpoint.Options
import Dlms.Endpoint.Strategy
import Dlms.Machine.Pool
import Dlms.Endpoint.Server
import Dlms.Endpoint.Steps
import Dlms.Endpoint.Authentication
import Dlms.Endpoint.Ciphering
import Dlms.Endpoint.Nonces
import Dlms.Association.Client
import Dlms.Client.DlmsClient
import Dlms.Endpoint.Blocks
import Dlms.Endpoint.Replay
import Dlms.Endpoint.HlsLook
import Dlms.Endpoint.Tags
import Dlms.Client.Reflection
import Dlms.Server.AccessRights
import Dlms.Security.Receiving
import Dlms.Security.RoundTrip
import Dlms.Xdlms.Collector
import Dlms.Xdlms.Reset
import Dlms.Xdlms.Slicer
import Dlms.Xdlms.Reassembly
import Dlms.Hdlc.Address
import Dlms.Hdlc.Control
import Dlms.Hdlc.Frame
import Dlms.Hdlc.Session
import Dlms.Hdlc.Window
import Dlms.Cosem.SecuritySetup
import Dlms.Cosem.KeyTransfer
import Dlms.Cosem.Rotation
import Dlms.Hdlc.Segmentation
import Dlms.Hdlc.StreamDecoder
import Dlms.Llc.Codec
import Dlms.Profile.HdlcChannel
import Dlms.Profile.HdlcProgress
import Dlms.Machine.Progress
import Dlms.Profile.HdlcLink
import Dlms.Profile.HdlcFlight
import Dlms.Profile.HdlcExchange
import Dlms.Profile.HdlcRelease
import Dlms.Xdlms.Atomic
import Dlms.Apdu.Recoding
import Dlms.Xdlms.WellFormed
import Dlms.Xdlms.Collected
import Dlms.Hdlc.Calls
import Dlms.Hdlc.Pending
import Dlms.Hdlc.Negotiation
import Dlms.Hdlc.Agreement
import Dlms.Profile.HdlcReopen
import Dlms.GoHdlc.Fields
import Dlms.GoHdlc.Codec
import Dlms.Machine.Simulation
import Dlms.GoHdlc.Stream
import Dlms.GoHdlc.Parity
import Dlms.Hdlc.CApi
import Dlms.GoHdlc.Cabi
import Dlms.GoHdlc.Observed
import Dlms.GoHdlc.Session
import Dlms.Machine.Duplex
import Dlms.GoHdlc.Interchange
import Dlms.Apdu.Narrow
import Dlms.Apdu.DataRange
import Dlms.Apdu.Truncation
import Dlms.Apdu.RoundTrip
import Dlms.Apdu.AcseRoundTrip
import Dlms.Association.Handshake
import Dlms.Association.Agreement
import Dlms.Association.Lifecycle
import Dlms.Hdlc.Answer
import Dlms.Profile.HdlcConnect
import Dlms.Xdlms.Consumed
import Dlms.Endpoint.Gateway
import Dlms.Endpoint.GatewayRuns
import Dlms.Codec.Checks
import Dlms.Codec.Prefix
import Dlms.Codec.Entries
import Dlms.Codec.Reserving
import Dlms.Codec.Program
import Dlms.Cosem.DataItems
import Dlms.Codec.Tables
import Dlms.Cosem.CalendarTypes
import Dlms.Cosem.ActivityCalendar
import Dlms.Cosem.CalendarRuns
import Dlms.Cosem.ProfileBuffer
import Dlms.Cosem.AssociationCodecs
import Dlms.Cosem.Certificates
import Dlms.Cosem.Reservations
import Dlms.Cosem.Cursor
import Dlms.Cosem.CursorRefines
import Dlms.Cosem.OffsetDecoders
import Dlms.Cosem.OffsetReads
import Dlms.Cosem.OffsetSafety
import Dlms.Cosem.RegisterMonitor
import Dlms.Cosem.SapAssignment
import Dlms.Cosem.AttributeCodecs
import Dlms.Cosem.WriteBack
import Dlms.Hdlc.Recoding
import Dlms.Codec.Incremental
import Dlms.Hdlc.Rounds
import Dlms.Hdlc.CutOff
import Dlms.Hdlc.Splitting
import Dlms.Hdlc.Reassembly
import Dlms.Hdlc.Segmenter
import Dlms.Hdlc.Retry
import Dlms.Profile.HdlcPayloads
import Dlms.Codec.Consumer
import Dlms.Codec.Receiver
import Dlms.Wrapper.Codec
import Dlms.Wrapper.StreamDecoder
import Dlms.Profile.WrapperChannel
import Dlms.Profile.HdlcReceiving
import Dlms.Profile.Chunking
import Dlms.Apdu.Canonical
import Dlms.Apdu.Normal
import Dlms.Apdu.AssociationRoundTrip
import Dlms.Apdu.ReleaseRecoding
import Dlms.Apdu.Reservations
import Dlms.Machine.Reversal
import Dlms.Security.KeyWrap
import Dlms.Wrapper.Framing
import Dlms.Hdlc.Parameters
import Dlms.Codec.Growing
import Dlms.Client.ClientData
import Dlms.Xdlms.Reports
import Dlms.Xdlms.RemoteCalls
import Dlms.Server.RemoteObjects
import Dlms.Xdlms.Alike
import Dlms.Apdu.Uniform
import Dlms.Xdlms.Sized
import Dlms.Xdlms.Secured
import Dlms.Security.Linked
import Dlms.Server.CipheredObjects
import Dlms.Codec.Queue
import Dlms.Profile.WrapperLink

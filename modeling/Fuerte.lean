import Fuerte.Library.Framing
import Fuerte.Library.Progress
import Fuerte.Library.Sorting
import Fuerte.ResponseBody
import Fuerte.BinaryPayload
import Fuerte.RequestCopies
import Fuerte.CreateRequest
import Fuerte.ConnectionBuilder
import Fuerte.ContentTypes
import Fuerte.RequestsLeft
import Fuerte.Http.ReadHeaders
import Fuerte.Http.Completion
import Fuerte.Http.DotSegments
import Fuerte.Http.SocketWatch
import Fuerte.Vst.MessageHeader
import Fuerte.Vst.BuildChunks
import Fuerte.Vst.FramingSafety
import Fuerte.Vst.RoundTrip
import Fuerte.Vst.Demultiplexing
import Fuerte.Vst.HeaderCodec
import Fuerte.Vst.PayloadFidelity
import Fuerte.Vst.Assembly
import Fuerte.Vst.ChunkCodec
import Fuerte.Vst.Validation
import Fuerte.Vst.MalformedResponse
import Fuerte.Vst.Connection.LostWakeup
import Fuerte.Vst.Connection.SingleRestart
import Fuerte.Vst.Connection.Handshake
import Fuerte.Vst.Connection.Encryption
import Fuerte.Vst.Connection.Authentication
import Fuerte.Vst.Connection.RequestsInFlight
import Fuerte.Vst.Connection.Deadlines
import Fuerte.Vst.Connection.ExclusiveSockets
import Fuerte.Vst.Connection.CallbackContract
import Fuerte.Vst.Splitting
import Fuerte.UserCode
import Fuerte.Vst.Connection.NothingAbandoned
import Fuerte.Vst.Connection.Progress
import Fuerte.Vst.Connection.Peer
import Fuerte.Vst.Connection.Responses
import Fuerte.Http.CallbackContract
import Fuerte.SendRequest
import Fuerte.Http.Progress
import Fuerte.Http.CurlTimer
import Fuerte.Http.RequestOptions
import Fuerte.Service

import Ubass.Lib.Machine
import Ubass.Lib.Runs
import Ubass.Lib.Table
import Ubass.Lib.SharedMap
import Ubass.Lib.Bytes
import Ubass.Lib.ParityCode
import Ubass.Lib.Fields
import Ubass.Lib.Parser
import Ubass.Lib.Handler
import Ubass.Lib.ConstExpr
import Ubass.Lib.Writers
import Ubass.Lib.Locks
import Ubass.Lib.Unwinding
import Ubass.Lib.Refinement
import Ubass.Wire
import Ubass.Packets
import Ubass.Fingerprint
import Ubass.Encryption
import Ubass.Api.WriteableBuffer
import Ubass.Api.ReadableBuffer
import Ubass.Api.Completion
import Ubass.Api.Calls
import Ubass.Api.InvalidAreas
import Ubass.Api.Head
import Ubass.Api.Writes
import Ubass.Api.Wanted
import Ubass.Api.Scores
import Ubass.Api.Handles
import Ubass.Fec.Block
import Ubass.Fec.Xor
import Ubass.Fec.Recovery
import Ubass.Fec.SentOnce
import Ubass.Fec.ReedSolomon
import Ubass.Processor.EnumCodec
import Ubass.Processor.Codec
import Ubass.Processor.WirePacket
import Ubass.Processor.AddAck
import Ubass.Processor.Dedup
import Ubass.Processor.Inbound
import Ubass.Processor.Outbound
import Ubass.Processor.NoPanic
import Ubass.Processor.Authenticity
import Ubass.Processor.RoundTrip
import Ubass.Processor.StreamPackets
import Ubass.Processor.Serialize
import Ubass.Processor.OwnBuffer
import Ubass.Processor.ReprAttribute
import Ubass.Manager.Messages
import Ubass.Manager.Events
import Ubass.Manager.Streams
import Ubass.Manager.Send
import Ubass.Manager.SendLoop
import Ubass.Manager.Receive
import Ubass.Manager.StreamEnd
import Ubass.Manager.Sessions
import Ubass.Manager.Tables
import Ubass.Manager.Windows
import Ubass.Manager.Retransmit
import Ubass.Manager.Retries
import Ubass.Manager.EndedLoops
import Ubass.Manager.Requests
import Ubass.Manager.Sweep
import Ubass.Manager.HandleMessage
import Ubass.Manager.Acknowledged
import Ubass.Manager.Holes
import Ubass.Manager.Recovered
import Ubass.Manager.WindowTasks
import Ubass.Manager.PendingTasks
import Ubass.Manager.RetryTimes
import Ubass.Manager.LockOrder
import Ubass.Manager.Published
import Ubass.Transport.Sockets
import Ubass.Transport.Outbound
import Ubass.Utils.HandleMonitor
import Ubass.Manager.Shutdown
import Ubass.Exchange.Model
import Ubass.Exchange.Sent
import Ubass.Exchange.Parity
import Ubass.Exchange.Received
import Ubass.Exchange.Isolation
import Ubass.Exchange.SingleStream
import Ubass.Exchange.Inference
import Ubass.Exchange.ReceivePath
import Ubass.Exchange.Arithmetic
import Ubass.Exchange.Positions
import Ubass.Exchange.Transfer
import Ubass.Exchange.Stalled
import Ubass.Exchange.Restart
import Ubass.Fec.Batches
import Ubass.Manager.Endpoints
import Ubass.Manager.SessionViews
import Ubass.Manager.SameSession
import Ubass.Manager.SparedSessions
import Ubass.Exchange.Noninterference
import Ubass.Exchange.Datagrams
import Ubass.Handshake.Model
import Ubass.Handshake.Sound
import Ubass.Handshake.Steps
import Ubass.Handshake.Agreement
import Ubass.Lib.FairLock
import Ubass.Manager.TrackRequests

import Mathlib.Data.List.Basic
import Ubass.Wire

/-!
# Packets

The packets of `manager/packets.rs` with all their fields, in the order of the
wire, and the constructors that fill them in.  Every constructor reads the clock;
the reading is its last argument.
-/

set_option autoImplicit false

namespace Ubass

@[ext] structure Version where
  bits : UInt16
deriving DecidableEq

def Version.currentVersion : Version := ⟨0x0001⟩

inductive OptionFlags where
  | requireAck
  | metadata
  | resend
deriving DecidableEq

def OptionFlags.bits : OptionFlags → UInt16
  | requireAck => 0x0001
  | metadata => 0x0002
  | resend => 0x0004

@[ext] structure Options where
  bits : UInt16
deriving DecidableEq

namespace Options

def construct (flags : List OptionFlags) : Options :=
  ⟨flags.foldl (fun bits flag => bits ||| flag.bits) 0⟩

def none : Options := ⟨0⟩

def unset (self : Options) (flag : OptionFlags) : Options := ⟨self.bits &&& ~~~flag.bits⟩

def set (self : Options) (flag : OptionFlags) : Options := ⟨self.bits ||| flag.bits⟩

def contains (self : Options) (flag : OptionFlags) : Bool := self.bits &&& flag.bits ≠ 0

end Options

inductive PacketType where
  | data
  | metadata
  | parity
  | ack
  | handshakeAck
  | host
  | session
  | playback
  | error
  | keepAlive
deriving DecidableEq

inductive HostControlType where
  | hello
  | handshakeReject
deriving DecidableEq

inductive SessionControlType where
  | retransmit
  | trackRequest
  | metadataRequest
  | trackReject
  | close
deriving DecidableEq

inductive PlaybackControlType where
  | play
  | pause
  | close
  | done
  | seek
deriving DecidableEq

inductive ControlType where
  | host (type : HostControlType)
  | session (type : SessionControlType)
  | playback (type : PlaybackControlType)
deriving DecidableEq

inductive ErrorType where
  | unexpectedPacket
  | incomprehensiblePacket
  | sessionDoesNotExist
deriving DecidableEq

/-- A hole of `size` bytes. -/
structure Reserved (size : Nat) where
deriving DecidableEq

@[ext] structure BufferId where
  id : UInt16
deriving DecidableEq

@[ext] structure BufferSize where
  size : UInt32
deriving DecidableEq

@[ext] structure SecondaryType where
  type : UInt16
deriving DecidableEq

/-- `[u8; 32]` -/
@[ext] structure PublicKey where
  bytes : List UInt8
  length_bytes : bytes.length = 32
deriving DecidableEq

/-- `[u8; 16]` -/
@[ext] structure PacketFingerprint where
  bytes : List UInt8
  length_bytes : bytes.length = 16
deriving DecidableEq

/-- The ASCII bytes of the identifier of an application. -/
@[ext] structure AppId where
  bytes : List UInt8
deriving DecidableEq

@[ext] structure HelloPacket where
  version : Version
  opts : Options
  packetType : PacketType
  controlType : ControlType
  reserved : Reserved 2
  proposedSessionId : SessionId
  handshakeId : HandshakeId
  timestamp : Timestamp
  publicKey : PublicKey
  appId : AppId
deriving DecidableEq

def HelloPacket.new (opts : Options) (proposedSessionId : SessionId) (handshakeId : HandshakeId)
    (publicKey : PublicKey) (appId : AppId) (now : Timestamp) : HelloPacket where
  version := Version.currentVersion
  opts := opts
  packetType := .host
  controlType := .host .hello
  reserved := {}
  proposedSessionId := proposedSessionId
  handshakeId := handshakeId
  timestamp := now
  publicKey := publicKey
  appId := appId

@[ext] structure TrackRequestPacket where
  version : Version
  opts : Options
  packetType : PacketType
  controlType : ControlType
  reserved : Reserved 2
  sessionId : SessionId
  timestamp : Timestamp
  payload : List UInt8
deriving DecidableEq

def TrackRequestPacket.requestTrack (opts : Options) (sessionId : SessionId)
    (payload : List UInt8) (now : Timestamp) : TrackRequestPacket where
  version := Version.currentVersion
  opts := opts.set .requireAck
  packetType := .session
  controlType := .session .trackRequest
  reserved := {}
  sessionId := sessionId
  timestamp := now
  payload := payload

def TrackRequestPacket.requestMetadata (opts : Options) (sessionId : SessionId)
    (payload : List UInt8) (now : Timestamp) : TrackRequestPacket :=
  { TrackRequestPacket.requestTrack opts sessionId payload now with
    controlType := .session .metadataRequest }

@[ext] structure DataPacket where
  version : Version
  opts : Options
  packetType : PacketType
  batchId : BatchId
  fecInfo : FecInfo
  sessionId : SessionId
  timestamp : Timestamp
  byteRangeStart : BytePosition
  payload : List UInt8
deriving DecidableEq

def DataPacket.new (opts : Options) (batchId : BatchId) (fecInfo : FecInfo)
    (sessionId : SessionId) (byteRangeStart : BytePosition) (payload : List UInt8)
    (now : Timestamp) : DataPacket where
  version := Version.currentVersion
  opts := opts
  packetType := .data
  batchId := batchId
  fecInfo := fecInfo
  sessionId := sessionId
  timestamp := now
  byteRangeStart := byteRangeStart
  payload := payload

@[ext] structure MetadataPacket where
  version : Version
  opts : Options
  packetType : PacketType
  batchId : BatchId
  fecInfo : FecInfo
  sessionId : SessionId
  timestamp : Timestamp
  bufferId : BufferId
  bufferSize : BufferSize
  position : BytePosition
  payload : List UInt8
deriving DecidableEq

def MetadataPacket.new (opts : Options) (batchId : BatchId) (fecInfo : FecInfo)
    (sessionId : SessionId) (bufferId : BufferId) (bufferSize : BufferSize)
    (position : BytePosition) (payload : List UInt8) (now : Timestamp) : MetadataPacket where
  version := Version.currentVersion
  opts := opts
  packetType := .metadata
  batchId := batchId
  fecInfo := fecInfo
  sessionId := sessionId
  timestamp := now
  bufferId := bufferId
  bufferSize := bufferSize
  position := position
  payload := payload

@[ext] structure ParityPacket where
  version : Version
  opts : Options
  packetType : PacketType
  batchId : BatchId
  fecInfo : FecInfo
  sessionId : SessionId
  timestamp : Timestamp
  payload : List UInt8
deriving DecidableEq

def ParityPacket.new (opts : Options) (batchId : BatchId) (fecInfo : FecInfo)
    (sessionId : SessionId) (payload : List UInt8) (now : Timestamp) : ParityPacket where
  version := Version.currentVersion
  opts := opts
  packetType := .parity
  batchId := batchId
  fecInfo := fecInfo
  sessionId := sessionId
  timestamp := now
  payload := payload

@[ext] structure PlaybackControlPacket where
  version : Version
  opts : Options
  packetType : PacketType
  controlType : PlaybackControlType
  reserved : Reserved 2
  sessionId : SessionId
  timestamp : Timestamp
  seekPosition : BytePosition
deriving DecidableEq

def PlaybackControlPacket.new (opts : Options) (sessionId : SessionId)
    (playbackType : PlaybackControlType) (seekPos : Option BytePosition) (now : Timestamp) :
    PlaybackControlPacket where
  version := Version.currentVersion
  opts := opts.set .requireAck
  packetType := .playback
  controlType := playbackType
  reserved := {}
  sessionId := sessionId
  timestamp := now
  seekPosition := seekPos.getD (BytePosition.ofNat 0)

def PlaybackControlPacket.done (opts : Options) (sessionId : SessionId) (now : Timestamp) :
    PlaybackControlPacket :=
  PlaybackControlPacket.new opts sessionId .done none now

@[ext] structure RetransmitPacket where
  version : Version
  opts : Options
  packetType : PacketType
  controlType : ControlType
  bufferId : Option BufferId
  sessionId : SessionId
  timestamp : Timestamp
  payload : List ByteRange
deriving DecidableEq

/-- `ByteRange::elem_size()` -/
def ByteRange.elemSize : Nat := 6

/-- `RetransmitPacket::LOCAL_MAX_PAYLOAD_LENGTH` -/
def RetransmitPacket.localMaxPayloadLength : Nat := maxPayloadLength - maxPayloadLength % 6

def RetransmitPacket.data (opts : Options) (sessionId : SessionId) (payload : List ByteRange)
    (now : Timestamp) : RetransmitPacket where
  version := Version.currentVersion
  opts := opts.set .requireAck
  packetType := .session
  controlType := .session .retransmit
  bufferId := none
  sessionId := sessionId
  timestamp := now
  payload := payload

def RetransmitPacket.metadata (opts : Options) (sessionId : SessionId) (bufferId : BufferId)
    (payload : List ByteRange) (now : Timestamp) : RetransmitPacket :=
  { RetransmitPacket.data opts sessionId payload now with
    opts := (opts.set .requireAck).set .metadata
    bufferId := some bufferId }

@[ext] structure CloseSessionPacket where
  version : Version
  opts : Options
  packetType : PacketType
  controlType : ControlType
  reserved : Reserved 2
  sessionId : SessionId
  timestamp : Timestamp
deriving DecidableEq

def CloseSessionPacket.new (opts : Options) (sessionId : SessionId) (now : Timestamp) :
    CloseSessionPacket where
  version := Version.currentVersion
  opts := opts.set .requireAck
  packetType := .session
  controlType := .session .close
  reserved := {}
  sessionId := sessionId
  timestamp := now

@[ext] structure UnexpectedPacketErrorPacket where
  version : Version
  opts : Options
  packetType : PacketType
  errorType : ErrorType
  reserved : Reserved 2
  sessionId : SessionId
  timestamp : Timestamp
  receivedPacketType : PacketType
  receivedSecondaryType : SecondaryType
  receivedFingerprint : PacketFingerprint
deriving DecidableEq

def UnexpectedPacketErrorPacket.new (opts : Options) (sessionId : SessionId)
    (receivedPacketType : PacketType) (receivedSecondaryType : SecondaryType)
    (receivedFingerprint : PacketFingerprint) (now : Timestamp) :
    UnexpectedPacketErrorPacket where
  version := Version.currentVersion
  opts := opts
  packetType := .error
  errorType := .unexpectedPacket
  reserved := {}
  sessionId := sessionId
  timestamp := now
  receivedPacketType := receivedPacketType
  receivedSecondaryType := receivedSecondaryType
  receivedFingerprint := receivedFingerprint

@[ext] structure TrackRejectionPacket where
  version : Version
  opts : Options
  packetType : PacketType
  controlType : ControlType
  reserved : Reserved 2
  sessionId : SessionId
  timestamp : Timestamp
  payload : List UInt8
deriving DecidableEq

def TrackRejectionPacket.new (opts : Options) (sessionId : SessionId) (trackId : List UInt8)
    (now : Timestamp) : TrackRejectionPacket where
  version := Version.currentVersion
  opts := opts.set .requireAck
  packetType := .session
  controlType := .session .trackReject
  reserved := {}
  sessionId := sessionId
  timestamp := now
  payload := trackId

inductive HandshakeRejectionReason where
  | app
  | idCollision
deriving DecidableEq

@[ext] structure HandshakeRejection where
  version : Version
  opts : Options
  packetType : PacketType
  controlType : ControlType
  reserved : Reserved 2
  sessionId : SessionId
  timestamp : Timestamp
  handshakeId : HandshakeId
  reason : HandshakeRejectionReason
deriving DecidableEq

def HandshakeRejection.new (opts : Options) (sessionId : SessionId)
    (reason : HandshakeRejectionReason) (handshakeId : HandshakeId) (now : Timestamp) :
    HandshakeRejection where
  version := Version.currentVersion
  opts := opts.unset .requireAck
  packetType := .host
  controlType := .host .handshakeReject
  reserved := {}
  sessionId := sessionId
  timestamp := now
  handshakeId := handshakeId
  reason := reason

end Ubass

import Mathlib.Algebra.BigOperators.Group.List.Basic
import Mathlib.Data.List.Flatten
import Ubass.Processor.Codec

/-!
# The packets on the wire

The packets without a fingerprint, the enumeration of all packets, and the derived
`Serialize` of each: its fields one after the other, and the parser that reads them
back.  Every packet that has a payload has it as its last field.
-/

set_option autoImplicit false

namespace Ubass

open Serialize

/-! ## Packets without a fingerprint -/

def Version.minCompatibleVersion : Version := ⟨0x0001⟩

def Version.isCompatible (self : Version) : Bool := minCompatibleVersion.bits ≤ self.bits

def Version.isZero (self : Version) : Bool := self.bits = 0

@[ext] structure AckPacket where
  version : Version
  opts : Options
  packetType : PacketType
  reserved : Reserved 3
  sessionId : SessionId
  timestamp : Timestamp
  fingerprint : PacketFingerprint
deriving DecidableEq

def AckPacket.new (opts : Options) (sessionId : SessionId) (fingerprint : PacketFingerprint)
    (now : Timestamp) : AckPacket where
  version := Version.currentVersion
  opts := opts
  packetType := .ack
  reserved := {}
  sessionId := sessionId
  timestamp := now
  fingerprint := fingerprint

@[ext] structure KeepAlivePacket where
  version : Version
  opts : Options
  packetType : PacketType
  reserved : Reserved 3
  sessionId : SessionId
  timestamp : Timestamp
  address : Option SocketAddr
deriving DecidableEq

def KeepAlivePacket.new (opts : Options) (sessionId : SessionId) (now : Timestamp) :
    KeepAlivePacket where
  version := Version.currentVersion
  opts := opts.unset .requireAck
  packetType := .keepAlive
  reserved := {}
  sessionId := sessionId
  timestamp := now
  address := none

@[ext] structure HandshakeAckPacket where
  version : Version
  opts : Options
  packetType : PacketType
  reserved : Reserved 3
  sessionId : SessionId
  timestamp : Timestamp
  handshakeId : HandshakeId
deriving DecidableEq

def HandshakeAckPacket.new (sessionId : SessionId) (handshakeId : HandshakeId) (now : Timestamp) :
    HandshakeAckPacket where
  version := Version.currentVersion
  opts := Options.none
  packetType := .handshakeAck
  reserved := {}
  sessionId := sessionId
  timestamp := now
  handshakeId := handshakeId

@[ext] structure SessionDoesNotExistErrorPacket where
  version : Version
  opts : Options
  packetType : PacketType
  errorType : ErrorType
  reserved : Reserved 2
  sessionId : SessionId
  timestamp : Timestamp
deriving DecidableEq

def SessionDoesNotExistErrorPacket.new (opts : Options) (sessionId : SessionId)
    (now : Timestamp) : SessionDoesNotExistErrorPacket where
  version := Version.currentVersion
  opts := opts
  packetType := .error
  errorType := .sessionDoesNotExist
  reserved := {}
  sessionId := sessionId
  timestamp := now

@[ext] structure IncompatibleVersionPacket where
  zeroVersion : Version
  minVersion : Version
deriving DecidableEq

def IncompatibleVersionPacket.packet : IncompatibleVersionPacket where
  zeroVersion := ⟨0⟩
  minVersion := Version.minCompatibleVersion

/-! ## Serialization -/

def AckPacket.serialize (self : AckPacket) : List UInt8 :=
  Serialize.serialize self.version ++ (Serialize.serialize self.opts ++
    (Serialize.serialize self.packetType ++ (Serialize.serialize self.reserved ++
      (Serialize.serialize self.sessionId ++ (Serialize.serialize self.timestamp ++
        Serialize.serialize self.fingerprint)))))

/-- The address of a `KeepAlivePacket` takes no bytes. -/
def KeepAlivePacket.serialize (self : KeepAlivePacket) : List UInt8 :=
  Serialize.serialize self.version ++ (Serialize.serialize self.opts ++
    (Serialize.serialize self.packetType ++ (Serialize.serialize self.reserved ++
      (Serialize.serialize self.sessionId ++ Serialize.serialize self.timestamp))))

def HandshakeAckPacket.serialize (self : HandshakeAckPacket) : List UInt8 :=
  Serialize.serialize self.version ++ (Serialize.serialize self.opts ++
    (Serialize.serialize self.packetType ++ (Serialize.serialize self.reserved ++
      (Serialize.serialize self.sessionId ++ (Serialize.serialize self.timestamp ++
        Serialize.serialize self.handshakeId)))))

def SessionDoesNotExistErrorPacket.serialize (self : SessionDoesNotExistErrorPacket) :
    List UInt8 :=
  Serialize.serialize self.version ++ (Serialize.serialize self.opts ++
    (Serialize.serialize self.packetType ++ (Serialize.serialize self.errorType ++
      (Serialize.serialize self.reserved ++ (Serialize.serialize self.sessionId ++
        Serialize.serialize self.timestamp)))))

def HandshakeRejection.serialize (self : HandshakeRejection) : List UInt8 :=
  Serialize.serialize self.version ++ (Serialize.serialize self.opts ++
    (Serialize.serialize self.packetType ++ (Serialize.serialize self.controlType ++
      (Serialize.serialize self.reserved ++ (Serialize.serialize self.sessionId ++
        (Serialize.serialize self.timestamp ++ (Serialize.serialize self.handshakeId ++
          Serialize.serialize self.reason)))))))

def IncompatibleVersionPacket.serialize (self : IncompatibleVersionPacket) : List UInt8 :=
  Serialize.serialize self.zeroVersion ++ Serialize.serialize self.minVersion

/-- The bytes of the field called `payload`. -/
def Packet.payload : Packet → List UInt8
  | trackRequest packet => packet.payload
  | data packet => packet.payload
  | metadata packet => packet.payload
  | parity packet => packet.payload
  | retransmit packet => serializeByteRanges packet.payload
  | trackRejection packet => packet.payload
  | hello _ | playbackControl _ | unexpectedPacketError _ | closeSession _ => []

def Packet.serialize (self : Packet) : List UInt8 := self.headers ++ self.payload

/-- `Packet`; the kinds with a fingerprint are `Ubass.Packet`. -/
inductive WirePacket where
  | keyed (packet : Packet)
  | ack (packet : AckPacket)
  | keepAlive (packet : KeepAlivePacket)
  | handshakeAck (packet : HandshakeAckPacket)
  | incompatibleVersion (packet : IncompatibleVersionPacket)
  | sessionDoesNotExistError (packet : SessionDoesNotExistErrorPacket)
  | handshakeRejection (packet : HandshakeRejection)
deriving DecidableEq

/-- `Packet::session_id` -/
def Packet.sessionId : Packet → SessionId
  | hello packet => packet.proposedSessionId
  | trackRequest packet => packet.sessionId
  | data packet => packet.sessionId
  | metadata packet => packet.sessionId
  | parity packet => packet.sessionId
  | retransmit packet => packet.sessionId
  | playbackControl packet => packet.sessionId
  | unexpectedPacketError packet => packet.sessionId
  | trackRejection packet => packet.sessionId
  | closeSession packet => packet.sessionId

def WirePacket.serialize : WirePacket → List UInt8
  | keyed packet => packet.serialize
  | ack packet => packet.serialize
  | keepAlive packet => packet.serialize
  | handshakeAck packet => packet.serialize
  | incompatibleVersion packet => packet.serialize
  | sessionDoesNotExistError packet => packet.serialize
  | handshakeRejection packet => packet.serialize

/-! ## Parsers -/

def HelloPacket.parser (debugAssertions : Bool) : Parser HelloPacket := do
  let version ← Parser.field
  let opts ← Parser.field
  let packetType ← Parser.field
  let controlType ← Parser.field
  let reserved ← Parser.field
  let proposedSessionId ← Parser.field
  let handshakeId ← Parser.field
  let timestamp ← Parser.field
  let publicKey ← Parser.field
  let appId ← Parser.fieldWith (AppId.deserialize debugAssertions) fun appId => appId.bytes.length
  return ⟨version, opts, packetType, controlType, reserved, proposedSessionId, handshakeId,
    timestamp, publicKey, appId⟩

def TrackRequestPacket.parser : Parser TrackRequestPacket := do
  let version ← Parser.field
  let opts ← Parser.field
  let packetType ← Parser.field
  let controlType ← Parser.field
  let reserved ← Parser.field
  let sessionId ← Parser.field
  let timestamp ← Parser.field
  let payload ← Parser.fieldWith deserializeBytes List.length
  return ⟨version, opts, packetType, controlType, reserved, sessionId, timestamp, payload⟩

def DataPacket.parser : Parser DataPacket := do
  let version ← Parser.field
  let opts ← Parser.field
  let packetType ← Parser.field
  let batchId ← Parser.field
  let fecInfo ← Parser.field
  let sessionId ← Parser.field
  let timestamp ← Parser.field
  let byteRangeStart ← Parser.field
  let payload ← Parser.fieldWith deserializeBytes List.length
  return ⟨version, opts, packetType, batchId, fecInfo, sessionId, timestamp, byteRangeStart,
    payload⟩

def ParityPacket.parser : Parser ParityPacket := do
  let version ← Parser.field
  let opts ← Parser.field
  let packetType ← Parser.field
  let batchId ← Parser.field
  let fecInfo ← Parser.field
  let sessionId ← Parser.field
  let timestamp ← Parser.field
  let payload ← Parser.fieldWith deserializeBytes List.length
  return ⟨version, opts, packetType, batchId, fecInfo, sessionId, timestamp, payload⟩

def RetransmitPacket.parser : Parser RetransmitPacket := do
  let version ← Parser.field
  let opts ← Parser.field
  let packetType ← Parser.field
  let controlType ← Parser.field
  let bufferId ← bufferIdField
  let sessionId ← Parser.field
  let timestamp ← Parser.field
  let payload ← Parser.fieldWith deserializeByteRanges fun ranges =>
    ranges.length * ByteRange.elemSize
  return ⟨version, opts, packetType, controlType, bufferId, sessionId, timestamp, payload⟩

def PlaybackControlPacket.parser : Parser PlaybackControlPacket := do
  let version ← Parser.field
  let opts ← Parser.field
  let packetType ← Parser.field
  let controlType ← Parser.field
  let reserved ← Parser.field
  let sessionId ← Parser.field
  let timestamp ← Parser.field
  let seekPosition ← Parser.field
  return ⟨version, opts, packetType, controlType, reserved, sessionId, timestamp, seekPosition⟩

def UnexpectedPacketErrorPacket.parser : Parser UnexpectedPacketErrorPacket := do
  let version ← Parser.field
  let opts ← Parser.field
  let packetType ← Parser.field
  let errorType ← Parser.field
  let reserved ← Parser.field
  let sessionId ← Parser.field
  let timestamp ← Parser.field
  let receivedPacketType ← Parser.field
  let receivedSecondaryType ← Parser.field
  let receivedFingerprint ← Parser.field
  return ⟨version, opts, packetType, errorType, reserved, sessionId, timestamp,
    receivedPacketType, receivedSecondaryType, receivedFingerprint⟩

def TrackRejectionPacket.parser : Parser TrackRejectionPacket := do
  let version ← Parser.field
  let opts ← Parser.field
  let packetType ← Parser.field
  let controlType ← Parser.field
  let reserved ← Parser.field
  let sessionId ← Parser.field
  let timestamp ← Parser.field
  let payload ← Parser.fieldWith deserializeBytes List.length
  return ⟨version, opts, packetType, controlType, reserved, sessionId, timestamp, payload⟩

def CloseSessionPacket.parser : Parser CloseSessionPacket := do
  let version ← Parser.field
  let opts ← Parser.field
  let packetType ← Parser.field
  let controlType ← Parser.field
  let reserved ← Parser.field
  let sessionId ← Parser.field
  let timestamp ← Parser.field
  return ⟨version, opts, packetType, controlType, reserved, sessionId, timestamp⟩

def AckPacket.parser : Parser AckPacket := do
  let version ← Parser.field
  let opts ← Parser.field
  let packetType ← Parser.field
  let reserved ← Parser.field
  let sessionId ← Parser.field
  let timestamp ← Parser.field
  let fingerprint ← Parser.field
  return ⟨version, opts, packetType, reserved, sessionId, timestamp, fingerprint⟩

def KeepAlivePacket.parser : Parser KeepAlivePacket := do
  let version ← Parser.field
  let opts ← Parser.field
  let packetType ← Parser.field
  let reserved ← Parser.field
  let sessionId ← Parser.field
  let timestamp ← Parser.field
  return ⟨version, opts, packetType, reserved, sessionId, timestamp, none⟩

def HandshakeAckPacket.parser : Parser HandshakeAckPacket := do
  let version ← Parser.field
  let opts ← Parser.field
  let packetType ← Parser.field
  let reserved ← Parser.field
  let sessionId ← Parser.field
  let timestamp ← Parser.field
  let handshakeId ← Parser.field
  return ⟨version, opts, packetType, reserved, sessionId, timestamp, handshakeId⟩

def SessionDoesNotExistErrorPacket.parser : Parser SessionDoesNotExistErrorPacket := do
  let version ← Parser.field
  let opts ← Parser.field
  let packetType ← Parser.field
  let errorType ← Parser.field
  let reserved ← Parser.field
  let sessionId ← Parser.field
  let timestamp ← Parser.field
  return ⟨version, opts, packetType, errorType, reserved, sessionId, timestamp⟩

def HandshakeRejection.parser : Parser HandshakeRejection := do
  let version ← Parser.field
  let opts ← Parser.field
  let packetType ← Parser.field
  let controlType ← Parser.field
  let reserved ← Parser.field
  let sessionId ← Parser.field
  let timestamp ← Parser.field
  let handshakeId ← Parser.field
  let reason ← Parser.field
  return ⟨version, opts, packetType, controlType, reserved, sessionId, timestamp, handshakeId,
    reason⟩

def IncompatibleVersionPacket.parser : Parser IncompatibleVersionPacket := do
  let zeroVersion ← Parser.field
  let minVersion ← Parser.field
  return ⟨zeroVersion, minVersion⟩

/-! ## Reading back -/

theorem readsToEnd_payload (payload : List UInt8) :
    Parser.ReadsToEnd (Parser.fieldWith deserializeBytes List.length) payload payload :=
  Parser.readsToEnd_fieldWith rfl rfl

namespace AppId

/-- What `AppId::new` asserts. -/
structure Valid (appId : AppId) : Prop where
  isAscii : (appId.bytes.all fun byte => byte < 128) = true
  length_lt : appId.bytes.length < maxLength

theorem Valid.deserialize {appId : AppId} (valid : appId.Valid) (debugAssertions : Bool) :
    AppId.deserialize debugAssertions appId.bytes = .ok appId := by
  have short : ¬ maxLength ≤ appId.bytes.length := Nat.not_le.mpr valid.length_lt
  rw [AppId.deserialize, if_pos valid.isAscii, decide_eq_false short, Bool.and_false, if_neg]
  intro h
  cases h

end AppId

theorem HelloPacket.readsToEnd {packet : HelloPacket} (valid : packet.appId.Valid)
    (debugAssertions : Bool) :
    Parser.ReadsToEnd (parser debugAssertions) (Packet.hello packet).headers packet := by
  simp only [Packet.headers, Packet.furtherHeaders]
  apply Parser.Reads.bindToEnd (Parser.reads_field packet.version)
  apply Parser.Reads.bindToEnd (Parser.reads_field packet.opts)
  apply Parser.Reads.bindToEnd (Parser.reads_field packet.packetType)
  apply Parser.Reads.bindToEnd (Parser.reads_field packet.controlType)
  apply Parser.Reads.bindToEnd (Parser.reads_field packet.reserved)
  apply Parser.Reads.bindToEnd (Parser.reads_field packet.proposedSessionId)
  apply Parser.Reads.bindToEnd (Parser.reads_field packet.handshakeId)
  apply Parser.Reads.bindToEnd (Parser.reads_field packet.timestamp)
  apply Parser.Reads.bindToEnd (Parser.reads_field packet.publicKey)
  exact (Parser.readsToEnd_fieldWith (valid.deserialize debugAssertions) rfl).bind_pure

theorem TrackRequestPacket.readsToEnd (packet : TrackRequestPacket) (payload : List UInt8) :
    Parser.ReadsToEnd parser ((Packet.trackRequest packet).headers ++ payload)
      { packet with payload := payload } := by
  simp only [Packet.headers, Packet.furtherHeaders, List.append_assoc]
  apply Parser.Reads.bindToEnd (Parser.reads_field packet.version)
  apply Parser.Reads.bindToEnd (Parser.reads_field packet.opts)
  apply Parser.Reads.bindToEnd (Parser.reads_field packet.packetType)
  apply Parser.Reads.bindToEnd (Parser.reads_field packet.controlType)
  apply Parser.Reads.bindToEnd (Parser.reads_field packet.reserved)
  apply Parser.Reads.bindToEnd (Parser.reads_field packet.sessionId)
  apply Parser.Reads.bindToEnd (Parser.reads_field packet.timestamp)
  exact (readsToEnd_payload payload).bind_pure

theorem DataPacket.readsToEnd (packet : DataPacket) (payload : List UInt8) :
    Parser.ReadsToEnd parser ((Packet.data packet).headers ++ payload)
      { packet with payload := payload } := by
  simp only [Packet.headers, Packet.furtherHeaders, List.append_assoc]
  apply Parser.Reads.bindToEnd (Parser.reads_field packet.version)
  apply Parser.Reads.bindToEnd (Parser.reads_field packet.opts)
  apply Parser.Reads.bindToEnd (Parser.reads_field packet.packetType)
  apply Parser.Reads.bindToEnd (Parser.reads_field packet.batchId)
  apply Parser.Reads.bindToEnd (Parser.reads_field packet.fecInfo)
  apply Parser.Reads.bindToEnd (Parser.reads_field packet.sessionId)
  apply Parser.Reads.bindToEnd (Parser.reads_field packet.timestamp)
  apply Parser.Reads.bindToEnd (Parser.reads_field packet.byteRangeStart)
  exact (readsToEnd_payload payload).bind_pure

theorem ParityPacket.readsToEnd (packet : ParityPacket) (payload : List UInt8) :
    Parser.ReadsToEnd parser ((Packet.parity packet).headers ++ payload)
      { packet with payload := payload } := by
  simp only [Packet.headers, Packet.furtherHeaders, List.append_assoc]
  apply Parser.Reads.bindToEnd (Parser.reads_field packet.version)
  apply Parser.Reads.bindToEnd (Parser.reads_field packet.opts)
  apply Parser.Reads.bindToEnd (Parser.reads_field packet.packetType)
  apply Parser.Reads.bindToEnd (Parser.reads_field packet.batchId)
  apply Parser.Reads.bindToEnd (Parser.reads_field packet.fecInfo)
  apply Parser.Reads.bindToEnd (Parser.reads_field packet.sessionId)
  apply Parser.Reads.bindToEnd (Parser.reads_field packet.timestamp)
  exact (readsToEnd_payload payload).bind_pure

theorem RetransmitPacket.readsToEnd {packet : RetransmitPacket} (nonempty : packet.payload ≠ [])
    (present : packet.bufferId ≠ some ⟨0⟩) :
    Parser.ReadsToEnd parser (Packet.retransmit packet).serialize packet := by
  simp only [Packet.serialize, Packet.payload, Packet.headers, Packet.furtherHeaders,
    List.append_assoc]
  apply Parser.Reads.bindToEnd (Parser.reads_field packet.version)
  apply Parser.Reads.bindToEnd (Parser.reads_field packet.opts)
  apply Parser.Reads.bindToEnd (Parser.reads_field packet.packetType)
  apply Parser.Reads.bindToEnd (Parser.reads_field packet.controlType)
  apply Parser.Reads.bindToEnd (reads_bufferIdField present)
  apply Parser.Reads.bindToEnd (Parser.reads_field packet.sessionId)
  apply Parser.Reads.bindToEnd (Parser.reads_field packet.timestamp)
  exact (Parser.readsToEnd_fieldWith (deserialize_serializeByteRanges nonempty)
    (length_serializeByteRanges packet.payload).symm).bind_pure

theorem PlaybackControlPacket.reads {packet : PlaybackControlPacket} :
    Parser.Reads parser (Packet.playbackControl packet).headers packet := by
  simp only [Packet.headers, Packet.furtherHeaders]
  apply Parser.Reads.bind (Parser.reads_field packet.version)
  apply Parser.Reads.bind (Parser.reads_field packet.opts)
  apply Parser.Reads.bind (Parser.reads_field packet.packetType)
  apply Parser.Reads.bind (Parser.reads_field packet.controlType)
  apply Parser.Reads.bind (Parser.reads_field packet.reserved)
  apply Parser.Reads.bind (Parser.reads_field packet.sessionId)
  apply Parser.Reads.bind (Parser.reads_field packet.timestamp)
  exact (Parser.reads_field packet.seekPosition).bind_pure

theorem UnexpectedPacketErrorPacket.reads {packet : UnexpectedPacketErrorPacket}
    (error : packet.errorType = .unexpectedPacket) :
    Parser.Reads parser (Packet.unexpectedPacketError packet).headers packet := by
  simp only [Packet.headers, Packet.furtherHeaders]
  apply Parser.Reads.bind (Parser.reads_field packet.version)
  apply Parser.Reads.bind (Parser.reads_field packet.opts)
  apply Parser.Reads.bind (Parser.reads_field packet.packetType)
  apply Parser.Reads.bind (ErrorType.reads_field error)
  apply Parser.Reads.bind (Parser.reads_field packet.reserved)
  apply Parser.Reads.bind (Parser.reads_field packet.sessionId)
  apply Parser.Reads.bind (Parser.reads_field packet.timestamp)
  apply Parser.Reads.bind (Parser.reads_field packet.receivedPacketType)
  apply Parser.Reads.bind (Parser.reads_field packet.receivedSecondaryType)
  exact (Parser.reads_field packet.receivedFingerprint).bind_pure

theorem TrackRejectionPacket.readsToEnd (packet : TrackRejectionPacket) (payload : List UInt8) :
    Parser.ReadsToEnd parser ((Packet.trackRejection packet).headers ++ payload)
      { packet with payload := payload } := by
  simp only [Packet.headers, Packet.furtherHeaders, List.append_assoc]
  apply Parser.Reads.bindToEnd (Parser.reads_field packet.version)
  apply Parser.Reads.bindToEnd (Parser.reads_field packet.opts)
  apply Parser.Reads.bindToEnd (Parser.reads_field packet.packetType)
  apply Parser.Reads.bindToEnd (Parser.reads_field packet.controlType)
  apply Parser.Reads.bindToEnd (Parser.reads_field packet.reserved)
  apply Parser.Reads.bindToEnd (Parser.reads_field packet.sessionId)
  apply Parser.Reads.bindToEnd (Parser.reads_field packet.timestamp)
  exact (readsToEnd_payload payload).bind_pure

theorem CloseSessionPacket.reads {packet : CloseSessionPacket} :
    Parser.Reads parser (Packet.closeSession packet).headers packet := by
  simp only [Packet.headers, Packet.furtherHeaders]
  apply Parser.Reads.bind (Parser.reads_field packet.version)
  apply Parser.Reads.bind (Parser.reads_field packet.opts)
  apply Parser.Reads.bind (Parser.reads_field packet.packetType)
  apply Parser.Reads.bind (Parser.reads_field packet.controlType)
  apply Parser.Reads.bind (Parser.reads_field packet.reserved)
  apply Parser.Reads.bind (Parser.reads_field packet.sessionId)
  exact (Parser.reads_field packet.timestamp).bind_pure

theorem AckPacket.reads {packet : AckPacket} : Parser.Reads parser packet.serialize packet := by
  apply Parser.Reads.bind (Parser.reads_field packet.version)
  apply Parser.Reads.bind (Parser.reads_field packet.opts)
  apply Parser.Reads.bind (Parser.reads_field packet.packetType)
  apply Parser.Reads.bind (Parser.reads_field packet.reserved)
  apply Parser.Reads.bind (Parser.reads_field packet.sessionId)
  apply Parser.Reads.bind (Parser.reads_field packet.timestamp)
  exact (Parser.reads_field packet.fingerprint).bind_pure

theorem KeepAlivePacket.reads {packet : KeepAlivePacket} :
    Parser.Reads parser packet.serialize { packet with address := none } := by
  apply Parser.Reads.bind (Parser.reads_field packet.version)
  apply Parser.Reads.bind (Parser.reads_field packet.opts)
  apply Parser.Reads.bind (Parser.reads_field packet.packetType)
  apply Parser.Reads.bind (Parser.reads_field packet.reserved)
  apply Parser.Reads.bind (Parser.reads_field packet.sessionId)
  exact (Parser.reads_field packet.timestamp).bind_pure

theorem HandshakeAckPacket.reads {packet : HandshakeAckPacket} :
    Parser.Reads parser packet.serialize packet := by
  apply Parser.Reads.bind (Parser.reads_field packet.version)
  apply Parser.Reads.bind (Parser.reads_field packet.opts)
  apply Parser.Reads.bind (Parser.reads_field packet.packetType)
  apply Parser.Reads.bind (Parser.reads_field packet.reserved)
  apply Parser.Reads.bind (Parser.reads_field packet.sessionId)
  apply Parser.Reads.bind (Parser.reads_field packet.timestamp)
  exact (Parser.reads_field packet.handshakeId).bind_pure

theorem HandshakeRejection.reads {packet : HandshakeRejection} :
    Parser.Reads parser packet.serialize packet := by
  apply Parser.Reads.bind (Parser.reads_field packet.version)
  apply Parser.Reads.bind (Parser.reads_field packet.opts)
  apply Parser.Reads.bind (Parser.reads_field packet.packetType)
  apply Parser.Reads.bind (Parser.reads_field packet.controlType)
  apply Parser.Reads.bind (Parser.reads_field packet.reserved)
  apply Parser.Reads.bind (Parser.reads_field packet.sessionId)
  apply Parser.Reads.bind (Parser.reads_field packet.timestamp)
  apply Parser.Reads.bind (Parser.reads_field packet.handshakeId)
  exact (Parser.reads_field packet.reason).bind_pure

theorem IncompatibleVersionPacket.reads {packet : IncompatibleVersionPacket} :
    Parser.Reads parser packet.serialize packet := by
  apply Parser.Reads.bind (Parser.reads_field packet.zeroVersion)
  exact (Parser.reads_field packet.minVersion).bind_pure

/-! ## Not stopping the program -/

theorem total_payload : Parser.Total (Parser.fieldWith deserializeBytes List.length) := by
  apply Parser.total_fieldWith
  · intro bytes stopped
    cases stopped
  · intro bytes payload read
    cases read
    exact le_refl _

theorem ByteRange.total_parser : Parser.Total parser := by
  apply Parser.Total.bind Parser.total_field
  intro start
  apply Parser.Total.bind Parser.total_field
  intro length
  exact Parser.total_pure _

theorem length_wholeChunks (size : Nat) (bytes : List UInt8) (positive : 0 < size) :
    ((sliceChunks size bytes).filter fun chunk => chunk.length = size).length * size ≤
      bytes.length := by
  have whole : ∀ length ∈ ((sliceChunks size bytes).filter fun chunk =>
      chunk.length = size).map List.length, length = size := by
    intro length listed
    obtain ⟨chunk, kept, rfl⟩ := List.mem_map.mp listed
    exact of_decide_eq_true (List.mem_filter.mp kept).2
  calc _ = (((sliceChunks size bytes).filter fun chunk => chunk.length = size).flatten).length := by
        rw [List.length_flatten, List.sum_eq_card_nsmul _ _ whole, List.length_map]
        rfl
    _ ≤ (sliceChunks size bytes).flatten.length := List.filter_sublist.flatten.length_le
    _ = bytes.length := by rw [flatten_sliceChunks positive]

theorem deserializeByteRanges_cases (bytes : List UInt8) :
    (∃ ranges, deserializeByteRanges bytes = .ok ranges ∧
      ranges.length * ByteRange.elemSize ≤ bytes.length) ∨
    deserializeByteRanges bytes = .error .error := by
  rw [deserializeByteRanges]
  split
  · exact Or.inr rfl
  · rcases Parser.mapM_total ByteRange.total_parser.parse ((sliceChunks ByteRange.elemSize
        bytes).filter fun chunk => chunk.length = ByteRange.elemSize) with
      ⟨ranges, read, length⟩ | failed
    · refine Or.inl ⟨ranges, read, ?_⟩
      rw [length]
      exact length_wholeChunks ByteRange.elemSize bytes (by decide)
    · exact Or.inr failed

theorem total_byteRanges :
    Parser.Total (Parser.fieldWith deserializeByteRanges fun ranges =>
      ranges.length * ByteRange.elemSize) := by
  apply Parser.total_fieldWith
  · intro bytes stopped
    rcases deserializeByteRanges_cases bytes with ⟨ranges, read, -⟩ | failed
    · rw [read] at stopped
      cases stopped
    · rw [failed] at stopped
      cases stopped
  · intro bytes ranges read
    rcases deserializeByteRanges_cases bytes with ⟨ranges', read', fits⟩ | failed
    · cases read.symm.trans read'
      exact fits
    · rw [failed] at read
      cases read

theorem TrackRequestPacket.total_parser : Parser.Total parser := by
  repeat (apply Parser.Total.bind Parser.total_field; intro _)
  exact total_payload.bind fun _ => Parser.total_pure _

theorem DataPacket.total_parser : Parser.Total parser := by
  repeat (apply Parser.Total.bind Parser.total_field; intro _)
  exact total_payload.bind fun _ => Parser.total_pure _

theorem ParityPacket.total_parser : Parser.Total parser := by
  repeat (apply Parser.Total.bind Parser.total_field; intro _)
  exact total_payload.bind fun _ => Parser.total_pure _

theorem RetransmitPacket.total_parser : Parser.Total parser := by
  repeat (apply Parser.Total.bind Parser.total_field; intro _)
  apply total_bufferIdField.bind
  intro bufferId
  repeat (apply Parser.Total.bind Parser.total_field; intro _)
  exact total_byteRanges.bind fun _ => Parser.total_pure _

theorem PlaybackControlPacket.total_parser : Parser.Total parser := by
  repeat (apply Parser.Total.bind Parser.total_field; intro _)
  exact Parser.total_pure _

theorem UnexpectedPacketErrorPacket.total_parser : Parser.Total parser := by
  repeat (apply Parser.Total.bind Parser.total_field; intro _)
  exact Parser.total_pure _

theorem TrackRejectionPacket.total_parser : Parser.Total parser := by
  repeat (apply Parser.Total.bind Parser.total_field; intro _)
  exact total_payload.bind fun _ => Parser.total_pure _

theorem CloseSessionPacket.total_parser : Parser.Total parser := by
  repeat (apply Parser.Total.bind Parser.total_field; intro _)
  exact Parser.total_pure _

theorem AckPacket.total_parser : Parser.Total parser := by
  repeat (apply Parser.Total.bind Parser.total_field; intro _)
  exact Parser.total_pure _

theorem KeepAlivePacket.total_parser : Parser.Total parser := by
  repeat (apply Parser.Total.bind Parser.total_field; intro _)
  exact Parser.total_pure _

theorem HandshakeAckPacket.total_parser : Parser.Total parser := by
  repeat (apply Parser.Total.bind Parser.total_field; intro _)
  exact Parser.total_pure _

theorem SessionDoesNotExistErrorPacket.total_parser : Parser.Total parser := by
  repeat (apply Parser.Total.bind Parser.total_field; intro _)
  exact Parser.total_pure _

theorem HandshakeRejection.total_parser : Parser.Total parser := by
  repeat (apply Parser.Total.bind Parser.total_field; intro _)
  exact Parser.total_pure _

theorem IncompatibleVersionPacket.total_parser : Parser.Total parser := by
  repeat (apply Parser.Total.bind Parser.total_field; intro _)
  exact Parser.total_pure _

end Ubass

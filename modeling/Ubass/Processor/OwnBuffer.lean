import Ubass.Processor.Serialize

/-!
# Packets in a buffer of their own size

`serialize!` gives every packet a buffer of exactly its size.  There the `AppId` of a
`HelloPacket` ends where the buffer does, and every packet leaves the bytes of the
wire in it.
-/

set_option autoImplicit false

namespace Ubass

open Serializable

/-- A type of the fields of packets: its implementation of `Serialize`, which no `AppId` has a part
in, writes the bytes of the wire. -/
class WireField (Value : Type) [Serialize Value] where
  field : Value → Serializable
  bytes_field : ∀ value, (field value).bytes = Serialize.serialize value
  appIdEnds_field : ∀ value, (field value).appIdEnds = []

namespace WireField

attribute [simp] bytes_field appIdEnds_field

@[reducible] def ofInt {Value : Type} [Serialize Value] (type : IntType)
    (number : Value → type.Value)
    (same : ∀ value, EnumSerialize.reprBytes (number value) = Serialize.serialize value) :
    WireField Value where
  field value := derivedStruct [int type (number value)]
  bytes_field value := by simp [bytes, bytesFields, same]
  appIdEnds_field _ := rfl

@[reducible] def ofArray {Value : Type} [Serialize Value] (bytes : Value → List UInt8)
    (same : ∀ value, bytes value = Serialize.serialize value) : WireField Value where
  field value := derivedStruct [array (bytes value)]
  bytes_field value := by simp [Serializable.bytes, bytesFields, same]
  appIdEnds_field _ := rfl

@[reducible] def ofEnum {Value : Type} [Serialize Value] (repr : Value → Nat)
    (same : ∀ value, @EnumSerialize.reprBytes u8 (BitVec.ofNat 8 (repr value)) =
      Serialize.serialize value) : WireField Value where
  field value := derivedEnum u8 (BitVec.ofNat 8 (repr value))
  bytes_field value := by simp [bytes, same]
  appIdEnds_field _ := rfl

end WireField

instance : WireField Version := .ofInt u16 (fun version => version.bits.toBitVec) fun _ => rfl

instance : WireField Options := .ofInt u16 (fun options => options.bits.toBitVec) fun _ => rfl

instance : WireField BatchId := .ofInt u16 (fun batch => batch.id.toBitVec) fun _ => rfl

instance : WireField BufferId := .ofInt u16 (fun buffer => buffer.id.toBitVec) fun _ => rfl

instance : WireField SecondaryType := .ofInt u16 (fun type => type.type.toBitVec) fun _ => rfl

instance : WireField HandshakeId := .ofInt u32 (fun handshake => handshake.id.toBitVec) fun _ => rfl

instance : WireField BufferSize := .ofInt u32 (fun size => size.size.toBitVec) fun _ => rfl

instance : WireField BytePosition :=
  .ofInt u32 (fun position => BitVec.ofNatLT position.toNat position.lt) fun _ => rfl

instance : WireField SessionId := .ofInt u64 (fun session => session.id.toBitVec) fun _ => rfl

instance : WireField Timestamp :=
  .ofInt u64 (fun timestamp => BitVec.ofNatLT timestamp.toNat timestamp.lt) fun _ => rfl

instance : WireField PublicKey := .ofArray PublicKey.bytes fun _ => rfl

instance : WireField PacketFingerprint := .ofArray PacketFingerprint.bytes fun _ => rfl

instance : WireField PacketType := .ofEnum PacketType.repr fun type => by cases type <;> rfl

instance : WireField PlaybackControlType :=
  .ofEnum PlaybackControlType.repr fun type => by cases type <;> rfl

instance : WireField ErrorType := .ofEnum ErrorType.repr fun type => by cases type <;> rfl

instance : WireField HandshakeRejectionReason :=
  .ofEnum HandshakeRejectionReason.repr fun reason => by cases reason <;> rfl

instance (size : Nat) : WireField (Reserved size) :=
  ⟨fun _ => reserved size, fun _ => rfl, fun _ => rfl⟩

instance : WireField ControlType := ⟨controlType, fun _ => rfl, fun _ => rfl⟩

instance : WireField FecInfo where
  field info := derivedStruct [int u8 info.batchSize.toBitVec, int u8 info.batchPos.toBitVec,
    int u8 info.recoveryCount.toBitVec]
  bytes_field info := by
    have one : ∀ byte : UInt8, @EnumSerialize.reprBytes u8 byte.toBitVec = [byte] := by
      intro byte
      simp [EnumSerialize.reprBytes, u8, IntType.u8, Bytes.beBytes]
    simp [bytes, bytesFields, one]
    rfl
  appIdEnds_field _ := rfl

open WireField

def payloadField (payload : List UInt8) : Serializable := derivedStruct [vec payload]

/-! ## The derived implementations -/

namespace Packet

def serializable : Packet → Serializable
  | hello packet => derivedStruct
      [field packet.version, field packet.opts, field packet.packetType, field packet.controlType,
        field packet.reserved, field packet.proposedSessionId, field packet.handshakeId,
        field packet.timestamp, field packet.publicKey, appId packet.appId]
  | trackRequest packet => derivedStruct
      [field packet.version, field packet.opts, field packet.packetType, field packet.controlType,
        field packet.reserved, field packet.sessionId, field packet.timestamp,
        payloadField packet.payload]
  | data packet => derivedStruct
      [field packet.version, field packet.opts, field packet.packetType, field packet.batchId,
        field packet.fecInfo, field packet.sessionId, field packet.timestamp,
        field packet.byteRangeStart, payloadField packet.payload]
  | metadata packet => derivedStruct
      [field packet.version, field packet.opts, field packet.packetType, field packet.batchId,
        field packet.fecInfo, field packet.sessionId, field packet.timestamp,
        field packet.bufferId, field packet.bufferSize, field packet.position,
        payloadField packet.payload]
  | parity packet => derivedStruct
      [field packet.version, field packet.opts, field packet.packetType, field packet.batchId,
        field packet.fecInfo, field packet.sessionId, field packet.timestamp,
        derivedStruct [payloadField packet.payload]]
  | retransmit packet => derivedStruct
      [field packet.version, field packet.opts, field packet.packetType, field packet.controlType,
        optionBufferId packet.bufferId, field packet.sessionId, field packet.timestamp,
        byteRanges packet.payload]
  | playbackControl packet => derivedStruct
      [field packet.version, field packet.opts, field packet.packetType, field packet.controlType,
        field packet.reserved, field packet.sessionId, field packet.timestamp,
        field packet.seekPosition]
  | unexpectedPacketError packet => derivedStruct
      [field packet.version, field packet.opts, field packet.packetType, field packet.errorType,
        field packet.reserved, field packet.sessionId, field packet.timestamp,
        field packet.receivedPacketType, field packet.receivedSecondaryType,
        field packet.receivedFingerprint]
  | trackRejection packet => derivedStruct
      [field packet.version, field packet.opts, field packet.packetType, field packet.controlType,
        field packet.reserved, field packet.sessionId, field packet.timestamp,
        payloadField packet.payload]
  | closeSession packet => derivedStruct
      [field packet.version, field packet.opts, field packet.packetType, field packet.controlType,
        field packet.reserved, field packet.sessionId, field packet.timestamp]

end Packet

namespace WirePacket

def serializable : WirePacket → Serializable
  | keyed packet => packet.serializable
  | ack packet => derivedStruct
      [field packet.version, field packet.opts, field packet.packetType, field packet.reserved,
        field packet.sessionId, field packet.timestamp, field packet.fingerprint]
  | keepAlive packet => derivedStruct
      [field packet.version, field packet.opts, field packet.packetType, field packet.reserved,
        field packet.sessionId, field packet.timestamp, optionSocketAddr packet.address]
  | handshakeAck packet => derivedStruct
      [field packet.version, field packet.opts, field packet.packetType, field packet.reserved,
        field packet.sessionId, field packet.timestamp, field packet.handshakeId]
  | incompatibleVersion packet => derivedStruct [field packet.zeroVersion, field packet.minVersion]
  | sessionDoesNotExistError packet => derivedStruct
      [field packet.version, field packet.opts, field packet.packetType, field packet.errorType,
        field packet.reserved, field packet.sessionId, field packet.timestamp]
  | handshakeRejection packet => derivedStruct
      [field packet.version, field packet.opts, field packet.packetType, field packet.controlType,
        field packet.reserved, field packet.sessionId, field packet.timestamp,
        field packet.handshakeId, field packet.reason]

theorem bytes_serializable (packet : WirePacket) :
    packet.serializable.bytes = packet.serialize := by
  rcases packet with packet | packet | packet | packet | packet | packet | packet
  · cases packet <;>
      simp [serializable, Packet.serializable, serialize, Packet.serialize, Packet.headers,
        Packet.furtherHeaders, Packet.payload, bytes, bytesFields, payloadField, Packet.version,
        Packet.opts, Packet.packetType]
  all_goals
    simp [serializable, serialize, bytes, bytesFields, AckPacket.serialize,
      KeepAlivePacket.serialize, HandshakeAckPacket.serialize, IncompatibleVersionPacket.serialize,
      SessionDoesNotExistErrorPacket.serialize, HandshakeRejection.serialize]

theorem appIdEnds_serializable (packet : WirePacket) :
    ∀ stop ∈ packet.serializable.appIdEnds, stop = packet.serializable.sized := by
  rcases packet with packet | packet | packet | packet | packet | packet | packet
  · cases packet <;>
      simp [serializable, Packet.serializable, appIdEnds, appIdEndsFields, payloadField, sized,
        sizedFields]
  all_goals simp [serializable, appIdEnds, appIdEndsFields]

/-- `serialize!`: no packet panics or fails, and what is sent is the packet on the wire. -/
theorem serialize_ownBuffer (packet : WirePacket) :
    packet.serializable.serialize (List.replicate packet.serializable.sized 0) =
      .done packet.serialize := by
  have contract := (meetsContract_iff packet.serializable
    (List.replicate packet.serializable.sized 0)).mpr (by
      right
      rw [List.length_replicate]
      exact packet.appIdEnds_serializable)
  have written := contract.written (by rw [List.length_replicate])
  rw [written, packet.bytes_serializable, List.drop_replicate, Nat.sub_self, List.replicate_zero,
    List.append_nil]

end WirePacket
end Ubass

import Ubass.Lib.Fields
import Ubass.Packets

/-!
# Headers and fingerprints

The derived `Headers` of the packets that `PacketFingerprint::try_from` accepts:
the serialized fields in order, without the one called `payload`.  The hash of
the headers is the fingerprint by which a receiver drops duplicates and a sender
finds the packet an acknowledgement is for.
-/

set_option autoImplicit false

namespace Ubass

open Serialize

/-! ## The fields -/

theorem Version.toNat_lt (version : Version) : version.bits.toNat < 2 ^ 16 :=
  version.bits.toNat_lt

instance : Serialize Version :=
  ofNat 2 (fun version => version.bits.toNat) Version.toNat_lt
    fun _ _ same => Version.ext (UInt16.toNat_inj.mp same)

theorem Options.toNat_lt (options : Options) : options.bits.toNat < 2 ^ 16 :=
  options.bits.toNat_lt

instance : Serialize Options :=
  ofNat 2 (fun options => options.bits.toNat) Options.toNat_lt
    fun _ _ same => Options.ext (UInt16.toNat_inj.mp same)

def PacketType.repr : PacketType → Nat
  | data => 1
  | metadata => 2
  | parity => 3
  | ack => 4
  | handshakeAck => 5
  | host => 7
  | session => 8
  | playback => 9
  | error => 10
  | keepAlive => 11

def HostControlType.repr : HostControlType → Nat
  | hello => 201
  | handshakeReject => 202

def SessionControlType.repr : SessionControlType → Nat
  | retransmit => 1
  | trackRequest => 2
  | metadataRequest => 3
  | trackReject => 4
  | close => 5

def PlaybackControlType.repr : PlaybackControlType → Nat
  | play => 101
  | pause => 102
  | close => 103
  | done => 104
  | seek => 105

def ControlType.repr : ControlType → Nat
  | host type => type.repr
  | session type => type.repr
  | playback type => type.repr

def ErrorType.repr : ErrorType → Nat
  | unexpectedPacket => 1
  | incomprehensiblePacket => 2
  | sessionDoesNotExist => 3

instance : Serialize PacketType :=
  ofNat 1 PacketType.repr (by intro type; cases type <;> decide)
    (by intro left right same; cases left <;> cases right <;> first | rfl | cases same)

instance : Serialize PlaybackControlType :=
  ofNat 1 PlaybackControlType.repr (by intro type; cases type <;> decide)
    (by intro left right same; cases left <;> cases right <;> first | rfl | cases same)

instance : Serialize ControlType :=
  ofNat 1 ControlType.repr
    (by rintro (type | type | type) <;> cases type <;> decide)
    (by
      rintro (left | left | left) (right | right | right) same <;> cases left <;> cases right <;>
        first | rfl | cases same)

instance : Serialize ErrorType :=
  ofNat 1 ErrorType.repr (by intro type; cases type <;> decide)
    (by intro left right same; cases left <;> cases right <;> first | rfl | cases same)

instance (size : Nat) : Serialize (Reserved size) :=
  ofBytes size (fun _ => List.replicate size 0) (fun _ => List.length_replicate)
    fun _ _ _ => rfl

theorem SessionId.toNat_lt (session : SessionId) : session.id.toNat < 2 ^ 64 :=
  session.id.toNat_lt

instance : Serialize SessionId :=
  ofNat 8 (fun session => session.id.toNat) SessionId.toNat_lt
    fun _ _ same => SessionId.ext (UInt64.toNat_inj.mp same)

theorem HandshakeId.toNat_lt (handshake : HandshakeId) : handshake.id.toNat < 2 ^ 32 :=
  handshake.id.toNat_lt

instance : Serialize HandshakeId :=
  ofNat 4 (fun handshake => handshake.id.toNat) HandshakeId.toNat_lt
    fun _ _ same => HandshakeId.ext (UInt32.toNat_inj.mp same)

instance : Serialize Timestamp :=
  ofNat 8 Timestamp.toNat Timestamp.lt fun _ _ same => Timestamp.ext same

instance : Serialize PublicKey :=
  ofBytes 32 PublicKey.bytes PublicKey.length_bytes fun _ _ same => PublicKey.ext same

instance : Serialize PacketFingerprint :=
  ofBytes 16 PacketFingerprint.bytes PacketFingerprint.length_bytes
    fun _ _ same => PacketFingerprint.ext same

theorem BatchId.toNat_lt (batch : BatchId) : batch.id.toNat < 2 ^ 16 :=
  batch.id.toNat_lt

instance : Serialize BatchId :=
  ofNat 2 (fun batch => batch.id.toNat) BatchId.toNat_lt
    fun _ _ same => BatchId.ext (UInt16.toNat_inj.mp same)

instance : Serialize FecInfo :=
  ofBytes 3 (fun info => [info.batchSize, info.batchPos, info.recoveryCount]) (fun _ => rfl)
    fun _ _ same => by
      simp only [List.cons.injEq, and_true] at same
      exact FecInfo.ext same.1 same.2.1 same.2.2

instance : Serialize BytePosition :=
  ofNat 4 BytePosition.toNat BytePosition.lt fun _ _ same => BytePosition.ext same

instance : Serialize BufferId :=
  ofNat 2 (fun buffer => buffer.id.toNat) (fun buffer => buffer.id.toNat_lt)
    fun _ _ same => BufferId.ext (UInt16.toNat_inj.mp same)

instance : Serialize BufferSize :=
  ofNat 4 (fun size => size.size.toNat) (fun size => size.size.toNat_lt)
    fun _ _ same => BufferSize.ext (UInt32.toNat_inj.mp same)

theorem SecondaryType.toNat_lt (type : SecondaryType) : type.type.toNat < 2 ^ 16 :=
  type.type.toNat_lt

instance : Serialize SecondaryType :=
  ofNat 2 (fun type => type.type.toNat) SecondaryType.toNat_lt
    fun _ _ same => SecondaryType.ext (UInt16.toNat_inj.mp same)

/-- `Option<BufferId>`: a missing id is written as 0. -/
def serializeBufferId (bufferId : Option BufferId) : List UInt8 :=
  serialize (bufferId.getD ⟨0⟩)

/-! ## The headers -/

inductive Packet where
  | hello (packet : HelloPacket)
  | trackRequest (packet : TrackRequestPacket)
  | data (packet : DataPacket)
  | metadata (packet : MetadataPacket)
  | parity (packet : ParityPacket)
  | retransmit (packet : RetransmitPacket)
  | playbackControl (packet : PlaybackControlPacket)
  | unexpectedPacketError (packet : UnexpectedPacketErrorPacket)
  | trackRejection (packet : TrackRejectionPacket)
  | closeSession (packet : CloseSessionPacket)
deriving DecidableEq

namespace Packet

def version : Packet → Version
  | hello packet => packet.version
  | trackRequest packet => packet.version
  | data packet => packet.version
  | metadata packet => packet.version
  | parity packet => packet.version
  | retransmit packet => packet.version
  | playbackControl packet => packet.version
  | unexpectedPacketError packet => packet.version
  | trackRejection packet => packet.version
  | closeSession packet => packet.version

def opts : Packet → Options
  | hello packet => packet.opts
  | trackRequest packet => packet.opts
  | data packet => packet.opts
  | metadata packet => packet.opts
  | parity packet => packet.opts
  | retransmit packet => packet.opts
  | playbackControl packet => packet.opts
  | unexpectedPacketError packet => packet.opts
  | trackRejection packet => packet.opts
  | closeSession packet => packet.opts

def packetType : Packet → PacketType
  | hello packet => packet.packetType
  | trackRequest packet => packet.packetType
  | data packet => packet.packetType
  | metadata packet => packet.packetType
  | parity packet => packet.packetType
  | retransmit packet => packet.packetType
  | playbackControl packet => packet.packetType
  | unexpectedPacketError packet => packet.packetType
  | trackRejection packet => packet.packetType
  | closeSession packet => packet.packetType

def furtherHeaders : Packet → List UInt8
  | hello packet =>
      serialize packet.controlType ++ (serialize packet.reserved ++
        (serialize packet.proposedSessionId ++ (serialize packet.handshakeId ++
          (serialize packet.timestamp ++ (serialize packet.publicKey ++ packet.appId.bytes)))))
  | trackRequest packet =>
      serialize packet.controlType ++ (serialize packet.reserved ++
        (serialize packet.sessionId ++ serialize packet.timestamp))
  | data packet =>
      serialize packet.batchId ++ (serialize packet.fecInfo ++ (serialize packet.sessionId ++
        (serialize packet.timestamp ++ serialize packet.byteRangeStart)))
  | metadata packet =>
      serialize packet.batchId ++ (serialize packet.fecInfo ++ (serialize packet.sessionId ++
        (serialize packet.timestamp ++ (serialize packet.bufferId ++
          (serialize packet.bufferSize ++ serialize packet.position)))))
  | parity packet =>
      serialize packet.batchId ++ (serialize packet.fecInfo ++ (serialize packet.sessionId ++
        serialize packet.timestamp))
  | retransmit packet =>
      serialize packet.controlType ++ (serializeBufferId packet.bufferId ++
        (serialize packet.sessionId ++ serialize packet.timestamp))
  | playbackControl packet =>
      serialize packet.controlType ++ (serialize packet.reserved ++
        (serialize packet.sessionId ++ (serialize packet.timestamp ++
          serialize packet.seekPosition)))
  | unexpectedPacketError packet =>
      serialize packet.errorType ++ (serialize packet.reserved ++ (serialize packet.sessionId ++
        (serialize packet.timestamp ++ (serialize packet.receivedPacketType ++
          (serialize packet.receivedSecondaryType ++ serialize packet.receivedFingerprint)))))
  | trackRejection packet =>
      serialize packet.controlType ++ (serialize packet.reserved ++
        (serialize packet.sessionId ++ serialize packet.timestamp))
  | closeSession packet =>
      serialize packet.controlType ++ (serialize packet.reserved ++
        (serialize packet.sessionId ++ serialize packet.timestamp))

/-- `Headers::headers`: every packet starts with version, options and packet type. -/
def headers (self : Packet) : List UInt8 :=
  serialize self.version ++ (serialize self.opts ++ (serialize self.packetType ++
    self.furtherHeaders))

def withoutPayload : Packet → Packet
  | trackRequest packet => trackRequest { packet with payload := [] }
  | data packet => data { packet with payload := [] }
  | metadata packet => metadata { packet with payload := [] }
  | parity packet => parity { packet with payload := [] }
  | retransmit packet => retransmit { packet with payload := [] }
  | trackRejection packet => trackRejection { packet with payload := [] }
  | other => other

def markResend : Packet → Packet
  | hello packet => hello { packet with opts := packet.opts.set .resend }
  | trackRequest packet => trackRequest { packet with opts := packet.opts.set .resend }
  | data packet => data { packet with opts := packet.opts.set .resend }
  | metadata packet => metadata { packet with opts := packet.opts.set .resend }
  | parity packet => parity { packet with opts := packet.opts.set .resend }
  | retransmit packet => retransmit { packet with opts := packet.opts.set .resend }
  | playbackControl packet => playbackControl { packet with opts := packet.opts.set .resend }
  | unexpectedPacketError packet =>
      unexpectedPacketError { packet with opts := packet.opts.set .resend }
  | trackRejection packet => trackRejection { packet with opts := packet.opts.set .resend }
  | closeSession packet => closeSession { packet with opts := packet.opts.set .resend }

/-! ## Packets as they are created -/

inductive Kind where
  | hello
  | trackRequest
  | data
  | metadata
  | parity
  | retransmit
  | playbackControl
  | unexpectedPacketError
  | trackRejection
  | closeSession
deriving DecidableEq

def kind : Packet → Kind
  | hello _ => .hello
  | trackRequest _ => .trackRequest
  | data _ => .data
  | metadata _ => .metadata
  | parity _ => .parity
  | retransmit _ => .retransmit
  | playbackControl _ => .playbackControl
  | unexpectedPacketError _ => .unexpectedPacketError
  | trackRejection _ => .trackRejection
  | closeSession _ => .closeSession

def kindOf (packetType : PacketType) (secondary : Option UInt8) : Option Kind :=
  match packetType with
  | .host => some .hello
  | .data => some .data
  | .metadata => some .metadata
  | .parity => some .parity
  | .playback => some .playbackControl
  | .error => some .unexpectedPacketError
  | .session =>
      match secondary with
      | some 1 => some .retransmit
      | some 2 | some 3 => some .trackRequest
      | some 4 => some .trackRejection
      | some 5 => some .closeSession
      | _ => none
  | .ack | .handshakeAck | .keepAlive => none

/-- The packets that the constructors make.  `BufferId::new` refuses the id 0. -/
inductive Created : Packet → Prop
  | hello (opts : Options) (proposedSessionId : SessionId) (handshakeId : HandshakeId)
      (publicKey : PublicKey) (appId : AppId) (now : Timestamp) :
      Created (hello (HelloPacket.new opts proposedSessionId handshakeId publicKey appId now))
  | requestTrack (opts : Options) (sessionId : SessionId) (payload : List UInt8)
      (now : Timestamp) :
      Created (trackRequest (TrackRequestPacket.requestTrack opts sessionId payload now))
  | requestMetadata (opts : Options) (sessionId : SessionId) (payload : List UInt8)
      (now : Timestamp) :
      Created (trackRequest (TrackRequestPacket.requestMetadata opts sessionId payload now))
  | data (opts : Options) (batchId : BatchId) (fecInfo : FecInfo) (sessionId : SessionId)
      (byteRangeStart : BytePosition) (payload : List UInt8) (now : Timestamp) :
      Created (data (DataPacket.new opts batchId fecInfo sessionId byteRangeStart payload now))
  | metadata (opts : Options) (batchId : BatchId) (fecInfo : FecInfo) (sessionId : SessionId)
      (bufferId : BufferId) (bufferSize : BufferSize) (position : BytePosition)
      (payload : List UInt8) (now : Timestamp) :
      Created (metadata (MetadataPacket.new opts batchId fecInfo sessionId bufferId bufferSize
        position payload now))
  | parity (opts : Options) (batchId : BatchId) (fecInfo : FecInfo) (sessionId : SessionId)
      (payload : List UInt8) (now : Timestamp) :
      Created (parity (ParityPacket.new opts batchId fecInfo sessionId payload now))
  | retransmitData (opts : Options) (sessionId : SessionId) (payload : List ByteRange)
      (now : Timestamp) :
      Created (retransmit (RetransmitPacket.data opts sessionId payload now))
  | retransmitMetadata (opts : Options) (sessionId : SessionId) (bufferId : BufferId)
      (nonzero : bufferId.id ≠ 0) (payload : List ByteRange) (now : Timestamp) :
      Created (retransmit (RetransmitPacket.metadata opts sessionId bufferId payload now))
  | playbackControl (opts : Options) (sessionId : SessionId) (playbackType : PlaybackControlType)
      (seekPos : Option BytePosition) (now : Timestamp) :
      Created (playbackControl (PlaybackControlPacket.new opts sessionId playbackType seekPos now))
  | unexpectedPacketError (opts : Options) (sessionId : SessionId)
      (receivedPacketType : PacketType) (receivedSecondaryType : SecondaryType)
      (receivedFingerprint : PacketFingerprint) (now : Timestamp) :
      Created (unexpectedPacketError (UnexpectedPacketErrorPacket.new opts sessionId
        receivedPacketType receivedSecondaryType receivedFingerprint now))
  | trackRejection (opts : Options) (sessionId : SessionId) (trackId : List UInt8)
      (now : Timestamp) :
      Created (trackRejection (TrackRejectionPacket.new opts sessionId trackId now))
  | closeSession (opts : Options) (sessionId : SessionId) (now : Timestamp) :
      Created (closeSession (CloseSessionPacket.new opts sessionId now))

/-- What the headers of a created packet show: its kind, and a buffer id where there is one. -/
structure WellFormed (packet : Packet) : Prop where
  kind : kindOf packet.packetType packet.furtherHeaders.head? = some packet.kind
  bufferId : ∀ inner, packet = retransmit inner → inner.bufferId ≠ some ⟨0⟩

theorem head_serialize_controlType (type : ControlType) (rest : List UInt8) :
    (serialize type ++ rest).head? = some (UInt8.ofNat type.repr) := by
  cases type with
  | host type => cases type <;> rfl
  | session type => cases type <;> rfl
  | playback type => cases type <;> rfl

theorem Created.wellFormed {packet : Packet} (created : Created packet) : packet.WellFormed := by
  cases created with
  | retransmitMetadata opts sessionId bufferId nonzero payload now =>
      refine ⟨?_, ?_⟩
      · simp only [furtherHeaders, head_serialize_controlType]
        rfl
      · intro inner same zero
        cases same
        exact nonzero (congrArg BufferId.id (Option.some.inj zero))
  | retransmitData opts sessionId payload now =>
      refine ⟨?_, ?_⟩
      · simp only [furtherHeaders, head_serialize_controlType]
        rfl
      · intro inner same zero
        cases same
        cases zero
  | requestTrack | requestMetadata | trackRejection | closeSession =>
      refine ⟨?_, fun inner same => nomatch same⟩
      simp only [furtherHeaders, head_serialize_controlType]
      rfl
  | _ => exact ⟨rfl, fun inner same => nomatch same⟩

theorem serializeBufferId_append_inj {left right : Option BufferId}
    {leftRest rightRest : List UInt8} (leftPresent : left ≠ some ⟨0⟩)
    (rightPresent : right ≠ some ⟨0⟩)
    (same : serializeBufferId left ++ leftRest = serializeBufferId right ++ rightRest) :
    left = right ∧ leftRest = rightRest := by
  obtain ⟨ids, rests⟩ := append_inj.mp same
  refine ⟨?_, rests⟩
  cases left with
  | none =>
      cases right with
      | none => rfl
      | some right => exact absurd (congrArg some ids).symm rightPresent
  | some left =>
      cases right with
      | none => exact absurd (congrArg some ids) leftPresent
      | some right => exact congrArg some ids

/-- The further headers determine the packet up to its payload, once the kind and the first
fields are known. -/
theorem withoutPayload_eq {left right : Packet} (leftFormed : left.WellFormed)
    (rightFormed : right.WellFormed) (kinds : left.kind = right.kind)
    (versions : left.version = right.version) (options : left.opts = right.opts)
    (types : left.packetType = right.packetType)
    (further : left.furtherHeaders = right.furtherHeaders) :
    left.withoutPayload = right.withoutPayload := by
  cases left with
  | hello left =>
      cases right with
      | hello right =>
          simp only [furtherHeaders, append_inj] at further
          obtain ⟨control, -, session, handshake, timestamp, key, app⟩ := further
          exact congrArg hello (HelloPacket.ext versions options types control rfl session
            handshake timestamp key (AppId.ext app))
      | _ => cases kinds
  | trackRequest left =>
      cases right with
      | trackRequest right =>
          simp only [furtherHeaders, append_inj, injective.eq_iff] at further
          obtain ⟨control, -, session, timestamp⟩ := further
          exact congrArg trackRequest (TrackRequestPacket.ext versions options types control
            rfl session timestamp rfl)
      | _ => cases kinds
  | data left =>
      cases right with
      | data right =>
          simp only [furtherHeaders, append_inj, injective.eq_iff] at further
          obtain ⟨batch, info, session, timestamp, start⟩ := further
          exact congrArg data (DataPacket.ext versions options types batch info session timestamp
            start rfl)
      | _ => cases kinds
  | metadata left =>
      cases right with
      | metadata right =>
          simp only [furtherHeaders, append_inj, injective.eq_iff] at further
          obtain ⟨batch, info, session, timestamp, buffer, size, position⟩ := further
          exact congrArg metadata (MetadataPacket.ext versions options types batch info session
            timestamp buffer size position rfl)
      | _ => cases kinds
  | parity left =>
      cases right with
      | parity right =>
          simp only [furtherHeaders, append_inj, injective.eq_iff] at further
          obtain ⟨batch, info, session, timestamp⟩ := further
          exact congrArg parity (ParityPacket.ext versions options types batch info session
            timestamp rfl)
      | _ => cases kinds
  | retransmit left =>
      cases right with
      | retransmit right =>
          simp only [furtherHeaders, append_inj] at further
          obtain ⟨control, further⟩ := further
          obtain ⟨buffer, further⟩ := serializeBufferId_append_inj (leftFormed.bufferId left rfl)
            (rightFormed.bufferId right rfl) further
          simp only [append_inj, injective.eq_iff] at further
          obtain ⟨session, timestamp⟩ := further
          exact congrArg retransmit (RetransmitPacket.ext versions options types control buffer
            session timestamp rfl)
      | _ => cases kinds
  | playbackControl left =>
      cases right with
      | playbackControl right =>
          simp only [furtherHeaders, append_inj, injective.eq_iff] at further
          obtain ⟨control, -, session, timestamp, seek⟩ := further
          exact congrArg playbackControl (PlaybackControlPacket.ext versions options types control
            rfl session timestamp seek)
      | _ => cases kinds
  | unexpectedPacketError left =>
      cases right with
      | unexpectedPacketError right =>
          simp only [furtherHeaders, append_inj, injective.eq_iff] at further
          obtain ⟨error, -, session, timestamp, type, secondary, fingerprint⟩ := further
          exact congrArg unexpectedPacketError (UnexpectedPacketErrorPacket.ext versions options
            types error rfl session timestamp type secondary fingerprint)
      | _ => cases kinds
  | trackRejection left =>
      cases right with
      | trackRejection right =>
          simp only [furtherHeaders, append_inj, injective.eq_iff] at further
          obtain ⟨control, -, session, timestamp⟩ := further
          exact congrArg trackRejection (TrackRejectionPacket.ext versions options types control
            rfl session timestamp rfl)
      | _ => cases kinds
  | closeSession left =>
      cases right with
      | closeSession right =>
          simp only [furtherHeaders, append_inj, injective.eq_iff] at further
          obtain ⟨control, -, session, timestamp⟩ := further
          exact congrArg closeSession (CloseSessionPacket.ext versions options types control
            rfl session timestamp)
      | _ => cases kinds

@[simp] theorem headers_withoutPayload (packet : Packet) :
    packet.withoutPayload.headers = packet.headers := by
  cases packet <;> rfl

theorem headers_inj {left right : Packet} (leftFormed : left.WellFormed)
    (rightFormed : right.WellFormed) :
    left.headers = right.headers ↔ left.withoutPayload = right.withoutPayload := by
  constructor
  · intro same
    simp only [headers, append_inj] at same
    obtain ⟨versions, options, types, further⟩ := same
    have kinds : some left.kind = some right.kind := by
      rw [← leftFormed.kind, ← rightFormed.kind, types, further]
    exact withoutPayload_eq leftFormed rightFormed (Option.some.inj kinds) versions options types
      further
  · intro same
    rw [← headers_withoutPayload left, ← headers_withoutPayload right, same]

end Packet
end Ubass

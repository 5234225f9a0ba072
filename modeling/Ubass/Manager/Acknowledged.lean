import Ubass.Manager.HandleMessage
import Ubass.Processor.RoundTrip

/-!
# Acknowledgements

A packet that `add_ack!` registers waits in `PendingAckWindow` under its
fingerprint until an `AckPacket` with that fingerprint comes back.  On the other
host two routines send one: that of a data packet and that of a retransmit request.
-/

set_option autoImplicit false

namespace Ubass

universe u

variable {Key : Type u} {keyExchange : KeyExchange Key}

/-! ## Registering and sending -/

/-- `PacketFingerprint::try_from` -/
def WirePacket.fingerprint (xxh3_128 : List UInt8 → PacketFingerprint) :
    WirePacket → Option PacketFingerprint
  | keyed packet => some (packet.fingerprint xxh3_128)
  | _ => none

/-- `inner_add`.  A packet without a fingerprint is not kept; debug builds panic. -/
def PendingAckWindow.add (xxh3_128 : List UInt8 → PacketFingerprint) (self : PendingAckWindow)
    (packet : WirePacket) (now : Timestamp) : PendingAckWindow :=
  match packet with
  | .keyed packet => self.innerAdd xxh3_128 packet now
  | _ => self

/-- What the outbound path is handed for a registered packet: the packet the first time, and at
every retry what the window keeps under its fingerprint. -/
inductive Transmission (xxh3_128 : List UInt8 → PacketFingerprint) (pending : PendingAckWindow)
    (packet : WirePacket) : WirePacket → Prop
  | first : Transmission xxh3_128 pending packet packet
  | retry {fingerprint : PacketFingerprint} {kept : Packet}
      (filed : packet.fingerprint xxh3_128 = some fingerprint)
      (found : pending.pending.get fingerprint = some kept) :
      Transmission xxh3_128 pending packet (.keyed kept)

theorem WirePacket.addAck_of_registered {packet : WirePacket}
    (registered : packet.addAck.2 = true) : packet.addAck.1 = packet := by
  cases packet with
  | keyed packet => exact congrArg keyed (Packet.addAck_of_registered registered)
  | sessionDoesNotExistError packet =>
      exact congrArg sessionDoesNotExistError (by rw [Options.addAck_of_registered registered])
  | _ => cases registered

theorem Transmission.addAck {xxh3_128 : List UInt8 → PacketFingerprint}
    {pending : PendingAckWindow} {packet sent : WirePacket} {now : Timestamp}
    (registered : packet.addAck.2 = true)
    (transmission : Transmission xxh3_128 (pending.add xxh3_128 packet now) packet sent) :
    sent.addAck.1 = packet := by
  cases transmission with
  | first => exact WirePacket.addAck_of_registered registered
  | retry filed found =>
      cases packet with
      | keyed packet =>
          cases filed
          rw [PendingAckWindow.add, PendingAckWindow.innerAdd, Table.get_insert_self] at found
          cases found
          exact congrArg WirePacket.keyed
            (congrArg Prod.fst (Packet.addAck_markResend registered))
      | _ => cases filed

/-- The outbound path looks at what `add_ack!` leaves of a packet. -/
theorem Outbound.handlePacket_eq {aead : Aead Key} {sender : EncryptionTable Key}
    {packet sent : WirePacket} {addr : SocketAddr} (registered : packet.addAck.2 = true)
    (same : sent.addAck.1 = packet) :
    Outbound.handlePacket aead sender sent addr =
      Outbound.handlePacket aead sender packet addr := by
  rw [Outbound.handlePacket, Outbound.handlePacket, same,
    WirePacket.addAck_of_registered registered]

/-! ## The routines that acknowledge -/

/-- The kinds whose routines call `received_packet_that_requires_ack`. -/
def WirePacket.isAcknowledged : WirePacket → Bool
  | keyed (.data _) | keyed (.retransmit _) => true
  | _ => false

def WirePacket.isAck : WirePacket → Bool
  | ack _ => true
  | _ => false

namespace ManagerState

variable {xxh3_128 : List UInt8 → PacketFingerprint}
  {inputs : HandlerInputs keyExchange.Secret} {state : ManagerState keyExchange}

def SendsNoAck (reply : Reply keyExchange) : Prop :=
  ∀ packet addr, (packet, addr) ∈ reply.sent → packet.isAck = false

theorem sendsNoAck_of_sent_eq_nil {reply : Reply keyExchange} (quiet : reply.sent = []) :
    SendsNoAck reply := by
  intro packet addr listed
  rw [quiet] at listed
  cases listed

theorem wire_isAck (packet : StreamPacket) : packet.wire.isAck = false := by
  cases packet <;> rfl

theorem failedToDerefBuffer_sent (sessionId : SessionId) :
    (state.failedToDerefBuffer sessionId).sent = [] := by
  rw [failedToDerefBuffer]
  split <;> rfl

theorem notifyAndCloseSession_sent (sessionId : SessionId) :
    (state.notifyAndCloseSession sessionId).sent = [] := by
  rw [notifyAndCloseSession]
  split <;> rfl

theorem receivedParityPacket_sendsNoAck (packet : ParityPacket) :
    SendsNoAck (state.receivedParityPacket xxh3_128 inputs packet) := by
  have wired : ∀ (handled : List (StreamPacket × SocketAddr)) packet addr,
      (packet, addr) ∈ handled.map (fun sent => (sent.1.wire, sent.2)) →
        packet.isAck = false := by
    intro handled packet addr listed
    obtain ⟨sent, -, same⟩ := List.mem_map.mp listed
    cases same
    exact wire_isAck sent.1
  intro sent addr listed
  rw [receivedParityPacket] at listed
  split at listed
  · dsimp only at listed
    split at listed
    · rw [failedToDerefBuffer_sent] at listed
      cases listed
    · rcases List.mem_append.mp listed with listed | listed
      · exact wired _ _ _ listed
      · cases List.mem_singleton.mp listed
        rfl
    · exact wired _ _ _ listed
    · exact wired _ _ _ listed
  · cases listed
  · cases listed

theorem receivedHelloPacket_sendsNoAck (packet : HelloPacket) (srcAddr : SocketAddr) :
    SendsNoAck (state.receivedHelloPacket inputs packet srcAddr) := by
  intro sent addr listed
  rw [receivedHelloPacket] at listed
  split at listed
  · rw [receivedHelloPacketAsInitializer] at listed
    split at listed
    · rw [sessionIdCollided] at listed
      split at listed
      · cases List.mem_singleton.mp listed
        rfl
      · rcases List.mem_cons.mp listed with same | listed
        · cases same
          rfl
        · cases List.mem_singleton.mp listed
          rfl
    · dsimp only at listed
      split at listed
      · cases listed
      · cases List.mem_singleton.mp listed
        rfl
  · rw [receivedHelloPacketAsReceiver] at listed
    split at listed
    · cases List.mem_singleton.mp listed
      rfl
    · cases List.mem_singleton.mp listed
      rfl

theorem receivedPlaybackControlPacket_sent (packet : PlaybackControlPacket) :
    (state.receivedPlaybackControlPacket packet).sent = [] := by
  have closed : ∀ sessionId, (state.closeStream sessionId).sent = [] := by
    intro sessionId
    rw [closeStream]
    split <;> rfl
  rw [receivedPlaybackControlPacket]
  split
  · exact closed _
  all_goals
    split <;> rfl

theorem handleMessage_sendsNoAck {packet : WirePacket} {addr : SocketAddr}
    (other : packet.isAcknowledged = false) :
    SendsNoAck (state.handleMessage xxh3_128 inputs packet addr) := by
  cases packet with
  | keyed packet =>
      cases packet with
      | hello packet => exact receivedHelloPacket_sendsNoAck packet addr
      | data packet => cases other
      | retransmit packet => cases other
      | parity packet => exact receivedParityPacket_sendsNoAck packet
      | closeSession packet =>
          exact sendsNoAck_of_sent_eq_nil (notifyAndCloseSession_sent packet.sessionId)
      | playbackControl packet =>
          exact sendsNoAck_of_sent_eq_nil (receivedPlaybackControlPacket_sent packet)
      | trackRequest packet =>
          apply sendsNoAck_of_sent_eq_nil
          rw [handleMessage, receivedTrackRequestPacket]
          split <;> rfl
      | trackRejection packet =>
          apply sendsNoAck_of_sent_eq_nil
          rw [handleMessage, receivedTrackRejectPacket]
          split <;> rfl
      | metadata packet => exact sendsNoAck_of_sent_eq_nil rfl
      | unexpectedPacketError packet => exact sendsNoAck_of_sent_eq_nil rfl
  | keepAlive packet =>
      apply sendsNoAck_of_sent_eq_nil
      rw [handleMessage, receivedKeepAlivePacket]
      split <;> rfl
  | sessionDoesNotExistError packet =>
      exact sendsNoAck_of_sent_eq_nil (notifyAndCloseSession_sent packet.sessionId)
  | ack packet => exact sendsNoAck_of_sent_eq_nil rfl
  | handshakeAck packet => exact sendsNoAck_of_sent_eq_nil rfl
  | incompatibleVersion packet => exact sendsNoAck_of_sent_eq_nil rfl
  | handshakeRejection packet => exact sendsNoAck_of_sent_eq_nil rfl

/-- A data packet of an established session that requires it is acknowledged, whatever else the
routine does. -/
theorem receivedDataPacket_acknowledges {packet : DataPacket} {session : EstablishedState}
    (requires : packet.opts.contains .requireAck = true)
    (established : state.protocol.connections.get packet.sessionId = some (.established session)) :
    (WirePacket.ack (AckPacket.new Options.none packet.sessionId
        ((Packet.data packet).fingerprint xxh3_128) (inputs.clock 0)), session.address) ∈
      (state.receivedDataPacket xxh3_128 inputs packet).sent := by
  have acks : (if packet.opts.contains .requireAck then
      receivedPacketThatRequiresAck state.protocol.connections packet.sessionId
        ((Packet.data packet).fingerprint xxh3_128) (inputs.clock 0) else []) =
      [(WirePacket.ack (AckPacket.new Options.none packet.sessionId
        ((Packet.data packet).fingerprint xxh3_128) (inputs.clock 0)), session.address)] := by
    rw [if_pos requires, receivedPacketThatRequiresAck, established]
  rw [receivedDataPacket, established]
  dsimp only
  rw [acks]
  split <;> simp

theorem receivedRetransmitRequest_acknowledges {packet : RetransmitPacket}
    {session : EstablishedState} (requires : packet.opts.contains .requireAck = true)
    (established : state.protocol.connections.get packet.sessionId = some (.established session)) :
    (WirePacket.ack (AckPacket.new Options.none packet.sessionId
        ((Packet.retransmit packet).fingerprint xxh3_128) (inputs.clock 0)), session.address) ∈
      (state.receivedRetransmitRequest xxh3_128 inputs packet).sent := by
  have acks : (if packet.opts.contains .requireAck then
      receivedPacketThatRequiresAck state.protocol.connections packet.sessionId
        ((Packet.retransmit packet).fingerprint xxh3_128) (inputs.clock 0) else []) =
      [(WirePacket.ack (AckPacket.new Options.none packet.sessionId
        ((Packet.retransmit packet).fingerprint xxh3_128) (inputs.clock 0)),
          session.address)] := by
    rw [if_pos requires, receivedPacketThatRequiresAck, established]
  rw [receivedRetransmitRequest, acks]
  dsimp only
  split <;> simp

end ManagerState

/-! ## What arrives of a registered packet -/

namespace Inbound

open Serialize

variable {aead : Aead Key} {xxh3_128 : List UInt8 → PacketFingerprint} {debugAssertions : Bool}
  {sender receiver : EncryptionTable Key} {now : Timestamp} {window : FingerprintWindow}
  {srcAddr : SocketAddr}

theorem isAcknowledged_replaceAddress (packet : WirePacket) :
    (packet.replaceAddress srcAddr).isAcknowledged = packet.isAcknowledged := by
  cases packet <;> rfl

theorem controlPacket_unacknowledged {data : List UInt8} {sessionId : SessionId}
    {control : ControlType}
    (controlRead : (@Parser.field ControlType _).parseFrom data 5 = .ok control)
    (other : control ≠ .session .retransmit) :
    (deserializeAndAuthControlPacket aead xxh3_128 debugAssertions receiver now data
      sessionId).Yields fun packet => packet.isAcknowledged = false := by
  rw [deserializeAndAuthControlPacket, Handler.lift_bind controlRead]
  match control with
  | .host .hello =>
      apply Handler.yields_bind
      intro packet
      apply Handler.yields_bind
      intro _
      exact Handler.yields_pure rfl
  | .host .handshakeReject =>
      apply Handler.yields_bind
      intro packet
      exact Handler.yields_pure rfl
  | .session .retransmit => exact absurd rfl other
  | .session .trackRequest | .session .trackReject =>
      apply Handler.yields_bind
      intro packet
      apply Handler.yields_bind
      intro plain
      apply Handler.yields_bind
      intro _
      exact Handler.yields_pure rfl
  | .session .metadataRequest => exact fun _ _ returned => nomatch returned
  | .session .close | .playback _ =>
      apply Handler.yields_bind
      intro stripped
      apply Handler.yields_bind
      intro _
      apply Handler.yields_bind
      intro packet
      exact Handler.yields_pure rfl

theorem errorPacket_unacknowledged {data : List UInt8} {sessionId : SessionId} :
    (deserializeAndAuthErrorPacket aead xxh3_128 receiver now data sessionId).Yields
      fun packet => packet.isAcknowledged = false := by
  apply Handler.yields_bind
  intro errorType
  cases errorType <;>
  · apply Handler.yields_bind
    intro stripped
    apply Handler.yields_bind
    intro _
    apply Handler.yields_bind
    intro packet
    exact Handler.yields_pure rfl

theorem unacknowledged_of_body {opts : Options} {type : PacketType} {rest data : List UInt8}
    (starts : data = serialize Version.currentVersion ++ (serialize opts ++
      (serialize type ++ rest)))
    (body : (deserializeAndDecrypt aead xxh3_128 debugAssertions receiver now type data).Yields
      fun packet => packet.isAcknowledged = false)
    {received : WirePacket} {addr : SocketAddr} {after : FingerprintWindow}
    (returned : handlePacket aead xxh3_128 debugAssertions receiver now srcAddr data window =
      (.ok (.packet received addr), after)) :
    received.isAcknowledged = false := by
  rw [handlePacket_typed starts] at returned
  obtain ⟨packet, deserialized, wrapped⟩ := Handler.returns_bind.mp (congrArg Prod.fst returned)
  cases Handler.returns_pure.mp wrapped
  rw [isAcknowledged_replaceAddress]
  exact body _ _ deserialized

theorem unacknowledged_of_headers (control : ControlType) {packet : Packet} {type : PacketType}
    {further rest : List UInt8} (version : packet.version = Version.currentVersion)
    (packetType : packet.packetType = type) (isControl : type = .session ∨ type = .playback)
    (shape : packet.furtherHeaders = serialize control ++ further)
    (other : control ≠ .session .retransmit)
    {received : WirePacket} {addr : SocketAddr} {after : FingerprintWindow}
    (returned : handlePacket aead xxh3_128 debugAssertions receiver now srcAddr
      (packet.headers ++ rest) window = (.ok (.packet received addr), after)) :
    received.isAcknowledged = false := by
  refine unacknowledged_of_body (keyed_starts packet version packetType rest) ?_ returned
  have control := secondary_read_of_headers shape rest
  rcases isControl with rfl | rfl
  all_goals
    apply Handler.yields_bind
    intro sessionId
    exact controlPacket_unacknowledged control other

theorem processEncrypted_front (sender : EncryptionTable Key) (packet : Packet) :
    ∃ rest, (Outbound.processEncrypted aead sender packet).1 = packet.headers ++ rest := by
  rw [Outbound.processEncrypted]
  split
  · exact ⟨_, rfl⟩
  · exact ⟨_, rfl⟩

theorem unacknowledged_of_encrypted (control : ControlType) {packet : Packet} {type : PacketType}
    {further : List UInt8} (version : packet.version = Version.currentVersion)
    (packetType : packet.packetType = type) (isControl : type = .session ∨ type = .playback)
    (shape : packet.furtherHeaders = serialize control ++ further)
    (other : control ≠ .session .retransmit)
    {received : WirePacket} {addr : SocketAddr} {after : FingerprintWindow}
    (returned : handlePacket aead xxh3_128 debugAssertions receiver now srcAddr
      (Outbound.processEncrypted aead sender packet).1 window =
        (.ok (.packet received addr), after)) : received.isAcknowledged = false := by
  obtain ⟨rest, front⟩ := @processEncrypted_front Key aead sender packet
  rw [front] at returned
  exact unacknowledged_of_headers control version packetType isControl shape other returned

theorem received_unacknowledged {packet : WirePacket} (created : packet.Created)
    (registered : packet.addAck.2 = true) (other : packet.isAcknowledged = false)
    {addr : SocketAddr} {processed : ProcessedPacket} {table : EncryptionTable Key}
    (handed : Outbound.handlePacket aead sender packet addr = .ok (processed, table))
    {received : WirePacket} {after : FingerprintWindow}
    (returned : handlePacket aead xxh3_128 debugAssertions receiver now srcAddr processed.data
      window = (.ok (.packet received srcAddr), after)) :
    received.isAcknowledged = false := by
  have itself := WirePacket.addAck_of_registered registered
  rw [Outbound.handlePacket, itself] at handed
  cases created with
  | keyed created =>
      cases created with
      | data => cases other
      | retransmitData => cases other
      | retransmitMetadata => cases other
      | requestTrack opts sessionId payload now =>
          have data : (Outbound.processEncrypted aead sender
              (.trackRequest (TrackRequestPacket.requestTrack opts sessionId payload now))).1 =
            processed.data :=
            congrArg (fun result => result.1.data) (Except.ok.inj handed)
          rw [← data] at returned
          exact unacknowledged_of_encrypted (.session .trackRequest) rfl rfl (Or.inl rfl) rfl (by simp)
            returned
      | requestMetadata opts sessionId payload now =>
          have data : (Outbound.processEncrypted aead sender
              (.trackRequest (TrackRequestPacket.requestMetadata opts sessionId payload now))).1 =
            processed.data :=
            congrArg (fun result => result.1.data) (Except.ok.inj handed)
          rw [← data] at returned
          exact unacknowledged_of_encrypted (.session .metadataRequest) rfl rfl (Or.inl rfl) rfl (by simp)
            returned
      | trackRejection opts sessionId trackId now =>
          have data : (Outbound.processEncrypted aead sender
              (.trackRejection (TrackRejectionPacket.new opts sessionId trackId now))).1 =
            processed.data :=
            congrArg (fun result => result.1.data) (Except.ok.inj handed)
          rw [← data] at returned
          exact unacknowledged_of_encrypted (.session .trackReject) rfl rfl (Or.inl rfl) rfl (by simp)
            returned
      | playbackControl opts sessionId playbackType seekPos now =>
          have data : (Outbound.processAuthenticated aead sender (.keyed (.playbackControl
              (PlaybackControlPacket.new opts sessionId playbackType seekPos now)))
              sessionId).1 = processed.data :=
            congrArg (fun result => result.1.data) (Except.ok.inj handed)
          obtain ⟨rest, front⟩ := @processAuthenticated_front Key aead sender
            (.keyed (.playbackControl (PlaybackControlPacket.new opts sessionId playbackType
              seekPos now))) sessionId
          rw [← data, front, WirePacket.serialize, Packet.serialize,
            List.append_assoc] at returned
          exact unacknowledged_of_headers (.playback playbackType) rfl rfl (Or.inr rfl) rfl (by simp)
            returned
      | _ => cases registered
  | sessionDoesNotExistError opts sessionId now =>
      have data : (Outbound.processAuthenticated aead sender (.sessionDoesNotExistError
          (SessionDoesNotExistErrorPacket.new opts sessionId now)) sessionId).1 =
          processed.data :=
        congrArg (fun result => result.1.data) (Except.ok.inj handed)
      obtain ⟨rest, front⟩ := @processAuthenticated_front Key aead sender
        (.sessionDoesNotExistError (SessionDoesNotExistErrorPacket.new opts sessionId now)) sessionId
      rw [← data, front] at returned
      have starts : (SessionDoesNotExistErrorPacket.new opts sessionId now).serialize ++ rest =
          serialize Version.currentVersion ++ (serialize opts ++ (serialize PacketType.error ++
            (serialize ErrorType.sessionDoesNotExist ++ (serialize ({} : Reserved 2) ++
              (serialize sessionId ++ (serialize now ++ rest)))))) := by
        simp only [SessionDoesNotExistErrorPacket.serialize, SessionDoesNotExistErrorPacket.new,
          List.append_assoc]
      refine unacknowledged_of_body starts ?_ returned
      apply Handler.yields_bind
      intro sessionId
      exact errorPacket_unacknowledged
  | _ => cases registered

/-! ## What is dropped -/

/-- The ciphertext of an empty payload is shorter than `decrypt` expects. -/
theorem processEncrypted_empty {packet : Packet} (empty : packet.payload = []) :
    ∃ rest, (Outbound.processEncrypted aead sender packet).1 = packet.headers ++ rest ∧
      rest.length < 1 + 16 + 8 := by
  rw [Outbound.processEncrypted, encrypt, empty]
  cases sender.get packet.sessionId with
  | none =>
      refine ⟨[], ?_, by decide⟩
      exact congrArg (packet.headers ++ ·) empty
  | some window =>
      refine ⟨_, rfl, ?_⟩
      simp only [List.length_append, aead.length_encryptInPlace,
        List.length_nil, Bytes.length_beBytes]
      omega

theorem dropped_data {inner : DataPacket} (version : inner.version = Version.currentVersion)
    (packetType : inner.packetType = .data) (empty : inner.payload = []) :
    handlePacket aead xxh3_128 debugAssertions receiver now srcAddr
      (Outbound.processEncrypted aead sender (.data inner)).1 window =
        (.error .error, window) := by
  obtain ⟨rest, front, short⟩ := @processEncrypted_empty Key aead sender (.data inner) empty
  have refused : decrypt aead receiver inner.sessionId (Packet.data inner).headers rest =
      .error .error := by
    rw [decrypt, if_pos short]
  obtain ⟨sessionId, sessionRead⟩ := always_sessionId.field (show 16 = 8 + 8 by rfl)
    (show 16 ≤ ((Packet.data inner).headers ++ rest).length by
      rw [List.length_append, Packet.length_headers_data]
      omega)
  rw [front, handlePacket_typed (keyed_starts (.data inner) version packetType rest)]
  apply Handler.bind_of_error
  refine (Handler.lift_bind_apply (Parser.parseFrom_field_eq_ok.mpr sessionRead) window).trans ?_
  refine (Handler.lift_bind_apply (inner.readsToEnd rest).parse window).trans ?_
  exact congrFun (Handler.lift_bind_error refused) window

theorem parse_retransmit_empty {inner : RetransmitPacket} (empty : inner.payload = [])
    (present : inner.bufferId ≠ some ⟨0⟩) :
    RetransmitPacket.parser.parse (Packet.retransmit inner).serialize = .error .error := by
  apply Parser.FailsAtEnd.parse
  simp only [Packet.serialize, Packet.payload, Packet.headers, Packet.furtherHeaders,
    List.append_assoc]
  apply Parser.Reads.bindFails (Parser.reads_field inner.version)
  apply Parser.Reads.bindFails (Parser.reads_field inner.opts)
  apply Parser.Reads.bindFails (Parser.reads_field inner.packetType)
  apply Parser.Reads.bindFails (Parser.reads_field inner.controlType)
  apply Parser.Reads.bindFails (reads_bufferIdField present)
  apply Parser.Reads.bindFails (Parser.reads_field inner.sessionId)
  apply Parser.Reads.bindFails (Parser.reads_field inner.timestamp)
  apply Parser.FailsAtEnd.bind
  apply Parser.failsAtEnd_fieldWith
  rw [empty]
  rfl

theorem dropped_retransmit {inner : RetransmitPacket}
    (version : inner.version = Version.currentVersion) (packetType : inner.packetType = .session)
    (control : inner.controlType = .session .retransmit) (present : inner.bufferId ≠ some ⟨0⟩)
    (shares : SharesKey sender receiver inner.sessionId)
    (refused : inner.payload = [] ∨
      window.contains ((Packet.retransmit inner).fingerprint xxh3_128) = true) :
    (handlePacket aead xxh3_128 debugAssertions receiver now srcAddr
      (Outbound.processAuthenticated aead sender (.keyed (.retransmit inner)) inner.sessionId).1
      window).1 = .error .error := by
  obtain ⟨key, sent, received⟩ := shares
  obtain ⟨rest, after, invocation, made, authenticated⟩ :=
    @authenticate_tag Key aead _ _ _ key sent received (Packet.retransmit inner).serialize
  rw [@processAuthenticated_eq Key aead sender inner.sessionId (.keyed (.retransmit inner))
    _ _ _ made]
  have shape : (Packet.retransmit inner).serialize ++ rest =
      (Packet.retransmit inner).headers ++ ((Packet.retransmit inner).payload ++ rest) :=
    serialize_append _ _
  have sessionRead : (@Parser.field SessionId _).parseFrom
      ((Packet.retransmit inner).serialize ++ rest) 8 = .ok inner.sessionId := by
    rw [shape]
    exact session_read_of_headers rfl rfl _
  have controlRead : (@Parser.field ControlType _).parseFrom
      ((Packet.retransmit inner).serialize ++ rest) 5 = .ok (.session .retransmit) := by
    rw [shape, ← control]
    exact secondary_read_of_headers rfl _
  have stopped : (deserializeAndDecrypt aead xxh3_128 debugAssertions receiver now .session
      ((Packet.retransmit inner).serialize ++ rest) window) = (.error .error, window) := by
    refine (Handler.lift_bind_apply sessionRead window).trans ?_
    refine (Handler.lift_bind_apply controlRead window).trans ?_
    refine (Handler.lift_bind_apply authenticated window).trans ?_
    by_cases empty : inner.payload = []
    · exact congrFun (Handler.lift_bind_error (parse_retransmit_empty empty present)) window
    · have duplicate := refused.resolve_left empty
      refine (Handler.lift_bind_apply (RetransmitPacket.readsToEnd empty present).parse
        window).trans ?_
      apply Handler.bind_of_error
      rw [dedup, duplicate]
      rfl
  rw [shape] at stopped ⊢
  rw [handlePacket_typed (keyed_starts (.retransmit inner) version packetType _)]
  exact congrArg Prod.fst (Handler.bind_of_error stopped)

end Inbound

/-! ## From the sender and back -/

/-- The way of one datagram: the keys of the sender, and the receiver as the datagram finds it. -/
structure Delivery {Key : Type u} (keyExchange : KeyExchange Key) where
  aead : Aead Key
  xxh3_128 : List UInt8 → PacketFingerprint
  debugAssertions : Bool
  sender : EncryptionTable Key
  addr : SocketAddr
  srcAddr : SocketAddr
  now : Timestamp
  window : FingerprintWindow
  receiver : ManagerState keyExchange
  inputs : HandlerInputs keyExchange.Secret

namespace Delivery

variable (delivery : Delivery keyExchange)

/-- The transmission comes in, its routine sends an acknowledgement to the address of the session,
and the acknowledgement takes away what was stored for the packet. -/
def Acknowledged (pending : PendingAckWindow) (address : SocketAddr)
    (packet sent : WirePacket) : Prop :=
  ∃ fingerprint processed table received after ack,
    packet.fingerprint delivery.xxh3_128 = some fingerprint ∧
    pending.pending.contains fingerprint = true ∧
    Outbound.handlePacket delivery.aead delivery.sender sent delivery.addr =
      .ok (processed, table) ∧
    Inbound.handlePacket delivery.aead delivery.xxh3_128 delivery.debugAssertions
      delivery.receiver.protocol.encryption delivery.now delivery.srcAddr processed.data
      delivery.window = (.ok (.packet received delivery.srcAddr), after) ∧
    (.ack ack, address) ∈ (delivery.receiver.handleMessage delivery.xxh3_128 delivery.inputs
      received delivery.srcAddr).sent ∧
    ack.fingerprint = fingerprint ∧
    (pending.acknowledge ack.fingerprint).pending.contains fingerprint = false

/-- A data packet with a payload, or a retransmit request with ranges that the receiver has not
seen before. -/
inductive Answered (delivery : Delivery keyExchange) : WirePacket → Prop
  | data {packet : DataPacket} (nonempty : packet.payload ≠ []) :
      Answered delivery (.keyed (.data packet))
  | retransmit {packet : RetransmitPacket} (nonempty : packet.payload ≠ [])
      (new : delivery.window.contains
        ((Packet.retransmit packet).fingerprint delivery.xxh3_128) = false) :
      Answered delivery (.keyed (.retransmit packet))

variable {delivery : Delivery keyExchange}

theorem acknowledged_of_arrives {packet : Packet} {sent : WirePacket}
    {processed : ProcessedPacket} {table : EncryptionTable Key} {pending : PendingAckWindow}
    {time : Timestamp} {address : SocketAddr} {sessionId : SessionId}
    (handed : Outbound.handlePacket delivery.aead delivery.sender sent delivery.addr =
      .ok (processed, table))
    (arrives : Inbound.Arrives delivery.aead delivery.xxh3_128 delivery.debugAssertions
      delivery.receiver.protocol.encryption delivery.now delivery.srcAddr processed.data
      delivery.window (.keyed packet))
    (answered : (WirePacket.ack (AckPacket.new Options.none sessionId
        (packet.fingerprint delivery.xxh3_128) (delivery.inputs.clock 0)), address) ∈
      (delivery.receiver.handleMessage delivery.xxh3_128 delivery.inputs (.keyed packet)
        delivery.srcAddr).sent) :
    delivery.Acknowledged (pending.add delivery.xxh3_128 (.keyed packet) time) address
      (.keyed packet) sent := by
  obtain ⟨after, returned⟩ := arrives
  refine ⟨_, processed, table, _, after, _, rfl, ?_, handed, returned, answered, rfl, ?_⟩
  · rw [Table.contains, PendingAckWindow.add, PendingAckWindow.innerAdd, Table.get_insert_self]
    rfl
  · rw [Table.contains, PendingAckWindow.acknowledge]
    exact congrArg Option.isSome (Table.get_remove_self _ _)

theorem not_acknowledged {packet sent : WirePacket} {address : SocketAddr}
    {pending : PendingAckWindow} {time : Timestamp} (created : packet.Created)
    (registered : packet.addAck.2 = true) (other : packet.isAcknowledged = false)
    (transmission : Transmission delivery.xxh3_128
      (pending.add delivery.xxh3_128 packet time) packet sent) :
    ¬ delivery.Acknowledged (pending.add delivery.xxh3_128 packet time) address packet sent := by
  rintro ⟨_, processed, table, received, after, ack, -, -, handed, returned, listed, -, -⟩
  rw [Outbound.handlePacket_eq registered (transmission.addAck registered)] at handed
  have unacknowledged := Inbound.received_unacknowledged created registered other handed returned
  have quiet := ManagerState.handleMessage_sendsNoAck unacknowledged _ _ listed
  cases quiet

theorem acknowledged_data_iff {packet : DataPacket} {sent : WirePacket} {session : EstablishedState}
    {pending : PendingAckWindow} {time : Timestamp}
    (version : packet.version = Version.currentVersion) (packetType : packet.packetType = .data)
    (registered : packet.opts.addAck.2 = true)
    (established : delivery.receiver.protocol.connections.get packet.sessionId =
      some (.established session))
    (shares : Inbound.SharesKey delivery.sender delivery.receiver.protocol.encryption
      packet.sessionId)
    (transmission : Transmission delivery.xxh3_128
      (pending.add delivery.xxh3_128 (.keyed (.data packet)) time) (.keyed (.data packet)) sent) :
    delivery.Acknowledged (pending.add delivery.xxh3_128 (.keyed (.data packet)) time)
        session.address (.keyed (.data packet)) sent ↔ packet.payload ≠ [] := by
  have registeredPacket : (WirePacket.keyed (.data packet)).addAck.2 = true := registered
  have unmarked := transmission.addAck registeredPacket
  have hands : ∀ processed table,
      Outbound.handlePacket delivery.aead delivery.sender sent delivery.addr =
        .ok (processed, table) →
      (Outbound.processEncrypted delivery.aead delivery.sender (.data packet)).1 =
        processed.data := by
    intro processed table handed
    rw [Outbound.handlePacket, unmarked] at handed
    exact congrArg (fun result => result.1.data) (Except.ok.inj handed)
  constructor
  · rintro ⟨_, processed, table, received, after, ack, -, -, handed, returned, -⟩ empty
    have dropped := @Inbound.dropped_data Key delivery.aead delivery.xxh3_128
      delivery.debugAssertions delivery.sender delivery.receiver.protocol.encryption delivery.now
      delivery.window delivery.srcAddr packet version packetType empty
    rw [hands processed table handed] at dropped
    cases returned.symm.trans dropped
  · intro nonempty
    have handed : ∃ processed table,
        Outbound.handlePacket delivery.aead delivery.sender sent delivery.addr =
          .ok (processed, table) := by
      rw [Outbound.handlePacket, unmarked]
      exact ⟨_, _, rfl⟩
    obtain ⟨processed, table, handed⟩ := handed
    refine acknowledged_of_arrives handed ?_ (ManagerState.receivedDataPacket_acknowledges
      (Options.addAck_registered.mp registered).1 established)
    rw [← hands processed table handed]
    exact Inbound.arrives_data version packetType nonempty shares

theorem acknowledged_retransmit_iff {packet : RetransmitPacket} {sent : WirePacket}
    {session : EstablishedState} {pending : PendingAckWindow} {time : Timestamp}
    (version : packet.version = Version.currentVersion)
    (packetType : packet.packetType = .session)
    (control : packet.controlType = .session .retransmit) (present : packet.bufferId ≠ some ⟨0⟩)
    (registered : packet.opts.addAck.2 = true)
    (established : delivery.receiver.protocol.connections.get packet.sessionId =
      some (.established session))
    (shares : Inbound.SharesKey delivery.sender delivery.receiver.protocol.encryption
      packet.sessionId)
    (transmission : Transmission delivery.xxh3_128
      (pending.add delivery.xxh3_128 (.keyed (.retransmit packet)) time)
      (.keyed (.retransmit packet)) sent) :
    delivery.Acknowledged (pending.add delivery.xxh3_128 (.keyed (.retransmit packet)) time)
        session.address (.keyed (.retransmit packet)) sent ↔
      packet.payload ≠ [] ∧ delivery.window.contains
        ((Packet.retransmit packet).fingerprint delivery.xxh3_128) = false := by
  have registeredPacket : (WirePacket.keyed (.retransmit packet)).addAck.2 = true := registered
  have unmarked := transmission.addAck registeredPacket
  have hands : ∀ processed table,
      Outbound.handlePacket delivery.aead delivery.sender sent delivery.addr =
        .ok (processed, table) →
      (Outbound.processAuthenticated delivery.aead delivery.sender (.keyed (.retransmit packet))
        packet.sessionId).1 = processed.data := by
    intro processed table handed
    rw [Outbound.handlePacket, unmarked] at handed
    exact congrArg (fun result => result.1.data) (Except.ok.inj handed)
  constructor
  · rintro ⟨_, processed, table, received, after, ack, -, -, handed, returned, -⟩
    have accepted : ¬ (packet.payload = [] ∨ delivery.window.contains
        ((Packet.retransmit packet).fingerprint delivery.xxh3_128) = true) := by
      intro refused
      have dropped := @Inbound.dropped_retransmit Key delivery.aead delivery.xxh3_128
        delivery.debugAssertions delivery.sender delivery.receiver.protocol.encryption
        delivery.now delivery.window delivery.srcAddr packet version packetType control present
        shares refused
      rw [hands processed table handed] at dropped
      cases (congrArg Prod.fst returned).symm.trans dropped
    rw [not_or] at accepted
    exact ⟨accepted.1, Bool.eq_false_of_not_eq_true accepted.2⟩
  · rintro ⟨nonempty, new⟩
    have handed : ∃ processed table,
        Outbound.handlePacket delivery.aead delivery.sender sent delivery.addr =
          .ok (processed, table) := by
      rw [Outbound.handlePacket, unmarked]
      exact ⟨_, _, rfl⟩
    obtain ⟨processed, table, handed⟩ := handed
    refine acknowledged_of_arrives handed ?_
      (ManagerState.receivedRetransmitRequest_acknowledges
        (Options.addAck_registered.mp registered).1 established)
    rw [← hands processed table handed]
    exact Inbound.arrives_retransmit version packetType control nonempty present shares new

/-- A registered packet that reaches an established session is acknowledged under the fingerprint
it is stored under exactly when it is a data packet with a payload, or a retransmit request with
ranges that is not taken for a duplicate. -/
theorem acknowledged_iff (delivery : Delivery keyExchange) (pending : PendingAckWindow)
    (time : Timestamp) (packet sent : WirePacket) (sessionId : SessionId)
    (session : EstablishedState) (created : packet.Created)
    (registered : packet.addAck.2 = true) (keyed : packet.keyedBy = some sessionId)
    (established : delivery.receiver.protocol.connections.get sessionId =
      some (.established session))
    (shares : Inbound.SharesKey delivery.sender delivery.receiver.protocol.encryption sessionId)
    (transmission : Transmission delivery.xxh3_128
      (pending.add delivery.xxh3_128 packet time) packet sent) :
    delivery.Acknowledged (pending.add delivery.xxh3_128 packet time) session.address packet sent ↔
      delivery.Answered packet := by
  by_cases kind : packet.isAcknowledged = true
  · cases created with
    | keyed created =>
        cases created with
        | data =>
            cases keyed
            rw [acknowledged_data_iff rfl rfl registered established shares transmission]
            constructor
            · exact Answered.data
            · rintro ⟨nonempty⟩
              exact nonempty
        | retransmitData =>
            have present : (none : Option BufferId) ≠ some ⟨0⟩ := nofun
            cases keyed
            rw [acknowledged_retransmit_iff rfl rfl rfl present registered established shares
              transmission]
            constructor
            · rintro ⟨nonempty, new⟩
              exact Answered.retransmit nonempty new
            · rintro (_ | ⟨nonempty, new⟩)
              exact ⟨nonempty, new⟩
        | retransmitMetadata opts sessionId bufferId nonzero payload now =>
            have present : some bufferId ≠ some ⟨0⟩ := fun zero =>
              nonzero (congrArg BufferId.id (Option.some.inj zero))
            cases keyed
            rw [acknowledged_retransmit_iff rfl rfl rfl present registered established shares
              transmission]
            constructor
            · rintro ⟨nonempty, new⟩
              exact Answered.retransmit nonempty new
            · rintro (_ | ⟨nonempty, new⟩)
              exact ⟨nonempty, new⟩
        | _ => cases kind
    | _ => cases kind
  · have other := Bool.eq_false_of_not_eq_true kind
    refine iff_of_false (not_acknowledged created registered other transmission) ?_
    rintro (_ | _) <;> cases other

def sessionHost {Key : Type u} (keyExchange : KeyExchange Key) (key : Key) :
    ManagerState keyExchange where
  protocol := { ProtocolState.empty with
    connections := Table.empty.insert ⟨7⟩
      (.established ⟨⟨7⟩, .up, ⟨[127, 0, 0, 1], 80⟩, ⟨[]⟩⟩)
    encryption := Table.empty.insert ⟨7⟩ (EncryptionWindow.new key) }
  ack := PendingAckWindow.new

/-- The data packet with the payload `[1]` on its way to a host that has the same key; its hash is
the one of the headers of the packet. -/
def sampleDelivery : Delivery
    (⟨Unit, fun _ => ⟨List.replicate 32 0, rfl⟩, fun _ _ => dataPayload.key,
      fun _ _ => rfl⟩ : KeyExchange (List UInt8)) where
  aead := dataPayload.aead
  xxh3_128 := fun _ =>
    ⟨[147, 248, 236, 229, 5, 209, 34, 246, 167, 69, 17, 83, 251, 161, 11, 209], rfl⟩
  debugAssertions := true
  sender := Table.empty.insert ⟨7⟩ (EncryptionWindow.new dataPayload.key)
  addr := ⟨[127, 0, 0, 1], 81⟩
  srcAddr := ⟨[127, 0, 0, 1], 80⟩
  now := ⟨6, by decide⟩
  window := FingerprintWindow.new
  receiver := sessionHost _ dataPayload.key
  inputs := ⟨fun _ => ⟨6, by decide⟩, none, true, ⟨8⟩, (), ⟨1⟩, ⟨[]⟩⟩

theorem acknowledged_iff_data :
    let packet := WirePacket.keyed (.data (DataPacket.new (Options.construct [.requireAck]) ⟨1⟩
      ⟨1, 0, 0⟩ ⟨7⟩ (BytePosition.ofNat 0) [1] ⟨5, by decide⟩))
    sampleDelivery.Acknowledged
      (PendingAckWindow.new.add sampleDelivery.xxh3_128 packet ⟨5, by decide⟩)
      ⟨[127, 0, 0, 1], 80⟩ packet packet := by
  intro packet
  exact (acknowledged_iff sampleDelivery PendingAckWindow.new ⟨5, by decide⟩ packet packet ⟨7⟩
    ⟨⟨7⟩, .up, ⟨[127, 0, 0, 1], 80⟩, ⟨[]⟩⟩ (.keyed (.data _ _ _ _ _ _ _)) (by decide) rfl
    (Table.get_insert_self _ _ _)
    ⟨dataPayload.key, getCipher_insert_new _ _ _, getCipher_insert_new _ _ _⟩
    .first).mpr (.data (List.cons_ne_nil _ _))

/-- The tag of the packet that tells the sender of a stream that all of it has arrived. -/
def doneTag : KnownAnswer (List UInt8) where
  key := dataPayload.key
  nonce := List.replicate 12 0
  associatedData := (Packet.playbackControl (PlaybackControlPacket.done
    (Options.construct [.requireAck]) ⟨7⟩ ⟨5, Timestamp.five_lt⟩)).serialize
  plain := []
  cipher := [180, 80, 20, 103, 45, 43, 109, 26, 221, 21, 77, 24, 63, 220, 126, 163]
  length_cipher := rfl
  tag_ne := by decide

/-- The same packet between the same hosts; the hash is the one of its bytes. -/
def doneDelivery : Delivery
    (⟨Unit, fun _ => ⟨List.replicate 32 0, rfl⟩, fun _ _ => dataPayload.key,
      fun _ _ => rfl⟩ : KeyExchange (List UInt8)) :=
  { sampleDelivery with
    aead := doneTag.aead
    xxh3_128 := fun _ =>
      ⟨[120, 6, 26, 229, 100, 147, 179, 65, 198, 99, 6, 250, 27, 147, 113, 166], rfl⟩ }

/-- It requires an acknowledgement, is stored, and is never acknowledged. -/
theorem done_not_acknowledged :
    let packet := WirePacket.keyed (.playbackControl (PlaybackControlPacket.done
      (Options.construct [.requireAck]) ⟨7⟩ ⟨5, by decide⟩))
    let pending := PendingAckWindow.new.add doneDelivery.xxh3_128 packet ⟨5, by decide⟩
    packet.addAck.2 = true ∧
      (∃ fingerprint, packet.fingerprint doneDelivery.xxh3_128 = some fingerprint ∧
        pending.pending.contains fingerprint = true) ∧
      (∃ session, doneDelivery.receiver.protocol.connections.get ⟨7⟩ =
        some (.established session)) ∧
      Inbound.SharesKey doneDelivery.sender doneDelivery.receiver.protocol.encryption ⟨7⟩ ∧
      ∀ sent address, Transmission doneDelivery.xxh3_128 pending packet sent →
        ¬ doneDelivery.Acknowledged pending address packet sent := by
  intro packet pending
  have registered : packet.addAck.2 = true := by decide
  refine ⟨registered, ⟨_, rfl, ?_⟩, ⟨⟨⟨7⟩, .up, ⟨[127, 0, 0, 1], 80⟩, ⟨[]⟩⟩, ?_⟩,
    ⟨dataPayload.key, ?_, ?_⟩, ?_⟩
  · exact congrArg Option.isSome (Table.get_insert_self _ _ _)
  · exact Table.get_insert_self _ _ _
  · exact getCipher_insert_new _ _ _
  · exact getCipher_insert_new _ _ _
  · intro sent address transmission
    exact not_acknowledged (.keyed (.playbackControl _ _ _ _ _)) registered rfl transmission

end Delivery
end Ubass

import Ubass.Processor.Authenticity
import Ubass.Processor.Outbound

/-!
# From the outbound to the inbound path

A packet that goes through `outbound::handle_packet` and, on the other host,
through `inbound::handle_packet` arrives as it was sent.  One lemma per function
says what it gives back; the kinds are put together from them.
-/

set_option autoImplicit false

namespace Ubass

universe u

variable {Key : Type u}

/-! ## Encryption and tags -/

theorem getCipher_eq_some {table : EncryptionTable Key} {sessionId : SessionId} {key : Key} :
    table.getCipher sessionId = some key ↔
      ∃ window, table.get sessionId = some window ∧ window.cipher = key := by
  rw [EncryptionTable.getCipher, Option.map_eq_some_iff]

theorem getCipher_insert_new (table : EncryptionTable Key) (sessionId : SessionId) (key : Key) :
    EncryptionTable.getCipher (Table.insert table sessionId (EncryptionWindow.new key)) sessionId =
      some key :=
  getCipher_eq_some.mpr ⟨_, Table.get_insert_self table sessionId _, rfl⟩

variable {aead : Aead Key} {sender receiver : EncryptionTable Key} {sessionId : SessionId}

/-- What `encrypt` makes of a payload, `decrypt` turns back under the same key. -/
theorem decrypt_encrypt {key : Key} (sent : sender.getCipher sessionId = some key)
    (received : receiver.getCipher sessionId = some key) (headers : List UInt8)
    {payload : List UInt8} (nonempty : payload ≠ []) :
    ∃ encrypted after invocation,
      encrypt aead.encryptInPlace sender sessionId headers payload =
        some (encrypted, after, invocation) ∧
      Inbound.decrypt aead receiver sessionId headers encrypted = .ok payload := by
  obtain ⟨window, found, rfl⟩ := getCipher_eq_some.mp sent
  have made : encrypt aead.encryptInPlace sender sessionId headers payload = some
      (aead.encryptInPlace window.cipher (getNonce sessionId
        (Bytes.beBytes 8 window.nonce.toNat)) headers payload ++ Bytes.beBytes 8 window.nonce.toNat,
      sender.insert sessionId { window with nonce := window.nonce + 1 },
      ⟨window.cipher, getNonce sessionId (Bytes.beBytes 8 window.nonce.toNat)⟩) := by
    rw [encrypt, found]
    rfl
  refine ⟨_, _, _, made, ?_⟩
  have counter : (Bytes.beBytes 8 window.nonce.toNat).length = 8 := Bytes.length_beBytes 8 _
  have length := aead.length_encryptInPlace window.cipher (getNonce sessionId
    (Bytes.beBytes 8 window.nonce.toNat)) headers payload
  have decrypts := aead.decrypt_encrypt window.cipher (getNonce sessionId
    (Bytes.beBytes 8 window.nonce.toNat)) headers payload
  generalize aead.encryptInPlace window.cipher (getNonce sessionId
    (Bytes.beBytes 8 window.nonce.toNat)) headers payload = encrypted at length decrypts ⊢
  generalize Bytes.beBytes 8 window.nonce.toNat = bytes at counter decrypts ⊢
  have positive := List.length_pos_of_ne_nil nonempty
  have long : ¬ (encrypted ++ bytes).length < 1 + 16 + 8 := by
    rw [List.length_append, length, counter]
    omega
  have counterStart : (encrypted ++ bytes).length - 8 = encrypted.length := by
    rw [List.length_append, counter, Nat.add_sub_cancel]
  rw [Inbound.decrypt, if_neg long, received]
  dsimp only
  rw [counterStart, List.drop_left, List.take_left, decrypts]

/-- What `tag` makes of a packet, `authenticate` accepts under the same key. -/
theorem authenticate_tag {key : Key} (sent : sender.getCipher sessionId = some key)
    (received : receiver.getCipher sessionId = some key) (packet : List UInt8) :
    ∃ rest after invocation,
      tag aead.encryptInPlace sender sessionId packet = some (packet ++ rest, after, invocation) ∧
      Inbound.authenticate aead receiver sessionId (packet ++ rest) = .ok packet := by
  obtain ⟨window, found, rfl⟩ := getCipher_eq_some.mp sent
  have made : tag aead.encryptInPlace sender sessionId packet = some (packet ++
      (aead.encryptInPlace window.cipher (getNonce sessionId
        (Bytes.beBytes 8 window.nonce.toNat)) packet [] ++ Bytes.beBytes 8 window.nonce.toNat),
      sender.insert sessionId { window with nonce := window.nonce + 1 },
      ⟨window.cipher, getNonce sessionId (Bytes.beBytes 8 window.nonce.toNat)⟩) := by
    rw [tag, found]
    simp only [Option.map_some, EncryptionWindow.get, List.append_assoc]
  refine ⟨_, _, _, made, ?_⟩
  have counter : (Bytes.beBytes 8 window.nonce.toNat).length = 8 := Bytes.length_beBytes 8 _
  have length := aead.length_encryptInPlace window.cipher (getNonce sessionId
    (Bytes.beBytes 8 window.nonce.toNat)) packet []
  have verifies := aead.decrypt_encrypt window.cipher (getNonce sessionId
    (Bytes.beBytes 8 window.nonce.toNat)) packet []
  generalize aead.encryptInPlace window.cipher (getNonce sessionId
    (Bytes.beBytes 8 window.nonce.toNat)) packet [] = tagged at length verifies ⊢
  generalize Bytes.beBytes 8 window.nonce.toNat = bytes at counter verifies ⊢
  have front : (packet ++ tagged).length = (packet ++ (tagged ++ bytes)).length - 8 := by
    simp only [List.length_append, counter]
    omega
  have split : packet ++ (tagged ++ bytes) = (packet ++ tagged) ++ bytes :=
    (List.append_assoc _ _ _).symm
  have tagStart : (packet ++ tagged).length - 16 = packet.length := by
    rw [List.length_append, length, List.length_nil]
    omega
  rw [Inbound.authenticate, received]
  dsimp only
  rw [← front, split, List.drop_left, List.take_left, tagStart, List.drop_left, List.take_left,
    verifies, if_neg, if_neg]
  · rw [List.length_append, length]
    omega
  · rw [List.length_append, counter]
    omega

/-! ## Dispatch -/

namespace Inbound

open Serialize

variable {xxh3_128 : List UInt8 → PacketFingerprint} {debugAssertions : Bool} {now : Timestamp}
  {window : FingerprintWindow}

theorem type_read (version : Version) (opts : Options) (type : PacketType) (rest : List UInt8) :
    (@Parser.field PacketType _).parseFrom
      (serialize version ++ (serialize opts ++ (serialize type ++ rest))) 4 = .ok type := by
  have read := (Parser.reads_field type).parseFrom (serialize version ++ serialize opts) rest
  rw [List.append_assoc] at read
  exact read

/-- The byte after the packet type: of a control packet its control type, of an error its type. -/
theorem secondary_read {Value : Type} [Deserialize Value] {value : Value}
    (reads : Parser.Reads Parser.field (serialize value) value) (version : Version)
    (opts : Options) (type : PacketType) (rest : List UInt8) :
    (@Parser.field Value _).parseFrom
      (serialize version ++ (serialize opts ++ (serialize type ++ (serialize value ++ rest))))
      5 = .ok value := by
  have read := reads.parseFrom
    (serialize version ++ (serialize opts ++ serialize type)) rest
  simp only [List.append_assoc] at read
  exact read

theorem session_read (version : Version) (opts : Options) (type : PacketType)
    (first second : List UInt8) (three : first.length + second.length = 3)
    (sessionId : SessionId) (rest : List UInt8) :
    (@Parser.field SessionId _).parseFrom
      (serialize version ++ (serialize opts ++ (serialize type ++ (first ++ (second ++
        (serialize sessionId ++ rest)))))) 8 = .ok sessionId := by
  have length : (serialize version ++ (serialize opts ++ (serialize type ++ (first ++
      second)))).length = 8 := by
    simp only [List.length_append, length_serialize, three]
    rfl
  have read := (Parser.reads_field sessionId).parseFrom
    (serialize version ++ (serialize opts ++ (serialize type ++ (first ++ second)))) rest
  rw [length] at read
  simp only [List.append_assoc] at read
  exact read

theorem secondary_read_of_headers {Value : Type} [LawfulDeserialize Value] {packet : Packet}
    {value : Value} {further : List UInt8} (shape : packet.furtherHeaders = serialize value ++ further)
    (rest : List UInt8) :
    (@Parser.field Value _).parseFrom (packet.headers ++ rest) 5 = .ok value := by
  rw [Packet.headers, shape]
  simp only [List.append_assoc]
  exact secondary_read (Parser.reads_field value) _ _ _ _

theorem session_read_of_headers {packet : Packet} {first second further : List UInt8}
    {sessionId : SessionId}
    (shape : packet.furtherHeaders = first ++ (second ++ (serialize sessionId ++ further)))
    (three : first.length + second.length = 3) (rest : List UInt8) :
    (@Parser.field SessionId _).parseFrom (packet.headers ++ rest) 8 = .ok sessionId := by
  rw [Packet.headers, shape]
  simp only [List.append_assoc]
  exact session_read _ _ _ _ _ three _ _

theorem serialize_append (packet : Packet) (rest : List UInt8) :
    packet.serialize ++ rest = packet.headers ++ (packet.payload ++ rest) :=
  List.append_assoc _ _ _

def Arrives (aead : Aead Key) (xxh3_128 : List UInt8 → PacketFingerprint) (debugAssertions : Bool)
    (table : EncryptionTable Key) (now : Timestamp) (srcAddr : SocketAddr) (data : List UInt8)
    (window : FingerprintWindow) (packet : WirePacket) : Prop :=
  ∃ after, handlePacket aead xxh3_128 debugAssertions table now srcAddr data window =
    (.ok (.packet (packet.replaceAddress srcAddr) srcAddr), after)

/-- What `handle_packet` does with a packet of this version. -/
theorem handlePacket_typed {srcAddr : SocketAddr} {opts : Options} {type : PacketType}
    {rest data : List UInt8}
    (starts : data = serialize Version.currentVersion ++ (serialize opts ++
      (serialize type ++ rest))) :
    handlePacket aead xxh3_128 debugAssertions receiver now srcAddr data = do
      let packet ← deserializeAndDecrypt aead xxh3_128 debugAssertions receiver now type data
      return .packet (packet.replaceAddress srcAddr) srcAddr := by
  have versionRead : (@Parser.field Version _).parse data = .ok Version.currentVersion := by
    rw [starts]
    exact (Parser.reads_field Version.currentVersion).parse _
  have typeRead : (@Parser.field PacketType _).parseFrom data 4 = .ok type := by
    rw [starts]
    exact type_read _ opts type rest
  rw [handlePacket, Handler.lift_bind versionRead]
  show (Handler.lift (Parser.parseFrom Parser.field data 4) >>= _ : Handler _ _) = _
  rw [Handler.lift_bind typeRead]

theorem arrives_of_deserialized {srcAddr : SocketAddr} {opts : Options} {type : PacketType}
    {rest data : List UInt8} {packet : WirePacket} {after : FingerprintWindow}
    (starts : data = serialize Version.currentVersion ++ (serialize opts ++
      (serialize type ++ rest)))
    (deserialized : deserializeAndDecrypt aead xxh3_128 debugAssertions receiver now type data
      window = (.ok packet, after)) :
    Arrives aead xxh3_128 debugAssertions receiver now srcAddr data window packet := by
  refine ⟨after, ?_⟩
  rw [handlePacket_typed starts]
  exact Handler.bind_of_eq deserialized

theorem dedup_of_new {fingerprint : PacketFingerprint} (new : window.contains fingerprint = false) :
    dedup now fingerprint window = (.ok (), (window.add fingerprint now).1) := by
  rw [dedup, new]
  rfl

/-! ## Encrypted kinds -/

theorem receive_data {inner : DataPacket} {encrypted plain : List UInt8}
    (decrypted : decrypt aead receiver inner.sessionId (Packet.data inner).headers encrypted =
      .ok plain) :
    deserializeAndDecrypt aead xxh3_128 debugAssertions receiver now .data
        ((Packet.data inner).headers ++ encrypted) window =
      (.ok (.keyed (.data { inner with payload := plain })), window) := by
  obtain ⟨sessionId, sessionRead⟩ := always_sessionId.field (show 16 = 8 + 8 by rfl)
    (show 16 ≤ ((Packet.data inner).headers ++ encrypted).length by
      rw [List.length_append, Packet.length_headers_data]
      omega)
  refine (Handler.lift_bind_apply (Parser.parseFrom_field_eq_ok.mpr sessionRead) window).trans ?_
  refine (Handler.lift_bind_apply (inner.readsToEnd encrypted).parse window).trans ?_
  exact Handler.lift_bind_apply decrypted window

theorem receive_parity {inner : ParityPacket} {encrypted plain : List UInt8}
    (decrypted : decrypt aead receiver inner.sessionId (Packet.parity inner).headers encrypted =
      .ok plain) :
    deserializeAndDecrypt aead xxh3_128 debugAssertions receiver now .parity
        ((Packet.parity inner).headers ++ encrypted) window =
      (.ok (.keyed (.parity { inner with payload := plain })), window) := by
  obtain ⟨sessionId, sessionRead⟩ := always_sessionId.field (show 16 = 8 + 8 by rfl)
    (show 16 ≤ ((Packet.parity inner).headers ++ encrypted).length by
      rw [List.length_append, Packet.length_headers_parity]
      omega)
  refine (Handler.lift_bind_apply (Parser.parseFrom_field_eq_ok.mpr sessionRead) window).trans ?_
  refine (Handler.lift_bind_apply (inner.readsToEnd encrypted).parse window).trans ?_
  exact Handler.lift_bind_apply decrypted window

theorem receive_trackRequest {inner : TrackRequestPacket} {encrypted plain : List UInt8}
    (control : inner.controlType = .session .trackRequest)
    (decrypted : decrypt aead receiver inner.sessionId (Packet.trackRequest inner).headers
      encrypted = .ok plain)
    (new : window.contains ((Packet.trackRequest inner).fingerprint xxh3_128) = false) :
    deserializeAndDecrypt aead xxh3_128 debugAssertions receiver now .session
        ((Packet.trackRequest inner).headers ++ encrypted) window =
      (.ok (.keyed (.trackRequest { inner with payload := plain })),
        (window.add ((Packet.trackRequest inner).fingerprint xxh3_128) now).1) := by
  have sessionRead : (@Parser.field SessionId _).parseFrom
      ((Packet.trackRequest inner).headers ++ encrypted) 8 = .ok inner.sessionId :=
    session_read_of_headers rfl rfl encrypted
  have controlRead : (@Parser.field ControlType _).parseFrom
      ((Packet.trackRequest inner).headers ++ encrypted) 5 = .ok (.session .trackRequest) := by
    rw [← control]
    exact secondary_read_of_headers rfl encrypted
  refine (Handler.lift_bind_apply sessionRead window).trans ?_
  refine (Handler.lift_bind_apply controlRead window).trans ?_
  refine (Handler.lift_bind_apply (inner.readsToEnd encrypted).parse window).trans ?_
  refine (Handler.lift_bind_apply decrypted window).trans ?_
  exact Handler.bind_of_eq (dedup_of_new new)

theorem receive_trackRejection {inner : TrackRejectionPacket} {encrypted plain : List UInt8}
    (control : inner.controlType = .session .trackReject)
    (decrypted : decrypt aead receiver inner.sessionId (Packet.trackRejection inner).headers
      encrypted = .ok plain)
    (new : window.contains ((Packet.trackRejection inner).fingerprint xxh3_128) = false) :
    deserializeAndDecrypt aead xxh3_128 debugAssertions receiver now .session
        ((Packet.trackRejection inner).headers ++ encrypted) window =
      (.ok (.keyed (.trackRejection { inner with payload := plain })),
        (window.add ((Packet.trackRejection inner).fingerprint xxh3_128) now).1) := by
  have sessionRead : (@Parser.field SessionId _).parseFrom
      ((Packet.trackRejection inner).headers ++ encrypted) 8 = .ok inner.sessionId :=
    session_read_of_headers rfl rfl encrypted
  have controlRead : (@Parser.field ControlType _).parseFrom
      ((Packet.trackRejection inner).headers ++ encrypted) 5 = .ok (.session .trackReject) := by
    rw [← control]
    exact secondary_read_of_headers rfl encrypted
  refine (Handler.lift_bind_apply sessionRead window).trans ?_
  refine (Handler.lift_bind_apply controlRead window).trans ?_
  refine (Handler.lift_bind_apply (inner.readsToEnd encrypted).parse window).trans ?_
  refine (Handler.lift_bind_apply decrypted window).trans ?_
  exact Handler.bind_of_eq (dedup_of_new new)

theorem receive_metadataRequest {inner : TrackRequestPacket} {encrypted : List UInt8}
    (control : inner.controlType = .session .metadataRequest) :
    deserializeAndDecrypt aead xxh3_128 debugAssertions receiver now .session
      ((Packet.trackRequest inner).headers ++ encrypted) window = (.error .error, window) := by
  have sessionRead : (@Parser.field SessionId _).parseFrom
      ((Packet.trackRequest inner).headers ++ encrypted) 8 = .ok inner.sessionId :=
    session_read_of_headers rfl rfl encrypted
  have controlRead : (@Parser.field ControlType _).parseFrom
      ((Packet.trackRequest inner).headers ++ encrypted) 5 = .ok (.session .metadataRequest) := by
    rw [← control]
    exact secondary_read_of_headers rfl encrypted
  refine (Handler.lift_bind_apply sessionRead window).trans ?_
  exact Handler.lift_bind_apply controlRead window

/-! ## Authenticated kinds -/

theorem receive_retransmit {inner : RetransmitPacket} {rest : List UInt8}
    (control : inner.controlType = .session .retransmit) (nonempty : inner.payload ≠ [])
    (present : inner.bufferId ≠ some ⟨0⟩)
    (authenticated : authenticate aead receiver inner.sessionId
      ((Packet.retransmit inner).serialize ++ rest) = .ok (Packet.retransmit inner).serialize)
    (new : window.contains ((Packet.retransmit inner).fingerprint xxh3_128) = false) :
    deserializeAndDecrypt aead xxh3_128 debugAssertions receiver now .session
        ((Packet.retransmit inner).serialize ++ rest) window =
      (.ok (.keyed (.retransmit inner)),
        (window.add ((Packet.retransmit inner).fingerprint xxh3_128) now).1) := by
  have sessionRead : (@Parser.field SessionId _).parseFrom
      ((Packet.retransmit inner).serialize ++ rest) 8 = .ok inner.sessionId := by
    rw [serialize_append]
    exact session_read_of_headers rfl rfl _
  have controlRead : (@Parser.field ControlType _).parseFrom
      ((Packet.retransmit inner).serialize ++ rest) 5 = .ok (.session .retransmit) := by
    rw [serialize_append, ← control]
    exact secondary_read_of_headers rfl _
  refine (Handler.lift_bind_apply sessionRead window).trans ?_
  refine (Handler.lift_bind_apply controlRead window).trans ?_
  refine (Handler.lift_bind_apply authenticated window).trans ?_
  refine (Handler.lift_bind_apply (RetransmitPacket.readsToEnd nonempty present).parse
    window).trans ?_
  exact Handler.bind_of_eq (dedup_of_new new)

theorem receive_closeSession {inner : CloseSessionPacket} {rest : List UInt8}
    (control : inner.controlType = .session .close)
    (authenticated : authenticate aead receiver inner.sessionId
      ((Packet.closeSession inner).serialize ++ rest) = .ok (Packet.closeSession inner).serialize)
    (new : window.contains (xxh3_128 (Packet.closeSession inner).serialize) = false) :
    deserializeAndDecrypt aead xxh3_128 debugAssertions receiver now .session
        ((Packet.closeSession inner).serialize ++ rest) window =
      (.ok (.keyed (.closeSession inner)),
        (window.add (xxh3_128 (Packet.closeSession inner).serialize) now).1) := by
  have sessionRead : (@Parser.field SessionId _).parseFrom
      ((Packet.closeSession inner).serialize ++ rest) 8 = .ok inner.sessionId := by
    rw [serialize_append]
    exact session_read_of_headers rfl rfl _
  have controlRead : (@Parser.field ControlType _).parseFrom
      ((Packet.closeSession inner).serialize ++ rest) 5 = .ok (.session .close) := by
    rw [serialize_append, ← control]
    exact secondary_read_of_headers rfl _
  have parsed : CloseSessionPacket.parser.parse (Packet.closeSession inner).serialize =
      .ok inner :=
    CloseSessionPacket.reads.parse _
  refine (Handler.lift_bind_apply sessionRead window).trans ?_
  refine (Handler.lift_bind_apply controlRead window).trans ?_
  refine (Handler.lift_bind_apply authenticated window).trans ?_
  refine (Handler.bind_of_eq (dedup_of_new new)).trans ?_
  exact Handler.lift_bind_apply parsed _

theorem receive_playbackControl {inner : PlaybackControlPacket} {rest : List UInt8}
    (authenticated : authenticate aead receiver inner.sessionId
      ((Packet.playbackControl inner).serialize ++ rest) =
        .ok (Packet.playbackControl inner).serialize)
    (new : window.contains (xxh3_128 (Packet.playbackControl inner).serialize) = false) :
    deserializeAndDecrypt aead xxh3_128 debugAssertions receiver now .playback
        ((Packet.playbackControl inner).serialize ++ rest) window =
      (.ok (.keyed (.playbackControl inner)),
        (window.add (xxh3_128 (Packet.playbackControl inner).serialize) now).1) := by
  have sessionRead : (@Parser.field SessionId _).parseFrom
      ((Packet.playbackControl inner).serialize ++ rest) 8 = .ok inner.sessionId := by
    rw [serialize_append]
    exact session_read_of_headers rfl rfl _
  have controlRead : (@Parser.field ControlType _).parseFrom
      ((Packet.playbackControl inner).serialize ++ rest) 5 =
        .ok (.playback inner.controlType) := by
    -- the byte of a playback control is the one of the control type
    rw [serialize_append]
    exact secondary_read_of_headers rfl _
  have parsed : PlaybackControlPacket.parser.parse (Packet.playbackControl inner).serialize =
      .ok inner :=
    PlaybackControlPacket.reads.parse _
  refine (Handler.lift_bind_apply sessionRead window).trans ?_
  refine (Handler.lift_bind_apply controlRead window).trans ?_
  refine (Handler.lift_bind_apply authenticated window).trans ?_
  refine (Handler.bind_of_eq (dedup_of_new new)).trans ?_
  exact Handler.lift_bind_apply parsed _

theorem receive_unexpectedPacketError {inner : UnexpectedPacketErrorPacket} {rest : List UInt8}
    (error : inner.errorType = .unexpectedPacket)
    (authenticated : authenticate aead receiver inner.sessionId
      ((Packet.unexpectedPacketError inner).serialize ++ rest) =
        .ok (Packet.unexpectedPacketError inner).serialize)
    (new : window.contains (xxh3_128 (Packet.unexpectedPacketError inner).serialize) = false) :
    deserializeAndDecrypt aead xxh3_128 debugAssertions receiver now .error
        ((Packet.unexpectedPacketError inner).serialize ++ rest) window =
      (.ok (.keyed (.unexpectedPacketError inner)),
        (window.add (xxh3_128 (Packet.unexpectedPacketError inner).serialize) now).1) := by
  have sessionRead : (@Parser.field SessionId _).parseFrom
      ((Packet.unexpectedPacketError inner).serialize ++ rest) 8 = .ok inner.sessionId := by
    rw [serialize_append]
    exact session_read_of_headers rfl rfl _
  have errorRead : (@Parser.field ErrorType _).parseFrom
      ((Packet.unexpectedPacketError inner).serialize ++ rest) 5 = .ok .unexpectedPacket := by
    rw [serialize_append, ← error, Packet.headers, Packet.furtherHeaders]
    simp only [List.append_assoc]
    exact secondary_read (ErrorType.reads_field error) _ _ _ _
  have parsed : UnexpectedPacketErrorPacket.parser.parse
      (Packet.unexpectedPacketError inner).serialize = .ok inner :=
    (UnexpectedPacketErrorPacket.reads error).parse _
  refine (Handler.lift_bind_apply sessionRead window).trans ?_
  refine (Handler.lift_bind_apply errorRead window).trans ?_
  refine (Handler.lift_bind_apply authenticated window).trans ?_
  refine (Handler.bind_of_eq (dedup_of_new new)).trans ?_
  exact Handler.lift_bind_apply parsed _

theorem receive_sessionDoesNotExistError {inner : SessionDoesNotExistErrorPacket}
    {rest : List UInt8} (error : inner.errorType = .sessionDoesNotExist) :
    deserializeAndDecrypt aead xxh3_128 debugAssertions receiver now .error
        (inner.serialize ++ rest) window = (.error .error, window) := by
  have shape : inner.serialize ++ rest =
      serialize inner.version ++ (serialize inner.opts ++ (serialize inner.packetType ++
        (serialize ErrorType.sessionDoesNotExist ++ (serialize inner.reserved ++
          (serialize inner.sessionId ++ (serialize inner.timestamp ++ rest)))))) := by
    simp only [SessionDoesNotExistErrorPacket.serialize, error, List.append_assoc]
  have sessionRead : (@Parser.field SessionId _).parseFrom (inner.serialize ++ rest) 8 =
      .ok inner.sessionId := by
    rw [shape]
    exact session_read _ _ _ _ _ rfl _ _
  have errorRead : (@Parser.field ErrorType _).parseFrom (inner.serialize ++ rest) 5 =
      .error .error := by
    have unread : Parser.FailsAtEnd (@Parser.field ErrorType _)
        (serialize ErrorType.sessionDoesNotExist ++ (serialize inner.reserved ++
          (serialize inner.sessionId ++ (serialize inner.timestamp ++ rest)))) .error :=
      Parser.failsAtEnd_field (ErrorType.deserialize_sessionDoesNotExist _)
    have failed := Parser.parseFrom_error (unread (serialize inner.version ++
      (serialize inner.opts ++ serialize inner.packetType)))
    rw [shape]
    simp only [List.append_assoc] at failed
    exact failed
  refine (Handler.lift_bind_apply sessionRead window).trans ?_
  exact congrFun (Handler.lift_bind_error errorRead) window

theorem receive_keepAlive {inner : KeepAlivePacket} {rest : List UInt8}
    (authenticated : authenticate aead receiver inner.sessionId (inner.serialize ++ rest) =
      .ok inner.serialize) :
    deserializeAndDecrypt aead xxh3_128 debugAssertions receiver now .keepAlive
        (inner.serialize ++ rest) window =
      (.ok (.keepAlive { inner with address := none }), window) := by
  have shape : inner.serialize ++ rest =
      serialize inner.version ++ (serialize inner.opts ++ (serialize inner.packetType ++
        (serialize inner.reserved ++ ([] ++ (serialize inner.sessionId ++
          (serialize inner.timestamp ++ rest)))))) := by
    simp only [KeepAlivePacket.serialize, List.append_assoc, List.nil_append]
  have sessionRead : (@Parser.field SessionId _).parseFrom (inner.serialize ++ rest) 8 =
      .ok inner.sessionId := by
    rw [shape]
    exact session_read _ _ _ _ _ rfl _ _
  have parsed : KeepAlivePacket.parser.parse inner.serialize =
      .ok { inner with address := none } := by
    have read := (@KeepAlivePacket.reads inner).parse []
    rwa [List.append_nil] at read
  refine (Handler.lift_bind_apply sessionRead window).trans ?_
  refine (Handler.lift_bind_apply authenticated window).trans ?_
  exact Handler.lift_bind_apply parsed window

/-! ## Kinds that are not checked -/

theorem receive_ack {inner : AckPacket} {rest : List UInt8} :
    deserializeAndDecrypt aead xxh3_128 debugAssertions receiver now .ack
        (inner.serialize ++ rest) window = (.ok (.ack inner), window) := by
  have shape : inner.serialize ++ rest =
      serialize inner.version ++ (serialize inner.opts ++ (serialize inner.packetType ++
        (serialize inner.reserved ++ ([] ++ (serialize inner.sessionId ++
          (serialize inner.timestamp ++ (serialize inner.fingerprint ++ rest))))))) := by
    simp only [AckPacket.serialize, List.append_assoc, List.nil_append]
  have sessionRead : (@Parser.field SessionId _).parseFrom (inner.serialize ++ rest) 8 =
      .ok inner.sessionId := by
    rw [shape]
    exact session_read _ _ _ _ _ rfl _ _
  refine (Handler.lift_bind_apply sessionRead window).trans ?_
  exact Handler.lift_bind_apply (AckPacket.reads.parse rest) window

theorem receive_handshakeAck {inner : HandshakeAckPacket}
    (new : window.contains (xxh3_128 inner.serialize) = false) :
    deserializeAndDecrypt aead xxh3_128 debugAssertions receiver now .handshakeAck
        inner.serialize window =
      (.ok (.handshakeAck inner), (window.add (xxh3_128 inner.serialize) now).1) := by
  have sessionRead : (@Parser.field SessionId _).parseFrom inner.serialize 8 =
      .ok inner.sessionId :=
    session_read inner.version inner.opts inner.packetType (serialize inner.reserved) [] rfl
      inner.sessionId _
  have parsed : HandshakeAckPacket.parser.parse inner.serialize = .ok inner := by
    have read := (@HandshakeAckPacket.reads inner).parse []
    rwa [List.append_nil] at read
  refine (Handler.lift_bind_apply sessionRead window).trans ?_
  refine (Handler.bind_of_eq (dedup_of_new new)).trans ?_
  exact Handler.lift_bind_apply parsed _

theorem receive_handshakeRejection {inner : HandshakeRejection}
    (control : inner.controlType = .host .handshakeReject) :
    deserializeAndDecrypt aead xxh3_128 debugAssertions receiver now .host inner.serialize
        window = (.ok (.handshakeRejection inner), window) := by
  have sessionRead : (@Parser.field SessionId _).parseFrom inner.serialize 8 =
      .ok inner.sessionId :=
    session_read inner.version inner.opts inner.packetType _ _ rfl inner.sessionId _
  have controlRead : (@Parser.field ControlType _).parseFrom inner.serialize 5 =
      .ok (.host .handshakeReject) := by
    rw [← control]
    exact secondary_read (Parser.reads_field _) inner.version inner.opts inner.packetType _
  have parsed : HandshakeRejection.parser.parse inner.serialize = .ok inner := by
    have read := (@HandshakeRejection.reads inner).parse []
    rwa [List.append_nil] at read
  refine (Handler.lift_bind_apply sessionRead window).trans ?_
  refine (Handler.lift_bind_apply controlRead window).trans ?_
  exact Handler.lift_bind_apply parsed window

theorem receive_hello {inner : HelloPacket} (control : inner.controlType = .host .hello)
    (valid : inner.appId.Valid)
    (new : window.contains ((Packet.hello inner).fingerprint xxh3_128) = false) :
    deserializeAndDecrypt aead xxh3_128 debugAssertions receiver now .host
        (Packet.hello inner).serialize window =
      (.ok (.keyed (.hello inner)),
        (window.add ((Packet.hello inner).fingerprint xxh3_128) now).1) := by
  have bare : (Packet.hello inner).serialize = (Packet.hello inner).headers := by
    rw [Packet.serialize, Packet.payload, List.append_nil]
  have sessionRead : (@Parser.field SessionId _).parseFrom (Packet.hello inner).headers 8 =
      .ok inner.proposedSessionId :=
    session_read inner.version inner.opts inner.packetType _ _ rfl inner.proposedSessionId _
  have controlRead : (@Parser.field ControlType _).parseFrom (Packet.hello inner).headers 5 =
      .ok (.host .hello) := by
    rw [← control]
    exact secondary_read (Parser.reads_field _) inner.version inner.opts inner.packetType _
  rw [bare]
  refine (Handler.lift_bind_apply sessionRead window).trans ?_
  refine (Handler.lift_bind_apply controlRead window).trans ?_
  refine (Handler.lift_bind_apply (HelloPacket.readsToEnd valid debugAssertions).parse
    window).trans ?_
  exact Handler.bind_of_eq (dedup_of_new new)

/-! ## Sent and received -/

theorem keyed_starts (packet : Packet) {type : PacketType}
    (version : packet.version = Version.currentVersion) (packetType : packet.packetType = type)
    (rest : List UInt8) :
    packet.headers ++ rest = serialize Version.currentVersion ++ (serialize packet.opts ++
      (serialize type ++ (packet.furtherHeaders ++ rest))) := by
  rw [Packet.headers, version, packetType]
  simp only [List.append_assoc]

def SharesKey (sender receiver : EncryptionTable Key) (sessionId : SessionId) : Prop :=
  ∃ key, sender.getCipher sessionId = some key ∧ receiver.getCipher sessionId = some key

theorem processEncrypted_eq {packet : Packet} {encrypted : List UInt8}
    {after : EncryptionTable Key} {invocation : Invocation Key}
    (made : encrypt aead.encryptInPlace sender packet.sessionId packet.headers packet.payload =
      some (encrypted, after, invocation)) :
    Outbound.processEncrypted aead sender packet = (packet.headers ++ encrypted, after) := by
  rw [Outbound.processEncrypted, made]

theorem processAuthenticated_eq {packet : WirePacket} {data : List UInt8}
    {after : EncryptionTable Key} {invocation : Invocation Key}
    (made : tag aead.encryptInPlace sender sessionId packet.serialize =
      some (data, after, invocation)) :
    Outbound.processAuthenticated aead sender packet sessionId = (data, after) := by
  rw [Outbound.processAuthenticated, made]

variable {srcAddr : SocketAddr}

theorem arrives_data {inner : DataPacket} (version : inner.version = Version.currentVersion)
    (packetType : inner.packetType = .data) (nonempty : inner.payload ≠ [])
    (shares : SharesKey sender receiver inner.sessionId) :
    Arrives aead xxh3_128 debugAssertions receiver now srcAddr
      (Outbound.processEncrypted aead sender (.data inner)).1 window (.keyed (.data inner)) := by
  obtain ⟨key, sent, received⟩ := shares
  obtain ⟨encrypted, after, invocation, made, decrypted⟩ :=
    @decrypt_encrypt Key aead _ _ _ key sent received (Packet.data inner).headers _ nonempty
  rw [@processEncrypted_eq Key aead sender (.data inner) _ _ _ made]
  exact arrives_of_deserialized (keyed_starts (.data inner) version packetType encrypted)
    (receive_data decrypted)

theorem arrives_parity {inner : ParityPacket} (version : inner.version = Version.currentVersion)
    (packetType : inner.packetType = .parity) (nonempty : inner.payload ≠ [])
    (shares : SharesKey sender receiver inner.sessionId) :
    Arrives aead xxh3_128 debugAssertions receiver now srcAddr
      (Outbound.processEncrypted aead sender (.parity inner)).1 window
      (.keyed (.parity inner)) := by
  obtain ⟨key, sent, received⟩ := shares
  obtain ⟨encrypted, after, invocation, made, decrypted⟩ :=
    @decrypt_encrypt Key aead _ _ _ key sent received (Packet.parity inner).headers _ nonempty
  rw [@processEncrypted_eq Key aead sender (.parity inner) _ _ _ made]
  exact arrives_of_deserialized (keyed_starts (.parity inner) version packetType encrypted)
    (receive_parity decrypted)

theorem arrives_trackRequest {inner : TrackRequestPacket}
    (version : inner.version = Version.currentVersion) (packetType : inner.packetType = .session)
    (control : inner.controlType = .session .trackRequest) (nonempty : inner.payload ≠ [])
    (shares : SharesKey sender receiver inner.sessionId)
    (new : window.contains ((Packet.trackRequest inner).fingerprint xxh3_128) = false) :
    Arrives aead xxh3_128 debugAssertions receiver now srcAddr
      (Outbound.processEncrypted aead sender (.trackRequest inner)).1 window
      (.keyed (.trackRequest inner)) := by
  obtain ⟨key, sent, received⟩ := shares
  obtain ⟨encrypted, after, invocation, made, decrypted⟩ :=
    @decrypt_encrypt Key aead _ _ _ key sent received (Packet.trackRequest inner).headers _
      nonempty
  rw [@processEncrypted_eq Key aead sender (.trackRequest inner) _ _ _ made]
  exact arrives_of_deserialized (keyed_starts (.trackRequest inner) version packetType encrypted)
    (receive_trackRequest control decrypted new)

theorem arrives_trackRejection {inner : TrackRejectionPacket}
    (version : inner.version = Version.currentVersion) (packetType : inner.packetType = .session)
    (control : inner.controlType = .session .trackReject) (nonempty : inner.payload ≠ [])
    (shares : SharesKey sender receiver inner.sessionId)
    (new : window.contains ((Packet.trackRejection inner).fingerprint xxh3_128) = false) :
    Arrives aead xxh3_128 debugAssertions receiver now srcAddr
      (Outbound.processEncrypted aead sender (.trackRejection inner)).1 window
      (.keyed (.trackRejection inner)) := by
  obtain ⟨key, sent, received⟩ := shares
  obtain ⟨encrypted, after, invocation, made, decrypted⟩ :=
    @decrypt_encrypt Key aead _ _ _ key sent received (Packet.trackRejection inner).headers _
      nonempty
  rw [@processEncrypted_eq Key aead sender (.trackRejection inner) _ _ _ made]
  exact arrives_of_deserialized (keyed_starts (.trackRejection inner) version packetType encrypted)
    (receive_trackRejection control decrypted new)

theorem arrives_retransmit {inner : RetransmitPacket}
    (version : inner.version = Version.currentVersion) (packetType : inner.packetType = .session)
    (control : inner.controlType = .session .retransmit) (nonempty : inner.payload ≠ [])
    (present : inner.bufferId ≠ some ⟨0⟩) (shares : SharesKey sender receiver inner.sessionId)
    (new : window.contains ((Packet.retransmit inner).fingerprint xxh3_128) = false) :
    Arrives aead xxh3_128 debugAssertions receiver now srcAddr
      (Outbound.processAuthenticated aead sender (.keyed (.retransmit inner)) inner.sessionId).1
      window (.keyed (.retransmit inner)) := by
  obtain ⟨key, sent, received⟩ := shares
  obtain ⟨rest, after, invocation, made, authenticated⟩ :=
    @authenticate_tag Key aead _ _ _ key sent received (Packet.retransmit inner).serialize
  rw [@processAuthenticated_eq Key aead sender inner.sessionId (.keyed (.retransmit inner))
    _ _ _ made]
  have starts := keyed_starts (.retransmit inner) version packetType
    ((Packet.retransmit inner).payload ++ rest)
  rw [← List.append_assoc] at starts
  exact arrives_of_deserialized starts
    (receive_retransmit control nonempty present authenticated new)

theorem arrives_closeSession {inner : CloseSessionPacket}
    (version : inner.version = Version.currentVersion) (packetType : inner.packetType = .session)
    (control : inner.controlType = .session .close)
    (shares : SharesKey sender receiver inner.sessionId)
    (new : window.contains (xxh3_128 (Packet.closeSession inner).serialize) = false) :
    Arrives aead xxh3_128 debugAssertions receiver now srcAddr
      (Outbound.processAuthenticated aead sender (.keyed (.closeSession inner))
        inner.sessionId).1 window (.keyed (.closeSession inner)) := by
  obtain ⟨key, sent, received⟩ := shares
  obtain ⟨rest, after, invocation, made, authenticated⟩ :=
    @authenticate_tag Key aead _ _ _ key sent received (Packet.closeSession inner).serialize
  rw [@processAuthenticated_eq Key aead sender inner.sessionId (.keyed (.closeSession inner))
    _ _ _ made]
  have starts := keyed_starts (.closeSession inner) version packetType
    ((Packet.closeSession inner).payload ++ rest)
  rw [← List.append_assoc] at starts
  exact arrives_of_deserialized starts (receive_closeSession control authenticated new)

theorem arrives_playbackControl {inner : PlaybackControlPacket}
    (version : inner.version = Version.currentVersion) (packetType : inner.packetType = .playback)
    (shares : SharesKey sender receiver inner.sessionId)
    (new : window.contains (xxh3_128 (Packet.playbackControl inner).serialize) = false) :
    Arrives aead xxh3_128 debugAssertions receiver now srcAddr
      (Outbound.processAuthenticated aead sender (.keyed (.playbackControl inner))
        inner.sessionId).1 window (.keyed (.playbackControl inner)) := by
  obtain ⟨key, sent, received⟩ := shares
  obtain ⟨rest, after, invocation, made, authenticated⟩ :=
    @authenticate_tag Key aead _ _ _ key sent received (Packet.playbackControl inner).serialize
  rw [@processAuthenticated_eq Key aead sender inner.sessionId (.keyed (.playbackControl inner))
    _ _ _ made]
  have starts := keyed_starts (.playbackControl inner) version packetType
    ((Packet.playbackControl inner).payload ++ rest)
  rw [← List.append_assoc] at starts
  exact arrives_of_deserialized starts (receive_playbackControl authenticated new)

theorem arrives_unexpectedPacketError {inner : UnexpectedPacketErrorPacket}
    (version : inner.version = Version.currentVersion) (packetType : inner.packetType = .error)
    (error : inner.errorType = .unexpectedPacket)
    (shares : SharesKey sender receiver inner.sessionId)
    (new : window.contains (xxh3_128 (Packet.unexpectedPacketError inner).serialize) = false) :
    Arrives aead xxh3_128 debugAssertions receiver now srcAddr
      (Outbound.processAuthenticated aead sender (.keyed (.unexpectedPacketError inner))
        inner.sessionId).1 window (.keyed (.unexpectedPacketError inner)) := by
  obtain ⟨key, sent, received⟩ := shares
  obtain ⟨rest, after, invocation, made, authenticated⟩ :=
    @authenticate_tag Key aead _ _ _ key sent received
      (Packet.unexpectedPacketError inner).serialize
  rw [@processAuthenticated_eq Key aead sender inner.sessionId (.keyed (.unexpectedPacketError inner))
    _ _ _ made]
  have starts := keyed_starts (.unexpectedPacketError inner) version packetType
    ((Packet.unexpectedPacketError inner).payload ++ rest)
  rw [← List.append_assoc] at starts
  exact arrives_of_deserialized starts (receive_unexpectedPacketError error authenticated new)

theorem arrives_keepAlive {inner : KeepAlivePacket}
    (version : inner.version = Version.currentVersion)
    (packetType : inner.packetType = .keepAlive)
    (shares : SharesKey sender receiver inner.sessionId) :
    Arrives aead xxh3_128 debugAssertions receiver now srcAddr
      (Outbound.processAuthenticated aead sender (.keepAlive inner) inner.sessionId).1 window
      (.keepAlive inner) := by
  obtain ⟨key, sent, received⟩ := shares
  obtain ⟨rest, after, invocation, made, authenticated⟩ :=
    @authenticate_tag Key aead _ _ _ key sent received inner.serialize
  rw [@processAuthenticated_eq Key aead sender inner.sessionId (.keepAlive inner) _ _ _ made]
  have starts : inner.serialize ++ rest = serialize Version.currentVersion ++
      (serialize inner.opts ++ (serialize PacketType.keepAlive ++ (serialize inner.reserved ++
        (serialize inner.sessionId ++ (serialize inner.timestamp ++ rest))))) := by
    simp only [KeepAlivePacket.serialize, version, packetType, List.append_assoc]
  have arrives : Arrives aead xxh3_128 debugAssertions receiver now srcAddr
      (inner.serialize ++ rest) window (.keepAlive { inner with address := none }) :=
    arrives_of_deserialized starts (receive_keepAlive authenticated)
  exact arrives

theorem processAuthenticated_front (sender : EncryptionTable Key) (packet : WirePacket)
    (sessionId : SessionId) :
    ∃ rest, (Outbound.processAuthenticated aead sender packet sessionId).1 =
      packet.serialize ++ rest := by
  rw [Outbound.processAuthenticated, tag]
  cases sender.get sessionId with
  | none => exact ⟨[], (List.append_nil _).symm⟩
  | some window => exact ⟨_, List.append_assoc _ _ _⟩

theorem not_arrives_sessionDoesNotExistError {inner : SessionDoesNotExistErrorPacket}
    (version : inner.version = Version.currentVersion) (packetType : inner.packetType = .error)
    (error : inner.errorType = .sessionDoesNotExist) (packet : WirePacket) :
    ¬ Arrives aead xxh3_128 debugAssertions receiver now srcAddr
      (Outbound.processAuthenticated aead sender (.sessionDoesNotExistError inner)
        inner.sessionId).1 window packet := by
  rintro ⟨after, arrived⟩
  obtain ⟨rest, front⟩ := @processAuthenticated_front Key aead sender
    (.sessionDoesNotExistError inner) inner.sessionId
  have starts : inner.serialize ++ rest = serialize Version.currentVersion ++
      (serialize inner.opts ++ (serialize PacketType.error ++ (serialize inner.errorType ++
        (serialize inner.reserved ++ (serialize inner.sessionId ++ (serialize inner.timestamp ++
          rest)))))) := by
    simp only [SessionDoesNotExistErrorPacket.serialize, version, packetType, List.append_assoc]
  have dropped : deserializeAndDecrypt aead xxh3_128 debugAssertions receiver now .error
      (inner.serialize ++ rest) window = (.error .error, window) :=
    receive_sessionDoesNotExistError error
  rw [front, WirePacket.serialize, handlePacket_typed starts] at arrived
  cases (Handler.bind_of_error dropped).symm.trans arrived

theorem arrives_ack {inner : AckPacket} (version : inner.version = Version.currentVersion)
    (packetType : inner.packetType = .ack) :
    Arrives aead xxh3_128 debugAssertions receiver now srcAddr
      (Outbound.processAuthenticated aead sender (.ack inner) inner.sessionId).1 window
      (.ack inner) := by
  obtain ⟨rest, sent⟩ := @processAuthenticated_front Key aead sender (.ack inner) inner.sessionId
  rw [sent]
  have starts : inner.serialize ++ rest = serialize Version.currentVersion ++
      (serialize inner.opts ++ (serialize PacketType.ack ++ (serialize inner.reserved ++
        (serialize inner.sessionId ++ (serialize inner.timestamp ++
          (serialize inner.fingerprint ++ rest)))))) := by
    simp only [AckPacket.serialize, version, packetType, List.append_assoc]
  exact arrives_of_deserialized starts receive_ack

theorem arrives_handshakeAck {inner : HandshakeAckPacket}
    (version : inner.version = Version.currentVersion)
    (packetType : inner.packetType = .handshakeAck)
    (new : window.contains (xxh3_128 inner.serialize) = false) :
    Arrives aead xxh3_128 debugAssertions receiver now srcAddr inner.serialize window
      (.handshakeAck inner) := by
  have starts : inner.serialize = serialize Version.currentVersion ++
      (serialize inner.opts ++ (serialize PacketType.handshakeAck ++ (serialize inner.reserved ++
        (serialize inner.sessionId ++ (serialize inner.timestamp ++
          serialize inner.handshakeId))))) := by
    rw [HandshakeAckPacket.serialize, version, packetType]
  exact arrives_of_deserialized starts (receive_handshakeAck new)

theorem arrives_handshakeRejection {inner : HandshakeRejection}
    (version : inner.version = Version.currentVersion) (packetType : inner.packetType = .host)
    (control : inner.controlType = .host .handshakeReject) :
    Arrives aead xxh3_128 debugAssertions receiver now srcAddr inner.serialize window
      (.handshakeRejection inner) := by
  have starts : inner.serialize = serialize Version.currentVersion ++
      (serialize inner.opts ++ (serialize PacketType.host ++ (serialize inner.controlType ++
        (serialize inner.reserved ++ (serialize inner.sessionId ++ (serialize inner.timestamp ++
          (serialize inner.handshakeId ++ serialize inner.reason))))))) := by
    rw [HandshakeRejection.serialize, version, packetType]
  exact arrives_of_deserialized starts (receive_handshakeRejection control)

theorem arrives_hello {inner : HelloPacket} (version : inner.version = Version.currentVersion)
    (packetType : inner.packetType = .host) (control : inner.controlType = .host .hello)
    (valid : inner.appId.Valid)
    (new : window.contains ((Packet.hello inner).fingerprint xxh3_128) = false) :
    Arrives aead xxh3_128 debugAssertions receiver now srcAddr (Packet.hello inner).serialize
      window (.keyed (.hello inner)) :=
  arrives_of_deserialized (keyed_starts (.hello inner) version packetType [])
    (receive_hello control valid new)

theorem arrives_incompatibleVersion {inner : IncompatibleVersionPacket}
    (zero : inner.zeroVersion.isZero = true) :
    Arrives aead xxh3_128 debugAssertions receiver now srcAddr inner.serialize window
      (.incompatibleVersion inner) := by
  have versionRead : (@Parser.field Version _).parse inner.serialize = .ok inner.zeroVersion :=
    (Parser.reads_field inner.zeroVersion).parse _
  have parsed : IncompatibleVersionPacket.parser.parse inner.serialize = .ok inner := by
    have read := (@IncompatibleVersionPacket.reads inner).parse []
    rwa [List.append_nil] at read
  refine ⟨window, ?_⟩
  rw [handlePacket, Handler.lift_bind versionRead, if_pos zero]
  exact Handler.lift_bind_apply parsed window

end Inbound

/-! ## All kinds -/

namespace WirePacket

inductive Created : WirePacket → Prop
  | keyed {packet : Packet} (created : packet.Created) : Created (keyed packet)
  | ack (opts : Options) (sessionId : SessionId) (fingerprint : PacketFingerprint)
      (now : Timestamp) : Created (ack (AckPacket.new opts sessionId fingerprint now))
  | keepAlive (opts : Options) (sessionId : SessionId) (now : Timestamp) :
      Created (keepAlive (KeepAlivePacket.new opts sessionId now))
  | handshakeAck (sessionId : SessionId) (handshakeId : HandshakeId) (now : Timestamp) :
      Created (handshakeAck (HandshakeAckPacket.new sessionId handshakeId now))
  | incompatibleVersion : Created (incompatibleVersion IncompatibleVersionPacket.packet)
  | sessionDoesNotExistError (opts : Options) (sessionId : SessionId) (now : Timestamp) :
      Created (sessionDoesNotExistError (SessionDoesNotExistErrorPacket.new opts sessionId now))
  | handshakeRejection (opts : Options) (sessionId : SessionId)
      (reason : HandshakeRejectionReason) (handshakeId : HandshakeId) (now : Timestamp) :
      Created (handshakeRejection (HandshakeRejection.new opts sessionId reason handshakeId now))

/-- The payload is not empty, a `TrackRequestPacket` asks for a track, and the identifier of an
application is valid.  The metadata flow is not wired, and the type of a
`SessionDoesNotExistErrorPacket` is not read. -/
def Decodable : WirePacket → Prop
  | keyed (.hello packet) => packet.appId.Valid
  | keyed (.trackRequest packet) =>
      packet.controlType = .session .trackRequest ∧ packet.payload ≠ []
  | keyed (.data packet) => packet.payload ≠ []
  | keyed (.metadata _) => False
  | keyed (.parity packet) => packet.payload ≠ []
  | keyed (.retransmit packet) => packet.payload ≠ []
  | keyed (.trackRejection packet) => packet.payload ≠ []
  | sessionDoesNotExistError _ => False
  | _ => True

/-- The session whose key the packet is sent with; what protects an acknowledgement is not
looked at. -/
def keyedBy : WirePacket → Option SessionId
  | keyed (.hello _) | ack _ | handshakeAck _ | incompatibleVersion _ | handshakeRejection _ =>
      none
  | keyed packet => some packet.sessionId
  | keepAlive packet => some packet.sessionId
  | sessionDoesNotExistError packet => some packet.sessionId

end WirePacket

/-- Every packet arrives as it was sent: with its fields, without the mark of a packet that is
sent again, and with the source address in a `KeepAlivePacket`. -/
theorem round_trip (aead : Aead Key) (xxh3_128 : List UInt8 → PacketFingerprint)
    (debugAssertions : Bool) (sender receiver : EncryptionTable Key) (now : Timestamp)
    (addr srcAddr : SocketAddr) (window : FingerprintWindow) (packet : WirePacket)
    (created : packet.Created) (decodable : packet.Decodable)
    (shares : ∀ sessionId, packet.keyedBy = some sessionId →
      Inbound.SharesKey sender receiver sessionId)
    (empty : ∀ fingerprint, window.contains fingerprint = false) :
    ∃ processed after, Outbound.transmit aead sender packet addr = .ok (processed, after) ∧
      Inbound.Arrives aead xxh3_128 debugAssertions receiver now srcAddr processed.data window
        packet.addAck.1 := by
  cases created with
  | keyed created =>
      cases created with
      | hello =>
          exact ⟨_, _, rfl, Inbound.arrives_hello rfl rfl rfl decodable (empty _)⟩
      | requestTrack =>
          exact ⟨_, _, rfl, Inbound.arrives_trackRequest rfl rfl rfl decodable.2 (shares _ rfl)
            (empty _)⟩
      | requestMetadata => cases decodable.1
      | data =>
          exact ⟨_, _, rfl, Inbound.arrives_data rfl rfl decodable (shares _ rfl)⟩
      | metadata => exact decodable.elim
      | parity =>
          exact ⟨_, _, rfl, Inbound.arrives_parity rfl rfl decodable (shares _ rfl)⟩
      | retransmitData =>
          exact ⟨_, _, rfl, Inbound.arrives_retransmit rfl rfl rfl decodable nofun (shares _ rfl)
            (empty _)⟩
      | retransmitMetadata opts sessionId bufferId nonzero payload now =>
          have present : some bufferId ≠ some ⟨0⟩ := fun zero =>
            nonzero (congrArg BufferId.id (Option.some.inj zero))
          exact ⟨_, _, rfl, Inbound.arrives_retransmit rfl rfl rfl decodable present
            (shares _ rfl) (empty _)⟩
      | playbackControl =>
          exact ⟨_, _, rfl, Inbound.arrives_playbackControl rfl rfl (shares _ rfl) (empty _)⟩
      | unexpectedPacketError =>
          exact ⟨_, _, rfl, Inbound.arrives_unexpectedPacketError rfl rfl rfl (shares _ rfl)
            (empty _)⟩
      | trackRejection =>
          exact ⟨_, _, rfl, Inbound.arrives_trackRejection rfl rfl rfl decodable (shares _ rfl)
            (empty _)⟩
      | closeSession =>
          exact ⟨_, _, rfl, Inbound.arrives_closeSession rfl rfl rfl (shares _ rfl) (empty _)⟩
  | ack => exact ⟨_, _, rfl, Inbound.arrives_ack rfl rfl⟩
  | keepAlive => exact ⟨_, _, rfl, Inbound.arrives_keepAlive rfl rfl (shares _ rfl)⟩
  | handshakeAck => exact ⟨_, _, rfl, Inbound.arrives_handshakeAck rfl rfl (empty _)⟩
  | incompatibleVersion => exact ⟨_, _, rfl, Inbound.arrives_incompatibleVersion rfl⟩
  | sessionDoesNotExistError => exact decodable.elim
  | handshakeRejection => exact ⟨_, _, rfl, Inbound.arrives_handshakeRejection rfl rfl rfl⟩

/-- The encryption of the payload `[1]` of a data packet of session 7, created at 5 ms and sent
again, under the key 0, 1, …, 31 and the counter 0. -/
def dataPayload : KnownAnswer (List UInt8) where
  key := (List.range 32).map UInt8.ofNat
  nonce := List.replicate 12 0
  associatedData := (Packet.data (DataPacket.new (Options.construct [.requireAck]) ⟨1⟩ ⟨1, 0, 0⟩
    ⟨7⟩ (BytePosition.ofNat 0) [1] ⟨5, Timestamp.five_lt⟩)).headers
  plain := [1]
  cipher := [15, 135, 3, 249, 249, 105, 46, 179, 165, 20, 28, 41, 189, 42, 197, 242, 47]
  length_cipher := rfl
  tag_ne := by decide

/-- A data packet that was marked as sent again arrives without the mark. -/
theorem round_trip_resent :
    let table : EncryptionTable (List UInt8) :=
      Table.empty.insert ⟨7⟩ (EncryptionWindow.new dataPayload.key)
    let sent (flags : List OptionFlags) := WirePacket.keyed (.data (DataPacket.new
      (Options.construct flags) ⟨1⟩ ⟨1, 0, 0⟩ ⟨7⟩ (BytePosition.ofNat 0) [1] ⟨5, by decide⟩))
    ∃ processed after,
      Outbound.transmit dataPayload.aead table (sent [.requireAck, .resend])
        ⟨[127, 0, 0, 1], 80⟩ = .ok (processed, after) ∧
      Inbound.Arrives dataPayload.aead (fun _ => ⟨List.replicate 16 0, rfl⟩) true table
        ⟨6, by decide⟩ ⟨[127, 0, 0, 1], 81⟩ processed.data FingerprintWindow.new
        (sent [.requireAck]) := by
  intro table sent
  have unmarked : (sent [.requireAck, .resend]).addAck.1 = sent [.requireAck] := by
    decide
  have arrived := round_trip dataPayload.aead (fun _ => ⟨List.replicate 16 0, rfl⟩) true table
    table ⟨6, by decide⟩ ⟨[127, 0, 0, 1], 80⟩ ⟨[127, 0, 0, 1], 81⟩ FingerprintWindow.new
    (sent [.requireAck, .resend]) (.keyed (.data _ _ _ _ _ _ _)) (List.cons_ne_nil _ _)
    (by
      intro sessionId keyed
      rw [← Option.some.inj keyed]
      exact ⟨dataPayload.key, getCipher_insert_new _ _ _, getCipher_insert_new _ _ _⟩)
    (fun _ => rfl)
  rwa [unmarked] at arrived

/-- The encryption of the payload of a data packet that is marked as sent again but requires no
acknowledgement, under the same key and counter. -/
def markedPayload : KnownAnswer (List UInt8) where
  key := dataPayload.key
  nonce := List.replicate 12 0
  associatedData := (Packet.data (DataPacket.new (Options.construct [.resend]) ⟨1⟩ ⟨1, 0, 0⟩
    ⟨7⟩ (BytePosition.ofNat 0) [1] ⟨5, Timestamp.five_lt⟩)).headers
  plain := [1]
  cipher := [15, 142, 204, 189, 2, 88, 148, 194, 0, 114, 207, 107, 134, 146, 48, 91, 85]
  length_cipher := rfl
  tag_ne := by decide

def metadataPayload : KnownAnswer (List UInt8) where
  key := dataPayload.key
  nonce := List.replicate 12 0
  associatedData := (Packet.trackRequest (TrackRequestPacket.requestMetadata
    (Options.construct [.requireAck]) ⟨7⟩ [1] ⟨5, Timestamp.five_lt⟩)).headers
  plain := [1]
  cipher := [15, 210, 36, 201, 115, 207, 79, 226, 163, 244, 93, 70, 171, 164, 127, 202, 91]
  length_cipher := rfl
  tag_ne := by decide

/-- A data packet that is marked but requires no acknowledgement keeps the mark, and a request
for metadata is dropped. -/
theorem mark_kept_and_metadata_dropped :
    let xxh3_128 := fun _ => (⟨List.replicate 16 0, rfl⟩ : PacketFingerprint)
    let table : EncryptionTable (List UInt8) :=
      Table.empty.insert ⟨7⟩ (EncryptionWindow.new dataPayload.key)
    let addr : SocketAddr := ⟨[127, 0, 0, 1], 80⟩
    let now : Timestamp := ⟨5, by decide⟩
    let marked := DataPacket.new (Options.construct [.resend]) ⟨1⟩ ⟨1, 0, 0⟩ ⟨7⟩
      (BytePosition.ofNat 0) [1] now
    let request := TrackRequestPacket.requestMetadata Options.none ⟨7⟩ [1] now
    (∀ processed after,
      Outbound.transmit markedPayload.aead table (.keyed (.data marked)) addr =
        .ok (processed, after) →
      ¬ Inbound.Arrives markedPayload.aead xxh3_128 true table now addr processed.data
        FingerprintWindow.new
        (.keyed (.data { marked with opts := marked.opts.unset .resend }))) ∧
    (∀ processed after,
      Outbound.transmit metadataPayload.aead table (.keyed (.trackRequest request)) addr =
        .ok (processed, after) →
      ∀ packet, ¬ Inbound.Arrives metadataPayload.aead xxh3_128 true table now addr
        processed.data FingerprintWindow.new packet) := by
  intro xxh3_128 table addr now marked request
  constructor
  · rintro processed after sent ⟨window, arrived⟩
    obtain ⟨window', kept⟩ := @Inbound.arrives_data _ markedPayload.aead table table xxh3_128 true
      now FingerprintWindow.new addr { marked with opts := marked.opts.addAck.1 } rfl rfl
      (List.cons_ne_nil _ _)
      ⟨dataPayload.key, getCipher_insert_new _ _ _, getCipher_insert_new _ _ _⟩
    have data : (Outbound.processEncrypted markedPayload.aead table
        (.data { marked with opts := marked.opts.addAck.1 })).1 = processed.data :=
      congrArg (fun result => result.1.data) (Except.ok.inj sent)
    rw [data] at kept
    have same := Except.ok.inj (congrArg Prod.fst (kept.symm.trans arrived))
    have packets := Packet.data.inj (WirePacket.keyed.inj (Inbound.Message.packet.inj same).1)
    have options : marked.opts.addAck.1 = marked.opts.unset .resend :=
      congrArg DataPacket.opts packets
    exact absurd options (by decide)
  · rintro processed after sent packet ⟨window, arrived⟩
    obtain ⟨encrypted, after', invocation, made, -⟩ :=
      @decrypt_encrypt _ metadataPayload.aead table table ⟨7⟩ dataPayload.key
        (getCipher_insert_new _ _ _) (getCipher_insert_new _ _ _)
        (Packet.trackRequest { request with opts := request.opts.addAck.1 }).headers [1]
        (List.cons_ne_nil _ _)
    have dropped := @Inbound.receive_metadataRequest _ metadataPayload.aead table xxh3_128 true now
      FingerprintWindow.new { request with opts := request.opts.addAck.1 } encrypted rfl
    have data : (Outbound.processEncrypted metadataPayload.aead table
        (.trackRequest { request with opts := request.opts.addAck.1 })).1 = processed.data :=
      congrArg (fun result => result.1.data) (Except.ok.inj sent)
    rw [@Inbound.processEncrypted_eq _ metadataPayload.aead table
      (.trackRequest { request with opts := request.opts.addAck.1 }) _ _ _ made] at data
    rw [← data, Inbound.handlePacket_typed (Inbound.keyed_starts
      (.trackRequest { request with opts := request.opts.addAck.1 }) rfl rfl encrypted)] at arrived
    cases (Handler.bind_of_error dropped).symm.trans arrived

end Ubass

import Ubass.Processor.Inbound

/-!
# Authenticated packets

Which packets `deserialize_and_decrypt` returns only after their tag has verified.
Two kinds of tags occur: over the whole packet before the tag, and over the headers
and the encrypted payload.
-/

set_option autoImplicit false

namespace Ubass

universe u

variable {Key : Type u}

/-! ## The session id at byte 8 -/

theorem sessionId_append {front rest : List UInt8} {sessionId : SessionId} {after : Nat}
    (read : @Parser.field SessionId _ front 8 = .ok (sessionId, after)) :
    @Parser.field SessionId _ (front ++ rest) 8 = .ok (sessionId, after) := by
  rw [Parser.field_eq_ok] at read ⊢
  obtain ⟨inside, found, moved⟩ := read
  refine ⟨?_, ?_, moved⟩
  · rw [List.length_append]
    omega
  · have long : 8 ≤ (front.drop 8).length := Deserialize.sized_le _ _ found
    rw [List.drop_append_of_le_length inside, ← found]
    show (if _ < 8 then none else some (SessionId.mk (UInt64.ofNat (Bytes.ofBeBytes (List.take 8 _)))))
      = (if _ < 8 then none else some (SessionId.mk (UInt64.ofNat (Bytes.ofBeBytes (List.take 8 _)))))
    rw [if_neg (Nat.not_lt.mpr long), List.take_append_of_le_length long, if_neg]
    rw [List.length_append]
    omega

theorem bufferIdField_after {data : List UInt8} {offset after : Nat} {bufferId : Option BufferId}
    (read : bufferIdField data offset = .ok (bufferId, after)) : after = offset + 2 := by
  rw [bufferIdField, Parser.fieldWith] at read
  split at read
  · cases read
  · cases found : deserializeBufferId (data.drop offset) with
    | error stop =>
        rw [found] at read
        cases read
    | ok other =>
        rw [found] at read
        cases read
        rfl

theorem KeepAlivePacket.sessionId_read (data : List UInt8) :
    parser.Yields data 0 fun packet =>
      @Parser.field SessionId _ data 8 = .ok (packet.sessionId, 16) := by
  apply Parser.yields_field
  intro version _
  apply Parser.yields_field
  intro opts _
  apply Parser.yields_field
  intro packetType _
  apply Parser.yields_field
  intro reserved _
  apply Parser.yields_field
  intro sessionId sessionRead
  apply Parser.yields_field
  intro timestamp _
  exact Parser.yields_pure sessionRead

theorem PlaybackControlPacket.sessionId_read (data : List UInt8) :
    parser.Yields data 0 fun packet =>
      @Parser.field SessionId _ data 8 = .ok (packet.sessionId, 16) := by
  apply Parser.yields_field
  intro version _
  apply Parser.yields_field
  intro opts _
  apply Parser.yields_field
  intro packetType _
  apply Parser.yields_field
  intro controlType _
  apply Parser.yields_field
  intro reserved _
  apply Parser.yields_field
  intro sessionId sessionRead
  apply Parser.yields_field
  intro timestamp _
  apply Parser.yields_field
  intro seekPosition _
  exact Parser.yields_pure sessionRead

theorem CloseSessionPacket.sessionId_read (data : List UInt8) :
    parser.Yields data 0 fun packet =>
      @Parser.field SessionId _ data 8 = .ok (packet.sessionId, 16) := by
  apply Parser.yields_field
  intro version _
  apply Parser.yields_field
  intro opts _
  apply Parser.yields_field
  intro packetType _
  apply Parser.yields_field
  intro controlType _
  apply Parser.yields_field
  intro reserved _
  apply Parser.yields_field
  intro sessionId sessionRead
  apply Parser.yields_field
  intro timestamp _
  exact Parser.yields_pure sessionRead

theorem UnexpectedPacketErrorPacket.sessionId_read (data : List UInt8) :
    parser.Yields data 0 fun packet =>
      @Parser.field SessionId _ data 8 = .ok (packet.sessionId, 16) := by
  apply Parser.yields_field
  intro version _
  apply Parser.yields_field
  intro opts _
  apply Parser.yields_field
  intro packetType _
  apply Parser.yields_field
  intro errorType _
  apply Parser.yields_field
  intro reserved _
  apply Parser.yields_field
  intro sessionId sessionRead
  apply Parser.yields_field
  intro timestamp _
  apply Parser.yields_field
  intro receivedPacketType _
  apply Parser.yields_field
  intro receivedSecondaryType _
  apply Parser.yields_field
  intro receivedFingerprint _
  exact Parser.yields_pure sessionRead

theorem SessionDoesNotExistErrorPacket.sessionId_read (data : List UInt8) :
    parser.Yields data 0 fun packet =>
      @Parser.field SessionId _ data 8 = .ok (packet.sessionId, 16) := by
  apply Parser.yields_field
  intro version _
  apply Parser.yields_field
  intro opts _
  apply Parser.yields_field
  intro packetType _
  apply Parser.yields_field
  intro errorType _
  apply Parser.yields_field
  intro reserved _
  apply Parser.yields_field
  intro sessionId sessionRead
  apply Parser.yields_field
  intro timestamp _
  exact Parser.yields_pure sessionRead

theorem AckPacket.sessionId_read (data : List UInt8) :
    parser.Yields data 0 fun packet =>
      @Parser.field SessionId _ data 8 = .ok (packet.sessionId, 16) := by
  apply Parser.yields_field
  intro version _
  apply Parser.yields_field
  intro opts _
  apply Parser.yields_field
  intro packetType _
  apply Parser.yields_field
  intro reserved _
  apply Parser.yields_field
  intro sessionId sessionRead
  apply Parser.yields_field
  intro timestamp _
  apply Parser.yields_field
  intro fingerprint _
  exact Parser.yields_pure sessionRead

theorem RetransmitPacket.sessionId_read (data : List UInt8) :
    parser.Yields data 0 fun packet =>
      @Parser.field SessionId _ data 8 = .ok (packet.sessionId, 16) := by
  apply Parser.yields_field
  intro version _
  apply Parser.yields_field
  intro opts _
  apply Parser.yields_field
  intro packetType _
  apply Parser.yields_field
  intro controlType _
  apply Parser.yields_bind
  intro bufferId after bufferRead
  obtain rfl := bufferIdField_after bufferRead
  apply Parser.yields_field
  intro sessionId sessionRead
  apply Parser.yields_field
  intro timestamp _
  apply Parser.yields_fieldWith
  intro payload _ _
  exact sessionRead

/-! ## The payload after the headers -/

theorem DataPacket.payload_read (data : List UInt8) :
    parser.Yields data 0 fun packet => 30 ≤ data.length ∧ packet.payload = data.drop 30 := by
  apply Parser.yields_field
  intro version _
  apply Parser.yields_field
  intro opts _
  apply Parser.yields_field
  intro packetType _
  apply Parser.yields_field
  intro batchId _
  apply Parser.yields_field
  intro fecInfo _
  apply Parser.yields_field
  intro sessionId _
  apply Parser.yields_field
  intro timestamp _
  apply Parser.yields_field
  intro byteRangeStart _
  apply Parser.yields_fieldWith
  intro payload inside read
  cases read
  exact ⟨inside, rfl⟩

theorem ParityPacket.payload_read (data : List UInt8) :
    parser.Yields data 0 fun packet => 26 ≤ data.length ∧ packet.payload = data.drop 26 := by
  apply Parser.yields_field
  intro version _
  apply Parser.yields_field
  intro opts _
  apply Parser.yields_field
  intro packetType _
  apply Parser.yields_field
  intro batchId _
  apply Parser.yields_field
  intro fecInfo _
  apply Parser.yields_field
  intro sessionId _
  apply Parser.yields_field
  intro timestamp _
  apply Parser.yields_fieldWith
  intro payload inside read
  cases read
  exact ⟨inside, rfl⟩

theorem TrackRequestPacket.payload_read (data : List UInt8) :
    parser.Yields data 0 fun packet =>
      @Parser.field SessionId _ data 8 = .ok (packet.sessionId, 16) ∧
        24 ≤ data.length ∧ packet.payload = data.drop 24 := by
  apply Parser.yields_field
  intro version _
  apply Parser.yields_field
  intro opts _
  apply Parser.yields_field
  intro packetType _
  apply Parser.yields_field
  intro controlType _
  apply Parser.yields_field
  intro reserved _
  apply Parser.yields_field
  intro sessionId sessionRead
  apply Parser.yields_field
  intro timestamp _
  apply Parser.yields_fieldWith
  intro payload inside read
  cases read
  exact ⟨sessionRead, inside, rfl⟩

theorem TrackRejectionPacket.payload_read (data : List UInt8) :
    parser.Yields data 0 fun packet =>
      @Parser.field SessionId _ data 8 = .ok (packet.sessionId, 16) ∧
        24 ≤ data.length ∧ packet.payload = data.drop 24 := by
  apply Parser.yields_field
  intro version _
  apply Parser.yields_field
  intro opts _
  apply Parser.yields_field
  intro packetType _
  apply Parser.yields_field
  intro controlType _
  apply Parser.yields_field
  intro reserved _
  apply Parser.yields_field
  intro sessionId sessionRead
  apply Parser.yields_field
  intro timestamp _
  apply Parser.yields_fieldWith
  intro payload inside read
  cases read
  exact ⟨sessionRead, inside, rfl⟩

namespace Packet

theorem length_headers_data (packet : DataPacket) : (data packet).headers.length = 30 := by
  simp only [headers, furtherHeaders, List.length_append, Serialize.length_serialize]
  rfl

theorem length_headers_parity (packet : ParityPacket) : (parity packet).headers.length = 26 := by
  simp only [headers, furtherHeaders, List.length_append, Serialize.length_serialize]
  rfl

theorem length_headers_trackRequest (packet : TrackRequestPacket) :
    (trackRequest packet).headers.length = 24 := by
  simp only [headers, furtherHeaders, List.length_append, Serialize.length_serialize]
  rfl

theorem length_headers_trackRejection (packet : TrackRejectionPacket) :
    (trackRejection packet).headers.length = 24 := by
  simp only [headers, furtherHeaders, List.length_append, Serialize.length_serialize]
  rfl

end Packet
namespace Inbound

/-! ## Tags -/

section Tags

variable (aead : Aead Key) (table : EncryptionTable Key)

/-- The tag before the counter verifies for everything before it. -/
def WholeVerified (sessionId : SessionId) (data : List UInt8) : Prop :=
  ∃ cipher packet tag counter,
    table.getCipher sessionId = some cipher ∧ data = packet ++ (tag ++ counter) ∧
    tag.length = 16 ∧ counter.length = 8 ∧
    (aead.decryptInPlace cipher (getNonce sessionId counter) packet tag).isSome = true

/-- The tag before the counter verifies for the headers and the encrypted payload after them. -/
def PayloadVerified (sessionId : SessionId) (headers data : List UInt8) : Prop :=
  ∃ cipher front buffer counter,
    table.getCipher sessionId = some cipher ∧ data = front ++ (buffer ++ counter) ∧
    front.length = headers.length ∧ counter.length = 8 ∧
    (aead.decryptInPlace cipher (getNonce sessionId counter) headers buffer).isSome = true

/-- The tag of the datagram verifies under the cipher stored for the session of the packet. -/
def TagVerified (data : List UInt8) : WirePacket → Prop
  | .keyed packet =>
      match packet with
      | .data _ | .parity _ | .trackRequest _ | .trackRejection _ =>
          PayloadVerified aead table packet.sessionId packet.headers data
      | _ => WholeVerified aead table packet.sessionId data
  | .ack packet => WholeVerified aead table packet.sessionId data
  | .keepAlive packet => WholeVerified aead table packet.sessionId data
  | .sessionDoesNotExistError packet => WholeVerified aead table packet.sessionId data
  | .handshakeAck _ | .handshakeRejection _ | .incompatibleVersion _ => False

end Tags

variable {aead : Aead Key} {table : EncryptionTable Key}

theorem authenticate_ok {sessionId : SessionId} {data packet : List UInt8}
    (h : authenticate aead table sessionId data = .ok packet) :
    WholeVerified aead table sessionId data ∧ ∃ rest, data = packet ++ rest := by
  rw [authenticate] at h
  cases stored : table.getCipher sessionId with
  | none =>
      rw [stored] at h
      cases h
  | some cipher =>
      rw [stored] at h
      dsimp only at h
      split at h
      · cases h
      · split at h
        · cases h
        · rename_i counterFits tagFits
          split at h
          · cases h
          · rename_i plain verified
            cases h
            have counterSplit : data.take (data.length - 8) ++ data.drop (data.length - 8) = data :=
              List.take_append_drop _ _
            have tagSplit := List.take_append_drop ((data.take (data.length - 8)).length - 16)
              (data.take (data.length - 8))
            have whole : data = (data.take (data.length - 8)).take
                  ((data.take (data.length - 8)).length - 16) ++
                ((data.take (data.length - 8)).drop ((data.take (data.length - 8)).length - 16) ++
                  data.drop (data.length - 8)) := by
              rw [← List.append_assoc, tagSplit, counterSplit]
            refine ⟨⟨cipher, _, _, _, stored, whole, ?_, ?_, Option.isSome_of_eq_some verified⟩,
              _, whole⟩
            · rw [List.length_drop]
              omega
            · rw [List.length_drop]
              omega

theorem decrypt_ok {sessionId : SessionId} {headers data plain : List UInt8} {size : Nat}
    (long : size ≤ data.length) (length : headers.length = size)
    (h : decrypt aead table sessionId headers (data.drop size) = .ok plain) :
    PayloadVerified aead table sessionId headers data := by
  rw [decrypt] at h
  split at h
  · cases h
  · rename_i counterFits
    cases stored : table.getCipher sessionId with
    | none =>
        rw [stored] at h
        cases h
    | some cipher =>
        rw [stored] at h
        dsimp only at h
        split at h
        · cases h
        · rename_i plain' verified
          refine ⟨cipher, data.take size, _, _, stored, ?_, ?_, ?_,
            Option.isSome_of_eq_some verified⟩
          · rw [List.take_append_drop, List.take_append_drop]
          · rw [List.length_take, length]
            omega
          · rw [List.length_drop]
            omega

/-- The session of what is read from an authenticated packet is the one it was authenticated
for. -/
theorem whole_authentic {Value : Type} {parser : Parser Value} {sessionOf : Value → SessionId}
    (reads : ∀ data, parser.Yields data 0 fun packet =>
      @Parser.field SessionId _ data 8 = .ok (sessionOf packet, 16))
    {sessionId : SessionId} {data stripped : List UInt8} {packet : Value}
    (sessionRead : (@Parser.field SessionId _).parseFrom data 8 = .ok sessionId)
    (authenticated : authenticate aead table sessionId data = .ok stripped)
    (parsed : parser.parse stripped = .ok packet) :
    WholeVerified aead table (sessionOf packet) data := by
  obtain ⟨verified, rest, split⟩ := authenticate_ok authenticated
  have inner := @sessionId_append _ rest _ _ ((reads stripped).of_parse parsed)
  rw [← split] at inner
  have same : sessionOf packet = sessionId := by
    cases inner.symm.trans (Parser.parseFrom_field_eq_ok.mp sessionRead)
    rfl
  rw [same]
  exact verified

end Inbound

def WirePacket.isHandshake : WirePacket → Bool
  | keyed (.hello _) | handshakeAck _ | handshakeRejection _ => true
  | _ => false

namespace Inbound

variable {aead : Aead Key} {xxh3_128 : List UInt8 → PacketFingerprint} {debugAssertions : Bool}
  {table : EncryptionTable Key} {now : Timestamp}

def Authentic (aead : Aead Key) (table : EncryptionTable Key) (data : List UInt8)
    (packet : WirePacket) : Prop :=
  packet.isHandshake = false → TagVerified aead table data packet

theorem controlPacket_authentic {data : List UInt8} {sessionId : SessionId}
    (sessionRead : (@Parser.field SessionId _).parseFrom data 8 = .ok sessionId) :
    (deserializeAndAuthControlPacket aead xxh3_128 debugAssertions table now data
      sessionId).Yields (Authentic aead table data) := by
  apply Handler.yields_lift_bind
  intro controlType _
  match controlType with
  | .host .hello =>
      apply Handler.yields_lift_bind
      intro packet _
      apply Handler.yields_bind
      intro _
      exact Handler.yields_pure nofun
  | .host .handshakeReject =>
      apply Handler.yields_lift_bind
      intro packet _
      exact Handler.yields_pure nofun
  | .session .retransmit =>
      apply Handler.yields_lift_bind
      intro stripped authenticated
      apply Handler.yields_lift_bind
      intro packet parsed
      apply Handler.yields_bind
      intro _
      apply Handler.yields_pure
      intro _
      exact whole_authentic RetransmitPacket.sessionId_read sessionRead authenticated parsed
  | .session .trackRequest =>
      apply Handler.yields_lift_bind
      intro packet parsed
      obtain ⟨inner, long, payload⟩ := (TrackRequestPacket.payload_read data).of_parse parsed
      cases inner.symm.trans (Parser.parseFrom_field_eq_ok.mp sessionRead)
      apply Handler.yields_lift_bind
      intro plain decrypted
      apply Handler.yields_bind
      intro _
      apply Handler.yields_pure
      intro _
      rw [payload] at decrypted
      exact decrypt_ok long (Packet.length_headers_trackRequest packet) decrypted
  | .session .metadataRequest => exact fun _ _ h => nomatch h
  | .session .close =>
      apply Handler.yields_lift_bind
      intro stripped authenticated
      apply Handler.yields_bind
      intro _
      apply Handler.yields_lift_bind
      intro packet parsed
      apply Handler.yields_pure
      intro _
      exact whole_authentic CloseSessionPacket.sessionId_read sessionRead authenticated parsed
  | .session .trackReject =>
      apply Handler.yields_lift_bind
      intro packet parsed
      obtain ⟨inner, long, payload⟩ := (TrackRejectionPacket.payload_read data).of_parse parsed
      cases inner.symm.trans (Parser.parseFrom_field_eq_ok.mp sessionRead)
      apply Handler.yields_lift_bind
      intro plain decrypted
      apply Handler.yields_bind
      intro _
      apply Handler.yields_pure
      intro _
      rw [payload] at decrypted
      exact decrypt_ok long (Packet.length_headers_trackRejection packet) decrypted
  | .playback _ =>
      apply Handler.yields_lift_bind
      intro stripped authenticated
      apply Handler.yields_bind
      intro _
      apply Handler.yields_lift_bind
      intro packet parsed
      apply Handler.yields_pure
      intro _
      exact whole_authentic PlaybackControlPacket.sessionId_read sessionRead authenticated parsed

theorem errorPacket_authentic {data : List UInt8} {sessionId : SessionId}
    (sessionRead : (@Parser.field SessionId _).parseFrom data 8 = .ok sessionId) :
    (deserializeAndAuthErrorPacket aead xxh3_128 table now data sessionId).Yields
      (Authentic aead table data) := by
  have unexpected : (do
      let data ← Handler.lift (authenticate aead table sessionId data)
      dedup now (xxh3_128 data)
      let packet ← Handler.lift (UnexpectedPacketErrorPacket.parser.parse data)
      return WirePacket.keyed (.unexpectedPacketError packet)).Yields
        (Authentic aead table data) := by
    apply Handler.yields_lift_bind
    intro stripped authenticated
    apply Handler.yields_bind
    intro _
    apply Handler.yields_lift_bind
    intro packet parsed
    apply Handler.yields_pure
    intro _
    exact whole_authentic UnexpectedPacketErrorPacket.sessionId_read sessionRead authenticated
      parsed
  apply Handler.yields_lift_bind
  intro errorType _
  match errorType with
  | .unexpectedPacket => exact unexpected
  | .incomprehensiblePacket => exact unexpected
  | .sessionDoesNotExist =>
      apply Handler.yields_lift_bind
      intro stripped authenticated
      apply Handler.yields_bind
      intro _
      apply Handler.yields_lift_bind
      intro packet parsed
      apply Handler.yields_pure
      intro _
      exact whole_authentic SessionDoesNotExistErrorPacket.sessionId_read sessionRead authenticated
        parsed

/-! ## Acknowledgements -/

theorem parse_ack {data : List UInt8} {type : PacketType}
    (typeRead : (@Parser.field PacketType _).parseFrom data 4 = .ok type) :
    (∃ packet, AckPacket.parser.parse data = .ok packet) ↔ 40 ≤ data.length := by
  constructor
  · rintro ⟨packet, parsed⟩
    have long : AckPacket.parser.Yields data 0 fun _ => 40 ≤ data.length := by
      apply Parser.yields_field
      intro version _
      apply Parser.yields_field
      intro opts _
      apply Parser.yields_field
      intro packetType _
      apply Parser.yields_field
      intro reserved _
      apply Parser.yields_field
      intro sessionId _
      apply Parser.yields_field
      intro timestamp _
      apply Parser.yields_field
      intro fingerprint read
      apply Parser.yields_pure
      obtain ⟨inside, found, -⟩ := Parser.field_eq_ok.mp read
      have room : 16 ≤ (data.drop 24).length := Deserialize.sized_le _ _ found
      rw [List.length_drop] at room
      omega
    exact long.of_parse parsed
  · intro long
    obtain ⟨version, versionRead⟩ :=
      always_version.field (show 2 = 0 + 2 by rfl) (show 2 ≤ data.length by omega)
    obtain ⟨opts, optsRead⟩ :=
      always_options.field (show 4 = 2 + 2 by rfl) (show 4 ≤ data.length by omega)
    obtain ⟨reserved, reservedRead⟩ :=
      (always_reserved 3).field (show 8 = 5 + 3 by rfl) (show 8 ≤ data.length by omega)
    obtain ⟨session, sessionRead⟩ :=
      always_sessionId.field (show 16 = 8 + 8 by rfl) (show 16 ≤ data.length by omega)
    obtain ⟨timestamp, timestampRead⟩ :=
      always_timestamp.field (show 24 = 16 + 8 by rfl) (show 24 ≤ data.length by omega)
    obtain ⟨fingerprint, fingerprintRead⟩ :=
      always_packetFingerprint.field (show 40 = 24 + 16 by rfl) long
    have read : AckPacket.parser data 0 =
        .ok (⟨version, opts, type, reserved, session, timestamp, fingerprint⟩, 40) := by
      refine (Parser.bind_of_ok versionRead).trans ?_
      refine (Parser.bind_of_ok optsRead).trans ?_
      refine (Parser.bind_of_ok (Parser.parseFrom_field_eq_ok.mp typeRead)).trans ?_
      refine (Parser.bind_of_ok reservedRead).trans ?_
      refine (Parser.bind_of_ok sessionRead).trans ?_
      refine (Parser.bind_of_ok timestampRead).trans ?_
      exact Parser.bind_of_ok fingerprintRead
    refine ⟨⟨version, opts, type, reserved, session, timestamp, fingerprint⟩, ?_⟩
    rw [Parser.parse, read]
    rfl

/-! ## All packets -/

/-- Every packet that is no packet of the handshake and that `deserialize_and_decrypt` returns
has had its tag verified. -/
def OnlyAuthentic (aead : Aead Key) (xxh3_128 : List UInt8 → PacketFingerprint)
    (debugAssertions : Bool) (table : EncryptionTable Key) (now : Timestamp) (type : PacketType)
    (data : List UInt8) (window : FingerprintWindow) : Prop :=
  ∀ packet,
    (deserializeAndDecrypt aead xxh3_128 debugAssertions table now type data).Returns window
      packet → packet.isHandshake = false → TagVerified aead table data packet

theorem deserializeAndDecrypt_authentic {type : PacketType} {data : List UInt8}
    (notAck : type ≠ .ack) :
    (deserializeAndDecrypt aead xxh3_128 debugAssertions table now type data).Yields
      (Authentic aead table data) := by
  apply Handler.yields_lift_bind
  intro sessionId sessionRead
  match type with
  | .data =>
      apply Handler.yields_lift_bind
      intro packet parsed
      obtain ⟨long, payload⟩ := (DataPacket.payload_read data).of_parse parsed
      apply Handler.yields_lift_bind
      intro plain decrypted
      apply Handler.yields_pure
      intro _
      rw [payload] at decrypted
      exact decrypt_ok long (Packet.length_headers_data packet) decrypted
  | .parity =>
      apply Handler.yields_lift_bind
      intro packet parsed
      obtain ⟨long, payload⟩ := (ParityPacket.payload_read data).of_parse parsed
      apply Handler.yields_lift_bind
      intro plain decrypted
      apply Handler.yields_pure
      intro _
      rw [payload] at decrypted
      exact decrypt_ok long (Packet.length_headers_parity packet) decrypted
  | .ack => exact absurd rfl notAck
  | .keepAlive =>
      apply Handler.yields_lift_bind
      intro stripped authenticated
      apply Handler.yields_lift_bind
      intro packet parsed
      apply Handler.yields_pure
      intro _
      exact whole_authentic KeepAlivePacket.sessionId_read sessionRead authenticated parsed
  | .handshakeAck =>
      apply Handler.yields_bind
      intro _
      apply Handler.yields_lift_bind
      intro packet _
      exact Handler.yields_pure nofun
  | .metadata => exact fun _ _ h => nomatch h
  | .host => exact controlPacket_authentic sessionRead
  | .session => exact controlPacket_authentic sessionRead
  | .playback => exact controlPacket_authentic sessionRead
  | .error => exact errorPacket_authentic sessionRead

/-- Only authenticated packets are returned, unless the datagram is an acknowledgement: that one
is returned whenever it has 40 bytes, whether its tag verifies or not. -/
theorem onlyAuthentic_iff (aead : Aead Key) (xxh3_128 : List UInt8 → PacketFingerprint)
    (debugAssertions : Bool) (table : EncryptionTable Key) (now : Timestamp) (data : List UInt8)
    (window : FingerprintWindow) (type : PacketType)
    (typeRead : (@Parser.field PacketType _).parseFrom data 4 = .ok type) :
    OnlyAuthentic aead xxh3_128 debugAssertions table now type data window ↔
      (type = .ack → 40 ≤ data.length →
        ∃ sessionId, (@Parser.field SessionId _).parseFrom data 8 = .ok sessionId ∧
          WholeVerified aead table sessionId data) := by
  by_cases ack : type = .ack
  · subst ack
    constructor
    · intro only _ long
      obtain ⟨packet, parsed⟩ := (parse_ack typeRead).mpr long
      have sessionRead := (AckPacket.sessionId_read data).of_parse parsed
      have sessionRead : (@Parser.field SessionId _).parseFrom data 8 = .ok packet.sessionId :=
        Parser.parseFrom_field_eq_ok.mpr sessionRead
      refine ⟨packet.sessionId, sessionRead, only (.ack packet) ?_ rfl⟩
      rw [deserializeAndDecrypt, Handler.lift_bind sessionRead]
      dsimp only
      rw [Handler.lift_bind parsed]
      rfl
    · intro verified
      have yields : (deserializeAndDecrypt aead xxh3_128 debugAssertions table now .ack
          data).Yields (Authentic aead table data) := by
        apply Handler.yields_lift_bind
        intro sessionId sessionRead
        apply Handler.yields_lift_bind
        intro packet parsed
        apply Handler.yields_pure
        intro _
        obtain ⟨other, read, whole⟩ := verified rfl ((parse_ack typeRead).mp ⟨packet, parsed⟩)
        have inner := Parser.parseFrom_field_eq_ok.mpr
          ((AckPacket.sessionId_read data).of_parse parsed)
        cases inner.symm.trans read
        exact whole
      exact fun packet returned => yields window packet returned
  · constructor
    · intro _ h
      exact absurd h ack
    · intro _ packet returned
      exact deserializeAndDecrypt_authentic ack window packet returned

/-- The tag of a `KeepAlivePacket` of session 7, created at 5 ms, under the key 0, 1, …, 31 and
the counter 0. -/
def keepAliveTag : KnownAnswer (List UInt8) where
  key := (List.range 32).map UInt8.ofNat
  nonce := List.replicate 12 0
  associatedData := (KeepAlivePacket.new Options.none ⟨7⟩ ⟨5, by decide⟩).serialize
  plain := []
  cipher := [154, 102, 65, 137, 127, 43, 85, 188, 149, 45, 152, 98, 70, 168, 121, 79]
  length_cipher := rfl
  tag_ne := by decide

def sessionSeven : EncryptionTable (List UInt8) :=
  Table.empty.insert ⟨7⟩ (EncryptionWindow.new keepAliveTag.key)

theorem onlyAuthentic_iff_keepAlive :
    let data := keepAliveTag.associatedData ++ keepAliveTag.cipher ++ List.replicate 8 0
    let xxh3_128 := fun _ => (⟨List.replicate 16 0, rfl⟩ : PacketFingerprint)
    (deserializeAndDecrypt keepAliveTag.aead xxh3_128 true sessionSeven ⟨6, by decide⟩ .keepAlive
        data).Returns FingerprintWindow.new
      (.keepAlive (KeepAlivePacket.new Options.none ⟨7⟩ ⟨5, by decide⟩)) ∧
    OnlyAuthentic keepAliveTag.aead xxh3_128 true sessionSeven ⟨6, by decide⟩ .keepAlive data
      FingerprintWindow.new := by
  intro data xxh3_128
  refine ⟨?_, ?_⟩
  · unfold Handler.Returns
    decide +kernel
  · exact (onlyAuthentic_iff _ _ _ _ _ data _ .keepAlive (by decide +kernel)).mpr nofun

/-- An acknowledgement that nobody has tagged, for a session that nobody has a key of, is
returned. -/
theorem forged_ack_returned :
    let packet := AckPacket.new Options.none ⟨7⟩ ⟨List.replicate 16 0, rfl⟩ ⟨5, by decide⟩
    let xxh3_128 := fun _ => (⟨List.replicate 16 0, rfl⟩ : PacketFingerprint)
    (@Parser.field PacketType _).parseFrom packet.serialize 4 = .ok .ack ∧
    (deserializeAndDecrypt emptyTag.aead xxh3_128 true Table.empty ⟨6, by decide⟩ .ack
      packet.serialize).Returns FingerprintWindow.new (.ack packet) ∧
    ¬ OnlyAuthentic emptyTag.aead xxh3_128 true Table.empty ⟨6, by decide⟩ .ack
      packet.serialize FingerprintWindow.new := by
  intro packet xxh3_128
  have returned : (deserializeAndDecrypt emptyTag.aead xxh3_128 true Table.empty ⟨6, by decide⟩
      .ack packet.serialize).Returns FingerprintWindow.new (.ack packet) := by
    have sessionRead : (@Parser.field SessionId _).parseFrom packet.serialize 8 = .ok ⟨7⟩ := by
      decide +kernel
    have parsed : AckPacket.parser.parse packet.serialize = .ok packet := by
      decide +kernel
    rw [deserializeAndDecrypt, Handler.lift_bind sessionRead]
    dsimp only
    rw [Handler.lift_bind parsed]
    rfl
  refine ⟨by decide +kernel, returned, ?_⟩
  intro only
  obtain ⟨cipher, _, _, _, stored, -⟩ := only (.ack packet) returned rfl
  cases stored

end Inbound
end Ubass

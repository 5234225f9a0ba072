import Ubass.Manager.Acknowledged

/-!
# Packets of a stream on the wire

Which datagrams can be taken for a data packet or a parity packet.  The type stands in
the first five bytes of every packet; the headers are what the tag of an encrypted
packet is over besides its payload.
-/

set_option autoImplicit false

namespace Ubass

universe u

variable {Key : Type u}

/-- A packet of any other kind than those of a stream, as the constructors make it. -/
structure OtherPacket where
  packet : WirePacket
  created : packet.Created
  notData : ∀ inner, packet ≠ .keyed (.data inner)
  notParity : ∀ inner, packet ≠ .keyed (.parity inner)

/-! ## The first bytes of a datagram -/

open Serialize

/-- The type of a packet stands after its version and its options. -/
def Starts (type : PacketType) (data : List UInt8) : Prop :=
  ∃ (version : Version) (opts : Options) (rest : List UInt8),
    data = serialize version ++ (serialize opts ++ (serialize type ++ rest))

theorem Starts.unique {left right : PacketType} {data : List UInt8} (first : Starts left data)
    (second : Starts right data) : left = right := by
  obtain ⟨version, opts, rest, rfl⟩ := first
  obtain ⟨otherVersion, otherOpts, otherRest, same⟩ := second
  obtain ⟨-, same⟩ := append_inj.mp same
  obtain ⟨-, same⟩ := append_inj.mp same
  exact (append_inj.mp same).1

theorem starts_headers (packet : Packet) (rest : List UInt8) :
    Starts packet.packetType (packet.headers ++ rest) := by
  refine ⟨packet.version, packet.opts, packet.furtherHeaders ++ rest, ?_⟩
  rw [Packet.headers]
  simp only [List.append_assoc]

theorem Starts.append {type : PacketType} {data : List UInt8} (starts : Starts type data)
    (rest : List UInt8) : Starts type (data ++ rest) := by
  obtain ⟨version, opts, further, rfl⟩ := starts
  exact ⟨version, opts, further ++ rest, by simp only [List.append_assoc]⟩

theorem Starts.five_le {type : PacketType} {data : List UInt8} (starts : Starts type data) :
    5 ≤ data.length := by
  obtain ⟨version, opts, further, rfl⟩ := starts
  have sizes : (serialize version).length = 2 ∧ (serialize opts).length = 2 ∧
      (serialize type).length = 1 :=
    ⟨length_serialize _, length_serialize _, length_serialize _⟩
  simp only [List.length_append]
  omega

/-! ## What leaves an end -/

section Sealed

variable {aead : Aead Key}

theorem getCipher_advance {table : EncryptionTable Key} {sessionId : SessionId}
    {window : EncryptionWindow Key} (found : table.get sessionId = some window)
    (other : SessionId) :
    EncryptionTable.getCipher (Table.insert table sessionId window.get.2) other =
      table.getCipher other := by
  rw [EncryptionTable.getCipher, EncryptionTable.getCipher]
  by_cases same : other = sessionId
  · subst same
    rw [Table.get_insert_self, found]
    rfl
  · rw [Table.get_insert_of_ne _ _ same]

theorem processEncrypted_getCipher (table : EncryptionTable Key) (packet : Packet)
    (other : SessionId) :
    (Outbound.processEncrypted aead table packet).2.getCipher other = table.getCipher other := by
  rw [Outbound.processEncrypted, encrypt]
  cases found : table.get packet.sessionId with
  | none => rfl
  | some window => exact getCipher_advance found other

theorem processAuthenticated_getCipher (table : EncryptionTable Key) (packet : WirePacket)
    (sessionId other : SessionId) :
    (Outbound.processAuthenticated aead table packet sessionId).2.getCipher other =
      table.getCipher other := by
  rw [Outbound.processAuthenticated, tag]
  cases found : table.get sessionId with
  | none => rfl
  | some window => exact getCipher_advance found other

theorem transmit_getCipher {table after : EncryptionTable Key} {packet : WirePacket}
    {addr : SocketAddr} {processed : ProcessedPacket}
    (sent : Outbound.transmit aead table packet addr = .ok (processed, after))
    (other : SessionId) : after.getCipher other = table.getCipher other := by
  unfold Outbound.transmit at sent
  split at sent
  · cases sent
    exact processEncrypted_getCipher _ _ _
  · unfold Outbound.handlePacket at sent
    dsimp only at sent
    split at sent <;> cases sent
    all_goals
      first
        | rfl
        | exact processEncrypted_getCipher _ _ _
        | exact processAuthenticated_getCipher _ _ _ _

theorem processEncrypted_opens {table : EncryptionTable Key} {packet : Packet} {key : Key}
    (stored : table.getCipher packet.sessionId = some key) :
    ∃ sealed, (Outbound.processEncrypted aead table packet).1 = packet.headers ++ sealed ∧
      ∀ (other : EncryptionTable Key) (plain : List UInt8),
        other.getCipher packet.sessionId = some key →
        Inbound.decrypt aead other packet.sessionId packet.headers sealed = .ok plain →
          plain = packet.payload := by
  obtain ⟨window, found, rfl⟩ := getCipher_eq_some.mp stored
  have made : Outbound.processEncrypted aead table packet = (packet.headers ++
      (aead.encryptInPlace window.cipher (getNonce packet.sessionId
        (Bytes.beBytes 8 window.nonce.toNat)) packet.headers packet.payload ++
          Bytes.beBytes 8 window.nonce.toNat),
      Table.insert table packet.sessionId { window with nonce := window.nonce + 1 }) := by
    rw [Outbound.processEncrypted, encrypt, found]
    rfl
  rw [made]
  refine ⟨_, rfl, ?_⟩
  intro other plain received opened
  have counter : (Bytes.beBytes 8 window.nonce.toNat).length = 8 := Bytes.length_beBytes 8 _
  have decrypts := aead.decrypt_encrypt window.cipher (getNonce packet.sessionId
    (Bytes.beBytes 8 window.nonce.toNat)) packet.headers packet.payload
  generalize aead.encryptInPlace window.cipher (getNonce packet.sessionId
    (Bytes.beBytes 8 window.nonce.toNat)) packet.headers packet.payload = encrypted
    at decrypts opened
  generalize Bytes.beBytes 8 window.nonce.toNat = bytes at counter decrypts opened
  have counterStart : (encrypted ++ bytes).length - 8 = encrypted.length := by
    rw [List.length_append, counter, Nat.add_sub_cancel]
  rw [Inbound.decrypt] at opened
  split at opened
  · cases opened
  · rw [received] at opened
    dsimp only at opened
    rw [counterStart, List.drop_left, List.take_left, decrypts] at opened
    cases opened
    rfl

theorem starts_processEncrypted (table : EncryptionTable Key) (packet : Packet) :
    Starts packet.packetType (Outbound.processEncrypted aead table packet).1 := by
  obtain ⟨rest, front⟩ := @Inbound.processEncrypted_front Key aead table packet
  rw [front]
  exact starts_headers packet rest

theorem starts_processAuthenticated (table : EncryptionTable Key) {packet : WirePacket}
    {type : PacketType} (starts : Starts type packet.serialize) (sessionId : SessionId) :
    Starts type (Outbound.processAuthenticated aead table packet sessionId).1 := by
  obtain ⟨rest, front⟩ := @Inbound.processAuthenticated_front Key aead table packet sessionId
  rw [front]
  exact starts.append rest

theorem OtherPacket.not_starts {table after : EncryptionTable Key} (other : OtherPacket)
    {addr : SocketAddr} {processed : ProcessedPacket}
    (sent : Outbound.transmit aead table other.packet addr = .ok (processed, after)) :
    ¬ Starts .data processed.data ∧ ¬ Starts .parity processed.data := by
  have apart : ∀ type, Starts type processed.data → type ≠ .data → type ≠ .parity →
      ¬ Starts .data processed.data ∧ ¬ Starts .parity processed.data := by
    intro type starts notData notParity
    exact ⟨fun data => notData (starts.unique data), fun parity => notParity (starts.unique parity)⟩
  obtain ⟨packet, created, notData, notParity⟩ := other
  cases created with
  | keyed created =>
      cases created with
      | data => exact absurd rfl (notData _)
      | parity => exact absurd rfl (notParity _)
      | metadata => cases sent
      | hello =>
          cases sent
          exact apart .host (starts_headers _ _) nofun nofun
      | requestTrack =>
          cases sent
          exact apart .session (starts_processEncrypted table _) nofun nofun
      | requestMetadata =>
          cases sent
          exact apart .session (starts_processEncrypted table _) nofun nofun
      | trackRejection =>
          cases sent
          exact apart .session (starts_processEncrypted table _) nofun nofun
      | retransmitData =>
          cases sent
          exact apart .session (starts_processAuthenticated table (starts_headers _ _) _)
            nofun nofun
      | retransmitMetadata =>
          cases sent
          exact apart .session (starts_processAuthenticated table (starts_headers _ _) _)
            nofun nofun
      | closeSession =>
          cases sent
          exact apart .session (starts_processAuthenticated table (starts_headers _ _) _)
            nofun nofun
      | playbackControl =>
          cases sent
          exact apart .playback (starts_processAuthenticated table (starts_headers _ _) _)
            nofun nofun
      | unexpectedPacketError =>
          cases sent
          exact apart .error (starts_processAuthenticated table (starts_headers _ _) _)
            nofun nofun
  | ack =>
      cases sent
      exact apart .ack (starts_processAuthenticated table ⟨_, _, _, rfl⟩ _) nofun nofun
  | keepAlive =>
      cases sent
      exact apart .keepAlive (starts_processAuthenticated table ⟨_, _, _, rfl⟩ _) nofun nofun
  | sessionDoesNotExistError =>
      cases sent
      exact apart .error (starts_processAuthenticated table ⟨_, _, _, rfl⟩ _) nofun nofun
  | handshakeAck =>
      cases sent
      exact apart .handshakeAck ⟨_, _, _, rfl⟩ nofun nofun
  | handshakeRejection =>
      cases sent
      exact apart .host ⟨_, _, _, rfl⟩ nofun nofun
  | incompatibleVersion =>
      -- the error that no version has to understand ends before there could be a type
      have short : ¬ 5 ≤ IncompatibleVersionPacket.packet.serialize.length := by decide
      cases sent
      exact ⟨fun starts => short starts.five_le, fun starts => short starts.five_le⟩

end Sealed

/-! ## What comes in -/

theorem DataPacket.packetType_read (data : List UInt8) :
    parser.Yields data 0 fun packet =>
      @Parser.field PacketType _ data 4 = .ok (packet.packetType, 5) := by
  apply Parser.yields_field
  intro version _
  apply Parser.yields_field
  intro opts _
  apply Parser.yields_field
  intro packetType typeRead
  apply Parser.yields_field
  intro batchId _
  apply Parser.yields_field
  intro fecInfo _
  apply Parser.yields_field
  intro sessionId _
  apply Parser.yields_field
  intro timestamp _
  apply Parser.yields_field
  intro byteRangeStart _
  apply Parser.yields_fieldWith
  intro payload _ _
  exact typeRead

theorem ParityPacket.packetType_read (data : List UInt8) :
    parser.Yields data 0 fun packet =>
      @Parser.field PacketType _ data 4 = .ok (packet.packetType, 5) := by
  apply Parser.yields_field
  intro version _
  apply Parser.yields_field
  intro opts _
  apply Parser.yields_field
  intro packetType typeRead
  apply Parser.yields_field
  intro batchId _
  apply Parser.yields_field
  intro fecInfo _
  apply Parser.yields_field
  intro sessionId _
  apply Parser.yields_field
  intro timestamp _
  apply Parser.yields_fieldWith
  intro payload _ _
  exact typeRead

namespace Packet

theorem wellFormed_data {packet : DataPacket} (type : packet.packetType = .data) :
    (data packet).WellFormed where
  kind := by
    rw [packetType, type]
    rfl
  bufferId := by
    intro inner same
    cases same

theorem wellFormed_parity {packet : ParityPacket} (type : packet.packetType = .parity) :
    (parity packet).WellFormed where
  kind := by
    rw [packetType, type]
    rfl
  bufferId := by
    intro inner same
    cases same

end Packet

namespace Inbound

variable {aead : Aead Key} {xxh3_128 : List UInt8 → PacketFingerprint} {debugAssertions : Bool}
  {table : EncryptionTable Key} {now : Timestamp}

/-- A packet of a stream has the type of one, and its payload is what the bytes after its headers
open to. -/
def Opened (aead : Aead Key) (table : EncryptionTable Key) (data : List UInt8)
    (received : WirePacket) : Prop :=
  ∀ packet, received = .keyed packet → packet.kind = .data ∨ packet.kind = .parity →
    packet.WellFormed ∧ decrypt aead table packet.sessionId packet.headers
      (data.drop packet.headers.length) = .ok packet.payload

theorem opened_of_kind {data : List UInt8} {packet : Packet} (notData : packet.kind ≠ .data)
    (notParity : packet.kind ≠ .parity) : Opened aead table data (.keyed packet) := by
  intro other same kinds
  cases same
  rcases kinds with isData | isParity
  · exact absurd isData notData
  · exact absurd isParity notParity

theorem opened_of_other {data : List UInt8} {received : WirePacket}
    (other : ∀ packet, received ≠ .keyed packet) : Opened aead table data received :=
  fun packet same => absurd same (other packet)

theorem controlPacket_opened (data : List UInt8) (sessionId : SessionId) :
    (deserializeAndAuthControlPacket aead xxh3_128 debugAssertions table now data
      sessionId).Yields (Opened aead table data) := by
  apply Handler.yields_bind
  intro controlType
  match controlType with
  | .host .hello =>
      apply Handler.yields_bind
      intro packet
      apply Handler.yields_bind
      intro _
      exact Handler.yields_pure (opened_of_kind nofun nofun)
  | .host .handshakeReject =>
      apply Handler.yields_bind
      intro packet
      exact Handler.yields_pure (opened_of_other fun _ same => by cases same)
  | .session .retransmit =>
      apply Handler.yields_bind
      intro stripped
      apply Handler.yields_bind
      intro packet
      apply Handler.yields_bind
      intro _
      exact Handler.yields_pure (opened_of_kind nofun nofun)
  | .session .trackRequest =>
      apply Handler.yields_bind
      intro packet
      apply Handler.yields_bind
      intro payload
      apply Handler.yields_bind
      intro _
      exact Handler.yields_pure (opened_of_kind nofun nofun)
  | .session .metadataRequest => exact fun _ _ returned => nomatch returned
  | .session .close =>
      apply Handler.yields_bind
      intro stripped
      apply Handler.yields_bind
      intro _
      apply Handler.yields_bind
      intro packet
      exact Handler.yields_pure (opened_of_kind nofun nofun)
  | .session .trackReject =>
      apply Handler.yields_bind
      intro packet
      apply Handler.yields_bind
      intro payload
      apply Handler.yields_bind
      intro _
      exact Handler.yields_pure (opened_of_kind nofun nofun)
  | .playback _ =>
      apply Handler.yields_bind
      intro stripped
      apply Handler.yields_bind
      intro _
      apply Handler.yields_bind
      intro packet
      exact Handler.yields_pure (opened_of_kind nofun nofun)

theorem errorPacket_opened (data : List UInt8) (sessionId : SessionId) :
    (deserializeAndAuthErrorPacket aead xxh3_128 table now data sessionId).Yields
      (Opened aead table data) := by
  have unexpected : (do
      let data ← Handler.lift (authenticate aead table sessionId data)
      dedup now (xxh3_128 data)
      let packet ← Handler.lift (UnexpectedPacketErrorPacket.parser.parse data)
      return WirePacket.keyed (.unexpectedPacketError packet)).Yields (Opened aead table data) := by
    apply Handler.yields_bind
    intro stripped
    apply Handler.yields_bind
    intro _
    apply Handler.yields_bind
    intro packet
    exact Handler.yields_pure (opened_of_kind nofun nofun)
  apply Handler.yields_bind
  intro errorType
  match errorType with
  | .unexpectedPacket => exact unexpected
  | .incomprehensiblePacket => exact unexpected
  | .sessionDoesNotExist =>
      apply Handler.yields_bind
      intro stripped
      apply Handler.yields_bind
      intro _
      apply Handler.yields_bind
      intro packet
      exact Handler.yields_pure (opened_of_other fun _ same => by cases same)

theorem deserializeAndDecrypt_opened {type : PacketType} {data : List UInt8}
    (typeRead : (@Parser.field PacketType _).parseFrom data 4 = .ok type) :
    (deserializeAndDecrypt aead xxh3_128 debugAssertions table now type data).Yields
      (Opened aead table data) := by
  have typeRead := Parser.parseFrom_field_eq_ok.mp typeRead
  apply Handler.yields_bind
  intro sessionId
  match type with
  | .data =>
      apply Handler.yields_lift_bind
      intro packet parsed
      obtain ⟨_, payload⟩ := (DataPacket.payload_read data).of_parse parsed
      have read := typeRead.symm.trans ((DataPacket.packetType_read data).of_parse parsed)
      have isData : packet.packetType = .data := (congrArg Prod.fst (Except.ok.inj read)).symm
      apply Handler.yields_lift_bind
      intro plain decrypted
      apply Handler.yields_pure
      intro other same _
      cases same
      rw [payload] at decrypted
      refine ⟨Packet.wellFormed_data isData, ?_⟩
      rw [Packet.length_headers_data]
      exact decrypted
  | .parity =>
      apply Handler.yields_lift_bind
      intro packet parsed
      obtain ⟨_, payload⟩ := (ParityPacket.payload_read data).of_parse parsed
      have read := typeRead.symm.trans ((ParityPacket.packetType_read data).of_parse parsed)
      have isParity : packet.packetType = .parity := (congrArg Prod.fst (Except.ok.inj read)).symm
      apply Handler.yields_lift_bind
      intro plain decrypted
      apply Handler.yields_pure
      intro other same _
      cases same
      rw [payload] at decrypted
      refine ⟨Packet.wellFormed_parity isParity, ?_⟩
      rw [Packet.length_headers_parity]
      exact decrypted
  | .ack =>
      apply Handler.yields_bind
      intro packet
      exact Handler.yields_pure (opened_of_other fun _ same => by cases same)
  | .keepAlive =>
      apply Handler.yields_bind
      intro stripped
      apply Handler.yields_bind
      intro packet
      exact Handler.yields_pure (opened_of_other fun _ same => by cases same)
  | .handshakeAck =>
      apply Handler.yields_bind
      intro _
      apply Handler.yields_bind
      intro packet
      exact Handler.yields_pure (opened_of_other fun _ same => by cases same)
  | .metadata => exact fun _ _ returned => nomatch returned
  | .host => exact controlPacket_opened data sessionId
  | .session => exact controlPacket_opened data sessionId
  | .playback => exact controlPacket_opened data sessionId
  | .error => exact errorPacket_opened data sessionId

theorem handlePacket_opened (srcAddr : SocketAddr) (data : List UInt8) :
    (handlePacket aead xxh3_128 debugAssertions table now srcAddr data).Yields fun message =>
      ∀ received addr, message = .packet received addr → Opened aead table data received := by
  apply Handler.yields_bind
  intro version
  split
  · apply Handler.yields_bind
    intro packet
    apply Handler.yields_pure
    intro received addr same
    cases same
    exact opened_of_other fun _ same => by cases same
  · split
    · exact Handler.yields_pure fun _ _ same => by cases same
    · apply Handler.yields_lift_bind
      intro type typeRead window message returned
      obtain ⟨packet, first, rest⟩ := Handler.returns_bind.mp returned
      have opened := deserializeAndDecrypt_opened typeRead _ _ first
      cases Handler.returns_pure.mp rest
      intro received addr same inner isKeyed kinds
      cases same
      refine opened inner ?_ kinds
      cases packet with
      | keyed packet => exact isKeyed
      | _ => cases isKeyed

end Inbound

namespace Packet

theorem packetType_of_kind {packet : Packet} (formed : packet.WellFormed) :
    (packet.kind = .data → packet.packetType = .data) ∧
      (packet.kind = .parity → packet.packetType = .parity) := by
  have read := formed.kind
  constructor
  · intro isData
    rw [isData] at read
    unfold kindOf at read
    split at read <;> first | assumption | (split at read <;> cases read) | cases read
  · intro isParity
    rw [isParity] at read
    unfold kindOf at read
    split at read <;> first | assumption | (split at read <;> cases read) | cases read

theorem sessionId_withoutPayload (packet : Packet) :
    packet.withoutPayload.sessionId = packet.sessionId := by
  cases packet <;> rfl

theorem data_ext {left right : DataPacket}
    (fields : (data left).withoutPayload = (data right).withoutPayload)
    (payload : left.payload = right.payload) : left = right := by
  cases left
  cases right
  cases payload
  cases fields
  rfl

theorem parity_ext {left right : ParityPacket}
    (fields : (parity left).withoutPayload = (parity right).withoutPayload)
    (payload : left.payload = right.payload) : left = right := by
  cases left
  cases right
  cases payload
  cases fields
  rfl

end Packet

/-! ## Headers, key and payload -/

/-- Nothing but the payload of this packet is under the headers and the key. -/
def Opens (aead : Aead Key) (key : Key) (packet : Packet) (datagram : List UInt8) : Prop :=
  ∃ sealed, datagram = packet.headers ++ sealed ∧
    ∀ (table : EncryptionTable Key) (plain : List UInt8),
      table.getCipher packet.sessionId = some key →
      Inbound.decrypt aead table packet.sessionId packet.headers sealed = .ok plain →
        plain = packet.payload

theorem Opens.starts {aead : Aead Key} {key : Key} {packet : Packet} {datagram : List UInt8}
    (opens : Opens aead key packet datagram) : Starts packet.packetType datagram := by
  obtain ⟨sealed, rfl, _⟩ := opens
  exact starts_headers packet sealed

theorem Opens.same {aead : Aead Key} {key : Key} {packet received : Packet} {rest : List UInt8}
    {table : EncryptionTable Key} (opens : Opens aead key packet (received.headers ++ rest))
    (lengths : received.headers.length = packet.headers.length) (formed : packet.WellFormed)
    (receivedFormed : received.WellFormed) (stored : table.getCipher received.sessionId = some key)
    (decrypted : Inbound.decrypt aead table received.sessionId received.headers rest =
      .ok received.payload) :
    received.withoutPayload = packet.withoutPayload ∧ received.payload = packet.payload := by
  obtain ⟨sealed, same, only⟩ := opens
  obtain ⟨headers, rfl⟩ := List.append_inj same lengths
  have fields := (Packet.headers_inj receivedFormed formed).mp headers
  have session : received.sessionId = packet.sessionId := by
    rw [← received.sessionId_withoutPayload, fields, packet.sessionId_withoutPayload]
  rw [session] at stored decrypted
  rw [headers] at decrypted
  exact ⟨fields, only table received.payload stored decrypted⟩

end Ubass

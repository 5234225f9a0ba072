import Ubass.Processor.Inbound

/-!
# Datagrams that stop the program

Which byte strings make `handle_packet` panic.  Everything that is deserialized is
cut off with slices that are checked before they are read; what is not checked is
that a datagram reaches the offsets of its packet type and session id, that a
packet that is authenticated as a whole has room for tag and counter, and, in
debug builds, that the identifier of an application is short.
-/

set_option autoImplicit false

namespace Ubass

universe u

variable {Key : Type u}

def PacketType.isControl : PacketType → Bool
  | host | session | playback => true
  | _ => false

def ControlType.isAuthenticated : ControlType → Bool
  | session .retransmit | session .close | playback _ => true
  | _ => false

theorem Version.isCompatible_of_isZero_eq_false {version : Version}
    (nonzero : version.isZero = false) : version.isCompatible = true := by
  rw [isZero, decide_eq_false_iff_not] at nonzero
  rw [isCompatible, decide_eq_true_iff, UInt16.le_iff_toNat_le]
  have h : version.bits.toNat ≠ 0 := fun zero => nonzero (UInt16.toNat_inj.mp zero)
  show 1 ≤ _
  omega

/-! ## The identifier of an application -/

theorem AppId.deserialize_panic {debugAssertions : Bool} {bytes : List UInt8} :
    AppId.deserialize debugAssertions bytes = .error .panic ↔
      debugAssertions = true ∧ maxLength ≤ bytes.length ∧
        (bytes.all fun byte => byte < 128) = true := by
  rw [AppId.deserialize]
  split
  · rename_i ascii
    split
    · rename_i long
      rw [Bool.and_eq_true, decide_eq_true_iff] at long
      exact ⟨fun _ => ⟨long.1, long.2, ascii⟩, fun _ => rfl⟩
    · rename_i short
      rw [Bool.and_eq_true, decide_eq_true_iff] at short
      constructor
      · intro h
        cases h
      · rintro ⟨debug, long, -⟩
        exact absurd ⟨debug, long⟩ short
  · rename_i notAscii
    constructor
    · intro h
      cases h
    · rintro ⟨-, -, ascii⟩
      exact absurd ascii notAscii

theorem HelloPacket.parse_panic {debugAssertions : Bool} {data : List UInt8} :
    (parser debugAssertions).parse data = .error .panic ↔
      (∃ type, (@Parser.field PacketType _).parseFrom data 4 = .ok type) ∧
      (∃ control, (@Parser.field ControlType _).parseFrom data 5 = .ok control) ∧
      debugAssertions = true ∧ 60 + AppId.maxLength ≤ data.length ∧
      ((data.drop 60).all fun byte => byte < 128) = true := by
  rw [Parser.parse_eq_panic]
  constructor
  · intro stopped
    obtain ⟨version, -, room, stopped⟩ := Parser.field_bind_panic (Nat.zero_le _) stopped
    obtain ⟨opts, -, room, stopped⟩ := Parser.field_bind_panic room stopped
    obtain ⟨type, typeRead, room, stopped⟩ := Parser.field_bind_panic room stopped
    obtain ⟨control, controlRead, room, stopped⟩ := Parser.field_bind_panic room stopped
    obtain ⟨reserved, -, room, stopped⟩ := Parser.field_bind_panic room stopped
    obtain ⟨session, -, room, stopped⟩ := Parser.field_bind_panic room stopped
    obtain ⟨handshake, -, room, stopped⟩ := Parser.field_bind_panic room stopped
    obtain ⟨timestamp, -, room, stopped⟩ := Parser.field_bind_panic room stopped
    obtain ⟨publicKey, -, room, stopped⟩ := Parser.field_bind_panic room stopped
    obtain ⟨debug, long, ascii⟩ :=
      AppId.deserialize_panic.mp ((Parser.fieldWith_bind_pure_panic room).mp stopped)
    refine ⟨⟨type, Parser.parseFrom_field_eq_ok.mpr typeRead⟩,
      ⟨control, Parser.parseFrom_field_eq_ok.mpr controlRead⟩, debug, ?_, ascii⟩
    have room : 60 ≤ data.length := room
    have long : AppId.maxLength ≤ (data.drop 60).length := long
    rw [List.length_drop] at long
    omega
  · rintro ⟨⟨type, typeRead⟩, ⟨control, controlRead⟩, debug, long, ascii⟩
    have room : 60 ≤ data.length := by omega
    obtain ⟨version, versionRead⟩ :=
      always_version.field (show 2 = 0 + 2 by rfl) (show 2 ≤ data.length by omega)
    obtain ⟨opts, optsRead⟩ :=
      always_options.field (show 4 = 2 + 2 by rfl) (show 4 ≤ data.length by omega)
    obtain ⟨reserved, reservedRead⟩ :=
      (always_reserved 2).field (show 8 = 6 + 2 by rfl) (show 8 ≤ data.length by omega)
    obtain ⟨session, sessionRead⟩ :=
      always_sessionId.field (show 16 = 8 + 8 by rfl) (show 16 ≤ data.length by omega)
    obtain ⟨handshake, handshakeRead⟩ :=
      always_handshakeId.field (show 20 = 16 + 4 by rfl) (show 20 ≤ data.length by omega)
    obtain ⟨timestamp, timestampRead⟩ :=
      always_timestamp.field (show 28 = 20 + 8 by rfl) (show 28 ≤ data.length by omega)
    obtain ⟨publicKey, publicKeyRead⟩ :=
      always_publicKey.field (show 60 = 28 + 32 by rfl) room
    refine (Parser.bind_of_ok versionRead).trans ?_
    refine (Parser.bind_of_ok optsRead).trans ?_
    refine (Parser.bind_of_ok (Parser.parseFrom_field_eq_ok.mp typeRead)).trans ?_
    refine (Parser.bind_of_ok (Parser.parseFrom_field_eq_ok.mp controlRead)).trans ?_
    refine (Parser.bind_of_ok reservedRead).trans ?_
    refine (Parser.bind_of_ok sessionRead).trans ?_
    refine (Parser.bind_of_ok handshakeRead).trans ?_
    refine (Parser.bind_of_ok timestampRead).trans ?_
    refine (Parser.bind_of_ok publicKeyRead).trans ?_
    rw [Parser.fieldWith_bind_pure_panic room, AppId.deserialize_panic, List.length_drop]
    exact ⟨debug, by omega, ascii⟩

namespace Inbound

variable (aead : Aead Key) (xxh3_128 : List UInt8 → PacketFingerprint) (debugAssertions : Bool)
  (table : EncryptionTable Key) (now : Timestamp)

/-! ## Decryption and authentication -/

theorem decrypt_total (sessionId : SessionId) (headers payload : List UInt8) :
    decrypt aead table sessionId headers payload ≠ .error .panic := by
  intro stopped
  rw [decrypt] at stopped
  split at stopped
  · cases stopped
  · split at stopped
    · cases stopped
    · dsimp only at stopped
      split at stopped <;> cases stopped

theorem authenticate_panic {sessionId : SessionId} {packet : List UInt8} :
    authenticate aead table sessionId packet = .error .panic ↔
      (table.getCipher sessionId).isSome = true ∧ packet.length < 24 := by
  rw [authenticate]
  cases table.getCipher sessionId with
  | none =>
      constructor
      · intro h
        cases h
      · rintro ⟨h, -⟩
        cases h
  | some cipher =>
      simp only [List.length_take, Option.isSome_some, true_and]
      split
      · constructor
        · intro _
          omega
        · intro _
          rfl
      · split
        · constructor
          · intro _
            omega
          · intro _
            rfl
        · constructor
          · intro h
            split at h <;> cases h
          · intro h
            omega

theorem not_panics_dedup (fingerprint : PacketFingerprint) (window : FingerprintWindow) :
    ¬ (dedup now fingerprint).Panics window := by
  rw [Handler.Panics, dedup]
  split
  · intro h
    cases h
  · intro h
    cases h

theorem not_panics_parse {Value : Type} {parser : Parser Value} (total : parser.Total)
    (data : List UInt8) (window : FingerprintWindow) :
    ¬ (Handler.lift (parser.parse data)).Panics window :=
  total.parse data

theorem not_panics_parsed {Value : Type} {parser : Parser Value} (total : parser.Total)
    (data : List UInt8) (make : Value → WirePacket) (window : FingerprintWindow) :
    ¬ Handler.Panics (do
      let packet ← Handler.lift (parser.parse data)
      return make packet) window := by
  apply Handler.not_panics_bind (not_panics_parse total data)
  intro packet window
  exact Handler.not_panics_pure

theorem not_panics_opened {Value : Type} {parser : Parser Value} (total : parser.Total)
    (data : List UInt8) (sessionId : Value → SessionId) (headers payload : Value → List UInt8)
    (make : Value → List UInt8 → WirePacket) (window : FingerprintWindow) :
    ¬ Handler.Panics (do
      let packet ← Handler.lift (parser.parse data)
      let payload ← Handler.lift
        (decrypt aead table (sessionId packet) (headers packet) (payload packet))
      return make packet payload) window := by
  apply Handler.not_panics_bind (not_panics_parse total data)
  intro packet window
  apply Handler.not_panics_bind
  · intro window
    exact decrypt_total aead table _ _ _
  · intro payload window
    exact Handler.not_panics_pure

theorem not_panics_dedupNoPayload {Value : Type} {parser : Parser Value} (total : parser.Total)
    (data : List UInt8) (make : Value → WirePacket) (window : FingerprintWindow) :
    ¬ Handler.Panics (do
      dedup now (xxh3_128 data)
      let packet ← Handler.lift (parser.parse data)
      return make packet) window := by
  apply Handler.not_panics_bind (not_panics_dedup now _)
  intro _ window
  apply Handler.not_panics_bind (not_panics_parse total data)
  intro packet window
  exact Handler.not_panics_pure

theorem not_panics_decrypt {Value : Type} {parser : Parser Value} (total : parser.Total)
    (data : List UInt8) (sessionId : SessionId) (headers payload : Value → List UInt8)
    (fingerprint : Value → PacketFingerprint) (make : Value → List UInt8 → WirePacket)
    (window : FingerprintWindow) :
    ¬ Handler.Panics (do
      let packet ← Handler.lift (parser.parse data)
      let payload ← Handler.lift
        (decrypt aead table sessionId (headers packet) (payload packet))
      dedup now (fingerprint packet)
      return make packet payload) window := by
  apply Handler.not_panics_bind (not_panics_parse total data)
  intro packet window
  apply Handler.not_panics_bind
  · intro window
    exact decrypt_total aead table sessionId _ _
  · intro payload window
    apply Handler.not_panics_bind (not_panics_dedup now _)
    intro _ window
    exact Handler.not_panics_pure

/-! ## Control and error packets -/

theorem controlPacket_panics {data : List UInt8} {sessionId : SessionId} {control : ControlType}
    {window : FingerprintWindow}
    (read : (@Parser.field ControlType _).parseFrom data 5 = .ok control) :
    (deserializeAndAuthControlPacket aead xxh3_128 debugAssertions table now data
        sessionId).Panics window ↔
      control.isAuthenticated = true ∧ (table.getCipher sessionId).isSome = true ∧
          data.length < 24 ∨
        control = .host .hello ∧
          (HelloPacket.parser debugAssertions).parse data = .error .panic := by
  rw [deserializeAndAuthControlPacket, Handler.lift_bind read]
  cases control with
  | host type =>
      cases type with
      | hello =>
          have rest : ∀ packet window, ¬ Handler.Panics (do
              dedup now ((Packet.hello packet).fingerprint xxh3_128)
              return WirePacket.keyed (.hello packet)) window := by
            intro packet window
            apply Handler.not_panics_bind (not_panics_dedup now _)
            intro _ window
            exact Handler.not_panics_pure
          simp only [Handler.panics_bind_iff rest]
          simp [ControlType.isAuthenticated, Handler.panics_lift]
      | handshakeReject =>
          have total := not_panics_parsed HandshakeRejection.total_parser data
            WirePacket.handshakeRejection window
          simp [total, ControlType.isAuthenticated]
  | session type =>
      cases type with
      | retransmit =>
          have rest : ∀ data window, ¬ Handler.Panics (do
              let packet ← Handler.lift (RetransmitPacket.parser.parse data)
              dedup now ((Packet.retransmit packet).fingerprint xxh3_128)
              return WirePacket.keyed (.retransmit packet)) window := by
            intro data window
            apply Handler.not_panics_bind (not_panics_parse RetransmitPacket.total_parser data)
            intro packet window
            apply Handler.not_panics_bind (not_panics_dedup now _)
            intro _ window
            exact Handler.not_panics_pure
          simp only [Handler.panics_bind_iff rest]
          simp [ControlType.isAuthenticated, Handler.panics_lift, authenticate_panic]
      | trackRequest =>
          have total := not_panics_decrypt aead table now TrackRequestPacket.total_parser data
            sessionId (fun packet => (Packet.trackRequest packet).headers)
            TrackRequestPacket.payload
            (fun packet => (Packet.trackRequest packet).fingerprint xxh3_128)
            (fun packet payload => .keyed (.trackRequest { packet with payload := payload })) window
          simp [total, ControlType.isAuthenticated]
      | metadataRequest => simp [Handler.panics_lift, ControlType.isAuthenticated]
      | trackReject =>
          have total := not_panics_decrypt aead table now TrackRejectionPacket.total_parser data
            sessionId (fun packet => (Packet.trackRejection packet).headers)
            TrackRejectionPacket.payload
            (fun packet => (Packet.trackRejection packet).fingerprint xxh3_128)
            (fun packet payload => .keyed (.trackRejection { packet with payload := payload }))
            window
          simp [total, ControlType.isAuthenticated]
      | close =>
          have rest := fun data => not_panics_dedupNoPayload xxh3_128 now
            CloseSessionPacket.total_parser data (fun packet => .keyed (.closeSession packet))
          simp only [Handler.panics_bind_iff rest]
          simp [ControlType.isAuthenticated, Handler.panics_lift, authenticate_panic]
  | playback type =>
      have rest := fun data => not_panics_dedupNoPayload xxh3_128 now
        PlaybackControlPacket.total_parser data (fun packet => .keyed (.playbackControl packet))
      simp only [Handler.panics_bind_iff rest]
      simp [ControlType.isAuthenticated, Handler.panics_lift, authenticate_panic]

theorem errorPacket_panics {data : List UInt8} {sessionId : SessionId} {errorType : ErrorType}
    {window : FingerprintWindow}
    (read : (@Parser.field ErrorType _).parseFrom data 5 = .ok errorType) :
    (deserializeAndAuthErrorPacket aead xxh3_128 table now data sessionId).Panics window ↔
      (table.getCipher sessionId).isSome = true ∧ data.length < 24 := by
  rw [deserializeAndAuthErrorPacket, Handler.lift_bind read]
  have unexpected := fun data => not_panics_dedupNoPayload xxh3_128 now
    UnexpectedPacketErrorPacket.total_parser data
    (fun packet => .keyed (.unexpectedPacketError packet))
  have missing := fun data => not_panics_dedupNoPayload xxh3_128 now
    SessionDoesNotExistErrorPacket.total_parser data .sessionDoesNotExistError
  cases errorType with
  | unexpectedPacket =>
      simp only [Handler.panics_bind_iff unexpected]
      exact authenticate_panic aead table
  | incomprehensiblePacket =>
      simp only [Handler.panics_bind_iff unexpected]
      exact authenticate_panic aead table
  | sessionDoesNotExist =>
      simp only [Handler.panics_bind_iff missing]
      exact authenticate_panic aead table

/-! ## The whole datagram -/

inductive Authenticates (data : List UInt8) : PacketType → Prop
  | keepAlive : Authenticates data .keepAlive
  | control {type : PacketType} {control : ControlType} (isControl : type.isControl = true)
      (read : (@Parser.field ControlType _).parseFrom data 5 = .ok control)
      (authenticated : control.isAuthenticated = true) : Authenticates data type
  | error {errorType : ErrorType}
      (read : (@Parser.field ErrorType _).parseFrom data 5 = .ok errorType) :
      Authenticates data .error

/-- A `Hello` with the identifier of an application that a debug build does not accept. -/
structure LongHello (debugAssertions : Bool) (type : PacketType) (data : List UInt8) : Prop where
  debug : debugAssertions = true
  isControl : type.isControl = true
  hello : (@Parser.field ControlType _).parseFrom data 5 = .ok (.host .hello)
  long : 60 + AppId.maxLength ≤ data.length
  isAscii : ((data.drop 60).all fun byte => byte < 128) = true

/-- What `deserialize_and_decrypt` does not check of a datagram of this type. -/
inductive Unchecked (debugAssertions : Bool) (table : EncryptionTable Key) (type : PacketType)
    (data : List UInt8) : Prop
  | sessionId (short : data.length < 8)
  | tag (sessionId : SessionId)
      (read : (@Parser.field SessionId _).parseFrom data 8 = .ok sessionId)
      (authenticates : Authenticates data type)
      (cipher : (table.getCipher sessionId).isSome = true) (short : data.length < 24)
  | appId (hello : LongHello debugAssertions type data)

theorem authenticates_of_isControl {data : List UInt8} {type : PacketType}
    (isControl : type.isControl = true) (authenticates : Authenticates data type) :
    ∃ control, (@Parser.field ControlType _).parseFrom data 5 = .ok control ∧
      control.isAuthenticated = true := by
  cases authenticates with
  | keepAlive => cases isControl
  | control _ read authenticated => exact ⟨_, read, authenticated⟩
  | error _ => cases isControl

variable {aead xxh3_128 debugAssertions table now}

theorem control_unchecked {type : PacketType} {data : List UInt8} {sessionId : SessionId}
    {window : FingerprintWindow} (isControl : type.isControl = true)
    (typeRead : (@Parser.field PacketType _).parseFrom data 4 = .ok type)
    (sessionRead : (@Parser.field SessionId _).parseFrom data 8 = .ok sessionId)
    (inside : ¬ data.length < 8) :
    (deserializeAndAuthControlPacket aead xxh3_128 debugAssertions table now data
      sessionId).Panics window ↔ Unchecked debugAssertions table type data := by
  cases controlRead : (@Parser.field ControlType _).parseFrom data 5 with
  | error stop =>
      cases stop with
      | panic =>
          have := Parser.parseFrom_field_panic.mp controlRead
          omega
      | error =>
          rw [deserializeAndAuthControlPacket, Handler.lift_bind_error controlRead]
          constructor
          · intro h
            cases h
          · rintro (h | ⟨_, _, authenticates, _, _⟩ | hello)
            · exact absurd h inside
            · obtain ⟨control, read, -⟩ := authenticates_of_isControl isControl authenticates
              cases controlRead.symm.trans read
            · cases controlRead.symm.trans hello.hello
  | ok control =>
      rw [controlPacket_panics aead xxh3_128 debugAssertions table now controlRead]
      constructor
      · rintro (⟨authenticated, cipher, short⟩ | ⟨rfl, stopped⟩)
        · exact .tag sessionId sessionRead (.control isControl controlRead authenticated) cipher
            short
        · obtain ⟨-, -, debug, long, isAscii⟩ := HelloPacket.parse_panic.mp stopped
          exact .appId ⟨debug, isControl, controlRead, long, isAscii⟩
      · rintro (h | ⟨other, read, authenticates, cipher, short⟩ | hello)
        · exact absurd h inside
        · cases sessionRead.symm.trans read
          obtain ⟨control, read, authenticated⟩ :=
            authenticates_of_isControl isControl authenticates
          cases controlRead.symm.trans read
          exact Or.inl ⟨authenticated, cipher, short⟩
        · cases controlRead.symm.trans hello.hello
          exact Or.inr ⟨rfl, HelloPacket.parse_panic.mpr ⟨⟨type, typeRead⟩, ⟨_, controlRead⟩,
            hello.debug, hello.long, hello.isAscii⟩⟩

theorem error_unchecked {data : List UInt8} {sessionId : SessionId} {window : FingerprintWindow}
    (sessionRead : (@Parser.field SessionId _).parseFrom data 8 = .ok sessionId)
    (inside : ¬ data.length < 8) :
    (deserializeAndAuthErrorPacket aead xxh3_128 table now data sessionId).Panics window ↔
      Unchecked debugAssertions table .error data := by
  cases errorRead : (@Parser.field ErrorType _).parseFrom data 5 with
  | error stop =>
      cases stop with
      | panic =>
          have := Parser.parseFrom_field_panic.mp errorRead
          omega
      | error =>
          rw [deserializeAndAuthErrorPacket, Handler.lift_bind_error errorRead]
          constructor
          · intro h
            cases h
          · rintro (h | ⟨_, _, authenticates, _, _⟩ | hello)
            · exact absurd h inside
            · cases authenticates with
              | control isControl _ _ => cases isControl
              | error read => cases errorRead.symm.trans read
            · cases hello.isControl
  | ok errorType =>
      rw [errorPacket_panics aead xxh3_128 table now errorRead]
      constructor
      · rintro ⟨cipher, short⟩
        exact .tag sessionId sessionRead (.error errorRead) cipher short
      · rintro (h | ⟨other, read, _, cipher, short⟩ | hello)
        · exact absurd h inside
        · cases sessionRead.symm.trans read
          exact ⟨cipher, short⟩
        · cases hello.isControl

/-- Nothing is unchecked in the kinds that are neither authenticated as a whole nor control
packets. -/
theorem checked {type : PacketType} {data : List UInt8} (inside : ¬ data.length < 8)
    (kind : ¬ Authenticates data type) (noControl : type.isControl = false) :
    ¬ Unchecked debugAssertions table type data := by
  rintro (h | ⟨_, _, authenticates, _, _⟩ | hello)
  · exact inside h
  · exact kind authenticates
  · cases noControl.symm.trans hello.isControl

theorem deserializeAndDecrypt_panics {type : PacketType} {data : List UInt8}
    {window : FingerprintWindow}
    (typeRead : (@Parser.field PacketType _).parseFrom data 4 = .ok type) :
    (deserializeAndDecrypt aead xxh3_128 debugAssertions table now type data).Panics window ↔
      Unchecked debugAssertions table type data := by
  by_cases short : data.length < 8
  · rw [deserializeAndDecrypt,
      Handler.lift_bind_error (Parser.parseFrom_field_panic.mpr short)]
    exact ⟨fun _ => .sessionId short, fun _ => rfl⟩
  cases sessionRead : (@Parser.field SessionId _).parseFrom data 8 with
  | error stop =>
      cases stop with
      | panic => exact absurd (Parser.parseFrom_field_panic.mp sessionRead) short
      | error =>
          rw [deserializeAndDecrypt, Handler.lift_bind_error sessionRead]
          constructor
          · intro h
            cases h
          · rintro (h | ⟨sessionId, read, _, _, _⟩ | hello)
            · exact absurd h short
            · cases sessionRead.symm.trans read
            · have long := hello.long
              obtain ⟨sessionId, read⟩ :=
                always_sessionId.field (show 16 = 8 + 8 by rfl) (show 16 ≤ data.length by omega)
              cases sessionRead.symm.trans (Parser.parseFrom_field_eq_ok.mpr read)
  | ok sessionId =>
      rw [deserializeAndDecrypt, Handler.lift_bind sessionRead]
      cases type with
      | data =>
          have total := not_panics_opened aead table DataPacket.total_parser data
            DataPacket.sessionId (fun packet => (Packet.data packet).headers) DataPacket.payload
            (fun packet payload => .keyed (.data { packet with payload := payload })) window
          exact iff_of_false total (checked short nofun rfl)
      | parity =>
          have total := not_panics_opened aead table ParityPacket.total_parser data
            ParityPacket.sessionId (fun packet => (Packet.parity packet).headers)
            ParityPacket.payload
            (fun packet payload => .keyed (.parity { packet with payload := payload })) window
          exact iff_of_false total (checked short nofun rfl)
      | ack =>
          have total := not_panics_parsed AckPacket.total_parser data WirePacket.ack window
          exact iff_of_false total (checked short nofun rfl)
      | keepAlive =>
          have rest := fun data =>
            not_panics_parsed KeepAlivePacket.total_parser data WirePacket.keepAlive
          simp only [Handler.panics_bind_iff rest, Handler.panics_lift, authenticate_panic]
          constructor
          · rintro ⟨cipher, room⟩
            exact .tag sessionId sessionRead .keepAlive cipher room
          · rintro (h | ⟨other, read, _, cipher, room⟩ | hello)
            · exact absurd h short
            · cases sessionRead.symm.trans read
              exact ⟨cipher, room⟩
            · cases hello.isControl
      | handshakeAck =>
          have total := not_panics_dedupNoPayload xxh3_128 now HandshakeAckPacket.total_parser data
            .handshakeAck window
          exact iff_of_false total (checked short nofun rfl)
      | metadata => exact iff_of_false nofun (checked short nofun rfl)
      | host => exact control_unchecked rfl typeRead sessionRead short
      | session => exact control_unchecked rfl typeRead sessionRead short
      | playback => exact control_unchecked rfl typeRead sessionRead short
      | error => exact error_unchecked sessionRead short

/-- `handle_packet` forwards a packet, reports an incompatible version or drops the datagram. -/
def Handled (handler : Handler FingerprintWindow Message) (window : FingerprintWindow) : Prop :=
  (∃ message, handler.Returns window message) ∨ (handler window).1 = .error .error

theorem handled_iff {handler : Handler FingerprintWindow Message} {window : FingerprintWindow} :
    Handled handler window ↔ ¬ handler.Panics window := by
  rw [Handled, Handler.Panics]
  unfold Handler.Returns
  rcases handler window with ⟨result, after⟩
  cases result with
  | error stop => cases stop <;> simp
  | ok message => simp

/-- What is not checked of a datagram before the program relies on it. -/
inductive Breaks (debugAssertions : Bool) (table : EncryptionTable Key) (data : List UInt8) : Prop
  | packetType (short : data.length < 4)
  | typed (type : PacketType) (read : (@Parser.field PacketType _).parseFrom data 4 = .ok type)
      (unchecked : Unchecked debugAssertions table type data)

theorem handlePacket_panics {srcAddr : SocketAddr} {data : List UInt8}
    {window : FingerprintWindow} :
    (handlePacket aead xxh3_128 debugAssertions table now srcAddr data).Panics window ↔
      ∃ version, (@Parser.field Version _).parse data = .ok version ∧ version.isZero = false ∧
        Breaks debugAssertions table data := by
  cases versionRead : (@Parser.field Version _).parse data with
  | error stop =>
      cases stop with
      | panic => exact absurd versionRead (Parser.total_field.parse data)
      | error =>
          rw [handlePacket, Handler.lift_bind_error versionRead]
          constructor
          · intro h
            cases h
          · rintro ⟨version, h, -⟩
            cases h
  | ok version =>
      rw [handlePacket, Handler.lift_bind versionRead]
      cases zero : version.isZero with
      | true =>
          have total : ¬ Handler.Panics (do
              let packet ← Handler.lift (IncompatibleVersionPacket.parser.parse data)
              return Message.packet (.incompatibleVersion packet) srcAddr) window := by
            apply Handler.not_panics_bind
              (not_panics_parse IncompatibleVersionPacket.total_parser data)
            intro packet window
            exact Handler.not_panics_pure
          refine iff_of_false total ?_
          rintro ⟨other, h, nonzero, -⟩
          cases h
          cases zero.symm.trans nonzero
      | false =>
          simp only [Version.isCompatible_of_isZero_eq_false zero, Bool.not_true,
            Bool.false_eq_true, if_false]
          cases typeRead : (@Parser.field PacketType _).parseFrom data 4 with
          | error stop =>
              rw [Handler.lift_bind_error rfl]
              cases stop with
              | panic =>
                  refine iff_of_true rfl ⟨version, rfl, zero, ?_⟩
                  exact .packetType (Parser.parseFrom_field_panic.mp typeRead)
              | error =>
                  refine iff_of_false nofun ?_
                  rintro ⟨other, -, -, short | ⟨type, read, -⟩⟩
                  · cases typeRead.symm.trans (Parser.parseFrom_field_panic.mpr short)
                  · cases typeRead.symm.trans read
          | ok type =>
              have rest : ∀ packet (window : FingerprintWindow), ¬ Handler.Panics (do
                  return Message.packet (WirePacket.replaceAddress packet srcAddr) srcAddr)
                  window := by
                intro packet window
                exact Handler.not_panics_pure
              rw [Handler.lift_bind rfl, Handler.panics_bind_iff rest,
                deserializeAndDecrypt_panics typeRead]
              constructor
              · intro unchecked
                exact ⟨version, rfl, zero, .typed type typeRead unchecked⟩
              · rintro ⟨other, -, -, short | ⟨type, read, unchecked⟩⟩
                · cases typeRead.symm.trans (Parser.parseFrom_field_panic.mpr short)
                · cases typeRead.symm.trans read
                  exact unchecked

/-- A datagram is forwarded, reported or dropped, unless its version is not zero and it relies
on something that is not checked. -/
theorem handled_iff_checked (aead : Aead Key) (xxh3_128 : List UInt8 → PacketFingerprint)
    (debugAssertions : Bool) (table : EncryptionTable Key) (now : Timestamp)
    (srcAddr : SocketAddr) (data : List UInt8) (window : FingerprintWindow) :
    Handled (handlePacket aead xxh3_128 debugAssertions table now srcAddr data) window ↔
      ∀ version, (@Parser.field Version _).parse data = .ok version →
        version.isZero = false → ¬ Breaks debugAssertions table data := by
  rw [handled_iff, handlePacket_panics]
  constructor
  · intro handled version read nonzero breaks
    exact handled ⟨version, read, nonzero, breaks⟩
  · rintro checked ⟨version, read, nonzero, breaks⟩
    exact checked version read nonzero breaks

/-- Two bytes of a version stop the program, in both build profiles. -/
theorem two_bytes_panic :
    let handler (debugAssertions : Bool) :=
      handlePacket emptyTag.aead (fun _ => ⟨List.replicate 16 0, rfl⟩) debugAssertions Table.empty
        ⟨0, by decide⟩ ⟨[127, 0, 0, 1], 80⟩ [0, 1]
    ¬ Handled (handler true) FingerprintWindow.new ∧
      ¬ Handled (handler false) FingerprintWindow.new := by
  intro handler
  constructor
  · rw [handled_iff, not_not, handlePacket_panics]
    exact ⟨⟨1⟩, rfl, rfl, .packetType (by decide)⟩
  · rw [handled_iff, not_not, handlePacket_panics]
    exact ⟨⟨1⟩, rfl, rfl, .packetType (by decide)⟩

end Inbound
end Ubass

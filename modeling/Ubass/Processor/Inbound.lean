import Ubass.Encryption
import Ubass.Lib.Handler
import Ubass.Manager.Windows
import Ubass.Processor.WirePacket

/-!
# The inbound path

`packet_processor/inbound.rs`, and the receiving half of `encryption.rs`: what is
made of one datagram.  The handler's state is the window of fingerprints; an error
drops the datagram.
-/

set_option autoImplicit false

namespace Ubass

universe u

/-- AES-256-GCM.  The tag is 16 bytes long, and what was encrypted is decrypted again. -/
structure Aead (Key : Type u) where
  encryptInPlace : EncryptInPlace Key
  decryptInPlace : Key → List UInt8 → List UInt8 → List UInt8 → Option (List UInt8)
  length_encryptInPlace : ∀ key nonce associatedData buffer,
    (encryptInPlace key nonce associatedData buffer).length = buffer.length + 16
  decrypt_encrypt : ∀ key nonce associatedData buffer,
    decryptInPlace key nonce associatedData (encryptInPlace key nonce associatedData buffer) =
      some buffer

variable {Key : Type u}

/-- One invocation of AES-256-GCM with its result. -/
structure KnownAnswer (Key : Type u) where
  key : Key
  nonce : List UInt8
  associatedData : List UInt8
  plain : List UInt8
  cipher : List UInt8
  length_cipher : cipher.length = plain.length + 16
  tag_ne : cipher.drop plain.length ≠ List.replicate 16 0

namespace KnownAnswer

variable [DecidableEq Key] (self : KnownAnswer Key)

def encryptInPlace (key : Key) (nonce associatedData buffer : List UInt8) : List UInt8 :=
  if key = self.key ∧ nonce = self.nonce ∧ associatedData = self.associatedData ∧
      buffer = self.plain then self.cipher
  else buffer ++ List.replicate 16 0

def decryptInPlace (key : Key) (nonce associatedData buffer : List UInt8) :
    Option (List UInt8) :=
  if key = self.key ∧ nonce = self.nonce ∧ associatedData = self.associatedData ∧
      buffer = self.cipher then some self.plain
  else if buffer.drop (buffer.length - 16) = List.replicate 16 0 then
    some (buffer.take (buffer.length - 16))
  else none

/-- The cipher that answers as known, and with a tag of zeros everywhere else. -/
def aead : Aead Key where
  encryptInPlace := self.encryptInPlace
  decryptInPlace := self.decryptInPlace
  length_encryptInPlace := by
    intro key nonce associatedData buffer
    rw [encryptInPlace]
    split
    · rename_i known
      rw [known.2.2.2, self.length_cipher]
    · rw [List.length_append, List.length_replicate]
  decrypt_encrypt := by
    intro key nonce associatedData buffer
    rw [encryptInPlace]
    split
    · rename_i known
      rw [decryptInPlace, if_pos ⟨known.1, known.2.1, known.2.2.1, rfl⟩, known.2.2.2]
    · have unknown : ¬ (key = self.key ∧ nonce = self.nonce ∧
          associatedData = self.associatedData ∧
          buffer ++ List.replicate 16 0 = self.cipher) := by
        rintro ⟨-, -, -, same⟩
        have length : buffer.length = self.plain.length := by
          have := congrArg List.length same
          rw [List.length_append, List.length_replicate, self.length_cipher] at this
          omega
        apply self.tag_ne
        rw [← same, List.drop_left' length]
      have length : (buffer ++ List.replicate 16 (0 : UInt8)).length - 16 = buffer.length := by
        rw [List.length_append, List.length_replicate, Nat.add_sub_cancel]
      rw [decryptInPlace, if_neg unknown, length, if_pos (List.drop_left' rfl),
        List.take_left' rfl]

end KnownAnswer

/-- The tag of an empty buffer without associated data, under a key and a nonce of zeros. -/
def emptyTag : KnownAnswer (List UInt8) where
  key := List.replicate 32 0
  nonce := List.replicate 12 0
  associatedData := []
  plain := []
  cipher := [83, 15, 138, 251, 199, 69, 54, 185, 169, 99, 180, 241, 196, 203, 115, 139]
  length_cipher := rfl
  tag_ne := by decide

def EncryptionTable.getCipher (self : EncryptionTable Key) (sessionId : SessionId) : Option Key :=
  (self.get sessionId).map EncryptionWindow.cipher

/-- `KeepAlivePacket::address` is the address the datagram came from. -/
def WirePacket.replaceAddress (self : WirePacket) (srcAddr : SocketAddr) : WirePacket :=
  match self with
  | keepAlive packet => keepAlive { packet with address := some srcAddr }
  | other => other

namespace Inbound

inductive Message where
  | packet (packet : WirePacket) (addr : SocketAddr)
  | incompatibleVersion (version : Version) (addr : SocketAddr)
deriving DecidableEq

variable (aead : Aead Key) (xxh3_128 : List UInt8 → PacketFingerprint) (debugAssertions : Bool)
  (table : EncryptionTable Key) (now : Timestamp)

/-- `decrypt`: the payload is the ciphertext with its tag, and the counter of the nonce. -/
def decrypt (sessionId : SessionId) (headers payload : List UInt8) : Except Stop (List UInt8) :=
  if payload.length < 1 + 16 + 8 then .error .error
  else
    match table.getCipher sessionId with
    | none => .error .error
    | some cipher =>
        let counter := payload.drop (payload.length - 8)
        let buffer := payload.take (payload.length - 8)
        match aead.decryptInPlace cipher (getNonce sessionId counter) headers buffer with
        | none => .error .error
        | some plain => .ok plain

/-- `authenticate`: what stands before the tag and the counter of the nonce.  The lengths are
not checked before they are subtracted. -/
def authenticate (sessionId : SessionId) (packet : List UInt8) : Except Stop (List UInt8) :=
  match table.getCipher sessionId with
  | none => .error .error
  | some cipher =>
      if packet.length < 8 then .error .panic
      else
        let counter := packet.drop (packet.length - 8)
        let packet := packet.take (packet.length - 8)
        if packet.length < 16 then .error .panic
        else
          let tag := packet.drop (packet.length - 16)
          let packet := packet.take (packet.length - 16)
          match aead.decryptInPlace cipher (getNonce sessionId counter) packet tag with
          | none => .error .error
          | some _ => .ok packet

/-- `dedup_no_payload` and `dedup_with_payload`. -/
def dedup (fingerprint : PacketFingerprint) : Handler FingerprintWindow Unit := fun window =>
  if window.contains fingerprint then (.error .error, window)
  else (.ok (), (window.add fingerprint now).1)

def deserializeAndAuthControlPacket (data : List UInt8) (sessionId : SessionId) :
    Handler FingerprintWindow WirePacket := do
  let controlType ← Handler.lift (@Parser.field ControlType _ |>.parseFrom data 5)
  match controlType with
  | .host .hello => do
      let packet ← Handler.lift ((HelloPacket.parser debugAssertions).parse data)
      dedup now ((Packet.hello packet).fingerprint xxh3_128)
      return .keyed (.hello packet)
  | .host .handshakeReject => do
      let packet ← Handler.lift (HandshakeRejection.parser.parse data)
      return .handshakeRejection packet
  | .session .retransmit => do
      let data ← Handler.lift (authenticate aead table sessionId data)
      let packet ← Handler.lift (RetransmitPacket.parser.parse data)
      dedup now ((Packet.retransmit packet).fingerprint xxh3_128)
      return .keyed (.retransmit packet)
  | .session .trackRequest => do
      let packet ← Handler.lift (TrackRequestPacket.parser.parse data)
      let payload ← Handler.lift
        (decrypt aead table sessionId (Packet.trackRequest packet).headers packet.payload)
      dedup now ((Packet.trackRequest packet).fingerprint xxh3_128)
      return .keyed (.trackRequest { packet with payload := payload })
  | .session .metadataRequest => Handler.lift (.error .error)
  | .session .close => do
      let data ← Handler.lift (authenticate aead table sessionId data)
      dedup now (xxh3_128 data)
      let packet ← Handler.lift (CloseSessionPacket.parser.parse data)
      return .keyed (.closeSession packet)
  | .session .trackReject => do
      let packet ← Handler.lift (TrackRejectionPacket.parser.parse data)
      let payload ← Handler.lift
        (decrypt aead table sessionId (Packet.trackRejection packet).headers packet.payload)
      dedup now ((Packet.trackRejection packet).fingerprint xxh3_128)
      return .keyed (.trackRejection { packet with payload := payload })
  | .playback _ => do
      let data ← Handler.lift (authenticate aead table sessionId data)
      dedup now (xxh3_128 data)
      let packet ← Handler.lift (PlaybackControlPacket.parser.parse data)
      return .keyed (.playbackControl packet)

def deserializeAndAuthErrorPacket (data : List UInt8) (sessionId : SessionId) :
    Handler FingerprintWindow WirePacket := do
  let errorType ← Handler.lift (@Parser.field ErrorType _ |>.parseFrom data 5)
  match errorType with
  | .unexpectedPacket | .incomprehensiblePacket => do
      let data ← Handler.lift (authenticate aead table sessionId data)
      dedup now (xxh3_128 data)
      let packet ← Handler.lift (UnexpectedPacketErrorPacket.parser.parse data)
      return .keyed (.unexpectedPacketError packet)
  | .sessionDoesNotExist => do
      let data ← Handler.lift (authenticate aead table sessionId data)
      dedup now (xxh3_128 data)
      let packet ← Handler.lift (SessionDoesNotExistErrorPacket.parser.parse data)
      return .sessionDoesNotExistError packet

def deserializeAndDecrypt (packetType : PacketType) (data : List UInt8) :
    Handler FingerprintWindow WirePacket := do
  let sessionId ← Handler.lift (@Parser.field SessionId _ |>.parseFrom data 8)
  match packetType with
  | .data => do
      let packet ← Handler.lift (DataPacket.parser.parse data)
      let payload ← Handler.lift
        (decrypt aead table packet.sessionId (Packet.data packet).headers packet.payload)
      return .keyed (.data { packet with payload := payload })
  | .parity => do
      let packet ← Handler.lift (ParityPacket.parser.parse data)
      let payload ← Handler.lift
        (decrypt aead table packet.sessionId (Packet.parity packet).headers packet.payload)
      return .keyed (.parity { packet with payload := payload })
  | .ack => do
      let packet ← Handler.lift (AckPacket.parser.parse data)
      return .ack packet
  | .keepAlive => do
      let data ← Handler.lift (authenticate aead table sessionId data)
      let packet ← Handler.lift (KeepAlivePacket.parser.parse data)
      return .keepAlive packet
  | .handshakeAck => do
      dedup now (xxh3_128 data)
      let packet ← Handler.lift (HandshakeAckPacket.parser.parse data)
      return .handshakeAck packet
  | .host | .session | .playback =>
      deserializeAndAuthControlPacket aead xxh3_128 debugAssertions table now data sessionId
  | .error => deserializeAndAuthErrorPacket aead xxh3_128 table now data sessionId
  | .metadata => Handler.lift (.error .error)

def handlePacket (srcAddr : SocketAddr) (data : List UInt8) :
    Handler FingerprintWindow Message := do
  let version ← Handler.lift ((@Parser.field Version _).parse data)
  if version.isZero then do
    let packet ← Handler.lift (IncompatibleVersionPacket.parser.parse data)
    return .packet (.incompatibleVersion packet) srcAddr
  else if !version.isCompatible then
    return .incompatibleVersion version srcAddr
  else do
    let packetType ← Handler.lift ((@Parser.field PacketType _).parseFrom data 4)
    let packet ← deserializeAndDecrypt aead xxh3_128 debugAssertions table now packetType data
    return .packet (packet.replaceAddress srcAddr) srcAddr

end Inbound
end Ubass

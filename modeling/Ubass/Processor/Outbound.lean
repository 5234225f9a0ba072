import Ubass.Processor.AddAck
import Ubass.Processor.Inbound

/-!
# The outbound path

`packet_processor/outbound.rs`: the bytes that are handed to the transport for a
packet.  The result of `encrypt` and `tag` is ignored, so without a cipher the
packet goes out as it is.
-/

set_option autoImplicit false

namespace Ubass

universe u

variable {Key : Type u}

namespace WirePacket

/-- `add_ack!`, also in the branch of `SessionDoesNotExistErrorPacket`. -/
def addAck : WirePacket → WirePacket × Bool
  | keyed packet => (keyed packet.addAck.1, packet.addAck.2)
  | sessionDoesNotExistError packet =>
      (sessionDoesNotExistError { packet with opts := packet.opts.addAck.1 }, packet.opts.addAck.2)
  | other => (other, false)

end WirePacket

structure ProcessedPacket where
  destAddr : SocketAddr
  packetType : PacketType
  data : List UInt8
  duplicateCount : Nat
deriving DecidableEq

namespace Outbound

variable (aead : Aead Key)

def processEncrypted (table : EncryptionTable Key) (packet : Packet) :
    List UInt8 × EncryptionTable Key :=
  match encrypt aead.encryptInPlace table packet.sessionId packet.headers packet.payload with
  | some (payload, table, _) => (packet.headers ++ payload, table)
  | none => (packet.serialize, table)

def processAuthenticated (table : EncryptionTable Key) (packet : WirePacket)
    (sessionId : SessionId) : List UInt8 × EncryptionTable Key :=
  match tag aead.encryptInPlace table sessionId packet.serialize with
  | some (data, table, _) => (data, table)
  | none => (packet.serialize, table)

/-- `handle_packet`: the packet to send and the table afterwards.  A packet that requires an
acknowledgement is registered by `WirePacket.addAck`; what `handle_fec` makes of a data packet is
sent by `handleParity`. -/
def handlePacket (table : EncryptionTable Key) (packet : WirePacket) (addr : SocketAddr) :
    Except Stop (ProcessedPacket × EncryptionTable Key) :=
  let packet := packet.addAck.1
  match packet with
  | .keyed (.data inner) =>
      let (data, table) := processEncrypted aead table (.data inner)
      .ok (⟨addr, .data, data, 1⟩, table)
  | .keyed (.trackRequest inner) =>
      let (data, table) := processEncrypted aead table (.trackRequest inner)
      .ok (⟨addr, .session, data, 3⟩, table)
  | .keyed (.trackRejection inner) =>
      let (data, table) := processEncrypted aead table (.trackRejection inner)
      .ok (⟨addr, .error, data, 3⟩, table)
  | .keyed (.retransmit inner) =>
      let (data, table) := processAuthenticated aead table packet inner.sessionId
      .ok (⟨addr, .session, data, 3⟩, table)
  | .keyed (.playbackControl inner) =>
      let (data, table) := processAuthenticated aead table packet inner.sessionId
      .ok (⟨addr, .playback, data, 3⟩, table)
  | .keyed (.closeSession inner) =>
      let (data, table) := processAuthenticated aead table packet inner.sessionId
      .ok (⟨addr, .session, data, 3⟩, table)
  | .sessionDoesNotExistError inner =>
      let (data, table) := processAuthenticated aead table packet inner.sessionId
      .ok (⟨addr, .error, data, 3⟩, table)
  | .keepAlive inner =>
      let (data, table) := processAuthenticated aead table packet inner.sessionId
      .ok (⟨addr, .keepAlive, data, 3⟩, table)
  | .keyed (.unexpectedPacketError inner) =>
      let (data, table) := processAuthenticated aead table packet inner.sessionId
      .ok (⟨addr, .error, data, 3⟩, table)
  | .ack inner =>
      let (data, table) := processAuthenticated aead table packet inner.sessionId
      .ok (⟨addr, .ack, data, 3⟩, table)
  | .keyed (.hello _) => .ok (⟨addr, .host, packet.serialize, 7⟩, table)
  | .handshakeRejection _ => .ok (⟨addr, .host, packet.serialize, 3⟩, table)
  | .handshakeAck _ => .ok (⟨addr, .handshakeAck, packet.serialize, 3⟩, table)
  | .incompatibleVersion _ => .ok (⟨addr, .host, packet.serialize, 7⟩, table)
  | .keyed (.metadata _) => .error .error
  | .keyed (.parity _) => .error .panic

def handleParity (table : EncryptionTable Key) (packet : ParityPacket) (destAddr : SocketAddr) :
    ProcessedPacket × EncryptionTable Key :=
  let (data, table) := processEncrypted aead table (.parity packet)
  (⟨destAddr, .parity, data, 1⟩, table)

/-- What leaves the outbound path for a packet: `handle_packet` dispatches the parity packets of
a batch to `handle_parity`. -/
def transmit (table : EncryptionTable Key) (packet : WirePacket) (addr : SocketAddr) :
    Except Stop (ProcessedPacket × EncryptionTable Key) :=
  match packet with
  | .keyed (.parity inner) => .ok (handleParity aead table inner addr)
  | _ => handlePacket aead table packet addr

end Outbound
end Ubass

import Ubass.Manager.Receive
import Ubass.Manager.Sessions
import Ubass.Manager.Windows
import Ubass.Processor.WirePacket

/-!
# The handlers of the manager

`handle_message` of `manager/inbound.rs` and the routines of
`manager/routines/received.rs`: what becomes of the tables when a packet has come
through the packet processor, and what is sent and reported in turn.  A routine is
taken without interruption here; what it draws at random, reads from the clock or
is told by the application is in its inputs.
-/

set_option autoImplicit false

namespace Ubass

universe u

inductive InnerConnectionEvent where
  | trackRequest (trackId : List UInt8)
  | protocolClosed
  | connectionClosed
deriving DecidableEq

/-- What is heard of a session outside the tables: an event, or a stream that they no longer
hold, as its loop and the application see it. -/
inductive Notice where
  | connection (event : InnerConnectionEvent)
  | stream (stream : StreamState)

def SecondaryType.none : SecondaryType := ⟨0⟩

def StreamPacket.wire : StreamPacket → WirePacket
  | playbackControl packet => .keyed (.playbackControl packet)
  | retransmit packet => .keyed (.retransmit packet)

structure ManagerState {Key : Type u} (keyExchange : KeyExchange Key) where
  protocol : ProtocolState keyExchange
  ack : PendingAckWindow

structure Reply {Key : Type u} (keyExchange : KeyExchange Key) where
  state : ManagerState keyExchange
  sent : List (WirePacket × SocketAddr)
  notices : List (SessionId × Notice)

/-- `recovered` is what `fec::received` and `fec::recover` find after the packet; `approved` is
the answer of the application to an app id, and the rest is drawn by the handshake. -/
structure HandlerInputs (Secret : Type) where
  clock : Nat → Timestamp
  recovered : Option Recovered
  approved : Bool
  generated : SessionId
  ephemeralSecret : Secret
  newHandshakeId : HandshakeId
  appId : AppId

variable {Key : Type u} {keyExchange : KeyExchange Key}

def receivedPacketThatRequiresAck (connections : Table SessionId ConnectionStates)
    (sessionId : SessionId) (fingerprint : PacketFingerprint) (now : Timestamp) :
    List (WirePacket × SocketAddr) :=
  match connections.get sessionId with
  | some (.established session) =>
      [(.ack (AckPacket.new Options.none sessionId fingerprint now), session.address)]
  | some (.handshake _ _ _) | none => []

namespace ManagerState

variable (xxh3_128 : List UInt8 → PacketFingerprint) (inputs : HandlerInputs keyExchange.Secret)

def nothing (self : ManagerState keyExchange) : Reply keyExchange := ⟨self, [], []⟩

def withConnection (self : ManagerState keyExchange) (sessionId : SessionId)
    (connection : ConnectionStates) : ManagerState keyExchange :=
  { self with
    protocol := { self.protocol with
      connections := self.protocol.connections.insert sessionId connection } }

def closeSession (self : ManagerState keyExchange) (sessionId : SessionId) :
    ManagerState keyExchange :=
  { self with protocol := self.protocol.closeSession sessionId }

def notifyAndCloseSession (self : ManagerState keyExchange) (sessionId : SessionId) :
    Reply keyExchange :=
  match self.protocol.connections.get sessionId with
  | none => self.nothing
  | some (.handshake _ _ _) => ⟨self.closeSession sessionId, [], []⟩
  | some (.established session) =>
      let notice :=
        match session.state with
        | .streaming stream =>
            Notice.stream { stream with stream := { stream.stream with closed := true } }
        | .up | .down => Notice.connection .connectionClosed
      ⟨self.closeSession sessionId, [], [(sessionId, notice)]⟩

def failedToDerefBuffer (self : ManagerState keyExchange) (sessionId : SessionId) :
    Reply keyExchange :=
  match self.protocol.connections.get sessionId with
  | none => self.nothing
  | some connection =>
      let notices :=
        match connection.failedToDerefBuffer.openStream with
        | some (_, stream) => [(sessionId, Notice.stream stream)]
        | none => []
      ⟨self.closeSession sessionId, [], notices⟩

def receivedTrackRejectPacket (self : ManagerState keyExchange) (packet : TrackRejectionPacket) :
    Reply keyExchange :=
  match self.protocol.connections.get packet.sessionId with
  | none => self.nothing
  | some connection =>
      (self.withConnection packet.sessionId connection.receivedTrackRejectPacket).nothing

/-- `received_retransmit_request`: the packet is acknowledged, and the stream is told. -/
def receivedRetransmitRequest (self : ManagerState keyExchange) (packet : RetransmitPacket) :
    Reply keyExchange :=
  let acks :=
    if packet.opts.contains .requireAck then
      receivedPacketThatRequiresAck self.protocol.connections packet.sessionId
        ((Packet.retransmit packet).fingerprint xxh3_128) (inputs.clock 0)
    else []
  match (self.protocol.connections.get packet.sessionId).bind ConnectionStates.openStream with
  | some (session, ⟨.streamingTo sending, message, fec⟩) =>
      let told := { sending with event := sending.event.update (.retransmit packet.payload) }
      ⟨self.withConnection packet.sessionId
        (ConnectionStates.withStream session ⟨.streamingTo told, message, fec⟩), acks, []⟩
  | some (_, ⟨.streamingFrom _, _, _⟩) | none => ⟨self, acks, []⟩

def receivedKeepAlivePacket (self : ManagerState keyExchange) (packet : KeepAlivePacket) :
    Reply keyExchange :=
  match packet.address with
  | none => self.nothing
  | some address =>
      ManagerState.nothing
        { self with protocol := (self.protocol.updateAddress packet.sessionId address).1 }

def receivedTrackRequestPacket (self : ManagerState keyExchange) (packet : TrackRequestPacket) :
    Reply keyExchange :=
  match self.protocol.connections.get packet.sessionId with
  | some (.established _) =>
      ⟨self, [], [(packet.sessionId, .connection (.trackRequest packet.payload))]⟩
  | some (.handshake _ _ _) | none => self.nothing

def receivedAckPacket (self : ManagerState keyExchange) (packet : AckPacket) : Reply keyExchange :=
  ManagerState.nothing { self with ack := self.ack.acknowledge packet.fingerprint }

def unexpectedData (sessionId : SessionId) (fingerprint : PacketFingerprint)
    (connection : ConnectionStates) : WirePacket × SocketAddr :=
  (.keyed (.unexpectedPacketError (UnexpectedPacketErrorPacket.new Options.none sessionId .data
    SecondaryType.none fingerprint (inputs.clock 1))), connection.address)

/-- The part of `received_parity_packet` after the parity was taken in. -/
def receivedParityPacket (self : ManagerState keyExchange) (packet : ParityPacket) :
    Reply keyExchange :=
  match inputs.recovered, self.protocol.connections.get packet.sessionId with
  | some recovered, some connection =>
      let handled := connection.recoveredPacket recovered fun index => inputs.clock (index + 2)
      let after := self.withConnection packet.sessionId handled.session
      let sent := handled.sent.map fun (packet, addr) => (packet.wire, addr)
      match handled.result with
      | .error .failedToDeref => after.failedToDerefBuffer packet.sessionId
      | .error (.stateMismatch _ _) =>
          ⟨after, sent ++ [unexpectedData inputs packet.sessionId
            ((Packet.parity packet).fingerprint xxh3_128) handled.session], []⟩
      | .error .irrelevantError | .ok _ => ⟨after, sent, []⟩
  | none, _ | some _, none => self.nothing

def recoverAfterData (self : ManagerState keyExchange) (sessionId : SessionId) :
    Reply keyExchange :=
  match inputs.recovered, self.protocol.connections.get sessionId with
  | some recovered, some connection =>
      let handled := connection.recoveredPacket recovered fun index => inputs.clock (index + 2)
      let after := self.withConnection sessionId handled.session
      let sent := handled.sent.map fun (packet, addr) => (packet.wire, addr)
      match handled.result with
      | .error .failedToDeref => after.failedToDerefBuffer sessionId
      | .error _ | .ok _ => ⟨after, sent, []⟩
  | none, _ | some _, none => self.nothing

/-- `received_data_packet`.  While the handshake goes on the packet waits; this is the routine as
it is called again when the wait is over. -/
def receivedDataPacket (self : ManagerState keyExchange) (packet : DataPacket) :
    Reply keyExchange :=
  match self.protocol.connections.get packet.sessionId with
  | none | some (.handshake _ _ _) => self.nothing
  | some connection =>
      let acks :=
        if packet.opts.contains .requireAck then
          receivedPacketThatRequiresAck self.protocol.connections packet.sessionId
            ((Packet.data packet).fingerprint xxh3_128) (inputs.clock 0)
        else []
      let handled := connection.receivedDataPacket packet fun index => inputs.clock (index + 2)
      let after := self.withConnection packet.sessionId handled.session
      let sent := acks ++ handled.sent.map fun (packet, addr) => (packet.wire, addr)
      match handled.result with
      | .ok true =>
          ⟨after, sent, handled.closed.toList.map fun stream => (packet.sessionId, .stream stream)⟩
      | .ok false =>
          let reply := after.recoverAfterData inputs packet.sessionId
          { reply with sent := sent ++ reply.sent }
      | .error (.stateMismatch _ _) =>
          ⟨after, sent ++ [unexpectedData inputs packet.sessionId
            ((Packet.data packet).fingerprint xxh3_128) handled.session], []⟩
      | .error .failedToDeref =>
          let reply := after.failedToDerefBuffer packet.sessionId
          { reply with sent := sent ++ reply.sent }
      | .error .irrelevantError => ⟨after, sent, []⟩

/-- `received_hello_packet_as_receiver`, with the answer of the application. -/
def receivedHelloPacketAsReceiver (self : ManagerState keyExchange) (packet : HelloPacket)
    (srcAddr : SocketAddr) : Reply keyExchange :=
  if inputs.approved then
    let sessionId :=
      if self.protocol.sessionExists packet.proposedSessionId then inputs.generated
      else packet.proposedSessionId
    ⟨{ self with
        protocol := self.protocol.helloAsReceiver packet srcAddr inputs.generated
          inputs.ephemeralSecret },
      [(.keyed (.hello (HelloPacket.new (Options.construct [.requireAck]) sessionId
        packet.handshakeId (keyExchange.publicKey inputs.ephemeralSecret) inputs.appId
        (inputs.clock 0))), srcAddr)], []⟩
  else
    ⟨self, [(.handshakeRejection (HandshakeRejection.new Options.none packet.proposedSessionId
      .app packet.handshakeId (inputs.clock 0)), srcAddr)], []⟩

def sessionIdCollided (self : ManagerState keyExchange) (packet : HelloPacket)
    (srcAddr : SocketAddr) : Reply keyExchange :=
  let rejection := (WirePacket.handshakeRejection (HandshakeRejection.new Options.none
    packet.proposedSessionId .idCollision packet.handshakeId (inputs.clock 0)), srcAddr)
  match self.protocol.reuseHandshake packet.proposedSessionId packet.handshakeId
      inputs.ephemeralSecret inputs.newHandshakeId with
  | (_, none) => ⟨self, [rejection], []⟩
  | (protocol, some handshakeId) =>
      ⟨{ self with protocol := protocol },
        [rejection, (.keyed (.hello (HelloPacket.new Options.none inputs.generated handshakeId
          (keyExchange.publicKey inputs.ephemeralSecret) inputs.appId (inputs.clock 1))),
          srcAddr)], []⟩

def receivedHelloPacketAsInitializer (self : ManagerState keyExchange) (packet : HelloPacket)
    (srcAddr : SocketAddr) : Reply keyExchange :=
  if self.protocol.sessionExists packet.proposedSessionId then
    self.sessionIdCollided inputs packet srcAddr
  else
    let after := { self with
      protocol := self.protocol.helloAsInitializer packet srcAddr inputs.ephemeralSecret
        inputs.newHandshakeId }
    match (self.protocol.promoteHandshake packet.proposedSessionId srcAddr packet.handshakeId
        packet.appId).2 with
    | none => after.nothing
    | some _ =>
        ⟨after, [(.handshakeAck (HandshakeAckPacket.new packet.proposedSessionId
          packet.handshakeId (inputs.clock 0)), srcAddr)], []⟩

def receivedHelloPacket (self : ManagerState keyExchange) (packet : HelloPacket)
    (srcAddr : SocketAddr) : Reply keyExchange :=
  if self.protocol.handshakes.contains packet.handshakeId then
    self.receivedHelloPacketAsInitializer inputs packet srcAddr
  else
    self.receivedHelloPacketAsReceiver inputs packet srcAddr

/-- `close_stream` of `ProtocolState` -/
def closeStream (self : ManagerState keyExchange) (sessionId : SessionId) : Reply keyExchange :=
  match (self.protocol.connections.get sessionId).bind ConnectionStates.openStream with
  | none => self.nothing
  | some (session, stream) =>
      ⟨self.withConnection sessionId (.established { session with state := .up }), [],
        [(sessionId, .stream stream.close)]⟩

def receivedPlaybackControlPacket (self : ManagerState keyExchange)
    (packet : PlaybackControlPacket) : Reply keyExchange :=
  match packet.controlType with
  | .close => self.closeStream packet.sessionId
  | .done | .pause | .play | .seek =>
      match (self.protocol.connections.get packet.sessionId).bind ConnectionStates.openStream with
      | some (session, ⟨.streamingTo sending, message, fec⟩) =>
          let told := { sending with event := sending.event.update (StreamEvent.fromPacket packet) }
          ManagerState.nothing (self.withConnection packet.sessionId
            (ConnectionStates.withStream session ⟨.streamingTo told, message, fec⟩))
      | some (_, ⟨.streamingFrom _, _, _⟩) | none => self.nothing

def handleMessage (self : ManagerState keyExchange) (packet : WirePacket) (addr : SocketAddr) :
    Reply keyExchange :=
  match packet with
  | .keyed (.hello packet) => self.receivedHelloPacket inputs packet addr
  | .keyed (.data packet) => self.receivedDataPacket xxh3_128 inputs packet
  | .handshakeAck packet =>
      ManagerState.nothing { self with protocol := self.protocol.handshakeDone packet.sessionId }
  | .keyed (.trackRequest packet) => self.receivedTrackRequestPacket packet
  | .keyed (.parity packet) => self.receivedParityPacket xxh3_128 inputs packet
  | .ack packet => self.receivedAckPacket packet
  | .sessionDoesNotExistError packet => self.notifyAndCloseSession packet.sessionId
  | .keyed (.trackRejection packet) => self.receivedTrackRejectPacket packet
  | .keyed (.retransmit packet) => self.receivedRetransmitRequest xxh3_128 inputs packet
  | .keyed (.playbackControl packet) => self.receivedPlaybackControlPacket packet
  | .keyed (.closeSession packet) => self.notifyAndCloseSession packet.sessionId
  | .handshakeRejection packet =>
      ManagerState.nothing
        { self with protocol := self.protocol.receivedHandshakeRejectedPacket packet }
  | .keepAlive packet => self.receivedKeepAlivePacket packet
  | .incompatibleVersion _ | .keyed (.metadata _) | .keyed (.unexpectedPacketError _) =>
      self.nothing

end ManagerState
end Ubass

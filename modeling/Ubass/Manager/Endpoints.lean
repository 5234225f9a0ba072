import Ubass.Exchange.Model
import Ubass.Manager.HandleMessage
import Ubass.Manager.Holes
import Ubass.Manager.SendLoop

/-!
# The endpoints of the manager

`manager/routines/endpoints.rs`: what the commands of the application do to the
tables, what they send and what they answer.  As with the handlers, an endpoint is
taken without interruption, and what it draws at random or reads from the clock is
in its inputs.
-/

set_option autoImplicit false

namespace Ubass

universe u

inductive SendTarget where
  | session (sessionId : SessionId)
  | address (address : SocketAddr)
deriving DecidableEq

/-- The errors of `ApiErrors` that an endpoint answers with. -/
inductive EndpointError where
  | sessionDoesNotExist
  | sessionOccupied
  | noFreeSession
deriving DecidableEq

/-- What goes back through the channel of a command. -/
inductive Answer where
  | session (result : Except EndpointError SessionId)
  | action (taken : Bool)
  | holes (ranges : Option (List Span))

/-- The commands of `ApiCommand` that have an endpoint. -/
inductive Command where
  | connect (address : SocketAddr)
  | sendData (target : SendTarget) (buffer : ReadableBuffer) (sender : StreamMessage)
  | requestTrack (target : SendTarget) (id : List UInt8) (buffer : WriteableBuffer)
      (sender : StreamMessage)
  | closeSession (sessionId : SessionId)
  | closeStream (sessionId : SessionId)
  | streamAction (sessionId : SessionId) (control : PlaybackControl)
  | setStreamComplete (sessionId : SessionId) (allowPartial : Bool)
  | findHoles (sessionId : SessionId)
  | rejectTrackRequest (sessionId : SessionId) (trackId : List UInt8)

def Command.session : Command → Option SessionId
  | .sendData (.session sessionId) _ _ | .requestTrack (.session sessionId) _ _ _
  | .closeSession sessionId | .closeStream sessionId | .streamAction sessionId _
  | .setStreamComplete sessionId _ | .findHoles sessionId | .rejectTrackRequest sessionId _ =>
      some sessionId
  | .sendData (.address _) _ _ | .requestTrack (.address _) _ _ _ | .connect _ => none

/-- What an endpoint leaves, sends and reports, and what it answers. -/
structure Served {Key : Type u} (keyExchange : KeyExchange Key) where
  reply : Reply keyExchange
  answer : Option Answer

variable {Key : Type u} {keyExchange : KeyExchange Key}

def AddressSessionIdTable.freeSession (self : AddressSessionIdTable)
    (connections : Table SessionId ConnectionStates) (address : SocketAddr) : Option SessionId :=
  (self.sessions address).find? fun session =>
    (connections.get session).any ConnectionStates.isFree

def PlaybackControl.type : PlaybackControl → PlaybackControlType
  | play => .play
  | pause => .pause
  | close => .close
  | done => .done
  | seek _ => .seek

def PlaybackControl.seekPos : PlaybackControl → Option BytePosition
  | seek position => some position
  | play | pause | close | done => none

namespace ConnectionStates

/-- `update_paused`, with its answer: whether the stream changed, if one is open. -/
def updatePaused (self : ConnectionStates) (paused : Bool) : ConnectionStates × Option Bool :=
  match self.openStream with
  | none => (self, none)
  | some (_, stream) =>
      if paused = stream.stream.paused then (self, some false)
      else (Ubass.updatePaused self paused, some true)

/-- What `send_playback_control_packet` does to an established session, and whether it goes on to
send the packet.  Play and pause go on when no stream is open; a seek goes on when the head of a
receive buffer moved forward. -/
def streamAction (self : ConnectionStates) : PlaybackControl → ConnectionStates × Bool
  | .play =>
      let (connection, changed) := self.updatePaused false
      (connection, changed ≠ some false)
  | .pause =>
      let (connection, changed) := self.updatePaused true
      (connection, changed ≠ some false)
  | .seek position =>
      let (connection, moved) := self.seek position
      (connection, moved = some true)
  | .close | .done => (self, true)

end ConnectionStates

namespace ManagerState

variable (inputs : HandlerInputs keyExchange.Secret)

def resolveTarget (self : ManagerState keyExchange) :
    SendTarget → Except EndpointError (SessionId × SocketAddr)
  | .session sessionId =>
      match self.protocol.connections.get sessionId with
      | none => .error .sessionDoesNotExist
      | some connection =>
          if connection.isFree then .ok (sessionId, connection.address)
          else .error .sessionOccupied
  | .address address =>
      match self.protocol.addressSession.freeSession self.protocol.connections address with
      | none => .error .noFreeSession
      | some sessionId => .ok (sessionId, address)

def answering (self : ManagerState keyExchange) (answer : Answer) : Served keyExchange :=
  ⟨self.nothing, some answer⟩

/-- The endpoint `connect`.  It is answered when the handshake ends. -/
def connect (self : ManagerState keyExchange) (address : SocketAddr) : Served keyExchange :=
  ⟨⟨{ self with
        protocol := self.protocol.newHandshake inputs.newHandshakeId address
          inputs.ephemeralSecret inputs.generated },
      [(.keyed (.hello (HelloPacket.new Options.none inputs.generated inputs.newHandshakeId
        (keyExchange.publicKey inputs.ephemeralSecret) inputs.appId (inputs.clock 0))),
        address)], []⟩, none⟩

/-- The endpoint `send_data`, up to the loop of `send_on_session`.  Debug builds panic before they
answer with an error. -/
def sendData (debugAssertions : Bool) (self : ManagerState keyExchange) (target : SendTarget)
    (buffer : ReadableBuffer) (sender : StreamMessage) : Served keyExchange :=
  match self.resolveTarget target with
  | .error error =>
      if debugAssertions then ⟨self.nothing, none⟩
      else self.answering (.session (.error error))
  | .ok (sessionId, _) =>
      match self.protocol.connections.get sessionId with
      | none => self.answering (.session (.ok sessionId))
      | some connection =>
          (self.withConnection sessionId (connection.streamTo buffer sender)).answering
            (.session (.ok sessionId))

/-- The endpoint `request_track`.  An occupied session is looked up once more after a grace time;
this is the routine as it goes on from its last look. -/
def requestTrack (self : ManagerState keyExchange) (target : SendTarget) (id : List UInt8)
    (buffer : WriteableBuffer) (sender : StreamMessage) : Served keyExchange :=
  match self.resolveTarget target with
  | .error error => self.answering (.session (.error error))
  | .ok (sessionId, addr) =>
      match self.protocol.connections.get sessionId with
      | none => self.answering (.session (.error .sessionDoesNotExist))
      | some connection =>
          ⟨⟨self.withConnection sessionId (connection.streamingFrom buffer sender),
            [(.keyed (.trackRequest (TrackRequestPacket.requestTrack Options.none sessionId id
              (inputs.clock 0))), addr)], []⟩, some (.session (.ok sessionId))⟩

/-- The endpoint `close_session`.  Nothing happens when the session is not there. -/
def closeSessionEndpoint (self : ManagerState keyExchange) (sessionId : SessionId) :
    Reply keyExchange :=
  match self.protocol.connections.get sessionId with
  | none => self.nothing
  | some connection =>
      ⟨self.closeSession sessionId,
        [(.keyed (.closeSession (CloseSessionPacket.new Options.none sessionId (inputs.clock 0))),
          connection.address)], []⟩

/-- The endpoint `close_stream`.  The packet is sent whether or not a stream was open. -/
def closeStreamEndpoint (self : ManagerState keyExchange) (sessionId : SessionId) :
    Reply keyExchange :=
  let closed := self.closeStream sessionId
  match closed.state.protocol.connections.get sessionId with
  | none => closed
  | some connection =>
      { closed with
        sent := [(.keyed (.playbackControl (PlaybackControlPacket.new Options.none sessionId
          .close none (inputs.clock 0))), connection.address)] }

/-- The endpoint `set_complete_stream` -/
def setCompleteStream (self : ManagerState keyExchange) (sessionId : SessionId)
    (allowPartial : Bool) : Reply keyExchange :=
  match self.protocol.connections.get sessionId with
  | none => self.nothing
  | some connection =>
      (self.withConnection sessionId (connection.setCompleteStream allowPartial)).nothing

/-- The endpoint `send_playback_control_packet` -/
def sendPlaybackControlPacket (self : ManagerState keyExchange) (sessionId : SessionId)
    (control : PlaybackControl) : Served keyExchange :=
  match self.protocol.connections.get sessionId with
  | none | some (.handshake _ _ _) => self.answering (.action false)
  | some (.established session) =>
      let (connection, goesOn) := (ConnectionStates.established session).streamAction control
      let after := self.withConnection sessionId connection
      let sent :=
        if goesOn then
          [(WirePacket.keyed (.playbackControl (PlaybackControlPacket.new
            (Options.construct [.requireAck]) sessionId control.type control.seekPos
            (inputs.clock 0))), session.address)]
        else []
      ⟨⟨after, sent, []⟩, some (.action true)⟩

/-- The endpoint `reject_track_request` -/
def rejectTrackRequest (self : ManagerState keyExchange) (sessionId : SessionId)
    (trackId : List UInt8) : Reply keyExchange :=
  match self.protocol.connections.get sessionId with
  | none => self.nothing
  | some connection =>
      if connection.isFree then
        ⟨self, [(.keyed (.trackRejection (TrackRejectionPacket.new
          (Options.construct [.requireAck]) sessionId trackId (inputs.clock 0))),
          connection.address)], []⟩
      else self.nothing

/-- The endpoint of each command, as `outbound::init` dispatches it. -/
def serve (debugAssertions : Bool) (self : ManagerState keyExchange) :
    Command → Served keyExchange
  | .connect address => self.connect inputs address
  | .sendData target buffer sender => self.sendData debugAssertions target buffer sender
  | .requestTrack target id buffer sender => self.requestTrack inputs target id buffer sender
  | .closeSession sessionId => ⟨self.closeSessionEndpoint inputs sessionId, none⟩
  | .closeStream sessionId => ⟨self.closeStreamEndpoint inputs sessionId, none⟩
  | .streamAction sessionId control => self.sendPlaybackControlPacket inputs sessionId control
  | .setStreamComplete sessionId allowPartial =>
      ⟨self.setCompleteStream sessionId allowPartial, none⟩
  | .findHoles sessionId =>
      self.answering (.holes (findHoles self.protocol.connections sessionId))
  | .rejectTrackRequest sessionId trackId =>
      ⟨self.rejectTrackRequest inputs sessionId trackId, none⟩

end ManagerState
end Ubass

import Mathlib.Data.List.Dedup
import Ubass.Exchange.Received
import Ubass.Manager.Sessions

/-!
# The receive path of a host

What data, parity and retransmit packets of any peer, and the task that prunes the
batches, do to the sessions, to the batches and to the extras of the send loops.  A
routine gives way at every lock it takes, and what it has still to do is a task of
its own, so the routines interleave freely.  The lock of the connections that some
of them hold meanwhile only takes interleavings away.

Everything else is a call on a stream that is received, or turns a session into one
that receives nothing.
-/

set_option autoImplicit false

namespace Ubass

inductive ReceiveTask where
  /-- `fec::received`, before the lock of the map. -/
  | enter (packet : FecPacket)
  /-- `fec::received`, before the lock of the batch. -/
  | add (ref : Nat) (packet : FecPacket)
  /-- `fec::recover`, before the lock of the map. -/
  | take (batchId : BatchId) (sessionId : SessionId)
  /-- `fec::recover`, before the lock of the batch. -/
  | read (ref : Nat) (batchId : BatchId) (sessionId : SessionId)
  /-- `recovered_packet` -/
  | hand (recovered : Recovered)
  /-- `fec::prune`, with the batches it has removed and what it found of those it has read. -/
  | enumerate (removed : List (MapKey × Nat))
      (expired : List (SessionId × BatchId × List BytePosition))
  /-- `FecPruneTask::prune`, for the positions of one session. -/
  | request (sessionId : SessionId) (positions : List BytePosition)
  /-- The send loop, when it takes the event of a retransmit request. -/
  | split (sessionId : SessionId) (ranges : List ByteRange)

/-- What else happens to a session that may receive a stream. -/
inductive StreamCall where
  | receive (buffer : Buffer) (message : StreamMessage)
  | seek (position : BytePosition)
  | updateMessage (change : StreamMessage → StreamMessage)
  | updateAddress (new : SocketAddr)

/-- `extras` holds what each send loop has been asked for, `sent` what the routines have given to
the packet processor. -/
structure ReceivePath where
  connections : Table SessionId ConnectionStates
  xor : Xor
  extras : Table SessionId (Finset Nat)
  tasks : List ReceiveTask
  sent : List (StreamPacket × SocketAddr)

inductive ReceiveLabel where
  | data (packet : DataPacket) (clock : Nat → Timestamp)
  | parity (packet : ParityPacket)
  | retransmit (packet : RetransmitPacket)
  /-- `fec::prune` removes these keys, whatever made it choose them. -/
  | prune (keys : List MapKey)
  | task (index : Nat) (clock : Nat → Timestamp)
  | call (sessionId : SessionId) (call : StreamCall)
  /-- The session is gone, or becomes one that receives no stream. -/
  | become (sessionId : SessionId) (connection : Option ConnectionStates)

namespace ConnectionStates

def call (self : ConnectionStates) : StreamCall → ConnectionStates
  | .receive buffer message =>
      if self.isFree then self.streamingFrom (WriteableBuffer.new buffer) message else self
  | .seek position => (self.seek position).1
  | .updateMessage change => self.updateMessage change
  | .updateAddress new => self.updateAddress new

/-- `event.update(StreamEvent::Retransmit(..))` on a session that sends a stream. -/
def requested (self : ConnectionStates) (ranges : List ByteRange) : Option ConnectionStates :=
  match self.openStream with
  | some (session, ⟨.streamingTo sending, message, fec⟩) =>
      some (withStream session
        ⟨.streamingTo { sending with event := sending.event.update (.retransmit ranges) },
          message, fec⟩)
  | some (_, ⟨.streamingFrom _, _, _⟩) | none => none

/-- `FecPruneTask::prune` on one session: the positions are reserved, and asked for. -/
def requestMissing (self : ConnectionStates) (sessionId : SessionId)
    (positions : List BytePosition) (clock : Nat → Timestamp) :
    ConnectionStates × List (StreamPacket × SocketAddr) :=
  match self.receiving with
  | none => (self, [])
  | some (session, stream, receiving) =>
      let (receiving, accepted) := receiving.reserveForRequest positions (clock 0)
      (withStream session { stream with streaming := .streamingFrom receiving },
        retransmitPackets session sessionId (coalesceBytePositions accepted) clock)

end ConnectionStates

/-- `by_session` of `FecPruneTask::prune`. -/
def bySession (expired : List (SessionId × BatchId × List BytePosition)) :
    List (SessionId × List BytePosition) :=
  let found := expired.filter fun entry => !entry.2.2.isEmpty
  (found.map Prod.fst).dedup.map fun sessionId =>
    (sessionId, (found.filter fun entry => entry.1 = sessionId).flatMap fun entry => entry.2.2)

namespace ReceivePath

def new : ReceivePath where
  connections := Table.empty
  xor := Xor.new
  extras := Table.empty
  tasks := []
  sent := []

def withConnection (self : ReceivePath) (sessionId : SessionId) (connection : ConnectionStates)
    (sent : List (StreamPacket × SocketAddr)) : ReceivePath :=
  { self with
    connections := self.connections.insert sessionId connection
    sent := self.sent ++ sent }

def spawn (self : ReceivePath) (tasks : List ReceiveTask) : ReceivePath :=
  { self with tasks := self.tasks ++ tasks }

def openBuffer (self : ReceivePath) (sessionId : SessionId) : Option WriteableBuffer :=
  (self.connections.get sessionId).bind ConnectionStates.openBuffer

/-- `received_data_packet`, which goes on with `fec::received` while the stream is not done. -/
def receivedDataPacket (debugAssertions : Bool) (self : ReceivePath) (packet : DataPacket)
    (clock : Nat → Timestamp) : ReceivePath :=
  match self.connections.get packet.sessionId with
  | none => self
  | some connection =>
      let handled := connection.receivedDataPacket packet clock
      let tasks :=
        match handled.result with
        | .ok false =>
            ((FecPacket.fromDataPacket debugAssertions packet).map ReceiveTask.enter).toList
        | .ok true | .error _ => []
      (self.withConnection packet.sessionId handled.session handled.sent).spawn tasks

/-- `received_retransmit_request`.  The loop takes the event later, or never when another event
replaces it. -/
def receivedRetransmitRequest (self : ReceivePath) (packet : RetransmitPacket) : ReceivePath :=
  match (self.connections.get packet.sessionId).bind fun connection =>
      connection.requested packet.payload with
  | none => self
  | some connection =>
      (self.withConnection packet.sessionId connection []).spawn
        [.split packet.sessionId packet.payload]

def taskStep (self : ReceivePath) (clock : Nat → Timestamp) :
    ReceiveTask → ReceivePath × List ReceiveTask
  | .enter packet =>
      let (ref, xor) := self.xor.receivedEntry packet (clock 0)
      ({ self with xor := xor }, [.add ref packet])
  | .add ref packet =>
      let (xor, ready) := self.xor.receivedAdd ref packet
      ({ self with xor := xor },
        if ready then [.take packet.batchId packet.sessionId] else [])
  | .take batchId sessionId =>
      let (ref, xor) := self.xor.recoverRemove (batchId, sessionId)
      ({ self with xor := xor }, (ref.map fun ref => .read ref batchId sessionId).toList)
  | .read ref batchId sessionId =>
      (self, ((self.xor.recoverEntry ref).map fun packets =>
        .hand ⟨sessionId, batchId, packets⟩).toList)
  | .hand recovered =>
      match self.connections.get recovered.sessionId with
      | none => (self, [])
      | some connection =>
          let handled := connection.recoveredPacket recovered clock
          (self.withConnection recovered.sessionId handled.session handled.sent, [])
  | .enumerate [] expired =>
      (self, (bySession expired).map fun entry => .request entry.1 entry.2)
  | .enumerate (entry :: rest) expired =>
      (self, [.enumerate rest (expired ++ self.xor.pruneMissing [entry])])
  | .request sessionId positions =>
      match self.connections.get sessionId with
      | none => (self, [])
      | some connection =>
          let (connection, sent) := connection.requestMissing sessionId positions clock
          (self.withConnection sessionId connection sent, [])
  | .split sessionId ranges =>
      ({ self with
        extras := self.extras.insert sessionId
          ((self.extras.get sessionId).getD ∅ ∪ (requestedIndices ranges).toFinset) }, [])

def become (self : ReceivePath) (sessionId : SessionId) (connection : Option ConnectionStates) :
    ReceivePath :=
  { self with
    connections :=
      match connection with
      | some connection => self.connections.insert sessionId connection
      | none => self.connections.remove sessionId }

def machine (debugAssertions : Bool) : Machine ReceivePath ReceiveLabel where
  initial state := state = new
  step state
    | .data packet clock => some (state.receivedDataPacket debugAssertions packet clock)
    | .parity packet => some (state.spawn [.enter (FecPacket.fromParityPacket packet)])
    | .retransmit packet => some (state.receivedRetransmitRequest packet)
    | .prune keys =>
        let (xor, removed) := state.xor.pruneRemove keys
        some ({ state with xor := xor }.spawn [.enumerate removed []])
    | .task index clock =>
        state.tasks[index]?.map fun task =>
          let (next, rest) := state.taskStep clock task
          { next with tasks := rest ++ state.tasks.eraseIdx index }
    | .call sessionId call =>
        (state.connections.get sessionId).map fun connection =>
          state.withConnection sessionId (connection.call call) []
    | .become sessionId connection =>
        if (connection.bind ConnectionStates.openBuffer).isNone then
          some (state.become sessionId connection)
        else none

end ReceivePath
end Ubass

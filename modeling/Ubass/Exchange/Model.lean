import Ubass.Fec.Xor
import Ubass.Lib.Machine
import Ubass.Manager.Receive
import Ubass.Manager.Send

/-!
# One session between a sender and a receiver

The two ends of one established session and the network between them.  The
sender's loops emit data packets, each of which also goes through `Xor::sent`; the
receiver handles whatever the network delivers.  Every task takes one lock at a
time, and the labels of a run say whose turn it is, so tasks interleave freely.
The lock of the connections that some of them hold meanwhile only takes
interleavings away.

The network may deliver any packet that was ever sent, at any time and any number
of times, or never.  What remembers that is history: the batches with their
stream, and for each batch entry of the erasure code the batch that created it.
No function of the program reads it.
-/

set_option autoImplicit false

namespace Ubass

/-- What does not change during a session: its id, the build, and what the `k`th stream carries. -/
structure Setup where
  sessionId : SessionId
  debugAssertions : Bool
  source : Nat → List UInt8

namespace ConnectionStates

def isFree : ConnectionStates → Bool
  | established session =>
      match session.state with
      | .up | .down => true
      | .streaming _ => false
  | handshake _ _ _ => false

end ConnectionStates

/-! ## The sender -/

/-- The packets of one tick, and the stream they are of. -/
structure Batch where
  stream : Nat
  packets : List DataPacket

/-- How far `sent` has come with a packet. -/
inductive SentPhase where
  | entering
  | adding (ref : Nat)
  | removing
  | building (ref : Nat)
  | finished
deriving DecidableEq

/-- A sender with the number of streams it has opened, the loops it has spawned, the batches it
has sent and the parity packets made of them. -/
structure Sender where
  session : ConnectionStates
  streams : Nat
  loops : List SendLoop
  batches : List Batch
  phase : Nat → Nat → SentPhase
  xor : Xor
  owner : Nat → Nat
  parities : List (Nat × ParityPacket)

inductive SenderLabel where
  | streamTo (message : StreamMessage)
  | tick (loop : Nat) (clock : Nat → Timestamp)
  | event (loop : Nat) (event : StreamEvent)
  /-- The application, or a handler, changes what the channel of the stream says. -/
  | updateMessage (change : StreamMessage → StreamMessage)
  | closeStream
  /-- The task of `handle_fec` for this packet of this batch takes its next step. -/
  | sent (batch pos : Nat) (now : Timestamp)

namespace Sender

def new (session : EstablishedState) : Sender where
  session := .established session
  streams := 0
  loops := []
  batches := []
  phase _ _ := .entering
  xor := Xor.new
  owner _ := 0
  parities := []

def packet (self : Sender) (batch pos : Nat) : Option DataPacket :=
  self.batches[batch]?.bind fun batch => batch.packets[pos]?

def setPhase (self : Sender) (batch pos : Nat) (phase : SentPhase) : Nat → Nat → SentPhase :=
  Function.update self.phase batch (Function.update (self.phase batch) pos phase)

/-- The steps of `sent`.  The last two follow the removal: with the lock of the removed batch the
parity packet is built from its product. -/
def sent (setup : Setup) (self : Sender) (batch pos : Nat) (now : Timestamp) : Option Sender :=
  match (self.packet batch pos).bind (FecPacket.fromDataPacket setup.debugAssertions) with
  | none => none
  | some packet =>
      match self.phase batch pos with
      | .entering =>
          let (ref, xor) := self.xor.sentEntry packet
          let owner := if self.xor.outbound.refs.contains packet.key then self.owner
            else Function.update self.owner ref batch
          some { self with
            xor := xor
            owner := owner
            phase := self.setPhase batch pos (.adding ref) }
      | .adding ref =>
          let (xor, ready) := self.xor.sentAdd ref packet
          some { self with
            xor := xor
            phase := self.setPhase batch pos (if ready then .removing else .finished) }
      | .removing =>
          match self.xor.sentRemove packet with
          | (none, _) => none
          | (some ref, xor) =>
              some { self with xor := xor, phase := self.setPhase batch pos (.building ref) }
      | .building ref =>
          (self.xor.outbound.read ref).map fun entry =>
            { self with
              parities := self.parities ++ [(batch, Xor.parityPacket packet entry.product now)]
              phase := self.setPhase batch pos .finished }
      | .finished => none

def step (setup : Setup) (self : Sender) : SenderLabel → Option Sender
  | .streamTo message =>
      if self.session.isFree then
        some { self with
          session := self.session.streamTo
            (ReadableBuffer.new (setup.source (self.streams + 1))) message
          streams := self.streams + 1
          loops := self.loops ++ [SendLoop.new] }
      else none
  | .tick index clock =>
      match self.loops[index]? with
      | none => none
      | some loop =>
          if loop.playing then
            let (session, loop, packets) := sendTick self.session setup.sessionId loop clock
            some { self with
              session := session
              loops := self.loops.set index loop
              batches := if packets = [] then self.batches
                else self.batches ++ [⟨self.streams, packets⟩] }
          else none
  | .event index event =>
      match self.loops[index]? with
      | none => none
      | some loop =>
          let (session, loop) := handleStreamEvent self.session loop event
          some { self with session := session, loops := self.loops.set index loop }
  | .updateMessage change => some { self with session := self.session.updateMessage change }
  | .closeStream => some { self with session := self.session.closeStream.1 }
  | .sent batch pos now => self.sent setup batch pos now

end Sender

/-! ## The receiver -/

/-- A call of `received` or `recover` between two of its locks. -/
inductive FecTask where
  | enter (batch : Nat) (packet : FecPacket)
  | add (batch : Nat) (ref : Nat) (packet : FecPacket)
  | take (batchId : BatchId) (sessionId : SessionId)
  | read (ref : Nat) (batchId : BatchId) (sessionId : SessionId)
  | hand (batch : Nat) (recovered : Recovered)

/-- A receiver with the number of streams it has opened and the buffers of those that ended. -/
structure Receiver where
  session : ConnectionStates
  streams : Nat
  closed : List (Nat × WriteableBuffer)
  xor : Xor
  owner : Nat → Nat
  tasks : List FecTask

inductive ReceiverLabel where
  | streamingFrom (buffer : Buffer) (message : StreamMessage)
  /-- The network delivers the data packet of this batch at this position. -/
  | data (batch pos : Nat) (clock : Nat → Timestamp)
  /-- The network delivers the parity packet that was sent as the `index`th. -/
  | parity (index : Nat)
  | task (index : Nat) (clock : Nat → Timestamp)
  /-- `prune` removes these keys, whatever made it choose them. -/
  | prune (keys : List MapKey)
  | seek (position : BytePosition)
  | updateMessage (change : StreamMessage → StreamMessage)
  | closeStream

def StreamState.writeable (self : StreamState) : Option WriteableBuffer :=
  match self.streaming with
  | .streamingFrom receiving => some receiving.buffer
  | .streamingTo _ => none

def ConnectionStates.openBuffer (self : ConnectionStates) : Option WriteableBuffer :=
  self.openStream.bind fun opened => opened.2.writeable

namespace Receiver

def new (session : EstablishedState) : Receiver where
  session := .established session
  streams := 0
  closed := []
  xor := Xor.new
  owner _ := 0
  tasks := []

def buffers (self : Receiver) : List (Nat × WriteableBuffer) :=
  (self.session.openBuffer.map fun buffer => (self.streams, buffer)).toList ++ self.closed

def close (self : Receiver) (stream : Option StreamState) : List (Nat × WriteableBuffer) :=
  ((stream.bind StreamState.writeable).map fun buffer => (self.streams, buffer)).toList ++
    self.closed

/-- `received_data_packet`, which goes on with `fec::received` while the stream is not done. -/
def receivedDataPacket (setup : Setup) (self : Receiver) (batch : Nat) (packet : DataPacket)
    (clock : Nat → Timestamp) : Receiver :=
  let handled := self.session.receivedDataPacket packet clock
  let tasks :=
    match handled.result with
    | .ok false =>
        ((FecPacket.fromDataPacket setup.debugAssertions packet).map (FecTask.enter batch)).toList
    | .ok true | .error _ => []
  { self with
    session := handled.session
    closed := self.close handled.closed
    tasks := self.tasks ++ tasks }

def taskStep (self : Receiver) (clock : Nat → Timestamp) : FecTask → Receiver × Option FecTask
  | .enter batch packet =>
      let (ref, xor) := self.xor.receivedEntry packet (clock 0)
      let owner := if self.xor.inbound.refs.contains packet.key then self.owner
        else Function.update self.owner ref batch
      ({ self with xor := xor, owner := owner }, some (.add batch ref packet))
  | .add _ ref packet =>
      let (xor, ready) := self.xor.receivedAdd ref packet
      ({ self with xor := xor },
        if ready then some (.take packet.batchId packet.sessionId) else none)
  | .take batchId sessionId =>
      let (ref, xor) := self.xor.recoverRemove (batchId, sessionId)
      ({ self with xor := xor }, ref.map fun ref => .read ref batchId sessionId)
  | .read ref batchId sessionId =>
      (self, (self.xor.recoverEntry ref).map fun packets =>
        .hand (self.owner ref) ⟨sessionId, batchId, packets⟩)
  | .hand _ recovered =>
      ({ self with session := (self.session.recoveredPacket recovered clock).session }, none)

def step (setup : Setup) (sender : Sender) (self : Receiver) : ReceiverLabel → Option Receiver
  | .streamingFrom buffer message =>
      if self.session.isFree then
        some { self with
          session := self.session.streamingFrom (WriteableBuffer.new buffer) message
          streams := self.streams + 1 }
      else none
  | .data batch pos clock =>
      (sender.packet batch pos).map fun packet => self.receivedDataPacket setup batch packet clock
  | .parity index =>
      sender.parities[index]?.map fun sent =>
        { self with tasks := self.tasks ++ [.enter sent.1 (FecPacket.fromParityPacket sent.2)] }
  | .task index clock =>
      self.tasks[index]?.map fun task =>
        let (next, rest) := self.taskStep clock task
        { next with tasks := rest.toList ++ self.tasks.eraseIdx index }
  | .prune keys => some { self with xor := (self.xor.pruneRemove keys).1 }
  | .seek position => some { self with session := (self.session.seek position).1 }
  | .updateMessage change => some { self with session := self.session.updateMessage change }
  | .closeStream =>
      let (session, stream) := self.session.closeStream
      some { self with session := session, closed := self.close stream }

end Receiver

/-! ## The whole session -/

structure Exchange where
  sender : Sender
  receiver : Receiver

inductive ExchangeLabel where
  | sender (label : SenderLabel)
  | receiver (label : ReceiverLabel)

namespace Exchange

def new (sending receiving : EstablishedState) : Exchange :=
  ⟨Sender.new sending, Receiver.new receiving⟩

/-- A session on which no stream was opened yet. -/
def machine (setup : Setup) : Machine Exchange ExchangeLabel where
  initial state := ∃ sending receiving : EstablishedState,
    sending.state = .up ∧ receiving.state = .up ∧ state = new sending receiving
  step state
    | .sender label =>
        (state.sender.step setup label).map fun sender => { state with sender := sender }
    | .receiver label =>
        (state.receiver.step setup state.sender label).map fun receiver =>
          { state with receiver := receiver }

end Exchange

/-! ## What a buffer is to hold -/

/-- Each chunk that is marked as filled is a chunk of the source and holds its bytes. -/
def WriteableBuffer.Agrees (self : WriteableBuffer) (source : List UInt8) : Prop :=
  ∀ memory, self.buffer.memory = some memory → ∀ index, self.map[index]? = some true →
    index * maxPayloadLength ≤ source.length ∧
      ∀ offset, offset / maxPayloadLength = index → offset < memory.length →
        offset < source.length → memory[offset]? = source[offset]?

/-- Every receive buffer holds bytes of the source of its own stream. -/
def Receiver.Intact (setup : Setup) (self : Receiver) : Prop :=
  ∀ entry ∈ self.buffers, entry.2.Agrees (setup.source entry.1)

end Ubass

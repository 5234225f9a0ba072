import Ubass.Fec.Block
import Ubass.Manager.Streams

/-!
# Receiving a stream

The handlers of `manager/state.rs` that fill the receive buffer of a session,
`received_data_packet` and `recovered_packet`, up to the lock of the connections.
Each stores what arrived, declares the stream done or picks what to ask for
again, and answers with what it hands to the packet processor.
-/

set_option autoImplicit false

namespace Ubass

inductive FlatState where
  | up
  | down
  | streamingTo
  | streamingFrom
  | handshake
deriving DecidableEq

/-- `FlatState::from(&ConnectionStates)` -/
def FlatState.fromConnection : ConnectionStates → FlatState
  | .handshake _ _ _ => .handshake
  | .established established =>
      match established.state with
      | .up => .up
      | .down => .down
      | .streaming stream =>
          match stream.streaming with
          | .streamingTo _ => .streamingTo
          | .streamingFrom _ => .streamingFrom

/-- The errors of `error.rs` that the two handlers return. -/
inductive ReceiveError where
  | stateMismatch (expected found : FlatState)
  | irrelevantError
  | failedToDeref
deriving DecidableEq

def ReceiveError.fromBufferError : BufferError → ReceiveError
  | .failedToDeref => .failedToDeref
  | .occupied | .notValid | .wrongSize => .irrelevantError

structure Recovered where
  sessionId : SessionId
  batchId : BatchId
  packets : List RecoverdPacket
deriving DecidableEq

/-! ## Asking again -/

/-- `slice::chunks`: pieces of this size, the last one possibly shorter. -/
def sliceChunks {Item : Type} (size : Nat) (items : List Item) : List (List Item) :=
  (List.range ((items.length + size - 1) / size)).map fun index =>
    (items.drop (index * size)).take size

/-- `dispatch_retransmit_request`; `clock` is what each constructor reads. -/
def dispatchRetransmitRequest (sessionId : SessionId) (ranges : List ByteRange)
    (clock : Nat → Timestamp) : List RetransmitPacket :=
  let maxPerPacket := RetransmitPacket.localMaxPayloadLength / ByteRange.elemSize
  (sliceChunks maxPerPacket ranges).zipIdx.map fun (chunk, index) =>
    RetransmitPacket.data Options.none sessionId chunk (clock index)

/-! ## On the stream -/

def declareDone (buffer : WriteableBuffer) (message : StreamMessage) : Bool :=
  let completeAllowPartial := message.complete.getD false
  buffer.isDone || (completeAllowPartial && buffer.headAtEnd)

namespace StreamState

/-- The ranges to ask for after a packet was stored: everything once the head is at the end, the
areas the policy scores highest at the end of a batch, nothing otherwise. -/
def scoreRanges (receiving : StreamingFrom) (fec : SessionFecState) (batchEnd : Bool)
    (clock : Nat → Timestamp) : StreamingFrom × SessionFecState × List ByteRange :=
  if receiving.buffer.headAtEnd then
    let (fec, active) := fec.activeByteRanges (clock 1)
    let (receiving, ranges) := receiving.finalizeSweepPick active (clock 2)
    (receiving, fec, ranges)
  else if batchEnd then
    let (fec, active) := fec.activeByteRanges (clock 1)
    let (receiving, ranges) := receiving.scorePolicyPick active (clock 2)
    (receiving, fec, ranges)
  else (receiving, fec, [])

/-- The decision both handlers end with: `declare_done` and the ranges. -/
def settle (receiving : StreamingFrom) (message : StreamMessage) (fec : SessionFecState)
    (batchEnd : Bool) (clock : Nat → Timestamp) : StreamState × Bool × List ByteRange :=
  if declareDone receiving.buffer message then
    (⟨.streamingFrom receiving, message, fec⟩, true, [])
  else
    let (receiving, fec, ranges) := scoreRanges receiving fec batchEnd clock
    (⟨.streamingFrom receiving, message, fec⟩, false, ranges)

/-- What `received_data_packet` does to the stream. -/
def storeData (self : StreamState) (receiving : StreamingFrom) (packet : DataPacket)
    (clock : Nat → Timestamp) : StreamState × Except ReceiveError (Bool × List ByteRange) :=
  let fec := self.fec.addData packet.batchId packet.fecInfo packet.byteRangeStart (clock 0)
  match receiving.buffer.write packet.byteRangeStart packet.payload with
  | (buffer, .error error) =>
      (⟨.streamingFrom { receiving with buffer := buffer }, self.stream, fec⟩,
        .error (.fromBufferError error))
  | (buffer, .ok _) =>
      let receiving := { receiving with buffer := buffer }.clearPending packet.byteRangeStart
      let message := { self.stream with head := buffer.head.toNat, approved := some true }
      let batchEnd := packet.fecInfo.batchPos + 1 = packet.fecInfo.batchSize
      let (stream, decision) := settle receiving message fec batchEnd clock
      (stream, .ok decision)

/-- The loop of `recovered_packet`, which stops at the first packet that cannot be written. -/
def writeRecovered (receiving : StreamingFrom) (message : StreamMessage) :
    List RecoverdPacket → StreamingFrom × StreamMessage × Option BufferError
  | [] => (receiving, message, none)
  | packet :: rest =>
      match receiving.buffer.write packet.byteRangeStart packet.payload with
      | (buffer, .error error) => ({ receiving with buffer := buffer }, message, some error)
      | (buffer, .ok _) =>
          writeRecovered ({ receiving with buffer := buffer }.clearPending packet.byteRangeStart)
            { message with head := buffer.head.toNat } rest

/-- What `recovered_packet` does to the stream. -/
def storeRecovered (self : StreamState) (receiving : StreamingFrom) (recovered : Recovered)
    (clock : Nat → Timestamp) : StreamState × Except ReceiveError (Bool × List ByteRange) :=
  let fec := self.fec.evict recovered.batchId
  let approved := { self.stream with approved := some true }
  match writeRecovered receiving approved recovered.packets with
  | (receiving, message, some error) =>
      (⟨.streamingFrom receiving, message, fec⟩, .error (.fromBufferError error))
  | (receiving, message, none) =>
      let (stream, decision) := settle receiving message fec true clock
      (stream, .ok decision)

end StreamState

/-! ## On the session -/

/-- What a handler gives to the packet processor. -/
inductive StreamPacket where
  | playbackControl (packet : PlaybackControlPacket)
  | retransmit (packet : RetransmitPacket)
deriving DecidableEq

/-- The session after a handler, the stream it closed, what it sends, and whether it found the
stream complete. -/
structure Handled where
  session : ConnectionStates
  closed : Option StreamState
  sent : List (StreamPacket × SocketAddr)
  result : Except ReceiveError Bool

namespace ConnectionStates

def receiving (self : ConnectionStates) :
    Option (EstablishedState × StreamState × StreamingFrom) :=
  match self.openStream with
  | some (session, stream) =>
      match stream.streaming with
      | .streamingFrom receiving => some (session, stream, receiving)
      | .streamingTo _ => none
  | none => none

def mismatch (self : ConnectionStates) : Handled :=
  ⟨self, none, [], .error (.stateMismatch .streamingFrom (FlatState.fromConnection self))⟩

def donePacket (session : EstablishedState) (sessionId : SessionId) (clock : Nat → Timestamp) :
    StreamPacket × SocketAddr :=
  (.playbackControl
    (PlaybackControlPacket.done (Options.construct [.requireAck]) sessionId (clock 3)),
    session.address)

def retransmitPackets (session : EstablishedState) (sessionId : SessionId)
    (ranges : List ByteRange) (clock : Nat → Timestamp) : List (StreamPacket × SocketAddr) :=
  (dispatchRetransmitRequest sessionId ranges fun index => clock (index + 3)).map fun packet =>
    (.retransmit packet, session.address)

/-- `received_data_packet`.  The result is whether the stream is done; when it is not, the caller
goes on with `fec::received`. -/
def receivedDataPacket (self : ConnectionStates) (packet : DataPacket)
    (clock : Nat → Timestamp) : Handled :=
  match self.receiving with
  | none => self.mismatch
  | some (session, stream, receiving) =>
      match stream.storeData receiving packet clock with
      | (stream, .error error) => ⟨withStream session stream, none, [], .error error⟩
      | (stream, .ok (true, _)) =>
          let (closedSession, closed) := (withStream session stream).closeStream
          ⟨closedSession, closed, [donePacket session packet.sessionId clock], .ok true⟩
      | (stream, .ok (false, ranges)) =>
          ⟨withStream session stream, none,
            retransmitPackets session packet.sessionId ranges clock, .ok false⟩

/-- `recovered_packet`.  A stream that is done is marked as closed and stays in the session. -/
def recoveredPacket (self : ConnectionStates) (recovered : Recovered)
    (clock : Nat → Timestamp) : Handled :=
  match self.receiving with
  | none => self.mismatch
  | some (session, stream, receiving) =>
      match stream.storeRecovered receiving recovered clock with
      | (stream, .error error) => ⟨withStream session stream, none, [], .error error⟩
      | (stream, .ok (true, _)) =>
          ⟨(withStream session stream).updateMessage fun message => { message with closed := true },
            none, [donePacket session session.sessionId clock], .ok true⟩
      | (stream, .ok (false, ranges)) =>
          ⟨withStream session stream, none,
            retransmitPackets session session.sessionId ranges clock, .ok false⟩

def receivedTrackRejectPacket (self : ConnectionStates) : ConnectionStates :=
  self.updateMessage fun message => { message with approved := some false }

def setCompleteStream (self : ConnectionStates) (allowPartial : Bool) : ConnectionStates :=
  self.updateMessage fun message => { message with complete := some allowPartial }

/-- The part of `failed_to_deref_buffer` before it closes the session. -/
def failedToDerefBuffer (self : ConnectionStates) : ConnectionStates :=
  self.updateMessage fun message => { message with bufferClosed := true }

/-- The endpoint `seek`, with its answer. -/
def seek (self : ConnectionStates) (position : BytePosition) : ConnectionStates × Option Bool :=
  match self.receiving with
  | none => (self, none)
  | some (session, stream, receiving) =>
      let (buffer, moved) := receiving.buffer.seekHead position
      (withStream session
        { stream with streaming := .streamingFrom { receiving with buffer := buffer } }, moved)

end ConnectionStates

namespace ConnectionStates

theorem receiving_eq_some {session : ConnectionStates} {established : EstablishedState}
    {stream : StreamState} {receiving : StreamingFrom}
    (found : session.receiving = some (established, stream, receiving)) :
    session.openStream = some (established, stream) ∧
      stream.streaming = .streamingFrom receiving := by
  unfold ConnectionStates.receiving at found
  split at found
  · rename_i isOpen
    split at found
    · rename_i streaming
      cases Option.some.inj found
      exact ⟨isOpen, streaming⟩
    · cases found
  · cases found

def opened (buf : WriteableBuffer) : ConnectionStates :=
  (established ⟨⟨7⟩, .up, ⟨[127, 0, 0, 1], 80⟩, ⟨[]⟩⟩).streamingFrom buf StreamMessage.default

theorem receiving_opened (buf : WriteableBuffer) :
    ∃ session stream, (opened buf).receiving = some (session, stream, StreamingFrom.new buf) :=
  ⟨_, _, rfl⟩

end ConnectionStates

/-! ## What the handlers do to the buffer and to the message -/

namespace StreamState

@[simp] theorem scoreRanges_buffer (receiving : StreamingFrom) (fec : SessionFecState)
    (batchEnd : Bool) (clock : Nat → Timestamp) :
    (scoreRanges receiving fec batchEnd clock).1.buffer = receiving.buffer := by
  unfold scoreRanges
  split
  · exact StreamingFrom.finalizeSweepPick_buffer _ _ _
  · split
    · exact StreamingFrom.scorePolicyPick_buffer _ _ _
    · rfl

theorem settle_spec (receiving : StreamingFrom) (message : StreamMessage) (fec : SessionFecState)
    (batchEnd : Bool) (clock : Nat → Timestamp) :
    (∃ next, (settle receiving message fec batchEnd clock).1.streaming = .streamingFrom next ∧
      next.buffer = receiving.buffer) ∧
    (settle receiving message fec batchEnd clock).1.stream = message ∧
    (settle receiving message fec batchEnd clock).2.1 = declareDone receiving.buffer message := by
  unfold settle
  split
  · rename_i done
    exact ⟨⟨_, rfl, rfl⟩, rfl, done.symm⟩
  · rename_i notDone
    exact ⟨⟨_, rfl, scoreRanges_buffer _ _ _ _⟩, rfl, (Bool.eq_false_of_not_eq_true notDone).symm⟩

/-- The message of a stream after a handler stored something: only the head and the approval may
have changed. -/
def Continues (before after : StreamMessage) : Prop :=
  after.closed = before.closed ∧ after.complete = before.complete ∧
    (after.approved = before.approved ∨ after.approved = some true)

theorem storeData_spec (self : StreamState) (receiving : StreamingFrom) (packet : DataPacket)
    (clock : Nat → Timestamp) :
    (∃ next, (self.storeData receiving packet clock).1.streaming = .streamingFrom next ∧
      next.buffer = (receiving.buffer.write packet.byteRangeStart packet.payload).1) ∧
    Continues self.stream (self.storeData receiving packet clock).1.stream := by
  unfold storeData
  split
  · rename_i buffer error written
    exact ⟨⟨_, rfl, by rw [written]⟩, rfl, rfl, Or.inl rfl⟩
  · rename_i buffer _ written
    obtain ⟨⟨next, streaming, same⟩, message, _⟩ := settle_spec
      ({ receiving with buffer := buffer }.clearPending packet.byteRangeStart)
      { self.stream with head := buffer.head.toNat, approved := some true }
      (self.fec.addData packet.batchId packet.fecInfo packet.byteRangeStart (clock 0))
      (packet.fecInfo.batchPos + 1 = packet.fecInfo.batchSize) clock
    refine ⟨⟨next, streaming, ?_⟩, ?_⟩
    · rw [same, written]
      rfl
    · simp only [message]
      exact ⟨rfl, rfl, Or.inr rfl⟩

theorem writeRecovered_message (receiving : StreamingFrom) (message : StreamMessage)
    (packets : List RecoverdPacket) :
    (writeRecovered receiving message packets).2.1.closed = message.closed ∧
      (writeRecovered receiving message packets).2.1.complete = message.complete ∧
      (writeRecovered receiving message packets).2.1.approved = message.approved := by
  induction packets generalizing receiving message with
  | nil => exact ⟨rfl, rfl, rfl⟩
  | cons packet rest ih =>
      rw [writeRecovered]
      split
      · exact ⟨rfl, rfl, rfl⟩
      · exact ih _ _

/-- What the loop of `recovered_packet` leaves. -/
def writtenRecovered (self : StreamState) (receiving : StreamingFrom) (recovered : Recovered) :
    StreamingFrom × StreamMessage × Option BufferError :=
  writeRecovered receiving { self.stream with approved := some true } recovered.packets

theorem storeRecovered_spec (self : StreamState) (receiving : StreamingFrom)
    (recovered : Recovered) (clock : Nat → Timestamp) :
    (∃ next, (self.storeRecovered receiving recovered clock).1.streaming = .streamingFrom next ∧
      next.buffer = (self.writtenRecovered receiving recovered).1.buffer) ∧
    Continues self.stream (self.storeRecovered receiving recovered clock).1.stream ∧
    ((∃ ranges, (self.storeRecovered receiving recovered clock).2 = .ok (true, ranges)) ↔
      (self.writtenRecovered receiving recovered).2.2 = none ∧
        declareDone (self.writtenRecovered receiving recovered).1.buffer self.stream = true) := by
  obtain ⟨closed, complete, approved⟩ := writeRecovered_message receiving
    { self.stream with approved := some true } recovered.packets
  unfold writtenRecovered
  rcases written : writeRecovered receiving { self.stream with approved := some true }
    recovered.packets with ⟨next, message, _ | error⟩
  · rw [written] at closed complete approved
    obtain ⟨⟨last, streaming, same⟩, kept, done⟩ := settle_spec next message
      (self.fec.evict recovered.batchId) true clock
    have stored : self.storeRecovered receiving recovered clock =
        ((settle next message (self.fec.evict recovered.batchId) true clock).1,
          .ok (settle next message (self.fec.evict recovered.batchId) true clock).2) := by
      simp only [storeRecovered, written]
    have agree : declareDone next.buffer message = declareDone next.buffer self.stream := by
      unfold declareDone
      rw [complete]
    rw [stored]
    refine ⟨⟨last, streaming, same⟩, ?_, ?_⟩
    · simp only [kept]
      exact ⟨closed, complete, Or.inr approved⟩
    · simp only [true_and, Except.ok.injEq]
      rw [← agree, ← done]
      constructor
      · rintro ⟨ranges, same⟩
        exact congrArg Prod.fst same
      · intro isDone
        exact ⟨_, Prod.ext isDone rfl⟩
  · rw [written] at closed complete approved
    have stored : self.storeRecovered receiving recovered clock =
        (⟨.streamingFrom next, message, self.fec.evict recovered.batchId⟩,
          .error (.fromBufferError error)) := by
      simp only [storeRecovered, written]
    rw [stored]
    refine ⟨⟨_, rfl, rfl⟩, ⟨closed, complete, Or.inr approved⟩, ?_⟩
    simp

end StreamState
end Ubass

import Ubass.Api.ReadableBuffer
import Ubass.Api.Scores
import Ubass.Lib.Table
import Ubass.Manager.Events

/-!
# Streams and sessions

The state of one session in `manager/state.rs`: the two kinds of stream, the
mirror of the batches in flight, and the requests that are pending.  A function
that reads the clock takes the reading as an argument.
-/

set_option autoImplicit false

namespace Ubass

structure SocketAddr where
  ip : List UInt8
  port : UInt16
deriving DecidableEq

/-! ## Byte ranges -/

namespace ByteRange

/-- `ByteRange(start, length as u16)` -/
def new (start : BytePosition) (length : Nat) : ByteRange := ⟨start, UInt16.ofNat length⟩

/-- The `u32` sum of start and length, which wraps. -/
def stop (self : ByteRange) : Nat := (self.start.toNat + self.length.toNat) % 2 ^ 32

/-- `concat`: the combined range when the two are contiguous and the length fits. -/
def concat (self other : ByteRange) : Option ByteRange :=
  if (self.stop = other.start.toNat ∨ other.stop = self.start.toNat) ∧
      self.length.toNat + other.length.toNat < 2 ^ 16 then
    some {
      start := if other.stop = self.start.toNat then other.start else self.start
      length := self.length + other.length }
  else none

end ByteRange

/-- The loop of `coalesce_byte_positions`. -/
def coalesceFrom (current : ByteRange) : List ByteRange → List ByteRange
  | [] => [current]
  | next :: rest =>
      match current.concat next with
      | some joined => coalesceFrom joined rest
      | none => current :: coalesceFrom next rest

def coalesceBytePositions (positions : List BytePosition) : List ByteRange :=
  match positions.map fun position => ByteRange.new position maxPayloadLength with
  | [] => []
  | current :: rest => coalesceFrom current rest

/-! ## The sending side -/

structure StreamingTo where
  buffer : ReadableBuffer
  currentBatch : UInt16
  event : Shared StreamEvent
deriving DecidableEq

/-- `next_batch_id`: the counter is increased, and its new value is the id.  `BatchID::new`
panics in debug builds when the counter has wrapped to 0. -/
def StreamingTo.nextBatchId (self : StreamingTo) : BatchId × StreamingTo :=
  (⟨self.currentBatch + 1⟩, { self with currentBatch := self.currentBatch + 1 })

/-! ## The receiving side -/

structure FecBatchWindow where
  batchSize : UInt8
  recoveryCount : UInt8
  createdAt : Timestamp
  baseBytePos : Option BytePosition
  isContiguous : Bool
deriving DecidableEq

namespace FecBatchWindow

def new (batchSize recoveryCount : UInt8) (now : Timestamp) : FecBatchWindow where
  batchSize := batchSize
  recoveryCount := recoveryCount
  createdAt := now
  baseBytePos := none
  isContiguous := true

def addData (self : FecBatchWindow) (index : Nat) (byteRangeStart : BytePosition) :
    FecBatchWindow :=
  let derivedBase := BytePosition.ofNat (byteRangeStart.toNat - index * maxPayloadLength)
  match self.baseBytePos with
  | none => { self with baseBytePos := some derivedBase }
  | some existing =>
      if existing ≠ derivedBase then { self with isContiguous := false } else self

def contiguousByteRange (self : FecBatchWindow) : Option Span :=
  if self.isContiguous then
    self.baseBytePos.map fun base =>
      ⟨base.toNat, base.toNat + self.batchSize.toNat * maxPayloadLength⟩
  else none

end FecBatchWindow

/-- The windows of the batches in flight, one for each id. -/
structure SessionFecState where
  table : List (BatchId × FecBatchWindow)
deriving DecidableEq

namespace SessionFecState

def entryTtlMs : Nat := packetDiscardTimeMs

def default : SessionFecState := ⟨[]⟩

def addData (self : SessionFecState) (batchId : BatchId) (fecInfo : FecInfo)
    (byteRangeStart : BytePosition) (now : Timestamp) : SessionFecState :=
  let window := (self.table.lookup batchId).getD
    (FecBatchWindow.new fecInfo.batchSize fecInfo.recoveryCount now)
  ⟨(batchId, window.addData fecInfo.batchPos.toNat byteRangeStart) ::
    self.table.filter fun entry => entry.1 ≠ batchId⟩

def evict (self : SessionFecState) (batchId : BatchId) : SessionFecState :=
  ⟨self.table.filter fun entry => entry.1 ≠ batchId⟩

def activeByteRanges (self : SessionFecState) (now : Timestamp) : SessionFecState × List Span :=
  let kept : SessionFecState :=
    ⟨self.table.filter fun entry => !entry.2.createdAt.beenLongerThan now entryTtlMs⟩
  (kept, kept.table.filterMap fun entry => entry.2.contiguousByteRange)

end SessionFecState

structure StreamingFrom where
  buffer : WriteableBuffer
  pending : Table Nat Timestamp

namespace StreamingFrom

def pendingTtlMs : Nat := packetDiscardTimeMs

def new (buffer : WriteableBuffer) : StreamingFrom := ⟨buffer, Table.empty⟩

/-- The filter of `reserve_for_request`, which marks what it accepts as pending. -/
def reserve (self : StreamingFrom) (now : Timestamp) :
    List BytePosition → StreamingFrom × List BytePosition
  | [] => (self, [])
  | position :: rest =>
      let index := position.toNat / maxPayloadLength
      if (self.buffer.positionOccupied position).getD true ∨ self.pending.contains index then
        self.reserve now rest
      else
        let marked := { self with pending := self.pending.insert index now }
        let (last, accepted) := marked.reserve now rest
        (last, position :: accepted)

def reserveForRequest (self : StreamingFrom) (positions : List BytePosition) (now : Timestamp) :
    StreamingFrom × List BytePosition :=
  let swept := { self with
    pending := self.pending.retain fun _ since => !since.beenLongerThan now pendingTtlMs }
  swept.reserve now positions

def clearPending (self : StreamingFrom) (position : BytePosition) : StreamingFrom :=
  { self with pending := self.pending.remove (position.toNat / maxPayloadLength) }

def positionsOutside (areas : List Area) (fecActive : List Span) : List BytePosition :=
  (areas.flatMap fun area =>
      (List.range' area.start (area.stop - area.start)).map fun index =>
        BytePosition.ofNat (index * maxPayloadLength)).filter fun position =>
    !fecActive.any fun range => range.start ≤ position.toNat && position.toNat < range.stop

def scorePolicyPick (self : StreamingFrom) (fecActive : List Span) (now : Timestamp) :
    StreamingFrom × List ByteRange :=
  let (reserved, accepted) :=
    self.reserveForRequest (positionsOutside self.buffer.requestableAreas fecActive) now
  (reserved, coalesceBytePositions accepted)

def finalizeSweepPick (self : StreamingFrom) (fecActive : List Span) (now : Timestamp) :
    StreamingFrom × List ByteRange :=
  let (reserved, accepted) :=
    self.reserveForRequest (positionsOutside self.buffer.allInvalidAreas fecActive) now
  (reserved, coalesceBytePositions accepted)

/-! Asking for chunks does not touch the buffer. -/

theorem reserve_buffer (self : StreamingFrom) (now : Timestamp) (positions : List BytePosition) :
    (self.reserve now positions).1.buffer = self.buffer := by
  induction positions generalizing self with
  | nil => rfl
  | cons position rest ih =>
      rw [reserve]
      split
      · exact ih self
      · exact ih { self with
          pending := self.pending.insert (position.toNat / maxPayloadLength) now }

@[simp] theorem clearPending_buffer (self : StreamingFrom) (position : BytePosition) :
    (self.clearPending position).buffer = self.buffer := rfl

@[simp] theorem scorePolicyPick_buffer (self : StreamingFrom) (fecActive : List Span)
    (now : Timestamp) : (self.scorePolicyPick fecActive now).1.buffer = self.buffer :=
  reserve_buffer _ _ _

@[simp] theorem finalizeSweepPick_buffer (self : StreamingFrom) (fecActive : List Span)
    (now : Timestamp) : (self.finalizeSweepPick fecActive now).1.buffer = self.buffer :=
  reserve_buffer _ _ _

end StreamingFrom

/-! ## The session -/

inductive Streaming where
  | streamingTo (sending : StreamingTo)
  | streamingFrom (receiving : StreamingFrom)

/-- `stream` is the value of the watch channel to the application. -/
structure StreamState where
  streaming : Streaming
  stream : StreamMessage
  fec : SessionFecState

inductive SessionStates where
  | up
  | down
  | streaming (stream : StreamState)

structure EstablishedState where
  sessionId : SessionId
  state : SessionStates
  address : SocketAddr
  appId : AppId

inductive ConnectionStates where
  | handshake (sessionId : SessionId) (appId : AppId) (address : SocketAddr)
  | established (session : EstablishedState)

namespace StreamState

def getChunks (self : StreamState) (count : Nat) : Option (List Chunk × StreamState) :=
  match self.streaming with
  | .streamingTo sending =>
      if !self.stream.paused && !self.stream.closed then
        let (chunks, buffer) := ReadableBuffer.take count sending.buffer
        some (chunks,
          { self with
            streaming := .streamingTo { sending with buffer := buffer }
            stream := { self.stream with
              head := min (self.stream.head + chunks.length * maxPayloadLength) buffer.len } })
      else none
  | .streamingFrom _ => none

/-- What `retransmit` reads for one range. -/
def retransmitRange (buffer : ReadableBuffer) (range : ByteRange) : Option Chunk :=
  let start := range.start.toNat
  let length := min range.length.toNat maxPayloadLength
  (buffer.read ⟨start, min (start + length) buffer.len⟩).map fun payload => (range.start, payload)

def retransmit (self : StreamState) (ranges : List ByteRange) : Option (List Chunk) :=
  match self.streaming with
  | .streamingTo sending =>
      if !self.stream.paused && !self.stream.closed then
        some (ranges.filterMap (retransmitRange sending.buffer))
      else none
  | .streamingFrom _ => none

/-- A stream that is closed, as the application and the send loop still see it. -/
def close (self : StreamState) : StreamState where
  streaming :=
    match self.streaming with
    | .streamingTo sending =>
        .streamingTo { sending with event := sending.event.update (.playback .close) }
    | .streamingFrom receiving => .streamingFrom receiving
  stream := { self.stream with closed := true }
  fec := self.fec

end StreamState

namespace ConnectionStates

def address : ConnectionStates → SocketAddr
  | handshake _ _ address => address
  | established session => session.address

/-- `streaming_from`.  Debug builds panic when the session is not free. -/
def streamingFrom (self : ConnectionStates) (buffer : WriteableBuffer) (sender : StreamMessage) :
    ConnectionStates :=
  match self with
  | established session =>
      match session.state with
      | .up | .down =>
          established { session with
            state := .streaming ⟨.streamingFrom (StreamingFrom.new buffer), sender,
              SessionFecState.default⟩ }
      | .streaming _ => self
  | handshake _ _ _ => self

/-- `stream_to`.  Debug builds panic when the session is not free. -/
def streamTo (self : ConnectionStates) (buffer : ReadableBuffer) (sender : StreamMessage) :
    ConnectionStates :=
  match self with
  | established session =>
      match session.state with
      | .up | .down =>
          established { session with
            state := .streaming ⟨.streamingTo ⟨buffer, 0, ⟨StreamEvent.default, false, .idle⟩⟩,
              sender, SessionFecState.default⟩ }
      | .streaming _ => self
  | handshake _ _ _ => self

def openStream : ConnectionStates → Option (EstablishedState × StreamState)
  | established session =>
      match session.state with
      | .streaming stream => some (session, stream)
      | .up | .down => none
  | handshake _ _ _ => none

def withStream (session : EstablishedState) (stream : StreamState) : ConnectionStates :=
  established { session with state := .streaming stream }

/-- `send_modify` on the channel of the open stream. -/
def updateMessage (f : StreamMessage → StreamMessage) (self : ConnectionStates) :
    ConnectionStates :=
  match self.openStream with
  | some (session, stream) => withStream session { stream with stream := f stream.stream }
  | none => self

/-- `close_stream`, with the stream it closed.  Debug builds panic when no stream is open. -/
def closeStream (self : ConnectionStates) : ConnectionStates × Option StreamState :=
  match self.openStream with
  | some (session, stream) => (established { session with state := .up }, some stream.close)
  | none => (self, none)

theorem openStream_eq_some {self : ConnectionStates} {session : EstablishedState}
    {stream : StreamState} :
    self.openStream = some (session, stream) ↔
      self = established session ∧ session.state = .streaming stream := by
  constructor
  · intro isOpen
    unfold openStream at isOpen
    split at isOpen
    · split at isOpen
      · rename_i state
        cases Option.some.inj isOpen
        exact ⟨rfl, state⟩
      all_goals cases isOpen
    · cases isOpen
  · rintro ⟨rfl, state⟩
    simp only [openStream, state]

@[simp] theorem openStream_withStream (session : EstablishedState) (stream : StreamState) :
    (withStream session stream).openStream =
      some ({ session with state := .streaming stream }, stream) := rfl

end ConnectionStates
end Ubass

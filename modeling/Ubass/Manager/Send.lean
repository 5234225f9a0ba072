import Mathlib.Data.Finset.Sort
import Mathlib.Order.Interval.Finset.Nat
import Ubass.Manager.Streams

/-!
# Sending a stream

What one iteration of the send loop of `manager/state.rs` does: `send_stream_action`
on a tick of the interval, `handle_stream_event` on an event.
-/

set_option autoImplicit false

namespace Ubass

/-- `RECOVERY_COUNT` with the feature `fec_xor`. -/
def recoveryCount : UInt8 := 0

/-! ## Extras -/

/-- The iterator of `split_range_into_chunks`. -/
def splitFrom (pos stop : Nat) : List ByteRange :=
  if pos < stop then
    let length := min (stop - pos) maxPayloadLength
    ByteRange.new (BytePosition.ofNat pos) length :: splitFrom (pos + length) stop
  else []
termination_by stop - pos
decreasing_by
  simp only [maxPayloadLength]
  omega

/-- `split_range_into_chunks`.  The end of the range wraps. -/
def splitRangeIntoChunks (range : ByteRange) : List ByteRange :=
  splitFrom range.start.toNat range.stop

def addSeekHoleIndices (extras : Finset Nat) (lastSent position : BytePosition) : Finset Nat :=
  let (low, high) :=
    if lastSent.toNat < position.toNat then (lastSent.toNat, position.toNat)
    else (position.toNat, lastSent.toNat)
  extras ∪ Finset.Ico (low / maxPayloadLength)
    ((high + maxPayloadLength - 1) / maxPayloadLength)

def requestedIndices (byteRanges : List ByteRange) : List Nat :=
  (byteRanges.flatMap splitRangeIntoChunks).map fun range =>
    range.start.toNat / maxPayloadLength

/-! ## A tick -/

/-- What `send_stream_action` does under the lock of the connections: the session afterwards,
the extras, and what it will send. -/
structure SendAction where
  session : ConnectionStates
  extras : Finset Nat
  toSend : Option (List Chunk × SocketAddr × BatchId)

/-- The ranges of the first `count` extras. -/
def drainedRanges (takeIdxs : List Nat) : List ByteRange :=
  takeIdxs.map fun index =>
    ByteRange.new (BytePosition.ofNat (index * maxPayloadLength)) maxPayloadLength

/-- `let chunks = if chunks.is_empty() && !extras.is_empty() { .. } else { chunks }` -/
def chooseChunks (stream : StreamState) (fresh : List Chunk) (count : Nat) (extras : Finset Nat) :
    Option (List Chunk) × Finset Nat :=
  if fresh.isEmpty ∧ extras.Nonempty then
    let takeIdxs := extras.sort.take count
    (stream.retransmit (drainedRanges takeIdxs), extras \ takeIdxs.toFinset)
  else (some fresh, extras)

/-- `send_stream_action` on the stream of an established session. -/
def sendOnStream (stream : StreamState) (count : Nat) (extras : Finset Nat) :
    StreamState × Finset Nat × Option (List Chunk × BatchId) :=
  match stream.getChunks count with
  | none => (stream, extras, none)
  | some (fresh, taken) =>
      match chooseChunks taken fresh count extras, taken.streaming with
      | (some (first :: rest), extras), .streamingTo sending =>
          let (batchId, sending) := sending.nextBatchId
          ({ taken with streaming := .streamingTo sending }, extras,
            some (first :: rest, batchId))
      | (_, extras), _ => (taken, extras, none)

/-- The lock-delimited part of `send_stream_action`. -/
def sendStreamAction (session : ConnectionStates) (count : Nat) (extras : Finset Nat) :
    SendAction :=
  match session with
  | .established established =>
      match established.state with
      | .streaming stream =>
          let (stream, extras, toSend) := sendOnStream stream count extras
          ⟨.established { established with state := .streaming stream }, extras,
            toSend.map fun (chunks, batchId) => (chunks, established.address, batchId)⟩
      | .up | .down => ⟨session, extras, none⟩
  | .handshake _ _ _ => ⟨session, extras, none⟩

/-- `send_data_packets`; `clock` is what each constructor reads. -/
def sendDataPackets (chunks : List Chunk) (sessionId : SessionId) (currentBatch : BatchId)
    (clock : Nat → Timestamp) : List DataPacket :=
  let length := UInt8.ofNat chunks.length
  chunks.zipIdx.map fun (chunk, index) =>
    DataPacket.new Options.none currentBatch
      ⟨length, UInt8.ofNat index, min recoveryCount length⟩ sessionId chunk.1 chunk.2 (clock index)

/-! ## An event -/

structure SendLoop where
  playing : Bool
  extras : Finset Nat
  lastSent : BytePosition

def SendLoop.new : SendLoop := ⟨true, ∅, BytePosition.ofNat 0⟩

def seekAction (session : ConnectionStates) (position : BytePosition) : ConnectionStates :=
  match session with
  | .established established =>
      match established.state with
      | .streaming stream =>
          match stream.streaming with
          | .streamingTo sending =>
              .established { established with
                state := .streaming { stream with
                  streaming := .streamingTo { sending with
                    buffer := (sending.buffer.seek position).2 } } }
          | .streamingFrom _ => session
      | .up | .down => session
  | .handshake _ _ _ => session

def handleStreamEvent (session : ConnectionStates) (loop : SendLoop) (event : StreamEvent) :
    ConnectionStates × SendLoop :=
  match event with
  | .playback .pause => (session, { loop with playing := false })
  | .playback .play => (session, { loop with playing := true })
  | .playback (.seek position) =>
      (seekAction session position,
        { loop with extras := addSeekHoleIndices loop.extras loop.lastSent position })
  | .playback .done => (session.closeStream.1, loop)
  | .playback .close => (session.closeStream.1, loop)
  | .retransmit byteRanges =>
      (session, { loop with extras := loop.extras ∪ (requestedIndices byteRanges).toFinset })

def sendTick (session : ConnectionStates) (sessionId : SessionId) (loop : SendLoop)
    (clock : Nat → Timestamp) : ConnectionStates × SendLoop × List DataPacket :=
  let action := sendStreamAction session packetCountPerBatch loop.extras
  let loop := { loop with extras := action.extras }
  match action.toSend with
  | some (chunks, _, currentBatch) =>
      (action.session,
        { loop with lastSent := (chunks.getLast?.map Prod.fst).getD loop.lastSent },
        sendDataPackets chunks sessionId currentBatch clock)
  | none => (action.session, loop, [])

/-! ## What a tick can do -/

namespace ConnectionStates

def Sends (self : ConnectionStates) (sending : StreamingTo) : Prop :=
  ∃ established stream, self = .established established ∧
    established.state = .streaming stream ∧ stream.streaming = .streamingTo sending

def sending (self : ConnectionStates) : Option StreamingTo :=
  match self.openStream with
  | some (_, stream) =>
      match stream.streaming with
      | .streamingTo sending => some sending
      | .streamingFrom _ => none
  | none => none

theorem sends_of_sending {self : ConnectionStates} {sending : StreamingTo}
    (found : self.sending = some sending) : self.Sends sending := by
  unfold ConnectionStates.sending at found
  split at found
  · rename_i established stream isOpen
    obtain ⟨session, state⟩ := openStream_eq_some.mp isOpen
    split at found
    · rename_i streaming
      cases found
      exact ⟨established, stream, session, state, streaming⟩
    · cases found
  · cases found

theorem sends_unique {self : ConnectionStates} {left right : StreamingTo}
    (sendsLeft : self.Sends left) (sendsRight : self.Sends right) : left = right := by
  obtain ⟨_, _, rfl, state, streaming⟩ := sendsLeft
  obtain ⟨_, _, same, otherState, otherStreaming⟩ := sendsRight
  cases same
  rw [state] at otherState
  cases otherState
  rw [streaming] at otherStreaming
  cases otherStreaming
  rfl

end ConnectionStates

/-- The extras a drain reads, in the order of their indices. -/
def drained (buffer : ReadableBuffer) (extras : Finset Nat) (count : Nat) : List Chunk :=
  (drainedRanges (extras.sort.take count)).filterMap (StreamState.retransmitRange buffer)

/-- What a tick can do to the stream that the session sends.  Chunks that were never sent go
first; extras are only drained when there are none. -/
inductive SendStep (sending : StreamingTo) (count : Nat) (extras : Finset Nat) :
    StreamingTo → Finset Nat → Option (List Chunk × BatchId) → Prop
  | paused : SendStep sending count extras sending extras none
  | fresh (nonempty : (ReadableBuffer.take count sending.buffer).1 ≠ []) :
      SendStep sending count extras
        { sending.nextBatchId.2 with buffer := (ReadableBuffer.take count sending.buffer).2 }
        extras (some ((ReadableBuffer.take count sending.buffer).1, sending.nextBatchId.1))
  | drained (exhausted : (ReadableBuffer.take count sending.buffer).1 = [])
      (nonempty : drained sending.buffer extras count ≠ []) :
      SendStep sending count extras sending.nextBatchId.2 (extras \ (extras.sort.take count).toFinset)
        (some (drained sending.buffer extras count, sending.nextBatchId.1))
  | nothing (exhausted : (ReadableBuffer.take count sending.buffer).1 = [])
      (empty : drained sending.buffer extras count = []) :
      SendStep sending count extras sending (extras \ (extras.sort.take count).toFinset) none

theorem take_nil_snd {buffer : ReadableBuffer} {count : Nat}
    (empty : (ReadableBuffer.take count buffer).1 = []) :
    (ReadableBuffer.take count buffer).2 = buffer := by
  cases count with
  | zero => rfl
  | succ count => exact (ReadableBuffer.take_eq_nil empty).2

theorem chooseChunks_eq {stream : StreamState} {sending : StreamingTo} {fresh : List Chunk}
    (count : Nat) (extras : Finset Nat) (streaming : stream.streaming = .streamingTo sending)
    (running : (!stream.stream.paused && !stream.stream.closed) = true) :
    chooseChunks stream fresh count extras =
      if fresh = [] then
        (some (drained sending.buffer extras count), extras \ (extras.sort.take count).toFinset)
      else (some fresh, extras) := by
  unfold chooseChunks
  by_cases empty : fresh = []
  · subst empty
    rw [if_pos rfl]
    by_cases none : extras.Nonempty
    · rw [if_pos ⟨rfl, none⟩]
      simp only [StreamState.retransmit, streaming, if_pos running]
      rfl
    · rw [if_neg fun both => none both.2, Finset.not_nonempty_iff_eq_empty.mp none]
      simp [drained, drainedRanges]
  · rw [if_neg empty, if_neg]
    simp [empty]

theorem getChunks_eq {stream : StreamState} {sending : StreamingTo}
    (streaming : stream.streaming = .streamingTo sending)
    (running : (!stream.stream.paused && !stream.stream.closed) = true) (count : Nat) :
    ∃ taken, stream.getChunks count = some ((ReadableBuffer.take count sending.buffer).1, taken) ∧
      taken.streaming = .streamingTo { sending with
        buffer := (ReadableBuffer.take count sending.buffer).2 } ∧
      (!taken.stream.paused && !taken.stream.closed) = true := by
  rw [StreamState.getChunks, streaming]
  exact ⟨_, if_pos running, rfl, running⟩

theorem sendOnStream_step {stream : StreamState} {sending : StreamingTo}
    (streaming : stream.streaming = .streamingTo sending) (count : Nat) (extras : Finset Nat) :
    ∃ next, (sendOnStream stream count extras).1.streaming = .streamingTo next ∧
      SendStep sending count extras next (sendOnStream stream count extras).2.1
        (sendOnStream stream count extras).2.2 := by
  by_cases running : (!stream.stream.paused && !stream.stream.closed) = true
  · obtain ⟨taken, got, takenStreaming, takenRunning⟩ := getChunks_eq streaming running count
    rw [sendOnStream, got]
    simp only
    rw [chooseChunks_eq count extras takenStreaming takenRunning, takenStreaming]
    cases fresh : (ReadableBuffer.take count sending.buffer).1 with
    | cons first rest =>
        have nonempty : (ReadableBuffer.take count sending.buffer).1 ≠ [] := by
          rw [fresh]
          exact List.cons_ne_nil _ _
        have step : SendStep sending count extras _ extras _ := .fresh nonempty
        rw [fresh] at step
        rw [if_neg (List.cons_ne_nil _ _)]
        exact ⟨_, rfl, step⟩
    | nil =>
        have same := take_nil_snd fresh
        rw [if_pos rfl, same]
        cases read : drained sending.buffer extras count with
        | nil => exact ⟨_, by rw [takenStreaming, same], .nothing fresh read⟩
        | cons first rest =>
            have nonempty : drained sending.buffer extras count ≠ [] := by
              rw [read]
              exact List.cons_ne_nil _ _
            have step := SendStep.drained fresh nonempty
            rw [read] at step
            exact ⟨_, rfl, step⟩
  · have stopped : stream.getChunks count = none := by
      rw [StreamState.getChunks, streaming]
      exact if_neg running
    rw [sendOnStream, stopped]
    exact ⟨sending, streaming, .paused⟩

theorem sendStreamAction_step {session : ConnectionStates} {sending : StreamingTo}
    (sends : session.Sends sending) (count : Nat) (extras : Finset Nat) :
    ∃ next, (sendStreamAction session count extras).session.Sends next ∧
      SendStep sending count extras next (sendStreamAction session count extras).extras
        ((sendStreamAction session count extras).toSend.map fun sent => (sent.1, sent.2.2)) := by
  obtain ⟨established, stream, rfl, state, streaming⟩ := sends
  obtain ⟨next, sendsNext, step⟩ := sendOnStream_step streaming count extras
  simp only [sendStreamAction, state, Option.map_map]
  refine ⟨next, ⟨_, _, rfl, rfl, sendsNext⟩, ?_⟩
  have same : ((fun sent : List Chunk × SocketAddr × BatchId => (sent.1, sent.2.2)) ∘
      fun sent : List Chunk × BatchId => (sent.1, established.address, sent.2)) = id := rfl
  rw [same, Option.map_id]
  exact step

end Ubass

import Ubass.Exchange.Transfer

/-!
# Starting over from the first hole

A transfer that has stalled can go on when the application of the receiver seeks.  The sender is
told of a seek only when it moves past the head, but a seek into the chunk the head stands at does:
the sender goes back to the start of that chunk and hands out its buffer once more from there.
When no chunk before it is missing, such a seek with enough ticks and the packets of these ticks
ends the stream with the source, whatever was sent, lost or forgotten before.
-/

set_option autoImplicit false

namespace Ubass

/-! ## The buffers -/

namespace ReadableBuffer

theorem take_advances {self : ReadableBuffer} (inside : self.head ≤ self.len) (count : Nat) :
    (take count self).2.head = min self.len (self.head + count * maxPayloadLength) := by
  induction count generalizing self with
  | zero =>
      rw [take, Nat.zero_mul, Nat.add_zero, Nat.min_eq_right inside]
  | succ count ih =>
      cases yields : self.next with
      | none =>
          have atEnd := next_eq_none yields
          rw [take_of_next_eq_none yields]
          simp only
          omega
      | some pair =>
          obtain ⟨chunk, rest⟩ := pair
          obtain ⟨_, _, restEq⟩ := next_eq_some yields
          have restLen : rest.len = self.len := by
            rw [restEq]
            rfl
          have restHead : rest.head = min self.len (self.head + maxPayloadLength) := by rw [restEq]
          have restInside : rest.head ≤ rest.len := by
            rw [restHead, restLen]
            exact Nat.min_le_left _ _
          rw [take_of_next_eq_some yields, Nat.succ_mul]
          simp only
          rw [ih restInside, restLen, restHead]
          omega

end ReadableBuffer

namespace WriteableBuffer

end WriteableBuffer

/-! ## A tick that finds something to hand out -/

namespace ConnectionStates

/-- The session sends this stream, which is neither paused nor closed. -/
def Runs (self : ConnectionStates) (sending : StreamingTo) : Prop :=
  ∃ established stream, self = .established established ∧ established.state = .streaming stream ∧
    stream.streaming = .streamingTo sending ∧
    (!stream.stream.paused && !stream.stream.closed) = true

variable {self : ConnectionStates} {sending : StreamingTo}

theorem Runs.sends (runs : self.Runs sending) : self.Sends sending := by
  obtain ⟨established, stream, same, state, streaming, _⟩ := runs
  exact ⟨established, stream, same, state, streaming⟩

theorem runs_sendTick (runs : self.Runs sending) (sessionId : SessionId) (loop : SendLoop)
    (clock : Nat → Timestamp)
    (nonempty : (ReadableBuffer.take packetCountPerBatch sending.buffer).1 ≠ []) :
    ∃ next batchId, (sendTick self sessionId loop clock).1.Runs next ∧
      next.buffer = (ReadableBuffer.take packetCountPerBatch sending.buffer).2 ∧
      (sendTick self sessionId loop clock).2.1.playing = loop.playing ∧
      (sendTick self sessionId loop clock).2.2 =
        sendDataPackets (ReadableBuffer.take packetCountPerBatch sending.buffer).1 sessionId
          batchId clock := by
  obtain ⟨established, stream, rfl, state, streaming, running⟩ := runs
  obtain ⟨taken, got, takenStreaming, takenRunning⟩ :=
    getChunks_eq streaming running packetCountPerBatch
  cases fresh : (ReadableBuffer.take packetCountPerBatch sending.buffer).1 with
  | nil => exact absurd fresh nonempty
  | cons first rest =>
      rw [fresh] at got
      have whole : chooseChunks taken (first :: rest) packetCountPerBatch loop.extras =
          (some (first :: rest), loop.extras) :=
        (chooseChunks_eq packetCountPerBatch loop.extras takenStreaming takenRunning).trans
          (if_neg (List.cons_ne_nil _ _))
      simp only [sendTick, sendStreamAction, state, sendOnStream, got, whole, takenStreaming,
        Option.map_some]
      exact ⟨_, _, ⟨_, _, rfl, rfl, rfl, takenRunning⟩, rfl, trivial, rfl⟩

end ConnectionStates

/-! ## The sender after the seek -/

namespace Sender

def HasSent (since : Nat) (self : Sender) (chunk : Chunk) : Prop :=
  ∃ batch pos packet, since ≤ batch ∧ self.packet batch pos = some packet ∧
    (packet.byteRangeStart, packet.payload) = chunk

/-- The one loop of the sender plays, and has since this batch sent each chunk from the one with
this index to the head of its buffer. -/
structure Replays (since start : Nat) (source : List UInt8) (sending : StreamingTo)
    (state : Sender) : Prop where
  looping : ∃ loop, state.loops = [loop] ∧ loop.playing = true
  runs : state.session.Runs sending
  buffer : sending.buffer.buffer = source
  aligned : sending.buffer.Aligned
  later : since ≤ state.batches.length
  sent : ∀ index, start ≤ index → index * maxPayloadLength < sending.buffer.head →
    state.HasSent since (chunkAt source index)

variable {sessionId : SessionId} {source : List UInt8} {state : Sender} {sending : StreamingTo}
  {since start : Nat}

theorem HasSent.extended {next : Sender} {more : List Batch} {chunk : Chunk}
    (grown : next.batches = state.batches ++ more) (hasSent : state.HasSent since chunk) :
    next.HasSent since chunk := by
  obtain ⟨batch, pos, packet, late, found, same⟩ := hasSent
  obtain ⟨entry, listed, placed⟩ := Option.bind_eq_some_iff.mp found
  refine ⟨batch, pos, packet, late, ?_, same⟩
  rw [Sender.packet, Receiver.getElem?_extended ⟨more, grown⟩ listed, Option.bind_some, placed]

theorem hasSent_of_last {next : Sender} {last : Batch} {chunk : Chunk}
    (later : since ≤ state.batches.length) (grown : next.batches = state.batches ++ [last])
    (emitted : Emitted last.packets chunk) : next.HasSent since chunk := by
  obtain ⟨packet, listed, same⟩ := emitted
  obtain ⟨pos, placed⟩ := List.mem_iff_getElem?.mp listed
  refine ⟨state.batches.length, pos, packet, later, ?_, same⟩
  rw [Sender.packet, grown, List.getElem?_concat_length, Option.bind_some, placed]

theorem Replays.tick (replays : Replays since start source sending state)
    (before : sending.buffer.head < source.length) (clock : Nat → Timestamp) :
    ∃ next after, state.step (Exchange.carrying sessionId source) (.tick 0 clock) = some next ∧
      Replays since start source after next ∧
      after.buffer.head =
        min source.length (sending.buffer.head + packetCountPerBatch * maxPayloadLength) ∧
      next.streams = state.streams ∧ next.batches.length = state.batches.length + 1 := by
  obtain ⟨⟨loop, loops, playing⟩, runs, buffer, aligned, later, sent⟩ := replays
  have len : sending.buffer.len = source.length := congrArg List.length buffer
  have nonempty : (ReadableBuffer.take packetCountPerBatch sending.buffer).1 ≠ [] := by
    intro empty
    exact absurd (ReadableBuffer.take_eq_nil empty).1 (by rw [len]; exact Nat.not_le.mpr before)
  obtain ⟨after, batchId, runsOn, afterBuffer, plays, packets⟩ :=
    ConnectionStates.runs_sendTick runs sessionId loop clock nonempty
  obtain ⟨sameBuffer, afterAligned, _, _, complete⟩ :=
    ReadableBuffer.take_spec aligned packetCountPerBatch
  have present : (sendTick state.session sessionId loop clock).2.2 ≠ [] := by
    rw [packets]
    simpa [sendDataPackets] using nonempty
  have listed : state.loops[0]? = some loop := by
    rw [loops]
    rfl
  have ticked : state.step (Exchange.carrying sessionId source) (.tick 0 clock) =
      some { state with
        session := (sendTick state.session sessionId loop clock).1
        loops := state.loops.set 0 (sendTick state.session sessionId loop clock).2.1
        batches := if (sendTick state.session sessionId loop clock).2.2 = [] then state.batches
          else state.batches ++
            [⟨state.streams, (sendTick state.session sessionId loop clock).2.2⟩] } := by
    simp only [step, listed, playing, if_true]
    rfl
  rw [if_neg present] at ticked
  refine ⟨_, after, ticked, ⟨⟨(sendTick state.session sessionId loop clock).2.1, ?_, ?_⟩, runsOn,
    ?_, ?_, ?_, ?_⟩, ?_, rfl, ?_⟩
  · rw [loops]
    rfl
  · rw [plays, playing]
  · rw [afterBuffer, sameBuffer, buffer]
  · rw [afterBuffer]
    exact afterAligned
  · rw [List.length_append]
    exact later.trans (Nat.le_add_right _ _)
  · intro index startsAt below
    rw [afterBuffer] at below
    rcases Nat.lt_or_ge (index * maxPayloadLength) sending.buffer.head with old | new
    · exact (sent index startsAt old).extended rfl
    · refine hasSent_of_last later rfl ?_
      have handedOut := complete index new below
      rw [buffer] at handedOut
      simp only [packets]
      exact Emitted.of_sendDataPackets handedOut _ _ _
  · rw [afterBuffer, ReadableBuffer.take_advances aligned.inside, len]
  · exact List.length_append

end Sender

/-! ## Whole runs -/

namespace Exchange

def tick (clock : Nat → Timestamp) : ExchangeLabel := .sender (.tick 0 clock)

variable {sessionId : SessionId} {source : List UInt8}

def AllArrive (since : Nat) (sender : Sender) (labels : List ExchangeLabel) : Prop :=
  ∀ batch pos packet, since ≤ batch → sender.packet batch pos = some packet →
    ∃ clock, .receiver (.data batch pos clock) ∈ labels

theorem AllArrive.delivers {since : Nat} {state final : Exchange} {labels : List ExchangeLabel}
    (arrive : AllArrive since state.sender labels)
    (ran : (machine (carrying sessionId source)).run state labels = some final) {index : Nat}
    (hasSent : state.sender.HasSent since (chunkAt source index)) :
    Delivers final source labels index := by
  obtain ⟨batch, pos, packet, late, found, chunk⟩ := hasSent
  obtain ⟨clock, listed⟩ := arrive batch pos packet late found
  exact ⟨batch, pos, clock, packet, listed, packet_of_run ran found, chunk⟩

theorem Delivers.append_left {final : Exchange} {labels : List ExchangeLabel} {index : Nat}
    (delivers : Delivers final source labels index) (earlier : List ExchangeLabel) :
    Delivers final source (earlier ++ labels) index := by
  obtain ⟨batch, pos, clock, packet, listed, found, chunk⟩ := delivers
  exact ⟨batch, pos, clock, packet, List.mem_append_right _ listed, found, chunk⟩

end Exchange
end Ubass

import Ubass.Api.Calls
import Ubass.Exchange.Parity

/-!
# What a receiver writes

A receive buffer agrees with a source as long as only chunks of that source are
written to it, whether they arrive themselves or are recovered.  A recovered
chunk is a chunk of the batch whose blocks its entry holds.
-/

set_option autoImplicit false

namespace Ubass

/-! ## The receive buffer -/

namespace WriteableBuffer

theorem new_agrees (buffer : Buffer) (source : List UInt8) : (new buffer).Agrees source := by
  intro memory _ index filled
  cases (List.mem_replicate.mp (List.mem_of_getElem? filled)).2

theorem Agrees.congr {self other : WriteableBuffer} {source : List UInt8}
    (agrees : self.Agrees source) (map : other.map = self.map)
    (memory : other.buffer.memory = self.buffer.memory) : other.Agrees source := by
  intro bytes present index filled
  rw [memory] at present
  rw [map] at filled
  exact agrees bytes present index filled

theorem Agrees.write {self : WriteableBuffer} {source : List UInt8} (agrees : self.Agrees source)
    {position : BytePosition} {payload : List UInt8} (isChunk : IsChunk source (position, payload)) :
    (self.write position payload).1.Agrees source := by
  have stepped := write_step self position payload
  generalize self.write position payload = result at stepped ⊢
  obtain ⟨chunk, inSource, small, same⟩ := isChunk
  obtain ⟨rfl, rfl⟩ := Prod.mk.inj same
  have start : (BytePosition.ofNat (chunk * maxPayloadLength)).toNat = chunk * maxPayloadLength :=
    BytePosition.toNat_ofNat_of_lt small
  have slot : chunk * maxPayloadLength / maxPayloadLength = chunk :=
    Nat.mul_div_cancel _ maxPayloadLength_pos
  cases stepped with
  | rejected error _ => exact agrees
  | null _ missing _ buffer _ =>
      intro memory present
      rw [buffer, missing] at present
      cases present
  | written memory copied accepts present map len _ bytes _ =>
      rw [start] at map bytes
      rw [slot] at map
      have fits : chunk * maxPayloadLength + (chunkBytes source chunk).length ≤ memory.length := by
        rw [self.buffer.memory_length memory present, ← start]
        exact (writeRejects_eq_none.mp accepts).1
      have width := length_chunkBytes source chunk
      intro after isAfter index filled
      rw [advanceHead_buffer, bytes] at isAfter
      cases isAfter
      rw [advanceHead_map, map] at filled
      rw [Bytes.length_overwrite fits]
      by_cases here : index = chunk
      · subst here
        refine ⟨inSource, ?_⟩
        intro offset inChunk _ beforeEnd
        have above : index * maxPayloadLength ≤ offset := by
          rw [← inChunk]
          exact Nat.div_mul_le_self _ _
        have below : offset < index * maxPayloadLength + (chunkBytes source index).length := by
          have next := Nat.lt_div_mul_add maxPayloadLength_pos (a := offset)
          rw [inChunk] at next
          omega
        rw [Bytes.getElem?_overwrite_inside fits above below, getElem?_chunkBytes (by omega),
          Nat.add_sub_cancel' above]
      · rw [List.getElem?_set_ne (Ne.symm here)] at filled
        obtain ⟨inside, holds⟩ := agrees memory present index filled
        refine ⟨inside, ?_⟩
        intro offset inChunk inMemory beforeEnd
        rw [Bytes.getElem?_overwrite_outside fits]
        · exact holds offset inChunk inMemory beforeEnd
        · have next := Nat.lt_div_mul_add maxPayloadLength_pos (a := offset)
          have low := Nat.div_mul_le_self offset maxPayloadLength
          rw [inChunk] at next low
          simp only [maxPayloadLength] at next low width ⊢
          omega

end WriteableBuffer

/-! ## The handlers -/

namespace ConnectionStates

theorem openBuffer_of_receiving {session : ConnectionStates} {established : EstablishedState}
    {stream : StreamState} {receiving : StreamingFrom}
    (found : session.receiving = some (established, stream, receiving)) :
    session.openBuffer = some receiving.buffer := by
  obtain ⟨isOpen, streaming⟩ := receiving_eq_some found
  rw [openBuffer, isOpen, Option.bind_some, StreamState.writeable, streaming]

theorem openBuffer_of_not_receiving {session : ConnectionStates}
    (found : session.receiving = none) : session.openBuffer = none := by
  cases isOpen : session.openStream with
  | none => rw [openBuffer, isOpen, Option.bind_none]
  | some opened =>
      obtain ⟨established, stream⟩ := opened
      cases streaming : stream.streaming with
      | streamingTo sending =>
          rw [openBuffer, isOpen, Option.bind_some, StreamState.writeable, streaming]
      | streamingFrom receiving =>
          rw [ConnectionStates.receiving, isOpen] at found
          simp only [streaming] at found
          cases found

@[simp] theorem openBuffer_withStream (established : EstablishedState) (stream : StreamState) :
    (withStream established stream).openBuffer = stream.writeable := rfl

@[simp] theorem openBuffer_updateMessage (session : ConnectionStates)
    (change : StreamMessage → StreamMessage) :
    (session.updateMessage change).openBuffer = session.openBuffer := by
  cases isOpen : session.openStream with
  | none => rw [updateMessage, isOpen]
  | some opened =>
      rw [updateMessage, isOpen, openBuffer, openBuffer, isOpen]
      rfl

theorem closeStream_openBuffer (session : ConnectionStates) :
    session.closeStream.1.openBuffer = none ∧
      session.closeStream.2.bind StreamState.writeable = session.openBuffer := by
  cases isOpen : session.openStream with
  | none =>
      rw [closeStream, isOpen, openBuffer, isOpen]
      exact ⟨rfl, rfl⟩
  | some opened =>
      obtain ⟨established, stream⟩ := opened
      rw [closeStream, isOpen, openBuffer, openBuffer, isOpen]
      refine ⟨rfl, ?_⟩
      simp only [Option.bind_some, StreamState.writeable, StreamState.close]
      cases stream.streaming <;> rfl

theorem openBuffer_streamingFrom {session : ConnectionStates} (free : session.isFree = true)
    (buffer : WriteableBuffer) (message : StreamMessage) :
    (session.streamingFrom buffer message).openBuffer = some buffer := by
  unfold isFree at free
  split at free
  · split at free
    · rename_i state
      simp only [streamingFrom, state]
      rfl
    · rename_i state
      simp only [streamingFrom, state]
      rfl
    · cases free
  · cases free

theorem seek_agrees {session : ConnectionStates} {source : List UInt8}
    (agrees : ∀ buffer, session.openBuffer = some buffer → buffer.Agrees source)
    (position : BytePosition) :
    ∀ buffer, (session.seek position).1.openBuffer = some buffer → buffer.Agrees source := by
  intro buffer isOpen
  cases found : session.receiving with
  | none =>
      rw [seek, found] at isOpen
      exact agrees buffer isOpen
  | some opened =>
      obtain ⟨established, stream, receiving⟩ := opened
      rw [seek, found] at isOpen
      cases isOpen
      exact (agrees _ (openBuffer_of_receiving found)).congr
        (WriteableBuffer.seekHead_map _ _)
        (congrArg Buffer.memory (WriteableBuffer.seekHead_buffer _ _))

variable {property : WriteableBuffer → Prop}

/-- What holds of the buffer once the packet is written to it holds of the buffer that
`received_data_packet` leaves, whether the stream goes on or is closed. -/
theorem receivedDataPacket_stores {session : ConnectionStates} {packet : DataPacket}
    (stored : ∀ buffer, session.openBuffer = some buffer →
      property (buffer.write packet.byteRangeStart packet.payload).1) (clock : Nat → Timestamp) :
    (∀ buffer, (session.receivedDataPacket packet clock).session.openBuffer = some buffer →
      property buffer) ∧
    ∀ buffer, (session.receivedDataPacket packet clock).closed.bind StreamState.writeable =
      some buffer → property buffer := by
  cases found : session.receiving with
  | none =>
      rw [receivedDataPacket, found]
      refine ⟨?_, fun buffer closed => nomatch closed⟩
      intro buffer isOpen
      rw [mismatch, openBuffer_of_not_receiving found] at isOpen
      cases isOpen
  | some opened =>
      obtain ⟨established, stream, receiving⟩ := opened
      have written := stored receiving.buffer (openBuffer_of_receiving found)
      obtain ⟨⟨next, streaming, same⟩, _⟩ := stream.storeData_spec receiving packet clock
      rw [receivedDataPacket, found]
      simp only
      rcases result : stream.storeData receiving packet clock with ⟨last, error | ⟨_ | _, ranges⟩⟩
      all_goals
        rw [result] at streaming
        simp only at streaming
        have buffer : last.writeable = some next.buffer := by
          rw [StreamState.writeable, streaming]
        rw [← same] at written
        simp only
      · refine ⟨?_, fun other closed => nomatch closed⟩
        intro other isOpen
        rw [openBuffer_withStream, buffer] at isOpen
        cases isOpen
        exact written
      · refine ⟨?_, fun other closed => nomatch closed⟩
        intro other isOpen
        rw [openBuffer_withStream, buffer] at isOpen
        cases isOpen
        exact written
      · obtain ⟨shut, kept⟩ := closeStream_openBuffer (withStream established last)
        rw [openBuffer_withStream, buffer] at kept
        refine ⟨?_, ?_⟩
        · intro other isOpen
          rw [shut] at isOpen
          cases isOpen
        · intro other closed
          rw [kept] at closed
          cases closed
          exact written

theorem writeRecovered_keeps {packets : List RecoverdPacket}
    (kept : ∀ buffer, property buffer → ∀ packet ∈ packets,
      property (buffer.write packet.byteRangeStart packet.payload).1)
    (receiving : StreamingFrom) (message : StreamMessage) (start : property receiving.buffer) :
    property (StreamState.writeRecovered receiving message packets).1.buffer := by
  induction packets generalizing receiving message with
  | nil => exact start
  | cons packet rest ih =>
      have written := kept receiving.buffer start packet List.mem_cons_self
      rw [StreamState.writeRecovered]
      split
      · rename_i buffer error result
        rw [result] at written
        exact written
      · rename_i buffer span result
        rw [result] at written
        exact ih (fun buffer holds other listed => kept buffer holds other
          (List.mem_cons_of_mem _ listed)) _ _ written

/-- What every write of a recovered packet keeps holds of the buffer that `recovered_packet`
leaves. -/
theorem recoveredPacket_stores {session : ConnectionStates} {recovered : Recovered}
    (start : ∀ buffer, session.openBuffer = some buffer → property buffer)
    (kept : ∀ first, session.openBuffer = some first → ∀ buffer, property buffer →
      ∀ packet ∈ recovered.packets,
        property (buffer.write packet.byteRangeStart packet.payload).1)
    (clock : Nat → Timestamp) :
    ∀ buffer, (session.recoveredPacket recovered clock).session.openBuffer = some buffer →
      property buffer := by
  intro buffer isOpen
  cases found : session.receiving with
  | none =>
      rw [recoveredPacket, found, mismatch, openBuffer_of_not_receiving found] at isOpen
      cases isOpen
  | some opened =>
      obtain ⟨established, stream, receiving⟩ := opened
      have present := openBuffer_of_receiving found
      have written := writeRecovered_keeps (kept _ present) receiving
        { stream.stream with approved := some true } (start _ present)
      obtain ⟨⟨next, streaming, same⟩, _⟩ := stream.storeRecovered_spec receiving recovered clock
      have stored : property next.buffer := by
        rw [same]
        exact written
      rw [recoveredPacket, found] at isOpen
      simp only at isOpen
      rcases result : stream.storeRecovered receiving recovered clock with
        ⟨last, error | ⟨_ | _, ranges⟩⟩
      all_goals
        rw [result] at streaming isOpen
        simp only at streaming isOpen
        have last : last.writeable = some next.buffer := by
          rw [StreamState.writeable, streaming]
        simp only [openBuffer_withStream, openBuffer_updateMessage] at isOpen
        rw [last] at isOpen
        cases isOpen
        exact stored

end ConnectionStates
end Ubass

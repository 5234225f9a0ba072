import Ubass.Api.Calls
import Ubass.Manager.Receive

/-!
# Storing recovered packets

The loop of `recovered_packet` leaves the handler at the first packet that the
buffer does not take.  So every packet that the buffer would take on its own is
stored, and the stream is settled, exactly when the buffer takes all of them and no
two belong in the same chunk.
-/

set_option autoImplicit false

namespace Ubass

namespace RecoverdPacket

def index (packet : RecoverdPacket) : Nat := packet.byteRangeStart.toNat / maxPayloadLength

end RecoverdPacket

namespace WriteableBuffer

def accepts (self : WriteableBuffer) (packet : RecoverdPacket) : Bool :=
  (self.writeRejects packet.byteRangeStart packet.payload).isNone

theorem accepts_iff {self : WriteableBuffer} {packet : RecoverdPacket} :
    self.accepts packet = true ↔
      packet.byteRangeStart.toNat + packet.payload.length ≤ self.len ∧
      self.map[packet.index]? = some false ∧
      (packet.payload.length = maxPayloadLength ∨ packet.index = self.len / maxPayloadLength) := by
  rw [accepts, Option.isNone_iff_eq_none, writeRejects_eq_none]
  rfl

/-- The memory after these packets have been copied in order. -/
def storedBytes (memory : List UInt8) (packets : List RecoverdPacket) : List UInt8 :=
  packets.foldl
    (fun memory packet => Bytes.overwrite memory packet.byteRangeStart.toNat packet.payload) memory

variable {self : WriteableBuffer} {packet : RecoverdPacket} {memory : List UInt8}

theorem write_of_accepts (present : self.buffer.memory = some memory)
    (accepted : self.accepts packet = true) :
    ∃ next span, self.write packet.byteRangeStart packet.payload = (next, .ok span) ∧
      next.map = self.map.set packet.index true ∧ next.len = self.len ∧
      next.buffer.memory =
        some (Bytes.overwrite memory packet.byteRangeStart.toNat packet.payload) := by
  have stepped := self.write_step packet.byteRangeStart packet.payload
  generalize self.write packet.byteRangeStart packet.payload = result at stepped
  cases stepped with
  | rejected error rejects => simp [accepts, rejects] at accepted
  | null _ missing => cases present.symm.trans missing
  | written other copied _ same map len _ bytes =>
      cases present.symm.trans same
      exact ⟨copied.advanceHead, _, rfl, by rw [advanceHead_map]; exact map,
        by rw [advanceHead_len]; exact len, by rw [advanceHead_buffer]; exact bytes⟩

theorem write_of_not_accepts (rejected : self.accepts packet ≠ true) :
    ∃ error, self.write packet.byteRangeStart packet.payload = (self, .error error) := by
  cases rejects : self.writeRejects packet.byteRangeStart packet.payload with
  | none => simp [accepts, rejects] at rejected
  | some error => exact ⟨error, by rw [write, rejects]⟩

theorem accepts_of_set {next : WriteableBuffer} (map : next.map = self.map.set packet.index true)
    (len : next.len = self.len) (other : RecoverdPacket) :
    next.accepts other = true ↔ self.accepts other = true ∧ packet.index ≠ other.index := by
  rw [accepts_iff, accepts_iff, map, len]
  by_cases same : packet.index = other.index
  · rw [same, List.getElem?_set_self']
    cases self.map[other.index]? <;> simp
  · rw [List.getElem?_set_ne same]
    simp [same]

end WriteableBuffer

namespace StreamState

open WriteableBuffer

variable {receiving : StreamingFrom} {memory : List UInt8}

/-- The loop comes to its end exactly when the buffer takes every packet and no two belong in the
same chunk. -/
theorem writeRecovered_eq_none (message : StreamMessage) (packets : List RecoverdPacket)
    (present : receiving.buffer.buffer.memory = some memory) :
    (writeRecovered receiving message packets).2.2 = none ↔
      (∀ packet ∈ packets, receiving.buffer.accepts packet = true) ∧
        packets.Pairwise fun first second => first.index ≠ second.index := by
  induction packets generalizing receiving message memory with
  | nil => simp [writeRecovered]
  | cons packet rest ih =>
      by_cases accepted : receiving.buffer.accepts packet = true
      · obtain ⟨next, span, written, map, len, bytes⟩ := write_of_accepts present accepted
        have rest' := @ih
          (({ receiving with buffer := next } : StreamingFrom).clearPending packet.byteRangeStart)
          _ { message with head := next.head.toNat } bytes
        simp only [writeRecovered, written]
        rw [rest', StreamingFrom.clearPending_buffer]
        simp only [accepts_of_set map len, List.forall_mem_cons, List.pairwise_cons, accepted,
          true_and]
        constructor
        · rintro ⟨taken, apart⟩
          exact ⟨fun other listed => (taken other listed).1,
            fun other listed => (taken other listed).2, apart⟩
        · rintro ⟨taken, first, apart⟩
          exact ⟨fun other listed => ⟨taken other listed, first other listed⟩, apart⟩
      · obtain ⟨error, rejected⟩ := write_of_not_accepts accepted
        simp only [writeRecovered, rejected]
        simp [accepted]

def Settled (receiving : StreamingFrom) (index : Nat) : Prop :=
  receiving.buffer.map[index]? = some true ∧ receiving.pending.contains index = false

theorem settled_of_written {next : WriteableBuffer} {packet : RecoverdPacket}
    (map : next.map = receiving.buffer.map.set packet.index true) {index : Nat}
    (settled : Settled receiving index ∨
      receiving.buffer.map[index]? ≠ none ∧ index = packet.index) :
    Settled (({ receiving with buffer := next } : StreamingFrom).clearPending
      packet.byteRangeStart) index := by
  have marks : next.map[index]? = some true := by
    rw [map]
    rcases settled with ⟨filled, _⟩ | ⟨inside, rfl⟩
    · by_cases same : packet.index = index
      · rw [same, List.getElem?_set_self']
        simp [filled]
      · rw [List.getElem?_set_ne same, filled]
    · rw [List.getElem?_set_self']
      obtain ⟨entry, found⟩ := Option.ne_none_iff_exists'.mp inside
      simp [found]
  refine ⟨marks, ?_⟩
  rw [Bool.eq_false_iff]
  intro pending
  obtain ⟨apart, asked⟩ := (Table.contains_remove _ _ _).mp pending
  rcases settled with ⟨_, cleared⟩ | ⟨_, same⟩
  · rw [cleared] at asked
    cases asked
  · exact apart same

theorem writeRecovered_stored (message : StreamMessage) (packets : List RecoverdPacket)
    (present : receiving.buffer.buffer.memory = some memory)
    (stored : (writeRecovered receiving message packets).2.2 = none) :
    (writeRecovered receiving message packets).1.buffer.buffer.memory =
        some (storedBytes memory packets) ∧
      ∀ index, Settled receiving index ∨ (∃ packet ∈ packets, packet.index = index) →
        Settled (writeRecovered receiving message packets).1 index := by
  induction packets generalizing receiving message memory with
  | nil =>
      refine ⟨present, ?_⟩
      intro index settled
      simpa [writeRecovered] using settled
  | cons packet rest ih =>
      have accepted := ((writeRecovered_eq_none message _ present).mp stored).1 packet (by simp)
      obtain ⟨next, span, written, map, len, bytes⟩ := write_of_accepts present accepted
      simp only [writeRecovered, written] at stored ⊢
      obtain ⟨copied, settles⟩ := @ih
        (({ receiving with buffer := next } : StreamingFrom).clearPending packet.byteRangeStart)
        _ { message with head := next.head.toNat } bytes stored
      refine ⟨copied, ?_⟩
      intro index settled
      apply settles
      have inside : receiving.buffer.map[packet.index]? ≠ none := by
        rw [(accepts_iff.mp accepted).2.1]
        simp
      rcases settled with before | ⟨other, listed, rfl⟩
      · exact Or.inl (settled_of_written map (Or.inl before))
      · rcases List.mem_cons.mp listed with rfl | later
        · exact Or.inl (settled_of_written map (Or.inr ⟨inside, rfl⟩))
        · exact Or.inr ⟨other, later, rfl⟩

/-! ## What the decision leaves -/

theorem reserve_settled (receiving : StreamingFrom) (now : Timestamp)
    (positions : List BytePosition) {index : Nat} (settled : Settled receiving index) :
    Settled (receiving.reserve now positions).1 index := by
  induction positions generalizing receiving with
  | nil => exact settled
  | cons position rest ih =>
      rw [StreamingFrom.reserve]
      split
      · exact ih receiving settled
      · rename_i wanted
        apply ih
        refine ⟨settled.1, ?_⟩
        rw [Bool.eq_false_iff]
        intro pending
        rcases (Table.contains_insert _ _ _ _).mp pending with rfl | before
        · push Not at wanted
          have unfilled : receiving.buffer.positionOccupied position = some false := by
            cases occupied : receiving.buffer.positionOccupied position with
            | none => simp [occupied] at wanted
            | some filled => simpa [occupied] using wanted.1
          have entry := (positionOccupied_eq_some.mp unfilled).2
          cases entry.symm.trans settled.1
        · rw [settled.2] at before
          cases before

theorem reserveForRequest_settled (receiving : StreamingFrom) (positions : List BytePosition)
    (now : Timestamp) {index : Nat} (settled : Settled receiving index) :
    Settled (receiving.reserveForRequest positions now).1 index := by
  apply reserve_settled
  refine ⟨settled.1, ?_⟩
  rw [Bool.eq_false_iff]
  intro pending
  have before := Table.contains_of_contains_retain pending
  rw [settled.2] at before
  cases before

theorem settle_settled (receiving : StreamingFrom) (message : StreamMessage) (fec : SessionFecState)
    (batchEnd : Bool) (clock : Nat → Timestamp) :
    ∃ after, (settle receiving message fec batchEnd clock).1.streaming = .streamingFrom after ∧
      after.buffer = receiving.buffer ∧
      ∀ index, Settled receiving index → Settled after index := by
  unfold settle
  split
  · exact ⟨receiving, rfl, rfl, fun _ settled => settled⟩
  · refine ⟨_, rfl, scoreRanges_buffer _ _ _ _, ?_⟩
    intro index settled
    unfold scoreRanges
    split
    · exact reserveForRequest_settled _ _ _ settled
    · split
      · exact reserveForRequest_settled _ _ _ settled
      · exact settled

end StreamState

/-! ## The handler -/

/-- What the handler owes to the packets that the buffer would take on their own: each is written
and no longer pending, and the stream is settled on the buffer that they leave. -/
structure StoresAccepted (receiving : StreamingFrom) (memory : List UInt8)
    (packets : List RecoverdPacket) (handled : Handled) (established : EstablishedState)
    (stream : StreamState) (after : StreamingFrom) : Prop where
  receives : handled.session.receiving = some (established, stream, after)
  written : after.buffer.buffer.memory =
    some (WriteableBuffer.storedBytes memory (packets.filter receiving.buffer.accepts))
  filled : ∀ packet ∈ packets, receiving.buffer.accepts packet = true →
    after.buffer.map[packet.index]? = some true
  cleared : ∀ packet ∈ packets, receiving.buffer.accepts packet = true →
    after.pending.contains packet.index = false
  settled : handled.result = .ok (declareDone after.buffer stream.stream)

namespace ConnectionStates

theorem receiving_withStream (session : EstablishedState) {stream : StreamState}
    {receiving : StreamingFrom} (streaming : stream.streaming = .streamingFrom receiving) :
    (withStream session stream).receiving =
      some ({ session with state := .streaming stream }, stream, receiving) := by
  rw [ConnectionStates.receiving, openStream_withStream]
  simp only [streaming]

theorem recoveredPacket_settled {self : ConnectionStates} {established : EstablishedState}
    {stream next : StreamState} {receiving after : StreamingFrom} {done : Bool}
    {ranges : List ByteRange} {recovered : Recovered} {clock : Nat → Timestamp}
    (receives : self.receiving = some (established, stream, receiving))
    (stored : stream.storeRecovered receiving recovered clock = (next, .ok (done, ranges)))
    (streaming : next.streaming = .streamingFrom after) :
    ∃ established' stream', (self.recoveredPacket recovered clock).session.receiving =
        some (established', stream', after) ∧
      stream'.stream.complete = next.stream.complete ∧
      (self.recoveredPacket recovered clock).result = .ok done := by
  cases done with
  | true =>
      have handled : self.recoveredPacket recovered clock =
          ⟨(withStream established next).updateMessage fun message =>
            { message with closed := true }, none,
            [donePacket established established.sessionId clock], .ok true⟩ := by
        rw [recoveredPacket, receives]
        simp only [stored]
      rw [handled]
      exact ⟨_, _, receiving_withStream _ streaming, rfl, rfl⟩
  | false =>
      have handled : self.recoveredPacket recovered clock =
          ⟨withStream established next, none,
            retransmitPackets established established.sessionId ranges clock, .ok false⟩ := by
        rw [recoveredPacket, receives]
        simp only [stored]
      rw [handled]
      exact ⟨_, _, receiving_withStream _ streaming, rfl, rfl⟩

theorem recoveredPacket_rejected {self : ConnectionStates} {established : EstablishedState}
    {stream next : StreamState} {receiving : StreamingFrom} {error : ReceiveError}
    {recovered : Recovered} {clock : Nat → Timestamp}
    (receives : self.receiving = some (established, stream, receiving))
    (stored : stream.storeRecovered receiving recovered clock = (next, .error error)) :
    self.recoveredPacket recovered clock =
      ⟨withStream established next, none, [], .error error⟩ := by
  rw [recoveredPacket, receives]
  simp only [stored]

theorem recoveredPacket_first_rejected {self : ConnectionStates} {established : EstablishedState}
    {stream : StreamState} {receiving : StreamingFrom} {packet : RecoverdPacket}
    {rest : List RecoverdPacket} {recovered : Recovered}
    (receives : self.receiving = some (established, stream, receiving))
    (packets : recovered.packets = packet :: rest)
    (rejected : receiving.buffer.accepts packet ≠ true) (clock : Nat → Timestamp) :
    ∃ error established' stream',
      (self.recoveredPacket recovered clock).result = .error error ∧
      (self.recoveredPacket recovered clock).session.receiving =
        some (established', stream', receiving) := by
  obtain ⟨error, written⟩ := WriteableBuffer.write_of_not_accepts rejected
  have stored : stream.storeRecovered receiving recovered clock =
      (⟨.streamingFrom receiving, { stream.stream with approved := some true },
        stream.fec.evict recovered.batchId⟩, .error (.fromBufferError error)) := by
    rw [StreamState.storeRecovered, packets]
    simp only [StreamState.writeRecovered, written]
  rw [recoveredPacket_rejected receives stored]
  exact ⟨_, _, _, rfl, receiving_withStream established rfl⟩

/-- For every session that receives into memory, and every list of recovered packets: the handler
stores what the buffer would take exactly when the buffer takes every packet on its own and no two
of them belong in the same chunk. -/
theorem recovered_stored_iff {self : ConnectionStates} {established : EstablishedState}
    {stream : StreamState} {receiving : StreamingFrom} {memory : List UInt8}
    (receives : self.receiving = some (established, stream, receiving))
    (present : receiving.buffer.buffer.memory = some memory) (recovered : Recovered)
    (clock : Nat → Timestamp) :
    (∃ established' stream' after, StoresAccepted receiving memory recovered.packets
        (self.recoveredPacket recovered clock) established' stream' after) ↔
      (∀ packet ∈ recovered.packets, receiving.buffer.accepts packet = true) ∧
        recovered.packets.Pairwise fun first second => first.index ≠ second.index := by
  let approved : StreamMessage := { stream.stream with approved := some true }
  have loop := StreamState.writeRecovered_eq_none approved recovered.packets present
  have stores := StreamState.writeRecovered_stored approved recovered.packets present
  rw [← loop]
  rcases written : StreamState.writeRecovered receiving approved recovered.packets with
    ⟨last, message, _ | error⟩
  · rw [written] at loop stores
    obtain ⟨copied, settles⟩ := stores rfl
    obtain ⟨after, streaming, buffer, kept⟩ := StreamState.settle_settled last message
      (stream.fec.evict recovered.batchId) true clock
    obtain ⟨_, same, decided⟩ := StreamState.settle_spec last message
      (stream.fec.evict recovered.batchId) true clock
    have stored : stream.storeRecovered receiving recovered clock =
        ((StreamState.settle last message (stream.fec.evict recovered.batchId) true clock).1,
          .ok (StreamState.settle last message
            (stream.fec.evict recovered.batchId) true clock).2) := by
      rw [StreamState.storeRecovered]
      simp only [approved] at written
      simp only [written]
    obtain ⟨established', stream', session, complete, result⟩ :=
      recoveredPacket_settled receives stored streaming
    have done : ∀ packet ∈ recovered.packets, StreamState.Settled after packet.index := by
      intro packet listed
      exact kept _ (settles _ (Or.inr ⟨packet, listed, rfl⟩))
    have all : recovered.packets.filter receiving.buffer.accepts = recovered.packets :=
      List.filter_eq_self.mpr (loop.mp rfl).1
    refine iff_of_true ⟨established', stream', after, session, ?_, ?_, ?_, ?_⟩ rfl
    · rw [buffer, all]
      exact copied
    · intro packet listed _
      exact (done packet listed).1
    · intro packet listed _
      exact (done packet listed).2
    · rw [result, decided, buffer, declareDone, declareDone, complete, same]
  · have stored : stream.storeRecovered receiving recovered clock =
        (⟨.streamingFrom last, message, stream.fec.evict recovered.batchId⟩,
          .error (.fromBufferError error)) := by
      rw [StreamState.storeRecovered]
      simp only [approved] at written
      simp only [written]
    refine iff_of_false ?_ ?_
    · rintro ⟨established', stream', after, owed⟩
      have result := owed.settled
      rw [recoveredPacket_rejected receives stored] at result
      cases result
    · intro impossible
      cases impossible

def twoChunks : WriteableBuffer := WriteableBuffer.new (Buffer.ofBytes (List.replicate 1369 0))

def firstChunk : RecoverdPacket := ⟨BytePosition.ofNat 0, List.replicate 1368 5⟩

def lastChunk : RecoverdPacket := ⟨BytePosition.ofNat 1368, [9]⟩

theorem recovered_stored_iff_both :
    let recovered : Recovered := ⟨⟨7⟩, ⟨1⟩, [lastChunk, firstChunk]⟩
    (∃ established' stream' after, StoresAccepted (StreamingFrom.new twoChunks)
        (List.replicate 1369 0) recovered.packets
        ((opened twoChunks).recoveredPacket recovered fun _ => ⟨0, by decide⟩)
        established' stream' after) ↔
      (∀ packet ∈ recovered.packets, twoChunks.accepts packet = true) ∧
        recovered.packets.Pairwise fun first second => first.index ≠ second.index := by
  intro recovered
  obtain ⟨session, stream, receives⟩ := receiving_opened twoChunks
  exact recovered_stored_iff receives rfl recovered _

/-- The first chunk has been filled by a retransmission.  Both chunks are recovered, and the last
one, which the buffer would take, is lost with the first. -/
theorem recovered_discarded :
    let buf := (twoChunks.write firstChunk.byteRangeStart firstChunk.payload).1
    let recovered : Recovered := ⟨⟨7⟩, ⟨1⟩, [firstChunk, lastChunk]⟩
    (∀ profile, (receiver profile).Reachable buf) ∧
      (∃ memory, buf.buffer.memory = some memory) ∧ buf.accepts lastChunk = true ∧
      ∀ clock,
        (∃ established stream, ((opened buf).recoveredPacket recovered clock).session.receiving =
          some (established, stream, StreamingFrom.new buf)) ∧
        ∀ memory established' stream' after, ¬ StoresAccepted (StreamingFrom.new buf) memory
          recovered.packets ((opened buf).recoveredPacket recovered clock) established' stream'
          after := by
  intro buf recovered
  have accepted : twoChunks.accepts firstChunk = true := by decide +kernel
  obtain ⟨next, span, written, map, len, bytes⟩ :=
    @WriteableBuffer.write_of_accepts twoChunks firstChunk _ rfl accepted
  have same : buf = next := congrArg Prod.fst written
  have takes := WriteableBuffer.accepts_of_set map len
  rw [← same] at takes bytes
  refine ⟨?_, ⟨_, bytes⟩, (takes lastChunk).mpr ⟨by decide +kernel, by decide⟩, ?_⟩
  · intro profile
    have fits : twoChunks.writeOverflows firstChunk.byteRangeStart firstChunk.payload = false := by
      decide +kernel
    refine ⟨twoChunks, [.write firstChunk.byteRangeStart firstChunk.payload], ⟨_, rfl⟩, ?_⟩
    simp [Machine.run, receiver, ReceiveCall.overflows, ReceiveCall.apply, fits, buf]
  · intro clock
    clear_value buf
    have rejected : buf.accepts firstChunk ≠ true := by
      intro taken
      exact ((takes firstChunk).mp taken).2 rfl
    obtain ⟨session, stream, receives⟩ := receiving_opened buf
    obtain ⟨error, established, stream, result, session⟩ :=
      @recoveredPacket_first_rejected _ _ _ _ _ _ recovered receives rfl rejected clock
    refine ⟨⟨established, stream, session⟩, ?_⟩
    intro memory established' stream' after owed
    cases result.symm.trans owed.settled

end ConnectionStates
end Ubass

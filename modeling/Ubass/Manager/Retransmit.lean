import Ubass.Manager.Send
import Ubass.Processor.Codec

/-!
# A retransmit request from end to end

The receiver coalesces the positions of missing chunks into ranges, spreads the
ranges over packets, and the send loop splits what it gets back into chunk
indices.  Every range on the way covers whole chunks (`Whole`), and joining two of
them covers the chunks of both.
-/

set_option autoImplicit false

namespace Ubass

namespace ByteRange

/-- The range starts at a chunk and holds a number of whole chunks. -/
structure Whole (range : ByteRange) : Prop where
  start : range.start.toNat % maxPayloadLength = 0
  length : range.length.toNat % maxPayloadLength = 0
  fits : range.start.toNat + range.length.toNat < 2 ^ 32

def Covers (self : ByteRange) (index : Nat) : Prop :=
  self.start.toNat ≤ index * maxPayloadLength ∧
    index * maxPayloadLength < self.start.toNat + self.length.toNat

theorem Whole.stop {self : ByteRange} (whole : self.Whole) :
    self.stop = self.start.toNat + self.length.toNat :=
  Nat.mod_eq_of_lt whole.fits

/-! ## Coalescing -/

theorem length_new_maxPayloadLength (position : BytePosition) :
    (new position maxPayloadLength).length.toNat = maxPayloadLength := rfl

theorem new_whole {position : BytePosition} (aligned : position.toNat % maxPayloadLength = 0)
    (fits : position.toNat + maxPayloadLength < 2 ^ 32) : (new position maxPayloadLength).Whole where
  start := aligned
  length := by rw [length_new_maxPayloadLength, Nat.mod_self]
  fits := fits

theorem covers_new {position : BytePosition} (aligned : position.toNat % maxPayloadLength = 0)
    (index : Nat) :
    (new position maxPayloadLength).Covers index ↔ position.toNat / maxPayloadLength = index := by
  have start : (new position maxPayloadLength).start = position := rfl
  rw [Covers, length_new_maxPayloadLength, start]
  simp only [maxPayloadLength] at aligned ⊢
  omega

theorem length_concat {self other : ByteRange}
    (fits : self.length.toNat + other.length.toNat < 2 ^ 16) :
    (self.length + other.length).toNat = self.length.toNat + other.length.toNat := by
  rw [UInt16.toNat_add, Nat.mod_eq_of_lt fits]

theorem concat_spec {self other joined : ByteRange} (whole : self.Whole) (wholeOther : other.Whole)
    (concat : self.concat other = some joined) :
    joined.Whole ∧ ∀ index, joined.Covers index ↔ self.Covers index ∨ other.Covers index := by
  have selfLength := whole.length
  have otherLength := wholeOther.length
  rw [ByteRange.concat, whole.stop, wholeOther.stop] at concat
  split at concat
  · rename_i contiguous
    obtain ⟨adjacent, fits⟩ := contiguous
    have length := length_concat fits
    cases Option.some.inj concat
    by_cases before : other.start.toNat + other.length.toNat = self.start.toNat
    · rw [if_pos before]
      refine ⟨⟨wholeOther.start, ?_, ?_⟩, ?_⟩
      · rw [length, Nat.add_mod, selfLength, otherLength]
        rfl
      · have bound := whole.fits
        simp only [length]
        omega
      · intro index
        simp only [Covers, length]
        omega
    · have after := adjacent.resolve_right before
      rw [if_neg before]
      refine ⟨⟨whole.start, ?_, ?_⟩, ?_⟩
      · rw [length, Nat.add_mod, selfLength, otherLength]
        rfl
      · have bound := wholeOther.fits
        simp only [length]
        omega
      · intro index
        simp only [Covers, length]
        omega
  · cases concat

end ByteRange

theorem coalesceFrom_spec {current : ByteRange} {rest : List ByteRange} (whole : current.Whole)
    (wholeRest : ∀ range ∈ rest, range.Whole) :
    (∀ range ∈ coalesceFrom current rest, range.Whole) ∧
      ∀ index, (∃ range ∈ coalesceFrom current rest, range.Covers index) ↔
        current.Covers index ∨ ∃ range ∈ rest, range.Covers index := by
  induction rest generalizing current with
  | nil =>
      rw [coalesceFrom]
      refine ⟨?_, ?_⟩
      · intro range listed
        rwa [List.mem_singleton.mp listed]
      · intro index
        simp
  | cons next rest ih =>
      have wholeNext := wholeRest next List.mem_cons_self
      have wholeLater : ∀ range ∈ rest, range.Whole := fun range listed =>
        wholeRest range (List.mem_cons_of_mem _ listed)
      rw [coalesceFrom]
      cases joins : current.concat next with
      | some joined =>
          obtain ⟨wholeJoined, covers⟩ := ByteRange.concat_spec whole wholeNext joins
          obtain ⟨wholes, covered⟩ := ih wholeJoined wholeLater
          refine ⟨wholes, ?_⟩
          intro index
          simp only [covered, covers, List.exists_mem_cons_iff, or_assoc]
      | none =>
          obtain ⟨wholes, covered⟩ := ih wholeNext wholeLater
          refine ⟨?_, ?_⟩
          · intro range listed
            rcases List.mem_cons.mp listed with rfl | later
            · exact whole
            · exact wholes range later
          · intro index
            simp only [List.exists_mem_cons_iff, covered]

theorem coalesceBytePositions_spec {positions : List BytePosition}
    (aligned : ∀ position ∈ positions, position.toNat % maxPayloadLength = 0)
    (fits : ∀ position ∈ positions, position.toNat + maxPayloadLength < 2 ^ 32) :
    (∀ range ∈ coalesceBytePositions positions, range.Whole) ∧
      ∀ index, (∃ range ∈ coalesceBytePositions positions, range.Covers index) ↔
        ∃ position ∈ positions, position.toNat / maxPayloadLength = index := by
  cases positions with
  | nil => simp [coalesceBytePositions]
  | cons first rest =>
      have wholes : ∀ position ∈ first :: rest,
          (ByteRange.new position maxPayloadLength).Whole := fun position listed =>
        ByteRange.new_whole (aligned position listed) (fits position listed)
      have wholesRest : ∀ range ∈ rest.map fun position =>
          ByteRange.new position maxPayloadLength, range.Whole := by
        intro range listed
        obtain ⟨position, later, rfl⟩ := List.mem_map.mp listed
        exact wholes position (List.mem_cons_of_mem _ later)
      obtain ⟨whole, covered⟩ := coalesceFrom_spec (wholes first List.mem_cons_self) wholesRest
      refine ⟨whole, ?_⟩
      intro index
      rw [coalesceBytePositions, List.map_cons]
      simp only [covered, List.exists_mem_cons_iff, List.mem_map, exists_exists_and_eq_and]
      rw [ByteRange.covers_new (aligned first List.mem_cons_self)]
      apply or_congr Iff.rfl
      apply exists_congr
      intro position
      apply and_congr_right
      intro later
      exact ByteRange.covers_new (aligned position (List.mem_cons_of_mem _ later)) index

/-! ## Splitting -/

theorem mem_splitFrom {pos stop : Nat} (aligned : pos % maxPayloadLength = 0)
    (small : stop < 2 ^ 32) (index : Nat) :
    index ∈ (splitFrom pos stop).map (fun range => range.start.toNat / maxPayloadLength) ↔
      pos ≤ index * maxPayloadLength ∧ index * maxPayloadLength < stop := by
  fun_induction splitFrom pos stop with
  | case1 pos before length ih =>
      have start : (ByteRange.new (BytePosition.ofNat pos) length).start.toNat = pos :=
        BytePosition.toNat_ofNat_of_lt (before.trans small)
      rw [List.map_cons, List.mem_cons, start]
      by_cases last : stop - pos ≤ maxPayloadLength
      · -- nothing is left after the last piece
        have none : splitFrom (pos + length) stop = [] := by
          rw [splitFrom, if_neg]
          omega
        rw [none, List.map_nil]
        simp only [List.not_mem_nil, or_false, maxPayloadLength] at *
        omega
      · have whole : length = maxPayloadLength := Nat.min_eq_right (by omega)
        rw [ih (by rw [whole, Nat.add_mod_right]; exact aligned), whole]
        simp only [maxPayloadLength] at *
        omega
  | case2 pos atEnd =>
      simp only [List.map_nil, List.not_mem_nil, false_iff]
      omega

theorem mem_requestedIndices {ranges : List ByteRange} (wholes : ∀ range ∈ ranges, range.Whole)
    (index : Nat) : index ∈ requestedIndices ranges ↔ ∃ range ∈ ranges, range.Covers index := by
  rw [requestedIndices, List.map_flatMap, List.mem_flatMap]
  apply exists_congr
  intro range
  apply and_congr_right
  intro listed
  have whole := wholes range listed
  have small : range.stop < 2 ^ 32 := Nat.mod_lt _ (Nat.two_pow_pos 32)
  rw [splitRangeIntoChunks, mem_splitFrom whole.start small, whole.stop]
  rfl

/-! ## The packets -/

/-- How many ranges `dispatch_retransmit_request` puts into a packet. -/
def rangesPerPacket : Nat := RetransmitPacket.localMaxPayloadLength / ByteRange.elemSize

theorem mem_sliceChunks {Item : Type} {size : Nat} (positive : 0 < size) {items chunk : List Item}
    (listed : chunk ∈ sliceChunks size items) : chunk ≠ [] ∧ chunk.length ≤ size := by
  rw [sliceChunks] at listed
  obtain ⟨index, inside, rfl⟩ := List.mem_map.mp listed
  have before : index * size < items.length := by
    have below : (index + 1) * size ≤ items.length + size - 1 :=
      (Nat.le_div_iff_mul_le positive).mp (List.mem_range.mp inside)
    rw [Nat.add_mul] at below
    omega
  constructor
  · apply List.ne_nil_of_length_pos
    rw [List.length_take, List.length_drop]
    omega
  · rw [List.length_take]
    exact Nat.min_le_left _ _

theorem payloads_dispatchRetransmitRequest (sessionId : SessionId) (ranges : List ByteRange)
    (clock : Nat → Timestamp) :
    (dispatchRetransmitRequest sessionId ranges clock).map RetransmitPacket.payload =
      sliceChunks rangesPerPacket ranges := by
  rw [dispatchRetransmitRequest, List.map_map]
  exact List.zipIdx_map_fst 0 _

/-! ## The request -/

def handleRetransmits (session : ConnectionStates) (loop : SendLoop)
    (requests : List (List ByteRange)) : SendLoop :=
  requests.foldl (fun loop ranges => (handleStreamEvent session loop (.retransmit ranges)).2) loop

theorem extras_handleRetransmits (session : ConnectionStates) (loop : SendLoop)
    (requests : List (List ByteRange)) :
    (handleRetransmits session loop requests).extras =
      loop.extras ∪ (requestedIndices requests.flatten).toFinset := by
  induction requests generalizing loop with
  | nil => simp [handleRetransmits, requestedIndices]
  | cons ranges rest ih =>
      have step : handleRetransmits session loop (ranges :: rest) =
          handleRetransmits session
            { loop with extras := loop.extras ∪ (requestedIndices ranges).toFinset } rest := rfl
      rw [step, ih, List.flatten_cons]
      simp only [requestedIndices, List.flatMap_append, List.map_append, List.toFinset_append,
        Finset.union_assoc]

/-- The positions a receiver asks for reach the extras of the sender as their chunk indices, no
more and no fewer, and every packet on the way has room for its ranges. -/
theorem retransmit_request_exact (positions : List BytePosition)
    (aligned : ∀ position ∈ positions, position.toNat % maxPayloadLength = 0)
    (fits : ∀ position ∈ positions, position.toNat + maxPayloadLength < 2 ^ 32)
    (sessionId : SessionId) (clock : Nat → Timestamp) (session : ConnectionStates)
    (loop : SendLoop) :
    let packets := dispatchRetransmitRequest sessionId (coalesceBytePositions positions) clock
    ∃ received : List (List ByteRange),
      (packets.map fun packet => deserializeByteRanges (serializeByteRanges packet.payload)) =
          received.map Except.ok ∧
        (handleRetransmits session loop received).extras =
          loop.extras ∪ (positions.map fun position =>
            position.toNat / maxPayloadLength).toFinset ∧
        ∀ packet ∈ packets, (serializeByteRanges packet.payload).length ≤
          RetransmitPacket.localMaxPayloadLength := by
  intro packets
  have positive : 0 < rangesPerPacket := by decide
  have payloads : packets.map RetransmitPacket.payload =
      sliceChunks rangesPerPacket (coalesceBytePositions positions) :=
    payloads_dispatchRetransmitRequest _ _ _
  have sizes : ∀ packet ∈ packets,
      packet.payload ≠ [] ∧ packet.payload.length ≤ rangesPerPacket := by
    intro packet listed
    have chunk : packet.payload ∈ sliceChunks rangesPerPacket (coalesceBytePositions positions) := by
      rw [← payloads]
      exact List.mem_map_of_mem listed
    exact mem_sliceChunks positive chunk
  refine ⟨packets.map RetransmitPacket.payload, ?_, ?_, ?_⟩
  · rw [List.map_map]
    apply List.map_congr_left
    intro packet listed
    exact deserialize_serializeByteRanges (sizes packet listed).1
  · rw [extras_handleRetransmits, payloads, flatten_sliceChunks positive]
    congr 1
    obtain ⟨wholes, covered⟩ := coalesceBytePositions_spec aligned fits
    apply Finset.ext
    intro index
    rw [List.mem_toFinset, List.mem_toFinset, mem_requestedIndices wholes, covered, List.mem_map]
  · intro packet listed
    have few := (sizes packet listed).2
    rw [length_serializeByteRanges]
    simp only [rangesPerPacket, RetransmitPacket.localMaxPayloadLength, ByteRange.elemSize,
      maxPayloadLength] at few ⊢
    omega

/-- Chunks 1 and 0, in this order, and chunk 3: the packets that ask for them carry what is
handled. -/
theorem retransmit_request_exact_three :
    let packets := dispatchRetransmitRequest ⟨1⟩ (coalesceBytePositions
      [BytePosition.ofNat 1368, BytePosition.ofNat 0, BytePosition.ofNat 4104]) fun _ =>
        ⟨0, by decide⟩
    packets.length = 1 ∧
      ∃ received : List (List ByteRange),
        (packets.map fun packet => deserializeByteRanges (serializeByteRanges packet.payload)) =
            received.map Except.ok ∧
          (handleRetransmits (.handshake ⟨1⟩ ⟨[]⟩ ⟨[127, 0, 0, 1], 6969⟩) SendLoop.new
            received).extras = {0, 1, 3} := by
  intro packets
  obtain ⟨received, carried, extras, _⟩ := retransmit_request_exact
    [BytePosition.ofNat 1368, BytePosition.ofNat 0, BytePosition.ofNat 4104] (by decide)
    (by decide) ⟨1⟩ (fun _ => ⟨0, by decide⟩) (.handshake ⟨1⟩ ⟨[]⟩ ⟨[127, 0, 0, 1], 6969⟩)
    SendLoop.new
  exact ⟨by decide +kernel, received, carried, extras.trans (by decide)⟩

end Ubass

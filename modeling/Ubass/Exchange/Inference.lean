import Mathlib.Data.List.Perm.Subperm
import Mathlib.Data.List.Sort
import Ubass.Exchange.Sent

/-!
# What a receiver infers about a batch

Neither the entry of the erasure code nor the window of the session sees which
chunks a batch holds.  Both derive the chunk of the first packet from every packet
that arrives (`guessed`) and take the batch for consecutive until two of them
disagree.  So what they infer is right exactly when the batch is consecutive or two
packets that disagree have arrived.
-/

set_option autoImplicit false

namespace Ubass

/-! ## Batches of increasing chunks -/

/-- The packets are those that `send_data_packets` makes of the chunks with these indices. -/
structure Emits (chunks : List Nat) (packets : List DataPacket) : Prop where
  nonempty : chunks ≠ []
  increasing : chunks.Pairwise (· < ·)
  short : chunks.length < 256
  small : ∀ chunk ∈ chunks, chunk * maxPayloadLength < 2 ^ 32
  packets : ∃ source sessionId batchId clock,
    packets = sendDataPackets (chunks.map (chunkAt source)) sessionId batchId clock

theorem drained_eq_map {buffer : ReadableBuffer} {extras : Finset Nat} (count : Nat)
    (small : ∀ index ∈ extras, index * maxPayloadLength < 2 ^ 32) :
    drained buffer extras count =
      ((extras.sort.take count).filter fun index => index * maxPayloadLength ≤ buffer.len).map
        (chunkAt buffer.buffer) := by
  have smallTaken : ∀ index ∈ extras.sort.take count, index * maxPayloadLength < 2 ^ 32 :=
    fun index taken => small index ((Finset.mem_sort _).mp (List.mem_of_mem_take taken))
  rw [drained, drainedRanges]
  generalize extras.sort.take count = taken at smallTaken
  induction taken with
  | nil => rfl
  | cons index rest ih =>
      have read := @retransmitRange_eq buffer index (smallTaken index List.mem_cons_self)
      have rests := ih fun other later => smallTaken other (List.mem_cons_of_mem _ later)
      by_cases inside : index * maxPayloadLength ≤ buffer.len
      · simp only [List.map_cons, List.filterMap_cons, read, rests, inside, if_true,
          List.filter_cons, decide_true]
      · simp only [List.map_cons, List.filterMap_cons, read, rests, inside, if_false,
          List.filter_cons, decide_false, Bool.false_eq_true]

theorem SendStep.emits {sending next : StreamingTo} {count : Nat} {before after : Finset Nat}
    {sent : List Chunk} {batchId : BatchId}
    (step : SendStep sending count before next after (some (sent, batchId)))
    (aligned : sending.buffer.Aligned) (short : sending.buffer.len ≤ 2 ^ 32)
    (small : ∀ index ∈ before, index * maxPayloadLength < 2 ^ 32) (few : count < 256)
    (sessionId : SessionId) (clock : Nat → Timestamp) :
    ∃ chunks, Emits chunks (sendDataPackets sent sessionId batchId clock) := by
  cases step with
  | fresh nonempty =>
      obtain ⟨same, below⟩ := ReadableBuffer.take_eq_map aligned count
      have length := ReadableBuffer.length_take_le sending.buffer count
      refine ⟨List.range' (sending.buffer.head / maxPayloadLength)
        (ReadableBuffer.take count sending.buffer).1.length, ?_, List.pairwise_lt_range', ?_, ?_,
        sending.buffer.buffer, sessionId, _, clock, congrArg (sendDataPackets · sessionId _ clock) same⟩
      · simpa using nonempty
      · rw [List.length_range']
        omega
      · exact fun index listed => (below index listed).trans_le short
  | drained exhausted nonempty =>
      have same := @drained_eq_map sending.buffer before count small
      have length := length_drained_le sending.buffer before count
      rw [same, List.length_map] at length
      rw [same] at nonempty
      refine ⟨(before.sort.take count).filter fun index =>
          index * maxPayloadLength ≤ sending.buffer.len, ?_, ?_, by omega, ?_,
        sending.buffer.buffer, sessionId, _, clock, congrArg (sendDataPackets · sessionId _ clock) same⟩
      · exact fun empty => nonempty (congrArg _ empty)
      · exact ((Finset.sortedLT_sort before).pairwise.take).filter _
      · intro index listed
        have taken := List.mem_of_mem_take (List.mem_filter.mp listed).1
        exact small index ((Finset.mem_sort _).mp taken)

def Consecutive (chunks : List Nat) : Prop := ∃ first, chunks = List.range' first chunks.length

theorem add_sub_le_of_increasing {chunks : List Nat} (increasing : chunks.Pairwise (· < ·))
    {early late first last : Nat} (atEarly : chunks[early]? = some first)
    (atLate : chunks[late]? = some last) (ordered : early ≤ late) :
    first + (late - early) ≤ last := by
  obtain ⟨distance, rfl⟩ := Nat.exists_eq_add_of_le ordered
  induction distance generalizing last with
  | zero =>
      rw [Nat.add_zero, atEarly] at atLate
      cases atLate
      omega
  | succ distance ih =>
      obtain ⟨inside, rfl⟩ := List.getElem?_eq_some_iff.mp atLate
      have before : early + distance < chunks.length := by omega
      have step := List.pairwise_iff_getElem.mp increasing (early + distance)
        (early + (distance + 1)) before inside (by omega)
      have bound := ih (List.getElem?_eq_getElem before) (Nat.le_add_right _ _)
      omega

/-- As many increasing indices as positions, with every one from `base` on among them. -/
theorem consecutive_of_all_mem {chunks : List Nat} (increasing : chunks.Pairwise (· < ·))
    {base : Nat} (all : ∀ pos < chunks.length, base + pos ∈ chunks) : Consecutive chunks := by
  refine ⟨base, ?_⟩
  have subset : List.range' base chunks.length ⊆ chunks := by
    intro index listed
    obtain ⟨above, below⟩ := List.mem_range'_1.mp listed
    have member := all (index - base) (by omega)
    rwa [Nat.add_sub_cancel' above] at member
  have ordered : (List.range' base chunks.length).Pairwise (· < ·) := List.pairwise_lt_range'
  have distinct : (List.range' base chunks.length).Nodup := ordered.imp Nat.ne_of_lt
  have perm : (List.range' base chunks.length).Perm chunks :=
    (distinct.subperm subset).perm_of_length_le (by rw [List.length_range'])
  refine (perm.eq_of_pairwise ?_ ordered increasing).symm
  intro left right _ _ less greater
  exact absurd less (Nat.lt_asymm greater)

theorem getElem?_of_consecutive {chunks : List Nat} {first pos chunk : Nat}
    (consecutive : chunks = List.range' first chunks.length) (found : chunks[pos]? = some chunk) :
    chunk = first + pos := by
  have inside := (List.getElem?_eq_some_iff.mp found).1
  rw [consecutive, List.getElem?_range' inside] at found
  simpa using found.symm

/-- What is known about the packet at a position of the batch. -/
structure EmittedAt (chunks : List Nat) (pos : Nat) (packet : DataPacket) (index : Nat) : Prop where
  chunk : chunks[pos]? = some index
  start : packet.byteRangeStart.toNat = index * maxPayloadLength
  batchPos : packet.fecInfo.batchPos.toNat = pos
  fits : packet.payload.length ≤ maxPayloadLength

theorem Emits.emittedAt {chunks : List Nat} {packets : List DataPacket} (emits : Emits chunks packets)
    {pos : Nat} (inside : pos < chunks.length) :
    ∃ packet chunk, packets[pos]? = some packet ∧ EmittedAt chunks pos packet chunk := by
  obtain ⟨source, sessionId, batchId, clock, rfl⟩ := emits.packets
  have found := List.getElem?_eq_getElem inside
  have small := emits.small chunks[pos] (List.getElem_mem inside)
  have short := emits.short
  have sent : (sendDataPackets (chunks.map (chunkAt source)) sessionId batchId clock)[pos]? =
      some (DataPacket.new Options.none batchId
        ⟨UInt8.ofNat (chunks.map (chunkAt source)).length, UInt8.ofNat pos,
          min recoveryCount (UInt8.ofNat (chunks.map (chunkAt source)).length)⟩
        sessionId (chunkAt source chunks[pos]).1 (chunkAt source chunks[pos]).2 (clock pos)) := by
    rw [sendDataPackets, List.getElem?_map, List.getElem?_zipIdx, List.getElem?_map, found,
      Option.map_some, Option.map_some, Option.map_some, Nat.zero_add]
  refine ⟨_, chunks[pos], sent, found, ?_, ?_, ?_⟩
  · exact BytePosition.toNat_ofNat_of_lt small
  · exact (UInt8.toNat_ofNat' ..).trans (Nat.mod_eq_of_lt (by omega))
  · exact (length_chunkBytes source _).trans_le (Nat.min_le_left _ _)

theorem Emits.length_packets {chunks : List Nat} {packets : List DataPacket}
    (emits : Emits chunks packets) : packets.length = chunks.length := by
  obtain ⟨source, sessionId, batchId, clock, rfl⟩ := emits.packets
  rw [sendDataPackets, List.length_map, List.length_zipIdx, List.length_map]

/-! ## The guess -/

def track (guess : Option BytePosition × Bool) (derived : BytePosition) :
    Option BytePosition × Bool :=
  match guess.1 with
  | none => (some derived, guess.2)
  | some existing => (some existing, if existing ≠ derived then false else guess.2)

/-- The position that the packet at `pos` gives the first chunk of the batch. -/
def derivedAt (chunks : List Nat) (pos : Nat) : BytePosition :=
  BytePosition.ofNat (chunks.getD pos 0 * maxPayloadLength - pos * maxPayloadLength)

/-- The base and the flag after the packets at these positions, in the order of their arrival. -/
def guessed (chunks order : List Nat) : Option BytePosition × Bool :=
  (order.map (derivedAt chunks)).foldl track (none, true)

theorem foldl_track (first : BytePosition) (flag : Bool) (rest : List BytePosition) :
    rest.foldl track (some first, flag) =
      (some first, flag && rest.all fun derived => derived = first) := by
  induction rest generalizing flag with
  | nil => simp
  | cons derived rest ih =>
      rw [List.foldl_cons, List.all_cons, ← Bool.and_assoc]
      by_cases same : derived = first
      · subst same
        simp only [track, ne_eq, not_true_eq_false, if_false, ih, decide_true, Bool.and_true]
      · simp only [track, ne_eq, Ne.symm same, not_false_eq_true, if_true, ih, same, decide_false,
          Bool.and_false, Bool.false_and]

theorem guessed_cons (chunks : List Nat) (first : Nat) (rest : List Nat) :
    guessed chunks (first :: rest) =
      (some (derivedAt chunks first),
        rest.all fun pos => derivedAt chunks pos = derivedAt chunks first) := by
  rw [guessed, List.map_cons, List.foldl_cons]
  have started : track (none, true) (derivedAt chunks first) =
      (some (derivedAt chunks first), true) := rfl
  rw [started, foldl_track, Bool.true_and, List.all_map]
  rfl

theorem guessed_append (chunks order : List Nat) (pos : Nat) :
    guessed chunks (order ++ [pos]) = track (guessed chunks order) (derivedAt chunks pos) := by
  simp [guessed]

theorem guessed_append_of_mem {chunks order : List Nat} {pos : Nat} (arrived : pos ∈ order) :
    guessed chunks (order ++ [pos]) = guessed chunks order := by
  cases order with
  | nil => cases arrived
  | cons first rest =>
      rw [List.cons_append, guessed_cons, guessed_cons, List.all_append]
      congr 1
      rcases List.mem_cons.mp arrived with rfl | later
      · simp
      · cases all : rest.all fun pos => decide (derivedAt chunks pos = derivedAt chunks first) with
        | false => rfl
        | true => simpa using List.all_eq_true.mp all pos later

def Agree (chunks : List Nat) (left right : Nat) : Prop :=
  chunks.getD left 0 + right = chunks.getD right 0 + left

section Bases

variable {chunks : List Nat} {packets : List DataPacket} (emits : Emits chunks packets)
include emits

theorem getD_eq {pos : Nat} (inside : pos < chunks.length) :
    ∃ chunk, chunks[pos]? = some chunk ∧ chunks.getD pos 0 = chunk ∧ pos ≤ chunk ∧
      chunk * maxPayloadLength < 2 ^ 32 := by
  have found := List.getElem?_eq_getElem inside
  have zero := List.getElem?_eq_getElem (List.length_pos_of_ne_nil emits.nonempty)
  have apart := add_sub_le_of_increasing emits.increasing zero found (Nat.zero_le _)
  refine ⟨chunks[pos], found, ?_, by omega, emits.small _ (List.getElem_mem inside)⟩
  rw [List.getD_eq_getElem?_getD, found]
  rfl

theorem toNat_derivedAt {pos : Nat} (inside : pos < chunks.length) :
    (derivedAt chunks pos).toNat = (chunks.getD pos 0 - pos) * maxPayloadLength := by
  obtain ⟨chunk, _, value, _, small⟩ := getD_eq emits inside
  rw [derivedAt, ← Nat.sub_mul, value]
  refine BytePosition.toNat_ofNat_of_lt (Nat.lt_of_le_of_lt ?_ small)
  exact Nat.mul_le_mul_right _ (Nat.sub_le _ _)

theorem derivedAt_eq_iff {left right : Nat} (leftInside : left < chunks.length)
    (rightInside : right < chunks.length) :
    derivedAt chunks left = derivedAt chunks right ↔ Agree chunks left right := by
  obtain ⟨_, _, leftValue, leftAbove, _⟩ := getD_eq emits leftInside
  obtain ⟨_, _, rightValue, rightAbove, _⟩ := getD_eq emits rightInside
  rw [BytePosition.ext_iff, toNat_derivedAt emits leftInside, toNat_derivedAt emits rightInside,
    Nat.mul_left_inj WriteableBuffer.maxPayloadLength_pos.ne', Agree]
  omega

theorem guessed_eq_true_iff {first : Nat} {rest : List Nat}
    (inside : ∀ pos ∈ first :: rest, pos < chunks.length) :
    (guessed chunks (first :: rest)).2 = true ↔
      ∀ left ∈ first :: rest, ∀ right ∈ first :: rest, Agree chunks left right := by
  rw [guessed_cons, List.all_eq_true]
  have firstInside := inside first List.mem_cons_self
  constructor
  · intro all
    have toFirst : ∀ pos ∈ first :: rest, Agree chunks pos first := by
      intro pos arrived
      rcases List.mem_cons.mp arrived with rfl | later
      · exact rfl
      · have same := of_decide_eq_true (all pos later)
        exact (derivedAt_eq_iff emits (inside pos arrived) firstInside).mp same
    intro left leftArrived right rightArrived
    have leftAgrees := toFirst left leftArrived
    have rightAgrees := toFirst right rightArrived
    obtain ⟨_, _, _, leftAbove, _⟩ := getD_eq emits (inside left leftArrived)
    simp only [Agree] at *
    omega
  · intro agree pos later
    have arrived := List.mem_cons_of_mem first later
    exact decide_eq_true ((derivedAt_eq_iff emits (inside pos arrived) firstInside).mpr
      (agree pos arrived first List.mem_cons_self))

end Bases

/-! ## Both receivers keep the guess -/

namespace InboundBatchData

/-- `add` of what the erasure code makes of a data packet. -/
def addPacket (debugAssertions : Bool) (self : InboundBatchData) (packet : DataPacket) :
    InboundBatchData :=
  match FecPacket.fromDataPacket debugAssertions packet with
  | none => self
  | some packet => (self.add packet).1

theorem add_guess {batch : InboundBatchData} {packet : FecPacket}
    (fresh : batch.dataReceived < batch.batchSize ∧
      batch.batchMask.has packet.fecInfo.batchPos = false) :
    ((batch.add packet).1.baseBytePos, (batch.add packet).1.isContiguous) =
      track (batch.baseBytePos, batch.isContiguous) (derivedBase packet) := by
  rw [add, if_pos fresh]
  cases batch.baseBytePos <;> rfl

end InboundBatchData

theorem FecBatchWindow.addData_guess (window : FecBatchWindow) (index : Nat)
    (start : BytePosition) :
    ((window.addData index start).baseBytePos, (window.addData index start).isContiguous) =
        track (window.baseBytePos, window.isContiguous)
          (BytePosition.ofNat (start.toNat - index * maxPayloadLength)) ∧
      (window.addData index start).batchSize = window.batchSize := by
  simp only [FecBatchWindow.addData, track]
  cases present : window.baseBytePos with
  | none => exact ⟨rfl, rfl⟩
  | some existing =>
      by_cases same : existing = BytePosition.ofNat (start.toNat - index * maxPayloadLength)
      · simp [same, present]
      · simp [same]

/-- The packets at these positions of the batch, in the order of their arrival. -/
def arrivals (packets : List DataPacket) (order : List Nat) : List DataPacket :=
  order.filterMap fun pos => packets[pos]?

def inboundAfter (debugAssertions : Bool) (size : UInt8) (now : Timestamp)
    (received : List DataPacket) : InboundBatchData :=
  received.foldl (InboundBatchData.addPacket debugAssertions) (InboundBatchData.new size now)

def windowAfter (size recoveryCount : UInt8) (now : Timestamp) (received : List DataPacket) :
    FecBatchWindow :=
  received.foldl
    (fun window packet => window.addData packet.fecInfo.batchPos.toNat packet.byteRangeStart)
    (FecBatchWindow.new size recoveryCount now)

def blockOf (debugAssertions : Bool) (packets : List DataPacket) (pos : Nat) : FecData :=
  (packets[pos]?.bind (FecData.fromDataPacket debugAssertions)).getD FecData.default

/-- The entry holds what has arrived and keeps the guess. -/
structure Inferring (blocks : Nat → FecData) (chunks order : List Nat)
    (batch : InboundBatchData) : Prop where
  holds : batch.Holds blocks chunks.length order.toFinset
  guess : (batch.baseBytePos, batch.isContiguous) = guessed chunks order

section Receivers

variable {chunks : List Nat} {packets : List DataPacket} (emits : Emits chunks packets)
include emits

theorem addPacket_inferring {debugAssertions : Bool} {order : List Nat} {batch : InboundBatchData}
    (inferring : Inferring (blockOf debugAssertions packets) chunks order batch) {pos : Nat}
    (inside : pos < chunks.length) {packet : DataPacket} (found : packets[pos]? = some packet) :
    Inferring (blockOf debugAssertions packets) chunks (order ++ [pos])
      (batch.addPacket debugAssertions packet) := by
  obtain ⟨other, index, same, emitted⟩ := emits.emittedAt inside
  cases Option.some.inj (found.symm.trans same)
  obtain ⟨fecPacket, made, info, block, start⟩ :=
    FecPacket.start_fromDataPacket debugAssertions emitted.fits
  have position : fecPacket.fecInfo.batchPos.toNat = pos := by rw [info, emitted.batchPos]
  have genuine : fecPacket.data = blockOf debugAssertions packets pos := by
    rw [blockOf, found, Option.bind_some, block, Option.getD_some]
  have derived : InboundBatchData.derivedBase fecPacket = derivedAt chunks pos := by
    rw [InboundBatchData.derivedBase, start, emitted.start, position, derivedAt,
      List.getD_eq_getElem?_getD, emitted.chunk, Option.getD_some]
  have arrived : (order ++ [pos]).toFinset = insert pos order.toFinset := by
    ext other
    simp
  have fecInside : fecPacket.fecInfo.batchPos.toNat < chunks.length := position.symm ▸ inside
  have guard := InboundBatchData.add_guard inferring.holds fecInside
  rw [position, List.mem_toFinset] at guard
  simp only [InboundBatchData.addPacket, made]
  refine ⟨?_, ?_⟩
  · have added := InboundBatchData.add_holds inferring.holds fecInside
      (position.symm ▸ genuine :
        fecPacket.data = blockOf debugAssertions packets fecPacket.fecInfo.batchPos.toNat)
    rw [arrived, ← position]
    exact added.1
  · by_cases old : pos ∈ order
    · have unchanged : (batch.add fecPacket).1 = batch := by
        rw [InboundBatchData.add, if_neg]
        rw [guard]
        exact not_not_intro old
      rw [unchanged, guessed_append_of_mem old, inferring.guess]
    · rw [guessed_append, ← inferring.guess, ← derived]
      exact InboundBatchData.add_guess (guard.mpr old)

theorem inboundAfter_inferring (debugAssertions : Bool) (now : Timestamp) {order : List Nat}
    (inside : ∀ pos ∈ order, pos < chunks.length) :
    Inferring (blockOf debugAssertions packets) chunks order
      (inboundAfter debugAssertions (UInt8.ofNat chunks.length) now (arrivals packets order)) := by
  induction order using List.reverseRecOn with
  | nil =>
      refine ⟨?_, rfl⟩
      have size : (UInt8.ofNat chunks.length).toNat = chunks.length :=
        (UInt8.toNat_ofNat' ..).trans (Nat.mod_eq_of_lt emits.short)
      have empty := InboundBatchData.new_holds (blockOf debugAssertions packets)
        (UInt8.ofNat chunks.length) now
      rwa [size] at empty
  | append_singleton rest pos ih =>
      have posInside := inside pos (List.mem_append_right _ List.mem_cons_self)
      obtain ⟨packet, _, found, _⟩ := emits.emittedAt posInside
      have before := ih fun other arrived => inside other (List.mem_append_left _ arrived)
      have last : arrivals packets [pos] = [packet] := by
        rw [arrivals, List.filterMap_cons, found, List.filterMap_nil]
      rw [arrivals, List.filterMap_append, ← arrivals, ← arrivals, last, inboundAfter,
        List.foldl_append, List.foldl_cons, List.foldl_nil, ← inboundAfter]
      exact addPacket_inferring emits before posInside found

theorem windowAfter_guess (recoveryCount : UInt8) (now : Timestamp) {order : List Nat}
    (inside : ∀ pos ∈ order, pos < chunks.length) :
    ((windowAfter (UInt8.ofNat chunks.length) recoveryCount now (arrivals packets order)).baseBytePos,
        (windowAfter (UInt8.ofNat chunks.length) recoveryCount now
          (arrivals packets order)).isContiguous) = guessed chunks order ∧
      (windowAfter (UInt8.ofNat chunks.length) recoveryCount now
        (arrivals packets order)).batchSize.toNat = chunks.length := by
  induction order using List.reverseRecOn with
  | nil => exact ⟨rfl, (UInt8.toNat_ofNat' ..).trans (Nat.mod_eq_of_lt emits.short)⟩
  | append_singleton rest pos ih =>
      have posInside := inside pos (List.mem_append_right _ List.mem_cons_self)
      obtain ⟨packet, index, found, emitted⟩ := emits.emittedAt posInside
      obtain ⟨guess, size⟩ := ih fun other arrived => inside other (List.mem_append_left _ arrived)
      have last : arrivals packets [pos] = [packet] := by
        rw [arrivals, List.filterMap_cons, found, List.filterMap_nil]
      rw [arrivals, List.filterMap_append, ← arrivals, ← arrivals, last, windowAfter,
        List.foldl_append, List.foldl_cons, List.foldl_nil, ← windowAfter]
      have derived : BytePosition.ofNat
          (packet.byteRangeStart.toNat - packet.fecInfo.batchPos.toNat * maxPayloadLength) =
            derivedAt chunks pos := by
        rw [emitted.start, emitted.batchPos, derivedAt, List.getD_eq_getElem?_getD, emitted.chunk,
          Option.getD_some]
      obtain ⟨tracked, sameSize⟩ := FecBatchWindow.addData_guess
        (windowAfter (UInt8.ofNat chunks.length) recoveryCount now (arrivals packets rest))
        packet.fecInfo.batchPos.toNat packet.byteRangeStart
      refine ⟨?_, (congrArg UInt8.toNat sameSize).trans size⟩
      rw [tracked, guess, derived, guessed_append]

/-! ## What is inferred -/

theorem inferred_of_agree {debugAssertions : Bool} {recoveryCount : UInt8} {now : Timestamp}
    {first : Nat} {rest : List Nat} (inside : ∀ pos ∈ first :: rest, pos < chunks.length)
    (agree : ∀ left ∈ first :: rest, ∀ right ∈ first :: rest, Agree chunks left right) :
    (inboundAfter debugAssertions (UInt8.ofNat chunks.length) now
        (arrivals packets (first :: rest))).missingPositions =
      ((List.range chunks.length).filter (· ∉ first :: rest)).map
        (fun pos => BytePosition.ofNat ((chunks.getD first 0 - first + pos) * maxPayloadLength)) ∧
    (windowAfter (UInt8.ofNat chunks.length) recoveryCount now
        (arrivals packets (first :: rest))).contiguousByteRange =
      some ⟨(chunks.getD first 0 - first) * maxPayloadLength,
        (chunks.getD first 0 - first + chunks.length) * maxPayloadLength⟩ := by
  have value : guessed chunks (first :: rest) = (some (derivedAt chunks first), true) := by
    refine Prod.ext ?_ ((guessed_eq_true_iff emits inside).mpr agree)
    rw [guessed_cons]
  have base := toNat_derivedAt emits (inside first List.mem_cons_self)
  have short := emits.short
  constructor
  · have inferring := inboundAfter_inferring emits debugAssertions now inside
    generalize inboundAfter debugAssertions (UInt8.ofNat chunks.length) now
      (arrivals packets (first :: rest)) = batch at inferring
    obtain ⟨basePos, contiguous⟩ := Prod.mk.inj (inferring.guess.trans value)
    have received : ∀ pos ∈ List.range chunks.length,
        (!batch.batchMask.has (UInt8.ofNat pos)) = decide (pos ∉ first :: rest) := by
      intro pos listed
      have bound := List.mem_range.mp listed
      have toNat : (UInt8.ofNat pos).toNat = pos :=
        (UInt8.toNat_ofNat' ..).trans (Nat.mod_eq_of_lt (by omega))
      rw [inferring.holds.mask, ← decide_not]
      simp only [toNat, List.mem_toFinset]
    simp only [InboundBatchData.missingPositions, basePos, contiguous, if_true,
      inferring.holds.batchSize, base, List.filter_congr received, Nat.add_mul]
  · obtain ⟨guess, size⟩ := windowAfter_guess emits recoveryCount now inside
    obtain ⟨basePos, contiguous⟩ := Prod.mk.inj (guess.trans value)
    simp only [FecBatchWindow.contiguousByteRange, contiguous, if_true, basePos,
      Option.map_some, base, size, Nat.add_mul]

theorem inferred_of_disagree {debugAssertions : Bool} {recoveryCount : UInt8} {now : Timestamp}
    {first : Nat} {rest : List Nat} (inside : ∀ pos ∈ first :: rest, pos < chunks.length)
    (disagree : ¬ ∀ left ∈ first :: rest, ∀ right ∈ first :: rest, Agree chunks left right) :
    (inboundAfter debugAssertions (UInt8.ofNat chunks.length) now
        (arrivals packets (first :: rest))).missingPositions = [] ∧
    (windowAfter (UInt8.ofNat chunks.length) recoveryCount now
        (arrivals packets (first :: rest))).contiguousByteRange = none := by
  have flag : (guessed chunks (first :: rest)).2 = false := by
    rw [← guessed_eq_true_iff emits inside] at disagree
    exact Bool.eq_false_of_not_eq_true disagree
  have value : ∀ {base : Option BytePosition} {contiguous : Bool},
      (base, contiguous) = guessed chunks (first :: rest) → contiguous = false :=
    fun guess => (congrArg Prod.snd guess).trans flag
  constructor
  · rw [InboundBatchData.missingPositions,
      value (inboundAfter_inferring emits debugAssertions now inside).guess]
    split <;> rfl
  · rw [FecBatchWindow.contiguousByteRange,
      value (windowAfter_guess emits recoveryCount now inside).1]
    rfl

end Receivers

/-- What the entry and the window infer is right. -/
structure InferenceOk (chunks order : List Nat) (packets : List DataPacket)
    (batch : InboundBatchData) (window : FecBatchWindow) : Prop where
  missing : ∀ position ∈ batch.missingPositions, ∃ pos packet, pos ∉ order ∧
    packets[pos]? = some packet ∧ packet.byteRangeStart = position
  complete : Consecutive chunks → ∀ pos packet, packets[pos]? = some packet → pos ∉ order →
    packet.byteRangeStart ∈ batch.missingPositions
  range : ∀ span, window.contiguousByteRange = some span → ∀ index,
    span.start ≤ index * maxPayloadLength → index * maxPayloadLength < span.stop → index ∈ chunks

theorem agree_of_consecutive {chunks : List Nat} (consecutive : Consecutive chunks)
    {left right : Nat} (leftInside : left < chunks.length) (rightInside : right < chunks.length) :
    Agree chunks left right := by
  obtain ⟨base, same⟩ := consecutive
  have value : ∀ {pos : Nat}, pos < chunks.length → chunks.getD pos 0 = base + pos := by
    intro pos inside
    have found := List.getElem?_eq_getElem inside
    rw [List.getD_eq_getElem?_getD, found]
    exact getElem?_of_consecutive same found
  rw [Agree, value leftInside, value rightInside]
  omega

section Inference

variable {chunks : List Nat} {packets : List DataPacket} (emits : Emits chunks packets)
include emits

theorem consecutive_of_inferenceOk {debugAssertions : Bool} {recoveryCount : UInt8}
    {now : Timestamp} {first : Nat} {rest : List Nat}
    (inside : ∀ pos ∈ first :: rest, pos < chunks.length)
    (agree : ∀ left ∈ first :: rest, ∀ right ∈ first :: rest, Agree chunks left right)
    (right : InferenceOk chunks (first :: rest) packets
      (inboundAfter debugAssertions (UInt8.ofNat chunks.length) now
        (arrivals packets (first :: rest)))
      (windowAfter (UInt8.ofNat chunks.length) recoveryCount now
        (arrivals packets (first :: rest)))) : Consecutive chunks := by
  obtain ⟨_, span⟩ := @inferred_of_agree _ _ emits debugAssertions recoveryCount now _ _ inside agree
  have all : ∀ pos < chunks.length, chunks.getD first 0 - first + pos ∈ chunks := by
    intro pos bound
    refine right.range _ span _ ?_ ?_
    · exact Nat.mul_le_mul_right _ (Nat.le_add_right _ _)
    · exact Nat.mul_lt_mul_of_pos_right (Nat.add_lt_add_left bound _)
        WriteableBuffer.maxPayloadLength_pos
  exact consecutive_of_all_mem emits.increasing all

theorem inferenceOk_of_consecutive {debugAssertions : Bool} {recoveryCount : UInt8}
    {now : Timestamp} {first : Nat} {rest : List Nat}
    (inside : ∀ pos ∈ first :: rest, pos < chunks.length) (consecutive : Consecutive chunks) :
    InferenceOk chunks (first :: rest) packets
      (inboundAfter debugAssertions (UInt8.ofNat chunks.length) now
        (arrivals packets (first :: rest)))
      (windowAfter (UInt8.ofNat chunks.length) recoveryCount now
        (arrivals packets (first :: rest))) := by
  have agree : ∀ left ∈ first :: rest, ∀ right ∈ first :: rest, Agree chunks left right :=
    fun left leftArrived right rightArrived =>
      agree_of_consecutive consecutive (inside left leftArrived) (inside right rightArrived)
  obtain ⟨missing, span⟩ := @inferred_of_agree _ _ emits debugAssertions recoveryCount now _ _
    inside agree
  obtain ⟨base, same⟩ := consecutive
  have firstInside := inside first List.mem_cons_self
  have value : chunks.getD first 0 - first = base := by
    obtain ⟨chunk, found, valued, _⟩ := getD_eq emits firstInside
    rw [valued, getElem?_of_consecutive same found, Nat.add_sub_cancel]
  rw [value] at missing span
  have starts : ∀ {pos : Nat} {packet : DataPacket}, packets[pos]? = some packet →
      pos < chunks.length →
        packet.byteRangeStart = BytePosition.ofNat ((base + pos) * maxPayloadLength) := by
    intro pos packet found bound
    obtain ⟨other, index, again, emitted⟩ := emits.emittedAt bound
    cases Option.some.inj (found.symm.trans again)
    rw [← getElem?_of_consecutive same emitted.chunk, ← emitted.start, BytePosition.ofNat_toNat]
  refine ⟨?_, ?_, ?_⟩
  · intro position listed
    rw [missing] at listed
    obtain ⟨pos, filtered, rfl⟩ := List.mem_map.mp listed
    obtain ⟨ranged, absent⟩ := List.mem_filter.mp filtered
    have bound := List.mem_range.mp ranged
    obtain ⟨packet, _, found, _⟩ := emits.emittedAt bound
    exact ⟨pos, packet, of_decide_eq_true absent, found, starts found bound⟩
  · intro _ pos packet found absent
    have bound : pos < chunks.length := by
      rw [← emits.length_packets]
      exact (List.getElem?_eq_some_iff.mp found).1
    rw [missing, starts found bound]
    exact List.mem_map.mpr ⟨pos, List.mem_filter.mpr ⟨List.mem_range.mpr bound,
      decide_eq_true absent⟩, rfl⟩
  · intro other present index above below
    cases Option.some.inj (span.symm.trans present)
    have positive := WriteableBuffer.maxPayloadLength_pos
    have atLeast := Nat.le_of_mul_le_mul_right above positive
    have atMost := Nat.lt_of_mul_lt_mul_right below
    rw [same, List.mem_range'_1]
    exact ⟨atLeast, atMost⟩

/-- Of a batch some packets have arrived, in any order and with any repetition.  What the entry
and the window infer is right if and only if the batch is consecutive or two packets that
have arrived disagree about its first chunk. -/
theorem inference_iff (debugAssertions : Bool) (recoveryCount : UInt8) (now : Timestamp)
    {order : List Nat} (nonempty : order ≠ []) (inside : ∀ pos ∈ order, pos < chunks.length) :
    InferenceOk chunks order packets
        (inboundAfter debugAssertions (UInt8.ofNat chunks.length) now (arrivals packets order))
        (windowAfter (UInt8.ofNat chunks.length) recoveryCount now (arrivals packets order)) ↔
      Consecutive chunks ∨ ∃ left ∈ order, ∃ right ∈ order, ¬ Agree chunks left right := by
  obtain ⟨first, rest, rfl⟩ := List.exists_cons_of_ne_nil nonempty
  by_cases agree : ∀ left ∈ first :: rest, ∀ right ∈ first :: rest, Agree chunks left right
  · constructor
    · exact fun right => Or.inl (consecutive_of_inferenceOk emits inside agree right)
    · rintro (consecutive | ⟨left, leftArrived, right, rightArrived, disagree⟩)
      · exact inferenceOk_of_consecutive emits inside consecutive
      · exact absurd (agree left leftArrived right rightArrived) disagree
  · obtain ⟨missing, span⟩ :=
      @inferred_of_disagree _ _ emits debugAssertions recoveryCount now _ _ inside agree
    refine iff_of_true ⟨?_, ?_, ?_⟩ (Or.inr ?_)
    · intro position listed
      rw [missing] at listed
      cases listed
    · intro consecutive
      exact absurd (fun left leftArrived right rightArrived =>
        agree_of_consecutive consecutive (inside left leftArrived) (inside right rightArrived)) agree
    · intro other present
      rw [span] at present
      cases present
    · simpa only [not_forall, exists_prop] using agree

end Inference

def elevenSent : ReadableBuffer :=
  ⟨List.replicate (11 * maxPayloadLength) 0, 11 * maxPayloadLength⟩

def packetsOf (chunks : List Chunk) : List DataPacket :=
  sendDataPackets chunks ⟨7⟩ ⟨2⟩ fun _ => ⟨0, Timestamp.zero_lt⟩

theorem inference_iff_last_of_two :
    InferenceOk [3, 4] [1] (packetsOf ([3, 4].map (chunkAt elevenSent.buffer)))
        (inboundAfter false 2 ⟨0, by decide⟩
          (arrivals (packetsOf ([3, 4].map (chunkAt elevenSent.buffer))) [1]))
        (windowAfter 2 0 ⟨0, by decide⟩
          (arrivals (packetsOf ([3, 4].map (chunkAt elevenSent.buffer))) [1])) ↔
      Consecutive [3, 4] ∨ ∃ left ∈ [1], ∃ right ∈ [1], ¬ Agree [3, 4] left right :=
  inference_iff ⟨by decide, by decide, by decide, by decide, _, _, _, _, rfl⟩ false 0 ⟨0, by decide⟩
    (by decide) (by decide)

theorem drained_elevenSent :
    drained elevenSent {3, 10} packetCountPerBatch = [3, 10].map (chunkAt elevenSent.buffer) := by
  have whole : elevenSent.len = 11 * maxPayloadLength := List.length_replicate
  have sorted : ({3, 10} : Finset Nat).sort = [3, 10] := by
    rw [Finset.sort_insert _ (by decide) (by decide), Finset.sort_singleton]
  have taken : (([3, 10].take packetCountPerBatch).filter fun index =>
      index * maxPayloadLength ≤ elevenSent.len) = [3, 10] := by
    rw [whole]
    decide
  rw [drained_eq_map packetCountPerBatch (by decide), sorted, taken]

/-- Of the batch that retransmits chunks 3 and 10 only the first packet arrives: chunk 4, which is
not in the batch, is taken for missing and for covered. -/
theorem retransmission_misleads :
    let packets := packetsOf (drained elevenSent {3, 10} packetCountPerBatch)
    let batch := inboundAfter false 2 ⟨0, by decide⟩ (arrivals packets [0])
    let window := windowAfter 2 0 ⟨0, by decide⟩ (arrivals packets [0])
    batch.missingPositions = [BytePosition.ofNat (4 * maxPayloadLength)] ∧
      window.contiguousByteRange = some ⟨3 * maxPayloadLength, 5 * maxPayloadLength⟩ ∧
      ¬ InferenceOk [3, 10] [0] packets batch window := by
  have emits : Emits [3, 10] (packetsOf (drained elevenSent {3, 10} packetCountPerBatch)) :=
    ⟨by decide, by decide, by decide, by decide, _, _, _, _,
      congrArg packetsOf drained_elevenSent⟩
  have inside : ∀ pos ∈ [0], pos < [3, 10].length := by decide
  have agree : ∀ left ∈ [0], ∀ right ∈ [0], Agree [3, 10] left right := by
    simp [Agree]
  obtain ⟨missing, span⟩ := @inferred_of_agree _ _ emits false 0 ⟨0, by decide⟩ _ _ inside agree
  refine ⟨missing.trans (by decide), span, fun right => ?_⟩
  obtain ⟨first, same⟩ := consecutive_of_inferenceOk emits inside agree right
  have three := @getElem?_of_consecutive [3, 10] first 0 3 same rfl
  have ten := @getElem?_of_consecutive [3, 10] first 1 10 same rfl
  omega

end Ubass

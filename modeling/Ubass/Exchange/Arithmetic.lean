import Ubass.Api.Head
import Ubass.Exchange.ReceivePath
import Ubass.Manager.Requests

/-!
# The arithmetic of the receive path

The fields of a packet meet `u8` and `u32` arithmetic in four places: `batch_pos + 1`
after a write, `batch_size - 1` whenever a batch is looked at, the positions of the
chunks a pruned batch lacks, and the ends of ranges, those of a peer in the send loop
and the host's own where positions are coalesced.  The head of the buffer is a `u32`
too.  Nothing checks the fields before.

Where every receive buffer ends a chunk below `2 ^ 32`, the sums on the host's own
positions stay in range, and the others do exactly when the packets and batches that
are handled leave room for them (`InRange`).  The differences of two readings of the
host's own clock are left out.
-/

set_option autoImplicit false

namespace Ubass

/-! ## Where arithmetic leaves its type -/

namespace ByteRange

/-- `start.0 + length as u32`.  The pieces of `split_range_into_chunks` lie below this sum. -/
def stopOverflows (self : ByteRange) : Bool := 2 ^ 32 ≤ self.start.toNat + self.length.toNat

/-- A sum of `concat`.  The second one is computed unless the first one settles the answer. -/
def concatOverflows (self other : ByteRange) : Bool :=
  self.stopOverflows ||
    ((self.stop ≠ other.start.toNat || self.length.toNat + other.length.toNat < 2 ^ 16) &&
      other.stopOverflows)

end ByteRange

def coalesceFromOverflows (current : ByteRange) : List ByteRange → Bool
  | [] => false
  | next :: rest =>
      current.concatOverflows next ||
        match current.concat next with
        | some joined => coalesceFromOverflows joined rest
        | none => coalesceFromOverflows next rest

/-- A sum of `coalesce_byte_positions`. -/
def coalesceOverflows (positions : List BytePosition) : Bool :=
  match positions.map fun position => ByteRange.new position maxPayloadLength with
  | [] => false
  | current :: rest => coalesceFromOverflows current rest

namespace InboundBatchData

/-- `batch_size - 1` -/
def lastUnderflows (self : InboundBatchData) : Bool := self.batchSize.toNat < 1

/-- The product and the count of `add`. -/
def addOverflows (self : InboundBatchData) (data : FecPacket) : Bool :=
  self.dataReceived < self.batchSize && !self.batchMask.has data.fecInfo.batchPos &&
    (2 ^ 32 ≤ data.fecInfo.batchPos.toNat * maxPayloadLength ||
      2 ^ 8 ≤ self.dataReceived.toNat + 1)

/-- The arithmetic of `received` under the lock of the batch. -/
def receivedOverflows (self : InboundBatchData) (packet : FecPacket) : Bool :=
  !packet.isParity && self.addOverflows packet || self.lastUnderflows

/-- A sum of `missing_positions`. -/
def missingOverflows (self : InboundBatchData) : Bool :=
  match self.baseBytePos with
  | none => false
  | some base =>
      self.isContiguous &&
        ((List.range self.batchSize.toNat).filter fun i =>
          !self.batchMask.has (UInt8.ofNat i)).any fun i =>
            2 ^ 32 ≤ base.toNat + i * maxPayloadLength

end InboundBatchData

namespace StreamState

/-- A sum of `score_policy_pick` or `finalize_sweep_pick`. -/
def scoreOverflows (receiving : StreamingFrom) (fec : SessionFecState) (batchEnd : Bool)
    (clock : Nat → Timestamp) : Bool :=
  let active := (fec.activeByteRanges (clock 1)).2
  let overflows (areas : List Area) :=
    coalesceOverflows
      (receiving.reserveForRequest (StreamingFrom.positionsOutside areas active) (clock 2)).2
  if receiving.buffer.headAtEnd then overflows receiving.buffer.allInvalidAreas
  else batchEnd && overflows receiving.buffer.requestableAreas

def settleOverflows (receiving : StreamingFrom) (message : StreamMessage) (fec : SessionFecState)
    (batchEnd : Bool) (clock : Nat → Timestamp) : Bool :=
  !declareDone receiving.buffer message && scoreOverflows receiving fec batchEnd clock

/-- The arithmetic of `received_data_packet`: the product of `SessionFecState::add_data`, the head,
`batch_pos + 1`, and the ranges. -/
def dataOverflows (self : StreamState) (receiving : StreamingFrom) (packet : DataPacket)
    (clock : Nat → Timestamp) : Bool :=
  let fec := self.fec.addData packet.batchId packet.fecInfo packet.byteRangeStart (clock 0)
  2 ^ 32 ≤ packet.fecInfo.batchPos.toNat * maxPayloadLength ||
    receiving.buffer.writeOverflows packet.byteRangeStart packet.payload ||
    match receiving.buffer.write packet.byteRangeStart packet.payload with
    | (_, .error _) => false
    | (buffer, .ok _) =>
        let receiving := { receiving with buffer := buffer }.clearPending packet.byteRangeStart
        let message := { self.stream with head := buffer.head.toNat, approved := some true }
        let batchEnd := packet.fecInfo.batchPos + 1 = packet.fecInfo.batchSize
        2 ^ 8 ≤ packet.fecInfo.batchPos.toNat + 1 ||
          settleOverflows receiving message fec batchEnd clock

/-- The head in the loop of `recovered_packet`. -/
def writeRecoveredOverflows (receiving : StreamingFrom) : List RecoverdPacket → Bool
  | [] => false
  | packet :: rest =>
      receiving.buffer.writeOverflows packet.byteRangeStart packet.payload ||
        match receiving.buffer.write packet.byteRangeStart packet.payload with
        | (_, .error _) => false
        | (buffer, .ok _) =>
            writeRecoveredOverflows
              ({ receiving with buffer := buffer }.clearPending packet.byteRangeStart) rest

/-- The arithmetic of `recovered_packet`: the head, and the ranges. -/
def recoveredOverflows (self : StreamState) (receiving : StreamingFrom) (recovered : Recovered)
    (clock : Nat → Timestamp) : Bool :=
  writeRecoveredOverflows receiving recovered.packets ||
    match self.writtenRecovered receiving recovered with
    | (_, _, some _) => false
    | (receiving, message, none) =>
        settleOverflows receiving message (self.fec.evict recovered.batchId) true clock

end StreamState

namespace ConnectionStates

def receivingOverflows (self : ConnectionStates)
    (overflows : StreamState → StreamingFrom → Bool) : Bool :=
  match self.receiving with
  | none => false
  | some (_, stream, receiving) => overflows stream receiving

def callOverflows (self : ConnectionStates) : StreamCall → Bool
  | .seek position => self.receivingOverflows fun _ receiving =>
      receiving.buffer.seekOverflows position
  | .receive _ _ | .updateMessage _ | .updateAddress _ => false

end ConnectionStates

namespace ReceivePath

def connectionOverflows (self : ReceivePath) (sessionId : SessionId)
    (overflows : ConnectionStates → Bool) : Bool :=
  ((self.connections.get sessionId).map overflows).getD false

def batchOverflows (self : ReceivePath) (ref : Nat) (overflows : InboundBatchData → Bool) : Bool :=
  ((self.xor.inbound.read ref).map overflows).getD false

def taskOverflows (self : ReceivePath) (clock : Nat → Timestamp) : ReceiveTask → Bool
  | .add ref packet => self.batchOverflows ref fun batch => batch.receivedOverflows packet
  | .read ref _ _ => self.batchOverflows ref InboundBatchData.lastUnderflows
  | .enumerate (entry :: _) _ => self.batchOverflows entry.2 InboundBatchData.missingOverflows
  | .hand recovered => self.connectionOverflows recovered.sessionId fun connection =>
      connection.receivingOverflows fun stream receiving =>
        stream.recoveredOverflows receiving recovered clock
  | .request sessionId positions => self.connectionOverflows sessionId fun connection =>
      connection.receivingOverflows fun _ receiving =>
        coalesceOverflows (receiving.reserveForRequest positions (clock 0)).2
  | .split _ ranges => ranges.any ByteRange.stopOverflows
  | .enter _ | .take _ _ | .enumerate [] _ => false

/-- Some fixed-width arithmetic of the step overflows or underflows. -/
def overflows (self : ReceivePath) : ReceiveLabel → Bool
  | .data packet clock => self.connectionOverflows packet.sessionId fun connection =>
      connection.receivingOverflows fun stream receiving =>
        stream.dataOverflows receiving packet clock
  | .task index clock => ((self.tasks[index]?).map (self.taskOverflows clock)).getD false
  | .call sessionId call => self.connectionOverflows sessionId fun connection =>
      connection.callOverflows call
  | .parity _ | .retransmit _ | .prune _ | .become _ _ => false

end ReceivePath

/-! ## The buffer -/

namespace WriteableBuffer

/-- What the head of a receive buffer keeps, whether the pointer is null or not. -/
structure Sized (buf : WriteableBuffer) : Prop where
  fits : buf.len + maxPayloadLength < 2 ^ 32
  inside : buf.head.toNat ≤ buf.len
  stands : buf.head.toNat = buf.len ∨ maxPayloadLength ∣ buf.head.toNat

theorem new_sized {buffer : Buffer} (fits : buffer.len + maxPayloadLength < 2 ^ 32) :
    (new buffer).Sized :=
  ⟨fits, Nat.zero_le _, Or.inr (Nat.dvd_zero _)⟩

theorem advanceHead_sized {self : WriteableBuffer} (sized : self.Sized) :
    self.advanceOverflows = false ∧ self.advanceHead.Sized := by
  have fits := sized.fits
  have headInv := advanceHead_headInv (by omega) sized.inside sized.stands
  refine ⟨not_advanceOverflows fits sized.inside sized.stands, ?_, headInv.inside, ?_⟩
  · rw [advanceHead_len]
    exact fits
  · exact headInv.stops.imp_right And.left

theorem write_sized {self : WriteableBuffer} (sized : self.Sized) (position : BytePosition)
    (toWrite : List UInt8) :
    self.writeOverflows position toWrite = false ∧ (self.write position toWrite).1.Sized := by
  have stepped := write_step self position toWrite
  generalize self.write position toWrite = result at stepped ⊢
  cases stepped with
  | rejected error rejects => exact ⟨by simp [writeOverflows, rejects], sized⟩
  | null accepts missing map buffer head =>
      refine ⟨by simp [writeOverflows, buffer, Buffer.asMut, missing], ?_⟩
      have len : (self.occupy position).len = self.len := congrArg Buffer.len buffer
      exact ⟨len ▸ sized.fits, by rw [head, len]; exact sized.inside,
        by rw [head, len]; exact sized.stands⟩
  | written memory copied _ _ _ len head _ overflows =>
      rw [overflows]
      exact advanceHead_sized ⟨len ▸ sized.fits, by rw [head, len]; exact sized.inside,
        by rw [head, len]; exact sized.stands⟩

theorem seekHead_sized {self : WriteableBuffer} (sized : self.Sized) (position : BytePosition) :
    self.seekOverflows position = false ∧ (self.seekHead position).1.Sized := by
  have stepped := seekHead_step self position
  generalize self.seekHead position = result at stepped ⊢
  cases stepped with
  | outside beyond =>
      have index : self.positionToIndex position = none := by rw [positionToIndex, if_pos beyond]
      exact ⟨by simp [seekOverflows, index], sized⟩
  | backward inside behind =>
      have index := positionToIndex_eq_some.mpr ⟨inside, rfl⟩
      exact ⟨by simp [seekOverflows, index, Nat.not_lt_of_le behind], sized⟩
  | forward moved inside ahead buffer map _ head overflows =>
      have floor := Nat.div_mul_le_self position.toNat maxPayloadLength
      have len : moved.len = self.len := congrArg Buffer.len buffer
      rw [overflows]
      exact advanceHead_sized ⟨len ▸ sized.fits, by omega, Or.inr (head ▸ Nat.dvd_mul_left _ _)⟩

theorem write_ok_iff {self : WriteableBuffer} {position : BytePosition} {toWrite : List UInt8} :
    (∃ next span, self.write position toWrite = (next, .ok span)) ↔
      self.writeRejects position toWrite = none ∧ self.buffer.memory ≠ none := by
  have stepped := write_step self position toWrite
  generalize self.write position toWrite = result at stepped ⊢
  cases stepped with
  | rejected error rejects => simp [rejects]
  | null accepts missing _ _ _ => simp [missing]
  | written memory copied accepts present _ _ _ _ _ => simp [accepts, present]

end WriteableBuffer

/-! ## The host's own ranges -/

namespace ByteRange

/-- The end of the range is a `u32`. -/
def Ends (self : ByteRange) : Prop := self.start.toNat + self.length.toNat < 2 ^ 32

theorem stopOverflows_eq_false_iff {self : ByteRange} :
    self.stopOverflows = false ↔ self.Ends := by
  simp [stopOverflows, Ends]

theorem Ends.stop {self : ByteRange} (ends : self.Ends) :
    self.stop = self.start.toNat + self.length.toNat :=
  Nat.mod_eq_of_lt ends

theorem concatOverflows_eq_false {self other : ByteRange} (ends : self.Ends)
    (otherEnds : other.Ends) : self.concatOverflows other = false := by
  simp [concatOverflows, stopOverflows_eq_false_iff.mpr ends,
    stopOverflows_eq_false_iff.mpr otherEnds]

theorem concat_ends {self other joined : ByteRange} (ends : self.Ends) (otherEnds : other.Ends)
    (concat : self.concat other = some joined) : joined.Ends := by
  rw [ByteRange.concat, ends.stop, otherEnds.stop] at concat
  rw [Ends] at ends otherEnds ⊢
  split at concat
  · rename_i contiguous
    obtain ⟨adjacent, fits⟩ := contiguous
    have length : (self.length + other.length).toNat = self.length.toNat + other.length.toNat := by
      rw [UInt16.toNat_add, Nat.mod_eq_of_lt fits]
    cases Option.some.inj concat
    simp only [length]
    split <;> omega
  · cases concat

end ByteRange

theorem coalesceFromOverflows_eq_false {current : ByteRange} {rest : List ByteRange}
    (ends : current.Ends) (restEnds : ∀ range ∈ rest, range.Ends) :
    coalesceFromOverflows current rest = false := by
  induction rest generalizing current with
  | nil => rfl
  | cons next rest ih =>
      have nextEnds := restEnds next List.mem_cons_self
      have later : ∀ range ∈ rest, range.Ends := fun range listed =>
        restEnds range (List.mem_cons_of_mem _ listed)
      rw [coalesceFromOverflows, ByteRange.concatOverflows_eq_false ends nextEnds, Bool.false_or]
      cases joins : current.concat next with
      | some joined => exact ih (ByteRange.concat_ends ends nextEnds joins) later
      | none => exact ih nextEnds later

theorem coalesceOverflows_eq_false {positions : List BytePosition}
    (fits : ∀ position ∈ positions, position.toNat + maxPayloadLength < 2 ^ 32) :
    coalesceOverflows positions = false := by
  have ends : ∀ range ∈ positions.map (fun position => ByteRange.new position maxPayloadLength),
      range.Ends := by
    intro range listed
    obtain ⟨position, member, rfl⟩ := List.mem_map.mp listed
    exact fits position member
  rw [coalesceOverflows]
  cases ranges : positions.map fun position => ByteRange.new position maxPayloadLength with
  | nil => rfl
  | cons current rest =>
      rw [ranges] at ends
      exact coalesceFromOverflows_eq_false (ends current List.mem_cons_self)
        fun range listed => ends range (List.mem_cons_of_mem _ listed)

theorem StreamingFrom.reserved_coalesce {self : StreamingFrom} (sized : self.buffer.Sized)
    (positions : List BytePosition) (now : Timestamp) :
    coalesceOverflows (self.reserveForRequest positions now).2 = false := by
  refine coalesceOverflows_eq_false ?_
  intro position accepted
  have spec := (self.sweep fun _ => now).reserve_spec now positions
  obtain ⟨inside, _⟩ := WriteableBuffer.positionOccupied_eq_some.mp (spec.missing position accepted).1
  have fits := sized.fits
  rw [StreamingFrom.sweep_buffer] at inside
  omega

namespace StreamState

theorem settleOverflows_eq_false {receiving : StreamingFrom} (sized : receiving.buffer.Sized)
    (message : StreamMessage) (fec : SessionFecState) (batchEnd : Bool)
    (clock : Nat → Timestamp) :
    settleOverflows receiving message fec batchEnd clock = false := by
  have scores : scoreOverflows receiving fec batchEnd clock = false := by
    simp [scoreOverflows, StreamingFrom.reserved_coalesce sized]
  rw [settleOverflows, scores, Bool.and_false]

/-- Of the arithmetic of `received_data_packet` only `batch_pos + 1` is left, which is computed
when the packet was written. -/
theorem dataOverflows_eq_false_iff {self : StreamState} {receiving : StreamingFrom}
    (sized : receiving.buffer.Sized) {packet : DataPacket} {clock : Nat → Timestamp} :
    self.dataOverflows receiving packet clock = false ↔
      (receiving.buffer.writeRejects packet.byteRangeStart packet.payload = none →
        receiving.buffer.buffer.memory ≠ none → packet.fecInfo.batchPos.toNat ≠ 255) := by
  obtain ⟨head, next⟩ := WriteableBuffer.write_sized sized packet.byteRangeStart packet.payload
  have copies := @WriteableBuffer.write_ok_iff receiving.buffer packet.byteRangeStart packet.payload
  have bound := packet.fecInfo.batchPos.toNat_lt
  have product : decide (2 ^ 32 ≤ packet.fecInfo.batchPos.toNat * maxPayloadLength) = false := by
    rw [decide_eq_false_iff_not, maxPayloadLength]
    omega
  rw [← and_imp, ← copies]
  simp only [dataOverflows, product, head, Bool.false_or]
  generalize receiving.buffer.write packet.byteRangeStart packet.payload = result at next ⊢
  rcases result with ⟨buffer, error | span⟩
  · simp
  · have settles := @settleOverflows_eq_false
      (({ receiving with buffer := buffer } : StreamingFrom).clearPending packet.byteRangeStart) next
    simp only [settles, Bool.or_false, decide_eq_false_iff_not]
    simp
    omega

theorem writeRecoveredOverflows_eq_false {receiving : StreamingFrom}
    (sized : receiving.buffer.Sized) (packets : List RecoverdPacket) :
    writeRecoveredOverflows receiving packets = false := by
  induction packets generalizing receiving with
  | nil => rfl
  | cons packet rest ih =>
      obtain ⟨head, next⟩ :=
        WriteableBuffer.write_sized sized packet.byteRangeStart packet.payload
      rw [writeRecoveredOverflows, head, Bool.false_or]
      split
      · rfl
      · rename_i buffer span written
        rw [written] at next
        exact ih next

theorem recoveredOverflows_eq_false {self : StreamState} {receiving : StreamingFrom}
    (sized : receiving.buffer.Sized) (recovered : Recovered) (clock : Nat → Timestamp) :
    self.recoveredOverflows receiving recovered clock = false := by
  have kept : (self.writtenRecovered receiving recovered).1.buffer.Sized :=
    @ConnectionStates.writeRecovered_keeps WriteableBuffer.Sized recovered.packets
      (fun buffer holds packet _ => (WriteableBuffer.write_sized holds _ packet.payload).2)
      receiving _ sized
  rw [recoveredOverflows, writeRecoveredOverflows_eq_false sized, Bool.false_or]
  split
  · rfl
  · rename_i next message written
    rw [written] at kept
    exact settleOverflows_eq_false kept _ _ _ _

end StreamState

/-! ## Steps -/

namespace InboundBatchData

/-- Every chunk that the batch knows to be missing starts at a `u32` position. -/
def MissingInRange (self : InboundBatchData) : Prop :=
  ∀ base, self.baseBytePos = some base → self.isContiguous = true →
    ∀ index, index < self.batchSize.toNat → self.batchMask.has (UInt8.ofNat index) = false →
      base.toNat + index * maxPayloadLength < 2 ^ 32

theorem missingOverflows_eq_false_iff {self : InboundBatchData} :
    self.missingOverflows = false ↔ self.MissingInRange := by
  unfold missingOverflows MissingInRange
  cases self.baseBytePos with
  | none => simp
  | some base =>
      cases self.isContiguous <;> simp

theorem lastUnderflows_eq_false_iff {self : InboundBatchData} :
    self.lastUnderflows = false ↔ self.batchSize ≠ 0 := by
  have zero : self.batchSize = 0 ↔ self.batchSize.toNat = 0 := UInt8.toNat_inj.symm
  simp [lastUnderflows, zero]

/-- The count stays below the size of the batch, and the product of two small factors is small. -/
theorem addOverflows_eq_false (self : InboundBatchData) (data : FecPacket) :
    self.addOverflows data = false := by
  have pos := data.fecInfo.batchPos.toNat_lt
  have size := self.batchSize.toNat_lt
  have product : ¬ 2 ^ 32 ≤ data.fecInfo.batchPos.toNat * maxPayloadLength := by
    rw [maxPayloadLength]
    omega
  by_cases short : self.dataReceived < self.batchSize
  · have count : ¬ 2 ^ 8 ≤ self.dataReceived.toNat + 1 := by
      rw [UInt8.lt_iff_toNat_lt] at short
      omega
    simp only [addOverflows, product, count, decide_false, Bool.or_false, Bool.and_false]
  · simp only [addOverflows, short, decide_false, Bool.false_and]

theorem receivedOverflows_eq_false_iff {self : InboundBatchData} {packet : FecPacket} :
    self.receivedOverflows packet = false ↔ self.batchSize ≠ 0 := by
  rw [receivedOverflows, addOverflows_eq_false, Bool.and_false, Bool.false_or,
    lastUnderflows_eq_false_iff]

end InboundBatchData

namespace ConnectionStates

theorem receivingOverflows_eq_false_iff {self : ConnectionStates}
    {overflows : StreamState → StreamingFrom → Bool} :
    self.receivingOverflows overflows = false ↔
      ∀ session stream receiving, self.receiving = some (session, stream, receiving) →
        overflows stream receiving = false := by
  unfold receivingOverflows
  cases self.receiving with
  | none => simp
  | some found =>
      obtain ⟨session, stream, receiving⟩ := found
      constructor
      · intro safe other stream' receiving' same
        cases same
        exact safe
      · intro safe
        exact safe session stream receiving rfl

end ConnectionStates

namespace ReceivePath

/-- Every buffer that a stream is received into ends a chunk below `2 ^ 32`, and has its head in
place. -/
def Sized (self : ReceivePath) : Prop :=
  ∀ sessionId buffer, self.openBuffer sessionId = some buffer → buffer.Sized

def TaskInRange (self : ReceivePath) : ReceiveTask → Prop
  | .add ref _ | .read ref _ _ =>
      ∀ batch, self.xor.inbound.read ref = some batch → batch.batchSize ≠ 0
  | .enumerate (entry :: _) _ =>
      ∀ batch, self.xor.inbound.read entry.2 = some batch → batch.MissingInRange
  | .split _ ranges => ∀ range ∈ ranges, range.Ends
  | .enter _ | .take _ _ | .hand _ | .enumerate [] _ | .request _ _ => True

/-- What a step handles leaves room for its arithmetic: a data packet that the buffer takes is not
the 256th of its batch, and so on for the tasks. -/
def InRange (self : ReceivePath) : ReceiveLabel → Prop
  | .data packet _ => ∀ buffer, self.openBuffer packet.sessionId = some buffer →
      buffer.writeRejects packet.byteRangeStart packet.payload = none →
      buffer.buffer.memory ≠ none → packet.fecInfo.batchPos.toNat ≠ 255
  | .task index _ => ∀ task, self.tasks[index]? = some task → self.TaskInRange task
  | .parity _ | .retransmit _ | .prune _ | .call _ _ | .become _ _ => True

variable {self : ReceivePath}

theorem connectionOverflows_eq_false_iff {sessionId : SessionId}
    {overflows : ConnectionStates → Bool} :
    self.connectionOverflows sessionId overflows = false ↔
      ∀ connection, self.connections.get sessionId = some connection →
        overflows connection = false := by
  unfold connectionOverflows
  cases self.connections.get sessionId <;> simp

theorem batchOverflows_eq_false_iff {ref : Nat} {overflows : InboundBatchData → Bool} :
    self.batchOverflows ref overflows = false ↔
      ∀ batch, self.xor.inbound.read ref = some batch → overflows batch = false := by
  unfold batchOverflows
  cases self.xor.inbound.read ref <;> simp

theorem openBuffer_eq_some_iff {sessionId : SessionId} {buffer : WriteableBuffer} :
    self.openBuffer sessionId = some buffer ↔
      ∃ connection session stream receiving, self.connections.get sessionId = some connection ∧
        connection.receiving = some (session, stream, receiving) ∧ receiving.buffer = buffer := by
  rw [openBuffer, Option.bind_eq_some_iff]
  constructor
  · rintro ⟨connection, present, isOpen⟩
    cases found : connection.receiving with
    | none =>
        rw [ConnectionStates.openBuffer_of_not_receiving found] at isOpen
        cases isOpen
    | some opened =>
        obtain ⟨session, stream, receiving⟩ := opened
        rw [ConnectionStates.openBuffer_of_receiving found] at isOpen
        exact ⟨connection, session, stream, receiving, present, found, Option.some.inj isOpen⟩
  · rintro ⟨connection, session, stream, receiving, present, found, rfl⟩
    exact ⟨connection, present, ConnectionStates.openBuffer_of_receiving found⟩

theorem handlerOverflows_eq_false_iff {sessionId : SessionId}
    {overflows : StreamState → StreamingFrom → Bool} {room : WriteableBuffer → Prop}
    (sized : self.Sized)
    (exactly : ∀ stream receiving, receiving.buffer.Sized →
      (overflows stream receiving = false ↔ room receiving.buffer)) :
    self.connectionOverflows sessionId (fun connection =>
        connection.receivingOverflows overflows) = false ↔
      ∀ buffer, self.openBuffer sessionId = some buffer → room buffer := by
  simp only [connectionOverflows_eq_false_iff, ConnectionStates.receivingOverflows_eq_false_iff]
  constructor
  · intro safe buffer isOpen
    have fits := sized sessionId buffer isOpen
    obtain ⟨connection, session, stream, receiving, present, found, rfl⟩ :=
      openBuffer_eq_some_iff.mp isOpen
    exact (exactly stream receiving fits).mp (safe connection present session stream receiving found)
  · intro safe connection present session stream receiving found
    have isOpen : self.openBuffer sessionId = some receiving.buffer :=
      openBuffer_eq_some_iff.mpr ⟨connection, session, stream, receiving, present, found, rfl⟩
    exact (exactly stream receiving (sized sessionId _ isOpen)).mpr (safe _ isOpen)

theorem taskOverflows_eq_false_iff (sized : self.Sized) {clock : Nat → Timestamp}
    {task : ReceiveTask} : self.taskOverflows clock task = false ↔ self.TaskInRange task := by
  cases task with
  | enter packet => simp [taskOverflows, TaskInRange]
  | add ref packet =>
      simp only [taskOverflows, TaskInRange, batchOverflows_eq_false_iff,
        InboundBatchData.receivedOverflows_eq_false_iff]
  | take batchId sessionId => simp [taskOverflows, TaskInRange]
  | read ref batchId sessionId =>
      simp only [taskOverflows, TaskInRange, batchOverflows_eq_false_iff,
        InboundBatchData.lastUnderflows_eq_false_iff]
  | hand recovered =>
      have room := @handlerOverflows_eq_false_iff self recovered.sessionId
        (fun stream receiving => stream.recoveredOverflows receiving recovered clock)
        (fun _ => True) sized
        fun _ _ fits => by simp [StreamState.recoveredOverflows_eq_false fits]
      exact room.trans (by simp [TaskInRange])
  | enumerate removed expired =>
      cases removed with
      | nil => simp [taskOverflows, TaskInRange]
      | cons entry rest =>
          simp only [taskOverflows, TaskInRange, batchOverflows_eq_false_iff,
            InboundBatchData.missingOverflows_eq_false_iff]
  | request sessionId positions =>
      have room := @handlerOverflows_eq_false_iff self sessionId
        (fun _ receiving => coalesceOverflows (receiving.reserveForRequest positions (clock 0)).2)
        (fun _ => True) sized
        fun _ _ fits => by simp [StreamingFrom.reserved_coalesce fits]
      exact room.trans (by simp [TaskInRange])
  | split sessionId ranges =>
      simp only [taskOverflows, TaskInRange, List.any_eq_false, Bool.not_eq_true,
        ByteRange.stopOverflows_eq_false_iff]

/-- Where the buffers have their size, no arithmetic of a step overflows exactly when what the step
handles leaves room for it. -/
theorem overflows_eq_false_iff (sized : self.Sized) {label : ReceiveLabel} :
    self.overflows label = false ↔ self.InRange label := by
  cases label with
  | data packet clock =>
      exact handlerOverflows_eq_false_iff sized fun stream receiving fits =>
        StreamState.dataOverflows_eq_false_iff fits
  | parity packet => simp [overflows, InRange]
  | retransmit packet => simp [overflows, InRange]
  | prune keys => simp [overflows, InRange]
  | task index clock =>
      rw [overflows, InRange]
      cases self.tasks[index]? with
      | none => simp
      | some task => simp [taskOverflows_eq_false_iff sized]
  | call sessionId call =>
      cases call with
      | seek position =>
          have room := @handlerOverflows_eq_false_iff self sessionId
            (fun _ receiving => receiving.buffer.seekOverflows position) (fun _ => True) sized
            fun _ receiving fits => by simp [WriteableBuffer.seekHead_sized fits position]
          exact room.trans (by simp [InRange])
      | receive buffer message =>
          simp [overflows, InRange, connectionOverflows_eq_false_iff,
            ConnectionStates.callOverflows]
      | updateMessage change =>
          simp [overflows, InRange, connectionOverflows_eq_false_iff,
            ConnectionStates.callOverflows]
      | updateAddress new =>
          simp [overflows, InRange, connectionOverflows_eq_false_iff,
            ConnectionStates.callOverflows]
  | become sessionId connection => simp [overflows, InRange]

end ReceivePath

/-! ## The buffers keep their size -/

/-- A stream is received into a buffer whose last chunk ends below `2 ^ 32`. -/
def StreamCall.Fits : StreamCall → Prop
  | .receive buffer _ => buffer.len + maxPayloadLength < 2 ^ 32
  | .seek _ | .updateMessage _ | .updateAddress _ => True

def ReceiveLabel.Fits : ReceiveLabel → Prop
  | .call _ made => made.Fits
  | .data _ _ | .parity _ | .retransmit _ | .prune _ | .task _ _ | .become _ _ => True

namespace ConnectionStates

def Sized (self : ConnectionStates) : Prop :=
  ∀ buffer, self.openBuffer = some buffer → buffer.Sized

variable {self : ConnectionStates}

theorem call_sized (sized : self.Sized) {made : StreamCall} (fits : made.Fits) :
    (self.call made).Sized := by
  cases made with
  | receive buffer message =>
      rw [call]
      split
      · rename_i free
        intro opened isOpen
        rw [openBuffer_streamingFrom free] at isOpen
        cases isOpen
        exact WriteableBuffer.new_sized fits
      · exact sized
  | seek position =>
      intro buffer isOpen
      cases found : self.receiving with
      | none =>
          rw [call, seek, found] at isOpen
          exact sized buffer isOpen
      | some opened =>
          obtain ⟨session, stream, receiving⟩ := opened
          rw [call, seek, found] at isOpen
          cases isOpen
          exact (WriteableBuffer.seekHead_sized (sized _ (openBuffer_of_receiving found)) position).2
  | updateMessage change =>
      intro buffer isOpen
      rw [call, openBuffer_updateMessage] at isOpen
      exact sized buffer isOpen
  | updateAddress new =>
      cases self with
      | handshake sessionId appId address => exact sized
      | established session =>
          obtain ⟨sessionId, state, address, appId⟩ := session
          cases state <;> exact sized

theorem receivedDataPacket_sized (sized : self.Sized) (packet : DataPacket)
    (clock : Nat → Timestamp) : (self.receivedDataPacket packet clock).session.Sized :=
  (receivedDataPacket_stores
    (fun buffer isOpen => (WriteableBuffer.write_sized (sized buffer isOpen) _ _).2) clock).1

theorem recoveredPacket_sized (sized : self.Sized) (recovered : Recovered)
    (clock : Nat → Timestamp) : (self.recoveredPacket recovered clock).session.Sized :=
  recoveredPacket_stores sized
    (fun _ _ _ holds _ _ => (WriteableBuffer.write_sized holds _ _).2) clock

theorem requested_sized {ranges : List ByteRange} {next : ConnectionStates}
    (requests : self.requested ranges = some next) : next.Sized := by
  unfold requested at requests
  split at requests
  · cases requests
    intro buffer isOpen
    cases isOpen
  all_goals cases requests

theorem requestMissing_sized (sized : self.Sized) (sessionId : SessionId)
    (positions : List BytePosition) (clock : Nat → Timestamp) :
    (self.requestMissing sessionId positions clock).1.Sized := by
  unfold requestMissing
  split
  · exact sized
  · rename_i session stream receiving found
    intro buffer isOpen
    rw [openBuffer_withStream] at isOpen
    cases isOpen
    have same : (receiving.reserveForRequest positions (clock 0)).1.buffer = receiving.buffer :=
      StreamingFrom.reserve_buffer _ _ _
    rw [same]
    exact sized _ (openBuffer_of_receiving found)

end ConnectionStates

namespace ReceivePath

variable {self : ReceivePath}

theorem sized_iff : self.Sized ↔
    ∀ sessionId connection, self.connections.get sessionId = some connection →
      connection.Sized := by
  constructor
  · intro sized sessionId connection present buffer isOpen
    exact sized sessionId buffer (Option.bind_eq_some_iff.mpr ⟨connection, present, isOpen⟩)
  · intro sized sessionId buffer isOpen
    obtain ⟨connection, present, opened⟩ := Option.bind_eq_some_iff.mp isOpen
    exact sized sessionId connection present buffer opened

theorem new_sized : new.Sized := by
  intro sessionId buffer isOpen
  cases isOpen

theorem Sized.withConnection (sized : self.Sized) {connection : ConnectionStates}
    (connectionSized : connection.Sized) (sessionId : SessionId)
    (sent : List (StreamPacket × SocketAddr)) :
    (self.withConnection sessionId connection sent).Sized := by
  rw [sized_iff] at sized ⊢
  intro other found present
  rw [ReceivePath.withConnection, Table.get_insert] at present
  split at present
  · cases present
    exact connectionSized
  · exact sized other found present

theorem Sized.become (sized : self.Sized) {connection : Option ConnectionStates}
    (silent : (connection.bind ConnectionStates.openBuffer).isNone = true)
    (sessionId : SessionId) : (self.become sessionId connection).Sized := by
  cases connection with
  | none =>
      rw [sized_iff] at sized ⊢
      intro other found present
      exact sized other found (Table.get_of_get_remove present).2
  | some connection =>
      refine sized.withConnection ?_ sessionId []
      intro buffer isOpen
      simp [isOpen] at silent

theorem Sized.receivedDataPacket (sized : self.Sized) (debugAssertions : Bool)
    (packet : DataPacket) (clock : Nat → Timestamp) :
    (self.receivedDataPacket debugAssertions packet clock).Sized := by
  unfold ReceivePath.receivedDataPacket
  cases present : self.connections.get packet.sessionId with
  | none => exact sized
  | some connection =>
      have handled := ConnectionStates.receivedDataPacket_sized
        (sized_iff.mp sized _ _ present) packet clock
      exact @Sized.withConnection self sized _ handled packet.sessionId
        (connection.receivedDataPacket packet clock).sent

theorem Sized.receivedRetransmitRequest (sized : self.Sized) (packet : RetransmitPacket) :
    (self.receivedRetransmitRequest packet).Sized := by
  unfold ReceivePath.receivedRetransmitRequest
  split
  · exact sized
  · rename_i connection requests
    obtain ⟨before, _, requests⟩ := Option.bind_eq_some_iff.mp requests
    exact sized.withConnection (ConnectionStates.requested_sized requests) packet.sessionId []

theorem Sized.taskStep (sized : self.Sized) (clock : Nat → Timestamp) (task : ReceiveTask) :
    (self.taskStep clock task).1.Sized := by
  cases task with
  | hand recovered =>
      rw [ReceivePath.taskStep]
      cases present : self.connections.get recovered.sessionId with
      | none => exact sized
      | some connection =>
          exact sized.withConnection (ConnectionStates.recoveredPacket_sized
            (sized_iff.mp sized _ _ present) recovered clock) _ _
  | enumerate removed expired =>
      cases removed with
      | nil => exact sized
      | cons entry rest => exact sized
  | request sessionId positions =>
      rw [ReceivePath.taskStep]
      cases present : self.connections.get sessionId with
      | none => exact sized
      | some connection =>
          exact sized.withConnection (ConnectionStates.requestMissing_sized
            (sized_iff.mp sized _ _ present) sessionId positions clock) _ _
  | enter _ | add _ _ | take _ _ | read _ _ _ | split _ _ => exact sized

theorem step_sized {debugAssertions : Bool} (sized : self.Sized) {label : ReceiveLabel}
    (fits : label.Fits) {next : ReceivePath}
    (stepped : (machine debugAssertions).step self label = some next) : next.Sized := by
  cases label with
  | data packet clock =>
      cases stepped
      exact sized.receivedDataPacket debugAssertions packet clock
  | parity packet =>
      cases stepped
      exact sized
  | retransmit packet =>
      cases stepped
      exact sized.receivedRetransmitRequest packet
  | prune keys =>
      cases stepped
      exact sized
  | task index clock =>
      obtain ⟨task, _, rfl⟩ := Option.map_eq_some_iff.mp stepped
      exact sized.taskStep clock task
  | call sessionId call =>
      obtain ⟨connection, present, rfl⟩ := Option.map_eq_some_iff.mp stepped
      exact sized.withConnection
        (@ConnectionStates.call_sized _ (sized_iff.mp sized _ _ present) call fits) sessionId []
  | become sessionId connection =>
      simp only [machine] at stepped
      split at stepped
      · rename_i silent
        cases stepped
        exact sized.become silent sessionId
      · cases stepped

/-- No arithmetic overflows or underflows in any step of the run. -/
def Safe (debugAssertions : Bool) : ReceivePath → List ReceiveLabel → Prop :=
  (machine debugAssertions).Guarded fun state label => state.overflows label = false

/-- Whatever is received in whatever order: no arithmetic of the run leaves its type exactly when
each step handles what leaves room for it. -/
theorem arithmetic_safe_iff (debugAssertions : Bool) {labels : List ReceiveLabel}
    (fits : ∀ label ∈ labels, label.Fits) :
    Safe debugAssertions new labels ↔
      (machine debugAssertions).Guarded (fun state label => state.InRange label) new labels :=
  (machine debugAssertions).guarded_iff_of_invariant
    (fun _ _ sized => overflows_eq_false_iff sized)
    (fun _ _ _ sized labelFits stepped => step_sized sized labelFits stepped) new_sized fits

/-! Session 7 with a peer that fills in the fields as it likes. -/

def atStart : Timestamp := ⟨0, Timestamp.zero_lt⟩

def freeSession : ConnectionStates := .established ⟨⟨7⟩, .up, ⟨[127, 0, 0, 1], 80⟩, ⟨[]⟩⟩

/-- A stream is received on the session, and its second and last chunk arrives with these fields. -/
def lastChunk (batchSize batchPos : UInt8) : DataPacket :=
  DataPacket.new Options.none ⟨1⟩ ⟨batchSize, batchPos, 0⟩ ⟨7⟩
    (BytePosition.ofNat maxPayloadLength) [7, 8, 9] atStart

def receiveStream : List ReceiveLabel :=
  [.become ⟨7⟩ (some freeSession),
    .call ⟨7⟩ (.receive (Buffer.ofBytes (List.replicate (maxPayloadLength + 3) 0))
      StreamMessage.default)]

def receiveLast : List ReceiveLabel :=
  receiveStream ++ [.data (lastChunk 2 1) fun _ => atStart, .task 0 fun _ => atStart,
    .task 0 fun _ => atStart]

theorem receiveLast_fits : ∀ label ∈ receiveLast, label.Fits := by
  have length : (Buffer.ofBytes (List.replicate (maxPayloadLength + 3) 0)).len =
      maxPayloadLength + 3 := List.length_replicate
  have small : StreamCall.Fits (.receive (Buffer.ofBytes
      (List.replicate (maxPayloadLength + 3) 0)) StreamMessage.default) := by
    rw [StreamCall.Fits, length, maxPayloadLength]
    omega
  intro label listed
  simp only [receiveLast, receiveStream, List.mem_cons, List.mem_append, List.not_mem_nil,
    or_false] at listed
  rcases listed with (rfl | rfl) | rfl | rfl | rfl
  · exact True.intro
  · exact small
  · exact True.intro
  · exact True.intro
  · exact True.intro

theorem arithmetic_safe_iff_last :
    ((machine true).run new receiveLast).isSome = true ∧
      (Safe true new receiveLast ↔
        (machine true).Guarded (fun state label => state.InRange label) new receiveLast) :=
  ⟨by decide +kernel, arithmetic_safe_iff true receiveLast_fits⟩

/-- A chunk that the buffer takes with `batch_pos` 255, a parity packet of a batch of size 0, and a
range that ends past `u32`. -/
theorem fields_overflow :
    ((machine true).run new receiveStream).map
        (fun state => state.overflows (.data (lastChunk 2 255) fun _ => atStart)) = some true ∧
      ((machine true).run new
          [.parity (ParityPacket.new Options.none ⟨1⟩ ⟨0, 0, 1⟩ ⟨7⟩ [] atStart),
            .task 0 fun _ => atStart]).map
        (fun state => state.overflows (.task 0 fun _ => atStart)) = some true ∧
      ((machine true).run new
          [.become ⟨7⟩ (some (freeSession.streamTo (ReadableBuffer.new [1, 2, 3])
              StreamMessage.default)),
            .retransmit (RetransmitPacket.data Options.none ⟨7⟩
              [ByteRange.new (BytePosition.ofNat (2 ^ 32 - 1)) 1] atStart)]).map
        (fun state => state.overflows (.task 0 fun _ => atStart)) = some true := by
  refine ⟨?_, ?_, ?_⟩ <;> decide +kernel

end ReceivePath
end Ubass

import Mathlib.Algebra.Group.Basic
import Ubass.Lib.Bytes
import Ubass.Packets

/-!
# Blocks of the erasure code

`FECData` of `packet_processor/fec/mod.rs` and the conversions from and to packets.
A block holds the position of a chunk, the chunk padded with zeros, and the
length of the chunk in its last two bytes.  Under `^` the blocks form a group in
which every element is its own inverse.
-/

set_option autoImplicit false

namespace Ubass

/-- `FEC_DATA_SIZE`: the chunk, its position and its length. -/
def fecDataSize : Nat := maxPayloadLength + 4 + 2

@[ext] structure FecData where
  bytes : List UInt8
  length_bytes : bytes.length = fecDataSize
deriving DecidableEq

namespace FecData

/-- `FECData::default` -/
def default : FecData := ⟨List.replicate fecDataSize 0, List.length_replicate⟩

/-- `^` -/
def bitxor (self rhs : FecData) : FecData where
  bytes := List.zipWith (· ^^^ ·) self.bytes rhs.bytes
  length_bytes := by
    rw [List.length_zipWith, self.length_bytes, rhs.length_bytes, Nat.min_self]

def byteAt (self : FecData) (index : Fin fecDataSize) : UInt8 :=
  self.bytes.get (index.cast self.length_bytes.symm)

theorem ext_byteAt {left right : FecData} (same : ∀ index, left.byteAt index = right.byteAt index) :
    left = right := by
  refine FecData.ext (List.ext_getElem (left.length_bytes.trans right.length_bytes.symm) ?_)
  intro index inside _
  exact same ⟨index, left.length_bytes ▸ inside⟩

theorem byteAt_bitxor (left right : FecData) (index : Fin fecDataSize) :
    (left.bitxor right).byteAt index = left.byteAt index ^^^ right.byteAt index :=
  List.getElem_zipWith

theorem byteAt_default (index : Fin fecDataSize) : default.byteAt index = 0 :=
  List.getElem_replicate _

theorem bitxor_comm (left right : FecData) : left.bitxor right = right.bitxor left := by
  apply ext_byteAt
  intro index
  rw [byteAt_bitxor, byteAt_bitxor, UInt8.xor_comm]

theorem bitxor_assoc (first second third : FecData) :
    (first.bitxor second).bitxor third = first.bitxor (second.bitxor third) := by
  apply ext_byteAt
  intro index
  simp only [byteAt_bitxor, UInt8.xor_assoc]

theorem default_bitxor (block : FecData) : default.bitxor block = block := by
  apply ext_byteAt
  intro index
  rw [byteAt_bitxor, byteAt_default, UInt8.zero_xor]

theorem bitxor_self (block : FecData) : block.bitxor block = default := by
  apply ext_byteAt
  intro index
  rw [byteAt_bitxor, byteAt_default, UInt8.xor_self]

instance : Add FecData := ⟨bitxor⟩

instance : Zero FecData := ⟨default⟩

instance : Neg FecData := ⟨id⟩

/-- The group of blocks: sums are written for `^`. -/
instance : AddCommGroup FecData where
  add_assoc := bitxor_assoc
  add_comm := bitxor_comm
  zero_add := default_bitxor
  add_zero block := (bitxor_comm block default).trans (default_bitxor block)
  neg_add_cancel := bitxor_self
  nsmul := nsmulRec
  zsmul := zsmulRec

theorem bitxor_eq_add (left right : FecData) : left.bitxor right = left + right := rfl

theorem add_self (block : FecData) : block + block = 0 := bitxor_self block

/-- `buf[offset..]` after `bytes.serialize(&mut buf[offset..])`, and whether it succeeded. -/
def serializeInto (buf : List UInt8) (offset : Nat) (bytes : List UInt8) : List UInt8 × Bool :=
  if offset + bytes.length ≤ buf.length then (Bytes.overwrite buf offset bytes, true)
  else (buf, false)

theorem length_serializeInto (buf : List UInt8) (offset : Nat) (bytes : List UInt8) :
    (serializeInto buf offset bytes).1.length = buf.length := by
  unfold serializeInto
  split
  · rename_i fits
    exact Bytes.length_overwrite fits
  · rfl

/-- `FECData::from(&DataPacket)`.  The payload is serialized inside a `debug_assert!`: without
debug assertions it is left out, with them a payload that does not fit stops the program. -/
def fromDataPacket (debugAssertions : Bool) (value : DataPacket) : Option FecData :=
  let zeros := List.replicate fecDataSize (0 : UInt8)
  let positioned := (serializeInto zeros 0 (Bytes.beBytes 4 value.byteRangeStart.toNat)).1
  let payload := serializeInto positioned 4 value.payload
  let filled := if debugAssertions then payload.1 else positioned
  if debugAssertions && !payload.2 then none
  else some {
    bytes := (serializeInto filled (fecDataSize - 2) (Bytes.beBytes 2 value.payload.length)).1
    length_bytes := by
      rw [length_serializeInto]
      simp only [filled, payload, positioned, zeros]
      split <;> simp [length_serializeInto] }

end FecData

structure RecoverdPacket where
  byteRangeStart : BytePosition
  payload : List UInt8
deriving DecidableEq

/-- `RecoverdPacket::from(FECData)` -/
def RecoverdPacket.fromFecData (value : FecData) : RecoverdPacket where
  byteRangeStart := BytePosition.ofNat (Bytes.ofBeBytes (value.bytes.take 4))
  payload := (Bytes.slice value.bytes 4 (fecDataSize - 2)).take
    (Bytes.ofBeBytes (value.bytes.drop (fecDataSize - 2)))

structure FecPacket where
  isParity : Bool
  sessionId : SessionId
  batchId : BatchId
  fecInfo : FecInfo
  data : FecData
deriving DecidableEq

namespace FecPacket

/-- `FECPacket::from(DataPacket)` -/
def fromDataPacket (debugAssertions : Bool) (value : DataPacket) : Option FecPacket :=
  (FecData.fromDataPacket debugAssertions value).map fun data =>
    { isParity := false
      sessionId := value.sessionId
      batchId := value.batchId
      fecInfo := value.fecInfo
      data := data }

/-- `FECPacket::from(ParityPacket)` -/
def fromParityPacket (value : ParityPacket) : FecPacket where
  isParity := true
  sessionId := value.sessionId
  batchId := value.batchId
  fecInfo := value.fecInfo
  data :=
    { bytes := (FecData.serializeInto FecData.default.bytes 0 value.payload).1
      length_bytes := by rw [FecData.length_serializeInto]; exact FecData.default.length_bytes }

theorem data_fromParityPacket {value : ParityPacket} {block : FecData}
    (payload : value.payload = block.bytes) : (fromParityPacket value).data = block := by
  have fits : 0 + block.bytes.length ≤ FecData.default.bytes.length := by
    rw [Nat.zero_add, block.length_bytes, FecData.default.length_bytes]
  refine FecData.ext ?_
  simp only [fromParityPacket, payload, FecData.serializeInto, if_pos fits, Bytes.overwrite,
    List.take_zero, List.nil_append]
  rw [List.drop_eq_nil_of_le, List.append_nil]
  rw [Nat.zero_add, block.length_bytes, FecData.default.length_bytes]

end FecPacket

/-! ## The layout of a block -/

/-- The block of a chunk with debug assertions on. -/
def FecData.layout (position : BytePosition) (payload : List UInt8) : List UInt8 :=
  Bytes.beBytes 4 position.toNat ++
    (payload ++ (List.replicate (maxPayloadLength - payload.length) 0 ++
      Bytes.beBytes 2 payload.length))

theorem FecData.serializeInto_append {front middle back bytes : List UInt8} {offset : Nat}
    (start : front.length = offset) (sameLength : middle.length = bytes.length) :
    FecData.serializeInto (front ++ (middle ++ back)) offset bytes =
      (front ++ (bytes ++ back), true) := by
  have fits : offset + bytes.length ≤ (front ++ (middle ++ back)).length := by
    rw [List.length_append, List.length_append]
    omega
  rw [FecData.serializeInto, if_pos fits, ← start, Bytes.overwrite_append sameLength]

theorem FecData.serializeInto_position (position : BytePosition) :
    FecData.serializeInto (List.replicate fecDataSize 0) 0 (Bytes.beBytes 4 position.toNat) =
      (Bytes.beBytes 4 position.toNat ++ List.replicate (maxPayloadLength + 2) 0, true) := by
  have split : List.replicate fecDataSize (0 : UInt8) =
      [] ++ (List.replicate 4 0 ++ List.replicate (maxPayloadLength + 2) 0) := by
    rw [List.nil_append, List.replicate_append_replicate]
    rfl
  rw [split, FecData.serializeInto_append List.length_nil (by simp), List.nil_append]

theorem FecData.serializeInto_payload (position : BytePosition) {payload : List UInt8}
    (fits : payload.length ≤ maxPayloadLength) :
    FecData.serializeInto
        (Bytes.beBytes 4 position.toNat ++ List.replicate (maxPayloadLength + 2) 0) 4 payload =
      (Bytes.beBytes 4 position.toNat ++
        (payload ++ List.replicate (maxPayloadLength + 2 - payload.length) 0), true) := by
  have split : List.replicate (maxPayloadLength + 2) (0 : UInt8) =
      List.replicate payload.length 0 ++
        List.replicate (maxPayloadLength + 2 - payload.length) 0 := by
    rw [List.replicate_append_replicate, Nat.add_sub_cancel' (by omega)]
  rw [split, FecData.serializeInto_append (Bytes.length_beBytes _ _) List.length_replicate]

theorem FecData.serializeInto_length (position : BytePosition) {payload : List UInt8}
    (fits : payload.length ≤ maxPayloadLength) :
    FecData.serializeInto (Bytes.beBytes 4 position.toNat ++
        (payload ++ List.replicate (maxPayloadLength + 2 - payload.length) 0))
        (fecDataSize - 2) (Bytes.beBytes 2 payload.length) =
      (FecData.layout position payload, true) := by
  have split : Bytes.beBytes 4 position.toNat ++
      (payload ++ List.replicate (maxPayloadLength + 2 - payload.length) 0) =
        (Bytes.beBytes 4 position.toNat ++
          (payload ++ List.replicate (maxPayloadLength - payload.length) 0)) ++
            (List.replicate 2 0 ++ []) := by
    have zeros : maxPayloadLength - payload.length + 2 =
        maxPayloadLength + 2 - payload.length := by omega
    rw [List.append_nil, List.append_assoc, List.append_assoc, List.replicate_append_replicate,
      zeros]
  rw [split, FecData.serializeInto_append _ (by simp), FecData.layout]
  · simp only [List.append_assoc, List.append_nil]
  · simp only [List.length_append, Bytes.length_beBytes, List.length_replicate, fecDataSize]
    omega

theorem FecData.length_layout (position : BytePosition) {payload : List UInt8}
    (fits : payload.length ≤ maxPayloadLength) :
    (FecData.layout position payload).length = fecDataSize := by
  simp only [FecData.layout, List.length_append, Bytes.length_beBytes, List.length_replicate,
    fecDataSize]
  omega

theorem FecData.fromDataPacket_eq {value : DataPacket}
    (fits : value.payload.length ≤ maxPayloadLength) :
    ∃ block, FecData.fromDataPacket true value = some block ∧
      block.bytes = FecData.layout value.byteRangeStart value.payload := by
  refine ⟨⟨_, FecData.length_layout value.byteRangeStart fits⟩, ?_, rfl⟩
  simp only [FecData.fromDataPacket, FecData.serializeInto_position,
    FecData.serializeInto_payload _ fits, FecData.serializeInto_length _ fits, Bool.not_true,
    Bool.and_false, Bool.false_eq_true, if_false, if_true]

theorem FecData.fromDataPacket_release_eq {value : DataPacket}
    (fits : value.payload.length ≤ maxPayloadLength) :
    ∃ block, FecData.fromDataPacket false value = some block ∧
      block.bytes =
        FecData.layout value.byteRangeStart (List.replicate value.payload.length 0) := by
  have zerosFit : (List.replicate value.payload.length (0 : UInt8)).length ≤ maxPayloadLength := by
    rw [List.length_replicate]
    exact fits
  have closed := FecData.serializeInto_length value.byteRangeStart zerosFit
  rw [List.length_replicate, List.replicate_append_replicate,
    Nat.add_sub_cancel' (by omega)] at closed
  refine ⟨⟨_, FecData.length_layout value.byteRangeStart zerosFit⟩, ?_, rfl⟩
  simp only [FecData.fromDataPacket, FecData.serializeInto_position, closed, Bool.false_and,
    Bool.false_eq_true, if_false]

theorem FecPacket.start_fromDataPacket (debugAssertions : Bool) {packet : DataPacket}
    (fits : packet.payload.length ≤ maxPayloadLength) :
    ∃ made, FecPacket.fromDataPacket debugAssertions packet = some made ∧
      made.fecInfo = packet.fecInfo ∧
      FecData.fromDataPacket debugAssertions packet = some made.data ∧
      Bytes.ofBeBytes (made.data.bytes.take 4) = packet.byteRangeStart.toNat := by
  have laidOut : ∃ block payload, FecData.fromDataPacket debugAssertions packet = some block ∧
      block.bytes = FecData.layout packet.byteRangeStart payload := by
    cases debugAssertions with
    | true =>
        obtain ⟨block, made, bytes⟩ := FecData.fromDataPacket_eq fits
        exact ⟨block, _, made, bytes⟩
    | false =>
        obtain ⟨block, made, bytes⟩ := FecData.fromDataPacket_release_eq fits
        exact ⟨block, _, made, bytes⟩
  obtain ⟨block, payload, made, bytes⟩ := laidOut
  refine ⟨⟨false, packet.sessionId, packet.batchId, packet.fecInfo, block⟩, ?_, rfl, made, ?_⟩
  · rw [FecPacket.fromDataPacket, made, Option.map_some]
  · simp only [bytes, FecData.layout, List.take_left' (Bytes.length_beBytes _ _)]
    exact Bytes.ofBeBytes_beBytes packet.byteRangeStart.lt

theorem RecoverdPacket.fromFecData_layout {block : FecData} {position : BytePosition}
    {payload : List UInt8} (fits : payload.length ≤ maxPayloadLength)
    (bytes : block.bytes = FecData.layout position payload) :
    RecoverdPacket.fromFecData block = ⟨position, payload⟩ := by
  have padded : (payload ++ List.replicate (maxPayloadLength - payload.length) (0 : UInt8)).length =
      maxPayloadLength := by
    rw [List.length_append, List.length_replicate]
    omega
  have start : block.bytes.take 4 = Bytes.beBytes 4 position.toNat := by
    rw [bytes, FecData.layout]
    exact List.take_left' (Bytes.length_beBytes _ _)
  have rest : block.bytes.drop 4 =
      (payload ++ List.replicate (maxPayloadLength - payload.length) 0) ++
        Bytes.beBytes 2 payload.length := by
    rw [bytes, FecData.layout, List.drop_left' (Bytes.length_beBytes _ _), List.append_assoc]
  have body : Bytes.slice block.bytes 4 (fecDataSize - 2) =
      payload ++ List.replicate (maxPayloadLength - payload.length) 0 := by
    rw [Bytes.slice, rest]
    exact List.take_left' padded
  have length : block.bytes.drop (fecDataSize - 2) = Bytes.beBytes 2 payload.length := by
    have split : fecDataSize - 2 = 4 + maxPayloadLength := rfl
    rw [split, ← List.drop_drop, rest]
    exact List.drop_left' padded
  have small : payload.length < 256 ^ 2 := by
    simp only [maxPayloadLength] at fits
    omega
  rw [RecoverdPacket.fromFecData, start, body, length, Bytes.ofBeBytes_beBytes position.lt,
    Bytes.ofBeBytes_beBytes small, BytePosition.ofNat_toNat, List.take_left]

/-- The block of a packet yields the position and the payload of the packet. -/
def BlockRoundTrip (debugAssertions : Bool) (value : DataPacket) : Prop :=
  ∃ block, FecData.fromDataPacket debugAssertions value = some block ∧
    RecoverdPacket.fromFecData block = ⟨value.byteRangeStart, value.payload⟩

/-- With debug assertions every packet makes the round trip, without them those do whose payload
is zeros.  A block in the payload of a parity packet always arrives as it is. -/
theorem blockRoundTrip_iff {value : DataPacket} (fits : value.payload.length ≤ maxPayloadLength)
    (debugAssertions : Bool) :
    (BlockRoundTrip debugAssertions value ↔
        debugAssertions = true ∨ ∀ byte ∈ value.payload, byte = 0) ∧
      ∀ (parity : ParityPacket) (block : FecData), parity.payload = block.bytes →
        (FecPacket.fromParityPacket parity).data = block := by
  refine ⟨?_, fun _ _ payload => FecPacket.data_fromParityPacket payload⟩
  cases debugAssertions with
  | true =>
      obtain ⟨block, made, bytes⟩ := FecData.fromDataPacket_eq fits
      exact iff_of_true ⟨block, made, RecoverdPacket.fromFecData_layout fits bytes⟩ (Or.inl rfl)
  | false =>
      obtain ⟨block, made, bytes⟩ := FecData.fromDataPacket_release_eq fits
      have recovered : RecoverdPacket.fromFecData block =
          ⟨value.byteRangeStart, List.replicate value.payload.length 0⟩ := by
        refine RecoverdPacket.fromFecData_layout ?_ bytes
        rw [List.length_replicate]
        exact fits
      have zeros : List.replicate value.payload.length 0 = value.payload ↔
          ∀ byte ∈ value.payload, byte = 0 := by
        rw [eq_comm, List.eq_replicate_iff]
        simp
      rw [← zeros]
      constructor
      · rintro ⟨other, same, roundTrip⟩
        cases Option.some.inj (made.symm.trans same)
        rw [recovered] at roundTrip
        exact Or.inr (congrArg RecoverdPacket.payload roundTrip)
      · intro allZeros
        refine ⟨block, made, ?_⟩
        rw [recovered, allZeros.resolve_left Bool.false_ne_true]

def packetAtFive (payload : List UInt8) : DataPacket :=
  DataPacket.new (Options.construct []) ⟨1⟩ (FecInfo.new 1 0 1) ⟨2⟩ (BytePosition.ofNat 5) payload
    ⟨3, by decide⟩

theorem blockRoundTrip_iff_zero :
    (BlockRoundTrip false (packetAtFive [0, 0]) ↔
        false = true ∨ ∀ byte ∈ (packetAtFive [0, 0]).payload, byte = 0) ∧
      ∀ (parity : ParityPacket) (block : FecData), parity.payload = block.bytes →
        (FecPacket.fromParityPacket parity).data = block :=
  blockRoundTrip_iff (by decide) false

/-- A release build recovers a zero for the byte 7. -/
theorem release_block_loses_payload :
    ∃ block, FecData.fromDataPacket false (packetAtFive [7]) = some block ∧
      RecoverdPacket.fromFecData block = ⟨BytePosition.ofNat 5, [0]⟩ ∧
      ¬ BlockRoundTrip false (packetAtFive [7]) := by
  obtain ⟨block, made, bytes⟩ := FecData.fromDataPacket_release_eq
    (by decide : (packetAtFive [7]).payload.length ≤ maxPayloadLength)
  have recovered : RecoverdPacket.fromFecData block = ⟨BytePosition.ofNat 5, [0]⟩ :=
    RecoverdPacket.fromFecData_layout (by decide) bytes
  refine ⟨block, made, recovered, ?_⟩
  rintro ⟨other, same, roundTrip⟩
  cases Option.some.inj (made.symm.trans same)
  rw [recovered] at roundTrip
  exact absurd (congrArg RecoverdPacket.payload roundTrip) (by decide)

end Ubass

import Ubass.Lib.Writers
import Ubass.Processor.WirePacket

/-!
# Serializing into a buffer

The implementations of `Serialize` in the crate, with what they do to the buffer they
are given: the hand-written ones, the generic pair and what the macro derives for
structures and enumerations.  A derived structure gives each field all that is left of
the buffer.  A field therefore must not care how long that is; `AppId` does.

Sizes are unbounded.
-/

set_option autoImplicit false

namespace Ubass

open BufferWriter

/-- A value of a type that implements `Serialize`, by its implementation. -/
inductive Serializable where
  | int (type : IntType) (value : type.Value)
  | socketAddrV4 (ip : UInt8 × UInt8 × UInt8 × UInt8) (port : UInt16)
  | vec (bytes : List UInt8)
  | array (bytes : List UInt8)
  | boxedArray (bytes : List UInt8)
  | pair (first second : Serializable)
  | appId (id : AppId)
  | optionSocketAddr (address : Option SocketAddr)
  | optionBufferId (id : Option BufferId)
  | reserved (size : Nat)
  | controlType (type : ControlType)
  | byteRanges (ranges : List ByteRange)
  | derivedStruct (fields : List Serializable)
  | derivedEnum (type : IntType) (variant : type.Value)

/-! ## The implementations -/

/-- `impl_packet_serialization_ints!` -/
def serializeInt (type : IntType) (value : type.Value) : BufferWriter UInt8 :=
  checked type.bytes (sliceTo type.bytes (copyFromSlice (EnumSerialize.reprBytes value)))

/-- `[u8; N]`, `Box<[u8; N]>` and `Vec<u8>` -/
def serializeSlice (bytes : List UInt8) : BufferWriter UInt8 :=
  checked bytes.length (sliceTo bytes.length (copyFromSlice bytes))

/-- The `serialize` that `enum_serialization` generates. -/
def enumSerialize (type : IntType) (variant : type.Value) : BufferWriter UInt8 :=
  checked type.bytes (serializeInt type variant)

/-- The `serialize` that `struct_serialization` generates, for the sizes and the implementations of
the fields. -/
def structSerialize (fields : List (Nat × BufferWriter UInt8)) : BufferWriter UInt8 :=
  checked (fields.map Prod.fst).sum (fieldsFrom 0 fields)

namespace Serializable

def u8 : IntType := IntType.u8

def u16 : IntType := ⟨false, 2, Nat.two_pos⟩

def u32 : IntType := ⟨false, 4, Nat.zero_lt_succ 3⟩

def u64 : IntType := ⟨false, 8, Nat.zero_lt_succ 7⟩

/-- A structure around a `u16`. -/
def serializeId (id : UInt16) : BufferWriter UInt8 :=
  structSerialize [(2, serializeInt u16 id.toBitVec)]

/-- A `BytePosition` and a `u16`. -/
def serializeByteRange (range : ByteRange) : BufferWriter UInt8 :=
  structSerialize
    [(4, structSerialize [(4, serializeInt u32 (BitVec.ofNatLT range.start.toNat range.start.lt))]),
      (2, serializeInt u16 range.length.toBitVec)]

/-- The loop over the ranges, from the `index`th on. -/
def writeByteRanges (index : Nat) : List ByteRange → BufferWriter UInt8
  | [] => nothing
  | range :: rest =>
      (sliceFrom (index * ByteRange.elemSize) (serializeByteRange range)).andThen
        (writeByteRanges (index + 1) rest)

mutual

def sized : Serializable → Nat
  | int type _ => type.bytes
  | socketAddrV4 _ _ => 6
  | vec bytes | array bytes | boxedArray bytes => bytes.length
  | pair first second => first.sized + second.sized
  | appId id => id.bytes.length
  | optionSocketAddr _ => 0
  | optionBufferId _ => 2
  | reserved size => size
  | controlType _ => 1
  | byteRanges ranges => ranges.length * ByteRange.elemSize
  | derivedStruct fields => sizedFields fields
  | derivedEnum type _ => type.bytes

def sizedFields : List Serializable → Nat
  | [] => 0
  | field :: rest => field.sized + sizedFields rest

end

mutual

def serialize : Serializable → BufferWriter UInt8
  | int type value => serializeInt type value
  | socketAddrV4 (first, second, third, fourth) port =>
      checked 6 ((serializeSlice [first, second, third, fourth]).andThen
        (sliceFrom 4 (serializeInt u16 port.toBitVec)))
  | vec bytes | array bytes | boxedArray bytes => serializeSlice bytes
  | pair first second =>
      checked (first.sized + second.sized)
        (first.serialize.andThen (sliceFrom first.sized second.serialize))
  -- The whole buffer is copied to, not its first `len` bytes.
  | appId id => checked id.bytes.length (copyFromSlice id.bytes)
  | optionSocketAddr _ => nothing
  | optionBufferId none => checked 2 ((setAt 0 0).andThen (setAt 1 0))
  | optionBufferId (some id) => checked 2 (serializeId id.id)
  | reserved size => checked size (sliceTo size (fill 0))
  | controlType type => enumSerialize u8 (BitVec.ofNat 8 type.repr)
  | byteRanges ranges =>
      checked (ranges.length * ByteRange.elemSize) (writeByteRanges 0 ranges)
  | derivedStruct fields => structSerialize (fieldWriters fields)
  | derivedEnum type variant => enumSerialize type variant

def fieldWriters : List Serializable → List (Nat × BufferWriter UInt8)
  | [] => []
  | field :: rest => (field.sized, field.serialize) :: fieldWriters rest

end

/-! ## What is written -/

mutual

def bytes : Serializable → List UInt8
  | int _ value | derivedEnum _ value => EnumSerialize.reprBytes value
  | socketAddrV4 (first, second, third, fourth) port =>
      [first, second, third, fourth] ++ Bytes.beBytes 2 port.toNat
  | vec bytes | array bytes | boxedArray bytes => bytes
  | pair first second => first.bytes ++ second.bytes
  | appId id => id.bytes
  | optionSocketAddr _ => []
  | optionBufferId id => serializeBufferId id
  | reserved size => List.replicate size 0
  | controlType type => Serialize.serialize type
  | byteRanges ranges => serializeByteRanges ranges
  | derivedStruct fields => bytesFields fields

def bytesFields : List Serializable → List UInt8
  | [] => []
  | field :: rest => field.bytes ++ bytesFields rest

end

mutual

/-- Where the `AppId`s in the encoding end. -/
def appIdEnds : Serializable → List Nat
  | appId id => [id.bytes.length]
  | pair first second =>
      first.appIdEnds ++ second.appIdEnds.map fun stop => first.sized + stop
  | derivedStruct fields => appIdEndsFields fields
  | int _ _ | derivedEnum _ _ | socketAddrV4 _ _ | vec _ | array _ | boxedArray _ |
    optionSocketAddr _ | optionBufferId _ | reserved _ | controlType _ | byteRanges _ => []

def appIdEndsFields : List Serializable → List Nat
  | [] => []
  | field :: rest =>
      field.appIdEnds ++ (appIdEndsFields rest).map fun stop => field.sized + stop

end

/-! ## Every implementation writes the encoding -/

theorem length_reprBytes {type : IntType} (value : type.Value) :
    (EnumSerialize.reprBytes value).length = type.bytes :=
  Bytes.length_beBytes _ _

theorem serializeInt_writes {type : IntType} (value : type.Value) :
    Writes (serializeInt type value) (EnumSerialize.reprBytes value) [] :=
  writes_copyFromSlice (length_reprBytes value)

theorem serializeSlice_writes (bytes : List UInt8) : Writes (serializeSlice bytes) bytes [] :=
  writes_copyFromSlice rfl

theorem enumSerialize_writes {type : IntType} (variant : type.Value) :
    Writes (enumSerialize type variant) (EnumSerialize.reprBytes variant) [] :=
  (serializeInt_writes variant).checked (length_reprBytes variant)

theorem structSerialize_writes {size : Nat} {field : BufferWriter UInt8} {bytes : List UInt8}
    (writes : Writes field bytes []) (sized : bytes.length = size) :
    Writes (structSerialize [(size, field)]) bytes [] := by
  have fields := writes.andThen (appends_nothing (0 + bytes.length))
  simp only [List.append_nil, List.map_nil] at fields
  rw [structSerialize, fieldsFrom, fieldsFrom]
  exact fields.checked (by simp [sized])

theorem serializeId_writes (id : UInt16) :
    Writes (serializeId id) (Bytes.beBytes 2 id.toNat) [] :=
  structSerialize_writes (@serializeInt_writes u16 id.toBitVec) (Bytes.length_beBytes 2 _)

theorem serializeByteRange_writes (range : ByteRange) :
    Writes (serializeByteRange range) range.serialize [] := by
  have start := structSerialize_writes
    (@serializeInt_writes u32 (BitVec.ofNatLT range.start.toNat range.start.lt))
    (Bytes.length_beBytes 4 _)
  have length := @serializeInt_writes u16 range.length.toBitVec
  have fields := start.andThen (length.andThen (appends_nothing (0 + 4 + 2)))
  simp only [List.append_nil, List.map_nil] at fields
  exact fields.checked rfl

theorem writeByteRanges_appends (index : Nat) (ranges : List ByteRange) :
    Appends (index * ByteRange.elemSize) (writeByteRanges index ranges)
      (serializeByteRanges ranges) [] := by
  induction ranges generalizing index with
  | nil => exact appends_nothing _
  | cons range rest ih =>
      have next : index * ByteRange.elemSize + range.serialize.length =
          (index + 1) * ByteRange.elemSize := by
        rw [range.length_serialize, Nat.succ_mul]
      have fields := (serializeByteRange_writes range).andThen (next ▸ ih (index + 1))
      simpa [serializeByteRanges, writeByteRanges] using fields

mutual

theorem length_bytes : ∀ value : Serializable, value.bytes.length = value.sized
  | int _ value | derivedEnum _ value => length_reprBytes value
  | socketAddrV4 _ port => by simp [bytes, sized]
  | vec _ | array _ | boxedArray _ | appId _ => by simp [bytes, sized]
  | pair first second => by simp [bytes, sized, first.length_bytes, second.length_bytes]
  | optionSocketAddr _ => rfl
  | optionBufferId id => Serialize.length_serialize (id.getD ⟨0⟩)
  | reserved size => by simp [bytes, sized]
  | controlType type => Serialize.length_serialize type
  | byteRanges ranges => length_serializeByteRanges ranges
  | derivedStruct fields => by simp [bytes, sized, length_bytesFields fields]

theorem length_bytesFields : ∀ fields : List Serializable,
    (bytesFields fields).length = sizedFields fields
  | [] => rfl
  | field :: rest => by
      simp [bytesFields, sizedFields, field.length_bytes, length_bytesFields rest]

end

theorem sum_fieldWriters : ∀ fields : List Serializable,
    ((fieldWriters fields).map Prod.fst).sum = (bytesFields fields).length
  | [] => rfl
  | field :: rest => by
      simp [fieldWriters, bytesFields, field.length_bytes, sum_fieldWriters rest]

theorem emptyId_writes :
    Writes (checked 2 ((setAt 0 0).andThen (setAt 1 0))) (serializeBufferId none) [] := by
  constructor
  · intro buf short
    exact ⟨buf, if_pos short⟩
  · intro buf room _
    obtain ⟨first, second, rest, rfl⟩ : ∃ first second rest, buf = first :: second :: rest := by
      match buf, room with
      | first :: second :: rest, _ => exact ⟨first, second, rest, rfl⟩
    simp [checked, andThen, setAt, serializeBufferId]
    rfl
  · simp

theorem controlType_writes (type : ControlType) :
    Writes (enumSerialize u8 (BitVec.ofNat 8 type.repr)) (Serialize.serialize type) [] := by
  have same : @EnumSerialize.reprBytes u8 (BitVec.ofNat 8 type.repr) =
      Serialize.serialize type := by
    rcases type with type | type | type <;> cases type <;> rfl
  rw [← same]
  exact enumSerialize_writes _

mutual

theorem serialize_writes : ∀ value : Serializable,
    Writes value.serialize value.bytes value.appIdEnds
  | int _ value => serializeInt_writes value
  | socketAddrV4 (first, second, third, fourth) port => by
      have ip := serializeSlice_writes [first, second, third, fourth]
      have fields := ip.andThen
        ((@serializeInt_writes u16 port.toBitVec).andThen (appends_nothing (0 + 4 + 2)))
      simp only [List.append_nil, List.map_nil, sliceFrom_zero, andThen_nothing] at fields
      exact fields.checked rfl
  | vec bytes | array bytes | boxedArray bytes => serializeSlice_writes bytes
  | pair first second => by
      have fields := first.serialize_writes.andThen
        (second.serialize_writes.andThen
          (appends_nothing (0 + first.bytes.length + second.bytes.length)))
      simp only [List.append_nil, List.map_nil, sliceFrom_zero, andThen_nothing, Nat.zero_add,
        first.length_bytes] at fields
      rw [serialize, bytes, appIdEnds]
      apply fields.checked
      rw [List.length_append, first.length_bytes, second.length_bytes]
  | appId id => writes_whole id.bytes
  | optionSocketAddr _ => writes_nothing
  | optionBufferId none => emptyId_writes
  | optionBufferId (some id) => (serializeId_writes id.id).checked (Bytes.length_beBytes 2 _)
  | reserved size => writes_fill size 0
  | controlType type => controlType_writes type
  | byteRanges ranges => by
      have loop := writeByteRanges_appends 0 ranges
      rw [Nat.zero_mul] at loop
      exact loop.checked (length_serializeByteRanges ranges)
  | derivedStruct fields => (serialize_fields 0 fields).checked (sum_fieldWriters fields).symm
  | derivedEnum _ variant => enumSerialize_writes variant

theorem serialize_fields (offset : Nat) : ∀ fields : List Serializable,
    Appends offset (fieldsFrom offset (fieldWriters fields)) (bytesFields fields)
      (appIdEndsFields fields)
  | [] => appends_nothing offset
  | field :: rest => by
      have behind := serialize_fields (offset + field.sized) rest
      rw [← field.length_bytes] at behind
      have fields := field.serialize_writes.andThen behind
      rw [field.length_bytes] at fields
      exact fields

end

/-! ## The contract -/

/-- A buffer that is too short is refused; the first `sized()` bytes of any other one are written,
and those behind them stay. -/
structure MeetsContract (value : Serializable) (buf : List UInt8) : Prop where
  encoding : value.bytes.length = value.sized
  short : buf.length < value.sized → ∃ after, value.serialize buf = .failed after
  written : value.sized ≤ buf.length →
    value.serialize buf = .done (value.bytes ++ buf.drop value.sized)

/-- For every value and every buffer: `serialize` does what it promises exactly when the buffer is
too short or every `AppId` of the value ends where the buffer ends. -/
theorem meetsContract_iff (value : Serializable) (buf : List UInt8) :
    value.MeetsContract buf ↔
      buf.length < value.sized ∨ ∀ stop ∈ value.appIdEnds, stop = buf.length := by
  have exact := value.serialize_writes.contract_iff buf
  rw [value.length_bytes] at exact
  rw [← exact]
  constructor
  · intro contract
    exact ⟨contract.short, contract.written⟩
  · rintro ⟨short, written⟩
    exact ⟨value.length_bytes, short, written⟩

/-- An identifier of one byte in front of another byte. -/
theorem appId_panics :
    (pair (appId ⟨[97]⟩) (int u8 5#8)).serialize [0, 0] = .panicked ∧
      ¬ (pair (appId ⟨[97]⟩) (int u8 5#8)).MeetsContract [0, 0] := by
  have panicked : (pair (appId ⟨[97]⟩) (int u8 5#8)).serialize [0, 0] = .panicked := by
    decide +kernel
  refine ⟨panicked, ?_⟩
  intro contract
  have written := contract.written (Nat.le_refl 2)
  rw [panicked] at written
  cases written

end Serializable
end Ubass

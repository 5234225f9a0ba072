import Ubass.Lib.Parser
import Ubass.Manager.Receive
import Ubass.Processor.EnumCodec

/-!
# Fields on the wire

`Serialize::deserialize` for the fields of the packets.  A field of a fixed width
fails on a short slice or on a value that no variant has; the fields at the end of
a packet take what is left.
-/

set_option autoImplicit false

namespace Ubass

open Serialize

/-! ## Fields of a fixed width -/

instance : Serialize UInt16 :=
  ofNat 2 UInt16.toNat (fun value => value.toNat_lt) fun _ _ same => UInt16.toNat_inj.mp same

instance : LawfulDeserialize UInt16 :=
  LawfulDeserialize.ofNat UInt16.toNat (fun value => some (UInt16.ofNat value)) (fun _ => rfl)
    (fun value => value.toNat_lt) fun value => congrArg some (UInt16.ofNat_toNat (x := value))

instance : LawfulDeserialize Version :=
  LawfulDeserialize.ofNat (fun version => version.bits.toNat)
    (fun value => some ⟨UInt16.ofNat value⟩) (fun _ => rfl) Version.toNat_lt
    fun _ => congrArg (fun bits => some (Version.mk bits)) UInt16.ofNat_toNat

instance : LawfulDeserialize Options :=
  LawfulDeserialize.ofNat (fun options => options.bits.toNat)
    (fun value => some ⟨UInt16.ofNat value⟩) (fun _ => rfl) Options.toNat_lt
    fun _ => congrArg (fun bits => some (Options.mk bits)) UInt16.ofNat_toNat

instance : LawfulDeserialize SessionId :=
  LawfulDeserialize.ofNat (fun session => session.id.toNat)
    (fun value => some ⟨UInt64.ofNat value⟩) (fun _ => rfl) SessionId.toNat_lt
    fun _ => congrArg (fun id => some (SessionId.mk id)) UInt64.ofNat_toNat

instance : LawfulDeserialize HandshakeId :=
  LawfulDeserialize.ofNat (fun handshake => handshake.id.toNat)
    (fun value => some ⟨UInt32.ofNat value⟩) (fun _ => rfl) HandshakeId.toNat_lt
    fun _ => congrArg (fun id => some (HandshakeId.mk id)) UInt32.ofNat_toNat

instance : LawfulDeserialize BatchId :=
  LawfulDeserialize.ofNat (fun batch => batch.id.toNat)
    (fun value => some ⟨UInt16.ofNat value⟩) (fun _ => rfl) BatchId.toNat_lt
    fun _ => congrArg (fun id => some (BatchId.mk id)) UInt16.ofNat_toNat

instance : LawfulDeserialize SecondaryType :=
  LawfulDeserialize.ofNat (fun type => type.type.toNat)
    (fun value => some ⟨UInt16.ofNat value⟩) (fun _ => rfl) SecondaryType.toNat_lt
    fun _ => congrArg (fun bits => some (SecondaryType.mk bits)) UInt16.ofNat_toNat

instance : LawfulDeserialize Timestamp :=
  LawfulDeserialize.ofNat Timestamp.toNat
    (fun value => some ⟨value % 2 ^ 64, Timestamp.mod_lt value⟩) (fun _ => rfl)
    Timestamp.lt fun timestamp => congrArg some (Timestamp.ext (Nat.mod_eq_of_lt timestamp.lt))

instance : LawfulDeserialize BytePosition :=
  LawfulDeserialize.ofNat BytePosition.toNat (fun value => some (BytePosition.ofNat value))
    (fun _ => rfl) BytePosition.lt fun position => congrArg some (BytePosition.ofNat_toNat position)

instance (size : Nat) : LawfulDeserialize (Reserved size) :=
  LawfulDeserialize.ofBytes (fun _ => some {}) fun _ => rfl

instance : LawfulDeserialize PublicKey :=
  LawfulDeserialize.ofBytes
    (fun bytes => if length : bytes.length = 32 then some ⟨bytes, length⟩ else none)
    fun key => dif_pos key.length_bytes

instance : LawfulDeserialize PacketFingerprint :=
  LawfulDeserialize.ofBytes
    (fun bytes => if length : bytes.length = 16 then some ⟨bytes, length⟩ else none)
    fun fingerprint => dif_pos fingerprint.length_bytes

instance : LawfulDeserialize FecInfo :=
  LawfulDeserialize.ofBytes
    (fun bytes =>
      match bytes with
      | [batchSize, batchPos, recoveryCount] => some ⟨batchSize, batchPos, recoveryCount⟩
      | _ => none)
    fun _ => rfl

/-! ### Fields that any bytes stand for -/

theorem always_version : Parser.Always Version := by
  intro bytes long
  exact ⟨_, if_neg (Nat.not_lt.mpr long)⟩

theorem always_options : Parser.Always Options := by
  intro bytes long
  exact ⟨_, if_neg (Nat.not_lt.mpr long)⟩

theorem always_sessionId : Parser.Always SessionId := by
  intro bytes long
  exact ⟨_, if_neg (Nat.not_lt.mpr long)⟩

theorem always_handshakeId : Parser.Always HandshakeId := by
  intro bytes long
  exact ⟨_, if_neg (Nat.not_lt.mpr long)⟩

theorem always_timestamp : Parser.Always Timestamp := by
  intro bytes long
  exact ⟨_, if_neg (Nat.not_lt.mpr long)⟩

theorem always_reserved (size : Nat) : Parser.Always (Reserved size) := by
  intro bytes long
  exact ⟨_, if_neg (Nat.not_lt.mpr long)⟩

theorem always_publicKey : Parser.Always PublicKey := by
  intro bytes long
  refine ⟨_, (if_neg (Nat.not_lt.mpr long)).trans (dif_pos ?_)⟩
  rw [List.length_take]
  exact Nat.min_eq_left long

theorem always_packetFingerprint : Parser.Always PacketFingerprint := by
  intro bytes long
  refine ⟨_, (if_neg (Nat.not_lt.mpr long)).trans (dif_pos ?_)⟩
  rw [List.length_take]
  exact Nat.min_eq_left long

/-! ## Enumerations -/

def PacketType.ofRepr : Nat → Option PacketType
  | 1 => some data
  | 2 => some metadata
  | 3 => some parity
  | 4 => some ack
  | 5 => some handshakeAck
  | 7 => some host
  | 8 => some session
  | 9 => some playback
  | 10 => some error
  | 11 => some keepAlive
  | _ => none

def HostControlType.ofRepr : Nat → Option HostControlType
  | 201 => some hello
  | 202 => some handshakeReject
  | _ => none

def SessionControlType.ofRepr : Nat → Option SessionControlType
  | 1 => some retransmit
  | 2 => some trackRequest
  | 3 => some metadataRequest
  | 4 => some trackReject
  | 5 => some close
  | _ => none

def PlaybackControlType.ofRepr : Nat → Option PlaybackControlType
  | 101 => some play
  | 102 => some pause
  | 103 => some close
  | 104 => some done
  | 105 => some seek
  | _ => none

/-- The three enumerations are tried in this order. -/
def ControlType.ofRepr (value : Nat) : Option ControlType :=
  match HostControlType.ofRepr value with
  | some type => some (host type)
  | none =>
      match SessionControlType.ofRepr value with
      | some type => some (session type)
      | none => (PlaybackControlType.ofRepr value).map playback

def ErrorType.ofVariant : Nat → Option ErrorType
  | 0 => some unexpectedPacket
  | 1 => some incomprehensiblePacket
  | 2 => some sessionDoesNotExist
  | _ => none

/-- The derived `deserialize`, with the numbers that the macro makes up. -/
def ErrorType.deserialize (bytes : List UInt8) : Option ErrorType :=
  (enumSerialization .u8 variants).bind fun codec => (codec.deserialize bytes).bind ofVariant

def HandshakeRejectionReason.repr : HandshakeRejectionReason → Nat
  | app => 1
  | idCollision => 2

def HandshakeRejectionReason.ofRepr : Nat → Option HandshakeRejectionReason
  | 1 => some app
  | 2 => some idCollision
  | _ => none

theorem PacketType.ofRepr_repr (type : PacketType) : ofRepr type.repr = some type := by
  cases type <;> rfl

theorem ControlType.ofRepr_repr (type : ControlType) : ofRepr type.repr = some type := by
  rcases type with type | type | type <;> cases type <;> rfl

theorem PlaybackControlType.ofRepr_repr (type : PlaybackControlType) :
    ofRepr type.repr = some type := by
  cases type <;> rfl

theorem ErrorType.deserialize_of_length_lt {bytes : List UInt8} (short : bytes.length < 1) :
    deserialize bytes = none := by
  have empty : bytes = [] := List.length_eq_zero_iff.mp (by omega)
  rw [empty]
  decide

theorem ErrorType.deserialize_cons (byte : UInt8) (rest : List UInt8) :
    deserialize (byte :: rest) =
      if byte = 1 then some unexpectedPacket
      else if byte = 2 then some incomprehensiblePacket
      else none := by
  have tmp : Bytes.ofBeBytes ((byte :: rest).take 1) = byte.toNat := by
    simp [Bytes.ofBeBytes]
  have conditions : deserialize (byte :: rest) =
      (List.findIdx? (fun condition => decide (BitVec.ofNat 8 byte.toNat = condition))
        [1#8, 2#8, 2#8]).bind ofVariant := by
    rw [deserialize, enumSerialization_errorType, Option.bind_some, EnumSerialize.deserialize,
      if_neg (by simp [IntType.u8])]
    exact congrArg (fun value => (List.findIdx?
      (fun condition => decide (BitVec.ofNat 8 value = condition)) [1#8, 2#8, 2#8]).bind ofVariant)
      tmp
  have one : byte.toBitVec = 1#8 ↔ byte = 1 := UInt8.toBitVec_inj
  have two : byte.toBitVec = 2#8 ↔ byte = 2 := UInt8.toBitVec_inj
  rw [conditions]
  by_cases first : byte = 1
  · simp [List.findIdx?_cons, first, ofVariant]
  · by_cases second : byte = 2
    · simp [List.findIdx?_cons, second, ofVariant]
    · simp [List.findIdx?_cons, one, two, first, second]

/-- What `session_does_not_exist_error` writes is no error type. -/
theorem ErrorType.deserialize_sessionDoesNotExist (rest : List UInt8) :
    deserialize (serialize sessionDoesNotExist ++ rest) = none :=
  (deserialize_cons 3 rest).trans (by simp)

theorem ErrorType.deserialize_unexpectedPacket (rest : List UInt8) :
    deserialize (serialize unexpectedPacket ++ rest) = some unexpectedPacket :=
  (deserialize_cons 1 rest).trans (if_pos rfl)

theorem HandshakeRejectionReason.ofRepr_repr (reason : HandshakeRejectionReason) :
    ofRepr reason.repr = some reason := by
  cases reason <;> rfl

instance : Serialize HandshakeRejectionReason :=
  ofNat 1 HandshakeRejectionReason.repr (by intro reason; cases reason <;> decide)
    (by intro left right same; cases left <;> cases right <;> first | rfl | cases same)

instance : LawfulDeserialize PacketType :=
  LawfulDeserialize.ofNat PacketType.repr PacketType.ofRepr (fun _ => rfl)
    (by intro type; cases type <;> decide) PacketType.ofRepr_repr

instance : LawfulDeserialize PlaybackControlType :=
  LawfulDeserialize.ofNat PlaybackControlType.repr PlaybackControlType.ofRepr (fun _ => rfl)
    (by intro type; cases type <;> decide) PlaybackControlType.ofRepr_repr

instance : LawfulDeserialize ControlType :=
  LawfulDeserialize.ofNat ControlType.repr ControlType.ofRepr (fun _ => rfl)
    (by rintro (type | type | type) <;> cases type <;> decide) ControlType.ofRepr_repr

instance : Deserialize ErrorType where
  deserialize := ErrorType.deserialize
  sized_le := by
    intro bytes type read
    by_contra short
    rw [ErrorType.deserialize_of_length_lt (Nat.lt_of_not_le short)] at read
    cases read

theorem ErrorType.reads_field {type : ErrorType} (unexpected : type = .unexpectedPacket) :
    Parser.Reads Parser.field (serialize type) type := by
  subst unexpected
  exact Parser.reads_field_of deserialize_unexpectedPacket

instance : LawfulDeserialize HandshakeRejectionReason :=
  LawfulDeserialize.ofNat HandshakeRejectionReason.repr HandshakeRejectionReason.ofRepr
    (fun _ => rfl) (by intro reason; cases reason <;> decide) HandshakeRejectionReason.ofRepr_repr

/-! ## Fields at the end -/

/-- `Vec<u8>` -/
def deserializeBytes (bytes : List UInt8) : Except Stop (List UInt8) := .ok bytes

/-- `AppId::MAX_LENGTH` -/
def AppId.maxLength : Nat := 512

/-- `AppId::deserialize`.  A byte string that is not UTF-8 is not ASCII either.  `AppId::new`
asserts the length in debug builds. -/
def AppId.deserialize (debugAssertions : Bool) (bytes : List UInt8) : Except Stop AppId :=
  if bytes.all fun byte => byte < 128 then
    if debugAssertions && maxLength ≤ bytes.length then .error .panic else .ok ⟨bytes⟩
  else .error .error

/-- `Option<BufferId>::deserialize` -/
def deserializeBufferId (bytes : List UInt8) : Except Stop (Option BufferId) :=
  match (Deserialize.deserialize bytes : Option UInt16) with
  | none => .error .error
  | some id => .ok (if id = 0 then none else some ⟨id⟩)

def bufferIdField : Parser (Option BufferId) :=
  Parser.fieldWith deserializeBufferId fun _ => sized BufferId

theorem reads_bufferIdField {bufferId : Option BufferId} (present : bufferId ≠ some ⟨0⟩) :
    Parser.Reads bufferIdField (serializeBufferId bufferId) bufferId := by
  have read : ∀ rest, deserializeBufferId (serializeBufferId bufferId ++ rest) = .ok bufferId := by
    intro rest
    have id : (Deserialize.deserialize (serializeBufferId bufferId ++ rest) : Option UInt16) =
        some (bufferId.getD ⟨0⟩).id :=
      LawfulDeserialize.deserialize_serialize (bufferId.getD ⟨0⟩).id rest
    rw [deserializeBufferId, id]
    cases bufferId with
    | none => rfl
    | some buffer =>
        have nonzero : buffer.id ≠ 0 := fun zero => present (congrArg some (BufferId.ext zero))
        simp only [Option.getD_some, if_neg nonzero]
  intro front rest
  have inside : ¬ (front ++ (serializeBufferId bufferId ++ rest)).length < front.length := by
    rw [List.length_append]
    omega
  rw [bufferIdField, Parser.fieldWith, if_neg inside, List.drop_left, read]
  simp only [Except.map, List.length_append, serializeBufferId, length_serialize]

theorem total_bufferIdField : Parser.Total bufferIdField := by
  apply Parser.total_fieldWith
  · intro bytes stopped
    rw [deserializeBufferId] at stopped
    split at stopped <;> cases stopped
  · intro bytes value read
    rw [deserializeBufferId] at read
    split at read
    · cases read
    · rename_i id found
      exact Deserialize.sized_le bytes id found

/-! ## Byte ranges -/

/-- The derived `ByteRange::deserialize`. -/
def ByteRange.parser : Parser ByteRange := do
  let start ← Parser.field
  let length ← Parser.field
  return ⟨start, length⟩

def ByteRange.serialize (self : ByteRange) : List UInt8 :=
  Serialize.serialize self.start ++ Serialize.serialize self.length

/-- `Vec<ByteRange>::serialize` -/
def serializeByteRanges (ranges : List ByteRange) : List UInt8 := ranges.flatMap ByteRange.serialize

/-- `Vec<ByteRange>::deserialize`: the pieces of the size of a range, without a shorter last
one. -/
def deserializeByteRanges (bytes : List UInt8) : Except Stop (List ByteRange) :=
  if bytes.length < ByteRange.elemSize then .error .error
  else ((sliceChunks ByteRange.elemSize bytes).filter fun chunk =>
    chunk.length = ByteRange.elemSize).mapM ByteRange.parser.parse

theorem sliceChunks_nil {Item : Type} {size : Nat} (positive : 0 < size) :
    sliceChunks size ([] : List Item) = [] := by
  have none : ((([] : List Item).length + size - 1) / size) = 0 := by
    rw [List.length_nil]
    exact Nat.div_eq_of_lt (by omega)
  rw [sliceChunks, none]
  rfl

theorem sliceChunks_append {Item : Type} {size : Nat} {first : List Item} (rest : List Item)
    (positive : 0 < size) (whole : first.length = size) :
    sliceChunks size (first ++ rest) = first :: sliceChunks size rest := by
  have count : ((first ++ rest).length + size - 1) / size =
      (rest.length + size - 1) / size + 1 := by
    have more : (first ++ rest).length + size - 1 = rest.length + size - 1 + size := by
      rw [List.length_append]
      omega
    rw [more, Nat.add_div_right _ positive]
  rw [sliceChunks, count, List.range_succ_eq_map, List.map_cons, List.map_map]
  congr 1
  · rw [Nat.zero_mul, List.drop_zero, List.take_left' whole]
  · rw [sliceChunks]
    apply List.map_congr_left
    intro index _
    have start : (index + 1) * size = first.length + index * size := by
      rw [whole]
      ring
    rw [Function.comp, Nat.succ_eq_add_one, start, List.drop_append,
      List.drop_eq_nil_of_le (Nat.le_add_right _ _), List.nil_append, Nat.add_sub_cancel_left]

theorem flatten_sliceChunks {Item : Type} {size : Nat} (positive : 0 < size) (items : List Item) :
    (sliceChunks size items).flatten = items := by
  induction length : items.length using Nat.strong_induction_on generalizing items with
  | _ count ih =>
      by_cases short : items.length ≤ size
      · cases items with
        | nil => rw [sliceChunks_nil positive, List.flatten_nil]
        | cons first rest =>
            have one : ((first :: rest).length + size - 1) / size = 1 := by
              rw [List.length_cons] at short ⊢
              exact Nat.div_eq_of_lt_le (by omega) (by omega)
            rw [sliceChunks, one, List.range_one, List.map_singleton, List.flatten_singleton,
              Nat.zero_mul, List.drop_zero, List.take_of_length_le short]
      · have split : items = items.take size ++ items.drop size :=
          (List.take_append_drop size items).symm
        have whole : (items.take size).length = size := by
          rw [List.length_take]
          omega
        have shorter : (items.drop size).length < count := by
          rw [List.length_drop]
          omega
        rw [split, sliceChunks_append _ positive whole, List.flatten_cons, ih _ shorter _ rfl]

theorem ByteRange.length_serialize (range : ByteRange) : range.serialize.length = elemSize := by
  rw [serialize, List.length_append, Serialize.length_serialize, Serialize.length_serialize]
  rfl

theorem ByteRange.reads_parser (range : ByteRange) :
    Parser.Reads parser range.serialize range := by
  apply Parser.Reads.bind (Parser.reads_field range.start)
  exact (Parser.reads_field range.length).bind_pure

theorem sliceChunks_serializeByteRanges (ranges : List ByteRange) :
    sliceChunks ByteRange.elemSize (serializeByteRanges ranges) =
      ranges.map ByteRange.serialize := by
  induction ranges with
  | nil => exact sliceChunks_nil (by decide)
  | cons range rest ih =>
      rw [serializeByteRanges, List.flatMap_cons,
        sliceChunks_append _ (by decide) range.length_serialize, List.map_cons]
      exact congrArg _ ih

theorem length_serializeByteRanges (ranges : List ByteRange) :
    (serializeByteRanges ranges).length = ranges.length * ByteRange.elemSize := by
  induction ranges with
  | nil => rfl
  | cons range rest ih =>
      rw [serializeByteRanges, List.flatMap_cons, List.length_append, range.length_serialize,
        List.length_cons]
      rw [serializeByteRanges] at ih
      rw [ih]
      ring

theorem deserialize_serializeByteRanges {ranges : List ByteRange} (nonempty : ranges ≠ []) :
    deserializeByteRanges (serializeByteRanges ranges) = .ok ranges := by
  have long : ¬ (serializeByteRanges ranges).length < ByteRange.elemSize := by
    have positive := List.length_pos_of_ne_nil nonempty
    rw [length_serializeByteRanges]
    simp only [ByteRange.elemSize]
    omega
  have pieces : ((sliceChunks ByteRange.elemSize (serializeByteRanges ranges)).filter fun chunk =>
      chunk.length = ByteRange.elemSize) = ranges.map ByteRange.serialize := by
    rw [sliceChunks_serializeByteRanges, List.filter_eq_self]
    intro chunk listed
    obtain ⟨range, _, rfl⟩ := List.mem_map.mp listed
    exact decide_eq_true range.length_serialize
  rw [deserializeByteRanges, if_neg long, pieces]
  clear long pieces nonempty
  induction ranges with
  | nil => rfl
  | cons range rest ih =>
      have first := range.reads_parser.parse []
      rw [List.append_nil] at first
      rw [List.map_cons, List.mapM_cons, first, ih]
      rfl

end Ubass

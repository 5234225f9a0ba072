import Ubass.Fec.Xor

/-!
# The Reed-Solomon erasure code

`packet_processor/fec/reed_solomon.rs`.  The codec itself is the crate
`reed_solomon_simd`, a parameter here: an encoder that takes the originals in the order in which
they are added, and a decoder that takes shards under their index and restores the originals it
was not given as soon as it has as many distinct shards as there are originals.  The calls are
taken one after the other, so a batch behind an `Arc<Mutex<_>>` is the batch itself.  A call that
panics has no result.
-/

set_option autoImplicit false

namespace Ubass

/-- `TryFrom<&[u8]> for RecoverdPacket`, for a slice of the size of a block. -/
def RecoverdPacket.fromShard (value : FecData) : RecoverdPacket where
  byteRangeStart := BytePosition.ofNat (Bytes.ofBeBytes (value.bytes.take 4))
  payload := Bytes.slice value.bytes 4 (4 + maxPayloadLength)

namespace ReedSolomon

/-! ## The crate -/

/-- What the program calls of the crate.  A call on `&mut self` answers with what it leaves. -/
structure Simd where
  Error : Type
  Encoder : Type
  Decoder : Type
  isDuplicateOriginalShardIndex : Error → Bool
  newEncoder (originalCount recoveryCount shardBytes : Nat) : Except Error Encoder
  addOriginal : Encoder → FecData → Encoder × Except Error Unit
  encode : Encoder → Except Error (List FecData)
  newDecoder (originalCount recoveryCount shardBytes : Nat) : Except Error Decoder
  addOriginalShard : Decoder → Nat → FecData → Decoder × Except Error Unit
  addRecoveryShard : Decoder → Nat → FecData → Decoder × Except Error Unit
  /-- With what `restored_original_iter` yields. -/
  decode : Decoder → Except Error (List (Nat × FecData))

/-- How many of the indices below `count` have a shard. -/
def shardCount (shards : Nat → Option FecData) (count : Nat) : Nat :=
  ((List.range count).filter fun index => (shards index).isSome).length

namespace Simd

variable (simd : Simd) (originalCount recoveryCount : Nat)

/-- An encoder to which these originals were added, in this order. -/
inductive Encoding : List FecData → simd.Encoder → Prop
  | new {encoder : simd.Encoder}
      (made : simd.newEncoder originalCount recoveryCount fecDataSize = .ok encoder) :
      Encoding [] encoder
  | add {blocks : List FecData} {encoder next : simd.Encoder} {shard : FecData}
      (encoding : Encoding blocks encoder)
      (added : simd.addOriginal encoder shard = (next, .ok ())) :
      Encoding (blocks ++ [shard]) next

/-- A decoder to which these originals and these recovery shards were added. -/
inductive Decoding : (Nat → Option FecData) → (Nat → Option FecData) → simd.Decoder → Prop
  | new {decoder : simd.Decoder}
      (made : simd.newDecoder originalCount recoveryCount fecDataSize = .ok decoder) :
      Decoding (fun _ => none) (fun _ => none) decoder
  | original {originals recovery : Nat → Option FecData} {decoder next : simd.Decoder}
      {index : Nat} {shard : FecData} (decoding : Decoding originals recovery decoder)
      (added : simd.addOriginalShard decoder index shard = (next, .ok ())) :
      Decoding (Function.update originals index (some shard)) recovery next
  | recovery {originals recovery : Nat → Option FecData} {decoder next : simd.Decoder}
      {index : Nat} {shard : FecData} (decoding : Decoding originals recovery decoder)
      (added : simd.addRecoveryShard decoder index shard = (next, .ok ())) :
      Decoding originals (Function.update recovery index (some shard)) next

/-- What the crate documents for these counts of originals and recovery shards. -/
structure Documented : Prop where
  newEncoder : ∃ encoder, simd.newEncoder originalCount recoveryCount fecDataSize = .ok encoder
  addOriginal : ∀ blocks encoder shard,
    simd.Encoding originalCount recoveryCount blocks encoder → blocks.length < originalCount →
      ∃ next, simd.addOriginal encoder shard = (next, .ok ())
  encode : ∀ blocks encoder, simd.Encoding originalCount recoveryCount blocks encoder →
    blocks.length = originalCount →
      ∃ shards, simd.encode encoder = .ok shards ∧ shards.length = recoveryCount
  newDecoder : ∃ decoder, simd.newDecoder originalCount recoveryCount fecDataSize = .ok decoder
  addOriginalShard : ∀ originals recovery decoder index shard,
    simd.Decoding originalCount recoveryCount originals recovery decoder →
      index < originalCount → originals index = none →
        ∃ next, simd.addOriginalShard decoder index shard = (next, .ok ())
  addRecoveryShard : ∀ originals recovery decoder index shard,
    simd.Decoding originalCount recoveryCount originals recovery decoder →
      index < recoveryCount → recovery index = none →
        ∃ next, simd.addRecoveryShard decoder index shard = (next, .ok ())
  /-- Only an index that was added before is a duplicate. -/
  duplicate : ∀ originals recovery decoder index shard next error,
    simd.Decoding originalCount recoveryCount originals recovery decoder →
      simd.addOriginalShard decoder index shard = (next, .error error) →
        simd.isDuplicateOriginalShardIndex error = true → originals index ≠ none
  /-- A recovery shard has other errors. -/
  notOriginal : ∀ decoder index shard next error,
    simd.addRecoveryShard decoder index shard = (next, .error error) →
      simd.isDuplicateOriginalShardIndex error = false
  decode : ∀ blocks encoder shards originals recovery decoder,
    simd.Encoding originalCount recoveryCount blocks encoder → blocks.length = originalCount →
    simd.encode encoder = .ok shards →
    simd.Decoding originalCount recoveryCount originals recovery decoder →
    (∀ index shard, originals index = some shard → blocks[index]? = some shard) →
    (∀ index shard, recovery index = some shard → shards[index]? = some shard) →
    originalCount ≤ shardCount originals originalCount + shardCount recovery recoveryCount →
      simd.decode decoder = .ok ((List.range originalCount).filterMap fun index =>
        if (originals index).isSome then none
        else blocks[index]?.map fun block => (index, block))

end Simd

/-! ## The batches -/

/-- `+= 1` on a `u8`, which overflows with a panic in debug builds. -/
def increment (debugAssertions : Bool) (count : UInt8) : Option UInt8 :=
  if debugAssertions ∧ count.toNat = 255 then none else some (count + 1)

structure InboundBatchData (simd : Simd) where
  decoder : simd.Decoder
  batchSize : UInt8
  recoveryCount : UInt8
  receivedCount : UInt8
  batchMask : BatchMask
  createdAt : Timestamp
  baseBytePos : Option BytePosition
  isContiguous : Bool

namespace InboundBatchData

variable {simd : Simd}

/-- `From<&FECPacket> for Arc<Mutex<InboundBatchData>>` -/
def fromFecPacket (simd : Simd) (value : FecPacket) (now : Timestamp) :
    Option (InboundBatchData simd) :=
  (simd.newDecoder value.fecInfo.batchSize.toNat value.fecInfo.recoveryCount.toNat
    fecDataSize).toOption.map fun decoder =>
      { decoder := decoder
        batchSize := value.fecInfo.batchSize
        recoveryCount := value.fecInfo.recoveryCount
        receivedCount := 0
        batchMask := BatchMask.empty
        createdAt := now
        baseBytePos := none
        isContiguous := true }

/-- An error `DuplicateOriginalShardIndex`, which is the only one that is looked at. -/
def isDuplicate (answer : Except simd.Error Unit) : Bool :=
  match answer with
  | .error error => simd.isDuplicateOriginalShardIndex error
  | .ok () => false

/-- The branch of `received` for a parity packet. -/
def addParity (debugAssertions : Bool) (self : InboundBatchData simd) (packet : FecPacket) :
    Option (InboundBatchData simd × Bool) :=
  let (decoder, answer) :=
    simd.addRecoveryShard self.decoder packet.fecInfo.batchPos.toNat packet.data
  if isDuplicate answer then some ({ self with decoder := decoder }, false)
  else (increment debugAssertions self.recoveryCount).map fun recoveryCount =>
    ({ self with decoder := decoder, recoveryCount := recoveryCount }, true)

def note (self : InboundBatchData simd) (packet : FecPacket) : InboundBatchData simd :=
  let base := Ubass.InboundBatchData.derivedBase packet
  { self with
    baseBytePos := some (self.baseBytePos.getD base)
    isContiguous :=
      match self.baseBytePos with
      | none => self.isContiguous
      | some existing => if existing ≠ base then false else self.isContiguous
    batchMask := self.batchMask.set packet.fecInfo.batchPos }

/-- The branch of `received` for a data packet. -/
def addData (debugAssertions : Bool) (self : InboundBatchData simd) (packet : FecPacket) :
    Option (InboundBatchData simd × Bool) :=
  let noted := self.note packet
  let (decoder, answer) :=
    simd.addOriginalShard noted.decoder packet.fecInfo.batchPos.toNat packet.data
  if isDuplicate answer then some ({ noted with decoder := decoder }, false)
  else (increment debugAssertions noted.receivedCount).map fun receivedCount =>
    ({ noted with decoder := decoder, receivedCount := receivedCount }, true)

end InboundBatchData

structure OutboundBatchData (simd : Simd) where
  encoder : simd.Encoder
  batchSize : UInt8
  recoveryCount : UInt8
  receivedCount : UInt8

namespace OutboundBatchData

/-- `From<&FECPacket> for Arc<Mutex<OutboundBatchData>>` -/
def fromFecPacket (simd : Simd) (value : FecPacket) : Option (OutboundBatchData simd) :=
  (simd.newEncoder value.fecInfo.batchSize.toNat value.fecInfo.recoveryCount.toNat
    fecDataSize).toOption.map fun encoder =>
      { encoder := encoder
        batchSize := value.fecInfo.batchSize
        recoveryCount := value.fecInfo.recoveryCount
        receivedCount := 0 }

/-- The part of `sent` before the batch is looked at; what `add_original_shard` answers is not
used. -/
def add {simd : Simd} (debugAssertions : Bool) (self : OutboundBatchData simd)
    (packet : FecPacket) : Option (OutboundBatchData simd) :=
  (increment debugAssertions self.receivedCount).map fun receivedCount =>
    { self with
      encoder := (simd.addOriginal self.encoder packet.data).1
      receivedCount := receivedCount }

end OutboundBatchData

structure RS (simd : Simd) where
  inbound : Table MapKey (InboundBatchData simd)
  outbound : Table MapKey (OutboundBatchData simd)

namespace RS

variable {simd : Simd}

def new : RS simd := ⟨Table.empty, Table.empty⟩

/-- `From<(u8, &FECPacket, &[u8])> for ParityPacket` -/
def parityPacket (debugAssertions : Bool) (index : UInt8) (packet : FecPacket) (payload : FecData)
    (now : Timestamp) : Option ParityPacket :=
  if debugAssertions ∧
      FecInfo.newPanics packet.fecInfo.batchSize index packet.fecInfo.recoveryCount = true then none
  else some (ParityPacket.new (Options.construct []) packet.batchId
    (FecInfo.new packet.fecInfo.batchSize index packet.fecInfo.recoveryCount) packet.sessionId
    payload.bytes now)

/-- The parity packets of the recovery shards, unless one of them panics. -/
def parityPackets (debugAssertions : Bool) (packet : FecPacket) (clock : Nat → Timestamp)
    (recovery : List FecData) : Option (List ParityPacket) :=
  recovery.zipIdx.mapM fun shard =>
    parityPacket debugAssertions (UInt8.ofNat shard.2) packet shard.1 (clock shard.2)

/-- `sent`.  The new batch is made whether it is needed or not. -/
def sent (debugAssertions : Bool) (self : RS simd) (packet : FecPacket)
    (clock : Nat → Timestamp) : Option (RS simd × List ParityPacket) :=
  (OutboundBatchData.fromFecPacket simd packet).bind fun made =>
    (((self.outbound.get packet.key).getD made).add debugAssertions packet).bind fun batch =>
      if batch.batchSize ≤ batch.receivedCount then
        (simd.encode batch.encoder).toOption.bind fun recovery =>
          (parityPackets debugAssertions packet clock recovery).map fun parities =>
            ({ self with outbound := self.outbound.remove packet.key }, parities)
      else some ({ self with outbound := self.outbound.insert packet.key batch }, [])

def received (debugAssertions : Bool) (self : RS simd) (packet : FecPacket) (now : Timestamp) :
    Option (RS simd × Bool) :=
  (InboundBatchData.fromFecPacket simd packet now).bind fun made =>
    let batch := (self.inbound.get packet.key).getD made
    (if packet.isParity then batch.addParity debugAssertions packet
      else batch.addData debugAssertions packet).map fun (next, ready) =>
        ({ self with inbound := self.inbound.insert packet.key next }, ready)

def recover (self : RS simd) (batchId : BatchId) (sessionId : SessionId) :
    RS simd × Option (List RecoverdPacket) :=
  match self.inbound.get (batchId, sessionId) with
  | none => (self, none)
  | some batch =>
      ({ self with inbound := self.inbound.remove (batchId, sessionId) },
        (simd.decode batch.decoder).toOption.map fun restored =>
          restored.map fun data => RecoverdPacket.fromShard data.2)

/-- What the handlers do with a packet: a batch that `received` calls ready is recovered. -/
def handle (debugAssertions : Bool) (self : RS simd) (packet : FecPacket) (now : Timestamp) :
    Option (RS simd × Bool × Option (List RecoverdPacket)) :=
  (self.received debugAssertions packet now).map fun (next, ready) =>
    if ready then
      let (rest, recovered) := next.recover packet.batchId packet.sessionId
      (rest, true, recovered)
    else (next, false, none)

def handleAll (debugAssertions : Bool) (self : RS simd) (arrivals : List (FecPacket × Timestamp)) :
    Option (RS simd) :=
  arrivals.foldlM (fun state arrival =>
    (state.handle debugAssertions arrival.1 arrival.2).map Prod.fst) self

def Keeps (self : RS simd) (packet : FecPacket) : Prop :=
  ∃ batch originals recovery, self.inbound.get packet.key = some batch ∧
    simd.Decoding packet.fecInfo.batchSize.toNat packet.fecInfo.recoveryCount.toNat originals
      recovery batch.decoder ∧
    (if packet.isParity then recovery else originals) packet.fecInfo.batchPos.toNat =
      some packet.data

end RS

/-! ## A batch -/

structure Batch where
  batchId : BatchId
  sessionId : SessionId
  size : UInt8
  positive : 0 < size.toNat
  recoveryCount : UInt8
  recoverable : 0 < recoveryCount.toNat
  position : Nat → BytePosition
  payload : Nat → List UInt8
  fits : ∀ index, (payload index).length ≤ maxPayloadLength
  sentAt : Timestamp

namespace Batch

variable (simd : Simd) (debugAssertions : Bool) (batch : Batch)

def key : MapKey := (batch.batchId, batch.sessionId)

def data (index : Nat) : DataPacket :=
  DataPacket.new Options.none batch.batchId
    ⟨batch.size, UInt8.ofNat index, batch.recoveryCount⟩ batch.sessionId (batch.position index)
    (batch.payload index) batch.sentAt

/-- The packet that `received` gets for a data packet. -/
def dataPacket (index : Nat) : Option FecPacket :=
  FecPacket.fromDataPacket debugAssertions (batch.data index)

/-- `sent` on the data packets in this order, with the parity packets it answered. -/
def sentAll (order : List Nat) (clock : Nat → Timestamp) : Option (RS simd × List ParityPacket) :=
  (order.filterMap (batch.dataPacket debugAssertions)).foldlM
    (fun before packet =>
      (before.1.sent debugAssertions packet clock).map fun after =>
        (after.1, before.2 ++ after.2))
    (RS.new, [])

def packets (order : List Nat) (clock : Nat → Timestamp) : List FecPacket :=
  (List.range batch.size.toNat).filterMap (batch.dataPacket debugAssertions) ++
    ((batch.sentAll simd debugAssertions order clock).map fun sent =>
      sent.2.map FecPacket.fromParityPacket).getD []

end Batch

def shard (packet : FecPacket) : Bool × UInt8 := (packet.isParity, packet.fecInfo.batchPos)

def distinctShards (arrivals : List (FecPacket × Timestamp)) : Nat :=
  (arrivals.map fun arrival => shard arrival.1).toFinset.card

/-- After these packets this one is handled with this answer of `received`, and of `recover`. -/
def Answers (simd : Simd) (debugAssertions : Bool) (before : List (FecPacket × Timestamp))
    (arrival : FecPacket × Timestamp) (ready : Bool) (recovered : Option (List RecoverdPacket)) :
    Prop :=
  ∃ state next : RS simd, RS.new.handleAll debugAssertions before = some state ∧
    state.handle debugAssertions arrival.1 arrival.2 = some (next, ready, recovered)

/-- No call panics, a batch is called ready only when it can be decoded, its shards are kept until
then, and every data packet that has not arrived by then is recovered. -/
structure Recovers (simd : Simd) (debugAssertions : Bool) (batch : Batch) (order : List Nat)
    (clock : Nat → Timestamp) (arrivals : List (FecPacket × Timestamp)) : Prop where
  sent : (batch.sentAll simd debugAssertions order clock).isSome = true
  handled : ((RS.new : RS simd).handleAll debugAssertions arrivals).isSome = true
  ready : ∀ before arrival after recovered, arrivals = before ++ arrival :: after →
    Answers simd debugAssertions before arrival true recovered →
      batch.size.toNat ≤ distinctShards (before ++ [arrival])
  kept : ∀ before after (state : RS simd), arrivals = before ++ after →
    RS.new.handleAll debugAssertions before = some state →
      distinctShards before < batch.size.toNat → ∀ arrival ∈ before, state.Keeps arrival.1
  recovered : ∀ before arrival after recovered, arrivals = before ++ arrival :: after →
    Answers simd debugAssertions before arrival true recovered →
      ∀ index < batch.size.toNat,
        (∀ other ∈ before ++ [arrival], batch.dataPacket debugAssertions index ≠ some other.1) →
        ∃ restored, recovered = some restored ∧
          ⟨batch.position index, batch.payload index⟩ ∈ restored
  answered : ∃ before arrival after recovered, arrivals = before ++ arrival :: after ∧
    Answers simd debugAssertions before arrival true recovered

/-! ## A call on a new batch -/

section

variable {simd : Simd} {debugAssertions : Bool}

theorem shardCount_pos {shards : Nat → Option FecData} {count index : Nat} {shard : FecData}
    (inside : index < count) (here : shards index = some shard) : 0 < shardCount shards count := by
  apply List.length_pos_of_mem (a := index)
  rw [List.mem_filter]
  exact ⟨List.mem_range.mpr inside, by rw [here]; rfl⟩

theorem isDuplicate_of_new {originalCount recoveryCount : Nat} {decoder : simd.Decoder}
    (documented : simd.Documented originalCount recoveryCount)
    (made : simd.newDecoder originalCount recoveryCount fecDataSize = .ok decoder) (index : Nat)
    (shard : FecData) :
    InboundBatchData.isDuplicate (simd.addOriginalShard decoder index shard).2 = false := by
  rcases added : simd.addOriginalShard decoder index shard with ⟨next, error | ⟨⟩⟩
  · rw [InboundBatchData.isDuplicate, Bool.eq_false_iff]
    intro duplicate
    exact documented.duplicate _ _ _ _ _ _ _ (.new made) added duplicate rfl
  · rfl

theorem not_isDuplicate_recovery {originalCount recoveryCount : Nat}
    (documented : simd.Documented originalCount recoveryCount) (decoder : simd.Decoder)
    (index : Nat) (shard : FecData) :
    InboundBatchData.isDuplicate (simd.addRecoveryShard decoder index shard).2 = false := by
  rcases added : simd.addRecoveryShard decoder index shard with ⟨next, error | ⟨⟩⟩
  · exact documented.notOriginal _ _ _ _ _ added
  · rfl

/-- Whatever the first packet of a batch is, `received` calls the batch ready. -/
theorem received_fresh {state next : RS simd} {packet : FecPacket} {now : Timestamp}
    {ready : Bool}
    (documented : simd.Documented packet.fecInfo.batchSize.toNat
      packet.fecInfo.recoveryCount.toNat)
    (fresh : state.inbound.get packet.key = none)
    (received : state.received debugAssertions packet now = some (next, ready)) :
    ready = true := by
  obtain ⟨decoder, made⟩ := documented.newDecoder
  rw [RS.received, InboundBatchData.fromFecPacket, made] at received
  simp only [Except.toOption, Option.map_some, Option.bind_some, fresh, Option.getD_none]
    at received
  by_cases parity : packet.isParity = true
  · rw [if_pos parity, InboundBatchData.addParity] at received
    simp only [not_isDuplicate_recovery documented, Bool.false_eq_true, if_false,
      Option.map_map] at received
    obtain ⟨_, _, same⟩ := Option.map_eq_some_iff.mp received
    exact (Prod.mk.inj same).2.symm
  · rw [if_neg parity, InboundBatchData.addData] at received
    simp only [InboundBatchData.note, isDuplicate_of_new documented made, Bool.false_eq_true,
      if_false, Option.map_map] at received
    obtain ⟨_, _, same⟩ := Option.map_eq_some_iff.mp received
    exact (Prod.mk.inj same).2.symm

theorem recover_removes (state : RS simd) (batchId : BatchId) (sessionId : SessionId) :
    (state.recover batchId sessionId).1.inbound.get (batchId, sessionId) = none := by
  rw [RS.recover]
  cases found : state.inbound.get (batchId, sessionId) with
  | none => exact found
  | some batch => exact Table.get_remove_self _ _

theorem handle_fresh {state next : RS simd} {packet : FecPacket} {now : Timestamp} {ready : Bool}
    {recovered : Option (List RecoverdPacket)}
    (documented : simd.Documented packet.fecInfo.batchSize.toNat
      packet.fecInfo.recoveryCount.toNat)
    (fresh : state.inbound.get packet.key = none)
    (handled : state.handle debugAssertions packet now = some (next, ready, recovered)) :
    ready = true ∧ next.inbound.get packet.key = none := by
  obtain ⟨⟨after, answer⟩, received, same⟩ := Option.map_eq_some_iff.mp handled
  cases received_fresh documented fresh received
  simp only [if_true, Prod.mk.injEq] at same
  obtain ⟨rfl, rfl, _⟩ := same
  exact ⟨rfl, recover_removes _ _ _⟩

end

theorem mem_of_mapM {Item Value : Type} {read : Item → Option Value} {items : List Item}
    {values : List Value} (all : items.mapM read = some values) {value : Value}
    (listed : value ∈ values) : ∃ item ∈ items, read item = some value := by
  induction items generalizing values with
  | nil =>
      cases Option.some.inj all
      cases listed
  | cons item rest ih =>
      rw [List.mapM_cons] at all
      obtain ⟨first, here, later⟩ := Option.bind_eq_some_iff.mp all
      obtain ⟨others, there, same⟩ := Option.bind_eq_some_iff.mp later
      cases Option.some.inj same
      rcases List.mem_cons.mp listed with rfl | further
      · exact ⟨item, List.mem_cons_self, here⟩
      · obtain ⟨other, otherListed, found⟩ := ih there further
        exact ⟨other, List.mem_cons_of_mem _ otherListed, found⟩

theorem mapM_eq_map {Item Value : Type} {read : Item → Option Value} {value : Item → Value}
    {items : List Item} (all : ∀ item ∈ items, read item = some (value item)) :
    items.mapM read = some (items.map value) := by
  induction items with
  | nil => rfl
  | cons item rest ih =>
      rw [List.mapM_cons, all item List.mem_cons_self,
        ih fun other listed => all other (List.mem_cons_of_mem _ listed)]
      rfl

/-! ## A batch of one packet -/

namespace Batch

variable {simd : Simd} {batch : Batch} {debugAssertions : Bool}

theorem dataPacket_eq (batch : Batch) (debugAssertions : Bool) (index : Nat) :
    ∃ block, FecData.fromDataPacket debugAssertions (batch.data index) = some block ∧
      batch.dataPacket debugAssertions index = some ⟨false, batch.sessionId, batch.batchId,
        ⟨batch.size, UInt8.ofNat index, batch.recoveryCount⟩, block⟩ := by
  obtain ⟨block, made⟩ : ∃ block,
      FecData.fromDataPacket debugAssertions (batch.data index) = some block := by
    cases debugAssertions with
    | true =>
        have fits : (batch.data index).payload.length ≤ maxPayloadLength := batch.fits index
        obtain ⟨block, made, _⟩ := FecData.fromDataPacket_eq fits
        exact ⟨block, made⟩
    | false => exact ⟨_, rfl⟩
  refine ⟨block, made, ?_⟩
  rw [dataPacket, FecPacket.fromDataPacket, made]
  rfl

/-- What a block says about its chunk to the recovery: the payload is padded, and without debug
assertions it was never written. -/
theorem fromShard_eq {index : Nat} {block : FecData}
    (made : FecData.fromDataPacket debugAssertions (batch.data index) = some block) :
    RecoverdPacket.fromShard block = ⟨batch.position index,
      (if debugAssertions then batch.payload index else []) ++
        List.replicate (maxPayloadLength -
          (if debugAssertions then batch.payload index else []).length) 0⟩ := by
  have small := batch.fits index
  have bytes : block.bytes = Bytes.beBytes 4 (batch.position index).toNat ++
      (((if debugAssertions then batch.payload index else []) ++ List.replicate (maxPayloadLength -
        (if debugAssertions then batch.payload index else []).length) 0) ++
          Bytes.beBytes 2 (batch.payload index).length) := by
    cases debugAssertions with
    | true =>
        have fits : (batch.data index).payload.length ≤ maxPayloadLength := small
        obtain ⟨other, same, layout⟩ := FecData.fromDataPacket_eq fits
        cases same.symm.trans made
        rw [layout, FecData.layout]
        simp only [if_true, List.append_assoc]
        rfl
    | false =>
        have zeros : List.replicate fecDataSize (0 : UInt8) =
            [] ++ (List.replicate 4 0 ++ List.replicate (maxPayloadLength + 2) 0) := by
          rw [List.nil_append, List.replicate_append_replicate]
          rfl
        have rest : List.replicate (maxPayloadLength + 2) (0 : UInt8) =
            List.replicate maxPayloadLength 0 ++ (List.replicate 2 0 ++ []) := by
          rw [List.append_nil, List.replicate_append_replicate]
        have positioned : (FecData.serializeInto (List.replicate fecDataSize 0) 0
            (Bytes.beBytes 4 (batch.position index).toNat)).1 =
              (Bytes.beBytes 4 (batch.position index).toNat ++
                List.replicate maxPayloadLength 0) ++ (List.replicate 2 0 ++ []) := by
          rw [zeros, FecData.serializeInto_append List.length_nil (by simp), List.nil_append, rest,
            List.append_assoc]
        have length : (FecData.serializeInto
            ((Bytes.beBytes 4 (batch.position index).toNat ++ List.replicate maxPayloadLength 0) ++
              (List.replicate 2 0 ++ [])) (fecDataSize - 2)
              (Bytes.beBytes 2 (batch.payload index).length)).1 =
                (Bytes.beBytes 4 (batch.position index).toNat ++
                  List.replicate maxPayloadLength 0) ++
                    (Bytes.beBytes 2 (batch.payload index).length ++ []) := by
          rw [FecData.serializeInto_append _ (by simp)]
          rw [List.length_append, Bytes.length_beBytes, List.length_replicate]
          rfl
        have written : block.bytes = (FecData.serializeInto (FecData.serializeInto
            (List.replicate fecDataSize 0) 0 (Bytes.beBytes 4 (batch.position index).toNat)).1
              (fecDataSize - 2) (Bytes.beBytes 2 (batch.payload index).length)).1 := by
          simp only [FecData.fromDataPacket, Bool.false_and, Bool.false_eq_true, if_false,
            Option.some.injEq, data, DataPacket.new] at made
          rw [← made]
        rw [written, positioned, length]
        simp only [Bool.false_eq_true, if_false, List.nil_append, List.append_nil, List.length_nil,
          Nat.sub_zero, List.append_assoc]
  have padded : ((if debugAssertions then batch.payload index else []) ++
      List.replicate (maxPayloadLength -
        (if debugAssertions then batch.payload index else []).length) (0 : UInt8)).length =
          maxPayloadLength := by
    rw [List.length_append, List.length_replicate]
    split
    · omega
    · rfl
  rw [RecoverdPacket.fromShard, Bytes.slice, bytes, List.take_left' (Bytes.length_beBytes _ _),
    List.drop_left' (Bytes.length_beBytes _ _), Nat.add_sub_cancel_left, List.take_left' padded,
    Bytes.ofBeBytes_beBytes (batch.position index).lt, BytePosition.ofNat_toNat]

/-- The payload of the first packet survives a recovery: it fills its block, and it was written
there, which only a build with debug assertions does. -/
def Restorable (batch : Batch) (debugAssertions : Bool) : Prop :=
  (batch.payload 0).length = maxPayloadLength ∧
    (debugAssertions = true ∨ batch.payload 0 = List.replicate maxPayloadLength 0)

theorem fromShard_iff {block : FecData}
    (made : FecData.fromDataPacket debugAssertions (batch.data 0) = some block) :
    (⟨batch.position 0, batch.payload 0⟩ : RecoverdPacket) ∈ [RecoverdPacket.fromShard block] ↔
      batch.Restorable debugAssertions := by
  rw [List.mem_singleton, fromShard_eq made, RecoverdPacket.mk.injEq, Restorable]
  have small := batch.fits 0
  cases debugAssertions with
  | true =>
      simp only [true_and, if_true, true_or, and_true]
      constructor
      · intro same
        have lengths := congrArg List.length same
        rw [List.length_append, List.length_replicate] at lengths
        omega
      · intro full
        rw [full, Nat.sub_self, List.replicate_zero, List.append_nil]
  | false =>
      simp only [true_and, Bool.false_eq_true, if_false, List.nil_append, List.length_nil,
        Nat.sub_zero, false_or]
      constructor
      · intro zeros
        refine ⟨?_, zeros⟩
        rw [zeros, List.length_replicate]
      · intro both
        exact both.2

/-! ## What arrives -/

/-- What every packet of the batch has in common. -/
structure Owns (batch : Batch) (packet : FecPacket) : Prop where
  key : packet.key = batch.key
  batchSize : packet.fecInfo.batchSize = batch.size
  recoveryCount : packet.fecInfo.recoveryCount = batch.recoveryCount

theorem owns_dataPacket {packet : FecPacket} {index : Nat}
    (made : batch.dataPacket debugAssertions index = some packet) : batch.Owns packet := by
  obtain ⟨block, _, same⟩ := batch.dataPacket_eq debugAssertions index
  cases made.symm.trans same
  exact ⟨rfl, rfl, rfl⟩

theorem mem_parityPackets {packet : FecPacket} {clock : Nat → Timestamp} {recovery : List FecData}
    {parities : List ParityPacket}
    (made : RS.parityPackets debugAssertions packet clock recovery = some parities)
    {parity : ParityPacket} (listed : parity ∈ parities) :
    ∃ index payload, recovery[index]? = some payload ∧
      parity = ParityPacket.new (Options.construct []) packet.batchId
        (FecInfo.new packet.fecInfo.batchSize (UInt8.ofNat index) packet.fecInfo.recoveryCount)
        packet.sessionId payload.bytes (clock index) := by
  obtain ⟨⟨payload, index⟩, zipped, read⟩ := mem_of_mapM made listed
  rw [List.mem_zipIdx_iff_getElem?] at zipped
  rw [RS.parityPacket] at read
  obtain ⟨_, same⟩ := Option.ite_none_left_eq_some.mp read
  exact ⟨index, payload, zipped, (Option.some.inj same).symm⟩

/-- A call of `sent` answers parity packets of the packet it is called with. -/
theorem owns_sent {state next : RS simd} {packet : FecPacket} {clock : Nat → Timestamp}
    {parities : List ParityPacket} (owns : batch.Owns packet)
    (sent : state.sent debugAssertions packet clock = some (next, parities)) :
    ∀ parity ∈ parities, batch.Owns (FecPacket.fromParityPacket parity) := by
  intro parity listed
  obtain ⟨made, _, rest⟩ := Option.bind_eq_some_iff.mp sent
  obtain ⟨entry, _, rest⟩ := Option.bind_eq_some_iff.mp rest
  split at rest
  · obtain ⟨recovery, _, rest⟩ := Option.bind_eq_some_iff.mp rest
    obtain ⟨others, made, same⟩ := Option.map_eq_some_iff.mp rest
    cases same
    obtain ⟨index, payload, _, rfl⟩ := mem_parityPackets made listed
    exact ⟨owns.key, owns.batchSize, owns.recoveryCount⟩
  · cases Option.some.inj rest
    cases listed

theorem owns_of_foldlM {packets : List FecPacket} {clock : Nat → Timestamp}
    (own : ∀ packet ∈ packets, batch.Owns packet) {before after : RS simd × List ParityPacket}
    (earlier : ∀ parity ∈ before.2, batch.Owns (FecPacket.fromParityPacket parity))
    (sent : packets.foldlM (fun before packet =>
      (before.1.sent debugAssertions packet clock).map fun after =>
        (after.1, before.2 ++ after.2)) before = some after) :
    ∀ parity ∈ after.2, batch.Owns (FecPacket.fromParityPacket parity) := by
  induction packets generalizing before with
  | nil =>
      cases Option.some.inj sent
      exact earlier
  | cons packet rest ih =>
      rw [List.foldlM_cons] at sent
      obtain ⟨middle, stepped, later⟩ := Option.bind_eq_some_iff.mp sent
      obtain ⟨⟨state, parities⟩, called, rfl⟩ := Option.map_eq_some_iff.mp stepped
      refine ih (fun other listed => own other (List.mem_cons_of_mem _ listed)) ?_ later
      intro parity listed
      rcases List.mem_append.mp listed with old | new
      · exact earlier parity old
      · exact owns_sent (own packet List.mem_cons_self) called parity new

theorem owns_of_mem_packets {order : List Nat} {clock : Nat → Timestamp} {arrived : FecPacket}
    (listed : arrived ∈ batch.packets simd debugAssertions order clock) : batch.Owns arrived := by
  rw [packets, List.mem_append] at listed
  rcases listed with data | parity
  · obtain ⟨index, _, made⟩ := List.mem_filterMap.mp data
    exact owns_dataPacket made
  · cases sent : batch.sentAll simd debugAssertions order clock with
    | none =>
        rw [sent] at parity
        cases parity
    | some after =>
        rw [sent] at parity
        obtain ⟨packet, packetListed, rfl⟩ := List.mem_map.mp parity
        refine owns_of_foldlM ?_ ?_ sent packet packetListed
        · intro packet here
          obtain ⟨index, _, made⟩ := List.mem_filterMap.mp here
          exact owns_dataPacket made
        · intro parity none
          cases none

/-! ## A batch of one packet is sent -/

theorem newPanics_one {index recoveryCount : UInt8} (debug : debugAssertions = true →
    recoveryCount.toNat = 1) (inside : index.toNat < recoveryCount.toNat) :
    ¬ (debugAssertions = true ∧ FecInfo.newPanics 1 index recoveryCount = true) := by
  rintro ⟨isDebug, panics⟩
  have one := debug isDebug
  have same : recoveryCount = 1 := UInt8.toNat_inj.mp one
  have zero : index = 0 :=
    UInt8.toNat_inj.mp (by rw [one] at inside; exact Nat.lt_one_iff.mp inside)
  rw [same, zero] at panics
  exact absurd panics (by decide)

/-- The encoder of a batch of one packet, with the recovery shards. -/
structure Encodes (simd : Simd) (recoveryCount : Nat) (block : FecData) (shards : List FecData) :
    Prop where
  encoder : ∃ encoder, simd.Encoding 1 recoveryCount [block] encoder ∧
    simd.encode encoder = .ok shards
  length : shards.length = recoveryCount

theorem sentAll_one (one : batch.size.toNat = 1)
    (documented : simd.Documented 1 batch.recoveryCount.toNat) {order : List Nat}
    (each : order.Perm (List.range batch.size.toNat)) (clock : Nat → Timestamp)
    {packet : FecPacket} (made : batch.dataPacket debugAssertions 0 = some packet) :
    ∃ shards, Encodes simd batch.recoveryCount.toNat packet.data shards ∧
      (batch.sentAll simd debugAssertions order clock).map Prod.snd =
        RS.parityPackets debugAssertions packet clock shards := by
  rw [one] at each
  have only : order = [0] := List.perm_singleton.mp each
  have size : batch.size = 1 := UInt8.toNat_inj.mp one
  obtain ⟨block, _, same⟩ := batch.dataPacket_eq debugAssertions 0
  cases made.symm.trans same
  obtain ⟨encoder, new⟩ := documented.newEncoder
  obtain ⟨next, added⟩ := documented.addOriginal [] encoder block (.new new) Nat.one_pos
  have encoding : simd.Encoding 1 batch.recoveryCount.toNat [block] next := .add (.new new) added
  obtain ⟨shards, encoded, length⟩ := documented.encode _ _ encoding rfl
  refine ⟨shards, ⟨⟨next, encoding, encoded⟩, length⟩, ?_⟩
  have called : (RS.new : RS simd).sent debugAssertions ⟨false, batch.sessionId, batch.batchId,
      ⟨batch.size, UInt8.ofNat 0, batch.recoveryCount⟩, block⟩ clock =
        (RS.parityPackets debugAssertions ⟨false, batch.sessionId, batch.batchId,
          ⟨batch.size, UInt8.ofNat 0, batch.recoveryCount⟩, block⟩ clock shards).map fun parities =>
            ({ (RS.new : RS simd) with outbound := Table.empty.remove batch.key }, parities) := by
    have absent : (RS.new : RS simd).outbound.get (batch.batchId, batch.sessionId) = none := rfl
    have counted : increment debugAssertions 0 = some 1 := if_neg (by rintro ⟨_, zero⟩; cases zero)
    have full : (1 : UInt8) ≤ 1 := by decide
    have single : (1 : UInt8).toNat = 1 := rfl
    simp only [RS.sent, OutboundBatchData.fromFecPacket, size, single, new, Except.toOption,
      Option.map_some, Option.bind_some, FecPacket.key, absent, Option.getD_none,
      OutboundBatchData.add, counted, if_pos full, added, encoded]
    rfl
  rw [sentAll, only, List.filterMap_cons, made]
  simp only [List.filterMap_nil, List.foldlM_cons, List.foldlM_nil, called]
  cases RS.parityPackets debugAssertions _ clock shards <;> rfl

def parity (batch : Batch) (index : Nat) (payload : FecData) (now : Timestamp) : ParityPacket :=
  ParityPacket.new (Options.construct []) batch.batchId
    (FecInfo.new batch.size (UInt8.ofNat index) batch.recoveryCount) batch.sessionId payload.bytes
    now

theorem sentAll_isSome_iff (one : batch.size.toNat = 1)
    (documented : simd.Documented 1 batch.recoveryCount.toNat) {order : List Nat}
    (each : order.Perm (List.range batch.size.toNat)) (clock : Nat → Timestamp) :
    (batch.sentAll simd debugAssertions order clock).isSome = true ↔
      (debugAssertions = true → batch.recoveryCount.toNat = 1) := by
  obtain ⟨block, _, made⟩ := batch.dataPacket_eq debugAssertions 0
  obtain ⟨shards, encodes, sent⟩ := sentAll_one one documented each clock made
  have size : batch.size = 1 := UInt8.toNat_inj.mp one
  have answered : ((batch.sentAll simd debugAssertions order clock).map Prod.snd).isSome =
      (batch.sentAll simd debugAssertions order clock).isSome := Option.isSome_map
  rw [← answered, sent]
  constructor
  · intro isSome debug
    obtain ⟨parities, made⟩ := Option.isSome_iff_exists.mp isSome
    cases shards with
    | nil =>
        have none := encodes.length
        exact absurd none (Nat.ne_of_lt batch.recoverable)
    | cons first rest =>
        rw [RS.parityPackets, List.zipIdx_cons, List.mapM_cons] at made
        obtain ⟨parity, here, _⟩ := Option.bind_eq_some_iff.mp made
        obtain ⟨accepted, _⟩ := Option.ite_none_left_eq_some.mp here
        have fits : ¬ FecInfo.newPanics batch.size (UInt8.ofNat 0) batch.recoveryCount = true :=
          fun panics => accepted ⟨debug, panics⟩
        have positive := batch.recoverable
        simp only [FecInfo.newPanics, Bool.or_eq_true, decide_eq_true_eq, not_or, not_le, not_lt,
          UInt8.lt_iff_toNat_lt, one] at fits
        omega
  · intro debug
    have all : RS.parityPackets debugAssertions ⟨false, batch.sessionId, batch.batchId,
        ⟨batch.size, UInt8.ofNat 0, batch.recoveryCount⟩, block⟩ clock shards =
          some (shards.zipIdx.map fun shard => batch.parity shard.2 shard.1 (clock shard.2)) := by
      refine mapM_eq_map ?_
      rintro ⟨payload, index⟩ zipped
      rw [List.mem_zipIdx_iff_getElem?] at zipped
      have inside : index < batch.recoveryCount.toNat := by
        rw [← encodes.length]
        exact (List.getElem?_eq_some_iff.mp zipped).1
      have number : (UInt8.ofNat index).toNat = index := by
        rw [UInt8.toNat_ofNat']
        exact Nat.mod_eq_of_lt (inside.trans batch.recoveryCount.toNat_lt)
      refine if_neg ?_
      simp only [size]
      exact newPanics_one debug (by rw [number]; exact inside)
    rw [all]
    rfl

theorem packets_one (one : batch.size.toNat = 1)
    (documented : simd.Documented 1 batch.recoveryCount.toNat) {order : List Nat}
    (each : order.Perm (List.range batch.size.toNat)) {clock : Nat → Timestamp}
    {packet : FecPacket} (made : batch.dataPacket debugAssertions 0 = some packet) :
    ∃ shards, Encodes simd batch.recoveryCount.toNat packet.data shards ∧
      ∀ arrived ∈ batch.packets simd debugAssertions order clock, arrived = packet ∨
        (debugAssertions = true → batch.recoveryCount.toNat = 1) ∧ ∃ index payload now,
          shards[index]? = some payload ∧
          arrived = FecPacket.fromParityPacket (batch.parity index payload now) := by
  obtain ⟨shards, encodes, sent⟩ := sentAll_one one documented each clock made
  refine ⟨shards, encodes, ?_⟩
  intro arrived listed
  rw [packets, List.mem_append] at listed
  rcases listed with data | parity
  · obtain ⟨index, inside, same⟩ := List.mem_filterMap.mp data
    rw [one, List.mem_range] at inside
    have first : index = 0 := by omega
    rw [first, made] at same
    exact Or.inl (Option.some.inj same).symm
  · cases found : batch.sentAll simd debugAssertions order clock with
    | none =>
        rw [found] at parity
        cases parity
    | some after =>
        have accepted := (sentAll_isSome_iff one documented each clock).mp (by rw [found]; rfl)
        rw [found] at parity sent
        obtain ⟨parityPacket, parityListed, rfl⟩ := List.mem_map.mp parity
        obtain ⟨index, payload, here, rfl⟩ := mem_parityPackets sent.symm parityListed
        have owns := owns_dataPacket made
        obtain ⟨block, _, same⟩ := batch.dataPacket_eq debugAssertions 0
        cases made.symm.trans same
        exact Or.inr ⟨accepted, index, payload, clock index, here, rfl⟩

theorem parity_mem_packets (one : batch.size.toNat = 1)
    (documented : simd.Documented 1 batch.recoveryCount.toNat) {order : List Nat}
    (each : order.Perm (List.range batch.size.toNat)) (clock : Nat → Timestamp)
    (accepted : debugAssertions = true → batch.recoveryCount.toNat = 1) :
    ∃ arrived ∈ batch.packets simd debugAssertions order clock, arrived.isParity = true := by
  obtain ⟨block, _, made⟩ := batch.dataPacket_eq debugAssertions 0
  obtain ⟨shards, encodes, sent⟩ := sentAll_one one documented each clock made
  have isSome := (sentAll_isSome_iff one documented each clock).mpr accepted
  obtain ⟨after, found⟩ := Option.isSome_iff_exists.mp isSome
  rw [found, Option.map_some] at sent
  cases shards with
  | nil => exact absurd encodes.length (Nat.ne_of_lt batch.recoverable)
  | cons first rest =>
      rw [RS.parityPackets, List.zipIdx_cons, List.mapM_cons] at sent
      obtain ⟨parity, _, later⟩ := Option.bind_eq_some_iff.mp sent.symm
      obtain ⟨others, _, same⟩ := Option.bind_eq_some_iff.mp later
      refine ⟨FecPacket.fromParityPacket parity, ?_, rfl⟩
      rw [packets, found, List.mem_append]
      refine Or.inr (List.mem_map_of_mem ?_)
      rw [← Option.some.inj same]
      exact List.mem_cons_self

/-! ## A batch of one packet arrives -/

theorem increment_eq {count : UInt8} (small : debugAssertions = true → count.toNat < 255) :
    increment debugAssertions count = some (count + 1) := by
  refine if_neg ?_
  rintro ⟨debug, full⟩
  exact absurd full (small debug).ne

theorem handle_data (one : batch.size.toNat = 1)
    (documented : simd.Documented 1 batch.recoveryCount.toNat) {packet : FecPacket}
    (made : batch.dataPacket debugAssertions 0 = some packet) (now : Timestamp) {state : RS simd}
    (fresh : state.inbound.get batch.key = none) :
    ∃ next recovered, state.handle debugAssertions packet now = some (next, true, recovered) := by
  obtain ⟨block, _, same⟩ := batch.dataPacket_eq debugAssertions 0
  cases made.symm.trans same
  have size : batch.size = 1 := UInt8.toNat_inj.mp one
  have single : (1 : UInt8).toNat = 1 := rfl
  obtain ⟨decoder, new⟩ := documented.newDecoder
  have absent : state.inbound.get (batch.batchId, batch.sessionId) = none := fresh
  have counted : increment debugAssertions 0 = some 1 := increment_eq fun _ => by decide
  have taken : ∃ next, state.received debugAssertions ⟨false, batch.sessionId, batch.batchId,
      ⟨batch.size, UInt8.ofNat 0, batch.recoveryCount⟩, block⟩ now = some (next, true) := by
    simp only [RS.received, InboundBatchData.fromFecPacket, size, single, new, Except.toOption,
      Option.map_some, Option.bind_some, FecPacket.key, absent, Option.getD_none,
      Bool.false_eq_true, if_false, InboundBatchData.addData, InboundBatchData.note,
      isDuplicate_of_new documented new, counted]
    exact ⟨_, rfl⟩
  obtain ⟨next, received⟩ := taken
  rw [RS.handle, received]
  exact ⟨_, _, rfl⟩

theorem handle_parity (one : batch.size.toNat = 1)
    (documented : simd.Documented 1 batch.recoveryCount.toNat) {block : FecData}
    {shards : List FecData} (encodes : Encodes simd batch.recoveryCount.toNat block shards)
    (accepted : debugAssertions = true → batch.recoveryCount.toNat = 1) {index : Nat}
    {payload : FecData} (here : shards[index]? = some payload) (sentAt now : Timestamp)
    {state : RS simd} (fresh : state.inbound.get batch.key = none) :
    ∃ next, state.handle debugAssertions
      (FecPacket.fromParityPacket (batch.parity index payload sentAt)) now =
        some (next, true, some [RecoverdPacket.fromShard block]) := by
  have inside : index < batch.recoveryCount.toNat := by
    rw [← encodes.length]
    exact (List.getElem?_eq_some_iff.mp here).1
  have number : (UInt8.ofNat index).toNat = index := by
    rw [UInt8.toNat_ofNat']
    exact Nat.mod_eq_of_lt (inside.trans batch.recoveryCount.toNat_lt)
  obtain ⟨arrived, is, key, parity, info, data⟩ : ∃ arrived,
      FecPacket.fromParityPacket (batch.parity index payload sentAt) = arrived ∧
      arrived.key = batch.key ∧ arrived.isParity = true ∧
      arrived.fecInfo = ⟨batch.size, UInt8.ofNat index, batch.recoveryCount⟩ ∧
      arrived.data = payload := ⟨_, rfl, rfl, rfl, rfl, FecPacket.data_fromParityPacket rfl⟩
  obtain ⟨decoder, new⟩ := documented.newDecoder
  obtain ⟨next, added⟩ :=
    documented.addRecoveryShard _ _ decoder index payload (.new new) inside rfl
  have counted : increment debugAssertions batch.recoveryCount = some (batch.recoveryCount + 1) :=
    increment_eq fun debug => by
      rw [accepted debug]
      decide
  have decoding : simd.Decoding 1 batch.recoveryCount.toNat (fun _ => none)
      (Function.update (fun _ => none) index (some payload)) next := .recovery (.new new) added
  obtain ⟨encoder, encoding, encoded⟩ := encodes.encoder
  have decoded : simd.decode next = .ok [(0, block)] := by
    refine documented.decode [block] encoder shards _ _ next encoding rfl encoded decoding ?_ ?_ ?_
    · intro other shard found
      cases found
    · intro other shard found
      rw [Function.update_apply] at found
      split at found
      · rename_i same
        cases found
        rw [same]
        exact here
      · cases found
    · have enough := shardCount_pos inside (Function.update_self index (some payload)
        (fun _ => (none : Option FecData)))
      omega
  rw [is]
  have received : state.received debugAssertions arrived now = some
      (⟨state.inbound.insert arrived.key (InboundBatchData.mk next batch.size
        (batch.recoveryCount + 1) 0 BatchMask.empty now none true), state.outbound⟩, true) := by
    rw [← key] at fresh
    simp only [RS.received, InboundBatchData.fromFecPacket, info, one, new, Except.toOption,
      Option.map_some, Option.bind_some, fresh, Option.getD_none, parity, if_true,
      InboundBatchData.addParity, number, data, added, InboundBatchData.isDuplicate,
      Bool.false_eq_true, if_false, counted]
  have same : (arrived.batchId, arrived.sessionId) = arrived.key := rfl
  rw [RS.handle, received]
  simp only [Option.map_some, if_true, RS.recover, same, Table.get_insert_self, decoded,
    Except.toOption, List.map_cons, List.map_nil]
  exact ⟨_, rfl⟩

end Batch

/-! ## Recovery -/

theorem distinctShards_singleton (arrival : FecPacket × Timestamp) :
    distinctShards [arrival] = 1 := by
  rw [distinctShards, List.map_singleton, List.toFinset_cons, List.toFinset_nil]
  rfl

theorem distinctShards_pos (before : List (FecPacket × Timestamp))
    (arrival : FecPacket × Timestamp) : 0 < distinctShards (before ++ [arrival]) := by
  rw [distinctShards, Finset.card_pos]
  refine ⟨shard arrival.1, ?_⟩
  rw [List.mem_toFinset]
  exact List.mem_map_of_mem (List.mem_append_right _ (List.mem_singleton.mpr rfl))

theorem new_fresh (simd : Simd) (key : MapKey) : (RS.new : RS simd).inbound.get key = none := rfl

section

variable {simd : Simd} {debugAssertions : Bool} {batch : Batch} {order : List Nat}
  {clock : Nat → Timestamp} {first : FecPacket × Timestamp} {rest : List (FecPacket × Timestamp)}

theorem Recovers.first_answers
    (documented : simd.Documented batch.size.toNat batch.recoveryCount.toNat)
    (owns : batch.Owns first.1)
    (recovers : Recovers simd debugAssertions batch order clock (first :: rest)) :
    ∃ recovered, Answers simd debugAssertions [] first true recovered := by
  obtain ⟨final, handled⟩ := Option.isSome_iff_exists.mp recovers.handled
  rw [RS.handleAll, List.foldlM_cons] at handled
  obtain ⟨middle, stepped, _⟩ := Option.bind_eq_some_iff.mp handled
  obtain ⟨⟨next, ready, recovered⟩, answered, _⟩ := Option.map_eq_some_iff.mp stepped
  obtain ⟨rfl, _⟩ := handle_fresh (by rw [owns.batchSize, owns.recoveryCount]; exact documented)
    rfl answered
  exact ⟨recovered, RS.new, next, rfl, answered⟩

theorem Recovers.size_eq_one
    (documented : simd.Documented batch.size.toNat batch.recoveryCount.toNat)
    (owns : batch.Owns first.1)
    (recovers : Recovers simd debugAssertions batch order clock (first :: rest)) :
    batch.size.toNat = 1 := by
  obtain ⟨recovered, answers⟩ := recovers.first_answers documented owns
  have decodable := recovers.ready [] first rest recovered rfl answers
  have positive := batch.positive
  rw [List.nil_append, distinctShards_singleton] at decodable
  omega

theorem Recovers.restorable (one : batch.size.toNat = 1)
    (documented : simd.Documented 1 batch.recoveryCount.toNat)
    (each : order.Perm (List.range batch.size.toNat))
    (arrived : first.1 ∈ batch.packets simd debugAssertions order clock)
    (parity : first.1.isParity = true)
    (recovers : Recovers simd debugAssertions batch order clock (first :: rest)) :
    batch.Restorable debugAssertions := by
  obtain ⟨block, blockMade, made⟩ := batch.dataPacket_eq debugAssertions 0
  obtain ⟨shards, encodes, only⟩ := Batch.packets_one one documented each made
  rcases only first.1 arrived with data | ⟨accepted, index, payload, sentAt, here, same⟩
  · rw [data] at parity
    cases parity
  · obtain ⟨next, handled⟩ := Batch.handle_parity one documented encodes accepted here sentAt
      first.2 (new_fresh simd batch.key)
    rw [← same] at handled
    have missing : ∀ other ∈ [] ++ [first],
        batch.dataPacket debugAssertions 0 ≠ some other.1 := by
      intro other listed isData
      cases List.mem_singleton.mp listed
      rw [made] at isData
      rw [← Option.some.inj isData] at parity
      cases parity
    obtain ⟨restored, recovered, listed⟩ :=
      recovers.recovered [] first rest _ rfl ⟨RS.new, next, rfl, handled⟩ 0 batch.positive missing
    cases recovered
    exact (Batch.fromShard_iff blockMade).mp listed

theorem handle_one (one : batch.size.toNat = 1)
    (documented : simd.Documented 1 batch.recoveryCount.toNat)
    (each : order.Perm (List.range batch.size.toNat)) {arrival : FecPacket × Timestamp}
    (arrived : arrival.1 ∈ batch.packets simd debugAssertions order clock) {state : RS simd}
    (fresh : state.inbound.get batch.key = none) :
    ∃ next recovered, state.handle debugAssertions arrival.1 arrival.2 =
      some (next, true, recovered) := by
  obtain ⟨block, _, made⟩ := batch.dataPacket_eq debugAssertions 0
  obtain ⟨shards, encodes, only⟩ := Batch.packets_one one documented each made
  rcases only arrival.1 arrived with data | ⟨accepted, index, payload, sentAt, here, same⟩
  · rw [data]
    exact Batch.handle_data one documented made arrival.2 fresh
  · obtain ⟨next, handled⟩ :=
      Batch.handle_parity one documented encodes accepted here sentAt arrival.2 fresh
    rw [← same] at handled
    exact ⟨next, _, handled⟩

theorem handleAll_one (one : batch.size.toNat = 1)
    (documented : simd.Documented 1 batch.recoveryCount.toNat)
    (each : order.Perm (List.range batch.size.toNat)) {arrivals : List (FecPacket × Timestamp)}
    (arrived : ∀ arrival ∈ arrivals,
      arrival.1 ∈ batch.packets simd debugAssertions order clock) {state : RS simd}
    (fresh : state.inbound.get batch.key = none) :
    ∃ final, state.handleAll debugAssertions arrivals = some final ∧
      final.inbound.get batch.key = none := by
  induction arrivals generalizing state with
  | nil => exact ⟨state, rfl, fresh⟩
  | cons arrival later ih =>
      have here := arrived arrival List.mem_cons_self
      obtain ⟨next, recovered, handled⟩ := handle_one one documented each here fresh
      have owns := Batch.owns_of_mem_packets here
      rw [← owns.key] at fresh
      obtain ⟨_, again⟩ := handle_fresh (by
        rw [owns.batchSize, owns.recoveryCount, one]
        exact documented) fresh handled
      rw [owns.key] at again
      obtain ⟨final, rest, last⟩ :=
        ih (fun other listed => arrived other (List.mem_cons_of_mem _ listed)) again
      refine ⟨final, ?_, last⟩
      rw [RS.handleAll, List.foldlM_cons, handled]
      exact rest

theorem recovers_of_restorable (one : batch.size.toNat = 1)
    (documented : simd.Documented 1 batch.recoveryCount.toNat)
    (each : order.Perm (List.range batch.size.toNat))
    (accepted : debugAssertions = true → batch.recoveryCount.toNat = 1)
    (arrived : ∀ arrival ∈ first :: rest,
      arrival.1 ∈ batch.packets simd debugAssertions order clock)
    (restorable : first.1.isParity = false ∨ batch.Restorable debugAssertions) :
    Recovers simd debugAssertions batch order clock (first :: rest) := by
  obtain ⟨block, blockMade, made⟩ := batch.dataPacket_eq debugAssertions 0
  obtain ⟨shards, encodes, only⟩ := Batch.packets_one one documented each made
  have fresh : ∀ before later (state : RS simd), first :: rest = before ++ later →
      RS.new.handleAll debugAssertions before = some state →
        state.inbound.get batch.key = none := by
    intro before later state split handled
    obtain ⟨final, same, last⟩ := handleAll_one one documented each
      (fun arrival listed => arrived arrival (split ▸ List.mem_append_left _ listed))
      (new_fresh simd batch.key)
    cases same.symm.trans handled
    exact last
  refine ⟨(Batch.sentAll_isSome_iff one documented each clock).mpr accepted, ?_, ?_, ?_, ?_, ?_⟩
  · obtain ⟨final, handled, _⟩ :=
      handleAll_one one documented each arrived (new_fresh simd batch.key)
    rw [handled]
    rfl
  · intro before arrival after recovered _ _
    rw [one]
    exact distinctShards_pos before arrival
  · intro before after state _ _ few arrival listed
    rw [one] at few
    rcases List.eq_nil_or_concat' before with rfl | ⟨front, last, rfl⟩
    · cases listed
    · exact absurd (distinctShards_pos front last) (by omega)
  · rintro before arrival after recovered split ⟨state, next, reached, handled⟩ index inside missing
    have zero : index = 0 := by omega
    subst zero
    have here : arrival ∈ first :: rest := by
      rw [split]
      exact List.mem_append_right _ List.mem_cons_self
    rcases only arrival.1 (arrived arrival here) with
      data | ⟨_, index, payload, sentAt, shard, same⟩
    · exact absurd (data ▸ made) (missing arrival (List.mem_append_right _ (by simp)))
    · obtain ⟨again, exact⟩ := Batch.handle_parity one documented encodes accepted shard sentAt
        arrival.2 (fresh before _ state split reached)
      rw [← same, handled] at exact
      simp only [Option.some.injEq, Prod.mk.injEq, true_and] at exact
      obtain ⟨_, rfl⟩ := exact
      refine ⟨_, rfl, (Batch.fromShard_iff blockMade).mpr ?_⟩
      rcases restorable with isData | whole
      · -- the packet that came first was the data packet, which is not missing
        have early : first ∈ before ++ [arrival] := by
          cases before with
          | nil =>
              rw [List.nil_append, List.cons.injEq] at split
              rw [split.1]
              exact List.mem_singleton.mpr rfl
          | cons head tail =>
              rw [List.cons_append, List.cons.injEq] at split
              rw [split.1]
              exact List.mem_cons_self
        rcases only first.1 (arrived first List.mem_cons_self) with
          data | ⟨_, _, _, _, _, parity⟩
        · exact absurd (data ▸ made) (missing first early)
        · rw [parity] at isData
          cases isData
      · exact whole
  · obtain ⟨next, recovered, handled⟩ := handle_one one documented each
      (arrived first List.mem_cons_self) (new_fresh simd batch.key)
    exact ⟨[], first, rest, recovered, rfl, RS.new, next, rfl, handled⟩

end

/-- Batches of one packet are recovered unless the build refuses their counts, or a parity packet
comes first whose chunk is shorter than a block or was never written to it.  No larger batch ever
is. -/
theorem recovers_iff (simd : Simd) (debugAssertions : Bool) (batch : Batch)
    (documented : simd.Documented batch.size.toNat batch.recoveryCount.toNat) (order : List Nat)
    (each : order.Perm (List.range batch.size.toNat)) (clock : Nat → Timestamp)
    (arrivals : List (FecPacket × Timestamp))
    (arrived : ∀ arrival ∈ arrivals,
      arrival.1 ∈ batch.packets simd debugAssertions order clock)
    (enough : batch.size.toNat ≤ distinctShards arrivals) :
    Recovers simd debugAssertions batch order clock arrivals ↔
      batch.size.toNat = 1 ∧ (debugAssertions = true → batch.recoveryCount.toNat = 1) ∧
        ((∀ first ∈ arrivals.head?, first.1.isParity = false) ∨
          batch.Restorable debugAssertions) := by
  cases arrivals with
  | nil =>
      have positive := batch.positive
      have none : distinctShards [] = 0 := rfl
      omega
  | cons first rest =>
      have here := arrived first List.mem_cons_self
      constructor
      · intro recovers
        have one := recovers.size_eq_one documented (Batch.owns_of_mem_packets here)
        rw [one] at documented
        refine ⟨one, (Batch.sentAll_isSome_iff one documented each clock).mp recovers.sent, ?_⟩
        cases parity : first.1.isParity with
        | false =>
            refine Or.inl ?_
            intro other same
            cases Option.mem_some_iff.mp same
            exact parity
        | true => exact Or.inr (recovers.restorable one documented each here parity)
      · rintro ⟨one, accepted, restorable⟩
        rw [one] at documented
        exact recovers_of_restorable one documented each accepted arrived
          (restorable.imp (fun data => data first rfl) id)

/-! ## One packet and its copies -/

/-- The code for one original, whose recovery shards are copies of it.  An error says whether it is
`DuplicateOriginalShardIndex`. -/
def copies : Simd where
  Error := Bool
  Encoder := Nat × List FecData
  Decoder := Nat × (Nat → Option FecData) × (Nat → Option FecData)
  isDuplicateOriginalShardIndex := id
  newEncoder _ recoveryCount _ := .ok (recoveryCount, [])
  addOriginal encoder shard :=
    if encoder.2 = [] then ((encoder.1, [shard]), .ok ()) else (encoder, .error false)
  encode encoder :=
    match encoder.2 with
    | [] => .error false
    | block :: _ => .ok (List.replicate encoder.1 block)
  newDecoder _ recoveryCount _ := .ok (recoveryCount, fun _ => none, fun _ => none)
  addOriginalShard decoder index shard :=
    if 0 < index then (decoder, .error false)
    else if (decoder.2.1 index).isSome then (decoder, .error true)
    else ((decoder.1, Function.update decoder.2.1 index (some shard), decoder.2.2), .ok ())
  addRecoveryShard decoder index shard :=
    if decoder.1 ≤ index ∨ (decoder.2.2 index).isSome then (decoder, .error false)
    else ((decoder.1, decoder.2.1, Function.update decoder.2.2 index (some shard)), .ok ())
  decode decoder :=
    if (decoder.2.1 0).isSome then .ok []
    else match (List.range decoder.1).findSome? decoder.2.2 with
      | some block => .ok [(0, block)]
      | none => .error false

theorem copies_encoding {recoveryCount : Nat} {blocks : List FecData} {encoder : copies.Encoder}
    (encoding : copies.Encoding 1 recoveryCount blocks encoder) :
    encoder = (recoveryCount, blocks) := by
  induction encoding with
  | new made =>
      cases made
      rfl
  | @add blocks encoder next shard _ added ih =>
      subst ih
      simp only [copies] at added
      split at added
      · rename_i empty
        cases added
        rw [show blocks = [] from empty]
        rfl
      · cases added

theorem copies_decoding {recoveryCount : Nat} {originals recovery : Nat → Option FecData}
    {decoder : copies.Decoder}
    (decoding : copies.Decoding 1 recoveryCount originals recovery decoder) :
    decoder = (recoveryCount, originals, recovery) := by
  induction decoding with
  | new made =>
      cases made
      rfl
  | original _ added ih =>
      subst ih
      simp only [copies] at added
      split at added
      · cases added
      · split at added
        · cases added
        · cases added
          rfl
  | recovery _ added ih =>
      subst ih
      simp only [copies] at added
      split at added
      · cases added
      · cases added
        rfl

theorem copies_documented (recoveryCount : Nat) : copies.Documented 1 recoveryCount where
  newEncoder := ⟨_, rfl⟩
  addOriginal := by
    intro blocks encoder shard encoding few
    have empty : blocks = [] := List.length_eq_zero_iff.mp (Nat.lt_one_iff.mp few)
    subst empty
    rw [copies_encoding encoding]
    exact ⟨_, rfl⟩
  encode := by
    intro blocks encoder encoding one
    obtain ⟨block, rfl⟩ := List.length_eq_one_iff.mp one
    rw [copies_encoding encoding]
    exact ⟨_, rfl, List.length_replicate⟩
  newDecoder := ⟨_, rfl⟩
  addOriginalShard := by
    intro originals recovery decoder index shard decoding inside absent
    rw [copies_decoding decoding]
    have zero : index = 0 := Nat.lt_one_iff.mp inside
    subst zero
    refine ⟨(recoveryCount, Function.update originals 0 (some shard), recovery), ?_⟩
    simp only [copies, absent, Option.isSome_none, Nat.lt_irrefl, Bool.false_eq_true, if_false]
  addRecoveryShard := by
    intro originals recovery decoder index shard decoding inside absent
    rw [copies_decoding decoding]
    refine ⟨(recoveryCount, originals, Function.update recovery index (some shard)), ?_⟩
    simp only [copies]
    rw [if_neg]
    rintro (outside | present)
    · exact absurd inside (Nat.not_lt.mpr outside)
    · rw [absent] at present
      cases present
  duplicate := by
    intro originals recovery decoder index shard next error decoding added duplicate
    rw [copies_decoding decoding] at added
    simp only [copies] at added
    split at added
    · cases added
      cases duplicate
    · split at added
      · rename_i present
        exact Option.isSome_iff_ne_none.mp present
      · cases added
  notOriginal := by
    intro decoder index shard next error added
    simp only [copies] at added
    split at added
    · cases added
      rfl
    · cases added
  decode := by
    intro blocks encoder shards originals recovery decoder encoding one encoded decoding given
      received enough
    obtain ⟨block, rfl⟩ := List.length_eq_one_iff.mp one
    rw [copies_encoding encoding] at encoded
    cases encoded
    rw [copies_decoding decoding]
    cases original : originals 0 with
    | some shard => simp [copies, original, List.range_one]
    | none =>
        have some : 0 < shardCount recovery recoveryCount := by
          have missing : shardCount originals 1 = 0 := by
            simp [shardCount, List.range_one, original]
          omega
        obtain ⟨index, listed⟩ := List.exists_mem_of_length_pos some
        obtain ⟨inside, here⟩ := List.mem_filter.mp listed
        cases search : (List.range recoveryCount).findSome? recovery with
        | none =>
            rw [List.findSome?_eq_none_iff.mp search index inside] at here
            cases here
        | some found =>
            obtain ⟨other, _, otherHere⟩ := List.exists_of_findSome?_eq_some search
            have same : found = block :=
              List.eq_of_mem_replicate (List.mem_of_getElem? (received other found otherHere))
            simp only [copies, original, search, same, List.range_one, Option.isSome_none,
              Bool.false_eq_true, if_false, List.filterMap_cons, List.filterMap_nil,
              List.getElem?_cons_zero, Option.map_some]

def sampleBatch (size : UInt8) (positive : 0 < size.toNat) (payload : List UInt8)
    (fits : payload.length ≤ maxPayloadLength) : Batch where
  batchId := ⟨1⟩
  sessionId := ⟨7⟩
  size := size
  positive := positive
  recoveryCount := 1
  recoverable := by decide
  position index := BytePosition.ofNat (index * maxPayloadLength)
  payload _ := payload
  fits _ := fits
  sentAt := ⟨0, Timestamp.zero_lt⟩

def fullBatch : Batch :=
  sampleBatch 1 (by decide) (List.replicate maxPayloadLength 5) List.length_replicate.le

def shortBatch : Batch := sampleBatch 1 (by decide) [5] (by decide)

def pairBatch : Batch := sampleBatch 2 (by decide) [5] (by decide)

/-- The parity packet of a batch of one full chunk restores it. -/
theorem recovers_iff_full :
    ∃ arrived, arrived.isParity = true ∧
      Recovers copies true fullBatch [0] (fun _ => fullBatch.sentAt)
        [(arrived, fullBatch.sentAt)] := by
  obtain ⟨arrived, listed, parity⟩ := @Batch.parity_mem_packets copies fullBatch true rfl
    (copies_documented 1) [0] (List.Perm.refl _) (fun _ => fullBatch.sentAt) fun _ => rfl
  refine ⟨arrived, parity, ?_⟩
  apply (recovers_iff copies true fullBatch (copies_documented 1) [0] (List.Perm.refl _)
    (fun _ => fullBatch.sentAt) [(arrived, fullBatch.sentAt)] ?_ ?_).mpr
  · exact ⟨rfl, fun _ => rfl, Or.inr ⟨List.length_replicate, Or.inl rfl⟩⟩
  · intro arrival only
    cases List.mem_singleton.mp only
    exact listed
  · rw [distinctShards_singleton]
    decide

/-- A chunk of one byte comes back with its padding, and a batch of two is thrown away with its
first packet, whatever comes after it. -/
theorem batches_not_recovered :
    (∃ arrived ∈ shortBatch.packets copies true [0] fun _ => shortBatch.sentAt,
      ¬ Recovers copies true shortBatch [0] (fun _ => shortBatch.sentAt)
        [(arrived, shortBatch.sentAt)]) ∧
    ∀ simd : Simd, simd.Documented 2 1 → ∀ order clock first rest,
      first.1 ∈ pairBatch.packets simd true order clock →
        ¬ Recovers simd true pairBatch order clock (first :: rest) := by
  constructor
  · obtain ⟨arrived, listed, parity⟩ := @Batch.parity_mem_packets copies shortBatch true rfl
      (copies_documented 1) [0] (List.Perm.refl _) (fun _ => shortBatch.sentAt) fun _ => rfl
    refine ⟨arrived, listed, ?_⟩
    intro recovers
    have restorable :=
      recovers.restorable rfl (copies_documented 1) (List.Perm.refl _) listed parity
    exact absurd restorable.1 (by decide)
  · intro simd documented order clock first rest listed recovers
    exact absurd (recovers.size_eq_one documented (Batch.owns_of_mem_packets listed)) (by decide)

end ReedSolomon
end Ubass

import Mathlib.Data.Finset.Card
import Ubass.Lib.ParityCode
import Ubass.Lib.SharedMap
import Ubass.Fec.Block

/-!
# The XOR erasure code

`packet_processor/fec/xor.rs`.  The batches sit behind `Arc<Mutex<_>>` in two maps.
Each operation is given by its steps, one for every lock it takes, and by their
sequence.
-/

set_option autoImplicit false

namespace Ubass

/-- `[u128; 2]` -/
structure BatchMask where
  first : BitVec 128
  second : BitVec 128
deriving DecidableEq

namespace BatchMask

def empty : BatchMask := ⟨0, 0⟩

def word (mask : BatchMask) (slot : UInt8) : BitVec 128 :=
  if slot = 0 then mask.first else mask.second

def setWord (mask : BatchMask) (slot : UInt8) (word : BitVec 128) : BatchMask :=
  if slot = 0 then { mask with first := word } else { mask with second := word }

/-- `(batch_mask[pos / 128] >> (pos % 128)) & 1` is not 0. -/
def has (mask : BatchMask) (pos : UInt8) : Bool :=
  (mask.word (pos / 128) >>> (pos % 128).toNat) &&& 1#128 ≠ 0#128

/-- `batch_mask[pos / 128] |= 1 << (pos % 128)` -/
def set (mask : BatchMask) (pos : UInt8) : BatchMask :=
  mask.setWord (pos / 128) (mask.word (pos / 128) ||| (1#128 <<< (pos % 128).toNat))

theorem has_eq_getLsbD (mask : BatchMask) (pos : UInt8) :
    mask.has pos = (mask.word (pos / 128)).getLsbD (pos % 128).toNat := by
  have bit : ∀ word : BitVec 128, decide (word &&& 1#128 ≠ 0#128) = word.getLsbD 0 := by
    intro word
    have one : 1#128 = BitVec.twoPow 128 0 := rfl
    have nonzero : BitVec.twoPow 128 0 ≠ 0#128 := by decide
    rw [one, BitVec.and_twoPow]
    cases word.getLsbD 0 <;> simp [nonzero]
  rw [has, bit, BitVec.getLsbD_ushiftRight, Nat.add_zero]

@[simp] theorem has_empty (pos : UInt8) : empty.has pos = false := by
  rw [has_eq_getLsbD, word]
  split <;> exact BitVec.getLsbD_zero

theorem toNat_slot (pos : UInt8) : (pos / 128).toNat = pos.toNat / 128 := UInt8.toNat_div _ _

theorem toNat_bit (pos : UInt8) : (pos % 128).toNat = pos.toNat % 128 := UInt8.toNat_mod _ _

theorem slot_lt (pos : UInt8) : (pos / 128).toNat < 2 := by
  have small := pos.toNat_lt
  rw [toNat_slot]
  omega

theorem word_setWord (mask : BatchMask) {slot other : UInt8} (word : BitVec 128)
    (inside : slot.toNat < 2) (otherInside : other.toNat < 2) :
    (mask.setWord slot word).word other = if other = slot then word else mask.word other := by
  have cases : ∀ slot : UInt8, slot.toNat < 2 → slot = 0 ∨ slot = 1 := by
    intro slot small
    have : slot.toNat = 0 ∨ slot.toNat = 1 := by omega
    rcases this with zero | one
    · exact Or.inl (UInt8.toNat_inj.mp zero)
    · exact Or.inr (UInt8.toNat_inj.mp one)
  rcases cases slot inside with rfl | rfl <;> rcases cases other otherInside with rfl | rfl <;> rfl

theorem has_set (mask : BatchMask) (pos other : UInt8) :
    (mask.set pos).has other = (decide (other = pos) || mask.has other) := by
  rw [has_eq_getLsbD, has_eq_getLsbD, set, word_setWord _ _ (slot_lt pos) (slot_lt other)]
  by_cases sameSlot : other / 128 = pos / 128
  · have sameIff : other = pos ↔ (pos % 128).toNat = (other % 128).toNat := by
      have slots := UInt8.toNat_inj.mpr sameSlot
      rw [toNat_slot, toNat_slot] at slots
      rw [← UInt8.toNat_inj, toNat_bit, toNat_bit]
      omega
    have bound : (pos % 128).toNat < 128 := by
      rw [toNat_bit]
      exact Nat.mod_lt _ (by decide)
    rw [if_pos sameSlot, ← BitVec.twoPow_eq, BitVec.getLsbD_or, BitVec.getLsbD_twoPow, sameSlot,
      Bool.or_comm, decide_eq_true bound, Bool.true_and]
    congr 1
    exact decide_eq_decide.mpr sameIff.symm
  · have different : ¬ other = pos := fun same => sameSlot (same ▸ rfl)
    rw [if_neg sameSlot, decide_eq_false different, Bool.false_or]

end BatchMask

structure InboundBatchData where
  product : FecData
  parity : Option FecData
  batchSize : UInt8
  dataReceived : UInt8
  batchMask : BatchMask
  createdAt : Timestamp
  baseBytePos : Option BytePosition
  isContiguous : Bool
deriving DecidableEq

namespace InboundBatchData

def new (batchSize : UInt8) (now : Timestamp) : InboundBatchData where
  product := FecData.default
  parity := none
  batchSize := batchSize
  dataReceived := 0
  batchMask := BatchMask.empty
  createdAt := now
  baseBytePos := none
  isContiguous := true

def derivedBase (data : FecPacket) : BytePosition :=
  BytePosition.ofNat (Bytes.ofBeBytes (data.data.bytes.take 4) -
    data.fecInfo.batchPos.toNat * maxPayloadLength)

/-- `add`, with its answer: whether the packet was not in the batch yet. -/
def add (self : InboundBatchData) (data : FecPacket) : InboundBatchData × Bool :=
  if self.dataReceived < self.batchSize ∧ self.batchMask.has data.fecInfo.batchPos = false then
    let base := derivedBase data
    let contiguous :=
      match self.baseBytePos with
      | none => self.isContiguous
      | some existing => if existing ≠ base then false else self.isContiguous
    ({ self with
        baseBytePos := some (self.baseBytePos.getD base)
        isContiguous := contiguous
        batchMask := self.batchMask.set data.fecInfo.batchPos
        product := self.product.bitxor data.data
        dataReceived := self.dataReceived + 1 }, true)
  else (self, false)

def missingPositions (self : InboundBatchData) : List BytePosition :=
  match self.baseBytePos with
  | none => []
  | some base =>
      if self.isContiguous then
        ((List.range self.batchSize.toNat).filter fun i =>
            !self.batchMask.has (UInt8.ofNat i)).map fun i =>
          BytePosition.ofNat (base.toNat + i * maxPayloadLength)
      else []

/-- The method `parity`. -/
def addParity (self : InboundBatchData) (parity : FecData) : InboundBatchData × Bool :=
  if self.parity.isSome then (self, false) else ({ self with parity := some parity }, true)

def recover (self : InboundBatchData) : Option FecData :=
  if self.dataReceived = self.batchSize - 1 then
    self.parity.map fun parity => self.product.bitxor parity
  else none

end InboundBatchData

structure OutboundBatchData where
  product : FecData
  batchSize : Nat
  currentSize : Nat
deriving DecidableEq

namespace OutboundBatchData

def new (batchSize : UInt8) : OutboundBatchData := ⟨FecData.default, batchSize.toNat, 0⟩

/-- `add`, with its answer: whether this packet completes the batch. -/
def add (self : OutboundBatchData) (data : FecData) : OutboundBatchData × Bool :=
  let added : OutboundBatchData :=
    { self with product := self.product.bitxor data, currentSize := self.currentSize + 1 }
  (added, added.batchSize = added.currentSize)

def addAll (self : OutboundBatchData) (blocks : List FecData) : OutboundBatchData :=
  blocks.foldl (fun batch block => (batch.add block).1) self

end OutboundBatchData

abbrev MapKey := BatchId × SessionId

/-- The two maps of `Arc<Mutex<_>>`. -/
structure Xor where
  inbound : SharedMap MapKey InboundBatchData
  outbound : SharedMap MapKey OutboundBatchData

def FecPacket.key (self : FecPacket) : MapKey := (self.batchId, self.sessionId)

namespace Xor

def new : Xor := ⟨SharedMap.empty, SharedMap.empty⟩

/-! ## `sent` -/

/-- The first step of `sent`: look the batch up or create it. -/
def sentEntry (self : Xor) (packet : FecPacket) : Nat × Xor :=
  let (ref, outbound) :=
    self.outbound.entry packet.key (OutboundBatchData.new packet.fecInfo.batchSize)
  (ref, { self with outbound := outbound })

/-- The second step of `sent`: add the block under the lock of the batch. -/
def sentAdd (self : Xor) (ref : Nat) (packet : FecPacket) : Xor × Bool :=
  match self.outbound.read ref with
  | none => (self, false)
  | some batch =>
      let (added, ready) := batch.add packet.data
      ({ self with outbound := self.outbound.write ref added }, ready)

/-- The third step of `sent`, taken by the call that completed the batch: remove it.  The call
panics when nothing is there. -/
def sentRemove (self : Xor) (packet : FecPacket) : Option Nat × Xor :=
  let (ref, outbound) := self.outbound.remove packet.key
  (ref, { self with outbound := outbound })

def parityPacket (packet : FecPacket) (product : FecData) (now : Timestamp) : ParityPacket :=
  ParityPacket.new (Options.construct []) packet.batchId
    (FecInfo.new packet.fecInfo.batchSize 0 1) packet.sessionId product.bytes now

/-! ## `received` -/

/-- The first step of `received`: look the batch up or create it. -/
def receivedEntry (self : Xor) (packet : FecPacket) (now : Timestamp) : Nat × Xor :=
  let (ref, inbound) :=
    self.inbound.entry packet.key (InboundBatchData.new packet.fecInfo.batchSize now)
  (ref, { self with inbound := inbound })

/-- What a packet does to its batch, and whether a packet can be recovered afterwards. -/
def receivedBatch (batch : InboundBatchData) (packet : FecPacket) : InboundBatchData × Bool :=
  let next := if packet.isParity then (batch.addParity packet.data).1 else (batch.add packet).1
  (next, next.dataReceived = next.batchSize - 1 && next.parity.isSome)

/-- The second step of `received`, under the lock of the batch. -/
def receivedAdd (self : Xor) (ref : Nat) (packet : FecPacket) : Xor × Bool :=
  match self.inbound.read ref with
  | none => (self, false)
  | some batch =>
      let (next, ready) := receivedBatch batch packet
      ({ self with inbound := self.inbound.write ref next }, ready)

def received (self : Xor) (packet : FecPacket) (now : Timestamp) : Xor × Bool :=
  let (ref, entered) := self.receivedEntry packet now
  entered.receivedAdd ref packet

/-! ## `recover` -/

/-- The first step of `recover`: take the batch out of the map. -/
def recoverRemove (self : Xor) (key : MapKey) : Option Nat × Xor :=
  let (ref, inbound) := self.inbound.remove key
  (ref, { self with inbound := inbound })

/-- The second step of `recover`, under the lock of the batch. -/
def recoverEntry (self : Xor) (ref : Nat) : Option (List RecoverdPacket) :=
  (self.inbound.read ref).bind fun batch =>
    batch.recover.map fun block => [RecoverdPacket.fromFecData block]

def recover (self : Xor) (batchId : BatchId) (sessionId : SessionId) :
    Xor × Option (List RecoverdPacket) :=
  let (ref, removed) := self.recoverRemove (batchId, sessionId)
  (removed, ref.bind removed.recoverEntry)

/-! ## `prune` -/

def pruneExpired (self : Xor) (ttlMs : Nat) (now : Timestamp) (snapshot : List (MapKey × Nat)) :
    List MapKey :=
  (snapshot.filter fun entry =>
    ((self.inbound.read entry.2).map fun batch =>
      batch.createdAt.beenLongerThan now ttlMs).getD false).map Prod.fst

def pruneRemove (self : Xor) : List MapKey → Xor × List (MapKey × Nat)
  | [] => (self, [])
  | key :: rest =>
      let (ref, removed) := self.recoverRemove key
      let (last, entries) := removed.pruneRemove rest
      (last, (ref.map fun ref => (key, ref)).toList ++ entries)

/-- What `prune` answers for the removed batches. -/
def pruneMissing (self : Xor) (removed : List (MapKey × Nat)) :
    List (SessionId × BatchId × List BytePosition) :=
  removed.filterMap fun entry =>
    (self.inbound.read entry.2).map fun batch =>
      (entry.1.2, entry.1.1, batch.missingPositions)

end Xor

/-! ## What a batch holds -/

namespace InboundBatchData

/-- The batch holds the blocks at the received positions of a batch of `size`. -/
structure Holds (blocks : Nat → FecData) (size : Nat) (received : Finset Nat)
    (batch : InboundBatchData) : Prop where
  batchSize : batch.batchSize.toNat = size
  inRange : ∀ pos ∈ received, pos < size
  mask : ∀ pos : UInt8, batch.batchMask.has pos = decide (pos.toNat ∈ received)
  count : batch.dataReceived.toNat = received.card
  product : batch.product = ParityCode.parity blocks received

theorem new_holds (blocks : Nat → FecData) (batchSize : UInt8) (now : Timestamp) :
    Holds blocks batchSize.toNat ∅ (new batchSize now) where
  batchSize := rfl
  inRange pos member := by cases Finset.notMem_empty pos member
  mask pos := BatchMask.has_empty pos
  count := rfl
  product := rfl

/-- The two guards of `add` come to one: the position is new. -/
theorem add_guard {blocks : Nat → FecData} {size : Nat} {received : Finset Nat}
    {batch : InboundBatchData} (holds : Holds blocks size received batch) {pos : UInt8}
    (inside : pos.toNat < size) :
    (batch.dataReceived < batch.batchSize ∧ batch.batchMask.has pos = false) ↔
      pos.toNat ∉ received := by
  rw [holds.mask, decide_eq_false_iff_not, UInt8.lt_iff_toNat_lt, holds.count, holds.batchSize]
  constructor
  · exact fun both => both.2
  · intro fresh
    refine ⟨?_, fresh⟩
    have larger : insert pos.toNat received ⊆ Finset.range size := by
      intro other member
      rcases Finset.mem_insert.mp member with rfl | old
      · exact Finset.mem_range.mpr inside
      · exact Finset.mem_range.mpr (holds.inRange other old)
    have card := Finset.card_le_card larger
    rw [Finset.card_insert_of_notMem fresh, Finset.card_range] at card
    exact card

theorem add_holds {blocks : Nat → FecData} {size : Nat} {received : Finset Nat}
    {batch : InboundBatchData} (holds : Holds blocks size received batch) {packet : FecPacket}
    (inside : packet.fecInfo.batchPos.toNat < size)
    (genuine : packet.data = blocks packet.fecInfo.batchPos.toNat) :
    Holds blocks size (insert packet.fecInfo.batchPos.toNat received) (batch.add packet).1 ∧
      (batch.add packet).1.parity = batch.parity := by
  have guard := add_guard holds inside
  unfold add
  by_cases fresh : packet.fecInfo.batchPos.toNat ∉ received
  · rw [if_pos (guard.mpr fresh)]
    refine ⟨⟨holds.batchSize, ?_, ?_, ?_, ?_⟩, rfl⟩
    · intro pos member
      rcases Finset.mem_insert.mp member with rfl | old
      · exact inside
      · exact holds.inRange pos old
    · intro pos
      have same : pos = packet.fecInfo.batchPos ↔ pos.toNat = packet.fecInfo.batchPos.toNat :=
        UInt8.toNat_inj.symm
      simp [BatchMask.has_set, holds.mask, same]
    · have room := (guard.mpr fresh).1
      rw [UInt8.lt_iff_toNat_lt] at room
      have bound := batch.batchSize.toNat_lt
      rw [Finset.card_insert_of_notMem fresh, ← holds.count]
      simp only [UInt8.toNat_add, UInt8.toNat_one]
      omega
    · rw [ParityCode.parity_insert blocks fresh, ← holds.product, ← genuine]
      rfl
  · rw [if_neg (fun both => fresh (guard.mp both)), Finset.insert_eq_of_mem (not_not.mp fresh)]
    exact ⟨holds, rfl⟩

theorem addParity_holds {blocks : Nat → FecData} {size : Nat} {received : Finset Nat}
    {batch : InboundBatchData} (holds : Holds blocks size received batch) (parity : FecData) :
    Holds blocks size received (batch.addParity parity).1 ∧
      (batch.addParity parity).1.parity = some (batch.parity.getD parity) := by
  unfold addParity
  cases present : batch.parity with
  | some existing => simpa [present] using holds
  | none => exact ⟨⟨holds.batchSize, holds.inRange, holds.mask, holds.count, holds.product⟩, rfl⟩

theorem ready_iff {blocks : Nat → FecData} {size : Nat} {received : Finset Nat}
    {batch : InboundBatchData} (holds : Holds blocks size received batch) (positive : 0 < size) :
    batch.dataReceived = batch.batchSize - 1 ↔ received.card + 1 = size := by
  have count := holds.count
  have batchSize := holds.batchSize
  rw [← UInt8.toNat_inj, UInt8.toNat_sub_of_le, UInt8.toNat_one, count, batchSize]
  · omega
  · rw [UInt8.le_iff_toNat_le, UInt8.toNat_one, batchSize]
    exact positive

theorem exists_missing {blocks : Nat → FecData} {size : Nat} {received : Finset Nat}
    {batch : InboundBatchData} (holds : Holds blocks size received batch)
    (short : received.card + 1 = size) :
    ∃ missing, missing < size ∧ missing ∉ received ∧
      insert missing received = Finset.range size := by
  have inside : received ⊆ Finset.range size :=
    fun pos member => Finset.mem_range.mpr (holds.inRange pos member)
  have smaller : received.card < (Finset.range size).card := by
    rw [Finset.card_range]
    omega
  obtain ⟨missing, inRange, absent⟩ := Finset.exists_mem_notMem_of_card_lt_card smaller
  refine ⟨missing, Finset.mem_range.mp inRange, absent, ?_⟩
  refine Finset.eq_of_subset_of_card_le (Finset.insert_subset inRange inside) ?_
  rw [Finset.card_range, Finset.card_insert_of_notMem absent, short]

theorem recover_missing {blocks : Nat → FecData} {size missing : Nat} {received : Finset Nat}
    {batch : InboundBatchData} (holds : Holds blocks size received batch) (positive : 0 < size)
    (absent : missing ∉ received) (all : insert missing received = Finset.range size)
    (paritySum : batch.parity = some (ParityCode.parity blocks (Finset.range size))) :
    batch.recover = some (blocks missing) := by
  have short : received.card + 1 = size := by
    rw [← Finset.card_insert_of_notMem absent, all, Finset.card_range]
  rw [recover, if_pos ((ready_iff holds positive).mpr short), paritySum, Option.map_some,
    FecData.bitxor_eq_add, holds.product, ← all,
    ParityCode.recover_missing FecData.add_self blocks absent]

theorem recover_eq_none {blocks : Nat → FecData} {size : Nat} {received : Finset Nat}
    {batch : InboundBatchData} (holds : Holds blocks size received batch) (positive : 0 < size)
    (notReady : ¬ (received.card + 1 = size ∧ batch.parity.isSome = true)) :
    batch.recover = none := by
  rw [recover]
  split
  · rename_i count
    have short := (ready_iff holds positive).mp count
    cases present : batch.parity with
    | none => rfl
    | some block => exact absurd ⟨short, by rw [present]; rfl⟩ notReady
  · rfl

end InboundBatchData

/-! ## The sequential operations on one key -/

namespace Xor

/-- The batch a packet of this size meets under a key: the one in the map or a new one. -/
def batchAt (self : Xor) (key : MapKey) (size : UInt8) (now : Timestamp) : InboundBatchData :=
  (self.inbound.lookup key).getD (InboundBatchData.new size now)

theorem receivedAdd_eq {self : Xor} {ref : Nat} {packet : FecPacket} {batch : InboundBatchData}
    (found : self.inbound.read ref = some batch) :
    self.receivedAdd ref packet =
      ({ self with inbound := self.inbound.write ref (receivedBatch batch packet).1 },
        (receivedBatch batch packet).2) := by
  rw [receivedAdd, found]

/-- `received` changes the batch under the packet's key and answers from it. -/
theorem received_eq (self : Xor) (packet : FecPacket) (now : Timestamp) :
    (self.received packet now).1.inbound.lookup packet.key =
        some (receivedBatch (self.batchAt packet.key packet.fecInfo.batchSize now) packet).1 ∧
      (self.received packet now).2 =
        (receivedBatch (self.batchAt packet.key packet.fecInfo.batchSize now) packet).2 := by
  have read := self.inbound.read_entry packet.key (InboundBatchData.new packet.fecInfo.batchSize now)
  have refs := self.inbound.refs_entry packet.key (InboundBatchData.new packet.fecInfo.batchSize now)
  have added : self.received packet now = _ :=
    @receivedAdd_eq (self.receivedEntry packet now).2 _ packet _ read
  rw [added]
  refine ⟨?_, rfl⟩
  refine SharedMap.lookup_eq_some.mpr ⟨_, refs, ?_⟩
  exact SharedMap.read_write_self _ (SharedMap.read_lt read)

theorem recover_eq (self : Xor) (batchId : BatchId) (sessionId : SessionId) :
    (self.recover batchId sessionId).1.inbound.lookup (batchId, sessionId) = none ∧
      (self.recover batchId sessionId).2 =
        (self.inbound.lookup (batchId, sessionId)).bind fun batch =>
          batch.recover.map fun block => [RecoverdPacket.fromFecData block] := by
  constructor
  · have gone : (self.recover batchId sessionId).1.inbound.refs.get (batchId, sessionId) = none :=
      Table.get_remove_self _ _
    rw [SharedMap.lookup, gone, Option.bind_none]
  · exact (Option.bind_assoc _ _ _).symm

/-- `prune` takes keys out of the map and leaves the entries to the tasks that hold them. -/
theorem pruneRemove_cells (xor : Xor) (keys : List MapKey) :
    (xor.pruneRemove keys).1.inbound.cells = xor.inbound.cells := by
  induction keys generalizing xor with
  | nil => rfl
  | cons key rest ih => exact ih (xor.recoverRemove key).2

theorem refs_of_pruneRemove {xor : Xor} {keys : List MapKey} {key : MapKey} {ref : Nat}
    (present : (xor.pruneRemove keys).1.inbound.refs.get key = some ref) :
    xor.inbound.refs.get key = some ref := by
  induction keys generalizing xor with
  | nil => exact present
  | cons first rest ih => exact (Table.get_of_get_remove (ih present)).2

end Xor

end Ubass

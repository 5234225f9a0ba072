import Ubass.Fec.Xor

/-!
# Recovery of the missing block

What the receiver may be asked about one batch: its data packets and its parity
packet, in any order and with any repetition, and to recover it.  `Untaken` is
what a batch is for, the set of blocks that arrived since it was last taken and
whether the parity did; `Tracks` connects it to the map of batches.
-/

set_option autoImplicit false

namespace Ubass

structure SentBatch where
  batchId : BatchId
  sessionId : SessionId
  size : UInt8
  positive : 0 < size.toNat
  blocks : Nat → FecData
  recoveryCount : UInt8
  sentAt : Timestamp

namespace SentBatch

variable (batch : SentBatch)

def key : MapKey := (batch.batchId, batch.sessionId)

def dataPacket (pos : Fin batch.size.toNat) : FecPacket where
  isParity := false
  sessionId := batch.sessionId
  batchId := batch.batchId
  fecInfo := ⟨batch.size, UInt8.ofNat pos, batch.recoveryCount⟩
  data := batch.blocks pos

/-- The product after the blocks were added to an outbound batch in this order. -/
def product (order : List Nat) : FecData :=
  ((OutboundBatchData.new batch.size).addAll (order.map batch.blocks)).product

def parityPacket (order : List Nat) : FecPacket :=
  FecPacket.fromParityPacket
    (Xor.parityPacket (batch.dataPacket ⟨0, batch.positive⟩) (batch.product order) batch.sentAt)

end SentBatch

/-- One call about a batch of `size` blocks. -/
inductive BatchCall (size : Nat) where
  | data (pos : Fin size)
  | parity
  | recover
deriving DecidableEq

/-- What arrived of a batch since it was last taken. -/
structure Untaken where
  data : Finset Nat
  parity : Bool

namespace Untaken

def empty : Untaken := ⟨∅, false⟩

def after {size : Nat} (untaken : Untaken) : BatchCall size → Untaken
  | .data pos => { untaken with data := insert pos.val untaken.data }
  | .parity => { untaken with parity := true }
  | .recover => empty

/-- What arrived after the last call of `recover` among these calls. -/
def of {size : Nat} (calls : List (BatchCall size)) : Untaken := calls.foldl after empty

def Ready (untaken : Untaken) (size : Nat) : Prop :=
  untaken.data.card + 1 = size ∧ untaken.parity = true

instance (untaken : Untaken) (size : Nat) : Decidable (untaken.Ready size) :=
  inferInstanceAs (Decidable (_ ∧ _))

end Untaken

namespace SentBatch

def call (batch : SentBatch) (order : List Nat) (xor : Xor) :
    BatchCall batch.size.toNat × Timestamp → Xor
  | (.data pos, now) => (xor.received (batch.dataPacket pos) now).1
  | (.parity, now) => (xor.received (batch.parityPacket order) now).1
  | (.recover, _) => (xor.recover batch.batchId batch.sessionId).1

def calls (batch : SentBatch) (order : List Nat) (xor : Xor)
    (made : List (BatchCall batch.size.toNat × Timestamp)) : Xor :=
  made.foldl (batch.call order) xor

/-! ## The parity of a batch -/

theorem addAll_product (outbound : OutboundBatchData) (blocks : List FecData) :
    (outbound.addAll blocks).product = outbound.product + blocks.sum := by
  induction blocks generalizing outbound with
  | nil => rw [List.sum_nil, add_zero]; rfl
  | cons block rest ih =>
      have step : outbound.addAll (block :: rest) = (outbound.add block).1.addAll rest := rfl
      rw [step, ih, List.sum_cons, ← add_assoc]
      rfl

theorem product_eq_parity (batch : SentBatch) {order : List Nat}
    (each : order.Perm (List.range batch.size.toNat)) :
    batch.product order = ParityCode.parity batch.blocks (Finset.range batch.size.toNat) := by
  have distinct : order.Nodup := each.nodup_iff.mpr List.nodup_range
  have positions : order.toFinset = Finset.range batch.size.toNat := by
    ext pos
    rw [List.mem_toFinset, each.mem_iff, List.mem_range, Finset.mem_range]
  rw [product, addAll_product, ParityCode.sum_map_eq_parity batch.blocks distinct, positions]
  exact zero_add _

theorem parityPacket_data (batch : SentBatch) {order : List Nat}
    (each : order.Perm (List.range batch.size.toNat)) :
    (batch.parityPacket order).data =
      ParityCode.parity batch.blocks (Finset.range batch.size.toNat) := by
  rw [parityPacket, FecPacket.data_fromParityPacket rfl, product_eq_parity batch each]

/-! ## The map of batches refines what arrived -/

/-- A batch of the map is what arrived of the batch that was sent. -/
structure Represents (batch : SentBatch) (untaken : Untaken) (entry : InboundBatchData) : Prop where
  holds : entry.Holds batch.blocks batch.size.toNat untaken.data
  parity : entry.parity =
    if untaken.parity then some (ParityCode.parity batch.blocks (Finset.range batch.size.toNat))
    else none

/-- Whatever the next packet of the batch meets in the map is what arrived. -/
structure Tracks (batch : SentBatch) (untaken : Untaken) (xor : Xor) : Prop where
  represents : ∀ now, Represents batch untaken (xor.batchAt batch.key batch.size now)

theorem tracks_of_absent {batch : SentBatch} {xor : Xor}
    (absent : xor.inbound.lookup batch.key = none) : Tracks batch Untaken.empty xor where
  represents now := by
    rw [Xor.batchAt, absent]
    exact ⟨InboundBatchData.new_holds batch.blocks batch.size now, rfl⟩

theorem tracks_of_present {batch : SentBatch} {untaken : Untaken} {xor : Xor}
    {entry : InboundBatchData} (present : xor.inbound.lookup batch.key = some entry)
    (represents : Represents batch untaken entry) : Tracks batch untaken xor where
  represents now := by
    rw [Xor.batchAt, present]
    exact represents

theorem toNat_pos {size : UInt8} (pos : Fin size.toNat) : (UInt8.ofNat pos).toNat = pos.val := by
  have bound := size.toNat_lt
  rw [UInt8.toNat_ofNat']
  exact Nat.mod_eq_of_lt (by omega)

theorem ready_of_represents {batch : SentBatch} {untaken : Untaken} {entry : InboundBatchData}
    (represents : Represents batch untaken entry) :
    (entry.dataReceived = entry.batchSize - 1 && entry.parity.isSome) = true ↔
      untaken.Ready batch.size.toNat := by
  have count := InboundBatchData.ready_iff represents.holds batch.positive
  rw [Bool.and_eq_true, decide_eq_true_eq, count, represents.parity, Untaken.Ready]
  cases untaken.parity <;> simp

theorem data_represents {batch : SentBatch} {untaken : Untaken} {entry : InboundBatchData}
    (represents : Represents batch untaken entry) (pos : Fin batch.size.toNat) :
    Represents batch (untaken.after (.data pos))
      (Xor.receivedBatch entry (batch.dataPacket pos)).1 := by
  have position : (batch.dataPacket pos).fecInfo.batchPos.toNat = pos.val := toNat_pos pos
  obtain ⟨holds, parity⟩ := InboundBatchData.add_holds represents.holds
    (position.trans_lt pos.isLt : (batch.dataPacket pos).fecInfo.batchPos.toNat < _)
    (congrArg batch.blocks position.symm)
  rw [position] at holds
  exact ⟨holds, parity.trans represents.parity⟩

theorem parity_represents {batch : SentBatch} {untaken : Untaken} {entry : InboundBatchData}
    {order : List Nat} (each : order.Perm (List.range batch.size.toNat))
    (represents : Represents batch untaken entry) :
    Represents batch (untaken.after (.parity : BatchCall batch.size.toNat))
      (Xor.receivedBatch entry (batch.parityPacket order)).1 := by
  obtain ⟨holds, parity⟩ := InboundBatchData.addParity_holds represents.holds
    (batch.parityPacket order).data
  refine ⟨holds, parity.trans ?_⟩
  rw [represents.parity, parityPacket_data batch each]
  cases untaken.parity <;> rfl

theorem call_tracks {batch : SentBatch} {untaken : Untaken} {xor : Xor} {order : List Nat}
    (each : order.Perm (List.range batch.size.toNat)) (tracks : Tracks batch untaken xor)
    (made : BatchCall batch.size.toNat × Timestamp) :
    Tracks batch (untaken.after made.1) (batch.call order xor made) := by
  obtain ⟨call, now⟩ := made
  cases call with
  | data pos =>
      exact tracks_of_present (xor.received_eq (batch.dataPacket pos) now).1
        (data_represents (tracks.represents now) pos)
  | parity =>
      exact tracks_of_present (xor.received_eq (batch.parityPacket order) now).1
        (parity_represents each (tracks.represents now))
  | recover => exact tracks_of_absent (xor.recover_eq batch.batchId batch.sessionId).1

theorem calls_tracks {batch : SentBatch} {untaken : Untaken} {xor : Xor} {order : List Nat}
    (each : order.Perm (List.range batch.size.toNat)) (tracks : Tracks batch untaken xor)
    (made : List (BatchCall batch.size.toNat × Timestamp)) :
    Tracks batch ((made.map Prod.fst).foldl Untaken.after untaken) (batch.calls order xor made) := by
  induction made generalizing untaken xor with
  | nil => exact tracks
  | cons call rest ih => exact ih (call_tracks each tracks call)

/-! ## What `received` and `recover` answer -/

theorem received_data_iff {batch : SentBatch} {untaken : Untaken} {xor : Xor}
    (tracks : Tracks batch untaken xor) (pos : Fin batch.size.toNat) (now : Timestamp) :
    (xor.received (batch.dataPacket pos) now).2 = true ↔
      (untaken.after (.data pos)).Ready batch.size.toNat := by
  rw [(xor.received_eq (batch.dataPacket pos) now).2]
  exact ready_of_represents (data_represents (tracks.represents now) pos)

theorem received_parity_iff {batch : SentBatch} {untaken : Untaken} {xor : Xor}
    {order : List Nat} (each : order.Perm (List.range batch.size.toNat))
    (tracks : Tracks batch untaken xor) (now : Timestamp) :
    (xor.received (batch.parityPacket order) now).2 = true ↔
      (untaken.after (.parity : BatchCall batch.size.toNat)).Ready batch.size.toNat := by
  rw [(xor.received_eq (batch.parityPacket order) now).2]
  exact ready_of_represents (parity_represents each (tracks.represents now))

theorem recover_of_ready {batch : SentBatch} {untaken : Untaken} {xor : Xor}
    (tracks : Tracks batch untaken xor) (ready : untaken.Ready batch.size.toNat) :
    ∃ missing < batch.size.toNat, missing ∉ untaken.data ∧
      insert missing untaken.data = Finset.range batch.size.toNat ∧
      (xor.recover batch.batchId batch.sessionId).2 =
        some [RecoverdPacket.fromFecData (batch.blocks missing)] := by
  have represents := tracks.represents batch.sentAt
  obtain ⟨missing, inside, absent, all⟩ :=
    InboundBatchData.exists_missing represents.holds ready.1
  refine ⟨missing, inside, absent, all, ?_⟩
  rw [(xor.recover_eq batch.batchId batch.sessionId).2]
  have paritySum := represents.parity
  rw [if_pos ready.2] at paritySum
  cases present : xor.inbound.lookup (batch.batchId, batch.sessionId) with
  | none =>
      rw [Xor.batchAt, key, present] at paritySum
      cases paritySum
  | some entry =>
      have same : xor.batchAt batch.key batch.size batch.sentAt = entry := by
        rw [Xor.batchAt, key, present]
        rfl
      rw [same] at represents paritySum
      rw [Option.bind_some, InboundBatchData.recover_missing represents.holds batch.positive absent
        all paritySum]
      rfl

theorem recover_of_not_ready {batch : SentBatch} {untaken : Untaken} {xor : Xor}
    (tracks : Tracks batch untaken xor) (notReady : ¬ untaken.Ready batch.size.toNat) :
    (xor.recover batch.batchId batch.sessionId).2 = none := by
  have represents := tracks.represents batch.sentAt
  rw [(xor.recover_eq batch.batchId batch.sessionId).2]
  cases present : xor.inbound.lookup (batch.batchId, batch.sessionId) with
  | none => rfl
  | some entry =>
      have same : xor.batchAt batch.key batch.size batch.sentAt = entry := by
        rw [Xor.batchAt, key, present]
        rfl
      rw [same] at represents
      rw [Option.bind_some, InboundBatchData.recover_eq_none represents.holds batch.positive]
      · rfl
      · rintro ⟨short, some⟩
        refine notReady ⟨short, ?_⟩
        rw [represents.parity] at some
        cases parity : untaken.parity with
        | true => rfl
        | false => simp [parity] at some

/-- After any calls about a batch, `received` answers `true` exactly when all blocks but one and
the parity arrived since the batch was last taken, and `recover` yields the missing block
exactly then. -/
theorem recovery_exact (batch : SentBatch) (order : List Nat)
    (each : order.Perm (List.range batch.size.toNat)) (xor : Xor)
    (fresh : xor.inbound.lookup batch.key = none)
    (made : List (BatchCall batch.size.toNat × Timestamp)) (now : Timestamp) :
    (∀ pos, ((batch.calls order xor made).received (batch.dataPacket pos) now).2 = true ↔
        ((Untaken.of (made.map Prod.fst)).after (.data pos)).Ready batch.size.toNat) ∧
      (((batch.calls order xor made).received (batch.parityPacket order) now).2 = true ↔
        ((Untaken.of (made.map Prod.fst)).after (.parity : BatchCall batch.size.toNat)).Ready
          batch.size.toNat) ∧
      ((Untaken.of (made.map Prod.fst)).Ready batch.size.toNat →
        ∃ missing < batch.size.toNat, missing ∉ (Untaken.of (made.map Prod.fst)).data ∧
          insert missing (Untaken.of (made.map Prod.fst)).data =
            Finset.range batch.size.toNat ∧
          ((batch.calls order xor made).recover batch.batchId batch.sessionId).2 =
            some [RecoverdPacket.fromFecData (batch.blocks missing)]) ∧
      (¬ (Untaken.of (made.map Prod.fst)).Ready batch.size.toNat →
        ((batch.calls order xor made).recover batch.batchId batch.sessionId).2 = none) := by
  have tracks := calls_tracks each (tracks_of_absent fresh) made
  exact ⟨fun pos => received_data_iff tracks pos now, received_parity_iff each tracks now,
    recover_of_ready tracks, recover_of_not_ready tracks⟩

def three : SentBatch where
  batchId := ⟨1⟩
  sessionId := ⟨7⟩
  size := 3
  positive := by decide
  blocks pos := ⟨List.replicate fecDataSize (UInt8.ofNat pos), List.length_replicate⟩
  recoveryCount := 1
  sentAt := ⟨0, Timestamp.zero_lt⟩

theorem recovery_exact_three :
    ((three.calls [2, 0, 1] Xor.new
      [(.data ⟨2, by decide⟩, three.sentAt), (.parity, three.sentAt),
        (.data ⟨2, by decide⟩, three.sentAt), (.data ⟨0, by decide⟩, three.sentAt)]).recover
        three.batchId three.sessionId).2 =
      some [RecoverdPacket.fromFecData (three.blocks 1)] := by
  obtain ⟨missing, inside, absent, _, recovered⟩ :=
    (recovery_exact three [2, 0, 1] (by decide) Xor.new rfl
      [(.data ⟨2, by decide⟩, three.sentAt), (.parity, three.sentAt),
        (.data ⟨2, by decide⟩, three.sentAt), (.data ⟨0, by decide⟩, three.sentAt)]
      three.sentAt).2.2.1 (by decide)
  have positions : ∀ pos < 3, pos ∉ ({0, 2} : Finset Nat) → pos = 1 := by decide
  have one : missing = 1 := positions missing inside (by
    intro member
    refine absent ?_
    rcases Finset.mem_insert.mp member with rfl | last
    · decide
    · cases Finset.mem_singleton.mp last
      decide)
  rw [recovered, one]

end SentBatch
end Ubass

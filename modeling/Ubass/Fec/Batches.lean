import Ubass.Fec.Xor
import Ubass.Manager.Receive

/-!
# The batches of one session

`received`, `recover` and `prune` of `packet_processor/fec/xor.rs`, each taken to its
end.  Both maps are shared by all sessions; what they hold for one of them depends on
its own packets alone.
-/

set_option autoImplicit false

namespace Ubass

namespace Xor

variable {own : SessionId} {left right : Xor}

def batches (own : SessionId) (self : Xor) : BatchId → Option InboundBatchData :=
  fun batchId => self.inbound.lookup (batchId, own)

/-- `fec::received` and, once the batch is ready, `fec::recover`. -/
def receivedRecover (self : Xor) (packet : FecPacket) (now : Timestamp) :
    Xor × Option Recovered :=
  let (xor, ready) := self.received packet now
  if ready then
    let (rest, packets) := xor.recover packet.batchId packet.sessionId
    (rest, packets.map fun packets => ⟨packet.sessionId, packet.batchId, packets⟩)
  else (xor, none)

theorem received_step (self : Xor) (packet : FecPacket) (now : Timestamp) :
    ∃ batch, (self.received packet now).1.inbound =
      (self.receivedEntry packet now).2.inbound.write (self.receivedEntry packet now).1 batch := by
  have read := self.inbound.read_entry packet.key
    (InboundBatchData.new packet.fecInfo.batchSize now)
  have added : self.received packet now = _ :=
    @receivedAdd_eq (self.receivedEntry packet now).2 _ packet _ read
  exact ⟨_, congrArg (fun result : Xor × Bool => result.1.inbound) added⟩

theorem separate_received {self : Xor} (separate : self.inbound.Separate) (packet : FecPacket)
    (now : Timestamp) : (self.received packet now).1.inbound.Separate := by
  obtain ⟨batch, stored⟩ := self.received_step packet now
  rw [stored]
  exact separate.entry packet.key _

theorem lookup_received_of_ne {self : Xor} (separate : self.inbound.Separate)
    (packet : FecPacket) (now : Timestamp) {key : MapKey} (different : key ≠ packet.key) :
    (self.received packet now).1.inbound.lookup key = self.inbound.lookup key := by
  obtain ⟨batch, stored⟩ := self.received_step packet now
  rw [stored]
  exact ((separate.entry packet.key _).lookup_write_of_ne batch
    (self.inbound.refs_entry packet.key _) different).trans
    (SharedMap.lookup_entry_of_ne packet.key _ different)

theorem lookup_recover (self : Xor) (batchId : BatchId) (sessionId : SessionId) (key : MapKey) :
    (self.recover batchId sessionId).1.inbound.lookup key =
      if key = (batchId, sessionId) then none else self.inbound.lookup key :=
  SharedMap.lookup_remove (batchId, sessionId) key

theorem separate_receivedRecover {self : Xor} (separate : self.inbound.Separate)
    (packet : FecPacket) (now : Timestamp) :
    (self.receivedRecover packet now).1.inbound.Separate := by
  have received := separate_received separate packet now
  unfold receivedRecover
  dsimp only
  split
  · exact received.remove _
  · exact received

theorem batches_receivedRecover_of_ne {self : Xor} (separate : self.inbound.Separate)
    {packet : FecPacket} (foreign : packet.sessionId ≠ own) (now : Timestamp) :
    (self.receivedRecover packet now).1.batches own = self.batches own := by
  have other : ∀ batchId, (batchId, own) ≠ (packet.batchId, packet.sessionId) :=
    fun batchId same => foreign (congrArg Prod.snd same).symm
  funext batchId
  have received := lookup_received_of_ne separate packet now (other batchId)
  unfold receivedRecover
  dsimp only
  split
  · exact ((lookup_recover _ _ _ _).trans (if_neg (other batchId))).trans received
  · exact received

theorem receivedRecover_alike (leftSeparate : left.inbound.Separate)
    (rightSeparate : right.inbound.Separate) {packet : FecPacket}
    (same : left.batches packet.sessionId = right.batches packet.sessionId) (now : Timestamp) :
    (left.receivedRecover packet now).1.batches packet.sessionId =
        (right.receivedRecover packet now).1.batches packet.sessionId ∧
      (left.receivedRecover packet now).2 = (right.receivedRecover packet now).2 := by
  have here : left.inbound.lookup packet.key = right.inbound.lookup packet.key :=
    congrFun same packet.batchId
  have at' : left.batchAt packet.key packet.fecInfo.batchSize now =
      right.batchAt packet.key packet.fecInfo.batchSize now := by
    rw [batchAt, batchAt, here]
  obtain ⟨leftLeads, leftReady⟩ := left.received_eq packet now
  obtain ⟨rightLeads, rightReady⟩ := right.received_eq packet now
  have batches : ∀ batchId,
      (left.received packet now).1.inbound.lookup (batchId, packet.sessionId) =
        (right.received packet now).1.inbound.lookup (batchId, packet.sessionId) := by
    intro batchId
    by_cases this : (batchId, packet.sessionId) = packet.key
    · rw [this, leftLeads, rightLeads, at']
    · rw [lookup_received_of_ne leftSeparate packet now this,
        lookup_received_of_ne rightSeparate packet now this]
      exact congrFun same batchId
  have ready : (left.received packet now).2 = (right.received packet now).2 := by
    rw [leftReady, rightReady, at']
  rw [receivedRecover, receivedRecover]
  dsimp only
  rw [ready]
  split
  · constructor
    · funext batchId
      show (Xor.recover _ _ _).1.inbound.lookup _ = (Xor.recover _ _ _).1.inbound.lookup _
      rw [lookup_recover, lookup_recover, batches]
    · dsimp only
      rw [(recover_eq _ _ _).2, (recover_eq _ _ _).2, batches]
  · exact ⟨funext batches, rfl⟩

/-! ### The sweep -/

/-- `fec::prune` for these keys, with what it answers. -/
def pruned (self : Xor) (keys : List MapKey) :
    Xor × List (SessionId × BatchId × List BytePosition) :=
  let (xor, removed) := self.pruneRemove keys
  (xor, xor.pruneMissing removed)

def missingAt (self : Xor) (key : MapKey) : List (SessionId × BatchId × List BytePosition) :=
  ((self.inbound.lookup key).map fun batch => (key.2, key.1, batch.missingPositions)).toList

theorem pruned_cons (self : Xor) (key : MapKey) (rest : List MapKey) :
    self.pruned (key :: rest) =
      (((self.recoverRemove key).2.pruned rest).1,
        self.missingAt key ++ ((self.recoverRemove key).2.pruned rest).2) := by
  have cells : ((self.recoverRemove key).2.pruneRemove rest).1.inbound.cells =
      self.inbound.cells := pruneRemove_cells _ rest
  have first : ((self.recoverRemove key).2.pruneRemove rest).1.pruneMissing
      (((self.recoverRemove key).1.map fun ref => (key, ref)).toList) = self.missingAt key := by
    have leads : (self.recoverRemove key).1 = self.inbound.refs.get key := rfl
    rw [leads, missingAt, SharedMap.lookup]
    cases self.inbound.refs.get key with
    | none => rfl
    | some ref =>
        have read : ((self.recoverRemove key).2.pruneRemove rest).1.inbound.read ref =
            self.inbound.read ref := by
          rw [SharedMap.read, cells]
          rfl
        simp only [pruneMissing, Option.map_some, Option.toList_some, List.filterMap_cons,
          List.filterMap_nil, read, Option.bind_some]
        cases self.inbound.read ref <;> rfl
  rw [← first]
  simp only [pruned, pruneRemove, pruneMissing, List.filterMap_append]

theorem separate_pruned {self : Xor} (separate : self.inbound.Separate) (keys : List MapKey) :
    (self.pruned keys).1.inbound.Separate := by
  induction keys generalizing self with
  | nil => exact separate
  | cons key rest ih =>
      rw [pruned_cons]
      exact @ih (self.recoverRemove key).2 (separate.remove key)

theorem batches_recoverRemove (self : Xor) (key : MapKey) (batchId : BatchId) :
    (self.recoverRemove key).2.batches own batchId =
      if (batchId, own) = key then none else self.batches own batchId :=
  SharedMap.lookup_remove key (batchId, own)

def about (own : SessionId) (expired : List (SessionId × BatchId × List BytePosition)) :
    List (SessionId × BatchId × List BytePosition) :=
  expired.filter fun entry => entry.1 = own

theorem pruned_of_ne {self : Xor} {keys : List MapKey} (foreign : ∀ key ∈ keys, key.2 ≠ own) :
    (self.pruned keys).1.batches own = self.batches own ∧
      about own (self.pruned keys).2 = [] := by
  induction keys generalizing self with
  | nil => exact ⟨rfl, rfl⟩
  | cons key rest ih =>
      have here := foreign key List.mem_cons_self
      obtain ⟨batches, others⟩ := @ih (self.recoverRemove key).2
        fun other listed => foreign other (List.mem_cons_of_mem _ listed)
      rw [pruned_cons]
      constructor
      · rw [batches]
        funext batchId
        rw [batches_recoverRemove, if_neg fun same => here (congrArg Prod.snd same).symm]
      · rw [about, List.filter_append, missingAt]
        rw [about] at others
        rw [others]
        cases self.inbound.lookup key with
        | none => rfl
        | some batch => simp [here]

theorem pruned_alike (same : left.batches own = right.batches own) (keys : List MapKey) :
    (left.pruned keys).1.batches own = (right.pruned keys).1.batches own ∧
      about own (left.pruned keys).2 = about own (right.pruned keys).2 := by
  induction keys generalizing left right with
  | nil => exact ⟨same, rfl⟩
  | cons key rest ih =>
      have next : (left.recoverRemove key).2.batches own =
          (right.recoverRemove key).2.batches own := by
        funext batchId
        rw [batches_recoverRemove, batches_recoverRemove, same]
      have first : about own (left.missingAt key) = about own (right.missingAt key) := by
        by_cases here : key.2 = own
        · subst here
          have lookup : left.inbound.lookup key = right.inbound.lookup key :=
            congrFun same key.1
          rw [missingAt, missingAt, lookup]
        · have none : ∀ xor : Xor, about own (xor.missingAt key) = [] := by
            intro xor
            rw [about, missingAt]
            cases xor.inbound.lookup key with
            | none => rfl
            | some batch => simp [here]
          rw [none, none]
      obtain ⟨batches, others⟩ := ih next
      rw [pruned_cons, pruned_cons]
      refine ⟨batches, ?_⟩
      show about own (_ ++ _) = about own (_ ++ _)
      rw [about, about, List.filter_append, List.filter_append]
      exact congrArg₂ (· ++ ·) first others

end Xor

end Ubass

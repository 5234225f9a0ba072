import Ubass.Exchange.Sent

/-!
# The parity packets of a sender

The tasks of one batch meet at the entry that the first of them creates.  Where
they are together is one of five stages (`Stage`); the stages of different batches
do not disturb each other as long as no task finds an entry of another batch.
-/

set_option autoImplicit false

namespace Ubass

namespace SentPhase

def isAdded : SentPhase → Bool
  | entering | adding _ => false
  | removing | building _ | finished => true

end SentPhase

namespace Sender

section SetPhase

variable (state : Sender) (batch pos : Nat) (phase : SentPhase)

@[simp] theorem setPhase_self : state.setPhase batch pos phase batch pos = phase := by
  simp [setPhase]

theorem setPhase_of_pos_ne {other : Nat} (different : other ≠ pos) :
    state.setPhase batch pos phase batch other = state.phase batch other := by
  simp [setPhase, different]

theorem setPhase_of_batch_ne {other : Nat} (different : other ≠ batch) :
    state.setPhase batch pos phase other = state.phase other := by
  simp [setPhase, different]

end SetPhase

def added (state : Sender) (number : Nat) (batch : Batch) : Finset Nat :=
  (Finset.range batch.size).filter fun pos => (state.phase number pos).isAdded = true

theorem mem_added {state : Sender} {number pos : Nat} {batch : Batch} :
    pos ∈ state.added number batch ↔
      pos < batch.size ∧ (state.phase number pos).isAdded = true := by
  rw [added, Finset.mem_filter, Finset.mem_range]

/-- Where the tasks of a batch are: none has looked its entry up; the entry is in the map and
takes blocks; the last block has made it full; it was taken out of the map; all are done. -/
inductive Stage (setup : Setup) (number : Nat) (batch : Batch) (state : Sender) : Prop
  | waiting (unseen : ∀ ref < state.xor.outbound.cells.length, state.owner ref ≠ number)
      (all : ∀ pos < batch.size, state.phase number pos = .entering)
  | filling (ref : Nat) (present : state.xor.outbound.refs.get (batch.key setup) = some ref)
      (owned : state.owner ref = number)
      (entry : state.xor.outbound.read ref =
        some ⟨ParityCode.parity (batch.block setup) (state.added number batch), batch.size,
          (state.added number batch).card⟩)
      (all : ∀ pos < batch.size, state.phase number pos = .entering ∨
        state.phase number pos = .adding ref ∨ state.phase number pos = .finished)
  | full (ref last : Nat) (present : state.xor.outbound.refs.get (batch.key setup) = some ref)
      (owned : state.owner ref = number)
      (entry : state.xor.outbound.read ref = some ⟨batch.parity setup, batch.size, batch.size⟩)
      (removing : state.phase number last = .removing)
      (others : ∀ pos < batch.size, pos ≠ last → state.phase number pos = .finished)
  | building (ref last : Nat) (owned : state.owner ref = number)
      (entry : state.xor.outbound.read ref = some ⟨batch.parity setup, batch.size, batch.size⟩)
      (taken : state.phase number last = .building ref)
      (others : ∀ pos < batch.size, pos ≠ last → state.phase number pos = .finished)
  | done (all : ∀ pos < batch.size, state.phase number pos = .finished)

/-- A step that leaves the entries of a batch, and its tasks, where they are. -/
structure Undisturbed (number : Nat) (state next : Sender) : Prop where
  phase : next.phase number = state.phase number
  origin : ∀ ref < next.xor.outbound.cells.length, next.owner ref = number →
    ref < state.xor.outbound.cells.length ∧ state.owner ref = number
  kept : ∀ ref < state.xor.outbound.cells.length, state.owner ref = number →
    next.owner ref = number ∧ next.xor.outbound.read ref = state.xor.outbound.read ref
  refs : ∀ key ref, state.xor.outbound.refs.get key = some ref → state.owner ref = number →
    next.xor.outbound.refs.get key = some ref

theorem Undisturbed.of_phase {number : Nat} {state next : Sender}
    (phase : next.phase number = state.phase number) (owner : next.owner = state.owner)
    (outbound : next.xor.outbound = state.xor.outbound) : Undisturbed number state next := by
  refine ⟨phase, ?_, ?_, ?_⟩
  · intro ref inside owned
    rw [outbound] at inside
    rw [owner] at owned
    exact ⟨inside, owned⟩
  · intro ref _ owned
    rw [owner, outbound]
    exact ⟨owned, rfl⟩
  · intro key ref present _
    rw [outbound]
    exact present

theorem Undisturbed.stage {setup : Setup} {number : Nat} {batch : Batch} {state next : Sender}
    (undisturbed : Undisturbed number state next) (stage : Stage setup number batch state) :
    Stage setup number batch next := by
  have phase := undisturbed.phase
  have sameAdded : next.added number batch = state.added number batch := by
    rw [added, added, phase]
  cases stage with
  | waiting unseen all =>
      refine .waiting ?_ (phase ▸ all)
      intro ref inside owned
      obtain ⟨before, mine⟩ := undisturbed.origin ref inside owned
      exact unseen ref before mine
  | filling ref present owned entry all =>
      obtain ⟨stillOwned, same⟩ := undisturbed.kept ref (SharedMap.read_lt entry) owned
      exact .filling ref (undisturbed.refs _ ref present owned) stillOwned
        (by rw [same, sameAdded]; exact entry) (phase ▸ all)
  | full ref last present owned entry removing others =>
      obtain ⟨stillOwned, same⟩ := undisturbed.kept ref (SharedMap.read_lt entry) owned
      exact .full ref last (undisturbed.refs _ ref present owned) stillOwned (same.trans entry)
        (phase ▸ removing) (phase ▸ others)
  | building ref last owned entry taken others =>
      obtain ⟨stillOwned, same⟩ := undisturbed.kept ref (SharedMap.read_lt entry) owned
      exact .building ref last stillOwned (same.trans entry) (phase ▸ taken) (phase ▸ others)
  | done all => exact .done (phase ▸ all)

theorem at_last {state : Sender} {number size last pos : Nat} {left phase : SentPhase}
    (taken : state.phase number last = left)
    (others : ∀ pos < size, pos ≠ last → state.phase number pos = .finished) (inside : pos < size)
    (before : state.phase number pos = phase) (unfinished : phase ≠ .finished) :
    pos = last ∧ left = phase := by
  by_cases same : pos = last
  · subst same
    exact ⟨rfl, taken.symm.trans before⟩
  · exact absurd (before.symm.trans (others pos inside same)) unfinished

theorem Stage.owns {setup : Setup} {number pos ref : Nat} {batch : Batch} {state : Sender}
    (stage : Stage setup number batch state) (inside : pos < batch.size)
    (phase : state.phase number pos = .adding ref) :
    state.owner ref = number ∧ state.xor.outbound.refs.get (batch.key setup) = some ref := by
  cases stage with
  | waiting _ all => rw [all pos inside] at phase; cases phase
  | filling other present owned _ all =>
      rcases all pos inside with same | same | same <;> rw [same] at phase <;> cases phase
      exact ⟨owned, present⟩
  | full other last _ _ _ removing others =>
      cases (at_last removing others inside phase (by simp)).2
  | building other last _ _ taken others =>
      cases (at_last taken others inside phase (by simp)).2
  | done all => rw [all pos inside] at phase; cases phase

theorem Stage.full_of_removing {setup : Setup} {number pos : Nat} {batch : Batch} {state : Sender}
    (stage : Stage setup number batch state) (inside : pos < batch.size)
    (phase : state.phase number pos = .removing) :
    ∃ ref, state.xor.outbound.refs.get (batch.key setup) = some ref ∧ state.owner ref = number ∧
      state.xor.outbound.read ref = some ⟨batch.parity setup, batch.size, batch.size⟩ ∧
      ∀ other < batch.size, other ≠ pos → state.phase number other = .finished := by
  cases stage with
  | waiting _ all => rw [all pos inside] at phase; cases phase
  | filling other _ _ _ all =>
      rcases all pos inside with same | same | same <;> rw [same] at phase <;> cases phase
  | full ref last present owned entry removing others =>
      obtain ⟨same, -⟩ := at_last removing others inside phase (by simp)
      subst same
      exact ⟨ref, present, owned, entry, others⟩
  | building other last _ _ taken others =>
      cases (at_last taken others inside phase (by simp)).2
  | done all => rw [all pos inside] at phase; cases phase

theorem Stage.entry_of_building {setup : Setup} {number pos ref : Nat} {batch : Batch}
    {state : Sender} (stage : Stage setup number batch state) (inside : pos < batch.size)
    (phase : state.phase number pos = .building ref) :
    state.xor.outbound.read ref = some ⟨batch.parity setup, batch.size, batch.size⟩ ∧
      ∀ other < batch.size, other ≠ pos → state.phase number other = .finished := by
  cases stage with
  | waiting _ all => rw [all pos inside] at phase; cases phase
  | filling other _ _ _ all =>
      rcases all pos inside with same | same | same <;> rw [same] at phase <;> cases phase
  | full other last _ _ _ removing others =>
      cases (at_last removing others inside phase (by simp)).2
  | building other last _ entry taken others =>
      obtain ⟨same, found⟩ := at_last taken others inside phase (by simp)
      cases found
      exact ⟨entry, same ▸ others⟩
  | done all => rw [all pos inside] at phase; cases phase

theorem SentStep.undisturbed {setup : Setup} {state next : Sender} {number other pos : Nat}
    {batch : Batch} {packet : FecPacket} (step : SentStep state number pos packet next)
    (stage : Stage setup number batch state) (packetAt : batch.FecPacketAt setup pos packet)
    (different : other ≠ number) : Undisturbed other state next := by
  cases step with
  | found ref phase present =>
      exact .of_phase (setPhase_of_batch_ne state number pos _ different) rfl rfl
  | allocated xor phase absent refs cells =>
      refine ⟨setPhase_of_batch_ne state number pos _ different, ?_, ?_, ?_⟩
      · intro ref inside owned
        simp only [cells, List.length_append, List.length_singleton] at inside
        by_cases newest : ref = state.xor.outbound.cells.length
        · subst newest
          simp only [Function.update_self] at owned
          exact absurd owned.symm different
        · simp only [Function.update_of_ne newest] at owned
          exact ⟨by omega, owned⟩
      · intro ref inside owned
        refine ⟨(Function.update_of_ne inside.ne _ _).trans owned, ?_⟩
        simp only [SharedMap.read, cells, List.getElem?_append_left inside]
      · intro key ref present _
        have distinct : key ≠ packet.key := by
          rintro rfl
          rw [absent] at present
          cases present
        simp only [refs, Table.get_insert_of_ne _ _ distinct]
        exact present
  | lost ref phase missing =>
      exact .of_phase (setPhase_of_batch_ne state number pos _ different) rfl rfl
  | added ref entry phase present =>
      refine ⟨setPhase_of_batch_ne state number pos _ different, ?_, ?_,
        fun _ _ present _ => present⟩
      · intro other inside owned
        simp only [SharedMap.length_cells_write] at inside
        exact ⟨inside, owned⟩
      · intro elsewhere _ owned
        refine ⟨owned, SharedMap.read_write_of_ne _ _ ?_⟩
        rintro rfl
        exact different (owned.symm.trans (stage.owns packetAt.inside phase).1)
  | removed ref phase present =>
      refine ⟨setPhase_of_batch_ne state number pos _ different,
        fun _ inside owned => ⟨inside, owned⟩, fun _ _ owned => ⟨owned, rfl⟩, ?_⟩
      intro key elsewhere found owned
      obtain ⟨mine, atKey, ownedMine, _⟩ := stage.full_of_removing packetAt.inside phase
      refine (Table.get_remove_of_ne _ ?_).trans found
      rintro rfl
      rw [packetAt.key, atKey] at found
      cases found
      exact different (owned.symm.trans ownedMine)
  | built ref entry now phase present =>
      exact .of_phase (setPhase_of_batch_ne state number pos _ different) rfl rfl

/-! ## The stage of the batch itself -/

theorem added_setPhase_adding {state : Sender} {number pos : Nat} {batch : Batch} {next : Sender}
    (ref : Nat) (before : state.phase number pos = .entering)
    (phase : next.phase = state.setPhase number pos (.adding ref)) :
    next.added number batch = state.added number batch := by
  ext other
  rw [mem_added, mem_added, phase]
  by_cases same : other = pos
  · subst same
    rw [setPhase_self, before]
    rfl
  · rw [setPhase_of_pos_ne _ _ _ _ same]

theorem added_setPhase {state : Sender} {number pos : Nat} {batch : Batch} {next : Sender}
    {last : SentPhase} (inside : pos < batch.size) (isAdded : last.isAdded = true)
    (phase : next.phase = state.setPhase number pos last) :
    next.added number batch = insert pos (state.added number batch) := by
  ext other
  rw [Finset.mem_insert, mem_added, mem_added, phase]
  by_cases same : other = pos
  · subst same
    rw [setPhase_self]
    simp [inside, isAdded]
  · rw [setPhase_of_pos_ne _ _ _ _ same]
    simp [same]

theorem Stage.entered {setup : Setup} {number pos ref : Nat} {batch : Batch} {state next : Sender}
    (stage : Stage setup number batch state) (inside : pos < batch.size)
    (before : state.phase number pos = .entering)
    (present : state.xor.outbound.refs.get (batch.key setup) = some ref)
    (owned : state.owner ref = number) (xor : next.xor = state.xor)
    (owner : next.owner = state.owner)
    (phase : next.phase = state.setPhase number pos (.adding ref)) :
    Stage setup number batch next := by
  cases stage with
  | waiting unseen _ =>
      exact absurd owned (unseen ref (state.xor.outbound.valid _ ref present))
  | filling mine atKey _ entry all =>
      cases present.symm.trans atKey
      refine .filling ref (xor ▸ present) (owner ▸ owned) ?_ ?_
      · rw [added_setPhase_adding ref before phase, xor]
        exact entry
      · intro other otherInside
        rw [phase]
        by_cases same : other = pos
        · subst same
          exact Or.inr (Or.inl (setPhase_self _ _ _ _))
        · rw [setPhase_of_pos_ne _ _ _ _ same]
          exact all other otherInside
  | full _ last _ _ _ removing others =>
      cases (at_last removing others inside before (by simp)).2
  | building _ last _ _ taken others =>
      cases (at_last taken others inside before (by simp)).2
  | done all => rw [all pos inside] at before; cases before

theorem Stage.created {setup : Setup} {number pos : Nat} {batch : Batch} {state next : Sender}
    {batchSize : UInt8} (stage : Stage setup number batch state) (inside : pos < batch.size)
    (before : state.phase number pos = .entering) (sized : batchSize.toNat = batch.size)
    (absent : state.xor.outbound.refs.get (batch.key setup) = none)
    (refs : next.xor.outbound.refs =
      state.xor.outbound.refs.insert (batch.key setup) state.xor.outbound.cells.length)
    (cells : next.xor.outbound.cells =
      state.xor.outbound.cells ++ [OutboundBatchData.new batchSize])
    (owner : next.owner = Function.update state.owner state.xor.outbound.cells.length number)
    (phase : next.phase =
      state.setPhase number pos (.adding state.xor.outbound.cells.length)) :
    Stage setup number batch next := by
  cases stage with
  | waiting _ all =>
      have none : state.added number batch = ∅ := by
        refine Finset.eq_empty_of_forall_notMem ?_
        intro other listed
        obtain ⟨otherInside, isAdded⟩ := mem_added.mp listed
        rw [all other otherInside] at isAdded
        cases isAdded
      refine .filling state.xor.outbound.cells.length ?_ ?_ ?_ ?_
      · rw [refs, Table.get_insert_self]
      · rw [owner, Function.update_self]
      · rw [added_setPhase_adding _ before phase, none, SharedMap.read, cells,
          List.getElem?_append_right (Nat.le_refl _), Nat.sub_self, Finset.card_empty,
          ParityCode.parity_empty, OutboundBatchData.new, sized]
        rfl
      · intro other otherInside
        rw [phase]
        by_cases same : other = pos
        · subst same
          exact Or.inr (Or.inl (setPhase_self _ _ _ _))
        · rw [setPhase_of_pos_ne _ _ _ _ same]
          exact Or.inl (all other otherInside)
  | filling ref present => rw [absent] at present; cases present
  | full ref last present => rw [absent] at present; cases present
  | building _ last _ _ taken others =>
      cases (at_last taken others inside before (by simp)).2
  | done all => rw [all pos inside] at before; cases before

theorem Stage.addition {setup : Setup} {number pos ref : Nat} {batch : Batch}
    {state next : Sender} {entry : OutboundBatchData} (stage : Stage setup number batch state)
    (inside : pos < batch.size) (before : state.phase number pos = .adding ref)
    (present : state.xor.outbound.read ref = some entry)
    (outbound : next.xor.outbound =
      state.xor.outbound.write ref (entry.add (batch.block setup pos)).1)
    (owner : next.owner = state.owner)
    (phase : next.phase = state.setPhase number pos
      (if (entry.add (batch.block setup pos)).2 then .removing else .finished)) :
    Stage setup number batch next := by
  obtain ⟨owned, atKey⟩ := stage.owns inside before
  cases stage with
  | filling other presentOther _ read all =>
      cases atKey.symm.trans presentOther
      cases present.symm.trans read
      have fresh : pos ∉ state.added number batch := by
        intro listed
        have isAdded := (mem_added.mp listed).2
        rw [before] at isAdded
        cases isAdded
      have grown : next.added number batch = insert pos (state.added number batch) := by
        refine added_setPhase inside ?_ phase
        split <;> rfl
      have card : (next.added number batch).card = (state.added number batch).card + 1 := by
        rw [grown, Finset.card_insert_of_notMem fresh]
      have stored : next.xor.outbound.read ref =
          some ⟨ParityCode.parity (batch.block setup) (next.added number batch), batch.size,
            (next.added number batch).card⟩ := by
        rw [outbound, SharedMap.read_write_self _ (SharedMap.read_lt read), card, grown,
          ParityCode.parity_insert _ fresh]
        rfl
      have atKeyNext : next.xor.outbound.refs.get (batch.key setup) = some ref := by
        rw [outbound, SharedMap.refs_write]
        exact atKey
      by_cases last : batch.size = (state.added number batch).card + 1
      · -- every block has been added, so every other task has finished
        have ready : (OutboundBatchData.add
            ⟨ParityCode.parity (batch.block setup) (state.added number batch), batch.size,
              (state.added number batch).card⟩ (batch.block setup pos)).2 = true :=
          decide_eq_true last
        rw [ready, if_pos rfl] at phase
        have all' : next.added number batch = Finset.range batch.size := by
          refine Finset.eq_of_subset_of_card_le (Finset.filter_subset _ _) ?_
          rw [card, Finset.card_range, last]
        refine .full ref pos atKeyNext (owner ▸ owned) ?_ (by rw [phase, setPhase_self]) ?_
        · rw [stored, all', Finset.card_range]
          rfl
        · intro other otherInside different
          have listed : other ∈ next.added number batch := by
            rw [all', Finset.mem_range]
            exact otherInside
          have isAdded := (mem_added.mp listed).2
          rw [phase, setPhase_of_pos_ne _ _ _ _ different] at isAdded ⊢
          rcases all other otherInside with same | same | same
          · rw [same] at isAdded; cases isAdded
          · rw [same] at isAdded; cases isAdded
          · exact same
      · have ready : (OutboundBatchData.add
            ⟨ParityCode.parity (batch.block setup) (state.added number batch), batch.size,
              (state.added number batch).card⟩ (batch.block setup pos)).2 = false :=
          decide_eq_false last
        rw [ready, if_neg Bool.false_ne_true] at phase
        refine .filling ref atKeyNext (owner ▸ owned) stored ?_
        intro other otherInside
        rw [phase]
        by_cases same : other = pos
        · subst same
          exact Or.inr (Or.inr (setPhase_self _ _ _ _))
        · rw [setPhase_of_pos_ne _ _ _ _ same]
          exact all other otherInside
  | waiting _ all => rw [all pos inside] at before; cases before
  | full _ last _ _ _ removing others =>
      cases (at_last removing others inside before (by simp)).2
  | building _ last _ _ taken others =>
      cases (at_last taken others inside before (by simp)).2
  | done all => rw [all pos inside] at before; cases before

theorem SentStep.stage {setup : Setup} {state next : Sender} {number pos : Nat} {batch : Batch}
    {packet : FecPacket} (step : SentStep state number pos packet next)
    (stage : Stage setup number batch state) (packetAt : batch.FecPacketAt setup pos packet)
    (isolated : state.phase number pos = .entering → ∀ ref,
      state.xor.outbound.refs.get (batch.key setup) = some ref → state.owner ref = number) :
    Stage setup number batch next := by
  cases step with
  | found ref before present =>
      rw [packetAt.key] at present
      exact stage.entered packetAt.inside before present (isolated before ref present) rfl rfl rfl
  | allocated xor before absent refs cells =>
      rw [packetAt.key] at absent refs
      exact stage.created packetAt.inside before packetAt.batchSize absent refs cells rfl rfl
  | lost ref before missing =>
      obtain ⟨_, atKey⟩ := stage.owns packetAt.inside before
      have inside := state.xor.outbound.valid _ ref atKey
      rw [SharedMap.read, List.getElem?_eq_none_iff] at missing
      omega
  | added ref entry before present =>
      refine stage.addition packetAt.inside before present ?_ rfl ?_
      · rw [packetAt.block]
      · rw [packetAt.block]
  | removed ref before present =>
      obtain ⟨mine, atKey, owned, entry, others⟩ := stage.full_of_removing packetAt.inside before
      rw [packetAt.key, atKey] at present
      cases present
      refine .building ref pos owned entry (setPhase_self _ _ _ _) ?_
      intro other otherInside different
      exact (setPhase_of_pos_ne _ _ _ _ different).trans (others other otherInside different)
  | built ref entry now before present =>
      obtain ⟨_, others⟩ := stage.entry_of_building packetAt.inside before
      refine .done ?_
      intro other otherInside
      by_cases same : other = pos
      · subst same
        exact setPhase_self _ _ _ _
      · exact (setPhase_of_pos_ne _ _ _ _ same).trans (others other otherInside same)

/-! ## Every batch at once -/

structure IsParity (setup : Setup) (batch : Batch) (packet : ParityPacket) : Prop where
  batchId : packet.batchId = batch.batchId
  sessionId : packet.sessionId = setup.sessionId
  batchSize : packet.fecInfo.batchSize.toNat = batch.size
  payload : packet.payload = (batch.parity setup).bytes

/-- What the outbound side of the erasure code has made of the batches. -/
structure Encodes (setup : Setup) (state : Sender) : Prop where
  owners : ∀ ref < state.xor.outbound.cells.length, state.owner ref < state.batches.length
  unsent : ∀ number, state.batches.length ≤ number → ∀ pos, state.phase number pos = .entering
  stages : ∀ number batch, state.batches[number]? = some batch → Stage setup number batch state
  parities : ∀ sent ∈ state.parities, ∃ batch, state.batches[sent.1]? = some batch ∧
    IsParity setup batch sent.2

theorem new_encodes (setup : Setup) (session : EstablishedState) :
    (new session).Encodes setup where
  owners _ inside := nomatch inside
  unsent _ _ _ := rfl
  stages _ _ found := nomatch found
  parities _ listed := nomatch listed

theorem Encodes.extend {setup : Setup} {state next : Sender} (encodes : state.Encodes setup)
    (xor : next.xor = state.xor) (owner : next.owner = state.owner)
    (phase : next.phase = state.phase) (parities : next.parities = state.parities)
    (batches : ∃ more, next.batches = state.batches ++ more) : next.Encodes setup := by
  obtain ⟨more, batches⟩ := batches
  have lengths : state.batches.length ≤ next.batches.length := by
    rw [batches, List.length_append]
    exact Nat.le_add_right _ _
  have untouched : ∀ number, Undisturbed number state next := by
    intro number
    refine ⟨by rw [phase], ?_, ?_, ?_⟩
    · rw [xor, owner]
      exact fun _ inside owned => ⟨inside, owned⟩
    · rw [xor, owner]
      exact fun _ _ owned => ⟨owned, rfl⟩
    · rw [xor]
      exact fun _ _ present _ => present
  refine ⟨?_, ?_, ?_, ?_⟩
  · intro ref inside
    rw [xor] at inside
    rw [owner]
    exact (encodes.owners ref inside).trans_le lengths
  · intro number beyond pos
    rw [phase]
    exact encodes.unsent number (lengths.trans beyond) pos
  · intro number batch found
    rw [batches] at found
    rcases Nat.lt_or_ge number state.batches.length with old | new
    · rw [List.getElem?_append_left old] at found
      exact (untouched number).stage (encodes.stages number batch found)
    · refine .waiting ?_ ?_
      · intro ref inside owned
        rw [xor] at inside
        rw [owner] at owned
        have before := encodes.owners ref inside
        omega
      · intro pos _
        rw [phase]
        exact encodes.unsent number new pos
  · intro sent listed
    rw [parities] at listed
    obtain ⟨batch, found, isParity⟩ := encodes.parities sent listed
    refine ⟨batch, ?_, isParity⟩
    rw [batches, List.getElem?_append_left (List.getElem?_eq_some_iff.mp found).1]
    exact found

theorem IsParity.of_built {setup : Setup} {batch : Batch} {pos : Nat} {packet : FecPacket}
    (packetAt : batch.FecPacketAt setup pos packet) (now : Timestamp) :
    IsParity setup batch (Xor.parityPacket packet (batch.parity setup) now) where
  batchId := congrArg Prod.fst packetAt.key
  sessionId := congrArg Prod.snd packetAt.key
  batchSize := packetAt.batchSize
  payload := rfl

theorem Encodes.sent {setup : Setup} {state next : Sender} (encodes : state.Encodes setup)
    (sourced : state.Sourced setup) {number pos : Nat} {now : Timestamp}
    (isolated : state.Isolated setup (.sent number pos now))
    (stepped : state.sent setup number pos now = some next) : next.Encodes setup := by
  obtain ⟨data, packet, found, made, step⟩ := sent_step stepped
  obtain ⟨batch, batchFound, dataFound⟩ := Option.bind_eq_some_iff.mp found
  have genuine := sourced.batches batch (List.mem_of_getElem? batchFound)
  have packetAt := genuine.fecPacketAt dataFound made
  have dataAt := genuine.packetAt dataFound
  have ownEntry : state.phase number pos = .entering → ∀ ref,
      state.xor.outbound.refs.get (batch.key setup) = some ref → state.owner ref = number := by
    intro before ref present
    refine isolated before data found ref ?_
    rw [dataAt.batchId, dataAt.sessionId]
    exact present
  have stage := encodes.stages number batch batchFound
  have batches := step.frame.2.2.2
  have inside : number < state.batches.length := (List.getElem?_eq_some_iff.mp batchFound).1
  refine ⟨?_, ?_, ?_, ?_⟩
  · intro ref allocated
    rw [batches]
    by_cases mine : next.owner ref = number
    · exact mine.trans_lt inside
    · have elsewhere := step.undisturbed stage packetAt mine
      obtain ⟨before, same⟩ := elsewhere.origin ref allocated rfl
      rw [← same]
      exact encodes.owners ref before
  · intro other beyond otherPos
    rw [batches] at beyond
    have different : other ≠ number := by omega
    rw [(step.undisturbed stage packetAt different).phase]
    exact encodes.unsent other beyond otherPos
  · intro other otherBatch otherFound
    rw [batches] at otherFound
    by_cases same : other = number
    · subst same
      cases batchFound.symm.trans otherFound
      exact step.stage stage packetAt ownEntry
    · exact (step.undisturbed stage packetAt same).stage
        (encodes.stages other otherBatch otherFound)
  · intro sent listed
    rw [batches]
    cases step with
    | built ref entry now before present =>
        rcases List.mem_append.mp listed with old | new
        · exact encodes.parities sent old
        · cases List.mem_singleton.mp new
          obtain ⟨full, _⟩ := stage.entry_of_building packetAt.inside before
          cases present.symm.trans full
          exact ⟨batch, batchFound, IsParity.of_built packetAt now⟩
    | _ => exact encodes.parities sent listed

/-- A sender and its erasure code, as they are in every run in which no packet meets an entry of
another batch. -/
structure Sound (setup : Setup) (state : Sender) : Prop where
  sourced : state.Sourced setup
  encodes : state.Encodes setup

theorem new_sound (setup : Setup) {session : EstablishedState} (up : session.state = .up) :
    (new session).Sound setup :=
  ⟨new_sourced setup up, new_encodes setup session⟩

theorem step_batches {setup : Setup} {state next : Sender} {label : SenderLabel}
    (stepped : state.step setup label = some next) :
    ∃ more, next.batches = state.batches ++ more := by
  cases label with
  | streamTo message =>
      obtain ⟨_, same⟩ := Option.ite_none_right_eq_some.mp stepped
      cases Option.some.inj same
      exact ⟨[], (List.append_nil _).symm⟩
  | tick index clock =>
      simp only [step] at stepped
      split at stepped
      · cases stepped
      · obtain ⟨_, same⟩ := Option.ite_none_right_eq_some.mp stepped
        cases Option.some.inj same
        simp only
        split
        · exact ⟨[], (List.append_nil _).symm⟩
        · exact ⟨_, rfl⟩
  | event index event =>
      simp only [step] at stepped
      split at stepped
      · cases stepped
      · cases stepped
        exact ⟨[], (List.append_nil _).symm⟩
  | updateMessage change =>
      cases stepped
      exact ⟨[], (List.append_nil _).symm⟩
  | closeStream =>
      cases stepped
      exact ⟨[], (List.append_nil _).symm⟩
  | sent batch pos now =>
      obtain ⟨_, _, _, _, step⟩ := sent_step stepped
      exact ⟨[], step.frame.2.2.2.trans (List.append_nil _).symm⟩

theorem step_code {setup : Setup} {state next : Sender} {label : SenderLabel}
    (stepped : state.step setup label = some next)
    (other : ∀ batch pos now, label ≠ .sent batch pos now) :
    next.xor = state.xor ∧ next.owner = state.owner ∧ next.phase = state.phase ∧
      next.parities = state.parities := by
  cases label with
  | streamTo message =>
      obtain ⟨_, same⟩ := Option.ite_none_right_eq_some.mp stepped
      cases Option.some.inj same
      exact ⟨rfl, rfl, rfl, rfl⟩
  | tick index clock =>
      simp only [step] at stepped
      split at stepped
      · cases stepped
      · obtain ⟨_, same⟩ := Option.ite_none_right_eq_some.mp stepped
        cases Option.some.inj same
        exact ⟨rfl, rfl, rfl, rfl⟩
  | event index event =>
      simp only [step] at stepped
      split at stepped
      · cases stepped
      · cases stepped
        exact ⟨rfl, rfl, rfl, rfl⟩
  | updateMessage change =>
      cases stepped
      exact ⟨rfl, rfl, rfl, rfl⟩
  | closeStream =>
      cases stepped
      exact ⟨rfl, rfl, rfl, rfl⟩
  | sent batch pos now => exact absurd rfl (other batch pos now)

/-- Every step of a sender that meets the guard keeps its batches genuine and their parity
packets right. -/
theorem step_sound {setup : Setup} {state next : Sender} {label : SenderLabel}
    (sound : state.Sound setup) (isolated : state.Isolated setup label)
    (stepped : state.step setup label = some next) : next.Sound setup := by
  refine ⟨step_sourced sound.sourced isolated stepped, ?_⟩
  cases label with
  | sent batch pos now => exact sound.encodes.sent sound.sourced isolated stepped
  | _ =>
      obtain ⟨xor, owner, phase, parities⟩ := step_code stepped (by intros; simp)
      exact sound.encodes.extend xor owner phase parities (step_batches stepped)

end Sender
end Ubass

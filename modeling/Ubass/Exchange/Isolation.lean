import Ubass.Exchange.Received

/-!
# Isolation of streams

Data packets carry a session id and a batch id and nothing that tells streams
apart, and the ids of the batches start again with every stream.  What keeps the
streams apart is only which packets and entries meet: `Exchange.Isolated` says
that each packet meets the buffer of its own stream and the entry of its own
batch, and is kept by every run of a single stream with fresh batch ids, but not
by a packet that arrives when the next stream has begun.
-/

set_option autoImplicit false

namespace Ubass

/-! ## Inbound entries -/

namespace Batch

/-- An inbound entry holds some blocks of the batch, and the parity of the batch or none. -/
structure Fills (setup : Setup) (batch : Batch) (entry : InboundBatchData) : Prop where
  holds : ∃ received, entry.Holds (batch.block setup) batch.size received
  parity : ∀ parity, entry.parity = some parity → parity = batch.parity setup

/-- What the erasure code is given of the batch: one of its data packets, or its parity. -/
inductive Arrives (setup : Setup) (batch : Batch) (packet : FecPacket) : Prop
  | data (pos : Nat) (packetAt : batch.FecPacketAt setup pos packet)
  | parity (isParity : packet.isParity = true) (key : packet.key = batch.key setup)
      (batchSize : packet.fecInfo.batchSize.toNat = batch.size)
      (block : packet.data = batch.parity setup)

theorem Arrives.key_eq {setup : Setup} {batch : Batch} {packet : FecPacket}
    (arrives : batch.Arrives setup packet) : packet.key = batch.key setup := by
  cases arrives with
  | data pos packetAt => exact packetAt.key
  | parity _ key => exact key

theorem Arrives.batchSize_eq {setup : Setup} {batch : Batch} {packet : FecPacket}
    (arrives : batch.Arrives setup packet) : packet.fecInfo.batchSize.toNat = batch.size := by
  cases arrives with
  | data pos packetAt => exact packetAt.batchSize
  | parity _ _ batchSize => exact batchSize

theorem Arrives.of_parity {setup : Setup} {batch : Batch} {packet : ParityPacket}
    (isParity : Sender.IsParity setup batch packet) :
    batch.Arrives setup (FecPacket.fromParityPacket packet) :=
  .parity rfl (Prod.ext isParity.batchId isParity.sessionId) isParity.batchSize
    (FecPacket.data_fromParityPacket isParity.payload)

theorem new_fills {setup : Setup} {batch : Batch} {batchSize : UInt8}
    (sized : batchSize.toNat = batch.size) (now : Timestamp) :
    batch.Fills setup (InboundBatchData.new batchSize now) :=
  ⟨⟨∅, sized ▸ InboundBatchData.new_holds (batch.block setup) batchSize now⟩,
    fun _ present => nomatch present⟩

theorem Fills.received {setup : Setup} {batch : Batch} {entry : InboundBatchData}
    (fills : batch.Fills setup entry) {packet : FecPacket} (arrives : batch.Arrives setup packet) :
    batch.Fills setup (Xor.receivedBatch entry packet).1 := by
  obtain ⟨received, holds⟩ := fills.holds
  cases arrives with
  | data pos packetAt =>
      have inside : packet.fecInfo.batchPos.toNat < batch.size := by
        rw [packetAt.batchPos]
        exact packetAt.inside
      have genuine : packet.data = batch.block setup packet.fecInfo.batchPos.toNat := by
        rw [packetAt.batchPos]
        exact packetAt.block
      obtain ⟨added, same⟩ := InboundBatchData.add_holds holds inside genuine
      rw [Xor.receivedBatch, packetAt.data]
      refine ⟨⟨_, added⟩, ?_⟩
      intro parity present
      exact fills.parity parity (same.symm.trans present)
  | parity isParity _ _ block =>
      obtain ⟨kept, same⟩ := InboundBatchData.addParity_holds holds packet.data
      rw [Xor.receivedBatch, isParity]
      refine ⟨⟨received, kept⟩, ?_⟩
      intro parity present
      rw [if_pos rfl] at present
      simp only [same, Option.some.injEq] at present
      cases earlier : entry.parity with
      | none =>
          rw [earlier] at present
          exact present.symm.trans block
      | some first =>
          rw [earlier] at present
          exact present.symm.trans (fills.parity first earlier)

theorem Fills.recovers {setup : Setup} {batch : Batch} {entry : InboundBatchData}
    (fills : batch.Fills setup entry) (positive : 0 < batch.size) {block : FecData}
    (recovered : entry.recover = some block) :
    ∃ pos < batch.size, block = batch.block setup pos := by
  obtain ⟨received, holds⟩ := fills.holds
  by_cases ready : received.card + 1 = batch.size ∧ entry.parity.isSome = true
  · obtain ⟨short, present⟩ := ready
    obtain ⟨parity, isParity⟩ := Option.isSome_iff_exists.mp present
    obtain ⟨missing, inside, absent, all⟩ := InboundBatchData.exists_missing holds short
    have paritySum := isParity.trans (congrArg some (fills.parity parity isParity))
    rw [InboundBatchData.recover_missing holds positive absent all paritySum] at recovered
    cases recovered
    exact ⟨missing, inside, rfl⟩
  · rw [InboundBatchData.recover_eq_none holds positive ready] at recovered
    cases recovered

theorem Genuine.recovered_isChunk {setup : Setup} {batch : Batch} (genuine : batch.Genuine setup)
    (debug : setup.debugAssertions = true) {pos : Nat} (inside : pos < batch.size) :
    IsChunk (setup.source batch.stream)
      ((RecoverdPacket.fromFecData (batch.block setup pos)).byteRangeStart,
        (RecoverdPacket.fromFecData (batch.block setup pos)).payload) := by
  have found : batch.packets[pos]? = some batch.packets[pos] := List.getElem?_eq_getElem inside
  have packetAt := genuine.packetAt found
  obtain ⟨block, made, bytes⟩ := FecData.fromDataPacket_eq packetAt.chunk.length_le
  have isBlock : batch.block setup pos = block := by
    rw [Batch.block, found, Option.bind_some, debug, made]
    rfl
  rw [isBlock, RecoverdPacket.fromFecData_layout packetAt.chunk.length_le bytes]
  exact packetAt.chunk

end Batch

/-! ## The receiver -/

namespace Receiver

theorem mem_buffers {state : Receiver} {entry : Nat × WriteableBuffer} :
    entry ∈ state.buffers ↔
      (state.session.openBuffer = some entry.2 ∧ entry.1 = state.streams) ∨
        entry ∈ state.closed := by
  rw [buffers, List.mem_append, Option.mem_toList, Option.map_eq_some_iff]
  constructor
  · rintro (⟨buffer, isOpen, rfl⟩ | old)
    · exact Or.inl ⟨isOpen, rfl⟩
    · exact Or.inr old
  · rintro (⟨isOpen, current⟩ | old)
    · exact Or.inl ⟨entry.2, isOpen, Prod.ext current.symm rfl⟩
    · exact Or.inr old

theorem mem_close {state : Receiver} {stream : Option StreamState}
    {entry : Nat × WriteableBuffer} :
    entry ∈ state.close stream ↔
      (stream.bind StreamState.writeable = some entry.2 ∧ entry.1 = state.streams) ∨
        entry ∈ state.closed := by
  rw [close, List.mem_append, Option.mem_toList, Option.map_eq_some_iff]
  constructor
  · rintro (⟨buffer, left, rfl⟩ | old)
    · exact Or.inl ⟨left, rfl⟩
    · exact Or.inr old
  · rintro (⟨left, current⟩ | old)
    · exact Or.inl ⟨entry.2, left, Prod.ext current.symm rfl⟩
    · exact Or.inr old

theorem intact_iff {setup : Setup} {state : Receiver} :
    state.Intact setup ↔
      (∀ buffer, state.session.openBuffer = some buffer →
        buffer.Agrees (setup.source state.streams)) ∧
      ∀ entry ∈ state.closed, entry.2.Agrees (setup.source entry.1) := by
  constructor
  · intro intact
    refine ⟨fun buffer isOpen => ?_, fun entry old => intact entry (mem_buffers.mpr (Or.inr old))⟩
    exact intact (state.streams, buffer) (mem_buffers.mpr (Or.inl ⟨isOpen, rfl⟩))
  · rintro ⟨current, old⟩ entry listed
    rcases mem_buffers.mp listed with ⟨isOpen, same⟩ | closed
    · rw [same]
      exact current entry.2 isOpen
    · exact old entry closed

/-- The packet or the recovered chunk that a task holds is one of its batch. -/
def TaskSound (setup : Setup) (sender : Sender) (state : Receiver) : FecTask → Prop
  | .enter number packet =>
      ∃ batch, sender.batches[number]? = some batch ∧ batch.Arrives setup packet
  | .add number ref packet =>
      (∃ batch, sender.batches[number]? = some batch ∧ batch.Arrives setup packet) ∧
        state.owner ref = number ∧ ref < state.xor.inbound.cells.length
  | .take _ _ => True
  | .read _ _ _ => True
  | .hand number recovered =>
      ∃ batch, sender.batches[number]? = some batch ∧ ∀ packet ∈ recovered.packets,
        ∃ pos < batch.size, packet = RecoverdPacket.fromFecData (batch.block setup pos)

/-- Each entry is filled by the batch that created it. -/
structure Decodes (setup : Setup) (sender : Sender) (state : Receiver) : Prop where
  entries : ∀ ref entry, state.xor.inbound.read ref = some entry →
    ∃ batch, sender.batches[state.owner ref]? = some batch ∧ batch.Fills setup entry
  tasks : ∀ task ∈ state.tasks, TaskSound setup sender state task

/-- The steps a receiver may take: a data packet or a recovered chunk that meets an open stream
is of this stream, the build keeps the payload of a recovered chunk, and a packet that finds an
entry of the erasure code finds one of its own batch. -/
def Isolated (setup : Setup) (sender : Sender) (state : Receiver) : ReceiverLabel → Prop
  | .data number _ _ =>
      state.session.openBuffer ≠ none → ∀ batch, sender.batches[number]? = some batch →
        batch.stream = state.streams
  | .task index _ =>
      (∀ number packet, state.tasks[index]? = some (.enter number packet) → ∀ ref,
        state.xor.inbound.refs.get packet.key = some ref → state.owner ref = number) ∧
      ∀ number recovered, state.tasks[index]? = some (.hand number recovered) →
        state.session.openBuffer ≠ none → setup.debugAssertions = true ∧
          ∀ batch, sender.batches[number]? = some batch → batch.stream = state.streams
  | _ => True

/-- What `Isolated` asks of the task that takes its next step. -/
def TaskIsolated (setup : Setup) (sender : Sender) (state : Receiver) : FecTask → Prop
  | .enter number packet =>
      ∀ ref, state.xor.inbound.refs.get packet.key = some ref → state.owner ref = number
  | .hand number _ =>
      state.session.openBuffer ≠ none → setup.debugAssertions = true ∧
        ∀ batch, sender.batches[number]? = some batch → batch.stream = state.streams
  | _ => True

instance (setup : Setup) (sender : Sender) (state : Receiver) :
    DecidablePred (TaskIsolated setup sender state)
  | .enter number packet => inferInstanceAs (Decidable
      (∀ ref ∈ state.xor.inbound.refs.get packet.key, state.owner ref = number))
  | .hand number _ => inferInstanceAs (Decidable (state.session.openBuffer ≠ none →
      setup.debugAssertions = true ∧
        ∀ batch ∈ sender.batches[number]?, batch.stream = state.streams))
  | .add _ _ _ | .take _ _ | .read _ _ _ => inferInstanceAs (Decidable True)

theorem isolated_task_iff {setup : Setup} {sender : Sender} {state : Receiver}
    {index : Nat} {clock : Nat → Timestamp} :
    (∀ task ∈ state.tasks[index]?, TaskIsolated setup sender state task) ↔
      state.Isolated setup sender (.task index clock) := by
  constructor
  · intro isolated
    exact ⟨fun _ _ found => isolated _ found, fun _ _ found => isolated _ found⟩
  · rintro ⟨entering, handing⟩ task found
    cases task with
    | enter number packet => exact entering number packet found
    | hand number recovered => exact handing number recovered found
    | add | take | read => trivial

instance (setup : Setup) (sender : Sender) (state : Receiver) :
    DecidablePred (state.Isolated setup sender)
  | .data number _ _ => inferInstanceAs (Decidable (state.session.openBuffer ≠ none →
      ∀ batch ∈ sender.batches[number]?, batch.stream = state.streams))
  | .task _ _ => decidable_of_iff _ isolated_task_iff
  | .streamingFrom _ _ | .parity _ | .prune _ | .seek _ | .updateMessage _ | .closeStream =>
      inferInstanceAs (Decidable True)

theorem getElem?_extended {first last : List Batch} (extended : ∃ more, last = first ++ more)
    {number : Nat} {batch : Batch} (found : first[number]? = some batch) :
    last[number]? = some batch := by
  obtain ⟨more, rfl⟩ := extended
  rw [List.getElem?_append_left (List.getElem?_eq_some_iff.mp found).1]
  exact found

/-- What is known about a task stays known: batches are only added, and an entry keeps its
owner. -/
theorem TaskSound.mono {setup : Setup} {sender later : Sender} {state next : Receiver}
    (extended : ∃ more, later.batches = sender.batches ++ more)
    (owner : ∀ ref < state.xor.inbound.cells.length, next.owner ref = state.owner ref)
    (cells : state.xor.inbound.cells.length ≤ next.xor.inbound.cells.length) {task : FecTask}
    (sound : TaskSound setup sender state task) : TaskSound setup later next task := by
  cases task with
  | enter number packet =>
      obtain ⟨batch, found, arrives⟩ := sound
      exact ⟨batch, getElem?_extended extended found, arrives⟩
  | add number ref packet =>
      obtain ⟨⟨batch, found, arrives⟩, owned, allocated⟩ := sound
      exact ⟨⟨batch, getElem?_extended extended found, arrives⟩,
        (owner ref allocated).trans owned, allocated.trans_le cells⟩
  | take batchId sessionId => trivial
  | read ref batchId sessionId => trivial
  | hand number recovered =>
      obtain ⟨batch, found, blocks⟩ := sound
      exact ⟨batch, getElem?_extended extended found, blocks⟩

theorem Decodes.extend {setup : Setup} {sender later : Sender} {state : Receiver}
    (decodes : state.Decodes setup sender)
    (extended : ∃ more, later.batches = sender.batches ++ more) :
    state.Decodes setup later where
  entries ref entry present := by
    obtain ⟨batch, found, fills⟩ := decodes.entries ref entry present
    exact ⟨batch, getElem?_extended extended found, fills⟩
  tasks task listed := (decodes.tasks task listed).mono extended (fun _ _ => rfl) (Nat.le_refl _)

theorem Decodes.withTasks {setup : Setup} {sender : Sender} {state next : Receiver}
    (decodes : state.Decodes setup sender) (xor : next.xor = state.xor)
    (owner : next.owner = state.owner)
    (tasks : ∀ task ∈ next.tasks, task ∈ state.tasks ∨ TaskSound setup sender state task) :
    next.Decodes setup sender where
  entries ref entry present := by
    rw [xor] at present
    rw [owner]
    exact decodes.entries ref entry present
  tasks task listed := by
    have sound : TaskSound setup sender state task :=
      (tasks task listed).elim (decodes.tasks task) id
    refine sound.mono ⟨[], (List.append_nil _).symm⟩ ?_ ?_
    · rw [owner]
      exact fun _ _ => rfl
    · rw [xor]

/-! ## The steps of a task -/

/-- What is left after a step of a task: the entries are still filled by their batches, and the
task, if it goes on, is sound. -/
structure TaskResult (setup : Setup) (sender : Sender) (state : Receiver)
    (result : Receiver × Option FecTask) : Prop where
  entries : ∀ ref entry, result.1.xor.inbound.read ref = some entry →
    ∃ batch, sender.batches[result.1.owner ref]? = some batch ∧ batch.Fills setup entry
  owner : ∀ ref < state.xor.inbound.cells.length, result.1.owner ref = state.owner ref
  cells : state.xor.inbound.cells.length ≤ result.1.xor.inbound.cells.length
  task : ∀ task ∈ result.2, TaskSound setup sender result.1 task

theorem enter_result {setup : Setup} {sender : Sender} {state : Receiver}
    (decodes : state.Decodes setup sender) {number : Nat} {packet : FecPacket}
    (sound : TaskSound setup sender state (.enter number packet))
    (isolated : ∀ ref, state.xor.inbound.refs.get packet.key = some ref →
      state.owner ref = number) (clock : Nat → Timestamp) :
    TaskResult setup sender state (state.taskStep clock (.enter number packet)) := by
  obtain ⟨batch, found, arrives⟩ := sound
  have entered := state.xor.inbound.entry_step packet.key
    (InboundBatchData.new packet.fecInfo.batchSize (clock 0))
  simp only [taskStep, Xor.receivedEntry]
  generalize state.xor.inbound.entry packet.key
    (InboundBatchData.new packet.fecInfo.batchSize (clock 0)) = result at entered ⊢
  cases entered with
  | found ref present =>
      simp only [Table.contains, present, Option.isSome_some, if_true]
      refine ⟨decodes.entries, fun _ _ => rfl, Nat.le_refl _, ?_⟩
      intro task same
      cases same
      exact ⟨⟨batch, found, arrives⟩, isolated ref present, state.xor.inbound.valid _ ref present⟩
  | allocated inbound absent refs cells =>
      simp only [Table.contains, absent, Option.isSome_none, Bool.false_eq_true, if_false]
      have longer : inbound.cells.length = state.xor.inbound.cells.length + 1 := by
        rw [cells, List.length_append, List.length_singleton]
      have newest : ∀ ref < state.xor.inbound.cells.length,
          Function.update state.owner state.xor.inbound.cells.length number ref =
            state.owner ref :=
        fun ref allocated => Function.update_of_ne allocated.ne _ _
      refine ⟨?_, newest, by simp only; omega, ?_⟩
      · intro ref entry present
        have allocated := SharedMap.read_lt present
        simp only at allocated
        by_cases old : ref < state.xor.inbound.cells.length
        · simp only [SharedMap.read, cells, List.getElem?_append_left old] at present
          simp only [newest ref old]
          exact decodes.entries ref entry present
        · obtain rfl : ref = state.xor.inbound.cells.length := by omega
          simp only [SharedMap.read, cells, List.getElem?_append_right (Nat.le_refl _),
            Nat.sub_self, List.getElem?_cons_zero, Option.some.injEq] at present
          subst present
          simp only [Function.update_self]
          exact ⟨batch, found, Batch.new_fills arrives.batchSize_eq (clock 0)⟩
      · intro task same
        cases same
        refine ⟨⟨batch, found, arrives⟩, Function.update_self .., ?_⟩
        simp only
        omega

theorem add_result {setup : Setup} {sender : Sender} {state : Receiver}
    (decodes : state.Decodes setup sender) {number ref : Nat} {packet : FecPacket}
    (sound : TaskSound setup sender state (.add number ref packet)) (clock : Nat → Timestamp) :
    TaskResult setup sender state (state.taskStep clock (.add number ref packet)) := by
  obtain ⟨⟨batch, found, arrives⟩, owned, allocated⟩ := sound
  obtain ⟨entry, present⟩ : ∃ entry, state.xor.inbound.read ref = some entry :=
    ⟨_, List.getElem?_eq_getElem allocated⟩
  obtain ⟨other, otherFound, fills⟩ := decodes.entries ref entry present
  rw [owned] at otherFound
  cases found.symm.trans otherFound
  simp only [taskStep, Xor.receivedAdd_eq present]
  refine ⟨?_, fun _ _ => rfl, by simp only [SharedMap.length_cells_write, le_refl], ?_⟩
  · intro elsewhere written writtenPresent
    by_cases here : ref = elsewhere
    · subst here
      simp only [SharedMap.read_write_self _ allocated, Option.some.injEq] at writtenPresent
      subst writtenPresent
      exact ⟨batch, by simp only [owned]; exact found, fills.received arrives⟩
    · simp only [SharedMap.read_write_of_ne _ _ here] at writtenPresent
      exact decodes.entries elsewhere written writtenPresent
  · intro task same
    simp only [Option.mem_def, Option.ite_none_right_eq_some] at same
    obtain ⟨_, same⟩ := same
    cases same
    trivial

theorem taskStep_result {setup : Setup} {sender : Sender} {state : Receiver}
    (decodes : state.Decodes setup sender) (genuine : ∀ batch ∈ sender.batches, batch.Genuine setup)
    {task : FecTask} (sound : TaskSound setup sender state task)
    (isolated : ∀ number packet, task = .enter number packet → ∀ ref,
      state.xor.inbound.refs.get packet.key = some ref → state.owner ref = number)
    (clock : Nat → Timestamp) :
    TaskResult setup sender state (state.taskStep clock task) := by
  cases task with
  | enter number packet => exact enter_result decodes sound (isolated number packet rfl) clock
  | add number ref packet => exact add_result decodes sound clock
  | take batchId sessionId =>
      refine ⟨decodes.entries, fun _ _ => rfl, Nat.le_refl _, ?_⟩
      intro task same
      obtain ⟨ref, _, rfl⟩ := Option.map_eq_some_iff.mp same
      trivial
  | read ref batchId sessionId =>
      refine ⟨decodes.entries, fun _ _ => rfl, Nat.le_refl _, ?_⟩
      intro task same
      obtain ⟨packets, recovered, rfl⟩ := Option.map_eq_some_iff.mp same
      obtain ⟨entry, present, block⟩ := Option.bind_eq_some_iff.mp recovered
      obtain ⟨block, isBlock, rfl⟩ := Option.map_eq_some_iff.mp block
      obtain ⟨batch, found, fills⟩ := decodes.entries ref entry present
      have positive := (genuine batch (List.mem_of_getElem? found)).size_pos
      obtain ⟨pos, inside, rfl⟩ := fills.recovers positive isBlock
      refine ⟨batch, found, ?_⟩
      intro packet listed
      cases List.mem_singleton.mp listed
      exact ⟨pos, inside, rfl⟩
  | hand number recovered =>
      exact ⟨decodes.entries, fun _ _ => rfl, Nat.le_refl _, fun task same => nomatch same⟩

theorem TaskResult.decodes {setup : Setup} {sender : Sender} {state : Receiver}
    {result : Receiver × Option FecTask} (spec : TaskResult setup sender state result)
    (decodes : state.Decodes setup sender) (index : Nat) :
    Decodes setup sender
      { result.1 with tasks := result.2.toList ++ state.tasks.eraseIdx index } where
  entries := spec.entries
  tasks task listed := by
    rcases List.mem_append.mp listed with next | other
    · exact spec.task task (Option.mem_toList.mp next)
    · exact (decodes.tasks task (List.mem_of_mem_eraseIdx other)).mono
        ⟨[], (List.append_nil _).symm⟩ spec.owner spec.cells

/-! ## The steps of a receiver -/

theorem step_decodes {setup : Setup} {sender : Sender} {state next : Receiver}
    {label : ReceiverLabel} (sound : sender.Sound setup) (decodes : state.Decodes setup sender)
    (isolated : state.Isolated setup sender label)
    (stepped : state.step setup sender label = some next) : next.Decodes setup sender := by
  cases label with
  | streamingFrom buffer message =>
      obtain ⟨_, same⟩ := Option.ite_none_right_eq_some.mp stepped
      cases Option.some.inj same
      exact decodes.withTasks rfl rfl fun task listed => Or.inl listed
  | data number pos clock =>
      obtain ⟨packet, found, rfl⟩ := Option.map_eq_some_iff.mp stepped
      obtain ⟨batch, batchFound, packetFound⟩ := Option.bind_eq_some_iff.mp found
      have genuine := sound.sourced.batches batch (List.mem_of_getElem? batchFound)
      refine decodes.withTasks rfl rfl ?_
      intro task listed
      rcases List.mem_append.mp listed with old | new
      · exact Or.inl old
      · split at new
        · obtain ⟨fecPacket, made, rfl⟩ := Option.map_eq_some_iff.mp (Option.mem_toList.mp new)
          exact Or.inr ⟨batch, batchFound, .data pos (genuine.fecPacketAt packetFound made)⟩
        all_goals cases new
  | parity index =>
      obtain ⟨sent, found, rfl⟩ := Option.map_eq_some_iff.mp stepped
      obtain ⟨batch, batchFound, isParity⟩ :=
        sound.encodes.parities sent (List.mem_of_getElem? found)
      refine decodes.withTasks rfl rfl ?_
      intro task listed
      rcases List.mem_append.mp listed with old | new
      · exact Or.inl old
      · cases List.mem_singleton.mp new
        exact Or.inr ⟨batch, batchFound, .of_parity isParity⟩
  | task index clock =>
      obtain ⟨task, found, rfl⟩ := Option.map_eq_some_iff.mp stepped
      have spec := taskStep_result decodes sound.sourced.batches
        (decodes.tasks task (List.mem_of_getElem? found))
        (fun number packet same => isolated.1 number packet (same ▸ found)) clock
      exact spec.decodes decodes index
  | prune keys =>
      cases stepped
      have cells := Xor.pruneRemove_cells state.xor keys
      refine ⟨?_, ?_⟩
      · intro ref entry present
        simp only [SharedMap.read, cells] at present
        exact decodes.entries ref entry present
      · intro task listed
        refine TaskSound.mono ⟨[], (List.append_nil _).symm⟩ ?_ ?_ (decodes.tasks task listed)
        · exact fun _ _ => rfl
        · simp only [cells, le_refl]
  | seek position =>
      cases stepped
      exact decodes.withTasks rfl rfl fun task listed => Or.inl listed
  | updateMessage change =>
      cases stepped
      exact decodes.withTasks rfl rfl fun task listed => Or.inl listed
  | closeStream =>
      cases stepped
      exact decodes.withTasks rfl rfl fun task listed => Or.inl listed

theorem data_intact {setup : Setup} {state : Receiver} (intact : state.Intact setup)
    {packet : DataPacket} (current : state.session.openBuffer ≠ none →
      IsChunk (setup.source state.streams) (packet.byteRangeStart, packet.payload))
    (number : Nat) (clock : Nat → Timestamp) :
    (state.receivedDataPacket setup number packet clock).Intact setup := by
  obtain ⟨holds, old⟩ := intact_iff.mp intact
  have stored : ∀ buffer, state.session.openBuffer = some buffer →
      (buffer.write packet.byteRangeStart packet.payload).1.Agrees
        (setup.source state.streams) := by
    intro buffer isOpen
    refine (holds buffer isOpen).write (current ?_)
    rw [isOpen]
    exact Option.some_ne_none _
  obtain ⟨stillOpen, closed⟩ := @ConnectionStates.receivedDataPacket_stores
    (fun buffer => buffer.Agrees (setup.source state.streams)) state.session packet stored clock
  refine intact_iff.mpr ⟨stillOpen, ?_⟩
  intro entry listed
  rcases mem_close.mp listed with ⟨left, same⟩ | earlier
  · rw [same]
    exact closed entry.2 left
  · exact old entry earlier

theorem hand_intact {setup : Setup} {sender : Sender} {state : Receiver}
    (genuine : ∀ batch ∈ sender.batches, batch.Genuine setup) (intact : state.Intact setup)
    {number : Nat} {recovered : Recovered}
    (sound : TaskSound setup sender state (.hand number recovered))
    (current : state.session.openBuffer ≠ none → setup.debugAssertions = true ∧
      ∀ batch, sender.batches[number]? = some batch → batch.stream = state.streams)
    (clock : Nat → Timestamp) (tasks : List FecTask) :
    Intact setup { state with
      session := (state.session.recoveredPacket recovered clock).session
      tasks := tasks } := by
  obtain ⟨holds, old⟩ := intact_iff.mp intact
  obtain ⟨batch, found, blocks⟩ := sound
  refine intact_iff.mpr ⟨?_, old⟩
  refine ConnectionStates.recoveredPacket_stores holds ?_ clock
  intro first isOpen buffer agrees packet listed
  obtain ⟨debug, ofStream⟩ := current (by rw [isOpen]; exact Option.some_ne_none _)
  obtain ⟨pos, inside, rfl⟩ := blocks packet listed
  refine agrees.write ?_
  rw [← ofStream batch found]
  exact (genuine batch (List.mem_of_getElem? found)).recovered_isChunk debug inside

/-- A step of the receiver that meets the guard leaves every buffer with bytes of its own
source. -/
theorem step_intact {setup : Setup} {sender : Sender} {state next : Receiver}
    {label : ReceiverLabel} (sound : sender.Sound setup) (decodes : state.Decodes setup sender)
    (intact : state.Intact setup) (isolated : state.Isolated setup sender label)
    (stepped : state.step setup sender label = some next) : next.Intact setup := by
  obtain ⟨holds, old⟩ := intact_iff.mp intact
  cases label with
  | streamingFrom buffer message =>
      obtain ⟨free, same⟩ := Option.ite_none_right_eq_some.mp stepped
      cases Option.some.inj same
      refine intact_iff.mpr ⟨?_, old⟩
      intro opened isOpen
      rw [ConnectionStates.openBuffer_streamingFrom free] at isOpen
      cases isOpen
      exact WriteableBuffer.new_agrees _ _
  | data number pos clock =>
      obtain ⟨packet, found, rfl⟩ := Option.map_eq_some_iff.mp stepped
      obtain ⟨batch, batchFound, packetFound⟩ := Option.bind_eq_some_iff.mp found
      have genuine := sound.sourced.batches batch (List.mem_of_getElem? batchFound)
      refine data_intact intact ?_ number clock
      intro isOpen
      rw [← isolated isOpen batch batchFound]
      exact (genuine.packetAt packetFound).chunk
  | parity index =>
      obtain ⟨sent, _, rfl⟩ := Option.map_eq_some_iff.mp stepped
      exact intact
  | task index clock =>
      obtain ⟨task, found, rfl⟩ := Option.map_eq_some_iff.mp stepped
      cases task with
      | hand number recovered =>
          exact hand_intact sound.sourced.batches intact
            (decodes.tasks _ (List.mem_of_getElem? found)) (isolated.2 number recovered found)
            clock _
      | _ => exact intact
  | prune keys =>
      cases stepped
      exact intact
  | seek position =>
      cases stepped
      exact intact_iff.mpr ⟨ConnectionStates.seek_agrees holds position, old⟩
  | updateMessage change =>
      cases stepped
      refine intact_iff.mpr ⟨?_, old⟩
      intro buffer isOpen
      rw [ConnectionStates.openBuffer_updateMessage] at isOpen
      exact holds buffer isOpen
  | closeStream =>
      obtain ⟨shut, kept⟩ := state.session.closeStream_openBuffer
      have same : next = { state with
          session := state.session.closeStream.1
          closed := state.close state.session.closeStream.2 } := (Option.some.inj stepped).symm
      subst same
      refine intact_iff.mpr ⟨?_, ?_⟩
      · intro buffer isOpen
        rw [shut] at isOpen
        cases isOpen
      · intro entry listed
        rcases mem_close.mp listed with ⟨left, same⟩ | earlier
        · rw [kept] at left
          rw [same]
          exact holds entry.2 left
        · exact old entry earlier

end Receiver

/-! ## Runs -/

namespace Exchange

def Isolated (setup : Setup) (state : Exchange) : ExchangeLabel → Prop
  | .sender label => state.sender.Isolated setup label
  | .receiver label => state.receiver.Isolated setup state.sender label

instance (setup : Setup) (state : Exchange) : DecidablePred (state.Isolated setup)
  | .sender label => inferInstanceAs (Decidable (state.sender.Isolated setup label))
  | .receiver label => inferInstanceAs (Decidable (state.receiver.Isolated setup state.sender label))

structure Sound (setup : Setup) (state : Exchange) : Prop where
  sender : state.sender.Sound setup
  decodes : state.receiver.Decodes setup state.sender
  intact : state.receiver.Intact setup

theorem new_sound (setup : Setup) {sending receiving : EstablishedState}
    (sendingUp : sending.state = .up) (receivingUp : receiving.state = .up) :
    (new sending receiving).Sound setup where
  sender := Sender.new_sound setup sendingUp
  decodes := {
    entries := fun _ _ present => nomatch present
    tasks := fun _ listed => nomatch listed }
  intact := by
    refine Receiver.intact_iff.mpr ⟨?_, fun _ listed => nomatch listed⟩
    intro buffer isOpen
    rw [new, Receiver.new, ConnectionStates.openBuffer, ConnectionStates.openStream] at isOpen
    simp only [receivingUp] at isOpen
    cases isOpen

theorem step_sound {setup : Setup} (state : Exchange) (label : ExchangeLabel) (next : Exchange)
    (sound : state.Sound setup) (isolated : state.Isolated setup label)
    (stepped : (machine setup).step state label = some next) : next.Sound setup := by
  cases label with
  | sender label =>
      obtain ⟨sender, senderStepped, rfl⟩ := Option.map_eq_some_iff.mp stepped
      exact ⟨Sender.step_sound sound.sender isolated senderStepped,
        sound.decodes.extend (Sender.step_batches senderStepped), sound.intact⟩
  | receiver label =>
      obtain ⟨receiver, receiverStepped, rfl⟩ := Option.map_eq_some_iff.mp stepped
      exact ⟨sound.sender, Receiver.step_decodes sound.sender sound.decodes isolated receiverStepped,
        Receiver.step_intact sound.sender sound.decodes sound.intact isolated receiverStepped⟩

/-- In a run whose steps all keep the streams apart, every receive buffer holds bytes of the
source of its own stream, whatever the network does. -/
theorem isolated_run_intact {setup : Setup} {first final : Exchange} {labels : List ExchangeLabel}
    (initial : (machine setup).initial first)
    (isolated : (machine setup).Guarded (Isolated setup) first labels)
    (ran : (machine setup).run first labels = some final) : final.receiver.Intact setup := by
  obtain ⟨sending, receiving, sendingUp, receivingUp, rfl⟩ := initial
  exact ((machine setup).guarded_run_preserves step_sound
    (new_sound setup sendingUp receivingUp) isolated ran).intact

/-- The first stream carries one byte, every later one another byte. -/
def twoStreams : Setup where
  sessionId := ⟨1⟩
  debugAssertions := true
  source number := if number = 1 then [1] else [2]

def free : EstablishedState where
  sessionId := ⟨1⟩
  state := .up
  address := ⟨[127, 0, 0, 1], 6969⟩
  appId := ⟨[]⟩

def atStart : Nat → Timestamp := fun _ => ⟨0, Timestamp.zero_lt⟩

def openAndSend (loop : Nat) : List ExchangeLabel :=
  [.receiver (.streamingFrom (Buffer.ofBytes [0]) .default), .sender (.streamTo .default),
    .sender (.tick loop atStart)]

/-- The only packet of the batch goes through `sent`, the parity packet through `received`. -/
def codeAndRecover : List ExchangeLabel :=
  List.replicate 4 (.sender (.sent 0 0 ⟨0, Timestamp.zero_lt⟩)) ++
    .receiver (.parity 0) :: List.replicate 5 (.receiver (.task 0 atStart))

/-- Two streams, the first one recovered and closed before the second one begins. -/
def recoverThenSend : List ExchangeLabel :=
  openAndSend 0 ++ codeAndRecover ++ [.receiver .closeStream, .sender .closeStream] ++
    openAndSend 1 ++ [.receiver (.data 1 0 atStart)]

theorem isolated_run_intact_recovered :
    ∃ final, (machine twoStreams).run (new free free) recoverThenSend = some final ∧
      (final.receiver.buffers.map fun entry => entry.2.map) = [[true], [true]] ∧
      final.receiver.Intact twoStreams := by
  have facts : ((machine twoStreams).run (new free free) recoverThenSend).map
      (fun final => final.receiver.buffers.map fun entry => entry.2.map) =
        some [[true], [true]] := by
    decide +kernel
  have isolated : (machine twoStreams).Guarded (Isolated twoStreams) (new free free)
      recoverThenSend := by
    decide +kernel
  obtain ⟨final, ran, maps⟩ := Option.map_eq_some_iff.mp facts
  exact ⟨final, ran, maps, isolated_run_intact ⟨free, free, rfl, rfl, rfl⟩ isolated ran⟩
/-- The packet of the first stream is delayed until the second one is open, and is written to the
buffer of the second. -/
theorem delayed_packet_in_next_stream :
    ∃ final, (machine twoStreams).initial (new free free) ∧
      (machine twoStreams).run (new free free)
        (openAndSend 0 ++ [.receiver .closeStream, .sender .closeStream] ++ openAndSend 1 ++
          [.receiver (.data 0 0 atStart)]) = some final ∧
      ¬ final.receiver.Intact twoStreams := by
  have ran : ∃ final entry, (machine twoStreams).run (new free free)
        (openAndSend 0 ++ [.receiver .closeStream, .sender .closeStream] ++ openAndSend 1 ++
          [.receiver (.data 0 0 atStart)]) = some final ∧
      final.receiver.closed.head? = some entry ∧ entry.1 = 2 ∧ entry.2.map = [true] ∧
      entry.2.buffer.memory = some [1] := ⟨_, _, rfl, rfl, rfl, rfl, rfl⟩
  obtain ⟨final, entry, ran, first, second, map, memory⟩ := ran
  refine ⟨final, ⟨free, free, rfl, rfl, rfl⟩, ran, ?_⟩
  intro intact
  have agrees := (Receiver.intact_iff.mp intact).2 entry (List.mem_of_mem_head? first)
  have held := (agrees [1] memory 0 (by rw [map]; rfl)).2 0 rfl (by decide)
  rw [second] at held
  exact absurd (held (by decide)) (by decide)

end Exchange
end Ubass

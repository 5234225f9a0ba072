import Ubass.Exchange.Isolation

/-!
# A single stream

With one stream on the session and fewer than 2^16 batches, every batch has an id
of its own.  A packet then meets no entry of another batch, and nothing but the
stream's own packets is under way, so every run keeps streams apart.
-/

set_option autoImplicit false

namespace Ubass

/-! ## Batch ids -/

namespace Sender

/-- The `n`th batch has the id `n`, and every outbound entry is under the key of its batch. -/
structure Numbered (setup : Setup) (state : Sender) : Prop where
  counter : ∀ sending, state.session.Sends sending →
    sending.currentBatch = UInt16.ofNat state.batches.length ∧ 0 < state.streams
  ids : ∀ (number : Nat) (batch : Batch), state.batches[number]? = some batch →
    batch.batchId = ⟨UInt16.ofNat (number + 1)⟩ ∧ batch.stream = 1
  unopened : state.streams = 0 → state.batches = []
  keys : ∀ key ref, state.xor.outbound.refs.get key = some ref →
    ∃ batch, state.batches[state.owner ref]? = some batch ∧ batch.key setup = key

theorem new_numbered (setup : Setup) {session : EstablishedState} (up : session.state = .up) :
    (new session).Numbered setup where
  counter sending sends := by
    obtain ⟨_, _, same, state, _⟩ := sends
    cases same
    rw [up] at state
    cases state
  ids _ _ found := nomatch found
  unopened _ := rfl
  keys _ _ present := nomatch present

theorem Numbered.number_eq {setup : Setup} {state : Sender} (numbered : state.Numbered setup)
    (few : state.batches.length < 2 ^ 16) {left right : Nat} {first second : Batch}
    (foundFirst : state.batches[left]? = some first)
    (foundSecond : state.batches[right]? = some second)
    (same : first.batchId = second.batchId) : left = right := by
  have leftInside := (List.getElem?_eq_some_iff.mp foundFirst).1
  have rightInside := (List.getElem?_eq_some_iff.mp foundSecond).1
  rw [(numbered.ids left first foundFirst).1, (numbered.ids right second foundSecond).1] at same
  have numbers := congrArg (fun batchId : BatchId => batchId.id.toNat) same
  simp only [UInt16.toNat_ofNat'] at numbers
  omega

theorem Numbered.tick {setup : Setup} {state : Sender} (numbered : state.Numbered setup)
    (sourced : state.Sourced setup) (single : state.streams ≤ 1) {index : Nat} {loop : SendLoop}
    (listed : state.loops[index]? = some loop) {clock : Nat → Timestamp}
    {session : ConnectionStates} {last : SendLoop} {packets : List DataPacket}
    (result : TickCases state.session setup.sessionId loop.extras clock (session, last, packets)) :
    Numbered setup { state with
      session := session
      loops := state.loops.set index last
      batches := if packets = [] then state.batches
        else state.batches ++ [⟨state.streams, packets⟩] } := by
  cases result with
  | silent _ _ before after same =>
      rw [if_pos rfl]
      exact ⟨fun sending sends => absurd sends (after sending), numbered.ids, numbered.unopened,
        numbered.keys⟩
  | sends sending next _ _ toSend before after step =>
      have holds := sourced.sending sending before
      have short : sending.buffer.len ≤ 2 ^ 32 := by
        rw [ReadableBuffer.len, holds.buffer]
        exact holds.short
      have spec := step.spec holds.aligned short (sourced.loops loop (List.mem_of_getElem? listed))
      obtain ⟨counter, opened⟩ := numbered.counter sending before
      cases toSend with
      | none =>
          have same : ((none : Option (List Chunk × BatchId)).map fun sent =>
              sendDataPackets sent.1 setup.sessionId sent.2 clock).getD [] = [] := rfl
          rw [if_pos same]
          refine ⟨?_, numbered.ids, numbered.unopened, numbered.keys⟩
          intro other sends
          cases ConnectionStates.sends_unique sends after
          exact ⟨(spec.silent rfl).trans counter, opened⟩
      | some sent =>
          obtain ⟨chunks, batchId⟩ := sent
          obtain ⟨nonempty, _, _⟩ := spec.chunks chunks batchId rfl
          obtain ⟨isNext, advanced⟩ := spec.counter chunks batchId rfl
          have incremented : sending.currentBatch + 1 =
              UInt16.ofNat (state.batches.length + 1) := by
            rw [counter, UInt16.ofNat_add]
            rfl
          rw [Option.map_some, Option.getD_some, if_neg]
          · refine ⟨?_, ?_, ?_, ?_⟩
            · intro other sends
              cases ConnectionStates.sends_unique sends after
              rw [List.length_append, List.length_singleton]
              exact ⟨advanced.trans incremented, opened⟩
            · intro number batch found
              rcases Nat.lt_or_ge number state.batches.length with old | new
              · rw [List.getElem?_append_left old] at found
                exact numbered.ids number batch found
              · rw [List.getElem?_append_right new, List.getElem?_singleton] at found
                obtain ⟨isLast, same⟩ := Option.ite_none_right_eq_some.mp found
                cases same
                obtain rfl : number = state.batches.length := by omega
                rw [Batch.batchId_of_sent nonempty, isNext, incremented]
                exact ⟨rfl, by simp only; omega⟩
            · intro closed
              exact absurd closed opened.ne'
            · intro key ref present
              obtain ⟨batch, found, same⟩ := numbered.keys key ref present
              exact ⟨batch, Receiver.getElem?_extended ⟨_, rfl⟩ found, same⟩
          · simp [sendDataPackets, nonempty]

theorem Numbered.sent {setup : Setup} {state next : Sender} (numbered : state.Numbered setup)
    (sourced : state.Sourced setup) {number pos : Nat} {now : Timestamp}
    (stepped : state.sent setup number pos now = some next) : next.Numbered setup := by
  obtain ⟨data, packet, found, made, step⟩ := sent_step stepped
  obtain ⟨batch, batchFound, dataFound⟩ := Option.bind_eq_some_iff.mp found
  have genuine := sourced.batches batch (List.mem_of_getElem? batchFound)
  have packetAt := genuine.fecPacketAt dataFound made
  obtain ⟨session, streams, _, batches⟩ := step.frame
  refine ⟨?_, by rw [batches]; exact numbered.ids, ?_, ?_⟩
  · rw [session, batches, streams]
    exact numbered.counter
  · rw [streams, batches]
    exact numbered.unopened
  · intro key ref present
    rw [batches]
    cases step with
    | allocated xor before absent refs cells =>
        simp only [refs, Table.get_insert] at present
        split at present
        · rename_i same
          cases present
          exact ⟨batch, by simp only [Function.update_self]; exact batchFound,
            packetAt.key.symm.trans same.symm⟩
        · have old := state.xor.outbound.valid key ref present
          simp only [Function.update_of_ne old.ne]
          exact numbered.keys key ref present
    | removed elsewhere before atKey =>
        exact numbered.keys key ref (Table.get_of_get_remove present).2
    | _ => exact numbered.keys key ref present

theorem step_numbered {setup : Setup} {state next : Sender} {label : SenderLabel}
    (numbered : state.Numbered setup) (sourced : state.Sourced setup) (single : next.streams ≤ 1)
    (stepped : state.step setup label = some next) : next.Numbered setup := by
  cases label with
  | streamTo message =>
      obtain ⟨free, same⟩ := Option.ite_none_right_eq_some.mp stepped
      cases Option.some.inj same
      have none : state.batches = [] := numbered.unopened (by simp only at single; omega)
      refine ⟨?_, numbered.ids, fun closed => absurd closed (Nat.succ_ne_zero _), numbered.keys⟩
      intro sending sends
      obtain ⟨_, counter⟩ := sends_streamTo free _ _ sends
      exact ⟨by rw [counter, none]; rfl, Nat.succ_pos _⟩
  | tick index clock =>
      simp only [step] at stepped
      split at stepped
      · cases stepped
      · rename_i loop listed
        obtain ⟨_, same⟩ := Option.ite_none_right_eq_some.mp stepped
        cases Option.some.inj same
        exact numbered.tick sourced single listed
          (sendTick_cases state.session setup.sessionId loop clock)
  | event index event =>
      simp only [step] at stepped
      split at stepped
      · cases stepped
      · cases stepped
        refine ⟨?_, numbered.ids, numbered.unopened, numbered.keys⟩
        intro sending sends
        obtain ⟨earlier, before, same, _⟩ := sends_handleStreamEvent sends
        rw [same]
        exact numbered.counter earlier before
  | updateMessage change =>
      cases stepped
      exact ⟨fun sending sends => numbered.counter sending (sends_of_updateMessage sends),
        numbered.ids, numbered.unopened, numbered.keys⟩
  | closeStream =>
      cases stepped
      exact ⟨fun sending sends => absurd sends (state.session.silent_closeStream sending),
        numbered.ids, numbered.unopened, numbered.keys⟩
  | sent batch pos now => exact numbered.sent sourced stepped

theorem step_streams {setup : Setup} {state next : Sender} {label : SenderLabel}
    (stepped : state.step setup label = some next) : state.streams ≤ next.streams := by
  cases label with
  | streamTo message =>
      obtain ⟨_, same⟩ := Option.ite_none_right_eq_some.mp stepped
      cases Option.some.inj same
      exact Nat.le_succ _
  | tick index clock =>
      simp only [step] at stepped
      split at stepped
      · cases stepped
      · obtain ⟨_, same⟩ := Option.ite_none_right_eq_some.mp stepped
        cases Option.some.inj same
        exact Nat.le_refl _
  | event index event =>
      simp only [step] at stepped
      split at stepped
      · cases stepped
      · cases stepped
        exact Nat.le_refl _
  | updateMessage change =>
      cases stepped
      exact Nat.le_refl _
  | closeStream =>
      cases stepped
      exact Nat.le_refl _
  | sent batch pos now =>
      obtain ⟨_, _, _, _, step⟩ := sent_step stepped
      exact step.frame.2.1.ge

end Sender

namespace Receiver

/-- Every inbound entry is under the key of the batch that created it. -/
structure Keyed (setup : Setup) (sender : Sender) (state : Receiver) : Prop where
  opened : state.session.openBuffer ≠ none → 0 < state.streams
  keys : ∀ key ref, state.xor.inbound.refs.get key = some ref →
    ∃ batch, sender.batches[state.owner ref]? = some batch ∧ batch.key setup = key

theorem Keyed.extend {setup : Setup} {sender later : Sender} {state : Receiver}
    (keyed : state.Keyed setup sender)
    (extended : ∃ more, later.batches = sender.batches ++ more) : state.Keyed setup later where
  opened := keyed.opened
  keys key ref present := by
    obtain ⟨batch, found, same⟩ := keyed.keys key ref present
    exact ⟨batch, getElem?_extended extended found, same⟩

theorem taskStep_opened {state : Receiver} {task : FecTask} {clock : Nat → Timestamp}
    (isOpen : (state.taskStep clock task).1.session.openBuffer ≠ none) :
    state.session.openBuffer ≠ none ∧
      (state.taskStep clock task).1.streams = state.streams := by
  cases task with
  | hand number recovered =>
      obtain ⟨buffer, present⟩ := Option.ne_none_iff_exists'.mp isOpen
      refine ⟨?_, rfl⟩
      exact @ConnectionStates.recoveredPacket_stores (fun _ => state.session.openBuffer ≠ none)
        state.session recovered (fun _ before => by rw [before]; exact Option.some_ne_none _)
        (fun _ _ _ holds _ _ => holds) clock buffer present
  | _ => exact ⟨isOpen, rfl⟩

theorem taskStep_keys {setup : Setup} {sender : Sender} {state : Receiver}
    (keyed : state.Keyed setup sender) {task : FecTask}
    (sound : TaskSound setup sender state task) (clock : Nat → Timestamp) {key : MapKey}
    {ref : Nat} (present : (state.taskStep clock task).1.xor.inbound.refs.get key = some ref) :
    ∃ batch, sender.batches[(state.taskStep clock task).1.owner ref]? = some batch ∧
      batch.key setup = key := by
  cases task with
  | enter number packet =>
      obtain ⟨batch, found, arrives⟩ := sound
      have entered := state.xor.inbound.entry_step packet.key
        (InboundBatchData.new packet.fecInfo.batchSize (clock 0))
      simp only [taskStep, Xor.receivedEntry] at present ⊢
      generalize state.xor.inbound.entry packet.key
        (InboundBatchData.new packet.fecInfo.batchSize (clock 0)) = result at entered present ⊢
      cases entered with
      | found other before =>
          simp only [Table.contains, before, Option.isSome_some, if_true]
          exact keyed.keys key ref present
      | allocated inbound absent refs cells =>
          simp only [Table.contains, absent, Option.isSome_none, Bool.false_eq_true, if_false]
          simp only [refs, Table.get_insert] at present
          split at present
          · rename_i same
            cases present
            rw [Function.update_self, same]
            exact ⟨batch, found, arrives.key_eq.symm⟩
          · have old := state.xor.inbound.valid key ref present
            rw [Function.update_of_ne old.ne]
            exact keyed.keys key ref present
  | add number other packet =>
      obtain ⟨_, _, allocated⟩ := sound
      have read : state.xor.inbound.read other = some _ := List.getElem?_eq_getElem allocated
      simp only [taskStep, Xor.receivedAdd_eq read] at present ⊢
      exact keyed.keys key ref present
  | take batchId sessionId => exact keyed.keys key ref (Table.get_of_get_remove present).2
  | read other batchId sessionId => exact keyed.keys key ref present
  | hand number recovered => exact keyed.keys key ref present

theorem step_keyed {setup : Setup} {sender : Sender} {state next : Receiver}
    {label : ReceiverLabel} (decodes : state.Decodes setup sender)
    (keyed : state.Keyed setup sender) (stepped : state.step setup sender label = some next) :
    next.Keyed setup sender := by
  cases label with
  | streamingFrom buffer message =>
      obtain ⟨_, same⟩ := Option.ite_none_right_eq_some.mp stepped
      cases Option.some.inj same
      exact ⟨fun _ => Nat.succ_pos _, keyed.keys⟩
  | data number pos clock =>
      obtain ⟨packet, _, rfl⟩ := Option.map_eq_some_iff.mp stepped
      refine ⟨?_, keyed.keys⟩
      intro isOpen
      obtain ⟨buffer, present⟩ := Option.ne_none_iff_exists'.mp isOpen
      exact (@ConnectionStates.receivedDataPacket_stores (fun _ => 0 < state.streams)
        state.session packet
        (fun _ before => keyed.opened (by rw [before]; exact Option.some_ne_none _)) clock).1
          buffer present
  | parity index =>
      obtain ⟨_, _, rfl⟩ := Option.map_eq_some_iff.mp stepped
      exact ⟨keyed.opened, keyed.keys⟩
  | task index clock =>
      obtain ⟨task, found, rfl⟩ := Option.map_eq_some_iff.mp stepped
      refine ⟨?_, ?_⟩
      · intro isOpen
        obtain ⟨before, same⟩ := taskStep_opened isOpen
        exact (keyed.opened before).trans_eq same.symm
      · intro key ref present
        exact taskStep_keys keyed (decodes.tasks task (List.mem_of_getElem? found)) clock present
  | prune keys =>
      cases stepped
      refine ⟨keyed.opened, ?_⟩
      intro key ref present
      exact keyed.keys key ref (Xor.refs_of_pruneRemove present)
  | seek position =>
      cases stepped
      refine ⟨?_, keyed.keys⟩
      intro isOpen
      refine keyed.opened ?_
      intro shut
      refine isOpen ?_
      cases found : state.session.receiving with
      | none => simp only [ConnectionStates.seek, found, shut]
      | some opened =>
          obtain ⟨_, _, receiving⟩ := opened
          rw [ConnectionStates.openBuffer_of_receiving found] at shut
          cases shut
  | updateMessage change =>
      cases stepped
      refine ⟨?_, keyed.keys⟩
      intro isOpen
      rw [ConnectionStates.openBuffer_updateMessage] at isOpen
      exact keyed.opened isOpen
  | closeStream =>
      have same : next = { state with
          session := state.session.closeStream.1
          closed := state.close state.session.closeStream.2 } := (Option.some.inj stepped).symm
      subst same
      exact ⟨fun isOpen => absurd state.session.closeStream_openBuffer.1 isOpen, keyed.keys⟩

theorem step_streams {setup : Setup} {sender : Sender} {state next : Receiver}
    {label : ReceiverLabel} (stepped : state.step setup sender label = some next) :
    state.streams ≤ next.streams := by
  cases label with
  | streamingFrom buffer message =>
      obtain ⟨_, same⟩ := Option.ite_none_right_eq_some.mp stepped
      cases Option.some.inj same
      exact Nat.le_succ _
  | data number pos clock =>
      obtain ⟨_, _, rfl⟩ := Option.map_eq_some_iff.mp stepped
      exact Nat.le_refl _
  | parity index =>
      obtain ⟨_, _, rfl⟩ := Option.map_eq_some_iff.mp stepped
      exact Nat.le_refl _
  | task index clock =>
      obtain ⟨task, _, rfl⟩ := Option.map_eq_some_iff.mp stepped
      cases task <;> exact Nat.le_refl _
  | prune keys =>
      cases stepped
      exact Nat.le_refl _
  | seek position =>
      cases stepped
      exact Nat.le_refl _
  | updateMessage change =>
      cases stepped
      exact Nat.le_refl _
  | closeStream =>
      cases stepped
      exact Nat.le_refl _

end Receiver

/-! ## Runs with one stream -/

namespace Exchange

/-- At most one stream was opened on either end, and its batches have ids of their own. -/
structure Single (state : Exchange) : Prop where
  sending : state.sender.streams ≤ 1
  receiving : state.receiver.streams ≤ 1
  batches : state.sender.batches.length < 2 ^ 16

theorem Single.of_step {setup : Setup} {state next : Exchange} {label : ExchangeLabel}
    (single : next.Single) (stepped : (machine setup).step state label = some next) :
    state.Single := by
  cases label with
  | sender label =>
      obtain ⟨sender, senderStepped, rfl⟩ := Option.map_eq_some_iff.mp stepped
      obtain ⟨more, batches⟩ := Sender.step_batches senderStepped
      have fewer := single.batches
      simp only [batches, List.length_append] at fewer
      exact ⟨(Sender.step_streams senderStepped).trans single.sending, single.receiving, by omega⟩
  | receiver label =>
      obtain ⟨receiver, receiverStepped, rfl⟩ := Option.map_eq_some_iff.mp stepped
      exact ⟨single.sending, (Receiver.step_streams receiverStepped).trans single.receiving,
        single.batches⟩

/-- What holds of every state before a second stream is opened. -/
structure Separate (setup : Setup) (state : Exchange) : Prop where
  sound : state.Sound setup
  numbered : state.sender.Numbered setup
  keyed : state.receiver.Keyed setup state.sender

theorem Separate.own_batch {setup : Setup} {state : Exchange} (separate : state.Separate setup)
    (single : state.Single) {key : MapKey} {owner number : Nat} {batch : Batch}
    (owned : ∃ other, state.sender.batches[owner]? = some other ∧ other.key setup = key)
    (found : state.sender.batches[number]? = some batch) (same : batch.key setup = key) :
    owner = number := by
  obtain ⟨other, otherFound, otherKey⟩ := owned
  exact separate.numbered.number_eq single.batches otherFound found
    (congrArg Prod.fst (otherKey.trans same.symm))

theorem Separate.isolated {setup : Setup} {state next : Exchange} {label : ExchangeLabel}
    (separate : state.Separate setup) (single : next.Single)
    (debug : setup.debugAssertions = true) (short : (setup.source 1).length ≤ 2 ^ 32)
    (stepped : (machine setup).step state label = some next) : state.Isolated setup label := by
  have before := single.of_step stepped
  have current : state.receiver.session.openBuffer ≠ none →
      ∀ (number : Nat) (batch : Batch), state.sender.batches[number]? = some batch →
        batch.stream = state.receiver.streams := by
    intro isOpen number batch found
    have opened := separate.keyed.opened isOpen
    have most := before.receiving
    rw [(separate.numbered.ids number batch found).2]
    omega
  cases label with
  | sender label =>
      obtain ⟨sender, senderStepped, rfl⟩ := Option.map_eq_some_iff.mp stepped
      cases label with
      | streamTo message =>
          obtain ⟨_, same⟩ := Option.ite_none_right_eq_some.mp senderStepped
          cases Option.some.inj same
          have first : state.sender.streams = 0 := by
            have most := single.sending
            simp only at most
            omega
          simp only [Isolated, Sender.Isolated, first]
          exact short
      | sent number pos now =>
          intro _ data found ref present
          obtain ⟨batch, batchFound, dataFound⟩ := Option.bind_eq_some_iff.mp found
          have genuine := separate.sound.sender.sourced.batches batch
            (List.mem_of_getElem? batchFound)
          have packetAt := genuine.packetAt dataFound
          refine separate.own_batch before (separate.numbered.keys _ ref present) batchFound ?_
          exact Prod.ext packetAt.batchId.symm packetAt.sessionId.symm
      | _ => trivial
  | receiver label =>
      cases label with
      | data number pos clock => exact fun isOpen batch found => current isOpen number batch found
      | task index clock =>
          refine ⟨?_, ?_⟩
          · intro number packet listed ref present
            obtain ⟨batch, found, arrives⟩ :=
              separate.sound.decodes.tasks _ (List.mem_of_getElem? listed)
            exact separate.own_batch before (separate.keyed.keys _ ref present) found
              arrives.key_eq.symm
          · intro number recovered _ isOpen
            exact ⟨debug, fun batch found => current isOpen number batch found⟩
      | _ => trivial

theorem Separate.step {setup : Setup} {state next : Exchange} {label : ExchangeLabel}
    (separate : state.Separate setup) (single : next.Single)
    (debug : setup.debugAssertions = true) (short : (setup.source 1).length ≤ 2 ^ 32)
    (stepped : (machine setup).step state label = some next) : next.Separate setup := by
  have isolated := separate.isolated single debug short stepped
  have sound := step_sound state label next separate.sound isolated stepped
  cases label with
  | sender label =>
      obtain ⟨sender, senderStepped, rfl⟩ := Option.map_eq_some_iff.mp stepped
      exact ⟨sound, Sender.step_numbered separate.numbered separate.sound.sender.sourced
        single.sending senderStepped, separate.keyed.extend (Sender.step_batches senderStepped)⟩
  | receiver label =>
      obtain ⟨receiver, receiverStepped, rfl⟩ := Option.map_eq_some_iff.mp stepped
      exact ⟨sound, separate.numbered,
        Receiver.step_keyed separate.sound.decodes separate.keyed receiverStepped⟩

theorem new_separate (setup : Setup) {sending receiving : EstablishedState}
    (sendingUp : sending.state = .up) (receivingUp : receiving.state = .up) :
    (new sending receiving).Separate setup where
  sound := new_sound setup sendingUp receivingUp
  numbered := Sender.new_numbered setup sendingUp
  keyed := {
    opened := by
      intro isOpen
      refine absurd ?_ isOpen
      simp only [new, Receiver.new, ConnectionStates.openBuffer, ConnectionStates.openStream,
        receivingUp]
      rfl
    keys := fun _ _ present => nomatch present }

theorem eq_source_of_isDone {buffer : WriteableBuffer} {source memory : List UInt8}
    (agrees : buffer.Agrees source) (sameLength : buffer.len = source.length)
    (done : buffer.isDone = true) (present : buffer.buffer.memory = some memory) :
    memory = source := by
  have filled : ∀ entry ∈ buffer.map, entry = true := by
    simpa using (Bool.and_eq_true_iff.mp done).2
  have length : memory.length = source.length :=
    (buffer.buffer.memory_length memory present).trans sameLength
  refine List.ext_getElem? ?_
  intro offset
  by_cases inside : offset < memory.length
  · have bound := @WriteableBuffer.index_lt_map_length buffer offset (by omega)
    have entry : buffer.map[offset / maxPayloadLength]? = some true := by
      rw [List.getElem?_eq_getElem bound, filled _ (List.getElem_mem bound)]
    exact (agrees memory present _ entry).2 offset rfl inside (length ▸ inside)
  · rw [List.getElem?_eq_none (not_lt.mp inside), List.getElem?_eq_none (by omega)]

/-- A session that carries one source only, in a build with debug assertions: without them a
recovered chunk is all zeros. -/
def carrying (sessionId : SessionId) (source : List UInt8) : Setup where
  sessionId := sessionId
  debugAssertions := true
  source _ := source

/-- In every run of one stream with fewer than 2^16 batches, whatever the network does and
whenever batches are pruned, each chunk that is marked as filled holds the bytes of the source,
and a buffer of the length of the source that is done holds the source. -/
theorem single_stream_intact {sessionId : SessionId} {source : List UInt8}
    (short : source.length + maxPayloadLength < 2 ^ 32) {first final : Exchange}
    {labels : List ExchangeLabel} (initial : (machine (carrying sessionId source)).initial first)
    (ran : (machine (carrying sessionId source)).run first labels = some final)
    (single : final.Single) :
    ∀ entry ∈ final.receiver.buffers, entry.2.Agrees source ∧
      (entry.2.len = source.length → entry.2.isDone = true →
        ∀ memory, entry.2.buffer.memory = some memory → memory = source) := by
  obtain ⟨sending, receiving, sendingUp, receivingUp, rfl⟩ := initial
  have separate := @Machine.run_preserves _ _ (machine (carrying sessionId source))
    (fun state => state.Single → state.Separate (carrying sessionId source))
    (fun state label next holds stepped single =>
      (holds (single.of_step stepped)).step single rfl (by simp only [carrying]; omega) stepped)
    (new sending receiving) final labels
    (fun _ => new_separate _ sendingUp receivingUp) ran single
  intro entry listed
  have agrees : entry.2.Agrees source := separate.sound.intact entry listed
  exact ⟨agrees, fun sameLength done memory present =>
    eq_source_of_isDone agrees sameLength done present⟩

/-- One packet goes through `sent`, and only its parity packet arrives. -/
def lostAndRecovered : List ExchangeLabel :=
  openAndSend 0 ++ List.replicate 4 (.sender (.sent 0 0 ⟨0, Timestamp.zero_lt⟩)) ++
    .receiver (.parity 0) :: List.replicate 5 (.receiver (.task 0 atStart))

/-- The lost packet is recovered into the buffer. -/
theorem single_stream_intact_recovered :
    ∃ final, (machine (carrying ⟨1⟩ [7])).run (new free free) lostAndRecovered = some final ∧
      ∃ buffer, final.receiver.session.openBuffer = some buffer ∧ buffer.map = [true] ∧
        buffer.Agrees [7] := by
  have counts : ((machine (carrying ⟨1⟩ [7])).run (new free free) lostAndRecovered).map
      (fun final => (final.sender.streams, final.receiver.streams,
        final.sender.batches.length)) = some (1, 1, 1) := by
    decide +kernel
  have held : ((machine (carrying ⟨1⟩ [7])).run (new free free) lostAndRecovered).map
      (fun final => final.receiver.session.openBuffer.map WriteableBuffer.map) =
        some (some [true]) := by
    decide +kernel
  obtain ⟨final, ran, counts⟩ := Option.map_eq_some_iff.mp counts
  rw [ran, Option.map_some, Option.some.injEq, Option.map_eq_some_iff] at held
  obtain ⟨buffer, isOpen, map⟩ := held
  simp only [Prod.mk.injEq] at counts
  have single : final.Single := ⟨counts.1.le, counts.2.1.le, by rw [counts.2.2]; decide⟩
  have intact := single_stream_intact (by decide) ⟨free, free, rfl, rfl, rfl⟩ ran single
  exact ⟨final, ran, buffer, isOpen, map,
    (intact (final.receiver.streams, buffer)
      (Receiver.mem_buffers.mpr (Or.inl ⟨isOpen, rfl⟩))).1⟩

end Exchange
end Ubass

import Ubass.Exchange.ReceivePath
import Ubass.Exchange.SingleStream

/-!
# Transfers that stall

A receiver asks for what it misses when a packet arrives, when the handler of a packet
finds that only the end is missing, or when it prunes a batch of which a packet has
arrived.  A batch that is lost as a whole leaves no entry to prune, and a sender that has
sent everything sends nothing on its own.  So when both ends have done what they had to
do, nothing moves again until an application acts.
-/

set_option autoImplicit false

namespace Ubass

/-- The host that sends on a session, and the receive path of the other one. -/
structure Pair where
  sender : Sender
  path : ReceivePath

inductive PairLabel where
  | sender (label : SenderLabel)
  | path (label : ReceiveLabel)

namespace Pair

def machine (setup : Setup) : Machine Pair PairLabel where
  initial state := ∃ sending : EstablishedState,
    sending.state = .up ∧ state = ⟨Sender.new sending, ReceivePath.new⟩
  step state
    | .sender label =>
        (state.sender.step setup label).map fun sender => { state with sender := sender }
    | .path label =>
        ((ReceivePath.machine setup.debugAssertions).step state.path label).map fun path =>
          { state with path := path }

/-- What happens without an application: nothing arrives that was not sent since `start`. -/
inductive Fresh (start state : Pair) : PairLabel → Prop
  | tick (loop : Nat) (clock : Nat → Timestamp) : Fresh start state (.sender (.tick loop clock))
  | sent (batch pos : Nat) (now : Timestamp) : Fresh start state (.sender (.sent batch pos now))
  | event (loop : Nat) (event : StreamEvent)
      (asked : start.path.sent.length < state.path.sent.length) :
      Fresh start state (.sender (.event loop event))
  | data (batch pos : Nat) (packet : DataPacket) (clock : Nat → Timestamp)
      (later : start.sender.batches.length ≤ batch)
      (found : state.sender.packet batch pos = some packet) :
      Fresh start state (.path (.data packet clock))
  | parity (index batch : Nat) (packet : ParityPacket)
      (later : start.sender.parities.length ≤ index)
      (found : state.sender.parities[index]? = some (batch, packet)) :
      Fresh start state (.path (.parity packet))
  | prune (keys : List MapKey) : Fresh start state (.path (.prune keys))
  | task (index : Nat) (clock : Nat → Timestamp) : Fresh start state (.path (.task index clock))
  | moved (sessionId : SessionId) (address : SocketAddr) :
      Fresh start state (.path (.call sessionId (.updateAddress address)))

end Pair

/-! ## A sender that has sent everything -/

namespace Sender

/-- The buffer and the extras are exhausted, and `fec::sent` is through with every packet. -/
structure Exhausted (state : Sender) : Prop where
  buffer : ∀ sending, state.session.Sends sending → sending.buffer.isDone = true
  extras : ∀ loop ∈ state.loops, loop.extras = ∅
  encoded : ∀ batch pos packet, state.packet batch pos = some packet →
    state.phase batch pos = .finished

theorem take_of_isDone {buffer : ReadableBuffer} (done : buffer.isDone = true) (count : Nat) :
    (ReadableBuffer.take count buffer).1 = [] := by
  cases count with
  | zero => rfl
  | succ count =>
      have none : buffer.next = none := by rw [ReadableBuffer.next, if_pos done]
      rw [ReadableBuffer.take_of_next_eq_none none]

theorem SendStep.of_exhausted {sending next : StreamingTo} {count : Nat} {after : Finset Nat}
    {toSend : Option (List Chunk × BatchId)} (step : SendStep sending count ∅ next after toSend)
    (done : sending.buffer.isDone = true) : next = sending ∧ after = ∅ ∧ toSend = none := by
  cases step with
  | paused => exact ⟨rfl, rfl, rfl⟩
  | fresh nonempty => exact absurd (take_of_isDone done count) nonempty
  | drained _ nonempty =>
      refine absurd ?_ nonempty
      simp [drained, drainedRanges]
  | nothing _ _ => exact ⟨rfl, Finset.empty_sdiff _, rfl⟩

theorem Exhausted.tick {state : Sender} (exhausted : state.Exhausted) (setup : Setup)
    {index : Nat} {loop : SendLoop} (found : state.loops[index]? = some loop)
    (clock : Nat → Timestamp) :
    (sendTick state.session setup.sessionId loop clock).2.2 = [] ∧
      (sendTick state.session setup.sessionId loop clock).2.1.extras = ∅ ∧
      ∀ sending, (sendTick state.session setup.sessionId loop clock).1.Sends sending →
        sending.buffer.isDone = true := by
  have cases := sendTick_cases state.session setup.sessionId loop clock
  rw [exhausted.extras loop (List.mem_of_getElem? found)] at cases
  generalize sendTick state.session setup.sessionId loop clock = result at cases ⊢
  cases cases with
  | silent next loop before after same =>
      exact ⟨rfl, same, fun sending sends => absurd sends (after sending)⟩
  | sends sending nextSending next loop toSend before after step =>
      have done := exhausted.buffer sending before
      obtain ⟨rfl, same, rfl⟩ := SendStep.of_exhausted step done
      refine ⟨rfl, same, ?_⟩
      intro other also
      cases ConnectionStates.sends_unique also after
      exact done

theorem Exhausted.step {setup : Setup} {state next : Sender} (exhausted : state.Exhausted)
    {label : SenderLabel}
    (own : (∃ loop clock, label = .tick loop clock) ∨ ∃ batch pos now, label = .sent batch pos now)
    (stepped : state.step setup label = some next) :
    next.Exhausted ∧ next.batches = state.batches ∧ next.parities = state.parities := by
  rcases own with ⟨index, clock, rfl⟩ | ⟨batch, pos, now, rfl⟩
  · simp only [Sender.step] at stepped
    split at stepped
    · cases stepped
    · rename_i loop found
      split at stepped
      · cases stepped
        obtain ⟨nothing, extras, buffer⟩ := exhausted.tick setup found clock
        have batches : (if (sendTick state.session setup.sessionId loop clock).2.2 = []
            then state.batches else state.batches ++
              [⟨state.streams, (sendTick state.session setup.sessionId loop clock).2.2⟩]) =
            state.batches := if_pos nothing
        refine ⟨⟨buffer, ?_, ?_⟩, batches, rfl⟩
        · intro other listed
          rcases List.mem_or_eq_of_mem_set listed with old | rfl
          · exact exhausted.extras other old
          · exact extras
        · intro batch pos packet present
          refine exhausted.encoded batch pos packet ?_
          rw [Sender.packet] at present ⊢
          exact batches ▸ present
      · cases stepped
  · exfalso
    obtain ⟨data, packet, found, _, step⟩ := sent_step stepped
    have finished := exhausted.encoded batch pos data found
    cases step with
    | found ref phase => cases finished.symm.trans phase
    | allocated xor phase => cases finished.symm.trans phase
    | lost ref phase => cases finished.symm.trans phase
    | added ref entry phase => cases finished.symm.trans phase
    | removed ref phase => cases finished.symm.trans phase
    | built ref entry now phase => cases finished.symm.trans phase

end Sender

/-! ## A receive path that waits -/

theorem ConnectionStates.openBuffer_updateAddress (connection : ConnectionStates)
    (address : SocketAddr) :
    (connection.updateAddress address).openBuffer = connection.openBuffer := by
  cases connection with
  | handshake _ _ _ => rfl
  | established session =>
      cases state : session.state with
      | up | down | streaming _ =>
          simp only [updateAddress, openBuffer, openStream, state, Option.bind_none,
            Option.bind_some]

namespace ReceivePath

/-- No batch is in the map, and what is left of the routines finds nothing. -/
structure Idle (state : ReceivePath) : Prop where
  batches : ∀ key, state.xor.inbound.refs.get key = none
  tasks : ∀ task ∈ state.tasks, task = .enumerate [] []

theorem pruneRemove_of_empty {xor : Xor} (empty : ∀ key, xor.inbound.refs.get key = none)
    (keys : List MapKey) :
    (xor.pruneRemove keys).2 = [] ∧
      ∀ key, (xor.pruneRemove keys).1.inbound.refs.get key = none := by
  induction keys generalizing xor with
  | nil => exact ⟨rfl, empty⟩
  | cons first rest ih =>
      have absent : (xor.recoverRemove first).1 = none := empty first
      have emptied : ∀ key, (xor.recoverRemove first).2.inbound.refs.get key = none := by
        intro key
        refine (Table.get_remove _ first key).trans ?_
        rw [empty, ite_self]
      obtain ⟨removed, left⟩ := ih emptied
      refine ⟨?_, left⟩
      simp only [Xor.pruneRemove, absent, removed]
      rfl

theorem Idle.step {debugAssertions : Bool} {state next : ReceivePath} (idle : state.Idle)
    {label : ReceiveLabel}
    (quiet : (∃ keys, label = .prune keys) ∨ (∃ index clock, label = .task index clock) ∨
      ∃ sessionId address, label = .call sessionId (.updateAddress address))
    (stepped : (machine debugAssertions).step state label = some next) :
    next.Idle ∧ next.sent = state.sent ∧
      ∀ sessionId, next.openBuffer sessionId = state.openBuffer sessionId := by
  rcases quiet with ⟨keys, rfl⟩ | ⟨index, clock, rfl⟩ | ⟨sessionId, address, rfl⟩
  · cases stepped
    obtain ⟨removed, left⟩ := pruneRemove_of_empty idle.batches keys
    refine ⟨⟨left, ?_⟩, rfl, fun _ => rfl⟩
    intro task listed
    rcases List.mem_append.mp listed with old | added
    · exact idle.tasks task old
    · rw [List.mem_singleton.mp added, removed]
  · obtain ⟨task, found, rfl⟩ := Option.map_eq_some_iff.mp stepped
    cases idle.tasks task (List.mem_of_getElem? found)
    exact ⟨⟨idle.batches, fun task listed => idle.tasks task (List.mem_of_mem_eraseIdx listed)⟩,
      rfl, fun _ => rfl⟩
  · obtain ⟨connection, found, rfl⟩ := Option.map_eq_some_iff.mp stepped
    refine ⟨⟨idle.batches, idle.tasks⟩, List.append_nil _, ?_⟩
    intro other
    simp only [openBuffer, withConnection, Table.get_insert]
    split
    · rename_i same
      rw [same, found, Option.bind_some, Option.bind_some]
      exact connection.openBuffer_updateAddress address
    · rfl

end ReceivePath

/-! ## Both of them -/

namespace Pair

/-- Everything was sent, nothing is on its way, and the receiver waits. -/
structure Stalled (state : Pair) : Prop where
  sender : state.sender.Exhausted
  path : state.path.Idle

/-- Nothing was sent and no buffer was written since `start`. -/
structure Unmoved (start state : Pair) : Prop where
  batches : state.sender.batches = start.sender.batches
  parities : state.sender.parities = start.sender.parities
  sent : state.path.sent = start.path.sent
  buffers : ∀ sessionId, state.path.openBuffer sessionId = start.path.openBuffer sessionId

theorem Stalled.step {setup : Setup} {start state next : Pair} {label : PairLabel}
    (stalled : state.Stalled) (unmoved : Unmoved start state) (fresh : Fresh start state label)
    (stepped : (machine setup).step state label = some next) :
    next.Stalled ∧ Unmoved start next := by
  have own : ∀ {label : SenderLabel} {next : Pair},
      ((∃ loop clock, label = .tick loop clock) ∨ ∃ batch pos now, label = .sent batch pos now) →
        (machine setup).step state (.sender label) = some next →
          next.Stalled ∧ Unmoved start next := by
    intro label next own stepped
    obtain ⟨sender, moved, rfl⟩ := Option.map_eq_some_iff.mp stepped
    obtain ⟨exhausted, batches, parities⟩ := stalled.sender.step own moved
    exact ⟨⟨exhausted, stalled.path⟩, batches.trans unmoved.batches,
      parities.trans unmoved.parities, unmoved.sent, unmoved.buffers⟩
  have quiet : ∀ {label : ReceiveLabel} {next : Pair},
      ((∃ keys, label = .prune keys) ∨ (∃ index clock, label = .task index clock) ∨
        ∃ sessionId address, label = .call sessionId (.updateAddress address)) →
        (machine setup).step state (.path label) = some next →
          next.Stalled ∧ Unmoved start next := by
    intro label next quiet stepped
    obtain ⟨path, moved, rfl⟩ := Option.map_eq_some_iff.mp stepped
    obtain ⟨idle, sent, buffers⟩ := stalled.path.step quiet moved
    exact ⟨⟨stalled.sender, idle⟩, unmoved.batches, unmoved.parities, sent.trans unmoved.sent,
      fun sessionId => (buffers sessionId).trans (unmoved.buffers sessionId)⟩
  cases fresh with
  | tick loop clock => exact own (Or.inl ⟨loop, clock, rfl⟩) stepped
  | sent batch pos now => exact own (Or.inr ⟨batch, pos, now, rfl⟩) stepped
  | event loop event asked =>
      rw [unmoved.sent] at asked
      exact absurd asked (Nat.lt_irrefl _)
  | data batch pos packet clock later found =>
      rw [Sender.packet, unmoved.batches, List.getElem?_eq_none later] at found
      cases found
  | parity index batch packet later found =>
      rw [unmoved.parities, List.getElem?_eq_none later] at found
      cases found
  | prune keys => exact quiet (Or.inl ⟨keys, rfl⟩) stepped
  | task index clock => exact quiet (Or.inr (Or.inl ⟨index, clock, rfl⟩)) stepped
  | moved sessionId address => exact quiet (Or.inr (Or.inr ⟨sessionId, address, rfl⟩)) stepped

/-- What decides of the state after `sentAndLost` that it is stalled. -/
structure Seen where
  drained : Bool
  extras : List (Finset Nat)
  packets : List Nat
  phase : SentPhase
  parities : Nat
  entries : Nat
  tasks : Nat
  done : Option Bool
deriving DecidableEq

def seen (state : Pair) : Seen where
  drained :=
    match state.sender.session.openStream with
    | some (_, ⟨.streamingTo sending, _, _⟩) => sending.buffer.isDone
    | some (_, ⟨.streamingFrom _, _, _⟩) | none => true
  extras := state.sender.loops.map SendLoop.extras
  packets := state.sender.batches.map fun batch => batch.packets.length
  phase := state.sender.phase 0 0
  parities := state.sender.parities.length
  entries := state.path.xor.inbound.cells.length
  tasks := state.path.tasks.length
  done := (state.path.openBuffer ⟨1⟩).map WriteableBuffer.isDone

end Pair
end Ubass

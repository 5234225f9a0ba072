import Ubass.Lib.Machine
import Ubass.Manager.Send

/-!
# The loops of one session

Every `stream_to` spawns a loop, and no loop ever leaves its `select!`: the
`return` of `handle_stream_event` ends that function only.  On each tick a loop
looks up the session by its id and acts on whatever stream is open there, so the
loop of a stream that has ended works for the stream that was opened last, as
soon as that stream or the loop's own extras give it something to do.
-/

set_option autoImplicit false

namespace Ubass

/-- What a tick took: from the stream with this number, by the loop with this number. -/
structure Taken where
  stream : Nat
  loop : Nat
  drained : Finset Nat
  packets : List DataPacket

/-- The session, its loops in the order in which their streams were opened, and what the ticks
took so far. -/
structure SessionLoops where
  session : ConnectionStates
  loops : List SendLoop
  taken : List Taken

inductive LoopLabel where
  | streamTo (buffer : ReadableBuffer) (message : StreamMessage)
  | streamingFrom (buffer : WriteableBuffer) (message : StreamMessage)
  | tick (loop : Nat) (clock : Nat → Timestamp)
  /-- The loop of this number gets an event. -/
  | event (loop : Nat) (event : StreamEvent)
  /-- The application, or a handler, changes what the channel of the stream says. -/
  | updateMessage (change : StreamMessage → StreamMessage)
  /-- An endpoint, or a `Close` packet, ends the stream. -/
  | closeStream

namespace ConnectionStates

/-- The running stream of the session has chunks that were never taken, or there are extras. -/
def HasWork (self : ConnectionStates) (extras : Finset Nat) : Prop :=
  ∃ established stream sending, self.openStream = some (established, stream) ∧
    stream.streaming = .streamingTo sending ∧
    (!stream.stream.paused && !stream.stream.closed) = true ∧
    ((ReadableBuffer.take packetCountPerBatch sending.buffer).1 ≠ [] ∨ extras.Nonempty)

end ConnectionStates

namespace SessionLoops

/-- The packets of a tick and the extras it drained, unless there are neither. -/
def record (self : SessionLoops) (index : Nat) (extras left : Finset Nat)
    (packets : List DataPacket) : List Taken :=
  if packets = [] ∧ extras \ left = ∅ then self.taken
  else self.taken ++ [⟨self.loops.length - 1, index, extras \ left, packets⟩]

def step (sessionId : SessionId) (self : SessionLoops) : LoopLabel → Option SessionLoops
  | .streamTo buffer message =>
      match self.session with
      | .established established =>
          match established.state with
          | .up | .down =>
              some { self with
                session := self.session.streamTo buffer message
                loops := self.loops ++ [SendLoop.new] }
          | .streaming _ => none
      | .handshake _ _ _ => none
  | .streamingFrom buffer message =>
      some { self with session := self.session.streamingFrom buffer message }
  | .tick index clock =>
      match self.loops[index]? with
      | none => none
      | some loop =>
          if loop.playing then
            let (session, next, packets) := sendTick self.session sessionId loop clock
            some {
              session := session
              loops := self.loops.set index next
              taken := self.record index loop.extras next.extras packets }
          else none
  | .event index event =>
      match self.loops[index]? with
      | none => none
      | some loop =>
          let (session, loop) := handleStreamEvent self.session loop event
          some { self with session := session, loops := self.loops.set index loop }
  | .updateMessage change => some { self with session := self.session.updateMessage change }
  | .closeStream => some { self with session := self.session.closeStream.1 }

/-- A session before its first stream. -/
def machine (sessionId : SessionId) : Machine SessionLoops LoopLabel where
  initial state := state.loops = [] ∧ state.taken = []
  step := step sessionId

/-- What was taken from a stream was taken by the loop started for it. -/
def Inert (state : SessionLoops) : Prop :=
  ∀ taken ∈ state.taken, taken.loop = taken.stream

/-- The loop that ticks is the last one that was started, or finds nothing to do. -/
def OwnTick (state : SessionLoops) : LoopLabel → Prop
  | .tick index _ =>
      ∀ loop, state.loops[index]? = some loop → loop.playing = true →
        state.session.HasWork loop.extras → index = state.loops.length - 1
  | _ => True

/-! ## What a tick takes -/

theorem sendDataPackets_eq_nil {chunks : List Chunk} {sessionId : SessionId}
    {currentBatch : BatchId} {clock : Nat → Timestamp} :
    sendDataPackets chunks sessionId currentBatch clock = [] ↔ chunks = [] := by
  rw [sendDataPackets, List.map_eq_nil_iff]
  cases chunks with
  | nil => simp
  | cons first rest => simp

theorem drain_eq_empty {extras : Finset Nat} :
    extras \ (extras \ (extras.sort.take packetCountPerBatch).toFinset) = ∅ ↔ extras = ∅ := by
  constructor
  · intro none
    cases sorted : extras.sort with
    | nil =>
        rw [← extras.sort_toFinset (· ≤ ·), sorted]
        rfl
    | cons first rest =>
        have inside : first ∈ extras := by
          rw [← Finset.mem_sort (· ≤ ·), sorted]
          exact List.mem_cons_self
        have drained : first ∈ extras \
            (extras \ (extras.sort.take packetCountPerBatch).toFinset) := by
          rw [sorted, Finset.mem_sdiff, Finset.mem_sdiff]
          refine ⟨inside, ?_⟩
          rintro ⟨_, kept⟩
          apply kept
          rw [List.mem_toFinset]
          exact List.mem_cons_self
        rw [none] at drained
        exact absurd drained (Finset.notMem_empty first)
  · intro none
    rw [none, Finset.empty_sdiff]

theorem drained_empty (buffer : ReadableBuffer) : drained buffer ∅ packetCountPerBatch = [] := by
  simp [drained, drainedRanges]

theorem sendOnStream_stopped {stream : StreamState} {count : Nat}
    (stopped : stream.getChunks count = none) (extras : Finset Nat) :
    sendOnStream stream count extras = (stream, extras, none) := by
  rw [sendOnStream, stopped]

theorem sendOnStream_idle_iff {stream : StreamState} {sending : StreamingTo} {extras : Finset Nat}
    (streaming : stream.streaming = .streamingTo sending)
    (running : (!stream.stream.paused && !stream.stream.closed) = true) :
    ((sendOnStream stream packetCountPerBatch extras).2.2 = none ∧
      extras \ (sendOnStream stream packetCountPerBatch extras).2.1 = ∅) ↔
        (ReadableBuffer.take packetCountPerBatch sending.buffer).1 = [] ∧ extras = ∅ := by
  obtain ⟨taken, got, takenStreaming, takenRunning⟩ :=
    getChunks_eq streaming running packetCountPerBatch
  rw [sendOnStream, got]
  simp only
  rw [chooseChunks_eq packetCountPerBatch extras takenStreaming takenRunning, takenStreaming]
  cases fresh : (ReadableBuffer.take packetCountPerBatch sending.buffer).1 with
  | cons first rest =>
      rw [if_neg (List.cons_ne_nil _ _)]
      apply iff_of_false
      · rintro ⟨none, _⟩
        cases none
      · rintro ⟨none, _⟩
        cases none
  | nil =>
      rw [if_pos rfl, take_nil_snd fresh]
      cases read : drained sending.buffer extras packetCountPerBatch with
      | nil =>
          simp only [true_and]
          exact drain_eq_empty
      | cons first rest =>
          apply iff_of_false
          · rintro ⟨none, _⟩
            cases none
          · rintro ⟨_, rfl⟩
            rw [drained_empty] at read
            cases read

theorem toSend_ne_nil {session : ConnectionStates} {count : Nat} {extras : Finset Nat}
    {chunks : List Chunk} {address : SocketAddr} {batchId : BatchId}
    (sent : (sendStreamAction session count extras).toSend = some (chunks, address, batchId)) :
    chunks ≠ [] := by
  cases session with
  | handshake => cases sent
  | established established =>
      cases state : established.state with
      | up => simp [sendStreamAction, state] at sent
      | down => simp [sendStreamAction, state] at sent
      | streaming stream =>
          simp only [sendStreamAction, state, Option.map_eq_some_iff, Prod.exists] at sent
          obtain ⟨sending, number, onStream, same⟩ := sent
          cases same
          rw [sendOnStream] at onStream
          split at onStream
          · cases onStream
          · split at onStream
            · cases onStream
              exact List.cons_ne_nil _ _
            · cases onStream

theorem sendTick_packets_eq_nil {session : ConnectionStates} {sessionId : SessionId}
    {loop : SendLoop} {clock : Nat → Timestamp} :
    (sendTick session sessionId loop clock).2.2 = [] ↔
      (sendStreamAction session packetCountPerBatch loop.extras).toSend = none := by
  rw [sendTick]
  cases action : (sendStreamAction session packetCountPerBatch loop.extras).toSend with
  | none => simp
  | some sent =>
      obtain ⟨chunks, address, batchId⟩ := sent
      simp only [reduceCtorEq, iff_false]
      rw [sendDataPackets_eq_nil]
      exact toSend_ne_nil action

theorem sendTick_extras {session : ConnectionStates} {sessionId : SessionId} {loop : SendLoop}
    {clock : Nat → Timestamp} :
    (sendTick session sessionId loop clock).2.1.extras =
      (sendStreamAction session packetCountPerBatch loop.extras).extras := by
  rw [sendTick]
  split <;> rfl

theorem sendStreamAction_closed {session : ConnectionStates} (closed : session.openStream = none)
    (count : Nat) (extras : Finset Nat) :
    sendStreamAction session count extras = ⟨session, extras, none⟩ := by
  cases session with
  | handshake => rfl
  | established established =>
      cases state : established.state with
      | up => simp only [sendStreamAction, state]
      | down => simp only [sendStreamAction, state]
      | streaming stream => simp [ConnectionStates.openStream, state] at closed

theorem sendTick_idle_iff {session : ConnectionStates} {loop : SendLoop} (sessionId : SessionId)
    (clock : Nat → Timestamp) :
    ((sendTick session sessionId loop clock).2.2 = [] ∧
      loop.extras \ (sendTick session sessionId loop clock).2.1.extras = ∅) ↔
        ¬ session.HasWork loop.extras := by
  rw [sendTick_packets_eq_nil, sendTick_extras]
  cases opened : session.openStream with
  | none =>
      rw [sendStreamAction_closed opened]
      apply iff_of_true
      · exact ⟨rfl, Finset.sdiff_self _⟩
      · rintro ⟨_, _, _, same, _⟩
        rw [opened] at same
        cases same
  | some found =>
      obtain ⟨established, stream⟩ := found
      have work : session.HasWork loop.extras ↔
          ∃ sending, stream.streaming = .streamingTo sending ∧
            (!stream.stream.paused && !stream.stream.closed) = true ∧
            ((ReadableBuffer.take packetCountPerBatch sending.buffer).1 ≠ [] ∨
              loop.extras.Nonempty) := by
        constructor
        · rintro ⟨_, _, sending, same, rest⟩
          cases opened.symm.trans same
          exact ⟨sending, rest⟩
        · rintro ⟨sending, rest⟩
          exact ⟨established, stream, sending, opened, rest⟩
      obtain ⟨rfl, state⟩ := ConnectionStates.openStream_eq_some.mp opened
      simp only [work, sendStreamAction, state, Option.map_eq_none_iff]
      cases streaming : stream.streaming with
      | streamingFrom receiving =>
          have stopped : stream.getChunks packetCountPerBatch = none := by
            rw [StreamState.getChunks, streaming]
          rw [sendOnStream_stopped stopped]
          simp
      | streamingTo sending =>
          by_cases running : (!stream.stream.paused && !stream.stream.closed) = true
          · rw [sendOnStream_idle_iff streaming running]
            constructor
            · rintro ⟨sent, empty⟩ ⟨_, same, _, work⟩
              cases same
              rcases work with fresh | extras
              · exact fresh sent
              · rw [empty] at extras
                exact absurd extras Finset.not_nonempty_empty
            · intro idle
              constructor
              · by_contra fresh
                exact idle ⟨sending, rfl, running, Or.inl fresh⟩
              · by_contra extras
                exact idle ⟨sending, rfl, running,
                  Or.inr (Finset.nonempty_iff_ne_empty.mpr extras)⟩
          · have stopped : stream.getChunks packetCountPerBatch = none := by
              rw [StreamState.getChunks, streaming]
              exact if_neg running
            rw [sendOnStream_stopped stopped]
            apply iff_of_true
            · exact ⟨rfl, Finset.sdiff_self _⟩
            · rintro ⟨_, _, runs, _⟩
              exact running runs

/-! ## Runs -/

theorem record_inert_iff {state : SessionLoops} {sessionId : SessionId} {index : Nat}
    {loop : SendLoop} {clock : Nat → Timestamp} (inert : state.Inert) :
    (∀ taken ∈ state.record index loop.extras
        (sendTick state.session sessionId loop clock).2.1.extras
        (sendTick state.session sessionId loop clock).2.2, taken.loop = taken.stream) ↔
      (state.session.HasWork loop.extras → index = state.loops.length - 1) := by
  by_cases work : state.session.HasWork loop.extras
  · rw [record, if_neg fun idle => (sendTick_idle_iff sessionId clock).mp idle work]
    constructor
    · intro all _
      exact all _ (List.mem_append_right _ (List.mem_singleton.mpr rfl))
    · intro last taken listed
      rcases List.mem_append.mp listed with earlier | new
      · exact inert taken earlier
      · cases List.mem_singleton.mp new
        exact last work
  · rw [record, if_pos ((sendTick_idle_iff sessionId clock).mpr work)]
    exact iff_of_true inert fun busy => absurd busy work

theorem step_inert_iff {sessionId : SessionId} {state next : SessionLoops} {label : LoopLabel}
    (inert : state.Inert) (stepped : (machine sessionId).step state label = some next) :
    next.Inert ↔ state.OwnTick label := by
  cases label with
  | tick index clock =>
      simp only [machine, step] at stepped
      split at stepped
      · cases stepped
      · rename_i loop here
        split at stepped
        · rename_i playing
          cases stepped
          refine (record_inert_iff inert).trans ?_
          constructor
          · intro last other otherHere _
            cases Option.some.inj (here.symm.trans otherHere)
            exact last
          · intro own
            exact own loop here playing
        · cases stepped
  | streamTo buffer message =>
      refine iff_of_true ?_ trivial
      simp only [machine, step] at stepped
      split at stepped
      · split at stepped <;> cases stepped <;> exact inert
      · cases stepped
  | event index event =>
      refine iff_of_true ?_ trivial
      simp only [machine, step] at stepped
      split at stepped <;> cases stepped
      exact inert
  | streamingFrom | updateMessage | closeStream =>
      cases stepped
      exact iff_of_true inert trivial

/-- Everything that is taken from a stream is taken by its own loop in exactly the runs in which
no loop of an earlier stream ticks while there is work for it. -/
theorem inert_iff_ownTicks (sessionId : SessionId) (first final : SessionLoops)
    (initial : (machine sessionId).initial first) (labels : List LoopLabel)
    (ran : (machine sessionId).run first labels = some final) :
    (machine sessionId).HoldsAlong Inert first labels ↔
      (machine sessionId).Guarded OwnTick first labels := by
  have nothing : first.Inert := by
    intro taken listed
    rw [initial.2] at listed
    cases listed
  apply Machine.holdsAlong_iff_guarded _ _ nothing ran
  intro state label next inert stepped
  exact step_inert_iff inert stepped

def idle : SessionLoops where
  session := .established ⟨⟨1⟩, .up, ⟨[127, 0, 0, 1], 6969⟩, ⟨[]⟩⟩
  loops := []
  taken := []

/-- The first stream is done and the second one is opened. -/
def twoStreams : List LoopLabel :=
  [.streamTo (ReadableBuffer.new [1]) .default, .event 0 (.playback .done),
    .streamTo (ReadableBuffer.new [2]) .default]

def opening : Nat → Timestamp := fun _ => ⟨0, Timestamp.zero_lt⟩

/-- The loop of the first stream finds nothing left of the second one. -/
theorem inert_iff_ownTicks_second :
    ∃ final, (machine ⟨1⟩).run idle (twoStreams ++ [.tick 1 opening, .tick 0 opening]) =
        some final ∧
      (machine ⟨1⟩).HoldsAlong Inert idle
        (twoStreams ++ [.tick 1 opening, .tick 0 opening]) := by
  obtain ⟨final, ran⟩ : ∃ final, (machine ⟨1⟩).run idle
      (twoStreams ++ [.tick 1 opening, .tick 0 opening]) = some final := ⟨_, rfl⟩
  refine ⟨final, ran, ?_⟩
  apply (inert_iff_ownTicks ⟨1⟩ idle final ⟨rfl, rfl⟩ _ ran).mpr
  refine ⟨trivial, ?_⟩
  intro first stepped
  cases stepped
  refine ⟨trivial, ?_⟩
  intro done stepped
  cases stepped
  refine ⟨trivial, ?_⟩
  intro second stepped
  cases stepped
  refine ⟨fun _ _ _ _ => rfl, ?_⟩
  intro sent stepped
  cases stepped
  refine ⟨?_, fun _ _ => trivial⟩
  rintro loop here _ ⟨_, _, _, opened, streaming, _, work⟩
  cases here
  cases opened
  cases streaming
  rcases work with fresh | extras
  · exact absurd rfl fresh
  · exact absurd extras Finset.not_nonempty_empty

/-- The loop of the stream that is done sends the only chunk of the second stream. -/
theorem ended_loop_sends :
    ∃ final, (machine ⟨1⟩).run idle (twoStreams ++ [.tick 0 opening]) = some final ∧
      (∃ packet, final.taken = [⟨1, 0, ∅, [packet]⟩]) ∧ ¬ final.Inert := by
  have ran : ∃ final, (machine ⟨1⟩).run idle (twoStreams ++ [.tick 0 opening]) = some final ∧
      ∃ packet, final.taken = [⟨1, 0, ∅, [packet]⟩] := ⟨_, rfl, _, rfl⟩
  obtain ⟨final, ran, packet, taken⟩ := ran
  refine ⟨final, ran, ⟨packet, taken⟩, ?_⟩
  intro inert
  have own := inert ⟨1, 0, ∅, [packet]⟩ (by rw [taken]; exact List.mem_singleton.mpr rfl)
  cases own

end SessionLoops
end Ubass

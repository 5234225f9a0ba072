import Ubass.Exchange.Model
import Ubass.Manager.SendLoop

/-!
# What a sender sends

Every batch is the work of one tick: chunks of the source of the stream that was
open then, under the next batch id.  As long as no packet meets an outbound entry
of another batch, the parity packet of a batch is the sum of its blocks.
-/

set_option autoImplicit false

namespace Ubass

/-! ## Chunks of a source -/

/-- A chunk whose position is one that a `u32` can hold.  The chunk at the very end is empty. -/
def IsChunk (source : List UInt8) (chunk : Chunk) : Prop :=
  ∃ index, index * maxPayloadLength ≤ source.length ∧ index * maxPayloadLength < 2 ^ 32 ∧
    chunk = chunkAt source index

theorem IsChunk.length_le {source : List UInt8} {chunk : Chunk} (isChunk : IsChunk source chunk) :
    chunk.2.length ≤ maxPayloadLength := by
  obtain ⟨index, _, _, rfl⟩ := isChunk
  exact (length_chunkBytes source index).trans_le (Nat.min_le_left _ _)

theorem isChunk_of_mem_take {buffer : ReadableBuffer} {count : Nat} {chunk : Chunk}
    (aligned : buffer.Aligned) (short : buffer.len ≤ 2 ^ 32)
    (taken : chunk ∈ (ReadableBuffer.take count buffer).1) : IsChunk buffer.buffer chunk := by
  obtain ⟨sameBuffer, lastAligned, _, genuine, _⟩ := ReadableBuffer.take_spec aligned count
  obtain ⟨index, same, below⟩ := genuine chunk taken
  have inside := lastAligned.inside
  have sameLen : (ReadableBuffer.take count buffer).2.len = buffer.len := by
    rw [ReadableBuffer.len, sameBuffer, ReadableBuffer.len]
  rw [sameLen] at inside
  exact ⟨index, (below.trans_le inside).le, below.trans_le (inside.trans short), same⟩

theorem isChunk_of_mem_drained {buffer : ReadableBuffer} {extras : Finset Nat} {count : Nat}
    {chunk : Chunk} (small : ∀ index ∈ extras, index * maxPayloadLength < 2 ^ 32)
    (read : chunk ∈ drained buffer extras count) : IsChunk buffer.buffer chunk := by
  obtain ⟨range, listed, found⟩ := List.mem_filterMap.mp read
  obtain ⟨index, taken, rfl⟩ := List.mem_map.mp listed
  have indexSmall := small index ((Finset.mem_sort _).mp (List.mem_of_mem_take taken))
  rw [retransmitRange_eq indexSmall] at found
  obtain ⟨inside, same⟩ := Option.ite_none_right_eq_some.mp found
  exact ⟨index, inside, indexSmall, (Option.some.inj same).symm⟩

theorem length_drained_le (buffer : ReadableBuffer) (extras : Finset Nat) (count : Nat) :
    (drained buffer extras count).length ≤ count := by
  refine (List.length_filterMap_le _ _).trans ?_
  rw [drainedRanges, List.length_map]
  exact List.length_take_le _ _

/-- What a tick leaves and sends, for a source that `u32` positions can address. -/
structure TickSpec (sending : StreamingTo) (count : Nat) (next : StreamingTo)
    (extras : Finset Nat) (toSend : Option (List Chunk × BatchId)) : Prop where
  buffer : next.buffer.buffer = sending.buffer.buffer
  aligned : next.buffer.Aligned
  small : ∀ index ∈ extras, index * maxPayloadLength < 2 ^ 32
  chunks : ∀ chunks batchId, toSend = some (chunks, batchId) →
    chunks ≠ [] ∧ chunks.length ≤ count ∧ (∀ chunk ∈ chunks, IsChunk sending.buffer.buffer chunk)
  counter : ∀ chunks batchId, toSend = some (chunks, batchId) →
    batchId = ⟨sending.currentBatch + 1⟩ ∧ next.currentBatch = sending.currentBatch + 1
  silent : toSend = none → next.currentBatch = sending.currentBatch

theorem SendStep.spec {sending next : StreamingTo} {count : Nat} {before after : Finset Nat}
    {toSend : Option (List Chunk × BatchId)}
    (step : SendStep sending count before next after toSend) (aligned : sending.buffer.Aligned)
    (short : sending.buffer.len ≤ 2 ^ 32)
    (small : ∀ index ∈ before, index * maxPayloadLength < 2 ^ 32) :
    TickSpec sending count next after toSend := by
  cases step with
  | paused =>
      refine ⟨rfl, aligned, small, ?_, ?_, fun _ => rfl⟩
      · intro chunks batchId sent
        cases sent
      · intro chunks batchId sent
        cases sent
  | fresh nonempty =>
      obtain ⟨buffer, lastAligned, _⟩ := ReadableBuffer.take_spec aligned count
      refine ⟨buffer, lastAligned, small, ?_, ?_, fun none => nomatch none⟩
      · intro chunks batchId sent
        cases sent
        exact ⟨nonempty, ReadableBuffer.length_take_le _ _,
          fun chunk taken => isChunk_of_mem_take aligned short taken⟩
      · intro chunks batchId sent
        cases sent
        exact ⟨rfl, rfl⟩
  | drained exhausted nonempty =>
      refine ⟨rfl, aligned, fun index queued => small index (Finset.mem_sdiff.mp queued).1, ?_, ?_,
        fun none => nomatch none⟩
      · intro chunks batchId sent
        cases sent
        exact ⟨nonempty, length_drained_le _ _ _, fun chunk read => isChunk_of_mem_drained small read⟩
      · intro chunks batchId sent
        cases sent
        exact ⟨rfl, rfl⟩
  | nothing exhausted empty =>
      refine ⟨rfl, aligned, fun index queued => small index (Finset.mem_sdiff.mp queued).1, ?_, ?_,
        fun _ => rfl⟩
      · intro chunks batchId sent
        cases sent
      · intro chunks batchId sent
        cases sent

/-! ## Batches -/

namespace Batch

def size (self : Batch) : Nat := self.packets.length

def batchId (self : Batch) : BatchId :=
  (self.packets.head?.map DataPacket.batchId).getD ⟨0⟩

def key (setup : Setup) (self : Batch) : MapKey := (self.batchId, setup.sessionId)

def block (setup : Setup) (self : Batch) (pos : Nat) : FecData :=
  (self.packets[pos]?.bind (FecData.fromDataPacket setup.debugAssertions)).getD FecData.default

def parity (setup : Setup) (self : Batch) : FecData :=
  ParityCode.parity (self.block setup) (Finset.range self.size)

/-- The batch is what `send_data_packets` makes of chunks of the batch's stream. -/
structure Genuine (setup : Setup) (batch : Batch) : Prop where
  packets : ∃ chunks clock,
    batch.packets = sendDataPackets chunks setup.sessionId batch.batchId clock ∧ chunks ≠ [] ∧
      chunks.length ≤ packetCountPerBatch ∧
      ∀ chunk ∈ chunks, IsChunk (setup.source batch.stream) chunk

theorem batchId_of_sent {stream : Nat} {chunks : List Chunk} {sessionId : SessionId}
    {batchId : BatchId} {clock : Nat → Timestamp} (nonempty : chunks ≠ []) :
    (Batch.mk stream (sendDataPackets chunks sessionId batchId clock)).batchId = batchId := by
  obtain ⟨first, rest, rfl⟩ := List.exists_cons_of_ne_nil nonempty
  rfl

/-- What is known about the packet at a position of a genuine batch. -/
structure PacketAt (setup : Setup) (batch : Batch) (pos : Nat) (packet : DataPacket) : Prop where
  inside : pos < batch.size
  small : batch.size ≤ packetCountPerBatch
  batchId : packet.batchId = batch.batchId
  sessionId : packet.sessionId = setup.sessionId
  batchSize : packet.fecInfo.batchSize.toNat = batch.size
  batchPos : packet.fecInfo.batchPos.toNat = pos
  chunk : IsChunk (setup.source batch.stream) (packet.byteRangeStart, packet.payload)

theorem Genuine.packetAt {setup : Setup} {batch : Batch} (genuine : batch.Genuine setup)
    {pos : Nat} {packet : DataPacket} (found : batch.packets[pos]? = some packet) :
    PacketAt setup batch pos packet := by
  obtain ⟨chunks, clock, packets, _, short, isChunk⟩ := genuine.packets
  have size : batch.size = chunks.length := by
    rw [Batch.size, packets, sendDataPackets, List.length_map, List.length_zipIdx]
  rw [packets, sendDataPackets, List.getElem?_map, Option.map_eq_some_iff] at found
  obtain ⟨⟨chunk, index⟩, zipped, rfl⟩ := found
  rw [List.getElem?_zipIdx, Option.map_eq_some_iff] at zipped
  obtain ⟨_, present, same⟩ := zipped
  rw [Nat.zero_add] at same
  cases same
  have inside := (List.getElem?_eq_some_iff.mp present).1
  have bound : chunks.length < 256 := short.trans_lt (by decide)
  refine ⟨size ▸ inside, size ▸ short, rfl, rfl, ?_, ?_, isChunk chunk (List.mem_of_getElem? present)⟩
  · rw [size]
    exact (UInt8.toNat_ofNat' ..).trans (Nat.mod_eq_of_lt bound)
  · exact (UInt8.toNat_ofNat' ..).trans (Nat.mod_eq_of_lt (inside.trans bound))

theorem Genuine.size_pos {setup : Setup} {batch : Batch} (genuine : batch.Genuine setup) :
    0 < batch.size := by
  obtain ⟨chunks, clock, packets, nonempty, _⟩ := genuine.packets
  rw [Batch.size, packets, sendDataPackets, List.length_map, List.length_zipIdx]
  exact List.length_pos_of_ne_nil nonempty

/-- What the erasure code makes of the packet at a position. -/
structure FecPacketAt (setup : Setup) (batch : Batch) (pos : Nat) (packet : FecPacket) : Prop where
  inside : pos < batch.size
  data : packet.isParity = false
  key : packet.key = batch.key setup
  batchSize : packet.fecInfo.batchSize.toNat = batch.size
  batchPos : packet.fecInfo.batchPos.toNat = pos
  block : packet.data = batch.block setup pos

theorem Genuine.fecPacketAt {setup : Setup} {batch : Batch} (genuine : batch.Genuine setup)
    {pos : Nat} {packet : DataPacket} (found : batch.packets[pos]? = some packet)
    {fecPacket : FecPacket}
    (made : FecPacket.fromDataPacket setup.debugAssertions packet = some fecPacket) :
    FecPacketAt setup batch pos fecPacket := by
  have packetAt := genuine.packetAt found
  obtain ⟨block, isBlock, rfl⟩ := Option.map_eq_some_iff.mp made
  refine ⟨packetAt.inside, rfl, ?_, packetAt.batchSize, packetAt.batchPos, ?_⟩
  · exact Prod.ext packetAt.batchId packetAt.sessionId
  · rw [Batch.block, found, Option.bind_some, isBlock]
    rfl

end Batch

/-! ## The session of a sender -/

/-- What a tick does to a session that sends no stream, and to one that does. -/
inductive TickCases (session : ConnectionStates) (sessionId : SessionId) (extras : Finset Nat)
    (clock : Nat → Timestamp) : ConnectionStates × SendLoop × List DataPacket → Prop
  | silent (next : ConnectionStates) (loop : SendLoop) (before : session.Silent)
      (after : next.Silent) (same : loop.extras = extras) :
      TickCases session sessionId extras clock (next, loop, [])
  | sends (sending nextSending : StreamingTo) (next : ConnectionStates) (loop : SendLoop)
      (toSend : Option (List Chunk × BatchId)) (before : session.Sends sending)
      (after : next.Sends nextSending)
      (step : SendStep sending packetCountPerBatch extras nextSending loop.extras toSend) :
      TickCases session sessionId extras clock
        (next, loop,
          (toSend.map fun sent => sendDataPackets sent.1 sessionId sent.2 clock).getD [])

theorem sendTick_cases (session : ConnectionStates) (sessionId : SessionId) (loop : SendLoop)
    (clock : Nat → Timestamp) :
    TickCases session sessionId loop.extras clock (sendTick session sessionId loop clock) := by
  rw [SendRun.sendTick_eq]
  by_cases silent : session.Silent
  · obtain ⟨after, same, none⟩ :=
      sendStreamAction_of_silent silent packetCountPerBatch loop.extras
    simp only [none]
    exact .silent _ _ silent after same
  · obtain ⟨sending, sends⟩ : ∃ sending, session.Sends sending := by
      simpa [ConnectionStates.Silent] using silent
    obtain ⟨next, sendsNext, step⟩ := sendStreamAction_step sends packetCountPerBatch loop.extras
    exact .sends sending next _ _ _ sends sendsNext step

theorem sends_handleStreamEvent {session : ConnectionStates} {loop : SendLoop}
    {event : StreamEvent} {next : StreamingTo}
    (sends : (handleStreamEvent session loop event).1.Sends next) :
    ∃ sending, session.Sends sending ∧ next.currentBatch = sending.currentBatch ∧
      (next.buffer = sending.buffer ∨ ∃ position, next.buffer = (sending.buffer.seek position).2) := by
  cases event with
  | retransmit byteRanges => exact ⟨next, sends, rfl, Or.inl rfl⟩
  | playback control =>
      cases control with
      | pause => exact ⟨next, sends, rfl, Or.inl rfl⟩
      | play => exact ⟨next, sends, rfl, Or.inl rfl⟩
      | done => exact absurd sends (session.silent_closeStream next)
      | close => exact absurd sends (session.silent_closeStream next)
      | seek position =>
          by_cases silent : session.Silent
          · simp only [handleStreamEvent, seekAction_of_silent silent] at sends
            exact absurd sends (silent next)
          · obtain ⟨sending, before⟩ : ∃ sending, session.Sends sending := by
              simpa [ConnectionStates.Silent] using silent
            cases ConnectionStates.sends_unique sends (sends_seekAction before position)
            exact ⟨sending, before, rfl, Or.inr ⟨position, rfl⟩⟩

/-- The indices among the extras are those of `u32` positions, after every event. -/
theorem handleStreamEvent_small {session : ConnectionStates} {loop : SendLoop}
    (small : ∀ index ∈ loop.extras, index * maxPayloadLength < 2 ^ 32) (event : StreamEvent) :
    ∀ index ∈ (handleStreamEvent session loop event).2.extras,
      index * maxPayloadLength < 2 ^ 32 := by
  intro index queued
  cases event with
  | retransmit byteRanges =>
      rcases Finset.mem_union.mp queued with old | requested
      · exact small index old
      · exact requestedIndices_small (List.mem_toFinset.mp requested)
  | playback control =>
      cases control with
      | seek position =>
          rcases mem_addSeekHoleIndices.mp queued with old | ⟨_, below⟩
          · exact small index old
          · exact below.trans (max_lt loop.lastSent.lt position.lt)
      | _ => exact small index queued

theorem sends_of_updateMessage {session : ConnectionStates} {change : StreamMessage → StreamMessage}
    {sending : StreamingTo} (sends : (session.updateMessage change).Sends sending) :
    session.Sends sending := by
  by_cases silent : session.Silent
  · exact absurd sends (updateMessage_of_silent silent change sending)
  · obtain ⟨other, before⟩ : ∃ sending, session.Sends sending := by
      simpa [ConnectionStates.Silent] using silent
    cases ConnectionStates.sends_unique sends (sends_updateMessage before change)
    exact before

theorem sends_streamTo {session : ConnectionStates} (free : session.isFree = true)
    (buffer : ReadableBuffer) (message : StreamMessage) {sending : StreamingTo}
    (sends : (session.streamTo buffer message).Sends sending) :
    sending.buffer = buffer ∧ sending.currentBatch = 0 := by
  unfold ConnectionStates.isFree at free
  unfold ConnectionStates.streamTo at sends
  split at free
  · rename_i established
    have opened : (ConnectionStates.established { established with
        state := .streaming ⟨.streamingTo ⟨buffer, 0, ⟨StreamEvent.default, false, .idle⟩⟩,
          message, SessionFecState.default⟩ }).Sends
        ⟨buffer, 0, ⟨StreamEvent.default, false, .idle⟩⟩ := ⟨_, _, rfl, rfl, rfl⟩
    split at free
    · rename_i state
      simp only [state] at sends
      cases ConnectionStates.sends_unique sends opened
      exact ⟨rfl, rfl⟩
    · rename_i state
      simp only [state] at sends
      cases ConnectionStates.sends_unique sends opened
      exact ⟨rfl, rfl⟩
    · cases free
  · cases free

namespace Sender

/-- A stream over this source that is being sent. -/
structure Sending (source : List UInt8) (sending : StreamingTo) : Prop where
  buffer : sending.buffer.buffer = source
  aligned : sending.buffer.Aligned
  short : source.length ≤ 2 ^ 32

/-- What the sender reads is the source of the stream it has opened last. -/
structure Sourced (setup : Setup) (state : Sender) : Prop where
  sending : ∀ sending, state.session.Sends sending → Sending (setup.source state.streams) sending
  loops : ∀ loop ∈ state.loops, ∀ index ∈ loop.extras, index * maxPayloadLength < 2 ^ 32
  batches : ∀ batch ∈ state.batches, batch.Genuine setup

theorem new_sourced (setup : Setup) {session : EstablishedState} (up : session.state = .up) :
    (new session).Sourced setup where
  sending sending sends := by
    obtain ⟨_, _, same, state, _⟩ := sends
    cases same
    rw [up] at state
    cases state
  loops loop listed := nomatch listed
  batches batch listed := nomatch listed

/-- The steps a sender may take: the streams it opens have sources that `u32` positions can
address, and a packet that finds an entry of the erasure code finds one of its own batch. -/
def Isolated (setup : Setup) (state : Sender) : SenderLabel → Prop
  | .streamTo _ => (setup.source (state.streams + 1)).length ≤ 2 ^ 32
  | .sent batch pos _ =>
      state.phase batch pos = .entering → ∀ packet, state.packet batch pos = some packet →
        ∀ ref, state.xor.outbound.refs.get (packet.batchId, packet.sessionId) = some ref →
          state.owner ref = batch
  | .tick _ _ | .event _ _ | .updateMessage _ | .closeStream => True

instance (setup : Setup) (state : Sender) : DecidablePred (state.Isolated setup)
  | .streamTo _ => inferInstanceAs (Decidable (_ ≤ _))
  | .sent batch pos _ => inferInstanceAs (Decidable (state.phase batch pos = .entering →
      ∀ packet ∈ state.packet batch pos,
        ∀ ref ∈ state.xor.outbound.refs.get (packet.batchId, packet.sessionId),
          state.owner ref = batch))
  | .tick _ _ | .event _ _ | .updateMessage _ | .closeStream => inferInstanceAs (Decidable True)

/-- What a step of `sent` for a packet can do. -/
inductive SentStep (state : Sender) (batch pos : Nat) (packet : FecPacket) : Sender → Prop
  | found (ref : Nat) (phase : state.phase batch pos = .entering)
      (present : state.xor.outbound.refs.get packet.key = some ref) :
      SentStep state batch pos packet
        { state with phase := state.setPhase batch pos (.adding ref) }
  | allocated (xor : Xor) (phase : state.phase batch pos = .entering)
      (absent : state.xor.outbound.refs.get packet.key = none)
      (refs : xor.outbound.refs =
        state.xor.outbound.refs.insert packet.key state.xor.outbound.cells.length)
      (cells : xor.outbound.cells =
        state.xor.outbound.cells ++ [OutboundBatchData.new packet.fecInfo.batchSize]) :
      SentStep state batch pos packet
        { state with
          xor := xor
          owner := Function.update state.owner state.xor.outbound.cells.length batch
          phase := state.setPhase batch pos (.adding state.xor.outbound.cells.length) }
  | lost (ref : Nat) (phase : state.phase batch pos = .adding ref)
      (missing : state.xor.outbound.read ref = none) :
      SentStep state batch pos packet { state with phase := state.setPhase batch pos .finished }
  | added (ref : Nat) (entry : OutboundBatchData) (phase : state.phase batch pos = .adding ref)
      (present : state.xor.outbound.read ref = some entry) :
      SentStep state batch pos packet
        { state with
          xor := { state.xor with
            outbound := state.xor.outbound.write ref (entry.add packet.data).1 }
          phase := state.setPhase batch pos
            (if (entry.add packet.data).2 then .removing else .finished) }
  | removed (ref : Nat) (phase : state.phase batch pos = .removing)
      (present : state.xor.outbound.refs.get packet.key = some ref) :
      SentStep state batch pos packet
        { state with
          xor := { state.xor with outbound := (state.xor.outbound.remove packet.key).2 }
          phase := state.setPhase batch pos (.building ref) }
  | built (ref : Nat) (entry : OutboundBatchData) (now : Timestamp)
      (phase : state.phase batch pos = .building ref)
      (present : state.xor.outbound.read ref = some entry) :
      SentStep state batch pos packet
        { state with
          parities := state.parities ++ [(batch, Xor.parityPacket packet entry.product now)]
          phase := state.setPhase batch pos .finished }

theorem sent_step {setup : Setup} {state next : Sender} {batch pos : Nat} {now : Timestamp}
    (stepped : state.sent setup batch pos now = some next) :
    ∃ data packet, state.packet batch pos = some data ∧
      FecPacket.fromDataPacket setup.debugAssertions data = some packet ∧
      SentStep state batch pos packet next := by
  unfold sent at stepped
  split at stepped
  · cases stepped
  · rename_i packet made
    obtain ⟨data, found, isPacket⟩ := Option.bind_eq_some_iff.mp made
    refine ⟨data, packet, found, isPacket, ?_⟩
    split at stepped
    · rename_i phase
      have entered := state.xor.outbound.entry_step packet.key
        (OutboundBatchData.new packet.fecInfo.batchSize)
      simp only [Xor.sentEntry] at stepped
      generalize state.xor.outbound.entry packet.key
        (OutboundBatchData.new packet.fecInfo.batchSize) = result at entered stepped
      cases entered with
      | found ref present =>
          simp only [Table.contains, present, Option.isSome_some, if_true] at stepped
          cases stepped
          exact .found ref phase present
      | allocated outbound absent refs cells =>
          simp only [Table.contains, absent, Option.isSome_none, Bool.false_eq_true,
            if_false] at stepped
          cases stepped
          exact .allocated _ phase absent refs cells
    · rename_i ref phase
      simp only [Xor.sentAdd] at stepped
      cases present : state.xor.outbound.read ref with
      | none =>
          simp only [present] at stepped
          cases stepped
          exact .lost ref phase present
      | some entry =>
          simp only [present] at stepped
          cases stepped
          exact .added ref entry phase present
    · rename_i phase
      simp only [Xor.sentRemove, SharedMap.remove] at stepped
      cases present : state.xor.outbound.refs.get packet.key with
      | none =>
          simp only [present] at stepped
          cases stepped
      | some ref =>
          simp only [present] at stepped
          cases stepped
          exact .removed ref phase present
    · rename_i ref phase
      obtain ⟨entry, present, rfl⟩ := Option.map_eq_some_iff.mp stepped
      exact .built ref entry now phase present
    · cases stepped

/-- `sent` leaves the session, the loops and the batches alone. -/
theorem SentStep.frame {state next : Sender} {batch pos : Nat} {packet : FecPacket}
    (step : SentStep state batch pos packet next) :
    next.session = state.session ∧ next.streams = state.streams ∧ next.loops = state.loops ∧
      next.batches = state.batches := by
  cases step <;> exact ⟨rfl, rfl, rfl, rfl⟩

theorem Sourced.tick {setup : Setup} {state : Sender} (sourced : state.Sourced setup) {index : Nat}
    {loop : SendLoop} (listed : state.loops[index]? = some loop) {clock : Nat → Timestamp}
    {session : ConnectionStates} {last : SendLoop} {packets : List DataPacket}
    (result : TickCases state.session setup.sessionId loop.extras clock (session, last, packets)) :
    Sourced setup { state with
      session := session
      loops := state.loops.set index last
      batches := if packets = [] then state.batches
        else state.batches ++ [⟨state.streams, packets⟩] } := by
  have small := sourced.loops loop (List.mem_of_getElem? listed)
  cases result with
  | silent _ _ before after same =>
      refine ⟨fun sending sends => absurd sends (after sending), ?_, ?_⟩
      · intro other member queued inside
        rcases List.mem_or_eq_of_mem_set member with old | rfl
        · exact sourced.loops other old queued inside
        · rw [same] at inside
          exact small queued inside
      · rw [if_pos rfl]
        exact sourced.batches
  | sends sending next _ _ toSend before after step =>
      have holds := sourced.sending sending before
      have short : sending.buffer.len ≤ 2 ^ 32 := by
        rw [ReadableBuffer.len, holds.buffer]
        exact holds.short
      have spec := step.spec holds.aligned short small
      refine ⟨?_, ?_, ?_⟩
      · intro other sends
        cases ConnectionStates.sends_unique sends after
        exact ⟨spec.buffer.trans holds.buffer, spec.aligned, holds.short⟩
      · intro other member
        rcases List.mem_or_eq_of_mem_set member with old | rfl
        · exact sourced.loops other old
        · exact spec.small
      · intro batch member
        simp only at member
        split at member
        · exact sourced.batches batch member
        · rename_i nonempty
          rcases List.mem_append.mp member with old | new
          · exact sourced.batches batch old
          · cases List.mem_singleton.mp new
            cases toSend with
            | none => exact absurd rfl nonempty
            | some sent =>
                obtain ⟨chunks, batchId⟩ := sent
                obtain ⟨some, few, isChunk⟩ := spec.chunks chunks batchId rfl
                rw [holds.buffer] at isChunk
                refine ⟨chunks, clock, ?_, some, few, isChunk⟩
                rw [Option.map_some, Option.getD_some, Batch.batchId_of_sent some]

theorem step_sourced {setup : Setup} {state next : Sender} {label : SenderLabel}
    (sourced : state.Sourced setup) (isolated : state.Isolated setup label)
    (stepped : state.step setup label = some next) : next.Sourced setup := by
  cases label with
  | streamTo message =>
      obtain ⟨free, same⟩ := Option.ite_none_right_eq_some.mp stepped
      cases Option.some.inj same
      refine ⟨?_, ?_, sourced.batches⟩
      · intro sending sends
        obtain ⟨buffer, _⟩ := sends_streamTo free _ _ sends
        exact ⟨by rw [buffer]; rfl, by rw [buffer]; exact ReadableBuffer.new_aligned _, isolated⟩
      · intro loop member
        rcases List.mem_append.mp member with old | new
        · exact sourced.loops loop old
        · cases List.mem_singleton.mp new
          intro index queued
          cases queued
  | tick index clock =>
      simp only [step] at stepped
      split at stepped
      · cases stepped
      · rename_i loop listed
        obtain ⟨_, same⟩ := Option.ite_none_right_eq_some.mp stepped
        cases Option.some.inj same
        exact sourced.tick listed (sendTick_cases state.session setup.sessionId loop clock)
  | event index event =>
      simp only [step] at stepped
      split at stepped
      · cases stepped
      · rename_i loop listed
        cases stepped
        refine ⟨?_, ?_, sourced.batches⟩
        · intro sending sends
          obtain ⟨earlier, before, _, moved⟩ := sends_handleStreamEvent sends
          have holds := sourced.sending earlier before
          rcases moved with same | ⟨position, same⟩
          · exact ⟨same ▸ holds.buffer, same ▸ holds.aligned, holds.short⟩
          · exact ⟨by rw [same]; exact holds.buffer,
              by rw [same]; exact ReadableBuffer.seek_aligned _ _, holds.short⟩
        · intro other member
          rcases List.mem_or_eq_of_mem_set member with old | rfl
          · exact sourced.loops other old
          · exact handleStreamEvent_small (sourced.loops loop (List.mem_of_getElem? listed)) event
  | updateMessage change =>
      cases stepped
      exact ⟨fun sending sends => sourced.sending sending (sends_of_updateMessage sends),
        sourced.loops, sourced.batches⟩
  | closeStream =>
      cases stepped
      exact ⟨fun sending sends => absurd sends (state.session.silent_closeStream sending),
        sourced.loops, sourced.batches⟩
  | sent batch pos now =>
      obtain ⟨_, _, _, _, step⟩ := sent_step stepped
      obtain ⟨session, streams, loops, batches⟩ := step.frame
      refine ⟨?_, ?_, ?_⟩
      · rw [session, streams]
        exact sourced.sending
      · rw [loops]
        exact sourced.loops
      · rw [batches]
        exact sourced.batches

end Sender

end Ubass

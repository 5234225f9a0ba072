import Ubass.Lib.Machine
import Ubass.Manager.Send

/-!
# The send loop over a whole stream

The run of `send_on_session` for one stream.  A chunk is sent by a tick, waits
before the head, or waits among the extras.  A seek moves the head past chunks
and queues the hole it leaves from `last_sent` and not from the head, so what
carries the argument is that every chunk below either of the two has been sent
or is queued (`Tracked`).
-/

set_option autoImplicit false

namespace Ubass

/-- The endpoint `update_paused`. -/
def updatePaused (session : ConnectionStates) (paused : Bool) : ConnectionStates :=
  session.updateMessage fun message => { message with paused := paused }

/-- The session, the variables of the loop, and every data packet it has sent. -/
structure SendRun where
  session : ConnectionStates
  loop : SendLoop
  emitted : List DataPacket

inductive SendLabel where
  /-- The interval ticks; the constructors of the packets read the clock. -/
  | tick (clock : Nat → Timestamp)
  | event (event : StreamEvent)
  /-- The application pauses or resumes the stream. -/
  | paused (paused : Bool)

namespace SendRun

/-- One round of the `select!`, or a step of the application.  The branch of the interval is
disabled while the loop is not playing. -/
def step (sessionId : SessionId) (self : SendRun) : SendLabel → Option SendRun
  | .tick clock =>
      if self.loop.playing then
        let (session, loop, packets) := sendTick self.session sessionId self.loop clock
        some ⟨session, loop, self.emitted ++ packets⟩
      else none
  | .event event =>
      let (session, loop) := handleStreamEvent self.session self.loop event
      some ⟨session, loop, self.emitted⟩
  | .paused paused => some { self with session := updatePaused self.session paused }

/-- `stream_to` has opened the stream over this source and the loop has just been spawned. -/
def Opened (source : List UInt8) (self : SendRun) : Prop :=
  (∃ sending, self.session.Sends sending ∧ sending.buffer = ReadableBuffer.new source) ∧
    self.loop = SendLoop.new ∧ self.emitted = []

def machine (sessionId : SessionId) (source : List UInt8) : Machine SendRun SendLabel where
  initial := Opened source
  step := step sessionId

end SendRun

def Emitted (packets : List DataPacket) (chunk : Chunk) : Prop :=
  ∃ packet ∈ packets, (packet.byteRangeStart, packet.payload) = chunk

namespace Emitted

theorem append_left {packets : List DataPacket} {chunk : Chunk} (emitted : Emitted packets chunk)
    (more : List DataPacket) : Emitted (packets ++ more) chunk := by
  obtain ⟨packet, member, same⟩ := emitted
  exact ⟨packet, List.mem_append_left _ member, same⟩

theorem append_right {packets : List DataPacket} {chunk : Chunk} (emitted : Emitted packets chunk)
    (before : List DataPacket) : Emitted (before ++ packets) chunk := by
  obtain ⟨packet, member, same⟩ := emitted
  exact ⟨packet, List.mem_append_right _ member, same⟩

theorem of_sendDataPackets {chunks : List Chunk} {chunk : Chunk} (member : chunk ∈ chunks)
    (sessionId : SessionId) (currentBatch : BatchId) (clock : Nat → Timestamp) :
    Emitted (sendDataPackets chunks sessionId currentBatch clock) chunk := by
  obtain ⟨index, inside, rfl⟩ := List.getElem_of_mem member
  have zipped : (chunks[index], index) ∈ chunks.zipIdx := by
    rw [List.mem_zipIdx_iff_getElem?, List.getElem?_eq_getElem inside]
  exact ⟨_, List.mem_map_of_mem zipped, rfl⟩

end Emitted

/-! ## What the extras stand for -/

/-- Reading the range of an index yields the chunk with that index, unless it is past the end. -/
theorem retransmitRange_eq {buffer : ReadableBuffer} {index : Nat}
    (small : index * maxPayloadLength < 2 ^ 32) :
    StreamState.retransmitRange buffer
      (ByteRange.new (BytePosition.ofNat (index * maxPayloadLength)) maxPayloadLength) =
        if index * maxPayloadLength ≤ buffer.len then some (chunkAt buffer.buffer index)
        else none := by
  have start : (BytePosition.ofNat (index * maxPayloadLength)).toNat = index * maxPayloadLength :=
    BytePosition.toNat_ofNat_of_lt small
  have width : min (UInt16.ofNat maxPayloadLength).toNat maxPayloadLength = maxPayloadLength := rfl
  have stop : min (min (index * maxPayloadLength + maxPayloadLength) buffer.len) buffer.len =
      min buffer.buffer.length (index * maxPayloadLength + maxPayloadLength) := by
    simp only [ReadableBuffer.len]
    omega
  have guard : index * maxPayloadLength ≤
      min buffer.buffer.length (index * maxPayloadLength + maxPayloadLength) ↔
        index * maxPayloadLength ≤ buffer.len := by
    simp only [ReadableBuffer.len]
    omega
  simp only [StreamState.retransmitRange, ByteRange.new, start, width, ReadableBuffer.read, stop,
    guard]
  split <;> rfl

theorem mem_drained {buffer : ReadableBuffer} {extras : Finset Nat} {count index : Nat}
    (taken : index ∈ extras.sort.take count) (small : index * maxPayloadLength < 2 ^ 32)
    (inside : index * maxPayloadLength < buffer.len) :
    chunkAt buffer.buffer index ∈ drained buffer extras count :=
  List.mem_filterMap.mpr ⟨_, List.mem_map_of_mem taken,
    (retransmitRange_eq small).trans (if_pos inside.le)⟩

theorem requestedIndices_small {byteRanges : List ByteRange} {index : Nat}
    (member : index ∈ requestedIndices byteRanges) : index * maxPayloadLength < 2 ^ 32 := by
  obtain ⟨range, _, rfl⟩ := List.mem_map.mp member
  exact (Nat.div_mul_le_self _ _).trans_lt (range.start.lt)

theorem mem_addSeekHoleIndices {extras : Finset Nat} {lastSent position : BytePosition}
    {index : Nat} :
    index ∈ addSeekHoleIndices extras lastSent position ↔ index ∈ extras ∨
      min lastSent.toNat position.toNat / maxPayloadLength ≤ index ∧
        index * maxPayloadLength < max lastSent.toNat position.toNat := by
  have hole : ∀ low high : Nat,
      index ∈ Finset.Ico (low / maxPayloadLength) ((high + maxPayloadLength - 1) / maxPayloadLength) ↔
        low / maxPayloadLength ≤ index ∧ index * maxPayloadLength < high := by
    intro low high
    rw [Finset.mem_Ico]
    simp only [maxPayloadLength]
    omega
  unfold addSeekHoleIndices
  by_cases forward : lastSent.toNat < position.toNat
  · rw [if_pos forward, Finset.mem_union, hole, Nat.min_eq_left forward.le,
      Nat.max_eq_right forward.le]
  · rw [if_neg forward, Finset.mem_union, hole, Nat.min_eq_right (not_lt.mp forward),
      Nat.max_eq_left (not_lt.mp forward)]

/-! ## Nothing is forgotten -/

/-- Every chunk below `last_sent` or below the head has been sent or is queued. -/
structure Tracked (source : List UInt8) (sending : StreamingTo) (loop : SendLoop)
    (emitted : List DataPacket) : Prop where
  buffer : sending.buffer.buffer = source
  aligned : sending.buffer.Aligned
  small : ∀ index ∈ loop.extras, index * maxPayloadLength < 2 ^ 32
  covered : ∀ index, index * maxPayloadLength < source.length →
    index * maxPayloadLength < loop.lastSent.toNat ∨ index * maxPayloadLength < sending.buffer.head →
      Emitted emitted (chunkAt source index) ∨ index ∈ loop.extras

namespace Tracked

variable {source : List UInt8} {sending : StreamingTo} {loop : SendLoop}
  {emitted : List DataPacket}

theorem opened (source : List UInt8) {sending : StreamingTo}
    (buffer : sending.buffer = ReadableBuffer.new source) :
    Tracked source sending SendLoop.new [] where
  buffer := by rw [buffer]; rfl
  aligned := by rw [buffer]; exact ReadableBuffer.new_aligned source
  small := by
    intro index member
    cases member
  covered := by
    intro index _ below
    rw [buffer] at below
    rcases below with below | below
    · exact absurd below (Nat.not_lt_zero _)
    · exact absurd below (Nat.not_lt_zero _)

/-- The last chunk `take` hands out starts before the head it leaves. -/
theorem lastSent_below {buffer : ReadableBuffer} (aligned : buffer.Aligned) {count : Nat}
    (lastSent : BytePosition) {index : Nat} {first : Chunk} {rest : List Chunk}
    (taken : (ReadableBuffer.take count buffer).1 = first :: rest)
    (below : index * maxPayloadLength <
      (((first :: rest).getLast?.map Prod.fst).getD lastSent).toNat) :
    index * maxPayloadLength < (ReadableBuffer.take count buffer).2.head := by
  obtain ⟨_, _, _, genuine, _⟩ := ReadableBuffer.take_spec aligned count
  have last : (first :: rest).getLast (List.cons_ne_nil _ _) ∈
      (ReadableBuffer.take count buffer).1 := by
    rw [taken]
    exact List.getLast_mem _
  obtain ⟨lastIndex, same, beforeHead⟩ := genuine _ last
  rw [List.getLast?_eq_some_getLast (List.cons_ne_nil _ _), same] at below
  have wrapped : (BytePosition.ofNat (lastIndex * maxPayloadLength)).toNat ≤
      lastIndex * maxPayloadLength := Nat.mod_le _ _
  exact (below.trans_le wrapped).trans beforeHead

theorem sent_or_queued (tracked : Tracked source sending loop emitted) {count : Nat}
    (exhausted : (ReadableBuffer.take (count + 1) sending.buffer).1 = []) {index : Nat}
    (inside : index * maxPayloadLength < source.length) :
    index * maxPayloadLength < sending.buffer.len ∧
      (Emitted emitted (chunkAt source index) ∨ index ∈ loop.extras) := by
  have past := (ReadableBuffer.take_eq_nil exhausted).1
  have whole : index * maxPayloadLength < sending.buffer.len := by
    rw [ReadableBuffer.len, tracked.buffer]
    exact inside
  exact ⟨whole, tracked.covered index inside (Or.inr (whole.trans_le past))⟩

theorem tick (tracked : Tracked source sending loop emitted) {next : StreamingTo}
    {extras : Finset Nat} {toSend : Option (List Chunk × BatchId)}
    (step : SendStep sending packetCountPerBatch loop.extras next extras toSend)
    (sessionId : SessionId) (clock : Nat → Timestamp) :
    Tracked source next
      { loop with
        extras := extras
        lastSent := (toSend.bind fun sent => sent.1.getLast?.map Prod.fst).getD loop.lastSent }
      (emitted ++ (toSend.map fun sent =>
        sendDataPackets sent.1 sessionId sent.2 clock).getD []) := by
  cases step with
  | paused =>
      refine ⟨tracked.buffer, tracked.aligned, tracked.small, ?_⟩
      intro index inside below
      rw [Option.map_none, Option.getD_none, List.append_nil]
      exact tracked.covered index inside below
  | fresh nonempty =>
      obtain ⟨buffer, aligned, advanced, _, complete⟩ :=
        ReadableBuffer.take_spec tracked.aligned packetCountPerBatch
      refine ⟨buffer.trans tracked.buffer, aligned, tracked.small, ?_⟩
      intro index inside below
      have underHead : index * maxPayloadLength <
          (ReadableBuffer.take packetCountPerBatch sending.buffer).2.head := by
        rcases below with below | below
        · obtain ⟨first, rest, taken⟩ := List.exists_cons_of_ne_nil nonempty
          simp only [Option.bind_some, taken] at below
          exact lastSent_below tracked.aligned loop.lastSent taken below
        · exact below
      by_cases old : index * maxPayloadLength < sending.buffer.head
      · rcases tracked.covered index inside (Or.inr old) with sent | queued
        · exact Or.inl (sent.append_left _)
        · exact Or.inr queued
      · have handedOut := complete index (not_lt.mp old) underHead
        rw [tracked.buffer] at handedOut
        exact Or.inl (Emitted.append_right (Emitted.of_sendDataPackets handedOut _ _ _) _)
  | drained exhausted nonempty =>
      refine ⟨tracked.buffer, tracked.aligned, ?_, ?_⟩
      · intro index member
        exact tracked.small index (Finset.mem_sdiff.mp member).1
      · intro index inside _
        obtain ⟨whole, sent | queued⟩ := tracked.sent_or_queued exhausted inside
        · exact Or.inl (sent.append_left _)
        · by_cases taken : index ∈ loop.extras.sort.take packetCountPerBatch
          · have read := mem_drained taken (tracked.small index queued) whole
            rw [tracked.buffer] at read
            exact Or.inl (Emitted.append_right (Emitted.of_sendDataPackets read _ _ _) _)
          · exact Or.inr (Finset.mem_sdiff.mpr ⟨queued, by rwa [List.mem_toFinset]⟩)
  | nothing exhausted empty =>
      refine ⟨tracked.buffer, tracked.aligned, ?_, ?_⟩
      · intro index member
        exact tracked.small index (Finset.mem_sdiff.mp member).1
      · intro index inside _
        obtain ⟨whole, sent | queued⟩ := tracked.sent_or_queued exhausted inside
        · exact Or.inl (sent.append_left _)
        · refine Or.inr (Finset.mem_sdiff.mpr ⟨queued, ?_⟩)
          -- an index that was taken would have been read
          intro taken
          have read := mem_drained (List.mem_toFinset.mp taken) (tracked.small index queued) whole
          rw [empty] at read
          cases read

/-- A seek queues everything between `last_sent` and where it goes. -/
theorem seek (tracked : Tracked source sending loop emitted) (position : BytePosition) :
    Tracked source { sending with buffer := (sending.buffer.seek position).2 }
      { loop with extras := addSeekHoleIndices loop.extras loop.lastSent position } emitted where
  buffer := tracked.buffer
  aligned := ReadableBuffer.seek_aligned _ _
  small := by
    intro index member
    rcases mem_addSeekHoleIndices.mp member with old | ⟨_, below⟩
    · exact tracked.small index old
    · exact below.trans (max_lt loop.lastSent.lt position.lt)
  covered := by
    intro index inside below
    by_cases old : index * maxPayloadLength < loop.lastSent.toNat
    · rcases tracked.covered index inside (Or.inl old) with sent | queued
      · exact Or.inl sent
      · exact Or.inr (mem_addSeekHoleIndices.mpr (Or.inl queued))
    · -- only a seek forward puts the head beyond `last_sent`
      have underHead : index * maxPayloadLength < (sending.buffer.seek position).2.head :=
        below.resolve_left old
      have target : index * maxPayloadLength < position.toNat :=
        (underHead.trans_le (Nat.sub_le _ _)).trans_le (Nat.min_le_left _ _)
      refine Or.inr (mem_addSeekHoleIndices.mpr (Or.inr ⟨?_, lt_max_of_lt_right target⟩))
      simp only [maxPayloadLength] at old target ⊢
      omega

theorem retransmit (tracked : Tracked source sending loop emitted) (byteRanges : List ByteRange) :
    Tracked source sending
      { loop with extras := loop.extras ∪ (requestedIndices byteRanges).toFinset } emitted where
  buffer := tracked.buffer
  aligned := tracked.aligned
  small := by
    intro index member
    rcases Finset.mem_union.mp member with old | requested
    · exact tracked.small index old
    · exact requestedIndices_small (List.mem_toFinset.mp requested)
  covered := by
    intro index inside below
    rcases tracked.covered index inside below with sent | queued
    · exact Or.inl sent
    · exact Or.inr (Finset.mem_union_left _ queued)

theorem playing (tracked : Tracked source sending loop emitted) (playing : Bool) :
    Tracked source sending { loop with playing := playing } emitted :=
  ⟨tracked.buffer, tracked.aligned, tracked.small, tracked.covered⟩

end Tracked

/-! ## Runs -/

namespace ConnectionStates

def Silent (self : ConnectionStates) : Prop := ∀ sending, ¬ self.Sends sending

theorem sends_iff {self : ConnectionStates} {sending : StreamingTo} :
    self.Sends sending ↔ ∃ established stream, self.openStream = some (established, stream) ∧
      stream.streaming = .streamingTo sending := by
  constructor
  · rintro ⟨session, stream, same, state, streaming⟩
    exact ⟨session, stream, openStream_eq_some.mpr ⟨same, state⟩, streaming⟩
  · rintro ⟨session, stream, isOpen, streaming⟩
    obtain ⟨same, state⟩ := openStream_eq_some.mp isOpen
    exact ⟨session, stream, same, state, streaming⟩

theorem silent_of_openStream {self : ConnectionStates} (none : self.openStream = none) :
    self.Silent := by
  intro sending sends
  obtain ⟨_, _, isOpen, _⟩ := sends_iff.mp sends
  rw [none] at isOpen
  cases isOpen

theorem silent_closeStream (self : ConnectionStates) : self.closeStream.1.Silent := by
  unfold closeStream
  split
  · exact silent_of_openStream rfl
  · rename_i none
    exact silent_of_openStream none

end ConnectionStates

theorem sends_seekAction {session : ConnectionStates} {sending : StreamingTo}
    (sends : session.Sends sending) (position : BytePosition) :
    (seekAction session position).Sends
      { sending with buffer := (sending.buffer.seek position).2 } := by
  obtain ⟨established, stream, rfl, state, streaming⟩ := sends
  simp only [seekAction, state, streaming]
  exact ⟨_, _, rfl, rfl, rfl⟩

theorem sends_updateMessage {session : ConnectionStates} {sending : StreamingTo}
    (sends : session.Sends sending) (change : StreamMessage → StreamMessage) :
    (session.updateMessage change).Sends sending := by
  obtain ⟨established, stream, isOpen, streaming⟩ := ConnectionStates.sends_iff.mp sends
  simp only [ConnectionStates.updateMessage, isOpen]
  exact ⟨_, _, rfl, rfl, streaming⟩

/-! A session that sends no stream stays as it is. -/

theorem seekAction_of_silent {session : ConnectionStates} (silent : session.Silent)
    (position : BytePosition) : seekAction session position = session := by
  unfold seekAction
  split
  · split
    · rename_i established _ stream state
      split
      · rename_i sending streaming
        exact absurd ⟨established, stream, rfl, state, streaming⟩ (silent sending)
      · rfl
    all_goals rfl
  · rfl

theorem silent_replace {established : EstablishedState} {stream next : StreamState}
    (silent : (ConnectionStates.established established).Silent)
    (state : established.state = .streaming stream) (same : next.streaming = stream.streaming) :
    (ConnectionStates.established { established with state := .streaming next }).Silent := by
  rintro sending ⟨_, _, whole, nextState, streaming⟩
  cases whole
  cases nextState
  exact silent sending ⟨established, stream, rfl, state, same.symm.trans streaming⟩

theorem sendStreamAction_of_silent {session : ConnectionStates} (silent : session.Silent)
    (count : Nat) (extras : Finset Nat) :
    (sendStreamAction session count extras).session.Silent ∧
      (sendStreamAction session count extras).extras = extras ∧
      (sendStreamAction session count extras).toSend = none := by
  unfold sendStreamAction
  split
  · rename_i established
    split
    · rename_i stream state
      cases streaming : stream.streaming with
      | streamingTo sending => exact absurd ⟨established, stream, rfl, state, streaming⟩ (silent sending)
      | streamingFrom receiving =>
          have none : stream.getChunks count = none := by rw [StreamState.getChunks, streaming]
          rw [sendOnStream, none]
          exact ⟨silent_replace silent state rfl, rfl, rfl⟩
    all_goals exact ⟨silent, rfl, rfl⟩
  · exact ⟨silent, rfl, rfl⟩

theorem updateMessage_of_silent {session : ConnectionStates} (silent : session.Silent)
    (change : StreamMessage → StreamMessage) : (session.updateMessage change).Silent := by
  unfold ConnectionStates.updateMessage
  split
  · rename_i established stream isOpen
    obtain ⟨rfl, state⟩ := ConnectionStates.openStream_eq_some.mp isOpen
    exact silent_replace silent state rfl
  · exact silent

namespace SendRun

def Accounted (source : List UInt8) (self : SendRun) : Prop :=
  self.session.Silent ∨
    ∃ sending, self.session.Sends sending ∧ Tracked source sending self.loop self.emitted

variable {source : List UInt8}

theorem opened_accounted {run : SendRun} (opened : run.Opened source) : run.Accounted source := by
  obtain ⟨⟨sending, sends, buffer⟩, loop, emitted⟩ := opened
  refine Or.inr ⟨sending, sends, ?_⟩
  rw [loop, emitted]
  exact Tracked.opened source buffer

theorem sendTick_eq (session : ConnectionStates) (sessionId : SessionId) (loop : SendLoop)
    (clock : Nat → Timestamp) :
    sendTick session sessionId loop clock =
      let action := sendStreamAction session packetCountPerBatch loop.extras
      let toSend := action.toSend.map fun sent => (sent.1, sent.2.2)
      (action.session,
        { loop with
          extras := action.extras
          lastSent := (toSend.bind fun sent => sent.1.getLast?.map Prod.fst).getD loop.lastSent },
        (toSend.map fun sent => sendDataPackets sent.1 sessionId sent.2 clock).getD []) := by
  unfold sendTick
  cases sent : (sendStreamAction session packetCountPerBatch loop.extras).toSend with
  | none => simp [sent]
  | some sent => simp [sent]

theorem tick_accounted {sessionId : SessionId} {run : SendRun} (accounted : run.Accounted source)
    (clock : Nat → Timestamp) :
    Accounted source
      ⟨(sendTick run.session sessionId run.loop clock).1,
        (sendTick run.session sessionId run.loop clock).2.1,
        run.emitted ++ (sendTick run.session sessionId run.loop clock).2.2⟩ := by
  rw [sendTick_eq]
  rcases accounted with silent | ⟨sending, sends, tracked⟩
  · exact Or.inl (sendStreamAction_of_silent silent _ _).1
  · obtain ⟨next, sendsNext, step⟩ :=
      sendStreamAction_step sends packetCountPerBatch run.loop.extras
    exact Or.inr ⟨next, sendsNext, tracked.tick step sessionId clock⟩

theorem event_accounted {run : SendRun} (accounted : run.Accounted source) (event : StreamEvent) :
    Accounted source
      ⟨(handleStreamEvent run.session run.loop event).1,
        (handleStreamEvent run.session run.loop event).2, run.emitted⟩ := by
  cases event with
  | retransmit byteRanges =>
      rcases accounted with silent | ⟨sending, sends, tracked⟩
      · exact Or.inl silent
      · exact Or.inr ⟨sending, sends, tracked.retransmit byteRanges⟩
  | playback control =>
      cases control with
      | pause =>
          rcases accounted with silent | ⟨sending, sends, tracked⟩
          · exact Or.inl silent
          · exact Or.inr ⟨sending, sends, tracked.playing false⟩
      | play =>
          rcases accounted with silent | ⟨sending, sends, tracked⟩
          · exact Or.inl silent
          · exact Or.inr ⟨sending, sends, tracked.playing true⟩
      | seek position =>
          rcases accounted with silent | ⟨sending, sends, tracked⟩
          · left
            simp only [handleStreamEvent, seekAction_of_silent silent]
            exact silent
          · exact Or.inr ⟨_, sends_seekAction sends position, tracked.seek position⟩
      | done => exact Or.inl run.session.silent_closeStream
      | close => exact Or.inl run.session.silent_closeStream

theorem step_accounted {sessionId : SessionId} {run next : SendRun} {label : SendLabel}
    (accounted : run.Accounted source) (stepped : run.step sessionId label = some next) :
    next.Accounted source := by
  cases label with
  | tick clock =>
      simp only [step, Option.ite_none_right_eq_some, Option.some.injEq] at stepped
      obtain ⟨_, rfl⟩ := stepped
      exact tick_accounted accounted clock
  | event event =>
      cases Option.some.inj stepped
      exact event_accounted accounted event
  | paused paused =>
      cases Option.some.inj stepped
      rcases accounted with silent | ⟨sending, sends, tracked⟩
      · exact Or.inl (updateMessage_of_silent silent fun message =>
          { message with paused := paused })
      · exact Or.inr ⟨sending, sends_updateMessage sends fun message =>
          { message with paused := paused }, tracked⟩

theorem reachable_accounted {sessionId : SessionId} {run : SendRun}
    (reachable : (machine sessionId source).Reachable run) : run.Accounted source :=
  (machine sessionId source).reachable_invariant
    (fun _ opened => opened_accounted opened)
    (fun _ _ _ accounted stepped => step_accounted accounted stepped) reachable

/-- Before the stream ends, every chunk of the source has been sent with the bytes of the
source, lies at or beyond the head, or is among the extras; so all of them have been sent when
the head is at the end and no extras are left. -/
theorem no_chunk_forgotten {sessionId : SessionId} {run : SendRun} {sending : StreamingTo}
    (reachable : (machine sessionId source).Reachable run) (sends : run.session.Sends sending) :
    (∀ index, index * maxPayloadLength < source.length →
      Emitted run.emitted (chunkAt source index) ∨
        sending.buffer.head ≤ index * maxPayloadLength ∨ index ∈ run.loop.extras) ∧
    (sending.buffer.isDone → run.loop.extras = ∅ →
      ∀ index, index * maxPayloadLength < source.length →
        Emitted run.emitted (chunkAt source index)) := by
  obtain ⟨tracked⟩ : Nonempty (Tracked source sending run.loop run.emitted) := by
    rcases reachable_accounted reachable with silent | ⟨other, sendsOther, tracked⟩
    · exact absurd sends (silent sending)
    · rw [ConnectionStates.sends_unique sends sendsOther]
      exact ⟨tracked⟩
  have accounted : ∀ index, index * maxPayloadLength < source.length →
      Emitted run.emitted (chunkAt source index) ∨
        sending.buffer.head ≤ index * maxPayloadLength ∨ index ∈ run.loop.extras := by
    intro index inside
    rcases Nat.lt_or_ge (index * maxPayloadLength) sending.buffer.head with below | above
    · rcases tracked.covered index inside (Or.inr below) with sent | queued
      · exact Or.inl sent
      · exact Or.inr (Or.inr queued)
    · exact Or.inr (Or.inl above)
  refine ⟨accounted, ?_⟩
  intro done empty index inside
  have atEnd : source.length ≤ sending.buffer.head := by
    rw [← tracked.buffer]
    exact of_decide_eq_true done
  rcases accounted index inside with sent | above | queued
  · exact sent
  · exact absurd (inside.trans_le atEnd) (Nat.not_lt.mpr above)
  · rw [empty] at queued
    cases queued

def ofSource (source : List UInt8) : SendRun where
  session := .established {
    sessionId := ⟨1⟩
    state := .streaming ⟨.streamingTo ⟨ReadableBuffer.new source, 0, ⟨.default, false, .idle⟩⟩,
      .default, .default⟩
    address := ⟨[127, 0, 0, 1], 6969⟩
    appId := ⟨[]⟩ }
  loop := SendLoop.new
  emitted := []

/-- A seek to the last of three chunks before anything is sent, a tick, and a request for the chunk
in the middle. -/
def seekThenTick : List SendLabel :=
  [.event (.playback (.seek (BytePosition.ofNat 2736))), .tick fun _ => ⟨0, Timestamp.zero_lt⟩,
    .event (.retransmit [ByteRange.new (BytePosition.ofNat 1368) maxPayloadLength])]

theorem no_chunk_forgotten_seek :
    ∃ final, (machine ⟨1⟩ (List.replicate 3000 7)).run (ofSource (List.replicate 3000 7))
        seekThenTick = some final ∧ final.loop.extras = {0, 1} ∧
      Emitted final.emitted (chunkAt (List.replicate 3000 7) 2) := by
  have facts : ((machine ⟨1⟩ (List.replicate 3000 7)).run (ofSource (List.replicate 3000 7))
      seekThenTick).map (fun final => (final.session.sending.map fun sending => sending.buffer.head,
        final.loop.extras)) = some (some 3000, {0, 1}) := by
    decide +kernel
  obtain ⟨final, ran, values⟩ := Option.map_eq_some_iff.mp facts
  obtain ⟨sends, extras⟩ := Prod.mk.inj values
  obtain ⟨sending, found, head⟩ := Option.map_eq_some_iff.mp sends
  have opened : (ofSource (List.replicate 3000 7)).Opened (List.replicate 3000 7) :=
    ⟨⟨_, ⟨_, _, rfl, rfl, rfl⟩, rfl⟩, rfl, rfl⟩
  refine ⟨final, ran, extras, ?_⟩
  rcases (no_chunk_forgotten ⟨_, _, opened, ran⟩ (ConnectionStates.sends_of_sending found)).1 2
    (by rw [List.length_replicate]; decide) with sent | ahead | queued
  · exact sent
  · rw [head] at ahead
    exact absurd ahead (by decide)
  · rw [extras] at queued
    exact absurd queued (by decide)

end SendRun
end Ubass

import Ubass.Api.Calls
import Ubass.Exchange.Model
import Ubass.Manager.SendLoop

/-!
# The position an application sees

The application reads the head of its stream from the watch channel.  The sender counts it
along in `get_chunks`, the receiver copies the head of its buffer after a chunk is stored.
A seek moves the head of the buffer on either side, and neither `seek_action` nor the
endpoint `seek` writes the channel.
-/

set_option autoImplicit false

namespace Ubass

namespace StreamMessage

/-- `current_position` of an `InputStream` or an `OutputStream`. -/
def currentPosition (self : StreamMessage) : Nat := self.head

/-- `OutputStream::is_done` -/
def outputDone (self : StreamMessage) (size : Nat) : Bool := self.head = size

/-- `InputStream::is_done` -/
def inputDone (self : StreamMessage) (size : Nat) : Bool := self.head = size || self.closed

end StreamMessage

namespace StreamState

def position (self : StreamState) : Nat :=
  match self.streaming with
  | .streamingTo sending => sending.buffer.head
  | .streamingFrom receiving => receiving.buffer.head.toNat

def Published (self : StreamState) : Prop := self.stream.head = self.position

instance (self : StreamState) : Decidable self.Published :=
  inferInstanceAs (Decidable (self.stream.head = self.position))

def Inside (self : StreamState) : Prop :=
  ∀ sending, self.streaming = .streamingTo sending → sending.buffer.head ≤ sending.buffer.len

structure Tracked (stream : StreamState) : Prop where
  published : stream.Published
  inside : stream.Inside

/-! What the application makes of a published position. -/

theorem currentPosition_of_published {self : StreamState} (published : self.Published) :
    self.stream.currentPosition = self.position := published

theorem outputDone_of_published {self : StreamState} {sending : StreamingTo}
    (published : self.Published) (inside : self.Inside)
    (streaming : self.streaming = .streamingTo sending) :
    self.stream.outputDone sending.buffer.len = sending.buffer.isDone := by
  have below := inside sending streaming
  rw [Published, position, streaming] at published
  rw [StreamMessage.outputDone, ReadableBuffer.isDone, published]
  exact decide_eq_decide.mpr (by simp only; omega)

theorem inputDone_of_published {self : StreamState} {receiving : StreamingFrom}
    (published : self.Published) (streaming : self.streaming = .streamingFrom receiving) :
    self.stream.inputDone receiving.buffer.len =
      (decide (receiving.buffer.head.toNat = receiving.buffer.len) || self.stream.closed) := by
  rw [Published, position, streaming] at published
  rw [StreamMessage.inputDone, published]

end StreamState

/-! ## The operations -/

/-- What moves a head or writes the channel of an open stream. -/
inductive PositionOp where
  | getChunks (count : Nat)
  | retransmit (ranges : List ByteRange)
  | seekAction (position : BytePosition)
  | receivedDataPacket (packet : DataPacket) (clock : Nat → Timestamp)
  | recoveredPacket (recovered : Recovered) (clock : Nat → Timestamp)
  | seek (position : BytePosition)
  | updatePaused (paused : Bool)
  | setCompleteStream (allowPartial : Bool)

namespace ConnectionStates

/-- `get_chunks` on the open stream. -/
def getChunks (self : ConnectionStates) (count : Nat) : ConnectionStates × Option (List Chunk) :=
  match self.openStream with
  | some (session, stream) =>
      match stream.getChunks count with
      | some (chunks, stream) => (withStream session stream, some chunks)
      | none => (self, none)
  | none => (self, none)

/-- `retransmit` on the open stream, which it leaves as it is. -/
def retransmit (self : ConnectionStates) (ranges : List ByteRange) :
    ConnectionStates × Option (List Chunk) :=
  (self, self.openStream.bind fun (_, stream) => stream.retransmit ranges)

def apply (self : ConnectionStates) : PositionOp → ConnectionStates
  | .getChunks count => (self.getChunks count).1
  | .retransmit ranges => (self.retransmit ranges).1
  | .seekAction position => Ubass.seekAction self position
  | .receivedDataPacket packet clock => (self.receivedDataPacket packet clock).session
  | .recoveredPacket recovered clock => (self.recoveredPacket recovered clock).session
  | .seek position => (self.seek position).1
  | .updatePaused paused => Ubass.updatePaused self paused
  | .setCompleteStream allowPartial => self.setCompleteStream allowPartial

/-- A stream has just been opened on a free session. -/
inductive Opened : ConnectionStates → Prop
  | sending (free : ConnectionStates) (isFree : free.isFree = true) (source : List UInt8) :
      Opened (free.streamTo (ReadableBuffer.new source) StreamMessage.default)
  | receiving (free : ConnectionStates) (isFree : free.isFree = true) (buffer : Buffer) :
      Opened (free.streamingFrom (WriteableBuffer.new buffer) StreamMessage.default)

/-- The operations on one session, in any order. -/
def positions : Machine ConnectionStates PositionOp where
  initial := Opened
  step self op := some (self.apply op)

def OpenStream (property : StreamState → Prop) (self : ConnectionStates) : Prop :=
  ∀ session stream, self.openStream = some (session, stream) → property stream

def Published (self : ConnectionStates) : Prop := self.OpenStream StreamState.Published

theorem openStream_of_withStream {property : StreamState → Prop} {session : EstablishedState}
    {stream : StreamState} : (withStream session stream).OpenStream property ↔ property stream := by
  constructor
  · intro holds
    exact holds _ stream rfl
  · intro holds other found same
    cases Option.some.inj same
    exact holds

theorem openStream_of_none {property : StreamState → Prop} {self : ConnectionStates}
    (none : self.openStream = none) : self.OpenStream property := by
  intro session stream isOpen
  rw [none] at isOpen
  cases isOpen

end ConnectionStates

/-! ## What each operation does to a stream -/

namespace StreamState

/-- `get_chunks` moves both heads by the chunks it hands out. -/
theorem getChunks_tracked {self next : StreamState} {count : Nat} {chunks : List Chunk}
    (tracked : self.Tracked) (got : self.getChunks count = some (chunks, next)) :
    next.Tracked := by
  unfold getChunks at got
  split at got
  · rename_i sending streaming
    split at got
    · obtain ⟨rfl, rfl⟩ := Prod.mk.inj (Option.some.inj got)
      obtain ⟨len, head⟩ := ReadableBuffer.take_head (tracked.inside sending streaming) count
      have published := tracked.published
      rw [Published, position, streaming] at published
      constructor
      · simp only [Published, position, head, len, published, Nat.min_comm]
      · intro other same
        cases same
        simp only [head, len]
        exact Nat.min_le_left _ _
    · cases got
  · cases got

theorem inside_of_streamingFrom {self : StreamState} {receiving : StreamingFrom}
    (streaming : self.streaming = .streamingFrom receiving) : self.Inside := by
  intro sending same
  rw [streaming] at same
  cases same

theorem write_error_head {buf next : WriteableBuffer} {position : BytePosition}
    {toWrite : List UInt8} {error : BufferError}
    (failed : buf.write position toWrite = (next, .error error)) : next.head = buf.head := by
  have stepped := WriteableBuffer.write_step buf position toWrite
  rw [failed] at stepped
  cases stepped with
  | rejected => rfl
  | null _ _ _ _ head => exact head

theorem settle_tracked (receiving : StreamingFrom) {message : StreamMessage}
    (published : message.head = receiving.buffer.head.toNat) (fec : SessionFecState)
    (batchEnd : Bool) (clock : Nat → Timestamp) :
    (settle receiving message fec batchEnd clock).1.Tracked := by
  obtain ⟨⟨next, streaming, same⟩, kept, _⟩ := settle_spec receiving message fec batchEnd clock
  refine ⟨?_, inside_of_streamingFrom streaming⟩
  rw [Published, position, streaming, kept, published]
  simp only [same]

theorem storeData_tracked {self : StreamState} {receiving : StreamingFrom}
    (published : self.Published) (streaming : self.streaming = .streamingFrom receiving)
    (packet : DataPacket) (clock : Nat → Timestamp) :
    (self.storeData receiving packet clock).1.Tracked := by
  rw [Published, position, streaming] at published
  unfold storeData
  split
  · rename_i buffer error failed
    refine ⟨?_, inside_of_streamingFrom rfl⟩
    rw [Published, position, published]
    simp only [write_error_head failed]
  · exact settle_tracked _ rfl _ _ _

theorem writeRecovered_head (packets : List RecoverdPacket) {receiving : StreamingFrom}
    {message : StreamMessage} (published : message.head = receiving.buffer.head.toNat) :
    (writeRecovered receiving message packets).2.1.head =
      (writeRecovered receiving message packets).1.buffer.head.toNat := by
  induction packets generalizing receiving message with
  | nil => exact published
  | cons packet rest ih =>
      rw [writeRecovered]
      split
      · rename_i buffer error failed
        rw [published]
        simp only [write_error_head failed]
      · exact ih rfl

theorem storeRecovered_tracked {self : StreamState} {receiving : StreamingFrom}
    (published : self.Published) (streaming : self.streaming = .streamingFrom receiving)
    (recovered : Recovered) (clock : Nat → Timestamp) :
    (self.storeRecovered receiving recovered clock).1.Tracked := by
  rw [Published, position, streaming] at published
  have kept := @writeRecovered_head recovered.packets receiving
    { self.stream with approved := some true } published
  rcases written : writeRecovered receiving { self.stream with approved := some true }
    recovered.packets with ⟨next, message, _ | error⟩
  · rw [written] at kept
    simp only [storeRecovered, written]
    exact settle_tracked next kept _ _ _
  · rw [written] at kept
    simp only [storeRecovered, written]
    exact ⟨kept, inside_of_streamingFrom rfl⟩

end StreamState

/-! ## What each operation does to the session -/

namespace ConnectionStates

theorem streamTo_of_isFree {free : ConnectionStates} (isFree : free.isFree = true)
    (buffer : ReadableBuffer) (sender : StreamMessage) :
    ∃ session, free.streamTo buffer sender = withStream session
      ⟨.streamingTo ⟨buffer, 0, ⟨StreamEvent.default, false, .idle⟩⟩, sender,
        SessionFecState.default⟩ := by
  unfold ConnectionStates.isFree at isFree
  split at isFree
  · rename_i session
    split at isFree
    · rename_i state
      exact ⟨session, by simp only [streamTo, state, withStream]⟩
    · rename_i state
      exact ⟨session, by simp only [streamTo, state, withStream]⟩
    · cases isFree
  · cases isFree

theorem streamingFrom_of_isFree {free : ConnectionStates} (isFree : free.isFree = true)
    (buffer : WriteableBuffer) (sender : StreamMessage) :
    ∃ session, free.streamingFrom buffer sender = withStream session
      ⟨.streamingFrom (StreamingFrom.new buffer), sender, SessionFecState.default⟩ := by
  unfold ConnectionStates.isFree at isFree
  split at isFree
  · rename_i session
    split at isFree
    · rename_i state
      exact ⟨session, by simp only [streamingFrom, state, withStream]⟩
    · rename_i state
      exact ⟨session, by simp only [streamingFrom, state, withStream]⟩
    · cases isFree
  · cases isFree

def SendsAt (self : ConnectionStates) (position : BytePosition) : Prop :=
  ∀ sending, self.Sends sending →
    min position.toNat sending.buffer.len / maxPayloadLength * maxPayloadLength =
      sending.buffer.head

/-- The receiver is told to go past the end or not ahead, or the chunks from there on are filled
up to its head. -/
def ReceivesAt (self : ConnectionStates) (position : BytePosition) : Prop :=
  ∀ session stream receiving, self.receiving = some (session, stream, receiving) →
    receiving.buffer.len < position.toNat ∨
      position.toNat ≤ receiving.buffer.head.toNat ∨
      receiving.buffer.runEnd (position.toNat / maxPayloadLength) = receiving.buffer.head

def StaysAt (self : ConnectionStates) : PositionOp → Prop
  | .seekAction position => self.SendsAt position
  | .seek position => self.ReceivesAt position
  | .getChunks _ | .retransmit _ | .receivedDataPacket _ _ | .recoveredPacket _ _
  | .updatePaused _ | .setCompleteStream _ => True

theorem opened_tracked {self : ConnectionStates} (opened : Opened self) :
    self.OpenStream StreamState.Tracked := by
  cases opened with
  | sending free isFree source =>
      obtain ⟨session, fresh⟩ := streamTo_of_isFree isFree (ReadableBuffer.new source)
        StreamMessage.default
      rw [fresh, openStream_of_withStream]
      refine ⟨rfl, ?_⟩
      intro sending same
      cases same
      exact Nat.zero_le _
  | receiving free isFree buffer =>
      obtain ⟨session, fresh⟩ := streamingFrom_of_isFree isFree (WriteableBuffer.new buffer)
        StreamMessage.default
      rw [fresh, openStream_of_withStream]
      exact ⟨rfl, StreamState.inside_of_streamingFrom rfl⟩

section Tracked

variable {self : ConnectionStates} (tracked : self.OpenStream StreamState.Tracked)
include tracked

theorem published_of_tracked : self.Published :=
  fun session stream isOpen => (tracked session stream isOpen).published

theorem getChunks_tracked (count : Nat) :
    (self.getChunks count).1.OpenStream StreamState.Tracked := by
  unfold getChunks
  split
  · rename_i session stream isOpen
    split
    · rename_i chunks next got
      exact openStream_of_withStream.mpr
        (StreamState.getChunks_tracked (tracked session stream isOpen) got)
    · exact tracked
  · exact tracked

theorem receivedDataPacket_tracked (packet : DataPacket) (clock : Nat → Timestamp) :
    (self.receivedDataPacket packet clock).session.OpenStream StreamState.Tracked := by
  unfold receivedDataPacket
  split
  · exact tracked
  · rename_i session stream receiving found
    obtain ⟨isOpen, streaming⟩ := receiving_eq_some found
    have kept := StreamState.storeData_tracked (tracked session stream isOpen).published streaming
      packet clock
    split
    · rename_i next error stored
      rw [stored] at kept
      exact openStream_of_withStream.mpr kept
    · exact openStream_of_none rfl
    · rename_i next ranges stored
      rw [stored] at kept
      exact openStream_of_withStream.mpr kept

theorem recoveredPacket_tracked (recovered : Recovered) (clock : Nat → Timestamp) :
    (self.recoveredPacket recovered clock).session.OpenStream StreamState.Tracked := by
  unfold recoveredPacket
  split
  · exact tracked
  · rename_i session stream receiving found
    obtain ⟨isOpen, streaming⟩ := receiving_eq_some found
    have kept := StreamState.storeRecovered_tracked (tracked session stream isOpen).published
      streaming recovered clock
    split
    · rename_i next error stored
      rw [stored] at kept
      exact openStream_of_withStream.mpr kept
    · rename_i next ranges stored
      rw [stored] at kept
      exact openStream_of_withStream.mpr ⟨kept.published, kept.inside⟩
    · rename_i next ranges stored
      rw [stored] at kept
      exact openStream_of_withStream.mpr kept

theorem updateMessage_tracked (change : StreamMessage → StreamMessage)
    (kept : ∀ message, (change message).head = message.head) :
    (self.updateMessage change).OpenStream StreamState.Tracked := by
  unfold updateMessage
  split
  · rename_i session stream isOpen
    obtain ⟨published, inside⟩ := tracked session stream isOpen
    exact openStream_of_withStream.mpr ⟨(kept stream.stream).trans published, inside⟩
  · exact tracked

theorem seek_tracked_iff (position : BytePosition) :
    ((self.seek position).1.Published ↔ self.ReceivesAt position) ∧
      ((self.seek position).1.Published →
        (self.seek position).1.OpenStream StreamState.Tracked) := by
  unfold seek
  split
  · rename_i none
    refine ⟨iff_of_true (published_of_tracked tracked) ?_, fun _ => tracked⟩
    intro session stream receiving found
    rw [none] at found
    cases found
  · rename_i session stream receiving found
    obtain ⟨isOpen, streaming⟩ := receiving_eq_some found
    have before := (tracked session stream isOpen).published
    rw [StreamState.Published, StreamState.position, streaming] at before
    have same : (withStream session { stream with
        streaming := .streamingFrom { receiving with
          buffer := (receiving.buffer.seekHead position).1 } }).Published ↔
        (receiving.buffer.seekHead position).1.head = receiving.buffer.head := by
      rw [Published, openStream_of_withStream, StreamState.Published, StreamState.position, before]
      exact ⟨fun heads => BytePosition.ext heads.symm, fun heads => by simp only [heads]⟩
    have here : self.ReceivesAt position ↔
        (receiving.buffer.len < position.toNat ∨
          position.toNat ≤ receiving.buffer.head.toNat ∨
          receiving.buffer.runEnd (position.toNat / maxPayloadLength) =
            receiving.buffer.head) := by
      constructor
      · intro stays
        exact stays session stream receiving found
      · intro stays other next same again
        cases Option.some.inj (found.symm.trans again)
        exact stays
    constructor
    · rw [same, here, WriteableBuffer.seekHead_head, ← or_assoc]
      by_cases still : receiving.buffer.len < position.toNat ∨
          position.toNat ≤ receiving.buffer.head.toNat
      · rw [if_pos still]
        exact iff_of_true rfl (Or.inl still)
      · rw [if_neg still]
        exact (or_iff_right still).symm
    · intro published
      exact openStream_of_withStream.mpr
        ⟨openStream_of_withStream.mp published, StreamState.inside_of_streamingFrom rfl⟩

/-- `seek_action` moves the head of the buffer and leaves the channel. -/
theorem seekAction_tracked_iff (position : BytePosition) :
    ((Ubass.seekAction self position).Published ↔ self.SendsAt position) ∧
      ((Ubass.seekAction self position).Published →
        (Ubass.seekAction self position).OpenStream StreamState.Tracked) := by
  by_cases silent : self.Silent
  · rw [seekAction_of_silent silent]
    exact ⟨iff_of_true (published_of_tracked tracked)
      fun sending sends => absurd sends (silent sending), fun _ => tracked⟩
  · simp only [Silent, not_forall, not_not] at silent
    obtain ⟨sending, sends⟩ := silent
    have here : self.SendsAt position ↔
        min position.toNat sending.buffer.len / maxPayloadLength * maxPayloadLength =
          sending.buffer.head := by
      constructor
      · intro stays
        exact stays sending sends
      · intro stays other again
        rw [sends_unique again sends]
        exact stays
    obtain ⟨session, stream, isOpen, streaming⟩ := sends_iff.mp sends
    have before := (tracked session stream isOpen).published
    rw [StreamState.Published, StreamState.position, streaming] at before
    obtain ⟨rfl, state⟩ := openStream_eq_some.mp isOpen
    have moved : Ubass.seekAction (established session) position =
        withStream session { stream with
          streaming := .streamingTo { sending with
            buffer := (sending.buffer.seek position).2 } } := by
      simp only [seekAction, state, streaming, withStream]
    rw [moved]
    constructor
    · rw [here, Published, openStream_of_withStream, StreamState.Published,
        StreamState.position, before]
      simp only [ReadableBuffer.seek, ← Nat.div_mul_self_eq_mod_sub_self]
      exact eq_comm
    · intro published
      refine openStream_of_withStream.mpr ⟨openStream_of_withStream.mp published, ?_⟩
      intro other same
      cases same
      exact (sending.buffer.seek_aligned position).inside

theorem apply_tracked_iff (op : PositionOp) :
    ((self.apply op).Published ↔ self.StaysAt op) ∧
      ((self.apply op).Published → (self.apply op).OpenStream StreamState.Tracked) := by
  have always : ∀ {next : ConnectionStates}, next.OpenStream StreamState.Tracked →
      (next.Published ↔ True) ∧ (next.Published → next.OpenStream StreamState.Tracked) :=
    fun kept => ⟨iff_of_true (published_of_tracked kept) trivial, fun _ => kept⟩
  cases op with
  | getChunks count => exact always (getChunks_tracked tracked count)
  | retransmit ranges => exact always tracked
  | seekAction position => exact seekAction_tracked_iff tracked position
  | receivedDataPacket packet clock =>
      exact always (receivedDataPacket_tracked tracked packet clock)
  | recoveredPacket recovered clock =>
      exact always (recoveredPacket_tracked tracked recovered clock)
  | seek position => exact seek_tracked_iff tracked position
  | updatePaused paused =>
      exact always (updateMessage_tracked tracked
        (fun message => { message with paused := paused }) fun _ => rfl)
  | setCompleteStream allowPartial =>
      exact always (updateMessage_tracked tracked
        (fun message => { message with complete := some allowPartial }) fun _ => rfl)

end Tracked

/-- From a stream that was just opened, the channel shows the head of the buffer after every
operation if and only if no seek moves a head. -/
theorem published_along_iff {first final : ConnectionStates} {ops : List PositionOp}
    (opened : Opened first) (ran : positions.run first ops = some final) :
    positions.HoldsAlong Published first ops ↔ positions.Guarded StaysAt first ops := by
  refine positions.holdsAlong_iff_guarded_of_invariant ?_ ?_ (opened_tracked opened) ran
  · intro state op next tracked stepped
    cases stepped
    exact (apply_tracked_iff tracked op).1
  · intro state op next tracked stays stepped
    cases stepped
    obtain ⟨exact, kept⟩ := apply_tracked_iff tracked op
    exact kept (exact.mpr stays)

def upSession : ConnectionStates := established ⟨⟨7⟩, .up, ⟨[127, 0, 0, 1], 80⟩, ⟨[]⟩⟩

def twoChunkBuffer : Buffer := Buffer.ofBytes (List.replicate 1369 0)

theorem published_along_iff_paused :
    positions.HoldsAlong Published
        (upSession.streamingFrom (WriteableBuffer.new twoChunkBuffer) StreamMessage.default)
        [.updatePaused true, .seek (BytePosition.ofNat 5)] ↔
      positions.Guarded StaysAt
        (upSession.streamingFrom (WriteableBuffer.new twoChunkBuffer) StreamMessage.default)
        [.updatePaused true, .seek (BytePosition.ofNat 5)] :=
  published_along_iff (.receiving upSession rfl twoChunkBuffer) rfl

/-- Both sides are told to go to the second chunk; their buffers do, and the channels still show
the start. -/
theorem seek_not_published :
    (∃ next, positions.run
        (upSession.streamingFrom (WriteableBuffer.new twoChunkBuffer) StreamMessage.default)
        [.seek (BytePosition.ofNat 1368)] = some next ∧ ¬ next.Published) ∧
    ∃ next, positions.run
        (upSession.streamTo (ReadableBuffer.new (List.replicate 1369 0)) StreamMessage.default)
        [.seekAction (BytePosition.ofNat 1368)] = some next ∧ ¬ next.Published := by
  constructor
  · refine ⟨_, rfl, ?_⟩
    intro published
    have opened := Opened.receiving upSession rfl twoChunkBuffer
    have stays := (apply_tracked_iff (opened_tracked opened) (.seek _)).1.mp published
    exact absurd (stays _ _ _ rfl) (by decide +kernel)
  · refine ⟨_, rfl, ?_⟩
    intro published
    exact absurd (published _ _ rfl) (by decide +kernel)

end ConnectionStates
end Ubass

import Ubass.Lib.Machine
import Ubass.Manager.Receive

/-!
# How a stream ends

The runs of the handlers that end a stream.  What the application is told stands
in the message of the stream; the session is free for the next request once its
state is `Up` again or the session is gone.
-/

set_option autoImplicit false

namespace Ubass

/-- The session, the last stream that left it, what the handlers sent for the current or last
stream, and whether one of them found that stream complete. -/
structure SessionRun where
  session : Option ConnectionStates
  ended : Option StreamState
  sent : List StreamPacket
  completed : Bool

inductive SessionLabel where
  /-- `streaming_from` or `stream_to` opens a stream over a new channel. -/
  | receive (buffer : WriteableBuffer)
  | send (buffer : ReadableBuffer)
  | data (packet : DataPacket) (clock : Nat → Timestamp)
  | recovered (recovered : Recovered) (clock : Nat → Timestamp)
  | trackReject
  | setComplete (allowPartial : Bool)
  | closeStream
  | seek (position : BytePosition)
  /-- `failed_to_deref_buffer` reports the buffer, then closes the session. -/
  | failedToDeref
  | closeSession

def StreamMessage.Over (message : StreamMessage) : Prop :=
  message.closed = true ∨ message.approved = some false

/-- The state is `Up` or the session is gone. -/
def Released (session : Option ConnectionStates) : Prop :=
  ∀ present, session = some present →
    ∃ established, present = .established established ∧ established.state = .up

def StreamPacket.isDone : StreamPacket → Bool
  | .playbackControl packet => packet.controlType = .done
  | .retransmit _ => false

namespace SessionRun

def openStream (self : SessionRun) : Option StreamState :=
  self.session.bind fun session => session.openStream.map Prod.snd

def message (self : SessionRun) : Option StreamMessage :=
  (self.openStream <|> self.ended).map StreamState.stream

/-- How many `Done` packets the stream sent. -/
def dones (self : SessionRun) : Nat := self.sent.countP StreamPacket.isDone

def after (self : SessionRun) (handled : Handled) : SessionRun where
  session := some handled.session
  ended := handled.closed <|> self.ended
  sent := self.sent ++ handled.sent.map Prod.fst
  completed := self.completed || (handled.result.toOption.getD false)

def handle (self : SessionRun) (handler : ConnectionStates → Handled) : SessionRun :=
  match self.session with
  | some session => self.after (handler session)
  | none => self

def modify (self : SessionRun) (f : ConnectionStates → ConnectionStates) : SessionRun :=
  { self with session := self.session.map f }

def start (self : SessionRun) (f : ConnectionStates → ConnectionStates) : Option SessionRun :=
  match self.session with
  | some (.established established) =>
      match established.state with
      | .up | .down => some ⟨some (f (.established established)), none, [], false⟩
      | .streaming _ => none
  | _ => none

def step (self : SessionRun) : SessionLabel → Option SessionRun
  | .receive buffer => self.start fun session => session.streamingFrom buffer .default
  | .send buffer => self.start fun session => session.streamTo buffer .default
  | .data packet clock => some (self.handle fun session => session.receivedDataPacket packet clock)
  | .recovered recovered clock =>
      some (self.handle fun session => session.recoveredPacket recovered clock)
  | .trackReject => some (self.modify ConnectionStates.receivedTrackRejectPacket)
  | .setComplete allowPartial =>
      some (self.modify fun session => session.setCompleteStream allowPartial)
  | .closeStream => some (self.handle fun session =>
      ⟨session.closeStream.1, session.closeStream.2, [], .ok false⟩)
  | .seek position => some (self.modify fun session => (session.seek position).1)
  | .failedToDeref => some (self.modify ConnectionStates.failedToDerefBuffer)
  | .closeSession => some { self with session := none, ended := self.openStream <|> self.ended }

def Fresh (self : SessionRun) : Prop :=
  (∃ established, self.session = some (.established established) ∧
    established.state = .up) ∧ self.ended = none ∧ self.sent = [] ∧ self.completed = false

def machine : Machine SessionRun SessionLabel where
  initial := Fresh
  step := step

/-- A stream the application sees as over has freed its session, and `Done` is sent once by a
stream that completes and by no other. -/
structure Freed (run : SessionRun) : Prop where
  isOver : ∀ message, run.message = some message → message.Over → Released run.session
  completed : run.completed = true → Released run.session
  doneOnce : run.dones = if run.completed then 1 else 0

/-- Writing these packets completes the stream that is being received. -/
def RecoveryCompletes (self : SessionRun) (recovered : Recovered) : Prop :=
  ∃ session established stream receiving, self.session = some session ∧
    session.receiving = some (established, stream, receiving) ∧
    (stream.writtenRecovered receiving recovered).2.2 = none ∧
    declareDone (stream.writtenRecovered receiving recovered).1.buffer stream.stream = true

/-- The steps that free the session when they end the stream: a track is only rejected when no
stream is open, and recovered packets do not complete one. -/
def Sound (self : SessionRun) : SessionLabel → Prop
  | .trackReject => self.openStream = none
  | .recovered recovered _ => ¬ self.RecoveryCompletes recovered
  | _ => True

/-! ## An open stream and a free session -/

theorem not_open_of_released {self : SessionRun} (released : Released self.session) :
    self.openStream = none := by
  unfold openStream
  cases session : self.session with
  | none => rfl
  | some present =>
      obtain ⟨established, rfl, up⟩ := released present session
      simp [ConnectionStates.openStream, up]

theorem openStream_eq_some {self : SessionRun} {stream : StreamState}
    (isOpen : self.openStream = some stream) :
    ∃ session established, self.session = some session ∧
      session.openStream = some (established, stream) := by
  obtain ⟨session, present, found⟩ := Option.bind_eq_some_iff.mp isOpen
  obtain ⟨⟨established, _⟩, pair, rfl⟩ := Option.map_eq_some_iff.mp found
  exact ⟨session, established, present, pair⟩

theorem message_of_open {self : SessionRun} {stream : StreamState}
    (isOpen : self.openStream = some stream) : self.message = some stream.stream := by
  rw [message, isOpen]
  rfl

theorem freed_of_released {self : SessionRun} (released : Released self.session)
    (doneOnce : self.dones = if self.completed then 1 else 0) : self.Freed :=
  ⟨fun _ _ _ => released, fun _ => released, doneOnce⟩

theorem freed_of_open {self : SessionRun} {stream : StreamState}
    (isOpen : self.openStream = some stream) (running : ¬ stream.stream.Over)
    (notCompleted : self.completed = false) (none : self.dones = 0) : self.Freed where
  isOver := by
    intro message seen isOver
    rw [message_of_open isOpen] at seen
    cases Option.some.inj seen
    exact absurd isOver running
  completed := by
    intro completed
    rw [notCompleted] at completed
    cases completed
  doneOnce := by
    rw [none, notCompleted]
    rfl

theorem not_freed {self : SessionRun} (stream : StreamState)
    (isOpen : self.openStream = some stream) (isOver : stream.stream.Over) : ¬ self.Freed := by
  intro freed
  have closed := not_open_of_released (freed.isOver _ (message_of_open isOpen) isOver)
  rw [isOpen] at closed
  cases closed

theorem Freed.running {self : SessionRun} {stream : StreamState} (freed : self.Freed)
    (isOpen : self.openStream = some stream) :
    ¬ stream.stream.Over ∧ self.completed = false ∧ self.dones = 0 := by
  have stillOpen : ¬ Released self.session := by
    intro released
    rw [not_open_of_released released] at isOpen
    cases isOpen
  have notCompleted : self.completed = false :=
    Bool.eq_false_of_not_eq_true fun completed => stillOpen (freed.completed completed)
  refine ⟨fun isOver => stillOpen (freed.isOver _ (message_of_open isOpen) isOver), notCompleted, ?_⟩
  rw [freed.doneOnce, notCompleted]
  rfl

/-! ## What a step can do -/

/-- What a step can do that frees the session when it ends the stream. -/
inductive Outcome (run : SessionRun) : SessionRun → Prop
  | idle : Outcome run run
  | opened {next : SessionRun} (stream : StreamState) (isOpen : next.openStream = some stream)
      (running : ¬ stream.stream.Over) (notCompleted : next.completed = false)
      (fresh : next.dones = 0) : Outcome run next
  | continues {next : SessionRun} (before after : StreamState)
      (wasOpen : run.openStream = some before) (isOpen : next.openStream = some after)
      (isOver : after.stream.Over → before.stream.Over) (completed : next.completed = run.completed)
      (dones : next.dones = run.dones) : Outcome run next
  | released {next : SessionRun} (released : Released next.session)
      (completed : next.completed = run.completed) (dones : next.dones = run.dones) :
      Outcome run next
  | completes {next : SessionRun} (before : StreamState) (wasOpen : run.openStream = some before)
      (released : Released next.session) (completed : next.completed = true)
      (dones : next.dones = run.dones + 1) : Outcome run next

theorem Outcome.freed {self next : SessionRun} (outcome : Outcome self next)
    (freed : self.Freed) : next.Freed := by
  cases outcome with
  | idle => exact freed
  | opened stream isOpen running notCompleted fresh =>
      exact freed_of_open isOpen running notCompleted fresh
  | continues before after wasOpen isOpen isOver completed dones =>
      obtain ⟨running, notCompleted, zero⟩ := freed.running wasOpen
      exact freed_of_open isOpen (running ∘ isOver) (completed.trans notCompleted)
        (dones.trans zero)
  | released released completed dones =>
      refine freed_of_released released ?_
      rw [dones, completed]
      exact freed.doneOnce
  | completes before wasOpen released completed dones =>
      obtain ⟨_, _, zero⟩ := freed.running wasOpen
      refine freed_of_released released ?_
      rw [dones, zero, completed]
      rfl

theorem released_up {established : EstablishedState} (up : established.state = .up) :
    Released (some (.established established)) := by
  intro present same
  cases Option.some.inj same
  exact ⟨established, rfl, up⟩

theorem dones_after (self : SessionRun) (handled : Handled) :
    (self.after handled).dones =
      self.dones + (handled.sent.map Prod.fst).countP StreamPacket.isDone :=
  List.countP_append

theorem dones_retransmitPackets (session : EstablishedState) (sessionId : SessionId)
    (ranges : List ByteRange) (clock : Nat → Timestamp) :
    ((ConnectionStates.retransmitPackets session sessionId ranges clock).map Prod.fst).countP
      StreamPacket.isDone = 0 := by
  rw [List.countP_eq_zero]
  intro packet member
  simp only [ConnectionStates.retransmitPackets, List.map_map, List.mem_map] at member
  obtain ⟨_, _, rfl⟩ := member
  exact Bool.false_ne_true

theorem openStream_of_session {self : SessionRun} {session : ConnectionStates}
    {established : EstablishedState} {stream : StreamState} (present : self.session = some session)
    (isOpen : session.openStream = some (established, stream)) :
    self.openStream = some stream := by
  rw [openStream, present, Option.bind_some, isOpen]
  rfl

theorem modify_idle {self : SessionRun} {f : ConnectionStates → ConnectionStates}
    (same : self.session.map f = self.session) : self.modify f = self := by
  rw [modify, same]

theorem updateMessage_outcome (self : SessionRun) {f : StreamMessage → StreamMessage}
    (isOver : ∀ message, (f message).Over → message.Over) :
    Outcome self (self.modify fun session => session.updateMessage f) := by
  cases present : self.session with
  | none =>
      rw [modify_idle (by rw [present, Option.map_none])]
      exact .idle
  | some session =>
      cases isOpen : session.openStream with
      | none =>
          rw [modify_idle (by rw [present, Option.map_some, ConnectionStates.updateMessage, isOpen])]
          exact .idle
      | some pair =>
          obtain ⟨established, stream⟩ := pair
          refine .continues stream { stream with stream := f stream.stream }
            (openStream_of_session present isOpen) ?_ (isOver stream.stream) rfl rfl
          simp only [openStream, modify, present, Option.map_some, Option.bind_some,
            ConnectionStates.updateMessage, isOpen, ConnectionStates.openStream_withStream]

theorem after_idle {self : SessionRun} {session : ConnectionStates}
    (present : self.session = some session) {result : Except ReceiveError Bool}
    (notDone : result.toOption.getD false = false) :
    self.after ⟨session, none, [], result⟩ = self := by
  simp only [after, notDone, ← present, List.map_nil, List.append_nil, Bool.or_false]
  rfl

theorem after_continues {self : SessionRun} {before after : StreamState}
    (wasOpen : self.openStream = some before) {handled : Handled} {established : EstablishedState}
    (isOpen : handled.session.openStream = some (established, after))
    (isOver : after.stream.Over → before.stream.Over)
    (notDone : handled.result.toOption.getD false = false)
    (noDones : (handled.sent.map Prod.fst).countP StreamPacket.isDone = 0) :
    Outcome self (self.after handled) := by
  refine .continues before after wasOpen (openStream_of_session rfl isOpen) isOver ?_ ?_
  · simp only [SessionRun.after, notDone, Bool.or_false]
  · rw [dones_after, noDones, Nat.add_zero]

theorem closeStream_outcome (self : SessionRun) :
    Outcome self (self.handle fun session =>
      ⟨session.closeStream.1, session.closeStream.2, [], .ok false⟩) := by
  unfold handle
  cases present : self.session with
  | none => exact .idle
  | some session =>
      cases isOpen : session.openStream with
      | none =>
          simp only [ConnectionStates.closeStream, isOpen]
          rw [after_idle present rfl]
          exact .idle
      | some pair =>
          simp only [ConnectionStates.closeStream, isOpen]
          refine .released (released_up rfl) ?_ ?_
          · exact Bool.or_false _
          · rw [dones_after]
            rfl

theorem over_of_continues {before after : StreamMessage}
    (continues : StreamState.Continues before after) (isOver : after.Over) : before.Over := by
  obtain ⟨closed, _, approved⟩ := continues
  rcases isOver with isClosed | rejected
  · exact Or.inl (closed ▸ isClosed)
  · rcases approved with same | approved
    · exact Or.inr (same ▸ rejected)
    · rw [approved] at rejected
      cases rejected

theorem data_outcome (self : SessionRun) (packet : DataPacket) (clock : Nat → Timestamp) :
    Outcome self (self.handle fun session => session.receivedDataPacket packet clock) := by
  unfold handle
  cases present : self.session with
  | none => exact .idle
  | some session =>
      cases found : session.receiving with
      | none =>
          simp only [ConnectionStates.receivedDataPacket, found, ConnectionStates.mismatch]
          rw [after_idle present rfl]
          exact .idle
      | some triple =>
          obtain ⟨established, stream, receiving⟩ := triple
          have wasOpen := openStream_of_session present (ConnectionStates.receiving_eq_some found).1
          obtain ⟨_, continues⟩ := stream.storeData_spec receiving packet clock
          rcases stored : stream.storeData receiving packet clock with
            ⟨next, error | ⟨_ | _, ranges⟩⟩
          · rw [stored] at continues
            simp only [ConnectionStates.receivedDataPacket, found, stored]
            exact after_continues wasOpen rfl (over_of_continues continues) rfl rfl
          · rw [stored] at continues
            simp only [ConnectionStates.receivedDataPacket, found, stored]
            exact after_continues wasOpen rfl (over_of_continues continues) rfl
              (dones_retransmitPackets _ _ _ _)
          · simp only [ConnectionStates.receivedDataPacket, found, stored]
            refine .completes stream wasOpen (released_up rfl) (Bool.or_true _) ?_
            rw [dones_after]
            rfl

theorem recovered_outcome {self : SessionRun} {recovered : Recovered}
    (incomplete : ¬ self.RecoveryCompletes recovered) (clock : Nat → Timestamp) :
    Outcome self (self.handle fun session => session.recoveredPacket recovered clock) := by
  unfold handle
  cases present : self.session with
  | none => exact .idle
  | some session =>
      cases found : session.receiving with
      | none =>
          simp only [ConnectionStates.recoveredPacket, found, ConnectionStates.mismatch]
          rw [after_idle present rfl]
          exact .idle
      | some triple =>
          obtain ⟨established, stream, receiving⟩ := triple
          have wasOpen := openStream_of_session present (ConnectionStates.receiving_eq_some found).1
          obtain ⟨_, continues, done⟩ := stream.storeRecovered_spec receiving recovered clock
          rcases stored : stream.storeRecovered receiving recovered clock with
            ⟨next, error | ⟨_ | _, ranges⟩⟩
          · rw [stored] at continues
            simp only [ConnectionStates.recoveredPacket, found, stored]
            exact after_continues wasOpen rfl (over_of_continues continues) rfl rfl
          · rw [stored] at continues
            simp only [ConnectionStates.recoveredPacket, found, stored]
            exact after_continues wasOpen rfl (over_of_continues continues) rfl
              (dones_retransmitPackets _ _ _ _)
          · rw [stored] at done
            exact absurd ⟨session, established, stream, receiving, present, found,
              done.mp ⟨ranges, rfl⟩⟩ incomplete

/-- A stream that recovered packets complete is closed for the application and still open in
the session. -/
theorem recovered_not_freed {self : SessionRun} {recovered : Recovered}
    (completes : self.RecoveryCompletes recovered) (clock : Nat → Timestamp) :
    ¬ (self.handle fun session => session.recoveredPacket recovered clock).Freed := by
  obtain ⟨session, established, stream, receiving, present, found, finished⟩ := completes
  obtain ⟨_, _, done⟩ := stream.storeRecovered_spec receiving recovered clock
  obtain ⟨ranges, declared⟩ := done.mpr finished
  simp only [handle, present, ConnectionStates.recoveredPacket, found]
  rcases stored : stream.storeRecovered receiving recovered clock with ⟨next, decision⟩
  rw [stored] at declared
  simp only at declared
  rw [declared]
  exact not_freed { next with stream := { next.stream with closed := true } } rfl (Or.inl rfl)

theorem seek_outcome (self : SessionRun) (position : BytePosition) :
    Outcome self (self.modify fun session => (session.seek position).1) := by
  cases present : self.session with
  | none =>
      rw [modify_idle (by rw [present, Option.map_none])]
      exact .idle
  | some session =>
      cases found : session.receiving with
      | none =>
          rw [modify_idle (by rw [present, Option.map_some, ConnectionStates.seek, found])]
          exact .idle
      | some triple =>
          obtain ⟨established, stream, receiving⟩ := triple
          have wasOpen := openStream_of_session present (ConnectionStates.receiving_eq_some found).1
          let next : StreamState := { stream with
            streaming := .streamingFrom
              { receiving with buffer := (receiving.buffer.seekHead position).1 } }
          refine .continues stream next wasOpen ?_ id rfl rfl
          simp only [openStream, modify, present, Option.map_some, Option.bind_some,
            ConnectionStates.seek, found, ConnectionStates.openStream_withStream, Option.map_some, next]

theorem start_outcome {self next : SessionRun} (f : ConnectionStates → ConnectionStates)
    (opens : ∀ established : EstablishedState, established.state = .up ∨ established.state = .down →
      ∃ session stream, (f (.established established)).openStream = some (session, stream) ∧
        stream.stream = .default)
    (started : self.start f = some next) : Outcome self next := by
  unfold start at started
  split at started
  · rename_i established _
    have free : established.state = .up ∨ established.state = .down := by
      split at started
      · exact Or.inl ‹_›
      · exact Or.inr ‹_›
      · cases started
    obtain ⟨session, stream, isOpen, message⟩ := opens established free
    have opened : next = ⟨some (f (.established established)), none, [], false⟩ := by
      split at started
      · exact (Option.some.inj started).symm
      · exact (Option.some.inj started).symm
      · cases started
    subst opened
    refine .opened stream (openStream_of_session rfl isOpen) ?_ rfl rfl
    rw [message]
    rintro (closed | rejected)
    · cases closed
    · cases rejected
  · cases started

theorem track_idle {self : SessionRun} (idle : self.openStream = none) :
    self.session.map ConnectionStates.receivedTrackRejectPacket = self.session := by
  cases present : self.session with
  | none => rfl
  | some session =>
      rw [openStream, present, Option.bind_some, Option.map_eq_none_iff] at idle
      simp only [Option.map_some, ConnectionStates.receivedTrackRejectPacket,
        ConnectionStates.updateMessage, idle]

theorem track_not_freed {self : SessionRun} {stream : StreamState}
    (isOpen : self.openStream = some stream) :
    ¬ (self.modify ConnectionStates.receivedTrackRejectPacket).Freed := by
  obtain ⟨session, established, present, found⟩ := openStream_eq_some isOpen
  refine not_freed { stream with stream := { stream.stream with approved := some false } } ?_
    (Or.inr rfl)
  simp only [openStream, modify, present, Option.map_some, Option.bind_some,
    ConnectionStates.receivedTrackRejectPacket, ConnectionStates.updateMessage, found,
    ConnectionStates.openStream_withStream]

theorem step_outcome {self next : SessionRun} {label : SessionLabel} (sound : self.Sound label)
    (stepped : self.step label = some next) : Outcome self next := by
  cases label with
  | receive buffer =>
      refine start_outcome (fun session => session.streamingFrom buffer .default) ?_ stepped
      rintro established (free | free)
      · simp only [ConnectionStates.streamingFrom, free]
        exact ⟨_, _, rfl, rfl⟩
      · simp only [ConnectionStates.streamingFrom, free]
        exact ⟨_, _, rfl, rfl⟩
  | send buffer =>
      refine start_outcome (fun session => session.streamTo buffer .default) ?_ stepped
      rintro established (free | free)
      · simp only [ConnectionStates.streamTo, free]
        exact ⟨_, _, rfl, rfl⟩
      · simp only [ConnectionStates.streamTo, free]
        exact ⟨_, _, rfl, rfl⟩
  | data packet clock =>
      cases Option.some.inj stepped
      exact data_outcome self packet clock
  | recovered recovered clock =>
      cases Option.some.inj stepped
      exact recovered_outcome sound clock
  | trackReject =>
      cases Option.some.inj stepped
      rw [modify_idle (track_idle sound)]
      exact .idle
  | setComplete allowPartial =>
      cases Option.some.inj stepped
      exact updateMessage_outcome self fun _ isOver => isOver
  | closeStream =>
      cases Option.some.inj stepped
      exact closeStream_outcome self
  | seek position =>
      cases Option.some.inj stepped
      exact seek_outcome self position
  | failedToDeref =>
      cases Option.some.inj stepped
      exact updateMessage_outcome self fun _ isOver => isOver
  | closeSession =>
      cases Option.some.inj stepped
      refine .released ?_ rfl rfl
      intro present gone
      cases gone

/-- A step of a run that has freed every session so far does so again exactly when it is
sound. -/
theorem step_freed_iff {self next : SessionRun} {label : SessionLabel} (freed : self.Freed)
    (stepped : self.step label = some next) : next.Freed ↔ self.Sound label := by
  constructor
  · intro stillFreed
    cases label with
    | trackReject =>
        cases Option.some.inj stepped
        cases isOpen : self.openStream with
        | none => exact isOpen
        | some stream => exact absurd stillFreed (track_not_freed isOpen)
    | recovered recovered clock =>
        cases Option.some.inj stepped
        exact fun completes => recovered_not_freed completes clock stillFreed
    | _ => trivial
  · intro sound
    exact (step_outcome sound stepped).freed freed

theorem fresh_freed {self : SessionRun} (fresh : self.Fresh) : self.Freed := by
  obtain ⟨⟨established, present, up⟩, ended, sent, completed⟩ := fresh
  refine freed_of_released (present ▸ released_up up) ?_
  rw [dones, sent, completed]
  rfl

/-- Along a run of the handlers of a session, a stream that is over for the application has
freed its session and has sent `Done` once if it completed, if and only if no track is rejected
while a stream is open and no recovered packet completes a stream. -/
theorem freed_along_iff (first final : SessionRun) (labels : List SessionLabel)
    (fresh : first.Fresh) (ran : machine.run first labels = some final) :
    machine.HoldsAlong Freed first labels ↔ machine.Guarded Sound first labels :=
  machine.holdsAlong_iff_guarded (fun _ _ _ freed stepped => step_freed_iff freed stepped)
    (fresh_freed fresh) ran

def ofSession : SessionRun where
  session := some (.established ⟨⟨1⟩, .up, ⟨[127, 0, 0, 1], 6969⟩, ⟨[]⟩⟩)
  ended := none
  sent := []
  completed := false

theorem ofSession_fresh : ofSession.Fresh := ⟨⟨_, rfl, rfl⟩, rfl, rfl, rfl⟩

def oneByteBuffer : WriteableBuffer := WriteableBuffer.new (Buffer.ofBytes [0])

def epoch : Nat → Timestamp := fun _ => ⟨0, Timestamp.zero_lt⟩

def oneBytePacket : DataPacket :=
  DataPacket.new Options.none ⟨1⟩ ⟨1, 0, 0⟩ ⟨1⟩ (BytePosition.ofNat 0) [7] (epoch 0)

theorem freed_along_iff_one_byte :
    machine.HoldsAlong Freed ofSession [.receive oneByteBuffer, .data oneBytePacket epoch] ↔
      machine.Guarded Sound ofSession [.receive oneByteBuffer, .data oneBytePacket epoch] :=
  freed_along_iff ofSession _ _ ofSession_fresh rfl

/-- The same chunk, recovered from the parity of its batch, leaves the session occupied by a
stream that the application was told is closed. -/
theorem recovered_stream_keeps_session :
    ∃ final stream, machine.run ofSession
        [.receive oneByteBuffer,
          .recovered ⟨⟨1⟩, ⟨1⟩, [⟨BytePosition.ofNat 0, [7]⟩]⟩ epoch] = some final ∧
      final.openStream = some stream ∧ stream.stream.closed = true ∧ ¬ final.Freed :=
  ⟨_, _, rfl, rfl, rfl, not_freed _ rfl (Or.inl rfl)⟩

end SessionRun
end Ubass

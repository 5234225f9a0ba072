import Mathlib.Data.List.Perm.Basic
import Ubass.Processor.Outbound
import Ubass.Transport.Sockets

/-!
# The outbound transport

`transport/outbound.rs` with the tasks it spawns and the `HandleMonitor` that counts
them.  A packet with a payload waits in the buffer until the window ends, the buffer
is full or the transport closes; any other packet gets a task of its own.

Each task sends when it likes.  Between two steps of the loop any of them may go on.
-/

set_option autoImplicit false

universe u

namespace Ubass

def maxPacketBufferSize : Nat := 128

inductive TransportMessage where
  | sendPacket (packet : ProcessedPacket)
  | close

/-- A packet with the number of the message it came with. -/
structure ReceivedMessage where
  message : Nat
  packet : ProcessedPacket

/-- A call of `send_to`, for the packet of a message. -/
structure SendTo where
  message : Nat
  destAddr : SocketAddr
  data : List UInt8
deriving DecidableEq

namespace ReceivedMessage

def sendTo (self : ReceivedMessage) : SendTo := ⟨self.message, self.packet.destAddr, self.packet.data⟩

def copies (self : ReceivedMessage) : List SendTo :=
  List.replicate self.packet.duplicateCount self.sendTo

end ReceivedMessage

inductive TaskStep where
  /-- The `debug_assert!` of `send_packets`. -/
  | assertDuplicates (duplicateCount : Nat)
  | sendTo (send : SendTo)
deriving DecidableEq

def TaskStep.sends : TaskStep → List SendTo
  | assertDuplicates _ => []
  | sendTo send => [send]

/-- `send_packets`; without debug assertions nothing is asserted. -/
def sendPackets (debugAssertions : Bool) (buffer : List ReceivedMessage) : List TaskStep :=
  buffer.flatMap fun received =>
    (if debugAssertions then [.assertDuplicates received.packet.duplicateCount] else []) ++
      received.copies.map .sendTo

/-- A spawned future, the socket it sends through (`none` is the listening socket) and what it has
still to do.  One that has panicked never ends. -/
structure SendTask (Socket : Type u) where
  socket : Option Socket
  steps : List TaskStep
  panicked : Bool

/-- Where `init` is. -/
inductive TransportPhase where
  | collecting
  /-- `flush`, before it reads the number of running tasks. -/
  | flushing
  /-- `flush`, waiting for a notification. -/
  | waiting
  | returned (ok : Bool)
  | panicked (panic : Panic)
deriving DecidableEq

/-- The state of `init` and its tasks.  The last two fields are history: the packets that have been
received and the calls of `send_to`. -/
structure OutboundTransport (Socket : Type u) where
  sockets : OutboundSockets Socket
  buffer : List ReceivedMessage
  tasks : List (SendTask Socket)
  running : Nat
  notified : Bool
  phase : TransportPhase
  received : List ProcessedPacket
  sent : List SendTo

inductive TransportLabel (Socket : Type u) where
  | receive (message : TransportMessage)
  | channelClosed
  /-- The time is up or the buffer full. -/
  | windowEnd (elapsed : UInt64) (created : Option Socket)
  /-- The next step of a task. -/
  | runTask (index : Nat)
  | loadRunning
  | wakeUp

namespace OutboundTransport

variable {Socket : Type u}

def start (socket : Socket) : OutboundTransport Socket where
  sockets := .new socket
  buffer := []
  tasks := []
  running := 0
  notified := false
  phase := .collecting
  received := []
  sent := []

/-- `HandleMonitor::dispatch` -/
def dispatch (self : OutboundTransport Socket) (socket : Option Socket) (steps : List TaskStep) :
    OutboundTransport Socket :=
  { self with
    tasks := self.tasks ++ [⟨socket, steps, false⟩]
    running := self.running + 1 }

def sendBuffer (debugAssertions : Bool) (self : OutboundTransport Socket) :
    OutboundTransport Socket :=
  match self.buffer, self.sockets.retrieve with
  | [], _ => self
  | buffer, .ok (socket, sockets) =>
      { self with sockets := sockets, buffer := [] }.dispatch (some socket)
        (sendPackets debugAssertions buffer)
  | _, .error panic => { self with buffer := [], phase := .panicked panic }

def buffered : PacketType → Bool
  | .data | .metadata | .parity => true
  | _ => false

def receivePacket (self : OutboundTransport Socket) (packet : ProcessedPacket) :
    OutboundTransport Socket :=
  let received : ReceivedMessage := ⟨self.received.length, packet⟩
  let self := { self with received := self.received ++ [packet] }
  match packet.packetType with
  | .data | .metadata | .parity => { self with buffer := self.buffer ++ [received] }
  | .host | .keepAlive => self.dispatch none [.sendTo received.sendTo]
  | _ =>
      match self.sockets.retrieve with
      | .ok (socket, sockets) =>
          { self with sockets := sockets }.dispatch (some socket) [.sendTo received.sendTo]
      | .error panic => { self with phase := .panicked panic }

def close (debugAssertions : Bool) (self : OutboundTransport Socket) : OutboundTransport Socket :=
  let sending := self.sendBuffer debugAssertions
  match sending.phase with
  | .panicked _ => sending
  | _ => { sending with phase := .flushing }

def windowEnd (profile : Profile) (debugAssertions : Bool) (self : OutboundTransport Socket)
    (elapsed : UInt64) (created : Option Socket) : OutboundTransport Socket :=
  match self.sockets.update profile elapsed created with
  | .ok (sockets, _) => { self with sockets := sockets }.sendBuffer debugAssertions
  | .error panic => { self with phase := .panicked panic }

/-- A task ends: `fetch_sub`, and `notify_one` when it was the last. -/
def endTask (self : OutboundTransport Socket) (index : Nat) : OutboundTransport Socket :=
  { self with
    tasks := self.tasks.eraseIdx index
    running := self.running - 1
    notified := self.notified || self.running = 1 }

def runTask (self : OutboundTransport Socket) (index : Nat) (task : SendTask Socket) :
    OutboundTransport Socket :=
  match task.steps with
  | [] => self.endTask index
  | .assertDuplicates 0 :: rest =>
      { self with tasks := self.tasks.set index { task with steps := rest, panicked := true } }
  | .assertDuplicates _ :: rest =>
      { self with tasks := self.tasks.set index { task with steps := rest } }
  | .sendTo send :: rest =>
      { self with
        tasks := self.tasks.set index { task with steps := rest }
        sent := self.sent ++ [send] }

/-- `while self.running.load() != 0` of `flush`. -/
def loadRunning (self : OutboundTransport Socket) : OutboundTransport Socket :=
  { self with phase := if self.running = 0 then .returned true else .waiting }

/-- Tasks go on even when `init` has stopped. -/
def machine (Socket : Type u) (profile : Profile) (debugAssertions : Bool) :
    Machine (OutboundTransport Socket) (TransportLabel Socket) where
  initial state := ∃ socket, state = start socket
  step state
    | .receive message =>
        if state.phase = .collecting ∧ state.buffer.length < maxPacketBufferSize then
          match message with
          | .sendPacket packet => some (state.receivePacket packet)
          | .close => some (state.close debugAssertions)
        else none
    | .channelClosed =>
        if state.phase = .collecting then some { state with phase := .returned false } else none
    | .windowEnd elapsed created =>
        if state.phase = .collecting then
          some (state.windowEnd profile debugAssertions elapsed created)
        else none
    | .runTask index =>
        match state.tasks[index]? with
        | some task => if task.panicked then none else some (state.runTask index task)
        | none => none
    | .loadRunning => if state.phase = .flushing then some state.loadRunning else none
    | .wakeUp =>
        if state.phase = .waiting ∧ state.notified = true then
          some { state with notified := false, phase := .flushing }
        else none

/-- Of the packets that the packet processor hands over, those that wait in the buffer are to be
sent once and all others more often. -/
theorem duplicateCount_of_transmit {Key : Type u} {aead : Aead Key}
    {table after : EncryptionTable Key} {packet : WirePacket} {addr : SocketAddr}
    {processed : ProcessedPacket}
    (handed : Outbound.transmit aead table packet addr = .ok (processed, after)) :
    processed.duplicateCount = 1 ↔ buffered processed.packetType = true := by
  cases packet with
  | keyed packet => cases packet <;> cases handed <;> simp [buffered]
  | _ => cases handed; simp [buffered]

/-! ## What is owed -/

def asked (received : List ProcessedPacket) : List SendTo :=
  received.zipIdx.flatMap fun (packet, message) => ReceivedMessage.copies ⟨message, packet⟩

def taskSends (task : SendTask Socket) : List SendTo := task.steps.flatMap TaskStep.sends

def owed (state : OutboundTransport Socket) : List SendTo :=
  state.tasks.flatMap taskSends ++ state.buffer.flatMap ReceivedMessage.copies

theorem asked_append (received : List ProcessedPacket) (packet : ProcessedPacket) :
    asked (received ++ [packet]) =
      asked received ++ ReceivedMessage.copies ⟨received.length, packet⟩ := by
  simp [asked, List.zipIdx_append]

theorem count_asked (received : List ProcessedPacket) (send : SendTo) :
    (asked received).count send =
      match received[send.message]? with
      | some packet =>
          if ReceivedMessage.sendTo ⟨send.message, packet⟩ = send then packet.duplicateCount else 0
      | none => 0 := by
  induction received using List.reverseRecOn with
  | nil => simp [asked]
  | append_singleton received last ih =>
      rw [asked_append, List.count_append, ih, ReceivedMessage.copies, List.count_replicate]
      rcases Nat.lt_trichotomy send.message received.length with before | same | behind
      · have other : ReceivedMessage.sendTo ⟨received.length, last⟩ ≠ send := by
          rintro rfl
          exact Nat.lt_irrefl _ before
        rw [List.getElem?_append_left before]
        simp [other]
      · rw [same, List.getElem?_eq_none (Nat.le_refl _), List.getElem?_concat_length]
        simp
      · have other : ReceivedMessage.sendTo ⟨received.length, last⟩ ≠ send := by
          rintro rfl
          exact Nat.lt_irrefl _ behind
        rw [List.getElem?_eq_none (Nat.le_of_lt behind), List.getElem?_eq_none (by simp; omega)]
        simp [other]

theorem count_asked_of_received {received : List ProcessedPacket} {message : Nat}
    {packet : ProcessedPacket} (found : received[message]? = some packet) :
    (asked received).count (ReceivedMessage.sendTo ⟨message, packet⟩) = packet.duplicateCount := by
  have same : received[(ReceivedMessage.sendTo ⟨message, packet⟩).message]? = some packet := found
  rw [count_asked, same]
  exact if_pos rfl

theorem sends_sendPackets (debugAssertions : Bool) (buffer : List ReceivedMessage) :
    (sendPackets debugAssertions buffer).flatMap TaskStep.sends =
      buffer.flatMap ReceivedMessage.copies := by
  induction buffer with
  | nil => rfl
  | cons received rest ih =>
      have copies : (received.copies.map TaskStep.sendTo).flatMap TaskStep.sends =
          received.copies := by
        simp [List.flatMap_map, TaskStep.sends]
      rw [sendPackets, List.flatMap_cons, List.flatMap_append, List.flatMap_append, copies,
        List.flatMap_cons, ← ih]
      cases debugAssertions <;> simp [TaskStep.sends, sendPackets]

/-! ## Which messages are sent as often as they say -/

def Retrieves (sockets : OutboundSockets Socket) : Prop :=
  sockets.currentSocket < sockets.sockets.length

/-- A packet that waits in the buffer may not have the count 0 where that is asserted; any other
one has the count 1, and one that goes through the pool finds a socket.  So does the buffer. -/
def Fits (profile : Profile) (debugAssertions : Bool) (state : OutboundTransport Socket) :
    TransportLabel Socket → Prop
  | .receive (.sendPacket packet) =>
      if buffered packet.packetType then debugAssertions = true → packet.duplicateCount ≠ 0
      else
        packet.duplicateCount = 1 ∧
          (packet.packetType ≠ .host → packet.packetType ≠ .keepAlive → Retrieves state.sockets)
  | .receive .close => state.buffer ≠ [] → Retrieves state.sockets
  | .windowEnd elapsed created => ∃ result, state.sockets.update profile elapsed created = .ok result ∧
      (state.buffer ≠ [] → Retrieves result.1)
  | _ => True

theorem fits_windowEnd {profile : Profile} (debugAssertions : Bool)
    {state : OutboundTransport Socket} {elapsed : UInt64} {created : Option Socket}
    (indexed : state.sockets.Indexed)
    (keeps : OutboundSockets.KeepsCurrent profile (.ok state.sockets) (.update elapsed created))
    (unchecked : ¬ (profile = .overflowChecks ∧ state.sockets.updateOverflows elapsed = true)) :
    Fits profile debugAssertions state (.windowEnd elapsed created) := by
  obtain ⟨result, updated, after⟩ :=
    OutboundSockets.update_of_keepsCurrent indexed keeps unchecked
  exact ⟨result, updated, fun _ => after.current⟩

structure Kept (debugAssertions : Bool) (state : OutboundTransport Socket) : Prop where
  alive : ∀ panic, state.phase ≠ .panicked panic
  accounts : ∀ send, state.sent.count send + state.owed.count send =
    (asked state.received).count send
  running : state.running = state.tasks.length
  healthy : ∀ task ∈ state.tasks, task.panicked = false ∧ TaskStep.assertDuplicates 0 ∉ task.steps
  asserted : debugAssertions = true →
    ∀ received ∈ state.buffer, received.packet.duplicateCount ≠ 0
  emptied : state.phase ≠ .collecting → state.phase ≠ .returned false → state.buffer = []
  woken : state.phase = .waiting → state.running = 0 → state.notified = true
  done : state.phase = .returned true → state.tasks = []

variable {profile : Profile} {debugAssertions : Bool} {state next : OutboundTransport Socket}

theorem start_kept (socket : Socket) : (start socket).Kept debugAssertions := by
  constructor <;> simp [start, owed, asked]

theorem retrieve_of_retrieves {sockets : OutboundSockets Socket} (retrieves : Retrieves sockets) :
    ∃ socket, sockets.retrieve = .ok (socket, sockets.nextSocket) := by
  have indexed : sockets.Indexed := ⟨Nat.zero_lt_of_lt retrieves, retrieves⟩
  obtain ⟨socket, _, retrieved⟩ := OutboundSockets.retrieve_of_indexed indexed
  exact ⟨socket, retrieved⟩

/-- A task is dispatched while packets are collected: it makes the calls of the packets that leave
the buffer, and of those that have just been received. -/
theorem dispatch_kept (kept : state.Kept debugAssertions) (collecting : state.phase = .collecting)
    (sockets : OutboundSockets Socket) {buffer : List ReceivedMessage}
    {received : List ProcessedPacket} (socket : Option Socket) {steps : List TaskStep}
    (within : ∀ message ∈ buffer, message ∈ state.buffer)
    (asserted : TaskStep.assertDuplicates 0 ∉ steps)
    (accounts : ∀ send, (steps.flatMap TaskStep.sends).count send +
        (buffer.flatMap ReceivedMessage.copies).count send + (asked state.received).count send =
      (state.buffer.flatMap ReceivedMessage.copies).count send + (asked received).count send) :
    (({ state with sockets := sockets, buffer := buffer, received := received } :
      OutboundTransport Socket).dispatch socket steps).Kept debugAssertions := by
  constructor
  · exact kept.alive
  · intro send
    have before := kept.accounts send
    have moved := accounts send
    simp only [owed, dispatch, List.flatMap_append, List.count_append, List.flatMap_cons,
      List.flatMap_nil, List.append_nil, taskSends] at before ⊢
    omega
  · simp [dispatch, kept.running]
  · intro task listed
    rcases List.mem_append.mp listed with before | last
    · exact kept.healthy task before
    · cases List.mem_singleton.mp last
      exact ⟨rfl, asserted⟩
  · intro debug message listed
    exact kept.asserted debug message (within message listed)
  · intro notCollecting
    exact absurd collecting notCollecting
  · intro waiting
    exact absurd (collecting.symm.trans waiting) (by simp)
  · intro returned
    exact absurd (collecting.symm.trans returned) (by simp)

theorem not_mem_sendPackets {buffer : List ReceivedMessage}
    (asserted : debugAssertions = true → ∀ received ∈ buffer, received.packet.duplicateCount ≠ 0) :
    TaskStep.assertDuplicates 0 ∉ sendPackets debugAssertions buffer := by
  intro listed
  obtain ⟨received, inBuffer, own⟩ := List.mem_flatMap.mp listed
  rcases List.mem_append.mp own with check | call
  · cases debugAssertions with
    | false => cases check
    | true =>
        rw [if_pos rfl, List.mem_singleton, TaskStep.assertDuplicates.injEq] at check
        exact asserted rfl received inBuffer check.symm
  · obtain ⟨_, _, same⟩ := List.mem_map.mp call
    cases same

theorem sendBuffer_kept (kept : state.Kept debugAssertions)
    (collecting : state.phase = .collecting)
    (retrieves : state.buffer ≠ [] → Retrieves state.sockets) :
    (state.sendBuffer debugAssertions).Kept debugAssertions ∧
      (state.sendBuffer debugAssertions).phase = .collecting ∧
      (state.sendBuffer debugAssertions).buffer = [] := by
  rw [sendBuffer]
  cases buffer : state.buffer with
  | nil => exact ⟨kept, collecting, buffer⟩
  | cons first rest =>
      obtain ⟨socket, retrieved⟩ := retrieve_of_retrieves (retrieves (by simp [buffer]))
      rw [retrieved]
      refine ⟨?_, collecting, rfl⟩
      have asserted := not_mem_sendPackets kept.asserted
      rw [buffer] at asserted
      apply dispatch_kept kept collecting _ (some socket) (by simp) asserted
      intro send
      rw [sends_sendPackets, buffer]
      simp

theorem receivePacket_kept (kept : state.Kept debugAssertions)
    (collecting : state.phase = .collecting) {packet : ProcessedPacket}
    (fits : Fits profile debugAssertions state (.receive (.sendPacket packet))) :
    (state.receivePacket packet).Kept debugAssertions := by
  have single : ∀ socket sockets, packet.duplicateCount = 1 →
      (({ state with sockets := sockets, received := state.received ++ [packet] } :
        OutboundTransport Socket).dispatch socket
          [.sendTo (ReceivedMessage.sendTo ⟨state.received.length, packet⟩)]).Kept
          debugAssertions := by
    intro socket sockets once
    apply dispatch_kept kept collecting sockets socket (fun _ listed => listed) (by simp)
    intro send
    simp [asked_append, ReceivedMessage.copies, once, TaskStep.sends]
    omega
  have pooled : packet.duplicateCount = 1 → Retrieves state.sockets →
      (match state.sockets.retrieve with
        | .ok (socket, sockets) =>
            ({ state with sockets := sockets, received := state.received ++ [packet] } :
              OutboundTransport Socket).dispatch (some socket)
              [.sendTo (ReceivedMessage.sendTo ⟨state.received.length, packet⟩)]
        | .error panic =>
            { state with received := state.received ++ [packet], phase := .panicked panic }).Kept
        debugAssertions := by
    intro once retrieves
    obtain ⟨socket, retrieved⟩ := retrieve_of_retrieves retrieves
    rw [retrieved]
    exact single (some socket) _ once
  have waits : (debugAssertions = true → packet.duplicateCount ≠ 0) →
      ({ state with
        received := state.received ++ [packet]
        buffer := state.buffer ++ [⟨state.received.length, packet⟩] } :
        OutboundTransport Socket).Kept debugAssertions := by
    intro asserted
    constructor
    · exact kept.alive
    · intro send
      have before := kept.accounts send
      simp only [owed, List.flatMap_append, List.count_append, List.flatMap_cons,
        List.flatMap_nil, List.append_nil, asked_append] at before ⊢
      omega
    · exact kept.running
    · exact kept.healthy
    · intro debug message listed
      rcases List.mem_append.mp listed with before | last
      · exact kept.asserted debug message before
      · cases List.mem_singleton.mp last
        exact asserted debug
    · intro notCollecting
      exact absurd collecting notCollecting
    · exact kept.woken
    · exact kept.done
  cases type : packet.packetType <;>
    simp only [Fits, type, buffered, if_true, if_false, Bool.false_eq_true] at fits <;>
    simp only [receivePacket, type]
  case data => exact waits fits
  case metadata => exact waits fits
  case parity => exact waits fits
  case host => exact single none _ fits.1
  case keepAlive => exact single none _ fits.1
  all_goals exact pooled fits.1 (fits.2 (by simp) (by simp))

theorem close_kept (kept : state.Kept debugAssertions) (collecting : state.phase = .collecting)
    (retrieves : state.buffer ≠ [] → Retrieves state.sockets) :
    (state.close debugAssertions).Kept debugAssertions := by
  obtain ⟨sent, phase, empty⟩ := sendBuffer_kept kept collecting retrieves
  simp only [close, phase]
  constructor
  · simp
  · exact sent.accounts
  · exact sent.running
  · exact sent.healthy
  · exact sent.asserted
  · intro _ _
    exact empty
  · simp
  · simp

theorem windowEnd_kept (kept : state.Kept debugAssertions) (collecting : state.phase = .collecting)
    {elapsed : UInt64} {created : Option Socket}
    (fits : Fits profile debugAssertions state (.windowEnd elapsed created)) :
    (state.windowEnd profile debugAssertions elapsed created).Kept debugAssertions := by
  obtain ⟨⟨sockets, ok⟩, updated, retrieves⟩ := fits
  have same : ({ state with sockets := sockets } : OutboundTransport Socket).Kept
      debugAssertions :=
    ⟨kept.alive, kept.accounts, kept.running, kept.healthy, kept.asserted, kept.emptied,
      kept.woken, kept.done⟩
  rw [windowEnd, updated]
  exact (sendBuffer_kept same collecting retrieves).1

/-! ### The tasks -/

theorem split_tasks {tasks : List (SendTask Socket)} {index : Nat} {task : SendTask Socket}
    (found : tasks[index]? = some task) :
    ∃ before behind, tasks = before ++ task :: behind ∧
      tasks.eraseIdx index = before ++ behind ∧
      ∀ other, tasks.set index other = before ++ other :: behind := by
  obtain ⟨inside, rfl⟩ := List.getElem?_eq_some_iff.mp found
  refine ⟨tasks.take index, tasks.drop (index + 1), ?_, ?_, ?_⟩
  · rw [List.getElem_cons_drop, List.take_append_drop]
  · exact List.eraseIdx_eq_take_drop_succ tasks index
  · intro other
    exact List.set_eq_take_append_cons_drop.trans (if_pos inside)

theorem taskStep_kept (kept : state.Kept debugAssertions) {index : Nat} {task : SendTask Socket}
    (found : state.tasks[index]? = some task) {step : TaskStep} {rest : List TaskStep}
    (steps : task.steps = step :: rest) :
    ({ state with
      tasks := state.tasks.set index { task with steps := rest }
      sent := state.sent ++ step.sends } : OutboundTransport Socket).Kept debugAssertions := by
  obtain ⟨before, behind, tasks, _, replaced⟩ := split_tasks found
  have healthy := kept.healthy task (by simp [tasks])
  constructor
  · exact kept.alive
  · intro send
    have accounts := kept.accounts send
    rw [owed, tasks] at accounts
    simp only [owed, replaced]
    simp only [List.flatMap_append, List.flatMap_cons, List.count_append, taskSends, steps]
      at accounts ⊢
    omega
  · rw [List.length_set]
    exact kept.running
  · intro other listed
    rcases List.mem_or_eq_of_mem_set listed with same | rfl
    · exact kept.healthy other same
    · rw [steps] at healthy
      exact ⟨healthy.1, List.not_mem_of_not_mem_cons healthy.2⟩
  · exact kept.asserted
  · exact kept.emptied
  · exact kept.woken
  · intro returned
    have none := kept.done returned
    simp [none] at tasks

theorem endTask_kept (kept : state.Kept debugAssertions) {index : Nat} {task : SendTask Socket}
    (found : state.tasks[index]? = some task) (steps : task.steps = []) :
    (state.endTask index).Kept debugAssertions := by
  obtain ⟨before, behind, tasks, erased, _⟩ := split_tasks found
  have running := kept.running
  constructor
  · exact kept.alive
  · intro send
    have accounts := kept.accounts send
    rw [owed, tasks] at accounts
    simp only [owed, endTask, erased]
    simpa [taskSends, steps] using accounts
  · simp only [endTask, erased, running]
    simp [tasks]
  · intro other listed
    exact kept.healthy other (List.mem_of_mem_eraseIdx listed)
  · exact kept.asserted
  · exact kept.emptied
  · intro waiting last
    simp only [endTask] at last ⊢
    simp only [tasks, List.length_append, List.length_cons] at running
    have one : state.running = 1 := by omega
    simp [one]
  · intro returned
    have none := kept.done returned
    simp [none] at tasks

theorem runTask_kept (kept : state.Kept debugAssertions) {index : Nat} {task : SendTask Socket}
    (found : state.tasks[index]? = some task) :
    (state.runTask index task).Kept debugAssertions := by
  have healthy := kept.healthy task (List.mem_of_getElem? found)
  cases steps : task.steps with
  | nil =>
      simp only [runTask, steps]
      exact endTask_kept kept found steps
  | cons step rest =>
      have kept := taskStep_kept kept found steps
      match step, steps with
      | .sendTo send, steps =>
          simp only [runTask, steps]
          exact kept
      | .assertDuplicates 0, steps =>
          rw [steps] at healthy
          exact absurd List.mem_cons_self healthy.2
      | .assertDuplicates (count + 1), steps =>
          simp only [TaskStep.sends, List.append_nil] at kept
          simp only [runTask, steps]
          exact kept

theorem step_kept (state : OutboundTransport Socket) (label : TransportLabel Socket)
    (next : OutboundTransport Socket) (kept : state.Kept debugAssertions)
    (fits : Fits profile debugAssertions state label)
    (stepped : (machine Socket profile debugAssertions).step state label = some next) :
    next.Kept debugAssertions := by
  cases label with
  | receive message =>
      simp only [machine, Option.ite_none_right_eq_some] at stepped
      obtain ⟨⟨collecting, _⟩, stepped⟩ := stepped
      cases message with
      | sendPacket packet =>
          cases stepped
          exact receivePacket_kept kept collecting fits
      | close =>
          cases stepped
          exact close_kept kept collecting fits
  | channelClosed =>
      simp only [machine, Option.ite_none_right_eq_some, Option.some.injEq] at stepped
      obtain ⟨collecting, rfl⟩ := stepped
      exact ⟨by simp, kept.accounts, kept.running, kept.healthy, kept.asserted, by simp, by simp,
        by simp⟩
  | windowEnd elapsed created =>
      simp only [machine, Option.ite_none_right_eq_some, Option.some.injEq] at stepped
      obtain ⟨collecting, rfl⟩ := stepped
      exact windowEnd_kept kept collecting fits
  | runTask index =>
      simp only [machine] at stepped
      cases found : state.tasks[index]? with
      | none => simp [found] at stepped
      | some task =>
          simp only [found, Option.ite_none_left_eq_some, Option.some.injEq] at stepped
          obtain ⟨_, rfl⟩ := stepped
          exact runTask_kept kept found
  | loadRunning =>
      simp only [machine, Option.ite_none_right_eq_some, Option.some.injEq] at stepped
      obtain ⟨flushing, rfl⟩ := stepped
      have empty := kept.emptied (by simp [flushing]) (by simp [flushing])
      rw [loadRunning]
      by_cases idle : state.running = 0
      · have noTasks : state.tasks = [] := by
          rw [← List.length_eq_zero_iff, ← kept.running, idle]
        exact ⟨by simp [idle], kept.accounts, kept.running, kept.healthy, kept.asserted,
          fun _ _ => empty, by simp [idle], fun _ => noTasks⟩
      · exact ⟨by simp [idle], kept.accounts, kept.running, kept.healthy, kept.asserted,
          fun _ _ => empty, fun _ none => absurd none idle, by simp [idle]⟩
  | wakeUp =>
      simp only [machine, Option.ite_none_right_eq_some, Option.some.injEq] at stepped
      obtain ⟨⟨waiting, _⟩, rfl⟩ := stepped
      have empty := kept.emptied (by simp [waiting]) (by simp [waiting])
      exact ⟨by simp, kept.accounts, kept.running, kept.healthy, kept.asserted, fun _ _ => empty,
        by simp, by simp⟩

/-! ## What is sent -/

def sentFor (state : OutboundTransport Socket) (message : Nat) : List SendTo :=
  state.sent.filter fun send => send.message = message

/-- All calls for a message are calls for its packet, and there are as many as have been counted. -/
theorem Kept.sentFor_eq (kept : state.Kept debugAssertions) {message : Nat}
    {packet : ProcessedPacket} (received : state.received[message]? = some packet) :
    ∃ issued, issued ≤ packet.duplicateCount ∧
      issued + state.owed.count (ReceivedMessage.sendTo ⟨message, packet⟩) =
        packet.duplicateCount ∧
      state.sentFor message = List.replicate issued (ReceivedMessage.sendTo ⟨message, packet⟩) := by
  have own := kept.accounts (ReceivedMessage.sendTo ⟨message, packet⟩)
  rw [count_asked_of_received received] at own
  refine ⟨state.sent.count (ReceivedMessage.sendTo ⟨message, packet⟩), by omega, own, ?_⟩
  · rw [List.eq_replicate_iff]
    have only : ∀ send ∈ state.sentFor message,
        send = ReceivedMessage.sendTo ⟨message, packet⟩ := by
      intro send listed
      obtain ⟨sent, isOwn⟩ := List.mem_filter.mp listed
      have counted := kept.accounts send
      have positive : 0 < state.sent.count send := List.count_pos_iff.mpr sent
      rw [count_asked, of_decide_eq_true isOwn, received] at counted
      simp only at counted
      split at counted
      · rename_i same
        exact same.symm
      · omega
    refine ⟨?_, only⟩
    have all : (state.sentFor message).count (ReceivedMessage.sendTo ⟨message, packet⟩) =
        (state.sentFor message).length :=
      List.count_eq_length.mpr fun send listed => (only send listed).symm
    rw [← all, sentFor, List.count_filter]
    simp [ReceivedMessage.sendTo]

theorem Kept.message_lt (kept : state.Kept debugAssertions) {send : SendTo}
    (sent : send ∈ state.sent) : send.message < state.received.length := by
  by_contra beyond
  have counted := kept.accounts send
  have positive : 0 < state.sent.count send := List.count_pos_iff.mpr sent
  rw [count_asked, List.getElem?_eq_none (Nat.le_of_not_lt beyond)] at counted
  simp only at counted
  omega

/-! ## The shutdown -/

/-- `Close` has been received. -/
def Closing (state : OutboundTransport Socket) : Prop :=
  state.phase = .flushing ∨ state.phase = .waiting ∨ state.phase = .returned true

def phaseWork : TransportPhase → Nat
  | .flushing => 2
  | .waiting => 1
  | _ => 0

def work (state : OutboundTransport Socket) : Nat :=
  3 * (state.tasks.map fun task => task.steps.length + 1).sum +
    (if state.notified then 2 else 0) + phaseWork state.phase

theorem runTask_work (kept : state.Kept debugAssertions) {index : Nat} {task : SendTask Socket}
    (found : state.tasks[index]? = some task) :
    (state.runTask index task).work < state.work ∧
      (state.runTask index task).phase = state.phase := by
  obtain ⟨before, behind, tasks, erased, replaced⟩ := split_tasks found
  have healthy := kept.healthy task (List.mem_of_getElem? found)
  cases steps : task.steps with
  | nil =>
      simp only [runTask, steps, endTask, work, erased, and_true]
      simp only [tasks, List.map_append, List.map_cons, List.sum_append, List.sum_cons, steps,
        List.length_nil]
      split_ifs <;> omega
  | cons step rest =>
      have less : 3 * ((state.tasks.set index { task with steps := rest }).map fun task =>
          task.steps.length + 1).sum <
          3 * (state.tasks.map fun task => task.steps.length + 1).sum := by
        rw [replaced]
        simp only [tasks, List.map_append, List.map_cons, List.sum_append, List.sum_cons, steps,
          List.length_cons]
        omega
      match step, steps with
      | .sendTo send, steps =>
          simp only [runTask, steps, work, and_true]
          omega
      | .assertDuplicates 0, steps =>
          rw [steps] at healthy
          exact absurd List.mem_cons_self healthy.2
      | .assertDuplicates (count + 1), steps =>
          simp only [runTask, steps, work, and_true]
          omega

theorem closing_step (state : OutboundTransport Socket) (label : TransportLabel Socket)
    (next : OutboundTransport Socket) (closing : state.Closing ∧ state.Kept debugAssertions)
    (stepped : (machine Socket profile debugAssertions).step state label = some next) :
    (next.Closing ∧ next.Kept debugAssertions) ∧ next.work < state.work := by
  obtain ⟨closing, kept⟩ := closing
  have closed : state.phase ≠ .collecting := by
    rcases closing with phase | phase | phase <;> simp [phase]
  cases label with
  | receive message | channelClosed | windowEnd elapsed created =>
      simp [machine, closed] at stepped
  | runTask index =>
      have nextKept := step_kept state (.runTask index) next kept trivial stepped
      simp only [machine] at stepped
      cases found : state.tasks[index]? with
      | none => simp [found] at stepped
      | some task =>
          simp only [found, Option.ite_none_left_eq_some, Option.some.injEq] at stepped
          obtain ⟨_, rfl⟩ := stepped
          obtain ⟨less, phase⟩ := runTask_work kept found
          refine ⟨⟨?_, nextKept⟩, less⟩
          rw [Closing, phase]
          exact closing
  | loadRunning =>
      have nextKept := step_kept state .loadRunning next kept trivial stepped
      simp only [machine, Option.ite_none_right_eq_some, Option.some.injEq] at stepped
      obtain ⟨flushing, rfl⟩ := stepped
      refine ⟨⟨?_, nextKept⟩, ?_⟩
      · rw [Closing, loadRunning]
        split_ifs <;> simp
      · by_cases idle : state.running = 0 <;> simp [work, loadRunning, flushing, idle, phaseWork]
  | wakeUp =>
      have nextKept := step_kept state .wakeUp next kept trivial stepped
      simp only [machine, Option.ite_none_right_eq_some, Option.some.injEq] at stepped
      obtain ⟨⟨waiting, notified⟩, rfl⟩ := stepped
      refine ⟨⟨Or.inl rfl, nextKept⟩, ?_⟩
      simp [work, waiting, notified, phaseWork]

theorem returned_of_halted (closing : state.Closing) (kept : state.Kept debugAssertions)
    (halted : (machine Socket profile debugAssertions).Halted state) :
    state.phase = .returned true := by
  rcases closing with flushing | waiting | returned
  · have moves := halted .loadRunning
    simp [machine, flushing] at moves
  · cases tasks : state.tasks with
    | nil =>
        have idle : state.running = 0 := by rw [kept.running, tasks]; rfl
        have moves := halted .wakeUp
        simp [machine, waiting, kept.woken waiting idle] at moves
    | cons task rest =>
        have healthy := (kept.healthy task (by simp [tasks])).1
        have moves := halted (.runTask 0)
        simp [machine, tasks, healthy] at moves
  · exact returned

/-- The transport sends what it is told: it does not panic; what has been sent for a packet went to
its address, and not more often than the packet says; nothing else is sent; `init` returns `Ok` only
when everything has been sent; and once it has received `Close` it does return, after so many steps
at most. -/
structure SendsAll (profile : Profile) (debugAssertions : Bool)
    (state : OutboundTransport Socket) : Prop where
  alive : ∀ panic, state.phase ≠ .panicked panic
  atMost : ∀ message packet, state.received[message]? = some packet →
    ∃ issued, issued ≤ packet.duplicateCount ∧
      state.sentFor message = List.replicate issued ⟨message, packet.destAddr, packet.data⟩
  nothingElse : ∀ send ∈ state.sent, send.message < state.received.length
  complete : state.phase = .returned true →
    ∀ message packet, state.received[message]? = some packet →
      state.sentFor message =
        List.replicate packet.duplicateCount ⟨message, packet.destAddr, packet.data⟩
  returns : state.Closing → ∀ labels next,
    (machine Socket profile debugAssertions).run state labels = some next →
      labels.length ≤ state.work ∧
        ((machine Socket profile debugAssertions).Halted next → next.phase = .returned true)

theorem Kept.sendsAll (kept : state.Kept debugAssertions) :
    state.SendsAll profile debugAssertions := by
  constructor
  · exact kept.alive
  · intro message packet received
    obtain ⟨issued, atMost, _, sent⟩ := kept.sentFor_eq received
    exact ⟨issued, atMost, sent⟩
  · intro send sent
    exact kept.message_lt sent
  · intro returned message packet received
    obtain ⟨issued, _, all, sent⟩ := kept.sentFor_eq received
    have nothing : state.owed = [] := by
      rw [owed, kept.done returned, kept.emptied (by simp [returned]) (by simp [returned])]
      rfl
    rw [nothing, List.count_nil, Nat.add_zero] at all
    rw [sent, all]
    rfl
  · intro closing labels next ran
    obtain ⟨⟨nextClosing, nextKept⟩, bound⟩ :=
      (machine Socket profile debugAssertions).length_run_le_of_invariant closing_step
        ⟨closing, kept⟩ ran
    refine ⟨by omega, ?_⟩
    exact returned_of_halted nextClosing nextKept

/-- In every run in which every packet that does not wait in the buffer is to be sent once, and
every packet and buffer finds a socket, the transport sends what it is told. -/
theorem transport_sendsAll (profile : Profile) (debugAssertions : Bool) (socket : Socket)
    {labels : List (TransportLabel Socket)} {state : OutboundTransport Socket}
    (guarded : (machine Socket profile debugAssertions).Guarded (Fits profile debugAssertions)
      (start socket) labels)
    (ran : (machine Socket profile debugAssertions).run (start socket) labels = some state) :
    state.SendsAll profile debugAssertions :=
  ((machine Socket profile debugAssertions).guarded_run_preserves step_kept (start_kept socket)
    guarded ran).sendsAll

def onePacket (packetType : PacketType) (duplicateCount : Nat) : ProcessedPacket :=
  ⟨⟨[127, 0, 0, 1], 9⟩, packetType, [7], duplicateCount⟩

def shutdown : List (TransportLabel Nat) :=
  [.loadRunning, .runTask 0, .runTask 0, .wakeUp, .loadRunning]

def sendAndClose (packet : ProcessedPacket) : List (TransportLabel Nat) :=
  .receive (.sendPacket packet) :: .receive .close :: shutdown

/-- A window with two packets, a packet that does not wait, and a last packet in the buffer when the
transport is closed. -/
def windowAndClose : List (TransportLabel Nat) :=
  [.receive (.sendPacket (onePacket .data 1)), .receive (.sendPacket (onePacket .parity 1)),
    .windowEnd 3 none, .receive (.sendPacket (onePacket .session 1)), .runTask 0, .runTask 1,
    .receive (.sendPacket (onePacket .metadata 1)), .receive .close, .loadRunning, .runTask 1,
    .runTask 0, .runTask 0, .runTask 0, .runTask 0, .runTask 0, .runTask 0, .runTask 0, .wakeUp,
    .loadRunning]

theorem windowAndClose_fits :
    (machine Nat .overflowChecks true).Guarded (Fits .overflowChecks true) (start 0)
      windowAndClose := by
  refine ⟨fun _ => Nat.one_ne_zero, fun _ stepped => ?_⟩
  cases stepped
  refine ⟨fun _ => Nat.one_ne_zero, fun _ stepped => ?_⟩
  cases stepped
  refine ⟨⟨_, rfl, fun _ => Nat.one_pos⟩, fun _ stepped => ?_⟩
  cases stepped
  refine ⟨⟨rfl, fun _ _ => Nat.one_pos⟩, fun _ stepped => ?_⟩
  cases stepped
  refine ⟨trivial, fun _ stepped => ?_⟩
  cases stepped
  refine ⟨trivial, fun _ stepped => ?_⟩
  cases stepped
  refine ⟨fun _ => Nat.one_ne_zero, fun _ stepped => ?_⟩
  cases stepped
  refine ⟨fun _ => Nat.one_pos, fun _ _ => ?_⟩
  apply Machine.guarded_of_forall
  intro label listed state
  simp only [List.mem_cons, List.not_mem_nil, or_false] at listed
  rcases listed with rfl | rfl | rfl | rfl | rfl | rfl | rfl | rfl | rfl | rfl | rfl <;>
    exact trivial

theorem transport_sendsAll_window :
    ∃ state, (machine Nat .overflowChecks true).run (start 0) windowAndClose = some state ∧
      state.phase = .returned true ∧ state.sent.length = 4 ∧
      state.SendsAll .overflowChecks true := by
  have facts : ((machine Nat .overflowChecks true).run (start 0) windowAndClose).map (fun state =>
      (state.phase, state.sent.length)) = some (.returned true, 4) := by
    decide +kernel
  obtain ⟨state, ran, values⟩ := Option.map_eq_some_iff.mp facts
  obtain ⟨returned, sent⟩ := Prod.mk.inj values
  exact ⟨state, ran, returned, sent,
    transport_sendsAll .overflowChecks true 0 windowAndClose_fits ran⟩

/-- A packet that is to be sent seven times is sent once. -/
theorem host_sent_once :
    ∃ state, (machine Nat .release false).run (start 0)
        (sendAndClose (onePacket .host 7)) = some state ∧
      state.phase = .returned true ∧ (state.sentFor 0).length = 1 ∧
      ¬ state.SendsAll .release false := by
  have facts : ((machine Nat .release false).run (start 0)
      (sendAndClose (onePacket .host 7))).map (fun state =>
        (state.phase, state.received, (state.sentFor 0).length)) =
      some (.returned true, [onePacket .host 7], 1) := by
    decide +kernel
  obtain ⟨state, ran, values⟩ := Option.map_eq_some_iff.mp facts
  simp only [Prod.mk.injEq] at values
  obtain ⟨returned, received, once⟩ := values
  refine ⟨state, ran, returned, once, ?_⟩
  intro sendsAll
  have complete := sendsAll.complete returned 0 (onePacket .host 7) (by rw [received]; rfl)
  rw [complete, List.length_replicate] at once
  revert once
  decide

end OutboundTransport
end Ubass

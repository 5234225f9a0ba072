import Ubass.Lib.FairLock
import Ubass.Lib.Table
import Ubass.Manager.HandleMessage

/-!
# Track requests that nobody reads

A connection reports to the application through a channel with room for 256 events, and only a
`Connection` listens to it, which a stream keeps for as long as it lasts.  Three routines of
`manager/routines/received.rs` and `manager/state.rs` send to that channel, and they do so with
the lock of `connections` in hand.  Each is a program here; every other routine of the host may
be any program.

A peer that sends more track requests than the application reads stops its whole host: from then
on no routine gets at `connections` to write, of whatever session, and none that asks after a
writer gets at them at all (`connections_frozen`).
-/

set_option autoImplicit false

universe u

namespace Ubass

/-- Which channel of an `mpsc::Receiver` of the application. -/
abbrev ConnectionChannel := Nat

def channelBufferSize : Nat := 256

/-- An entry of `connections`, as far as its lock guards it. -/
inductive GuardedConnection (Session : Type u) where
  | handshake (session : Session)
  | established (connection : ConnectionChannel) (session : Session)

namespace GuardedConnection

variable {Session : Type u}

def channel : GuardedConnection Session → Option ConnectionChannel
  | handshake _ => none
  | established connection _ => some connection

end GuardedConnection

abbrev GuardedConnections (Session : Type u) := Table SessionId (GuardedConnection Session)

abbrev ReportingRoutine (Session : Type u) :=
  FairLock.Program (GuardedConnections Session) ConnectionChannel InnerConnectionEvent

namespace ReportingRoutine

variable {Session : Type u}

/-- `received_track_request_packet`.  The update of the last activity is a task of its own. -/
def receivedTrackRequestPacket (sessionId : SessionId) (trackId : List UInt8) :
    ReportingRoutine Session :=
  .read fun connections =>
    match connections.get sessionId with
    | some (.established connection _) =>
        .send connection (.trackRequest trackId) <| .release .done
    | some (.handshake _) | none => .release .done

/-- `close_session` of `ProtocolState`, of which only the first step needs this lock. -/
def closeSession (sessionId : SessionId) : ReportingRoutine Session :=
  .write (fun connections => connections.remove sessionId) fun _ =>
    .release <| .elsewhere .done

def notifyAndCloseSession (isStreaming : Session → Bool) (sessionId : SessionId) :
    ReportingRoutine Session :=
  .read fun connections =>
    match connections.get sessionId with
    | none => .release .done
    | some (.handshake _) => .release (closeSession sessionId)
    | some (.established connection session) =>
        if isStreaming session then .release (closeSession sessionId)
        else .send connection .connectionClosed <| .release (closeSession sessionId)

/-- `advertise_closed`, with the sessions in the order in which the map hands them out. -/
def advertiseClosed (drained : List SessionId) : ReportingRoutine Session :=
  .write (fun _ => Table.empty) fun connections =>
    (drained.filterMap fun sessionId =>
      (connections.get sessionId).bind GuardedConnection.channel).foldr
        (fun connection next => .send connection .protocolClosed next) (.release .done)

end ReportingRoutine

/-- A task of the host.  A loop is a task for each of its rounds. -/
inductive HostTask (Session : Type u) where
  | trackRequest (sessionId : SessionId) (trackId : List UInt8)
  /-- A `CloseSessionPacket` or a `SessionDoesNotExistErrorPacket`. -/
  | closeSession (sessionId : SessionId)
  | advertiseClosed (drained : List SessionId)
  | other (routine : ReportingRoutine Session)

def HostTask.isTrackRequest {Session : Type u} (sessionId : SessionId) : HostTask Session → Bool
  | trackRequest of _ => of = sessionId
  | closeSession _ | advertiseClosed _ | other _ => false

/-- The tasks of a host, the lock of its connections and the channels to the application. -/
abbrev HostTasks (Session : Type u) :=
  FairLock.State (HostTask Session) (GuardedConnections Session) ConnectionChannel
    InnerConnectionEvent

namespace HostTasks

variable {Session : Type u}

def routine (isStreaming : Session → Bool) : HostTask Session → ReportingRoutine Session
  | .trackRequest sessionId trackId => .receivedTrackRequestPacket sessionId trackId
  | .closeSession sessionId => .notifyAndCloseSession isStreaming sessionId
  | .advertiseClosed drained => .advertiseClosed drained
  | .other routine => routine

def machine (isStreaming : Session → Bool) :
    Machine (HostTasks Session) (FairLock.Label (HostTask Session) ConnectionChannel) :=
  FairLock.machine channelBufferSize (routine isStreaming)

/-- The session is established, and the application leaves its channel alone. -/
def Unheard (sessionId : SessionId) (connection : ConnectionChannel)
    (state : HostTasks Session) (label : FairLock.Label (HostTask Session) ConnectionChannel) :
    Prop :=
  (state.memory.get sessionId).bind GuardedConnection.channel = some connection ∧
    label.Spares connection

def isTakenUp (sessionId : SessionId)
    (task : FairLock.Task (HostTask Session) (GuardedConnections Session) ConnectionChannel
      InnerConnectionEvent) : Bool :=
  task.call.isTrackRequest sessionId && task.rest.asks.isNone

/-- The track requests of the session that were let in to the connections so far. -/
def takenUp (state : HostTasks Session) (sessionId : SessionId) : Nat :=
  state.tasks.countP (isTakenUp sessionId)

/-! ## Every request that is let in weighs on the channel -/

inductive RequestAt (sessionId : SessionId) (trackId : List UInt8) :
    ReportingRoutine Session → Prop where
  | fresh : RequestAt sessionId trackId (.receivedTrackRequestPacket sessionId trackId)
  | sending (connection : ConnectionChannel) :
      RequestAt sessionId trackId (.send connection (.trackRequest trackId) (.release .done))
  | releasing : RequestAt sessionId trackId (.release .done)
  | ended : RequestAt sessionId trackId .done

theorem RequestAt.after {sessionId : SessionId} {trackId : List UInt8}
    {rest next : ReportingRoutine Session} (placed : RequestAt sessionId trackId rest)
    {connections : GuardedConnections Session} (follows : rest.after connections = some next) :
    RequestAt sessionId trackId next := by
  cases placed with
  | fresh =>
      cases Option.some.inj follows
      beta_reduce
      cases connections.get sessionId with
      | none => exact .releasing
      | some listed =>
          cases listed with
          | handshake session => exact .releasing
          | established connection session => exact .sending connection
  | sending connection =>
      cases follows
      exact .releasing
  | releasing =>
      cases follows
      exact .ended
  | ended => cases follows

theorem RequestAt.sends {sessionId : SessionId} {trackId : List UInt8}
    {rest next : ReportingRoutine Session} (placed : RequestAt sessionId trackId rest)
    {mode : LockMode} (asks : rest.asks = some mode) {connections : GuardedConnections Session}
    {connection : ConnectionChannel}
    (listed : (connections.get sessionId).bind GuardedConnection.channel = some connection)
    (follows : rest.after connections = some next) :
    next = .send connection (.trackRequest trackId) (.release .done) := by
  cases placed with
  | sending | releasing | ended => cases asks
  | fresh =>
      obtain ⟨entry, found, channel⟩ := Option.bind_eq_some_iff.mp listed
      cases entry with
      | handshake session => cases channel
      | established other session =>
          cases Option.some.inj channel
          cases Option.some.inj follows
          beta_reduce
          rw [found]

/-- As many events as there were, and one for each request that was let in, are in the channel
or about to be sent to it. -/
structure Accounted (sessionId : SessionId) (connection : ConnectionChannel) (unread : Nat)
    (state : HostTasks Session) : Prop where
  listening : (state.channels connection).listening = true
  placed : ∀ task ∈ state.tasks, ∀ of trackId, task.call = .trackRequest of trackId →
    RequestAt of trackId task.rest
  counted : unread + state.takenUp sessionId ≤ state.load connection

variable {isStreaming : Session → Bool} {state next later : HostTasks Session}
  {sessionId : SessionId} {connection : ConnectionChannel} {unread : Nat}

theorem not_isTakenUp_of_asks
    {task : FairLock.Task (HostTask Session) (GuardedConnections Session) ConnectionChannel
      InnerConnectionEvent} {mode : LockMode} (asks : task.rest.asks = some mode) :
    isTakenUp sessionId task = false := by
  rw [isTakenUp, asks]
  exact Bool.and_false _

theorem isTakenUp_le
    {task : FairLock.Task (HostTask Session) (GuardedConnections Session) ConnectionChannel
      InnerConnectionEvent} (waitless : task.rest.asks = none) (held : List LockMode)
    (rest : ReportingRoutine Session) :
    (isTakenUp sessionId { task with held := held, rest := rest }).toNat ≤
      (isTakenUp sessionId task).toNat := by
  rw [isTakenUp, isTakenUp, waitless]
  cases task.call.isTrackRequest sessionId with
  | true => exact Bool.toNat_le _
  | false => exact Nat.zero_le _

theorem Accounted.placed_set (accounted : state.Accounted sessionId connection unread)
    {index : Nat}
    {task : FairLock.Task (HostTask Session) (GuardedConnections Session) ConnectionChannel
      InnerConnectionEvent} (found : state.tasks[index]? = some task) {held : List LockMode}
    {rest : ReportingRoutine Session} (follows : task.rest.after state.memory = some rest) :
    ∀ other ∈ state.tasks.set index { task with held := held, rest := rest }, ∀ of trackId,
      other.call = .trackRequest of trackId → RequestAt of trackId other.rest := by
  intro other listed of trackId called
  rcases List.mem_or_eq_of_mem_set listed with before | rfl
  · exact accounted.placed other before of trackId called
  · exact (accounted.placed task (List.mem_of_getElem? found) of trackId called).after follows

theorem Accounted.entered (accounted : state.Accounted sessionId connection unread)
    (listed : (state.memory.get sessionId).bind GuardedConnection.channel = some connection)
    {index : Nat}
    {task : FairLock.Task (HostTask Session) (GuardedConnections Session) ConnectionChannel
      InnerConnectionEvent} (found : state.tasks[index]? = some task) {mode : LockMode}
    {rest : ReportingRoutine Session} (asks : task.rest.asks = some mode)
    (follows : task.rest.after state.memory = some rest) :
    (isTakenUp sessionId { task with held := mode :: task.held, rest := rest }).toNat ≤
      (FairLock.State.waits connection
        { task with held := mode :: task.held, rest := rest }).toNat := by
  cases called : task.call with
  | trackRequest of trackId =>
      by_cases same : of = sessionId
      · subst same
        have placed := accounted.placed task (List.mem_of_getElem? found) of trackId called
        rw [placed.sends asks listed follows]
        simp only [FairLock.State.waits, FairLock.Program.sendsTo, decide_true, List.isEmpty_cons,
          Bool.not_false, Bool.and_self]
        exact Bool.toNat_le _
      · simp [isTakenUp, HostTask.isTrackRequest, same]
  | closeSession | advertiseClosed | other => exact Nat.zero_le _

theorem Accounted.step (accounted : state.Accounted sessionId connection unread)
    {label : FairLock.Label (HostTask Session) ConnectionChannel}
    (unheard : state.Unheard sessionId connection label)
    (stepped : (machine isStreaming).step state label = some next) :
    next.Accounted sessionId connection unread := by
  obtain ⟨listed, spares⟩ := unheard
  obtain ⟨listening, grows⟩ := FairLock.State.load_step accounted.listening spares stepped
  have counted := accounted.counted
  cases label with
  | dispatch call =>
      cases stepped
      refine ⟨listening, ?_, ?_⟩
      · intro task listed of trackId called
        rcases List.mem_append.mp listed with before | new
        · exact accounted.placed task before of trackId called
        · cases List.mem_singleton.mp new
          cases called
          exact .fresh
      · have fresh : isTakenUp sessionId
            (⟨call, [], routine isStreaming call⟩ : FairLock.Task _ _ _ _) = false := by
          cases call with
          | trackRequest of trackId => exact Bool.and_false _
          | closeSession | advertiseClosed | other => rfl
        simp only [takenUp, List.countP_append, List.countP_singleton, fresh] at counted ⊢
        exact counted.trans grows
  | run index =>
      obtain ⟨task, found, moved⟩ := FairLock.State.run_moved stepped
      cases moved with
      | queued mode asks => exact ⟨listening, accounted.placed, counted⟩
      | entered mode memory rest asks follows granted kept =>
          refine ⟨listening, accounted.placed_set found follows, ?_⟩
          have requests := FairLock.State.countP_set found
            { task with held := mode :: task.held, rest := rest } (isTakenUp sessionId)
          have waiting := FairLock.State.countP_set found
            { task with held := mode :: task.held, rest := rest }
            (FairLock.State.waits connection)
          have weighs := accounted.entered listed found asks follows
          rw [not_isTakenUp_of_asks asks] at requests
          rw [FairLock.State.not_waits_of_idle
            (FairLock.Program.not_sendsTo_of_asks asks connection)] at waiting
          simp only [takenUp, FairLock.State.load, Bool.toNat_false] at counted requests waiting ⊢
          omega
      | proceeded held rest waitless follows subset idle =>
          refine ⟨listening, accounted.placed_set found follows, ?_⟩
          have requests := FairLock.State.countP_set found
            { task with held := held, rest := rest } (isTakenUp sessionId)
          have fewer := @isTakenUp_le _ sessionId _ waitless held rest
          simp only [takenUp, FairLock.State.proceed] at counted grows requests ⊢
          omega
      | sent other event rest sends room =>
          have waitless : task.rest.asks = none := by rw [sends]; rfl
          have follows : task.rest.after state.memory = some rest := by rw [sends]; rfl
          refine ⟨listening, accounted.placed_set found follows, ?_⟩
          have requests := FairLock.State.countP_set found
            { task with rest := rest } (isTakenUp sessionId)
          have fewer := @isTakenUp_le _ sessionId _ waitless task.held rest
          simp only [takenUp, FairLock.State.proceed, FairLock.State.put] at counted grows requests ⊢
          omega
  | receive other =>
      refine ⟨listening, ?_, ?_⟩ <;>
        simp only [machine, FairLock.machine] at stepped <;>
        split at stepped <;> cases stepped
      · exact accounted.placed
      · exact counted.trans grows
  | close other =>
      cases stepped
      exact ⟨listening, accounted.placed, counted.trans grows⟩

/-- After more track requests than the channel has room for, the connections stay as they are, as
far as their lock guards them, for as long as the application neither reads that channel nor drops
it, and whoever asks for them after a writer never gets at them. -/
theorem connections_frozen {start : HostTasks Session}
    {front back : List (FairLock.Label (HostTask Session) ConnectionChannel)}
    (initial : (machine isStreaming).initial start)
    (listening : (start.channels connection).listening = true)
    (unheard : (machine isStreaming).Guarded (Unheard sessionId connection) start front)
    (ran : (machine isStreaming).run start front = some state)
    (flood : channelBufferSize <
      (start.channels connection).events.length + state.takenUp sessionId)
    (unread : ∀ label ∈ back, label.Spares connection)
    (ranLater : (machine isStreaming).run state back = some later) :
    later.memory = state.memory ∧ ∀ ahead writer behind,
      state.queue = ahead ++ (writer, .write) :: behind →
        ∀ index task, later.tasks[index]? = some task → task.held ≠ [] →
          (∃ old, state.tasks[index]? = some old ∧ old.held ≠ []) ∨
            index ∈ ahead.map Prod.fst := by
  obtain ⟨empty, _, within⟩ := initial
  have first : start.Accounted sessionId connection (start.channels connection).events.length := by
    refine ⟨listening, ?_, ?_⟩
    · rw [empty]
      intro task listed
      cases listed
    · rw [takenUp, FairLock.State.load, empty]
      exact Nat.le_refl _
  have accounted := (machine isStreaming).guarded_run_preserves
    (fun _ _ _ accounted unheard stepped => accounted.step unheard stepped) first unheard ran
  have room : FairLock.State.Within channelBufferSize state :=
    (machine isStreaming).run_preserves (fun _ _ _ fits stepped => fits.step stepped) within ran
  have overloaded : FairLock.State.Overloaded channelBufferSize connection state :=
    ⟨accounted.listening, Nat.lt_of_lt_of_le flood accounted.counted⟩
  refine ⟨(overloaded.run room unread ranLater).2.2, ?_⟩
  intro ahead writer behind queue
  exact (overloaded.run_behind room queue unread ranLater).holders

/-- Two sessions: the first has as many events as its channel holds, the second one waits for the
only chunk of its stream. -/
def fullChannel : HostTasks (List Bool) where
  memory := (Table.empty.insert ⟨7⟩ (.established 0 [])).insert ⟨8⟩ (.established 1 [false])
  channels connection :=
    ⟨if connection = 0 then List.replicate channelBufferSize (.trackRequest []) else [], true⟩
  queue := []
  tasks := []

def oneMoreRequest : List (FairLock.Label (HostTask (List Bool)) ConnectionChannel) :=
  [.dispatch (.trackRequest ⟨7⟩ [1]), .run 0, .run 0,
    .dispatch (.other (.write (fun connections => connections.insert ⟨8⟩ (.established 1 [true]))
      fun _ => .release .done)), .run 1]

def oneMoreReader : List (FairLock.Label (HostTask (List Bool)) ConnectionChannel) :=
  [.dispatch (.other (.read fun _ => .release .done)), .run 2]

theorem connections_frozen_full_channel : ∃ state later,
    (machine fun map => !map.isEmpty).run fullChannel oneMoreRequest = some state ∧
      (machine fun map => !map.isEmpty).run state oneMoreReader = some later ∧
      later.memory.get ⟨8⟩ = some (.established 1 [false]) ∧
      ∀ index task, later.tasks[index]? = some task → task.held ≠ [] → index = 0 := by
  obtain ⟨state, later, ran, ranLater, queue, taken, kept, held⟩ : ∃ state later,
      (machine fun map => !map.isEmpty).run fullChannel oneMoreRequest = some state ∧
        (machine fun map => !map.isEmpty).run state oneMoreReader = some later ∧
        state.queue = [] ++ (1, .write) :: [] ∧ state.takenUp ⟨7⟩ = 1 ∧
        state.memory.get ⟨8⟩ = some (.established 1 [false]) ∧
        state.tasks.map (fun task => task.held) = [[.read], []] :=
    ⟨_, _, rfl, rfl, rfl, rfl, rfl, rfl⟩
  have within : ∀ connection,
      (fullChannel.channels connection).events.length ≤ channelBufferSize := by
    intro connection
    simp only [fullChannel]
    split
    · exact (List.length_replicate ..).le
    · exact Nat.zero_le _
  have unheard : (machine fun map => !map.isEmpty).Guarded (Unheard ⟨7⟩ 0) fullChannel
      oneMoreRequest := by
    refine Machine.guarded_cons _ ⟨rfl, trivial⟩ rfl ?_
    refine Machine.guarded_cons _ ⟨rfl, trivial⟩ rfl ?_
    refine Machine.guarded_cons _ ⟨rfl, trivial⟩ rfl ?_
    refine Machine.guarded_cons _ ⟨rfl, trivial⟩ rfl ?_
    exact Machine.guarded_cons _ ⟨rfl, trivial⟩ rfl trivial
  have flood : channelBufferSize <
      (fullChannel.channels 0).events.length + state.takenUp ⟨7⟩ := by
    rw [taken]
    change channelBufferSize < (List.replicate channelBufferSize _).length + 1
    rw [List.length_replicate]
    exact Nat.lt_succ_self _
  have unread : ∀ label ∈ oneMoreReader, label.Spares 0 := by
    intro label listed
    simp only [oneMoreReader, List.mem_cons, List.not_mem_nil, or_false] at listed
    rcases listed with rfl | rfl <;> exact trivial
  obtain ⟨same, holders⟩ :=
    connections_frozen ⟨rfl, rfl, within⟩ rfl unheard ran flood unread ranLater
  refine ⟨state, later, ran, ranLater, same ▸ kept, ?_⟩
  intro index task listed holds
  rcases holders [] 1 [] queue index task listed holds with ⟨old, found, oldHolds⟩ | ahead
  · have place := congrArg (fun modes => modes[index]?) held
    simp only [List.getElem?_map, found, Option.map_some] at place
    rcases index with _ | _ | index
    · rfl
    · exact absurd (Option.some.inj place) oldHolds
    · cases place
  · cases ahead

end HostTasks

end Ubass

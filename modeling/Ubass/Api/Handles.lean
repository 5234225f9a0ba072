import Ubass.Manager.HandleMessage

/-!
# The handles of the application

`api/core/types.rs`: a call consumes its handle and may give others back, a handle that
owns a connection closes its session when it is dropped, and what is dropped at the end
of a call is dropped here in the same order.  A call is awaited to its end; what the
manager and the peer answer meanwhile is an argument of it, and so is whether the
`Weak` of the handle upgrades.
-/

set_option autoImplicit false

namespace Ubass
namespace Api

/-- `ApiCommand`, less `Close`, which is never sent, and the channels for the answers. -/
inductive ApiCommand where
  | connect (address : SocketAddr)
  | rejectTrackRequest (sessionId : SessionId) (trackId : List UInt8)
  | closeSession (sessionId : SessionId)
  | closeStream (sessionId : SessionId)
  | setStreamComplete (sessionId : SessionId) (allowPartial : Bool)
  | findHoles (sessionId : SessionId)
  | streamAction (sessionId : SessionId) (control : PlaybackControl)
  | requestTrack (sessionId : SessionId) (trackId : List UInt8)
  | sendData (sessionId : SessionId)
deriving DecidableEq

def ApiCommand.session : ApiCommand → Option SessionId
  | connect _ => none
  | rejectTrackRequest sessionId _ | closeSession sessionId | closeStream sessionId
  | setStreamComplete sessionId _ | findHoles sessionId | streamAction sessionId _
  | requestTrack sessionId _ | sendData sessionId => some sessionId

/-! ## The types of handles -/

/-- `reply` and `approveChannel` say whether the channel has not been taken yet. -/
structure PendingConnection where
  reply : Bool
deriving DecidableEq

structure IncomingConnection where
  approveChannel : Bool
  reply : Bool
deriving DecidableEq

structure Connection where
  sessionId : SessionId
deriving DecidableEq

inductive StreamDirection where
  | input
  | output
deriving DecidableEq

structure Stream where
  direction : StreamDirection
  session : SessionId
  connection : Option Connection
  allowPartial : Bool
deriving DecidableEq

structure RequestedStream where
  session : SessionId
  trackId : List UInt8
  connection : Option Connection
deriving DecidableEq

structure PendingStream where
  session : SessionId
  connection : Option Connection
deriving DecidableEq

inductive Handle where
  | pendingConnection (pending : PendingConnection)
  | incomingConnection (incoming : IncomingConnection)
  | connection (connection : Connection)
  | stream (stream : Stream)
  | requestedStream (requested : RequestedStream)
  | pendingStream (pending : PendingStream)
deriving DecidableEq

/-- What a call gives back to the application, what it sends to the manager, and the session that
an answer brought.  An `expect` may have failed, or the program ended. -/
structure Outcome where
  handles : List Handle
  sent : List ApiCommand
  given : List SessionId
  panicked : Bool

namespace Outcome

def returns (handle : Handle) (sent : List ApiCommand) : Outcome := ⟨[handle], sent, [], false⟩

def ends (sent : List ApiCommand) : Outcome := ⟨[], sent, [], false⟩

def panics : Outcome := ⟨[], [], [], true⟩

end Outcome

/-! ## Connections -/

namespace Connection

def innerClose (api : Bool) (self : Connection) : List ApiCommand :=
  if api then [.closeSession self.sessionId] else []

def drop (api : Bool) (self : Connection) : List ApiCommand := self.innerClose api

def dropField (api : Bool) (field : Option Connection) : List ApiCommand :=
  (field.map (drop api)).getD []

def listen (api : Bool) (self : Connection) (event : Option InnerConnectionEvent) : Outcome :=
  match api, event with
  | true, some (.trackRequest trackId) =>
      .returns (.requestedStream ⟨self.sessionId, trackId, some self⟩) []
  | _, _ => .ends (self.drop api)

/-- `answered` says whether the manager has answered `Ok`. -/
def send (api : Bool) (self : Connection) (answered : Bool) : Outcome :=
  if api then
    if answered then
      .returns (.stream ⟨.output, self.sessionId, some self, false⟩) [.sendData self.sessionId]
    else .returns (.connection self) [.sendData self.sessionId]
  else .returns (.connection self) []

def request (api : Bool) (self : Connection) (trackId : List UInt8) (answered : Bool) : Outcome :=
  if api then
    if maxPayloadLength < trackId.length then .returns (.connection self) []
    else if answered then
      .returns (.pendingStream ⟨self.sessionId, some self⟩)
        [.requestTrack self.sessionId trackId]
    else .returns (.connection self) [.requestTrack self.sessionId trackId]
  else .returns (.connection self) []

/-- `close` takes the connection, which is dropped after `inner_close`. -/
def close (api : Bool) (self : Connection) : Outcome :=
  .ends (self.innerClose api ++ self.drop api)

end Connection

namespace PendingConnection

/-- `reply` is the session of an answer `Ok`. -/
def drop (api : Bool) (self : PendingConnection) (reply : Option SessionId) : Outcome :=
  match self.reply, reply with
  | true, some sessionId =>
      ⟨[], if api then [.closeSession sessionId] else [], [sessionId], false⟩
  | _, _ => .ends []

def ready (self : PendingConnection) (reply : Option SessionId) : Outcome :=
  match self.reply, reply with
  | false, _ => .panics
  | true, some sessionId => ⟨[.connection ⟨sessionId⟩], [], [sessionId], false⟩
  | true, none => .ends []

end PendingConnection

namespace IncomingConnection

/-- The rejection goes to the handshake, not to the manager. -/
def drop (_ : IncomingConnection) : Outcome := .ends []

/-- `delivered` says whether the handshake still waits for the approval. -/
def approve (self : IncomingConnection) (delivered : Bool) (reply : Option SessionId) : Outcome :=
  match self.approveChannel && delivered, self.reply, reply with
  | false, _, _ => .ends []
  | true, false, _ => .panics
  | true, true, some sessionId => ⟨[.connection ⟨sessionId⟩], [], [sessionId], false⟩
  | true, true, none => .ends []

end IncomingConnection

/-! ## Streams -/

/-- What the channel of a stream says in the end, or that its sender is gone. -/
inductive Completion where
  | closed (bufferClosed : Bool)
  | lost
deriving DecidableEq

inductive Approval where
  | approved (approved : Bool)
  | lost
deriving DecidableEq

namespace Stream

def innerClose (api : Bool) (self : Stream) :
    Except Connection (Option Connection) × Stream × List ApiCommand :=
  match self.connection with
  | none => (.ok none, self, [])
  | some connection =>
      if api then (.ok (some connection), { self with connection := none }, [.closeStream self.session])
      else (.error connection, { self with connection := none }, [])

def drop (api : Bool) (self : Stream) : List ApiCommand :=
  let (result, rest, sent) := self.innerClose api
  sent ++
    (match result with
      | .ok connection => Connection.dropField api connection
      | .error connection => connection.drop api) ++
    Connection.dropField api rest.connection

/-- `self.connection.take().expect(..)`, after which the stream is dropped. -/
def release (api : Bool) (self : Stream) (sent : List ApiCommand) : Outcome :=
  match self.connection with
  | none => .panics
  | some connection =>
      .returns (.connection connection) (sent ++ { self with connection := none }.drop api)

def complete (api : Bool) (self : Stream) (completion : Completion) : Outcome :=
  match self.direction, completion with
  | .input, completion =>
      if api then
        let asked := [.setStreamComplete self.session self.allowPartial]
        match completion with
        | .closed false => self.release api asked
        | .closed true | .lost => .ends (asked ++ self.drop api)
      else .ends (self.drop api)
  | .output, .closed _ => self.release api []
  | .output, .lost => .ends (self.drop api)

def close (api : Bool) (self : Stream) : Outcome :=
  let (result, rest, sent) := self.innerClose api
  match result with
  | .ok none => .panics
  | .ok (some connection) | .error connection =>
      .returns (.connection connection) (sent ++ rest.drop api)

def sendPlaybackControl (api : Bool) (self : Stream) (control : PlaybackControl) : Outcome :=
  .returns (.stream self) (if api then [.streamAction self.session control] else [])

def bufferHoles (api : Bool) (self : Stream) : Outcome :=
  .returns (.stream self) (if api then [.findHoles self.session] else [])

def allowPartialReceive (self : Stream) (allow : Bool) : Outcome :=
  .returns (.stream { self with allowPartial := allow }) []

end Stream

namespace RequestedStream

/-- The track id is taken, so a second rejection names an empty one. -/
def innerReject (api : Bool) (self : RequestedStream) :
    Option (Option Connection) × RequestedStream × List ApiCommand :=
  if api then
    (some self.connection, { self with trackId := [], connection := none },
      [.rejectTrackRequest self.session self.trackId])
  else (none, self, [])

def drop (api : Bool) (self : RequestedStream) : List ApiCommand :=
  let (result, rest, sent) := self.innerReject api
  sent ++ Connection.dropField api result.join ++ Connection.dropField api rest.connection

def reject (api : Bool) (self : RequestedStream) : Outcome :=
  let (result, rest, sent) := self.innerReject api
  match result with
  | none => .ends (sent ++ rest.drop api)
  | some none => .panics
  | some (some connection) => .returns (.connection connection) (sent ++ rest.drop api)

/-- The handle is dropped after the answer, and rejects the track that it has approved. -/
def approve (api : Bool) (self : RequestedStream) (answered : Bool) : Outcome :=
  match self.connection with
  | none => .panics
  | some connection =>
      let rest := { self with connection := none }
      if api then
        if answered then
          .returns (.stream ⟨.output, self.session, some connection, false⟩)
            (.sendData self.session :: rest.drop api)
        else .returns (.connection connection) (.sendData self.session :: rest.drop api)
      else .returns (.connection connection) (rest.drop api)

end RequestedStream

namespace PendingStream

def innerReady (self : PendingStream) (connection : Connection) (approval : Approval) :
    Except Connection Stream :=
  match approval with
  | .approved true => .ok ⟨.input, self.session, some connection, false⟩
  | .approved false | .lost => .error connection

/-- The stream that `inner_ready` makes is dropped after its `inner_close`. -/
def innerDiscard (api : Bool) (self : PendingStream) (approval : Approval) :
    Except (Option Connection) (Option Connection) × PendingStream × List ApiCommand :=
  let rest := { self with connection := none }
  if api then
    match self.connection with
    | none => (.ok none, self, [])
    | some connection =>
        match self.innerReady connection approval with
        | .error connection => (.error (some connection), rest, [])
        | .ok stream =>
            match stream.innerClose api with
            | (.ok connection, left, sent) => (.ok connection, rest, sent ++ left.drop api)
            | (.error connection, left, sent) =>
                (.error (some connection), rest, sent ++ left.drop api)
  else (.error self.connection, rest, [])

/-- The drop makes a stream, which is to be dropped before it is over. -/
def aborts (api : Bool) (self : PendingStream) (approval : Approval) : Bool :=
  match approval with
  | .approved true => api && self.connection.isSome
  | .approved false | .lost => false

/-- `inner_discard` in `executor::block_on`.  The drop of the stream made there enters the executor
again, which panics, and the drop of the connection does so while the panic unwinds. -/
def drop (api : Bool) (self : PendingStream) (approval : Approval) : Outcome :=
  if self.aborts api approval then ⟨[], [.closeStream self.session], [], true⟩
  else
    let (result, rest, sent) := self.innerDiscard api approval
    .ends (sent ++
      (match result with
        | .ok connection | .error connection => Connection.dropField api connection) ++
      Connection.dropField api rest.connection)

def ready (api : Bool) (self : PendingStream) (approval : Approval) : Outcome :=
  match self.connection with
  | none => .panics
  | some connection =>
      let rest : PendingStream := { self with connection := none }
      match self.innerReady connection approval with
      | .ok stream => .returns (.stream stream) (rest.drop api approval).sent
      | .error connection => .returns (.connection connection) (rest.drop api approval).sent

def discard (api : Bool) (self : PendingStream) (approval : Approval) : Outcome :=
  let (result, rest, sent) := self.innerDiscard api approval
  match result with
  | .ok none | .error none => .panics
  | .ok (some connection) | .error (some connection) =>
      .returns (.connection connection) (sent ++ (rest.drop api approval).sent)

end PendingStream

/-! ## The application -/

/-- The calls on a handle with what they are answered. -/
inductive HandleCall where
  /-- Also `PendingConnection::discard` and `IncomingConnection::reject`. -/
  | drop (reply : Option SessionId) (approval : Approval)
  | ready (reply : Option SessionId)
  | approveConnection (delivered : Bool) (reply : Option SessionId)
  | listen (event : Option InnerConnectionEvent)
  | send (answered : Bool)
  | request (trackId : List UInt8) (answered : Bool)
  | closeConnection
  | complete (completion : Completion)
  | closeStream
  | sendPlaybackControl (control : PlaybackControl)
  | bufferHoles
  | allowPartialReceive (allow : Bool)
  | reject
  | approve (answered : Bool)
  | streamReady (approval : Approval)
  | discard (approval : Approval)

/-- `None` for a method that the handle does not have. -/
def Handle.call (api : Bool) : Handle → HandleCall → Option Outcome
  | pendingConnection pending, .drop reply _ => some (pending.drop api reply)
  | incomingConnection incoming, .drop _ _ => some incoming.drop
  | connection held, .drop _ _ => some (.ends (held.drop api))
  | stream opened, .drop _ _ => some (.ends (opened.drop api))
  | requestedStream requested, .drop _ _ => some (.ends (requested.drop api))
  | pendingStream pending, .drop _ approval => some (pending.drop api approval)
  | pendingConnection pending, .ready reply => some (pending.ready reply)
  | incomingConnection incoming, .approveConnection delivered reply =>
      some (incoming.approve delivered reply)
  | connection held, .listen event => some (held.listen api event)
  | connection held, .send answered => some (held.send api answered)
  | connection held, .request trackId answered => some (held.request api trackId answered)
  | connection held, .closeConnection => some (held.close api)
  | stream opened, .complete completion => some (opened.complete api completion)
  | stream opened, .closeStream => some (opened.close api)
  | stream opened, .sendPlaybackControl control =>
      if opened.direction = .input then some (opened.sendPlaybackControl api control) else none
  | stream opened, .bufferHoles =>
      if opened.direction = .input then some (opened.bufferHoles api) else none
  | stream opened, .allowPartialReceive allow =>
      if opened.direction = .input then some (opened.allowPartialReceive allow) else none
  | requestedStream requested, .reject => some (requested.reject api)
  | requestedStream requested, .approve answered => some (requested.approve api answered)
  | pendingStream pending, .streamReady approval => some (pending.ready api approval)
  | pendingStream pending, .discard approval => some (pending.discard api approval)
  | _, _ => none

/-- The call ends the program. -/
def Handle.aborts (api : Bool) : Handle → HandleCall → Bool
  | pendingStream pending, .drop _ approval => pending.aborts api approval
  | _, _ => false

/-- What the application holds, the sessions that answers brought to its handles, and what it has
sent to the manager. -/
structure Application where
  api : Bool
  handles : List Handle
  given : List SessionId
  sent : List ApiCommand
  panicked : Bool

inductive AppLabel where
  /-- `Api::connect`; the manager may be gone. -/
  | connect (address : SocketAddr) (delivered : Bool)
  /-- `Api::listen` -/
  | incoming
  | call (index : Nat) (call : HandleCall)
  | dropApi

namespace Application

def opened : Application := ⟨true, [], [], [], false⟩

def record (self : Application) (index : Nat) (outcome : Outcome) : Application where
  api := self.api
  handles := outcome.handles ++ self.handles.eraseIdx index
  given := self.given ++ outcome.given
  sent := self.sent ++ outcome.sent
  panicked := self.panicked || outcome.panicked

def machine : Machine Application AppLabel where
  initial state := state = opened
  step state
    | .connect address delivered =>
        if state.api then
          if delivered then
            some { state with
              handles := .pendingConnection ⟨true⟩ :: state.handles
              sent := state.sent ++ [.connect address] }
          else some state
        else none
    | .incoming =>
        if state.api then
          some { state with handles := .incomingConnection ⟨true, true⟩ :: state.handles }
        else none
    | .call index call =>
        (state.handles[index]?.bind fun handle => handle.call state.api call).map
          (state.record index)
    | .dropApi => if state.api then some { state with api := false } else none

end Application

/-! ## What a call leaves of a session -/

def Handle.session : Handle → Option SessionId
  | pendingConnection _ | incomingConnection _ => none
  | connection held => some held.sessionId
  | stream opened => some opened.session
  | requestedStream requested => some requested.session
  | pendingStream pending => some pending.session

/-- A handle that the application holds has its channels, and the connection of its session. -/
def Handle.Whole : Handle → Prop
  | pendingConnection pending => pending.reply = true
  | incomingConnection incoming => incoming.approveChannel = true ∧ incoming.reply = true
  | connection _ => True
  | stream opened => opened.connection = some ⟨opened.session⟩
  | requestedStream requested => requested.connection = some ⟨requested.session⟩
  | pendingStream pending => pending.connection = some ⟨pending.session⟩

/-- The commands are about this session, and none of them closes it. -/
def Within (session : SessionId) (sent : List ApiCommand) : Prop :=
  ∀ command ∈ sent, command.session = some session ∧ command ≠ .closeSession session

/-- A call gives the session back in one handle, or closes it and nothing else after that. -/
inductive Settled (session : SessionId) : Outcome → Prop
  | returned (handle : Handle) (sent : List ApiCommand) (whole : handle.Whole)
      (owner : handle.session = some session) (within : Within session sent) :
      Settled session ⟨[handle], sent, [], false⟩
  | released (sent : List ApiCommand) (again : Nat) (within : Within session sent) :
      Settled session
        ⟨[], sent ++ List.replicate (again + 1) (.closeSession session), [], false⟩

theorem within_nil (session : SessionId) : Within session [] := fun _ listed => nomatch listed

theorem within_cons {session : SessionId} {command : ApiCommand} {sent : List ApiCommand}
    (names : command.session = some session) (other : command ≠ .closeSession session)
    (within : Within session sent) : Within session (command :: sent) := by
  intro each listed
  rcases List.mem_cons.mp listed with rfl | later
  · exact ⟨names, other⟩
  · exact within each later

theorem Connection.call_settled {self : Connection} {call : HandleCall} {outcome : Outcome}
    (called : (Handle.connection self).call true call = some outcome) :
    Settled self.sessionId outcome := by
  cases call <;> simp only [Handle.call, reduceCtorEq, Option.some.injEq] at called <;> subst called
  case drop => exact .released [] 0 (within_nil _)
  case closeConnection => exact .released [] 1 (within_nil _)
  case listen event =>
      unfold Connection.listen
      split
      · exact .returned _ [] rfl rfl (within_nil _)
      · exact .released [] 0 (within_nil _)
  case send answered =>
      have asked : Within self.sessionId [.sendData self.sessionId] :=
        within_cons rfl (by simp) (within_nil _)
      cases answered
      · exact .returned (.connection self) _ trivial rfl asked
      · exact .returned _ _ rfl rfl asked
  case request trackId answered =>
      have asked : Within self.sessionId [.requestTrack self.sessionId trackId] :=
        within_cons rfl (by simp) (within_nil _)
      unfold Connection.request
      rw [if_pos rfl]
      split
      · exact .returned (.connection self) [] trivial rfl (within_nil _)
      · cases answered
        · exact .returned (.connection self) _ trivial rfl asked
        · exact .returned _ _ rfl rfl asked

theorem Stream.call_settled {self : Stream} {call : HandleCall} {outcome : Outcome}
    (whole : (Handle.stream self).Whole)
    (called : (Handle.stream self).call true call = some outcome) :
    Settled self.session outcome := by
  obtain ⟨direction, session, connection, allowPartial⟩ := self
  have same : connection = some ⟨session⟩ := whole
  subst same
  have closes : Within session [.closeStream session] := within_cons rfl (by simp) (within_nil _)
  have asks : Within session [.setStreamComplete session allowPartial] :=
    within_cons rfl (by simp) (within_nil _)
  cases call <;> simp only [Handle.call, reduceCtorEq, Option.some.injEq,
    Option.ite_none_right_eq_some] at called
  case drop =>
      subst called
      exact .released [.closeStream session] 0 closes
  case closeStream =>
      subst called
      exact .returned (.connection ⟨session⟩) _ trivial rfl closes
  case complete completion =>
      subst called
      cases direction <;> rcases completion with (_ | _) | _
      · exact .returned (.connection ⟨session⟩) _ trivial rfl asks
      · exact .released [.setStreamComplete session allowPartial, .closeStream session] 0
          (within_cons rfl (by simp) closes)
      · exact .released [.setStreamComplete session allowPartial, .closeStream session] 0
          (within_cons rfl (by simp) closes)
      · exact .returned (.connection ⟨session⟩) _ trivial rfl (within_nil _)
      · exact .returned (.connection ⟨session⟩) _ trivial rfl (within_nil _)
      · exact .released [.closeStream session] 0 closes
  case sendPlaybackControl control =>
      obtain ⟨_, rfl⟩ := called
      exact .returned _ _ rfl rfl (within_cons rfl (by simp) (within_nil _))
  case bufferHoles =>
      obtain ⟨_, rfl⟩ := called
      exact .returned _ _ rfl rfl (within_cons rfl (by simp) (within_nil _))
  case allowPartialReceive allow =>
      obtain ⟨_, rfl⟩ := called
      exact .returned _ _ rfl rfl (within_nil _)

theorem RequestedStream.call_settled {self : RequestedStream} {call : HandleCall}
    {outcome : Outcome} (whole : (Handle.requestedStream self).Whole)
    (called : (Handle.requestedStream self).call true call = some outcome) :
    Settled self.session outcome := by
  obtain ⟨session, trackId, connection⟩ := self
  have same : connection = some ⟨session⟩ := whole
  subst same
  have rejects : ∀ trackId, Within session [.rejectTrackRequest session trackId] :=
    fun _ => within_cons rfl (by simp) (within_nil _)
  cases call <;> simp only [Handle.call, reduceCtorEq, Option.some.injEq] at called <;> subst called
  case drop => exact .released [.rejectTrackRequest session trackId] 0 (rejects trackId)
  case reject =>
      exact .returned (.connection ⟨session⟩) _ trivial rfl
        (within_cons rfl (by simp) (rejects []))
  case approve answered =>
      have sends : Within session [.sendData session, .rejectTrackRequest session trackId] :=
        within_cons rfl (by simp) (rejects trackId)
      cases answered
      · exact .returned (.connection ⟨session⟩) _ trivial rfl sends
      · exact .returned _ _ rfl rfl sends

theorem PendingStream.call_settled {self : PendingStream} {call : HandleCall}
    {outcome : Outcome} (whole : (Handle.pendingStream self).Whole)
    (goesOn : (Handle.pendingStream self).aborts true call = false)
    (called : (Handle.pendingStream self).call true call = some outcome) :
    Settled self.session outcome := by
  obtain ⟨session, connection⟩ := self
  have same : connection = some ⟨session⟩ := whole
  subst same
  have closes : Within session [.closeStream session] := within_cons rfl (by simp) (within_nil _)
  cases call <;> simp only [Handle.call, reduceCtorEq, Option.some.injEq] at called <;> subst called
  case drop _ approval =>
      rcases approval with (_ | _) | _
      · exact .released [] 0 (within_nil _)
      · cases goesOn
      · exact .released [] 0 (within_nil _)
  case streamReady approval =>
      rcases approval with (_ | _) | _
      · exact .returned (.connection ⟨session⟩) _ trivial rfl (within_nil _)
      · exact .returned _ _ rfl rfl (within_nil _)
      · exact .returned (.connection ⟨session⟩) _ trivial rfl (within_nil _)
  case discard approval =>
      rcases approval with (_ | _) | _
      · exact .returned (.connection ⟨session⟩) _ trivial rfl (within_nil _)
      · exact .returned (.connection ⟨session⟩) _ trivial rfl closes
      · exact .returned (.connection ⟨session⟩) _ trivial rfl (within_nil _)

theorem Handle.call_settled {handle : Handle} {session : SessionId} {call : HandleCall}
    {outcome : Outcome} (whole : handle.Whole) (owner : handle.session = some session)
    (goesOn : handle.aborts true call = false)
    (called : handle.call true call = some outcome) : Settled session outcome := by
  cases handle with
  | pendingConnection _ | incomingConnection _ => cases owner
  | connection held =>
      cases owner
      exact Connection.call_settled called
  | stream opened =>
      cases owner
      exact opened.call_settled whole called
  | requestedStream requested =>
      cases owner
      exact requested.call_settled whole called
  | pendingStream pending =>
      cases owner
      exact pending.call_settled whole goesOn called

/-- The session of an answer `Ok`, with which the handshake ends. -/
def HandleCall.reply : HandleCall → Option SessionId
  | drop reply _ | ready reply | approveConnection _ reply => reply
  | _ => none

/-- A handle without a session leaves nothing, or brings one, which is then given out or closed. -/
inductive Brought (reply : Option SessionId) : Outcome → Prop
  | nothing : Brought reply ⟨[], [], [], false⟩
  | connected (session : SessionId) (answer : reply = some session) :
      Brought reply ⟨[.connection ⟨session⟩], [], [session], false⟩
  | discarded (session : SessionId) (answer : reply = some session) :
      Brought reply ⟨[], [.closeSession session], [session], false⟩

theorem Handle.call_brought {handle : Handle} {call : HandleCall} {outcome : Outcome}
    (whole : handle.Whole) (owner : handle.session = none)
    (called : handle.call true call = some outcome) : Brought call.reply outcome := by
  cases handle with
  | connection _ | stream _ | requestedStream _ | pendingStream _ => cases owner
  | pendingConnection pending =>
      obtain ⟨_⟩ := pending
      cases whole
      cases call <;> simp only [Handle.call, reduceCtorEq, Option.some.injEq] at called <;>
        subst called
      case drop reply _ =>
          cases reply with
          | none => exact .nothing
          | some session => exact .discarded session rfl
      case ready reply =>
          cases reply with
          | none => exact .nothing
          | some session => exact .connected session rfl
  | incomingConnection incoming =>
      obtain ⟨_, _⟩ := incoming
      obtain ⟨approval, reply⟩ := whole
      cases approval
      cases reply
      cases call <;> simp only [Handle.call, reduceCtorEq, Option.some.injEq] at called <;>
        subst called
      case drop => exact .nothing
      case approveConnection delivered reply =>
          cases delivered with
          | false => exact .nothing
          | true =>
              cases reply with
              | none => exact .nothing
              | some session => exact .connected session rfl

/-! ## Every session is owned or closed -/

def Released (session : SessionId) (sent : List ApiCommand) : Prop :=
  ∃ before after, sent = before ++ .closeSession session :: after ∧
    .closeSession session ∉ before ∧
      ∀ command ∈ after, command.session = some session → command = .closeSession session

/-- One handle owns the session, which is open for the manager, or it was closed and no handle
owns it. -/
def Accounted (owners : List SessionId) (sent : List ApiCommand) (session : SessionId) : Prop :=
  (owners.count session = 1 ∧ .closeSession session ∉ sent) ∨
    (session ∉ owners ∧ Released session sent)

section Accounted

variable {session : SessionId} {owners others : List SessionId} {sent more : List ApiCommand}

theorem Released.extend (released : Released session sent)
    (apart : ∀ command ∈ more, command.session ≠ some session) :
    Released session (sent ++ more) := by
  obtain ⟨before, after, rfl, first, last⟩ := released
  refine ⟨before, after ++ more, by rw [List.append_assoc, List.cons_append], first, ?_⟩
  intro command listed names
  rcases List.mem_append.mp listed with old | new
  · exact last command old names
  · exact absurd names (apart command new)

theorem Accounted.extend (accounted : Accounted owners sent session)
    (same : others.count session = owners.count session)
    (apart : ∀ command ∈ more, command.session ≠ some session) :
    Accounted others (sent ++ more) session := by
  rcases accounted with ⟨once, isOpen⟩ | ⟨absent, released⟩
  · refine Or.inl ⟨same.trans once, ?_⟩
    intro listed
    rcases List.mem_append.mp listed with old | new
    · exact isOpen old
    · exact apart _ new rfl
  · refine Or.inr ⟨?_, released.extend apart⟩
    rw [← List.count_eq_zero, same]
    exact List.count_eq_zero.mpr absent

theorem Accounted.of_owner (accounted : Accounted (session :: others) sent session) :
    session ∉ others ∧ .closeSession session ∉ sent := by
  rcases accounted with ⟨once, isOpen⟩ | ⟨absent, _⟩
  · rw [List.count_cons_self] at once
    exact ⟨List.count_eq_zero.mp (Nat.succ.inj once), isOpen⟩
  · exact absurd List.mem_cons_self absent

theorem Accounted.returned (free : session ∉ others) (isOpen : .closeSession session ∉ sent)
    (within : Within session more) : Accounted (session :: others) (sent ++ more) session := by
  refine Or.inl ⟨?_, ?_⟩
  · rw [List.count_cons_self, List.count_eq_zero.mpr free]
  · intro listed
    rcases List.mem_append.mp listed with old | new
    · exact isOpen old
    · exact (within _ new).2 rfl

theorem Accounted.released (free : session ∉ others) (isOpen : .closeSession session ∉ sent)
    (within : Within session more) (again : Nat) :
    Accounted others (sent ++ (more ++ List.replicate (again + 1) (.closeSession session)))
      session := by
  refine Or.inr ⟨free, sent ++ more, List.replicate again (.closeSession session), ?_, ?_, ?_⟩
  · rw [List.replicate_succ, List.append_assoc]
  · intro listed
    rcases List.mem_append.mp listed with old | new
    · exact isOpen old
    · exact (within _ new).2 rfl
  · intro command listed _
    exact List.eq_of_mem_replicate listed

end Accounted

namespace Application

def owners (self : Application) : List SessionId := self.handles.filterMap Handle.session

structure Sound (state : Application) : Prop where
  api : state.api = true
  calm : state.panicked = false
  whole : ∀ handle ∈ state.handles, handle.Whole
  owned : ∀ session ∈ state.owners, session ∈ state.given
  named : ∀ command ∈ state.sent, ∀ session, command.session = some session →
    session ∈ state.given
  accounted : ∀ session ∈ state.given, Accounted state.owners state.sent session

theorem opened_sound : opened.Sound where
  api := rfl
  calm := rfl
  whole _ listed := nomatch listed
  owned _ listed := nomatch listed
  named _ listed := nomatch listed
  accounted _ listed := nomatch listed

theorem owners_perm {state : Application} {index : Nat} {handle : Handle}
    (found : state.handles[index]? = some handle) :
    state.owners.Perm (handle.session.toList ++
      (state.handles.eraseIdx index).filterMap Handle.session) := by
  obtain ⟨inside, same⟩ := List.getElem?_eq_some_iff.mp found
  have apart := (List.getElem_cons_eraseIdx_perm inside).symm.filterMap Handle.session
  rw [same] at apart
  cases owner : handle.session with
  | none =>
      rw [List.filterMap_cons_none owner] at apart
      exact apart
  | some session =>
      rw [List.filterMap_cons_some owner] at apart
      exact apart

theorem whole_of_eraseIdx {state : Application} (sound : state.Sound) {index : Nat}
    {handle : Handle} (listed : handle ∈ state.handles.eraseIdx index) : handle.Whole :=
  sound.whole handle (List.mem_of_mem_eraseIdx listed)

theorem Sound.settled {state : Application} (sound : state.Sound) {index : Nat} {handle : Handle}
    (found : state.handles[index]? = some handle) {session : SessionId}
    (owner : handle.session = some session) {outcome : Outcome}
    (settled : Settled session outcome) : (state.record index outcome).Sound := by
  have apart := owners_perm found
  rw [owner, Option.toList_some, List.singleton_append] at apart
  generalize rest : (state.handles.eraseIdx index).filterMap Handle.session = others at apart
  have given : session ∈ state.given := sound.owned session (apart.mem_iff.mpr List.mem_cons_self)
  obtain ⟨free, isOpen⟩ : session ∉ others ∧ .closeSession session ∉ state.sent := by
    have accounted := sound.accounted session given
    rw [Accounted, apart.count_eq, apart.mem_iff] at accounted
    exact Accounted.of_owner accounted
  have elsewhere : ∀ other ∈ state.given, other ≠ session → ∀ more : List ApiCommand,
      (∀ command ∈ more, command.session = some session) → ∀ owners : List SessionId,
        owners.count other = others.count other →
          Accounted owners (state.sent ++ more) other := by
    intro other known different more names owners same
    refine (sound.accounted other known).extend ?_ ?_
    · rw [same, apart.count_eq, List.count_cons_of_ne (Ne.symm different)]
    · intro command listed also
      rw [names command listed] at also
      exact different (Option.some.inj also).symm
  cases settled with
  | returned handle more whole again within =>
      have owners : (state.record index ⟨[handle], more, [], false⟩).owners = session :: others := by
        simp only [Application.owners, record, List.singleton_append]
        rw [List.filterMap_cons_some again, rest]
      refine ⟨sound.api, by rw [record, sound.calm]; rfl, ?_, ?_, ?_, ?_⟩
      · intro each listed
        rcases List.mem_cons.mp listed with rfl | old
        · exact whole
        · exact whole_of_eraseIdx sound old
      · intro each listed
        rw [owners] at listed
        exact List.mem_append_left _ (sound.owned each (apart.mem_iff.mpr listed))
      · intro command listed each names
        rcases List.mem_append.mp listed with old | new
        · exact List.mem_append_left _ (sound.named command old each names)
        · rw [(within command new).1] at names
          cases names
          exact List.mem_append_left _ given
      · intro each known
        rw [owners]
        rcases List.mem_append.mp known with old | new
        · by_cases same : each = session
          · rw [same]
            exact Accounted.returned free isOpen within
          · exact elsewhere each old same more (fun command listed => (within command listed).1) _
              (List.count_cons_of_ne (Ne.symm same))
        · cases new
  | released more again within =>
      have names : ∀ command ∈ more ++ List.replicate (again + 1) (.closeSession session),
          command.session = some session := by
        intro command listed
        rcases List.mem_append.mp listed with early | late
        · exact (within command early).1
        · rw [List.eq_of_mem_replicate late]
          rfl
      refine ⟨sound.api, by rw [record, sound.calm]; rfl, ?_, ?_, ?_, ?_⟩
      · intro each listed
        exact whole_of_eraseIdx sound listed
      · intro each listed
        have old : each ∈ others := by
          rw [← rest]
          exact listed
        exact List.mem_append_left _
          (sound.owned each (apart.mem_iff.mpr (List.mem_cons_of_mem _ old)))
      · intro command listed each also
        rcases List.mem_append.mp listed with old | new
        · exact List.mem_append_left _ (sound.named command old each also)
        · rw [names command new] at also
          cases also
          exact List.mem_append_left _ given
      · intro each known
        have owners : (state.record index
            ⟨[], more ++ List.replicate (again + 1) (.closeSession session), [], false⟩).owners =
              others := rest
        rw [owners]
        rcases List.mem_append.mp known with old | new
        · by_cases same : each = session
          · rw [same]
            exact Accounted.released free isOpen within again
          · exact elsewhere each old same _ names _ rfl
        · cases new

/-- The API stays open, no call ends the program, and an answer brings a session that none has
brought before. -/
def Kept (state : Application) : AppLabel → Prop
  | .dropApi => False
  | .call index call =>
      (∀ session, call.reply = some session → session ∉ state.given) ∧
        ∀ handle, state.handles[index]? = some handle → handle.aborts state.api call = false
  | .connect _ _ | .incoming => True

theorem Sound.brought {state : Application} (sound : state.Sound) {index : Nat} {handle : Handle}
    (found : state.handles[index]? = some handle) (owner : handle.session = none)
    {reply : Option SessionId} (fresh : ∀ session, reply = some session → session ∉ state.given)
    {outcome : Outcome} (brought : Brought reply outcome) : (state.record index outcome).Sound := by
  have apart := owners_perm found
  rw [owner, Option.toList_none, List.nil_append] at apart
  generalize rest : (state.handles.eraseIdx index).filterMap Handle.session = others at apart
  have unowned : ∀ session, session ∉ state.given → session ∉ others := by
    intro session unknown listed
    exact unknown (sound.owned session (apart.mem_iff.mpr listed))
  have unnamed : ∀ session, session ∉ state.given → .closeSession session ∉ state.sent := by
    intro session unknown listed
    exact unknown (sound.named _ listed session rfl)
  cases brought with
  | nothing =>
      refine ⟨sound.api, by rw [record, sound.calm]; rfl, ?_, ?_, ?_, ?_⟩
      · intro each listed
        exact whole_of_eraseIdx sound listed
      · intro each listed
        have old : each ∈ others := by
          rw [← rest]
          exact listed
        exact List.mem_append_left _ (sound.owned each (apart.mem_iff.mpr old))
      · intro command listed each names
        simp only [record, List.append_nil] at listed
        exact List.mem_append_left _ (sound.named command listed each names)
      · intro each known
        simp only [record, List.append_nil] at known
        have owners : (state.record index ⟨[], [], [], false⟩).owners = others := rest
        rw [owners]
        exact (sound.accounted each known).extend (apart.count_eq each).symm
          (fun _ listed => nomatch listed)
  | connected session answer =>
      have unknown := fresh session answer
      have owners : (state.record index ⟨[.connection ⟨session⟩], [], [session], false⟩).owners =
          session :: others := by
        simp only [Application.owners, record, List.singleton_append]
        rw [@List.filterMap_cons_some _ _ Handle.session _ _ _ rfl, rest]
      refine ⟨sound.api, by rw [record, sound.calm]; rfl, ?_, ?_, ?_, ?_⟩
      · intro each listed
        rcases List.mem_cons.mp listed with rfl | old
        · trivial
        · exact whole_of_eraseIdx sound old
      · intro each listed
        rw [owners] at listed
        rcases List.mem_cons.mp listed with rfl | old
        · exact List.mem_append_right _ (List.mem_singleton_self _)
        · exact List.mem_append_left _ (sound.owned each (apart.mem_iff.mpr old))
      · intro command listed each names
        simp only [record, List.append_nil] at listed
        exact List.mem_append_left _ (sound.named command listed each names)
      · intro each known
        rw [owners]
        rcases List.mem_append.mp known with old | new
        · refine (sound.accounted each old).extend ?_ (fun _ listed => nomatch listed)
          have different : session ≠ each := by
            rintro rfl
            exact unknown old
          rw [List.count_cons_of_ne different, apart.count_eq]
        · cases List.mem_singleton.mp new
          exact Accounted.returned (unowned _ unknown) (unnamed _ unknown) (within_nil _)
  | discarded session answer =>
      have unknown := fresh session answer
      refine ⟨sound.api, by rw [record, sound.calm]; rfl, ?_, ?_, ?_, ?_⟩
      · intro each listed
        exact whole_of_eraseIdx sound listed
      · intro each listed
        have old : each ∈ others := by
          rw [← rest]
          exact listed
        exact List.mem_append_left _ (sound.owned each (apart.mem_iff.mpr old))
      · intro command listed each names
        rcases List.mem_append.mp listed with old | new
        · exact List.mem_append_left _ (sound.named command old each names)
        · cases List.mem_singleton.mp new
          cases names
          exact List.mem_append_right _ (List.mem_singleton_self _)
      · intro each known
        have owners : (state.record index
            ⟨[], [.closeSession session], [session], false⟩).owners = others := rest
        rw [owners]
        rcases List.mem_append.mp known with old | new
        · refine (sound.accounted each old).extend (apart.count_eq each).symm ?_
          intro command listed names
          cases List.mem_singleton.mp listed
          cases names
          exact unknown old
        · cases List.mem_singleton.mp new
          exact Accounted.released (unowned _ unknown) (unnamed _ unknown) (within_nil _) 0

theorem Sound.begun {state : Application} (sound : state.Sound) {handle : Handle}
    (whole : handle.Whole) (owner : handle.session = none) {sent : List ApiCommand}
    (unnamed : ∀ command ∈ sent, command.session = none) :
    Sound { state with handles := handle :: state.handles, sent := state.sent ++ sent } := by
  have owners : ({ state with
      handles := handle :: state.handles, sent := state.sent ++ sent } : Application).owners =
        state.owners := List.filterMap_cons_none owner
  refine ⟨sound.api, sound.calm, ?_, ?_, ?_, ?_⟩
  · intro each listed
    rcases List.mem_cons.mp listed with rfl | old
    · exact whole
    · exact sound.whole each old
  · intro each listed
    rw [owners] at listed
    exact sound.owned each listed
  · intro command listed each names
    rcases List.mem_append.mp listed with old | new
    · exact sound.named command old each names
    · rw [unnamed command new] at names
      cases names
  · intro each known
    rw [owners]
    refine (sound.accounted each known).extend rfl ?_
    intro command listed names
    rw [unnamed command listed] at names
    cases names

theorem step_sound {state next : Application} {label : AppLabel} (sound : state.Sound)
    (kept : state.Kept label) (stepped : machine.step state label = some next) : next.Sound := by
  cases label with
  | connect address delivered =>
      obtain ⟨_, stepped⟩ := Option.ite_none_right_eq_some.mp stepped
      split at stepped
      · cases stepped
        refine @Sound.begun _ sound (.pendingConnection ⟨true⟩) rfl rfl [.connect address] ?_
        intro command listed
        cases List.mem_singleton.mp listed
        rfl
      · cases stepped
        exact sound
  | incoming =>
      obtain ⟨_, stepped⟩ := Option.ite_none_right_eq_some.mp stepped
      cases stepped
      have begun := @Sound.begun _ sound (.incomingConnection ⟨true, true⟩) ⟨rfl, rfl⟩ rfl []
        (fun _ listed => nomatch listed)
      rwa [List.append_nil] at begun
  | call index call =>
      obtain ⟨outcome, called, rfl⟩ := Option.map_eq_some_iff.mp stepped
      obtain ⟨handle, found, called⟩ := Option.bind_eq_some_iff.mp called
      obtain ⟨fresh, survives⟩ := kept
      have goesOn := survives handle found
      rw [sound.api] at called goesOn
      have whole := sound.whole handle (List.mem_of_getElem? found)
      cases owner : handle.session with
      | none => exact sound.brought found owner fresh (handle.call_brought whole owner called)
      | some session =>
          exact sound.settled found owner (handle.call_settled whole owner goesOn called)
  | dropApi => exact kept.elim

/-- While the API is open, whatever the application does with its handles but for dropping a pending
stream that is approved, and whatever it is answered: no `expect` on a handle fails, and each session
it was given is owned by exactly one handle and was not closed, or it was closed, is owned by none,
and no command but another `CloseSession` has named it since. -/
theorem sessions_accounted {final : Application} {labels : List AppLabel}
    (kept : machine.Guarded Kept opened labels) (ran : machine.run opened labels = some final) :
    final.panicked = false ∧
      ∀ session ∈ final.given, Accounted final.owners final.sent session := by
  have sound := machine.guarded_run_preserves
    (fun _ _ _ sound kept stepped => step_sound sound kept stepped) opened_sound kept ran
  exact ⟨sound.calm, sound.accounted⟩

/-- A session is requested from, and the track is approved and received to the end.  Then the peer
requests one, which is approved; a second session is discarded. -/
def requestAndServe : List AppLabel :=
  [.connect ⟨[127, 0, 0, 1], 80⟩ true, .call 0 (.ready (some ⟨7⟩)), .call 0 (.request [1] true),
    .call 0 (.streamReady (.approved true)), .call 0 (.complete (.closed false)),
    .call 0 (.listen (some (.trackRequest [2]))), .call 0 (.approve true),
    .connect ⟨[127, 0, 0, 1], 81⟩ true, .call 0 (.drop (some ⟨8⟩) .lost)]

theorem requestAndServe_kept : machine.Guarded Kept opened requestAndServe := by
  have none : ∀ {state : Application} {index : Nat} {call : HandleCall}, call.reply = none →
      (∀ handle, state.handles[index]? = some handle → handle.aborts state.api call = false) →
        state.Kept (.call index call) := by
    intro state index call silent survives
    refine ⟨?_, survives⟩
    intro session answer
    rw [silent] at answer
    cases answer
  refine machine.guarded_cons trivial rfl ?_
  refine machine.guarded_cons ⟨fun _ _ listed => (List.not_mem_nil listed).elim, ?_⟩ rfl ?_
  · intro handle found
    cases found
    rfl
  refine machine.guarded_cons (none rfl fun _ found => by cases found; rfl) rfl ?_
  refine machine.guarded_cons (none rfl fun _ found => by cases found; rfl) rfl ?_
  refine machine.guarded_cons (none rfl fun _ found => by cases found; rfl) rfl ?_
  refine machine.guarded_cons (none rfl fun _ found => by cases found; rfl) rfl ?_
  refine machine.guarded_cons (none rfl fun _ found => by cases found; rfl) rfl ?_
  refine machine.guarded_cons trivial rfl (machine.guarded_cons ⟨?_, ?_⟩ rfl trivial)
  · intro session answer
    cases answer
    decide
  · intro handle found
    cases found
    rfl

/-- The track that was approved is rejected all the same, by the drop of its handle. -/
theorem sessions_accounted_requestAndServe :
    ∃ final, machine.run opened requestAndServe = some final ∧ final.given = [⟨7⟩, ⟨8⟩] ∧
      final.sent.drop 3 = [.sendData ⟨7⟩, .rejectTrackRequest ⟨7⟩ [2],
        .connect ⟨[127, 0, 0, 1], 81⟩, .closeSession ⟨8⟩] ∧
      final.panicked = false ∧
        ∀ session ∈ final.given, Accounted final.owners final.sent session :=
  ⟨_, rfl, rfl, rfl, @sessions_accounted _ requestAndServe requestAndServe_kept rfl⟩

end Application
end Api
end Ubass

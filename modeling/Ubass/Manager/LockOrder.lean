import Ubass.Exchange.Model
import Ubass.Lib.Locks
import Ubass.Manager.Sessions

/-!
# The locks of the session tables

Seven operations of `manager/state.rs` take the locks of `connections` and
`address_session`, nested or one after the other.  Each is a program here that takes them
one by one; run with nobody else around, it does what its handler does at once.

`free_session` takes the two locks the other way round than `new_session` and
`promote_handshake` do, and no other operation holds one of them while it asks for the
other.
-/

set_option autoImplicit false

universe u

namespace Ubass

inductive TableLock where
  | connections
  | addressSession
deriving DecidableEq

def TableLock.rank (lowest lock : TableLock) : Nat := if lock = lowest then 0 else 1

abbrev TableRoutine {Key : Type u} (keyExchange : KeyExchange Key) (Result : Type) :=
  LockProgram TableLock (ProtocolState keyExchange) Result

namespace TableRoutine

variable {Key : Type u} {keyExchange : KeyExchange Key}

/-- `AddressSessionIdTable::free_session` -/
def freeSession (address : SocketAddr) : TableRoutine keyExchange (Option SessionId) :=
  .acquire .addressSession .read id fun _ =>
    .acquire .connections .read id fun tables =>
      .release .connections <| .release .addressSession <| .done <|
        (tables.addressSession.get address).bind fun listed =>
          listed.find? fun sessionId =>
            (tables.connections.get sessionId).any ConnectionStates.isFree

/-- `AddressSessionIdTable::remove` -/
def remove (address : SocketAddr) (sessionId : SessionId) :
    TableRoutine keyExchange (Option SessionId) :=
  .acquire .addressSession .write
    (fun tables => { tables with
      addressSession :=
        (tables.addressSession.remove address sessionId).getD tables.addressSession })
    fun tables =>
      .release .addressSession <| .done <|
        (tables.addressSession.remove address sessionId).map fun _ => sessionId

/-- `AddressSessionIdTable::move_session` -/
def moveSession (sourceAddress : SocketAddr) (sessionId : SessionId)
    (destinationAddress : SocketAddr) : TableRoutine keyExchange (Option SocketAddr) :=
  (remove sourceAddress sessionId).bind fun removed =>
    match removed with
    | none => .done none
    | some _ =>
        .acquire .addressSession .write
          (fun tables => { tables with
            addressSession := tables.addressSession.push destinationAddress sessionId })
          fun _ => .release .addressSession <| .done (some destinationAddress)

/-- `ProtocolState::new_session` -/
def newSession (sessionId : SessionId) (address : SocketAddr) (appId : AppId) :
    TableRoutine keyExchange Unit :=
  .acquire .connections .write
    (fun tables =>
      if tables.sessionExists sessionId then tables
      else { tables with
        connections := tables.connections.insert sessionId (.handshake sessionId appId address) })
    fun tables =>
      if tables.sessionExists sessionId then .release .connections <| .done ()
      else
        .acquire .addressSession .write
          (fun tables => { tables with
            addressSession := tables.addressSession.push address sessionId })
          fun _ => .release .addressSession <| .release .connections <| .done ()

/-- `ProtocolState::promote_handshake`, from its first lock on. -/
def promote (handshake : HandshakeState keyExchange.Secret) (newSessionId : SessionId)
    (address : SocketAddr) (appId : AppId) : TableRoutine keyExchange (Option keyExchange.Secret) :=
  .acquire .connections .write
    (fun tables =>
      if tables.sessionExists newSessionId then tables
      else { tables with
        connections := tables.connections.insert newSessionId
          (.established ⟨handshake.sessionId, .up, address, appId⟩) })
    fun tables =>
      if tables.sessionExists newSessionId then .release .connections <| .done none
      else
        .acquire .addressSession .write
          (fun tables => { tables with
            addressSession := tables.addressSession.push address handshake.sessionId })
          fun _ =>
            .release .addressSession <| .release .connections <|
              .done (some handshake.ephemeralSecret)

/-- `ProtocolState::promote_handshake`.  The lock of the handshakes is let go before. -/
def promoteHandshake (newSessionId : SessionId) (address : SocketAddr) (handshakeId : HandshakeId)
    (appId : AppId) : TableRoutine keyExchange (Option keyExchange.Secret) :=
  .access (fun tables => { tables with handshakes := tables.handshakes.remove handshakeId })
    fun tables =>
      match tables.handshakes.get handshakeId with
      | none => .done none
      | some handshake => promote handshake newSessionId address appId

/-- `ProtocolState::update_address` -/
def updateAddress (sessionId : SessionId) (new : SocketAddr) :
    TableRoutine keyExchange (Option SocketAddr) :=
  .acquire .connections .read id fun tables =>
    .release .connections <|
      match tables.connections.get sessionId with
      | none => .done none
      | some connection =>
          if new = connection.address then .done none
          else
            (moveSession connection.address sessionId new).bind fun moved =>
              match moved with
              | none => .done none
              | some _ =>
                  .acquire .connections .write
                    (fun tables =>
                      match tables.connections.get sessionId with
                      | none => tables
                      | some connection => { tables with
                          connections :=
                            tables.connections.insert sessionId (connection.updateAddress new) })
                    fun tables =>
                      .release .connections <| .done <|
                        (tables.connections.get sessionId).map fun _ => new

/-- `ProtocolState::close_session` -/
def closeSession (sessionId : SessionId) : TableRoutine keyExchange Unit :=
  .acquire .connections .write
    (fun tables => { tables with connections := tables.connections.remove sessionId })
    fun tables =>
      .release .connections <|
        match tables.connections.get sessionId with
        | none => .done ()
        | some connection =>
            (remove connection.address sessionId).bind fun removed =>
              match removed with
              | none => .done ()
              | some _ =>
                  .access
                    (fun tables => { tables with
                      encryption := tables.encryption.remove sessionId })
                    fun _ => .done ()

/-! ## Run alone, they are the handlers -/

-- the equations are made once, for all routines
attribute [local simp] LockProgram.alone LockProgram.Sequential in
theorem remove_alone (tables : ProtocolState keyExchange) (address : SocketAddr)
    (sessionId : SessionId) :
    (remove address sessionId).alone tables =
      ({ tables with
          addressSession :=
            (tables.addressSession.remove address sessionId).getD tables.addressSession },
        (tables.addressSession.remove address sessionId).map fun _ => sessionId) := rfl

theorem moveSession_alone (tables : ProtocolState keyExchange) (source : SocketAddr)
    (sessionId : SessionId) (destination : SocketAddr) :
    (moveSession source sessionId destination).alone tables =
      ({ tables with
          addressSession := (tables.addressSession.moveSession source sessionId destination).getD
            tables.addressSession },
        (tables.addressSession.moveSession source sessionId destination).map
          fun _ => destination) := by
  rw [moveSession, LockProgram.alone_bind, remove_alone, AddressSessionIdTable.moveSession]
  cases tables.addressSession.remove source sessionId with
  | none => rfl
  | some removed => rfl

theorem newSession_alone (tables : ProtocolState keyExchange) (sessionId : SessionId)
    (address : SocketAddr) (appId : AppId) :
    (newSession sessionId address appId).alone tables =
      (tables.newSession sessionId address appId, ()) := by
  rw [newSession, ProtocolState.newSession]
  by_cases taken : tables.sessionExists sessionId = true
  · simp [LockProgram.alone, taken]
  · simp [LockProgram.alone, taken]

theorem promote_alone (tables : ProtocolState keyExchange)
    (handshake : HandshakeState keyExchange.Secret) (newSessionId : SessionId)
    (address : SocketAddr) (appId : AppId) :
    (promote handshake newSessionId address appId).alone tables =
      if tables.sessionExists newSessionId then (tables, none)
      else
        ({ tables with
            connections := tables.connections.insert newSessionId
              (.established ⟨handshake.sessionId, .up, address, appId⟩)
            addressSession := tables.addressSession.push address handshake.sessionId },
          some handshake.ephemeralSecret) := by
  rw [promote]
  by_cases taken : tables.sessionExists newSessionId = true
  · simp [LockProgram.alone, taken]
  · simp [LockProgram.alone, taken]

theorem promoteHandshake_alone (tables : ProtocolState keyExchange) (newSessionId : SessionId)
    (address : SocketAddr) (handshakeId : HandshakeId) (appId : AppId) :
    (promoteHandshake newSessionId address handshakeId appId).alone tables =
      tables.promoteHandshake newSessionId address handshakeId appId := by
  rw [promoteHandshake, LockProgram.alone, ProtocolState.promoteHandshake]
  cases found : tables.handshakes.get handshakeId with
  | none => simp [LockProgram.alone, Table.remove_eq_self found]
  | some handshake => exact promote_alone _ handshake newSessionId address appId

theorem updateAddress_alone (tables : ProtocolState keyExchange) (sessionId : SessionId)
    (new : SocketAddr) :
    (updateAddress sessionId new).alone tables = tables.updateAddress sessionId new := by
  rw [updateAddress, LockProgram.alone, LockProgram.alone, ProtocolState.updateAddress]
  cases found : tables.connections.get sessionId with
  | none => rfl
  | some connection =>
      by_cases same : new = connection.address
      · simp [LockProgram.alone, same]
      · simp only [if_neg same, id_eq, LockProgram.alone_bind, moveSession_alone]
        cases tables.addressSession.moveSession connection.address sessionId new with
        | none => rfl
        | some moved => simp [LockProgram.alone, found]

theorem closeSession_alone (tables : ProtocolState keyExchange) (sessionId : SessionId) :
    (closeSession sessionId).alone tables = (tables.closeSession sessionId, ()) := by
  rw [closeSession, LockProgram.alone, LockProgram.alone, ProtocolState.closeSession]
  cases found : tables.connections.get sessionId with
  | none => simp [LockProgram.alone, Table.remove_eq_self found]
  | some connection =>
      simp only [LockProgram.alone_bind, remove_alone]
      cases tables.addressSession.remove connection.address sessionId with
      | none => rfl
      | some removed => rfl

/-! ## One lock after the other -/

theorem remove_sequential (address : SocketAddr) (sessionId : SessionId) :
    (@remove _ keyExchange address sessionId).Sequential [] := by
  simp [remove, LockProgram.Sequential]

theorem moveSession_sequential (source : SocketAddr) (sessionId : SessionId)
    (destination : SocketAddr) :
    (@moveSession _ keyExchange source sessionId destination).Sequential [] := by
  refine (remove_sequential source sessionId).bind ?_
  intro removed
  cases removed with
  | none => rfl
  | some _ => simp [LockProgram.Sequential]

theorem updateAddress_sequential (sessionId : SessionId) (new : SocketAddr) :
    (@updateAddress _ keyExchange sessionId new).Sequential [] := by
  refine ⟨rfl, ?_⟩
  intro tables
  simp only [LockProgram.Sequential, List.eraseP_cons_of_pos, decide_true]
  cases tables.connections.get sessionId with
  | none => rfl
  | some connection =>
      by_cases same : new = connection.address
      · simp only [if_pos same]
        rfl
      · simp only [if_neg same]
        refine (moveSession_sequential connection.address sessionId new).bind ?_
        intro moved
        cases moved with
        | none => rfl
        | some _ => simp [LockProgram.Sequential]

theorem closeSession_sequential (sessionId : SessionId) :
    (@closeSession _ keyExchange sessionId).Sequential [] := by
  refine ⟨rfl, ?_⟩
  intro tables
  simp only [LockProgram.Sequential, List.eraseP_cons_of_pos, decide_true]
  cases tables.connections.get sessionId with
  | none => rfl
  | some connection =>
      refine (remove_sequential connection.address sessionId).bind ?_
      intro removed
      cases removed with
      | none => rfl
      | some _ => simp [LockProgram.Sequential]

end TableRoutine

/-! ## The calls -/

inductive TableCall where
  | freeSession (address : SocketAddr)
  | newSession (sessionId : SessionId) (address : SocketAddr) (appId : AppId)
  | promoteHandshake (newSessionId : SessionId) (address : SocketAddr) (handshakeId : HandshakeId)
      (appId : AppId)
  | moveSession (sourceAddress : SocketAddr) (sessionId : SessionId)
      (destinationAddress : SocketAddr)
  | remove (address : SocketAddr) (sessionId : SessionId)
  | updateAddress (sessionId : SessionId) (new : SocketAddr)
  | closeSession (sessionId : SessionId)

namespace TableCall

variable {Key : Type u} {keyExchange : KeyExchange Key}

def routine (keyExchange : KeyExchange Key) : TableCall → TableRoutine keyExchange Unit
  | freeSession address => (TableRoutine.freeSession address).bind fun _ => .done ()
  | newSession sessionId address appId => TableRoutine.newSession sessionId address appId
  | promoteHandshake newSessionId address handshakeId appId =>
      (TableRoutine.promoteHandshake newSessionId address handshakeId appId).bind fun _ => .done ()
  | moveSession sourceAddress sessionId destinationAddress =>
      (TableRoutine.moveSession sourceAddress sessionId destinationAddress).bind fun _ => .done ()
  | remove address sessionId => (TableRoutine.remove address sessionId).bind fun _ => .done ()
  | updateAddress sessionId new =>
      (TableRoutine.updateAddress sessionId new).bind fun _ => .done ()
  | closeSession sessionId => TableRoutine.closeSession sessionId

/-- The lock the call holds while it asks for the other one, and that other one. -/
def order : TableCall → Option (TableLock × TableLock)
  | freeSession _ => some (.addressSession, .connections)
  | newSession _ _ _ | promoteHandshake _ _ _ _ => some (.connections, .addressSession)
  | moveSession _ _ _ | remove _ _ | updateAddress _ _ | closeSession _ => none

/-- A call that has its first lock goes on to the second one: a session that is to be stored must
not exist. -/
def goesOn (tables : ProtocolState keyExchange) : TableCall → Bool
  | freeSession _ => true
  | newSession sessionId _ _ => !tables.sessionExists sessionId
  | promoteHandshake newSessionId _ _ _ => !tables.sessionExists newSessionId
  | moveSession _ _ _ | remove _ _ | updateAddress _ _ | closeSession _ => false

/-- What holds at every place of a routine: the next step leads between the two locks exactly when
it takes the first one of a call that goes on. -/
def Steps (call : TableCall) (held : List (TableLock × LockMode))
    (program : TableRoutine keyExchange Unit) : Prop :=
  ∀ tables first second,
    (first ∈ (program.advance tables held).1.map Prod.fst ∧
      (program.advance tables held).2.wants = some second) ↔
    (call.order = some (first, second) ∧ program.wants = some first ∧ call.goesOn tables = true)

theorem steps_of_sequential {call : TableCall} (alone : call.order = none)
    {program : TableRoutine keyExchange Unit} (sequential : program.Sequential []) :
    program.Always call.Steps [] := by
  refine sequential.always.mono ?_
  intro held rest empty tables first second
  constructor
  · rintro ⟨holds, wants⟩
    rw [empty tables (by rw [wants]; rfl)] at holds
    cases holds
  · rintro ⟨ordered, _⟩
    rw [alone] at ordered
    cases ordered

theorem steps_first {call : TableCall} {first second : TableLock} {mode : LockMode}
    {effect : ProtocolState keyExchange → ProtocolState keyExchange}
    {next : ProtocolState keyExchange → TableRoutine keyExchange Unit}
    (ordered : call.order = some (first, second))
    (asks : ∀ tables, (next tables).wants = if call.goesOn tables then some second else none) :
    call.Steps [] (.acquire first mode effect next) := by
  intro tables held wanted
  simp only [LockProgram.advance, LockProgram.wants_acquire, List.map_cons, List.map_nil,
    List.mem_singleton, ordered, asks, Option.some.injEq, Prod.mk.injEq]
  cases call.goesOn tables with
  | true =>
      simp only [if_true, Option.some.injEq, and_true]
      constructor
      · rintro ⟨rfl, rfl⟩
        exact ⟨⟨rfl, rfl⟩, rfl⟩
      · rintro ⟨⟨rfl, rfl⟩, _⟩
        exact ⟨rfl, rfl⟩
  | false => simp

theorem steps_quiet {call : TableCall} {held : List (TableLock × LockMode)}
    {program : TableRoutine keyExchange Unit}
    (still : ∀ tables, (program.advance tables held).2.wants = none)
    (other : program.wants ≠ call.order.map Prod.fst ∨ program.wants = none) :
    call.Steps held program := by
  intro tables first second
  rw [still]
  constructor
  · rintro ⟨_, wants⟩
    cases wants
  · rintro ⟨ordered, wants, _⟩
    rw [ordered, wants] at other
    rcases other with other | other
    · exact absurd rfl other
    · cases other

theorem steps_access {call : TableCall}
    {effect : ProtocolState keyExchange → ProtocolState keyExchange}
    {next : ProtocolState keyExchange → TableRoutine keyExchange Unit} :
    call.Steps [] (.access effect next) := by
  intro tables first second
  constructor
  · rintro ⟨holds, _⟩
    cases holds
  · rintro ⟨_, wants, _⟩
    cases wants

theorem freeSession_steps (address : SocketAddr) :
    ((freeSession address).routine keyExchange).Always (freeSession address).Steps [] := by
  refine ⟨steps_first rfl fun _ => rfl, fun _ => ⟨?_, fun _ => ⟨?_, ?_, ?_⟩⟩⟩
  · exact steps_quiet (fun _ => rfl) (Or.inl (by simp [LockProgram.wants, order]))
  · exact steps_quiet (fun _ => rfl) (Or.inr rfl)
  · exact steps_quiet (fun _ => rfl) (Or.inr rfl)
  · exact steps_quiet (fun _ => rfl) (Or.inr rfl)

theorem newSession_steps (sessionId : SessionId) (address : SocketAddr) (appId : AppId) :
    ((newSession sessionId address appId).routine keyExchange).Always
      (newSession sessionId address appId).Steps [] := by
  refine ⟨steps_first rfl ?_, ?_⟩
  · intro tables
    cases taken : tables.sessionExists sessionId <;> simp [goesOn, taken, LockProgram.wants]
  · intro tables
    by_cases taken : tables.sessionExists sessionId = true
    · simp only [if_pos taken]
      exact ⟨steps_quiet (fun _ => rfl) (Or.inr rfl), steps_quiet (fun _ => rfl) (Or.inr rfl)⟩
    · simp only [if_neg taken]
      refine ⟨?_, fun _ => ⟨?_, ?_, ?_⟩⟩
      · exact steps_quiet (fun _ => rfl) (Or.inl (by simp [order]))
      · exact steps_quiet (fun _ => rfl) (Or.inr rfl)
      · exact steps_quiet (fun _ => rfl) (Or.inr rfl)
      · exact steps_quiet (fun _ => rfl) (Or.inr rfl)

theorem promote_steps (handshake : HandshakeState keyExchange.Secret) (newSessionId : SessionId)
    (address : SocketAddr) (handshakeId : HandshakeId) (appId : AppId) :
    ((TableRoutine.promote handshake newSessionId address appId).bind fun _ =>
        .done ()).Always (promoteHandshake newSessionId address handshakeId appId).Steps [] := by
  refine ⟨steps_first rfl ?_, ?_⟩
  · intro tables
    cases taken : tables.sessionExists newSessionId <;>
      simp [goesOn, taken, LockProgram.bind, LockProgram.wants]
  · intro tables
    by_cases taken : tables.sessionExists newSessionId = true
    · simp only [if_pos taken]
      exact ⟨steps_quiet (fun _ => rfl) (Or.inr rfl), steps_quiet (fun _ => rfl) (Or.inr rfl)⟩
    · simp only [if_neg taken]
      refine ⟨?_, fun _ => ⟨?_, ?_, ?_⟩⟩
      · exact steps_quiet (fun _ => rfl) (Or.inl (by simp [order, LockProgram.bind]))
      · exact steps_quiet (fun _ => rfl) (Or.inr rfl)
      · exact steps_quiet (fun _ => rfl) (Or.inr rfl)
      · exact steps_quiet (fun _ => rfl) (Or.inr rfl)

theorem promoteHandshake_steps (newSessionId : SessionId) (address : SocketAddr)
    (handshakeId : HandshakeId) (appId : AppId) :
    ((promoteHandshake newSessionId address handshakeId appId).routine keyExchange).Always
      (promoteHandshake newSessionId address handshakeId appId).Steps [] := by
  refine ⟨?_, ?_⟩
  · exact steps_access
  · intro tables
    beta_reduce
    cases tables.handshakes.get handshakeId with
    | none => exact steps_quiet (fun _ => rfl) (Or.inr rfl)
    | some handshake => exact promote_steps handshake newSessionId address handshakeId appId

theorem routine_steps (call : TableCall) :
    (call.routine keyExchange).Always call.Steps [] := by
  cases call with
  | freeSession address => exact freeSession_steps address
  | newSession sessionId address appId => exact newSession_steps sessionId address appId
  | promoteHandshake newSessionId address handshakeId appId =>
      exact promoteHandshake_steps newSessionId address handshakeId appId
  | moveSession sourceAddress sessionId destinationAddress =>
      exact steps_of_sequential rfl ((TableRoutine.moveSession_sequential _ _ _).bind fun _ => rfl)
  | remove address sessionId =>
      exact steps_of_sequential rfl ((TableRoutine.remove_sequential _ _).bind fun _ => rfl)
  | updateAddress sessionId new =>
      exact steps_of_sequential rfl ((TableRoutine.updateAddress_sequential _ _).bind fun _ => rfl)
  | closeSession sessionId =>
      exact steps_of_sequential rfl (TableRoutine.closeSession_sequential sessionId)

end TableCall

/-! ## The state of the locks -/

abbrev TableTasks {Key : Type u} (keyExchange : KeyExchange Key) :=
  LockState TableCall TableLock (ProtocolState keyExchange)

namespace TableTasks

variable {Key : Type u} {keyExchange : KeyExchange Key}

def machine (keyExchange : KeyExchange Key) :
    Machine (TableTasks keyExchange) (LockLabel TableCall) :=
  LockState.machine (TableCall.routine keyExchange)

/-- Where the tasks are: each at a place of its routine, and between two locks only in the order
of its call. -/
structure Tracked (state : TableTasks keyExchange) : Prop where
  placed : state.Placed TableCall.Steps
  ordered : ∀ task ∈ state.tasks, ∀ first second, task.Between first second →
    task.call.order = some (first, second)

/-- One task stands between the two locks this way, one the other way. -/
def Crossed (state : TableTasks keyExchange) : Prop :=
  ∃ first second, (∃ task ∈ state.tasks, task.Between first second) ∧
    ∃ peer ∈ state.tasks, peer.Between second first

def Uncrossed (state : TableTasks keyExchange) : Prop := state.Tracked ∧ ¬ state.Crossed

/-- No call that goes on takes its first lock while a task stands between the two the other way
round. -/
def Apart (state : TableTasks keyExchange) : LockLabel TableCall → Prop
  | .call _ => True
  | .run index =>
      ∀ task first second, state.tasks[index]? = some task →
        task.call.order = some (first, second) → task.wants = some first →
        task.call.goesOn state.memory = true →
        ∀ peer ∈ state.tasks, ¬ peer.Between second first

theorem tracked_of_empty {state : TableTasks keyExchange} (empty : state.tasks = []) :
    state.Tracked := by
  constructor
  · intro task listed
    rw [empty] at listed
    cases listed
  · intro task listed
    rw [empty] at listed
    cases listed

variable {state next : TableTasks keyExchange}

/-- The moved task stands between two locks exactly when it has taken the first one of a call that
goes on. -/
theorem Tracked.between_advance (tracked : state.Tracked)
    {task : LockTask TableCall TableLock (ProtocolState keyExchange)} (listed : task ∈ state.tasks)
    (first second : TableLock) :
    (task.advance state.memory).Between first second ↔
      (task.call.order = some (first, second) ∧ task.wants = some first ∧
        task.call.goesOn state.memory = true) :=
  (tracked.placed task listed).here state.memory first second

theorem Tracked.step (tracked : state.Tracked) {label : LockLabel TableCall}
    (stepped : (machine keyExchange).step state label = some next) : next.Tracked := by
  refine ⟨LockState.step_placed TableCall.routine_steps tracked.placed stepped, ?_⟩
  cases label with
  | call call =>
      cases stepped
      intro task listed first second between
      rcases List.mem_append.mp listed with before | new
      · exact tracked.ordered task before first second between
      · rw [List.mem_singleton] at new
        rw [new] at between
        cases between.1
  | run index =>
      obtain ⟨task, found, moved⟩ := LockState.run_eq_some stepped
      intro other listed first second between
      rw [moved] at listed
      rcases List.mem_or_eq_of_mem_set listed with before | rfl
      · exact tracked.ordered other before first second between
      · exact ((tracked.between_advance (List.mem_of_getElem? found) first second).mp between).1

theorem ne_of_order {call : TableCall} {first second : TableLock}
    (ordered : call.order = some (first, second)) : first ≠ second := by
  rintro rfl
  cases call <;> simp [TableCall.order] at ordered <;> exact absurd ordered.1 (by simp [← ordered.2])

theorem Tracked.ne_of_between (tracked : state.Tracked)
    {task : LockTask TableCall TableLock (ProtocolState keyExchange)} (listed : task ∈ state.tasks)
    {first second : TableLock} (between : task.Between first second) : first ≠ second :=
  ne_of_order (tracked.ordered task listed first second between)

theorem Tracked.not_deadlocked (tracked : state.Tracked) {lowest : TableLock}
    (none : ∀ task ∈ state.tasks, ∀ first, ¬ task.Between first lowest) : ¬ state.Deadlocked := by
  have ordered : ∀ task ∈ state.tasks, ∀ held wanted, task.Between held wanted →
      TableLock.rank lowest held < TableLock.rank lowest wanted := by
    intro task listed held wanted between
    have distinct := tracked.ne_of_between listed between
    have other : wanted ≠ lowest := by
      rintro rfl
      exact none task listed held between
    cases held <;> cases wanted <;> cases lowest <;> simp_all [TableLock.rank]
  exact LockState.not_deadlocked_of_rank ordered

theorem Tracked.deadlocked_iff (tracked : state.Tracked) : state.Deadlocked ↔ state.Crossed := by
  constructor
  · intro deadlocked
    by_contra straight
    have waits : ∀ lowest, ∃ task ∈ state.tasks, ∃ first, task.Between first lowest := by
      intro lowest
      by_contra none
      push Not at none
      exact tracked.not_deadlocked none deadlocked
    obtain ⟨task, listed, first, between⟩ := waits .connections
    obtain ⟨peer, peerListed, second, opposite⟩ := waits .addressSession
    have distinct := tracked.ne_of_between listed between
    have other := tracked.ne_of_between peerListed opposite
    cases first with
    | connections => exact absurd rfl distinct
    | addressSession =>
        cases second with
        | addressSession => exact absurd rfl other
        | connections =>
            exact straight ⟨_, _, ⟨task, listed, between⟩, peer, peerListed, opposite⟩
  · rintro ⟨first, second, ⟨task, listed, between⟩, peer, peerListed, opposite⟩
    exact LockState.deadlocked_of_between listed peerListed between opposite

/-- Who stands between two locks after a step: those who did and were not moved, and the moved task
if it has taken its first lock. -/
theorem Tracked.between_step (tracked : state.Tracked) {index : Nat}
    {task : LockTask TableCall TableLock (ProtocolState keyExchange)}
    (found : state.tasks[index]? = some task)
    (moved : next.tasks = state.tasks.set index (task.advance state.memory))
    {first second : TableLock} :
    (∃ other ∈ next.tasks, other.Between first second) →
      (∃ other ∈ state.tasks, other.Between first second) ∨
        (task.call.order = some (first, second) ∧ task.wants = some first ∧
          task.call.goesOn state.memory = true) := by
  rintro ⟨other, listed, between⟩
  rw [moved] at listed
  rcases List.mem_or_eq_of_mem_set listed with before | rfl
  · exact Or.inl ⟨other, before, between⟩
  · exact Or.inr ((tracked.between_advance (List.mem_of_getElem? found) first second).mp between)

omit next in
theorem between_call {call : TableCall} {first second : TableLock} :
    (∃ other ∈ (LockState.call state (TableCall.routine keyExchange) call).tasks,
      other.Between first second) → ∃ other ∈ state.tasks, other.Between first second := by
  rintro ⟨other, listed, between⟩
  rcases List.mem_append.mp listed with before | new
  · exact ⟨other, before, between⟩
  · rw [List.mem_singleton] at new
    rw [new] at between
    cases between.1

/-- From a state where nobody crosses, a step leads to one where nobody does exactly when it keeps
the calls apart. -/
theorem Tracked.not_crossed_iff (tracked : state.Tracked) (straight : ¬ state.Crossed)
    {label : LockLabel TableCall} (stepped : (machine keyExchange).step state label = some next) :
    ¬ next.Crossed ↔ state.Apart label := by
  cases label with
  | call call =>
      cases stepped
      refine ⟨fun _ => trivial, fun _ => ?_⟩
      rintro ⟨first, second, one, other⟩
      exact straight ⟨first, second, between_call one, between_call other⟩
  | run index =>
      obtain ⟨task, found, moved⟩ := LockState.run_eq_some stepped
      have listed := List.mem_of_getElem? found
      constructor
      · intro apart other first second same ordered wants goesOn peer peerListed opposite
        cases Option.some.inj (found.symm.trans same)
        have distinct := ne_of_order ordered
        have between := (tracked.between_advance listed first second).mpr ⟨ordered, wants, goesOn⟩
        obtain ⟨place, there⟩ := List.mem_iff_getElem?.mp peerListed
        -- the moved task does not stand the other way round itself
        have elsewhere : index ≠ place := by
          rintro rfl
          cases Option.some.inj (found.symm.trans there)
          have reversed := tracked.ordered task listed second first opposite
          cases Option.some.inj (ordered.symm.trans reversed)
          exact distinct rfl
        have kept : peer ∈ next.tasks := by
          apply List.mem_of_getElem? (i := place)
          rw [moved, List.getElem?_set_ne elsewhere, there]
        have inside : index < state.tasks.length := (List.getElem?_eq_some_iff.mp found).1
        have new : task.advance state.memory ∈ next.tasks := by
          rw [moved]
          exact List.mem_set inside _
        exact apart ⟨first, second, ⟨_, new, between⟩, peer, kept, opposite⟩
      · rintro apart ⟨first, second, one, other⟩
        rcases tracked.between_step found moved one with one | ⟨ordered, wants, goesOn⟩
        · rcases tracked.between_step found moved other with other | ⟨ordered, wants, goesOn⟩
          · exact straight ⟨first, second, one, other⟩
          · obtain ⟨peer, peerListed, between⟩ := one
            exact apart task second first found ordered wants goesOn peer peerListed between
        · rcases tracked.between_step found moved other with other | ⟨opposite, _, _⟩
          · obtain ⟨peer, peerListed, between⟩ := other
            exact apart task first second found ordered wants goesOn peer peerListed between
          · exact ne_of_order ordered (Prod.mk.inj (Option.some.inj (ordered.symm.trans opposite))).1

/-- In every run that starts without calls, no state has a cycle of waiting tasks if and only if
every step keeps `free_session` apart from the calls that store a session. -/
theorem not_deadlocked_along_iff (keyExchange : KeyExchange Key)
    (first final : TableTasks keyExchange) (labels : List (LockLabel TableCall))
    (empty : first.tasks = []) (ran : (machine keyExchange).run first labels = some final) :
    (machine keyExchange).HoldsAlong (fun state => ¬ state.Deadlocked) first labels ↔
      (machine keyExchange).Guarded Apart first labels := by
  have start : first.Uncrossed := by
    refine ⟨tracked_of_empty empty, ?_⟩
    rintro ⟨_, _, ⟨task, listed, _⟩, _⟩
    rw [empty] at listed
    cases listed
  refine (machine keyExchange).holdsAlong_iff_guarded_of_invariant ?_ ?_ start ran
  · intro state label next ⟨tracked, straight⟩ stepped
    rw [(tracked.step stepped).deadlocked_iff]
    exact tracked.not_crossed_iff straight stepped
  · intro state label next ⟨tracked, straight⟩ apart stepped
    exact ⟨tracked.step stepped, (tracked.not_crossed_iff straight stepped).mpr apart⟩

/-- A call of `free_session` that is over before a session is stored. -/
theorem not_deadlocked_along_iff_apart :
    (machine EncryptedSession.productExchange).HoldsAlong (fun state => ¬ state.Deadlocked)
        ⟨ProtocolState.empty, []⟩
        [.call (.freeSession ⟨[127, 0, 0, 1], 80⟩), .run 0, .run 0, .run 0, .run 0,
          .call (.newSession ⟨10⟩ ⟨[127, 0, 0, 1], 80⟩ ⟨[]⟩), .run 1, .run 1] ↔
      (machine EncryptedSession.productExchange).Guarded Apart ⟨ProtocolState.empty, []⟩
        [.call (.freeSession ⟨[127, 0, 0, 1], 80⟩), .run 0, .run 0, .run 0, .run 0,
          .call (.newSession ⟨10⟩ ⟨[127, 0, 0, 1], 80⟩ ⟨[]⟩), .run 1, .run 1] :=
  not_deadlocked_along_iff EncryptedSession.productExchange _ _ _ rfl rfl

/-- `free_session` has the addresses, `new_session` has the connections, and neither task can
move. -/
theorem freeSession_crosses_newSession :
    ∃ state, (machine EncryptedSession.productExchange).run ⟨ProtocolState.empty, []⟩
        [.call (.freeSession ⟨[127, 0, 0, 1], 80⟩),
          .call (.newSession ⟨10⟩ ⟨[127, 0, 0, 1], 80⟩ ⟨[]⟩), .run 0, .run 1] = some state ∧
      state.Deadlocked ∧ state.tasks.length = 2 ∧ state.run 0 = none ∧ state.run 1 = none := by
  refine ⟨_, rfl, ?_, rfl, rfl, rfl⟩
  exact @LockState.deadlocked_of_between _ _ _ _ _ _ TableLock.addressSession .connections
    List.mem_cons_self (List.mem_cons_of_mem _ List.mem_cons_self) ⟨List.mem_cons_self, rfl⟩
    ⟨List.mem_cons_self, rfl⟩

end TableTasks
end Ubass

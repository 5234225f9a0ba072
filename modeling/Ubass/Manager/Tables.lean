import Ubass.Lib.Machine
import Ubass.Manager.Sessions

/-!
# The tables agree

Connections, index and keys are edited by different handlers.  `Consistent` is
what the tables promise each other; `Tracked` says the same by counting how
often each address lists each session, which is what a handler changes by one.
-/

set_option autoImplicit false

namespace Ubass

universe u

/-! ## The index -/

namespace AddressSessionIdTable

/-- Every address lists the sessions that have it, each once, and no others. -/
def Counts (self : AddressSessionIdTable) (addressOf : SessionId → Option SocketAddr) : Prop :=
  ∀ sessionId address,
    (self.sessions address).count sessionId = if addressOf sessionId = some address then 1 else 0

variable {self : AddressSessionIdTable} {addressOf : SessionId → Option SocketAddr}
  {sessionId : SessionId} {address : SocketAddr}

theorem Counts.mem_iff (counts : self.Counts addressOf) :
    sessionId ∈ self.sessions address ↔ addressOf sessionId = some address := by
  rw [← List.count_pos_iff, counts]
  split <;> simp_all

theorem Counts.push (counts : self.Counts addressOf) (vacant : addressOf sessionId = none) :
    (self.push address sessionId).Counts (Function.update addressOf sessionId (some address)) := by
  intro other place
  rw [count_push, counts]
  by_cases here : other = sessionId
  · subst here
    rw [vacant, Function.update_self]
    simp [eq_comm]
  · rw [Function.update_of_ne here]
    simp [here]

theorem Counts.remove (counts : self.Counts addressOf)
    (present : addressOf sessionId = some address) :
    ∃ removed, self.remove address sessionId = some removed ∧
      removed.Counts (Function.update addressOf sessionId none) := by
  obtain ⟨removed, found, unlisted⟩ := remove_eq_some (counts.mem_iff.mpr present)
  refine ⟨removed, found, ?_⟩
  intro other place
  have before := unlisted place other
  rw [counts] at before
  by_cases here : other = sessionId
  · subst here
    rw [present] at before
    rw [Function.update_self, if_neg (by simp)]
    simp only [Option.some.injEq, and_true, @eq_comm _ place] at before
    omega
  · rw [Function.update_of_ne here, ← before]
    simp [here]

theorem Counts.moveSession (counts : self.Counts addressOf)
    (present : addressOf sessionId = some address) (new : SocketAddr) :
    ∃ moved, self.moveSession address sessionId new = some moved ∧
      moved.Counts (Function.update addressOf sessionId (some new)) := by
  obtain ⟨removed, found, rest⟩ := counts.remove present
  refine ⟨removed.push new sessionId, by rw [AddressSessionIdTable.moveSession, found]; rfl, ?_⟩
  have pushed := @Counts.push _ _ sessionId new rest (Function.update_self _ _ _)
  rwa [Function.update_idem] at pushed

end AddressSessionIdTable

def addressOf (connections : Table SessionId ConnectionStates) (sessionId : SessionId) :
    Option SocketAddr :=
  (connections.get sessionId).map ConnectionStates.address

theorem addressOf_insert (connections : Table SessionId ConnectionStates) (sessionId : SessionId)
    (connection : ConnectionStates) :
    addressOf (connections.insert sessionId connection) =
      Function.update (addressOf connections) sessionId (some connection.address) := by
  funext other
  by_cases here : other = sessionId
  · rw [here, Function.update_self, addressOf, Table.get_insert_self, Option.map_some]
  · rw [Function.update_of_ne here, addressOf, Table.get_insert_of_ne _ _ here, addressOf]

theorem addressOf_remove (connections : Table SessionId ConnectionStates)
    (sessionId : SessionId) :
    addressOf (connections.remove sessionId) =
      Function.update (addressOf connections) sessionId none := by
  funext other
  by_cases here : other = sessionId
  · rw [here, Function.update_self, addressOf, Table.get_remove_self, Option.map_none]
  · rw [Function.update_of_ne here, addressOf, Table.get_remove_of_ne _ here, addressOf]

/-! ## The tables -/

namespace ProtocolState

variable {Key : Type u} {keyExchange : KeyExchange Key}

/-- The address lists the session exactly once and no other address lists it. -/
def ListedOnly (self : ProtocolState keyExchange) (sessionId : SessionId) (address : SocketAddr) :
    Prop :=
  (self.addressSession.sessions address).count sessionId = 1 ∧
    ∀ other, other ≠ address → sessionId ∉ self.addressSession.sessions other

def Stored (connections : Table SessionId ConnectionStates) : Prop :=
  ∀ sessionId connection, connections.get sessionId = some connection →
    connection.sessionId = sessionId

structure Consistent (state : ProtocolState keyExchange) : Prop where
  listed : ∀ sessionId address,
    addressOf state.connections sessionId = some address ↔ state.ListedOnly sessionId address
  stored : Stored state.connections
  keyed : ∀ sessionId, state.encryption.contains sessionId = true →
    state.connections.contains sessionId = true

/-- The tables agree, by what the handlers count. -/
structure Tracked (state : ProtocolState keyExchange) : Prop where
  counts : state.addressSession.Counts (addressOf state.connections)
  stored : Stored state.connections
  keyed : ∀ sessionId, state.encryption.contains sessionId = true →
    state.connections.contains sessionId = true

theorem Tracked.consistent {self : ProtocolState keyExchange} (tracked : self.Tracked) :
    self.Consistent where
  listed := by
    intro sessionId address
    constructor
    · intro current
      refine ⟨by rw [tracked.counts, if_pos current], ?_⟩
      intro other different listed
      have alsoCurrent := tracked.counts.mem_iff.mp listed
      exact different (Option.some.inj (alsoCurrent.symm.trans current))
    · rintro ⟨once, _⟩
      exact tracked.counts.mem_iff.mp (List.count_pos_iff.mp (by omega))
  stored := tracked.stored
  keyed := tracked.keyed

theorem empty_tracked : (empty : ProtocolState keyExchange).Tracked where
  counts _ _ := rfl
  stored := by
    intro sessionId connection present
    cases present
  keyed := by
    intro sessionId present
    cases present

theorem stored_insert {connections : Table SessionId ConnectionStates} (stored : Stored connections)
    {sessionId : SessionId} {connection : ConnectionStates}
    (own : connection.sessionId = sessionId) :
    Stored (connections.insert sessionId connection) := by
  intro other present found
  rw [Table.get_insert] at found
  split at found
  · rename_i same
    cases Option.some.inj found
    exact own.trans same.symm
  · exact stored other present found

theorem stored_remove {connections : Table SessionId ConnectionStates} (stored : Stored connections)
    (sessionId : SessionId) : Stored (connections.remove sessionId) := by
  intro other present found
  exact stored other present (Table.get_of_get_remove found).2

/-! ## What the handlers keep -/

variable {self : ProtocolState keyExchange}

theorem key_tracked (tracked : self.Tracked) {sessionId : SessionId}
    (present : self.connections.contains sessionId = true) (window : EncryptionWindow Key) :
    Tracked { self with encryption := self.encryption.insert sessionId window } where
  counts := tracked.counts
  stored := tracked.stored
  keyed := by
    intro other key
    rcases (Table.contains_insert _ _ _ _).mp key with rfl | old
    · exact present
    · exact tracked.keyed other old

theorem handshakes_tracked (tracked : self.Tracked)
    (handshakes : Table HandshakeId (HandshakeState keyExchange.Secret)) :
    Tracked { self with handshakes := handshakes } :=
  ⟨tracked.counts, tracked.stored, tracked.keyed⟩

theorem insert_tracked (tracked : self.Tracked) {sessionId : SessionId}
    (vacant : self.connections.get sessionId = none) {connection : ConnectionStates}
    (own : connection.sessionId = sessionId) :
    Tracked { self with
      connections := self.connections.insert sessionId connection
      addressSession := self.addressSession.push connection.address sessionId } where
  counts := by
    rw [addressOf_insert]
    exact tracked.counts.push (by rw [addressOf, vacant, Option.map_none])
  stored := stored_insert tracked.stored own
  keyed := by
    intro other key
    exact (Table.contains_insert _ _ _ _).mpr (Or.inr (tracked.keyed other key))

theorem newSession_tracked (tracked : self.Tracked) (sessionId : SessionId) (address : SocketAddr)
    (appId : AppId) :
    (self.newSession sessionId address appId).Tracked ∧
      (self.newSession sessionId address appId).connections.contains sessionId = true := by
  unfold newSession
  by_cases exist : self.sessionExists sessionId = true
  · rw [if_pos exist]
    exact ⟨tracked, exist⟩
  · rw [if_neg exist]
    refine ⟨insert_tracked tracked ?_ rfl, (Table.contains_insert _ _ _ _).mpr (Or.inl rfl)⟩
    simpa [sessionExists, Table.contains] using exist

theorem handshakeDone_tracked (tracked : self.Tracked) (sessionId : SessionId) :
    (self.handshakeDone sessionId).Tracked := by
  unfold handshakeDone
  have replaced : ∀ before after : ConnectionStates, self.connections.get sessionId = some before →
      after.sessionId = sessionId → after.address = before.address →
      Tracked { self with
        connections := (self.connections.remove sessionId).insert sessionId after } := by
    intro before after present own address
    refine ⟨?_, stored_insert (stored_remove tracked.stored _) own, ?_⟩
    · have same : Function.update (addressOf self.connections) sessionId (some after.address) =
          addressOf self.connections := by
        rw [address]
        exact Function.update_eq_self_iff.mpr (by rw [addressOf, present, Option.map_some])
      rw [addressOf_insert, addressOf_remove, Function.update_idem, same]
      exact tracked.counts
    · intro other key
      rw [Table.contains_insert, Table.contains_remove]
      by_cases here : other = sessionId
      · exact Or.inl here
      · exact Or.inr ⟨here, tracked.keyed other key⟩
  cases present : self.connections.get sessionId with
  | none => exact tracked
  | some connection =>
      have own := tracked.stored sessionId connection present
      cases connection with
      | handshake inner appId address =>
          cases own
          exact replaced _ _ present rfl rfl
      | established session => exact replaced _ _ present own rfl

theorem updateAddress_tracked (tracked : self.Tracked) (sessionId : SessionId)
    (new : SocketAddr) : (self.updateAddress sessionId new).1.Tracked := by
  unfold updateAddress
  cases present : self.connections.get sessionId with
  | none => exact tracked
  | some connection =>
      by_cases same : new = connection.address
      · simp only [if_pos same]
        exact tracked
      · have current : addressOf self.connections sessionId = some connection.address := by
          rw [addressOf, present, Option.map_some]
        obtain ⟨moved, found, counts⟩ := tracked.counts.moveSession current new
        simp only [if_neg same, found]
        refine ⟨?_, ?_, ?_⟩
        · rw [addressOf_insert]
          have address : (connection.updateAddress new).address = new := by
            cases connection <;> rfl
          rw [address]
          exact counts
        · have own : (connection.updateAddress new).sessionId = connection.sessionId := by
            cases connection <;> rfl
          exact stored_insert tracked.stored (own.trans (tracked.stored _ _ present))
        · intro other key
          exact (Table.contains_insert _ _ _ _).mpr (Or.inr (tracked.keyed other key))

theorem closeSession_tracked (tracked : self.Tracked) (sessionId : SessionId) :
    (self.closeSession sessionId).Tracked := by
  unfold closeSession
  cases present : self.connections.get sessionId with
  | none => exact tracked
  | some connection =>
      have current : addressOf self.connections sessionId = some connection.address := by
        rw [addressOf, present, Option.map_some]
      obtain ⟨removed, found, counts⟩ := tracked.counts.remove current
      simp only [found]
      refine ⟨?_, stored_remove tracked.stored _, ?_⟩
      · rw [addressOf_remove]
        exact counts
      · intro other key
        obtain ⟨different, kept⟩ := (Table.contains_remove _ _ _).mp key
        exact (Table.contains_remove _ _ _).mpr ⟨different, tracked.keyed other kept⟩

end ProtocolState

/-! ## Runs -/

/-- The handlers that edit the tables, with what they draw at random or get from the network. -/
inductive TableLabel {Key : Type u} (keyExchange : KeyExchange Key) where
  /-- `connect` -/
  | newHandshake (handshakeId : HandshakeId) (peerAddress : SocketAddr)
      (ephemeralSecret : keyExchange.Secret) (sessionId : SessionId)
  | newSession (sessionId : SessionId) (address : SocketAddr) (appId : AppId)
  | helloAsReceiver (packet : HelloPacket) (srcAddr : SocketAddr) (generated : SessionId)
      (ephemeralSecret : keyExchange.Secret)
  | helloAsInitializer (packet : HelloPacket) (srcAddr : SocketAddr)
      (ephemeralSecret : keyExchange.Secret) (newHandshakeId : HandshakeId)
  | promoteHandshake (newSessionId : SessionId) (address : SocketAddr) (handshakeId : HandshakeId)
      (appId : AppId)
  | reuseHandshake (sessionId : SessionId) (handshakeId : HandshakeId)
      (ephemeralSecret : keyExchange.Secret) (newHandshakeId : HandshakeId)
  | handshakeDone (sessionId : SessionId)
  | updateAddress (sessionId : SessionId) (new : SocketAddr)
  | closeSession (sessionId : SessionId)
  | handshakeRejected (packet : HandshakeRejection)

namespace ProtocolState

variable {Key : Type u} {keyExchange : KeyExchange Key} {self next : ProtocolState keyExchange}

def step (self : ProtocolState keyExchange) :
    TableLabel keyExchange → Option (ProtocolState keyExchange)
  | .newHandshake handshakeId peerAddress ephemeralSecret sessionId =>
      some (self.newHandshake handshakeId peerAddress ephemeralSecret sessionId)
  | .newSession sessionId address appId => some (self.newSession sessionId address appId)
  | .helloAsReceiver packet srcAddr generated ephemeralSecret =>
      some (self.helloAsReceiver packet srcAddr generated ephemeralSecret)
  | .helloAsInitializer packet srcAddr ephemeralSecret newHandshakeId =>
      some (self.helloAsInitializer packet srcAddr ephemeralSecret newHandshakeId)
  | .promoteHandshake newSessionId address handshakeId appId =>
      some (self.promoteHandshake newSessionId address handshakeId appId).1
  | .reuseHandshake sessionId handshakeId ephemeralSecret newHandshakeId =>
      some (self.reuseHandshake sessionId handshakeId ephemeralSecret newHandshakeId).1
  | .handshakeDone sessionId => some (self.handshakeDone sessionId)
  | .updateAddress sessionId new => some (self.updateAddress sessionId new).1
  | .closeSession sessionId => some (self.closeSession sessionId)
  | .handshakeRejected packet => some (self.receivedHandshakeRejectedPacket packet)

/-- The protocol starts with empty tables. -/
def machine (keyExchange : KeyExchange Key) :
    Machine (ProtocolState keyExchange) (TableLabel keyExchange) where
  initial state := state = empty
  step := step

/-- A promotion under this id stores a connection that holds the same id. -/
def PromotesOwn (self : ProtocolState keyExchange) (newSessionId : SessionId)
    (handshakeId : HandshakeId) : Prop :=
  ∀ handshake, self.handshakes.get handshakeId = some handshake →
    self.sessionExists newSessionId = false → handshake.sessionId = newSessionId

/-- The steps that keep the tables together: a handshake is only promoted under the id it was
made with, and an id collision is only reported for a session that does not exist. -/
def Sound (self : ProtocolState keyExchange) : TableLabel keyExchange → Prop
  | .promoteHandshake newSessionId _ handshakeId _ => self.PromotesOwn newSessionId handshakeId
  | .helloAsInitializer packet _ _ _ =>
      self.PromotesOwn packet.proposedSessionId packet.handshakeId
  | .handshakeRejected packet =>
      packet.reason = .idCollision → self.sessionExists packet.sessionId = false
  | _ => True

theorem get_of_not_exists {sessionId : SessionId} (vacant : self.sessionExists sessionId = false) :
    self.connections.get sessionId = none := by
  simpa [sessionExists, Table.contains] using vacant

theorem reuseHandshake_tracked (tracked : self.Tracked) (sessionId : SessionId)
    (handshakeId : HandshakeId) (ephemeralSecret : keyExchange.Secret)
    (newHandshakeId : HandshakeId) :
    (self.reuseHandshake sessionId handshakeId ephemeralSecret newHandshakeId).1.Tracked := by
  unfold reuseHandshake
  cases self.handshakes.get handshakeId with
  | none => exact tracked
  | some handshake => exact handshakes_tracked tracked _

/-- A promotion under the id of the handshake.  When it answers with the secret, the session
exists. -/
theorem promoteHandshake_tracked (tracked : self.Tracked) {newSessionId : SessionId}
    {handshakeId : HandshakeId} (own : self.PromotesOwn newSessionId handshakeId)
    (address : SocketAddr) (appId : AppId) :
    (self.promoteHandshake newSessionId address handshakeId appId).1.Tracked ∧
      ((self.promoteHandshake newSessionId address handshakeId appId).2.isSome →
        (self.promoteHandshake newSessionId address handshakeId appId).1.connections.contains
          newSessionId = true) := by
  unfold promoteHandshake
  cases taken : self.handshakes.get handshakeId with
  | none => exact ⟨tracked, fun impossible => nomatch impossible⟩
  | some handshake =>
      have kept := handshakes_tracked tracked (self.handshakes.remove handshakeId)
      cases exist : self.sessionExists newSessionId with
      | true =>
          have stillExist : sessionExists { self with
              handshakes := self.handshakes.remove handshakeId } newSessionId = true := exist
          simp only [stillExist, if_true]
          exact ⟨kept, fun _ => exist⟩
      | false =>
          have stillVacant : sessionExists { self with
              handshakes := self.handshakes.remove handshakeId } newSessionId = false := exist
          have same := own handshake taken exist
          subst same
          simp only [stillVacant, Bool.false_eq_true, if_false]
          refine ⟨insert_tracked kept (get_of_not_exists exist) rfl, fun _ => ?_⟩
          exact (Table.contains_insert _ _ _ _).mpr (Or.inl rfl)

theorem promoteHandshake_not_stored {newSessionId : SessionId} {handshakeId : HandshakeId}
    (other : ¬ self.PromotesOwn newSessionId handshakeId) (address : SocketAddr)
    (appId : AppId) :
    ¬ Stored (self.promoteHandshake newSessionId address handshakeId appId).1.connections := by
  unfold PromotesOwn at other
  push Not at other
  obtain ⟨handshake, taken, vacant, different⟩ := other
  intro stored
  have stillVacant : sessionExists { self with
      handshakes := self.handshakes.remove handshakeId } newSessionId = false := vacant
  simp only [promoteHandshake, taken, stillVacant, Bool.false_eq_true, if_false] at stored
  exact different (stored newSessionId _ (Table.get_insert_self _ _ _))

theorem helloAsReceiver_tracked (tracked : self.Tracked) (packet : HelloPacket)
    (srcAddr : SocketAddr) (generated : SessionId) (ephemeralSecret : keyExchange.Secret) :
    (self.helloAsReceiver packet srcAddr generated ephemeralSecret).Tracked := by
  obtain ⟨opened, present⟩ := newSession_tracked tracked
    (if self.sessionExists packet.proposedSessionId then generated
      else packet.proposedSessionId) srcAddr packet.appId
  exact key_tracked opened present _

/-- An answer to a `Hello` keeps the tables together exactly when it does not promote the
handshake under another id. -/
theorem helloAsInitializer_tracked (tracked : self.Tracked) (packet : HelloPacket)
    (own : self.PromotesOwn packet.proposedSessionId packet.handshakeId) (srcAddr : SocketAddr)
    (ephemeralSecret : keyExchange.Secret) (newHandshakeId : HandshakeId) :
    (self.helloAsInitializer packet srcAddr ephemeralSecret newHandshakeId).Tracked := by
  unfold helloAsInitializer
  split
  · exact reuseHandshake_tracked tracked _ _ _ _
  · obtain ⟨promoted, exist⟩ := promoteHandshake_tracked tracked own srcAddr packet.appId
    rcases result : self.promoteHandshake packet.proposedSessionId srcAddr packet.handshakeId
      packet.appId with ⟨state, _ | secret⟩
    · rw [result] at promoted
      exact promoted
    · rw [result] at promoted exist
      exact key_tracked promoted (exist rfl) _

theorem helloAsInitializer_not_stored {packet : HelloPacket}
    (other : ¬ self.PromotesOwn packet.proposedSessionId packet.handshakeId)
    (srcAddr : SocketAddr) (ephemeralSecret : keyExchange.Secret)
    (newHandshakeId : HandshakeId) :
    ¬ Stored (self.helloAsInitializer packet srcAddr ephemeralSecret
      newHandshakeId).connections := by
  have notStored := promoteHandshake_not_stored other srcAddr packet.appId
  have vacant : self.sessionExists packet.proposedSessionId = false := by
    unfold PromotesOwn at other
    push Not at other
    obtain ⟨_, _, vacant, _⟩ := other
    exact vacant
  simp only [helloAsInitializer, vacant, Bool.false_eq_true, if_false]
  rcases result : self.promoteHandshake packet.proposedSessionId srcAddr packet.handshakeId
    packet.appId with ⟨state, _ | secret⟩
  · rw [result] at notStored
    exact notStored
  · rw [result] at notStored
    exact notStored

theorem rejected_not_consistent (tracked : self.Tracked) {packet : HandshakeRejection}
    (collision : packet.reason = .idCollision)
    (exist : self.sessionExists packet.sessionId = true) :
    ¬ (self.receivedHandshakeRejectedPacket packet).Consistent := by
  intro consistent
  simp only [receivedHandshakeRejectedPacket, collision] at consistent
  obtain ⟨connection, present⟩ := Option.isSome_iff_exists.mp exist
  have current : addressOf self.connections packet.sessionId = some connection.address := by
    rw [addressOf, present, Option.map_some]
  have stillListed := (consistent.listed packet.sessionId connection.address).mpr
    ((tracked.consistent.listed _ _).mp current)
  simp only [addressOf, Table.get_remove_self] at stillListed
  cases stillListed

theorem rejected_tracked (tracked : self.Tracked) {packet : HandshakeRejection}
    (vacant : packet.reason = .idCollision → self.sessionExists packet.sessionId = false) :
    (self.receivedHandshakeRejectedPacket packet).Tracked := by
  unfold receivedHandshakeRejectedPacket
  cases reason : packet.reason with
  | app => exact handshakes_tracked tracked _
  | idCollision =>
      have gone : self.connections.remove packet.sessionId = self.connections := by
        refine Table.ext fun other => ?_
        rw [Table.get_remove]
        split
        · rename_i here
          rw [here, get_of_not_exists (vacant reason)]
        · rfl
      simp only [gone]
      exact tracked

theorem sound_tracked {label : TableLabel keyExchange} (tracked : self.Tracked)
    (sound : self.Sound label) (stepped : self.step label = some next) : next.Tracked := by
  cases label with
  | newHandshake handshakeId peerAddress ephemeralSecret sessionId =>
      cases Option.some.inj stepped
      exact handshakes_tracked tracked _
  | newSession sessionId address appId =>
      cases Option.some.inj stepped
      exact (newSession_tracked tracked sessionId address appId).1
  | helloAsReceiver packet srcAddr generated ephemeralSecret =>
      cases Option.some.inj stepped
      exact helloAsReceiver_tracked tracked packet srcAddr generated ephemeralSecret
  | helloAsInitializer packet srcAddr ephemeralSecret newHandshakeId =>
      cases Option.some.inj stepped
      exact helloAsInitializer_tracked tracked packet sound srcAddr ephemeralSecret newHandshakeId
  | promoteHandshake newSessionId address handshakeId appId =>
      cases Option.some.inj stepped
      exact (promoteHandshake_tracked tracked sound address appId).1
  | reuseHandshake sessionId handshakeId ephemeralSecret newHandshakeId =>
      cases Option.some.inj stepped
      exact reuseHandshake_tracked tracked sessionId handshakeId ephemeralSecret newHandshakeId
  | handshakeDone sessionId =>
      cases Option.some.inj stepped
      exact handshakeDone_tracked tracked sessionId
  | updateAddress sessionId new =>
      cases Option.some.inj stepped
      exact updateAddress_tracked tracked sessionId new
  | closeSession sessionId =>
      cases Option.some.inj stepped
      exact closeSession_tracked tracked sessionId
  | handshakeRejected packet =>
      cases Option.some.inj stepped
      exact rejected_tracked tracked sound

theorem consistent_sound {label : TableLabel keyExchange} (tracked : self.Tracked)
    (stepped : self.step label = some next) (consistent : next.Consistent) : self.Sound label := by
  cases label with
  | helloAsInitializer packet srcAddr ephemeralSecret newHandshakeId =>
      cases Option.some.inj stepped
      by_contra other
      exact helloAsInitializer_not_stored other srcAddr ephemeralSecret newHandshakeId
        consistent.stored
  | promoteHandshake newSessionId address handshakeId appId =>
      cases Option.some.inj stepped
      by_contra other
      exact promoteHandshake_not_stored other address appId consistent.stored
  | handshakeRejected packet =>
      cases Option.some.inj stepped
      intro collision
      cases exist : self.sessionExists packet.sessionId with
      | false => rfl
      | true => exact absurd consistent (rejected_not_consistent tracked collision exist)
  | _ => trivial

/-- In every run from empty tables, the tables agree after each handler if and only if no
handshake is promoted under an id that is not its own and no id collision is reported for a
session that exists. -/
theorem consistent_along_iff (keyExchange : KeyExchange Key) (final : ProtocolState keyExchange)
    (labels : List (TableLabel keyExchange))
    (ran : (machine keyExchange).run empty labels = some final) :
    (machine keyExchange).HoldsAlong Consistent empty labels ↔
      (machine keyExchange).Guarded Sound empty labels := by
  refine (machine keyExchange).holdsAlong_iff_guarded_of_invariant ?_ ?_ empty_tracked ran
  · intro state label next tracked stepped
    exact ⟨consistent_sound tracked stepped,
      fun sound => (sound_tracked tracked sound stepped).consistent⟩
  · intro state label next tracked sound stepped
    exact sound_tracked tracked sound stepped

def loopback : SocketAddr := ⟨[127, 0, 0, 1], 6969⟩

theorem consistent_along_iff_connect :
    (machine EncryptedSession.productExchange).HoldsAlong Consistent empty
        [.newHandshake ⟨1⟩ loopback (3 : UInt64) ⟨10⟩, .promoteHandshake ⟨10⟩ loopback ⟨1⟩ ⟨[]⟩] ↔
      (machine EncryptedSession.productExchange).Guarded Sound empty
        [.newHandshake ⟨1⟩ loopback (3 : UInt64) ⟨10⟩,
          .promoteHandshake ⟨10⟩ loopback ⟨1⟩ ⟨[]⟩] :=
  consistent_along_iff EncryptedSession.productExchange _ _ rfl

/-- The peer answers the handshake for session 10 with session 20: the connection under 20 holds
the id 10, and the index lists 10. -/
theorem answered_with_other_id :
    ∃ final connection, (machine EncryptedSession.productExchange).run empty
        [.newHandshake ⟨1⟩ loopback (3 : UInt64) ⟨10⟩,
          .promoteHandshake ⟨20⟩ loopback ⟨1⟩ ⟨[]⟩] = some final ∧
      final.connections.get ⟨20⟩ = some connection ∧ connection.sessionId = ⟨10⟩ ∧
      final.addressSession.sessions loopback = [⟨10⟩] ∧ ¬ final.Consistent := by
  refine ⟨_, _, rfl, rfl, rfl, rfl, ?_⟩
  intro consistent
  have own := consistent.stored ⟨20⟩ _ rfl
  exact absurd own (by decide)

end ProtocolState
end Ubass

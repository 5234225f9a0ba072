import Ubass.Manager.Acknowledged
import Ubass.Manager.SameSession

/-!
# Packets and the sessions they spare

Some packets open, move or refuse a session, and name it by an id that a handshake
has picked.  As long as these ids are not that of a session, every packet of another
session leaves it as it was, and what its own packets do to it depends on its own
entries.
-/

set_option autoImplicit false

namespace Ubass

universe u

/-! ## Packets that open, end or refuse sessions -/

namespace ManagerState

variable {Key : Type u} {keyExchange : KeyExchange Key} {own sessionId : SessionId}
  {state before after left right : ManagerState keyExchange}

/-- Nothing the session has is changed, and its id is still its own. -/
structure Spares (own : SessionId) (before after : ManagerState keyExchange) : Prop where
  view : after.view own = before.view own
  apart : after.Apart own

theorem Apart.spares (apart : state.Apart own) : Spares own state state := ⟨rfl, apart⟩

theorem Touches.spares (touches : Touches sessionId before after) (foreign : sessionId ≠ own)
    (apart : before.Apart own) : Spares own before after :=
  ⟨touches.view foreign, touches.apart apart⟩

theorem Apart.insert (apart : state.Apart own) {connection : ConnectionStates}
    (inner : connection.sessionId ≠ own) (addressSession : AddressSessionIdTable) :
    ({ state with protocol := { state.protocol with
        connections := state.protocol.connections.insert sessionId connection
        addressSession := addressSession } } : ManagerState keyExchange).Apart own where
  connections other stored different found := by
    have leads : (state.protocol.connections.insert sessionId connection).get other =
        some stored := found
    rw [Table.get_insert] at leads
    split at leads
    · cases leads
      exact inner
    · exact apart.connections other stored different leads
  handshakes := apart.handshakes

theorem newSession_spares (apart : state.Apart own) (foreign : sessionId ≠ own)
    (address : SocketAddr) (appId : AppId) :
    Spares own state
      { state with protocol := state.protocol.newSession sessionId address appId } := by
  unfold ProtocolState.newSession
  split
  · exact apart.spares
  · have inner : (ConnectionStates.handshake sessionId appId address).sessionId ≠ own := foreign
    refine ⟨?_, apart.insert inner _⟩
    apply ManagerView.ext
    · exact Table.get_insert_of_ne _ _ foreign.symm
    · rfl
    · funext other
      show ((state.protocol.addressSession.push address sessionId).sessions other).count own = _
      rw [AddressSessionIdTable.count_push, if_neg fun both => foreign both.2.symm, Nat.add_zero]
      rfl
    · rfl

theorem Spares.keyed (spares : Spares own before after) (foreign : sessionId ≠ own)
    (window : EncryptionWindow Key) :
    Spares own before { after with protocol := { after.protocol with
      encryption := after.protocol.encryption.insert sessionId window } } where
  view := by
    rw [← spares.view]
    apply ManagerView.ext
    · rfl
    · exact Table.get_insert_of_ne _ _ foreign.symm
    · rfl
    · rfl
  apart := ⟨spares.apart.connections, spares.apart.handshakes⟩

theorem helloAsReceiver_spares (apart : state.Apart own) {packet : HelloPacket}
    {generated : SessionId} (proposed : packet.proposedSessionId ≠ own)
    (fresh : generated ≠ own) (srcAddr : SocketAddr) (ephemeralSecret : keyExchange.Secret) :
    Spares own state { state with
      protocol := state.protocol.helloAsReceiver packet srcAddr generated ephemeralSecret } := by
  have foreign : (if state.protocol.sessionExists packet.proposedSessionId then generated
      else packet.proposedSessionId) ≠ own := by
    split
    · exact fresh
    · exact proposed
  exact (newSession_spares apart foreign srcAddr packet.appId).keyed foreign _

theorem Apart.handshake (apart : state.Apart own)
    {handshakes : Table HandshakeId (HandshakeState keyExchange.Secret)}
    (foreign : ∀ handshakeId handshake, handshakes.get handshakeId = some handshake →
      handshake.sessionId ≠ own) :
    Spares own state
      { state with protocol := { state.protocol with handshakes := handshakes } } where
  view := rfl
  apart := ⟨apart.connections, foreign⟩

theorem Apart.handshake_remove (apart : state.Apart own) (handshakeId : HandshakeId) :
    Spares own state { state with protocol := { state.protocol with
      handshakes := state.protocol.handshakes.remove handshakeId } } :=
  apart.handshake fun other handshake found =>
    apart.handshakes other handshake (Table.get_of_get_remove found).2

theorem Apart.handshake_insert (apart : state.Apart own) (handshakeId : HandshakeId)
    {handshake : HandshakeState keyExchange.Secret} (foreign : handshake.sessionId ≠ own) :
    Spares own state { state with protocol := { state.protocol with
      handshakes := state.protocol.handshakes.insert handshakeId handshake } } := by
  apply apart.handshake
  intro other stored found
  rw [Table.get_insert] at found
  split at found
  · cases found
    exact foreign
  · exact apart.handshakes other stored found

theorem reuseHandshake_spares (apart : state.Apart own) (foreign : sessionId ≠ own)
    (handshakeId : HandshakeId) (ephemeralSecret : keyExchange.Secret)
    (newHandshakeId : HandshakeId) :
    Spares own state { state with protocol := (state.protocol.reuseHandshake sessionId handshakeId
      ephemeralSecret newHandshakeId).1 } := by
  unfold ProtocolState.reuseHandshake
  split
  · exact apart.spares
  · rename_i handshake found
    have removed := apart.handshake_remove handshakeId
    have inserted := @Apart.handshake_insert _ _ own _ removed.apart newHandshakeId
      ⟨handshake.peerAddress, ephemeralSecret, sessionId⟩ foreign
    exact ⟨inserted.view.trans removed.view, inserted.apart⟩

theorem promoteHandshake_spares (apart : state.Apart own) (foreign : sessionId ≠ own)
    (address : SocketAddr) (handshakeId : HandshakeId) (appId : AppId) :
    Spares own state { state with
      protocol := (state.protocol.promoteHandshake sessionId address handshakeId appId).1 } := by
  unfold ProtocolState.promoteHandshake
  split
  · exact apart.spares
  · rename_i handshake found
    have removed := apart.handshake_remove handshakeId
    have inner := apart.handshakes handshakeId handshake found
    have stored : (ConnectionStates.established
      ⟨handshake.sessionId, .up, address, appId⟩).sessionId ≠ own := inner
    dsimp only
    split
    · exact removed
    · refine ⟨?_, removed.apart.insert stored _⟩
      apply ManagerView.ext
      · exact Table.get_insert_of_ne _ _ foreign.symm
      · rfl
      · funext other
        show ((state.protocol.addressSession.push address handshake.sessionId).sessions
          other).count own = _
        rw [AddressSessionIdTable.count_push, if_neg fun both => inner both.2.symm, Nat.add_zero]
        rfl
      · rfl

theorem helloAsInitializer_spares (apart : state.Apart own) {packet : HelloPacket}
    (proposed : packet.proposedSessionId ≠ own) (srcAddr : SocketAddr)
    (ephemeralSecret : keyExchange.Secret) (newHandshakeId : HandshakeId) :
    Spares own state { state with protocol :=
      state.protocol.helloAsInitializer packet srcAddr ephemeralSecret newHandshakeId } := by
  unfold ProtocolState.helloAsInitializer
  split
  · exact reuseHandshake_spares apart proposed packet.handshakeId ephemeralSecret newHandshakeId
  · have promoted :=
      promoteHandshake_spares apart proposed srcAddr packet.handshakeId packet.appId
    revert promoted
    generalize state.protocol.promoteHandshake packet.proposedSessionId srcAddr packet.handshakeId
      packet.appId = result
    obtain ⟨protocol, secret⟩ := result
    intro promoted
    cases secret with
    | none => exact promoted
    | some secret => exact promoted.keyed proposed _

variable {xxh3_128 : List UInt8 → PacketFingerprint} {inputs : HandlerInputs keyExchange.Secret}

theorem silent_nothing (own : SessionId) (state : ManagerState keyExchange) :
    Silent own state.nothing :=
  ⟨fun _ _ => List.not_mem_nil.elim, fun _ _ => List.not_mem_nil.elim⟩

theorem receivedHelloPacket_spares (apart : state.Apart own) {packet : HelloPacket}
    (proposed : packet.proposedSessionId ≠ own) (fresh : inputs.generated ≠ own)
    (srcAddr : SocketAddr) :
    Spares own state (state.receivedHelloPacket inputs packet srcAddr).state ∧
      Silent own (state.receivedHelloPacket inputs packet srcAddr) := by
  have other : ∀ {named : SessionId}, named ≠ own → some named ≠ some own :=
    fun different same => different (Option.some.inj same)
  rw [receivedHelloPacket]
  split
  · rw [receivedHelloPacketAsInitializer]
    split
    · have reused := reuseHandshake_spares apart proposed packet.handshakeId
        inputs.ephemeralSecret inputs.newHandshakeId
      rw [sessionIdCollided]
      split
      · refine ⟨apart.spares, ?_, fun _ _ listed => by cases listed⟩
        intro sent addr listed
        cases List.mem_singleton.mp listed
        exact other proposed
      · rename_i protocol handshakeId eq
        rw [eq] at reused
        refine ⟨reused, ?_, fun _ _ listed => by cases listed⟩
        intro sent addr listed
        rcases List.mem_cons.mp listed with same | listed
        · cases same
          exact other proposed
        · cases List.mem_singleton.mp listed
          exact other fresh
    · have promoted := helloAsInitializer_spares apart proposed srcAddr inputs.ephemeralSecret
        inputs.newHandshakeId
      dsimp only
      split
      · exact ⟨promoted, silent_nothing own _⟩
      · refine ⟨promoted, ?_, fun _ _ listed => by cases listed⟩
        intro sent addr listed
        cases List.mem_singleton.mp listed
        exact other proposed
  · rw [receivedHelloPacketAsReceiver]
    split
    · refine ⟨helloAsReceiver_spares apart proposed fresh srcAddr inputs.ephemeralSecret, ?_,
        fun _ _ listed => by cases listed⟩
      intro sent addr listed
      cases List.mem_singleton.mp listed
      show some (if state.protocol.sessionExists packet.proposedSessionId then inputs.generated
        else packet.proposedSessionId) ≠ some own
      split
      · exact other fresh
      · exact other proposed
    · refine ⟨apart.spares, ?_, fun _ _ listed => by cases listed⟩
      intro sent addr listed
      cases List.mem_singleton.mp listed
      exact other proposed

theorem handshakeDone_apart (apart : state.Apart own) (sessionId : SessionId) :
    ({ state with protocol := state.protocol.handshakeDone sessionId } :
      ManagerState keyExchange).Apart own := by
  refine ⟨?_, ?_⟩
  · intro other connection different found
    dsimp only [ProtocolState.handshakeDone] at found
    split at found
    · exact apart.connections other connection different found
    · rename_i inner appId address stored
      rw [Table.get_insert] at found
      split at found
      · rename_i here
        cases found
        exact fun same => different (here.trans same)
      · exact apart.connections other connection different (Table.get_of_get_remove found).2
    · rename_i session stored
      rw [Table.get_insert] at found
      split at found
      · rename_i here
        cases found
        exact apart.connections sessionId _ (here ▸ different) stored
      · exact apart.connections other connection different (Table.get_of_get_remove found).2
  · intro handshakeId handshake found
    apply apart.handshakes handshakeId handshake
    dsimp only [ProtocolState.handshakeDone] at found
    split at found <;> exact found

theorem handshakeDone_spares (apart : state.Apart own) (foreign : sessionId ≠ own) :
    Spares own state { state with protocol := state.protocol.handshakeDone sessionId } where
  view := by
    unfold ProtocolState.handshakeDone
    split
    · rfl
    · rename_i inner appId address stored
      have different := apart.connections sessionId _ foreign stored
      apply ManagerView.ext
      · exact (Table.get_insert_of_ne _ _ (Ne.symm different)).trans
          (Table.get_remove_of_ne _ foreign.symm)
      · rfl
      · rfl
      · rfl
    · apply ManagerView.ext
      · exact (Table.get_insert_of_ne _ _ foreign.symm).trans
          (Table.get_remove_of_ne _ foreign.symm)
      · rfl
      · rfl
      · rfl
  apart := handshakeDone_apart apart sessionId

theorem view_handshakeDone (same : left.view own = right.view own) :
    ({ left with protocol := left.protocol.handshakeDone own } :
        ManagerState keyExchange).view own =
      ({ right with protocol := right.protocol.handshakeDone own } :
        ManagerState keyExchange).view own := by
  have listings := listings_eq same
  have pending := pending_eq same
  have moved : ∀ (inner : SessionId) (connection : ConnectionStates),
      ((left.protocol.connections.remove own).insert inner connection).get own =
        ((right.protocol.connections.remove own).insert inner connection).get own := by
    intro inner connection
    rw [Table.get_insert, Table.get_insert, Table.get_remove_self, Table.get_remove_self]
  rw [ProtocolState.handshakeDone, ProtocolState.handshakeDone, connection_eq same]
  split
  · exact same
  · exact ManagerView.ext (moved _ _) (key_eq same) listings pending
  · exact ManagerView.ext (moved _ _) (key_eq same) listings pending

theorem rejected_apart (apart : state.Apart own) (packet : HandshakeRejection) :
    ({ state with protocol := state.protocol.receivedHandshakeRejectedPacket packet } :
      ManagerState keyExchange).Apart own := by
  unfold ProtocolState.receivedHandshakeRejectedPacket
  split
  · exact (apart.handshake_remove packet.handshakeId).apart
  · refine ⟨?_, apart.handshakes⟩
    intro other connection different found
    exact apart.connections other connection different (Table.get_of_get_remove found).2

theorem rejected_spares (apart : state.Apart own) {packet : HandshakeRejection}
    (foreign : packet.sessionId ≠ own) :
    Spares own state
      { state with protocol := state.protocol.receivedHandshakeRejectedPacket packet } where
  view := by
    unfold ProtocolState.receivedHandshakeRejectedPacket
    split
    · rfl
    · exact ManagerView.ext (Table.get_remove_of_ne _ foreign.symm) rfl rfl rfl
  apart := rejected_apart apart packet

theorem view_rejected {packet : HandshakeRejection}
    (same : left.view packet.sessionId = right.view packet.sessionId) :
    ({ left with protocol := left.protocol.receivedHandshakeRejectedPacket packet } :
        ManagerState keyExchange).view packet.sessionId =
      ({ right with protocol := right.protocol.receivedHandshakeRejectedPacket packet } :
        ManagerState keyExchange).view packet.sessionId := by
  have listings := listings_eq same
  have pending := pending_eq same
  rw [ProtocolState.receivedHandshakeRejectedPacket, ProtocolState.receivedHandshakeRejectedPacket]
  split
  · exact ManagerView.ext (connection_eq same) (key_eq same) listings pending
  · exact ManagerView.ext
      ((Table.get_remove_self _ _).trans (Table.get_remove_self _ _).symm)
      (key_eq same) listings pending

theorem view_acknowledge (same : left.view own = right.view own)
    (fingerprint : PacketFingerprint) :
    ({ left with ack := left.ack.acknowledge fingerprint } : ManagerState keyExchange).view own =
      ({ right with ack := right.ack.acknowledge fingerprint } :
        ManagerState keyExchange).view own := by
  have listings := listings_eq same
  have connection := connection_eq same
  have key := key_eq same
  refine ManagerView.ext connection key listings ?_
  funext other
  have pending : ((left.ack.pending.get other).filter fun packet => packet.sessionId = own) =
      (right.ack.pending.get other).filter fun packet => packet.sessionId = own :=
    congrFun (pending_eq same) other
  show ((left.ack.pending.remove fingerprint).get other).filter _ =
    ((right.ack.pending.remove fingerprint).get other).filter _
  rw [Table.get_remove, Table.get_remove]
  split
  · rfl
  · exact pending

/-! ## Every packet -/

/-- The packet and what its handler draws leave the id to the session. -/
def LeavesId (own : SessionId) (inputs : HandlerInputs keyExchange.Secret) : WirePacket → Prop
  | .keyed (.hello packet) => packet.proposedSessionId ≠ own ∧ inputs.generated ≠ own
  | _ => True

theorem handleMessage_confined {packet : WirePacket} {addr : SocketAddr}
    (names : packet.sessionId = some sessionId)
    (kind : match packet with
      | .keyed (.hello _) | .handshakeAck _ | .handshakeRejection _ | .ack _ => False
      | _ => True) :
    Confined sessionId state (state.handleMessage xxh3_128 inputs packet addr) := by
  cases packet with
  | keyed packet =>
      cases packet with
      | hello packet => exact kind.elim
      | data packet =>
          cases names
          exact receivedDataPacket_confined packet
      | retransmit packet =>
          cases names
          exact receivedRetransmitRequest_confined packet
      | parity packet =>
          cases names
          exact receivedParityPacket_confined packet
      | closeSession packet =>
          cases names
          exact notifyAndCloseSession_confined state packet.sessionId
      | playbackControl packet =>
          cases names
          exact receivedPlaybackControlPacket_confined packet
      | trackRequest packet =>
          cases names
          exact receivedTrackRequestPacket_confined packet
      | trackRejection packet =>
          cases names
          exact receivedTrackRejectPacket_confined packet
      | metadata packet => exact confined_nothing sessionId state
      | unexpectedPacketError packet => exact confined_nothing sessionId state
  | keepAlive packet =>
      cases names
      exact receivedKeepAlivePacket_confined packet
  | sessionDoesNotExistError packet =>
      cases names
      exact notifyAndCloseSession_confined state packet.sessionId
  | ack packet => exact kind.elim
  | handshakeAck packet => exact kind.elim
  | incompatibleVersion packet => cases names
  | handshakeRejection packet => exact kind.elim

theorem handleMessage_apart (apart : state.Apart own) {packet : WirePacket} (addr : SocketAddr)
    (leaves : LeavesId own inputs packet) :
    (state.handleMessage xxh3_128 inputs packet addr).state.Apart own := by
  cases packet with
  | keyed packet =>
      cases packet with
      | hello packet => exact (receivedHelloPacket_spares apart leaves.1 leaves.2 addr).1.apart
      | data packet => exact (receivedDataPacket_confined packet).touches.apart apart
      | retransmit packet => exact (receivedRetransmitRequest_confined packet).touches.apart apart
      | parity packet => exact (receivedParityPacket_confined packet).touches.apart apart
      | closeSession packet =>
          exact (notifyAndCloseSession_confined state packet.sessionId).touches.apart apart
      | playbackControl packet =>
          exact (receivedPlaybackControlPacket_confined packet).touches.apart apart
      | trackRequest packet =>
          exact (receivedTrackRequestPacket_confined packet).touches.apart apart
      | trackRejection packet =>
          exact (receivedTrackRejectPacket_confined packet).touches.apart apart
      | metadata packet => exact apart
      | unexpectedPacketError packet => exact apart
  | keepAlive packet => exact (receivedKeepAlivePacket_confined packet).touches.apart apart
  | sessionDoesNotExistError packet =>
      exact (notifyAndCloseSession_confined state packet.sessionId).touches.apart apart
  | ack packet => exact ⟨apart.connections, apart.handshakes⟩
  | handshakeAck packet => exact handshakeDone_apart apart packet.sessionId
  | incompatibleVersion packet => exact apart
  | handshakeRejection packet => exact rejected_apart apart packet

theorem handleMessage_foreign (apart : state.Apart own) {packet : WirePacket} (addr : SocketAddr)
    (leaves : LeavesId own inputs packet) (foreign : packet.sessionId ≠ some own)
    (notAck : packet.isAck = false) :
    (state.handleMessage xxh3_128 inputs packet addr).state.view own = state.view own ∧
      Silent own (state.handleMessage xxh3_128 inputs packet addr) := by
  have confined : ∀ {sessionId : SessionId}, packet.sessionId = some sessionId →
      Confined sessionId state (state.handleMessage xxh3_128 inputs packet addr) →
      (state.handleMessage xxh3_128 inputs packet addr).state.view own = state.view own ∧
        Silent own (state.handleMessage xxh3_128 inputs packet addr) := by
    intro sessionId names confined
    have different : sessionId ≠ own := fun same => foreign (same ▸ names)
    exact ⟨confined.touches.view different, confined.silent different apart⟩
  cases packet with
  | keyed packet =>
      cases packet with
      | hello packet =>
          obtain ⟨spares, silent⟩ := receivedHelloPacket_spares apart leaves.1 leaves.2 addr
          exact ⟨spares.view, silent⟩
      | _ => exact confined rfl (handleMessage_confined rfl trivial)
  | keepAlive packet => exact confined rfl (handleMessage_confined rfl trivial)
  | sessionDoesNotExistError packet => exact confined rfl (handleMessage_confined rfl trivial)
  | ack packet => cases notAck
  | handshakeAck packet =>
      have different : packet.sessionId ≠ own := fun same => foreign (congrArg some same)
      exact ⟨(handshakeDone_spares apart different).view, silent_nothing own _⟩
  | incompatibleVersion packet => exact ⟨rfl, silent_nothing own _⟩
  | handshakeRejection packet =>
      have different : packet.sessionId ≠ own := fun same => foreign (congrArg some same)
      exact ⟨(rejected_spares apart different).view, silent_nothing own _⟩

theorem handleMessage_alike (same : left.view own = right.view own) {packet : WirePacket}
    (addr : SocketAddr) (leaves : LeavesId own inputs packet)
    (concerns : packet.sessionId = some own ∨ packet.isAck = true) :
    Alike own (left.handleMessage xxh3_128 inputs packet addr)
      (right.handleMessage xxh3_128 inputs packet addr) := by
  cases packet with
  | ack packet => exact ⟨view_acknowledge same packet.fingerprint, rfl, rfl⟩
  | keyed packet =>
      rcases concerns with names | isAck
      · cases packet with
        | hello packet => exact absurd (Option.some.inj names) leaves.1
        | data packet =>
            cases names
            exact receivedDataPacket_alike same
        | retransmit packet =>
            cases names
            exact receivedRetransmitRequest_alike same
        | parity packet =>
            cases names
            exact receivedParityPacket_alike same
        | closeSession packet =>
            cases names
            exact notifyAndCloseSession_alike same
        | playbackControl packet =>
            cases names
            exact receivedPlaybackControlPacket_alike same
        | trackRequest packet =>
            cases names
            exact receivedTrackRequestPacket_alike same
        | trackRejection packet =>
            cases names
            exact receivedTrackRejectPacket_alike same
        | metadata packet => exact ⟨same, rfl, rfl⟩
        | unexpectedPacketError packet => exact ⟨same, rfl, rfl⟩
      · cases isAck
  | keepAlive packet =>
      rcases concerns with names | isAck
      · cases names
        exact receivedKeepAlivePacket_alike same
      · cases isAck
  | sessionDoesNotExistError packet =>
      rcases concerns with names | isAck
      · cases names
        exact notifyAndCloseSession_alike same
      · cases isAck
  | handshakeAck packet =>
      rcases concerns with names | isAck
      · cases names
        exact ⟨view_handshakeDone same, rfl, rfl⟩
      · cases isAck
  | incompatibleVersion packet =>
      rcases concerns with names | isAck
      · cases names
      · cases isAck
  | handshakeRejection packet =>
      rcases concerns with names | isAck
      · cases names
        exact ⟨view_rejected same, rfl, rfl⟩
      · cases isAck

end ManagerState

end Ubass

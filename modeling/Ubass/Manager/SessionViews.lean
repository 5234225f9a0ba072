import Ubass.Exchange.ReceivePath
import Ubass.Manager.Endpoints

/-!
# What one session has to do with another

The handlers and endpoints of a session work on tables that all sessions share.
`Confined` says what a routine of one session leaves alone and whom it names, and
`Alike` that what it does depends on the session's own entries only.
-/

set_option autoImplicit false

namespace Ubass

universe u

/-! ## Whom a packet names -/

def WirePacket.sessionId : WirePacket → Option SessionId
  | keyed packet => some packet.sessionId
  | ack packet => some packet.sessionId
  | keepAlive packet => some packet.sessionId
  | handshakeAck packet => some packet.sessionId
  | sessionDoesNotExistError packet => some packet.sessionId
  | handshakeRejection packet => some packet.sessionId
  | incompatibleVersion _ => none

namespace ConnectionStates

@[simp] theorem sessionId_withStream (session : EstablishedState) (stream : StreamState) :
    (withStream session stream).sessionId = session.sessionId := rfl

theorem sessionId_of_openStream {self : ConnectionStates} {session : EstablishedState}
    {stream : StreamState} (isOpen : self.openStream = some (session, stream)) :
    session.sessionId = self.sessionId := by
  rw [(openStream_eq_some.mp isOpen).1]
  rfl

theorem sessionId_of_receiving {self : ConnectionStates} {session : EstablishedState}
    {stream : StreamState} {receiving : StreamingFrom}
    (found : self.receiving = some (session, stream, receiving)) :
    session.sessionId = self.sessionId :=
  sessionId_of_openStream (receiving_eq_some found).1

/-! No call gives a session another id. -/

theorem updateMessage_sessionId (f : StreamMessage → StreamMessage) (self : ConnectionStates) :
    (self.updateMessage f).sessionId = self.sessionId := by
  unfold updateMessage
  split
  · rename_i isOpen
    have same := sessionId_of_openStream isOpen
    exact same
  · rfl

theorem closeStream_sessionId (self : ConnectionStates) :
    self.closeStream.1.sessionId = self.sessionId := by
  unfold closeStream
  split
  · rename_i isOpen
    have same := sessionId_of_openStream isOpen
    exact same
  · rfl

theorem updateAddress_sessionId (self : ConnectionStates) (new : SocketAddr) :
    (self.updateAddress new).sessionId = self.sessionId := by
  cases self <;> rfl

theorem streamTo_sessionId (self : ConnectionStates) (buffer : ReadableBuffer)
    (sender : StreamMessage) : (self.streamTo buffer sender).sessionId = self.sessionId := by
  unfold streamTo
  split
  · split <;> rfl
  · rfl

theorem streamingFrom_sessionId (self : ConnectionStates) (buffer : WriteableBuffer)
    (sender : StreamMessage) : (self.streamingFrom buffer sender).sessionId = self.sessionId := by
  unfold streamingFrom
  split
  · split <;> rfl
  · rfl

theorem seek_sessionId (self : ConnectionStates) (position : BytePosition) :
    (self.seek position).1.sessionId = self.sessionId := by
  unfold seek
  split
  · rfl
  · rename_i found
    have same := sessionId_of_receiving found
    exact same

theorem updatePaused_sessionId (self : ConnectionStates) (paused : Bool) :
    (self.updatePaused paused).1.sessionId = self.sessionId := by
  unfold updatePaused
  split
  · rfl
  · split
    · rfl
    · have same := updateMessage_sessionId (fun message => { message with paused := paused }) self
      exact same

theorem streamAction_sessionId (self : ConnectionStates) (control : PlaybackControl) :
    (self.streamAction control).1.sessionId = self.sessionId := by
  cases control with
  | play => exact self.updatePaused_sessionId false
  | pause => exact self.updatePaused_sessionId true
  | seek position => exact self.seek_sessionId position
  | close => rfl
  | done => rfl

theorem receivedDataPacket_sessionId (self : ConnectionStates) (packet : DataPacket)
    (clock : Nat → Timestamp) :
    (self.receivedDataPacket packet clock).session.sessionId = self.sessionId := by
  unfold receivedDataPacket
  split
  · rfl
  · rename_i found
    have own := sessionId_of_receiving found
    split
    · exact own
    · exact (closeStream_sessionId _).trans own
    · exact own

theorem recoveredPacket_sessionId (self : ConnectionStates) (recovered : Recovered)
    (clock : Nat → Timestamp) :
    (self.recoveredPacket recovered clock).session.sessionId = self.sessionId := by
  unfold recoveredPacket
  split
  · rfl
  · rename_i found
    have own := sessionId_of_receiving found
    split
    · exact own
    · rw [updateMessage_sessionId]
      exact own
    · exact own

theorem requestMissing_sessionId (self : ConnectionStates) (sessionId : SessionId)
    (positions : List BytePosition) (clock : Nat → Timestamp) :
    (self.requestMissing sessionId positions clock).1.sessionId = self.sessionId := by
  unfold requestMissing
  split
  · rfl
  · rename_i found
    have same := sessionId_of_receiving found
    exact same

/-! What a handler sends names the session it was given. -/

theorem retransmitPackets_sessionId {session : EstablishedState} {sessionId : SessionId}
    {ranges : List ByteRange} {clock : Nat → Timestamp} {packet : StreamPacket}
    {addr : SocketAddr} (listed : (packet, addr) ∈ retransmitPackets session sessionId ranges clock) :
    packet.wire.sessionId = some sessionId := by
  unfold retransmitPackets dispatchRetransmitRequest at listed
  simp only [List.map_map, List.mem_map] at listed
  obtain ⟨chunk, -, same⟩ := listed
  cases same
  rfl

theorem receivedDataPacket_sent {self : ConnectionStates} {packet : DataPacket}
    {clock : Nat → Timestamp} {sent : StreamPacket} {addr : SocketAddr}
    (listed : (sent, addr) ∈ (self.receivedDataPacket packet clock).sent) :
    sent.wire.sessionId = some packet.sessionId := by
  unfold receivedDataPacket at listed
  split at listed
  · cases listed
  · split at listed
    · cases listed
    · cases List.mem_singleton.mp listed
      rfl
    · exact retransmitPackets_sessionId listed

theorem recoveredPacket_sent {self : ConnectionStates} {recovered : Recovered}
    {clock : Nat → Timestamp} {sent : StreamPacket} {addr : SocketAddr}
    (listed : (sent, addr) ∈ (self.recoveredPacket recovered clock).sent) :
    sent.wire.sessionId = some self.sessionId := by
  unfold recoveredPacket at listed
  split at listed
  · cases listed
  · rename_i found
    rw [← sessionId_of_receiving found]
    split at listed
    · cases listed
    · cases List.mem_singleton.mp listed
      rfl
    · exact retransmitPackets_sessionId listed

end ConnectionStates

/-! ## The index of addresses -/

namespace AddressSessionIdTable

theorem remove_isSome_iff (self : AddressSessionIdTable) (address : SocketAddr)
    (sessionId : SessionId) :
    (self.remove address sessionId).isSome = true ↔
      0 < (self.sessions address).count sessionId := by
  rw [List.count_pos_iff]
  constructor
  · intro removes
    unfold remove at removes
    split at removes
    · cases removes
    · rename_i listed present
      split at removes
      · cases removes
      · rename_i index found
        obtain ⟨inside, here, _⟩ := List.findIdx?_eq_some_iff_getElem.mp found
        rw [sessions, present, Option.getD_some, ← of_decide_eq_true here]
        exact List.getElem_mem inside
  · intro listed
    obtain ⟨removed, eq, -⟩ := remove_eq_some listed
    rw [eq]
    rfl

theorem count_removed {self removed : AddressSessionIdTable} {address : SocketAddr}
    {sessionId : SessionId} (removes : self.remove address sessionId = some removed)
    (other : SocketAddr) (entry : SessionId) :
    (removed.sessions other).count entry +
        (if other = address ∧ entry = sessionId then 1 else 0) =
      (self.sessions other).count entry := by
  have listed := (remove_isSome_iff self address sessionId).mp (by rw [removes]; rfl)
  obtain ⟨same, eq, counts⟩ := remove_eq_some (List.count_pos_iff.mp listed)
  cases removes.symm.trans eq
  exact counts other entry

end AddressSessionIdTable

/-! ## The entries of one session -/

variable {Key : Type u} {keyExchange : KeyExchange Key}

/-- What the tables hold for one session: its connection, its key, how often each address lists it
and its packets that wait for an acknowledgement. -/
@[ext] structure ManagerView (Key : Type u) where
  connection : Option ConnectionStates
  key : Option (EncryptionWindow Key)
  listings : SocketAddr → Nat
  pending : PacketFingerprint → Option Packet

namespace ManagerState

def view (own : SessionId) (self : ManagerState keyExchange) : ManagerView Key where
  connection := self.protocol.connections.get own
  key := self.protocol.encryption.get own
  listings := fun address => (self.protocol.addressSession.sessions address).count own
  pending := fun fingerprint =>
    (self.ack.pending.get fingerprint).filter fun packet => packet.sessionId = own

/-- Nothing of another session bears the id: no connection under another key and no handshake. -/
structure Apart (own : SessionId) (state : ManagerState keyExchange) : Prop where
  connections : ∀ sessionId connection, sessionId ≠ own →
    state.protocol.connections.get sessionId = some connection → connection.sessionId ≠ own
  handshakes : ∀ handshakeId handshake,
    state.protocol.handshakes.get handshakeId = some handshake → handshake.sessionId ≠ own

/-! ## Routines of one session -/

/-- What a routine of a session may change: the entries of that session. -/
structure Touches (sessionId : SessionId) (before after : ManagerState keyExchange) : Prop where
  connections : ∀ other, other ≠ sessionId →
    after.protocol.connections.get other = before.protocol.connections.get other
  inner : ∀ connection, after.protocol.connections.get sessionId = some connection →
    ∃ earlier, before.protocol.connections.get sessionId = some earlier ∧
      connection.sessionId = earlier.sessionId
  handshakes : after.protocol.handshakes = before.protocol.handshakes
  keys : ∀ other, other ≠ sessionId →
    after.protocol.encryption.get other = before.protocol.encryption.get other
  listings : ∀ address other, other ≠ sessionId →
    (after.protocol.addressSession.sessions address).count other =
      (before.protocol.addressSession.sessions address).count other
  ack : after.ack = before.ack

variable {sessionId own : SessionId} {before after last : ManagerState keyExchange}

theorem Touches.refl (sessionId : SessionId) (state : ManagerState keyExchange) :
    Touches sessionId state state where
  connections _ _ := rfl
  inner connection found := ⟨connection, found, rfl⟩
  handshakes := rfl
  keys _ _ := rfl
  listings _ _ _ := rfl
  ack := rfl

theorem Touches.trans (front : Touches sessionId before after)
    (back : Touches sessionId after last) : Touches sessionId before last where
  connections other different :=
    (back.connections other different).trans (front.connections other different)
  inner connection found := by
    obtain ⟨middle, foundMiddle, same⟩ := back.inner connection found
    obtain ⟨earlier, foundEarlier, also⟩ := front.inner middle foundMiddle
    exact ⟨earlier, foundEarlier, same.trans also⟩
  handshakes := back.handshakes.trans front.handshakes
  keys other different := (back.keys other different).trans (front.keys other different)
  listings address other different :=
    (back.listings address other different).trans (front.listings address other different)
  ack := back.ack.trans front.ack

theorem Touches.view (touches : Touches sessionId before after) (foreign : sessionId ≠ own) :
    after.view own = before.view own := by
  apply ManagerView.ext
  · exact touches.connections own foreign.symm
  · exact touches.keys own foreign.symm
  · funext address
    exact touches.listings address own foreign.symm
  · funext fingerprint
    rw [ManagerState.view, ManagerState.view, touches.ack]

theorem Touches.apart (touches : Touches sessionId before after) (apart : before.Apart own) :
    after.Apart own where
  connections other connection different found := by
    by_cases here : other = sessionId
    · subst here
      obtain ⟨earlier, foundEarlier, same⟩ := touches.inner connection found
      rw [same]
      exact apart.connections other earlier different foundEarlier
    · rw [touches.connections other here] at found
      exact apart.connections other connection different found
  handshakes handshakeId handshake found := by
    rw [touches.handshakes] at found
    exact apart.handshakes handshakeId handshake found

theorem touches_withConnection {state : ManagerState keyExchange}
    {earlier connection : ConnectionStates}
    (found : state.protocol.connections.get sessionId = some earlier)
    (same : connection.sessionId = earlier.sessionId) :
    Touches sessionId state (state.withConnection sessionId connection) where
  connections other different := Table.get_insert_of_ne _ _ different
  inner stored foundStored := by
    have self := Table.get_insert_self state.protocol.connections sessionId connection
    cases foundStored.symm.trans self
    exact ⟨earlier, found, same⟩
  handshakes := rfl
  keys _ _ := rfl
  listings _ _ _ := rfl
  ack := rfl

theorem touches_closeSession (state : ManagerState keyExchange) (sessionId : SessionId) :
    Touches sessionId state (state.closeSession sessionId) := by
  unfold closeSession ProtocolState.closeSession
  split
  · exact Touches.refl sessionId state
  · rename_i connection found
    have gone : ∀ stored,
        (state.protocol.connections.remove sessionId).get sessionId ≠ some stored := by
      intro stored
      rw [Table.get_remove_self]
      exact (Option.some_ne_none stored).symm
    dsimp only
    split
    · exact {
        connections := fun other different => Table.get_remove_of_ne _ different
        inner := fun stored foundStored => absurd foundStored (gone stored)
        handshakes := rfl
        keys := fun _ _ => rfl
        listings := fun _ _ _ => rfl
        ack := rfl }
    · rename_i removed removes
      exact {
        connections := fun other different => Table.get_remove_of_ne _ different
        inner := fun stored foundStored => absurd foundStored (gone stored)
        handshakes := rfl
        keys := fun other different => Table.get_remove_of_ne _ different
        listings := fun address other different => by
          have counts := AddressSessionIdTable.count_removed removes address other
          rw [if_neg (fun both => different both.2), Nat.add_zero] at counts
          exact counts
        ack := rfl }

theorem touches_updateAddress (state : ManagerState keyExchange) (sessionId : SessionId)
    (new : SocketAddr) :
    Touches sessionId state
      { state with protocol := (state.protocol.updateAddress sessionId new).1 } := by
  unfold ProtocolState.updateAddress
  split
  · exact Touches.refl sessionId state
  · rename_i connection found
    split
    · exact Touches.refl sessionId state
    · split
      · exact Touches.refl sessionId state
      · rename_i moved moves
        obtain ⟨removed, removes, pushed⟩ := Option.map_eq_some_iff.mp moves
        exact {
          connections := fun other different => Table.get_insert_of_ne _ _ different
          inner := fun stored foundStored => by
            have self := Table.get_insert_self state.protocol.connections sessionId
              (connection.updateAddress new)
            cases foundStored.symm.trans self
            exact ⟨connection, found, connection.updateAddress_sessionId new⟩
          handshakes := rfl
          keys := fun _ _ => rfl
          listings := fun address other different => by
            have counts := AddressSessionIdTable.count_removed removes address other
            rw [if_neg (fun both => different both.2), Nat.add_zero] at counts
            show (moved.sessions address).count other = _
            rw [← pushed, AddressSessionIdTable.count_push,
              if_neg (fun both => different both.2), Nat.add_zero, counts]
          ack := rfl }

/-! ## What a routine of one session answers -/

/-- The ids a routine of a session speaks of: that of the session, and the one its connection
holds. -/
def Own (sessionId : SessionId) (state : ManagerState keyExchange) (named : SessionId) : Prop :=
  named = sessionId ∨ ∃ connection,
    state.protocol.connections.get sessionId = some connection ∧ named = connection.sessionId

/-- The routine touches the entries of the session, and speaks of no other. -/
structure Confined (sessionId : SessionId) (state : ManagerState keyExchange)
    (reply : Reply keyExchange) : Prop where
  touches : Touches sessionId state reply.state
  sent : ∀ packet addr, (packet, addr) ∈ reply.sent → ∀ named, packet.sessionId = some named →
    Own sessionId state named
  notices : ∀ named notice, (named, notice) ∈ reply.notices → named = sessionId

/-- Nothing that is sent or reported names the session. -/
structure Silent (own : SessionId) (reply : Reply keyExchange) : Prop where
  sent : ∀ packet addr, (packet, addr) ∈ reply.sent → packet.sessionId ≠ some own
  notices : ∀ named notice, (named, notice) ∈ reply.notices → named ≠ own

variable {state : ManagerState keyExchange} {reply : Reply keyExchange}

theorem Touches.owned (touches : Touches sessionId before after) {named : SessionId}
    (owned : Own sessionId after named) : Own sessionId before named := by
  rcases owned with same | ⟨connection, found, same⟩
  · exact Or.inl same
  · obtain ⟨earlier, foundEarlier, also⟩ := touches.inner connection found
    exact Or.inr ⟨earlier, foundEarlier, same.trans also⟩

theorem Confined.silent (confined : Confined sessionId state reply) (foreign : sessionId ≠ own)
    (apart : state.Apart own) : Silent own reply where
  sent packet addr listed names := by
    rcases confined.sent packet addr listed own names with same | ⟨connection, found, same⟩
    · exact foreign same.symm
    · exact apart.connections sessionId connection foreign found same.symm
  notices named notice listed same :=
    foreign ((confined.notices named notice listed).symm.trans same)

theorem confined_nothing (sessionId : SessionId) (state : ManagerState keyExchange) :
    Confined sessionId state state.nothing where
  touches := Touches.refl sessionId state
  sent _ _ listed := by cases listed
  notices _ _ listed := by cases listed

theorem Touches.quiet (touches : Touches sessionId before after) :
    Confined sessionId before after.nothing where
  touches := touches
  sent _ _ listed := by cases listed
  notices _ _ listed := by cases listed

theorem Confined.continuing (confined : Confined sessionId after reply)
    (touches : Touches sessionId before after) : Confined sessionId before reply where
  touches := touches.trans confined.touches
  sent packet addr listed named names := touches.owned (confined.sent packet addr listed named names)
  notices := confined.notices

theorem confined_of_named (touches : Touches sessionId state reply.state)
    (names : ∀ packet addr, (packet, addr) ∈ reply.sent → packet.sessionId = some sessionId)
    (notices : ∀ named notice, (named, notice) ∈ reply.notices → named = sessionId) :
    Confined sessionId state reply where
  touches := touches
  sent packet addr listed named same := by
    rw [names packet addr listed] at same
    exact Or.inl (Option.some.inj same).symm
  notices := notices

theorem Confined.sending (confined : Confined sessionId state reply)
    {front : List (WirePacket × SocketAddr)}
    (names : ∀ packet addr, (packet, addr) ∈ front → packet.sessionId = some sessionId) :
    Confined sessionId state { reply with sent := front ++ reply.sent } where
  touches := confined.touches
  sent packet addr listed named same := by
    rcases List.mem_append.mp listed with first | later
    · rw [names packet addr first] at same
      exact Or.inl (Option.some.inj same).symm
    · exact confined.sent packet addr later named same
  notices := confined.notices

/-! ### The handlers -/

variable {xxh3_128 : List UInt8 → PacketFingerprint} {inputs : HandlerInputs keyExchange.Secret}

theorem acks_sessionId {connections : Table SessionId ConnectionStates}
    {fingerprint : PacketFingerprint} {now : Timestamp} {packet : WirePacket} {addr : SocketAddr}
    (listed : (packet, addr) ∈
      receivedPacketThatRequiresAck connections sessionId fingerprint now) :
    packet.sessionId = some sessionId := by
  unfold receivedPacketThatRequiresAck at listed
  split at listed
  · cases List.mem_singleton.mp listed
    rfl
  · cases listed
  · cases listed

theorem notifyAndCloseSession_confined (state : ManagerState keyExchange)
    (sessionId : SessionId) : Confined sessionId state (state.notifyAndCloseSession sessionId) := by
  unfold notifyAndCloseSession
  split
  · exact confined_nothing sessionId state
  · exact (touches_closeSession state sessionId).quiet
  · exact {
      touches := touches_closeSession state sessionId
      sent := fun _ _ listed => by cases listed
      notices := fun named notice listed => by
        cases List.mem_singleton.mp listed
        rfl }

theorem failedToDerefBuffer_confined (state : ManagerState keyExchange) (sessionId : SessionId) :
    Confined sessionId state (state.failedToDerefBuffer sessionId) := by
  unfold failedToDerefBuffer
  split
  · exact confined_nothing sessionId state
  · exact {
      touches := touches_closeSession state sessionId
      sent := fun _ _ listed => by cases listed
      notices := fun named notice listed => by
        dsimp only at listed
        split at listed
        · cases List.mem_singleton.mp listed
          rfl
        · cases listed }

theorem receivedTrackRejectPacket_confined (packet : TrackRejectionPacket) :
    Confined packet.sessionId state (state.receivedTrackRejectPacket packet) := by
  unfold receivedTrackRejectPacket
  split
  · exact confined_nothing _ state
  · rename_i connection found
    exact (touches_withConnection found
      (ConnectionStates.updateMessage_sessionId _ connection)).quiet

theorem touches_withStream {session : EstablishedState} {stream told : StreamState}
    (found : (state.protocol.connections.get sessionId).bind ConnectionStates.openStream =
      some (session, stream)) :
    Touches sessionId state
      (state.withConnection sessionId (ConnectionStates.withStream session told)) := by
  obtain ⟨connection, stored, isOpen⟩ := Option.bind_eq_some_iff.mp found
  have same := ConnectionStates.sessionId_of_openStream isOpen
  exact touches_withConnection stored same

theorem receivedRetransmitRequest_confined (packet : RetransmitPacket) :
    Confined packet.sessionId state (state.receivedRetransmitRequest xxh3_128 inputs packet) := by
  have acks : ∀ sent addr, (sent, addr) ∈ (if packet.opts.contains .requireAck then
      receivedPacketThatRequiresAck state.protocol.connections packet.sessionId
        ((Packet.retransmit packet).fingerprint xxh3_128) (inputs.clock 0) else []) →
      sent.sessionId = some packet.sessionId := by
    intro sent addr listed
    split at listed
    · exact acks_sessionId listed
    · cases listed
  unfold receivedRetransmitRequest
  dsimp only
  split
  · rename_i found
    exact confined_of_named (touches_withStream found) acks fun _ _ listed => by cases listed
  · exact confined_of_named (Touches.refl _ state) acks fun _ _ listed => by cases listed
  · exact confined_of_named (Touches.refl _ state) acks fun _ _ listed => by cases listed

theorem receivedKeepAlivePacket_confined (packet : KeepAlivePacket) :
    Confined packet.sessionId state (state.receivedKeepAlivePacket packet) := by
  unfold receivedKeepAlivePacket
  split
  · exact confined_nothing _ state
  · exact (touches_updateAddress state packet.sessionId _).quiet

theorem receivedTrackRequestPacket_confined (packet : TrackRequestPacket) :
    Confined packet.sessionId state (state.receivedTrackRequestPacket packet) := by
  unfold receivedTrackRequestPacket
  split
  · exact {
      touches := Touches.refl _ state
      sent := fun _ _ listed => by cases listed
      notices := fun named notice listed => by
        cases List.mem_singleton.mp listed
        rfl }
  · exact confined_nothing _ state
  · exact confined_nothing _ state

theorem recoveredPacket_confined {connection : ConnectionStates} (recovered : Recovered)
    (clock : Nat → Timestamp)
    (found : state.protocol.connections.get sessionId = some connection) :
    Confined sessionId state
      ⟨state.withConnection sessionId (connection.recoveredPacket recovered clock).session,
        (connection.recoveredPacket recovered clock).sent.map
          (fun (packet, addr) => (packet.wire, addr)), []⟩ where
  touches := touches_withConnection found (connection.recoveredPacket_sessionId recovered clock)
  sent packet addr listed named names := by
    obtain ⟨⟨sent, at'⟩, also, same⟩ := List.mem_map.mp listed
    cases same
    rw [ConnectionStates.recoveredPacket_sent also] at names
    exact Or.inr ⟨connection, found, (Option.some.inj names).symm⟩
  notices _ _ listed := by cases listed

theorem receivedParityPacket_confined (packet : ParityPacket) :
    Confined packet.sessionId state (state.receivedParityPacket xxh3_128 inputs packet) := by
  unfold receivedParityPacket
  split
  · rename_i recovered connection _ found
    have stored := recoveredPacket_confined recovered (fun index => inputs.clock (index + 2)) found
    dsimp only
    split
    · exact (failedToDerefBuffer_confined _ packet.sessionId).continuing stored.touches
    · refine ⟨stored.touches, ?_, fun _ _ listed => by cases listed⟩
      intro sent addr listed named names
      rcases List.mem_append.mp listed with listed | listed
      · exact stored.sent sent addr listed named names
      · cases List.mem_singleton.mp listed
        exact Or.inl (Option.some.inj names).symm
    · exact stored
    · exact stored
  · exact confined_nothing _ state
  · exact confined_nothing _ state

theorem recoverAfterData_confined (state : ManagerState keyExchange) (sessionId : SessionId) :
    Confined sessionId state (state.recoverAfterData inputs sessionId) := by
  unfold recoverAfterData
  split
  · rename_i recovered connection _ found
    have stored := recoveredPacket_confined recovered (fun index => inputs.clock (index + 2)) found
    dsimp only
    split
    · exact (failedToDerefBuffer_confined _ sessionId).continuing stored.touches
    · exact stored
    · exact stored
  · exact confined_nothing _ state
  · exact confined_nothing _ state

theorem receivedDataPacket_confined (packet : DataPacket) :
    Confined packet.sessionId state (state.receivedDataPacket xxh3_128 inputs packet) := by
  unfold receivedDataPacket
  split
  · exact confined_nothing _ state
  · exact confined_nothing _ state
  · rename_i connection notHandshake found
    have stored : Touches packet.sessionId state (state.withConnection packet.sessionId
        (connection.receivedDataPacket packet fun index => inputs.clock (index + 2)).session) :=
      touches_withConnection found (connection.receivedDataPacket_sessionId packet _)
    have sent : ∀ sent addr, (sent, addr) ∈ (if packet.opts.contains .requireAck then
          receivedPacketThatRequiresAck state.protocol.connections packet.sessionId
            ((Packet.data packet).fingerprint xxh3_128) (inputs.clock 0) else []) ++
        (connection.receivedDataPacket packet fun index => inputs.clock (index + 2)).sent.map
          (fun (packet, addr) => (packet.wire, addr)) →
        sent.sessionId = some packet.sessionId := by
      intro sent addr listed
      rcases List.mem_append.mp listed with listed | listed
      · split at listed
        · exact acks_sessionId listed
        · cases listed
      · obtain ⟨⟨inner, at'⟩, also, same⟩ := List.mem_map.mp listed
        cases same
        exact ConnectionStates.receivedDataPacket_sent also
    dsimp only
    split
    · refine confined_of_named stored sent ?_
      intro named notice listed
      obtain ⟨stream, -, same⟩ := List.mem_map.mp listed
      cases same
      rfl
    · exact ((recoverAfterData_confined _ packet.sessionId).continuing stored).sending sent
    · refine confined_of_named stored ?_ fun _ _ listed => by cases listed
      intro answer addr listed
      rcases List.mem_append.mp listed with listed | listed
      · exact sent answer addr listed
      · cases List.mem_singleton.mp listed
        rfl
    · exact ((failedToDerefBuffer_confined _ packet.sessionId).continuing stored).sending sent
    · exact confined_of_named stored sent fun _ _ listed => by cases listed

theorem closeStream_confined (state : ManagerState keyExchange) (sessionId : SessionId) :
    Confined sessionId state (state.closeStream sessionId) := by
  unfold closeStream
  split
  · exact confined_nothing _ state
  · rename_i session stream found
    obtain ⟨connection, stored, isOpen⟩ := Option.bind_eq_some_iff.mp found
    have same := ConnectionStates.sessionId_of_openStream isOpen
    exact {
      touches := touches_withConnection stored same
      sent := fun _ _ listed => by cases listed
      notices := fun named notice listed => by
        cases List.mem_singleton.mp listed
        rfl }

theorem receivedPlaybackControlPacket_confined (packet : PlaybackControlPacket) :
    Confined packet.sessionId state (state.receivedPlaybackControlPacket packet) := by
  unfold receivedPlaybackControlPacket
  split
  · exact closeStream_confined state packet.sessionId
  all_goals
    split
    · rename_i found
      exact (touches_withStream found).quiet
    · exact confined_nothing _ state
    · exact confined_nothing _ state

/-! ### The endpoints -/

theorem resolveTarget_session {other : SessionId} {addr : SocketAddr}
    (resolved : state.resolveTarget (.session sessionId) = .ok (other, addr)) :
    other = sessionId := by
  unfold resolveTarget at resolved
  dsimp only at resolved
  split at resolved
  · cases resolved
  · split at resolved
    · cases resolved
      rfl
    · cases resolved

theorem sendData_confined (debugAssertions : Bool) (state : ManagerState keyExchange)
    (sessionId : SessionId) (buffer : ReadableBuffer) (sender : StreamMessage) :
    Confined sessionId state
      (state.sendData debugAssertions (.session sessionId) buffer sender).reply := by
  unfold sendData
  split
  · split
    · exact confined_nothing sessionId state
    · exact confined_nothing sessionId state
  · rename_i resolved
    cases resolveTarget_session resolved
    split
    · exact confined_nothing sessionId state
    · rename_i connection found
      exact (touches_withConnection found (connection.streamTo_sessionId buffer sender)).quiet

theorem requestTrack_confined (state : ManagerState keyExchange) (sessionId : SessionId)
    (id : List UInt8) (buffer : WriteableBuffer) (sender : StreamMessage) :
    Confined sessionId state
      (state.requestTrack inputs (.session sessionId) id buffer sender).reply := by
  unfold requestTrack
  split
  · exact confined_nothing sessionId state
  · rename_i resolved
    cases resolveTarget_session resolved
    split
    · exact confined_nothing sessionId state
    · rename_i connection found
      refine confined_of_named
        (touches_withConnection found (connection.streamingFrom_sessionId buffer sender)) ?_
        fun _ _ listed => by cases listed
      intro packet addr listed
      cases List.mem_singleton.mp listed
      rfl

theorem closeSessionEndpoint_confined (state : ManagerState keyExchange) (sessionId : SessionId) :
    Confined sessionId state (state.closeSessionEndpoint inputs sessionId) := by
  unfold closeSessionEndpoint
  split
  · exact confined_nothing sessionId state
  · refine confined_of_named (touches_closeSession state sessionId) ?_
      fun _ _ listed => by cases listed
    intro packet addr listed
    cases List.mem_singleton.mp listed
    rfl

theorem closeStreamEndpoint_confined (state : ManagerState keyExchange) (sessionId : SessionId) :
    Confined sessionId state (state.closeStreamEndpoint inputs sessionId) := by
  have closed := closeStream_confined state sessionId
  unfold closeStreamEndpoint
  dsimp only
  split
  · exact closed
  · refine confined_of_named closed.touches ?_ closed.notices
    intro packet addr listed
    cases List.mem_singleton.mp listed
    rfl

theorem setCompleteStream_confined (state : ManagerState keyExchange) (sessionId : SessionId)
    (allowPartial : Bool) :
    Confined sessionId state (state.setCompleteStream sessionId allowPartial) := by
  unfold setCompleteStream
  split
  · exact confined_nothing sessionId state
  · rename_i connection found
    exact (touches_withConnection found
      (ConnectionStates.updateMessage_sessionId _ connection)).quiet

theorem sendPlaybackControlPacket_confined (state : ManagerState keyExchange)
    (sessionId : SessionId) (control : PlaybackControl) :
    Confined sessionId state
      (state.sendPlaybackControlPacket inputs sessionId control).reply := by
  unfold sendPlaybackControlPacket
  split
  · exact confined_nothing sessionId state
  · exact confined_nothing sessionId state
  · rename_i session found
    refine confined_of_named
      (touches_withConnection found (ConnectionStates.streamAction_sessionId _ control)) ?_
      fun _ _ listed => by cases listed
    intro packet addr listed
    dsimp only at listed
    split at listed
    · cases List.mem_singleton.mp listed
      rfl
    · cases listed

theorem rejectTrackRequest_confined (state : ManagerState keyExchange) (sessionId : SessionId)
    (trackId : List UInt8) :
    Confined sessionId state (state.rejectTrackRequest inputs sessionId trackId) := by
  unfold rejectTrackRequest
  split
  · exact confined_nothing sessionId state
  · split
    · refine confined_of_named (Touches.refl sessionId state) ?_ fun _ _ listed => by cases listed
      intro packet addr listed
      cases List.mem_singleton.mp listed
      rfl
    · exact confined_nothing sessionId state

theorem serve_confined {debugAssertions : Bool} {command : Command}
    (names : command.session = some sessionId) :
    Confined sessionId state (state.serve inputs debugAssertions command).reply := by
  cases command with
  | connect address => cases names
  | sendData target buffer sender =>
      cases target with
      | session other =>
          cases names
          exact sendData_confined debugAssertions state sessionId buffer sender
      | address address => cases names
  | requestTrack target id buffer sender =>
      cases target with
      | session other =>
          cases names
          exact requestTrack_confined state sessionId id buffer sender
      | address address => cases names
  | closeSession other =>
      cases names
      exact closeSessionEndpoint_confined state sessionId
  | closeStream other =>
      cases names
      exact closeStreamEndpoint_confined state sessionId
  | streamAction other control =>
      cases names
      exact sendPlaybackControlPacket_confined state sessionId control
  | setStreamComplete other allowPartial =>
      cases names
      exact setCompleteStream_confined state sessionId allowPartial
  | findHoles other =>
      cases names
      exact confined_nothing sessionId state
  | rejectTrackRequest other trackId =>
      cases names
      exact rejectTrackRequest_confined state sessionId trackId

end ManagerState
end Ubass

import Mathlib.Data.List.Perm.Basic
import Ubass.Encryption
import Ubass.Manager.Streams

/-!
# The tables of sessions

`ProtocolState` of `manager/state.rs`: the connections, the pending handshakes,
the encryption windows and the index from addresses to sessions, with the
handlers that edit them.  Each handler is one definition here; its locks are
taken one after the other and nothing it does fails halfway except where the
source returns early.
-/

set_option autoImplicit false

namespace Ubass

universe u

namespace ConnectionStates

def sessionId : ConnectionStates → SessionId
  | handshake sessionId _ _ => sessionId
  | established session => session.sessionId

def updateAddress (self : ConnectionStates) (new : SocketAddr) : ConnectionStates :=
  match self with
  | handshake sessionId appId _ => handshake sessionId appId new
  | established session => established { session with address := new }

end ConnectionStates

/-! ## The index of addresses -/

/-- `Vec::swap_remove`: the last item takes the place of the removed one. -/
def swapRemove {Item : Type u} (items : List Item) (index : Nat) : List Item :=
  match items.getLast? with
  | some last => (items.set index last).dropLast
  | none => []

theorem swapRemove_perm {Item : Type u} {items : List Item} {index : Nat}
    (inside : index < items.length) :
    (swapRemove items index).Perm (items.eraseIdx index) := by
  have nonempty : items ≠ [] := List.ne_nil_of_length_pos (Nat.zero_lt_of_lt inside)
  obtain ⟨front, last, rfl⟩ : ∃ front last, items = front ++ [last] :=
    ⟨items.dropLast, items.getLast nonempty, (List.dropLast_append_getLast nonempty).symm⟩
  rw [swapRemove, List.getLast?_concat]
  simp only
  rw [List.length_append, List.length_singleton] at inside
  rcases Nat.lt_or_ge index front.length with before | atEnd
  · rw [List.set_append_left _ _ before, List.dropLast_concat,
      List.eraseIdx_append_of_lt_length before]
    exact (List.set_perm_cons_eraseIdx before last).trans
      (List.perm_append_singleton last _).symm
  · have same : index = front.length := by omega
    subst same
    rw [List.set_append_right _ _ (Nat.le_refl _), Nat.sub_self, List.set_cons_zero,
      List.dropLast_concat, List.eraseIdx_append_of_length_le (Nat.le_refl _), Nat.sub_self,
      List.eraseIdx_cons_zero, List.append_nil]

abbrev AddressSessionIdTable := Table SocketAddr (List SessionId)

namespace AddressSessionIdTable

def sessions (self : AddressSessionIdTable) (address : SocketAddr) : List SessionId :=
  (self.get address).getD []

/-- `entry(address).and_modify(push).or_insert(vec![session_id])` -/
def push (self : AddressSessionIdTable) (address : SocketAddr) (sessionId : SessionId) :
    AddressSessionIdTable :=
  self.insert address (self.sessions address ++ [sessionId])

/-- `remove`, which fails when the address does not list the session. -/
def remove (self : AddressSessionIdTable) (address : SocketAddr) (sessionId : SessionId) :
    Option AddressSessionIdTable :=
  match self.get address with
  | none => none
  | some listed =>
      match listed.findIdx? fun entry => entry = sessionId with
      | none => none
      | some index =>
          let rest := swapRemove listed index
          if rest.isEmpty then some (Table.remove self address)
          else some (self.insert address rest)

def moveSession (self : AddressSessionIdTable) (sourceAddress : SocketAddr)
    (sessionId : SessionId) (destinationAddress : SocketAddr) : Option AddressSessionIdTable :=
  (self.remove sourceAddress sessionId).map fun removed => removed.push destinationAddress sessionId

theorem sessions_insert (self : AddressSessionIdTable) (address other : SocketAddr)
    (listed : List SessionId) :
    sessions (self.insert address listed) other =
      if other = address then listed else self.sessions other := by
  rw [sessions, Table.get_insert]
  split <;> rfl

theorem count_push (self : AddressSessionIdTable) (address other : SocketAddr)
    (sessionId entry : SessionId) :
    ((self.push address sessionId).sessions other).count entry =
      (self.sessions other).count entry + if other = address ∧ entry = sessionId then 1 else 0 := by
  rw [push, sessions_insert]
  by_cases here : other = address
  · subst here
    rw [if_pos rfl, List.count_append, List.count_singleton']
    simp only [true_and, eq_comm]
  · rw [if_neg here, if_neg fun both => here both.1, Nat.add_zero]

theorem sessions_remove (self : AddressSessionIdTable) (address other : SocketAddr) :
    sessions (Table.remove self address) other =
      if other = address then [] else self.sessions other := by
  rw [sessions, Table.get_remove]
  split <;> rfl

theorem count_swapRemove {listed : List SessionId} {sessionId : SessionId} {index : Nat}
    (found : listed.findIdx? (fun entry => entry = sessionId) = some index) (entry : SessionId) :
    (swapRemove listed index).count entry + (if entry = sessionId then 1 else 0) =
      listed.count entry := by
  obtain ⟨inside, here, _⟩ := List.findIdx?_eq_some_iff_getElem.mp found
  have whole := (List.getElem_cons_eraseIdx_perm inside).count_eq entry
  rw [of_decide_eq_true here, List.count_cons] at whole
  rw [(swapRemove_perm inside).count_eq, ← whole]
  simp only [beq_iff_eq, @eq_comm _ sessionId entry]

theorem remove_eq_some {self : AddressSessionIdTable} {address : SocketAddr}
    {sessionId : SessionId} (listed : sessionId ∈ self.sessions address) :
    ∃ removed, self.remove address sessionId = some removed ∧ ∀ other entry,
      (removed.sessions other).count entry +
        (if other = address ∧ entry = sessionId then 1 else 0) =
          (self.sessions other).count entry := by
  unfold remove
  cases present : self.get address with
  | none =>
      rw [sessions, present] at listed
      cases listed
  | some entries =>
      have entriesEq : self.sessions address = entries := by rw [sessions, present]; rfl
      rw [entriesEq] at listed
      have search : (entries.findIdx? fun entry => entry = sessionId).isSome := by
        rw [List.findIdx?_isSome, List.any_eq_true]
        exact ⟨sessionId, listed, decide_eq_true rfl⟩
      obtain ⟨index, found⟩ := Option.isSome_iff_exists.mp search
      have here := count_swapRemove found
      simp only [found]
      by_cases empty : (swapRemove entries index).isEmpty = true
      · refine ⟨Table.remove self address, if_pos empty, ?_⟩
        intro other entry
        rw [sessions_remove]
        by_cases same : other = address
        · rw [List.isEmpty_iff.mp empty] at here
          rw [if_pos same, same, entriesEq]
          simpa using here entry
        · simp [same]
      · refine ⟨self.insert address (swapRemove entries index), if_neg empty, ?_⟩
        intro other entry
        rw [sessions_insert]
        by_cases same : other = address
        · rw [if_pos same, same, entriesEq]
          simpa using here entry
        · simp [same]

end AddressSessionIdTable

/-! ## The tables -/

structure HandshakeState (Secret : Type) where
  peerAddress : SocketAddr
  ephemeralSecret : Secret
  sessionId : SessionId

/-- The tables of `ProtocolState`. -/
structure ProtocolState {Key : Type u} (keyExchange : KeyExchange Key) where
  connections : Table SessionId ConnectionStates
  handshakes : Table HandshakeId (HandshakeState keyExchange.Secret)
  encryption : EncryptionTable Key
  addressSession : AddressSessionIdTable

namespace ProtocolState

variable {Key : Type u} {keyExchange : KeyExchange Key}

def empty : ProtocolState keyExchange := ⟨Table.empty, Table.empty, Table.empty, Table.empty⟩

def sessionExists (self : ProtocolState keyExchange) (sessionId : SessionId) : Bool :=
  self.connections.contains sessionId

def newHandshake (self : ProtocolState keyExchange) (handshakeId : HandshakeId)
    (peerAddress : SocketAddr) (ephemeralSecret : keyExchange.Secret) (sessionId : SessionId) :
    ProtocolState keyExchange :=
  { self with
    handshakes := self.handshakes.insert handshakeId ⟨peerAddress, ephemeralSecret, sessionId⟩ }

/-- `new_session`.  Debug builds panic when the session exists. -/
def newSession (self : ProtocolState keyExchange) (sessionId : SessionId) (address : SocketAddr)
    (appId : AppId) : ProtocolState keyExchange :=
  if self.sessionExists sessionId then self
  else { self with
    connections := self.connections.insert sessionId (.handshake sessionId appId address)
    addressSession := self.addressSession.push address sessionId }

/-- `promote_handshake`.  The handshake is taken before the entry is looked at; the connection is
stored under the id the peer answered with and holds the id of the handshake. -/
def promoteHandshake (self : ProtocolState keyExchange) (newSessionId : SessionId)
    (address : SocketAddr) (handshakeId : HandshakeId) (appId : AppId) :
    ProtocolState keyExchange × Option keyExchange.Secret :=
  match self.handshakes.get handshakeId with
  | none => (self, none)
  | some handshake =>
      let taken := { self with handshakes := self.handshakes.remove handshakeId }
      if taken.sessionExists newSessionId then (taken, none)
      else
        ({ taken with
            connections := taken.connections.insert newSessionId
              (.established ⟨handshake.sessionId, .up, address, appId⟩)
            addressSession := taken.addressSession.push address handshake.sessionId },
          some handshake.ephemeralSecret)

/-- `reuse_handshake`; the id it generates is an argument. -/
def reuseHandshake (self : ProtocolState keyExchange) (sessionId : SessionId)
    (handshakeId : HandshakeId) (ephemeralSecret : keyExchange.Secret)
    (newHandshakeId : HandshakeId) : ProtocolState keyExchange × Option HandshakeId :=
  match self.handshakes.get handshakeId with
  | none => (self, none)
  | some handshake =>
      ({ self with
          handshakes := (self.handshakes.remove handshakeId).insert newHandshakeId
            ⟨handshake.peerAddress, ephemeralSecret, sessionId⟩ },
        some newHandshakeId)

def handshakeDone (self : ProtocolState keyExchange) (sessionId : SessionId) :
    ProtocolState keyExchange :=
  match self.connections.get sessionId with
  | none => self
  | some (.handshake inner appId address) =>
      { self with
        connections := (self.connections.remove sessionId).insert inner
          (.established ⟨inner, .up, address, appId⟩) }
  | some (.established session) =>
      { self with
        connections := (self.connections.remove sessionId).insert sessionId
          (.established session) }

/-- `update_address`, with its answer.  Debug builds panic when the index does not list the
session under its address. -/
def updateAddress (self : ProtocolState keyExchange) (sessionId : SessionId) (new : SocketAddr) :
    ProtocolState keyExchange × Option SocketAddr :=
  match self.connections.get sessionId with
  | none => (self, none)
  | some connection =>
      if new = connection.address then (self, none)
      else
        match self.addressSession.moveSession connection.address sessionId new with
        | none => (self, none)
        | some moved =>
            ({ self with
                addressSession := moved
                connections :=
                  self.connections.insert sessionId (connection.updateAddress new) }, some new)

/-- `close_session`.  The key of the session stays when the index does not list it. -/
def closeSession (self : ProtocolState keyExchange) (sessionId : SessionId) :
    ProtocolState keyExchange :=
  match self.connections.get sessionId with
  | none => self
  | some connection =>
      let closed := { self with connections := self.connections.remove sessionId }
      match self.addressSession.remove connection.address sessionId with
      | none => closed
      | some removed =>
          { closed with
            addressSession := removed
            encryption := self.encryption.remove sessionId }

def receivedHandshakeRejectedPacket (self : ProtocolState keyExchange)
    (packet : HandshakeRejection) : ProtocolState keyExchange :=
  match packet.reason with
  | .app => { self with handshakes := self.handshakes.remove packet.handshakeId }
  | .idCollision => { self with connections := self.connections.remove packet.sessionId }

/-! ## The two ends of a handshake -/

/-- The tables after `received_hello_packet_as_receiver` for an approved application: the session
it picked and the window of the exchanged key. -/
def helloAsReceiver (self : ProtocolState keyExchange) (packet : HelloPacket)
    (srcAddr : SocketAddr) (generated : SessionId) (ephemeralSecret : keyExchange.Secret) :
    ProtocolState keyExchange :=
  let sessionId :=
    if self.sessionExists packet.proposedSessionId then generated else packet.proposedSessionId
  let opened := self.newSession sessionId srcAddr packet.appId
  let key := keyExchange.getSharedSecret ephemeralSecret packet.publicKey
  { opened with encryption := opened.encryption.insert sessionId (EncryptionWindow.new key) }

/-- The tables after `received_hello_packet_as_initializer`: a collision restarts the handshake,
otherwise it is promoted. -/
def helloAsInitializer (self : ProtocolState keyExchange) (packet : HelloPacket)
    (srcAddr : SocketAddr) (ephemeralSecret : keyExchange.Secret)
    (newHandshakeId : HandshakeId) : ProtocolState keyExchange :=
  if self.sessionExists packet.proposedSessionId then
    (self.reuseHandshake packet.proposedSessionId packet.handshakeId ephemeralSecret
      newHandshakeId).1
  else
    match self.promoteHandshake packet.proposedSessionId srcAddr packet.handshakeId
        packet.appId with
    | (promoted, none) => promoted
    | (promoted, some secret) =>
        let key := keyExchange.getSharedSecret secret packet.publicKey
        { promoted with
          encryption := promoted.encryption.insert packet.proposedSessionId
            (EncryptionWindow.new key) }

end ProtocolState
end Ubass

import Mathlib.Logic.Function.Basic
import Ubass.Lib.Machine
import Ubass.Manager.HandleMessage
import Ubass.Processor.Inbound

/-!
# Handshakes between two hosts

Any number of handlers of `manager/routines/received.rs` run on each of two hosts.
Between two steps of a handler, which takes one lock each, every other handler may
move.  What a host has sent can be delivered to the other one at any later time,
any number of times and in any order.

For the statements a host remembers which handshake ids it has drawn and which
sessions it has opened in this run.
-/

set_option autoImplicit false

namespace Ubass

universe u

variable {Key : Type u} {keyExchange : KeyExchange Key}

/-! ## The steps of `promote_handshake` and `reuse_handshake` -/

namespace ProtocolState

/-- `HandshakeStateTable::take` -/
def takeHandshake (self : ProtocolState keyExchange) (handshakeId : HandshakeId) :
    ProtocolState keyExchange :=
  { self with handshakes := self.handshakes.remove handshakeId }

/-- The entry that `promote_handshake` inserts in the place it found vacant. -/
def storeEstablished (self : ProtocolState keyExchange) (newSessionId : SessionId)
    (address : SocketAddr) (appId : AppId) (sessionId : SessionId) : ProtocolState keyExchange :=
  { self with
    connections := self.connections.insert newSessionId
      (.established ⟨sessionId, .up, address, appId⟩)
    addressSession := self.addressSession.push address sessionId }

def fileHandshake (self : ProtocolState keyExchange) (handshakeId : HandshakeId)
    (handshake : HandshakeState keyExchange.Secret) : ProtocolState keyExchange :=
  { self with handshakes := self.handshakes.insert handshakeId handshake }

def insertKey (self : ProtocolState keyExchange) (sessionId : SessionId) (key : Key) :
    ProtocolState keyExchange :=
  { self with encryption := self.encryption.insert sessionId (EncryptionWindow.new key) }

theorem promoteHandshake_eq (self : ProtocolState keyExchange) (newSessionId : SessionId)
    (address : SocketAddr) (handshakeId : HandshakeId) (appId : AppId) :
    self.promoteHandshake newSessionId address handshakeId appId =
      match self.handshakes.get handshakeId with
      | none => (self, none)
      | some handshake =>
          let taken := self.takeHandshake handshakeId
          if taken.sessionExists newSessionId then (taken, none)
          else (taken.storeEstablished newSessionId address appId handshake.sessionId,
            some handshake.ephemeralSecret) :=
  rfl

theorem reuseHandshake_eq (self : ProtocolState keyExchange) (sessionId : SessionId)
    (handshakeId : HandshakeId) (ephemeralSecret : keyExchange.Secret)
    (newHandshakeId : HandshakeId) :
    self.reuseHandshake sessionId handshakeId ephemeralSecret newHandshakeId =
      match self.handshakes.get handshakeId with
      | none => (self, none)
      | some handshake =>
          ((self.takeHandshake handshakeId).fileHandshake newHandshakeId
            ⟨handshake.peerAddress, ephemeralSecret, sessionId⟩, some newHandshakeId) :=
  rfl

end ProtocolState

/-! ## Handlers -/

inductive HelloTask (Secret : Type) where
  /-- As receiver: the answer of the application. -/
  | asking (packet : HelloPacket) (srcAddr : SocketAddr)
  | approved (packet : HelloPacket) (srcAddr : SocketAddr)
  | opening (packet : HelloPacket) (srcAddr : SocketAddr) (sessionId : SessionId)
  | sharing (packet : HelloPacket) (sessionId : SessionId)
  | answering (packet : HelloPacket) (sessionId : SessionId) (ephemeralSecret : Secret)
  /-- As initializer: whether the session exists. -/
  | checking (packet : HelloPacket) (srcAddr : SocketAddr)
  | promoting (packet : HelloPacket) (srcAddr : SocketAddr)
  | storing (packet : HelloPacket) (srcAddr : SocketAddr) (handshake : HandshakeState Secret)
  | keying (packet : HelloPacket) (ephemeralSecret : Secret)
  | acknowledging (packet : HelloPacket)
  /-- After a collision, and for `connect` from `filing` on. -/
  | rejecting (packet : HelloPacket)
  | reusing (packet : HelloPacket)
  | drawing (handshake : HandshakeState Secret)
  | filing (handshakeId : HandshakeId) (handshake : HandshakeState Secret)
      (proposedSessionId : SessionId)
  | greeting (handshakeId : HandshakeId) (ephemeralSecret : Secret)
      (proposedSessionId : SessionId)

structure HandshakeHost {Key : Type u} (keyExchange : KeyExchange Key) where
  protocol : ProtocolState keyExchange
  tasks : Table Nat (HelloTask keyExchange.Secret)
  sent : List WirePacket
  /-- The handshake ids that were drawn. -/
  drawn : List HandshakeId
  /-- The sessions that `new_session` created. -/
  opened : List SessionId
  /-- The sessions that `promote_handshake` created. -/
  promoted : List SessionId

namespace HandshakeHost

variable (self : HandshakeHost keyExchange)

def getCipher (sessionId : SessionId) : Option Key :=
  EncryptionTable.getCipher self.protocol.encryption sessionId

def withTask (number : Nat) (task : HelloTask keyExchange.Secret) : HandshakeHost keyExchange :=
  { self with tasks := self.tasks.insert number task }

def finish (number : Nat) : HandshakeHost keyExchange :=
  { self with tasks := self.tasks.remove number }

def send (packet : WirePacket) : HandshakeHost keyExchange :=
  { self with sent := packet :: self.sent }

/-- The handshake id is one that `HandshakeId::generate` can return. -/
def Vacant (handshakeId : HandshakeId) : Prop :=
  self.protocol.handshakes.contains handshakeId = false ∧ handshakeId ≠ ⟨0⟩

instance (handshakeId : HandshakeId) : Decidable (self.Vacant handshakeId) :=
  inferInstanceAs (Decidable (_ ∧ _))

def advance (number : Nat) (inputs : HandlerInputs keyExchange.Secret) :
    HelloTask keyExchange.Secret → Option (HandshakeHost keyExchange)
  | .asking packet srcAddr =>
      if inputs.approved then some (self.withTask number (.approved packet srcAddr))
      else
        some ((self.send (.handshakeRejection (HandshakeRejection.new Options.none
          packet.proposedSessionId .app packet.handshakeId (inputs.clock 0)))).finish number)
  | .approved packet srcAddr =>
      let sessionId :=
        if self.protocol.sessionExists packet.proposedSessionId then inputs.generated
        else packet.proposedSessionId
      some (self.withTask number (.opening packet srcAddr sessionId))
  | .opening packet srcAddr sessionId =>
      let next := self.withTask number (.sharing packet sessionId)
      some { next with
        protocol := self.protocol.newSession sessionId srcAddr packet.appId
        opened :=
          if self.protocol.sessionExists sessionId then self.opened
          else sessionId :: self.opened }
  | .sharing packet sessionId =>
      let next := self.withTask number (.answering packet sessionId inputs.ephemeralSecret)
      some { next with
        protocol := self.protocol.insertKey sessionId
          (keyExchange.getSharedSecret inputs.ephemeralSecret packet.publicKey) }
  | .answering packet sessionId ephemeralSecret =>
      some ((self.send (.keyed (.hello (HelloPacket.new (Options.construct [.requireAck])
        sessionId packet.handshakeId (keyExchange.publicKey ephemeralSecret) inputs.appId
        (inputs.clock 0))))).finish number)
  | .checking packet srcAddr =>
      if self.protocol.sessionExists packet.proposedSessionId then
        some (self.withTask number (.rejecting packet))
      else some (self.withTask number (.promoting packet srcAddr))
  | .promoting packet srcAddr =>
      match self.protocol.handshakes.get packet.handshakeId with
      | none => some (self.finish number)
      | some handshake =>
          let next := self.withTask number (.storing packet srcAddr handshake)
          some { next with protocol := self.protocol.takeHandshake packet.handshakeId }
  | .storing packet srcAddr handshake =>
      if self.protocol.sessionExists packet.proposedSessionId then some (self.finish number)
      else
        let next := self.withTask number (.keying packet handshake.ephemeralSecret)
        some { next with
          protocol := self.protocol.storeEstablished packet.proposedSessionId srcAddr
            packet.appId handshake.sessionId
          promoted := packet.proposedSessionId :: self.promoted }
  | .keying packet ephemeralSecret =>
      let next := self.withTask number (.acknowledging packet)
      some { next with
        protocol := self.protocol.insertKey packet.proposedSessionId
          (keyExchange.getSharedSecret ephemeralSecret packet.publicKey) }
  | .acknowledging packet =>
      some ((self.send (.handshakeAck (HandshakeAckPacket.new packet.proposedSessionId
        packet.handshakeId (inputs.clock 0)))).finish number)
  | .rejecting packet =>
      some ((self.send (.handshakeRejection (HandshakeRejection.new Options.none
        packet.proposedSessionId .idCollision packet.handshakeId (inputs.clock 0)))).withTask
          number (.reusing packet))
  | .reusing packet =>
      match self.protocol.handshakes.get packet.handshakeId with
      | none => some (self.finish number)
      | some handshake =>
          let next := self.withTask number (.drawing
            ⟨handshake.peerAddress, inputs.ephemeralSecret, packet.proposedSessionId⟩)
          some { next with protocol := self.protocol.takeHandshake packet.handshakeId }
  | .drawing handshake =>
      if self.Vacant inputs.newHandshakeId then
        let next := self.withTask number (.filing inputs.newHandshakeId handshake inputs.generated)
        some { next with drawn := inputs.newHandshakeId :: self.drawn }
      else none
  | .filing handshakeId handshake proposedSessionId =>
      let next := self.withTask number
        (.greeting handshakeId handshake.ephemeralSecret proposedSessionId)
      some { next with protocol := self.protocol.fileHandshake handshakeId handshake }
  | .greeting handshakeId ephemeralSecret proposedSessionId =>
      some ((self.send (.keyed (.hello (HelloPacket.new Options.none proposedSessionId handshakeId
        (keyExchange.publicKey ephemeralSecret) inputs.appId (inputs.clock 1))))).finish number)

end HandshakeHost

/-! ## Without interruption

The steps of a handler, one right after the other, do what the routine does as a whole.
-/

namespace HandshakeHost

def advanceFor (number : Nat) (inputs : HandlerInputs keyExchange.Secret) :
    Nat → HandshakeHost keyExchange → Option (HandshakeHost keyExchange)
  | 0, self => some self
  | steps + 1, self =>
      match self.tasks.get number with
      | none => some self
      | some task => (self.advance number inputs task).bind (advanceFor number inputs steps)

/-- The handler ends with the tables of the reply, and has sent its packets after the earlier
ones. -/
def Does (self : HandshakeHost keyExchange) (earlier : List WirePacket) (number : Nat)
    (inputs : HandlerInputs keyExchange.Secret) (ack : PendingAckWindow)
    (reply : Reply keyExchange) : Prop :=
  ∃ final steps, advanceFor number inputs steps self = some final ∧
    reply.state = ⟨final.protocol, ack⟩ ∧
    final.sent = (reply.sent.map Prod.fst).reverse ++ earlier

variable {self next : HandshakeHost keyExchange} {number : Nat}
  {inputs : HandlerInputs keyExchange.Secret} {packet : HelloPacket} {srcAddr : SocketAddr}
  {ack : PendingAckWindow}

theorem Does.done {earlier : List WirePacket} {reply : Reply keyExchange}
    (tables : reply.state = ⟨self.protocol, ack⟩)
    (packets : self.sent = (reply.sent.map Prod.fst).reverse ++ earlier) :
    self.Does earlier number inputs ack reply :=
  ⟨self, 0, rfl, tables, packets⟩

theorem Does.step {earlier : List WirePacket} {reply : Reply keyExchange}
    {task : HelloTask keyExchange.Secret} (found : self.tasks.get number = some task)
    (stepped : self.advance number inputs task = some next)
    (rest : next.Does earlier number inputs ack reply) :
    self.Does earlier number inputs ack reply := by
  obtain ⟨final, steps, ran, tables, packets⟩ := rest
  refine ⟨final, steps + 1, ?_, tables, packets⟩
  rw [advanceFor, found]
  simp only [stepped, Option.bind_some, ran]

theorem advance_promoting {handshake : HandshakeState keyExchange.Secret}
    (waiting : self.protocol.handshakes.get packet.handshakeId = some handshake) :
    self.advance number inputs (.promoting packet srcAddr) =
      some { self.withTask number (.storing packet srcAddr handshake) with
        protocol := self.protocol.takeHandshake packet.handshakeId } := by
  rw [advance, waiting]

theorem advance_promoting_none
    (gone : self.protocol.handshakes.get packet.handshakeId = none) :
    self.advance number inputs (.promoting packet srcAddr) = some (self.finish number) := by
  rw [advance, gone]

theorem advance_reusing {handshake : HandshakeState keyExchange.Secret}
    (waiting : self.protocol.handshakes.get packet.handshakeId = some handshake) :
    self.advance number inputs (.reusing packet) =
      some { self.withTask number (.drawing
          ⟨handshake.peerAddress, inputs.ephemeralSecret, packet.proposedSessionId⟩) with
        protocol := self.protocol.takeHandshake packet.handshakeId } := by
  rw [advance, waiting]

theorem advance_reusing_none (gone : self.protocol.handshakes.get packet.handshakeId = none) :
    self.advance number inputs (.reusing packet) = some (self.finish number) := by
  rw [advance, gone]

theorem asking_does (ack : PendingAckWindow)
    (found : self.tasks.get number = some (.asking packet srcAddr)) :
    self.Does self.sent number inputs ack
      (ManagerState.receivedHelloPacketAsReceiver inputs ⟨self.protocol, ack⟩ packet srcAddr) := by
  rw [ManagerState.receivedHelloPacketAsReceiver]
  by_cases yes : inputs.approved = true
  · rw [if_pos yes]
    refine Does.step found (if_pos yes) ?_
    refine Does.step (Table.get_insert_self _ _ _) rfl ?_
    refine Does.step (Table.get_insert_self _ _ _) rfl ?_
    refine Does.step (Table.get_insert_self _ _ _) rfl ?_
    refine Does.step (Table.get_insert_self _ _ _) rfl ?_
    exact Does.done rfl rfl
  · rw [if_neg yes]
    refine Does.step found (if_neg yes) ?_
    exact Does.done rfl rfl

/-- As initializer.  The handshake id that answers a collision must be one that can be drawn. -/
theorem checking_does (ack : PendingAckWindow)
    (found : self.tasks.get number = some (.checking packet srcAddr))
    (vacant : (self.protocol.takeHandshake packet.handshakeId).handshakes.contains
      inputs.newHandshakeId = false ∧ inputs.newHandshakeId ≠ ⟨0⟩) :
    self.Does self.sent number inputs ack
      (ManagerState.receivedHelloPacketAsInitializer inputs ⟨self.protocol, ack⟩ packet
        srcAddr) := by
  rw [ManagerState.receivedHelloPacketAsInitializer]
  dsimp only
  by_cases taken : self.protocol.sessionExists packet.proposedSessionId = true
  · rw [if_pos taken, ManagerState.sessionIdCollided]
    dsimp only
    rw [ProtocolState.reuseHandshake_eq]
    refine Does.step found (if_pos taken) ?_
    refine Does.step (Table.get_insert_self _ _ _) rfl ?_
    cases waiting : self.protocol.handshakes.get packet.handshakeId with
    | none =>
        refine Does.step (Table.get_insert_self _ _ _) (advance_reusing_none ?_) ?_
        · exact waiting
        exact Does.done rfl rfl
    | some handshake =>
        refine Does.step (Table.get_insert_self _ _ _)
          (@advance_reusing Key keyExchange _ number inputs packet handshake ?_) ?_
        · exact waiting
        refine Does.step (Table.get_insert_self _ _ _) (if_pos vacant) ?_
        refine Does.step (Table.get_insert_self _ _ _) rfl ?_
        refine Does.step (Table.get_insert_self _ _ _) rfl ?_
        exact Does.done rfl rfl
  · rw [if_neg taken]
    refine Does.step found (if_neg taken) ?_
    rw [ProtocolState.helloAsInitializer, if_neg taken, ProtocolState.promoteHandshake_eq]
    cases waiting : self.protocol.handshakes.get packet.handshakeId with
    | none =>
        refine Does.step (Table.get_insert_self _ _ _) (advance_promoting_none ?_) ?_
        · exact waiting
        exact Does.done rfl rfl
    | some handshake =>
        refine Does.step (Table.get_insert_self _ _ _)
          (@advance_promoting Key keyExchange _ number inputs packet srcAddr handshake ?_) ?_
        · exact waiting
        have vacantSession : ¬ (self.protocol.takeHandshake
            packet.handshakeId).sessionExists packet.proposedSessionId = true := taken
        dsimp only
        rw [if_neg vacantSession]
        refine Does.step (Table.get_insert_self _ _ _) (if_neg taken) ?_
        refine Does.step (Table.get_insert_self _ _ _) rfl ?_
        refine Does.step (Table.get_insert_self _ _ _) rfl ?_
        exact Does.done rfl rfl

end HandshakeHost

inductive HandshakeAction (Secret : Type) where
  /-- `connect`, up to the entry of the handshake, as a new task. -/
  | connect (number : Nat) (address : SocketAddr) (sessionId : SessionId)
      (ephemeralSecret : Secret) (handshakeId : HandshakeId)
  /-- `received_hello_packet`, as a new task. -/
  | receivedHello (number : Nat) (packet : HelloPacket) (srcAddr : SocketAddr)
  | receivedHandshakeAck (packet : HandshakeAckPacket)
  | receivedHandshakeRejection (packet : HandshakeRejection)
  | advance (number : Nat) (inputs : HandlerInputs Secret)

namespace HandshakeHost

def act (self : HandshakeHost keyExchange) (sentByOther : List WirePacket) :
    HandshakeAction keyExchange.Secret → Option (HandshakeHost keyExchange)
  | .connect number address sessionId ephemeralSecret handshakeId =>
      if self.tasks.contains number = false ∧ self.Vacant handshakeId then
        let next := self.withTask number
          (.filing handshakeId ⟨address, ephemeralSecret, sessionId⟩ sessionId)
        some { next with drawn := handshakeId :: self.drawn }
      else none
  | .receivedHello number packet srcAddr =>
      if self.tasks.contains number = false ∧ .keyed (.hello packet) ∈ sentByOther then
        if self.protocol.handshakes.contains packet.handshakeId then
          some (self.withTask number (.checking packet srcAddr))
        else some (self.withTask number (.asking packet srcAddr))
      else none
  | .receivedHandshakeAck packet =>
      if .handshakeAck packet ∈ sentByOther then
        some { self with protocol := self.protocol.handshakeDone packet.sessionId }
      else none
  | .receivedHandshakeRejection packet =>
      if .handshakeRejection packet ∈ sentByOther then
        some { self with protocol := self.protocol.receivedHandshakeRejectedPacket packet }
      else none
  | .advance number inputs =>
      match self.tasks.get number with
      | none => none
      | some task => self.advance number inputs task

/-- A host before the first handshake of the run, with any sessions.  What `new_session` once
stored is stored under its own id. -/
structure Fresh (host : HandshakeHost keyExchange) : Prop where
  tasks : host.tasks = Table.empty
  handshakes : host.protocol.handshakes = Table.empty
  sent : host.sent = []
  drawn : host.drawn = []
  opened : host.opened = []
  promoted : host.promoted = []
  stored : ∀ sessionId inner appId address,
    host.protocol.connections.get sessionId = some (.handshake inner appId address) →
      inner = sessionId

end HandshakeHost

/-! ## The two hosts -/

inductive Host where
  | left
  | right
deriving DecidableEq

def Host.other : Host → Host
  | left => right
  | right => left

@[simp] theorem Host.other_ne (host : Host) : host.other ≠ host := by
  cases host <;> decide

@[simp] theorem Host.other_other (host : Host) : host.other.other = host := by
  cases host <;> rfl

abbrev HandshakeHosts {Key : Type u} (keyExchange : KeyExchange Key) :=
  Host → HandshakeHost keyExchange

namespace HandshakeHosts

/-- A host acts while the other one stands still. -/
def machine (keyExchange : KeyExchange Key) :
    Machine (HandshakeHosts keyExchange) (Host × HandshakeAction keyExchange.Secret) where
  initial state := ∀ host, (state host).Fresh
  step state label :=
    ((state label.1).act (state label.1.other).sent label.2).map (Function.update state label.1)

variable (state : HandshakeHosts keyExchange)

/-- The host holds an established session that a handshake of this run created. -/
def Established (host : Host) (sessionId : SessionId) : Prop :=
  (sessionId ∈ (state host).opened ∨ sessionId ∈ (state host).promoted) ∧
    ∃ session, (state host).protocol.connections.get sessionId = some (.established session)

def Agree : Prop :=
  ∀ sessionId, (∀ host, state.Established host sessionId) →
    ∃ key, ∀ host, (state host).getCipher sessionId = some key

/-- In this step no key is replaced or removed while the session stays. -/
def KeepsKeys (state next : HandshakeHosts keyExchange) : Prop :=
  ∀ host sessionId key, (state host).protocol.sessionExists sessionId = true →
    (next host).protocol.sessionExists sessionId = true →
    (state host).getCipher sessionId = some key → (next host).getCipher sessionId = some key

end HandshakeHosts

/-! ## The condition -/

def HelloTask.owes {Secret : Type} : HelloTask Secret → Option SessionId
  | .sharing _ sessionId => some sessionId
  | .keying packet _ => some packet.proposedSessionId
  | _ => none

/-- No key is stored for the session, and no handler is about to store one. -/
def HandshakeHost.Unkeyed (self : HandshakeHost keyExchange) (sessionId : SessionId) : Prop :=
  self.getCipher sessionId = none ∧
    ∀ number task, self.tasks.get number = some task → task.owes ≠ some sessionId

namespace HandshakeHosts

def Undrawn (state : HandshakeHosts keyExchange) (handshakeId : HandshakeId) : Prop :=
  ∀ host, handshakeId ∉ (state host).drawn

/-- `new_session` is never refused, a session is only created where no key was left or is on its
way, and no handshake id is drawn twice. -/
def Orderly (state : HandshakeHosts keyExchange)
    (label : Host × HandshakeAction keyExchange.Secret) : Prop :=
  match label.2 with
  | .connect _ _ _ _ handshakeId => state.Undrawn handshakeId
  | .advance number inputs =>
      match (state label.1).tasks.get number with
      | some (.opening _ _ sessionId) =>
          (state label.1).protocol.sessionExists sessionId = false ∧
            (state label.1).Unkeyed sessionId
      | some (.storing packet _ _) =>
          (state label.1).protocol.sessionExists packet.proposedSessionId = false →
            (state label.1).Unkeyed packet.proposedSessionId
      | some (.drawing _) => state.Undrawn inputs.newHandshakeId
      | _ => True
  | _ => True

end HandshakeHosts
end Ubass

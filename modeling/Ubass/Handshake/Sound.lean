import Ubass.Handshake.Model
import Ubass.Processor.RoundTrip

/-!
# What a host relies on in a handshake

The invariant of a host beside its peer: every session it has created is keyed once,
every reply that can still complete one of its handshakes comes from the session
and the key the peer holds, and an established session was acknowledged.  It is
stated for one host and its peer, and used in both directions.
-/

set_option autoImplicit false

namespace Ubass

universe u

variable {Key : Type u} {keyExchange : KeyExchange Key}

def HelloTask.draws {Secret : Type} : HelloTask Secret → Option HandshakeId
  | .filing handshakeId _ _ | .greeting handshakeId _ _ => some handshakeId
  | _ => none

def HelloTask.answers {Secret : Type} : HelloTask Secret → Option HandshakeId
  | .asking packet _ | .approved packet _ | .opening packet _ _ | .sharing packet _
  | .answering packet _ _ => some packet.handshakeId
  | _ => none

namespace HandshakeHost

/-! ## Tasks and packets -/

variable {self other next : HandshakeHost keyExchange}

/-- The host holds the key that the secret of its peer gives with this reply. -/
def Shared (other : HandshakeHost keyExchange) (ephemeralSecret : keyExchange.Secret)
    (reply : HelloPacket) : Prop :=
  reply.proposedSessionId ∈ other.opened ∧
    other.getCipher reply.proposedSessionId =
      some (keyExchange.getSharedSecret ephemeralSecret reply.publicKey)

def TaskSound (self other : HandshakeHost keyExchange) :
    HelloTask keyExchange.Secret → Prop
  | .asking packet _ | .approved packet _ | .opening packet _ _ | .checking packet _
  | .promoting packet _ | .rejecting packet | .reusing packet =>
      .keyed (.hello packet) ∈ other.sent
  | .sharing packet sessionId =>
      .keyed (.hello packet) ∈ other.sent ∧ sessionId ∈ self.opened
  | .answering packet sessionId ephemeralSecret =>
      .keyed (.hello packet) ∈ other.sent ∧ sessionId ∈ self.opened ∧
        self.getCipher sessionId =
          some (keyExchange.getSharedSecret ephemeralSecret packet.publicKey)
  | .storing packet _ handshake => other.Shared handshake.ephemeralSecret packet
  | .keying packet ephemeralSecret =>
      other.Shared ephemeralSecret packet ∧ packet.proposedSessionId ∈ self.promoted
  | .acknowledging packet =>
      packet.proposedSessionId ∈ self.promoted ∧
        (self.getCipher packet.proposedSessionId).isSome = true
  | .drawing _ => True
  | .filing handshakeId _ _ | .greeting handshakeId _ _ => handshakeId ∈ self.drawn

def PacketSound (self other : HandshakeHost keyExchange) : WirePacket → Prop
  | .keyed (.hello packet) =>
      packet.handshakeId ∈ self.drawn ∨ packet.handshakeId ∈ other.drawn
  | .handshakeAck packet =>
      packet.sessionId ∈ self.promoted ∧ (self.getCipher packet.sessionId).isSome = true
  | _ => True

/-- No `HelloPacket` with the handshake id was sent. -/
def Silent (self : HandshakeHost keyExchange) (handshakeId : HandshakeId) : Prop :=
  ∀ packet, .keyed (.hello packet) ∈ self.sent → packet.handshakeId ≠ handshakeId

/-- A pending handshake: its greetings carry the public key of its secret, and every reply to it
gives the key that the peer holds. -/
structure Pending (host peer : HandshakeHost keyExchange) (handshakeId : HandshakeId)
    (ephemeralSecret : keyExchange.Secret) : Prop where
  drawn : handshakeId ∈ host.drawn
  own : ∀ packet, .keyed (.hello packet) ∈ host.sent → packet.handshakeId = handshakeId →
    packet.publicKey = keyExchange.publicKey ephemeralSecret
  answered : ∀ reply, .keyed (.hello reply) ∈ peer.sent → reply.handshakeId = handshakeId →
    peer.Shared ephemeralSecret reply
  unanswered : ∀ number task, host.tasks.get number = some task →
    task.answers ≠ some handshakeId
  greeting : ∀ number secret proposed,
    host.tasks.get number = some (.greeting handshakeId secret proposed) →
      secret = ephemeralSecret

structure Sound (host peer : HandshakeHost keyExchange) : Prop where
  /-- A session in its handshake is stored under its own id. -/
  stored : ∀ sessionId inner appId address,
    host.protocol.connections.get sessionId = some (.handshake inner appId address) →
      inner = sessionId
  /-- A key is stored once. -/
  owed : ∀ number task sessionId, host.tasks.get number = some task →
    task.owes = some sessionId → host.getCipher sessionId = none
  owedOnce : ∀ first second task task' sessionId, host.tasks.get first = some task →
    host.tasks.get second = some task' → task.owes = some sessionId →
    task'.owes = some sessionId → first = second
  keyed : ∀ sessionId, sessionId ∈ host.opened ∨ sessionId ∈ host.promoted →
    ¬ host.Unkeyed sessionId
  apart : ∀ sessionId ∈ host.opened, sessionId ∉ host.promoted
  /-- A session that was opened is established by the acknowledgement of the peer. -/
  acknowledged : ∀ sessionId session, sessionId ∈ host.opened →
    host.protocol.connections.get sessionId = some (.established session) →
    ∃ packet, .handshakeAck packet ∈ peer.sent ∧ packet.sessionId = sessionId
  /-- A session that was promoted has been opened by the peer, with the same key. -/
  agrees : ∀ sessionId ∈ host.promoted, sessionId ∈ peer.opened ∧
    ∀ key, host.getCipher sessionId = some key → peer.getCipher sessionId = some key
  tasks : ∀ number task, host.tasks.get number = some task → host.TaskSound peer task
  packets : ∀ packet ∈ host.sent, host.PacketSound peer packet
  drawsOnce : ∀ first second task task' handshakeId, host.tasks.get first = some task →
    host.tasks.get second = some task' → task.draws = some handshakeId →
    task'.draws = some handshakeId → first = second
  /-- Nothing was sent for a handshake before it is filed. -/
  silent : ∀ number handshakeId handshake proposed,
    host.tasks.get number = some (.filing handshakeId handshake proposed) →
      host.Silent handshakeId ∧ peer.Silent handshakeId
  pending : ∀ handshakeId handshake, host.protocol.handshakes.get handshakeId = some handshake →
    host.Pending peer handshakeId handshake.ephemeralSecret
  drawnApart : ∀ handshakeId ∈ host.drawn, handshakeId ∉ peer.drawn

/-! ## Growing -/

structure Grows (host after : HandshakeHost keyExchange) : Prop where
  ciphers : ∀ sessionId key, host.getCipher sessionId = some key →
    after.getCipher sessionId = some key
  opened : ∀ sessionId ∈ host.opened, sessionId ∈ after.opened
  promoted : ∀ sessionId ∈ host.promoted, sessionId ∈ after.promoted
  drawn : ∀ handshakeId ∈ host.drawn, handshakeId ∈ after.drawn
  sent : ∀ packet ∈ host.sent, packet ∈ after.sent

theorem Grows.refl (self : HandshakeHost keyExchange) : self.Grows self :=
  ⟨fun _ _ => id, fun _ => id, fun _ => id, fun _ => id, fun _ => id⟩

theorem Grows.isSome (grows : self.Grows next) {sessionId : SessionId}
    (keyed : (self.getCipher sessionId).isSome = true) :
    (next.getCipher sessionId).isSome = true := by
  obtain ⟨key, found⟩ := Option.isSome_iff_exists.mp keyed
  rw [grows.ciphers sessionId key found]
  rfl

theorem Shared.mono {ephemeralSecret : keyExchange.Secret} {reply : HelloPacket}
    (shared : self.Shared ephemeralSecret reply) (grows : self.Grows next) :
    next.Shared ephemeralSecret reply :=
  ⟨grows.opened _ shared.1, grows.ciphers _ _ shared.2⟩

theorem TaskSound.mono {next' : HandshakeHost keyExchange}
    {task : HelloTask keyExchange.Secret} (sound : self.TaskSound other task)
    (grows : self.Grows next) (grows' : other.Grows next') : next.TaskSound next' task := by
  cases task with
  | asking | approved | opening | checking | promoting | rejecting | reusing =>
      exact grows'.sent _ sound
  | sharing => exact ⟨grows'.sent _ sound.1, grows.opened _ sound.2⟩
  | answering =>
      exact ⟨grows'.sent _ sound.1, grows.opened _ sound.2.1, grows.ciphers _ _ sound.2.2⟩
  | storing => exact Shared.mono sound grows'
  | keying => exact ⟨Shared.mono sound.1 grows', grows.promoted _ sound.2⟩
  | acknowledging => exact ⟨grows.promoted _ sound.1, grows.isSome sound.2⟩
  | drawing => trivial
  | filing | greeting => exact grows.drawn _ sound

theorem PacketSound.mono {next' : HandshakeHost keyExchange} {packet : WirePacket}
    (sound : self.PacketSound other packet) (grows : self.Grows next)
    (grows' : other.Grows next') : next.PacketSound next' packet := by
  cases packet with
  | keyed packet =>
      cases packet with
      | hello packet =>
          rcases sound with drawn | drawn
          · exact Or.inl (grows.drawn _ drawn)
          · exact Or.inr (grows'.drawn _ drawn)
      | _ => trivial
  | handshakeAck packet => exact ⟨grows.promoted _ sound.1, grows.isSome sound.2⟩
  | _ => trivial

/-- A packet that the peer may send: no handshake is about to be filed under its id, and if one
is pending the packet is a reply to it. -/
structure Expected (host after : HandshakeHost keyExchange) (packet : HelloPacket) : Prop where
  unfiled : ∀ number handshake proposed,
    host.tasks.get number ≠ some (.filing packet.handshakeId handshake proposed)
  reply : ∀ handshake, host.protocol.handshakes.get packet.handshakeId = some handshake →
    after.Shared handshake.ephemeralSecret packet

theorem Sound.peer (sound : self.Sound other) (grows : other.Grows next)
    (expected : ∀ packet, .keyed (.hello packet) ∈ next.sent →
      .keyed (.hello packet) ∈ other.sent ∨ self.Expected next packet)
    (drawnApart : ∀ handshakeId ∈ self.drawn, handshakeId ∉ next.drawn) : self.Sound next where
  stored := sound.stored
  owed := sound.owed
  owedOnce := sound.owedOnce
  keyed := sound.keyed
  apart := sound.apart
  acknowledged sessionId session opened established := by
    obtain ⟨packet, sent, same⟩ := sound.acknowledged sessionId session opened established
    exact ⟨packet, grows.sent _ sent, same⟩
  agrees sessionId promoted := by
    obtain ⟨opened, agrees⟩ := sound.agrees sessionId promoted
    exact ⟨grows.opened _ opened, fun key found => grows.ciphers _ _ (agrees key found)⟩
  tasks number task found := (sound.tasks number task found).mono (Grows.refl self) grows
  packets packet sent := (sound.packets packet sent).mono (Grows.refl self) grows
  drawsOnce := sound.drawsOnce
  silent number handshakeId handshake proposed found := by
    obtain ⟨own, peer⟩ := sound.silent number handshakeId handshake proposed found
    refine ⟨own, ?_⟩
    intro packet sent same
    subst same
    rcases expected packet sent with sent | expected
    · exact peer packet sent rfl
    · exact expected.unfiled number handshake proposed found
  pending handshakeId handshake found := by
    have pending := sound.pending handshakeId handshake found
    refine ⟨pending.drawn, pending.own, ?_, pending.unanswered, pending.greeting⟩
    intro reply sent same
    rcases expected reply sent with sent | expected
    · exact (pending.answered reply sent same).mono grows
    · subst same
      exact expected.reply handshake found
  drawnApart := drawnApart

end HandshakeHost
end Ubass

import Ubass.Handshake.Sound

/-!
# The steps of a handshake

One lemma for each thing a handler does to its host: the invariant holds again
afterwards.  The steps of `HandshakeHost.act` are put together from them.
-/

set_option autoImplicit false

namespace Ubass

universe u

variable {Key : Type u} {keyExchange : KeyExchange Key}

namespace HandshakeHost

variable {self other next : HandshakeHost keyExchange} {number : Nat}

/-! ## Tasks -/

theorem withTask_finish (self : HandshakeHost keyExchange) (number : Nat)
    (task : HelloTask keyExchange.Secret) :
    (self.finish number).withTask number task = self.withTask number task := by
  have same : (self.tasks.remove number).insert number task = self.tasks.insert number task := by
    apply Table.ext
    intro other
    rw [Table.get_insert, Table.get_insert, Table.get_remove]
    split <;> rfl
  rw [withTask, finish]
  simp only [same]
  rfl

theorem get_withTask {task found : HelloTask keyExchange.Secret} {other : Nat}
    (here : (self.tasks.insert number task).get other = some found) :
    other = number ∧ found = task ∨ other ≠ number ∧ self.tasks.get other = some found := by
  rw [Table.get_insert] at here
  split at here
  · rename_i same
    exact Or.inl ⟨same, (Option.some.inj here).symm⟩
  · rename_i different
    exact Or.inr ⟨different, here⟩

theorem grows_finish : self.Grows (self.finish number) :=
  ⟨fun _ _ => id, fun _ => id, fun _ => id, fun _ => id, fun _ => id⟩

theorem grows_withTask {task : HelloTask keyExchange.Secret} :
    self.Grows (self.withTask number task) :=
  ⟨fun _ _ => id, fun _ => id, fun _ => id, fun _ => id, fun _ => id⟩

theorem Sound.finish (sound : self.Sound other)
    (idle : ∀ task, self.tasks.get number = some task → task.owes = none) :
    (self.finish number).Sound other where
  stored := sound.stored
  owed other task sessionId found :=
    sound.owed other task sessionId (Table.get_of_get_remove found).2
  owedOnce first second task task' sessionId found found' :=
    sound.owedOnce first second task task' sessionId (Table.get_of_get_remove found).2
      (Table.get_of_get_remove found').2
  keyed sessionId created unkeyed := by
    refine sound.keyed sessionId created ⟨unkeyed.1, ?_⟩
    intro other task found owes
    have different : other ≠ number := by
      rintro rfl
      rw [idle task found] at owes
      cases owes
    exact unkeyed.2 other task ((Table.get_remove_of_ne _ different).trans found) owes
  apart := sound.apart
  acknowledged := sound.acknowledged
  agrees := sound.agrees
  tasks other task found :=
    (sound.tasks other task (Table.get_of_get_remove found).2).mono grows_finish (Grows.refl _)
  packets := sound.packets
  drawsOnce first second task task' handshakeId found found' :=
    sound.drawsOnce first second task task' handshakeId (Table.get_of_get_remove found).2
      (Table.get_of_get_remove found').2
  silent other handshakeId handshake proposed found :=
    sound.silent other handshakeId handshake proposed (Table.get_of_get_remove found).2
  pending handshakeId handshake found := by
    have pending := sound.pending handshakeId handshake found
    refine ⟨pending.drawn, pending.own, pending.answered, ?_, ?_⟩
    · intro other task found
      exact pending.unanswered other task (Table.get_of_get_remove found).2
    · intro other secret proposed found
      exact pending.greeting other secret proposed (Table.get_of_get_remove found).2
  drawnApart := sound.drawnApart

theorem Sound.done {task : HelloTask keyExchange.Secret} (sound : self.Sound other)
    (found : self.tasks.get number = some task) (idle : task.owes = none) :
    (self.finish number).Sound other := by
  apply sound.finish
  intro same here
  rw [found] at here
  rw [← Option.some.inj here, idle]

theorem Sound.owed_insert {task : HelloTask keyExchange.Secret} (sound : self.Sound other)
    (number : Nat) (idle : task.owes = none) (place : Nat) (found : HelloTask keyExchange.Secret)
    (sessionId : SessionId) (here : (self.tasks.insert number task).get place = some found)
    (owes : found.owes = some sessionId) : self.getCipher sessionId = none := by
  rcases get_withTask here with ⟨-, rfl⟩ | ⟨-, earlier⟩
  · rw [idle] at owes
    cases owes
  · exact sound.owed place found sessionId earlier owes

theorem Sound.owedOnce_insert {task : HelloTask keyExchange.Secret} (sound : self.Sound other)
    (number : Nat) (idle : task.owes = none) (first second : Nat)
    (found found' : HelloTask keyExchange.Secret) (sessionId : SessionId)
    (here : (self.tasks.insert number task).get first = some found)
    (here' : (self.tasks.insert number task).get second = some found')
    (owes : found.owes = some sessionId) (owes' : found'.owes = some sessionId) :
    first = second := by
  rcases get_withTask here with ⟨-, rfl⟩ | ⟨-, earlier⟩
  · rw [idle] at owes
    cases owes
  · rcases get_withTask here' with ⟨-, rfl⟩ | ⟨-, earlier'⟩
    · rw [idle] at owes'
      cases owes'
    · exact sound.owedOnce first second found found' sessionId earlier earlier' owes owes'

theorem not_owes_of_insert {task : HelloTask keyExchange.Secret} {sessionId : SessionId}
    (idle : ∀ earlier, self.tasks.get number = some earlier → earlier.owes = none)
    (unowed : ∀ place found, (self.tasks.insert number task).get place = some found →
      found.owes ≠ some sessionId) (place : Nat) (found : HelloTask keyExchange.Secret)
    (here : self.tasks.get place = some found) : found.owes ≠ some sessionId := by
  intro owes
  by_cases same : place = number
  · subst same
    rw [idle found here] at owes
    cases owes
  · exact unowed place found ((Table.get_insert_of_ne _ _ same).trans here) owes

theorem Sound.tasks_insert {task : HelloTask keyExchange.Secret} (sound : self.Sound other)
    (number : Nat) (grows : self.Grows next) (holds : next.TaskSound other task) (place : Nat)
    (found : HelloTask keyExchange.Secret)
    (here : (self.tasks.insert number task).get place = some found) :
    next.TaskSound other found := by
  rcases get_withTask here with ⟨-, rfl⟩ | ⟨-, earlier⟩
  · exact holds
  · exact (sound.tasks place found earlier).mono grows (Grows.refl _)

theorem Sound.packets_grow (sound : self.Sound other) (grows : self.Grows next)
    (packet : WirePacket) (sent : packet ∈ self.sent) : next.PacketSound other packet :=
  (sound.packets packet sent).mono grows (Grows.refl _)

theorem Sound.drawsOnce_insert {task : HelloTask keyExchange.Secret} (sound : self.Sound other)
    (quiet : task.draws = none) (first second : Nat) (found found' : HelloTask keyExchange.Secret)
    (handshakeId : HandshakeId) (here : (self.tasks.insert number task).get first = some found)
    (here' : (self.tasks.insert number task).get second = some found')
    (draws : found.draws = some handshakeId) (draws' : found'.draws = some handshakeId) :
    first = second := by
  rcases get_withTask here with ⟨-, rfl⟩ | ⟨-, earlier⟩
  · rw [quiet] at draws
    cases draws
  · rcases get_withTask here' with ⟨-, rfl⟩ | ⟨-, earlier'⟩
    · rw [quiet] at draws'
      cases draws'
    · exact sound.drawsOnce first second found found' handshakeId earlier earlier' draws draws'

theorem Sound.silent_insert {task : HelloTask keyExchange.Secret} (sound : self.Sound other)
    (quiet : task.draws = none) (place : Nat) (handshakeId : HandshakeId)
    (handshake : HandshakeState keyExchange.Secret) (proposed : SessionId)
    (here : (self.tasks.insert number task).get place =
      some (.filing handshakeId handshake proposed)) :
    self.Silent handshakeId ∧ other.Silent handshakeId := by
  rcases get_withTask here with ⟨-, rfl⟩ | ⟨-, earlier⟩
  · cases quiet
  · exact sound.silent place handshakeId handshake proposed earlier

/-- A task that comes leaves a filed handshake as it is, if it neither answers nor greets it. -/
theorem Pending.insert {handshakeId : HandshakeId} {secret : keyExchange.Secret}
    (pending : Pending self other handshakeId secret) (number : Nat)
    {task : HelloTask keyExchange.Secret} (unanswered : task.answers ≠ some handshakeId)
    (apart : ∀ ephemeralSecret proposed, task ≠ .greeting handshakeId ephemeralSecret proposed) :
    Pending { self with tasks := self.tasks.insert number task } other handshakeId secret := by
  refine ⟨pending.drawn, pending.own, pending.answered, ?_, ?_⟩
  · intro place found here answers
    rcases get_withTask here with ⟨-, rfl⟩ | ⟨-, earlier⟩
    · exact unanswered answers
    · exact pending.unanswered place found earlier answers
  · intro place ephemeralSecret proposed here
    rcases get_withTask here with ⟨-, same⟩ | ⟨-, earlier⟩
    · exact absurd same.symm (apart ephemeralSecret proposed)
    · exact pending.greeting place ephemeralSecret proposed earlier

theorem Sound.pending_insert {task : HelloTask keyExchange.Secret} (sound : self.Sound other)
    (number : Nat) (quiet : task.draws = none)
    (unanswered : ∀ handshakeId, task.answers = some handshakeId →
      self.protocol.handshakes.get handshakeId = none) {handshakeId : HandshakeId}
    {handshake : HandshakeState keyExchange.Secret}
    (waits : self.protocol.handshakes.get handshakeId = some handshake) :
    Pending { self with tasks := self.tasks.insert number task } other handshakeId
      handshake.ephemeralSecret := by
  refine (sound.pending handshakeId handshake waits).insert number ?_ ?_
  · intro answers
    cases waits.symm.trans (unanswered handshakeId answers)
  · rintro secret proposed rfl
    cases quiet

theorem Sound.withTask {task : HelloTask keyExchange.Secret} (sound : self.Sound other)
    (free : self.tasks.get number = none) (idle : task.owes = none) (quiet : task.draws = none)
    (holds : self.TaskSound other task)
    (unanswered : ∀ handshakeId, task.answers = some handshakeId →
      self.protocol.handshakes.get handshakeId = none) :
    (self.withTask number task).Sound other where
  stored := sound.stored
  owed := sound.owed_insert number idle
  owedOnce := sound.owedOnce_insert number idle
  keyed sessionId created unkeyed := by
    refine sound.keyed sessionId created ⟨unkeyed.1, not_owes_of_insert ?_ unkeyed.2⟩
    intro earlier found
    cases free.symm.trans found
  apart := sound.apart
  acknowledged := sound.acknowledged
  agrees := sound.agrees
  tasks := sound.tasks_insert number grows_withTask (holds.mono grows_withTask (Grows.refl _))
  packets := sound.packets
  drawsOnce := sound.drawsOnce_insert quiet
  silent := sound.silent_insert quiet
  pending handshakeId handshake waits := by
    have pending := sound.pending_insert number quiet unanswered waits
    exact ⟨pending.drawn, pending.own, pending.answered, pending.unanswered, pending.greeting⟩
  drawnApart := sound.drawnApart

theorem Sound.retask {task task' : HelloTask keyExchange.Secret} (sound : self.Sound other)
    (found : self.tasks.get number = some task) (idle : task.owes = none)
    (idle' : task'.owes = none) (quiet : task'.draws = none)
    (holds : self.TaskSound other task')
    (unanswered : ∀ handshakeId, task'.answers = some handshakeId →
      self.protocol.handshakes.get handshakeId = none) :
    (self.withTask number task').Sound other := by
  rw [← withTask_finish]
  exact (sound.done found idle).withTask (Table.get_remove_self _ _) idle' quiet
    (holds.mono grows_finish (Grows.refl _)) unanswered

/-! ## Tables and packets -/

theorem grows_withProtocol {protocol : ProtocolState keyExchange}
    (same : protocol.encryption = self.protocol.encryption) :
    self.Grows { self with protocol := protocol } := by
  refine ⟨?_, fun _ => id, fun _ => id, fun _ => id, fun _ => id⟩
  intro sessionId key found
  rw [getCipher] at found ⊢
  rw [same]
  exact found

theorem Sound.withProtocol {protocol : ProtocolState keyExchange} (sound : self.Sound other)
    (same : protocol.encryption = self.protocol.encryption)
    (stored : ∀ sessionId inner appId address,
      protocol.connections.get sessionId = some (.handshake inner appId address) →
        inner = sessionId)
    (acknowledged : ∀ sessionId session, sessionId ∈ self.opened →
      protocol.connections.get sessionId = some (.established session) →
      ∃ packet, .handshakeAck packet ∈ other.sent ∧ packet.sessionId = sessionId)
    (handshakes : ∀ handshakeId handshake,
      protocol.handshakes.get handshakeId = some handshake →
        self.protocol.handshakes.get handshakeId = some handshake) :
    Sound { self with protocol := protocol } other where
  stored := stored
  owed number task sessionId found owes := by
    have unkeyed := sound.owed number task sessionId found owes
    rw [getCipher] at unkeyed ⊢
    rw [same]
    exact unkeyed
  owedOnce := sound.owedOnce
  keyed sessionId created unkeyed := by
    refine sound.keyed sessionId created ⟨?_, unkeyed.2⟩
    have none := unkeyed.1
    rw [getCipher] at none ⊢
    rwa [same] at none
  apart := sound.apart
  acknowledged := acknowledged
  agrees sessionId promoted := by
    obtain ⟨opened, agrees⟩ := sound.agrees sessionId promoted
    refine ⟨opened, ?_⟩
    intro key found
    apply agrees
    rw [getCipher] at found ⊢
    rwa [same] at found
  tasks number task found :=
    (sound.tasks number task found).mono (grows_withProtocol same) (Grows.refl _)
  packets packet sent :=
    (sound.packets packet sent).mono (grows_withProtocol same) (Grows.refl _)
  drawsOnce := sound.drawsOnce
  silent := sound.silent
  pending handshakeId handshake found := by
    have pending := sound.pending handshakeId handshake (handshakes handshakeId handshake found)
    exact ⟨pending.drawn, pending.own, pending.answered, pending.unanswered, pending.greeting⟩
  drawnApart := sound.drawnApart

theorem Sound.takeHandshake (sound : self.Sound other) (handshakeId : HandshakeId) :
    Sound { self with protocol := self.protocol.takeHandshake handshakeId } other :=
  sound.withProtocol rfl sound.stored sound.acknowledged
    fun _ _ found => (Table.get_of_get_remove found).2

theorem handshakeDone_encryption (protocol : ProtocolState keyExchange) (sessionId : SessionId) :
    (protocol.handshakeDone sessionId).encryption = protocol.encryption := by
  rw [ProtocolState.handshakeDone]
  split <;> rfl

theorem receivedHandshakeRejectedPacket_encryption (protocol : ProtocolState keyExchange)
    (packet : HandshakeRejection) :
    (protocol.receivedHandshakeRejectedPacket packet).encryption = protocol.encryption := by
  rw [ProtocolState.receivedHandshakeRejectedPacket]
  split <;> rfl

theorem Sound.handshakeDone (sound : self.Sound other) {packet : HandshakeAckPacket}
    (sent : .handshakeAck packet ∈ other.sent) :
    Sound { self with protocol := self.protocol.handshakeDone packet.sessionId } other := by
  cases stands : self.protocol.connections.get packet.sessionId with
  | none =>
      have same : self.protocol.handshakeDone packet.sessionId = self.protocol := by
        rw [ProtocolState.handshakeDone, stands]
      rw [same]
      exact sound
  | some connection =>
      -- the entry is stored under the id of the packet, which is its own id
      have done : ∃ session, self.protocol.handshakeDone packet.sessionId =
          { self.protocol with
            connections := (self.protocol.connections.remove packet.sessionId).insert
              packet.sessionId (.established session) } := by
        rw [ProtocolState.handshakeDone, stands]
        cases connection with
        | handshake inner appId address =>
            rw [sound.stored _ _ _ _ stands]
            exact ⟨_, rfl⟩
        | established session => exact ⟨session, rfl⟩
      obtain ⟨session, done⟩ := done
      rw [done]
      refine sound.withProtocol rfl ?_ ?_ fun _ _ => id
      · intro sessionId inner appId address found
        rw [Table.get_insert] at found
        split at found
        · cases found
        · exact sound.stored _ _ _ _ (Table.get_of_get_remove found).2
      · intro sessionId session' opened found
        rw [Table.get_insert] at found
        split at found
        · rename_i same
          exact ⟨packet, sent, same.symm⟩
        · exact sound.acknowledged _ _ opened (Table.get_of_get_remove found).2

theorem Sound.handshakeRejected (sound : self.Sound other) (packet : HandshakeRejection) :
    Sound { self with protocol := self.protocol.receivedHandshakeRejectedPacket packet } other := by
  rw [ProtocolState.receivedHandshakeRejectedPacket]
  cases packet.reason with
  | app => exact sound.takeHandshake packet.handshakeId
  | idCollision =>
      refine sound.withProtocol rfl ?_ ?_ fun _ _ => id
      · intro sessionId inner appId address found
        exact sound.stored _ _ _ _ (Table.get_of_get_remove found).2
      · intro sessionId session opened found
        exact sound.acknowledged _ _ opened (Table.get_of_get_remove found).2

theorem grows_send {packet : WirePacket} : self.Grows (self.send packet) :=
  ⟨fun _ _ => id, fun _ => id, fun _ => id, fun _ => id, fun _ => List.mem_cons_of_mem _⟩

/-- A `HelloPacket` that a host may send: it carries the key of the pending handshake, if its id
belongs to one, and no handshake is about to be filed under the id. -/
structure Sendable (host : HandshakeHost keyExchange) (packet : HelloPacket) : Prop where
  unfiled : ∀ number handshake proposed,
    host.tasks.get number ≠ some (.filing packet.handshakeId handshake proposed)
  own : ∀ handshake, host.protocol.handshakes.get packet.handshakeId = some handshake →
    packet.publicKey = keyExchange.publicKey handshake.ephemeralSecret

theorem Sound.send {packet : WirePacket} (sound : self.Sound other)
    (holds : self.PacketSound other packet)
    (sendable : ∀ hello, packet = .keyed (.hello hello) → self.Sendable hello) :
    (self.send packet).Sound other where
  stored := sound.stored
  owed := sound.owed
  owedOnce := sound.owedOnce
  keyed := sound.keyed
  apart := sound.apart
  acknowledged := sound.acknowledged
  agrees := sound.agrees
  tasks number task found := (sound.tasks number task found).mono grows_send (Grows.refl _)
  packets packet' sent := by
    rcases List.mem_cons.mp sent with rfl | sent
    · exact holds.mono grows_send (Grows.refl _)
    · exact (sound.packets packet' sent).mono grows_send (Grows.refl _)
  drawsOnce := sound.drawsOnce
  silent number handshakeId handshake proposed found := by
    obtain ⟨own, peer⟩ := sound.silent number handshakeId handshake proposed found
    refine ⟨?_, peer⟩
    intro hello sent same
    rcases List.mem_cons.mp sent with here | sent
    · subst same
      exact (sendable hello here.symm).unfiled number handshake proposed found
    · exact own hello sent same
  pending handshakeId handshake found := by
    have pending := sound.pending handshakeId handshake found
    refine ⟨pending.drawn, ?_, pending.answered, pending.unanswered, pending.greeting⟩
    intro hello sent same
    rcases List.mem_cons.mp sent with here | sent
    · subst same
      exact (sendable hello here.symm).own handshake found
    · exact pending.own hello sent same
  drawnApart := sound.drawnApart

/-! ## Sessions and keys -/

theorem Sound.create {task task' : HelloTask keyExchange.Secret}
    {protocol : ProtocolState keyExchange} {opened promoted : List SessionId}
    {sessionId : SessionId} (sound : self.Sound other)
    (found : self.tasks.get number = some task) (idle : task.owes = none)
    (unkeyed : self.Unkeyed sessionId) (owes : task'.owes = some sessionId)
    (quiet : task'.draws = none) (same : protocol.encryption = self.protocol.encryption)
    (handshakes : protocol.handshakes = self.protocol.handshakes)
    (created : ∀ other, other ∈ opened ∨ other ∈ promoted →
      other = sessionId ∨ other ∈ self.opened ∨ other ∈ self.promoted)
    (grows : self.Grows
      { self.withTask number task' with
        protocol := protocol, opened := opened, promoted := promoted })
    (stored : ∀ sessionId inner appId address,
      protocol.connections.get sessionId = some (.handshake inner appId address) →
        inner = sessionId)
    (apart : ∀ sessionId ∈ opened, sessionId ∉ promoted)
    (acknowledged : ∀ sessionId session, sessionId ∈ opened →
      protocol.connections.get sessionId = some (.established session) →
      ∃ packet, .handshakeAck packet ∈ other.sent ∧ packet.sessionId = sessionId)
    (agrees : ∀ sessionId ∈ promoted, sessionId ∈ other.opened ∧
      ∀ key, self.getCipher sessionId = some key → other.getCipher sessionId = some key)
    (holds : TaskSound
      { self.withTask number task' with
        protocol := protocol, opened := opened, promoted := promoted } other task')
    (unanswered : ∀ handshakeId, task'.answers = some handshakeId →
      self.protocol.handshakes.get handshakeId = none) :
    Sound
      { self.withTask number task' with
        protocol := protocol, opened := opened, promoted := promoted } other := by
  have ciphers : ∀ sessionId, getCipher
      { self.withTask number task' with
        protocol := protocol, opened := opened, promoted := promoted } sessionId =
      self.getCipher sessionId := by
    intro sessionId
    rw [getCipher, getCipher]
    simp only [same]
  refine ⟨stored, ?owed, ?owedOnce, ?keyed, apart, acknowledged, ?agrees, ?tasks, ?packets,
    ?drawsOnce, ?silent, ?pending, sound.drawnApart⟩
  case owed =>
    intro place task'' owed here owes'
    rw [ciphers]
    rcases get_withTask here with ⟨-, rfl⟩ | ⟨-, earlier⟩
    · rw [owes] at owes'
      rw [← Option.some.inj owes']
      exact unkeyed.1
    · exact sound.owed place task'' owed earlier owes'
  case owedOnce =>
    intro first second found' found'' owed here here' owes' owes''
    rcases get_withTask here with ⟨first, rfl⟩ | ⟨-, earlier⟩
    · rcases get_withTask here' with ⟨second, -⟩ | ⟨-, earlier'⟩
      · exact first.trans second.symm
      · rw [owes] at owes'
        cases owes'
        exact absurd owes'' (unkeyed.2 _ _ earlier')
    · rcases get_withTask here' with ⟨-, rfl⟩ | ⟨-, earlier'⟩
      · rw [owes] at owes''
        cases owes''
        exact absurd owes' (unkeyed.2 _ _ earlier)
      · exact sound.owedOnce first second found' found'' owed earlier earlier' owes' owes''
  case keyed =>
    intro other' listed unkeyed'
    rcases created other' listed with rfl | earlier
    · exact unkeyed'.2 number task' (Table.get_insert_self _ _ _) owes
    · refine sound.keyed other' earlier
        ⟨(ciphers other').symm.trans unkeyed'.1, not_owes_of_insert ?_ unkeyed'.2⟩
      intro stood here
      cases found.symm.trans here
      exact idle
  case agrees =>
    intro sessionId listed
    rw [ciphers]
    exact agrees sessionId listed
  case tasks => exact sound.tasks_insert number grows holds
  case packets => exact sound.packets_grow grows
  case drawsOnce => exact sound.drawsOnce_insert quiet
  case silent => exact sound.silent_insert quiet
  case pending =>
    intro handshakeId handshake waiting
    have waits : self.protocol.handshakes.get handshakeId = some handshake := by
      rw [← handshakes]
      exact waiting
    have pending := sound.pending_insert number quiet unanswered waits
    exact ⟨pending.drawn, pending.own, pending.answered, pending.unanswered, pending.greeting⟩

theorem getCipher_insertKey (self : HandshakeHost keyExchange) (number : Nat)
    (task : HelloTask keyExchange.Secret) (sessionId other : SessionId) (key : Key) :
    getCipher { self.withTask number task with
      protocol := self.protocol.insertKey sessionId key } other =
      if other = sessionId then some key else self.getCipher other := by
  rw [getCipher, EncryptionTable.getCipher, ProtocolState.insertKey]
  simp only [Table.get_insert]
  split <;> rfl

theorem grows_insertKey (sound : self.Sound other) {task task' : HelloTask keyExchange.Secret}
    {sessionId : SessionId} {key : Key} (found : self.tasks.get number = some task)
    (owes : task.owes = some sessionId) :
    self.Grows { self.withTask number task' with
      protocol := self.protocol.insertKey sessionId key } := by
  refine ⟨?_, fun _ => id, fun _ => id, fun _ => id, fun _ => id⟩
  intro other key' stands
  rw [getCipher_insertKey]
  split
  · rename_i same
    subst same
    cases stands.symm.trans (sound.owed number task other found owes)
  · exact stands

theorem Sound.insertKey {task task' : HelloTask keyExchange.Secret} {sessionId : SessionId}
    {key : Key} (sound : self.Sound other) (found : self.tasks.get number = some task)
    (owes : task.owes = some sessionId) (idle : task'.owes = none) (quiet : task'.draws = none)
    (agrees : sessionId ∈ self.promoted → other.getCipher sessionId = some key)
    (holds : TaskSound { self.withTask number task' with
      protocol := self.protocol.insertKey sessionId key } other task')
    (unanswered : ∀ handshakeId, task'.answers = some handshakeId →
      self.protocol.handshakes.get handshakeId = none) :
    Sound { self.withTask number task' with
      protocol := self.protocol.insertKey sessionId key } other := by
  have grows := @grows_insertKey Key keyExchange self other number sound task task' sessionId key
    found owes
  refine ⟨sound.stored, ?owed, ?owedOnce, ?keyed, sound.apart, sound.acknowledged, ?agrees,
    ?tasks, ?packets, ?drawsOnce, ?silent, ?pending, sound.drawnApart⟩
  case owed =>
    intro place task'' owed here owes'
    rcases get_withTask here with ⟨-, rfl⟩ | ⟨different, earlier⟩
    · rw [idle] at owes'
      cases owes'
    · rw [getCipher_insertKey]
      split
      · rename_i same
        subst same
        exact absurd (sound.owedOnce place number task'' task owed earlier found owes' owes)
          different
      · exact sound.owed place task'' owed earlier owes'
  case owedOnce => exact sound.owedOnce_insert number idle
  case keyed =>
    intro other' listed unkeyed
    have none := unkeyed.1
    rw [getCipher_insertKey] at none
    split at none
    · cases none
    · rename_i different
      refine sound.keyed other' listed ⟨none, ?_⟩
      intro place task'' here owes'
      by_cases there : place = number
      · subst there
        rw [found] at here
        cases here
        rw [owes] at owes'
        exact different (Option.some.inj owes').symm
      · exact unkeyed.2 place task'' ((Table.get_insert_of_ne _ _ there).trans here) owes'
  case agrees =>
    intro other' listed
    refine ⟨(sound.agrees other' listed).1, ?_⟩
    intro key' stands
    rw [getCipher_insertKey] at stands
    split at stands
    · rename_i same
      subst same
      cases stands
      exact agrees listed
    · exact (sound.agrees other' listed).2 key' stands
  case tasks => exact sound.tasks_insert number grows holds
  case packets => exact sound.packets_grow grows
  case drawsOnce => exact sound.drawsOnce_insert quiet
  case silent => exact sound.silent_insert quiet
  case pending =>
    intro handshakeId handshake waits
    have pending := sound.pending_insert number quiet unanswered waits
    exact ⟨pending.drawn, pending.own, pending.answered, pending.unanswered, pending.greeting⟩

/-! ## Handshake ids -/

theorem Sound.draw {handshakeId : HandshakeId} {handshake : HandshakeState keyExchange.Secret}
    {proposed : SessionId} (sound : self.Sound other) (soundOther : other.Sound self)
    (free : self.tasks.get number = none) (fresh : handshakeId ∉ self.drawn)
    (freshOther : handshakeId ∉ other.drawn) :
    Sound { self.withTask number (.filing handshakeId handshake proposed) with
      drawn := handshakeId :: self.drawn } other := by
  have grows : self.Grows { self.withTask number (.filing handshakeId handshake proposed) with
      drawn := handshakeId :: self.drawn } :=
    ⟨fun _ _ => id, fun _ => id, fun _ => id, fun _ => List.mem_cons_of_mem _, fun _ => id⟩
  refine ⟨sound.stored, ?owed, ?owedOnce, ?keyed, sound.apart, sound.acknowledged, sound.agrees,
    ?tasks, ?packets, ?drawsOnce, ?silent, ?pending, ?drawnApart⟩
  case owed => exact sound.owed_insert number rfl
  case owedOnce => exact sound.owedOnce_insert number rfl
  case keyed =>
    intro sessionId created unkeyed
    refine sound.keyed sessionId created ⟨unkeyed.1, not_owes_of_insert ?_ unkeyed.2⟩
    intro earlier found
    cases free.symm.trans found
  case tasks =>
    apply sound.tasks_insert number grows
    exact List.mem_cons_self
  case packets => exact sound.packets_grow grows
  case drawsOnce =>
    -- what the other tasks have drawn is not fresh
    have drawn : ∀ place task, self.tasks.get place = some task →
        task.draws ≠ some handshakeId := by
      intro place task earlier draws
      have holds := sound.tasks place task earlier
      cases task with
      | filing | greeting =>
          cases draws
          exact fresh holds
      | _ => cases draws
    intro first second task task' other' here here' draws draws'
    rcases get_withTask here with ⟨first, rfl⟩ | ⟨-, earlier⟩
    · rcases get_withTask here' with ⟨second, -⟩ | ⟨-, earlier'⟩
      · exact first.trans second.symm
      · cases draws
        exact absurd draws' (drawn _ _ earlier')
    · rcases get_withTask here' with ⟨-, rfl⟩ | ⟨-, earlier'⟩
      · cases draws'
        exact absurd draws (drawn _ _ earlier)
      · exact sound.drawsOnce first second task task' other' earlier earlier' draws draws'
  case silent =>
    intro place other' handshake' proposed' here
    rcases get_withTask here with ⟨-, same⟩ | ⟨-, earlier⟩
    · cases same
      constructor
      · rintro packet sent rfl
        exact (sound.packets _ sent).elim fresh freshOther
      · rintro packet sent rfl
        exact (soundOther.packets _ sent).elim freshOther fresh
    · exact sound.silent place other' handshake' proposed' earlier
  case pending =>
    intro other' handshake' waits
    have unanswered : (HelloTask.filing handshakeId handshake proposed).answers ≠ some other' := by
      intro answers
      cases answers
    have pending := (sound.pending other' handshake' waits).insert number unanswered
      (by simp)
    exact ⟨List.mem_cons_of_mem _ pending.drawn, pending.own, pending.answered,
      pending.unanswered, pending.greeting⟩
  case drawnApart =>
    intro other' drawn
    rcases List.mem_cons.mp drawn with rfl | drawn
    · exact freshOther
    · exact sound.drawnApart other' drawn

theorem Sound.file {handshakeId : HandshakeId} {handshake : HandshakeState keyExchange.Secret}
    {proposed : SessionId} (sound : self.Sound other)
    (found : self.tasks.get number = some (.filing handshakeId handshake proposed)) :
    Sound { self.withTask number (.greeting handshakeId handshake.ephemeralSecret proposed) with
      protocol := self.protocol.fileHandshake handshakeId handshake } other := by
  have grows : self.Grows
      { self.withTask number (.greeting handshakeId handshake.ephemeralSecret proposed) with
        protocol := self.protocol.fileHandshake handshakeId handshake } :=
    ⟨fun _ _ => id, fun _ => id, fun _ => id, fun _ => id, fun _ => id⟩
  have drawn : handshakeId ∈ self.drawn := sound.tasks number _ found
  obtain ⟨own, peer⟩ := sound.silent number handshakeId handshake proposed found
  refine ⟨sound.stored, ?owed, ?owedOnce, ?keyed, sound.apart, sound.acknowledged, sound.agrees,
    ?tasks, ?packets, ?drawsOnce, ?silent, ?pending, sound.drawnApart⟩
  case owed => exact sound.owed_insert number rfl
  case owedOnce => exact sound.owedOnce_insert number rfl
  case keyed =>
    intro sessionId created unkeyed
    refine sound.keyed sessionId created ⟨unkeyed.1, not_owes_of_insert ?_ unkeyed.2⟩
    intro earlier stood
    cases found.symm.trans stood
    rfl
  case tasks =>
    apply sound.tasks_insert number grows
    exact drawn
  case packets => exact sound.packets_grow grows
  case drawsOnce =>
    -- the task keeps the handshake id it has drawn
    have before : ∀ place task, (self.tasks.insert number
        (.greeting handshakeId handshake.ephemeralSecret proposed)).get place = some task →
        ∃ earlier, self.tasks.get place = some earlier ∧ earlier.draws = task.draws := by
      intro place task here
      rcases get_withTask here with ⟨rfl, rfl⟩ | ⟨-, earlier⟩
      · exact ⟨_, found, rfl⟩
      · exact ⟨task, earlier, rfl⟩
    intro first second task task' other' here here' draws draws'
    obtain ⟨earlier, stood, same⟩ := before first task here
    obtain ⟨earlier', stood', same'⟩ := before second task' here'
    exact sound.drawsOnce first second earlier earlier' other' stood stood' (same.trans draws)
      (same'.trans draws')
  case silent =>
    intro place other' handshake' proposed' here
    rcases get_withTask here with ⟨-, same⟩ | ⟨-, earlier⟩
    · cases same
    · exact sound.silent place other' handshake' proposed' earlier
  case pending =>
    intro other' handshake' waiting
    have waits : (self.protocol.handshakes.insert handshakeId handshake).get other' =
        some handshake' := waiting
    rw [Table.get_insert] at waits
    split at waits
    · rename_i same
      subst same
      cases waits
      refine ⟨drawn, ?_, ?_, ?_, ?_⟩
      · intro packet sent same
        exact absurd same (own packet sent)
      · intro reply sent same
        exact absurd same (peer reply sent)
      · intro place task here answers
        rcases get_withTask here with ⟨-, rfl⟩ | ⟨-, earlier⟩
        · cases answers
        · have holds := sound.tasks place task earlier
          cases task with
          | asking packet | approved packet | opening packet =>
              exact peer packet holds (Option.some.inj answers)
          | sharing packet | answering packet =>
              exact peer packet holds.1 (Option.some.inj answers)
          | _ => cases answers
      · intro place secret proposed' here
        rcases get_withTask here with ⟨-, same⟩ | ⟨different, earlier⟩
        · cases same
          rfl
        · exact absurd (sound.drawsOnce place number _ _ other' earlier found rfl rfl) different
    · rename_i different
      have unanswered : (HelloTask.greeting handshakeId handshake.ephemeralSecret
          proposed).answers ≠ some other' := by
        intro answers
        cases answers
      have pending := (sound.pending other' handshake' waits).insert number unanswered
        (by simp [Ne.symm different])
      exact ⟨pending.drawn, pending.own, pending.answered, pending.unanswered, pending.greeting⟩

end HandshakeHost
end Ubass

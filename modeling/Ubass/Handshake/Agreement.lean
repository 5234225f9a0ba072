import Ubass.Handshake.Steps

/-!
# Both ends hold the same key

Every step of an orderly run keeps both hosts sound, and two sound hosts hold the
same key for a session that both have established.  A run in which two copies of
one `HelloPacket` are answered at the same time shows what goes wrong otherwise.
-/

set_option autoImplicit false

namespace Ubass

universe u

variable {Key : Type u} {keyExchange : KeyExchange Key}

namespace HandshakeHost

variable {self other next : HandshakeHost keyExchange} {number : Nat}
  {inputs : HandlerInputs keyExchange.Secret}

structure Keeps (host peer after : HandshakeHost keyExchange) : Prop where
  grows : host.Grows after
  sound : after.Sound peer
  peer : peer.Sound after

/-- The step sends no `HelloPacket` and draws no handshake id. -/
theorem Keeps.quiet (grows : self.Grows next) (sound : next.Sound other) (peer : other.Sound self)
    (sent : ∀ packet, .keyed (.hello packet) ∈ next.sent → .keyed (.hello packet) ∈ self.sent)
    (drawn : next.drawn = self.drawn) : self.Keeps other next := by
  refine ⟨grows, sound, peer.peer grows ?_ ?_⟩
  · intro packet here
    exact Or.inl (sent packet here)
  · rw [drawn]
    exact peer.drawnApart

theorem Grows.trans {last : HandshakeHost keyExchange} (first : self.Grows next)
    (second : next.Grows last) : self.Grows last where
  ciphers sessionId key found := second.ciphers _ _ (first.ciphers sessionId key found)
  opened sessionId listed := second.opened _ (first.opened sessionId listed)
  promoted sessionId listed := second.promoted _ (first.promoted sessionId listed)
  drawn handshakeId listed := second.drawn _ (first.drawn handshakeId listed)
  sent packet listed := second.sent _ (first.sent packet listed)

theorem Sound.unanswered {task : HelloTask keyExchange.Secret} (sound : self.Sound other)
    (found : self.tasks.get number = some task) (handshakeId : HandshakeId)
    (answers : task.answers = some handshakeId) :
    self.protocol.handshakes.get handshakeId = none := by
  cases waiting : self.protocol.handshakes.get handshakeId with
  | none => rfl
  | some handshake =>
      exact absurd answers ((sound.pending handshakeId handshake waiting).unanswered number task
        found)

/-- A packet that a host sends and that is no `HelloPacket`. -/
theorem Sound.sendOther {packet : WirePacket} (sound : self.Sound other)
    (holds : self.PacketSound other packet) (different : ∀ hello, packet ≠ .keyed (.hello hello)) :
    (self.send packet).Sound other :=
  sound.send holds fun hello same => absurd same (different hello)

theorem hello_of_mem_send {packet : WirePacket}
    (different : ∀ hello, packet ≠ .keyed (.hello hello)) (hello : HelloPacket)
    (sent : .keyed (.hello hello) ∈ (self.send packet).sent) :
    .keyed (.hello hello) ∈ self.sent := by
  rcases List.mem_cons.mp sent with same | sent
  · exact absurd same.symm (different hello)
  · exact sent

/-! ## As receiver -/

section Receiver

variable {packet : HelloPacket} {srcAddr : SocketAddr} {sessionId : SessionId}

theorem advance_asking_keeps (sound : self.Sound other) (peer : other.Sound self)
    (found : self.tasks.get number = some (.asking packet srcAddr))
    (stepped : self.advance number inputs (.asking packet srcAddr) = some next) :
    self.Keeps other next := by
  have sent := sound.tasks number _ found
  rw [advance] at stepped
  split at stepped
  · cases stepped
    apply Keeps.quiet grows_withTask _ peer (fun _ => id) rfl
    refine sound.retask found rfl rfl rfl sent ?_
    intro handshakeId answers
    exact sound.unanswered found handshakeId answers
  · cases stepped
    have different : ∀ hello, WirePacket.handshakeRejection (HandshakeRejection.new Options.none
        packet.proposedSessionId .app packet.handshakeId (inputs.clock 0)) ≠
        .keyed (.hello hello) := by
      intro hello same
      cases same
    apply Keeps.quiet (grows_send.trans grows_finish) _ peer (hello_of_mem_send different) rfl
    refine Sound.done (sound.sendOther ?_ different) found rfl
    exact trivial

theorem advance_approved_keeps (sound : self.Sound other) (peer : other.Sound self)
    (found : self.tasks.get number = some (.approved packet srcAddr))
    (stepped : self.advance number inputs (.approved packet srcAddr) = some next) :
    self.Keeps other next := by
  have sent := sound.tasks number _ found
  cases stepped
  apply Keeps.quiet grows_withTask _ peer (fun _ => id) rfl
  refine sound.retask found rfl rfl rfl sent ?_
  intro handshakeId answers
  exact sound.unanswered found handshakeId answers

theorem advance_opening_keeps (sound : self.Sound other) (peer : other.Sound self)
    (found : self.tasks.get number = some (.opening packet srcAddr sessionId))
    (vacant : self.protocol.sessionExists sessionId = false) (unkeyed : self.Unkeyed sessionId)
    (stepped : self.advance number inputs (.opening packet srcAddr sessionId) = some next) :
    self.Keeps other next := by
  have sent := sound.tasks number _ found
  have absent : ¬ self.protocol.sessionExists sessionId = true := by
    rw [vacant]
    decide
  rw [advance, if_neg absent, ProtocolState.newSession, if_neg absent] at stepped
  cases stepped
  have grows : self.Grows { self.withTask number (.sharing packet sessionId) with
      protocol := { self.protocol with
        connections :=
          self.protocol.connections.insert sessionId (.handshake sessionId packet.appId srcAddr)
        addressSession := self.protocol.addressSession.push srcAddr sessionId }
      opened := sessionId :: self.opened } :=
    ⟨fun _ _ => id, fun _ => List.mem_cons_of_mem _, fun _ => id, fun _ => id, fun _ => id⟩
  refine Keeps.quiet grows ?_ peer (fun _ => id) rfl
  refine sound.create found rfl unkeyed rfl rfl rfl rfl ?created ?grows ?stored ?apart
    ?acknowledged ?agrees ?holds ?unanswered
  case created =>
    intro created listed
    rcases listed with listed | listed
    · rcases List.mem_cons.mp listed with same | listed
      · exact Or.inl same
      · exact Or.inr (Or.inl listed)
    · exact Or.inr (Or.inr listed)
  case grows => exact grows
  case stored =>
    intro stored inner appId address here
    dsimp only at here
    rw [Table.get_insert] at here
    split at here
    · rename_i same
      cases here
      exact same.symm
    · exact sound.stored stored inner appId address here
  case apart =>
    intro created listed promoted
    rcases List.mem_cons.mp listed with rfl | listed
    · exact sound.keyed created (Or.inr promoted) unkeyed
    · exact sound.apart created listed promoted
  case acknowledged =>
    intro created session listed here
    dsimp only at here
    rw [Table.get_insert] at here
    split at here
    · cases here
    · rename_i different
      rcases List.mem_cons.mp listed with same | listed
      · exact absurd same different
      · exact sound.acknowledged created session listed here
  case agrees => exact sound.agrees
  case holds => exact ⟨sent, List.mem_cons_self⟩
  case unanswered =>
    intro handshakeId answers
    exact sound.unanswered found handshakeId answers

theorem advance_sharing_keeps (sound : self.Sound other) (peer : other.Sound self)
    (found : self.tasks.get number = some (.sharing packet sessionId))
    (stepped : self.advance number inputs (.sharing packet sessionId) = some next) :
    self.Keeps other next := by
  obtain ⟨sent, opened⟩ := sound.tasks number _ found
  cases stepped
  apply Keeps.quiet (grows_insertKey sound found rfl) _ peer (fun _ => id) rfl
  apply sound.insertKey found rfl rfl rfl
  · intro promoted
    exact absurd promoted (sound.apart sessionId opened)
  · refine ⟨sent, opened, ?_⟩
    rw [getCipher_insertKey, if_pos rfl]
  · intro handshakeId answers
    exact sound.unanswered found handshakeId answers

/-- The reply carries the key that the peer will compute: the packet it answers was sent for the
handshake that the peer still holds, if it holds it. -/
theorem advance_answering_keeps {ephemeralSecret : keyExchange.Secret} (sound : self.Sound other)
    (peer : other.Sound self)
    (found : self.tasks.get number = some (.answering packet sessionId ephemeralSecret))
    (stepped : self.advance number inputs (.answering packet sessionId ephemeralSecret) =
      some next) :
    self.Keeps other next := by
  obtain ⟨sent, opened, shared⟩ := sound.tasks number _ found
  cases stepped
  have grows : self.Grows (finish (self.send (.keyed (.hello (HelloPacket.new
      (Options.construct [.requireAck]) sessionId packet.handshakeId
      (keyExchange.publicKey ephemeralSecret) inputs.appId (inputs.clock 0))))) number) :=
    grows_send.trans grows_finish
  refine ⟨grows, ?_, peer.peer grows ?_ peer.drawnApart⟩
  · refine Sound.done (sound.send ?_ ?_) found rfl
    · exact (peer.packets _ sent).symm
    · intro hello same
      cases same
      refine ⟨?_, ?_⟩
      · intro place handshake proposed filing
        exact (sound.silent place _ handshake proposed filing).2 packet sent rfl
      · intro handshake waiting
        cases waiting.symm.trans (sound.unanswered found packet.handshakeId rfl)
  · intro hello here
    rcases List.mem_cons.mp here with same | here
    · cases same
      refine Or.inr ⟨?_, ?_⟩
      · intro place handshake proposed filing
        exact (peer.silent place _ handshake proposed filing).1 packet sent rfl
      · intro handshake waiting
        refine ⟨opened, ?_⟩
        have own := (peer.pending packet.handshakeId handshake waiting).own packet sent rfl
        calc self.getCipher sessionId
            = some (keyExchange.getSharedSecret ephemeralSecret packet.publicKey) := shared
          _ = some (keyExchange.getSharedSecret ephemeralSecret
                (keyExchange.publicKey handshake.ephemeralSecret)) := by rw [own]
          _ = some (keyExchange.getSharedSecret handshake.ephemeralSecret
                (keyExchange.publicKey ephemeralSecret)) := by rw [keyExchange.agree]
    · exact Or.inl here

end Receiver

/-! ## As initializer -/

section Initializer

variable {packet : HelloPacket} {srcAddr : SocketAddr}

theorem advance_checking_keeps (sound : self.Sound other) (peer : other.Sound self)
    (found : self.tasks.get number = some (.checking packet srcAddr))
    (stepped : self.advance number inputs (.checking packet srcAddr) = some next) :
    self.Keeps other next := by
  have sent := sound.tasks number _ found
  rw [advance] at stepped
  split at stepped
  all_goals
    cases stepped
    apply Keeps.quiet grows_withTask _ peer (fun _ => id) rfl
    refine sound.retask found rfl rfl rfl sent ?_
    intro handshakeId answers
    cases answers

theorem advance_promoting_keeps (sound : self.Sound other) (peer : other.Sound self)
    (found : self.tasks.get number = some (.promoting packet srcAddr))
    (stepped : self.advance number inputs (.promoting packet srcAddr) = some next) :
    self.Keeps other next := by
  have sent := sound.tasks number _ found
  cases waiting : self.protocol.handshakes.get packet.handshakeId with
  | none =>
      rw [advance_promoting_none waiting] at stepped
      cases stepped
      exact Keeps.quiet grows_finish (sound.done found rfl) peer (fun _ => id) rfl
  | some handshake =>
      rw [advance_promoting waiting] at stepped
      cases stepped
      have shared := (sound.pending packet.handshakeId handshake waiting).answered packet sent rfl
      refine Keeps.quiet (grows_withTask.trans (grows_withProtocol rfl)) ?_ peer (fun _ => id) rfl
      refine (sound.takeHandshake packet.handshakeId).retask found rfl rfl rfl shared ?_
      intro handshakeId answers
      cases answers

theorem advance_storing_keeps {handshake : HandshakeState keyExchange.Secret}
    (sound : self.Sound other) (peer : other.Sound self)
    (found : self.tasks.get number = some (.storing packet srcAddr handshake))
    (unkeyed : self.protocol.sessionExists packet.proposedSessionId = false →
      self.Unkeyed packet.proposedSessionId)
    (stepped : self.advance number inputs (.storing packet srcAddr handshake) = some next) :
    self.Keeps other next := by
  have shared : other.Shared handshake.ephemeralSecret packet := sound.tasks number _ found
  rw [advance] at stepped
  split at stepped
  · cases stepped
    exact Keeps.quiet grows_finish (sound.done found rfl) peer (fun _ => id) rfl
  · rename_i vacant
    have unkeyed := unkeyed (Bool.eq_false_iff.mpr vacant)
    cases stepped
    have grows : self.Grows { self.withTask number (.keying packet handshake.ephemeralSecret) with
        protocol := self.protocol.storeEstablished packet.proposedSessionId srcAddr packet.appId
          handshake.sessionId
        promoted := packet.proposedSessionId :: self.promoted } :=
      ⟨fun _ _ => id, fun _ => id, fun _ => List.mem_cons_of_mem _, fun _ => id, fun _ => id⟩
    refine Keeps.quiet grows ?_ peer (fun _ => id) rfl
    refine sound.create found rfl unkeyed rfl rfl rfl rfl ?created ?grows ?stored ?apart
      ?acknowledged ?agrees ?holds ?unanswered
    case created =>
      intro created listed
      rcases listed with listed | listed
      · exact Or.inr (Or.inl listed)
      · rcases List.mem_cons.mp listed with same | listed
        · exact Or.inl same
        · exact Or.inr (Or.inr listed)
    case grows => exact grows
    case stored =>
      intro stored inner appId address here
      have here : (self.protocol.connections.insert packet.proposedSessionId
          (.established ⟨handshake.sessionId, .up, srcAddr, packet.appId⟩)).get stored =
          some (.handshake inner appId address) := here
      rw [Table.get_insert] at here
      split at here
      · cases here
      · exact sound.stored stored inner appId address here
    case apart =>
      intro created listed promoted
      rcases List.mem_cons.mp promoted with rfl | promoted
      · exact sound.keyed _ (Or.inl listed) unkeyed
      · exact sound.apart created listed promoted
    case acknowledged =>
      intro created session listed here
      have here : (self.protocol.connections.insert packet.proposedSessionId
          (.established ⟨handshake.sessionId, .up, srcAddr, packet.appId⟩)).get created =
          some (.established session) := here
      rw [Table.get_insert] at here
      split at here
      · rename_i same
        subst same
        exact absurd unkeyed (sound.keyed _ (Or.inl listed))
      · exact sound.acknowledged created session listed here
    case agrees =>
      intro created promoted
      rcases List.mem_cons.mp promoted with rfl | promoted
      · refine ⟨shared.1, ?_⟩
        intro key stands
        cases stands.symm.trans unkeyed.1
      · exact sound.agrees created promoted
    case holds => exact ⟨shared, List.mem_cons_self⟩
    case unanswered =>
      intro handshakeId answers
      cases answers

theorem advance_keying_keeps {ephemeralSecret : keyExchange.Secret} (sound : self.Sound other)
    (peer : other.Sound self)
    (found : self.tasks.get number = some (.keying packet ephemeralSecret))
    (stepped : self.advance number inputs (.keying packet ephemeralSecret) = some next) :
    self.Keeps other next := by
  obtain ⟨shared, promoted⟩ := sound.tasks number _ found
  cases stepped
  apply Keeps.quiet (grows_insertKey sound found rfl) _ peer (fun _ => id) rfl
  apply sound.insertKey found rfl rfl rfl
  · intro promoted
    exact shared.2
  · refine ⟨promoted, ?_⟩
    rw [getCipher_insertKey, if_pos rfl]
    rfl
  · intro handshakeId answers
    cases answers

theorem advance_acknowledging_keeps (sound : self.Sound other) (peer : other.Sound self)
    (found : self.tasks.get number = some (.acknowledging packet))
    (stepped : self.advance number inputs (.acknowledging packet) = some next) :
    self.Keeps other next := by
  have holds := sound.tasks number _ found
  cases stepped
  have different : ∀ hello, WirePacket.handshakeAck (HandshakeAckPacket.new
      packet.proposedSessionId packet.handshakeId (inputs.clock 0)) ≠ .keyed (.hello hello) := by
    intro hello same
    cases same
  apply Keeps.quiet (grows_send.trans grows_finish) _ peer (hello_of_mem_send different) rfl
  refine Sound.done (sound.sendOther ?_ different) found rfl
  exact holds

end Initializer

/-! ## Collisions and greetings -/

section Greeting

variable {packet : HelloPacket}

theorem advance_rejecting_keeps (sound : self.Sound other) (peer : other.Sound self)
    (found : self.tasks.get number = some (.rejecting packet))
    (stepped : self.advance number inputs (.rejecting packet) = some next) :
    self.Keeps other next := by
  have sent := sound.tasks number _ found
  cases stepped
  have different : ∀ hello, WirePacket.handshakeRejection (HandshakeRejection.new Options.none
      packet.proposedSessionId .idCollision packet.handshakeId (inputs.clock 0)) ≠
      .keyed (.hello hello) := by
    intro hello same
    cases same
  apply Keeps.quiet (grows_send.trans grows_withTask) _ peer (hello_of_mem_send different) rfl
  refine Sound.retask (sound.sendOther ?_ different) found rfl rfl rfl ?_ ?_
  · exact trivial
  · exact sent
  · intro handshakeId answers
    cases answers

theorem advance_reusing_keeps (sound : self.Sound other) (peer : other.Sound self)
    (found : self.tasks.get number = some (.reusing packet))
    (stepped : self.advance number inputs (.reusing packet) = some next) :
    self.Keeps other next := by
  cases waiting : self.protocol.handshakes.get packet.handshakeId with
  | none =>
      rw [advance_reusing_none waiting] at stepped
      cases stepped
      exact Keeps.quiet grows_finish (sound.done found rfl) peer (fun _ => id) rfl
  | some handshake =>
      rw [advance_reusing waiting] at stepped
      cases stepped
      refine Keeps.quiet (grows_withTask.trans (grows_withProtocol rfl)) ?_ peer (fun _ => id) rfl
      refine (sound.takeHandshake packet.handshakeId).retask found rfl rfl rfl ?_ ?_
      · exact trivial
      · intro handshakeId answers
        cases answers

theorem draw_keeps {handshakeId : HandshakeId} {handshake : HandshakeState keyExchange.Secret}
    {proposed : SessionId} (sound : self.Sound other) (peer : other.Sound self)
    (idle : ∀ task, self.tasks.get number = some task → task.owes = none)
    (fresh : handshakeId ∉ self.drawn) (freshOther : handshakeId ∉ other.drawn) :
    self.Keeps other { self.withTask number (.filing handshakeId handshake proposed) with
      drawn := handshakeId :: self.drawn } := by
  have grows : self.Grows { self.withTask number (.filing handshakeId handshake proposed) with
      drawn := handshakeId :: self.drawn } :=
    ⟨fun _ _ => id, fun _ => id, fun _ => id, fun _ => List.mem_cons_of_mem _, fun _ => id⟩
  have finished : other.Sound (self.finish number) :=
    peer.peer grows_finish (fun _ => Or.inl) peer.drawnApart
  refine ⟨grows, ?_, peer.peer grows (fun _ => Or.inl) ?_⟩
  · rw [← withTask_finish]
    exact (sound.finish idle).draw finished (Table.get_remove_self _ _) fresh freshOther
  · intro drawn listed here
    rcases List.mem_cons.mp here with rfl | here
    · exact freshOther listed
    · exact peer.drawnApart drawn listed here

theorem advance_drawing_keeps {handshake : HandshakeState keyExchange.Secret}
    (sound : self.Sound other) (peer : other.Sound self)
    (found : self.tasks.get number = some (.drawing handshake))
    (fresh : inputs.newHandshakeId ∉ self.drawn) (freshOther : inputs.newHandshakeId ∉ other.drawn)
    (stepped : self.advance number inputs (.drawing handshake) = some next) :
    self.Keeps other next := by
  rw [advance] at stepped
  split at stepped
  · cases stepped
    apply draw_keeps sound peer _ fresh freshOther
    intro task here
    cases here.symm.trans found
    rfl
  · cases stepped

theorem advance_filing_keeps {handshakeId : HandshakeId}
    {handshake : HandshakeState keyExchange.Secret} {proposed : SessionId}
    (sound : self.Sound other) (peer : other.Sound self)
    (found : self.tasks.get number = some (.filing handshakeId handshake proposed))
    (stepped : self.advance number inputs (.filing handshakeId handshake proposed) = some next) :
    self.Keeps other next := by
  cases stepped
  exact Keeps.quiet (grows_withTask.trans (grows_withProtocol rfl)) (sound.file found) peer
    (fun _ => id) rfl

theorem advance_greeting_keeps {handshakeId : HandshakeId} {ephemeralSecret : keyExchange.Secret}
    {proposed : SessionId} (sound : self.Sound other) (peer : other.Sound self)
    (found : self.tasks.get number = some (.greeting handshakeId ephemeralSecret proposed))
    (stepped : self.advance number inputs (.greeting handshakeId ephemeralSecret proposed) =
      some next) :
    self.Keeps other next := by
  have drawn : handshakeId ∈ self.drawn := sound.tasks number _ found
  have foreign := sound.drawnApart handshakeId drawn
  cases stepped
  have grows : self.Grows (finish (self.send (.keyed (.hello (HelloPacket.new Options.none
      proposed handshakeId (keyExchange.publicKey ephemeralSecret) inputs.appId
      (inputs.clock 1))))) number) :=
    grows_send.trans grows_finish
  refine ⟨grows, ?_, peer.peer grows ?_ peer.drawnApart⟩
  · refine Sound.done (sound.send ?_ ?_) found rfl
    · exact Or.inl drawn
    · intro hello same
      cases same
      refine ⟨?_, ?_⟩
      · intro place handshake proposed' filing
        have same := sound.drawsOnce place number _ _ handshakeId filing found rfl rfl
        subst same
        cases filing.symm.trans found
      · intro handshake waiting
        have same := (sound.pending handshakeId handshake waiting).greeting number _ _ found
        exact congrArg keyExchange.publicKey same
  · intro hello here
    rcases List.mem_cons.mp here with same | here
    · cases same
      refine Or.inr ⟨?_, ?_⟩
      · intro place handshake proposed' filing
        exact foreign (peer.tasks place _ filing)
      · intro handshake waiting
        exact absurd (peer.pending handshakeId handshake waiting).drawn foreign
    · exact Or.inl here

end Greeting

/-! ## The beginning -/

theorem Fresh.sound (fresh : self.Fresh) (other : HandshakeHost keyExchange) :
    self.Sound other := by
  have noTask : ∀ number task, self.tasks.get number ≠ some task := by
    intro number task found
    rw [fresh.tasks] at found
    cases found
  have notOpened : ∀ sessionId, sessionId ∉ self.opened := by
    intro sessionId
    rw [fresh.opened]
    exact List.not_mem_nil
  have notPromoted : ∀ sessionId, sessionId ∉ self.promoted := by
    intro sessionId
    rw [fresh.promoted]
    exact List.not_mem_nil
  refine ⟨fresh.stored, ?_, ?_, ?_, ?_, ?_, ?_, ?_, ?_, ?_, ?_, ?_, ?_⟩
  · intro number task _ found
    exact absurd found (noTask number task)
  · intro first _ task _ _ found
    exact absurd found (noTask first task)
  · intro sessionId created
    exact absurd created (not_or.mpr ⟨notOpened sessionId, notPromoted sessionId⟩)
  · intro sessionId opened
    exact absurd opened (notOpened sessionId)
  · intro sessionId _ opened
    exact absurd opened (notOpened sessionId)
  · intro sessionId promoted
    exact absurd promoted (notPromoted sessionId)
  · intro number task found
    exact absurd found (noTask number task)
  · intro packet sent
    rw [fresh.sent] at sent
    cases sent
  · intro first _ task _ _ found
    exact absurd found (noTask first task)
  · intro number handshakeId handshake proposed found
    exact absurd found (noTask number _)
  · intro handshakeId handshake found
    rw [fresh.handshakes] at found
    cases found
  · intro handshakeId drawn
    rw [fresh.drawn] at drawn
    cases drawn

end HandshakeHost

/-! ## Runs -/

theorem Host.eq_or_other (host place : Host) : place = host ∨ place = host.other := by
  cases host <;> cases place <;> decide

namespace HandshakeHosts

variable {state next : HandshakeHosts keyExchange}

def Sound (state : HandshakeHosts keyExchange) : Prop :=
  ∀ host, (state host).Sound (state host.other)

theorem Sound.back (sound : state.Sound) (host : Host) :
    (state host.other).Sound (state host) := by
  have back := sound host.other
  rwa [Host.other_other] at back

theorem act_keeps {host : Host} {action : HandshakeAction keyExchange.Secret}
    {after : HandshakeHost keyExchange} (sound : state.Sound)
    (orderly : state.Orderly (host, action))
    (acted : (state host).act (state host.other).sent action = some after) :
    (state host).Keeps (state host.other) after := by
  have here := sound host
  have peer := sound.back host
  cases action with
  | connect number address sessionId ephemeralSecret handshakeId =>
      rw [HandshakeHost.act] at acted
      split at acted
      · rename_i free
        cases acted
        apply HandshakeHost.draw_keeps here peer _ (orderly host) (orderly host.other)
        intro task found
        cases (Table.get_of_not_contains free.1).symm.trans found
      · cases acted
  | receivedHello number packet srcAddr =>
      rw [HandshakeHost.act] at acted
      split at acted
      · rename_i free
        have vacant := Table.get_of_not_contains free.1
        split at acted
        · cases acted
          apply HandshakeHost.Keeps.quiet HandshakeHost.grows_withTask _ peer (fun _ => id) rfl
          refine here.withTask vacant rfl rfl free.2 ?_
          intro handshakeId answers
          cases answers
        · rename_i unknown
          cases acted
          apply HandshakeHost.Keeps.quiet HandshakeHost.grows_withTask _ peer (fun _ => id) rfl
          refine here.withTask vacant rfl rfl free.2 ?_
          intro handshakeId answers
          cases answers
          exact Table.get_of_not_contains (Bool.eq_false_iff.mpr unknown)
      · cases acted
  | receivedHandshakeAck packet =>
      rw [HandshakeHost.act] at acted
      split at acted
      · rename_i sent
        cases acted
        refine HandshakeHost.Keeps.quiet (HandshakeHost.grows_withProtocol ?_)
          (here.handshakeDone sent) peer (fun _ => id) rfl
        exact HandshakeHost.handshakeDone_encryption _ _
      · cases acted
  | receivedHandshakeRejection packet =>
      rw [HandshakeHost.act] at acted
      split at acted
      · cases acted
        refine HandshakeHost.Keeps.quiet (HandshakeHost.grows_withProtocol ?_)
          (here.handshakeRejected packet) peer (fun _ => id) rfl
        exact HandshakeHost.receivedHandshakeRejectedPacket_encryption _ _
      · cases acted
  | advance number inputs =>
      rw [HandshakeHost.act] at acted
      cases found : (state host).tasks.get number with
      | none =>
          rw [found] at acted
          cases acted
      | some task =>
          rw [found] at acted
          unfold Orderly at orderly
          dsimp only at orderly acted
          rw [found] at orderly
          cases task with
          | asking => exact HandshakeHost.advance_asking_keeps here peer found acted
          | approved => exact HandshakeHost.advance_approved_keeps here peer found acted
          | opening =>
              exact HandshakeHost.advance_opening_keeps here peer found orderly.1 orderly.2 acted
          | sharing => exact HandshakeHost.advance_sharing_keeps here peer found acted
          | answering => exact HandshakeHost.advance_answering_keeps here peer found acted
          | checking => exact HandshakeHost.advance_checking_keeps here peer found acted
          | promoting => exact HandshakeHost.advance_promoting_keeps here peer found acted
          | storing => exact HandshakeHost.advance_storing_keeps here peer found orderly acted
          | keying => exact HandshakeHost.advance_keying_keeps here peer found acted
          | acknowledging => exact HandshakeHost.advance_acknowledging_keeps here peer found acted
          | rejecting => exact HandshakeHost.advance_rejecting_keeps here peer found acted
          | reusing => exact HandshakeHost.advance_reusing_keeps here peer found acted
          | drawing =>
              exact HandshakeHost.advance_drawing_keeps here peer found (orderly host)
                (orderly host.other) acted
          | filing => exact HandshakeHost.advance_filing_keeps here peer found acted
          | greeting => exact HandshakeHost.advance_greeting_keeps here peer found acted

theorem Sound.step {label : Host × HandshakeAction keyExchange.Secret} (sound : state.Sound)
    (orderly : state.Orderly label)
    (stepped : (machine keyExchange).step state label = some next) :
    next.Sound ∧ state.KeepsKeys next := by
  obtain ⟨host, action⟩ := label
  obtain ⟨after, acted, moved⟩ := Option.map_eq_some_iff.mp stepped
  have keeps := act_keeps sound orderly acted
  have here : next host = after := by
    rw [← moved]
    exact Function.update_self host after state
  have there : next host.other = state host.other := by
    rw [← moved]
    exact Function.update_of_ne (Host.other_ne host) after state
  constructor
  · intro place
    rcases Host.eq_or_other host place with rfl | rfl
    · rw [here, there]
      exact keeps.sound
    · rw [Host.other_other, here, there]
      exact keeps.peer
  · intro place sessionId key _ _ found
    rcases Host.eq_or_other host place with rfl | rfl
    · rw [here]
      exact keeps.grows.ciphers sessionId key found
    · rw [there]
      exact found

theorem Sound.promoted (sound : state.Sound) {sessionId : SessionId}
    (established : ∀ host, state.Established host sessionId) :
    ∃ host, sessionId ∈ (state host).promoted := by
  obtain ⟨opened | promoted, session, stands⟩ := established .left
  · obtain ⟨packet, sent, same⟩ := (sound .left).acknowledged sessionId session opened stands
    have acknowledged := (sound .right).packets _ sent
    refine ⟨.right, ?_⟩
    rw [← same]
    exact acknowledged.1
  · exact ⟨.left, promoted⟩

/-- The end that promoted the session had stored its key before it acknowledged, and that key
is the one of the other end. -/
theorem Sound.agree (sound : state.Sound) : state.Agree := by
  intro sessionId established
  obtain ⟨host, promoted⟩ := sound.promoted established
  obtain ⟨opened, agrees⟩ := (sound host).agrees sessionId promoted
  obtain ⟨-, session, stands⟩ := established host.other
  obtain ⟨packet, sent, same⟩ := (sound.back host).acknowledged sessionId session opened stands
  have keyed := ((sound host).packets _ sent).2
  rw [same] at keyed
  obtain ⟨key, found⟩ := Option.isSome_iff_exists.mp keyed
  refine ⟨key, ?_⟩
  intro place
  rcases Host.eq_or_other host place with rfl | rfl
  · exact found
  · exact agrees key found

/-- In an orderly run both ends of a session hold the same key in every state, and no key is
replaced. -/
theorem keys_agree (start : HandshakeHosts keyExchange)
    (labels : List (Host × HandshakeAction keyExchange.Secret))
    (initial : (machine keyExchange).initial start)
    (orderly : (machine keyExchange).Guarded Orderly start labels) :
    start.Agree ∧
      (machine keyExchange).StepsMeet (fun state next => next.Agree ∧ state.KeepsKeys next)
        start labels := by
  have sound : start.Sound := fun host => (initial host).sound (start host.other)
  refine ⟨sound.agree, (machine keyExchange).stepsMeet_of_guarded ?_ sound orderly⟩
  intro state label next sound orderly stepped
  obtain ⟨kept, keys⟩ := sound.step orderly stepped
  exact ⟨kept, kept.agree, keys⟩

/-! ## Two runs -/

open EncryptedSession (productExchange)

def idle : HandshakeHosts productExchange := fun _ =>
  ⟨ProtocolState.empty, Table.empty, [], [], [], []⟩

theorem idle_initial : (machine productExchange).initial idle := by
  intro host
  refine ⟨rfl, rfl, rfl, rfl, rfl, rfl, ?_⟩
  intro sessionId inner appId address found
  cases found

def approving (secret : UInt64) : HandlerInputs productExchange.Secret :=
  ⟨fun _ => ⟨0, Timestamp.zero_lt⟩, none, true, ⟨99⟩, secret, ⟨50⟩, ⟨[]⟩⟩

def greeting : HelloPacket :=
  HelloPacket.new Options.none ⟨7⟩ ⟨1⟩ (productExchange.publicKey (3 : UInt64)) ⟨[]⟩
    ⟨0, Timestamp.zero_lt⟩

def answer (secret : UInt64) : HelloPacket :=
  HelloPacket.new (Options.construct [.requireAck]) ⟨7⟩ ⟨1⟩ (productExchange.publicKey secret)
    ⟨[]⟩ ⟨0, Timestamp.zero_lt⟩

def handler (host : Host) (number : Nat) (inputs : HandlerInputs productExchange.Secret)
    (steps : Nat) : List (Host × HandshakeAction productExchange.Secret) :=
  List.replicate steps (host, .advance number inputs)

def connecting : List (Host × HandshakeAction productExchange.Secret) :=
  (.left, .connect 0 ⟨[127, 0, 0, 1], 2⟩ ⟨7⟩ (3 : UInt64) ⟨1⟩) :: handler .left 0 (approving 3) 2

def completing : List (Host × HandshakeAction productExchange.Secret) :=
  (.left, .receivedHello 0 (answer 5) ⟨[127, 0, 0, 1], 2⟩) :: handler .left 0 (approving 3) 5 ++
    [(.right, .receivedHandshakeAck (HandshakeAckPacket.new ⟨7⟩ ⟨1⟩ ⟨0, Timestamp.zero_lt⟩))]

def single : List (Host × HandshakeAction productExchange.Secret) :=
  connecting ++ (.right, .receivedHello 0 greeting ⟨[127, 0, 0, 1], 1⟩) ::
    handler .right 0 (approving 5) 5 ++ completing

theorem single_orderly : (machine productExchange).Guarded Orderly idle single := by
  refine ⟨?_, ?_⟩
  · intro host drawn
    cases drawn
  intro next stepped
  cases stepped
  iterate 5
    refine ⟨trivial, ?_⟩
    intro next stepped
    cases stepped
  -- `new_session`
  refine ⟨⟨rfl, rfl, ?_⟩, ?_⟩
  · intro number task found owes
    cases number with
    | zero =>
        cases found
        cases owes
    | succ number => cases found
  intro next stepped
  cases stepped
  iterate 5
    refine ⟨trivial, ?_⟩
    intro next stepped
    cases stepped
  -- `promote_handshake`
  refine ⟨fun _ => ⟨rfl, ?_⟩, ?_⟩
  · intro number task found owes
    cases number with
    | zero =>
        cases found
        cases owes
    | succ number => cases found
  intro next stepped
  cases stepped
  iterate 3
    refine ⟨trivial, ?_⟩
    intro next stepped
    cases stepped
  exact trivial

theorem keys_agree_single :
    (∃ final, (machine productExchange).run idle single = some final ∧
        final.Established .left ⟨7⟩ ∧ final.Established .right ⟨7⟩) ∧
      idle.Agree ∧ (machine productExchange).StepsMeet
        (fun state next => next.Agree ∧ state.KeepsKeys next) idle single :=
  ⟨⟨_, rfl, ⟨Or.inr List.mem_cons_self, _, rfl⟩, ⟨Or.inl List.mem_cons_self, _, rfl⟩⟩,
    keys_agree idle single idle_initial single_orderly⟩

/-- Two copies of the greeting are answered at the same time.  Both handlers find that the session
does not exist, and `new_session` refuses the second one. -/
def racing : List (Host × HandshakeAction productExchange.Secret) :=
  connecting ++ (.right, .receivedHello 0 greeting ⟨[127, 0, 0, 1], 1⟩) ::
    (.right, .receivedHello 1 greeting ⟨[127, 0, 0, 1], 1⟩) ::
    handler .right 0 (approving 5) 2 ++ handler .right 1 (approving 6) 2 ++
    handler .right 0 (approving 5) 3 ++ handler .right 1 (approving 6) 1

/-- The refused handler goes on, and replaces the key that the first answer was sent with. -/
theorem copies_disagree :
    (machine productExchange).initial idle ∧
      ∃ middle next final, (machine productExchange).run idle racing = some middle ∧
        (machine productExchange).step middle (.right, .advance 1 (approving 6)) = some next ∧
        (machine productExchange).run next (handler .right 1 (approving 6) 1 ++ completing) =
          some final ∧
        ¬ middle.KeepsKeys next ∧ ¬ final.Agree := by
  refine ⟨idle_initial, _, _, _, rfl, rfl, rfl, ?_, ?_⟩
  · intro keeps
    have replaced := keeps .right ⟨7⟩ 15 rfl rfl rfl
    have stored : (some 18 : Option Nat) = some 15 := replaced
    cases stored
  · intro agree
    obtain ⟨key, same⟩ := agree ⟨7⟩ (by
      intro host
      cases host with
      | left => exact ⟨Or.inr List.mem_cons_self, _, rfl⟩
      | right => exact ⟨Or.inl List.mem_cons_self, _, rfl⟩)
    have left : (some 15 : Option Nat) = some key := same .left
    have right : (some 18 : Option Nat) = some key := same .right
    cases left
    cases right

end HandshakeHosts
end Ubass

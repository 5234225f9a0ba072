import Ubass.Fec.Batches
import Ubass.Lib.Unwinding
import Ubass.Manager.SparedSessions

/-!
# Sessions of one host do not meet

A host that serves many sessions at once: the packets of all its peers, the commands
of its application and the sweeps of the erasure code, in any order.  Whatever it is
sent and told for other sessions, a session with an id that no handshake takes again
behaves as if it were alone.
-/

set_option autoImplicit false

namespace Ubass

universe u

/-- What `FecPruneTask::prune` asks for in a session depends on the batches of that session. -/
theorem filter_bySession (own : SessionId)
    (expired : List (SessionId × BatchId × List BytePosition)) :
    ((bySession expired).filter fun entry => entry.1 = own) =
      let mine := (Xor.about own expired).filter fun entry => !entry.2.2.isEmpty
      if mine = [] then [] else [(own, mine.flatMap fun entry => entry.2.2)] := by
  have mine : ((expired.filter fun entry => !entry.2.2.isEmpty).filter
      fun entry => entry.1 = own) =
      (Xor.about own expired).filter fun entry => !entry.2.2.isEmpty := by
    rw [Xor.about, List.filter_comm]
  have listed : own ∈ (expired.filter fun entry => !entry.2.2.isEmpty).map Prod.fst ↔
      (Xor.about own expired).filter (fun entry => !entry.2.2.isEmpty) ≠ [] := by
    rw [← mine, ← List.length_pos_iff, List.length_pos_iff_exists_mem]
    simp only [List.mem_map, List.mem_filter, decide_eq_true_eq]
  have keys : (((expired.filter fun entry => !entry.2.2.isEmpty).map Prod.fst).dedup.filter
      fun sessionId => sessionId = own) =
      if own ∈ (expired.filter fun entry => !entry.2.2.isEmpty).map Prod.fst then [own]
      else [] := by
    rw [List.filter_eq, List.count_dedup]
    split <;> rfl
  rw [bySession, List.filter_map]
  dsimp only
  have projection : ((fun entry : SessionId × List BytePosition => decide (entry.1 = own)) ∘
      fun sessionId => (sessionId,
        ((expired.filter fun entry => !entry.2.2.isEmpty).filter
          fun entry => entry.1 = sessionId).flatMap fun entry => entry.2.2)) =
      fun sessionId => decide (sessionId = own) := rfl
  rw [projection, keys]
  by_cases empty : (Xor.about own expired).filter (fun entry => !entry.2.2.isEmpty) = []
  · rw [if_pos empty, if_neg fun member => listed.mp member empty]
    rfl
  · rw [if_neg empty, if_pos (listed.mpr empty), List.map_singleton, mine]

/-! ## The host -/

/-- The tables of the manager and the batches of the erasure code. -/
structure ServingHost {Key : Type u} (keyExchange : KeyExchange Key) where
  manager : ManagerState keyExchange
  xor : Xor

inductive HostEvent (Secret : Type) where
  /-- A packet has come through the packet processor. -/
  | packet (packet : WirePacket) (addr : SocketAddr) (inputs : HandlerInputs Secret)
      (now : Timestamp)
  | command (command : Command) (inputs : HandlerInputs Secret)
  /-- The batches under these keys have expired; the clock is read for each session. -/
  | prune (keys : List MapKey) (clock : SessionId → Nat → Timestamp)

inductive HostOutput where
  | sent (packet : WirePacket) (addr : SocketAddr)
  | notice (sessionId : SessionId) (notice : Notice)
  | answer (sessionId : Option SessionId) (answer : Answer)

def HostOutput.session : HostOutput → Option SessionId
  | sent packet _ => packet.sessionId
  | notice sessionId _ => some sessionId
  | answer sessionId _ => sessionId

variable {Key : Type u} {keyExchange : KeyExchange Key} {own : SessionId}

def Reply.outputs (self : Reply keyExchange) : List HostOutput :=
  self.sent.map (fun (packet, addr) => .sent packet addr) ++
    self.notices.map fun (sessionId, notice) => .notice sessionId notice

def HostOutput.isOf (own : SessionId) (output : HostOutput) : Bool := output.session = some own

theorem ManagerState.Silent.outputs {reply : Reply keyExchange} (silent : Silent own reply) :
    reply.outputs.filter (HostOutput.isOf own) = [] := by
  rw [List.filter_eq_nil_iff]
  intro output listed
  rw [HostOutput.isOf, decide_eq_true_eq]
  rcases List.mem_append.mp listed with listed | listed
  · obtain ⟨⟨packet, addr⟩, sent, same⟩ := List.mem_map.mp listed
    cases same
    exact silent.sent packet addr sent
  · obtain ⟨⟨sessionId, notice⟩, told, same⟩ := List.mem_map.mp listed
    cases same
    exact fun named => silent.notices sessionId notice told (Option.some.inj named)

theorem ManagerState.Alike.outputs {first second : Reply keyExchange}
    (alike : Alike own first second) : first.outputs = second.outputs := by
  rw [Reply.outputs, Reply.outputs, alike.sent, alike.notices]

/-! ### Asking for what expired batches lack -/

namespace ManagerState

/-- `FecPruneTask::prune` for the positions of one session. -/
def requestMissing (self : ManagerState keyExchange) (clock : SessionId → Nat → Timestamp)
    (request : SessionId × List BytePosition) : Reply keyExchange :=
  match self.protocol.connections.get request.1 with
  | none => self.nothing
  | some connection =>
      let (connection, sent) := connection.requestMissing request.1 request.2 (clock request.1)
      ⟨self.withConnection request.1 connection,
        sent.map fun (packet, addr) => (packet.wire, addr), []⟩

variable {state left right : ManagerState keyExchange}

theorem requestMissing_confined (state : ManagerState keyExchange)
    (clock : SessionId → Nat → Timestamp) (request : SessionId × List BytePosition) :
    Confined request.1 state (state.requestMissing clock request) := by
  unfold requestMissing
  split
  · exact confined_nothing request.1 state
  · rename_i connection found
    refine confined_of_named (touches_withConnection found
      (connection.requestMissing_sessionId request.1 request.2 (clock request.1))) ?_
      fun _ _ => List.not_mem_nil.elim
    intro packet addr listed
    obtain ⟨⟨inner, at'⟩, sent, same⟩ := List.mem_map.mp listed
    cases same
    unfold ConnectionStates.requestMissing at sent
    split at sent
    · cases sent
    · exact ConnectionStates.retransmitPackets_sessionId sent

theorem requestMissing_alike (same : left.view own = right.view own)
    (clock : SessionId → Nat → Timestamp) (positions : List BytePosition) :
    Alike own (left.requestMissing clock (own, positions))
      (right.requestMissing clock (own, positions)) := by
  rw [requestMissing, requestMissing]
  dsimp only
  rw [connection_eq same]
  split
  · exact ⟨same, rfl, rfl⟩
  · exact ⟨view_withConnection same _, rfl, rfl⟩

/-- The loop over `by_session`. -/
def requesting (clock : SessionId → Nat → Timestamp) :
    Reactor (ManagerState keyExchange) (SessionId × List BytePosition) HostOutput where
  react state request :=
    let reply := state.requestMissing clock request
    (reply.state, reply.outputs)

def requestObserver (own : SessionId) : Reactor.Observer (ManagerState keyExchange)
    (SessionId × List BytePosition) HostOutput (ManagerView Key) where
  view := view own
  observes := HostOutput.isOf own
  concerns request := request.1 = own

theorem requesting_unwinding (own : SessionId) (clock : SessionId → Nat → Timestamp) :
    (requestObserver own).Unwinding (@requesting _ keyExchange clock) (Apart own)
      fun _ => True where
  preserved state request apart _ :=
    (requestMissing_confined state clock request).touches.apart apart
  unconcerned state request apart _ other := by
    have confined := requestMissing_confined state clock request
    have foreign : request.1 ≠ own := of_decide_eq_false other
    exact ⟨confined.touches.view foreign, (confined.silent foreign apart).outputs⟩
  consistent left right request _ _ _ same concerned := by
    obtain ⟨sessionId, positions⟩ := request
    have here : sessionId = own := of_decide_eq_true concerned
    subst here
    have alike := requestMissing_alike same clock positions
    exact ⟨alike.view, congrArg (List.filter (HostOutput.isOf sessionId)) alike.outputs⟩

theorem requesting_alike (leftApart : left.Apart own) (rightApart : right.Apart own)
    (same : left.view own = right.view own) (clock : SessionId → Nat → Timestamp)
    {expired others : List (SessionId × BatchId × List BytePosition)}
    (found : Xor.about own expired = Xor.about own others) :
    (requestObserver own).Same ((requesting clock).run left (bySession expired))
      ((requesting clock).run right (bySession others)) := by
  apply (requesting_unwinding own clock).same_views leftApart rightApart (fun _ _ => trivial)
    (fun _ _ => trivial) same
  exact (filter_bySession own expired).trans (found ▸ (filter_bySession own others).symm)

end ManagerState

namespace ServingHost

/-- The block a packet hands to `fec::received`.  A data packet gets there once its chunk is stored
and the stream is not done. -/
def handed (debugAssertions : Bool) (self : ManagerState keyExchange) (packet : WirePacket)
    (clock : Nat → Timestamp) : Option FecPacket :=
  match packet with
  | .keyed (.data packet) =>
      match self.protocol.connections.get packet.sessionId with
      | none => none
      | some connection =>
          match (connection.receivedDataPacket packet fun index => clock (index + 2)).result with
          | .ok false => FecPacket.fromDataPacket debugAssertions packet
          | .ok true | .error _ => none
  | .keyed (.parity packet) => some (FecPacket.fromParityPacket packet)
  | _ => none

def erasure (self : ServingHost keyExchange) (block : Option FecPacket) (now : Timestamp) :
    Xor × Option Recovered :=
  match block with
  | some block => self.xor.receivedRecover block now
  | none => (self.xor, none)

variable (xxh3_128 : List UInt8 → PacketFingerprint) (debugAssertions : Bool)

def react (self : ServingHost keyExchange) :
    HostEvent keyExchange.Secret → ServingHost keyExchange × List HostOutput
  | .packet packet addr inputs now =>
      let block := handed debugAssertions self.manager packet inputs.clock
      let (xor, recovered) := self.erasure block now
      let reply := self.manager.handleMessage xxh3_128 { inputs with recovered := recovered }
        packet addr
      (⟨reply.state, xor⟩, reply.outputs)
  | .command command inputs =>
      let served := self.manager.serve inputs debugAssertions command
      (⟨served.reply.state, self.xor⟩,
        served.reply.outputs ++ served.answer.toList.map (.answer command.session))
  | .prune keys clock =>
      let (xor, expired) := self.xor.pruned keys
      let (manager, asked) := (ManagerState.requesting clock).run self.manager (bySession expired)
      (⟨manager, xor⟩, asked)

def reactor : Reactor (ServingHost keyExchange) (HostEvent keyExchange.Secret) HostOutput :=
  ⟨react xxh3_128 debugAssertions⟩

/-! ### What a session sees of its host -/

def view (own : SessionId) (self : ServingHost keyExchange) :
    ManagerView Key × (BatchId → Option InboundBatchData) :=
  (self.manager.view own, self.xor.batches own)

/-- An event concerns a session that it names.  Acknowledgements concern every session, for the
handler looks at their fingerprint alone. -/
def concerns (own : SessionId) : HostEvent keyExchange.Secret → Bool
  | .packet packet _ _ _ => packet.isAck || packet.sessionId = some own
  | .command command _ => command.session = some own
  | .prune keys _ => keys.any fun key => key.2 = own

def observer (own : SessionId) : Reactor.Observer (ServingHost keyExchange)
    (HostEvent keyExchange.Secret) HostOutput
    (ManagerView Key × (BatchId → Option InboundBatchData)) where
  view := view own
  observes := HostOutput.isOf own
  concerns := concerns own

/-- No Hello proposes the id or has it drawn, no new connection draws it, and the other commands
name a session, as those of every handle do. -/
def LeavesId (own : SessionId) : HostEvent keyExchange.Secret → Prop
  | .packet packet _ inputs _ => ManagerState.LeavesId own inputs packet
  | .command command inputs =>
      command.session.isSome = true ∨
        (∃ address, command = .connect address) ∧ inputs.generated ≠ own
  | .prune _ _ => True

/-- Nothing of another session bears the id, and no two batches share a cell. -/
structure Apart (own : SessionId) (host : ServingHost keyExchange) : Prop where
  manager : host.manager.Apart own
  batches : host.xor.inbound.Separate

variable {xxh3_128 : List UInt8 → PacketFingerprint} {debugAssertions : Bool}
  {host left right : ServingHost keyExchange} {inputs : HandlerInputs keyExchange.Secret}

/-! ### Packets -/

theorem handed_session {state : ManagerState keyExchange} {packet : WirePacket}
    {clock : Nat → Timestamp} {block : FecPacket}
    (hands : handed debugAssertions state packet clock = some block) :
    packet.sessionId = some block.sessionId := by
  unfold handed at hands
  split at hands
  · split at hands
    · cases hands
    · split at hands
      · obtain ⟨data, -, rfl⟩ := Option.map_eq_some_iff.mp hands
        rfl
      · cases hands
      · cases hands
  · cases hands
    rfl
  · cases hands

theorem handed_eq {left right : ManagerState keyExchange} (same : left.view own = right.view own)
    {packet : WirePacket} (names : packet.sessionId = some own) (clock : Nat → Timestamp) :
    handed debugAssertions left packet clock = handed debugAssertions right packet clock := by
  unfold handed
  split
  · cases names
    have connection : left.protocol.connections.get _ = right.protocol.connections.get _ :=
      ManagerState.connection_eq same
    dsimp only [WirePacket.sessionId, Packet.sessionId] at connection
    rw [connection]
  · rfl
  · rfl

theorem erasure_separate (apart : host.Apart own) (block : Option FecPacket) (now : Timestamp) :
    (host.erasure block now).1.inbound.Separate := by
  cases block with
  | none => exact apart.batches
  | some block => exact Xor.separate_receivedRecover apart.batches block now

theorem erasure_foreign (apart : host.Apart own) {block : Option FecPacket}
    (foreign : ∀ packet, block = some packet → packet.sessionId ≠ own) (now : Timestamp) :
    (host.erasure block now).1.batches own = host.xor.batches own := by
  cases block with
  | none => rfl
  | some block => exact Xor.batches_receivedRecover_of_ne apart.batches (foreign block rfl) now

theorem erasure_alike (leftApart : left.Apart own) (rightApart : right.Apart own)
    (same : left.xor.batches own = right.xor.batches own) {block : Option FecPacket}
    (names : ∀ packet, block = some packet → packet.sessionId = own) (now : Timestamp) :
    (left.erasure block now).1.batches own = (right.erasure block now).1.batches own ∧
      (left.erasure block now).2 = (right.erasure block now).2 := by
  cases block with
  | none => exact ⟨same, rfl⟩
  | some block =>
      have session := names block rfl
      subst session
      exact Xor.receivedRecover_alike leftApart.batches rightApart.batches same now

/-! ### The unwinding conditions -/

theorem leavesId_recovered {packet : WirePacket}
    (leaves : ManagerState.LeavesId own inputs packet) (recovered : Option Recovered) :
    ManagerState.LeavesId own { inputs with recovered := recovered } packet := by
  cases packet with
  | keyed packet =>
      cases packet with
      | hello packet => exact leaves
      | _ => exact trivial
  | _ => exact trivial

theorem react_apart (apart : host.Apart own) (event : HostEvent keyExchange.Secret)
    (leaves : LeavesId own event) : (host.react xxh3_128 debugAssertions event).1.Apart own := by
  cases event with
  | packet packet addr inputs now =>
      exact ⟨ManagerState.handleMessage_apart apart.manager addr (leavesId_recovered leaves _),
        erasure_separate apart _ now⟩
  | command command inputs =>
      refine ⟨?_, apart.batches⟩
      rcases leaves with named | ⟨⟨address, rfl⟩, fresh⟩
      · obtain ⟨sessionId, named⟩ := Option.isSome_iff_exists.mp named
        exact (ManagerState.serve_confined named).touches.apart apart.manager
      · have spares := @ManagerState.Apart.handshake_insert _ _ own _ apart.manager
          inputs.newHandshakeId ⟨address, inputs.ephemeralSecret, inputs.generated⟩ fresh
        exact spares.apart
  | prune keys clock =>
      exact ⟨(ManagerState.requesting_unwinding own clock).run_preserved apart.manager
        fun _ _ => trivial, Xor.separate_pruned apart.batches keys⟩

theorem react_unconcerned (apart : host.Apart own) (event : HostEvent keyExchange.Secret)
    (leaves : LeavesId own event) (other : concerns own event = false) :
    (observer own).Same (host.react xxh3_128 debugAssertions event) (host, []) := by
  cases event with
  | packet packet addr inputs now =>
      obtain ⟨notAck, named⟩ := Bool.or_eq_false_iff.mp other
      have foreign := of_decide_eq_false named
      obtain ⟨view, silent⟩ := @ManagerState.handleMessage_foreign _ _ own host.manager xxh3_128 _
        apart.manager packet addr (leavesId_recovered leaves
          (host.erasure (handed debugAssertions host.manager packet inputs.clock) now).2)
        foreign notAck
      have batches := @erasure_foreign _ _ own host apart
        (handed debugAssertions host.manager packet inputs.clock)
        (fun block hands same => foreign (same ▸ handed_session hands)) now
      exact ⟨Prod.ext view batches, silent.outputs⟩
  | command command inputs =>
      have foreign : command.session ≠ some own := of_decide_eq_false other
      rcases leaves with named | ⟨⟨address, rfl⟩, fresh⟩
      · obtain ⟨sessionId, named⟩ := Option.isSome_iff_exists.mp named
        have different : sessionId ≠ own := fun same => foreign (same ▸ named)
        have confined := @ManagerState.serve_confined _ _ sessionId host.manager inputs
          debugAssertions command named
        have silent := (confined.silent different apart.manager).outputs
        have unanswered : (((host.manager.serve inputs debugAssertions command).answer.toList.map
            (HostOutput.answer command.session)).filter (HostOutput.isOf own)) = [] := by
          rw [List.filter_eq_nil_iff]
          intro output listed
          obtain ⟨answer, -, same⟩ := List.mem_map.mp listed
          rw [← same, HostOutput.isOf, decide_eq_true_eq]
          exact foreign
        refine ⟨Prod.ext (confined.touches.view different) rfl, ?_⟩
        show List.filter _ (_ ++ _) = _
        rw [List.filter_append]
        exact congrArg₂ (· ++ ·) silent unanswered
      · have spares := @ManagerState.Apart.handshake_insert _ _ own _ apart.manager
          inputs.newHandshakeId ⟨address, inputs.ephemeralSecret, inputs.generated⟩ fresh
        have differs : ¬ some inputs.generated = some own :=
          fun same => fresh (Option.some.inj same)
        refine ⟨Prod.ext spares.view rfl, List.filter_cons_of_neg ?_⟩
        show ¬ decide (some inputs.generated = some own) = true
        rwa [decide_eq_true_eq]
  | prune keys clock =>
      have foreign : ∀ key ∈ keys, key.2 ≠ own := by
        intro key listed same
        exact List.any_eq_false.mp other key listed (decide_eq_true same)
      obtain ⟨batches, nothing⟩ := @Xor.pruned_of_ne own host.xor keys foreign
      have asked := @ManagerState.requesting_alike _ _ own _ _ apart.manager apart.manager rfl clock
        (host.xor.pruned keys).2 [] nothing
      exact ⟨Prod.ext asked.1 batches, asked.2⟩

theorem react_consistent (leftApart : left.Apart own) (rightApart : right.Apart own)
    (event : HostEvent keyExchange.Secret) (leaves : LeavesId own event)
    (same : left.view own = right.view own) (concerned : concerns own event = true) :
    (observer own).Same (left.react xxh3_128 debugAssertions event)
      (right.react xxh3_128 debugAssertions event) := by
  have manager : left.manager.view own = right.manager.view own := congrArg Prod.fst same
  have batches : left.xor.batches own = right.xor.batches own := congrArg Prod.snd same
  cases event with
  | packet packet addr inputs now =>
      have concerns : packet.sessionId = some own ∨ packet.isAck = true := by
        rcases (Bool.or_eq_true _ _).mp concerned with isAck | names
        · exact Or.inr isAck
        · exact Or.inl (of_decide_eq_true names)
      have hands : handed debugAssertions left.manager packet inputs.clock =
          handed debugAssertions right.manager packet inputs.clock := by
        rcases concerns with names | isAck
        · exact handed_eq manager names inputs.clock
        · cases packet with
          | ack packet => rfl
          | _ => cases isAck
      have names : ∀ block, handed debugAssertions right.manager packet inputs.clock = some block →
          block.sessionId = own := by
        intro block hands
        have named := handed_session hands
        rcases concerns with names | isAck
        · exact Option.some.inj (named.symm.trans names)
        · cases packet with
          | ack packet => cases hands
          | _ => cases isAck
      obtain ⟨after, recovered⟩ := erasure_alike leftApart rightApart batches names now
      have leavesId := leavesId_recovered leaves
        (right.erasure (handed debugAssertions right.manager packet inputs.clock) now).2
      have alike := @ManagerState.handleMessage_alike _ _ own left.manager right.manager xxh3_128 _
        manager packet addr leavesId concerns
      rw [react, react, hands]
      dsimp only
      rw [recovered]
      exact ⟨Prod.ext alike.view after, congrArg (List.filter (HostOutput.isOf own)) alike.outputs⟩
  | command command inputs =>
      have alike := @ManagerState.serve_alike _ _ own left.manager right.manager inputs
        debugAssertions command (of_decide_eq_true concerned) manager
      rw [react, react, alike.reply.outputs, alike.answer]
      exact ⟨Prod.ext alike.reply.view batches, rfl⟩
  | prune keys clock =>
      obtain ⟨after, found⟩ := Xor.pruned_alike batches keys
      have asked := ManagerState.requesting_alike leftApart.manager rightApart.manager manager clock
        found
      exact ⟨Prod.ext asked.1 after, asked.2⟩

theorem unwinding (xxh3_128 : List UInt8 → PacketFingerprint) (debugAssertions : Bool)
    (own : SessionId) :
    (observer own).Unwinding (@reactor _ keyExchange xxh3_128 debugAssertions) (Apart own)
      (LeavesId own) where
  preserved _ event apart leaves := react_apart apart event leaves
  unconcerned _ event apart leaves other := react_unconcerned apart event leaves other
  consistent _ _ event leftApart rightApart leaves same concerned :=
    react_consistent leftApart rightApart event leaves same concerned

def peer : SocketAddr := ⟨[127, 0, 0, 1], 80⟩

def drawn : HandlerInputs EncryptedSession.productExchange.Secret :=
  ⟨fun _ => ⟨5, Timestamp.five_lt⟩, none, true, ⟨9⟩, (3 : UInt64), ⟨1⟩, ⟨[]⟩⟩

def busy : List (HostEvent EncryptedSession.productExchange.Secret) :=
  [.command (.streamAction ⟨8⟩ .pause) drawn,
    .packet (.keyed (.closeSession (CloseSessionPacket.new Options.none ⟨8⟩ ⟨5, Timestamp.five_lt⟩)))
      peer drawn ⟨5, Timestamp.five_lt⟩,
    .command (.rejectTrackRequest ⟨7⟩ [1]) drawn,
    .prune [(⟨1⟩, ⟨8⟩)] fun _ _ => ⟨5, Timestamp.five_lt⟩]

end ServingHost
end Ubass

import Ubass.Exchange.SingleStream
import Ubass.Lib.Refinement
import Ubass.Processor.StreamPackets

/-!
# A session over datagrams

The two ends of a session with their packet processors, and a network that hands the
receiver whatever bytes it likes.  Packets leave through `outbound::handle_packet`
and come in through `inbound::handle_packet`; the key of the session is all that
tells a datagram of the other end from one that was made up.

As long as nothing opens under the key that was not sealed with it, the runs are
those of the exchange, in which only packets arrive that were sent.
-/

set_option autoImplicit false

namespace Ubass

universe u

variable {Key : Type u}

/-! ## The model -/

/-- An exchange with the encryption tables of its ends, the fingerprints that the receiver
remembers, and the datagrams that were handed to a transport. -/
structure SealedExchange (Key : Type u) where
  exchange : Exchange
  sending : EncryptionTable Key
  receiving : EncryptionTable Key
  window : FingerprintWindow
  sent : List (List UInt8)

inductive SealedLabel where
  | sender (label : SenderLabel)
  /-- Anything the receiver does but handling a packet of the stream. -/
  | receiver (label : ReceiverLabel)
  /-- The processor takes this data packet, or this parity packet, to the transport. -/
  | data (batch pos : Nat) (addr : SocketAddr)
  | parity (index : Nat) (addr : SocketAddr)
  | fromSender (other : OtherPacket) (addr : SocketAddr)
  | fromReceiver (other : OtherPacket) (addr : SocketAddr)
  /-- These bytes arrive at the receiver. -/
  | datagram (srcAddr : SocketAddr) (data : List UInt8) (now : Timestamp)
      (clock : Nat → Timestamp)

def ReceiverLabel.isOwn : ReceiverLabel → Bool
  | data _ _ _ | parity _ => false
  | _ => true

namespace Sender

/-- The batch of a data packet, and the batch that a parity packet was made of. -/
def batchOf (self : Sender) : Packet → Nat
  | .data packet => self.batches.findIdx fun batch => decide (packet ∈ batch.packets)
  | .parity packet => ((self.parities.find? fun sent => sent.2 == packet).map Prod.fst).getD 0
  | _ => 0

end Sender

namespace Receiver

def receivedPacket (setup : Setup) (self : Receiver) (batch : Nat) (packet : Packet)
    (clock : Nat → Timestamp) : Receiver :=
  match packet with
  | .data packet => self.receivedDataPacket setup batch packet clock
  | .parity packet =>
      { self with tasks := self.tasks ++ [.enter batch (FecPacket.fromParityPacket packet)] }
  | _ => self

end Receiver

/-- The packet of this session's stream, if that is what the processor sends up. -/
def Setup.streamPacket (setup : Setup) : Except Stop Inbound.Message → Option Packet
  | .ok (.packet (.keyed (.data packet)) _) =>
      if packet.sessionId = setup.sessionId then some (.data packet) else none
  | .ok (.packet (.keyed (.parity packet)) _) =>
      if packet.sessionId = setup.sessionId then some (.parity packet) else none
  | _ => none

namespace SealedExchange

variable (aead : Aead Key) (xxh3_128 : List UInt8 → PacketFingerprint) (setup : Setup)

/-- A processor hands a packet to the transport: the table afterwards, and the datagram. -/
def handOver (table : EncryptionTable Key) (packet : WirePacket) (addr : SocketAddr) :
    Option (EncryptionTable Key × List UInt8) :=
  match Outbound.transmit aead table packet addr with
  | .ok (processed, after) => some (after, processed.data)
  | .error _ => none

def sends (self : SealedExchange Key) (packet : WirePacket) (addr : SocketAddr) :
    Option (SealedExchange Key) :=
  (handOver aead self.sending packet addr).map fun handed =>
    { self with sending := handed.1, sent := self.sent ++ [handed.2] }

def answers (self : SealedExchange Key) (packet : WirePacket) (addr : SocketAddr) :
    Option (SealedExchange Key) :=
  (handOver aead self.receiving packet addr).map fun handed =>
    { self with receiving := handed.1, sent := self.sent ++ [handed.2] }

def handled (self : SealedExchange Key) (srcAddr : SocketAddr) (data : List UInt8)
    (now : Timestamp) : Except Stop Inbound.Message × FingerprintWindow :=
  Inbound.handlePacket aead xxh3_128 setup.debugAssertions self.receiving now srcAddr data
    self.window

def receives (self : SealedExchange Key) (srcAddr : SocketAddr) (data : List UInt8)
    (now : Timestamp) (clock : Nat → Timestamp) : SealedExchange Key :=
  let handled := self.handled aead xxh3_128 setup srcAddr data now
  let receiver :=
    match setup.streamPacket handled.1 with
    | some packet =>
        self.exchange.receiver.receivedPacket setup (self.exchange.sender.batchOf packet) packet
          clock
    | none => self.exchange.receiver
  { self with exchange := { self.exchange with receiver := receiver }, window := handled.2 }

def step (self : SealedExchange Key) : SealedLabel → Option (SealedExchange Key)
  | .sender label =>
      ((Exchange.machine setup).step self.exchange (.sender label)).map fun exchange =>
        { self with exchange := exchange }
  | .receiver label =>
      if label.isOwn then
        ((Exchange.machine setup).step self.exchange (.receiver label)).map fun exchange =>
          { self with exchange := exchange }
      else none
  | .data batch pos addr =>
      (self.exchange.sender.packet batch pos).bind fun packet =>
        self.sends aead (.keyed (.data packet)) addr
  | .parity index addr =>
      (self.exchange.sender.parities[index]?).bind fun sent =>
        self.sends aead (.keyed (.parity sent.2)) addr
  | .fromSender other addr => self.sends aead other.packet addr
  | .fromReceiver other addr => self.answers aead other.packet addr
  | .datagram srcAddr data now clock =>
      some (self.receives aead xxh3_128 setup srcAddr data now clock)

/-- Both ends have the key of the session, and nothing was sent. -/
def machine : Machine (SealedExchange Key) SealedLabel where
  initial state := (Exchange.machine setup).initial state.exchange ∧
    Inbound.SharesKey state.sending state.receiving setup.sessionId ∧ state.sent = []
  step := step aead xxh3_128 setup

/-- A packet of the stream that opens was sealed: what its header bytes make with the bytes after
them is a datagram of one of the ends. -/
def Unforged (self : SealedExchange Key) : SealedLabel → Prop
  | .datagram srcAddr data now _ =>
      ∀ packet, setup.streamPacket (self.handled aead xxh3_128 setup srcAddr data now).1 =
        some packet → packet.headers ++ data.drop packet.headers.length ∈ self.sent
  | _ => True

instance (self : SealedExchange Key) (label : SealedLabel) :
    Decidable (self.Unforged aead xxh3_128 setup label) :=
  match label with
  | .datagram srcAddr data now _ =>
      match found : setup.streamPacket (self.handled aead xxh3_128 setup srcAddr data now).1 with
      | none => isTrue fun _ opened => nomatch found.symm.trans opened
      | some packet =>
          decidable_of_iff (packet.headers ++ data.drop packet.headers.length ∈ self.sent)
            ⟨fun listed _ opened => by
                cases found.symm.trans opened
                exact listed,
              fun all => all packet found⟩
  | .sender _ | .receiver _ | .data _ _ _ | .parity _ _ | .fromSender _ _
  | .fromReceiver _ _ => isTrue trivial

end SealedExchange

/-! ## The sender's packets -/

namespace Sender

/-- The packets of a stream are as their constructors make them, and of its session. -/
structure Made (setup : Setup) (state : Sender) : Prop where
  data : ∀ batch ∈ state.batches, ∀ packet ∈ batch.packets,
    (Packet.data packet).Created ∧ packet.opts = Options.none ∧
      packet.sessionId = setup.sessionId
  parities : ∀ sent ∈ state.parities,
    (Packet.parity sent.2).Created ∧ sent.2.sessionId = setup.sessionId

theorem new_made (setup : Setup) (session : EstablishedState) : (new session).Made setup where
  data := by
    intro batch listed
    cases listed
  parities := by
    intro sent listed
    cases listed

theorem made_of_mem_sendDataPackets {chunks : List Chunk} {sessionId : SessionId}
    {batchId : BatchId} {clock : Nat → Timestamp} {packet : DataPacket}
    (listed : packet ∈ sendDataPackets chunks sessionId batchId clock) :
    (Packet.data packet).Created ∧ packet.opts = Options.none ∧ packet.sessionId = sessionId := by
  obtain ⟨⟨chunk, index⟩, _, rfl⟩ := List.mem_map.mp listed
  exact ⟨.data _ _ _ _ _ _ _, rfl, rfl⟩

theorem sessionId_fromDataPacket {debugAssertions : Bool} {value : DataPacket} {packet : FecPacket}
    (made : FecPacket.fromDataPacket debugAssertions value = some packet) :
    packet.sessionId = value.sessionId := by
  obtain ⟨_, _, rfl⟩ := Option.map_eq_some_iff.mp made
  rfl

theorem step_made {setup : Setup} {state next : Sender} {label : SenderLabel}
    (made : state.Made setup) (stepped : state.step setup label = some next) : next.Made setup := by
  cases label with
  | streamTo message =>
      obtain ⟨_, same⟩ := Option.ite_none_right_eq_some.mp stepped
      cases Option.some.inj same
      exact ⟨made.data, made.parities⟩
  | tick index clock =>
      simp only [step] at stepped
      split at stepped
      · cases stepped
      · rename_i loop _
        obtain ⟨_, same⟩ := Option.ite_none_right_eq_some.mp stepped
        cases Option.some.inj same
        refine ⟨?_, made.parities⟩
        have result := sendTick_cases state.session setup.sessionId loop clock
        generalize sendTick state.session setup.sessionId loop clock = sent at result ⊢
        intro batch member packet listed
        simp only at member
        split at member
        · exact made.data batch member packet listed
        · rcases List.mem_append.mp member with old | new
          · exact made.data batch old packet listed
          · cases List.mem_singleton.mp new
            cases result with
            | silent => cases listed
            | sends _ _ _ _ toSend =>
                cases toSend with
                | none => cases listed
                | some chosen => exact made_of_mem_sendDataPackets listed
  | event index event =>
      simp only [step] at stepped
      split at stepped
      · cases stepped
      · cases stepped
        exact ⟨made.data, made.parities⟩
  | updateMessage change =>
      cases stepped
      exact ⟨made.data, made.parities⟩
  | closeStream =>
      cases stepped
      exact ⟨made.data, made.parities⟩
  | sent batch pos now =>
      obtain ⟨data, packet, found, isPacket, step⟩ := sent_step stepped
      obtain ⟨_, _, _, batches⟩ := step.frame
      refine ⟨by rw [batches]; exact made.data, ?_⟩
      cases step with
      | built ref entry now phase present =>
          intro sent member
          rcases List.mem_append.mp member with old | new
          · exact made.parities sent old
          · cases List.mem_singleton.mp new
            obtain ⟨of, batchFound, dataFound⟩ := Option.bind_eq_some_iff.mp found
            obtain ⟨_, _, own⟩ := made.data of (List.mem_of_getElem? batchFound) data
              (List.mem_of_getElem? dataFound)
            exact ⟨.parity _ _ _ _ _ _, (sessionId_fromDataPacket isPacket).trans own⟩
      | _ => exact made.parities

theorem step_parities {setup : Setup} {state next : Sender} {label : SenderLabel}
    (stepped : state.step setup label = some next) :
    ∃ more, next.parities = state.parities ++ more := by
  cases label with
  | streamTo message =>
      obtain ⟨_, same⟩ := Option.ite_none_right_eq_some.mp stepped
      cases Option.some.inj same
      exact ⟨[], (List.append_nil _).symm⟩
  | tick index clock =>
      simp only [step] at stepped
      split at stepped
      · cases stepped
      · obtain ⟨_, same⟩ := Option.ite_none_right_eq_some.mp stepped
        cases Option.some.inj same
        exact ⟨[], (List.append_nil _).symm⟩
  | event index event =>
      simp only [step] at stepped
      split at stepped
      · cases stepped
      · cases stepped
        exact ⟨[], (List.append_nil _).symm⟩
  | updateMessage change =>
      cases stepped
      exact ⟨[], (List.append_nil _).symm⟩
  | closeStream =>
      cases stepped
      exact ⟨[], (List.append_nil _).symm⟩
  | sent batch pos now =>
      obtain ⟨_, _, _, _, step⟩ := sent_step stepped
      cases step with
      | built => exact ⟨_, rfl⟩
      | _ => exact ⟨[], (List.append_nil _).symm⟩

theorem packet_of_extended {before after : Sender}
    (extended : ∃ more, after.batches = before.batches ++ more) {batch pos : Nat}
    {packet : DataPacket} (found : before.packet batch pos = some packet) :
    after.packet batch pos = some packet := by
  obtain ⟨of, batchFound, dataFound⟩ := Option.bind_eq_some_iff.mp found
  exact Option.bind_eq_some_iff.mpr
    ⟨of, Receiver.getElem?_extended extended batchFound, dataFound⟩

theorem packet_batchOf {self : Sender} {batch pos : Nat} {packet : DataPacket}
    (found : self.packet batch pos = some packet) :
    ∃ pos, self.packet (self.batchOf (.data packet)) pos = some packet := by
  obtain ⟨of, batchFound, dataFound⟩ := Option.bind_eq_some_iff.mp found
  have some : self.batches.findIdx (fun batch => decide (packet ∈ batch.packets)) <
      self.batches.length :=
    List.findIdx_lt_length.mpr ⟨of, List.mem_of_getElem? batchFound,
      decide_eq_true (List.mem_of_getElem? dataFound)⟩
  have listed := of_decide_eq_true (List.findIdx_getElem (w := some))
  obtain ⟨other, otherFound⟩ := List.mem_iff_getElem?.mp listed
  refine ⟨other, Option.bind_eq_some_iff.mpr ⟨_, List.getElem?_eq_getElem some, otherFound⟩⟩

theorem parity_batchOf {self : Sender} {index batch : Nat} {packet : ParityPacket}
    (found : self.parities[index]? = some (batch, packet)) :
    ∃ index : Nat, self.parities[index]? = some (self.batchOf (.parity packet), packet) := by
  cases chosen : self.parities.find? fun sent => sent.2 == packet with
  | none =>
      have differs := List.find?_eq_none.mp chosen _ (List.mem_of_getElem? found)
      exact absurd (beq_self_eq_true packet) differs
  | some sent =>
      have matched := List.find?_some chosen
      have same : sent.2 = packet := beq_iff_eq.mp matched
      obtain ⟨other, otherFound⟩ := List.mem_iff_getElem?.mp (List.mem_of_find?_eq_some chosen)
      refine ⟨other, otherFound.trans ?_⟩
      rw [batchOf, chosen, ← same]
      rfl

end Sender

/-! ## The invariant -/

inductive Explained (aead : Aead Key) (key : Key) (sender : Sender) (datagram : List UInt8) : Prop
  | data (batch pos : Nat) (packet : DataPacket) (found : sender.packet batch pos = some packet)
      (created : (Packet.data packet).Created) (opens : Opens aead key (.data packet) datagram)
  | parity (index batch : Nat) (packet : ParityPacket)
      (found : sender.parities[index]? = some (batch, packet))
      (created : (Packet.parity packet).Created)
      (opens : Opens aead key (.parity packet) datagram)
  | other (notData : ¬ Starts .data datagram) (notParity : ¬ Starts .parity datagram)

theorem Explained.mono {aead : Aead Key} {key : Key} {before after : Sender}
    {datagram : List UInt8} (explained : Explained aead key before datagram)
    (batches : ∃ more, after.batches = before.batches ++ more)
    (parities : ∃ more, after.parities = before.parities ++ more) :
    Explained aead key after datagram := by
  cases explained with
  | data batch pos packet found created opens =>
      exact .data batch pos packet (Sender.packet_of_extended batches found) created opens
  | parity index batch packet found created opens =>
      obtain ⟨more, same⟩ := parities
      refine .parity index batch packet ?_ created opens
      rw [same, List.getElem?_append_left (List.getElem?_eq_some_iff.mp found).1]
      exact found
  | other notData notParity => exact .other notData notParity

namespace SealedExchange

variable {aead : Aead Key} {xxh3_128 : List UInt8 → PacketFingerprint} {setup : Setup} {key : Key}

/-- Both ends hold the key, and every datagram that was sent is accounted for. -/
structure Sound (aead : Aead Key) (setup : Setup) (key : Key) (state : SealedExchange Key) :
    Prop where
  sending : state.sending.getCipher setup.sessionId = some key
  receiving : state.receiving.getCipher setup.sessionId = some key
  made : state.exchange.sender.Made setup
  sent : ∀ datagram ∈ state.sent, Explained aead key state.exchange.sender datagram

theorem Sound.of_data {state : SealedExchange Key} (sound : state.Sound aead setup key)
    {data : List UInt8} {packet : DataPacket} (own : packet.sessionId = setup.sessionId)
    (opened : Inbound.Opened aead state.receiving data (.keyed (.data packet)))
    (listed : (Packet.data packet).headers ++ data.drop (Packet.data packet).headers.length ∈
      state.sent) :
    ∃ pos, state.exchange.sender.packet (state.exchange.sender.batchOf (.data packet)) pos =
      some packet := by
  obtain ⟨formed, decrypted⟩ := opened _ rfl (Or.inl rfl)
  have starts := starts_headers (.data packet) (data.drop (Packet.data packet).headers.length)
  have type : packet.packetType = .data := (Packet.packetType_of_kind formed).1 rfl
  cases sound.sent _ listed with
  | data batch pos inner found created opens =>
      have stored : state.receiving.getCipher packet.sessionId = some key := own ▸ sound.receiving
      obtain ⟨fields, payload⟩ := opens.same
        ((Packet.length_headers_data _).trans (Packet.length_headers_data _).symm)
        created.wellFormed formed stored decrypted
      cases Packet.data_ext fields payload
      exact Sender.packet_batchOf found
  | parity index batch inner found created opens =>
      have other := (Packet.packetType_of_kind created.wellFormed).2 rfl
      have same := starts.unique opens.starts
      cases type.symm.trans (same.trans other)
  | other notData notParity => exact absurd (type ▸ starts) notData

theorem Sound.of_parity {state : SealedExchange Key} (sound : state.Sound aead setup key)
    {data : List UInt8} {packet : ParityPacket} (own : packet.sessionId = setup.sessionId)
    (opened : Inbound.Opened aead state.receiving data (.keyed (.parity packet)))
    (listed : (Packet.parity packet).headers ++
      data.drop (Packet.parity packet).headers.length ∈ state.sent) :
    ∃ index : Nat, state.exchange.sender.parities[index]? =
      some (state.exchange.sender.batchOf (.parity packet), packet) := by
  obtain ⟨formed, decrypted⟩ := opened _ rfl (Or.inr rfl)
  have starts := starts_headers (.parity packet) (data.drop (Packet.parity packet).headers.length)
  have type : packet.packetType = .parity := (Packet.packetType_of_kind formed).2 rfl
  cases sound.sent _ listed with
  | data batch pos inner found created opens =>
      have other := (Packet.packetType_of_kind created.wellFormed).1 rfl
      have same := starts.unique opens.starts
      cases type.symm.trans (same.trans other)
  | parity index batch inner found created opens =>
      have stored : state.receiving.getCipher packet.sessionId = some key := own ▸ sound.receiving
      obtain ⟨fields, payload⟩ := opens.same
        ((Packet.length_headers_parity _).trans (Packet.length_headers_parity _).symm)
        created.wellFormed formed stored decrypted
      cases Packet.parity_ext fields payload
      exact Sender.parity_batchOf found
  | other notData notParity => exact absurd (type ▸ starts) notParity

/-! ## The steps -/

theorem handOver_eq_some {table after : EncryptionTable Key} {packet : WirePacket}
    {addr : SocketAddr} {datagram : List UInt8}
    (handed : handOver aead table packet addr = some (after, datagram)) :
    ∃ processed, Outbound.transmit aead table packet addr = .ok (processed, after) ∧
      processed.data = datagram := by
  rw [handOver] at handed
  split at handed
  · rename_i processed _ sent
    cases handed
    exact ⟨processed, sent, rfl⟩
  · cases handed

theorem Sound.sends {state next : SealedExchange Key} (sound : state.Sound aead setup key)
    {packet : WirePacket} {addr : SocketAddr}
    (explained : ∀ processed after, Outbound.transmit aead state.sending packet addr =
      .ok (processed, after) → Explained aead key state.exchange.sender processed.data)
    (stepped : state.sends aead packet addr = some next) :
    next.exchange = state.exchange ∧ next.Sound aead setup key := by
  obtain ⟨⟨after, datagram⟩, handed, rfl⟩ := Option.map_eq_some_iff.mp stepped
  obtain ⟨processed, sent, rfl⟩ := handOver_eq_some handed
  refine ⟨rfl, (transmit_getCipher sent _).trans sound.sending, sound.receiving, sound.made, ?_⟩
  intro datagram listed
  rcases List.mem_append.mp listed with old | new
  · exact sound.sent datagram old
  · cases List.mem_singleton.mp new
    exact explained processed after sent

theorem Sound.answers {state next : SealedExchange Key} (sound : state.Sound aead setup key)
    {other : OtherPacket} {addr : SocketAddr}
    (stepped : state.answers aead other.packet addr = some next) :
    next.exchange = state.exchange ∧ next.Sound aead setup key := by
  obtain ⟨⟨after, datagram⟩, handed, rfl⟩ := Option.map_eq_some_iff.mp stepped
  obtain ⟨processed, sent, rfl⟩ := handOver_eq_some handed
  refine ⟨rfl, sound.sending, (transmit_getCipher sent _).trans sound.receiving, sound.made, ?_⟩
  intro datagram listed
  rcases List.mem_append.mp listed with old | new
  · exact sound.sent datagram old
  · cases List.mem_singleton.mp new
    obtain ⟨notData, notParity⟩ := other.not_starts sent
    exact .other notData notParity

theorem Sound.explained_data {state : SealedExchange Key} (sound : state.Sound aead setup key)
    {batch pos : Nat} {packet : DataPacket}
    (found : state.exchange.sender.packet batch pos = some packet) {addr : SocketAddr}
    {processed : ProcessedPacket} {after : EncryptionTable Key}
    (sent : Outbound.transmit aead state.sending (.keyed (.data packet)) addr =
      .ok (processed, after)) :
    Explained aead key state.exchange.sender processed.data := by
  obtain ⟨of, batchFound, dataFound⟩ := Option.bind_eq_some_iff.mp found
  obtain ⟨created, none, own⟩ := sound.made.data of (List.mem_of_getElem? batchFound) packet
    (List.mem_of_getElem? dataFound)
  have plain : ({ packet with opts := packet.opts.addAck.1 } : DataPacket) = packet := by
    rw [none]
    cases packet
    cases none
    rfl
  have stored : state.sending.getCipher (Packet.data packet).sessionId = some key := by
    rw [show (Packet.data packet).sessionId = setup.sessionId from own]
    exact sound.sending
  have handed : Outbound.transmit aead state.sending (.keyed (.data packet)) addr =
      .ok (⟨addr, .data, (Outbound.processEncrypted aead state.sending (.data packet)).1, 1⟩,
        (Outbound.processEncrypted aead state.sending (.data packet)).2) := by
    rw [Outbound.transmit, Outbound.handlePacket, WirePacket.addAck, Packet.addAck, plain]
    · intro _ same
      cases same
  cases handed.symm.trans sent
  exact .data batch pos packet found created (processEncrypted_opens stored)

theorem Sound.explained_parity {state : SealedExchange Key} (sound : state.Sound aead setup key)
    {index batch : Nat} {packet : ParityPacket}
    (found : state.exchange.sender.parities[index]? = some (batch, packet)) {addr : SocketAddr}
    {processed : ProcessedPacket} {after : EncryptionTable Key}
    (sent : Outbound.transmit aead state.sending (.keyed (.parity packet)) addr =
      .ok (processed, after)) :
    Explained aead key state.exchange.sender processed.data := by
  obtain ⟨created, own⟩ := sound.made.parities _ (List.mem_of_getElem? found)
  have stored : state.sending.getCipher (Packet.parity packet).sessionId = some key := by
    rw [show (Packet.parity packet).sessionId = setup.sessionId from own]
    exact sound.sending
  cases sent
  exact .parity index batch packet found created (processEncrypted_opens stored)

theorem Sound.receives {state : SealedExchange Key} (sound : state.Sound aead setup key)
    {srcAddr : SocketAddr} {data : List UInt8} {now : Timestamp} {clock : Nat → Timestamp}
    (unforged : state.Unforged aead xxh3_128 setup (.datagram srcAddr data now clock)) :
    (state.receives aead xxh3_128 setup srcAddr data now clock).exchange = state.exchange ∨
      ∃ label, (Exchange.machine setup).step state.exchange (.receiver label) =
        some (state.receives aead xxh3_128 setup srcAddr data now clock).exchange := by
  have listed := unforged
  simp only [SealedExchange.Unforged] at listed
  have opened := @Inbound.handlePacket_opened Key aead xxh3_128 setup.debugAssertions
    state.receiving now srcAddr data state.window
  rw [SealedExchange.receives]
  change ∀ message, (state.handled aead xxh3_128 setup srcAddr data now).1 = .ok message → _
    at opened
  generalize (state.handled aead xxh3_128 setup srcAddr data now).1 = result at listed opened ⊢
  simp only
  unfold Setup.streamPacket at listed ⊢
  split
  · rename_i packet found
    split at found
    · rename_i inner addr
      obtain ⟨own, same⟩ := Option.ite_none_right_eq_some.mp found
      cases same
      have sent := listed (.data inner) (if_pos own)
      obtain ⟨pos, batchFound⟩ := sound.of_data own (opened _ rfl _ _ rfl) sent
      refine Or.inr ⟨.data (state.exchange.sender.batchOf (.data inner)) pos clock, ?_⟩
      simp only [Exchange.machine, Receiver.step, batchFound, Option.map_some]
      rfl
    · rename_i inner addr
      obtain ⟨own, same⟩ := Option.ite_none_right_eq_some.mp found
      cases same
      have sent := listed (.parity inner) (if_pos own)
      obtain ⟨index, batchFound⟩ := sound.of_parity own (opened _ rfl _ _ rfl) sent
      refine Or.inr ⟨.parity index, ?_⟩
      simp only [Exchange.machine, Receiver.step, batchFound, Option.map_some]
      rfl
    · cases found
  · exact Or.inl rfl

theorem Sound.ofExchange {state : SealedExchange Key} (sound : state.Sound aead setup key)
    {label : ExchangeLabel} {exchange : Exchange}
    (stepped : (Exchange.machine setup).step state.exchange label = some exchange) :
    Sound aead setup key { state with exchange := exchange } := by
  cases label with
  | sender label =>
      obtain ⟨sender, senderStepped, rfl⟩ := Option.map_eq_some_iff.mp stepped
      exact ⟨sound.sending, sound.receiving, Sender.step_made sound.made senderStepped,
        fun datagram listed => (sound.sent datagram listed).mono
          (Sender.step_batches senderStepped) (Sender.step_parities senderStepped)⟩
  | receiver label =>
      obtain ⟨receiver, receiverStepped, rfl⟩ := Option.map_eq_some_iff.mp stepped
      exact ⟨sound.sending, sound.receiving, sound.made, sound.sent⟩

theorem Sound.step {state next : SealedExchange Key} (sound : state.Sound aead setup key)
    {label : SealedLabel} (unforged : state.Unforged aead xxh3_128 setup label)
    (stepped : (machine aead xxh3_128 setup).step state label = some next) :
    next.Sound aead setup key ∧ (next.exchange = state.exchange ∨
      ∃ label, (Exchange.machine setup).step state.exchange label = some next.exchange) := by
  cases label with
  | sender label =>
      obtain ⟨exchange, exchangeStepped, rfl⟩ := Option.map_eq_some_iff.mp stepped
      exact ⟨sound.ofExchange exchangeStepped, Or.inr ⟨_, exchangeStepped⟩⟩
  | receiver label =>
      obtain ⟨_, same⟩ := Option.ite_none_right_eq_some.mp stepped
      obtain ⟨exchange, exchangeStepped, rfl⟩ := Option.map_eq_some_iff.mp same
      exact ⟨sound.ofExchange exchangeStepped, Or.inr ⟨_, exchangeStepped⟩⟩
  | data batch pos addr =>
      obtain ⟨packet, found, handed⟩ := Option.bind_eq_some_iff.mp stepped
      obtain ⟨same, kept⟩ := sound.sends (fun _ _ => sound.explained_data found) handed
      exact ⟨kept, Or.inl same⟩
  | parity index addr =>
      obtain ⟨⟨batch, packet⟩, found, handed⟩ := Option.bind_eq_some_iff.mp stepped
      obtain ⟨same, kept⟩ := sound.sends (fun _ _ => sound.explained_parity found) handed
      exact ⟨kept, Or.inl same⟩
  | fromSender other addr =>
      have explained : ∀ processed after, Outbound.transmit aead state.sending other.packet addr =
          .ok (processed, after) →
            Explained aead key state.exchange.sender processed.data := by
        intro processed after sent
        obtain ⟨notData, notParity⟩ := other.not_starts sent
        exact .other notData notParity
      obtain ⟨same, kept⟩ := sound.sends explained stepped
      exact ⟨kept, Or.inl same⟩
  | fromReceiver other addr =>
      obtain ⟨same, kept⟩ := sound.answers stepped
      exact ⟨kept, Or.inl same⟩
  | datagram srcAddr data now clock =>
      cases Option.some.inj stepped
      rcases sound.receives unforged with same | ⟨label, answered⟩
      · refine ⟨⟨sound.sending, sound.receiving, ?_, ?_⟩, Or.inl same⟩
        · rw [same]
          exact sound.made
        · rw [same]
          exact sound.sent
      · have kept := sound.ofExchange answered
        exact ⟨⟨kept.sending, kept.receiving, kept.made, kept.sent⟩, Or.inr ⟨_, answered⟩⟩

/-- The exchange over datagrams refines the exchange in which only packets arrive that were
sent. -/
theorem refines (aead : Aead Key) (xxh3_128 : List UInt8 → PacketFingerprint) (setup : Setup)
    (key : Key) :
    (machine aead xxh3_128 setup).Refines (Exchange.machine setup) SealedExchange.exchange
      (Sound aead setup key) (Unforged aead xxh3_128 setup) where
  preserved _ _ _ sound unforged stepped := (sound.step unforged stepped).1
  answered state label next sound unforged stepped := by
    rcases (sound.step unforged stepped).2 with same | ⟨answer, answered⟩
    · exact ⟨[], by rw [same]; rfl⟩
    · exact ⟨[answer], (Exchange.machine setup).run_cons_eq_some.mpr ⟨_, answered, rfl⟩⟩

/-- Whoever lacks the key of a session cannot do more to a stream than a network that drops,
repeats and reorders what was sent: in a run in which nothing forged opens, the ends get where an
exchange of the packets themselves gets, and with one stream of fewer than 2^16 batches in a build
with debug assertions every chunk that is marked as filled holds the bytes of the source. -/
theorem attacked_stream_intact (aead : Aead Key) (xxh3_128 : List UInt8 → PacketFingerprint)
    {sessionId : SessionId} {source : List UInt8}
    (short : source.length + maxPayloadLength < 2 ^ 32) {first final : SealedExchange Key}
    {labels : List SealedLabel}
    (initial : (machine aead xxh3_128 (Exchange.carrying sessionId source)).initial first)
    (ran : (machine aead xxh3_128 (Exchange.carrying sessionId source)).run first labels =
      some final)
    (unforged : (machine aead xxh3_128 (Exchange.carrying sessionId source)).Guarded
      (Unforged aead xxh3_128 (Exchange.carrying sessionId source)) first labels) :
    (∃ delivered, (Exchange.machine (Exchange.carrying sessionId source)).run first.exchange
        delivered = some final.exchange) ∧
      (final.exchange.Single → ∀ entry ∈ final.exchange.receiver.buffers,
        entry.2.Agrees source ∧ (entry.2.len = source.length → entry.2.isDone = true →
          ∀ memory, entry.2.buffer.memory = some memory → memory = source)) := by
  obtain ⟨⟨sending, receiving, sendingUp, receivingUp, started⟩, ⟨key, sent, received⟩, nothing⟩ :=
    initial
  have sound : first.Sound aead (Exchange.carrying sessionId source) key := by
    refine ⟨sent, received, ?_, ?_⟩
    · rw [started]
      exact Sender.new_made _ _
    · rw [nothing]
      intro datagram listed
      cases listed
  have answered := (refines aead xxh3_128 (Exchange.carrying sessionId source) key).run_answered
    sound unforged ran
  refine ⟨answered, ?_⟩
  intro single entry listed
  obtain ⟨delivered, deliveredRan⟩ := answered
  rw [started] at deliveredRan
  have separate := @Machine.run_preserves _ _ (Exchange.machine (Exchange.carrying sessionId source))
    (fun state => state.Single → state.Separate (Exchange.carrying sessionId source))
    (fun state label next holds stepped single =>
      (holds (single.of_step stepped)).step single rfl (by simp only [Exchange.carrying]; omega)
        stepped)
    _ final.exchange delivered (fun _ => Exchange.new_separate _ sendingUp receivingUp)
    deliveredRan single
  have agrees : entry.2.Agrees source := separate.sound.intact entry listed
  exact ⟨agrees, fun sameLength done memory present =>
    Exchange.eq_source_of_isDone agrees sameLength done present⟩

/-- A data packet with the one byte 7, created at 0 ms in session 1, under the key 0, 1, …, 31 and
the counter 0. -/
def sealedSeven : KnownAnswer (List UInt8) where
  key := (List.range 32).map UInt8.ofNat
  nonce := List.replicate 12 0
  associatedData := (Packet.data (DataPacket.new Options.none ⟨1⟩ ⟨1, 0, 0⟩ ⟨1⟩
    (BytePosition.ofNat 0) [7] ⟨0, Timestamp.zero_lt⟩)).headers
  plain := [7]
  cipher := [9, 0, 134, 61, 61, 163, 48, 201, 226, 163, 75, 226, 108, 69, 219, 88, 243]
  length_cipher := rfl
  tag_ne := by decide

def keyed : SealedExchange (List UInt8) where
  exchange := Exchange.new Exchange.free Exchange.free
  sending := Table.empty.insert ⟨1⟩ (EncryptionWindow.new sealedSeven.key)
  receiving := Table.empty.insert ⟨1⟩ (EncryptionWindow.new sealedSeven.key)
  window := FingerprintWindow.new
  sent := []

/-- The datagram of the packet arrives with one bit changed, as noise, and as it was sent. -/
def tampered : List SealedLabel :=
  let data := sealedSeven.associatedData ++ sealedSeven.cipher ++ List.replicate 8 0
  [.receiver (.streamingFrom (Buffer.ofBytes [0]) .default), .sender (.streamTo .default),
    .sender (.tick 0 Exchange.atStart), .data 0 0 ⟨[127, 0, 0, 1], 6969⟩,
    .datagram ⟨[10, 0, 0, 1], 80⟩ (data.set 30 8) ⟨0, Timestamp.zero_lt⟩ Exchange.atStart,
    .datagram ⟨[10, 0, 0, 1], 80⟩ [0, 1, 2] ⟨0, Timestamp.zero_lt⟩ Exchange.atStart,
    .datagram ⟨[10, 0, 0, 1], 80⟩ data ⟨0, Timestamp.zero_lt⟩ Exchange.atStart]

theorem attacked_stream_intact_tampered :
    let xxh3_128 := fun _ => (⟨List.replicate 16 0, rfl⟩ : PacketFingerprint)
    ∃ final, (machine sealedSeven.aead xxh3_128 (Exchange.carrying ⟨1⟩ [7])).run keyed tampered =
        some final ∧
      ∃ entry ∈ final.exchange.receiver.closed, entry.2.isDone = true ∧ entry.2.Agrees [7] ∧
        ∀ memory, entry.2.buffer.memory = some memory → memory = [7] := by
  intro xxh3_128
  have counts : ((machine sealedSeven.aead xxh3_128 (Exchange.carrying ⟨1⟩ [7])).run keyed
      tampered).map (fun final => (final.exchange.sender.streams, final.exchange.receiver.streams,
        final.exchange.sender.batches.length,
        final.exchange.receiver.closed.map fun entry => (entry.2.len, entry.2.isDone))) =
          some (1, 1, 1, [(1, true)]) := by
    decide +kernel
  obtain ⟨final, ran, counts⟩ := Option.map_eq_some_iff.mp counts
  simp only [Prod.mk.injEq] at counts
  obtain ⟨sent, received, batches, closed⟩ := counts
  obtain ⟨entry, listed, whole⟩ :=
    List.mem_map.mp (closed ▸ List.mem_singleton_self ((1, true) : Nat × Bool))
  obtain ⟨len, done⟩ := Prod.mk.inj whole
  have single : final.exchange.Single := ⟨sent.le, received.le, by rw [batches]; decide⟩
  have intact := (attacked_stream_intact sealedSeven.aead xxh3_128 (by decide)
    ⟨⟨Exchange.free, Exchange.free, rfl, rfl, rfl⟩, ⟨sealedSeven.key, rfl, rfl⟩, rfl⟩ ran
    (by decide +kernel)).2 single entry (Receiver.mem_buffers.mpr (Or.inr listed))
  exact ⟨final, ran, entry, listed, done, intact.1, intact.2 len done⟩

end SealedExchange

end Ubass

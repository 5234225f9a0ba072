import Ubass.Api.Head
import Ubass.Api.Writes
import Ubass.Exchange.SingleStream
import Ubass.Manager.Recovered

/-!
# Transfers that complete

Between its opening and its end the one stream of a receiver meets packets, the tasks of
the erasure code and seeks.  Every chunk that has arrived stays in the buffer, and the
handler that fills the last entry of the map tells the application.  So a stream of which
every chunk has arrived at least once is over, and the application has the source.
-/

set_option autoImplicit false

namespace Ubass

/-! ## Writing a chunk of the source -/

namespace WriteableBuffer

end WriteableBuffer

/-! ## The handlers on a stream that is being filled -/

namespace StreamState

variable {length : Nat} {stream : StreamState} {receiving : StreamingFrom}

end StreamState

namespace ConnectionStates

variable {length : Nat} {self : ConnectionStates}

/-- A change of the message that neither takes back the end nor lets the stream end early. -/
def Harmless (change : StreamMessage → StreamMessage) : Prop :=
  ∀ message : StreamMessage, (message.closed = true → (change message).closed = true) ∧
    (message.complete ≠ some true → (change message).complete ≠ some true)

end ConnectionStates

/-! ## The receiver -/

namespace Receiver

def Filled (index : Nat) (state : Receiver) : Prop :=
  ∀ entry ∈ state.buffers, entry.2.map[index]? = some true

/-- The application leaves the stream alone but for seeks, and its message gets no harmful
change. -/
def Undisturbed : ReceiverLabel → Prop
  | .closeStream => False
  | .updateMessage change => ConnectionStates.Harmless change
  | _ => True

end Receiver

/-! ## The sender -/

namespace Sender

/-- Before its stream is opened the sender has done nothing; afterwards its one loop keeps account
of every chunk. -/
def Covers (source : List UInt8) (state : Sender) : Prop :=
  state.streams = 0 ∧ state.loops = [] ∧ state.batches = [] ∧ state.session.Silent ∨
    0 < state.streams ∧ ∃ loop, state.loops = [loop] ∧
      SendRun.Accounted source ⟨state.session, loop, state.batches.flatMap Batch.packets⟩

end Sender

/-! ## Whole transfers -/

namespace Exchange

def Undisturbed : ExchangeLabel → Prop
  | .sender _ => True
  | .receiver label => Receiver.Undisturbed label

def Delivers (final : Exchange) (source : List UInt8) (labels : List ExchangeLabel)
    (index : Nat) : Prop :=
  ∃ batch pos clock packet, ExchangeLabel.receiver (.data batch pos clock) ∈ labels ∧
    final.sender.packet batch pos = some packet ∧
    (packet.byteRangeStart, packet.payload) = chunkAt source index

/-- The session is free again, or the application knows that the stream on it is over. -/
def Over (session : ConnectionStates) : Prop :=
  session.isFree = true ∨ ∃ established stream, session.openStream = some (established, stream) ∧
    stream.stream.closed = true

theorem run_batches {setup : Setup} {state final : Exchange} {labels : List ExchangeLabel}
    (ran : (machine setup).run state labels = some final) :
    ∃ more, final.sender.batches = state.sender.batches ++ more := by
  refine @Machine.run_preserves _ _ (machine setup)
    (fun later => ∃ more, later.sender.batches = state.sender.batches ++ more) ?_ state final
    labels ⟨[], (List.append_nil _).symm⟩ ran
  rintro later label next ⟨more, grown⟩ stepped
  cases label with
  | sender label =>
      obtain ⟨_, senderStepped, rfl⟩ := Option.map_eq_some_iff.mp stepped
      obtain ⟨added, batches⟩ := Sender.step_batches senderStepped
      exact ⟨more ++ added, by simp only [batches, grown, List.append_assoc]⟩
  | receiver label =>
      obtain ⟨_, _, rfl⟩ := Option.map_eq_some_iff.mp stepped
      exact ⟨more, grown⟩

theorem packet_of_run {setup : Setup} {state final : Exchange} {labels : List ExchangeLabel}
    (ran : (machine setup).run state labels = some final) {batch pos : Nat} {packet : DataPacket}
    (found : state.sender.packet batch pos = some packet) :
    final.sender.packet batch pos = some packet := by
  obtain ⟨entry, listed, placed⟩ := Option.bind_eq_some_iff.mp found
  rw [Sender.packet, Receiver.getElem?_extended (run_batches ran) listed, Option.bind_some, placed]

def twoChunks : List UInt8 := List.replicate 2000 7

end Exchange
end Ubass

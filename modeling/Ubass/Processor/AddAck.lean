import Ubass.Manager.Windows

/-!
# Packets that wait for an acknowledgement

`add_ack!` of `packet_processor/outbound.rs`.  A packet that requires an
acknowledgement is registered the first time it is sent.  What the window of
pending packets sends again is marked, and the mark is taken off before the
packet is serialized, so every transmission carries the same packet.
-/

set_option autoImplicit false

namespace Ubass

/-! ## Flags -/

namespace OptionFlags

theorem bits_ne_zero (flag : OptionFlags) : flag.bits ≠ 0 := by
  cases flag <;> decide

theorem bits_and_bits {flag other : OptionFlags} (different : flag ≠ other) :
    flag.bits &&& other.bits = 0 := by
  cases flag <;> cases other <;> first | exact absurd rfl different | decide

end OptionFlags

namespace Options

theorem or_and_distrib (left right mask : UInt16) :
    (left ||| right) &&& mask = (left &&& mask) ||| (right &&& mask) := by
  apply UInt16.toBitVec_inj.mp
  apply BitVec.eq_of_getLsbD_eq
  intro index _
  simp only [UInt16.toBitVec_and, UInt16.toBitVec_or, BitVec.getLsbD_and, BitVec.getLsbD_or,
    Bool.and_or_distrib_right]

theorem and_not_of_and_eq_zero {bits mask : UInt16} (apart : bits &&& mask = 0) :
    bits &&& ~~~mask = bits := by
  have zero := congrArg UInt16.toBitVec apart
  apply UInt16.toBitVec_inj.mp
  apply BitVec.eq_of_getLsbD_eq
  intro index inside
  have bit : (bits.toBitVec.getLsbD index && mask.toBitVec.getLsbD index) = false := by
    rw [← BitVec.getLsbD_and, ← UInt16.toBitVec_and, zero]
    exact BitVec.getLsbD_zero
  rw [UInt16.toBitVec_and, UInt16.toBitVec_not, BitVec.getLsbD_and, BitVec.getLsbD_not]
  cases first : bits.toBitVec.getLsbD index with
  | false => rfl
  | true =>
      rw [first, Bool.true_and] at bit
      rw [bit]
      simp [inside]

theorem contains_iff {self : Options} {flag : OptionFlags} :
    self.contains flag = true ↔ self.bits &&& flag.bits ≠ 0 := by
  rw [contains, decide_eq_true_iff]

@[simp] theorem contains_set_self (self : Options) (flag : OptionFlags) :
    (self.set flag).contains flag = true := by
  rw [contains_iff, set, or_and_distrib, UInt16.and_self]
  intro zero
  exact flag.bits_ne_zero (UInt16.or_eq_zero_iff.mp zero).2

theorem contains_set_of_ne (self : Options) {flag other : OptionFlags} (different : flag ≠ other) :
    (self.set flag).contains other = self.contains other := by
  rw [contains, contains, set, or_and_distrib, OptionFlags.bits_and_bits different, UInt16.or_zero]

theorem unset_set {self : Options} {flag : OptionFlags} (absent : self.contains flag = false) :
    (self.set flag).unset flag = self := by
  have apart : self.bits &&& flag.bits = 0 := by
    rw [contains, decide_eq_false_iff_not, not_not] at absent
    exact absent
  apply Options.ext
  rw [set, unset, or_and_distrib, UInt16.and_not_self, UInt16.or_zero, and_not_of_and_eq_zero apart]

/-! ## The macro -/

/-- `add_ack!`: the options with which the packet is sent, and whether it is registered. -/
def addAck (self : Options) : Options × Bool :=
  if self.contains .requireAck then
    if self.contains .resend then (self.unset .resend, false) else (self, true)
  else
    (self, false)

theorem addAck_registered {self : Options} :
    self.addAck.2 = true ↔
      self.contains .requireAck = true ∧ self.contains .resend = false := by
  rw [addAck]
  cases self.contains .requireAck <;> cases self.contains .resend <;> simp

theorem addAck_set_requireAck {self : Options} (fresh : self.contains .resend = false) :
    (self.set .requireAck).addAck.2 = true := by
  rw [addAck_registered]
  refine ⟨contains_set_self self .requireAck, ?_⟩
  rw [contains_set_of_ne _ (by decide), fresh]

theorem addAck_of_registered {self : Options} (registered : self.addAck.2 = true) :
    self.addAck.1 = self := by
  obtain ⟨requires, fresh⟩ := addAck_registered.mp registered
  rw [addAck, requires, fresh]
  rfl

theorem addAck_set_resend {self : Options} (registered : self.addAck.2 = true) :
    (self.set .resend).addAck = (self, false) := by
  obtain ⟨requires, fresh⟩ := addAck_registered.mp registered
  rw [addAck, contains_set_of_ne _ (by decide), requires, contains_set_self, unset_set fresh]
  rfl

end Options

namespace Packet

/-- The branches of `handle_packet` with `add_ack!` in them. -/
def addAck : Packet → Packet × Bool
  | data packet => (data { packet with opts := packet.opts.addAck.1 }, packet.opts.addAck.2)
  | trackRequest packet =>
      (trackRequest { packet with opts := packet.opts.addAck.1 }, packet.opts.addAck.2)
  | trackRejection packet =>
      (trackRejection { packet with opts := packet.opts.addAck.1 }, packet.opts.addAck.2)
  | retransmit packet =>
      (retransmit { packet with opts := packet.opts.addAck.1 }, packet.opts.addAck.2)
  | playbackControl packet =>
      (playbackControl { packet with opts := packet.opts.addAck.1 }, packet.opts.addAck.2)
  | other => (other, false)

/-- How often the transport sends what `handle_packet` hands it. -/
def duplicateCount : Packet → Nat
  | hello _ => 7
  | data _ => 1
  | parity _ => 1
  | metadata _ => 0
  | trackRequest _ | retransmit _ | playbackControl _ | unexpectedPacketError _
  | trackRejection _ | closeSession _ => 3

theorem addAck_of_registered {packet : Packet} (registered : packet.addAck.2 = true) :
    packet.addAck.1 = packet := by
  cases packet with
  | data packet => exact congrArg data (by rw [Options.addAck_of_registered registered])
  | trackRequest packet =>
      exact congrArg trackRequest (by rw [Options.addAck_of_registered registered])
  | trackRejection packet =>
      exact congrArg trackRejection (by rw [Options.addAck_of_registered registered])
  | retransmit packet => exact congrArg retransmit (by rw [Options.addAck_of_registered registered])
  | playbackControl packet =>
      exact congrArg playbackControl (by rw [Options.addAck_of_registered registered])
  | _ => cases registered

theorem addAck_markResend {packet : Packet} (registered : packet.addAck.2 = true) :
    packet.markResend.addAck = (packet, false) := by
  cases packet with
  | data packet => simp only [markResend, addAck, Options.addAck_set_resend registered]
  | trackRequest packet => simp only [markResend, addAck, Options.addAck_set_resend registered]
  | trackRejection packet => simp only [markResend, addAck, Options.addAck_set_resend registered]
  | retransmit packet => simp only [markResend, addAck, Options.addAck_set_resend registered]
  | playbackControl packet => simp only [markResend, addAck, Options.addAck_set_resend registered]
  | _ => cases registered

end Packet
end Ubass

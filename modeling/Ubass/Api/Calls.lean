import Ubass.Api.Completion

/-!
# Calls on a receive buffer

What the rest of the program does with a `WriteableBuffer`: packets are written to
it, and the application seeks.  `receiver` makes any calls in any order; a call
whose `u32` additions overflow stops a build with overflow checks.
-/

set_option autoImplicit false

namespace Ubass

def Buffer.null (len : Nat) : Buffer where
  len := len
  memory := none
  memory_length := nofun

attribute [ext] WriteableBuffer

/-- `write` for a packet that arrived, `seek_head` for the application. -/
inductive ReceiveCall where
  | write (position : BytePosition) (toWrite : List UInt8)
  | seek (position : BytePosition)

namespace WriteableBuffer

/-- The call of `advance_head` in `seek_head` overflows. -/
def seekOverflows (self : WriteableBuffer) (position : BytePosition) : Bool :=
  match self.positionToIndex position with
  | none => false
  | some index =>
      self.head.toNat < position.toNat &&
        { self with head := BytePosition.ofNat (index * maxPayloadLength) }.advanceOverflows

end WriteableBuffer

namespace ReceiveCall

def overflows (call : ReceiveCall) (buf : WriteableBuffer) : Bool :=
  match call with
  | write position toWrite => buf.writeOverflows position toWrite
  | seek position => buf.seekOverflows position

/-- The buffer after the call, and the bytes it wrote if it was an accepted write. -/
def apply (call : ReceiveCall) (buf : WriteableBuffer) : WriteableBuffer × Option Span :=
  match call with
  | write position toWrite =>
      let (next, result) := buf.write position toWrite
      (next, result.toOption)
  | seek position => ((buf.seekHead position).1, none)

end ReceiveCall

def receiver (profile : Profile) : Machine WriteableBuffer ReceiveCall where
  initial buf := ∃ buffer, buf = WriteableBuffer.new buffer
  step buf call :=
    if profile = .overflowChecks ∧ call.overflows buf = true then none
    else some (call.apply buf).1

namespace WriteableBuffer

theorem step_receiver_eq_some {profile : Profile} {buf next : WriteableBuffer} {call : ReceiveCall} :
    (receiver profile).step buf call = some next ↔
      ¬ (profile = .overflowChecks ∧ call.overflows buf = true) ∧ (call.apply buf).1 = next := by
  simp [receiver]

/-- What one call of `seek_head` can do.  A forward seek walks on from the start of the chunk it
leads to. -/
inductive SeekStep (self : WriteableBuffer) (position : BytePosition) :
    WriteableBuffer × Option Bool → Prop
  | outside (beyond : self.len < position.toNat) : SeekStep self position (self, none)
  | backward (inside : position.toNat ≤ self.len) (behind : position.toNat ≤ self.head.toNat) :
      SeekStep self position (self, some false)
  | forward (moved : WriteableBuffer) (inside : position.toNat ≤ self.len)
      (ahead : self.head.toNat < position.toNat)
      (buffer : moved.buffer = self.buffer) (map : moved.map = self.map)
      (invalidAreas : moved.invalidAreas = self.invalidAreas)
      (head : moved.head.toNat = position.toNat / maxPayloadLength * maxPayloadLength)
      (overflows : self.seekOverflows position = moved.advanceOverflows) :
      SeekStep self position (moved.advanceHead, some true)

theorem seekHead_step (self : WriteableBuffer) (position : BytePosition) :
    SeekStep self position (self.seekHead position) := by
  unfold seekHead
  by_cases inside : position.toNat ≤ self.len
  · have index : self.positionToIndex position = some (position.toNat / maxPayloadLength) :=
      positionToIndex_eq_some.mpr ⟨inside, rfl⟩
    rw [index]
    simp only
    split
    · rename_i ahead
      refine .forward _ inside ahead rfl rfl rfl (BytePosition.toNat_ofNat_of_lt ?_) ?_
      · exact (Nat.div_mul_le_self _ _).trans_lt position.lt
      · simp [seekOverflows, index, ahead]
    · rename_i behind
      exact .backward inside (Nat.le_of_not_lt behind)
  · have index : self.positionToIndex position = none := by
      rw [positionToIndex, if_pos (Nat.lt_of_not_le inside)]
    rw [index]
    exact .outside (Nat.lt_of_not_le inside)

@[simp] theorem advanceHead_invalidAreas (self : WriteableBuffer) :
    self.advanceHead.invalidAreas = self.invalidAreas := by
  unfold advanceHead
  split
  · rfl
  · simp only
    split <;> rfl

@[simp] theorem seekHead_buffer (self : WriteableBuffer) (position : BytePosition) :
    (self.seekHead position).1.buffer = self.buffer := by
  have stepped := seekHead_step self position
  generalize self.seekHead position = result at stepped ⊢
  cases stepped with
  | outside | backward => rfl
  | forward moved _ _ buffer => rw [advanceHead_buffer, buffer]

@[simp] theorem seekHead_map (self : WriteableBuffer) (position : BytePosition) :
    (self.seekHead position).1.map = self.map := by
  have stepped := seekHead_step self position
  generalize self.seekHead position = result at stepped ⊢
  cases stepped with
  | outside | backward => rfl
  | forward moved _ _ _ map => rw [advanceHead_map, map]

@[simp] theorem seekHead_invalidAreas (self : WriteableBuffer) (position : BytePosition) :
    (self.seekHead position).1.invalidAreas = self.invalidAreas := by
  have stepped := seekHead_step self position
  generalize self.seekHead position = result at stepped ⊢
  cases stepped with
  | outside | backward => rfl
  | forward moved _ _ _ _ invalidAreas => rw [advanceHead_invalidAreas, invalidAreas]

theorem filledRun_drop_eq_zero {self : WriteableBuffer} {index : Nat}
    (gap : self.map[index]? = some false) : filledRun (self.map.drop index) = 0 := by
  obtain ⟨below, entry⟩ := List.getElem?_eq_some_iff.mp gap
  rw [List.drop_eq_getElem_cons below, entry]
  rfl

theorem one_le_filledRun_drop {self : WriteableBuffer} {index : Nat}
    (filled : self.map[index]? = some true) : 1 ≤ filledRun (self.map.drop index) := by
  obtain ⟨below, entry⟩ := List.getElem?_eq_some_iff.mp filled
  rw [List.drop_eq_getElem_cons below, entry]
  exact Nat.le_add_left 1 _

def runEnd (self : WriteableBuffer) (index : Nat) : BytePosition :=
  let stop := index + filledRun (self.map.drop index)
  if stop = self.map.length then BytePosition.ofNat self.len
  else BytePosition.ofNat (stop * maxPayloadLength)

theorem seekHead_head (self : WriteableBuffer) (position : BytePosition) :
    (self.seekHead position).1.head =
      if self.len < position.toNat ∨ position.toNat ≤ self.head.toNat then self.head
      else self.runEnd (position.toNat / maxPayloadLength) := by
  have stepped := seekHead_step self position
  generalize self.seekHead position = result at stepped ⊢
  cases stepped with
  | outside beyond => rw [if_pos (Or.inl beyond)]
  | backward inside behind => rw [if_pos (Or.inr behind)]
  | forward moved inside ahead buffer map invalidAreas head =>
      have len : moved.len = self.len := by rw [WriteableBuffer.len, buffer, WriteableBuffer.len]
      have start : moved.head.toNat / maxPayloadLength = position.toNat / maxPayloadLength := by
        rw [head, Nat.mul_div_cancel _ maxPayloadLength_pos]
      have below : moved.head.toNat ≤ moved.len := by
        rw [head, len]
        exact (Nat.div_mul_le_self _ _).trans inside
      have far : moved.walkEnd =
          position.toNat / maxPayloadLength +
            filledRun (self.map.drop (position.toNat / maxPayloadLength)) := by
        rw [walkEnd, start, map]
      rw [if_neg (by omega), advanceHead_head below, far, start, head, len, map, runEnd,
        Nat.add_sub_cancel_left, ← Nat.add_mul]

/-- In a buffer of `u32` positions a seek leaves the head where it is only inside its chunk. -/
theorem runEnd_eq_head_iff {self : WriteableBuffer} (headInv : self.HeadInv)
    (small : self.len < 2 ^ 32) {position : BytePosition} (inside : position.toNat ≤ self.len)
    (ahead : self.head.toNat < position.toNat) :
    self.runEnd (position.toNat / maxPayloadLength) = self.head ↔
      position.toNat / maxPayloadLength = self.head.toNat / maxPayloadLength := by
  obtain ⟨aligned, gap⟩ := headInv.stops.resolve_left (by omega)
  have start : self.head.toNat / maxPayloadLength * maxPayloadLength = self.head.toNat :=
    Nat.div_mul_cancel aligned
  have bound := self.index_lt_map_length inside
  have length := self.map_length
  rw [show self.buffer.len = self.len from rfl] at length
  have run := filledRun_le (self.map.drop (position.toNat / maxPayloadLength))
  rw [List.length_drop] at run
  rw [runEnd]
  constructor
  · intro same
    split at same
    · have value := congrArg BytePosition.toNat same
      rw [BytePosition.toNat_ofNat_of_lt small] at value
      omega
    · rename_i before
      have value := congrArg BytePosition.toNat same
      have below : (position.toNat / maxPayloadLength +
          filledRun (self.map.drop (position.toNat / maxPayloadLength))) * maxPayloadLength ≤
            self.len :=
        (Nat.mul_le_mul_right _ (by omega)).trans (Nat.div_mul_le_self self.len maxPayloadLength)
      rw [BytePosition.toNat_ofNat_of_lt (by omega)] at value
      have ordered : self.head.toNat / maxPayloadLength ≤ position.toNat / maxPayloadLength :=
        Nat.div_le_div_right ahead.le
      rw [← start] at value
      have := Nat.eq_of_mul_eq_mul_right maxPayloadLength_pos value
      omega
  · intro same
    rw [same, filledRun_drop_eq_zero gap, Nat.add_zero, if_neg (by omega), start, BytePosition.ofNat_toNat]

/-! ## What stays as it is -/

theorem write_memory_eq_none (self : WriteableBuffer) (position : BytePosition)
    (toWrite : List UInt8) :
    (self.write position toWrite).1.buffer.memory = none ↔ self.buffer.memory = none := by
  have stepped := write_step self position toWrite
  generalize self.write position toWrite = result at stepped ⊢
  cases stepped with
  | rejected error _ => rfl
  | null _ _ _ buffer _ => rw [buffer]
  | written memory copied _ present _ _ _ bytes =>
      rw [advanceHead_buffer, bytes, present]
      simp

@[simp] theorem apply_len (buf : WriteableBuffer) (call : ReceiveCall) :
    (call.apply buf).1.len = buf.len := by
  cases call with
  | write position toWrite => exact buf.write_len position toWrite
  | seek position => exact congrArg Buffer.len (buf.seekHead_buffer position)

theorem apply_memory_eq_none (buf : WriteableBuffer) (call : ReceiveCall) :
    (call.apply buf).1.buffer.memory = none ↔ buf.buffer.memory = none := by
  cases call with
  | write position toWrite => exact buf.write_memory_eq_none position toWrite
  | seek position => rw [ReceiveCall.apply, buf.seekHead_buffer]

end WriteableBuffer
end Ubass

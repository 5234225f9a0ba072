import Ubass.Api.Calls

/-!
# The head of a receive buffer

The head moves by chunks, to the end when the walk has passed the last entry of the
map, and to the chunk of a forward seek.  As long as the end of the last entry is a
`u32` position, it never moves back and always stands at the end or at an unfilled
chunk.
-/

set_option autoImplicit false

namespace Ubass
namespace WriteableBuffer

theorem le_advanceHead {self : WriteableBuffer} (fits : self.len + maxPayloadLength < 2 ^ 32)
    (inside : self.head.toNat ≤ self.len) :
    self.head.toNat ≤ self.advanceHead.head.toNat := by
  rw [advanceHead_head inside]
  split
  · rw [BytePosition.toNat_ofNat_of_lt (by omega)]
    exact inside
  · rename_i notEnd
    have below := walkEnd_le inside
    rw [self.map_length] at below notEnd
    have chunks : self.walkEnd - self.head.toNat / maxPayloadLength ≤
        self.len / maxPayloadLength - self.head.toNat / maxPayloadLength := by
      rw [len]
      omega
    have moved := Nat.mul_le_mul_right maxPayloadLength chunks
    rw [Nat.sub_mul (self.len / maxPayloadLength)] at moved
    have lenFloor := Nat.div_mul_le_self self.len maxPayloadLength
    have headFloor := Nat.lt_div_mul_add maxPayloadLength_pos (a := self.head.toNat)
    rw [BytePosition.toNat_ofNat_of_lt (by omega)]
    omega

theorem advanceHead_of_headInv {self : WriteableBuffer} (headInv : self.HeadInv) :
    self.advanceHead = self := by
  have head := advanceHead_head headInv.inside
  have lenDef : self.len = self.buffer.len := rfl
  refine WriteableBuffer.ext (advanceHead_buffer self) ?_ (advanceHead_map self)
    (advanceHead_invalidAreas self)
  rcases headInv.stops with atEnd | ⟨_, gap⟩
  · rw [head]
    split
    · rw [← atEnd, BytePosition.ofNat_toNat]
    · rename_i notEnd
      have below := walkEnd_le headInv.inside
      have above : self.head.toNat / maxPayloadLength ≤ self.walkEnd := Nat.le_add_right _ _
      rw [self.map_length] at below notEnd
      rw [atEnd, lenDef] at above
      have same : self.walkEnd - self.head.toNat / maxPayloadLength = 0 := by
        rw [atEnd, lenDef]
        omega
      rw [same, Nat.zero_mul, Nat.add_zero, BytePosition.ofNat_toNat]
  · have bound := self.index_lt_map_length headInv.inside
    have still : self.walkEnd = self.head.toNat / maxPayloadLength := by
      rw [List.getElem?_eq_getElem bound] at gap
      rw [walkEnd, List.drop_eq_getElem_cons bound, Option.some.inj gap]
      rfl
    rw [head, still, if_neg (by omega), Nat.sub_self, Nat.zero_mul, Nat.add_zero,
      BytePosition.ofNat_toNat]

/-- The walk from a head at the end or at a chunk boundary stays below the end of the last entry. -/
theorem not_advanceOverflows {self : WriteableBuffer}
    (fits : self.len + maxPayloadLength < 2 ^ 32) (inside : self.head.toNat ≤ self.len)
    (stands : self.head.toNat = self.len ∨ maxPayloadLength ∣ self.head.toNat) :
    self.advanceOverflows = false := by
  have start : self.positionToIndex self.head = some (self.head.toNat / maxPayloadLength) :=
    positionToIndex_eq_some.mpr ⟨inside, rfl⟩
  rw [advanceOverflows, start]
  simp only
  rw [advanceLoopOverflows_eq, decide_eq_false_iff_not]
  have run := filledRun_le (self.map.drop (self.head.toNat / maxPayloadLength))
  rw [List.length_drop, self.map_length, ← len] at run
  have moved := Nat.mul_le_mul_right maxPayloadLength run
  rw [Nat.sub_mul, Nat.add_mul, Nat.one_mul] at moved
  have lenFloor := Nat.div_mul_le_self self.len maxPayloadLength
  rcases stands with atEnd | aligned
  · rw [atEnd] at moved ⊢
    omega
  · have exact := Nat.div_mul_cancel aligned
    omega

/-- What is known about the buffer of a receiver between two calls. -/
structure Receiving (buf : WriteableBuffer) : Prop where
  present : buf.buffer.memory ≠ none
  fits : buf.len + maxPayloadLength < 2 ^ 32
  headInv : buf.HeadInv

theorem new_receiving {buffer : Buffer} (present : buffer.memory ≠ none)
    (fits : buffer.len + maxPayloadLength < 2 ^ 32) : (new buffer).Receiving :=
  ⟨present, fits, new_headInv buffer⟩

theorem advance_settles {self moved : WriteableBuffer} (receiving : self.Receiving)
    (len : moved.len = self.len) (inside : moved.head.toNat ≤ self.len)
    (stands : moved.head.toNat = self.len ∨ maxPayloadLength ∣ moved.head.toNat)
    (forward : self.head.toNat ≤ moved.head.toNat) :
    moved.advanceOverflows = false ∧ moved.advanceHead.HeadInv ∧
      self.head.toNat ≤ moved.advanceHead.head.toNat := by
  have fits := receiving.fits
  rw [← len] at fits inside stands
  exact ⟨not_advanceOverflows fits inside stands,
    advanceHead_headInv (by omega) inside stands,
    forward.trans (le_advanceHead fits inside)⟩

theorem write_receiving {self : WriteableBuffer} (receiving : self.Receiving)
    (position : BytePosition) (toWrite : List UInt8) :
    self.writeOverflows position toWrite = false ∧ (self.write position toWrite).1.HeadInv ∧
      self.head.toNat ≤ (self.write position toWrite).1.head.toNat := by
  have stepped := write_step self position toWrite
  generalize self.write position toWrite = result at stepped ⊢
  cases stepped with
  | rejected error rejects => exact ⟨by simp [writeOverflows, rejects], receiving.headInv, le_rfl⟩
  | null _ missing => exact absurd missing receiving.present
  | written memory copied _ _ _ len head _ overflows =>
      rw [overflows]
      exact advance_settles receiving len (head ▸ receiving.headInv.inside)
        (head ▸ receiving.headInv.stops.imp_right And.left) (le_of_eq (by rw [head]))

theorem seekHead_receiving {self : WriteableBuffer} (receiving : self.Receiving)
    (position : BytePosition) :
    self.seekOverflows position = false ∧ (self.seekHead position).1.HeadInv ∧
      self.head.toNat ≤ (self.seekHead position).1.head.toNat := by
  have stepped := seekHead_step self position
  generalize self.seekHead position = result at stepped ⊢
  cases stepped with
  | outside beyond =>
      have index : self.positionToIndex position = none := by rw [positionToIndex, if_pos beyond]
      exact ⟨by simp [seekOverflows, index], receiving.headInv, le_rfl⟩
  | backward inside behind =>
      have index := positionToIndex_eq_some.mpr ⟨inside, rfl⟩
      exact ⟨by simp [seekOverflows, index, Nat.not_lt_of_le behind], receiving.headInv, le_rfl⟩
  | forward moved inside ahead buffer map _ head overflows =>
      have floor := Nat.div_mul_le_self position.toNat maxPayloadLength
      rw [overflows]
      refine advance_settles receiving (congrArg Buffer.len buffer) (by omega)
        (Or.inr (head ▸ Nat.dvd_mul_left _ _)) ?_
      -- the head stood at a chunk boundary, so aligning the position down does not pass it
      rcases receiving.headInv.stops with atEnd | ⟨aligned, _⟩
      · omega
      · have boundary := Nat.div_mul_cancel aligned
        have chunks := Nat.mul_le_mul_right maxPayloadLength
          (Nat.div_le_div_right ahead.le (c := maxPayloadLength))
        omega

theorem apply_receiving {self : WriteableBuffer} (receiving : self.Receiving) (call : ReceiveCall) :
    call.overflows self = false ∧ (call.apply self).1.Receiving ∧
      self.head.toNat ≤ (call.apply self).1.head.toNat := by
  have kept : (call.apply self).1.HeadInv → (call.apply self).1.Receiving := by
    intro headInv
    refine ⟨?_, ?_, headInv⟩
    · rw [ne_eq, apply_memory_eq_none]
      exact receiving.present
    · rw [apply_len]
      exact receiving.fits
  cases call with
  | write position toWrite =>
      obtain ⟨runs, headInv, forward⟩ := write_receiving receiving position toWrite
      exact ⟨runs, kept headInv, forward⟩
  | seek position =>
      obtain ⟨runs, headInv, forward⟩ := seekHead_receiving receiving position
      exact ⟨runs, kept headInv, forward⟩

/-- In either profile, after any calls on a buffer that is not null. -/
theorem head_of_receiver (profile : Profile) {buffer : Buffer} (present : buffer.memory ≠ none)
    (fits : buffer.len + maxPayloadLength < 2 ^ 32) (calls : List ReceiveCall) :
    ∃ buf, (receiver profile).run (new buffer) calls = some buf ∧
      (receiver profile).StepsMeet (fun before after => before.head.toNat ≤ after.head.toNat)
        (new buffer) calls ∧
      buf.head.toNat ≤ buf.len ∧
      (maxPayloadLength ∣ buf.head.toNat ∨ buf.head.toNat = buf.len) ∧
      (buf.head.toNat = buf.len ∨ buf.positionOccupied buf.head = some false) ∧
      buf.advanceHead = buf := by
  have start := new_receiving present fits
  have enabled : ∀ (state : WriteableBuffer) (call : ReceiveCall), state.Receiving →
      ∃ next, (receiver profile).step state call = some next ∧ next.Receiving ∧
        state.head.toNat ≤ next.head.toNat := by
    intro state call receiving
    obtain ⟨runs, kept, forward⟩ := apply_receiving receiving call
    refine ⟨_, step_receiver_eq_some.mpr ⟨?_, rfl⟩, kept, forward⟩
    intro panics
    rw [runs] at panics
    cases panics.2
  obtain ⟨buf, ran, receiving, forward⟩ := (receiver profile).total_run enabled start calls
  have headInv := receiving.headInv
  refine ⟨buf, ran, forward, headInv.inside, ?_, ?_, advanceHead_of_headInv headInv⟩
  · exact headInv.stops.symm.imp_left And.left
  · refine headInv.stops.imp_right ?_
    intro gap
    exact positionOccupied_eq_some.mpr ⟨headInv.inside, gap.2⟩

/-- A seek into the last chunk, and the chunk written before it. -/
theorem head_of_receiver_seek :
    ∃ buf, (receiver .overflowChecks).run (new (Buffer.ofBytes [0, 0, 0]))
        [.seek (BytePosition.ofNat 2), .write (BytePosition.ofNat 0) [7, 8, 9]] = some buf ∧
      (receiver .overflowChecks).StepsMeet
        (fun before after => before.head.toNat ≤ after.head.toNat)
        (new (Buffer.ofBytes [0, 0, 0]))
        [.seek (BytePosition.ofNat 2), .write (BytePosition.ofNat 0) [7, 8, 9]] ∧
      buf.head.toNat ≤ buf.len ∧
      (maxPayloadLength ∣ buf.head.toNat ∨ buf.head.toNat = buf.len) ∧
      (buf.head.toNat = buf.len ∨ buf.positionOccupied buf.head = some false) ∧
      buf.advanceHead = buf :=
  head_of_receiver .overflowChecks (by decide) (by decide) _

end WriteableBuffer
end Ubass

import Ubass.Api.Calls

/-!
# What a write changes

`write` accepts by the chunk its position falls into, and copies to the position
itself.  It fills a whole chunk exactly when the position is the start of the chunk
and a payload for the last chunk reaches the end of the buffer.  On a null pointer
it has already occupied the chunk when it fails.
-/

set_option autoImplicit false

namespace Ubass

/-- The buffer of a receiver, and the bytes that accepted writes have written. -/
structure Recorded where
  buf : WriteableBuffer
  spans : List Span

namespace Recorded

def new (buffer : Buffer) : Recorded := ⟨WriteableBuffer.new buffer, []⟩

def Written (state : Recorded) (offset : Nat) : Prop :=
  ∃ span ∈ state.spans, span.start ≤ offset ∧ offset < span.stop

end Recorded

def recorder (profile : Profile) : Machine Recorded ReceiveCall where
  initial state := ∃ buffer, state = Recorded.new buffer
  step state call :=
    ((receiver profile).step state.buf call).map fun next =>
      ⟨next, (call.apply state.buf).2.toList ++ state.spans⟩

namespace WriteableBuffer

def byteAt (self : WriteableBuffer) (offset : Nat) : Option UInt8 :=
  self.buffer.memory.bind fun memory => memory[offset]?

def InChunk (self : WriteableBuffer) (index offset : Nat) : Prop :=
  index * maxPayloadLength ≤ offset ∧ offset < min ((index + 1) * maxPayloadLength) self.len

/-- The position is in range, its chunk is unoccupied, and the payload has the size of a chunk or
is for the last one. -/
def Accepts (self : WriteableBuffer) (position : BytePosition) (toWrite : List UInt8) : Prop :=
  position.toNat + toWrite.length ≤ self.len ∧
    self.map[position.toNat / maxPayloadLength]? = some false ∧
    (toWrite.length = maxPayloadLength ∨
      position.toNat / maxPayloadLength = self.len / maxPayloadLength)

end WriteableBuffer

/-- A write that passes the checks brings the whole of a chunk, to memory that is there. -/
def ReceiveCall.Whole (buf : WriteableBuffer) : ReceiveCall → Prop
  | seek _ => True
  | write position toWrite =>
      buf.Accepts position toWrite →
        maxPayloadLength ∣ position.toNat ∧
          (toWrite.length = maxPayloadLength ∨ position.toNat + toWrite.length = buf.len) ∧
          (buf.buffer.memory ≠ none ∨ toWrite = [])

/-- One call changes bytes of at most one chunk, which was unoccupied, and a chunk that becomes
occupied has all of its bytes written by this call. -/
structure WholeChunk (before after : Recorded) : Prop where
  changes : (∀ offset, after.buf.byteAt offset = before.buf.byteAt offset) ∨
    ∃ index, before.buf.map[index]? = some false ∧
      ∀ offset, ¬ before.buf.InChunk index offset →
        after.buf.byteAt offset = before.buf.byteAt offset
  fills : ∀ index, before.buf.map[index]? = some false → after.buf.map[index]? = some true →
    ∀ offset, before.buf.InChunk index offset →
      ∃ span, after.spans = span :: before.spans ∧ span.start ≤ offset ∧ offset < span.stop

def KeepsOccupied (before after : Recorded) : Prop :=
  ∀ index, before.buf.map[index]? = some true →
    after.buf.map[index]? = some true ∧
      ∀ offset, before.buf.InChunk index offset →
        after.buf.byteAt offset = before.buf.byteAt offset

namespace WriteableBuffer

theorem writeRejects_eq_none_iff_accepts {self : WriteableBuffer} {position : BytePosition}
    {toWrite : List UInt8} :
    self.writeRejects position toWrite = none ↔ self.Accepts position toWrite :=
  writeRejects_eq_none

/-- What one recorded call does to the map, the memory and the record. -/
inductive RecordStep (state : Recorded) (call : ReceiveCall) : Recorded → Prop
  | unchanged (next : Recorded) (whole : call.Whole state.buf) (map : next.buf.map = state.buf.map)
      (buffer : next.buf.buffer = state.buf.buffer) (spans : next.spans = state.spans) :
      RecordStep state call next
  | marked (position : BytePosition) (toWrite : List UInt8) (next : Recorded)
      (isWrite : call = .write position toWrite) (accepts : state.buf.Accepts position toWrite)
      (missing : state.buf.buffer.memory = none)
      (map : next.buf.map = state.buf.map.set (position.toNat / maxPayloadLength) true)
      (buffer : next.buf.buffer = state.buf.buffer) (spans : next.spans = state.spans) :
      RecordStep state call next
  | written (position : BytePosition) (toWrite memory : List UInt8) (next : Recorded)
      (isWrite : call = .write position toWrite) (accepts : state.buf.Accepts position toWrite)
      (present : state.buf.buffer.memory = some memory)
      (map : next.buf.map = state.buf.map.set (position.toNat / maxPayloadLength) true)
      (bytes : next.buf.buffer.memory = some (Bytes.overwrite memory position.toNat toWrite))
      (spans : next.spans =
        ⟨position.toNat, position.toNat + toWrite.length⟩ :: state.spans) :
      RecordStep state call next

theorem recorder_step {profile : Profile} {state next : Recorded} {call : ReceiveCall}
    (stepped : (recorder profile).step state call = some next) :
    RecordStep state call next ∧ next.buf = (call.apply state.buf).1 := by
  obtain ⟨buf, received, rfl⟩ := Option.map_eq_some_iff.mp stepped
  obtain ⟨_, rfl⟩ := step_receiver_eq_some.mp received
  refine ⟨?_, rfl⟩
  cases call with
  | seek position => exact .unchanged _ trivial (seekHead_map _ _) (seekHead_buffer _ _) rfl
  | write position toWrite =>
      have written := write_step state.buf position toWrite
      simp only [ReceiveCall.apply]
      generalize state.buf.write position toWrite = result at written ⊢
      cases written with
      | rejected error rejects =>
          refine .unchanged _ ?_ rfl rfl rfl
          intro accepts
          rw [writeRejects_eq_none_iff_accepts.mpr accepts] at rejects
          cases rejects
      | null accepts missing map buffer =>
          exact .marked position toWrite _ rfl (writeRejects_eq_none_iff_accepts.mp accepts) missing
            map buffer rfl
      | written memory copied accepts present map _ _ bytes =>
          refine .written position toWrite memory _ rfl
            (writeRejects_eq_none_iff_accepts.mp accepts) present ?_ ?_ rfl
          · rw [advanceHead_map, map]
          · rw [advanceHead_buffer, bytes]

/-- The entry that a write marks is the only one that becomes `true`. -/
theorem eq_of_newly_filled {map : List Bool} {marked index : Nat} (before : map[index]? = some false)
    (after : (map.set marked true)[index]? = some true) : index = marked := by
  by_contra different
  rw [List.getElem?_set_ne (Ne.symm different), before] at after
  cases after

theorem filled_set {map : List Bool} {marked index : Nat} (before : map[index]? = some true) :
    (map.set marked true)[index]? = some true := by
  by_cases same : index = marked
  · subst same
    exact List.getElem?_set_self (List.getElem?_eq_some_iff.mp before).1
  · rw [List.getElem?_set_ne (Ne.symm same), before]

theorem whole_of_no_byte {self : WriteableBuffer} {position : BytePosition} {toWrite : List UInt8}
    (accepts : self.Accepts position toWrite)
    (empty : ∀ offset, ¬ self.InChunk (position.toNat / maxPayloadLength) offset) :
    maxPayloadLength ∣ position.toNat ∧ position.toNat = self.len ∧ toWrite = [] := by
  have fits := accepts.1
  have floor := Nat.div_mul_le_self position.toNat maxPayloadLength
  have next := Nat.lt_div_mul_add maxPayloadLength_pos (a := position.toNat)
  have first := empty (position.toNat / maxPayloadLength * maxPayloadLength)
  rw [InChunk, Nat.add_mul, Nat.one_mul] at first
  have exact : position.toNat / maxPayloadLength * maxPayloadLength = position.toNat := by omega
  refine ⟨Nat.dvd_of_mod_eq_zero ?_, by omega, List.eq_nil_of_length_eq_zero (by omega)⟩
  have division := Nat.div_add_mod' position.toNat maxPayloadLength
  omega

theorem whole_of_covered {self : WriteableBuffer} {position : BytePosition} {toWrite : List UInt8}
    (accepts : self.Accepts position toWrite)
    (covered : ∀ offset, self.InChunk (position.toNat / maxPayloadLength) offset →
      position.toNat ≤ offset ∧ offset < position.toNat + toWrite.length) :
    maxPayloadLength ∣ position.toNat ∧
      (toWrite.length = maxPayloadLength ∨ position.toNat + toWrite.length = self.len) := by
  obtain ⟨fits, _, size⟩ := accepts
  have floor := Nat.div_mul_le_self position.toNat maxPayloadLength
  have next := Nat.lt_div_mul_add maxPayloadLength_pos (a := position.toNat)
  have first := covered (position.toNat / maxPayloadLength * maxPayloadLength)
  have last := covered
    (min ((position.toNat / maxPayloadLength + 1) * maxPayloadLength) self.len - 1)
  rw [InChunk, Nat.add_mul, Nat.one_mul] at first last
  have positive := maxPayloadLength_pos
  have exact : position.toNat / maxPayloadLength * maxPayloadLength = position.toNat := by omega
  refine ⟨Nat.dvd_of_mod_eq_zero ?_, ?_⟩
  · have division := Nat.div_add_mod' position.toNat maxPayloadLength
    omega
  · rcases size with full | atLast
    · exact Or.inl full
    · have beyond := Nat.lt_div_mul_add maxPayloadLength_pos (a := self.len)
      rw [← atLast] at beyond
      exact Or.inr (by omega)

theorem inChunk_of_whole {self : WriteableBuffer} {position : BytePosition} {toWrite : List UInt8}
    (accepts : self.Accepts position toWrite) (aligned : maxPayloadLength ∣ position.toNat)
    (whole : toWrite.length = maxPayloadLength ∨ position.toNat + toWrite.length = self.len)
    (offset : Nat) :
    self.InChunk (position.toNat / maxPayloadLength) offset ↔
      position.toNat ≤ offset ∧ offset < position.toNat + toWrite.length := by
  obtain ⟨fits, _, size⟩ := accepts
  have exact := Nat.div_mul_cancel aligned
  rw [InChunk, Nat.add_mul, Nat.one_mul, exact]
  rcases size with full | atLast
  · omega
  · have beyond := Nat.lt_div_mul_add maxPayloadLength_pos (a := self.len)
    rw [← atLast] at beyond
    omega

theorem filled_of_accepts {before after : WriteableBuffer} {position : BytePosition}
    {toWrite : List UInt8} (accepts : before.Accepts position toWrite)
    (map : after.map = before.map.set (position.toNat / maxPayloadLength) true) :
    after.map[position.toNat / maxPayloadLength]? = some true := by
  have bound := (List.getElem?_eq_some_iff.mp accepts.2.1).1
  rw [map, List.getElem?_set_self bound]

theorem wholeChunk_iff_of_marked {state next : Recorded} {position : BytePosition}
    {toWrite : List UInt8} (accepts : state.buf.Accepts position toWrite)
    (missing : state.buf.buffer.memory = none)
    (map : next.buf.map = state.buf.map.set (position.toNat / maxPayloadLength) true)
    (buffer : next.buf.buffer = state.buf.buffer) (spans : next.spans = state.spans) :
    WholeChunk state next ↔ (ReceiveCall.write position toWrite).Whole state.buf := by
  have bytes : ∀ offset, next.buf.byteAt offset = state.buf.byteAt offset := by
    intro offset
    rw [byteAt, byteAt, buffer]
  constructor
  · intro law _
    have nothing : ∀ offset,
        ¬ state.buf.InChunk (position.toNat / maxPayloadLength) offset := by
      intro offset inChunk
      obtain ⟨span, grown, _⟩ :=
        law.fills _ accepts.2.1 (filled_of_accepts accepts map) offset inChunk
      rw [spans] at grown
      exact List.cons_ne_self _ _ grown.symm
    obtain ⟨aligned, atEnd, empty⟩ := whole_of_no_byte accepts nothing
    exact ⟨aligned, Or.inr (by simp [empty, atEnd]), Or.inr empty⟩
  · intro whole
    obtain ⟨aligned, size, memory⟩ := whole accepts
    have empty := memory.resolve_left (not_not.mpr missing)
    refine ⟨Or.inl bytes, ?_⟩
    intro index before after offset inChunk
    rw [map] at after
    rw [eq_of_newly_filled before after, inChunk_of_whole accepts aligned size, empty] at inChunk
    simp only [List.length_nil] at inChunk
    omega

theorem wholeChunk_iff_of_written {state next : Recorded} {position : BytePosition}
    {toWrite memory : List UInt8} (accepts : state.buf.Accepts position toWrite)
    (present : state.buf.buffer.memory = some memory)
    (map : next.buf.map = state.buf.map.set (position.toNat / maxPayloadLength) true)
    (bytes : next.buf.buffer.memory = some (Bytes.overwrite memory position.toNat toWrite))
    (spans : next.spans = ⟨position.toNat, position.toNat + toWrite.length⟩ :: state.spans) :
    WholeChunk state next ↔ (ReceiveCall.write position toWrite).Whole state.buf := by
  constructor
  · intro law _
    have covered : ∀ offset, state.buf.InChunk (position.toNat / maxPayloadLength) offset →
        position.toNat ≤ offset ∧ offset < position.toNat + toWrite.length := by
      intro offset inChunk
      obtain ⟨span, grown, within⟩ :=
        law.fills _ accepts.2.1 (filled_of_accepts accepts map) offset inChunk
      rw [spans] at grown
      cases grown
      exact within
    obtain ⟨aligned, size⟩ := whole_of_covered accepts covered
    exact ⟨aligned, size, Or.inl (by rw [present]; exact Option.some_ne_none _)⟩
  · intro whole
    obtain ⟨aligned, size, _⟩ := whole accepts
    have chunk := inChunk_of_whole accepts aligned size
    refine ⟨Or.inr ⟨_, accepts.2.1, ?_⟩, ?_⟩
    · intro offset outside
      rw [chunk] at outside
      have length := state.buf.buffer.memory_length memory present
      have fits := accepts.1
      rw [len] at fits
      rw [byteAt, byteAt, bytes, present, Option.bind_some, Option.bind_some,
        Bytes.getElem?_overwrite_outside (by omega) (by omega)]
    · intro index before after offset inChunk
      rw [map] at after
      rw [eq_of_newly_filled before after, chunk] at inChunk
      exact ⟨_, spans, inChunk⟩

theorem wholeChunk_iff_whole {profile : Profile} {state next : Recorded} {call : ReceiveCall}
    (stepped : (recorder profile).step state call = some next) :
    WholeChunk state next ↔ call.Whole state.buf := by
  obtain ⟨step, _⟩ := recorder_step stepped
  cases step with
  | unchanged next whole map buffer spans =>
      refine iff_of_true ⟨Or.inl ?_, ?_⟩ whole
      · intro offset
        rw [byteAt, byteAt, buffer]
      · intro index before after
        rw [map, before] at after
        cases after
  | marked position toWrite next isWrite accepts missing map buffer spans =>
      subst isWrite
      exact wholeChunk_iff_of_marked accepts missing map buffer spans
  | written position toWrite memory next isWrite accepts present map bytes spans =>
      subst isWrite
      exact wholeChunk_iff_of_written accepts present map bytes spans

/-! ## Runs of whole chunks -/

/-- In a state that whole chunks have led to, every byte of an occupied chunk is written, and the
head is settled when there is memory. -/
structure Filled (state : Recorded) : Prop where
  bytes : ∀ index, state.buf.map[index]? = some true →
    ∀ offset, state.buf.InChunk index offset → state.Written offset

theorem new_filled (buffer : Buffer) : Filled (Recorded.new buffer) where
  bytes index filled := by
    cases (List.mem_replicate.mp (List.mem_of_getElem? filled)).2

theorem inChunk_of_len {before after : WriteableBuffer} (len : after.len = before.len)
    (index offset : Nat) : after.InChunk index offset ↔ before.InChunk index offset := by
  rw [InChunk, InChunk, len]

theorem InChunk.unique {self : WriteableBuffer} {left right offset : Nat}
    (inLeft : self.InChunk left offset) (inRight : self.InChunk right offset) : left = right := by
  rw [InChunk, Nat.add_mul, Nat.one_mul] at inLeft inRight
  rcases Nat.lt_trichotomy left right with less | same | greater
  · have apart := Nat.mul_le_mul_right maxPayloadLength (Nat.succ_le_of_lt less)
    rw [Nat.succ_mul] at apart
    omega
  · exact same
  · have apart := Nat.mul_le_mul_right maxPayloadLength (Nat.succ_le_of_lt greater)
    rw [Nat.succ_mul] at apart
    omega

section Step

variable {profile : Profile} {state next : Recorded} {call : ReceiveCall}
  (stepped : (recorder profile).step state call = some next)
include stepped

theorem len_of_recorder : next.buf.len = state.buf.len := by
  rw [(recorder_step stepped).2, apply_len]

theorem written_of_recorder {offset : Nat} (written : state.Written offset) :
    next.Written offset := by
  obtain ⟨span, listed, within⟩ := written
  refine ⟨span, ?_, within⟩
  cases (recorder_step stepped).1 with
  | unchanged _ _ _ _ spans | marked _ _ _ _ _ _ _ _ spans => rw [spans]; exact listed
  | written _ _ _ _ _ _ _ _ _ spans => rw [spans]; exact List.mem_cons_of_mem _ listed

theorem filled_of_recorder {index : Nat} (before : state.buf.map[index]? = some true) :
    next.buf.map[index]? = some true := by
  cases (recorder_step stepped).1 with
  | unchanged _ _ map => rw [map]; exact before
  | marked _ _ _ _ _ _ map => rw [map]; exact filled_set before
  | written _ _ _ _ _ _ _ map => rw [map]; exact filled_set before

theorem filled_of_wholeChunk (filled : Filled state) (law : WholeChunk state next) :
    Filled next := by
  have len := len_of_recorder stepped
  constructor
  intro index after offset inChunk
  rw [inChunk_of_len len] at inChunk
  cases before : state.buf.map[index]? with
  | none =>
      have bound := (List.getElem?_eq_some_iff.mp after).1
      rw [List.getElem?_eq_none_iff, state.buf.map_length, ← WriteableBuffer.len, ← len] at before
      rw [next.buf.map_length] at bound
      exact absurd bound (Nat.not_lt_of_le before)
  | some entry =>
      cases entry with
      | true => exact written_of_recorder stepped (filled.bytes index before offset inChunk)
      | false =>
          obtain ⟨span, grown, within⟩ := law.fills index before after offset inChunk
          exact ⟨span, by simp [grown], within⟩

theorem keepsOccupied_of_wholeChunk (law : WholeChunk state next) : KeepsOccupied state next := by
  intro index before
  refine ⟨filled_of_recorder stepped before, ?_⟩
  intro offset inChunk
  rcases law.changes with same | ⟨other, unfilled, outside⟩
  · exact same offset
  · refine outside offset ?_
    intro inOther
    rw [InChunk.unique inOther inChunk, before] at unfilled
    cases unfilled

end Step

theorem written_of_isDone {state : Recorded} (filled : Filled state)
    (done : state.buf.isDone = true) {offset : Nat} (inside : offset < state.buf.len) :
    state.Written offset := by
  have full : ∀ entry ∈ state.buf.map, entry = true := by
    simp only [isDone, Bool.and_eq_true, List.all_eq_true, id] at done
    exact done.2
  have bound := state.buf.index_lt_map_length inside.le
  refine filled.bytes (offset / maxPayloadLength) ?_ offset ?_
  · rw [List.getElem?_eq_getElem bound, full _ (List.getElem_mem bound)]
  · have floor := Nat.div_mul_le_self offset maxPayloadLength
    have next := Nat.lt_div_mul_add maxPayloadLength_pos (a := offset)
    rw [InChunk, Nat.add_mul, Nat.one_mul]
    omega

/-- The calls of a run fill whole chunks exactly when each write that passes the checks brings the
whole of a chunk.  Then occupied chunks never change, and a buffer that is done was written
throughout. -/
theorem writes_fill_whole_chunks {profile : Profile} {buffer : Buffer} {calls : List ReceiveCall}
    {final : Recorded} (ran : (recorder profile).run (Recorded.new buffer) calls = some final) :
    ((recorder profile).StepsMeet WholeChunk (Recorded.new buffer) calls ↔
        (recorder profile).Guarded (fun state call => call.Whole state.buf)
          (Recorded.new buffer) calls) ∧
      ((recorder profile).Guarded (fun state call => call.Whole state.buf)
          (Recorded.new buffer) calls →
        (recorder profile).StepsMeet KeepsOccupied (Recorded.new buffer) calls ∧
          (final.buf.isDone = true → ∀ offset < final.buf.len, final.Written offset)) := by
  have exactStep : ∀ (state : Recorded) (call : ReceiveCall) (next : Recorded),
      (recorder profile).step state call = some next →
        (WholeChunk state next ↔ call.Whole state.buf) := by
    intro state call next stepped
    exact wholeChunk_iff_whole stepped
  refine ⟨(recorder profile).stepsMeet_iff_guarded exactStep ran, ?_⟩
  intro guarded
  have lawful : ∀ (state : Recorded) (call : ReceiveCall) (next : Recorded), Filled state →
      call.Whole state.buf → (recorder profile).step state call = some next →
        Filled next ∧ KeepsOccupied state next := by
    intro state call next filled whole stepped
    have law := (wholeChunk_iff_whole stepped).mpr whole
    exact ⟨filled_of_wholeChunk stepped filled law, keepsOccupied_of_wholeChunk stepped law⟩
  refine ⟨(recorder profile).stepsMeet_of_guarded lawful (new_filled buffer) guarded, ?_⟩
  intro done offset inside
  have filled : Filled final := (recorder profile).guarded_run_preserves
    (fun state call next filled whole stepped => (lawful state call next filled whole stepped).1)
    (new_filled buffer) guarded ran
  exact written_of_isDone filled done inside

/-- The only chunk of three bytes, written as a whole. -/
theorem writes_fill_whole_chunks_three :
    ∃ final, (recorder .overflowChecks).run (Recorded.new (Buffer.ofBytes [0, 0, 0]))
        [.write (BytePosition.ofNat 0) [7, 8, 9]] = some final ∧
      ((recorder .overflowChecks).StepsMeet WholeChunk (Recorded.new (Buffer.ofBytes [0, 0, 0]))
          [.write (BytePosition.ofNat 0) [7, 8, 9]] ↔
        (recorder .overflowChecks).Guarded (fun state call => call.Whole state.buf)
          (Recorded.new (Buffer.ofBytes [0, 0, 0])) [.write (BytePosition.ofNat 0) [7, 8, 9]]) ∧
      ((recorder .overflowChecks).Guarded (fun state call => call.Whole state.buf)
          (Recorded.new (Buffer.ofBytes [0, 0, 0])) [.write (BytePosition.ofNat 0) [7, 8, 9]] →
        (recorder .overflowChecks).StepsMeet KeepsOccupied
            (Recorded.new (Buffer.ofBytes [0, 0, 0])) [.write (BytePosition.ofNat 0) [7, 8, 9]] ∧
          (final.buf.isDone = true → ∀ offset < final.buf.len, final.Written offset)) :=
  ⟨_, rfl, writes_fill_whole_chunks rfl⟩

/-- A payload shorter than the only chunk is accepted, and the buffer is done. -/
theorem short_payload_accepted :
    ∃ final, (recorder .release).run (Recorded.new (Buffer.ofBytes [0, 0, 0]))
        [.write (BytePosition.ofNat 0) [7]] = some final ∧
      final.buf.isDone = true ∧ ¬ final.Written 2 ∧
      ¬ (recorder .release).StepsMeet WholeChunk (Recorded.new (Buffer.ofBytes [0, 0, 0]))
        [.write (BytePosition.ofNat 0) [7]] := by
  refine ⟨_, rfl, by decide, ?_, ?_⟩
  · rintro ⟨span, listed, within⟩
    cases List.mem_singleton.mp listed
    exact absurd within.2 (by decide)
  · intro meets
    obtain ⟨span, grown, within⟩ :=
      (meets _ rfl).1.fills 0 (by decide) (by decide) 2 ⟨by decide, by decide⟩
    cases grown
    exact absurd within.2 (by decide)

/-! ## Writes that fail -/

/-- In every state a receiver can reach, a write that fails leaves the buffer as it is, unless the
pointer is null and the write passes the checks. -/
theorem failed_write_unchanged_iff {profile : Profile} {buffer : Buffer} {calls : List ReceiveCall}
    {buf : WriteableBuffer} (ran : (receiver profile).run (new buffer) calls = some buf)
    (position : BytePosition) (toWrite : List UInt8) :
    ((∃ error, (buf.write position toWrite).2 = .error error) →
        (buf.write position toWrite).1 = buf) ↔
      ¬ (buffer.memory = none ∧ buf.Accepts position toWrite) := by
  have memory : buf.buffer.memory = none ↔ buffer.memory = none := by
    have kept : ∀ (state : WriteableBuffer) (call : ReceiveCall) (next : WriteableBuffer),
        (state.buffer.memory = none ↔ buffer.memory = none) →
          (receiver profile).step state call = some next →
            (next.buffer.memory = none ↔ buffer.memory = none) := by
      intro state call next same stepped
      obtain ⟨_, rfl⟩ := step_receiver_eq_some.mp stepped
      rw [apply_memory_eq_none, same]
    exact (receiver profile).run_preserves kept Iff.rfl ran
  rw [← memory]
  have stepped := write_step buf position toWrite
  generalize buf.write position toWrite = result at stepped ⊢
  cases stepped with
  | rejected error rejects =>
      refine iff_of_true (fun _ => rfl) ?_
      intro both
      rw [writeRejects_eq_none_iff_accepts.mpr both.2] at rejects
      cases rejects
  | null accepts missing map =>
      have accepted := writeRejects_eq_none_iff_accepts.mp accepts
      refine iff_of_false ?_ (not_not.mpr ⟨missing, accepted⟩)
      intro unchanged
      -- the entry of the chunk was unfilled and is filled
      have marked := filled_of_accepts accepted map
      have same : buf.occupy position = buf := unchanged ⟨_, rfl⟩
      rw [same, accepted.2.1] at marked
      cases marked
  | written memory copied _ present =>
      refine iff_of_true ?_ ?_
      · rintro ⟨error, failed⟩
        cases failed
      · rw [present]
        exact fun both => nomatch both.1

/-- A seek on a null pointer, then a payload that is too long. -/
theorem failed_write_unchanged_iff_long :
    ∃ buf, (receiver .release).run (new (Buffer.null 3)) [.seek (BytePosition.ofNat 2)] =
        some buf ∧
      (((∃ error, (buf.write (BytePosition.ofNat 0) [1, 2, 3, 4]).2 = .error error) →
          (buf.write (BytePosition.ofNat 0) [1, 2, 3, 4]).1 = buf) ↔
        ¬ ((Buffer.null 3).memory = none ∧
          buf.Accepts (BytePosition.ofNat 0) [1, 2, 3, 4])) :=
  ⟨_, rfl, @failed_write_unchanged_iff .release _ [.seek (BytePosition.ofNat 2)] _ rfl _ _⟩

/-- A write to a null pointer fails, and its chunk is occupied. -/
theorem null_write_occupies :
    let written := (new (Buffer.null 3)).write (BytePosition.ofNat 0) [1, 2, 3]
    written.2 = .error .failedToDeref ∧ written.1.map = [true] ∧ written.1.invalidAreas = [] ∧
      (new (Buffer.null 3)).map = [false] ∧ written.1 ≠ new (Buffer.null 3) := by
  have map : ((new (Buffer.null 3)).write (BytePosition.ofNat 0) [1, 2, 3]).1.map = [true] := by
    decide
  refine ⟨rfl, map, by decide, by decide, ?_⟩
  intro same
  rw [same] at map
  exact absurd map (by decide)

end WriteableBuffer
end Ubass

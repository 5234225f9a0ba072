import Mathlib.Tactic.SplitIfs
import Ubass.Lib.Bytes
import Ubass.Wire

/-!
# The receive buffer

`WriteableBuffer` of `api/types.rs`: raw memory owned by the application, the map
of filled chunks, the list of maximal unfilled areas and the head.

Arithmetic on positions is that of a release build, where `u32` additions wrap.
`advanceOverflows` tells when the addition in `advance_head` overflows, which
stops a build with overflow checks.
-/

set_option autoImplicit false

namespace Ubass

structure Area where
  start : Nat
  stop : Nat
deriving DecidableEq

def Area.contains (area : Area) (index : Nat) : Bool := area.start ≤ index && index < area.stop

/-- `Buffer(*mut [u8])`: the length is part of the pointer, the memory is missing when the
pointer is null. -/
structure Buffer where
  len : Nat
  memory : Option (List UInt8)
  memory_length : ∀ bytes ∈ memory, bytes.length = len

namespace Buffer

def ofBytes (bytes : List UInt8) : Buffer where
  len := bytes.length
  memory := some bytes
  memory_length := by
    intro memory member
    cases Option.mem_some_iff.mp member
    rfl

def asMut (buffer : Buffer) : Option (List UInt8) := buffer.memory

/-- `buf[start..start + bytes.len()].copy_from_slice(bytes)`.  Out of range it is a panic;
`write` has compared the range with the length before. -/
def copyFromSlice (buffer : Buffer) (start : Nat) (bytes : List UInt8) : Buffer :=
  if fits : start + bytes.length ≤ buffer.len then
    { len := buffer.len
      memory := buffer.memory.map fun memory => Bytes.overwrite memory start bytes
      memory_length := by
        intro written member
        obtain ⟨memory, present, rfl⟩ := Option.map_eq_some_iff.mp (Option.mem_def.mp member)
        have length := buffer.memory_length memory present
        rw [Bytes.length_overwrite (by omega), length] }
  else buffer

@[simp] theorem copyFromSlice_len (buffer : Buffer) (start : Nat) (bytes : List UInt8) :
    (buffer.copyFromSlice start bytes).len = buffer.len := by
  unfold copyFromSlice
  split <;> rfl

theorem copyFromSlice_memory (buffer : Buffer) {start : Nat} {bytes : List UInt8}
    (fits : start + bytes.length ≤ buffer.len) :
    (buffer.copyFromSlice start bytes).memory =
      buffer.memory.map fun memory => Bytes.overwrite memory start bytes := by
  rw [copyFromSlice, dif_pos fits]

end Buffer

inductive BufferError where
  | occupied
  | notValid
  | wrongSize
  | failedToDeref
deriving DecidableEq

/-- The map has an entry for every index a position of the buffer can have, so indexing it
never panics. -/
structure WriteableBuffer where
  buffer : Buffer
  head : BytePosition
  map : List Bool
  invalidAreas : List Area
  map_length : map.length = buffer.len / maxPayloadLength + 1

namespace WriteableBuffer

/-- `WriteableBuffer::from` -/
def new (buffer : Buffer) : WriteableBuffer where
  buffer := buffer
  head := BytePosition.ofNat 0
  map := List.replicate (buffer.len / maxPayloadLength + 1) false
  invalidAreas := [⟨0, buffer.len / maxPayloadLength + 1⟩]
  map_length := List.length_replicate

def len (self : WriteableBuffer) : Nat := self.buffer.len

def headAtEnd (self : WriteableBuffer) : Bool := self.len ≤ self.head.toNat

def isDone (self : WriteableBuffer) : Bool := self.headAtEnd && self.map.all id

def positionToIndex (self : WriteableBuffer) (position : BytePosition) : Option Nat :=
  if self.len < position.toNat then none else some (position.toNat / maxPayloadLength)

def positionOccupied (self : WriteableBuffer) (position : BytePosition) : Option Bool :=
  (self.positionToIndex position).map fun index => self.map.getD index false

/-- The update of `invalid_areas` in `occupy`: the area of the index is dropped, trimmed at
one of its ends or split. -/
def occupyAreas (areas : List Area) (index : Nat) : List Area :=
  match areas.findIdx? fun area => area.contains index with
  | none => areas
  | some slot =>
      match areas[slot]? with
      | none => areas
      | some area =>
          if area.start = index then
            if area.stop = index + 1 then areas.eraseIdx slot
            else areas.set slot { area with start := index + 1 }
          else
            let trimmed := areas.set slot { area with stop := index }
            if area.stop - 1 ≠ index then trimmed.insertIdx (slot + 1) ⟨index + 1, area.stop⟩
            else trimmed

/-- `occupy`.  Debug builds panic on a position out of bounds or already occupied. -/
def occupy (self : WriteableBuffer) (position : BytePosition) : WriteableBuffer :=
  match self.positionToIndex position with
  | none => self
  | some index =>
      { self with
        map := self.map.set index true
        invalidAreas := occupyAreas self.invalidAreas index
        map_length := by rw [List.length_set, self.map_length] }

/-- The loop of `advance_head` over the entries of the map from its index on. -/
def advanceLoop : List Bool → Nat → BytePosition → Nat × BytePosition
  | true :: rest, index, head =>
      advanceLoop rest (index + 1) (BytePosition.ofNat (head.toNat + maxPayloadLength))
  | _, index, head => (index, head)

def advanceHead (self : WriteableBuffer) : WriteableBuffer :=
  match self.positionToIndex self.head with
  | none => self
  | some start =>
      let (index, head) := advanceLoop (self.map.drop start) start self.head
      if index = self.map.length then { self with head := BytePosition.ofNat self.len }
      else { self with head := head }

/-- Some `*self.head += MAX_PAYLOAD_LENGTH` of the loop leaves the range of `u32`. -/
def advanceLoopOverflows : List Bool → BytePosition → Bool
  | true :: rest, head =>
      2 ^ 32 ≤ head.toNat + maxPayloadLength ||
        advanceLoopOverflows rest (BytePosition.ofNat (head.toNat + maxPayloadLength))
  | _, _ => false

def advanceOverflows (self : WriteableBuffer) : Bool :=
  match self.positionToIndex self.head with
  | none => false
  | some start => advanceLoopOverflows (self.map.drop start) self.head

def seekHead (self : WriteableBuffer) (position : BytePosition) :
    WriteableBuffer × Option Bool :=
  match self.positionToIndex position with
  | none => (self, none)
  | some index =>
      if self.head.toNat < position.toNat then
        let moved := { self with head := BytePosition.ofNat (index * maxPayloadLength) }
        (moved.advanceHead, some true)
      else (self, some false)

def findHoles (self : WriteableBuffer) (til : BytePosition) : List BytePosition :=
  let til := min til.toNat (BytePosition.ofNat self.len).toNat
  (List.range (til / maxPayloadLength)).filterMap fun index =>
    if self.map.getD index false then none
    else some (BytePosition.ofNat (index * maxPayloadLength))

def allInvalidAreas (self : WriteableBuffer) : List Area := self.invalidAreas

/-- The checks of `write` before anything is changed. -/
def writeRejects (self : WriteableBuffer) (position : BytePosition) (toWrite : List UInt8) :
    Option BufferError :=
  match self.positionOccupied position with
  | none => some .notValid
  | some true => some .occupied
  | some false =>
      if (toWrite.length ≠ maxPayloadLength ∧
            self.positionToIndex position ≠ some (self.map.length - 1)) ∨
          self.len < position.toNat + toWrite.length then
        some .wrongSize
      else none

/-- The bytes from `start` on replaced, the rest of the buffer as it is. -/
def copyFromSlice (self : WriteableBuffer) (start : Nat) (bytes : List UInt8) : WriteableBuffer :=
  { self with
    buffer := self.buffer.copyFromSlice start bytes
    map_length := by rw [Buffer.copyFromSlice_len]; exact self.map_length }

/-- `write`.  The chunk is marked before the pointer is dereferenced. -/
def write (self : WriteableBuffer) (position : BytePosition) (toWrite : List UInt8) :
    WriteableBuffer × Except BufferError Span :=
  match self.writeRejects position toWrite with
  | some error => (self, .error error)
  | none =>
      let occupied := self.occupy position
      match occupied.buffer.asMut with
      | none => (occupied, .error .failedToDeref)
      | some _ =>
          let copied := occupied.copyFromSlice position.toNat toWrite
          (copied.advanceHead, .ok ⟨position.toNat, position.toNat + toWrite.length⟩)

/-- The call of `advance_head` at the end of `write` overflows. -/
def writeOverflows (self : WriteableBuffer) (position : BytePosition) (toWrite : List UInt8) :
    Bool :=
  (self.writeRejects position toWrite).isNone && (self.occupy position).buffer.asMut.isSome &&
    ((self.occupy position).copyFromSlice position.toNat toWrite).advanceOverflows

/-! ## Positions and indices -/

theorem maxPayloadLength_pos : 0 < maxPayloadLength := by decide

theorem positionToIndex_eq_some {self : WriteableBuffer} {position : BytePosition} {index : Nat} :
    self.positionToIndex position = some index ↔
      position.toNat ≤ self.len ∧ index = position.toNat / maxPayloadLength := by
  unfold positionToIndex
  split
  · rename_i outside
    constructor
    · intro impossible
      cases impossible
    · intro inside
      omega
  · rename_i inside
    constructor
    · intro same
      cases Option.some.inj same
      exact ⟨by omega, rfl⟩
    · rintro ⟨_, rfl⟩
      rfl

theorem index_lt_map_length (self : WriteableBuffer) {offset : Nat} (inside : offset ≤ self.len) :
    offset / maxPayloadLength < self.map.length := by
  rw [self.map_length]
  exact Nat.lt_succ_of_le (Nat.div_le_div_right inside)

theorem positionOccupied_eq_some {self : WriteableBuffer} {position : BytePosition}
    {filled : Bool} :
    self.positionOccupied position = some filled ↔
      position.toNat ≤ self.len ∧
        self.map[position.toNat / maxPayloadLength]? = some filled := by
  unfold positionOccupied
  rw [Option.map_eq_some_iff]
  constructor
  · rintro ⟨index, found, rfl⟩
    obtain ⟨inside, rfl⟩ := positionToIndex_eq_some.mp found
    have bound := self.index_lt_map_length inside
    refine ⟨inside, ?_⟩
    simp [bound]
  · rintro ⟨inside, entry⟩
    refine ⟨_, positionToIndex_eq_some.mpr ⟨inside, rfl⟩, ?_⟩
    simp [entry]

/-! ## Advancing the head -/

def filledRun (entries : List Bool) : Nat := (entries.takeWhile id).length

theorem filledRun_le (entries : List Bool) : filledRun entries ≤ entries.length :=
  (List.takeWhile_prefix id).length_le

theorem getElem?_filledRun {entries : List Bool} (gap : filledRun entries < entries.length) :
    entries[filledRun entries]? = some false := by
  induction entries with
  | nil => simp at gap
  | cons entry rest ih =>
      cases entry with
      | false => rfl
      | true =>
          have runEq : filledRun (true :: rest) = filledRun rest + 1 := rfl
          rw [runEq] at gap ⊢
          exact ih (by simpa using gap)

theorem getElem?_of_lt_filledRun {entries : List Bool} {index : Nat}
    (inRun : index < filledRun entries) : entries[index]? = some true := by
  induction entries generalizing index with
  | nil => simp [filledRun] at inRun
  | cons entry rest ih =>
      cases entry with
      | false => simp [filledRun] at inRun
      | true =>
          have runEq : filledRun (true :: rest) = filledRun rest + 1 := rfl
          cases index with
          | zero => rfl
          | succ index =>
              rw [List.getElem?_cons_succ]
              exact ih (by omega)

theorem filledRun_eq_length_iff {entries : List Bool} :
    filledRun entries = entries.length ↔ ∀ entry ∈ entries, entry = true := by
  induction entries with
  | nil => simp [filledRun]
  | cons entry rest ih =>
      cases entry with
      | false => simp [filledRun]
      | true =>
          have runEq : filledRun (true :: rest) = filledRun rest + 1 := rfl
          rw [runEq, List.length_cons, Nat.add_right_cancel_iff, ih]
          simp

theorem advanceLoop_eq (entries : List Bool) (index : Nat) (head : BytePosition) :
    advanceLoop entries index head =
      (index + filledRun entries,
        BytePosition.ofNat (head.toNat + filledRun entries * maxPayloadLength)) := by
  induction entries generalizing index head with
  | nil => simp [advanceLoop, filledRun]
  | cons entry rest ih =>
      cases entry with
      | false => simp [advanceLoop, filledRun]
      | true =>
          have runEq : filledRun (true :: rest) = filledRun rest + 1 := rfl
          rw [advanceLoop, ih, runEq]
          refine Prod.ext (by simp only; omega) (BytePosition.ext ?_)
          simp only [BytePosition.toNat_ofNat]
          rw [Nat.mod_add_mod]
          congr 1
          ring

theorem advanceLoopOverflows_eq (entries : List Bool) (head : BytePosition) :
    advanceLoopOverflows entries head =
      decide (2 ^ 32 ≤ head.toNat + filledRun entries * maxPayloadLength) := by
  have noRun : ¬ 2 ^ 32 ≤ head.toNat + 0 * maxPayloadLength := by
    have := head.lt
    omega
  induction entries generalizing head with
  | nil =>
      rw [show filledRun [] = 0 from rfl, decide_eq_false noRun]
      rfl
  | cons entry rest ih =>
      cases entry with
      | false =>
          rw [show filledRun (false :: rest) = 0 from rfl, decide_eq_false noRun]
          rfl
      | true =>
          have runEq : filledRun (true :: rest) = filledRun rest + 1 := rfl
          rw [advanceLoopOverflows, runEq, Nat.add_mul]
          by_cases wraps : 2 ^ 32 ≤ head.toNat + maxPayloadLength
          · rw [decide_eq_true wraps, Bool.true_or, eq_comm, decide_eq_true_eq]
            omega
          · have moved : (BytePosition.ofNat (head.toNat + maxPayloadLength)).toNat =
                head.toNat + maxPayloadLength :=
              BytePosition.toNat_ofNat_of_lt (by omega)
            rw [decide_eq_false wraps, Bool.false_or, ih, moved]
            · exact decide_eq_decide.mpr (by omega)
            · rw [moved]
              omega

@[simp] theorem advanceHead_buffer (self : WriteableBuffer) :
    self.advanceHead.buffer = self.buffer := by
  unfold advanceHead
  split
  · rfl
  · simp only
    split <;> rfl

@[simp] theorem advanceHead_map (self : WriteableBuffer) : self.advanceHead.map = self.map := by
  unfold advanceHead
  split
  · rfl
  · simp only
    split <;> rfl

@[simp] theorem advanceHead_len (self : WriteableBuffer) : self.advanceHead.len = self.len := by
  rw [len, advanceHead_buffer, len]

def walkEnd (self : WriteableBuffer) : Nat :=
  self.head.toNat / maxPayloadLength +
    filledRun (self.map.drop (self.head.toNat / maxPayloadLength))

theorem advanceHead_head {self : WriteableBuffer} (inside : self.head.toNat ≤ self.len) :
    self.advanceHead.head =
      if self.walkEnd = self.map.length then BytePosition.ofNat self.len
      else BytePosition.ofNat (self.head.toNat +
        (self.walkEnd - self.head.toNat / maxPayloadLength) * maxPayloadLength) := by
  have start : self.positionToIndex self.head = some (self.head.toNat / maxPayloadLength) :=
    positionToIndex_eq_some.mpr ⟨inside, rfl⟩
  have steps : self.walkEnd - self.head.toNat / maxPayloadLength =
      filledRun (self.map.drop (self.head.toNat / maxPayloadLength)) := by
    rw [walkEnd]
    omega
  rw [advanceHead, start, steps]
  simp only [advanceLoop_eq]
  rw [← walkEnd]
  split <;> rfl

/-- Where the head of a buffer may stand: at the end, or at the start of an unfilled chunk. -/
structure HeadInv (buf : WriteableBuffer) : Prop where
  inside : buf.head.toNat ≤ buf.len
  stops : buf.head.toNat = buf.len ∨
    (maxPayloadLength ∣ buf.head.toNat ∧
      buf.map[buf.head.toNat / maxPayloadLength]? = some false)

theorem walkEnd_le {self : WriteableBuffer} (inside : self.head.toNat ≤ self.len) :
    self.walkEnd ≤ self.map.length := by
  have bound := self.index_lt_map_length inside
  have run := filledRun_le (self.map.drop (self.head.toNat / maxPayloadLength))
  rw [List.length_drop] at run
  rw [walkEnd]
  omega

theorem map_walkEnd {self : WriteableBuffer} (inside : self.head.toNat ≤ self.len)
    (gap : self.walkEnd ≠ self.map.length) : self.map[self.walkEnd]? = some false := by
  have bound := self.index_lt_map_length inside
  have below := walkEnd_le inside
  rw [walkEnd] at gap below ⊢
  rw [← List.getElem?_drop]
  apply getElem?_filledRun
  rw [List.length_drop]
  omega

theorem advanceHead_headInv {self : WriteableBuffer} (small : self.len < 2 ^ 32)
    (inside : self.head.toNat ≤ self.len)
    (stands : self.head.toNat = self.len ∨ maxPayloadLength ∣ self.head.toNat) :
    self.advanceHead.HeadInv := by
  have head := advanceHead_head inside
  by_cases atEnd : self.walkEnd = self.map.length
  · rw [if_pos atEnd] at head
    have value : self.advanceHead.head.toNat = self.len := by
      rw [head, BytePosition.toNat_ofNat_of_lt small]
    exact ⟨by rw [value, advanceHead_len], Or.inl (by rw [value, advanceHead_len])⟩
  · rw [if_neg atEnd] at head
    have gap := map_walkEnd inside atEnd
    have below := walkEnd_le inside
    rw [self.map_length] at below atEnd
    have startBelow : self.head.toNat / maxPayloadLength ≤ self.walkEnd := Nat.le_add_right _ _
    have lenDef : self.len = self.buffer.len := rfl
    rcases stands with full | aligned
    · have same : self.walkEnd = self.head.toNat / maxPayloadLength := by
        rw [full, lenDef] at startBelow ⊢
        omega
      have value : self.advanceHead.head.toNat = self.len := by
        rw [head, same, Nat.sub_self, Nat.zero_mul, Nat.add_zero, BytePosition.ofNat_toNat, full]
      exact ⟨by rw [value, advanceHead_len], Or.inl (by rw [value, advanceHead_len])⟩
    · have offset : self.head.toNat +
          (self.walkEnd - self.head.toNat / maxPayloadLength) * maxPayloadLength =
            self.walkEnd * maxPayloadLength := by
        have cancel := Nat.div_mul_cancel aligned
        rw [Nat.sub_mul]
        have := Nat.mul_le_mul_right maxPayloadLength startBelow
        omega
      have stopInside : self.walkEnd * maxPayloadLength ≤ self.len := by
        have : self.walkEnd ≤ self.buffer.len / maxPayloadLength := by omega
        calc self.walkEnd * maxPayloadLength
            ≤ self.buffer.len / maxPayloadLength * maxPayloadLength :=
              Nat.mul_le_mul_right _ this
          _ ≤ self.len := Nat.div_mul_le_self _ _
      have value : self.advanceHead.head.toNat = self.walkEnd * maxPayloadLength := by
        rw [head, offset, BytePosition.toNat_ofNat_of_lt (by omega)]
      refine ⟨by rw [value, advanceHead_len]; exact stopInside, Or.inr ⟨?_, ?_⟩⟩
      · rw [value]
        exact Nat.dvd_mul_left _ _
      · rw [value, Nat.mul_div_cancel _ maxPayloadLength_pos, advanceHead_map]
        exact gap

theorem new_headInv (buffer : Buffer) : (new buffer).HeadInv := by
  refine ⟨Nat.zero_le _, Or.inr ⟨Nat.dvd_zero _, ?_⟩⟩
  simp [new, BytePosition.ofNat]

theorem isDone_iff_of_headInv {self : WriteableBuffer} (headInv : self.HeadInv) :
    self.isDone = true ↔ ∀ entry ∈ self.map, entry = true := by
  have full : self.isDone = true ↔
      self.headAtEnd = true ∧ ∀ entry ∈ self.map, entry = true := by
    simp [isDone]
  rw [full]
  constructor
  · exact fun both => both.2
  · intro filled
    refine ⟨?_, filled⟩
    rcases headInv.stops with atEnd | ⟨_, gap⟩
    · simp [headAtEnd, atEnd]
    · have member := List.mem_of_getElem? gap
      cases filled false member

/-! ## Writing -/

theorem writeRejects_eq_none {self : WriteableBuffer} {position : BytePosition}
    {toWrite : List UInt8} :
    self.writeRejects position toWrite = none ↔
      position.toNat + toWrite.length ≤ self.len ∧
      self.map[position.toNat / maxPayloadLength]? = some false ∧
      (toWrite.length = maxPayloadLength ∨
        position.toNat / maxPayloadLength = self.len / maxPayloadLength) := by
  unfold writeRejects
  split
  · rename_i outside
    constructor
    · intro impossible
      cases impossible
    · rintro ⟨inside, entry, _⟩
      have found := positionOccupied_eq_some.mpr ⟨by omega, entry⟩
      rw [outside] at found
      cases found
  · rename_i filled
    obtain ⟨_, entry⟩ := positionOccupied_eq_some.mp filled
    constructor
    · intro impossible
      cases impossible
    · rintro ⟨_, unfilled, _⟩
      rw [entry] at unfilled
      cases unfilled
  · rename_i unfilled
    obtain ⟨inside, entry⟩ := positionOccupied_eq_some.mp unfilled
    have index := positionToIndex_eq_some.mpr ⟨inside, rfl⟩
    have last : self.map.length - 1 = self.len / maxPayloadLength := by
      rw [self.map_length]
      rfl
    rw [index, last]
    simp only [entry, true_and, ne_eq, Option.some.injEq]
    split
    · rename_i wrong
      constructor
      · intro impossible
        cases impossible
      · rintro ⟨fits, size⟩
        rcases wrong with ⟨short, notLast⟩ | long
        · rcases size with size | size
          · exact absurd size short
          · exact absurd size notLast
        · omega
    · rename_i right
      simp only [true_iff]
      refine ⟨by omega, ?_⟩
      by_contra neither
      push Not at neither
      exact right (Or.inl neither)

/-- What one call of `write` can do.  On success the chunk was marked and copied before the
head was advanced. -/
inductive WriteStep (self : WriteableBuffer) (position : BytePosition) (toWrite : List UInt8) :
    WriteableBuffer × Except BufferError Span → Prop
  | rejected (error : BufferError) (rejects : self.writeRejects position toWrite = some error) :
      WriteStep self position toWrite (self, .error error)
  | null (accepts : self.writeRejects position toWrite = none)
      (missing : self.buffer.memory = none)
      (map : (self.occupy position).map = self.map.set (position.toNat / maxPayloadLength) true)
      (buffer : (self.occupy position).buffer = self.buffer)
      (head : (self.occupy position).head = self.head) :
      WriteStep self position toWrite (self.occupy position, .error .failedToDeref)
  | written (memory : List UInt8) (copied : WriteableBuffer)
      (accepts : self.writeRejects position toWrite = none)
      (present : self.buffer.memory = some memory)
      (map : copied.map = self.map.set (position.toNat / maxPayloadLength) true)
      (len : copied.len = self.len)
      (head : copied.head = self.head)
      (bytes : copied.buffer.memory = some (Bytes.overwrite memory position.toNat toWrite))
      (overflows : self.writeOverflows position toWrite = copied.advanceOverflows) :
      WriteStep self position toWrite
        (copied.advanceHead, .ok ⟨position.toNat, position.toNat + toWrite.length⟩)

theorem occupy_of_inside (self : WriteableBuffer) {position : BytePosition}
    (inside : position.toNat ≤ self.len) :
    (self.occupy position).map = self.map.set (position.toNat / maxPayloadLength) true ∧
      (self.occupy position).buffer = self.buffer ∧ (self.occupy position).head = self.head := by
  rw [occupy, positionToIndex_eq_some.mpr ⟨inside, rfl⟩]
  exact ⟨rfl, rfl, rfl⟩

theorem write_step (self : WriteableBuffer) (position : BytePosition) (toWrite : List UInt8) :
    WriteStep self position toWrite (self.write position toWrite) := by
  unfold write
  cases accepts : self.writeRejects position toWrite with
  | some error => exact .rejected error accepts
  | none =>
      obtain ⟨fits, unfilled, _⟩ := writeRejects_eq_none.mp accepts
      obtain ⟨map, buffer, head⟩ := occupy_of_inside self (by omega : position.toNat ≤ self.len)
      simp only [Buffer.asMut, buffer]
      cases present : self.buffer.memory with
      | none => exact .null accepts present map buffer head
      | some memory =>
          have copiedBuffer : ((self.occupy position).copyFromSlice position.toNat toWrite).buffer =
              self.buffer.copyFromSlice position.toNat toWrite :=
            congrArg (fun memory => memory.copyFromSlice position.toNat toWrite) buffer
          refine .written memory _ accepts present map ?_ head ?_ ?_
          · rw [len, copiedBuffer, Buffer.copyFromSlice_len, len]
          · rw [copiedBuffer, Buffer.copyFromSlice_memory _ fits, present]
            rfl
          · simp [writeOverflows, accepts, Buffer.asMut, buffer, present]

@[simp] theorem write_len (self : WriteableBuffer) (position : BytePosition)
    (toWrite : List UInt8) : (self.write position toWrite).1.len = self.len := by
  have stepped := write_step self position toWrite
  generalize self.write position toWrite = result at stepped ⊢
  cases stepped with
  | rejected error _ => rfl
  | null _ _ _ buffer _ => rw [len, buffer, len]
  | written memory copied _ _ _ len => rw [advanceHead_len, len]

theorem write_headInv {self : WriteableBuffer} (position : BytePosition) (toWrite : List UInt8)
    (small : self.len < 2 ^ 32) (headInv : self.HeadInv) (present : self.buffer.memory ≠ none) :
    (self.write position toWrite).1.HeadInv := by
  have stepped := write_step self position toWrite
  generalize self.write position toWrite = result at stepped ⊢
  cases stepped with
  | rejected error _ => exact headInv
  | null _ missing => exact absurd missing present
  | written memory copied _ _ _ len head _ _ =>
      refine advanceHead_headInv (len ▸ small) ?_ ?_
      · rw [head, len]
        exact headInv.inside
      · rw [head, len]
        exact headInv.stops.imp_right And.left

end WriteableBuffer
end Ubass

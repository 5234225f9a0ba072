import Mathlib.Data.List.Basic

/-!
# Writing to the front of a buffer

A writer is given a buffer.  It leaves the buffer changed, fails or panics.

`Writes` says which bytes a writer puts at the front of a buffer that has room for
them.  It leaves the rest as it was, except that a writer may insist that the buffer
ends at a certain place: `stops` are these places, counted from the front.
-/

set_option autoImplicit false

universe u

inductive Written (Byte : Type u) where
  | panicked
  | failed (buf : List Byte)
  | done (buf : List Byte)
deriving DecidableEq

abbrev BufferWriter (Byte : Type u) : Type u := List Byte → Written Byte

variable {Byte : Type u}

namespace Written

def inside (front back : List Byte) : Written Byte → Written Byte
  | panicked => panicked
  | failed buf => failed (front ++ buf ++ back)
  | done buf => done (front ++ buf ++ back)

end Written

namespace BufferWriter

def nothing : BufferWriter Byte := .done

def andThen (first second : BufferWriter Byte) : BufferWriter Byte := fun buf =>
  match first buf with
  | .done buf => second buf
  | stopped => stopped

def checked (size : Nat) (writer : BufferWriter Byte) : BufferWriter Byte := fun buf =>
  if buf.length < size then .failed buf else writer buf

/-- The part up to `stop`. -/
def sliceTo (stop : Nat) (writer : BufferWriter Byte) : BufferWriter Byte := fun buf =>
  if stop ≤ buf.length then (writer (buf.take stop)).inside [] (buf.drop stop) else .panicked

/-- The part from `start` on. -/
def sliceFrom (start : Nat) (writer : BufferWriter Byte) : BufferWriter Byte := fun buf =>
  if start ≤ buf.length then (writer (buf.drop start)).inside (buf.take start) [] else .panicked

def copyFromSlice (bytes : List Byte) : BufferWriter Byte := fun buf =>
  if buf.length = bytes.length then .done bytes else .panicked

def fill (byte : Byte) : BufferWriter Byte := fun buf => .done (List.replicate buf.length byte)

def setAt (index : Nat) (byte : Byte) : BufferWriter Byte := fun buf =>
  if index < buf.length then .done (buf.set index byte) else .panicked

/-- Fields with their sizes, one behind the other from `offset` on. -/
def fieldsFrom (offset : Nat) : List (Nat × BufferWriter Byte) → BufferWriter Byte
  | [] => nothing
  | (size, field) :: rest => (sliceFrom offset field).andThen (fieldsFrom (offset + size) rest)

/-! ## What a writer does -/

structure Writes (writer : BufferWriter Byte) (bytes : List Byte) (stops : List Nat) : Prop where
  short : ∀ buf : List Byte, buf.length < bytes.length → ∃ after, writer buf = .failed after
  writes : ∀ buf : List Byte, bytes.length ≤ buf.length → (∀ stop ∈ stops, stop = buf.length) →
    writer buf = .done (bytes ++ buf.drop bytes.length)
  panics : ∀ buf : List Byte, bytes.length ≤ buf.length → ¬ (∀ stop ∈ stops, stop = buf.length) →
    writer buf = .panicked

/-- What a writer does that comes after `offset` bytes that are written already, when there is room
for its own. -/
structure Appends (offset : Nat) (writer : BufferWriter Byte) (bytes : List Byte)
    (stops : List Nat) : Prop where
  writes : ∀ front rest : List Byte, front.length = offset → bytes.length ≤ rest.length →
    (∀ stop ∈ stops, stop = rest.length) →
      writer (front ++ rest) = .done (front ++ (bytes ++ rest.drop bytes.length))
  panics : ∀ front rest : List Byte, front.length = offset → bytes.length ≤ rest.length →
    ¬ (∀ stop ∈ stops, stop = rest.length) → writer (front ++ rest) = .panicked

variable {writer next : BufferWriter Byte} {bytes more : List Byte} {stops moreStops : List Nat}
  {offset size : Nat}

@[simp] theorem sliceFrom_zero (writer : BufferWriter Byte) : sliceFrom 0 writer = writer := by
  funext buf
  cases written : writer buf <;> simp [sliceFrom, Written.inside, written]

@[simp] theorem andThen_nothing (writer : BufferWriter Byte) : writer.andThen nothing = writer := by
  funext buf
  cases written : writer buf <;> simp [andThen, nothing, written]

theorem sliceFrom_append (writer : BufferWriter Byte) {front : List Byte}
    (length : front.length = offset)
    (rest : List Byte) :
    sliceFrom offset writer (front ++ rest) = (writer rest).inside front [] := by
  subst length
  simp [sliceFrom]

theorem writes_nothing : Writes (nothing : BufferWriter Byte) [] [] := by
  constructor
  · simp
  · simp [nothing]
  · simp

theorem appends_nothing (offset : Nat) : Appends offset (nothing : BufferWriter Byte) [] [] := by
  constructor
  · simp [nothing]
  · simp

theorem Writes.andThen (field : Writes writer bytes stops)
    (rest : Appends (offset + bytes.length) next more moreStops) :
    Appends offset ((sliceFrom offset writer).andThen next) (bytes ++ more)
      (stops ++ moreStops.map fun stop => bytes.length + stop) := by
  have split : ∀ buf : List Byte, (bytes ++ more).length ≤ buf.length →
      bytes.length ≤ buf.length ∧ more.length ≤ (buf.drop bytes.length).length ∧
        ((∀ stop ∈ moreStops.map fun stop => bytes.length + stop, stop = buf.length) ↔
          ∀ stop ∈ moreStops, stop = (buf.drop bytes.length).length) := by
    intro buf room
    rw [List.length_append] at room
    rw [List.length_drop]
    refine ⟨by omega, by omega, ?_⟩
    rw [List.forall_mem_map]
    constructor
    · intro ends stop listed
      have := ends stop listed
      omega
    · intro ends stop listed
      have := ends stop listed
      omega
  constructor
  · intro front buf length room ends
    obtain ⟨own, others, shifted⟩ := split buf room
    rw [List.forall_mem_append] at ends
    have first := field.writes buf own ends.1
    have second := rest.writes (front ++ bytes) (buf.drop bytes.length)
      (by rw [List.length_append, length]) others (shifted.mp ends.2)
    rw [BufferWriter.andThen, sliceFrom_append writer length, first]
    simp only [Written.inside, List.append_nil]
    rw [← List.append_assoc, second]
    simp
  · intro front buf length room ends
    obtain ⟨own, others, shifted⟩ := split buf room
    rw [List.forall_mem_append, not_and_or] at ends
    rw [BufferWriter.andThen, sliceFrom_append writer length]
    by_cases firstEnds : ∀ stop ∈ stops, stop = buf.length
    · have behind : ¬ ∀ stop ∈ moreStops, stop = (buf.drop bytes.length).length := by
        rw [← shifted]
        exact ends.resolve_left (not_not_intro firstEnds)
      have second := rest.panics (front ++ bytes) (buf.drop bytes.length)
        (by rw [List.length_append, length]) others behind
      rw [field.writes buf own firstEnds]
      simp only [Written.inside, List.append_nil]
      rw [← List.append_assoc, second]
    · rw [field.panics buf own firstEnds]
      rfl

theorem Appends.checked (fields : Appends 0 writer bytes stops) (sized : bytes.length = size) :
    Writes (BufferWriter.checked size writer) bytes stops := by
  subst sized
  constructor
  · intro buf short
    exact ⟨buf, if_pos short⟩
  · intro buf room ends
    rw [BufferWriter.checked, if_neg (Nat.not_lt.mpr room)]
    exact fields.writes [] buf rfl room ends
  · intro buf room ends
    rw [BufferWriter.checked, if_neg (Nat.not_lt.mpr room)]
    exact fields.panics [] buf rfl room ends

theorem Writes.appends (written : Writes writer bytes stops) : Appends 0 writer bytes stops := by
  have one := written.andThen (appends_nothing (0 + bytes.length))
  simpa using one

theorem Writes.checked (written : Writes writer bytes stops) (sized : bytes.length = size) :
    Writes (BufferWriter.checked size writer) bytes stops :=
  written.appends.checked sized

/-- A buffer with room gets the bytes and keeps its rest exactly when it ends at every stop. -/
theorem Writes.contract_iff (written : Writes writer bytes stops) (buf : List Byte) :
    ((buf.length < bytes.length → ∃ after, writer buf = .failed after) ∧
      (bytes.length ≤ buf.length → writer buf = .done (bytes ++ buf.drop bytes.length))) ↔
      buf.length < bytes.length ∨ ∀ stop ∈ stops, stop = buf.length := by
  constructor
  · intro contract
    by_cases room : bytes.length ≤ buf.length
    · right
      by_contra ends
      have same := (contract.2 room).symm.trans (written.panics buf room ends)
      cases same
    · exact Or.inl (Nat.lt_of_not_le room)
  · intro ends
    refine ⟨written.short buf, ?_⟩
    intro room
    exact written.writes buf room (ends.resolve_left (Nat.not_lt.mpr room))

theorem writes_copyFromSlice (sized : bytes.length = size) :
    Writes (BufferWriter.checked size (sliceTo size (copyFromSlice bytes))) bytes [] := by
  subst sized
  constructor
  · intro buf short
    exact ⟨buf, if_pos short⟩
  · intro buf room _
    simp [BufferWriter.checked, sliceTo, copyFromSlice, Written.inside, Nat.not_lt.mpr room, room]
  · simp

theorem writes_fill (size : Nat) (byte : Byte) :
    Writes (BufferWriter.checked size (sliceTo size (fill byte)))
      (List.replicate size byte) [] := by
  constructor
  · intro buf short
    rw [List.length_replicate] at short
    exact ⟨buf, if_pos short⟩
  · intro buf room _
    rw [List.length_replicate] at room
    simp [BufferWriter.checked, sliceTo, fill, Written.inside, Nat.not_lt.mpr room, room]
  · simp

/-- `buf.copy_from_slice(bytes)`, which panics when the buffer goes on behind the bytes. -/
theorem writes_whole (bytes : List Byte) :
    Writes (BufferWriter.checked bytes.length (copyFromSlice bytes)) bytes [bytes.length] := by
  constructor
  · intro buf short
    exact ⟨buf, if_pos short⟩
  · intro buf room ends
    have same : bytes.length = buf.length := by simpa using ends
    simp [BufferWriter.checked, copyFromSlice, same]
  · intro buf room ends
    have longer : buf.length ≠ bytes.length := by simpa [eq_comm] using ends
    simp [BufferWriter.checked, copyFromSlice, Nat.not_lt.mpr room, longer]

end BufferWriter

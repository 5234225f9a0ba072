import Mathlib.Data.List.Range
import Ubass.Lib.Bytes
import Ubass.Wire

/-!
# The send buffer

`ReadableBuffer` of `api/types.rs`: the bytes of one stream and the head up to
which the iterator has handed them out.  The chunk with index `k` is what the
iterator yields at byte `k * MAX_PAYLOAD_LENGTH`.
-/

set_option autoImplicit false

namespace Ubass

abbrev Chunk := BytePosition × List UInt8

structure ReadableBuffer where
  buffer : List UInt8
  head : Nat
deriving DecidableEq

namespace ReadableBuffer

/-- `ReadableBuffer::from` -/
def new (bytes : List UInt8) : ReadableBuffer := ⟨bytes, 0⟩

def len (self : ReadableBuffer) : Nat := self.buffer.length

def currentPosition (self : ReadableBuffer) : Nat := self.head

def isDone (self : ReadableBuffer) : Bool := self.len ≤ self.head

/-- `Iterator::next` -/
def next (self : ReadableBuffer) : Option (Chunk × ReadableBuffer) :=
  if self.isDone then none
  else
    let head := min self.len (self.head + maxPayloadLength)
    some ((BytePosition.ofNat self.head, Bytes.slice self.buffer self.head head),
      { self with head := head })

/-- `take(count).collect()` -/
def take : Nat → ReadableBuffer → List Chunk × ReadableBuffer
  | 0, self => ([], self)
  | count + 1, self =>
      match self.next with
      | none => ([], self)
      | some (chunk, rest) =>
          let (chunks, last) := take count rest
          (chunk :: chunks, last)

theorem next_eq_some {self rest : ReadableBuffer} {chunk : Chunk}
    (yields : self.next = some (chunk, rest)) :
    self.head < self.len ∧
      chunk = (BytePosition.ofNat self.head,
        Bytes.slice self.buffer self.head (min self.len (self.head + maxPayloadLength))) ∧
      rest = { self with head := min self.len (self.head + maxPayloadLength) } := by
  unfold next at yields
  split at yields
  · cases yields
  · rename_i notDone
    obtain ⟨rfl, rfl⟩ := Prod.mk.inj (Option.some.inj yields)
    simp only [isDone, decide_eq_true_eq, not_le] at notDone
    exact ⟨notDone, rfl, rfl⟩

/-- `collect()` -/
def collect (self : ReadableBuffer) : List Chunk :=
  match _yields : self.next with
  | none => []
  | some (chunk, rest) => chunk :: collect rest
termination_by self.len - self.head
decreasing_by
  obtain ⟨inside, _, rfl⟩ := next_eq_some _yields
  simp only [len, maxPayloadLength] at inside ⊢
  omega

/-- The first part of the result is the previous position. -/
def seek (self : ReadableBuffer) (pos : BytePosition) : BytePosition × ReadableBuffer :=
  let exact := min pos.toNat self.len
  (BytePosition.ofNat self.head, { self with head := exact - exact % maxPayloadLength })

def read (self : ReadableBuffer) (range : Span) : Option (List UInt8) :=
  let stop := min range.stop self.len
  if range.start ≤ stop then some (Bytes.slice self.buffer range.start stop) else none

end ReadableBuffer

/-! ## The chunks of a byte string -/

def chunkBytes (source : List UInt8) (index : Nat) : List UInt8 :=
  Bytes.slice source (index * maxPayloadLength)
    (min source.length (index * maxPayloadLength + maxPayloadLength))

def chunkAt (source : List UInt8) (index : Nat) : Chunk :=
  (BytePosition.ofNat (index * maxPayloadLength), chunkBytes source index)

theorem length_chunkBytes (source : List UInt8) (index : Nat) :
    (chunkBytes source index).length =
      min maxPayloadLength (source.length - index * maxPayloadLength) := by
  rw [chunkBytes, Bytes.length_slice]
  omega

theorem getElem?_chunkBytes {source : List UInt8} {index offset : Nat}
    (inside : offset < (chunkBytes source index).length) :
    (chunkBytes source index)[offset]? = source[index * maxPayloadLength + offset]? := by
  rw [length_chunkBytes] at inside
  rw [chunkBytes, Bytes.getElem?_slice (by omega)]

namespace ReadableBuffer

/-- The head stands at the end or at the start of a chunk. -/
structure Aligned (buf : ReadableBuffer) : Prop where
  inside : buf.head ≤ buf.len
  stands : buf.head = buf.len ∨ maxPayloadLength ∣ buf.head

theorem new_aligned (bytes : List UInt8) : (new bytes).Aligned :=
  ⟨Nat.zero_le _, Or.inr (Nat.dvd_zero _)⟩

theorem seek_aligned (self : ReadableBuffer) (pos : BytePosition) : (self.seek pos).2.Aligned := by
  refine ⟨?_, Or.inr ?_⟩
  · exact (Nat.sub_le _ _).trans (Nat.min_le_right _ _)
  · exact Nat.dvd_sub_mod _

/-- A chunk that `next` yields is the chunk of the index the head stands at. -/
theorem next_aligned {self rest : ReadableBuffer} {chunk : Chunk} (aligned : self.Aligned)
    (yields : self.next = some (chunk, rest)) :
    self.head = self.head / maxPayloadLength * maxPayloadLength ∧ self.head < self.len ∧
      chunk = chunkAt self.buffer (self.head / maxPayloadLength) ∧
      rest = { self with head := min self.len (self.head + maxPayloadLength) } ∧
      rest.Aligned := by
  obtain ⟨inside, rfl, rfl⟩ := next_eq_some yields
  have divides : maxPayloadLength ∣ self.head := by
    rcases aligned.stands with atEnd | divides
    · omega
    · exact divides
  have start : self.head / maxPayloadLength * maxPayloadLength = self.head :=
    Nat.div_mul_cancel divides
  refine ⟨start.symm, inside, ?_, rfl, Nat.min_le_left _ _, ?_⟩
  · rw [chunkAt, chunkBytes, start]
    rfl
  · rcases Nat.le_total self.len (self.head + maxPayloadLength) with short | long
    · exact Or.inl (Nat.min_eq_left short)
    · right
      rw [Nat.min_eq_right long]
      exact Nat.dvd_add divides (Nat.dvd_refl _)

theorem next_eq_none {self : ReadableBuffer} (stops : self.next = none) : self.len ≤ self.head := by
  unfold next at stops
  split at stops
  · rename_i done
    simpa [isDone] using done
  · cases stops

theorem take_of_next_eq_none {self : ReadableBuffer} (stops : self.next = none) (count : Nat) :
    take count self = ([], self) := by
  cases count <;> simp [take, stops]

theorem take_of_next_eq_some {self rest : ReadableBuffer} {chunk : Chunk}
    (yields : self.next = some (chunk, rest)) (count : Nat) :
    take (count + 1) self = (chunk :: (take count rest).1, (take count rest).2) := by
  simp [take, yields]

/-- What `take` hands out are the chunks between the old head and the new one. -/
theorem take_spec {self : ReadableBuffer} (aligned : self.Aligned) (count : Nat) :
    (take count self).2.buffer = self.buffer ∧ (take count self).2.Aligned ∧
      self.head ≤ (take count self).2.head ∧
      (∀ chunk ∈ (take count self).1, ∃ index,
        chunk = chunkAt self.buffer index ∧ index * maxPayloadLength < (take count self).2.head) ∧
      ∀ index, self.head ≤ index * maxPayloadLength →
        index * maxPayloadLength < (take count self).2.head →
        chunkAt self.buffer index ∈ (take count self).1 := by
  induction count generalizing self with
  | zero =>
      refine ⟨rfl, aligned, Nat.le_refl _, ?_, ?_⟩
      · intro chunk member
        cases member
      · intro index above below
        exact absurd below (Nat.not_lt.mpr above)
  | succ count ih =>
      cases yields : self.next with
      | none =>
          rw [take_of_next_eq_none yields]
          refine ⟨rfl, aligned, Nat.le_refl _, ?_, ?_⟩
          · intro chunk member
            cases member
          · intro index above below
            exact absurd below (Nat.not_lt.mpr above)
      | some pair =>
          obtain ⟨chunk, rest⟩ := pair
          obtain ⟨start, inside, chunkEq, restEq, restAligned⟩ := next_aligned aligned yields
          have sameBuffer : rest.buffer = self.buffer := by rw [restEq]
          have restHead : rest.head = min self.len (self.head + maxPayloadLength) := by rw [restEq]
          obtain ⟨buffer, lastAligned, advanced, genuine, complete⟩ := ih restAligned
          have grown : self.head < rest.head := by
            rw [restHead, maxPayloadLength]
            omega
          rw [take_of_next_eq_some yields]
          simp only [sameBuffer] at buffer genuine complete ⊢
          refine ⟨buffer, lastAligned, by omega, ?_, ?_⟩
          · intro member inList
            rcases List.mem_cons.mp inList with rfl | later
            · exact ⟨_, chunkEq, by omega⟩
            · exact genuine member later
          · intro index above below
            by_cases here : index * maxPayloadLength < rest.head
            · have same : index = self.head / maxPayloadLength := by
                rw [restHead] at here
                rw [start] at above here
                simp only [maxPayloadLength] at above here ⊢
                omega
              rw [same, ← chunkEq]
              exact List.mem_cons_self
            · exact List.mem_cons_of_mem _ (complete index (by omega) below)

theorem take_eq_map {self : ReadableBuffer} (aligned : self.Aligned) (count : Nat) :
    (take count self).1 =
        (List.range' (self.head / maxPayloadLength) (take count self).1.length).map
          (chunkAt self.buffer) ∧
      ∀ index ∈ List.range' (self.head / maxPayloadLength) (take count self).1.length,
        index * maxPayloadLength < self.len := by
  induction count generalizing self with
  | zero => exact ⟨rfl, fun index listed => nomatch listed⟩
  | succ count ih =>
      cases yields : self.next with
      | none =>
          rw [take_of_next_eq_none yields]
          exact ⟨rfl, fun index listed => nomatch listed⟩
      | some pair =>
          obtain ⟨chunk, rest⟩ := pair
          obtain ⟨start, inside, chunkEq, restEq, restAligned⟩ := next_aligned aligned yields
          have sameBuffer : rest.buffer = self.buffer := by rw [restEq]
          have sameLen : rest.len = self.len := by rw [restEq]; rfl
          rw [take_of_next_eq_some yields, List.length_cons, List.range'_succ, List.map_cons, ← chunkEq,
            List.forall_mem_cons]
          obtain ⟨chunks, below⟩ := ih restAligned
          cases tail : (take count rest).1 with
          | nil => exact ⟨rfl, start ▸ inside, fun index listed => nomatch listed⟩
          | cons second later =>
              -- another chunk follows, so the head of `rest` stands at a boundary
              have restHead : rest.head / maxPayloadLength = self.head / maxPayloadLength + 1 := by
                cases again : rest.next with
                | none => simp [take_of_next_eq_none again] at tail
                | some _ =>
                    have before := (next_eq_some again).1
                    rw [restEq] at before ⊢
                    simp only [len, maxPayloadLength] at before inside start ⊢
                    omega
              rw [tail, restHead, sameBuffer] at chunks
              rw [tail, restHead, sameLen] at below
              exact ⟨congrArg (chunk :: ·) chunks, start ▸ inside, below⟩

theorem take_eq_nil {self : ReadableBuffer} {count : Nat} (empty : (take (count + 1) self).1 = []) :
    self.len ≤ self.head ∧ (take (count + 1) self).2 = self := by
  cases yields : self.next with
  | none => exact ⟨next_eq_none yields, by rw [take_of_next_eq_none yields]⟩
  | some pair => simp [take_of_next_eq_some yields] at empty

theorem length_take_le (self : ReadableBuffer) (count : Nat) :
    (take count self).1.length ≤ count := by
  induction count generalizing self with
  | zero => exact Nat.le_refl _
  | succ count ih =>
      rw [take]
      split
      · exact Nat.zero_le _
      · rename_i chunk rest _
        exact Nat.succ_le_succ (ih rest)

/-- The head after `take` is where the chunks it hands out end. -/
theorem take_head {self : ReadableBuffer} (inside : self.head ≤ self.len) (count : Nat) :
    (take count self).2.len = self.len ∧
      (take count self).2.head =
        min self.len (self.head + (take count self).1.length * maxPayloadLength) := by
  induction count generalizing self with
  | zero =>
      rw [take, List.length_nil, Nat.zero_mul, Nat.add_zero, Nat.min_eq_right inside]
      exact ⟨rfl, rfl⟩
  | succ count ih =>
      cases yields : self.next with
      | none =>
          rw [take_of_next_eq_none yields, List.length_nil, Nat.zero_mul, Nat.add_zero,
            Nat.min_eq_right inside]
          exact ⟨rfl, rfl⟩
      | some pair =>
          obtain ⟨chunk, rest⟩ := pair
          obtain ⟨_, _, restEq⟩ := next_eq_some yields
          have restLen : rest.len = self.len := by
            rw [restEq]
            rfl
          have restHead : rest.head = min self.len (self.head + maxPayloadLength) := by rw [restEq]
          obtain ⟨len, head⟩ := ih (by rw [restHead, restLen]; exact Nat.min_le_left _ _)
          rw [take_of_next_eq_some yields, List.length_cons, Nat.succ_mul]
          refine ⟨len.trans restLen, ?_⟩
          rw [head, restLen, restHead]
          omega

theorem mem_collect {self : ReadableBuffer} (aligned : self.Aligned) {chunk : Chunk} :
    chunk ∈ self.collect ↔ ∃ index, self.head ≤ index * maxPayloadLength ∧
      index * maxPayloadLength < self.len ∧ chunk = chunkAt self.buffer index := by
  induction self using collect.induct with
  | case1 self stops =>
      have atEnd := next_eq_none stops
      rw [collect, stops]
      constructor
      · intro member
        cases member
      · rintro ⟨index, above, below, _⟩
        omega
  | case2 self first rest yields ih =>
      obtain ⟨start, inside, firstEq, restEq, restAligned⟩ := next_aligned aligned yields
      have restHead : rest.head = min self.len (self.head + maxPayloadLength) := by rw [restEq]
      have restLen : rest.len = self.len := by rw [restEq]; rfl
      have restBuffer : rest.buffer = self.buffer := by rw [restEq]
      rw [collect, yields]
      simp only [List.mem_cons, ih restAligned, restHead, restLen, restBuffer]
      constructor
      · rintro (rfl | ⟨index, above, below, rfl⟩)
        · exact ⟨_, start.le, start ▸ inside, firstEq⟩
        · exact ⟨index, by omega, below, rfl⟩
      · rintro ⟨index, above, below, rfl⟩
        by_cases here : index = self.head / maxPayloadLength
        · exact Or.inl (by rw [here, firstEq])
        · refine Or.inr ⟨index, ?_, below, rfl⟩
          rw [start] at above ⊢
          simp only [maxPayloadLength] at above below here ⊢
          omega

theorem mem_collect_new {source : List UInt8} {chunk : Chunk} :
    chunk ∈ (new source).collect ↔
      ∃ index, index * maxPayloadLength < source.length ∧ chunk = chunkAt source index := by
  rw [mem_collect (new_aligned source)]
  constructor
  · rintro ⟨index, _, below, same⟩
    exact ⟨index, below, same⟩
  · rintro ⟨index, below, same⟩
    exact ⟨index, Nat.zero_le _, below, same⟩

end ReadableBuffer
end Ubass

import Ubass.Api.InvalidAreas
import Ubass.Api.Wanted
import Ubass.Api.Writes
import Ubass.Exchange.Arithmetic
import Ubass.Manager.Sweep

/-!
# Byte offsets as positions

A `BytePosition` is a `u32`, the buffers and their heads are sized by `usize`, and nothing
bounds the length of a buffer.  The last chunk of a source has to start below `2 ^ 32`.  The
receiver's head steps a whole chunk past the end before it is set back, so there the end
needs another chunk of room; behind a null pointer the head never gets to the end, and the
end of the last entry of the map is the bound.
-/

set_option autoImplicit false

namespace Ubass

/-! ## The positions of a source -/

/-- `next` when a chunk is sent, `seek` when the peer asks for it. -/
inductive SourceCall where
  | next
  | seek (position : BytePosition)

def supplier (source : List UInt8) : Machine ReadableBuffer SourceCall where
  initial buf := buf = ReadableBuffer.new source
  step buf
    | .next => some ((buf.next.map Prod.snd).getD buf)
    | .seek position => some (buf.seek position).2

/-- Every chunk of the source, and every one that is handed out, has its offset as its position. -/
structure SourceExact (source : List UInt8) : Prop where
  chunks : ∀ index, index * maxPayloadLength < source.length →
    (chunkAt source index).1.toNat = index * maxPayloadLength
  distinct : ∀ index other, index * maxPayloadLength < source.length →
    other * maxPayloadLength < source.length →
    (chunkAt source index).1 = (chunkAt source other).1 → index = other
  next : ∀ buf, (supplier source).Reachable buf → ∀ chunk rest, buf.next = some (chunk, rest) →
    chunk.1.toNat = buf.head
  seek : ∀ buf, (supplier source).Reachable buf → buf.isDone = false → ∀ position,
    (buf.seek position).1.toNat = buf.head

/-- The last chunk starts at a `u32`. -/
def sourceBound : Nat := (2 ^ 32 / maxPayloadLength + 1) * maxPayloadLength

namespace ReadableBuffer

theorem supplier_reachable {source : List UInt8} {buf : ReadableBuffer}
    (reachable : (supplier source).Reachable buf) : buf.buffer = source ∧ buf.Aligned := by
  refine @Machine.reachable_invariant _ _ (supplier source)
    (fun buf => buf.buffer = source ∧ buf.Aligned) ?_ ?_ buf reachable
  · rintro _ rfl
    exact ⟨rfl, new_aligned source⟩
  · rintro state call next ⟨same, aligned⟩ stepped
    cases call with
    | seek position =>
        cases stepped
        exact ⟨same, seek_aligned state position⟩
    | next =>
        cases stepped
        cases yields : state.next with
        | none => exact ⟨same, aligned⟩
        | some pair =>
            obtain ⟨_, _, _, rest, restAligned⟩ := next_aligned aligned yields
            refine ⟨?_, restAligned⟩
            simp only [Option.map_some, Option.getD_some, rest, same]

theorem start_lt {source : List UInt8} (fits : source.length ≤ sourceBound) {index : Nat}
    (inside : index * maxPayloadLength < source.length) :
    index * maxPayloadLength < 2 ^ 32 := by
  simp only [sourceBound, maxPayloadLength] at fits inside ⊢
  omega

theorem Aligned.head_lt {buf : ReadableBuffer} (aligned : buf.Aligned)
    (fits : buf.buffer.length ≤ sourceBound) (before : buf.head < buf.len) :
    buf.head < 2 ^ 32 := by
  have divides := aligned.stands.resolve_left (by omega)
  rw [← Nat.div_mul_cancel divides] at before ⊢
  exact start_lt fits before

theorem sourceExact_iff (source : List UInt8) :
    SourceExact source ↔ source.length ≤ sourceBound := by
  constructor
  · intro exact
    by_contra long
    have position := exact.chunks (2 ^ 32 / maxPayloadLength + 1) (by
      rw [← sourceBound]
      omega)
    have bound := (chunkAt source (2 ^ 32 / maxPayloadLength + 1)).1.lt
    rw [position, maxPayloadLength] at bound
    omega
  · intro fits
    have chunks : ∀ index, index * maxPayloadLength < source.length →
        (chunkAt source index).1.toNat = index * maxPayloadLength :=
      fun index inside => BytePosition.toNat_ofNat_of_lt (start_lt fits inside)
    refine ⟨chunks, ?_, ?_, ?_⟩
    · intro index other inside otherInside same
      have offsets := congrArg BytePosition.toNat same
      rw [chunks index inside, chunks other otherInside] at offsets
      exact Nat.eq_of_mul_eq_mul_right WriteableBuffer.maxPayloadLength_pos offsets
    · intro buf reachable chunk rest yields
      obtain ⟨same, aligned⟩ := supplier_reachable reachable
      obtain ⟨before, rfl, _⟩ := next_eq_some yields
      exact BytePosition.toNat_ofNat_of_lt (aligned.head_lt (by rw [same]; exact fits) before)
    · intro buf reachable notDone position
      obtain ⟨same, aligned⟩ := supplier_reachable reachable
      have before : buf.head < buf.len := Nat.lt_of_not_le (of_decide_eq_false notDone)
      exact BytePosition.toNat_ofNat_of_lt (aligned.head_lt (by rw [same]; exact fits) before)

end ReadableBuffer

/-! ## The positions of a receive buffer -/

namespace WriteableBuffer

/-- The positions the buffer computes are the offsets of its chunks, and no sum of the head or of
the ranges to ask for leaves a `u32`. -/
structure PositionsExact (buf : WriteableBuffer) : Prop where
  head : ∀ call : ReceiveCall, call.overflows buf = false
  ending : (BytePosition.ofNat buf.len).toNat = buf.len
  chunks : ∀ index < buf.map.length,
    (BytePosition.ofNat (index * maxPayloadLength)).toNat = index * maxPayloadLength
  distinct : ∀ index < buf.map.length, ∀ other < buf.map.length,
    BytePosition.ofNat (index * maxPayloadLength) = BytePosition.ofNat (other * maxPayloadLength) →
    index = other
  requested : ∀ areas, areas = buf.allInvalidAreas ∨ areas = buf.requestableAreas → ∀ active,
    ∀ position ∈ StreamingFrom.positionsOutside areas active,
      ∃ index < buf.map.length, position.toNat = index * maxPayloadLength
  joined : ∀ receiving : StreamingFrom, receiving.buffer = buf → ∀ fec batchEnd clock,
    StreamState.scoreOverflows receiving fec batchEnd clock = false

end WriteableBuffer

def ReceiveExact (profile : Profile) (buffer : Buffer) : Prop :=
  ∀ calls buf, (receiver profile).run (WriteableBuffer.new buffer) calls = some buf →
    buf.PositionsExact

/-- There is room for a chunk behind the end, or the pointer is null and the last entry of the map
ends at a `u32`. -/
def ReceiveFits (buffer : Buffer) : Prop :=
  buffer.len + maxPayloadLength < 2 ^ 32 ∨
    (buffer.memory = none ∧
      (buffer.len / maxPayloadLength + 1) * maxPayloadLength < 2 ^ 32)

namespace WriteableBuffer

theorem mapEnd_lt {buffer : Buffer} (fits : ReceiveFits buffer) :
    (buffer.len / maxPayloadLength + 1) * maxPayloadLength < 2 ^ 32 := by
  rcases fits with fits | ⟨_, fits⟩
  · simp only [maxPayloadLength] at fits ⊢
    omega
  · exact fits

structure Fitting (buffer : Buffer) (buf : WriteableBuffer) : Prop where
  len : buf.len = buffer.len
  memory : buf.buffer.memory = none ↔ buffer.memory = none
  mirror : buf.AreasMirror
  sized : buffer.memory ≠ none → buf.Sized

theorem new_fitting {buffer : Buffer} (fits : ReceiveFits buffer) : (new buffer).Fitting buffer := by
  refine ⟨rfl, Iff.rfl, new_areasMirror buffer, ?_⟩
  intro present
  rcases fits with fits | ⟨missing, _⟩
  · exact new_sized fits
  · exact absurd missing present

theorem apply_fitting {buffer : Buffer} {buf : WriteableBuffer} (fitting : buf.Fitting buffer)
    (call : ReceiveCall) : (call.apply buf).1.Fitting buffer := by
  refine ⟨(apply_len buf call).trans fitting.len, (apply_memory_eq_none buf call).trans fitting.memory,
    apply_areasMirror fitting.mirror call, ?_⟩
  intro present
  cases call with
  | write position toWrite => exact (write_sized (fitting.sized present) position toWrite).2
  | seek position => exact (seekHead_sized (fitting.sized present) position).2

theorem fitting_of_run {profile : Profile} {buffer : Buffer} (fits : ReceiveFits buffer)
    {calls : List ReceiveCall} {buf : WriteableBuffer}
    (ran : (receiver profile).run (new buffer) calls = some buf) : buf.Fitting buffer := by
  refine (receiver profile).run_preserves ?_ (new_fitting fits) ran
  intro state call next fitting stepped
  obtain ⟨_, rfl⟩ := step_receiver_eq_some.mp stepped
  exact apply_fitting fitting call

theorem advanceOverflows_eq {self : WriteableBuffer} (inside : self.head.toNat ≤ self.len) :
    self.advanceOverflows =
      decide (2 ^ 32 ≤ self.head.toNat +
        filledRun (self.map.drop (self.head.toNat / maxPayloadLength)) * maxPayloadLength) := by
  rw [advanceOverflows, positionToIndex_eq_some.mpr ⟨inside, rfl⟩]
  exact advanceLoopOverflows_eq _ _

theorem not_advanceOverflows_of_aligned {self : WriteableBuffer}
    (fits : (self.len / maxPayloadLength + 1) * maxPayloadLength < 2 ^ 32)
    (inside : self.head.toNat ≤ self.len) (aligned : maxPayloadLength ∣ self.head.toNat) :
    self.advanceOverflows = false := by
  rw [advanceOverflows_eq inside, decide_eq_false_iff_not, Nat.not_le]
  have start := Nat.div_mul_cancel aligned
  have run := filledRun_le (self.map.drop (self.head.toNat / maxPayloadLength))
  rw [List.length_drop, self.map_length, show self.buffer.len = self.len from rfl] at run
  have below := self.index_lt_map_length inside
  rw [self.map_length, show self.buffer.len = self.len from rfl] at below
  calc self.head.toNat +
        filledRun (self.map.drop (self.head.toNat / maxPayloadLength)) * maxPayloadLength
      = (self.head.toNat / maxPayloadLength +
          filledRun (self.map.drop (self.head.toNat / maxPayloadLength))) * maxPayloadLength := by
        rw [Nat.add_mul, start]
    _ ≤ (self.len / maxPayloadLength + 1) * maxPayloadLength :=
        Nat.mul_le_mul_right _ (by omega)
    _ < 2 ^ 32 := fits

theorem not_overflows_of_null {buf : WriteableBuffer} (null : buf.buffer.memory = none)
    (fits : (buf.len / maxPayloadLength + 1) * maxPayloadLength < 2 ^ 32) (call : ReceiveCall) :
    call.overflows buf = false := by
  cases call with
  | write position toWrite =>
      have stepped := write_step buf position toWrite
      generalize result : buf.write position toWrite = next at stepped
      cases stepped with
      | rejected error rejects => simp [ReceiveCall.overflows, writeOverflows, rejects]
      | null accepts missing map buffer head =>
          simp [ReceiveCall.overflows, writeOverflows, buffer, Buffer.asMut, missing]
      | written memory copied accepts present =>
          rw [null] at present
          cases present
  | seek position =>
      have stepped := seekHead_step buf position
      generalize result : buf.seekHead position = next at stepped
      rw [ReceiveCall.overflows]
      cases stepped with
      | outside beyond =>
          have index : buf.positionToIndex position = none := by rw [positionToIndex, if_pos beyond]
          simp [seekOverflows, index]
      | backward inside behind =>
          have index := positionToIndex_eq_some.mpr ⟨inside, rfl⟩
          simp [seekOverflows, index, Nat.not_lt_of_le behind]
      | forward moved inside ahead buffer map _ head overflows =>
          have floor := Nat.div_mul_le_self position.toNat maxPayloadLength
          have len : moved.len = buf.len := congrArg Buffer.len buffer
          rw [overflows]
          exact not_advanceOverflows_of_aligned (len ▸ fits) (by omega)
            (head ▸ Nat.dvd_mul_left _ _)

theorem not_overflows {buffer : Buffer} {buf : WriteableBuffer} (fits : ReceiveFits buffer)
    (fitting : buf.Fitting buffer) (call : ReceiveCall) : call.overflows buf = false := by
  by_cases null : buffer.memory = none
  · exact not_overflows_of_null (fitting.memory.mpr null) (fitting.len ▸ mapEnd_lt fits) call
  · have sized := fitting.sized null
    cases call with
    | write position toWrite => exact (write_sized sized position toWrite).1
    | seek position => exact (seekHead_sized sized position).1

theorem chunkEnd_lt {self : WriteableBuffer}
    (fits : (self.len / maxPayloadLength + 1) * maxPayloadLength < 2 ^ 32) {index : Nat}
    (below : index < self.map.length) :
    index * maxPayloadLength + maxPayloadLength < 2 ^ 32 := by
  rw [self.map_length, show self.buffer.len = self.len from rfl] at below
  have scaled := Nat.mul_le_mul_right maxPayloadLength (Nat.succ_le_of_lt below)
  rw [Nat.succ_mul] at scaled
  omega

theorem exists_chunk_of_requested {self : WriteableBuffer} (mirror : self.AreasMirror)
    {areas : List Area} (picked : areas = self.allInvalidAreas ∨ areas = self.requestableAreas)
    {active : List Span} {position : BytePosition}
    (member : position ∈ StreamingFrom.positionsOutside areas active) :
    ∃ index < self.map.length, position = BytePosition.ofNat (index * maxPayloadLength) := by
  obtain ⟨⟨area, inAreas, index, inside, rfl⟩, _⟩ := StreamingFrom.mem_positionsOutside.mp member
  have listed : area ∈ self.invalidAreas := by
    rcases picked with rfl | rfl
    · exact inAreas
    · exact invalid_of_requestable inAreas
  have unfilled := (mirror.covers index).mpr ⟨area, listed, inside⟩
  exact ⟨index, (List.getElem?_eq_some_iff.mp unfilled).1, rfl⟩

theorem positionsExact_of_fitting {buffer : Buffer} {buf : WriteableBuffer}
    (fits : ReceiveFits buffer) (fitting : buf.Fitting buffer) : buf.PositionsExact := by
  have mapEnd := mapEnd_lt fits
  rw [← fitting.len] at mapEnd
  have chunks : ∀ index < buf.map.length,
      (BytePosition.ofNat (index * maxPayloadLength)).toNat = index * maxPayloadLength := by
    intro index below
    have room := chunkEnd_lt mapEnd below
    exact BytePosition.toNat_ofNat_of_lt (by omega)
  have joins : ∀ receiving : StreamingFrom, ∀ areas,
      (areas = buf.allInvalidAreas ∨ areas = buf.requestableAreas) → ∀ active now,
        coalesceOverflows (receiving.reserveForRequest
          (StreamingFrom.positionsOutside areas active) now).2 = false := by
    intro receiving areas picked active now
    refine coalesceOverflows_eq_false ?_
    intro position accepted
    have spec := (receiving.sweep fun _ => now).reserve_spec now
      (StreamingFrom.positionsOutside areas active)
    obtain ⟨index, below, rfl⟩ :=
      exists_chunk_of_requested fitting.mirror picked (spec.sublist.subset accepted)
    rw [chunks index below]
    exact chunkEnd_lt mapEnd below
  constructor
  case head => exact not_overflows fits fitting
  case ending =>
    refine BytePosition.toNat_ofNat_of_lt ?_
    simp only [maxPayloadLength] at mapEnd
    omega
  case chunks => exact chunks
  case distinct =>
    intro index below other otherBelow same
    have offsets := congrArg BytePosition.toNat same
    rw [chunks index below, chunks other otherBelow] at offsets
    exact Nat.eq_of_mul_eq_mul_right maxPayloadLength_pos offsets
  case requested =>
    intro areas picked active position member
    obtain ⟨index, below, rfl⟩ := exists_chunk_of_requested fitting.mirror picked member
    exact ⟨index, below, chunks index below⟩
  case joined =>
    rintro receiving rfl fec batchEnd clock
    simp [StreamState.scoreOverflows, joins receiving _ (Or.inl rfl),
      joins receiving _ (Or.inr rfl)]

/-! ## A head that leaves its range -/

theorem seekOverflows_eq {self : WriteableBuffer} {position : BytePosition}
    (inside : position.toNat ≤ self.len) (ahead : self.head.toNat < position.toNat) :
    self.seekOverflows position =
      decide (2 ^ 32 ≤ position.toNat / maxPayloadLength * maxPayloadLength +
        filledRun (self.map.drop (position.toNat / maxPayloadLength)) * maxPayloadLength) := by
  have stepped := seekHead_step self position
  generalize result : self.seekHead position = next at stepped
  cases stepped with
  | outside beyond => omega
  | backward _ behind => omega
  | forward moved _ _ buffer map _ head overflows =>
      have floor := Nat.div_mul_le_self position.toNat maxPayloadLength
      have len : moved.len = self.len := congrArg Buffer.len buffer
      rw [overflows, advanceOverflows_eq (by omega), head, map,
        Nat.mul_div_cancel _ maxPayloadLength_pos]

theorem step_of_not_overflows {profile : Profile} {buf : WriteableBuffer} {call : ReceiveCall}
    (fine : call.overflows buf = false) :
    (receiver profile).step buf call = some (call.apply buf).1 :=
  step_receiver_eq_some.mpr ⟨by simp [fine], rfl⟩

theorem new_accepts {buffer : Buffer} {index : Nat}
    (small : index * maxPayloadLength < 2 ^ 32)
    (inside : index * maxPayloadLength ≤ buffer.len) :
    (new buffer).writeRejects (BytePosition.ofNat (index * maxPayloadLength))
      (List.replicate (min maxPayloadLength (buffer.len - index * maxPayloadLength)) 0) =
        none := by
  have start := BytePosition.toNat_ofNat_of_lt small
  refine writeRejects_eq_none.mpr ⟨?_, ?_, ?_⟩
  · rw [List.length_replicate, start, show (new buffer).len = buffer.len from rfl]
    omega
  · have below := (new buffer).index_lt_map_length inside
    rw [← start, (new buffer).map_length] at below
    exact List.getElem?_replicate_of_lt below
  · rw [List.length_replicate, start, show (new buffer).len = buffer.len from rfl]
    simp only [maxPayloadLength] at inside ⊢
    omega

theorem advanceHead_at_start {self : WriteableBuffer} (start : self.head.toNat = 0)
    (gap : self.map[0]? = some false) :
    self.advanceHead = self ∧ self.advanceOverflows = false := by
  have unfilled : self.map[self.head.toNat / maxPayloadLength]? = some false := by
    rw [start]
    exact gap
  have headInv : self.HeadInv := by
    refine ⟨by omega, Or.inr ⟨?_, unfilled⟩⟩
    rw [start]
    exact Nat.dvd_zero _
  refine ⟨advanceHead_of_headInv headInv, ?_⟩
  rw [advanceOverflows_eq headInv.inside, filledRun_drop_eq_zero unfilled, start]
  rfl

theorem exists_marked (profile : Profile) {buffer : Buffer} {index : Nat} (later : 0 < index)
    (small : index * maxPayloadLength < 2 ^ 32)
    (inside : index * maxPayloadLength ≤ buffer.len) :
    ∃ call buf, (receiver profile).step (new buffer) call = some buf ∧
      buf.map = (new buffer).map.set index true ∧ buf.head.toNat = 0 ∧ buf.len = buffer.len ∧
      (buf.buffer.memory = none ↔ buffer.memory = none) := by
  let position := BytePosition.ofNat (index * maxPayloadLength)
  let toWrite : List UInt8 :=
    List.replicate (min maxPayloadLength (buffer.len - index * maxPayloadLength)) 0
  have place : position.toNat / maxPayloadLength = index := by
    rw [BytePosition.toNat_ofNat_of_lt small, Nat.mul_div_cancel _ maxPayloadLength_pos]
  have memory := apply_memory_eq_none (new buffer) (.write position toWrite)
  have len := apply_len (new buffer) (.write position toWrite)
  have stepped := write_step (new buffer) position toWrite
  generalize result : (new buffer).write position toWrite = next at stepped
  have applied : (ReceiveCall.write position toWrite).apply (new buffer) =
      (next.1, next.2.toOption) := by rw [ReceiveCall.apply, result]
  rw [applied] at memory len
  refine ⟨.write position toWrite, next.1, ?_⟩
  have stores : (ReceiveCall.write position toWrite).overflows (new buffer) = false →
      (receiver profile).step (new buffer) (.write position toWrite) = some next.1 := by
    intro fine
    rw [step_of_not_overflows fine, applied]
  cases stepped with
  | rejected error rejects =>
      rw [new_accepts small inside] at rejects
      cases rejects
  | null _ missing map buffer head =>
      rw [place] at map
      refine ⟨stores ?_, map, congrArg BytePosition.toNat head, len, memory⟩
      simp [ReceiveCall.overflows, writeOverflows, buffer, Buffer.asMut, missing]
  | written bytes copied _ _ map _ head _ overflows =>
      rw [place] at map
      have gap : copied.map[0]? = some false := by
        rw [map, List.getElem?_set_ne (by omega)]
        exact List.getElem?_replicate_of_lt (Nat.succ_pos _)
      obtain ⟨stays, fine⟩ := advanceHead_at_start (congrArg BytePosition.toNat head) gap
      rw [stays] at stores memory len ⊢
      refine ⟨stores ?_, map, congrArg BytePosition.toNat head, len, memory⟩
      rw [ReceiveCall.overflows, overflows, fine]

/-- The last chunk that starts at a `u32`. -/
def lastChunk : Nat := 2 ^ 32 / maxPayloadLength

/-- The last chunk that starts at a `u32` is stored and then sought. -/
theorem not_receiveExact_of_mapEnd {profile : Profile} {buffer : Buffer}
    (narrow : 2 ^ 32 ≤ (buffer.len / maxPayloadLength + 1) * maxPayloadLength) :
    ¬ ReceiveExact profile buffer := by
  intro exact
  have small : lastChunk * maxPayloadLength < 2 ^ 32 := by decide
  have start := BytePosition.toNat_ofNat_of_lt small
  have inside : lastChunk * maxPayloadLength ≤ buffer.len := by
    simp only [lastChunk, maxPayloadLength] at narrow ⊢
    omega
  obtain ⟨call, buf, stored, map, head, len, _⟩ :=
    exists_marked profile (by decide) small inside
  have ran : (receiver profile).run (new buffer) [call] = some buf :=
    (receiver profile).run_cons_eq_some.mpr ⟨buf, stored, rfl⟩
  have filled : buf.map[lastChunk]? = some true := by
    have below := (new buffer).index_lt_map_length inside
    rw [Nat.mul_div_cancel _ maxPayloadLength_pos] at below
    rw [map]
    exact List.getElem?_set_self below
  have fine := (exact [call] buf ran).head (.seek (BytePosition.ofNat (lastChunk * maxPayloadLength)))
  have ahead : buf.head.toNat < lastChunk * maxPayloadLength := by
    rw [head]
    decide
  rw [ReceiveCall.overflows, seekOverflows_eq (by omega) (by omega), start,
    Nat.mul_div_cancel _ maxPayloadLength_pos, decide_eq_false_iff_not] at fine
  have run := one_le_filledRun_drop filled
  simp only [lastChunk, maxPayloadLength] at fine run
  omega

theorem seekHead_last {self : WriteableBuffer} (small : self.len < 2 ^ 32)
    (filled : self.map[self.len / maxPayloadLength]? = some true) {position : BytePosition}
    (inside : position.toNat ≤ self.len) (ahead : self.head.toNat < position.toNat)
    (last : position.toNat / maxPayloadLength = self.len / maxPayloadLength) :
    (self.seekHead position).1.head.toNat = self.len := by
  have least := one_le_filledRun_drop filled
  have most := filledRun_le (self.map.drop (self.len / maxPayloadLength))
  have length := self.map_length
  rw [show self.buffer.len = self.len from rfl] at length
  rw [List.length_drop, length] at most
  rw [seekHead_head, if_neg (by omega), last, runEnd, if_pos (by omega),
    BytePosition.toNat_ofNat_of_lt small]

theorem writeOverflows_at_end {self : WriteableBuffer} (present : self.buffer.memory ≠ none)
    (narrow : 2 ^ 32 ≤ self.len + maxPayloadLength) (atEnd : self.head.toNat = self.len)
    (filled : self.map[self.len / maxPayloadLength]? = some true)
    (gap : self.map[0]? = some false) :
    self.writeOverflows (BytePosition.ofNat 0) (List.replicate maxPayloadLength 0) = true := by
  have accepts : self.writeRejects (BytePosition.ofNat 0) (List.replicate maxPayloadLength 0) =
      none := by
    refine writeRejects_eq_none.mpr ⟨?_, gap, Or.inl List.length_replicate⟩
    rw [List.length_replicate, show (BytePosition.ofNat 0).toNat = 0 from rfl]
    simp only [maxPayloadLength] at narrow ⊢
    omega
  have stepped := write_step self (BytePosition.ofNat 0) (List.replicate maxPayloadLength 0)
  generalize self.write (BytePosition.ofNat 0) (List.replicate maxPayloadLength 0) = result
    at stepped
  cases stepped with
  | rejected error rejects =>
      rw [accepts] at rejects
      cases rejects
  | null _ missing => exact absurd missing present
  | written memory copied _ _ map len head _ overflows =>
      have still : copied.map[self.len / maxPayloadLength]? = some true := by
        rw [map]
        exact filled_set filled
      have run := one_le_filledRun_drop still
      rw [overflows, advanceOverflows_eq (by rw [head, len, atEnd]), head, atEnd, decide_eq_true_eq]
      simp only [maxPayloadLength] at narrow run ⊢
      omega

/-- The last chunk is stored and sought, so that the head is at the end, and then the first one is
stored. -/
theorem not_receiveExact_of_end {profile : Profile} {buffer : Buffer}
    (present : buffer.memory ≠ none) (narrow : 2 ^ 32 ≤ buffer.len + maxPayloadLength)
    (mapEnd : (buffer.len / maxPayloadLength + 1) * maxPayloadLength < 2 ^ 32) :
    ¬ ReceiveExact profile buffer := by
  intro exact
  have small : buffer.len < 2 ^ 32 := by
    simp only [maxPayloadLength] at mapEnd
    omega
  have later : 0 < buffer.len / maxPayloadLength := by
    simp only [maxPayloadLength] at narrow ⊢
    omega
  have inside := Nat.div_mul_le_self buffer.len maxPayloadLength
  have start := BytePosition.toNat_ofNat_of_lt (Nat.lt_of_le_of_lt inside small)
  obtain ⟨call, buf, stored, map, head, len, memory⟩ :=
    exists_marked profile later (Nat.lt_of_le_of_lt inside small) inside
  have ran : (receiver profile).run (new buffer) [call] = some buf :=
    (receiver profile).run_cons_eq_some.mpr ⟨buf, stored, rfl⟩
  have filled : buf.map[buffer.len / maxPayloadLength]? = some true := by
    rw [map]
    exact List.getElem?_set_self ((new buffer).index_lt_map_length (Nat.le_refl _))
  have gap : buf.map[0]? = some false := by
    rw [map, List.getElem?_set_ne (by omega)]
    exact List.getElem?_replicate_of_lt (Nat.succ_pos _)
  let position := BytePosition.ofNat (buffer.len / maxPayloadLength * maxPayloadLength)
  have ahead : buf.head.toNat < position.toNat := by
    rw [head, start]
    exact Nat.mul_pos later maxPayloadLength_pos
  have atEnd : (buf.seekHead position).1.head.toNat = buf.len :=
    seekHead_last (len ▸ small) (len ▸ filled) (by rw [start, len]; exact inside) ahead
      (by rw [start, len, Nat.mul_div_cancel _ maxPayloadLength_pos])
  have sought : (receiver profile).step buf (.seek position) = some (buf.seekHead position).1 :=
    step_of_not_overflows ((exact [call] buf ran).head (.seek position))
  have ranOn : (receiver profile).run (new buffer) [call, .seek position] =
      some (buf.seekHead position).1 :=
    (receiver profile).run_cons_eq_some.mpr
      ⟨buf, stored, (receiver profile).run_cons_eq_some.mpr ⟨_, sought, rfl⟩⟩
  have nextLen : (buf.seekHead position).1.len = buffer.len :=
    (congrArg Buffer.len (seekHead_buffer buf position)).trans len
  have leaves := @writeOverflows_at_end (buf.seekHead position).1
    (by rw [seekHead_buffer, ne_eq, memory]; exact present) (by rw [nextLen]; exact narrow)
    (by rw [atEnd, nextLen, len]) (by rw [seekHead_map, nextLen]; exact filled)
    (by rw [seekHead_map]; exact gap)
  have fine := (exact _ _ ranOn).head
    (.write (BytePosition.ofNat 0) (List.replicate maxPayloadLength 0))
  rw [ReceiveCall.overflows, leaves] at fine
  cases fine

theorem receiveExact_iff (profile : Profile) (buffer : Buffer) :
    ReceiveExact profile buffer ↔ ReceiveFits buffer := by
  constructor
  · intro exact
    by_contra narrow
    simp only [ReceiveFits, not_or, not_and, Nat.not_lt] at narrow
    obtain ⟨narrow, mapEnd⟩ := narrow
    by_cases below : (buffer.len / maxPayloadLength + 1) * maxPayloadLength < 2 ^ 32
    · refine not_receiveExact_of_end ?_ narrow below exact
      intro null
      have := mapEnd null
      omega
    · exact not_receiveExact_of_mapEnd (Nat.le_of_not_lt below) exact
  · intro fits calls buf ran
    exact positionsExact_of_fitting fits (fitting_of_run fits ran)

/-- The buffer ends at a `u32`, and the end of its last chunk does not. -/
theorem not_receiveFits_of_len {buffer : Buffer} (len : buffer.len = 2 ^ 32 - 1) :
    ¬ ReceiveFits buffer := by
  rintro (room | ⟨_, mapEnd⟩)
  · rw [len, maxPayloadLength] at room
    omega
  · rw [len, maxPayloadLength] at mapEnd
    omega

end WriteableBuffer

/-- The positions of a source are exact and those of a receive buffer never leave a `u32` if and
only if the last chunk of the one starts, and a chunk behind the other ends, below `2 ^ 32`. -/
theorem positions_exact_iff (profile : Profile) (source : List UInt8) (buffer : Buffer) :
    SourceExact source ∧ ReceiveExact profile buffer ↔
      source.length ≤ sourceBound ∧ ReceiveFits buffer :=
  and_congr (ReadableBuffer.sourceExact_iff source)
    (WriteableBuffer.receiveExact_iff profile buffer)

/-- A source whose last chunk is one byte behind the `u32` range, and a buffer whose end is the
last `u32`. -/
theorem positions_wrap :
    ¬ SourceExact (List.replicate (sourceBound + 1) 0) ∧
      ¬ ReceiveExact .overflowChecks (Buffer.ofBytes (List.replicate (2 ^ 32 - 1) 0)) := by
  constructor
  · rw [ReadableBuffer.sourceExact_iff, List.length_replicate]
    exact Nat.not_succ_le_self sourceBound
  · rw [WriteableBuffer.receiveExact_iff]
    exact WriteableBuffer.not_receiveFits_of_len List.length_replicate

end Ubass

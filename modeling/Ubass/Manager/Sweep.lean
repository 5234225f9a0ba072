import Ubass.Api.Wanted
import Ubass.Manager.Requests
import Ubass.Manager.Retransmit

/-!
# The final sweep

Once the head is at the end, `finalize_sweep_pick` asks for every chunk that is
still missing.  The areas give the positions in increasing order, the filter and
the markers leave out some of them, and joining neighbours neither loses nor
repeats one: the ranges cover exactly the chunks that are wanted (`Wanted`).
-/

set_option autoImplicit false

namespace Ubass

open Runs

/-! ## Coalescing positions in increasing order -/

namespace ByteRange

def Apart (left right : ByteRange) : Prop :=
  left.start.toNat + left.length.toNat ≤ right.start.toNat

/-- A range that is joined with a later one starts where it did and ends where the later one does. -/
theorem concat_apart {self other joined : ByteRange} (whole : self.Whole)
    (wholeOther : other.Whole) (apart : Apart self other)
    (concat : self.concat other = some joined) :
    joined.start.toNat = self.start.toNat ∧
      joined.start.toNat + joined.length.toNat = other.start.toNat + other.length.toNat := by
  rw [ByteRange.concat, whole.stop, wholeOther.stop] at concat
  obtain ⟨⟨adjacent, fits⟩, same⟩ := Option.ite_none_right_eq_some.mp concat
  cases same
  have length := length_concat fits
  simp only [Apart] at apart
  simp only [length]
  split
  · omega
  · omega

end ByteRange

theorem coalesceFrom_apart {current : ByteRange} {rest : List ByteRange} (whole : current.Whole)
    (wholeRest : ∀ range ∈ rest, range.Whole) (before : ∀ range ∈ rest, current.Apart range)
    (apart : rest.Pairwise ByteRange.Apart) :
    (coalesceFrom current rest).Pairwise ByteRange.Apart ∧
      ∀ range ∈ coalesceFrom current rest, current.start.toNat ≤ range.start.toNat := by
  induction rest generalizing current with
  | nil => simp [coalesceFrom]
  | cons next rest ih =>
      have wholeNext := wholeRest next List.mem_cons_self
      have wholeLater : ∀ range ∈ rest, range.Whole := fun range listed =>
        wholeRest range (List.mem_cons_of_mem _ listed)
      have beforeNext := before next List.mem_cons_self
      obtain ⟨nextBefore, restApart⟩ := List.pairwise_cons.mp apart
      rw [coalesceFrom]
      cases joins : current.concat next with
      | some joined =>
          obtain ⟨start, stop⟩ := ByteRange.concat_apart whole wholeNext beforeNext joins
          have wholeJoined := (ByteRange.concat_spec whole wholeNext joins).1
          have joinedBefore : ∀ range ∈ rest, joined.Apart range := by
            intro range listed
            have later := nextBefore range listed
            simp only [ByteRange.Apart] at later ⊢
            omega
          have joinedRest := ih wholeJoined wholeLater joinedBefore restApart
          rw [start] at joinedRest
          exact joinedRest
      | none =>
          obtain ⟨laterApart, laterFrom⟩ := ih wholeNext wholeLater nextBefore restApart
          simp only [ByteRange.Apart] at beforeNext
          refine ⟨List.pairwise_cons.mpr ⟨?_, laterApart⟩, ?_⟩
          · intro range listed
            have starts := laterFrom range listed
            simp only [ByteRange.Apart]
            omega
          · intro range listed
            rcases List.mem_cons.mp listed with rfl | later
            · exact Nat.le_refl _
            · have starts := laterFrom range later
              omega

theorem coalesceBytePositions_apart {positions : List BytePosition}
    (aligned : ∀ position ∈ positions, position.toNat % maxPayloadLength = 0)
    (fits : ∀ position ∈ positions, position.toNat + maxPayloadLength < 2 ^ 32)
    (increasing : positions.Pairwise fun left right => left.toNat < right.toNat) :
    (coalesceBytePositions positions).Pairwise ByteRange.Apart := by
  have wholes : ∀ range ∈ positions.map fun position => ByteRange.new position maxPayloadLength,
      range.Whole := by
    intro range listed
    obtain ⟨position, member, rfl⟩ := List.mem_map.mp listed
    exact ByteRange.new_whole (aligned position member) (fits position member)
  have apart : (positions.map fun position =>
      ByteRange.new position maxPayloadLength).Pairwise ByteRange.Apart := by
    refine List.pairwise_map.mpr (increasing.imp_of_mem ?_)
    intro left right leftListed rightListed less
    have leftAligned := aligned left leftListed
    have rightAligned := aligned right rightListed
    have leftStart : (ByteRange.new left maxPayloadLength).start = left := rfl
    have rightStart : (ByteRange.new right maxPayloadLength).start = right := rfl
    rw [ByteRange.Apart, ByteRange.length_new_maxPayloadLength, leftStart, rightStart]
    simp only [maxPayloadLength] at *
    omega
  rw [coalesceBytePositions]
  generalize (positions.map fun position => ByteRange.new position maxPayloadLength) = ranges at *
  cases ranges with
  | nil => exact .nil
  | cons current rest =>
      obtain ⟨before, restApart⟩ := List.pairwise_cons.mp apart
      exact (coalesceFrom_apart (wholes current List.mem_cons_self)
        (fun range listed => wholes range (List.mem_cons_of_mem _ listed)) before restApart).1

namespace StreamingFrom

/-! ## What is wanted -/

def Outside (fecActive : List Span) (index : Nat) : Prop :=
  ∀ range ∈ fecActive,
    ¬ (range.start ≤ index * maxPayloadLength ∧ index * maxPayloadLength < range.stop)

/-- A marker that is not older than `PENDING_TTL_MS` is left for the chunk. -/
def Fresh (stream : StreamingFrom) (now : Timestamp) (index : Nat) : Prop :=
  ∃ since, stream.pending.get index = some since ∧ since.beenLongerThan now pendingTtlMs = false

/-- The chunk is unoccupied, outside the active ranges and has no fresh marker. -/
def Wanted (stream : StreamingFrom) (fecActive : List Span) (now : Timestamp) (index : Nat) :
    Prop :=
  stream.buffer.map[index]? = some false ∧ Outside fecActive index ∧ ¬ stream.Fresh now index

/-- The position is the start of an unoccupied chunk outside the active ranges. -/
structure Candidate (buf : WriteableBuffer) (fecActive : List Span) (position : BytePosition) :
    Prop where
  aligned : position.toNat = position.chunk * maxPayloadLength
  unfilled : buf.map[position.chunk]? = some false
  outside : Outside fecActive position.chunk

theorem mul_le_len {buf : WriteableBuffer} {index : Nat} {filled : Bool}
    (entry : buf.map[index]? = some filled) : index * maxPayloadLength ≤ buf.len := by
  have bound := (List.getElem?_eq_some_iff.mp entry).1
  rw [buf.map_length] at bound
  calc index * maxPayloadLength
      ≤ buf.buffer.len / maxPayloadLength * maxPayloadLength :=
        Nat.mul_le_mul_right _ (Nat.le_of_lt_succ bound)
    _ ≤ buf.len := Nat.div_mul_le_self _ _

theorem Candidate.occupied {buf : WriteableBuffer} {fecActive : List Span} {position : BytePosition}
    (candidate : Candidate buf fecActive position) :
    buf.positionOccupied position = some false := by
  have inside := mul_le_len candidate.unfilled
  rw [← candidate.aligned] at inside
  exact WriteableBuffer.positionOccupied_eq_some.mpr ⟨inside, candidate.unfilled⟩

theorem chunk_ofNat {index : Nat} (small : index * maxPayloadLength < 2 ^ 32) :
    (BytePosition.ofNat (index * maxPayloadLength)).chunk = index := by
  rw [BytePosition.chunk, BytePosition.toNat_ofNat_of_lt small,
    Nat.mul_div_cancel _ WriteableBuffer.maxPayloadLength_pos]

theorem mem_positionsOutside {areas : List Area} {fecActive : List Span} {position : BytePosition} :
    position ∈ positionsOutside areas fecActive ↔
      (∃ area ∈ areas, ∃ index, Inside Area.start Area.stop area index ∧
        position = BytePosition.ofNat (index * maxPayloadLength)) ∧
      ∀ range ∈ fecActive, ¬ (range.start ≤ position.toNat ∧ position.toNat < range.stop) := by
  rw [positionsOutside, List.mem_filter, List.mem_flatMap]
  refine and_congr ?_ ?_
  · refine exists_congr fun area => and_congr_right fun _ => ?_
    rw [List.mem_map]
    refine exists_congr fun index => ?_
    rw [List.mem_range'_1, eq_comm (b := position), Inside]
    refine and_congr_left fun _ => ?_
    omega
  · simp

section Buffer

variable {buf : WriteableBuffer} (mirror : buf.AreasMirror)
  (fits : buf.len + maxPayloadLength < 2 ^ 32)
include mirror fits

theorem candidate_of_mem {areas : List Area} (listed : ∀ area ∈ areas, area ∈ buf.invalidAreas)
    {fecActive : List Span} {position : BytePosition}
    (member : position ∈ positionsOutside areas fecActive) :
    Candidate buf fecActive position := by
  obtain ⟨⟨area, inAreas, index, inside, rfl⟩, outside⟩ := mem_positionsOutside.mp member
  have unfilled := (mirror.covers index).mpr ⟨area, listed area inAreas, inside⟩
  have small := mul_le_len unfilled
  have chunk := @chunk_ofNat index (by omega)
  have toNat : (BytePosition.ofNat (index * maxPayloadLength)).toNat = index * maxPayloadLength :=
    BytePosition.toNat_ofNat_of_lt (by omega)
  refine ⟨by rw [chunk, toNat], by rw [chunk]; exact unfilled, ?_⟩
  rw [chunk]
  rw [toNat] at outside
  exact outside

theorem exists_mem_positionsOutside {fecActive : List Span} {index : Nat}
    (unfilled : buf.map[index]? = some false) (outside : Outside fecActive index) :
    ∃ position ∈ positionsOutside buf.allInvalidAreas fecActive, position.chunk = index := by
  obtain ⟨area, listed, inside⟩ := (mirror.covers index).mp unfilled
  have small := mul_le_len unfilled
  refine ⟨BytePosition.ofNat (index * maxPayloadLength), ?_, chunk_ofNat (by omega)⟩
  refine mem_positionsOutside.mpr ⟨⟨area, listed, index, inside, rfl⟩, ?_⟩
  rw [BytePosition.toNat_ofNat_of_lt (by omega)]
  exact outside

theorem positionsOutside_increasing (fecActive : List Span) :
    (positionsOutside buf.allInvalidAreas fecActive).Pairwise
      fun left right => left.toNat < right.toNat := by
  refine List.Pairwise.filter _ ?_
  have small : ∀ area ∈ buf.invalidAreas, ∀ index, Inside Area.start Area.stop area index →
      (BytePosition.ofNat (index * maxPayloadLength)).toNat = index * maxPayloadLength := by
    intro area listed index inside
    have bound := mul_le_len ((mirror.covers index).mpr ⟨area, listed, inside⟩)
    exact BytePosition.toNat_ofNat_of_lt (by omega)
  have within : ∀ area : Area, ∀ index ∈ List.range' area.start (area.stop - area.start),
      Inside Area.start Area.stop area index := by
    intro area index listed
    rw [List.mem_range'_1] at listed
    simp only [Inside]
    omega
  refine List.pairwise_flatMap.mpr ⟨?_, ?_⟩
  · intro area listed
    have ordered : (List.range' area.start (area.stop - area.start)).Pairwise (· < ·) :=
      List.pairwise_lt_range'
    refine List.pairwise_map.mpr (ordered.imp_of_mem ?_)
    intro left right leftListed rightListed less
    rw [small area listed left (within area left leftListed),
      small area listed right (within area right rightListed)]
    exact Nat.mul_lt_mul_of_pos_right less WriteableBuffer.maxPayloadLength_pos
  · refine mirror.separated.imp_of_mem ?_
    intro left right leftListed rightListed apart first firstListed second secondListed
    obtain ⟨firstIndex, firstInside, rfl⟩ := List.mem_map.mp firstListed
    obtain ⟨secondIndex, secondInside, rfl⟩ := List.mem_map.mp secondListed
    have firstWithin := within left firstIndex firstInside
    have secondWithin := within right secondIndex secondInside
    rw [small left leftListed firstIndex firstWithin,
      small right rightListed secondIndex secondWithin]
    refine Nat.mul_lt_mul_of_pos_right ?_ WriteableBuffer.maxPayloadLength_pos
    simp only [Inside] at firstWithin secondWithin
    omega

end Buffer

/-! ## What is asked for -/

theorem get_sweep_eq_none_iff {stream : StreamingFrom} {now : Timestamp} {index : Nat} :
    (stream.sweep fun _ => now).pending.get index = none ↔ ¬ stream.Fresh now index := by
  rw [Option.eq_none_iff_forall_ne_some, Fresh, not_exists]
  refine forall_congr' fun since => ?_
  rw [ne_eq, get_sweep_eq_some]

section Asking

variable {stream : StreamingFrom} {fecActive : List Span} {now : Timestamp}
  {positions : List BytePosition} (fits : stream.buffer.len + maxPayloadLength < 2 ^ 32)
  (candidates : ∀ position ∈ positions, Candidate stream.buffer fecActive position)
include candidates

theorem wanted_of_accepted {index : Nat}
    (accepted : index ∈ (stream.reserveForRequest positions now).2.map BytePosition.chunk) :
    stream.Wanted fecActive now index := by
  obtain ⟨position, taken, rfl⟩ := List.mem_map.mp accepted
  have spec := (stream.sweep fun _ => now).reserve_spec now positions
  have candidate := candidates position (spec.sublist.subset taken)
  exact ⟨candidate.unfilled, candidate.outside,
    get_sweep_eq_none_iff.mp (spec.missing position taken).2⟩

theorem accepted_aligned {position : BytePosition}
    (taken : position ∈ (stream.reserveForRequest positions now).2) :
    position.toNat % maxPayloadLength = 0 := by
  have spec := (stream.sweep fun _ => now).reserve_spec now positions
  rw [(candidates position (spec.sublist.subset taken)).aligned]
  exact Nat.mul_mod_left _ _

include fits

theorem accepted_small {position : BytePosition}
    (taken : position ∈ (stream.reserveForRequest positions now).2) :
    position.toNat + maxPayloadLength < 2 ^ 32 := by
  have spec := (stream.sweep fun _ => now).reserve_spec now positions
  have candidate := candidates position (spec.sublist.subset taken)
  have inside := mul_le_len candidate.unfilled
  rw [← candidate.aligned] at inside
  omega

theorem coalesced_accepted :
    (∀ range ∈ coalesceBytePositions (stream.reserveForRequest positions now).2, range.Whole) ∧
      ∀ index,
        (∃ range ∈ coalesceBytePositions (stream.reserveForRequest positions now).2,
          range.Covers index) ↔
            index ∈ (stream.reserveForRequest positions now).2.map BytePosition.chunk := by
  obtain ⟨wholes, covered⟩ := coalesceBytePositions_spec
    (fun _ taken => accepted_aligned candidates taken)
    (fun _ taken => accepted_small fits candidates taken)
  refine ⟨wholes, ?_⟩
  intro index
  rw [covered, List.mem_map]

theorem coalesced_apart
    (increasing : positions.Pairwise fun left right => left.toNat < right.toNat) :
    (coalesceBytePositions (stream.reserveForRequest positions now).2).Pairwise
      ByteRange.Apart := by
  have spec := (stream.sweep fun _ => now).reserve_spec now positions
  exact coalesceBytePositions_apart (fun _ taken => accepted_aligned candidates taken)
    (fun _ taken => accepted_small fits candidates taken) (increasing.sublist spec.sublist)

end Asking

/-! ## The two policies -/

section Policies

variable {stream : StreamingFrom} (mirror : stream.buffer.AreasMirror)
  (fits : stream.buffer.len + maxPayloadLength < 2 ^ 32) {fecActive : List Span} {now : Timestamp}
include mirror fits

theorem candidate_of_invalid {position : BytePosition}
    (listed : position ∈ positionsOutside stream.buffer.allInvalidAreas fecActive) :
    Candidate stream.buffer fecActive position :=
  candidate_of_mem mirror fits (fun _ inAreas => inAreas) listed

theorem covers_finalize_iff (index : Nat) :
    (∃ range ∈ (stream.finalizeSweepPick fecActive now).2, range.Covers index) ↔
      stream.Wanted fecActive now index := by
  have candidates : ∀ position ∈ positionsOutside stream.buffer.allInvalidAreas fecActive,
      Candidate stream.buffer fecActive position :=
    fun _ listed => candidate_of_invalid mirror fits listed
  refine ((coalesced_accepted fits candidates).2 index).trans ⟨wanted_of_accepted candidates, ?_⟩
  rintro ⟨unfilled, outside, unmarked⟩
  obtain ⟨position, listed, rfl⟩ := exists_mem_positionsOutside mirror fits unfilled outside
  exact ((stream.sweep fun _ => now).reserve_spec now _).complete position listed
    (candidates position listed).occupied (get_sweep_eq_none_iff.mpr unmarked)

theorem wanted_of_scorePolicy {index : Nat}
    (covered : ∃ range ∈ (stream.scorePolicyPick fecActive now).2, range.Covers index) :
    stream.Wanted fecActive now index := by
  have candidates : ∀ position ∈ positionsOutside stream.buffer.requestableAreas fecActive,
      Candidate stream.buffer fecActive position := fun _ listed =>
    candidate_of_mem mirror fits (fun _ scored => WriteableBuffer.invalid_of_requestable scored)
      listed
  exact wanted_of_accepted candidates (((coalesced_accepted fits candidates).2 index).mp covered)

/-- Everything that is unoccupied and outside the active ranges has a fresh marker after the
sweep. -/
theorem fresh_after_finalize {index : Nat} (unfilled : stream.buffer.map[index]? = some false)
    (outside : Outside fecActive index) :
    (stream.finalizeSweepPick fecActive now).1.Fresh now index := by
  have spec := (stream.sweep fun _ => now).reserve_spec now
    (positionsOutside stream.buffer.allInvalidAreas fecActive)
  obtain ⟨position, listed, rfl⟩ := exists_mem_positionsOutside mirror fits unfilled outside
  have candidate := candidate_of_invalid mirror fits listed
  have marks := spec.marks position.chunk
  split at marks
  · refine ⟨now, marks, Bool.eq_false_of_not_eq_true ?_⟩
    rw [Timestamp.beenLongerThan_iff (Nat.le_refl _)]
    omega
  · rename_i untaken
    have kept : ¬ (stream.sweep fun _ => now).pending.get position.chunk = none := fun absent =>
      untaken (spec.complete position listed candidate.occupied absent)
    rw [get_sweep_eq_none_iff, not_not] at kept
    obtain ⟨since, found, fresh⟩ := kept
    exact ⟨since, marks.trans (get_sweep_eq_some.mpr ⟨found, fresh⟩), fresh⟩

theorem finalize_finalize :
    ((stream.finalizeSweepPick fecActive now).1.finalizeSweepPick fecActive now).2 = [] := by
  have buffer : (stream.finalizeSweepPick fecActive now).1.buffer = stream.buffer :=
    finalizeSweepPick_buffer _ _ _
  have fresh : ∀ position ∈ positionsOutside stream.buffer.allInvalidAreas fecActive,
      (stream.finalizeSweepPick fecActive now).1.Fresh now position.chunk := by
    intro position listed
    have candidate := candidate_of_invalid mirror fits listed
    exact fresh_after_finalize mirror fits candidate.unfilled candidate.outside
  generalize (stream.finalizeSweepPick fecActive now).1 = swept at buffer fresh ⊢
  have spec := (swept.sweep fun _ => now).reserve_spec now
    (positionsOutside swept.buffer.allInvalidAreas fecActive)
  have nothing : (swept.reserveForRequest
      (positionsOutside swept.buffer.allInvalidAreas fecActive) now).2 = [] := by
    refine List.eq_nil_iff_forall_not_mem.mpr ?_
    intro position taken
    have listed := spec.sublist.subset taken
    rw [buffer] at listed
    exact get_sweep_eq_none_iff.mp (spec.missing position taken).2 (fresh position listed)
  rw [finalizeSweepPick]
  simp only [nothing]
  rfl

end Policies

end StreamingFrom

namespace Requested

theorem requester_areasMirror {profile : Profile} {state next : Requested} {call : RequestCall}
    (mirror : state.stream.buffer.AreasMirror)
    (stepped : (requester profile).step state call = some next) :
    next.stream.buffer.AreasMirror := by
  cases call with
  | reserve positions readings now =>
      obtain ⟨_, same⟩ := Option.ite_none_right_eq_some.mp stepped
      cases same
      rw [(StreamingFrom.reserve_spec _ now positions).buffer]
      exact mirror
  | receive position payload =>
      obtain ⟨_, same⟩ := Option.ite_none_left_eq_some.mp stepped
      cases same
      have written := WriteableBuffer.write_areasMirror mirror position payload
      simp only [StreamingFrom.receivePacket]
      split
      · rename_i buffer span result
        rw [result] at written
        exact written
      · rename_i buffer error result
        rw [result] at written
        exact written
  | seek position =>
      obtain ⟨_, same⟩ := Option.ite_none_left_eq_some.mp stepped
      cases same
      exact WriteableBuffer.apply_areasMirror mirror (.seek position)

theorem areasMirror_of_reachable {profile : Profile} {state : Requested}
    (reachable : (requester profile).Reachable state) : state.stream.buffer.AreasMirror := by
  obtain ⟨first, calls, ⟨buffer, now, rfl⟩, ran⟩ := reachable
  have kept : ∀ (before : Requested) (call : RequestCall) (after : Requested),
      before.stream.buffer.AreasMirror → (requester profile).step before call = some after →
        after.stream.buffer.AreasMirror := by
    intro before call after mirror stepped
    exact requester_areasMirror mirror stepped
  exact (requester profile).run_preserves kept (WriteableBuffer.new_areasMirror buffer) ran

/-- The final sweep asks for exactly the wanted chunks, each of them once, and after it nothing is
wanted; the score policy asks for some of them. -/
theorem final_sweep_exact {profile : Profile} {state : Requested}
    (reachable : (requester profile).Reachable state)
    (fits : state.stream.buffer.len + maxPayloadLength < 2 ^ 32) (fecActive : List Span)
    (now : Timestamp) :
    let swept := state.stream.finalizeSweepPick fecActive now
    (∀ range ∈ swept.2, range.Whole) ∧ swept.2.Pairwise ByteRange.Apart ∧
      (∀ index, (∃ range ∈ swept.2, range.Covers index) ↔
        state.stream.Wanted fecActive now index) ∧
      (∀ index, swept.1.buffer.map[index]? = some false →
        StreamingFrom.Outside fecActive index → swept.1.pending.contains index = true) ∧
      (swept.1.finalizeSweepPick fecActive now).2 = [] ∧
      ∀ index, (∃ range ∈ (state.stream.scorePolicyPick fecActive now).2, range.Covers index) →
        state.stream.Wanted fecActive now index := by
  have mirror := areasMirror_of_reachable reachable
  have candidates : ∀ position ∈ StreamingFrom.positionsOutside state.stream.buffer.allInvalidAreas
      fecActive, StreamingFrom.Candidate state.stream.buffer fecActive position :=
    fun _ listed => StreamingFrom.candidate_of_invalid mirror fits listed
  have increasing := StreamingFrom.positionsOutside_increasing mirror fits fecActive
  intro swept
  have buffer : swept.1.buffer = state.stream.buffer :=
    StreamingFrom.finalizeSweepPick_buffer _ _ _
  refine ⟨(StreamingFrom.coalesced_accepted fits candidates).1,
    StreamingFrom.coalesced_apart fits candidates increasing,
    fun index => StreamingFrom.covers_finalize_iff mirror fits index, ?_,
    StreamingFrom.finalize_finalize mirror fits,
    fun index covered => StreamingFrom.wanted_of_scorePolicy mirror fits covered⟩
  intro index unfilled outside
  rw [buffer] at unfilled
  obtain ⟨since, found, _⟩ :=
    @StreamingFrom.fresh_after_finalize state.stream mirror fits fecActive now index unfilled outside
  rw [Table.contains, found]
  rfl

def askedOnce : List RequestCall :=
  [.reserve [BytePosition.ofNat 1368] (fun _ => ⟨0, Timestamp.zero_lt⟩) ⟨0, Timestamp.zero_lt⟩]

theorem final_sweep_exact_marked :
    ∃ state, (requester .release).run (new (Buffer.null 2736) ⟨0, by decide⟩) askedOnce =
        some state ∧
      (state.stream.finalizeSweepPick [] ⟨1, by decide⟩).2 =
        [⟨BytePosition.ofNat 0, 1368⟩, ⟨BytePosition.ofNat 2736, 1368⟩] ∧
      ∀ index, (∃ range ∈ (state.stream.finalizeSweepPick [] ⟨1, by decide⟩).2,
        range.Covers index) ↔ state.stream.Wanted [] ⟨1, by decide⟩ index :=
  ⟨_, rfl, by decide +kernel, (@final_sweep_exact .release _
    ⟨new (Buffer.null 2736) ⟨0, by decide⟩, askedOnce, ⟨_, _, rfl⟩, rfl⟩ (by decide) []
    ⟨1, by decide⟩).2.2.1⟩

end Requested
end Ubass

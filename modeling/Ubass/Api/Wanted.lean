import Mathlib.Algebra.Order.Field.Basic
import Mathlib.Tactic.Linarith
import Mathlib.Tactic.NormNum
import Ubass.Api.InvalidAreas
import Ubass.Api.Scores

/-!
# How much a hole is wanted

`urgency` answers 0 for the hole that the head stands in, and for a hole closer than
`URGENCY_DECAY_CHUNKS` it leaves the unit interval.  So the hole at the head has
score 0 and is never asked for, and order and range hold exactly away from these
two cases.
-/

set_option autoImplicit false

namespace Ubass

namespace Area

theorem urgency_of_contains {area : Area} {headChunk : Nat}
    (inside : area.contains headChunk = true) : area.urgency headChunk = 0 := by
  rw [urgency, if_pos inside]

theorem urgency_of_lt_start {area : Area} {headChunk : Nat} (later : headChunk < area.start) :
    area.urgency headChunk = 4 / ((area.start - headChunk : Nat) : ℚ) := by
  have outside : ¬ area.contains headChunk = true := by
    rw [contains_iff, Runs.Inside]
    omega
  rw [urgency, if_neg outside, if_pos later, urgencyDecayChunks, one_div_div]

theorem urgency_of_stop_le {area : Area} {headChunk : Nat} (started : area.start ≤ headChunk)
    (earlier : area.stop ≤ headChunk) :
    area.urgency headChunk =
      min (((area.stop - area.start : Nat) : ℚ) / beforeHeadSizeDenom) beforeHeadUrgencyCap := by
  have outside : ¬ area.contains headChunk = true := by
    rw [contains_iff, Runs.Inside]
    omega
  rw [urgency, if_neg outside, if_neg (Nat.not_lt_of_le started)]

theorem distance_pos {area : Area} {headChunk : Nat} (later : headChunk < area.start) :
    (0 : ℚ) < ((area.start - headChunk : Nat) : ℚ) := by
  exact_mod_cast Nat.sub_pos_of_lt later

theorem urgency_pos {area : Area} {headChunk : Nat} (later : headChunk < area.start) :
    0 < area.urgency headChunk := by
  rw [urgency_of_lt_start later]
  exact div_pos (by norm_num) (distance_pos later)

/-- Of two holes that end after the head, the first is wanted at least as much as the second
exactly when the head does not stand in it. -/
theorem urgency_le_iff {left right : Area} {headChunk : Nat} (nonempty : left.start < left.stop)
    (before : left.stop ≤ right.start) (endsAfter : headChunk < left.stop) :
    right.urgency headChunk ≤ left.urgency headChunk ↔ headChunk < left.start := by
  have rightLater : headChunk < right.start := by omega
  by_cases leftLater : headChunk < left.start
  · refine iff_of_true ?_ leftLater
    have closer : ((left.start - headChunk : Nat) : ℚ) ≤ ((right.start - headChunk : Nat) : ℚ) := by
      exact_mod_cast (by omega : left.start - headChunk ≤ right.start - headChunk)
    rw [urgency_of_lt_start leftLater, urgency_of_lt_start rightLater]
    exact div_le_div_of_nonneg_left (by norm_num) (distance_pos leftLater) closer
  · refine iff_of_false ?_ leftLater
    have inside : left.contains headChunk = true := by
      rw [contains_iff, Runs.Inside]
      omega
    rw [urgency_of_contains inside]
    exact not_le_of_gt (urgency_pos rightLater)

theorem urgency_mem_unit_iff {area : Area} {headChunk : Nat} :
    (0 ≤ area.urgency headChunk ∧ area.urgency headChunk ≤ 1) ↔
      (area.start ≤ headChunk ∨ headChunk + 4 ≤ area.start) := by
  by_cases later : headChunk < area.start
  · have positive := distance_pos later
    rw [urgency_of_lt_start later, div_le_one positive]
    constructor
    · rintro ⟨_, far⟩
      have distance : 4 ≤ area.start - headChunk := by exact_mod_cast far
      omega
    · intro far
      have distance : 4 ≤ area.start - headChunk := by omega
      exact ⟨(div_pos (by norm_num) positive).le, by exact_mod_cast distance⟩
  · have started := Nat.le_of_not_lt later
    refine iff_of_true ?_ (Or.inl started)
    by_cases inside : area.contains headChunk = true
    · rw [urgency_of_contains inside]
      norm_num
    · rw [contains_iff, Runs.Inside] at inside
      rw [urgency_of_stop_le started (by omega), beforeHeadSizeDenom, beforeHeadUrgencyCap]
      refine ⟨le_min (by positivity) (by norm_num), (min_le_right _ _).trans (by norm_num)⟩

end Area

namespace WriteableBuffer

theorem mem_scoreAreas {self : WriteableBuffer} {area : Area} {score : ℚ}
    (scored : (area, score) ∈ self.scoreAreas) :
    ∃ confidence, score = area.urgency (self.head.toNat / maxPayloadLength) * confidence := by
  obtain ⟨entry, _, same⟩ := List.mem_map.mp scored
  cases same
  exact ⟨_, rfl⟩

theorem scoreThreshold_le_of_mem {self : WriteableBuffer} {area : Area}
    (requestable : area ∈ self.requestableAreas) :
    ∃ score, (area, score) ∈ self.scoreAreas ∧ scoreThreshold ≤ score := by
  obtain ⟨⟨other, score⟩, taken, rfl⟩ := List.mem_map.mp requestable
  have kept := List.mem_mergeSort.mp (List.mem_of_mem_take taken)
  rw [List.mem_filter, decide_eq_true_eq] at kept
  exact ⟨score, kept⟩

theorem invalid_of_requestable {self : WriteableBuffer} {area : Area}
    (requestable : area ∈ self.requestableAreas) : area ∈ self.invalidAreas := by
  obtain ⟨score, scored, _⟩ := scoreThreshold_le_of_mem requestable
  obtain ⟨entry, zipped, same⟩ := List.mem_map.mp scored
  cases same
  exact List.fst_mem_of_mem_zipIdx zipped

theorem not_mem_requestableAreas {self : WriteableBuffer} {area : Area}
    (inside : area.contains (self.head.toNat / maxPayloadLength) = true) :
    area ∉ self.requestableAreas := by
  intro requestable
  obtain ⟨score, scored, enough⟩ := scoreThreshold_le_of_mem requestable
  obtain ⟨confidence, rfl⟩ := mem_scoreAreas scored
  rw [Area.urgency_of_contains inside, zero_mul, scoreThreshold] at enough
  norm_num at enough

theorem writer_areasMirror {profile : Profile} {buffer : Buffer} {chunks : List Chunk}
    {buf : WriteableBuffer} (ran : (writer profile).run (new buffer) chunks = some buf) :
    buf.AreasMirror := by
  have kept : ∀ (state : WriteableBuffer) (chunk : Chunk) (next : WriteableBuffer),
      state.AreasMirror → (writer profile).step state chunk = some next → next.AreasMirror := by
    intro state chunk next mirror stepped
    obtain ⟨_, rfl⟩ := step_writer_eq_some.mp stepped
    exact write_areasMirror mirror chunk.1 chunk.2
  exact (writer profile).run_preserves kept (new_areasMirror buffer) ran

def filledAfter (self : WriteableBuffer) (area : Area) : Nat := (self.map.drop area.stop).count true

/-- The head stands in a hole, which is asked for as it should be exactly when fewer than two
chunks after it are filled, and it need not be asked for. -/
theorem head_hole {profile : Profile} {buffer : Buffer} {chunks : List Chunk}
    {buf : WriteableBuffer} (ran : (writer profile).run (new buffer) chunks = some buf)
    (missing : buf.positionOccupied buf.head = some false) :
    ∃ hole ∈ buf.invalidAreas, hole.contains (buf.head.toNat / maxPayloadLength) = true ∧
      ((2 ≤ buf.filledAfter hole → hole ∈ buf.requestableAreas) ↔ buf.filledAfter hole < 2) := by
  obtain ⟨_, unfilled⟩ := positionOccupied_eq_some.mp missing
  obtain ⟨hole, listed, inside⟩ := ((writer_areasMirror ran).covers _).mp unfilled
  have contains := Area.contains_iff.mpr inside
  refine ⟨hole, listed, contains, ?_⟩
  constructor
  · intro included
    by_contra enough
    exact not_mem_requestableAreas contains (included (Nat.le_of_not_lt enough))
  · intro few enough
    omega

/-- When the hole at the head is wanted most: never, as long as the head stands in it. -/
theorem wanted_most_iff {profile : Profile} {buffer : Buffer} {chunks : List Chunk}
    {buf : WriteableBuffer} (ran : (writer profile).run (new buffer) chunks = some buf)
    (missing : buf.positionOccupied buf.head = some false) {left right : Area} {headChunk : Nat}
    (nonempty : left.start < left.stop) (before : left.stop ≤ right.start)
    (endsAfter : headChunk < left.stop) (area : Area) :
    (∃ hole ∈ buf.invalidAreas, hole.contains (buf.head.toNat / maxPayloadLength) = true ∧
        ((2 ≤ buf.filledAfter hole → hole ∈ buf.requestableAreas) ↔ buf.filledAfter hole < 2)) ∧
      (right.urgency headChunk ≤ left.urgency headChunk ↔ headChunk < left.start) ∧
      ((0 ≤ area.urgency headChunk ∧ area.urgency headChunk ≤ 1) ↔
        (area.start ≤ headChunk ∨ headChunk + 4 ≤ area.start)) :=
  ⟨head_hole ran missing, Area.urgency_le_iff nonempty before endsAfter, Area.urgency_mem_unit_iff⟩

def headHoleChunks : List Chunk :=
  [(BytePosition.ofNat 1368, List.replicate 1368 0), (BytePosition.ofNat 2736, [0])]

theorem wanted_most_iff_three :
    ∃ buf, (writer .release).run (new (Buffer.ofBytes (List.replicate 2737 0))) headHoleChunks =
        some buf ∧
      (∃ hole ∈ buf.invalidAreas, hole.contains (buf.head.toNat / maxPayloadLength) = true ∧
        ((2 ≤ buf.filledAfter hole → hole ∈ buf.requestableAreas) ↔ buf.filledAfter hole < 2)) ∧
      (Area.urgency ⟨3, 4⟩ 0 ≤ Area.urgency ⟨1, 2⟩ 0 ↔ 0 < 1) ∧
      ((0 ≤ Area.urgency ⟨2, 3⟩ 0 ∧ Area.urgency ⟨2, 3⟩ 0 ≤ 1) ↔ (2 ≤ 0 ∨ 0 + 4 ≤ 2)) :=
  ⟨_, rfl, @wanted_most_iff .release (Buffer.ofBytes (List.replicate 2737 0)) headHoleChunks _ rfl
    (by decide +kernel) ⟨1, 2⟩ ⟨3, 4⟩ 0 (by decide) (by decide) (by decide) ⟨2, 3⟩⟩

/-- The hole at the head is not asked for, a hole two chunks ahead is wanted more, and more than
anything may be. -/
theorem head_hole_not_requestable :
    ∃ buf, (writer .release).run (new (Buffer.ofBytes (List.replicate 2737 0))) headHoleChunks =
        some buf ∧
      buf.positionOccupied buf.head = some false ∧ buf.invalidAreas = [⟨0, 1⟩] ∧
      buf.filledAfter ⟨0, 1⟩ = 2 ∧ ⟨0, 1⟩ ∉ buf.requestableAreas ∧
      Area.urgency ⟨0, 1⟩ 0 < Area.urgency ⟨2, 3⟩ 0 ∧ 1 < Area.urgency ⟨2, 3⟩ 0 := by
  refine ⟨_, rfl, by decide +kernel, by decide +kernel, by decide +kernel,
    not_mem_requestableAreas (by decide +kernel), ?_, ?_⟩
  · rw [Area.urgency_of_contains (by decide)]
    exact Area.urgency_pos (by decide)
  · rw [Area.urgency_of_lt_start (by decide)]
    norm_num

end WriteableBuffer
end Ubass

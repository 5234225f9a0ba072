import Ubass.Lib.Machine
import Ubass.Api.ReadableBuffer
import Ubass.Api.WriteableBuffer

/-!
# Completing a receive buffer

The sender cuts a byte string with a clamped iterator, the receiver sizes its map
as `len / MAX_PAYLOAD_LENGTH + 1`.  The two agree exactly when the length is not
a multiple of the chunk size: otherwise the last entry of the map stands for a
chunk that is never sent, and the buffer is never done.
-/

set_option autoImplicit false

namespace Ubass

/-- What an overflow of a `u32` addition does: wrap, or stop the program. -/
inductive Profile where
  | release
  | overflowChecks
deriving DecidableEq

def writer (profile : Profile) : Machine WriteableBuffer Chunk where
  initial buf := ∃ buffer, buf = WriteableBuffer.new buffer
  step buf chunk :=
    if profile = .overflowChecks ∧ buf.writeOverflows chunk.1 chunk.2 = true then none
    else some (buf.write chunk.1 chunk.2).1

/-- In whatever order and however often the chunks of the source are written, the buffer is
done, with its head at the end, as soon as all of them were written and not before. -/
def Completes (profile : Profile) (buffer : Buffer) (source : List UInt8) : Prop :=
  ∀ order : List Chunk, (∀ chunk ∈ order, chunk ∈ (ReadableBuffer.new source).collect) →
    ∃ buf, (writer profile).run (WriteableBuffer.new buffer) order = some buf ∧
      ((∀ chunk ∈ (ReadableBuffer.new source).collect, chunk ∈ order) →
        buf.isDone = true ∧ buf.head.toNat = source.length) ∧
      (buf.isDone = true → ∀ chunk ∈ (ReadableBuffer.new source).collect, chunk ∈ order)

/-- The lengths for which no `u32` position leaves its range.  With overflow checks the head
may not pass the end of the last entry of the map either. -/
def lengthFits : Profile → Nat → Prop
  | .release, length => length < 2 ^ 32
  | .overflowChecks, length => (length / maxPayloadLength + 1) * maxPayloadLength < 2 ^ 32

namespace WriteableBuffer

theorem lengthFits_lt {profile : Profile} {length : Nat} (fits : lengthFits profile length) :
    length < 2 ^ 32 := by
  cases profile with
  | release => exact fits
  | overflowChecks =>
      simp only [lengthFits, maxPayloadLength] at fits
      omega

theorem step_writer_eq_some {profile : Profile} {buf next : WriteableBuffer} {chunk : Chunk} :
    (writer profile).step buf chunk = some next ↔
      ¬ (profile = .overflowChecks ∧ buf.writeOverflows chunk.1 chunk.2 = true) ∧
        (buf.write chunk.1 chunk.2).1 = next := by
  simp [writer]

/-! ## What a run that returns tells about its buffer -/

theorem writer_preserves_null {profile : Profile} {buf next : WriteableBuffer} {chunk : Chunk}
    (inv : buf.buffer.memory = none ∧ buf.head.toNat = 0)
    (stepped : (writer profile).step buf chunk = some next) :
    next.buffer.memory = none ∧ next.head.toNat = 0 := by
  obtain ⟨_, rfl⟩ := step_writer_eq_some.mp stepped
  have written := write_step buf chunk.1 chunk.2
  generalize buf.write chunk.1 chunk.2 = result at written ⊢
  cases written with
  | rejected error _ => exact inv
  | null _ _ _ sameBuffer sameHead =>
      rw [sameBuffer, sameHead]
      exact inv
  | written memory copied _ present =>
      rw [inv.1] at present
      cases present

theorem writer_preserves_len {profile : Profile} {buf next : WriteableBuffer} {chunk : Chunk}
    (stepped : (writer profile).step buf chunk = some next) : next.len = buf.len := by
  obtain ⟨_, rfl⟩ := step_writer_eq_some.mp stepped
  exact buf.write_len chunk.1 chunk.2

/-- Facts about every buffer that only `chunks` were written to. -/
structure WriterInv (profile : Profile) (chunks : List Chunk) (buf : WriteableBuffer) : Prop where
  small : buf.len < 2 ^ 32
  present : buf.buffer.memory ≠ none
  headInv : buf.HeadInv
  origin : ∀ index, buf.map[index]? = some true →
    ∃ chunk ∈ chunks, chunk.1.toNat / maxPayloadLength = index
  checked : profile = .overflowChecks → (∀ entry ∈ buf.map, entry = true) →
    buf.map.length * maxPayloadLength < 2 ^ 32

theorem new_writerInv (profile : Profile) {buffer : Buffer} (chunks : List Chunk)
    (small : buffer.len < 2 ^ 32) (present : buffer.memory ≠ none) :
    WriterInv profile chunks (new buffer) where
  small := small
  present := present
  headInv := new_headInv buffer
  origin index filled := by
    have member := List.mem_of_getElem? filled
    cases (List.mem_replicate.mp member).2
  checked _ full := by
    have first : false ∈ (new buffer).map := List.mem_replicate.mpr ⟨Nat.succ_ne_zero _, rfl⟩
    cases full false first

/-- The walk over a full map ends past the range of `u32` when the map reaches that far. -/
theorem advanceOverflows_of_full {buf : WriteableBuffer} (inside : buf.head.toNat ≤ buf.len)
    (full : ∀ entry ∈ buf.map, entry = true) (far : 2 ^ 32 ≤ buf.map.length * maxPayloadLength) :
    buf.advanceOverflows = true := by
  have start : buf.positionToIndex buf.head = some (buf.head.toNat / maxPayloadLength) :=
    positionToIndex_eq_some.mpr ⟨inside, rfl⟩
  have run : filledRun (buf.map.drop (buf.head.toNat / maxPayloadLength)) =
      buf.map.length - buf.head.toNat / maxPayloadLength := by
    rw [← List.length_drop]
    exact filledRun_eq_length_iff.mpr fun entry member => full entry (List.mem_of_mem_drop member)
  rw [advanceOverflows, start]
  simp only
  rw [advanceLoopOverflows_eq, decide_eq_true_eq, run, Nat.sub_mul]
  have aligned := Nat.div_mul_le_self buf.head.toNat maxPayloadLength
  omega

theorem writer_preserves_inv {profile : Profile} {chunks : List Chunk}
    {buf next : WriteableBuffer} {chunk : Chunk} (inv : WriterInv profile chunks buf)
    (member : chunk ∈ chunks) (stepped : (writer profile).step buf chunk = some next) :
    WriterInv profile chunks next := by
  have sameLen := writer_preserves_len stepped
  obtain ⟨runs, rfl⟩ := step_writer_eq_some.mp stepped
  have headInv := write_headInv chunk.1 chunk.2 inv.small inv.headInv inv.present
  have written := write_step buf chunk.1 chunk.2
  generalize buf.write chunk.1 chunk.2 = result at written headInv sameLen ⊢
  cases written with
  | rejected error _ => exact inv
  | null _ missing => exact absurd missing inv.present
  | written memory copied accepts present map len head bytes overflows =>
      refine ⟨by rw [sameLen]; exact inv.small, ?_, headInv, ?_, ?_⟩
      · rw [advanceHead_buffer, bytes]
        exact Option.some_ne_none _
      · intro index filled
        rw [advanceHead_map, map] at filled
        by_cases here : chunk.1.toNat / maxPayloadLength = index
        · exact ⟨chunk, member, here⟩
        · rw [List.getElem?_set_ne here] at filled
          exact inv.origin index filled
      · intro checks full
        rw [advanceHead_map] at full ⊢
        by_contra far
        have inside : copied.head.toNat ≤ copied.len := by
          rw [head, len]
          exact inv.headInv.inside
        have panics := advanceOverflows_of_full inside full (Nat.le_of_not_lt far)
        exact runs ⟨checks, overflows.trans panics⟩

theorem writer_run_inv {profile : Profile} {chunks order : List Chunk} {buf final : WriteableBuffer}
    (inv : WriterInv profile chunks buf) (members : ∀ chunk ∈ order, chunk ∈ chunks)
    (ran : (writer profile).run buf order = some final) : WriterInv profile chunks final := by
  induction order generalizing buf with
  | nil =>
      cases Option.some.inj ran
      exact inv
  | cons chunk rest ih =>
      obtain ⟨next, stepped, restRan⟩ := (writer profile).run_cons_eq_some.mp ran
      have kept := writer_preserves_inv inv (members chunk List.mem_cons_self) stepped
      exact ih kept (fun other inRest => members other (List.mem_cons_of_mem _ inRest)) restRan

/-! ## When completion holds -/

theorem length_mod_ne_zero {profile : Profile} {source : List UInt8} {buf : WriteableBuffer}
    (inv : WriterInv profile (ReadableBuffer.new source).collect buf)
    (len : buf.len = source.length) (done : buf.isDone = true) :
    source.length % maxPayloadLength ≠ 0 := by
  have full := (isDone_iff_of_headInv inv.headInv).mp done
  have below := buf.index_lt_map_length (Nat.le_refl buf.len)
  have last : buf.map[buf.len / maxPayloadLength]? = some true := by
    rw [List.getElem?_eq_getElem below]
    exact congrArg some (full _ (List.getElem_mem below))
  obtain ⟨chunk, member, here⟩ := inv.origin _ last
  obtain ⟨index, inside, rfl⟩ := ReadableBuffer.mem_collect_new.mp member
  have small := inv.small
  have position : (chunkAt source index).1.toNat = index * maxPayloadLength :=
    BytePosition.toNat_ofNat_of_lt (by omega)
  rw [position, Nat.mul_div_cancel _ maxPayloadLength_pos, len] at here
  subst here
  intro multiple
  rw [Nat.div_mul_cancel (Nat.dvd_of_mod_eq_zero multiple)] at inside
  exact Nat.lt_irrefl _ inside

theorem not_done_of_empty {profile : Profile} {buffer : Buffer} {source : List UInt8}
    {buf : WriteableBuffer} (empty : source.length = 0)
    (ran : (writer profile).run (new buffer) (ReadableBuffer.new source).collect = some buf) :
    ¬ buf.isDone = true := by
  have none : (ReadableBuffer.new source).collect = [] := by
    refine List.eq_nil_iff_forall_not_mem.mpr fun chunk member => ?_
    obtain ⟨index, inside, _⟩ := ReadableBuffer.mem_collect_new.mp member
    omega
  rw [none, Machine.run_nil] at ran
  cases Option.some.inj ran
  intro done
  rw [isDone_iff_of_headInv (new_headInv buffer)] at done
  have first : false ∈ (new buffer).map := List.mem_replicate.mpr ⟨Nat.succ_ne_zero _, rfl⟩
  cases done false first

theorem completes_requires {profile : Profile} {buffer : Buffer} {source : List UInt8}
    (sameLength : buffer.len = source.length) (completes : Completes profile buffer source) :
    source.length % maxPayloadLength ≠ 0 ∧ buffer.memory ≠ none ∧
      lengthFits profile source.length := by
  obtain ⟨buf, ran, finishes, _⟩ := completes (ReadableBuffer.new source).collect fun _ inList => inList
  obtain ⟨done, atEnd⟩ := finishes fun _ inList => inList
  have len : buf.len = source.length := by
    have start : (new buffer).len = source.length := sameLength
    exact (writer profile).run_preserves
      (fun _ _ _ same stepped => (writer_preserves_len stepped).trans same) start ran
  have small : source.length < 2 ^ 32 := atEnd ▸ buf.head.lt
  by_cases present : buffer.memory = none
  · have stuck : buf.buffer.memory = none ∧ buf.head.toNat = 0 :=
      (writer profile).run_preserves (fun _ _ _ inv stepped => writer_preserves_null inv stepped)
        (show (new buffer).buffer.memory = none ∧ _ from ⟨present, rfl⟩) ran
    exact absurd done (not_done_of_empty (atEnd ▸ stuck.2) ran)
  · have inv := writer_run_inv (new_writerInv profile (ReadableBuffer.new source).collect
      (sameLength ▸ small) present) (fun _ inList => inList) ran
    refine ⟨length_mod_ne_zero inv len done, present, ?_⟩
    cases profile with
    | release => exact small
    | overflowChecks =>
        have bound := inv.checked rfl ((isDone_iff_of_headInv inv.headInv).mp done)
        rw [buf.map_length] at bound
        rw [lengthFits, ← len]
        exact bound

/-- The state of a buffer to which `written` was written, in this order, and nothing else. -/
structure Progress (profile : Profile) (source : List UInt8) (written : List Chunk)
    (buf : WriteableBuffer) : Prop where
  len : buf.len = source.length
  present : buf.buffer.memory ≠ none
  headInv : buf.HeadInv
  before : ∀ index, index * maxPayloadLength < buf.head.toNat → buf.map[index]? = some true
  filled : ∀ index, index * maxPayloadLength < source.length →
    (buf.map[index]? = some true ↔ chunkAt source index ∈ written)

theorem new_progress (profile : Profile) {buffer : Buffer} {source : List UInt8}
    (sameLength : buffer.len = source.length) (present : buffer.memory ≠ none) :
    Progress profile source [] (new buffer) where
  len := sameLength
  present := present
  headInv := new_headInv buffer
  before index below := absurd below (Nat.not_lt_zero _)
  filled index _ := by
    constructor
    · intro entry
      have member := List.mem_of_getElem? entry
      cases (List.mem_replicate.mp member).2
    · intro member
      cases member

theorem entry_is_chunk {length index : Nat} (uneven : length % maxPayloadLength ≠ 0)
    (entry : index < length / maxPayloadLength + 1) : index * maxPayloadLength < length := by
  have below : index * maxPayloadLength ≤ length / maxPayloadLength * maxPayloadLength :=
    Nat.mul_le_mul_right _ (by omega)
  have split := Nat.div_add_mod' length maxPayloadLength
  omega

theorem all_filled_iff {profile : Profile} {source : List UInt8} {written : List Chunk}
    {buf : WriteableBuffer} (progress : Progress profile source written buf)
    (uneven : source.length % maxPayloadLength ≠ 0) :
    (∀ entry ∈ buf.map, entry = true) ↔
      ∀ chunk ∈ (ReadableBuffer.new source).collect, chunk ∈ written := by
  constructor
  · intro full chunk member
    obtain ⟨index, inside, rfl⟩ := ReadableBuffer.mem_collect_new.mp member
    have start : index ≤ buf.len / maxPayloadLength := by
      rw [progress.len, Nat.le_div_iff_mul_le maxPayloadLength_pos]
      exact inside.le
    have below : index < buf.map.length := by
      rw [buf.map_length]
      exact Nat.lt_succ_of_le start
    refine (progress.filled index inside).mp ?_
    rw [List.getElem?_eq_getElem below]
    exact congrArg some (full _ (List.getElem_mem below))
  · intro all entry member
    obtain ⟨index, below, rfl⟩ := List.mem_iff_getElem.mp member
    have inside : index * maxPayloadLength < source.length := by
      refine entry_is_chunk uneven ?_
      rw [← progress.len]
      exact (buf.map_length ▸ below :)
    have here := (progress.filled index inside).mpr
      (all _ (ReadableBuffer.mem_collect_new.mpr ⟨index, inside, rfl⟩))
    rw [List.getElem?_eq_getElem below] at here
    exact Option.some.inj here

theorem writeRejects_chunkAt {profile : Profile} {source : List UInt8} {written : List Chunk}
    {buf : WriteableBuffer} (progress : Progress profile source written buf)
    (small : source.length < 2 ^ 32) {index : Nat}
    (inside : index * maxPayloadLength < source.length) :
    buf.writeRejects (chunkAt source index).1 (chunkAt source index).2 = none ↔
      buf.map[index]? = some false := by
  have position : (chunkAt source index).1.toNat = index * maxPayloadLength :=
    BytePosition.toNat_ofNat_of_lt (by omega)
  have size : (chunkAt source index).2.length =
      min maxPayloadLength (source.length - index * maxPayloadLength) :=
    length_chunkBytes source index
  rw [writeRejects_eq_none, position, size, progress.len,
    Nat.mul_div_cancel _ maxPayloadLength_pos]
  constructor
  · exact fun accepts => accepts.2.1
  · intro unfilled
    refine ⟨by omega, unfilled, ?_⟩
    simp only [maxPayloadLength] at inside ⊢
    omega

theorem advanceHead_before {buf : WriteableBuffer} (small : buf.len < 2 ^ 32)
    (inside : buf.head.toNat ≤ buf.len) (aligned : maxPayloadLength ∣ buf.head.toNat)
    (before : ∀ index, index * maxPayloadLength < buf.head.toNat → buf.map[index]? = some true)
    {index : Nat} (below : index * maxPayloadLength < buf.advanceHead.head.toNat) :
    buf.map[index]? = some true := by
  have cancel := Nat.div_mul_cancel aligned
  have startBelow : buf.head.toNat / maxPayloadLength ≤ buf.walkEnd := Nat.le_add_right _ _
  have inWalk : index < buf.walkEnd := by
    have head := advanceHead_head inside
    by_cases atEnd : buf.walkEnd = buf.map.length
    · rw [if_pos atEnd] at head
      rw [head, BytePosition.toNat_ofNat_of_lt small] at below
      rw [atEnd, buf.map_length]
      have := Nat.div_le_div_right (c := maxPayloadLength) below.le
      rw [Nat.mul_div_cancel _ maxPayloadLength_pos] at this
      exact Nat.lt_succ_of_le this
    · rw [if_neg atEnd] at head
      have offset : buf.head.toNat +
          (buf.walkEnd - buf.head.toNat / maxPayloadLength) * maxPayloadLength =
            buf.walkEnd * maxPayloadLength := by
        have := Nat.mul_le_mul_right maxPayloadLength startBelow
        rw [Nat.sub_mul]
        omega
      rw [head, offset] at below
      have wrapped := Nat.mod_le (buf.walkEnd * maxPayloadLength) (2 ^ 32)
      exact Nat.lt_of_mul_lt_mul_right (below.trans_le wrapped)
  by_cases early : index < buf.head.toNat / maxPayloadLength
  · exact before index (cancel ▸ Nat.mul_lt_mul_of_pos_right early maxPayloadLength_pos)
  · have inRun : index - buf.head.toNat / maxPayloadLength <
        filledRun (buf.map.drop (buf.head.toNat / maxPayloadLength)) := by
      rw [walkEnd] at inWalk
      omega
    have entry := getElem?_of_lt_filledRun inRun
    rw [List.getElem?_drop] at entry
    rwa [Nat.add_sub_cancel' (Nat.le_of_not_lt early)] at entry

theorem advanceOverflows_eq_false {buf : WriteableBuffer} (inside : buf.head.toNat ≤ buf.len)
    (aligned : maxPayloadLength ∣ buf.head.toNat)
    (fits : buf.map.length * maxPayloadLength < 2 ^ 32) : buf.advanceOverflows = false := by
  have start : buf.positionToIndex buf.head = some (buf.head.toNat / maxPayloadLength) :=
    positionToIndex_eq_some.mpr ⟨inside, rfl⟩
  have cancel := Nat.div_mul_cancel aligned
  have stop := Nat.mul_le_mul_right maxPayloadLength (walkEnd_le inside)
  rw [walkEnd, Nat.add_mul, cancel] at stop
  rw [advanceOverflows, start]
  simp only
  rw [advanceLoopOverflows_eq, decide_eq_false_iff_not]
  omega

theorem chunkAt_injective {source : List UInt8} (small : source.length < 2 ^ 32) {left right : Nat}
    (leftInside : left * maxPayloadLength < source.length)
    (rightInside : right * maxPayloadLength < source.length)
    (same : chunkAt source left = chunkAt source right) : left = right := by
  have positions := congrArg (fun chunk => chunk.1.toNat) same
  simp only [chunkAt] at positions
  rw [BytePosition.toNat_ofNat_of_lt (by omega), BytePosition.toNat_ofNat_of_lt (by omega)]
    at positions
  exact Nat.eq_of_mul_eq_mul_right maxPayloadLength_pos positions

theorem mem_written_append {source : List UInt8} (small : source.length < 2 ^ 32)
    {written : List Chunk} {index other : Nat}
    (inside : index * maxPayloadLength < source.length)
    (otherInside : other * maxPayloadLength < source.length) :
    chunkAt source other ∈ written ++ [chunkAt source index] ↔
      chunkAt source other ∈ written ∨ other = index := by
  rw [List.mem_append, List.mem_singleton]
  refine or_congr_right ⟨fun same => ?_, fun same => same ▸ rfl⟩
  exact chunkAt_injective small otherInside inside same

section Progress

variable {profile : Profile} {source : List UInt8} {written : List Chunk} {buf : WriteableBuffer}
  (progress : Progress profile source written buf) (small : source.length < 2 ^ 32) {index : Nat}
  (inside : index * maxPayloadLength < source.length)
include progress small inside

theorem progress_again (already : buf.map[index]? = some true) :
    Progress profile source (written ++ [chunkAt source index]) buf := by
  refine { progress with filled := fun other otherInside => ?_ }
  rw [mem_written_append small inside otherInside, ← progress.filled other otherInside]
  refine ⟨Or.inl, fun either => either.elim id fun same => ?_⟩
  rw [same]
  exact already

theorem progress_copied {copied : WriteableBuffer} (below : index < buf.map.length)
    (map : copied.map = buf.map.set index true) (len : copied.len = buf.len)
    (head : copied.head = buf.head) (present : copied.buffer.memory ≠ none)
    (aligned : maxPayloadLength ∣ copied.head.toNat) (headInv : copied.advanceHead.HeadInv) :
    Progress profile source (written ++ [chunkAt source index]) copied.advanceHead := by
  have marked : copied.map[index]? = some true := by rw [map, List.getElem?_set_self below]
  have kept : ∀ other, other ≠ index → copied.map[other]? = buf.map[other]? := by
    intro other different
    rw [map, List.getElem?_set_ne (Ne.symm different)]
  have copiedSmall : copied.len < 2 ^ 32 := (len.trans progress.len).trans_lt small
  have copiedInside : copied.head.toNat ≤ copied.len := by
    rw [head, len]
    exact progress.headInv.inside
  refine ⟨by rw [advanceHead_len, len, progress.len], by rwa [advanceHead_buffer], headInv, ?_, ?_⟩
  · intro other otherBelow
    rw [advanceHead_map]
    refine advanceHead_before copiedSmall copiedInside aligned ?_ otherBelow
    intro earlier earlierBelow
    by_cases here : earlier = index
    · rw [here, marked]
    · rw [kept earlier here]
      exact progress.before earlier (head ▸ earlierBelow)
  · intro other otherInside
    rw [advanceHead_map, mem_written_append small inside otherInside,
      ← progress.filled other otherInside]
    by_cases here : other = index
    · simp [here, marked]
    · simp [here, kept other here]

end Progress

theorem writer_step_progress {profile : Profile} {source : List UInt8} {written : List Chunk}
    {buf : WriteableBuffer} (fits : lengthFits profile source.length)
    (progress : Progress profile source written buf)
    {index : Nat} (inside : index * maxPayloadLength < source.length) :
    ∃ next, (writer profile).step buf (chunkAt source index) = some next ∧
      Progress profile source (written ++ [chunkAt source index]) next := by
  have small := lengthFits_lt fits
  have bufSmall : buf.len < 2 ^ 32 := progress.len ▸ small
  have position : (chunkAt source index).1.toNat / maxPayloadLength = index := by
    rw [chunkAt, BytePosition.toNat_ofNat_of_lt (by omega),
      Nat.mul_div_cancel _ maxPayloadLength_pos]
  have rejectsIff := writeRejects_chunkAt progress small inside
  have below : index < buf.map.length := by
    rw [buf.map_length]
    refine Nat.lt_succ_of_le ((Nat.le_div_iff_mul_le maxPayloadLength_pos).mpr ?_)
    exact inside.le.trans_eq progress.len.symm
  have headInv := write_headInv (chunkAt source index).1 (chunkAt source index).2 bufSmall
    progress.headInv progress.present
  have stepped := write_step buf (chunkAt source index).1 (chunkAt source index).2
  have step : ∀ next, ¬ (profile = .overflowChecks ∧
        buf.writeOverflows (chunkAt source index).1 (chunkAt source index).2 = true) →
      (buf.write (chunkAt source index).1 (chunkAt source index).2).1 = next →
      (writer profile).step buf (chunkAt source index) = some next :=
    fun next runs same => step_writer_eq_some.mpr ⟨runs, same⟩
  generalize buf.write (chunkAt source index).1 (chunkAt source index).2 = result
    at stepped headInv step
  cases stepped with
  | rejected error rejects =>
      refine ⟨buf, step buf ?_ rfl, progress_again progress small inside ?_⟩
      · rintro ⟨_, overflows⟩
        simp [writeOverflows, rejects] at overflows
      · have notFree : buf.map[index]? ≠ some false := fun free => by
          rw [rejectsIff.mpr free] at rejects
          cases rejects
        rw [List.getElem?_eq_getElem below] at notFree ⊢
        cases entry : buf.map[index] with
        | false => exact absurd (congrArg some entry) notFree
        | true => rfl
  | null _ missing => exact absurd missing progress.present
  | written memory copied accepts present map len head bytes overflows =>
      have free := rejectsIff.mp accepts
      rw [position] at map
      have aligned : maxPayloadLength ∣ copied.head.toNat := by
        rw [head]
        rcases progress.headInv.stops with atEnd | ⟨aligned, _⟩
        · have filled := progress.before index (by rw [atEnd, progress.len]; exact inside)
          rw [free] at filled
          cases filled
        · exact aligned
      have copiedInside : copied.head.toNat ≤ copied.len := by
        rw [head, len]
        exact progress.headInv.inside
      refine ⟨copied.advanceHead, step _ ?_ rfl, progress_copied progress small inside below map len
        head (by rw [bytes]; exact Option.some_ne_none _) aligned headInv⟩
      rintro ⟨checks, panics⟩
      rw [overflows, advanceOverflows_eq_false copiedInside aligned] at panics
      · cases panics
      · rw [copied.map_length]
        subst checks
        rw [lengthFits, ← progress.len, ← len] at fits
        exact fits

theorem writer_run_progress {profile : Profile} {source : List UInt8} {written order : List Chunk}
    {buf : WriteableBuffer} (fits : lengthFits profile source.length)
    (progress : Progress profile source written buf)
    (members : ∀ chunk ∈ order, chunk ∈ (ReadableBuffer.new source).collect) :
    ∃ final, (writer profile).run buf order = some final ∧
      Progress profile source (written ++ order) final := by
  induction order generalizing buf written with
  | nil => exact ⟨buf, rfl, by rwa [List.append_nil]⟩
  | cons chunk rest ih =>
      obtain ⟨index, inside, rfl⟩ :=
        ReadableBuffer.mem_collect_new.mp (members chunk List.mem_cons_self)
      obtain ⟨next, stepped, kept⟩ := writer_step_progress fits progress inside
      obtain ⟨final, ran, finished⟩ := ih kept fun other inRest =>
        members other (List.mem_cons_of_mem _ inRest)
      refine ⟨final, (writer profile).run_cons_eq_some.mpr ⟨next, stepped, ran⟩, ?_⟩
      rwa [List.append_assoc] at finished

/-- Writing the chunks of a source completes a buffer of its length exactly when the length is
not a multiple of the chunk size, the pointer is not null and the positions fit in a `u32`. -/
theorem completes_iff (profile : Profile) (buffer : Buffer) (source : List UInt8)
    (sameLength : buffer.len = source.length) :
    Completes profile buffer source ↔
      source.length % maxPayloadLength ≠ 0 ∧ buffer.memory ≠ none ∧
        lengthFits profile source.length := by
  constructor
  · exact completes_requires sameLength
  · rintro ⟨uneven, present, fits⟩ order members
    obtain ⟨buf, ran, progress⟩ :=
      writer_run_progress fits (new_progress profile sameLength present) members
    have doneIff := (isDone_iff_of_headInv progress.headInv).trans (all_filled_iff progress uneven)
    rw [List.nil_append] at doneIff
    refine ⟨buf, ran, ?_, doneIff.mp⟩
    intro all
    have done := doneIff.mpr all
    refine ⟨done, ?_⟩
    have atEnd : buf.headAtEnd = true := by
      rw [isDone, Bool.and_eq_true] at done
      exact done.1
    rw [headAtEnd, decide_eq_true_eq, progress.len] at atEnd
    exact Nat.le_antisymm (progress.len ▸ progress.headInv.inside) atEnd

/-- A source of two chunks, the second one partial. -/
theorem completes_iff_two_chunks :
    Completes .overflowChecks (Buffer.ofBytes (List.replicate 2000 0)) (List.replicate 2000 7) := by
  have sameLength : (Buffer.ofBytes (List.replicate 2000 0)).len =
      (List.replicate 2000 (7 : UInt8)).length := by
    rw [List.length_replicate]
    exact List.length_replicate
  refine (completes_iff .overflowChecks _ _ sameLength).mpr ⟨?_, Option.some_ne_none _, ?_⟩
  · rw [List.length_replicate]
    decide
  · rw [List.length_replicate, lengthFits]
    decide

/-- A source of one full chunk never completes its buffer. -/
theorem full_chunk_not_completed :
    ¬ Completes .release (Buffer.ofBytes (List.replicate maxPayloadLength 0))
      (List.replicate maxPayloadLength 0) := by
  intro completes
  have requires := completes_requires rfl completes
  rw [List.length_replicate] at requires
  exact requires.1 (Nat.mod_self _)

end WriteableBuffer
end Ubass

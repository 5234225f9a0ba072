import Ubass.Lib.Runs
import Ubass.Api.Calls

/-!
# The areas of a receive buffer mirror its map

`occupy` trims, splits or removes the area its chunk lies in.  Whatever is written,
occupied and sought, the areas stay the maximal runs of unfilled entries of the map
(`AreasMirror`).
-/

set_option autoImplicit false

namespace Ubass

open Runs

namespace Area

def without (area : Area) (index : Nat) : List Area :=
  if area.start = index then
    if area.stop = index + 1 then [] else [⟨index + 1, area.stop⟩]
  else if area.stop - 1 ≠ index then [⟨area.start, index⟩, ⟨index + 1, area.stop⟩]
  else [⟨area.start, index⟩]

theorem contains_iff {area : Area} {index : Nat} :
    area.contains index = true ↔ Inside Area.start Area.stop area index := by
  simp [contains, Inside]

theorem without_maximal {area : Area} {index : Nat}
    (inside : Inside Area.start Area.stop area index) :
    MaximalRuns Area.start Area.stop
      (fun other => Inside Area.start Area.stop area other ∧ other ≠ index)
      (area.without index) := by
  simp only [Inside] at inside
  unfold without
  by_cases atStart : area.start = index
  · rw [if_pos atStart]
    by_cases single : area.stop = index + 1
    · rw [if_pos single]
      refine .nil ?_
      intro other
      simp only [Inside]
      omega
    · rw [if_neg single]
      refine (MaximalRuns.singleton (by simp only; omega)).congr ?_
      intro other
      simp only [Inside]
      omega
  · rw [if_neg atStart]
    by_cases atEnd : area.stop - 1 = index
    · rw [if_neg (not_not.mpr atEnd)]
      refine (MaximalRuns.singleton (by simp only; omega)).congr ?_
      intro other
      simp only [Inside]
      omega
    · rw [if_pos atEnd]
      refine (MaximalRuns.pair (by simp only; omega) (by simp only; omega)
        (by simp only; omega)).congr ?_
      intro other
      simp only [Inside]
      omega

end Area

namespace WriteableBuffer

theorem insertIdx_after {front back : List Area} {area other : Area} :
    (front ++ area :: back).insertIdx (front.length + 1) other = front ++ area :: other :: back := by
  induction front with
  | nil => rfl
  | cons first rest ih =>
      rw [List.length_cons, List.cons_append, List.insertIdx_succ_cons, ih, List.cons_append]

theorem occupyAreas_eq {areas front back : List Area} {area : Area} {index : Nat}
    (split : areas = front ++ area :: back)
    (found : (areas.findIdx? fun area => area.contains index) = some front.length) :
    occupyAreas areas index = front ++ (area.without index ++ back) := by
  have here : areas[front.length]? = some area := by simp [split]
  have trimmed : ∀ other, areas.set front.length other = front ++ other :: back := by
    intro other
    simp [split]
  unfold occupyAreas Area.without
  simp only [found, here, trimmed]
  by_cases atStart : area.start = index
  · simp only [if_pos atStart]
    by_cases single : area.stop = index + 1
    · simp only [if_pos single]
      simp [split, List.eraseIdx_append_of_length_le]
    · simp only [if_neg single]
      rfl
  · simp only [if_neg atStart]
    by_cases atEnd : area.stop - 1 = index
    · simp only [if_neg (not_not.mpr atEnd)]
      rfl
    · simp only [if_pos atEnd]
      exact insertIdx_after

theorem occupyAreas_maximal {member : Nat → Prop} {areas : List Area} {index : Nat}
    (maximal : MaximalRuns Area.start Area.stop member areas) (isMember : member index) :
    MaximalRuns Area.start Area.stop (fun other => member other ∧ other ≠ index)
      (occupyAreas areas index) := by
  obtain ⟨holder, listed, inside⟩ := (maximal.covers index).mp isMember
  cases found : areas.findIdx? fun area => area.contains index with
  | none =>
      have nowhere := List.findIdx?_eq_none_iff.mp found holder listed
      rw [Area.contains_iff.mpr inside] at nowhere
      cases nowhere
  | some slot =>
      obtain ⟨bound, holds, _⟩ := List.findIdx?_eq_some_iff_getElem.mp found
      have split : areas = areas.take slot ++ areas[slot] :: areas.drop (slot + 1) := by
        rw [List.getElem_cons_drop, List.take_append_drop]
      have front : (areas.take slot).length = slot := by
        rw [List.length_take]
        omega
      rw [occupyAreas_eq split (by rw [front]; exact found)]
      rw [split] at maximal
      refine maximal.splice (Area.without_maximal (Area.contains_iff.mp holds)) ?_
      intro other outside same
      subst same
      exact outside (Area.contains_iff.mp holds)

/-- The areas are the maximal runs of the entries that are not filled. -/
def AreasMirror (buf : WriteableBuffer) : Prop :=
  MaximalRuns Area.start Area.stop (fun index => buf.map[index]? = some false) buf.invalidAreas

theorem new_areasMirror (buffer : Buffer) : (new buffer).AreasMirror := by
  refine (MaximalRuns.singleton (Nat.succ_pos _)).congr ?_
  intro index
  simp [new, Inside, List.getElem?_replicate]

theorem areasMirror_of_occupied {self next : WriteableBuffer} {index : Nat}
    (mirror : self.AreasMirror) (unfilled : self.map[index]? = some false)
    (map : next.map = self.map.set index true)
    (areas : next.invalidAreas = occupyAreas self.invalidAreas index) : next.AreasMirror := by
  unfold AreasMirror
  rw [areas, map]
  refine (occupyAreas_maximal mirror unfilled).congr ?_
  intro other
  by_cases same : other = index
  · subst same
    simp [List.getElem?_set]
  · simp [Ne.symm same, same]

theorem occupy_areasMirror {self : WriteableBuffer} {position : BytePosition}
    (mirror : self.AreasMirror) (unoccupied : self.positionOccupied position = some false) :
    (self.occupy position).AreasMirror := by
  obtain ⟨inside, unfilled⟩ := positionOccupied_eq_some.mp unoccupied
  have index := positionToIndex_eq_some.mpr ⟨inside, rfl⟩
  refine areasMirror_of_occupied mirror unfilled (by simp only [occupy, index]) ?_
  simp only [occupy, index]

theorem write_marks (self : WriteableBuffer) (position : BytePosition) (toWrite : List UInt8) :
    (self.write position toWrite).1 = self ∨
      self.positionOccupied position = some false ∧
        (self.write position toWrite).1.map = (self.occupy position).map ∧
        (self.write position toWrite).1.invalidAreas = (self.occupy position).invalidAreas := by
  unfold write
  cases accepts : self.writeRejects position toWrite with
  | some error => exact Or.inl rfl
  | none =>
      obtain ⟨fits, unfilled, _⟩ := writeRejects_eq_none.mp accepts
      refine Or.inr ⟨positionOccupied_eq_some.mpr ⟨by omega, unfilled⟩, ?_⟩
      simp only
      cases (self.occupy position).buffer.asMut with
      | none => exact ⟨rfl, rfl⟩
      | some memory => simp [copyFromSlice]

theorem write_areasMirror {self : WriteableBuffer} (mirror : self.AreasMirror)
    (position : BytePosition) (toWrite : List UInt8) :
    (self.write position toWrite).1.AreasMirror := by
  rcases self.write_marks position toWrite with same | ⟨unoccupied, map, areas⟩
  · rw [same]
    exact mirror
  · have occupied := occupy_areasMirror mirror unoccupied
    unfold AreasMirror at occupied ⊢
    rw [map, areas]
    exact occupied

theorem apply_areasMirror {self : WriteableBuffer} (mirror : self.AreasMirror)
    (call : ReceiveCall) : (call.apply self).1.AreasMirror := by
  cases call with
  | write position toWrite => exact write_areasMirror mirror position toWrite
  | seek position =>
      unfold AreasMirror at mirror ⊢
      simp only [ReceiveCall.apply, seekHead_map, seekHead_invalidAreas]
      exact mirror

end WriteableBuffer

/-! ## Runs that occupy chunks directly -/

/-- The calls of a receiver, and `occupy` on its own. -/
inductive BufferCall where
  | receive (call : ReceiveCall)
  | occupy (position : BytePosition)

/-- Any sequence of calls in which every `occupy` is one of an unoccupied chunk in range. -/
def occupier (profile : Profile) : Machine WriteableBuffer BufferCall where
  initial buf := ∃ buffer, buf = WriteableBuffer.new buffer
  step buf call :=
    match call with
    | .receive call => (receiver profile).step buf call
    | .occupy position =>
        if buf.positionOccupied position = some false then some (buf.occupy position) else none

namespace WriteableBuffer

theorem occupier_areasMirror {profile : Profile} {buf next : WriteableBuffer} {call : BufferCall}
    (mirror : buf.AreasMirror) (stepped : (occupier profile).step buf call = some next) :
    next.AreasMirror := by
  cases call with
  | receive call =>
      obtain ⟨_, rfl⟩ := step_receiver_eq_some.mp stepped
      exact apply_areasMirror mirror call
  | occupy position =>
      obtain ⟨unoccupied, same⟩ := Option.ite_none_right_eq_some.mp stepped
      cases same
      exact occupy_areasMirror mirror unoccupied

/-- In every state that can be reached, the areas are the maximal runs of unfilled entries, in
increasing order, with an occupied chunk after each one that is not the last. -/
theorem invalidAreas_mirror {profile : Profile} {buf : WriteableBuffer}
    (reachable : (occupier profile).Reachable buf) :
    (∀ area ∈ buf.invalidAreas, area.start < area.stop) ∧
      buf.invalidAreas.Pairwise (fun left right =>
        left.stop < right.start ∧ buf.map[left.stop]? = some true) ∧
      ∀ index, buf.map[index]? = some false ↔
        ∃ area ∈ buf.invalidAreas, area.contains index = true := by
  have mirror : buf.AreasMirror := by
    refine (occupier profile).reachable_invariant ?_ ?_ reachable
    · rintro _ ⟨buffer, rfl⟩
      exact new_areasMirror buffer
    · intro state call next mirror stepped
      exact occupier_areasMirror mirror stepped
  refine ⟨mirror.nonempty, ?_, ?_⟩
  · refine mirror.separated.imp_of_mem ?_
    intro left right leftListed rightListed apart
    refine ⟨apart, ?_⟩
    have later : buf.map[right.start]? = some false := by
      refine (mirror.covers _).mpr ⟨right, rightListed, Nat.le_refl _, ?_⟩
      exact mirror.nonempty right rightListed
    have bound : left.stop < buf.map.length :=
      apart.trans (List.getElem?_eq_some_iff.mp later).1
    have filled := mirror.not_member_stop leftListed
    rw [List.getElem?_eq_getElem bound] at filled ⊢
    simpa using filled
  · intro index
    rw [mirror.covers index]
    simp only [Area.contains_iff]

/-- Three chunks, of which the second is occupied: the one area was split. -/
theorem invalidAreas_mirror_split :
    let buf := (new (Buffer.null 2736)).occupy (BytePosition.ofNat 1368)
    buf.invalidAreas = [⟨0, 1⟩, ⟨2, 3⟩] ∧
      (∀ area ∈ buf.invalidAreas, area.start < area.stop) ∧
      buf.invalidAreas.Pairwise (fun left right =>
        left.stop < right.start ∧ buf.map[left.stop]? = some true) ∧
      ∀ index, buf.map[index]? = some false ↔
        ∃ area ∈ buf.invalidAreas, area.contains index = true :=
  ⟨by decide, @invalidAreas_mirror .release _
    ⟨new (Buffer.null 2736), [.occupy (BytePosition.ofNat 1368)], ⟨_, rfl⟩, rfl⟩⟩

end WriteableBuffer
end Ubass

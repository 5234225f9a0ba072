import Mathlib.Data.List.Basic
import Mathlib.Data.List.Pairwise

/-!
# Maximal runs

A set of numbers as a list of half-open runs in increasing order, with a number
outside the set between one run and the next.  What a run is, is left open: `start`
and `stop` read its ends.

`MaximalRuns.splice` is the rule for removing numbers of one run: the runs that are
left of it take its place in the list.
-/

set_option autoImplicit false

universe u

namespace Runs

variable {Run : Type u} (start stop : Run → Nat)

def Inside (run : Run) (index : Nat) : Prop := start run ≤ index ∧ index < stop run

/-- The runs are those of the numbers with the property. -/
structure MaximalRuns (member : Nat → Prop) (runs : List Run) : Prop where
  nonempty : ∀ run ∈ runs, start run < stop run
  separated : runs.Pairwise fun left right => stop left < start right
  covers : ∀ index, member index ↔ ∃ run ∈ runs, Inside start stop run index

namespace MaximalRuns

variable {start stop} {member : Nat → Prop}

theorem congr {other : Nat → Prop} {runs : List Run} (maximal : MaximalRuns start stop member runs)
    (same : ∀ index, other index ↔ member index) : MaximalRuns start stop other runs where
  nonempty := maximal.nonempty
  separated := maximal.separated
  covers index := (same index).trans (maximal.covers index)

theorem nil (none : ∀ index, ¬ member index) : MaximalRuns start stop member ([] : List Run) where
  nonempty run listed := by cases listed
  separated := .nil
  covers index := by simp [none index]

theorem singleton {run : Run} (nonempty : start run < stop run) :
    MaximalRuns start stop (Inside start stop run) [run] where
  nonempty := by simp [nonempty]
  separated := List.pairwise_singleton _ _
  covers index := by simp

theorem pair {left right : Run} (leftNonempty : start left < stop left)
    (rightNonempty : start right < stop right) (separated : stop left < start right) :
    MaximalRuns start stop (fun index => Inside start stop left index ∨ Inside start stop right index)
      [left, right] where
  nonempty := by simp [leftNonempty, rightNonempty]
  separated := by simp [separated]
  covers index := by simp

theorem not_member_stop {runs : List Run} (maximal : MaximalRuns start stop member runs) {run : Run}
    (listed : run ∈ runs) : ¬ member (stop run) := by
  intro isMember
  obtain ⟨other, otherListed, atLeast, below⟩ := (maximal.covers _).mp isMember
  obtain ⟨front, back, rfl⟩ := List.append_of_mem listed
  obtain ⟨_, laterApart, earlierApart⟩ := List.pairwise_append.mp maximal.separated
  have nonempty := maximal.nonempty run listed
  rcases List.mem_append.mp otherListed with earlier | later
  · have apart := earlierApart other earlier run List.mem_cons_self
    omega
  · rcases List.mem_cons.mp later with rfl | later
    · omega
    · have apart := (List.pairwise_cons.mp laterApart).1 other later
      omega

theorem within {kept : Nat → Prop} {run piece : Run} {pieces : List Run}
    (left : MaximalRuns start stop (fun index => Inside start stop run index ∧ kept index) pieces)
    (listed : piece ∈ pieces) : start run ≤ start piece ∧ stop piece ≤ stop run := by
  have pieceNonempty := left.nonempty piece listed
  have first := ((left.covers (start piece)).mpr ⟨piece, listed, by simp [Inside, pieceNonempty]⟩).1
  have last := ((left.covers (stop piece - 1)).mpr
    ⟨piece, listed, by simp only [Inside]; omega⟩).1
  simp only [Inside] at first last
  omega

section Splice

variable {kept : Nat → Prop} {front back pieces : List Run} {run : Run}
  (maximal : MaximalRuns start stop member (front ++ run :: back))
include maximal

theorem not_inside_of_other {other : Run} (listed : other ∈ front ∨ other ∈ back) {index : Nat}
    (inside : Inside start stop other index) : ¬ Inside start stop run index := by
  obtain ⟨_, restApart, frontBefore⟩ := List.pairwise_append.mp maximal.separated
  simp only [Inside] at inside ⊢
  rcases listed with inFront | inBack
  · have apart := frontBefore other inFront run List.mem_cons_self
    omega
  · have apart := (List.pairwise_cons.mp restApart).1 other inBack
    omega

variable
  (left : MaximalRuns start stop (fun index => Inside start stop run index ∧ kept index) pieces)
include left

theorem splice_nonempty {other : Run} (listed : other ∈ front ++ (pieces ++ back)) :
    start other < stop other := by
  rcases List.mem_append.mp listed with inFront | listed
  · exact maximal.nonempty other (List.mem_append_left _ inFront)
  · rcases List.mem_append.mp listed with inPieces | inBack
    · exact left.nonempty other inPieces
    · exact maximal.nonempty other (by simp [inBack])

theorem splice_separated :
    (front ++ (pieces ++ back)).Pairwise fun left right => stop left < start right := by
  obtain ⟨frontApart, restApart, frontBefore⟩ := List.pairwise_append.mp maximal.separated
  obtain ⟨backAfter, backApart⟩ := List.pairwise_cons.mp restApart
  refine List.pairwise_append.mpr ⟨frontApart, ?_, ?_⟩
  · refine List.pairwise_append.mpr ⟨left.separated, backApart, ?_⟩
    intro piece inPieces later inBack
    have bound := within left inPieces
    have apart := backAfter later inBack
    omega
  · intro earlier inFront other listed
    rcases List.mem_append.mp listed with inPieces | inBack
    · have bound := within left inPieces
      have apart := frontBefore earlier inFront run List.mem_cons_self
      omega
    · exact frontBefore earlier inFront other (List.mem_cons_of_mem _ inBack)

/-- Numbers are removed from one run only: what is left of the run takes its place. -/
theorem splice (elsewhere : ∀ index, ¬ Inside start stop run index → kept index) :
    MaximalRuns start stop (fun index => member index ∧ kept index) (front ++ (pieces ++ back)) := by
  refine ⟨fun other listed => splice_nonempty maximal left listed,
    splice_separated maximal left, ?_⟩
  intro index
  constructor
  · intro both
    obtain ⟨other, listed, inside⟩ := (maximal.covers index).mp both.1
    rcases List.mem_append.mp listed with inFront | listed
    · exact ⟨other, by simp [inFront], inside⟩
    · rcases List.mem_cons.mp listed with rfl | inBack
      · obtain ⟨piece, inPieces, insidePiece⟩ := (left.covers index).mp ⟨inside, both.2⟩
        exact ⟨piece, by simp [inPieces], insidePiece⟩
      · exact ⟨other, by simp [inBack], inside⟩
  · rintro ⟨other, listed, inside⟩
    rcases List.mem_append.mp listed with inFront | listed
    · exact ⟨(maximal.covers index).mpr ⟨other, by simp [inFront], inside⟩,
        elsewhere index (not_inside_of_other maximal (Or.inl inFront) inside)⟩
    · rcases List.mem_append.mp listed with inPieces | inBack
      · have kept := (left.covers index).mpr ⟨other, inPieces, inside⟩
        exact ⟨(maximal.covers index).mpr ⟨run, by simp, kept.1⟩, kept.2⟩
      · exact ⟨(maximal.covers index).mpr ⟨other, by simp [inBack], inside⟩,
          elsewhere index (not_inside_of_other maximal (Or.inr inBack) inside)⟩

end Splice

end MaximalRuns
end Runs

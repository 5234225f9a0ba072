import Mathlib.Algebra.BigOperators.Group.Finset.Basic

/-!
# Single-parity erasure codes

Over a commutative group in which every element is its own inverse, the parity of
a batch is the sum of its blocks.  Adding it to the sum of all blocks but one
leaves exactly that one.
-/

set_option autoImplicit false

open Finset

universe u v

namespace ParityCode

variable {Block : Type u} {Index : Type v} [AddCommGroup Block]

def parity (block : Index → Block) (positions : Finset Index) : Block :=
  ∑ position ∈ positions, block position

@[simp] theorem parity_empty (block : Index → Block) : parity block ∅ = 0 :=
  Finset.sum_empty

theorem parity_insert [DecidableEq Index] (block : Index → Block) {position : Index}
    {positions : Finset Index} (fresh : position ∉ positions) :
    parity block (insert position positions) = parity block positions + block position := by
  rw [parity, Finset.sum_insert fresh, add_comm]
  rfl

/-- The parity does not depend on the order in which the blocks were added. -/
theorem sum_map_eq_parity [DecidableEq Index] (block : Index → Block) {order : List Index}
    (distinct : order.Nodup) : (order.map block).sum = parity block order.toFinset :=
  (List.sum_toFinset block distinct).symm

variable (selfInverse : ∀ block : Block, block + block = 0)
include selfInverse

/-- The erased block is the sum of what was received and the parity of the batch. -/
theorem recover_missing [DecidableEq Index] (block : Index → Block) {missing : Index}
    {received : Finset Index} (absent : missing ∉ received) :
    parity block received + parity block (insert missing received) = block missing := by
  rw [parity_insert block absent, ← add_assoc, selfInverse, zero_add]

end ParityCode

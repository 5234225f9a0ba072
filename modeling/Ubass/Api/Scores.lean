import Mathlib.Algebra.Order.Field.Rat
import Mathlib.Data.List.Sort
import Ubass.Api.WriteableBuffer

/-!
# Which holes to ask for

The score of a hole in `api/types.rs`, with exact rationals for `f64`.
-/

set_option autoImplicit false

namespace Ubass

namespace Area

def urgencyDecayChunks : ℚ := 4

def beforeHeadSizeDenom : ℚ := 8

def beforeHeadUrgencyCap : ℚ := 9 / 10

def confidenceHalfSatChunks : ℚ := 4

def urgency (self : Area) (headChunk : Nat) : ℚ :=
  if self.contains headChunk then 0
  else if headChunk < self.start then
    1 / (((self.start - headChunk : Nat) : ℚ) / urgencyDecayChunks)
  else min (((self.stop - self.start : Nat) : ℚ) / beforeHeadSizeDenom) beforeHeadUrgencyCap

def confidenceLost (self : Area) (totalChunks laterInvalid : Nat) : ℚ :=
  let validPast : ℚ := (totalChunks - self.stop - laterInvalid : Nat)
  validPast / (validPast + confidenceHalfSatChunks)

end Area

namespace WriteableBuffer

def scoreThreshold : ℚ := 3 / 10

def maxRequestsPerTick : Nat := 2

/-- `suffix_invalid`: how many chunks the areas from each index on cover. -/
def suffixInvalid : List Area → List Nat
  | [] => [0]
  | area :: rest =>
      let later := suffixInvalid rest
      (later.headD 0 + (area.stop - area.start)) :: later

def scoreAreas (self : WriteableBuffer) : List (Area × ℚ) :=
  let headChunk := self.head.toNat / maxPayloadLength
  let totalChunks := self.map.length
  let suffix := suffixInvalid self.invalidAreas
  self.invalidAreas.zipIdx.map fun (area, index) =>
    (area, area.urgency headChunk * area.confidenceLost totalChunks (suffix.getD (index + 1) 0))

/-- The sort is stable and descending. -/
def requestableAreas (self : WriteableBuffer) : List Area :=
  let scored := self.scoreAreas.filter fun scored => scoreThreshold ≤ scored.2
  let sorted := scored.mergeSort fun left right => right.2 ≤ left.2
  (sorted.take maxRequestsPerTick).map Prod.fst

end WriteableBuffer
end Ubass

import Ubass.Lib.Bytes

/-!
# Fields of a fixed width

A field whose encoding has a fixed width and determines the value can be cut off
the front of a byte string.  A header that is the concatenation of such fields
determines all of them (`append_inj`).
-/

set_option autoImplicit false

universe u

/-- Values that are written with the same number of bytes each, differently when they differ. -/
class Serialize (Value : Type u) where
  sized : Nat
  serialize : Value → List UInt8
  length_serialize : ∀ value, (serialize value).length = sized
  injective : Function.Injective serialize

namespace Serialize

variable {Value : Type u}

theorem append_inj [Serialize Value] {left right : Value} {leftRest rightRest : List UInt8} :
    serialize left ++ leftRest = serialize right ++ rightRest ↔
      left = right ∧ leftRest = rightRest := by
  constructor
  · intro same
    have lengths : (serialize left).length = (serialize right).length := by
      rw [length_serialize, length_serialize]
    obtain ⟨fields, rests⟩ := List.append_inj same lengths
    exact ⟨injective fields, rests⟩
  · rintro ⟨rfl, rfl⟩
    rfl

@[reducible] def ofNat (width : Nat) (toNat : Value → Nat)
    (fits : ∀ value, toNat value < 256 ^ width)
    (numbers : Function.Injective toNat) : Serialize Value where
  sized := width
  serialize value := Bytes.beBytes width (toNat value)
  length_serialize value := Bytes.length_beBytes width (toNat value)
  injective := by
    intro left right same
    exact numbers (Bytes.beBytes_injective (fits left) (fits right) same)

@[reducible] def ofBytes (width : Nat) (bytes : Value → List UInt8)
    (length : ∀ value, (bytes value).length = width)
    (determines : Function.Injective bytes) : Serialize Value where
  sized := width
  serialize := bytes
  length_serialize := length
  injective := determines

end Serialize

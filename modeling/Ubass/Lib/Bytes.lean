import Mathlib.Data.List.Basic
import Mathlib.Tactic.Ring

/-!
# Byte strings

Big-endian integers of a fixed width, parts of a byte string and overwriting one.
-/

set_option autoImplicit false

namespace Bytes

/-- The `width` low bytes of a number, most significant first. -/
def beBytes : Nat → Nat → List UInt8
  | 0, _ => []
  | width + 1, value => UInt8.ofNat (value / 256 ^ width) :: beBytes width value

def ofBeBytes : List UInt8 → Nat
  | [] => 0
  | byte :: rest => byte.toNat * 256 ^ rest.length + ofBeBytes rest

@[simp] theorem length_beBytes (width value : Nat) : (beBytes width value).length = width := by
  induction width with
  | zero => rfl
  | succ width ih => simp [beBytes, ih]

theorem ofBeBytes_beBytes_mod (width value : Nat) :
    ofBeBytes (beBytes width value) = value % 256 ^ width := by
  induction width with
  | zero => simp [beBytes, ofBeBytes, Nat.mod_one]
  | succ width ih =>
      simp only [beBytes, ofBeBytes, length_beBytes, ih, UInt8.toNat_ofNat']
      have split : value % 256 ^ (width + 1) =
          value % 256 ^ width + 256 ^ width * (value / 256 ^ width % 256) := by
        rw [pow_succ, Nat.mod_mul]
      rw [split]
      ring

theorem ofBeBytes_beBytes {width value : Nat} (fits : value < 256 ^ width) :
    ofBeBytes (beBytes width value) = value := by
  rw [ofBeBytes_beBytes_mod, Nat.mod_eq_of_lt fits]

theorem beBytes_injective {width left right : Nat} (leftFits : left < 256 ^ width)
    (rightFits : right < 256 ^ width) (same : beBytes width left = beBytes width right) :
    left = right := by
  have decoded := congrArg ofBeBytes same
  rwa [ofBeBytes_beBytes leftFits, ofBeBytes_beBytes rightFits] at decoded

/-- The bytes from `start` up to `stop`. -/
def slice (bytes : List UInt8) (start stop : Nat) : List UInt8 :=
  (bytes.drop start).take (stop - start)

theorem length_slice (bytes : List UInt8) (start stop : Nat) :
    (slice bytes start stop).length = min (stop - start) (bytes.length - start) := by
  rw [slice, List.length_take, List.length_drop]

theorem getElem?_slice {bytes : List UInt8} {start stop index : Nat} (inside : index < stop - start) :
    (slice bytes start stop)[index]? = bytes[start + index]? := by
  rw [slice, List.getElem?_take_of_lt inside, List.getElem?_drop]

/-- The buffer with the bytes from `offset` on overwritten. -/
def overwrite (buffer : List UInt8) (offset : Nat) (bytes : List UInt8) : List UInt8 :=
  buffer.take offset ++ bytes ++ buffer.drop (offset + bytes.length)

theorem length_overwrite {buffer bytes : List UInt8} {offset : Nat}
    (fits : offset + bytes.length ≤ buffer.length) :
    (overwrite buffer offset bytes).length = buffer.length := by
  simp only [overwrite, List.length_append, List.length_take, List.length_drop]
  omega

theorem getElem?_overwrite_inside {buffer bytes : List UInt8} {offset index : Nat}
    (fits : offset + bytes.length ≤ buffer.length) (above : offset ≤ index)
    (below : index < offset + bytes.length) :
    (overwrite buffer offset bytes)[index]? = bytes[index - offset]? := by
  have taken : (buffer.take offset).length = offset := by
    rw [List.length_take]
    omega
  rw [overwrite, List.append_assoc, List.getElem?_append_right (by omega), taken,
    List.getElem?_append_left (by omega)]

theorem getElem?_overwrite_outside {buffer bytes : List UInt8} {offset index : Nat}
    (fits : offset + bytes.length ≤ buffer.length)
    (outside : index < offset ∨ offset + bytes.length ≤ index) :
    (overwrite buffer offset bytes)[index]? = buffer[index]? := by
  have taken : (buffer.take offset).length = offset := by
    rw [List.length_take]
    omega
  rw [overwrite, List.append_assoc]
  rcases outside with before | after
  · rw [List.getElem?_append_left (by omega), List.getElem?_take_of_lt before]
  · rw [List.getElem?_append_right (by omega), taken, List.getElem?_append_right (by omega),
      List.getElem?_drop]
    congr 1
    omega

theorem overwrite_append {front middle back bytes : List UInt8}
    (sameLength : middle.length = bytes.length) :
    overwrite (front ++ (middle ++ back)) front.length bytes = front ++ (bytes ++ back) := by
  rw [overwrite, List.take_left, List.drop_append, List.append_assoc]
  congr 2
  rw [List.drop_eq_nil_of_le (Nat.le_add_right _ _), List.nil_append, Nat.add_sub_cancel_left,
    ← sameLength, List.drop_left]

end Bytes

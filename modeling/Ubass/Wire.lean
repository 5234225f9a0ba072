import Mathlib.Algebra.Group.Nat.Defs
import Mathlib.Data.Nat.Basic

/-!
# Scalars of the wire format

The newtypes of `manager/packets.rs` and `manager/types.rs` that the rest of the
development computes with.  A position or a timestamp carries the bound of the
machine integer it wraps; `ofNat` is the `as` cast.
-/

set_option autoImplicit false

namespace Ubass

def maxPayloadLength : Nat := 1368

def packetDiscardTimeMs : Nat := 500

def packetCountPerBatch : Nat := 28

/-- A byte offset into a stream, a `u32`. -/
@[ext] structure BytePosition where
  toNat : Nat
  lt : toNat < 2 ^ 32
deriving DecidableEq

namespace BytePosition

/-- `BytePosition(value as u32)` -/
def ofNat (value : Nat) : BytePosition :=
  ⟨value % 2 ^ 32, Nat.mod_lt _ (Nat.two_pow_pos 32)⟩

@[simp] theorem toNat_ofNat (value : Nat) : (ofNat value).toNat = value % 2 ^ 32 := rfl

theorem toNat_ofNat_of_lt {value : Nat} (small : value < 2 ^ 32) :
    (ofNat value).toNat = value :=
  Nat.mod_eq_of_lt small

@[simp] theorem ofNat_toNat (position : BytePosition) : ofNat position.toNat = position :=
  BytePosition.ext (Nat.mod_eq_of_lt position.lt)

end BytePosition

/-- Milliseconds since the protocol was opened, a `u64`. -/
@[ext] structure Timestamp where
  toNat : Nat
  lt : toNat < 2 ^ 64
deriving DecidableEq

theorem Timestamp.mod_lt (value : Nat) : value % 2 ^ 64 < 2 ^ 64 :=
  Nat.mod_lt _ (Nat.two_pow_pos 64)

theorem Timestamp.zero_lt : 0 < 2 ^ 64 := Nat.two_pow_pos 64

theorem Timestamp.five_lt : 5 < 2 ^ 64 := by decide

/-- `Timestamp::been_longer_than`, with the reading of the clock as an argument.  The `u64`
difference wraps. -/
def Timestamp.beenLongerThan (self now : Timestamp) (millis : Nat) : Bool :=
  millis < (now.toNat + 2 ^ 64 - self.toNat) % 2 ^ 64

theorem Timestamp.beenLongerThan_iff {self now : Timestamp} {millis : Nat}
    (past : self.toNat ≤ now.toNat) :
    self.beenLongerThan now millis = true ↔ self.toNat + millis < now.toNat := by
  have bound := now.lt
  have difference : (now.toNat + 2 ^ 64 - self.toNat) % 2 ^ 64 = now.toNat - self.toNat := by
    rw [Nat.add_comm, Nat.add_sub_assoc past, Nat.add_mod_left]
    exact Nat.mod_eq_of_lt (by omega)
  rw [beenLongerThan, difference, decide_eq_true_eq]
  omega

/-- `BatchID(u16)` -/
@[ext] structure BatchId where
  id : UInt16
deriving DecidableEq

/-- `SessionId(u64)` -/
@[ext] structure SessionId where
  id : UInt64
deriving DecidableEq

/-- `HandshakeId(u32)` -/
@[ext] structure HandshakeId where
  id : UInt32
deriving DecidableEq

@[ext] structure FecInfo where
  batchSize : UInt8
  batchPos : UInt8
  recoveryCount : UInt8
deriving DecidableEq

/-- `Range<usize>` -/
structure Span where
  start : Nat
  stop : Nat
deriving DecidableEq

namespace FecInfo

/-- `FECInfo::new` -/
def new (batchSize batchPos recoveryCount : UInt8) : FecInfo := ⟨batchSize, batchPos, recoveryCount⟩

/-- The arguments on which the assertions of `FECInfo::new`, compiled in debug builds only, stop
the program: a sum that leaves the range of `u8`, or a position or count that is too large. -/
def newPanics (batchSize batchPos recoveryCount : UInt8) : Bool :=
  256 ≤ batchSize.toNat + recoveryCount.toNat ||
    batchSize.toNat + recoveryCount.toNat ≤ batchPos.toNat || batchSize < recoveryCount

end FecInfo

structure ByteRange where
  start : BytePosition
  length : UInt16
deriving DecidableEq

end Ubass

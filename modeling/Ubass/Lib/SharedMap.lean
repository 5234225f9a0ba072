import Mathlib.Data.List.Basic
import Ubass.Lib.Table

/-!
# Maps of shared cells

A map whose values sit behind reference counted locks.  A task that looked a key up
keeps its reference after the key was removed or given to a newer cell, so a map
is a table of references into the list of all cells ever allocated.
-/

set_option autoImplicit false

universe u v

structure SharedMap (Key : Type u) (Value : Type v) where
  refs : Table Key Nat
  cells : List Value
  valid : ∀ key ref, refs.get key = some ref → ref < cells.length

namespace SharedMap

variable {Key : Type u} {Value : Type v}

def empty : SharedMap Key Value where
  refs := Table.empty
  cells := []
  valid key ref found := by
    rw [Table.get_empty] at found
    cases found

def read (map : SharedMap Key Value) (ref : Nat) : Option Value := map.cells[ref]?

def lookup (map : SharedMap Key Value) (key : Key) : Option Value :=
  (map.refs.get key).bind map.read

def write (map : SharedMap Key Value) (ref : Nat) (value : Value) : SharedMap Key Value where
  refs := map.refs
  cells := map.cells.set ref value
  valid key other found := by
    rw [List.length_set]
    exact map.valid key other found

variable [DecidableEq Key]

/-- `entry(key).or_insert(fresh).clone()` -/
def entry (map : SharedMap Key Value) (key : Key) (fresh : Value) : Nat × SharedMap Key Value :=
  match map.refs.get key with
  | some ref => (ref, map)
  | none =>
      (map.cells.length,
        { refs := map.refs.insert key map.cells.length
          cells := map.cells ++ [fresh]
          valid := by
            intro other ref found
            rw [Table.get_insert] at found
            rw [List.length_append, List.length_singleton]
            split at found
            · cases Option.some.inj found
              exact Nat.lt_succ_self _
            · exact Nat.lt_succ_of_lt (map.valid other ref found) })

/-- `remove(&key)` -/
def remove (map : SharedMap Key Value) (key : Key) : Option Nat × SharedMap Key Value :=
  (map.refs.get key,
    { refs := map.refs.remove key
      cells := map.cells
      valid := fun other ref found =>
        map.valid other ref (Table.get_of_get_remove found).2 })

/-! ## Single operations -/

omit [DecidableEq Key] in
@[simp] theorem refs_write (map : SharedMap Key Value) (ref : Nat) (value : Value) :
    (map.write ref value).refs = map.refs := rfl

omit [DecidableEq Key] in
@[simp] theorem length_cells_write (map : SharedMap Key Value) (ref : Nat) (value : Value) :
    (map.write ref value).cells.length = map.cells.length := List.length_set

omit [DecidableEq Key] in
theorem read_write_self {map : SharedMap Key Value} {ref : Nat} (value : Value)
    (allocated : ref < map.cells.length) : (map.write ref value).read ref = some value :=
  List.getElem?_set_self allocated

omit [DecidableEq Key] in
theorem read_write_of_ne (map : SharedMap Key Value) {ref other : Nat} (value : Value)
    (different : ref ≠ other) : (map.write ref value).read other = map.read other :=
  List.getElem?_set_ne different

omit [DecidableEq Key] in
theorem read_lt {map : SharedMap Key Value} {ref : Nat} {value : Value}
    (found : map.read ref = some value) : ref < map.cells.length :=
  (List.getElem?_eq_some_iff.mp found).1

omit [DecidableEq Key] in
theorem lookup_eq_some {map : SharedMap Key Value} {key : Key} {value : Value} :
    map.lookup key = some value ↔
      ∃ ref, map.refs.get key = some ref ∧ map.read ref = some value :=
  Option.bind_eq_some_iff

omit [DecidableEq Key] in
theorem lookup_of_ref {map : SharedMap Key Value} {key : Key} {ref : Nat}
    (found : map.refs.get key = some ref) : map.lookup key = map.read ref := by
  rw [lookup, found]
  rfl

/-- What one call of `entry` can do. -/
inductive EntryStep (map : SharedMap Key Value) (key : Key) (fresh : Value) :
    Nat × SharedMap Key Value → Prop
  | found (ref : Nat) (present : map.refs.get key = some ref) : EntryStep map key fresh (ref, map)
  | allocated (next : SharedMap Key Value) (absent : map.refs.get key = none)
      (refs : next.refs = map.refs.insert key map.cells.length)
      (cells : next.cells = map.cells ++ [fresh]) :
      EntryStep map key fresh (map.cells.length, next)

theorem entry_step (map : SharedMap Key Value) (key : Key) (fresh : Value) :
    EntryStep map key fresh (map.entry key fresh) := by
  unfold entry
  split
  · rename_i ref present
    exact .found ref present
  · rename_i absent
    exact .allocated _ absent rfl rfl

theorem refs_entry (map : SharedMap Key Value) (key : Key) (fresh : Value) :
    (map.entry key fresh).2.refs.get key = some (map.entry key fresh).1 := by
  have stepped := map.entry_step key fresh
  generalize map.entry key fresh = result at stepped ⊢
  cases stepped with
  | found ref present => exact present
  | allocated next absent refs cells => rw [refs, Table.get_insert_self]

/-- Behind the reference is what the key led to before, or the fresh value. -/
theorem read_entry (map : SharedMap Key Value) (key : Key) (fresh : Value) :
    (map.entry key fresh).2.read (map.entry key fresh).1 =
      some ((map.lookup key).getD fresh) := by
  have stepped := map.entry_step key fresh
  generalize map.entry key fresh = result at stepped ⊢
  cases stepped with
  | found ref present =>
      have allocated := map.valid key ref present
      rw [lookup_of_ref present]
      simp [read, List.getElem?_eq_getElem allocated]
  | allocated next absent refs cells =>
      simp [lookup, absent, read, cells]

/-! ## Keys that share no cell -/

omit [DecidableEq Key] in
def Separate (map : SharedMap Key Value) : Prop :=
  ∀ key other ref, map.refs.get key = some ref → map.refs.get other = some ref → key = other

variable {map : SharedMap Key Value}

theorem Separate.entry (separate : map.Separate) (key : Key) (fresh : Value) :
    (map.entry key fresh).2.Separate := by
  have stepped := map.entry_step key fresh
  generalize map.entry key fresh = result at stepped ⊢
  cases stepped with
  | found ref present => exact separate
  | allocated next absent refs cells =>
      -- the new cell lies behind all that are referred to
      have old : ∀ other ref, map.refs.get other = some ref → ref ≠ map.cells.length :=
        fun other ref found => Nat.ne_of_lt (map.valid other ref found)
      intro first second ref leads also
      rw [refs, Table.get_insert] at leads also
      split at leads
      · rename_i firstKey
        split at also
        · rename_i secondKey
          rw [firstKey, secondKey]
        · cases leads
          exact absurd rfl (old second _ also)
      · split at also
        · cases also
          exact absurd rfl (old first _ leads)
        · exact separate first second ref leads also

theorem Separate.remove (separate : map.Separate) (key : Key) : (map.remove key).2.Separate :=
  fun first second ref leads also =>
    separate first second ref (Table.get_of_get_remove leads).2 (Table.get_of_get_remove also).2

theorem lookup_entry_of_ne (key : Key) {other : Key} (fresh : Value) (different : other ≠ key) :
    (map.entry key fresh).2.lookup other = map.lookup other := by
  have stepped := map.entry_step key fresh
  generalize map.entry key fresh = result at stepped ⊢
  cases stepped with
  | found ref present => rfl
  | allocated next absent refs cells =>
      rw [lookup, lookup, refs, Table.get_insert_of_ne _ _ different]
      cases found : map.refs.get other with
      | none => rfl
      | some ref =>
          rw [Option.bind_some, Option.bind_some, read, read, cells,
            List.getElem?_append_left (map.valid other ref found)]

omit [DecidableEq Key] in
theorem Separate.lookup_write_of_ne (separate : map.Separate) {key other : Key} {ref : Nat}
    (value : Value) (leads : map.refs.get key = some ref) (different : other ≠ key) :
    (map.write ref value).lookup other = map.lookup other := by
  rw [lookup, lookup, refs_write]
  cases found : map.refs.get other with
  | none => rfl
  | some cell =>
      have apart : ref ≠ cell := fun same =>
        different (separate other key cell found (same ▸ leads))
      exact read_write_of_ne map value apart

theorem lookup_remove (key other : Key) :
    (map.remove key).2.lookup other = if other = key then none else map.lookup other := by
  rw [lookup]
  show ((map.refs.remove key).get other).bind map.read = _
  rw [Table.get_remove]
  split
  · rfl
  · rfl

end SharedMap

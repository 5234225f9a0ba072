import Mathlib.Logic.Function.Basic

/-!
# Lookup tables

A hash map is used only through lookup, insertion and removal of single keys, so
a table is the function that answers lookups.
-/

set_option autoImplicit false

universe u v

def Table (Key : Type u) (Value : Type v) : Type (max u v) := Key → Option Value

namespace Table

variable {Key : Type u} {Value : Type v}

def empty : Table Key Value := fun _ => none

def get (table : Table Key Value) (key : Key) : Option Value := table key

def contains (table : Table Key Value) (key : Key) : Bool := (table.get key).isSome

def retain (table : Table Key Value) (keep : Key → Value → Bool) : Table Key Value :=
  fun key => (table key).filter (keep key)

variable [DecidableEq Key]

def insert (table : Table Key Value) (key : Key) (value : Value) : Table Key Value :=
  fun other => if other = key then some value else table other

def remove (table : Table Key Value) (key : Key) : Table Key Value :=
  fun other => if other = key then none else table other

def removeAll (table : Table Key Value) (keys : List Key) : Table Key Value :=
  keys.foldl remove table

omit [DecidableEq Key] in
theorem ext {left right : Table Key Value} (same : ∀ key, left.get key = right.get key) :
    left = right :=
  funext same

omit [DecidableEq Key] in
@[simp] theorem get_empty (key : Key) : (empty : Table Key Value).get key = none := rfl

@[simp] theorem get_insert_self (table : Table Key Value) (key : Key) (value : Value) :
    (table.insert key value).get key = some value := by
  simp [get, insert]

theorem get_insert (table : Table Key Value) (key other : Key) (value : Value) :
    (table.insert key value).get other = if other = key then some value else table.get other := rfl

theorem get_insert_of_ne (table : Table Key Value) {key other : Key} (value : Value)
    (different : other ≠ key) : (table.insert key value).get other = table.get other := by
  rw [get_insert, if_neg different]

@[simp] theorem get_remove_self (table : Table Key Value) (key : Key) :
    (table.remove key).get key = none := by
  simp [get, remove]

theorem get_remove (table : Table Key Value) (key other : Key) :
    (table.remove key).get other = if other = key then none else table.get other := rfl

theorem get_remove_of_ne (table : Table Key Value) {key other : Key} (different : other ≠ key) :
    (table.remove key).get other = table.get other := by
  rw [get_remove, if_neg different]

theorem remove_eq_self {table : Table Key Value} {key : Key} (absent : table.get key = none) :
    table.remove key = table := by
  apply ext
  intro other
  by_cases same : other = key
  · rw [same, get_remove_self, absent]
  · exact get_remove_of_ne table same

theorem get_of_get_remove {table : Table Key Value} {key other : Key} {value : Value}
    (found : (table.remove key).get other = some value) :
    other ≠ key ∧ table.get other = some value := by
  rw [get_remove] at found
  split at found
  · cases found
  · exact ⟨‹_›, found⟩

omit [DecidableEq Key] in
theorem get_of_not_contains {table : Table Key Value} {key : Key}
    (absent : table.contains key = false) : table.get key = none := by
  simpa [contains] using absent

omit [DecidableEq Key] in
theorem contains_of_contains_retain {table : Table Key Value} {keep : Key → Value → Bool}
    {key : Key} (retained : (table.retain keep).contains key = true) :
    table.contains key = true := by
  obtain ⟨value, found⟩ := Option.isSome_iff_exists.mp retained
  have before : table.get key = some value := (Option.filter_eq_some_iff.mp found).1
  rw [contains, before]
  rfl

theorem contains_insert (table : Table Key Value) (key other : Key) (value : Value) :
    (table.insert key value).contains other = true ↔ other = key ∨ table.contains other = true := by
  rw [contains, get_insert]
  by_cases same : other = key
  · simp [same]
  · simp [same, contains]

theorem contains_remove (table : Table Key Value) (key other : Key) :
    (table.remove key).contains other = true ↔ other ≠ key ∧ table.contains other = true := by
  rw [contains, get_remove]
  by_cases same : other = key
  · simp [same]
  · simp [same, contains]

theorem get_removeAll (table : Table Key Value) (keys : List Key) (key : Key) :
    (table.removeAll keys).get key = if key ∈ keys then none else table.get key := by
  induction keys generalizing table with
  | nil => simp [removeAll]
  | cons first rest ih =>
      have step : (table.removeAll (first :: rest)) = (table.remove first).removeAll rest := rfl
      rw [step, ih, get_remove]
      by_cases rested : key ∈ rest
      · simp [rested]
      · simp [rested]

end Table

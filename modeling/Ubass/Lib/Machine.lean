import Mathlib.Data.List.Basic

/-!
# Machines, runs and invariants

A machine takes a state and a label to at most one next state; everything an
environment may choose (which task moves, which message is delivered, what the
clock reads) is part of the label.  `Machine.run` follows a list of labels.

Three rules carry the developments built on this file: an invariant of one step
is an invariant of every run (`run_preserves`), it may use a guard that every
step of the run meets (`guarded_run_preserves`), and a property that one step
keeps exactly when it meets its guard holds along a run exactly when the whole
run does (`holdsAlong_iff_guarded`).
-/

set_option autoImplicit false

universe u v

/-- The states a machine may start in, and its partial step function. -/
structure Machine (State : Type u) (Label : Type v) where
  initial : State → Prop
  step : State → Label → Option State

namespace Machine

variable {State : Type u} {Label : Type v} (machine : Machine State Label)

/-- The state after the labels in order, if every one of them is enabled. -/
def run : State → List Label → Option State
  | state, [] => some state
  | state, label :: rest => (machine.step state label).bind fun next => run next rest

def Reachable (state : State) : Prop :=
  ∃ first labels, machine.initial first ∧ machine.run first labels = some state

/-- Every step of the run is taken from a state and with a label that meet the guard. -/
def Guarded (guard : State → Label → Prop) : State → List Label → Prop
  | _, [] => True
  | state, label :: rest =>
      guard state label ∧ ∀ next, machine.step state label = some next → Guarded guard next rest

/-- The property holds in every state the run passes through after its first one. -/
def HoldsAlong (property : State → Prop) : State → List Label → Prop
  | _, [] => True
  | state, label :: rest =>
      ∀ next, machine.step state label = some next →
        property next ∧ HoldsAlong property next rest

/-- Every step the run takes relates its state to the next one. -/
def StepsMeet (relation : State → State → Prop) : State → List Label → Prop
  | _, [] => True
  | state, label :: rest =>
      ∀ next, machine.step state label = some next →
        relation state next ∧ StepsMeet relation next rest

@[simp] theorem run_nil (state : State) : machine.run state [] = some state := rfl

theorem run_cons (state : State) (label : Label) (rest : List Label) :
    machine.run state (label :: rest) =
      (machine.step state label).bind fun next => machine.run next rest := rfl

theorem run_cons_eq_some {state final : State} {label : Label} {rest : List Label} :
    machine.run state (label :: rest) = some final ↔
      ∃ next, machine.step state label = some next ∧ machine.run next rest = some final := by
  rw [run_cons, Option.bind_eq_some_iff]

theorem run_append_eq_some {state final : State} {front back : List Label} :
    machine.run state (front ++ back) = some final ↔
      ∃ middle, machine.run state front = some middle ∧ machine.run middle back = some final := by
  induction front generalizing state with
  | nil => simp
  | cons label rest ih =>
      rw [List.cons_append, run_cons_eq_some]
      constructor
      · rintro ⟨next, stepped, ran⟩
        obtain ⟨middle, first, second⟩ := ih.mp ran
        exact ⟨middle, machine.run_cons_eq_some.mpr ⟨next, stepped, first⟩, second⟩
      · rintro ⟨middle, first, second⟩
        obtain ⟨next, stepped, ran⟩ := machine.run_cons_eq_some.mp first
        exact ⟨next, stepped, ih.mpr ⟨middle, ran, second⟩⟩

theorem guarded_run_preserves {guard : State → Label → Prop} {property : State → Prop}
    (preserved : ∀ state label next, property state → guard state label →
      machine.step state label = some next → property next)
    {state final : State} {labels : List Label} (start : property state)
    (guarded : machine.Guarded guard state labels)
    (ran : machine.run state labels = some final) : property final := by
  induction labels generalizing state with
  | nil =>
      cases Option.some.inj ran
      exact start
  | cons label rest ih =>
      obtain ⟨next, stepped, restRan⟩ := machine.run_cons_eq_some.mp ran
      exact ih (preserved state label next start guarded.1 stepped)
        (guarded.2 next stepped) restRan

theorem run_preserves {property : State → Prop}
    (preserved : ∀ state label next, property state →
      machine.step state label = some next → property next)
    {state final : State} {labels : List Label} (start : property state)
    (ran : machine.run state labels = some final) : property final := by
  induction labels generalizing state with
  | nil =>
      cases Option.some.inj ran
      exact start
  | cons label rest ih =>
      obtain ⟨next, stepped, restRan⟩ := machine.run_cons_eq_some.mp ran
      exact ih (preserved state label next start stepped) restRan

/-- Where an invariant holds, a run that meets a guard meets every guard that follows from it. -/
theorem guarded_of_guarded {strong weak : State → Label → Prop} {invariant : State → Prop}
    (implies : ∀ state label, invariant state → strong state label → weak state label)
    (preserved : ∀ state label next, invariant state →
      machine.step state label = some next → invariant next)
    {state : State} {labels : List Label} (start : invariant state)
    (guarded : machine.Guarded strong state labels) : machine.Guarded weak state labels := by
  induction labels generalizing state with
  | nil => exact trivial
  | cons label rest ih =>
      refine ⟨implies state label start guarded.1, ?_⟩
      intro next stepped
      exact ih (preserved state label next start stepped) (guarded.2 next stepped)

/-- Where an invariant holds, guards that agree are met by the same runs. -/
theorem guarded_iff_of_invariant {left right : State → Label → Prop} {invariant : State → Prop}
    {allowed : Label → Prop}
    (agree : ∀ state label, invariant state → (left state label ↔ right state label))
    (preserved : ∀ state label next, invariant state → allowed label →
      machine.step state label = some next → invariant next)
    {state : State} (start : invariant state) {labels : List Label}
    (all : ∀ label ∈ labels, allowed label) :
    machine.Guarded left state labels ↔ machine.Guarded right state labels := by
  induction labels generalizing state with
  | nil => exact Iff.rfl
  | cons label rest ih =>
      have later : ∀ next, machine.step state label = some next →
          (machine.Guarded left next rest ↔ machine.Guarded right next rest) := by
        intro next stepped
        exact ih (preserved state label next start (all label List.mem_cons_self) stepped)
          fun other listed => all other (List.mem_cons_of_mem _ listed)
      constructor
      · intro guarded
        exact ⟨(agree state label start).mp guarded.1, fun next stepped =>
          (later next stepped).mp (guarded.2 next stepped)⟩
      · intro guarded
        exact ⟨(agree state label start).mpr guarded.1, fun next stepped =>
          (later next stepped).mpr (guarded.2 next stepped)⟩

theorem guarded_of_forall {guard : State → Label → Prop} (state : State) {labels : List Label}
    (meets : ∀ label ∈ labels, ∀ state, guard state label) :
    machine.Guarded guard state labels := by
  induction labels generalizing state with
  | nil => exact trivial
  | cons label rest ih =>
      refine ⟨meets label List.mem_cons_self state, ?_⟩
      intro next _
      exact ih next fun other listed => meets other (List.mem_cons_of_mem _ listed)

theorem guarded_cons {guard : State → Label → Prop} {state next : State} {label : Label}
    {rest : List Label} (meets : guard state label)
    (stepped : machine.step state label = some next)
    (later : machine.Guarded guard next rest) : machine.Guarded guard state (label :: rest) := by
  refine ⟨meets, ?_⟩
  intro other also
  cases Option.some.inj (stepped.symm.trans also)
  exact later

/-- The rule for what a step does: an invariant may be used, and every guarded step keeps it. -/
theorem stepsMeet_of_guarded {guard : State → Label → Prop} {invariant : State → Prop}
    {relation : State → State → Prop}
    (preserved : ∀ state label next, invariant state → guard state label →
      machine.step state label = some next → invariant next ∧ relation state next)
    {state : State} {labels : List Label} (start : invariant state)
    (guarded : machine.Guarded guard state labels) :
    machine.StepsMeet relation state labels := by
  induction labels generalizing state with
  | nil => exact trivial
  | cons label rest ih =>
      intro next stepped
      obtain ⟨kept, related⟩ := preserved state label next start guarded.1 stepped
      exact ⟨related, ih kept (guarded.2 next stepped)⟩

/-- The rule for steps that are always enabled: every run is possible, and every step of it keeps
the invariant and meets the relation. -/
theorem total_run {invariant : State → Prop} {relation : State → State → Prop}
    (enabled : ∀ state label, invariant state →
      ∃ next, machine.step state label = some next ∧ invariant next ∧ relation state next)
    {state : State} (start : invariant state) (labels : List Label) :
    ∃ final, machine.run state labels = some final ∧ invariant final ∧
      machine.StepsMeet relation state labels := by
  induction labels generalizing state with
  | nil => exact ⟨state, rfl, start, trivial⟩
  | cons label rest ih =>
      obtain ⟨next, stepped, kept, related⟩ := enabled state label start
      obtain ⟨final, ran, finalKept, meets⟩ := ih kept
      refine ⟨final, machine.run_cons_eq_some.mpr ⟨next, stepped, ran⟩, finalKept, ?_⟩
      intro other same
      cases Option.some.inj (stepped.symm.trans same)
      exact ⟨related, meets⟩

/-- The rule for what every step does, where an invariant may be used. -/
theorem stepsMeet_of_invariant {invariant : State → Prop} {relation : State → State → Prop}
    (preserved : ∀ state label next, invariant state → machine.step state label = some next →
      invariant next ∧ relation state next)
    {state : State} (start : invariant state) (labels : List Label) :
    machine.StepsMeet relation state labels := by
  induction labels generalizing state with
  | nil => exact trivial
  | cons label rest ih =>
      intro next stepped
      obtain ⟨kept, related⟩ := preserved state label next start stepped
      exact ⟨related, ih kept⟩

/-- If a step meets the relation exactly when it meets the guard, then all steps of a run meet the
one exactly when they meet the other. -/
theorem stepsMeet_iff_guarded {guard : State → Label → Prop} {relation : State → State → Prop}
    (exactStep : ∀ state label next, machine.step state label = some next →
      (relation state next ↔ guard state label))
    {state final : State} {labels : List Label} (ran : machine.run state labels = some final) :
    machine.StepsMeet relation state labels ↔ machine.Guarded guard state labels := by
  induction labels generalizing state with
  | nil => exact Iff.rfl
  | cons label rest ih =>
      obtain ⟨next, stepped, restRan⟩ := machine.run_cons_eq_some.mp ran
      have head := exactStep state label next stepped
      constructor
      · intro meets
        refine ⟨head.mp (meets next stepped).1, ?_⟩
        intro other same
        cases Option.some.inj (stepped.symm.trans same)
        exact (ih restRan).mp (meets next stepped).2
      · intro guarded other same
        cases Option.some.inj (stepped.symm.trans same)
        exact ⟨head.mpr guarded.1, (ih restRan).mpr (guarded.2 next stepped)⟩

def Halted (state : State) : Prop := ∀ label, machine.step state label = none

section Measure

variable {measure : State → Nat} (decreases : ∀ state label next,
  machine.step state label = some next → measure next < measure state)
include decreases

/-- When every step decreases a measure, a run has at most that many steps. -/
theorem length_run_le {state final : State} {labels : List Label}
    (ran : machine.run state labels = some final) :
    labels.length + measure final ≤ measure state := by
  induction labels generalizing state with
  | nil =>
      cases Option.some.inj ran
      simp
  | cons label rest ih =>
      obtain ⟨next, stepped, restRan⟩ := machine.run_cons_eq_some.mp ran
      have less := decreases state label next stepped
      have restLess := ih restRan
      rw [List.length_cons]
      omega

/-- When every step decreases a measure, some run goes on until nothing can move. -/
theorem exists_run_halted (state : State) :
    ∃ labels final, machine.run state labels = some final ∧ machine.Halted final := by
  induction bound : measure state using Nat.strongRecOn generalizing state with
  | ind size ih =>
      by_cases halted : machine.Halted state
      · exact ⟨[], state, rfl, halted⟩
      · simp only [Halted, not_forall] at halted
        obtain ⟨label, moves⟩ := halted
        obtain ⟨next, stepped⟩ := Option.ne_none_iff_exists'.mp moves
        obtain ⟨labels, final, ran, halts⟩ :=
          ih (measure next) (bound ▸ decreases state label next stepped) next rfl
        exact ⟨label :: labels, final, machine.run_cons_eq_some.mpr ⟨next, stepped, ran⟩, halts⟩

end Measure

/-- When every step from a state with the invariant keeps it and decreases a measure, a run from
such a state has at most that many steps. -/
theorem length_run_le_of_invariant {invariant : State → Prop} {measure : State → Nat}
    (decreases : ∀ state label next, invariant state → machine.step state label = some next →
      invariant next ∧ measure next < measure state)
    {state final : State} {labels : List Label} (start : invariant state)
    (ran : machine.run state labels = some final) :
    invariant final ∧ labels.length + measure final ≤ measure state := by
  induction labels generalizing state with
  | nil =>
      cases Option.some.inj ran
      exact ⟨start, by simp⟩
  | cons label rest ih =>
      obtain ⟨next, stepped, restRan⟩ := machine.run_cons_eq_some.mp ran
      obtain ⟨kept, less⟩ := decreases state label next start stepped
      obtain ⟨ends, restLess⟩ := ih kept restRan
      refine ⟨ends, ?_⟩
      rw [List.length_cons]
      omega

theorem reachable_invariant {property : State → Prop}
    (established : ∀ state, machine.initial state → property state)
    (preserved : ∀ state label next, property state →
      machine.step state label = some next → property next)
    {state : State} (reachable : machine.Reachable state) : property state := by
  obtain ⟨first, labels, initial, ran⟩ := reachable
  exact machine.run_preserves preserved (established first initial) ran

instance decidableGuarded {guard : State → Label → Prop}
    [∀ state label, Decidable (guard state label)] :
    (state : State) → (labels : List Label) → Decidable (machine.Guarded guard state labels)
  | _, [] => isTrue trivial
  | state, label :: rest =>
      match stepped : machine.step state label with
      | none => decidable_of_iff (guard state label)
          ⟨fun meets => ⟨meets, fun _ found => nomatch stepped.symm.trans found⟩, And.left⟩
      | some next =>
          have : Decidable (machine.Guarded guard next rest) := decidableGuarded next rest
          decidable_of_iff (guard state label ∧ machine.Guarded guard next rest)
            ⟨fun both => ⟨both.1, fun other found => by
                cases stepped.symm.trans found
                exact both.2⟩,
              fun guarded => ⟨guarded.1, guarded.2 next stepped⟩⟩

/-- If, from a state with the invariant, a step reaches the property exactly when it meets the
guard, and keeps the invariant when it does, then the property holds along a run exactly when
all of its steps meet the guard. -/
theorem holdsAlong_iff_guarded_of_invariant {guard : State → Label → Prop}
    {property invariant : State → Prop}
    (exactStep : ∀ state label next, invariant state →
      machine.step state label = some next → (property next ↔ guard state label))
    (preserved : ∀ state label next, invariant state → guard state label →
      machine.step state label = some next → invariant next)
    {state : State} {labels : List Label} (start : invariant state)
    {final : State} (ran : machine.run state labels = some final) :
    machine.HoldsAlong property state labels ↔ machine.Guarded guard state labels := by
  induction labels generalizing state with
  | nil => exact Iff.rfl
  | cons label rest ih =>
      obtain ⟨next, stepped, restRan⟩ := machine.run_cons_eq_some.mp ran
      have same : ∀ other, machine.step state label = some other → other = next := by
        intro other eq
        exact Option.some.inj (eq.symm.trans stepped)
      have head := exactStep state label next start stepped
      constructor
      · intro holds
        have meets := head.mp (holds next stepped).1
        refine ⟨meets, ?_⟩
        intro other eq
        cases same other eq
        exact (ih (preserved state label next start meets stepped) restRan).mp
          (holds next stepped).2
      · intro guarded other eq
        cases same other eq
        exact ⟨head.mpr guarded.1,
          (ih (preserved state label next start guarded.1 stepped) restRan).mpr
            (guarded.2 next stepped)⟩

/-- If, from a state with the property, a step keeps the property exactly when it meets
the guard, then a run keeps it throughout exactly when all of its steps meet the guard. -/
theorem holdsAlong_iff_guarded {guard : State → Label → Prop} {property : State → Prop}
    (exactStep : ∀ state label next, property state →
      machine.step state label = some next → (property next ↔ guard state label))
    {state : State} {labels : List Label} (start : property state)
    {final : State} (ran : machine.run state labels = some final) :
    machine.HoldsAlong property state labels ↔ machine.Guarded guard state labels :=
  machine.holdsAlong_iff_guarded_of_invariant exactStep
    (fun state label next holds meets stepped =>
      (exactStep state label next holds stepped).mpr meets) start ran

end Machine

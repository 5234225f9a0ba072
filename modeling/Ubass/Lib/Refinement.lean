import Ubass.Lib.Machine

/-!
# Refinement

One machine refines another when each of its steps is answered by steps of the
other, where a function says which state of the other a state stands for.  The
answer may be empty: what the other machine does not show is a step of the first
one alone.  A run is then answered by a run.
-/

set_option autoImplicit false

universe u v w x

namespace Machine

variable {State : Type u} {Label : Type v} {Shown : Type w} {ShownLabel : Type x}

/-- Steps that meet the guard keep the invariant, and the other machine answers them. -/
structure Refines (concrete : Machine State Label) (shown : Machine Shown ShownLabel)
    (view : State → Shown) (invariant : State → Prop) (guard : State → Label → Prop) : Prop where
  preserved : ∀ state label next, invariant state → guard state label →
    concrete.step state label = some next → invariant next
  answered : ∀ state label next, invariant state → guard state label →
    concrete.step state label = some next →
      ∃ labels, shown.run (view state) labels = some (view next)

theorem Refines.run_answered {concrete : Machine State Label} {shown : Machine Shown ShownLabel}
    {view : State → Shown} {invariant : State → Prop} {guard : State → Label → Prop}
    (refines : concrete.Refines shown view invariant guard) {state final : State}
    {labels : List Label} (start : invariant state) (guarded : concrete.Guarded guard state labels)
    (ran : concrete.run state labels = some final) :
    ∃ answers, shown.run (view state) answers = some (view final) := by
  induction labels generalizing state with
  | nil =>
      cases Option.some.inj ran
      exact ⟨[], rfl⟩
  | cons label rest ih =>
      obtain ⟨next, stepped, restRan⟩ := concrete.run_cons_eq_some.mp ran
      obtain ⟨first, firstRan⟩ := refines.answered state label next start guarded.1 stepped
      have kept := refines.preserved state label next start guarded.1 stepped
      obtain ⟨others, othersRan⟩ := ih kept (guarded.2 next stepped) restRan
      exact ⟨first ++ others, shown.run_append_eq_some.mpr ⟨_, firstRan, othersRan⟩⟩

end Machine

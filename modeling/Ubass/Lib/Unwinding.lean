import Mathlib.Data.List.Basic

/-!
# Components that answer events, and unwinding

A component takes every event in every state and answers with outputs.  What one
observer sees of it is a view of the state and some of the outputs.  Where the
events that do not concern the observer change neither (`unconcerned`), and the
others do the same to equal views (`consistent`), the events that do not concern
the observer can be left out of a run, put into it or exchanged (`same_views`).
-/

set_option autoImplicit false

universe u v w x

variable {State : Type u} {Event : Type v} {Output : Type w} {View : Type x}

structure Reactor (State : Type u) (Event : Type v) (Output : Type w) where
  react : State → Event → State × List Output

namespace Reactor

/-- The state after the events in order, and everything that was answered. -/
def run (reactor : Reactor State Event Output) : State → List Event → State × List Output
  | state, [] => (state, [])
  | state, event :: rest =>
      let (next, answered) := reactor.react state event
      let (final, later) := reactor.run next rest
      (final, answered ++ later)

variable {reactor : Reactor State Event Output}

theorem run_cons (state : State) (event : Event) (rest : List Event) :
    reactor.run state (event :: rest) =
      ((reactor.run (reactor.react state event).1 rest).1,
        (reactor.react state event).2 ++
          (reactor.run (reactor.react state event).1 rest).2) := rfl

structure Observer (State : Type u) (Event : Type v) (Output : Type w) (View : Type x) where
  view : State → View
  observes : Output → Bool
  concerns : Event → Bool

namespace Observer

variable (observer : Observer State Event Output View)

def seen (outputs : List Output) : List Output := outputs.filter observer.observes

def concerning (events : List Event) : List Event := events.filter observer.concerns

theorem seen_append (front back : List Output) :
    observer.seen (front ++ back) = observer.seen front ++ observer.seen back :=
  List.filter_append front back

def Same (left right : State × List Output) : Prop :=
  observer.view left.1 = observer.view right.1 ∧ observer.seen left.2 = observer.seen right.2

variable {observer}

theorem Same.symm {left right : State × List Output} (same : observer.Same left right) :
    observer.Same right left := ⟨same.1.symm, same.2.symm⟩

theorem Same.trans {first second third : State × List Output}
    (front : observer.Same first second) (back : observer.Same second third) :
    observer.Same first third := ⟨front.1.trans back.1, front.2.trans back.2⟩

/-- The conditions on single events, for the states of an invariant and the events that are
allowed. -/
structure Unwinding (reactor : Reactor State Event Output)
    (observer : Observer State Event Output View) (invariant : State → Prop)
    (allowed : Event → Prop) : Prop where
  preserved : ∀ state event, invariant state → allowed event →
    invariant (reactor.react state event).1
  unconcerned : ∀ state event, invariant state → allowed event →
    observer.concerns event = false → observer.Same (reactor.react state event) (state, [])
  consistent : ∀ left right event, invariant left → invariant right → allowed event →
    observer.view left = observer.view right → observer.concerns event = true →
      observer.Same (reactor.react left event) (reactor.react right event)

variable {invariant : State → Prop} {allowed : Event → Prop}

theorem Unwinding.run_preserved (unwinding : Unwinding reactor observer invariant allowed)
    {state : State} {events : List Event} (start : invariant state)
    (all : ∀ event ∈ events, allowed event) : invariant (reactor.run state events).1 := by
  induction events generalizing state with
  | nil => exact start
  | cons event rest ih =>
      exact ih (unwinding.preserved state event start (all event List.mem_cons_self))
        fun other listed => all other (List.mem_cons_of_mem _ listed)

/-- Two runs from equal views are the same to the observer when they agree on the first event that
concerns it and on what comes after. -/
theorem Same.cons {left right : State} {event : Event} {rest others : List Event}
    (head : observer.Same (reactor.react left event) (reactor.react right event))
    (tail : observer.Same (reactor.run (reactor.react left event).1 rest)
      (reactor.run (reactor.react right event).1 others)) :
    observer.Same (reactor.run left (event :: rest)) (reactor.run right (event :: others)) := by
  rw [run_cons, run_cons]
  refine ⟨tail.1, ?_⟩
  rw [seen_append, seen_append, head.2, tail.2]

/-- A run is the same to the observer as the run of the events that concern it. -/
theorem Unwinding.purged (unwinding : Unwinding reactor observer invariant allowed)
    {left right : State} {events : List Event} (leftStart : invariant left)
    (rightStart : invariant right) (all : ∀ event ∈ events, allowed event)
    (views : observer.view left = observer.view right) :
    observer.Same (reactor.run left events)
      (reactor.run right (observer.concerning events)) := by
  induction events generalizing left right with
  | nil => exact ⟨views, rfl⟩
  | cons event rest ih =>
      have here := all event List.mem_cons_self
      have later : ∀ other ∈ rest, allowed other :=
        fun other listed => all other (List.mem_cons_of_mem _ listed)
      have leftNext := unwinding.preserved left event leftStart here
      by_cases concerned : observer.concerns event = true
      · have rightNext := unwinding.preserved right event rightStart here
        have head := unwinding.consistent left right event leftStart rightStart here views concerned
        have kept : observer.concerning (event :: rest) = event :: observer.concerning rest :=
          List.filter_cons_of_pos concerned
        rw [kept]
        exact Same.cons head (ih leftNext rightNext later head.1)
      · have quiet := unwinding.unconcerned left event leftStart here
          (eq_false_of_ne_true concerned)
        have dropped : observer.concerning (event :: rest) = observer.concerning rest :=
          List.filter_cons_of_neg concerned
        have tail := ih leftNext rightStart later (quiet.1.trans views)
        rw [dropped, run_cons]
        refine ⟨tail.1, ?_⟩
        rw [seen_append, quiet.2]
        exact tail.2

/-- Noninterference: runs that hold the same events of the observer in the same order are the same
to it, whatever else they hold. -/
theorem Unwinding.same_views (unwinding : Unwinding reactor observer invariant allowed)
    {left right : State} {events others : List Event} (leftStart : invariant left)
    (rightStart : invariant right) (all : ∀ event ∈ events, allowed event)
    (allOthers : ∀ event ∈ others, allowed event)
    (views : observer.view left = observer.view right)
    (concerning : observer.concerning events = observer.concerning others) :
    observer.Same (reactor.run left events) (reactor.run right others) := by
  have front := unwinding.purged leftStart rightStart all views
  have back := unwinding.purged rightStart rightStart allOthers rfl
  rw [concerning] at front
  exact front.trans back.symm

end Observer
end Reactor

import Ubass.Lib.Parser

/-!
# Handlers

A handler reads and changes a state that it shares with others, and it can fail or
stop the program like a parser; what it has changed by then stays changed.  Two
questions are asked of a handler: which values it returns, and whether it stops
the program.  Both go through the binds of its body.
-/

set_option autoImplicit false

universe u

def Handler (State Value : Type u) : Type u := State → Except Stop Value × State

namespace Handler

variable {State Value Other : Type u}

protected def pure (value : Value) : Handler State Value := fun state => (.ok value, state)

protected def bind (first : Handler State Value) (next : Value → Handler State Other) :
    Handler State Other :=
  fun state =>
    match first state with
    | (.ok value, state) => next value state
    | (.error stop, state) => (.error stop, state)

instance : Monad (Handler State) where
  pure := Handler.pure
  bind := Handler.bind

def lift (result : Except Stop Value) : Handler State Value := fun state => (result, state)

def Returns (handler : Handler State Value) (state : State) (value : Value) : Prop :=
  (handler state).1 = .ok value

def Panics (handler : Handler State Value) (state : State) : Prop :=
  (handler state).1 = .error .panic

/-! ## What is returned -/

theorem returns_pure {value other : Value} {state : State} :
    Returns (pure value) state other ↔ value = other := by
  constructor
  · intro h
    exact Except.ok.inj h
  · intro h
    rw [h]
    rfl

theorem returns_bind {first : Handler State Value} {next : Value → Handler State Other}
    {state : State} {other : Other} :
    Returns (first >>= next) state other ↔
      ∃ value, Returns first state value ∧ Returns (next value) (first state).2 other := by
  show (Handler.bind first next state).1 = _ ↔ _
  rw [Handler.bind]
  unfold Returns
  rcases first state with ⟨result, after⟩
  cases result with
  | error stop =>
      constructor
      · intro h
        cases h
      · rintro ⟨value, h, -⟩
        cases h
  | ok value =>
      constructor
      · intro h
        exact ⟨value, rfl, h⟩
      · rintro ⟨value', h, h'⟩
        cases h
        exact h'

theorem bind_of_eq {first : Handler State Value} {next : Value → Handler State Other}
    {state after : State} {value : Value} (h : first state = (.ok value, after)) :
    (first >>= next) state = next value after := by
  show Handler.bind first next state = _
  rw [Handler.bind, h]

theorem bind_of_error {first : Handler State Value} {next : Value → Handler State Other}
    {state after : State} {stop : Stop} (h : first state = (.error stop, after)) :
    (first >>= next) state = (.error stop, after) := by
  show Handler.bind first next state = _
  rw [Handler.bind, h]

theorem lift_bind {result : Except Stop Value} {next : Value → Handler State Other} {value : Value}
    (h : result = .ok value) : (lift result >>= next) = next value := by
  funext state
  apply bind_of_eq
  rw [lift, h]

theorem lift_bind_apply {result : Except Stop Value} {next : Value → Handler State Other}
    {value : Value} (h : result = .ok value) (state : State) :
    (lift result >>= next) state = next value state := by
  rw [lift_bind h]

theorem lift_bind_error {result : Except Stop Value} {next : Value → Handler State Other}
    {stop : Stop} (h : result = .error stop) : (lift result >>= next) = lift (.error stop) := by
  funext state
  show Handler.bind (lift result) next state = _
  rw [Handler.bind, lift, h]
  rfl

/-- Whatever is returned, from whichever state, has the property. -/
def Yields (handler : Handler State Value) (post : Value → Prop) : Prop :=
  ∀ state value, Returns handler state value → post value

theorem yields_pure {value : Value} {post : Value → Prop} (holds : post value) :
    Yields (pure value : Handler State Value) post := by
  intro state other h
  rw [returns_pure] at h
  exact h ▸ holds

theorem yields_bind {first : Handler State Value} {next : Value → Handler State Other}
    {post : Other → Prop} (rest : ∀ value, Yields (next value) post) :
    Yields (first >>= next) post := by
  intro state other h
  obtain ⟨value, -, h⟩ := returns_bind.mp h
  exact rest value _ other h

theorem yields_lift_bind {result : Except Stop Value} {next : Value → Handler State Other}
    {post : Other → Prop} (rest : ∀ value, result = .ok value → Yields (next value) post) :
    Yields (lift result >>= next) post := by
  intro state other h
  obtain ⟨value, read, h⟩ := returns_bind.mp h
  exact rest value read _ other h

/-! ## Stopping the program -/

theorem panics_lift {result : Except Stop Value} {state : State} :
    Panics (lift result) state ↔ result = .error .panic :=
  Iff.rfl

theorem not_panics_pure {value : Value} {state : State} : ¬ Panics (pure value) state := by
  intro h
  cases h

theorem panics_bind {first : Handler State Value} {next : Value → Handler State Other}
    {state : State} :
    Panics (first >>= next) state ↔
      Panics first state ∨
        ∃ value, Returns first state value ∧ Panics (next value) (first state).2 := by
  show (Handler.bind first next state).1 = _ ↔ _
  rw [Handler.bind, Panics]
  unfold Returns
  rcases first state with ⟨result, after⟩
  cases result with
  | error stop =>
      constructor
      · intro h
        cases h
        exact Or.inl rfl
      · rintro (h | ⟨value, h, -⟩)
        · cases h
          rfl
        · cases h
  | ok value =>
      constructor
      · intro h
        exact Or.inr ⟨value, rfl, h⟩
      · rintro (h | ⟨value', h, h'⟩)
        · cases h
        · cases h
          exact h'

theorem panics_bind_iff {first : Handler State Value} {next : Value → Handler State Other}
    (total : ∀ value state, ¬ Panics (next value) state) {state : State} :
    Panics (first >>= next) state ↔ Panics first state := by
  rw [panics_bind]
  constructor
  · rintro (h | ⟨value, -, h⟩)
    · exact h
    · exact absurd h (total value _)
  · exact Or.inl

theorem not_panics_bind {first : Handler State Value} {next : Value → Handler State Other}
    (total : ∀ state, ¬ Panics first state) (total' : ∀ value state, ¬ Panics (next value) state)
    {state : State} : ¬ Panics (first >>= next) state := by
  rw [panics_bind_iff total']
  exact total state

end Handler

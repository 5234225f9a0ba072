import Mathlib.Logic.Relation
import Mathlib.Order.Basic
import Ubass.Lib.Machine

/-!
# Tasks that take locks

A task runs a program over a shared memory, which takes read/write locks one after the
other and gives them back.  What a task does under a lock it has just got belongs to the
step that takes it.  Any task whose next step is possible may move.

A task waits for every other one that holds the lock it asks for, in whatever mode: where
locks are fair, a reader also waits for the readers in front of a queued writer.  The state
is deadlocked when this relation has a cycle.

`Always` says of a program what holds wherever it may get to.  It carries a static fact about
the programs to every task of every run (`always_of_reachable`), and from there a rank of the
locks excludes cycles (`not_deadlocked_of_rank`).
-/

set_option autoImplicit false

universe u v w x

inductive LockMode where
  | read
  | write
deriving DecidableEq

/-- What is left of a program.  `next` gets the memory as it is before the effect. -/
inductive LockProgram (Lock : Type u) (Memory : Type v) (Result : Type w) where
  | done (result : Result)
  | acquire (lock : Lock) (mode : LockMode) (effect : Memory → Memory)
      (next : Memory → LockProgram Lock Memory Result)
  | release (lock : Lock) (next : LockProgram Lock Memory Result)
  /-- A step that needs none of the locks. -/
  | access (effect : Memory → Memory) (next : Memory → LockProgram Lock Memory Result)

namespace LockProgram

variable {Lock : Type u} {Memory : Type v} {Result : Type w} {Other : Type x}

def bind : LockProgram Lock Memory Result → (Result → LockProgram Lock Memory Other) →
    LockProgram Lock Memory Other
  | done result, after => after result
  | acquire lock mode effect next, after =>
      acquire lock mode effect fun memory => (next memory).bind after
  | release lock next, after => release lock (next.bind after)
  | access effect next, after => access effect fun memory => (next memory).bind after

def wants : LockProgram Lock Memory Result → Option Lock
  | acquire lock _ _ _ => some lock
  | done _ | release _ _ | access _ _ => none

@[simp] theorem wants_acquire (lock : Lock) (mode : LockMode) (effect : Memory → Memory)
    (next : Memory → LockProgram Lock Memory Result) :
    (acquire lock mode effect next).wants = some lock := rfl

def alone : LockProgram Lock Memory Result → Memory → Memory × Result
  | done result, memory => (memory, result)
  | acquire _ _ effect next, memory => (next memory).alone (effect memory)
  | release _ next, memory => next.alone memory
  | access effect next, memory => (next memory).alone (effect memory)

theorem alone_bind (program : LockProgram Lock Memory Result)
    (after : Result → LockProgram Lock Memory Other) (memory : Memory) :
    (program.bind after).alone memory =
      (after (program.alone memory).2).alone (program.alone memory).1 := by
  induction program generalizing memory with
  | done result => rfl
  | acquire lock mode effect next ih => exact ih memory (effect memory)
  | release lock next ih => exact ih memory
  | access effect next ih => exact ih memory (effect memory)

variable [DecidableEq Lock]

/-- The locks a program holds and what is left of it, one step further. -/
def advance (memory : Memory) (held : List (Lock × LockMode)) :
    LockProgram Lock Memory Result → List (Lock × LockMode) × LockProgram Lock Memory Result
  | done result => (held, done result)
  | acquire lock mode _ next => ((lock, mode) :: held, next memory)
  | release lock next => (held.eraseP fun entry => entry.1 = lock, next)
  | access _ next => (held, next memory)

/-- Wherever the program may get to, whatever the memory holds then. -/
def Always (property : List (Lock × LockMode) → LockProgram Lock Memory Result → Prop) :
    List (Lock × LockMode) → LockProgram Lock Memory Result → Prop
  | held, done result => property held (done result)
  | held, acquire lock mode effect next =>
      property held (acquire lock mode effect next) ∧
        ∀ memory, Always property ((lock, mode) :: held) (next memory)
  | held, release lock next =>
      property held (release lock next) ∧
        Always property (held.eraseP fun entry => entry.1 = lock) next
  | held, access effect next =>
      property held (access effect next) ∧ ∀ memory, Always property held (next memory)

variable {property : List (Lock × LockMode) → LockProgram Lock Memory Result → Prop}
  {held : List (Lock × LockMode)} {program : LockProgram Lock Memory Result}

theorem Always.here (always : program.Always property held) : property held program := by
  cases program with
  | done result => exact always
  | acquire | release | access => exact always.1

theorem Always.advance (always : program.Always property held) (memory : Memory) :
    (program.advance memory held).2.Always property (program.advance memory held).1 := by
  cases program with
  | done result => exact always
  | acquire lock mode effect next => exact always.2 memory
  | release lock next => exact always.2
  | access effect next => exact always.2 memory

/-- The program asks for a lock only with nothing in hand, and ends with nothing in hand. -/
def Sequential : List (Lock × LockMode) → LockProgram Lock Memory Result → Prop
  | held, done _ => held = []
  | held, acquire lock mode _ next =>
      held = [] ∧ ∀ memory, Sequential [(lock, mode)] (next memory)
  | held, release lock next => Sequential (held.eraseP fun entry => entry.1 = lock) next
  | held, access _ next => ∀ memory, Sequential held (next memory)

theorem Sequential.bind (first : program.Sequential held)
    {after : Result → LockProgram Lock Memory Other}
    (later : ∀ result, (after result).Sequential []) : (program.bind after).Sequential held := by
  induction program generalizing held with
  | done result =>
      cases first
      exact later result
  | acquire lock mode effect next ih =>
      obtain ⟨empty, first⟩ := first
      exact ⟨empty, fun memory => ih memory (first memory)⟩
  | release lock next ih => exact ih first
  | access effect next ih => exact fun memory => ih memory (first memory)

theorem Sequential.always (sequential : program.Sequential held) :
    program.Always (fun held program => ∀ memory,
      (program.advance memory held).2.wants.isSome = true →
        (program.advance memory held).1 = []) held := by
  have asks : ∀ {held : List (Lock × LockMode)} {rest : LockProgram Lock Memory Result},
      rest.Sequential held → rest.wants.isSome = true → held = [] := by
    intro held rest sequential waits
    cases rest with
    | acquire lock mode effect next => exact sequential.1
    | done | release | access => cases waits
  induction program generalizing held with
  | done result => exact fun _ waits => asks sequential waits
  | acquire lock mode effect next ih =>
      obtain ⟨rfl, sequential⟩ := sequential
      exact ⟨fun memory => asks (sequential memory), fun memory => ih memory (sequential memory)⟩
  | release lock next ih => exact ⟨fun _ => asks sequential, ih sequential⟩
  | access effect next ih =>
      exact ⟨fun memory => asks (sequential memory), fun memory => ih memory (sequential memory)⟩

theorem Always.mono {weaker : List (Lock × LockMode) → LockProgram Lock Memory Result → Prop}
    (always : program.Always property held)
    (implies : ∀ held program, property held program → weaker held program) :
    program.Always weaker held := by
  induction program generalizing held with
  | done result => exact implies _ _ always
  | acquire lock mode effect next ih =>
      exact ⟨implies _ _ always.1, fun memory => ih memory (always.2 memory)⟩
  | release lock next ih => exact ⟨implies _ _ always.1, ih always.2⟩
  | access effect next ih =>
      exact ⟨implies _ _ always.1, fun memory => ih memory (always.2 memory)⟩

end LockProgram

/-- A call that has been made, the locks it holds and what it has still to do. -/
structure LockTask (Call : Type x) (Lock : Type u) (Memory : Type v) where
  call : Call
  held : List (Lock × LockMode)
  rest : LockProgram Lock Memory Unit

namespace LockTask

variable {Call : Type x} {Lock : Type u} {Memory : Type v}

def Holds (self : LockTask Call Lock Memory) (lock : Lock) : Prop := lock ∈ self.held.map Prod.fst

def wants (self : LockTask Call Lock Memory) : Option Lock := self.rest.wants

/-- The task holds the first lock and waits for the second one. -/
def Between (self : LockTask Call Lock Memory) (first second : Lock) : Prop :=
  self.Holds first ∧ self.wants = some second

def advance [DecidableEq Lock] (self : LockTask Call Lock Memory) (memory : Memory) :
    LockTask Call Lock Memory :=
  ⟨self.call, (self.rest.advance memory self.held).1, (self.rest.advance memory self.held).2⟩

end LockTask

structure LockState (Call : Type x) (Lock : Type u) (Memory : Type v) where
  memory : Memory
  tasks : List (LockTask Call Lock Memory)

inductive LockLabel (Call : Type x) where
  | call (call : Call)
  | run (index : Nat)

namespace LockState

variable {Call : Type x} {Lock : Type u} {Memory : Type v}

def WaitsFor (self : LockState Call Lock Memory) (waiting holding : Nat) : Prop :=
  ∃ task peer lock, self.tasks[waiting]? = some task ∧ self.tasks[holding]? = some peer ∧
    task.wants = some lock ∧ peer.Holds lock

def Deadlocked (self : LockState Call Lock Memory) : Prop :=
  ∃ index, Relation.TransGen self.WaitsFor index index

variable [DecidableEq Lock]

def grants (self : LockState Call Lock Memory) (lock : Lock) (mode : LockMode) : Bool :=
  self.tasks.all fun task => task.held.all fun entry =>
    entry.1 ≠ lock || (mode = .read && entry.2 = .read)

/-- The effect of the next step of a program on the memory, where that step is possible. -/
def effect (self : LockState Call Lock Memory) :
    LockProgram Lock Memory Unit → Option Memory
  | .done _ => none
  | .acquire lock mode effect _ =>
      if self.grants lock mode then some (effect self.memory) else none
  | .release _ _ => some self.memory
  | .access effect _ => some (effect self.memory)

def call (self : LockState Call Lock Memory) (program : Call → LockProgram Lock Memory Unit)
    (call : Call) : LockState Call Lock Memory :=
  { self with tasks := self.tasks ++ [⟨call, [], program call⟩] }

def run (self : LockState Call Lock Memory) (index : Nat) : Option (LockState Call Lock Memory) :=
  match self.tasks[index]? with
  | some task =>
      (self.effect task.rest).map fun memory =>
        ⟨memory, self.tasks.set index (task.advance self.memory)⟩
  | none => none

/-- Any calls at any time. -/
def machine (program : Call → LockProgram Lock Memory Unit) :
    Machine (LockState Call Lock Memory) (LockLabel Call) where
  initial state := state.tasks = []
  step state
    | .call call => some (state.call program call)
    | .run index => state.run index

variable {state next : LockState Call Lock Memory}

theorem run_eq_some {index : Nat} (moved : state.run index = some next) :
    ∃ task, state.tasks[index]? = some task ∧
      next.tasks = state.tasks.set index (task.advance state.memory) := by
  unfold run at moved
  split at moved
  · rename_i task found
    obtain ⟨memory, _, rfl⟩ := Option.map_eq_some_iff.mp moved
    exact ⟨task, found, rfl⟩
  · cases moved

/-! ## What holds of every task -/

/-- Every task is at a place where the property still holds wherever it may get to. -/
def Placed (property : Call → List (Lock × LockMode) → LockProgram Lock Memory Unit → Prop)
    (state : LockState Call Lock Memory) : Prop :=
  ∀ task ∈ state.tasks, task.rest.Always (property task.call) task.held

section Placed

variable {program : Call → LockProgram Lock Memory Unit}
  {property : Call → List (Lock × LockMode) → LockProgram Lock Memory Unit → Prop}
  (static : ∀ call, (program call).Always (property call) [])
include static

theorem step_placed (placed : state.Placed property) {label : LockLabel Call}
    (stepped : (machine program).step state label = some next) : next.Placed property := by
  cases label with
  | call call =>
      cases stepped
      intro task listed
      rcases List.mem_append.mp listed with before | new
      · exact placed task before
      · rw [List.mem_singleton] at new
        rw [new]
        exact static call
  | run index =>
      obtain ⟨task, found, moved⟩ := run_eq_some stepped
      intro other listed
      rw [moved] at listed
      rcases List.mem_or_eq_of_mem_set listed with before | rfl
      · exact placed other before
      · exact (placed task (List.mem_of_getElem? found)).advance state.memory

/-- What is always true of the programs is true of every task at every moment. -/
theorem always_of_reachable (reachable : (machine program).Reachable state) :
    state.Placed property := by
  apply (machine program).reachable_invariant ?_ (fun _ _ _ placed stepped =>
    step_placed static placed stepped) reachable
  intro first empty task listed
  rw [show first.tasks = [] from empty] at listed
  cases listed

end Placed

/-! ## Ranks -/

section Rank

variable {Rank : Type*} [Preorder Rank] {rank : Lock → Rank}
  (ordered : ∀ task ∈ state.tasks, ∀ held wanted, task.Between held wanted →
    rank held < rank wanted)
include ordered

omit [DecidableEq Lock] in
theorem rank_le_of_chain {first last : Nat}
    (chain : Relation.TransGen state.WaitsFor first last) :
    ∃ task wanted peer held, state.tasks[first]? = some task ∧ task.wants = some wanted ∧
      state.tasks[last]? = some peer ∧ peer.Holds held ∧ rank wanted ≤ rank held := by
  induction chain with
  | single waits =>
      obtain ⟨task, peer, lock, found, other, wants, holds⟩ := waits
      exact ⟨task, lock, peer, lock, found, wants, other, holds, le_rfl⟩
  | tail _ waits ih =>
      obtain ⟨task, wanted, middle, held, found, wants, between, holds, below⟩ := ih
      obtain ⟨again, peer, lock, same, other, asks, gives⟩ := waits
      cases Option.some.inj (between.symm.trans same)
      have above := ordered middle (List.mem_of_getElem? between) held lock ⟨holds, asks⟩
      exact ⟨task, wanted, peer, lock, found, wants, other, gives, below.trans above.le⟩

omit [DecidableEq Lock] in
/-- Where every task only waits for locks of a higher rank than those it holds, nobody waits for
itself. -/
theorem not_deadlocked_of_rank : ¬ state.Deadlocked := by
  rintro ⟨index, cycle⟩
  obtain ⟨task, wanted, peer, held, found, wants, same, holds, below⟩ :=
    rank_le_of_chain ordered cycle
  cases Option.some.inj (found.symm.trans same)
  have above := ordered task (List.mem_of_getElem? found) held wanted ⟨holds, wants⟩
  exact lt_irrefl _ (below.trans_lt above)

end Rank

omit [DecidableEq Lock] in
/-- Two tasks that stand between the same two locks the opposite way round wait for each other. -/
theorem deadlocked_of_between {task peer : LockTask Call Lock Memory} {first second : Lock}
    (listed : task ∈ state.tasks) (peerListed : peer ∈ state.tasks)
    (between : task.Between first second) (opposite : peer.Between second first) :
    state.Deadlocked := by
  obtain ⟨index, found⟩ := List.mem_iff_getElem?.mp listed
  obtain ⟨other, peerFound⟩ := List.mem_iff_getElem?.mp peerListed
  have waits : state.WaitsFor index other :=
    ⟨task, peer, second, found, peerFound, between.2, opposite.1⟩
  have back : state.WaitsFor other index :=
    ⟨peer, task, first, peerFound, found, opposite.2, between.1⟩
  exact ⟨index, (Relation.TransGen.single waits).tail back⟩

end LockState

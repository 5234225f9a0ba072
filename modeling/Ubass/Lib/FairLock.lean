import Mathlib.Logic.Function.Basic
import Ubass.Lib.Locks

/-!
# A fair lock and bounded channels

Tasks share one memory behind a read/write lock and send to bounded channels, which somebody
else reads.  The lock is fair: who asks for it waits in a queue, and only the front of the queue
is let in.  A send waits for room in its channel, with the lock in hand if the task has it.

What a task does under the lock belongs to the step that lets it in.

`Overloaded` is the state of affairs that cannot end by itself: the channel holds, with what is
about to be sent under the lock, more than it has room for.  Then somebody keeps the lock for as
long as nobody reads that channel (`Overloaded.run`), and behind a writer in the queue nobody is
let in (`Overloaded.run_behind`).
-/

set_option autoImplicit false

universe u v w x

namespace FairLock

/-- What is left of a task.  `next` gets the memory as it is when the task is let in. -/
inductive Program (Memory : Type u) (Channel : Type v) (Event : Type w) where
  | done
  | read (next : Memory → Program Memory Channel Event)
  | write (effect : Memory → Memory) (next : Memory → Program Memory Channel Event)
  | release (next : Program Memory Channel Event)
  | send (channel : Channel) (event : Event) (next : Program Memory Channel Event)
  /-- A step that needs neither the lock nor a channel. -/
  | elsewhere (next : Program Memory Channel Event)

namespace Program

variable {Memory : Type u} {Channel : Type v} {Event : Type w}

/-- How the program asks for the lock, if that is what it does next. -/
def asks : Program Memory Channel Event → Option LockMode
  | read _ => some .read
  | write _ _ => some .write
  | done | release _ | send _ _ _ | elsewhere _ => none

/-- What is left after the next step, which is let in with this memory if it asks for the lock. -/
def after (memory : Memory) : Program Memory Channel Event → Option (Program Memory Channel Event)
  | done => none
  | read next => some (next memory)
  | write _ next => some (next memory)
  | release next => some next
  | send _ _ next => some next
  | elsewhere next => some next

def sendsTo [DecidableEq Channel] (channel : Channel) : Program Memory Channel Event → Bool
  | send other _ _ => other = channel
  | done | read _ | write _ _ | release _ | elsewhere _ => false

theorem not_sendsTo_of_asks [DecidableEq Channel] {program : Program Memory Channel Event}
    {mode : LockMode} (asks : program.asks = some mode) (channel : Channel) :
    program.sendsTo channel = false := by
  cases program with
  | read | write => rfl
  | done | release | send | elsewhere => cases asks

end Program

/-- A task, the ways in which it holds the lock, and what it has still to do. -/
structure Task (Call : Type x) (Memory : Type u) (Channel : Type v) (Event : Type w) where
  call : Call
  held : List LockMode
  rest : Program Memory Channel Event

/-- What has been sent and not read, and whether there is anybody to read it. -/
structure Mailbox (Event : Type w) where
  events : List Event
  listening : Bool

structure State (Call : Type x) (Memory : Type u) (Channel : Type v) (Event : Type w) where
  memory : Memory
  channels : Channel → Mailbox Event
  /-- Who waits for the lock, by the place in `tasks`. -/
  queue : List (Nat × LockMode)
  tasks : List (Task Call Memory Channel Event)

/-- A task is started or moves; the other end of a channel reads an event or is dropped. -/
inductive Label (Call : Type x) (Channel : Type v) where
  | dispatch (call : Call)
  | run (index : Nat)
  | receive (channel : Channel)
  | close (channel : Channel)

def Label.Spares {Call : Type x} {Channel : Type v} (channel : Channel) : Label Call Channel → Prop
  | receive other => other ≠ channel
  | close other => other ≠ channel
  | dispatch _ | run _ => True

namespace State

variable {Call : Type x} {Memory : Type u} {Channel : Type v} {Event : Type w}

/-- The front of the queue is this task, and nobody is in its way. -/
def grants (self : State Call Memory Channel Event) (index : Nat) (mode : LockMode) : Bool :=
  self.queue.head? = some (index, mode) &&
    self.tasks.all fun task => task.held.all fun other => mode = .read && other = .read

/-- A task that asks for the lock: it waits in the queue, and is let in from its front. -/
def enter (self : State Call Memory Channel Event) (index : Nat)
    (task : Task Call Memory Channel Event) (mode : LockMode) (effect : Memory → Memory)
    (next : Memory → Program Memory Channel Event) : Option (State Call Memory Channel Event) :=
  if self.queue.any fun entry => entry.1 = index then
    if self.grants index mode then
      some { self with
        memory := effect self.memory
        queue := self.queue.tail
        tasks := self.tasks.set index
          { task with held := mode :: task.held, rest := next self.memory } }
    else none
  else some { self with queue := self.queue ++ [(index, mode)] }

def proceed (self : State Call Memory Channel Event) (index : Nat)
    (task : Task Call Memory Channel Event) : State Call Memory Channel Event :=
  { self with tasks := self.tasks.set index task }

variable [DecidableEq Channel]

def put (self : State Call Memory Channel Event) (channel : Channel) (box : Mailbox Event) :
    State Call Memory Channel Event :=
  { self with channels := Function.update self.channels channel box }

/-- The next step of a task.  A send fails at once when nobody is there to read, which no task
cares about, and waits when the channel is full. -/
def move (capacity : Nat) (self : State Call Memory Channel Event) (index : Nat)
    (task : Task Call Memory Channel Event) : Option (State Call Memory Channel Event) :=
  match task.rest with
  | .done => none
  | .read next => self.enter index task .read id next
  | .write effect next => self.enter index task .write effect next
  | .release next => some (self.proceed index { task with held := task.held.tail, rest := next })
  | .send channel event next =>
      let box := self.channels channel
      if box.listening then
        if box.events.length < capacity then
          some <| (self.put channel { box with events := box.events ++ [event] }).proceed index
            { task with rest := next }
        else none
      else some (self.proceed index { task with rest := next })
  | .elsewhere next => some (self.proceed index { task with rest := next })

end State

section Machine

variable {Call : Type x} {Memory : Type u} {Channel : Type v} {Event : Type w}
  [DecidableEq Channel]

/-- Any tasks at any time, in any order.  It starts with no task, and no channel holds more than
it may. -/
def machine (capacity : Nat) (program : Call → Program Memory Channel Event) :
    Machine (State Call Memory Channel Event) (Label Call Channel) where
  initial state := state.tasks = [] ∧ state.queue = [] ∧
    ∀ channel, (state.channels channel).events.length ≤ capacity
  step state
    | .dispatch call => some { state with tasks := state.tasks ++ [⟨call, [], program call⟩] }
    | .run index => state.tasks[index]?.bind (state.move capacity index)
    | .receive channel =>
        match (state.channels channel).events with
        | [] => none
        | _ :: rest => some (state.put channel { state.channels channel with events := rest })
    | .close channel => some (state.put channel { state.channels channel with listening := false })

end Machine

namespace State

variable {Call : Type x} {Memory : Type u} {Channel : Type v} {Event : Type w}
  [DecidableEq Channel] {capacity : Nat} {program : Call → Program Memory Channel Event}
  {state next later : State Call Memory Channel Event}

/-! ## What a step can do -/

inductive Moved (capacity : Nat) (state : State Call Memory Channel Event) (index : Nat)
    (task : Task Call Memory Channel Event) : State Call Memory Channel Event → Prop where
  | queued (mode : LockMode) (asks : task.rest.asks = some mode) :
      Moved capacity state index task { state with queue := state.queue ++ [(index, mode)] }
  | entered (mode : LockMode) (memory : Memory) (rest : Program Memory Channel Event)
      (asks : task.rest.asks = some mode) (follows : task.rest.after state.memory = some rest)
      (granted : state.grants index mode = true) (kept : mode = .read → memory = state.memory) :
      Moved capacity state index task { state with
        memory := memory
        queue := state.queue.tail
        tasks := state.tasks.set index { task with held := mode :: task.held, rest := rest } }
  | proceeded (held : List LockMode) (rest : Program Memory Channel Event)
      (waitless : task.rest.asks = none) (follows : task.rest.after state.memory = some rest)
      (subset : held ⊆ task.held)
      (idle : ∀ channel, (state.channels channel).listening = true →
        task.rest.sendsTo channel = false) :
      Moved capacity state index task (state.proceed index { task with held := held, rest := rest })
  | sent (channel : Channel) (event : Event) (rest : Program Memory Channel Event)
      (sends : task.rest = .send channel event rest)
      (room : (state.channels channel).events.length < capacity) :
      Moved capacity state index task
        ((state.put channel { state.channels channel with
          events := (state.channels channel).events ++ [event] }).proceed index
            { task with rest := rest })

theorem enter_moved {index : Nat} {task : Task Call Memory Channel Event} {mode : LockMode}
    {effect : Memory → Memory} {rest : Memory → Program Memory Channel Event}
    (asks : task.rest.asks = some mode)
    (follows : task.rest.after state.memory = some (rest state.memory))
    (kept : mode = .read → effect = id)
    (entered : state.enter index task mode effect rest = some next) :
    Moved capacity state index task next := by
  unfold enter at entered
  split at entered
  · split at entered
    · rename_i granted
      cases entered
      exact .entered mode _ _ asks follows granted fun reads => by rw [kept reads]; rfl
    · cases entered
  · cases entered
    exact .queued mode asks

theorem move_moved {index : Nat} {task : Task Call Memory Channel Event}
    (moved : state.move capacity index task = some next) :
    Moved capacity state index task next := by
  obtain ⟨call, held, rest⟩ := task
  cases rest with
  | done => cases moved
  | read rest => exact enter_moved rfl rfl (fun _ => rfl) moved
  | write effect rest => exact enter_moved rfl rfl (fun reads => by cases reads) moved
  | release rest =>
      cases moved
      exact .proceeded held.tail rest rfl rfl (fun _ listed => List.mem_of_mem_tail listed)
        fun _ _ => rfl
  | elsewhere rest =>
      cases moved
      exact .proceeded held rest rfl rfl (List.Subset.refl held) fun _ _ => rfl
  | send channel event rest =>
      simp only [move] at moved
      split at moved
      · split at moved
        · cases moved
          exact .sent channel event rest rfl ‹_›
        · cases moved
      · rename_i gone
        cases moved
        refine .proceeded held rest rfl rfl (List.Subset.refl held) fun other listens => ?_
        apply decide_eq_false
        rintro rfl
        exact gone listens

theorem run_moved {index : Nat}
    (stepped : (machine capacity program).step state (.run index) = some next) :
    ∃ task, state.tasks[index]? = some task ∧ Moved capacity state index task next := by
  obtain ⟨task, found, moved⟩ := Option.bind_eq_some_iff.mp stepped
  exact ⟨task, found, move_moved moved⟩

/-! ## Channels hold what they have room for -/

def Within (capacity : Nat) (state : State Call Memory Channel Event) : Prop :=
  ∀ channel, (state.channels channel).events.length ≤ capacity

theorem Within.put (within : state.Within capacity) {channel : Channel} {box : Mailbox Event}
    (fits : box.events.length ≤ capacity) : (state.put channel box).Within capacity := by
  intro other
  by_cases same : other = channel
  · subst same
    simpa [State.put] using fits
  · simpa [State.put, same] using within other

theorem Within.step (within : state.Within capacity) {label : Label Call Channel}
    (stepped : (machine capacity program).step state label = some next) :
    next.Within capacity := by
  cases label with
  | dispatch call =>
      cases stepped
      exact within
  | run index =>
      obtain ⟨task, _, moved⟩ := run_moved stepped
      cases moved with
      | queued | entered | proceeded => exact within
      | sent channel event rest _ room =>
          have fits : ((state.channels channel).events ++ [event]).length ≤ capacity := by
            rw [List.length_append]
            exact room
          exact within.put fits
  | receive channel =>
      simp only [machine] at stepped
      split at stepped
      · cases stepped
      · rename_i event rest found
        cases stepped
        have fits := within channel
        rw [found, List.length_cons] at fits
        exact within.put (Nat.le_of_succ_le fits)
  | close channel =>
      cases stepped
      exact within.put (within channel)

/-! ## More to send than there is room for -/

/-- The task waits, with the lock in hand, to send to the channel or is about to. -/
def waits (channel : Channel) (task : Task Call Memory Channel Event) : Bool :=
  !task.held.isEmpty && task.rest.sendsTo channel

def load (state : State Call Memory Channel Event) (channel : Channel) : Nat :=
  (state.channels channel).events.length + state.tasks.countP (waits channel)

/-- Somebody may read the channel, and it cannot take what is to be sent under the lock. -/
structure Overloaded (capacity : Nat) (channel : Channel)
    (state : State Call Memory Channel Event) : Prop where
  listening : (state.channels channel).listening = true
  more : capacity < state.load channel

theorem not_waits_of_idle {channel : Channel} {task : Task Call Memory Channel Event}
    (idle : task.rest.sendsTo channel = false) : waits channel task = false := by
  rw [waits, idle, Bool.and_false]

omit [DecidableEq Channel] in
theorem countP_set {tasks : List (Task Call Memory Channel Event)} {index : Nat}
    {old : Task Call Memory Channel Event} (found : tasks[index]? = some old)
    (task : Task Call Memory Channel Event) (property : Task Call Memory Channel Event → Bool) :
    (tasks.set index task).countP property + (property old).toNat =
      tasks.countP property + (property task).toNat := by
  obtain ⟨inside, rfl⟩ := List.getElem?_eq_some_iff.mp found
  have whole : tasks.countP property =
      (tasks.take index ++ tasks[index] :: tasks.drop (index + 1)).countP property := by
    rw [← List.drop_eq_getElem_cons inside, List.take_append_drop]
  rw [whole, List.set_eq_take_append_cons_drop, if_pos inside, List.countP_append,
    List.countP_append, List.countP_cons, List.countP_cons]
  cases property task <;> cases property tasks[index] <;> simp <;> omega

/-- A task that was not about to send lightens nothing when it moves. -/
theorem load_set {channel : Channel} {index : Nat} {old : Task Call Memory Channel Event}
    (found : state.tasks[index]? = some old) (idle : old.rest.sendsTo channel = false)
    (task : Task Call Memory Channel Event) :
    state.tasks.countP (waits channel) ≤ (state.tasks.set index task).countP (waits channel) := by
  have counted := countP_set found task (waits channel)
  rw [not_waits_of_idle idle] at counted
  simp only [Bool.toNat_false, Nat.add_zero] at counted
  omega

theorem Overloaded.holder {channel : Channel} (overloaded : state.Overloaded capacity channel)
    (within : state.Within capacity) :
    ∃ task ∈ state.tasks, task.held ≠ [] := by
  have fits := within channel
  have more := overloaded.more
  rw [load] at more
  have waiting : 0 < state.tasks.countP (waits channel) := by omega
  obtain ⟨task, listed, waits⟩ := List.countP_pos_iff.mp waiting
  rw [State.waits, Bool.and_eq_true, Bool.not_eq_true'] at waits
  exact ⟨task, listed, fun empty => by simp [empty] at waits⟩

theorem Overloaded.not_grants_write {channel : Channel}
    (overloaded : state.Overloaded capacity channel) (within : state.Within capacity)
    (index : Nat) : state.grants index .write = false := by
  obtain ⟨task, listed, holds⟩ := overloaded.holder within
  obtain ⟨mode, inHand⟩ := List.exists_mem_of_ne_nil task.held holds
  rw [grants, Bool.and_eq_false_iff]
  right
  rw [List.all_eq_false]
  refine ⟨task, listed, ?_⟩
  rw [Bool.not_eq_true, List.all_eq_false]
  exact ⟨mode, inHand, by simp⟩

theorem load_step {channel : Channel} (listening : (state.channels channel).listening = true)
    {label : Label Call Channel} (spares : label.Spares channel)
    (stepped : (machine capacity program).step state label = some next) :
    (next.channels channel).listening = true ∧ state.load channel ≤ next.load channel := by
  cases label with
  | dispatch call =>
      cases stepped
      refine ⟨listening, ?_⟩
      simp only [load, List.countP_append]
      omega
  | run index =>
      obtain ⟨task, found, moved⟩ := run_moved stepped
      cases moved with
      | queued mode asks => exact ⟨listening, Nat.le_refl _⟩
      | entered mode memory rest asks follows granted kept =>
          exact ⟨listening, Nat.add_le_add_left
            (load_set found (Program.not_sendsTo_of_asks asks channel) _) _⟩
      | proceeded held rest waitless follows subset idle =>
          exact ⟨listening, Nat.add_le_add_left (load_set found (idle channel listening) _) _⟩
      | sent other event rest sends room =>
          by_cases same : other = channel
          · subst same
            refine ⟨by simpa [State.put, State.proceed] using listening, ?_⟩
            have counted := countP_set found { task with rest := rest } (waits other)
            have one : (waits other task).toNat ≤ 1 := Bool.toNat_le _
            simp only [load, State.put, State.proceed, Function.update_self,
              List.length_append, List.length_singleton]
            omega
          · refine ⟨by simpa [State.put, State.proceed, Ne.symm same] using listening, ?_⟩
            have idle : task.rest.sendsTo channel = false := by
              rw [sends]
              exact decide_eq_false same
            have lighter := load_set found idle { task with rest := rest }
            simp only [load, State.put, State.proceed, Function.update_of_ne (Ne.symm same)]
            omega
  | receive other =>
      simp only [machine] at stepped
      split at stepped
      · cases stepped
      · cases stepped
        have apart : channel ≠ other := Ne.symm spares
        exact ⟨by simpa [State.put, apart] using listening, by simp [load, State.put, apart]⟩
  | close other =>
      cases stepped
      have apart : channel ≠ other := Ne.symm spares
      exact ⟨by simpa [State.put, apart] using listening, by simp [load, State.put, apart]⟩

theorem memory_step (shut : ∀ index, state.grants index .write = false)
    {label : Label Call Channel}
    (stepped : (machine capacity program).step state label = some next) :
    next.memory = state.memory := by
  cases label with
  | dispatch call | close channel =>
      cases stepped
      rfl
  | run index =>
      obtain ⟨task, _, moved⟩ := run_moved stepped
      cases moved with
      | queued | proceeded | sent => rfl
      | entered mode memory rest asks follows granted kept =>
          cases mode with
          | read => exact kept rfl
          | write => cases granted.symm.trans (shut index)
  | receive channel =>
      simp only [machine] at stepped
      split at stepped
      · cases stepped
      · cases stepped
        rfl

theorem Overloaded.step {channel : Channel} (overloaded : state.Overloaded capacity channel)
    (within : state.Within capacity) {label : Label Call Channel} (spares : label.Spares channel)
    (stepped : (machine capacity program).step state label = some next) :
    next.Overloaded capacity channel ∧ next.memory = state.memory := by
  obtain ⟨listening, grows⟩ := load_step overloaded.listening spares stepped
  exact ⟨⟨listening, Nat.lt_of_lt_of_le overloaded.more grows⟩,
    memory_step (overloaded.not_grants_write within) stepped⟩

/-- For as long as nobody reads the channel, the memory stays as it is. -/
theorem Overloaded.run {channel : Channel} (overloaded : state.Overloaded capacity channel)
    (within : state.Within capacity) {labels : List (Label Call Channel)}
    (spares : ∀ label ∈ labels, label.Spares channel)
    (ran : (machine capacity program).run state labels = some later) :
    later.Overloaded capacity channel ∧ later.Within capacity ∧
      later.memory = state.memory := by
  have step : ∀ before label after,
      (before.Overloaded capacity channel ∧ before.Within capacity ∧
        before.memory = state.memory) → label.Spares channel →
      (machine capacity program).step before label = some after →
      after.Overloaded capacity channel ∧ after.Within capacity ∧ after.memory = state.memory := by
    intro before label after ⟨overloaded, within, same⟩ spares stepped
    obtain ⟨still, kept⟩ := overloaded.step within spares stepped
    exact ⟨still, within.step stepped, kept.trans same⟩
  exact (machine capacity program).guarded_run_preserves step ⟨overloaded, within, rfl⟩
    ((machine capacity program).guarded_of_forall state fun label listed _ =>
      spares label listed) ran

/-! ## Behind a writer -/

/-- Since then whoever holds the lock held it or was in front of the writer, who still waits. -/
structure Behind (state start : State Call Memory Channel Event)
    (ahead : List (Nat × LockMode)) (writer : Nat) : Prop where
  waiting : ∃ front back, front ⊆ ahead ∧ state.queue = front ++ (writer, .write) :: back
  holders : ∀ index task, state.tasks[index]? = some task → task.held ≠ [] →
    (∃ old, start.tasks[index]? = some old ∧ old.held ≠ []) ∨ index ∈ ahead.map Prod.fst

section Behind

variable {start : State Call Memory Channel Event} {ahead : List (Nat × LockMode)} {writer : Nat}

omit [DecidableEq Channel] in
/-- A task that moves on may be let in only from in front of the writer. -/
theorem Behind.move_on (behind : state.Behind start ahead writer) {index : Nat}
    {task moved : Task Call Memory Channel Event} (found : state.tasks[index]? = some task)
    (allowed : moved.held ≠ [] → task.held ≠ [] ∨ index ∈ ahead.map Prod.fst) :
    ∀ other changed, (state.tasks.set index moved)[other]? = some changed → changed.held ≠ [] →
      (∃ old, start.tasks[other]? = some old ∧ old.held ≠ []) ∨ other ∈ ahead.map Prod.fst := by
  intro other changed listed holds
  by_cases same : index = other
  · subst same
    rw [List.getElem?_set_self (List.getElem?_eq_some_iff.mp found).1] at listed
    cases Option.some.inj listed
    exact (allowed holds).elim (behind.holders index task found) Or.inr
  · rw [List.getElem?_set_ne same] at listed
    exact behind.holders other changed listed holds

/-- The writer at the front of the queue is not let in, so nobody behind it is. -/
theorem Behind.step {channel : Channel} (behind : state.Behind start ahead writer)
    (overloaded : state.Overloaded capacity channel) (within : state.Within capacity)
    {label : Label Call Channel}
    (stepped : (machine capacity program).step state label = some next) :
    next.Behind start ahead writer := by
  obtain ⟨front, back, subset, queue⟩ := behind.waiting
  cases label with
  | dispatch call =>
      cases stepped
      refine ⟨⟨front, back, subset, queue⟩, ?_⟩
      intro index task listed holds
      rcases Nat.lt_or_ge index state.tasks.length with before | after
      · rw [List.getElem?_append_left before] at listed
        exact behind.holders index task listed holds
      · rw [List.getElem?_append_right after] at listed
        have new := List.mem_of_getElem? listed
        rw [List.mem_singleton] at new
        rw [new] at holds
        exact absurd rfl holds
  | run index =>
      obtain ⟨task, found, moved⟩ := run_moved stepped
      cases moved with
      | queued mode asks =>
          refine ⟨⟨front, back ++ [(index, mode)], subset, ?_⟩, behind.holders⟩
          rw [queue, List.append_assoc, List.cons_append]
      | entered mode memory rest asks follows granted kept =>
          have first : state.queue.head? = some (index, mode) :=
            of_decide_eq_true (Bool.and_eq_true_iff.mp granted).1
          cases front with
          | nil =>
              rw [queue] at first
              cases first
              cases granted.symm.trans (overloaded.not_grants_write within writer)
          | cons entry rest =>
              rw [queue] at first
              cases first
              refine ⟨⟨rest, back, fun _ listed => subset (List.mem_cons_of_mem _ listed), ?_⟩, ?_⟩
              · rw [queue]
                rfl
              · exact behind.move_on found fun _ =>
                  Or.inr (List.mem_map_of_mem (subset List.mem_cons_self))
      | proceeded held rest waitless follows fewer idle =>
          refine ⟨⟨front, back, subset, queue⟩, behind.move_on found fun holds => Or.inl ?_⟩
          intro none
          rw [none] at fewer
          exact holds (List.subset_nil.mp fewer)
      | sent other event rest sends room =>
          exact ⟨⟨front, back, subset, queue⟩, behind.move_on found Or.inl⟩
  | receive other =>
      simp only [machine] at stepped
      split at stepped
      · cases stepped
      · cases stepped
        exact ⟨⟨front, back, subset, queue⟩, behind.holders⟩
  | close other =>
      cases stepped
      exact ⟨⟨front, back, subset, queue⟩, behind.holders⟩

theorem Overloaded.run_behind {channel : Channel} (overloaded : state.Overloaded capacity channel)
    (within : state.Within capacity) {back : List (Nat × LockMode)}
    (queue : state.queue = ahead ++ (writer, .write) :: back) {labels : List (Label Call Channel)}
    (spares : ∀ label ∈ labels, label.Spares channel)
    (ran : (machine capacity program).run state labels = some later) :
    later.Behind state ahead writer := by
  have start : state.Behind state ahead writer :=
    ⟨⟨ahead, back, List.Subset.refl ahead, queue⟩, fun index task listed holds =>
      Or.inl ⟨task, listed, holds⟩⟩
  have step : ∀ before label after,
      (before.Overloaded capacity channel ∧ before.Within capacity ∧
        before.Behind state ahead writer) → label.Spares channel →
      (machine capacity program).step before label = some after →
      after.Overloaded capacity channel ∧ after.Within capacity ∧
        after.Behind state ahead writer := by
    intro before label after ⟨overloaded, within, behind⟩ spares stepped
    exact ⟨(overloaded.step within spares stepped).1, within.step stepped,
      behind.step overloaded within stepped⟩
  have kept := (machine capacity program).guarded_run_preserves step ⟨overloaded, within, start⟩
    ((machine capacity program).guarded_of_forall state fun label listed _ =>
      spares label listed) ran
  exact kept.2.2

end Behind

end State

end FairLock

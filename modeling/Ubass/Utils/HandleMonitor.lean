import Mathlib.Data.List.Basic
import Ubass.Lib.Machine

/-!
# The handle monitor

`HandleMonitor` of `utils/mod.rs`: `dispatch` counts a future before it spawns it, the
spawned task takes it back when the future is done, and `flush` waits until none is
counted.  Every operation on the counter and on the `Notify` is a step of its own, and
all parties step in any order.

Each future that is counted sits in memory, so the counter stays below `usize::MAX`.
-/

set_option autoImplicit false

namespace Ubass

inductive MonitoredTask where
  /-- `dispatch` has counted it and spawns it next.  A caller that is a task waits for that. -/
  | counted (caller : Option Nat)
  | running
  /-- The future is done, `fetch_sub` comes next. -/
  | completed
  /-- `fetch_sub` returned 1, `notify_one` comes next. -/
  | notifying
  | ended
  /-- The future has panicked, and the rest of the task does not run. -/
  | panicked
deriving DecidableEq

def MonitoredTask.isCounted : MonitoredTask → Bool
  | counted _ | running | completed | panicked => true
  | notifying | ended => false

inductive FlushPhase where
  | idle
  /-- Before `self.running.load`. -/
  | loading
  /-- The counter was not 0; `notified` is polled next. -/
  | polling
  | waiting
  /-- `notify_one` has picked the waiter, which goes on next. -/
  | woken
  | returned
deriving DecidableEq

/-- The monitor with its tasks and the one call of `flush`.  `permit` is the permit that the
`Notify` stores. -/
structure HandleMonitor where
  running : Nat
  permit : Bool
  tasks : List MonitoredTask
  flush : FlushPhase
deriving DecidableEq

inductive MonitorLabel where
  /-- `dispatch` up to `fetch_add`, called from a running task or from elsewhere. -/
  | dispatch (caller : Option Nat)
  | spawn (index : Nat)
  | complete (index : Nat)
  | panic (index : Nat)
  | fetchSub (index : Nat)
  | notifyOne (index : Nat)
  | flush
  | load
  | pollNotified
  | resume

namespace HandleMonitor

/-- `HandleMonitor::default` -/
def default : HandleMonitor := ⟨0, false, [], .idle⟩

def setTask (self : HandleMonitor) (index : Nat) (task : MonitoredTask) : HandleMonitor :=
  { self with tasks := self.tasks.set index task }

/-- The task runs and is in no call of `dispatch`. -/
def atWork (self : HandleMonitor) (index : Nat) : Bool :=
  self.tasks[index]? = some .running && !self.tasks.contains (.counted (some index))

/-- `fetch_add` -/
def dispatch (self : HandleMonitor) (caller : Option Nat) : HandleMonitor :=
  { self with running := self.running + 1, tasks := self.tasks ++ [.counted caller] }

/-- `fetch_sub(1) == 1` -/
def fetchSub (self : HandleMonitor) (index : Nat) : HandleMonitor :=
  { self with running := self.running - 1 }.setTask index
    (if self.running = 1 then .notifying else .ended)

/-- `notify_one` wakes the waiter, or else stores the permit. -/
def notifyOne (self : HandleMonitor) : HandleMonitor :=
  if self.flush = .waiting then { self with flush := .woken } else { self with permit := true }

/-- `notified().await` takes the permit or begins to wait. -/
def pollNotified (self : HandleMonitor) : HandleMonitor :=
  if self.permit then { self with permit := false, flush := .loading }
  else { self with flush := .waiting }

def machine : Machine HandleMonitor MonitorLabel where
  initial state := state = default
  step state
    | .dispatch caller =>
        if caller.all state.atWork then some (state.dispatch caller) else none
    | .spawn index =>
        match state.tasks[index]? with
        | some (.counted _) => some (state.setTask index .running)
        | _ => none
    | .complete index => if state.atWork index then some (state.setTask index .completed) else none
    | .panic index => if state.atWork index then some (state.setTask index .panicked) else none
    | .fetchSub index =>
        if state.tasks[index]? = some .completed then some (state.fetchSub index) else none
    | .notifyOne index =>
        if state.tasks[index]? = some .notifying then some (state.setTask index .ended).notifyOne
        else none
    | .flush => if state.flush = .idle then some { state with flush := .loading } else none
    | .load =>
        if state.flush = .loading then
          some { state with flush := if state.running = 0 then .returned else .polling }
        else none
    | .pollNotified => if state.flush = .polling then some state.pollNotified else none
    | .resume => if state.flush = .woken then some { state with flush := .loading } else none

/-- `flush` waits, nothing is counted, and nothing will ever wake it. -/
def Stuck (self : HandleMonitor) : Prop :=
  self.running = 0 ∧ self.flush = .waiting ∧ self.permit = false ∧ .notifying ∉ self.tasks

structure Sound (state : HandleMonitor) : Prop where
  counts : state.running = state.tasks.countP MonitoredTask.isCounted
  /-- From the test of the counter to the next one, something will wake `flush`. -/
  awake : state.flush = .polling ∨ state.flush = .waiting →
    0 < state.running ∨ state.permit = true ∨ .notifying ∈ state.tasks
  /-- Nobody waits beside a stored permit. -/
  taken : state.flush = .waiting → state.permit = false

theorem default_sound : default.Sound where
  counts := rfl
  awake parked := by rcases parked with parked | parked <;> cases parked
  taken _ := rfl

/-! ## What the steps keep -/

variable {state next : HandleMonitor} {index : Nat} {old task : MonitoredTask}

/-- Where `flush` is not about to wait, the counter is all there is to keep. -/
theorem Sound.of_flush (counts : state.running = state.tasks.countP MonitoredTask.isCounted)
    (notPolling : state.flush ≠ .polling) (notWaiting : state.flush ≠ .waiting) : state.Sound where
  counts := counts
  awake parked := by
    rcases parked with polling | waiting
    · exact absurd polling notPolling
    · exact absurd waiting notWaiting
  taken waiting := absurd waiting notWaiting

theorem atWork_eq_true : state.atWork index = true ↔
    state.tasks[index]? = some .running ∧ .counted (some index) ∉ state.tasks := by
  simp [atWork]

theorem countP_set (found : state.tasks[index]? = some old) (task : MonitoredTask) :
    (state.tasks.set index task).countP MonitoredTask.isCounted + old.isCounted.toNat =
      state.tasks.countP MonitoredTask.isCounted + task.isCounted.toNat := by
  obtain ⟨inside, here⟩ := List.getElem?_eq_some_iff.mp found
  have whole := @List.countP_set _ MonitoredTask.isCounted state.tasks index task inside
  have present : old.isCounted = true → 0 < state.tasks.countP MonitoredTask.isCounted :=
    fun counted => List.countP_pos_iff.mpr ⟨old, List.mem_of_getElem? found, counted⟩
  rw [here] at whole
  rw [whole]
  cases oldCounted : old.isCounted with
  | true =>
      have positive := present oldCounted
      cases task.isCounted <;> simp <;> omega
  | false => cases task.isCounted <;> simp

theorem notifying_mem_set (found : state.tasks[index]? = some old) (other : old ≠ .notifying)
    (listed : .notifying ∈ state.tasks) (task : MonitoredTask) :
    .notifying ∈ state.tasks.set index task := by
  obtain ⟨place, here⟩ := List.mem_iff_getElem?.mp listed
  have apart : index ≠ place := by
    rintro rfl
    exact other (Option.some.inj (found.symm.trans here))
  exact List.mem_of_getElem? ((List.getElem?_set_ne apart).trans here)

theorem dispatch_sound (sound : state.Sound) (caller : Option Nat) :
    (state.dispatch caller).Sound where
  counts := by
    have counts := sound.counts
    simp only [dispatch, List.countP_append, counts]
    rfl
  awake _ := Or.inl (Nat.succ_pos _)
  taken := sound.taken

theorem setTask_sound (sound : state.Sound) (found : state.tasks[index]? = some old)
    (same : old.isCounted = task.isCounted) (other : old ≠ .notifying) :
    (state.setTask index task).Sound where
  counts := by
    have moved := countP_set found task
    rw [same] at moved
    exact sound.counts.trans (Nat.add_right_cancel moved).symm
  awake parked := (sound.awake parked).imp_right
    (Or.imp_right fun listed => notifying_mem_set found other listed task)
  taken := sound.taken

theorem fetchSub_sound (sound : state.Sound) (found : state.tasks[index]? = some .completed) :
    (state.fetchSub index).Sound where
  counts := by
    have moved := countP_set found (if state.running = 1 then .notifying else .ended)
    have counts := sound.counts
    have taken : (if state.running = 1 then MonitoredTask.notifying else .ended).isCounted.toNat =
        0 := by
      split <;> rfl
    rw [taken] at moved
    simp only [MonitoredTask.isCounted, Bool.toNat_true] at moved
    simp only [fetchSub, setTask]
    omega
  awake parked := by
    obtain ⟨inside, _⟩ := List.getElem?_eq_some_iff.mp found
    by_cases last : state.running = 1
    · refine Or.inr (Or.inr ?_)
      simp only [fetchSub, setTask, if_pos last]
      exact List.mem_set inside _
    · have moved := countP_set found .ended
      have counts := sound.counts
      simp only [MonitoredTask.isCounted, Bool.toNat_true, Bool.toNat_false] at moved
      refine Or.inl ?_
      simp only [fetchSub, setTask]
      omega
  taken := sound.taken

theorem notifyOne_sound (sound : state.Sound) (found : state.tasks[index]? = some .notifying) :
    (state.setTask index .ended).notifyOne.Sound := by
  have moved := countP_set found .ended
  have counts : (state.setTask index .ended).running =
      (state.setTask index .ended).tasks.countP MonitoredTask.isCounted :=
    sound.counts.trans (Nat.add_right_cancel moved).symm
  unfold notifyOne
  split
  · exact Sound.of_flush counts (by simp) (by simp)
  · rename_i awaken
    exact ⟨counts, fun _ => Or.inr (Or.inl rfl), fun waiting => absurd waiting awaken⟩

theorem pollNotified_sound (sound : state.Sound) (polling : state.flush = .polling) :
    state.pollNotified.Sound := by
  unfold pollNotified
  split
  · exact Sound.of_flush sound.counts (by simp) (by simp)
  · rename_i none
    exact ⟨sound.counts, fun _ => sound.awake (Or.inl polling), fun _ => eq_false_of_ne_true none⟩

theorem load_sound (sound : state.Sound) :
    Sound { state with flush := if state.running = 0 then .returned else .polling } := by
  by_cases zero : state.running = 0
  · rw [if_pos zero]
    exact Sound.of_flush sound.counts (by simp) (by simp)
  · rw [if_neg zero]
    exact ⟨sound.counts, fun _ => Or.inl (Nat.pos_of_ne_zero zero), fun waiting => by cases waiting⟩

theorem step_sound (sound : state.Sound) {label : MonitorLabel}
    (stepped : machine.step state label = some next) : next.Sound := by
  cases label with
  | dispatch caller =>
      simp only [machine, Option.ite_none_right_eq_some, Option.some.injEq] at stepped
      obtain ⟨_, rfl⟩ := stepped
      exact dispatch_sound sound caller
  | spawn index =>
      simp only [machine] at stepped
      split at stepped
      · rename_i caller found
        cases stepped
        exact setTask_sound sound found rfl (by simp)
      · cases stepped
  | complete index =>
      simp only [machine, Option.ite_none_right_eq_some, Option.some.injEq] at stepped
      obtain ⟨working, rfl⟩ := stepped
      exact setTask_sound sound (atWork_eq_true.mp working).1 rfl (by simp)
  | panic index =>
      simp only [machine, Option.ite_none_right_eq_some, Option.some.injEq] at stepped
      obtain ⟨working, rfl⟩ := stepped
      exact setTask_sound sound (atWork_eq_true.mp working).1 rfl (by simp)
  | fetchSub index =>
      simp only [machine, Option.ite_none_right_eq_some, Option.some.injEq] at stepped
      obtain ⟨found, rfl⟩ := stepped
      exact fetchSub_sound sound found
  | notifyOne index =>
      simp only [machine, Option.ite_none_right_eq_some, Option.some.injEq] at stepped
      obtain ⟨found, rfl⟩ := stepped
      exact notifyOne_sound sound found
  | flush =>
      simp only [machine, Option.ite_none_right_eq_some, Option.some.injEq] at stepped
      obtain ⟨_, rfl⟩ := stepped
      exact Sound.of_flush sound.counts (by simp) (by simp)
  | load =>
      simp only [machine, Option.ite_none_right_eq_some, Option.some.injEq] at stepped
      obtain ⟨_, rfl⟩ := stepped
      exact load_sound sound
  | pollNotified =>
      simp only [machine, Option.ite_none_right_eq_some, Option.some.injEq] at stepped
      obtain ⟨polling, rfl⟩ := stepped
      exact pollNotified_sound sound polling
  | resume =>
      simp only [machine, Option.ite_none_right_eq_some, Option.some.injEq] at stepped
      obtain ⟨_, rfl⟩ := stepped
      exact Sound.of_flush sound.counts (by simp) (by simp)

theorem sound_of_reachable (reachable : machine.Reachable state) : state.Sound := by
  apply machine.reachable_invariant ?_ (fun _ _ _ sound stepped => step_sound sound stepped)
    reachable
  rintro first rfl
  exact default_sound

theorem returned_of_step {label : MonitorLabel} (waits : state.flush ≠ .returned)
    (stepped : machine.step state label = some next) (returns : next.flush = .returned) :
    state.running = 0 ∧ next.tasks = state.tasks := by
  cases label with
  | dispatch caller =>
      simp only [machine, Option.ite_none_right_eq_some, Option.some.injEq] at stepped
      obtain ⟨_, rfl⟩ := stepped
      exact absurd returns waits
  | spawn index =>
      simp only [machine] at stepped
      split at stepped
      · cases stepped
        exact absurd returns waits
      · cases stepped
  | complete index | panic index | fetchSub index =>
      simp only [machine, Option.ite_none_right_eq_some, Option.some.injEq] at stepped
      obtain ⟨_, rfl⟩ := stepped
      exact absurd returns waits
  | notifyOne index =>
      simp only [machine, Option.ite_none_right_eq_some, Option.some.injEq] at stepped
      obtain ⟨_, rfl⟩ := stepped
      unfold notifyOne at returns
      split at returns
      · cases returns
      · exact absurd returns waits
  | flush | resume =>
      simp only [machine, Option.ite_none_right_eq_some, Option.some.injEq] at stepped
      obtain ⟨_, rfl⟩ := stepped
      cases returns
  | load =>
      simp only [machine, Option.ite_none_right_eq_some, Option.some.injEq] at stepped
      obtain ⟨_, rfl⟩ := stepped
      by_cases zero : state.running = 0
      · exact ⟨zero, rfl⟩
      · simp only [if_neg zero] at returns
        cases returns
  | pollNotified =>
      simp only [machine, Option.ite_none_right_eq_some, Option.some.injEq] at stepped
      obtain ⟨_, rfl⟩ := stepped
      unfold pollNotified at returns
      split at returns
      · cases returns
      · cases returns

/-- In whatever order the parties step: `flush` is never left waiting with nothing to wake it, and
when it returns, no future that was dispatched is still to be completed. -/
theorem flush_exact (reachable : machine.Reachable state) :
    ¬ state.Stuck ∧ ∀ label next, machine.step state label = some next →
      state.flush ≠ .returned → next.flush = .returned →
        ∀ task ∈ next.tasks, task.isCounted = false := by
  have sound := sound_of_reachable reachable
  constructor
  · rintro ⟨zero, waiting, noPermit, nobody⟩
    rcases sound.awake (Or.inr waiting) with counted | permit | notifying
    · omega
    · rw [noPermit] at permit
      cases permit
    · exact nobody notifying
  · intro label next stepped waits returns
    obtain ⟨zero, same⟩ := returned_of_step waits stepped returns
    have none : state.tasks.countP MonitoredTask.isCounted = 0 := sound.counts.symm.trans zero
    intro task listed
    rw [same] at listed
    exact eq_false_of_ne_true (List.countP_eq_zero.mp none task listed)

/-- A task dispatches another one, both end while `flush` has looked and not yet begun to wait, and
the permit they leave lets it look again. -/
def lateNotify : List MonitorLabel :=
  [.dispatch none, .spawn 0, .dispatch (some 0), .spawn 1, .flush, .load, .complete 0, .fetchSub 0,
    .complete 1, .fetchSub 1, .notifyOne 1, .pollNotified]

def afterLateNotify : HandleMonitor := ⟨0, false, [.ended, .ended], .loading⟩

theorem flush_exact_lateNotify :
    ¬ afterLateNotify.Stuck ∧ ∀ label next, machine.step afterLateNotify label = some next →
      afterLateNotify.flush ≠ .returned → next.flush = .returned →
        ∀ task ∈ next.tasks, task.isCounted = false :=
  flush_exact ⟨default, lateNotify, rfl, by decide⟩

/-- A task that is counted and has not panicked can move on, or waits for a task that it has
dispatched and that can. -/
theorem moves_of_isCounted (listed : task ∈ state.tasks) (counted : task.isCounted = true)
    (healthy : task ≠ .panicked) :
    ∃ label, (∀ caller, label ≠ .dispatch caller) ∧ (∀ index, label ≠ .panic index) ∧
      machine.step state label ≠ none := by
  have spawns : ∀ caller, .counted caller ∈ state.tasks →
      ∃ index, machine.step state (.spawn index) ≠ none := by
    intro caller waits
    obtain ⟨index, here⟩ := List.mem_iff_getElem?.mp waits
    exact ⟨index, by simp [machine, here]⟩
  obtain ⟨index, here⟩ := List.mem_iff_getElem?.mp listed
  cases task with
  | counted caller =>
      obtain ⟨index, enabled⟩ := spawns caller listed
      exact ⟨.spawn index, by simp, by simp, enabled⟩
  | running =>
      by_cases dispatching : .counted (some index) ∈ state.tasks
      · obtain ⟨index, enabled⟩ := spawns _ dispatching
        exact ⟨.spawn index, by simp, by simp, enabled⟩
      · have working := atWork_eq_true.mpr ⟨here, dispatching⟩
        exact ⟨.complete index, by simp, by simp, by simp [machine, working]⟩
  | completed => exact ⟨.fetchSub index, by simp, by simp, by simp [machine, here]⟩
  | notifying => cases counted
  | ended => cases counted
  | panicked => exact absurd rfl healthy

/-- When nothing is dispatched any more and no future panics, everything goes on until `flush` has
returned. -/
theorem returned_of_quiet (reachable : machine.Reachable state)
    (healthy : .panicked ∉ state.tasks)
    (quiet : ∀ label, (∀ caller, label ≠ .dispatch caller) → (∀ index, label ≠ .panic index) →
      machine.step state label = none) : state.flush = .returned := by
  have sound := sound_of_reachable reachable
  have idle := quiet .flush (by simp) (by simp)
  have loading := quiet .load (by simp) (by simp)
  have polling := quiet .pollNotified (by simp) (by simp)
  have woken := quiet .resume (by simp) (by simp)
  simp only [machine, ite_eq_right_iff, reduceCtorEq, imp_false] at idle loading polling woken
  cases phase : state.flush with
  | idle => exact absurd phase idle
  | loading => exact absurd phase loading
  | polling => exact absurd phase polling
  | woken => exact absurd phase woken
  | returned => rfl
  | waiting =>
      rcases sound.awake (Or.inr phase) with counted | permit | notifying
      · rw [sound.counts] at counted
        obtain ⟨task, listed, taskCounted⟩ := List.countP_pos_iff.mp counted
        have alive : task ≠ .panicked := by
          rintro rfl
          exact healthy listed
        obtain ⟨label, dispatches, panics, enabled⟩ := moves_of_isCounted listed taskCounted alive
        exact absurd (quiet label dispatches panics) enabled
      · rw [sound.taken phase] at permit
        cases permit
      · obtain ⟨index, here⟩ := List.mem_iff_getElem?.mp notifying
        have still := quiet (.notifyOne index) (by simp) (by simp)
        simp [machine, here] at still

/-! ## Futures that go on -/

/-- The future at this place is spawned and has not been completed. -/
def Unfinished (state : HandleMonitor) (index : Nat) : Prop :=
  state.tasks[index]? = some .running ∨ state.tasks[index]? = some .panicked

theorem Unfinished.setTask {place : Nat} (unfinished : state.Unfinished index)
    (apart : place ≠ index) (task : MonitoredTask) : (state.setTask place task).Unfinished index := by
  have same : (state.setTask place task).tasks[index]? = state.tasks[index]? :=
    List.getElem?_set_ne apart
  rw [Unfinished, same]
  exact unfinished

theorem Unfinished.ne_of_found {place : Nat} (unfinished : state.Unfinished index)
    (found : state.tasks[place]? = some task) (notRunning : task ≠ .running)
    (notPanicked : task ≠ .panicked) : place ≠ index := by
  rintro rfl
  rcases unfinished with running | panicked
  · exact notRunning (Option.some.inj (found.symm.trans running))
  · exact notPanicked (Option.some.inj (found.symm.trans panicked))

theorem step_unfinished {label : MonitorLabel} (unfinished : state.Unfinished index)
    (goesOn : label ≠ .complete index) (stepped : machine.step state label = some next) :
    next.Unfinished index := by
  cases label with
  | dispatch caller =>
      simp only [machine, Option.ite_none_right_eq_some, Option.some.injEq] at stepped
      obtain ⟨_, rfl⟩ := stepped
      have inside : index < state.tasks.length := by
        rcases unfinished with found | found <;> exact (List.getElem?_eq_some_iff.mp found).1
      have same : (state.dispatch caller).tasks[index]? = state.tasks[index]? :=
        List.getElem?_append_left inside
      rw [Unfinished, same]
      exact unfinished
  | spawn place =>
      simp only [machine] at stepped
      split at stepped
      · rename_i caller found
        cases stepped
        exact unfinished.setTask (unfinished.ne_of_found found (by simp) (by simp)) _
      · cases stepped
  | complete place =>
      simp only [machine, Option.ite_none_right_eq_some, Option.some.injEq] at stepped
      obtain ⟨_, rfl⟩ := stepped
      refine unfinished.setTask ?_ _
      rintro rfl
      exact goesOn rfl
  | panic place =>
      simp only [machine, Option.ite_none_right_eq_some, Option.some.injEq] at stepped
      obtain ⟨working, rfl⟩ := stepped
      by_cases same : place = index
      · rw [same] at working ⊢
        obtain ⟨inside, _⟩ := List.getElem?_eq_some_iff.mp (atWork_eq_true.mp working).1
        exact Or.inr (List.getElem?_set_self inside)
      · exact unfinished.setTask same _
  | fetchSub place =>
      simp only [machine, Option.ite_none_right_eq_some, Option.some.injEq] at stepped
      obtain ⟨found, rfl⟩ := stepped
      exact unfinished.setTask (unfinished.ne_of_found found (by simp) (by simp)) _
  | notifyOne place =>
      simp only [machine, Option.ite_none_right_eq_some, Option.some.injEq] at stepped
      obtain ⟨found, rfl⟩ := stepped
      have moved := unfinished.setTask (unfinished.ne_of_found found (by simp) (by simp)) .ended
      unfold notifyOne
      split <;> exact moved
  | flush | load | resume =>
      simp only [machine, Option.ite_none_right_eq_some, Option.some.injEq] at stepped
      obtain ⟨_, rfl⟩ := stepped
      exact unfinished
  | pollNotified =>
      simp only [machine, Option.ite_none_right_eq_some, Option.some.injEq] at stepped
      obtain ⟨_, rfl⟩ := stepped
      unfold pollNotified
      split <;> exact unfinished

/-- `flush` does not return while a future that was dispatched goes on. -/
theorem flush_of_unfinished {label : MonitorLabel} (sound : state.Sound)
    (unfinished : state.Unfinished index) (waits : state.flush ≠ .returned)
    (stepped : machine.step state label = some next) : next.flush ≠ .returned := by
  intro returns
  obtain ⟨zero, _⟩ := returned_of_step waits stepped returns
  have none : state.tasks.countP MonitoredTask.isCounted = 0 := sound.counts.symm.trans zero
  rcases unfinished with found | found
  · exact List.countP_eq_zero.mp none _ (List.mem_of_getElem? found) rfl
  · exact List.countP_eq_zero.mp none _ (List.mem_of_getElem? found) rfl

end HandleMonitor
end Ubass

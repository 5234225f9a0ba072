import Mathlib.Data.List.Nodup
import Ubass.Manager.Windows

/-!
# The tasks around a fingerprint window

`FingerprintWindow::add` takes the lock of the set and then the lock of the queue;
`prune` takes them the other way round.  The calls of `add` and the prune task are
interleaved at these locks, and every reading of the clock is a step.

Throughout, the set holds what is queued, what `prune` has popped and not yet
removed, and what an `add` has not queued yet, each of it once (`Consistent`).
-/

set_option autoImplicit false

namespace Ubass

namespace FingerprintWindow

/-- `add`, under the lock of the set. -/
def insert (self : FingerprintWindow) (fingerprint : PacketFingerprint) :
    FingerprintWindow × Bool :=
  if self.contains fingerprint then (self, false)
  else ({ self with fingerprints := self.fingerprints.insert fingerprint () }, true)

/-- `add`, under the lock of the queue. -/
def pushBack (self : FingerprintWindow) (fingerprint : PacketFingerprint) (now : Timestamp) :
    FingerprintWindow :=
  { self with queue := self.queue ++ [(now, fingerprint)] }

theorem add_eq (self : FingerprintWindow) (fingerprint : PacketFingerprint) (now : Timestamp) :
    self.add fingerprint now =
      if (self.insert fingerprint).2 then
        ((self.insert fingerprint).1.pushBack fingerprint now, true)
      else (self, false) := by
  unfold add insert
  split <;> rfl

/-- `prune`, one round of its loop over the queue. -/
def popExpired (self : FingerprintWindow) (now : Timestamp) :
    Option (FingerprintWindow × PacketFingerprint) :=
  match self.queue with
  | [] => none
  | (timestamp, fingerprint) :: rest =>
      if timestamp.beenLongerThan now windowPruneInterval then
        some ({ self with queue := rest }, fingerprint)
      else none

theorem insert_snd (self : FingerprintWindow) (fingerprint : PacketFingerprint) :
    (self.insert fingerprint).2 = !self.contains fingerprint := by
  unfold insert
  split <;> simp_all

theorem contains_insert {self : FingerprintWindow} {fingerprint other : PacketFingerprint} :
    (self.insert fingerprint).1.contains other = true ↔
      other = fingerprint ∨ self.contains other = true := by
  unfold insert
  split
  · rename_i present
    constructor
    · exact Or.inr
    · rintro (rfl | found)
      · exact present
      · exact found
  · exact Table.contains_insert self.fingerprints fingerprint other ()

@[simp] theorem insert_queue (self : FingerprintWindow) (fingerprint : PacketFingerprint) :
    (self.insert fingerprint).1.queue = self.queue := by
  unfold insert
  split <;> rfl

/-- What a round of the loop does: it pops an entry that has waited too long, or ends the loop. -/
theorem popExpired_eq_some {self next : FingerprintWindow} {fingerprint : PacketFingerprint}
    {now : Timestamp} (popped : self.popExpired now = some (next, fingerprint)) :
    ∃ timestamp, self.queue = (timestamp, fingerprint) :: next.queue ∧
      timestamp.beenLongerThan now windowPruneInterval = true ∧
      next.fingerprints = self.fingerprints := by
  unfold popExpired at popped
  split at popped
  · cases popped
  · rename_i timestamp other rest queue
    split at popped
    · rename_i old
      cases popped
      exact ⟨timestamp, queue, old, rfl⟩
    · cases popped

theorem popExpired_eq_none {self : FingerprintWindow} {now : Timestamp}
    (ended : self.popExpired now = none) :
    ∀ entry ∈ self.queue.head?, entry.1.beenLongerThan now windowPruneInterval = false := by
  unfold popExpired at ended
  split at ended
  · rename_i queue
    simp [queue]
  · rename_i timestamp other rest queue
    split at ended
    · cases ended
    · rename_i young
      simpa [queue] using young

end FingerprintWindow

/-! ## The tasks -/

/-- Where `prune` stands: asleep, in its loop with the queue locked, or between its two locks. -/
inductive PrunePhase where
  | asleep
  | popping
  | removing
deriving DecidableEq

/-- The window, the fingerprints that an `add` has inserted and not yet queued, and those that
`prune` has popped and not yet removed.  `clock` is the latest reading.  The last three fields are
history: the reading that ended the last loop over the queue, how often an `add` of a fingerprint
returned true, and how often `prune` has removed it. -/
structure WindowTasks where
  window : FingerprintWindow
  inserting : List PacketFingerprint
  expired : List PacketFingerprint
  phase : PrunePhase
  clock : Timestamp
  passed : Timestamp
  added : PacketFingerprint → Nat
  pruned : PacketFingerprint → Nat

inductive WindowLabel where
  | insert (fingerprint : PacketFingerprint)
  | pushBack (fingerprint : PacketFingerprint) (now : Timestamp)
  | lockQueue
  | pop (now : Timestamp)
  | remove

namespace WindowTasks

def start (clock : Timestamp) : WindowTasks where
  window := FingerprintWindow.new
  inserting := []
  expired := []
  phase := .asleep
  clock := clock
  passed := clock
  added _ := 0
  pruned _ := 0

def count (counts : PacketFingerprint → Nat) (fingerprint : PacketFingerprint) :
    PacketFingerprint → Nat :=
  Function.update counts fingerprint (counts fingerprint + 1)

def insert (self : WindowTasks) (fingerprint : PacketFingerprint) : WindowTasks :=
  let (window, new) := self.window.insert fingerprint
  if new then
    { self with
      window := window
      inserting := fingerprint :: self.inserting
      added := count self.added fingerprint }
  else self

def pushBack (self : WindowTasks) (fingerprint : PacketFingerprint) (now : Timestamp) :
    WindowTasks :=
  { self with
    window := self.window.pushBack fingerprint now
    inserting := self.inserting.erase fingerprint
    clock := now }

def pop (self : WindowTasks) (now : Timestamp) : WindowTasks :=
  match self.window.popExpired now with
  | some (window, fingerprint) =>
      { self with window := window, expired := self.expired ++ [fingerprint], clock := now }
  | none => { self with phase := .removing, clock := now, passed := now }

def remove (self : WindowTasks) : WindowTasks :=
  { self with
    window := self.window.pruneRemove self.expired
    expired := []
    phase := .asleep
    pruned := fun fingerprint =>
      self.pruned fingerprint + self.expired.count fingerprint }

/-- Any number of calls of `add`, and the prune task.  The clock does not go back, and nobody
queues while `prune` holds the queue. -/
def machine : Machine WindowTasks WindowLabel where
  initial state := ∃ clock, state = start clock
  step state
    | .insert fingerprint => some (state.insert fingerprint)
    | .pushBack fingerprint now =>
        if state.phase ≠ .popping ∧ fingerprint ∈ state.inserting ∧
            state.clock.toNat ≤ now.toNat then
          some (state.pushBack fingerprint now)
        else none
    | .lockQueue => if state.phase = .asleep then some { state with phase := .popping } else none
    | .pop now =>
        if state.phase = .popping ∧ state.clock.toNat ≤ now.toNat then some (state.pop now)
        else none
    | .remove => if state.phase = .removing then some state.remove else none

def held (self : WindowTasks) : List PacketFingerprint :=
  self.inserting ++ (self.window.queue.map Prod.snd ++ self.expired)

structure Consistent (state : WindowTasks) : Prop where
  members : ∀ fingerprint, state.window.contains fingerprint = true ↔ fingerprint ∈ state.held
  once : state.held.Nodup
  ordered : state.window.queue.Pairwise fun first second => first.1.toNat ≤ second.1.toNat
  read : ∀ entry ∈ state.window.queue, entry.1.toNat ≤ state.clock.toNat
  passedRead : state.passed.toNat ≤ state.clock.toNat
  young : state.phase ≠ .popping → ∀ entry ∈ state.window.queue,
    state.passed.toNat ≤ entry.1.toNat + windowPruneInterval
  removed : state.phase = .asleep → state.expired = []
  counted : ∀ fingerprint, state.added fingerprint =
    state.pruned fingerprint + if state.window.contains fingerprint then 1 else 0

theorem start_consistent (clock : Timestamp) : (start clock).Consistent where
  members fingerprint := by simp [start, held, FingerprintWindow.new, FingerprintWindow.contains,
    Table.contains]
  once := List.nodup_nil
  ordered := List.Pairwise.nil
  read := by simp [start, FingerprintWindow.new]
  passedRead := Nat.le_refl _
  young := by simp [start, FingerprintWindow.new]
  removed _ := rfl
  counted fingerprint := by simp [start, FingerprintWindow.new, FingerprintWindow.contains,
    Table.contains]

/-! ## What the steps keep -/

variable {state next : WindowTasks}

theorem Consistent.moved (holds : state.Consistent)
    (same : ∀ fingerprint, next.window.contains fingerprint = state.window.contains fingerprint)
    (moved : next.held.Perm state.held) :
    (∀ fingerprint, next.window.contains fingerprint = true ↔ fingerprint ∈ next.held) ∧
      next.held.Nodup := by
  refine ⟨?_, moved.nodup_iff.mpr holds.once⟩
  intro fingerprint
  rw [same, holds.members, moved.mem_iff]

theorem insert_of_new {fingerprint : PacketFingerprint}
    (new : state.window.contains fingerprint = false) :
    state.insert fingerprint =
      { state with
        window := (state.window.insert fingerprint).1
        inserting := fingerprint :: state.inserting
        added := count state.added fingerprint } := by
  simp only [insert, FingerprintWindow.insert_snd, new, Bool.not_false, if_pos]

theorem insert_of_present {fingerprint : PacketFingerprint}
    (present : state.window.contains fingerprint = true) : state.insert fingerprint = state := by
  simp only [insert, FingerprintWindow.insert_snd, present, Bool.not_true, if_neg,
    Bool.false_eq_true, not_false_eq_true]

theorem insert_consistent (holds : state.Consistent) (fingerprint : PacketFingerprint) :
    (state.insert fingerprint).Consistent := by
  cases present : state.window.contains fingerprint with
  | true =>
      rw [insert_of_present present]
      exact holds
  | false =>
      rw [insert_of_new present]
      have new : fingerprint ∉ state.held := by
        rw [← holds.members, present]
        exact Bool.false_ne_true
      constructor
      · intro other
        rw [FingerprintWindow.contains_insert, holds.members]
        simp [held]
      · simpa [held] using List.nodup_cons.mpr ⟨new, holds.once⟩
      · simpa using holds.ordered
      · simpa using holds.read
      · exact holds.passedRead
      · simpa using holds.young
      · exact holds.removed
      · intro other
        have counted := holds.counted other
        by_cases same : other = fingerprint
        · subst same
          have inside : (state.window.insert other).1.contains other = true :=
            FingerprintWindow.contains_insert.mpr (Or.inl rfl)
          simp only [count, Function.update_self, inside, if_true, counted, present,
            Bool.false_eq_true, if_false]
        · have kept : (state.window.insert fingerprint).1.contains other =
              state.window.contains other := by
            rw [Bool.eq_iff_iff, FingerprintWindow.contains_insert]
            simp [same]
          simp only [count, Function.update_of_ne same, kept, counted]

theorem pushBack_consistent (holds : state.Consistent) {fingerprint : PacketFingerprint}
    {now : Timestamp} (inserting : fingerprint ∈ state.inserting)
    (later : state.clock.toNat ≤ now.toNat) :
    (state.pushBack fingerprint now).Consistent := by
  have queued : (state.pushBack fingerprint now).window.queue =
      state.window.queue ++ [(now, fingerprint)] := rfl
  have moved : (state.pushBack fingerprint now).held.Perm state.held := by
    have first := List.perm_cons_erase inserting
    rw [held, held, queued, List.map_append]
    have front : ((state.inserting.erase fingerprint) ++
        (state.window.queue.map Prod.snd ++ [fingerprint] ++ state.expired)).Perm
        (fingerprint :: state.inserting.erase fingerprint ++
          (state.window.queue.map Prod.snd ++ state.expired)) := by
      simp only [List.append_assoc, List.cons_append, List.nil_append]
      rw [← List.append_assoc, ← List.append_assoc]
      exact List.perm_middle
    exact front.trans (first.symm.append_right _)
  obtain ⟨members, once⟩ :=
    @Consistent.moved state (state.pushBack fingerprint now) holds (fun _ => rfl) moved
  constructor
  · exact members
  · exact once
  · rw [queued, List.pairwise_append]
    refine ⟨holds.ordered, List.pairwise_singleton _ _, ?_⟩
    intro earlier listed last same
    cases List.mem_singleton.mp same
    exact (holds.read earlier listed).trans later
  · intro entry listed
    rcases List.mem_append.mp (queued ▸ listed) with before | last
    · exact (holds.read entry before).trans later
    · cases List.mem_singleton.mp last
      exact Nat.le_refl _
  · exact holds.passedRead.trans later
  · intro phase entry listed
    rcases List.mem_append.mp (queued ▸ listed) with before | last
    · exact holds.young phase entry before
    · cases List.mem_singleton.mp last
      have passed : state.passed.toNat ≤ now.toNat := holds.passedRead.trans later
      exact passed.trans (Nat.le_add_right _ _)
  · exact holds.removed
  · exact holds.counted

theorem Consistent.oldest (holds : state.Consistent) {first entry : Timestamp × PacketFingerprint}
    (front : first ∈ state.window.queue.head?) (listed : entry ∈ state.window.queue) :
    first.1.toNat ≤ entry.1.toNat := by
  have ordered := holds.ordered
  cases queue : state.window.queue with
  | nil => simp [queue] at front
  | cons head rest =>
      rw [queue] at front listed ordered
      cases front
      rcases List.mem_cons.mp listed with rfl | later
      · exact Nat.le_refl _
      · exact (List.pairwise_cons.mp ordered).1 entry later

theorem pop_consistent (holds : state.Consistent) {now : Timestamp}
    (popping : state.phase = .popping) (later : state.clock.toNat ≤ now.toNat) :
    (state.pop now).Consistent := by
  unfold pop
  cases popped : state.window.popExpired now with
  | some result =>
      obtain ⟨window, fingerprint⟩ := result
      obtain ⟨timestamp, queue, _, set⟩ := FingerprintWindow.popExpired_eq_some popped
      have same : ∀ other, window.contains other = state.window.contains other := by
        intro other
        rw [FingerprintWindow.contains, set, FingerprintWindow.contains]
      have within : ∀ entry ∈ window.queue, entry ∈ state.window.queue := by
        intro entry listed
        rw [queue]
        exact List.mem_cons_of_mem _ listed
      have ordered := holds.ordered
      rw [queue, List.pairwise_cons] at ordered
      simp only
      obtain ⟨members, once⟩ := @Consistent.moved state
        { state with window := window, expired := state.expired ++ [fingerprint], clock := now }
        holds same (by
          rw [held, held, queue, List.map_cons]
          apply List.Perm.append_left
          rw [← List.append_assoc, List.cons_append]
          exact List.perm_append_singleton _ _)
      constructor
      · exact members
      · exact once
      · exact ordered.2
      · intro entry listed
        exact (holds.read entry (within entry listed)).trans later
      · exact holds.passedRead.trans later
      · intro ended
        exact absurd popping ended
      · intro asleep
        cases popping.symm.trans asleep
      · intro other
        rw [same]
        exact holds.counted other
  | none =>
      have front := FingerprintWindow.popExpired_eq_none popped
      constructor
      · exact holds.members
      · exact holds.once
      · exact holds.ordered
      · intro entry listed
        exact (holds.read entry listed).trans later
      · exact Nat.le_refl _
      · intro _ entry listed
        cases queue : state.window.queue.head? with
        | none =>
            rw [List.head?_eq_none_iff.mp queue] at listed
            cases listed
        | some first =>
            have young := front first queue
            have isFirst : first ∈ state.window.queue := List.mem_of_mem_head? queue
            rw [← Bool.not_eq_true, Timestamp.beenLongerThan_iff
              ((holds.read first isFirst).trans later)] at young
            have oldest := holds.oldest queue listed
            simp only
            omega
      · intro asleep
        cases asleep
      · exact holds.counted

theorem remove_consistent (holds : state.Consistent) (removing : state.phase = .removing) :
    state.remove.Consistent := by
  have contained : ∀ fingerprint, state.remove.window.contains fingerprint = true ↔
      fingerprint ∈ state.held ∧ fingerprint ∉ state.expired := by
    intro fingerprint
    rw [← holds.members]
    constructor
    · intro found
      refine ⟨FingerprintWindow.contains_of_pruneRemove found, ?_⟩
      intro expired
      simp [remove, FingerprintWindow.contains, FingerprintWindow.pruneRemove, Table.contains,
        Table.get_removeAll, expired] at found
    · rintro ⟨found, kept⟩
      rw [← FingerprintWindow.contains_pruneRemove kept] at found
      exact found
  have split : state.held = state.remove.held ++ state.expired := by
    simp [held, remove, FingerprintWindow.pruneRemove]
  have once := holds.once
  rw [split, List.nodup_append] at once
  have members : ∀ fingerprint, state.remove.window.contains fingerprint = true ↔
      fingerprint ∈ state.remove.held := by
    intro fingerprint
    rw [contained, split, List.mem_append]
    constructor
    · rintro ⟨listed | listed, kept⟩
      · exact listed
      · exact absurd listed kept
    · intro listed
      exact ⟨Or.inl listed, fun expired => once.2.2 fingerprint listed fingerprint expired rfl⟩
  constructor
  · exact members
  · exact once.1
  · exact holds.ordered
  · exact holds.read
  · exact holds.passedRead
  · intro _
    exact holds.young (by rw [removing]; exact PrunePhase.noConfusion)
  · intro _
    rfl
  · intro fingerprint
    have counted := holds.counted fingerprint
    have pruned : state.remove.pruned fingerprint =
        state.pruned fingerprint + state.expired.count fingerprint := rfl
    have added : state.remove.added fingerprint = state.added fingerprint := rfl
    rw [pruned, added, counted]
    by_cases expired : fingerprint ∈ state.expired
    · have present : state.window.contains fingerprint = true := by
        rw [holds.members, split]
        exact List.mem_append_right _ expired
      have gone : ¬ state.remove.window.contains fingerprint = true := by
        rw [contained]
        exact fun both => both.2 expired
      rw [List.count_eq_one_of_mem once.2.1 expired, if_pos present, if_neg gone]
    · rw [List.count_eq_zero_of_not_mem expired]
      by_cases present : state.window.contains fingerprint = true
      · have stays : state.remove.window.contains fingerprint = true :=
          (contained fingerprint).mpr ⟨(holds.members _).mp present, expired⟩
        rw [if_pos present, if_pos stays]
      · have stays : ¬ state.remove.window.contains fingerprint = true := by
          rw [contained, ← holds.members]
          exact fun both => present both.1
        rw [if_neg present, if_neg stays]

theorem step_consistent (state : WindowTasks) (label : WindowLabel) (next : WindowTasks)
    (holds : state.Consistent) (stepped : machine.step state label = some next) :
    next.Consistent := by
  cases label with
  | insert fingerprint =>
      cases stepped
      exact insert_consistent holds fingerprint
  | pushBack fingerprint now =>
      simp only [machine, Option.ite_none_right_eq_some, Option.some.injEq] at stepped
      obtain ⟨⟨_, inserting, later⟩, rfl⟩ := stepped
      exact pushBack_consistent holds inserting later
  | lockQueue =>
      simp only [machine, Option.ite_none_right_eq_some, Option.some.injEq] at stepped
      obtain ⟨asleep, rfl⟩ := stepped
      constructor
      · exact holds.members
      · exact holds.once
      · exact holds.ordered
      · exact holds.read
      · exact holds.passedRead
      · intro ended
        exact absurd rfl ended
      · intro impossible
        cases impossible
      · exact holds.counted
  | pop now =>
      simp only [machine, Option.ite_none_right_eq_some, Option.some.injEq] at stepped
      obtain ⟨⟨popping, later⟩, rfl⟩ := stepped
      exact pop_consistent holds popping later
  | remove =>
      simp only [machine, Option.ite_none_right_eq_some, Option.some.injEq] at stepped
      obtain ⟨removing, rfl⟩ := stepped
      exact remove_consistent holds removing

theorem consistent_of_reachable (reachable : machine.Reachable state) : state.Consistent := by
  apply machine.reachable_invariant ?_ step_consistent reachable
  rintro first ⟨clock, rfl⟩
  exact start_consistent clock

/-- With one reading of the clock, a loop over the queue does what `pruneQueue` does at once. -/
theorem run_pops_eq_pruneQueue (state : WindowTasks) {now : Timestamp}
    (popping : state.phase = .popping) (later : state.clock.toNat ≤ now.toNat) :
    machine.run state
        (List.replicate ((state.window.pruneQueue now).2.length + 1) (.pop now)) =
      some { state with
        window := (state.window.pruneQueue now).1
        expired := state.expired ++ (state.window.pruneQueue now).2
        phase := .removing
        clock := now
        passed := now } := by
  have step : ∀ state : WindowTasks, state.phase = .popping → state.clock.toNat ≤ now.toNat →
      machine.step state (.pop now) = some (state.pop now) := by
    intro state popping later
    exact if_pos ⟨popping, later⟩
  induction queue : state.window.queue generalizing state with
  | nil =>
      have ended : state.window.pruneQueue now = (state.window, []) := by
        have same : { state.window with queue := [] } = state.window := by rw [← queue]
        simp [FingerprintWindow.pruneQueue, queue, same]
      rw [ended]
      simp [Machine.run, step state popping later, pop, FingerprintWindow.popExpired, queue]
  | cons entry rest ih =>
      obtain ⟨timestamp, fingerprint⟩ := entry
      by_cases old : timestamp.beenLongerThan now windowPruneInterval = true
      · have popped : state.pop now =
            { state with
              window := { state.window with queue := rest }
              expired := state.expired ++ [fingerprint]
              clock := now } := by
          simp [pop, FingerprintWindow.popExpired, queue, old]
        have split : state.window.pruneQueue now =
            (((state.pop now).window.pruneQueue now).1,
              fingerprint :: ((state.pop now).window.pruneQueue now).2) := by
          simp [popped, FingerprintWindow.pruneQueue, queue, old]
        have rested := ih (state.pop now) (by rw [popped]; exact popping)
          (by rw [popped]) (by rw [popped])
        rw [split, List.length_cons, List.replicate_succ, machine.run_cons,
          step state popping later, Option.bind_some, rested]
        simp [popped]
      · have ended : state.window.pruneQueue now = (state.window, []) := by
          have same : { state.window with queue := (timestamp, fingerprint) :: rest } =
              state.window := by rw [← queue]
          simp [FingerprintWindow.pruneQueue, queue, old, same]
        rw [ended]
        simp [Machine.run, step state popping later, pop, FingerprintWindow.popExpired, queue, old]
/-! ## What becomes of a fingerprint -/

/-- A fingerprint on its way out: queued at one of these times, or popped, until it has been
removed once more than `before`. -/
structure Leaving (before : Nat) (fingerprint : PacketFingerprint) (times : List Timestamp)
    (state : WindowTasks) : Prop where
  since : before ≤ state.pruned fingerprint
  goes : before < state.pruned fingerprint ∨
    (∃ time ∈ times, (time, fingerprint) ∈ state.window.queue) ∨ fingerprint ∈ state.expired

variable {before : Nat} {fingerprint : PacketFingerprint} {times : List Timestamp}

theorem pop_leaving {now : Timestamp} (leaving : Leaving before fingerprint times state) :
    Leaving before fingerprint times (state.pop now) := by
  unfold pop
  cases popped : state.window.popExpired now with
  | none => exact ⟨leaving.since, leaving.goes⟩
  | some result =>
      obtain ⟨window, other⟩ := result
      obtain ⟨timestamp, queue, _⟩ := FingerprintWindow.popExpired_eq_some popped
      refine ⟨leaving.since, ?_⟩
      rcases leaving.goes with gone | ⟨time, among, queued⟩ | expired
      · exact Or.inl gone
      · rw [queue] at queued
        rcases List.mem_cons.mp queued with same | later
        · cases same
          exact Or.inr (Or.inr (by simp))
        · exact Or.inr (Or.inl ⟨time, among, later⟩)
      · exact Or.inr (Or.inr (List.mem_append_left _ expired))

theorem remove_leaving (leaving : Leaving before fingerprint times state) :
    Leaving before fingerprint times state.remove := by
  have since := leaving.since
  have pruned : state.remove.pruned fingerprint =
      state.pruned fingerprint + state.expired.count fingerprint := rfl
  refine ⟨by omega, ?_⟩
  rcases leaving.goes with gone | queued | expired
  · exact Or.inl (by omega)
  · exact Or.inr (Or.inl queued)
  · have counted := List.count_pos_iff.mpr expired
    exact Or.inl (by omega)

theorem step_leaving (state : WindowTasks) (label : WindowLabel) (next : WindowTasks)
    (leaving : Leaving before fingerprint times state)
    (stepped : machine.step state label = some next) : Leaving before fingerprint times next := by
  cases label with
  | insert other =>
      cases stepped
      cases present : state.window.contains other with
      | true =>
          rw [insert_of_present present]
          exact leaving
      | false =>
          rw [insert_of_new present]
          exact ⟨leaving.since, by simpa using leaving.goes⟩
  | pushBack fingerprint now =>
      simp only [machine, Option.ite_none_right_eq_some, Option.some.injEq] at stepped
      obtain ⟨_, rfl⟩ := stepped
      refine ⟨leaving.since, leaving.goes.imp_right (Or.imp_left ?_)⟩
      rintro ⟨time, among, queued⟩
      exact ⟨time, among, List.mem_append_left _ queued⟩
  | lockQueue =>
      simp only [machine, Option.ite_none_right_eq_some, Option.some.injEq] at stepped
      obtain ⟨_, rfl⟩ := stepped
      exact ⟨leaving.since, leaving.goes⟩
  | pop now =>
      simp only [machine, Option.ite_none_right_eq_some, Option.some.injEq] at stepped
      obtain ⟨_, rfl⟩ := stepped
      exact pop_leaving leaving
  | remove =>
      simp only [machine, Option.ite_none_right_eq_some, Option.some.injEq] at stepped
      obtain ⟨_, rfl⟩ := stepped
      exact remove_leaving leaving

theorem Consistent.run (holds : state.Consistent) {labels : List WindowLabel}
    (ran : machine.run state labels = some next) : next.Consistent :=
  machine.run_preserves step_consistent holds ran

/-- A queued fingerprint has been removed by the end of any pass whose loop over the queue ended
late enough. -/
theorem pruned_of_queued (holds : state.Consistent) {entry : Timestamp × PacketFingerprint}
    (queued : entry ∈ state.window.queue) {labels : List WindowLabel}
    (ran : machine.run state labels = some next) (asleep : next.phase = .asleep)
    (late : entry.1.toNat + windowPruneInterval < next.passed.toNat) :
    state.pruned entry.2 < next.pruned entry.2 := by
  have start : Leaving (state.pruned entry.2) entry.2 [entry.1] state :=
    ⟨Nat.le_refl _, Or.inr (Or.inl ⟨entry.1, by simp, queued⟩)⟩
  have leaving := machine.run_preserves step_leaving start ran
  have kept := holds.run ran
  rcases leaving.goes with gone | ⟨time, among, stays⟩ | expired
  · exact gone
  · cases List.mem_singleton.mp among
    have young : next.passed.toNat ≤ entry.1.toNat + windowPruneInterval :=
      kept.young (by rw [asleep]; exact PrunePhase.noConfusion) _ stays
    omega
  · rw [kept.removed asleep] at expired
    cases expired

theorem pruned_of_expired (holds : state.Consistent) (expired : fingerprint ∈ state.expired)
    {labels : List WindowLabel} (ran : machine.run state labels = some next)
    (asleep : next.phase = .asleep) : state.pruned fingerprint < next.pruned fingerprint := by
  have start : Leaving (state.pruned fingerprint) fingerprint [] state :=
    ⟨Nat.le_refl _, Or.inr (Or.inr expired)⟩
  have leaving := machine.run_preserves step_leaving start ran
  have kept := holds.run ran
  rcases leaving.goes with gone | ⟨time, among, _⟩ | stays
  · exact gone
  · cases among
  · rw [kept.removed asleep] at stays
    cases stays

theorem not_beenLongerThan_of_ended (holds : state.Consistent) {now : Timestamp}
    (stepped : machine.step state (.pop now) = some next) (ended : next.phase = .removing) :
    ∀ entry ∈ next.window.queue, entry.1.beenLongerThan now windowPruneInterval = false := by
  have kept := step_consistent state (.pop now) next holds stepped
  simp only [machine, Option.ite_none_right_eq_some, Option.some.injEq] at stepped
  obtain ⟨⟨popping, later⟩, rfl⟩ := stepped
  have readings : (state.pop now).clock = now ∧ (state.pop now).passed = now := by
    unfold pop at ended ⊢
    cases popped : state.window.popExpired now with
    | none => exact ⟨rfl, rfl⟩
    | some result =>
        simp only [popped] at ended
        cases popping.symm.trans ended
  intro entry listed
  have young := kept.young (by rw [ended]; exact PrunePhase.noConfusion) entry listed
  have read := kept.read entry listed
  rw [readings.1] at read
  rw [readings.2] at young
  rw [← Bool.not_eq_true, Timestamp.beenLongerThan_iff read]
  omega

/-- An `add` is refused exactly while an earlier one has not been pruned. -/
theorem insert_refused_iff (holds : state.Consistent) (fingerprint : PacketFingerprint) :
    (state.window.insert fingerprint).2 = false ↔
      state.pruned fingerprint < state.added fingerprint := by
  rw [FingerprintWindow.insert_snd, holds.counted]
  cases state.window.contains fingerprint <;> simp

theorem prune_goes_on (state : WindowTasks) {now : Timestamp}
    (later : state.clock.toNat ≤ now.toNat) :
    (∃ label ∈ [WindowLabel.lockQueue, .pop now, .remove],
      (machine.step state label).isSome = true) ∧
    ∀ next, machine.step state (.pop now) = some next → next.phase = .popping →
      next.window.queue.length < state.window.queue.length := by
  constructor
  · cases phase : state.phase with
    | asleep => exact ⟨.lockQueue, by simp, by simp [machine, phase]⟩
    | popping => exact ⟨.pop now, by simp, by simp [machine, phase, later]⟩
    | removing => exact ⟨.remove, by simp, by simp [machine, phase]⟩
  · intro next stepped popping
    simp only [machine, Option.ite_none_right_eq_some, Option.some.injEq] at stepped
    obtain ⟨_, rfl⟩ := stepped
    unfold pop at popping ⊢
    cases popped : state.window.popExpired now with
    | none => simp [popped] at popping
    | some result =>
        obtain ⟨window, fingerprint⟩ := result
        obtain ⟨timestamp, queue, _⟩ := FingerprintWindow.popExpired_eq_some popped
        simp [queue]

/-- For every interleaving: the set is the disjoint union of what is being inserted, what is queued
and what is popped; the queue is ordered and holds nothing twice; `add` is refused exactly while an
earlier one has not been pruned; what is popped is removed by the end of its pass, what is queued by
any pass that ends late enough, and what is being inserted can be queued whenever the queue is not
locked; the passes go on; and a loop over the queue leaves nothing that has waited too long. -/
theorem window_consistent (state : WindowTasks) (reachable : machine.Reachable state) :
    (∀ fingerprint, state.window.contains fingerprint = true ↔ fingerprint ∈ state.held) ∧
    state.held.Nodup ∧
    (state.window.queue.Pairwise fun first second => first.1.toNat ≤ second.1.toNat) ∧
    (∀ fingerprint, (state.window.insert fingerprint).2 = false ↔
      state.pruned fingerprint < state.added fingerprint) ∧
    (∀ labels next, machine.run state labels = some next → next.phase = .asleep →
      (∀ fingerprint ∈ state.expired, state.pruned fingerprint < next.pruned fingerprint) ∧
      ∀ entry ∈ state.window.queue,
        entry.1.toNat + windowPruneInterval < next.passed.toNat →
          state.pruned entry.2 < next.pruned entry.2) ∧
    (∀ fingerprint ∈ state.inserting, state.phase ≠ .popping → ∀ now,
      state.clock.toNat ≤ now.toNat → ∃ next,
        machine.step state (.pushBack fingerprint now) = some next ∧
          (now, fingerprint) ∈ next.window.queue) ∧
    (∀ now, state.clock.toNat ≤ now.toNat →
      (∃ label ∈ [WindowLabel.lockQueue, .pop now, .remove],
        (machine.step state label).isSome = true) ∧
      ∀ next, machine.step state (.pop now) = some next → next.phase = .popping →
        next.window.queue.length < state.window.queue.length) ∧
    ∀ now next, machine.step state (.pop now) = some next → next.phase = .removing →
      ∀ entry ∈ next.window.queue, entry.1.beenLongerThan now windowPruneInterval = false := by
  have holds := consistent_of_reachable reachable
  refine ⟨holds.members, holds.once, holds.ordered, insert_refused_iff holds, ?_, ?_,
    fun _ later => prune_goes_on state later, ?_⟩
  · intro labels next ran asleep
    constructor
    · intro fingerprint expired
      exact pruned_of_expired holds expired ran asleep
    · intro entry queued late
      exact pruned_of_queued holds queued ran asleep late
  · intro fingerprint inserting unlocked now later
    refine ⟨state.pushBack fingerprint now, if_pos ⟨unlocked, inserting, later⟩, ?_⟩
    exact List.mem_append_right _ (List.mem_singleton.mpr rfl)
  · intro now next stepped ended
    exact not_beenLongerThan_of_ended holds stepped ended

/-- An `add`, and a pass of the prune task that comes too early for it. -/
def addAndPass : List WindowLabel :=
  [.insert ⟨List.replicate 16 0, rfl⟩, .pushBack ⟨List.replicate 16 0, rfl⟩ ⟨5, Timestamp.five_lt⟩,
    .lockQueue, .pop ⟨5, Timestamp.five_lt⟩, .remove]

theorem window_consistent_added :
    ∃ state, machine.run (start ⟨5, Timestamp.five_lt⟩) addAndPass = some state ∧
      state.held.Nodup := by
  have runs : (machine.run (start ⟨5, Timestamp.five_lt⟩) addAndPass).isSome = true := by
    decide +kernel
  obtain ⟨state, ran⟩ := Option.isSome_iff_exists.mp runs
  exact ⟨state, ran, (window_consistent state ⟨_, _, ⟨_, rfl⟩, ran⟩).2.1⟩

end WindowTasks
end Ubass

import Mathlib.Data.List.TakeWhile
import Ubass.Manager.Windows

/-!
# When `prune` wakes up

`PendingAckWindow::prune` sleeps for `top_timestamp + BUFFERING_TIME`, where
`top_timestamp` is called the time until the first entry is due but is the age of
that entry.  Sleeps are exact here, the body of the loop takes no time, and every
reading of the clock in it is the time of waking up.

The age of an entry is at most the time until it is due while it is at most half of
`PRUNE_INTERVAL`.  So no retry is late exactly when `prune` never wakes up to an
entry that is older than that and not due yet.
-/

set_option autoImplicit false

namespace Ubass

/-- `BUFFERING_TIME` -/
def pendingBufferingTime : Nat := 100

/-- The clock, the queue, and the time at which `prune` wakes up.  `popped` is history: the
timestamps of the entries that have been popped, each with the time at which it was. -/
structure RetryTimes where
  now : Timestamp
  queue : List PendingAckQueueEntry
  wake : Nat
  popped : List (Timestamp × Timestamp)

inductive RetryTimesLabel where
  | innerAdd (fingerprint : PacketFingerprint) (now : Timestamp)
  /-- The body of the loop.  Of the entries to retry, some are put back into the queue. -/
  | wake (requeued : PacketFingerprint → Bool)

namespace RetryTimes

/-- `top_timestamp`, as the loop computes it. -/
def topTimestamp (now : Timestamp) (queue : List PendingAckQueueEntry) : Nat :=
  match queue.head? with
  | some top => now.toNat - top.timestamp.toNat
  | none => windowPruneInterval - pendingBufferingTime

def start (now : Timestamp) : RetryTimes :=
  ⟨now, [], now.toNat + (windowPruneInterval - pendingBufferingTime + pendingBufferingTime), []⟩

def innerAdd (self : RetryTimes) (fingerprint : PacketFingerprint) (now : Timestamp) :
    RetryTimes :=
  { self with now := now, queue := self.queue ++ [PendingAckQueueEntry.new fingerprint now] }

/-- The body of the loop, and the sleep after it.  The entries to retry go back into the queue when
`top_timestamp` has been computed. -/
def body (self : RetryTimes) (now : Timestamp) (requeued : PacketFingerprint → Bool) :
    RetryTimes :=
  let (queue, _, toRetry) := PendingAckWindow.pruneQueue (fun _ => now) self.queue
  { now := now
    queue := queue ++ toRetry.filter fun entry => requeued entry.fingerprint
    wake := now.toNat + (topTimestamp now queue + pendingBufferingTime)
    popped := self.popped ++
      (self.queue.takeWhile fun entry => entry.readyToRetry now).map fun entry =>
        (entry.timestamp, now) }

/-- Entries arrive at any time until `prune` wakes up. -/
def machine : Machine RetryTimes RetryTimesLabel where
  initial state := ∃ now, state = start now
  step state
    | .innerAdd fingerprint now =>
        if state.now.toNat ≤ now.toNat ∧ now.toNat ≤ state.wake then
          some (state.innerAdd fingerprint now)
        else none
    | .wake requeued =>
        if bound : state.wake < 2 ^ 64 then some (state.body ⟨state.wake, bound⟩ requeued)
        else none

/-! ## The loop over the queue -/

theorem pruneQueue_fst (now : Timestamp) (queue : List PendingAckQueueEntry) :
    (PendingAckWindow.pruneQueue (fun _ => now) queue).1 =
      queue.dropWhile fun entry => entry.readyToRetry now := by
  induction queue with
  | nil => rfl
  | cons entry rest ih =>
      rw [PendingAckWindow.pruneQueue]
      by_cases ready : entry.readyToRetry now = true
      · by_cases spent : entry.retried.2 = true <;> simp [ready, spent, ih]
      · simp [ready]

theorem timestamp_of_toRetry {now : Timestamp} {queue : List PendingAckQueueEntry}
    {entry : PendingAckQueueEntry}
    (listed : entry ∈ (PendingAckWindow.pruneQueue (fun _ => now) queue).2.2) :
    entry.timestamp = now := by
  induction queue with
  | nil => cases listed
  | cons first rest ih =>
      rw [PendingAckWindow.pruneQueue] at listed
      by_cases ready : first.readyToRetry now = true
      · by_cases spent : first.retried.2 = true
        · simp only [ready, spent, if_true] at listed
          exact ih listed
        · simp only [ready, spent, if_true, if_false, Bool.false_eq_true, List.mem_cons] at listed
          rcases listed with rfl | later
          · rfl
          · exact ih later
      · simp [ready] at listed

def age (now : Nat) (entry : PendingAckQueueEntry) : Nat := now - entry.timestamp.toNat

theorem readyToRetry_iff {entry : PendingAckQueueEntry} {now : Timestamp}
    (past : entry.timestamp.toNat ≤ now.toNat) :
    entry.readyToRetry now = true ↔ windowPruneInterval < age now.toNat entry := by
  rw [PendingAckQueueEntry.readyToRetry, Timestamp.beenLongerThan_iff past, age]
  omega

/-! ## Lateness -/

/-- No entry is, or has been, popped too late, and the sleep ends at most `BUFFERING_TIME` after the
first entry is due. -/
structure OnTime (state : RetryTimes) : Prop where
  queued : ∀ entry ∈ state.queue,
    state.now.toNat ≤ entry.timestamp.toNat + windowPruneInterval + 2 * pendingBufferingTime
  popped : ∀ entry ∈ state.popped,
    entry.2.toNat ≤ entry.1.toNat + windowPruneInterval + 2 * pendingBufferingTime
  sleep : ∀ front ∈ state.queue.head?,
    state.wake ≤ front.timestamp.toNat + windowPruneInterval + pendingBufferingTime

/-- `prune` does not wake up to an entry that is older than half of `PRUNE_INTERVAL` and not due. -/
def NoneBetween (state : RetryTimes) : RetryTimesLabel → Prop
  | .innerAdd _ _ => True
  | .wake _ => ∀ entry ∈ state.queue, age state.wake entry ≤ windowPruneInterval →
      2 * age state.wake entry ≤ windowPruneInterval

instance (state : RetryTimes) : ∀ label, Decidable (NoneBetween state label)
  | .innerAdd _ _ => inferInstanceAs (Decidable True)
  | .wake _ => inferInstanceAs (Decidable (∀ entry ∈ state.queue, _ → _))

/-- What holds between two steps of a run that is on time. -/
structure Timed (state : RetryTimes) : Prop where
  ordered : state.queue.Pairwise fun first second =>
    first.timestamp.toNat ≤ second.timestamp.toNat
  past : ∀ entry ∈ state.queue, entry.timestamp.toNat ≤ state.now.toNat
  ahead : state.now.toNat ≤ state.wake
  empty : state.queue = [] → state.wake ≤ state.now.toNat + windowPruneInterval
  onTime : state.OnTime

theorem start_timed (now : Timestamp) : (start now).Timed := by
  refine ⟨List.Pairwise.nil, by simp [start], Nat.le_add_right _ _, ?_,
    by simp [start], by simp [start], by simp [start]⟩
  intro _
  simp only [start, windowPruneInterval, pendingBufferingTime, packetDiscardTimeMs]
  omega

variable {state next : RetryTimes}

theorem Timed.oldest (timed : state.Timed) {front entry : PendingAckQueueEntry}
    (first : front ∈ state.queue.head?) (listed : entry ∈ state.queue) :
    front.timestamp.toNat ≤ entry.timestamp.toNat := by
  have ordered := timed.ordered
  cases queue : state.queue with
  | nil => simp [queue] at first
  | cons head rest =>
      rw [queue] at first listed ordered
      cases first
      rcases List.mem_cons.mp listed with rfl | later
      · exact Nat.le_refl _
      · exact (List.pairwise_cons.mp ordered).1 entry later

theorem innerAdd_timed (timed : state.Timed) (fingerprint : PacketFingerprint) {now : Timestamp}
    (later : state.now.toNat ≤ now.toNat) (early : now.toNat ≤ state.wake) :
    (state.innerAdd fingerprint now).Timed := by
  have queue : (state.innerAdd fingerprint now).queue =
      state.queue ++ [PendingAckQueueEntry.new fingerprint now] := rfl
  have newest : (PendingAckQueueEntry.new fingerprint now).timestamp = now := rfl
  have head : ∀ front ∈ (state.innerAdd fingerprint now).queue.head?,
      state.wake ≤ front.timestamp.toNat + windowPruneInterval + pendingBufferingTime := by
    intro front first
    cases before : state.queue with
    | nil =>
        have empty := timed.empty before
        rw [queue, before] at first
        cases first
        rw [newest]
        omega
    | cons oldest rest =>
        rw [queue, before] at first
        exact timed.onTime.sleep front (by rw [before]; exact first)
  constructor
  · rw [queue, List.pairwise_append]
    refine ⟨timed.ordered, List.pairwise_singleton _ _, ?_⟩
    intro entry listed last same
    cases List.mem_singleton.mp same
    exact (timed.past entry listed).trans later
  · intro entry listed
    rcases List.mem_append.mp (queue ▸ listed) with before | last
    · exact (timed.past entry before).trans later
    · cases List.mem_singleton.mp last
      exact Nat.le_refl _
  · exact early
  · intro empty
    simp [queue] at empty
  · refine ⟨?_, timed.onTime.popped, head⟩
    intro entry listed
    rcases List.mem_append.mp (queue ▸ listed) with before | last
    · cases front : state.queue.head? with
      | none =>
          rw [List.head?_eq_none_iff.mp front] at before
          cases before
      | some oldest =>
          have sleep := timed.onTime.sleep oldest front
          have order := timed.oldest front before
          show now.toNat ≤ _
          omega
    · cases List.mem_singleton.mp last
      show now.toNat ≤ now.toNat + windowPruneInterval + 2 * pendingBufferingTime
      omega

theorem body_queue (state : RetryTimes) (now : Timestamp) (requeued : PacketFingerprint → Bool) :
    ∃ retried, (state.body now requeued).queue =
        (state.queue.dropWhile fun entry => entry.readyToRetry now) ++ retried ∧
      (∀ entry ∈ retried, entry.timestamp = now) ∧
      (state.body now requeued).wake = now.toNat + (topTimestamp now
        (state.queue.dropWhile fun entry => entry.readyToRetry now) + pendingBufferingTime) := by
  refine ⟨(PendingAckWindow.pruneQueue (fun _ => now) state.queue).2.2.filter
    fun entry => requeued entry.fingerprint, ?_, ?_, ?_⟩
  · rw [← pruneQueue_fst]
    rfl
  · intro entry listed
    exact timestamp_of_toRetry (List.mem_of_mem_filter listed)
  · rw [← pruneQueue_fst]
    rfl

theorem sleep_iff {now : Timestamp} {front : PendingAckQueueEntry}
    {rest : List PendingAckQueueEntry} (past : front.timestamp.toNat ≤ now.toNat) :
    now.toNat + (topTimestamp now (front :: rest) + pendingBufferingTime) ≤
        front.timestamp.toNat + windowPruneInterval + pendingBufferingTime ↔
      2 * age now.toNat front ≤ windowPruneInterval := by
  have top : topTimestamp now (front :: rest) = age now.toNat front := rfl
  rw [top, age]
  omega

theorem mem_dropWhile_of_not_ready {queue : List PendingAckQueueEntry}
    {entry : PendingAckQueueEntry} {now : Timestamp} (listed : entry ∈ queue)
    (young : entry.readyToRetry now = false) :
    entry ∈ queue.dropWhile fun entry => entry.readyToRetry now := by
  rw [← List.takeWhile_append_dropWhile (p := fun entry : PendingAckQueueEntry =>
    entry.readyToRetry now) (l := queue)] at listed
  rcases List.mem_append.mp listed with popped | stays
  · have ready := List.mem_takeWhile_imp popped
    rw [young] at ready
    cases ready
  · exact stays

theorem not_ready_of_head_dropWhile {queue rest : List PendingAckQueueEntry}
    {front : PendingAckQueueEntry} {now : Timestamp}
    (left : (queue.dropWhile fun entry => entry.readyToRetry now) = front :: rest) :
    front.readyToRetry now = false := by
  have nonempty : (queue.dropWhile fun entry => entry.readyToRetry now) ≠ [] := by simp [left]
  have head := List.head_dropWhile_not (fun entry : PendingAckQueueEntry =>
    entry.readyToRetry now) nonempty
  simpa [left] using head

section Body

variable (timed : state.Timed) (bound : state.wake < 2 ^ 64)
  (requeued : PacketFingerprint → Bool)
include timed

theorem Timed.past_wake {entry : PendingAckQueueEntry} (listed : entry ∈ state.queue) :
    entry.timestamp.toNat ≤ state.wake :=
  (timed.past entry listed).trans timed.ahead

theorem Timed.wake_le {entry : PendingAckQueueEntry} (listed : entry ∈ state.queue) :
    state.wake ≤ entry.timestamp.toNat + windowPruneInterval + pendingBufferingTime := by
  cases first : state.queue.head? with
  | none =>
      rw [List.head?_eq_none_iff.mp first] at listed
      cases listed
  | some front =>
      have sleep := timed.onTime.sleep front first
      have order := timed.oldest first listed
      omega

theorem body_onTime_iff :
    (state.body ⟨state.wake, bound⟩ requeued).OnTime ↔ NoneBetween state (.wake requeued) := by
  obtain ⟨retried, queue, times, wake⟩ := body_queue state ⟨state.wake, bound⟩ requeued
  have within : ∀ entry ∈ state.queue.dropWhile fun entry =>
      entry.readyToRetry ⟨state.wake, bound⟩, entry ∈ state.queue :=
    fun entry listed => (List.dropWhile_sublist _).subset listed
  constructor
  · intro onTime entry listed notDue
    have past := timed.past_wake listed
    have young : entry.readyToRetry ⟨state.wake, bound⟩ = false := by
      rw [Bool.eq_false_iff, ne_eq, readyToRetry_iff past]
      simp only
      omega
    have stays := mem_dropWhile_of_not_ready listed young
    cases left : state.queue.dropWhile fun entry => entry.readyToRetry ⟨state.wake, bound⟩ with
    | nil =>
        rw [left] at stays
        cases stays
    | cons front rest =>
        have isFront : front ∈ state.queue := within front (by rw [left]; exact List.mem_cons_self)
        have sleep := onTime.sleep front (by rw [queue, left]; rfl)
        rw [wake, left, sleep_iff (timed.past_wake isFront)] at sleep
        have ordered := timed.ordered.sublist (List.dropWhile_sublist
          fun entry => entry.readyToRetry ⟨state.wake, bound⟩)
        rw [left] at ordered stays
        have order : front.timestamp.toNat ≤ entry.timestamp.toNat := by
          rcases List.mem_cons.mp stays with rfl | later
          · exact Nat.le_refl _
          · exact (List.pairwise_cons.mp ordered).1 entry later
        simp only [age] at sleep ⊢
        omega
  · intro none
    constructor
    · intro entry listed
      show state.wake ≤ _
      rcases List.mem_append.mp (queue ▸ listed) with stays | again
      · have late := timed.wake_le (within entry stays)
        omega
      · rw [times entry again]
        simp only
        omega
    · intro entry listed
      rcases List.mem_append.mp listed with before | now
      · exact timed.onTime.popped entry before
      · obtain ⟨popped, taken, rfl⟩ := List.mem_map.mp now
        have late := timed.wake_le ((List.takeWhile_sublist _).subset taken)
        simp only
        omega
    · intro front first
      rw [wake]
      rw [queue] at first
      cases left : state.queue.dropWhile fun entry => entry.readyToRetry ⟨state.wake, bound⟩ with
      | cons oldest rest =>
          rw [left] at first
          cases first
          have isFront : front ∈ state.queue :=
            within front (by rw [left]; exact List.mem_cons_self)
          have past := timed.past_wake isFront
          have young := not_ready_of_head_dropWhile left
          rw [Bool.eq_false_iff, ne_eq, readyToRetry_iff past] at young
          exact (sleep_iff past).mpr (none front isFront (Nat.le_of_not_lt young))
      | nil =>
          rw [left, List.nil_append] at first
          rw [times front (List.mem_of_mem_head? first)]
          simp only [topTimestamp, List.head?_nil, windowPruneInterval, pendingBufferingTime,
            packetDiscardTimeMs]
          omega

theorem body_timed (none : NoneBetween state (.wake requeued)) :
    (state.body ⟨state.wake, bound⟩ requeued).Timed := by
  obtain ⟨retried, queue, times, wake⟩ := body_queue state ⟨state.wake, bound⟩ requeued
  have kept := List.dropWhile_sublist (l := state.queue)
    fun entry => entry.readyToRetry ⟨state.wake, bound⟩
  have now : (state.body ⟨state.wake, bound⟩ requeued).now.toNat = state.wake := rfl
  constructor
  · rw [queue, List.pairwise_append]
    refine ⟨timed.ordered.sublist kept, ?_, ?_⟩
    · apply List.pairwise_of_forall_mem_list
      intro first listed second also
      rw [times first listed, times second also]
    · intro entry listed again also
      rw [times again also]
      exact timed.past_wake (kept.subset listed)
  · intro entry listed
    rw [now]
    rcases List.mem_append.mp (queue ▸ listed) with stays | again
    · exact timed.past_wake (kept.subset stays)
    · rw [times entry again]
  · rw [now, wake]
    exact Nat.le_add_right _ _
  · intro empty
    rw [queue, List.append_eq_nil_iff] at empty
    rw [now, wake, empty.1]
    simp only [topTimestamp, List.head?_nil, windowPruneInterval, pendingBufferingTime,
      packetDiscardTimeMs]
    omega
  · exact (body_onTime_iff timed bound requeued).mpr none

end Body

theorem step_onTime_iff (state : RetryTimes) (label : RetryTimesLabel) (next : RetryTimes)
    (timed : state.Timed) (stepped : machine.step state label = some next) :
    next.OnTime ↔ NoneBetween state label := by
  cases label with
  | innerAdd fingerprint now =>
      simp only [machine, Option.ite_none_right_eq_some, Option.some.injEq] at stepped
      obtain ⟨⟨later, early⟩, rfl⟩ := stepped
      exact iff_of_true (innerAdd_timed timed fingerprint later early).onTime trivial
  | wake requeued =>
      simp only [machine] at stepped
      split at stepped
      · cases stepped
        exact body_onTime_iff timed ‹_› requeued
      · cases stepped

theorem step_timed (state : RetryTimes) (label : RetryTimesLabel) (next : RetryTimes)
    (timed : state.Timed) (none : NoneBetween state label)
    (stepped : machine.step state label = some next) : next.Timed := by
  cases label with
  | innerAdd fingerprint now =>
      simp only [machine, Option.ite_none_right_eq_some, Option.some.injEq] at stepped
      obtain ⟨⟨later, early⟩, rfl⟩ := stepped
      exact innerAdd_timed timed fingerprint later early
  | wake requeued =>
      simp only [machine] at stepped
      split at stepped
      · cases stepped
        exact body_timed timed ‹_› requeued none
      · cases stepped

/-- In every run, every entry is popped in time and every sleep is short enough exactly when `prune`
never wakes up to an entry that is older than half of `PRUNE_INTERVAL` and not due yet. -/
theorem retries_onTime_iff {first : Timestamp} {labels : List RetryTimesLabel} {final : RetryTimes}
    (ran : machine.run (start first) labels = some final) :
    machine.HoldsAlong OnTime (start first) labels ↔
      machine.Guarded NoneBetween (start first) labels :=
  machine.holdsAlong_iff_guarded_of_invariant step_onTime_iff step_timed (start_timed first) ran

/-- An entry arrives at 280 ms.  It is 220 ms old when `prune` wakes up, and 540 ms old when it does
so again. -/
def earlyEntry : List RetryTimesLabel :=
  [.innerAdd (sampleXxh3 []) (atMillisecond 280), .wake fun _ => false, .wake fun _ => false]

theorem retries_onTime_iff_earlyEntry :
    ∃ final, machine.run (start (atMillisecond 0)) earlyEntry = some final ∧
      final.popped = [(atMillisecond 280, atMillisecond 820)] ∧
      machine.HoldsAlong OnTime (start (atMillisecond 0)) earlyEntry := by
  have facts : (machine.run (start (atMillisecond 0)) earlyEntry).map RetryTimes.popped =
      some [(atMillisecond 280, atMillisecond 820)] := by
    decide +kernel
  obtain ⟨final, ran, popped⟩ := Option.map_eq_some_iff.mp facts
  refine ⟨final, ran, popped, (retries_onTime_iff ran).mpr ?_⟩
  have added : machine.step (start (atMillisecond 0))
      (.innerAdd (sampleXxh3 []) (atMillisecond 280)) =
      some ((start (atMillisecond 0)).innerAdd (sampleXxh3 []) (atMillisecond 280)) := rfl
  have woken : machine.step
      ((start (atMillisecond 0)).innerAdd (sampleXxh3 []) (atMillisecond 280))
      (.wake fun _ => false) =
      some (((start (atMillisecond 0)).innerAdd (sampleXxh3 []) (atMillisecond 280)).body
        (atMillisecond 500) fun _ => false) := rfl
  apply machine.guarded_cons trivial added
  apply machine.guarded_cons _ woken
  · exact ⟨by decide +kernel, fun _ _ => trivial⟩
  · decide +kernel

/-- An entry arrives when `prune` begins to sleep.  It is 500 ms old when `prune` wakes up and not
due yet, so `prune` sleeps for 600 ms. -/
def immediate : List RetryTimesLabel :=
  [.innerAdd (sampleXxh3 []) (atMillisecond 0), .wake fun _ => true, .wake fun _ => true]

theorem popped_late :
    ∃ final, machine.run (start (atMillisecond 0)) immediate = some final ∧
      final.popped = [(atMillisecond 0, atMillisecond 1100)] ∧ ¬ final.OnTime := by
  have facts : (machine.run (start (atMillisecond 0)) immediate).map RetryTimes.popped =
      some [(atMillisecond 0, atMillisecond 1100)] := by
    decide +kernel
  obtain ⟨final, ran, popped⟩ := Option.map_eq_some_iff.mp facts
  refine ⟨final, ran, popped, ?_⟩
  intro onTime
  have inTime := onTime.popped (atMillisecond 0, atMillisecond 1100) (by simp [popped])
  revert inTime
  decide

end RetryTimes
end Ubass

import Mathlib.Data.List.Range
import Ubass.Lib.Machine
import Ubass.Manager.Messages

/-!
# The channel of a stream's events

`Shared` of `utils/mod.rs`: one value behind a lock and a `Notify`.  Handler tasks
write the value and notify, the stream loop waits for the signal and then takes
the lock.  A `Notify` hands a notification to the waiter if there is one and
stores it as its single permit otherwise.

The steps are those between two `await`s: an update holds the lock from its write
to its notification, `listen_then` reads the value in the step in which it gets
the lock, and `select!` may drop the future of `listen_then` before any of them.
-/

set_option autoImplicit false

namespace Ubass

universe u

/-- Where the stream loop is in `listen_then`. -/
inductive Listener where
  | idle
  /-- Registered as the waiter of the `Notify`. -/
  | listening
  /-- Notified, and not polled since. -/
  | signalled
  /-- Past the signal, before the lock. -/
  | ready
deriving DecidableEq

/-- `Shared<T>` -/
structure Shared (Event : Type u) where
  value : Event
  permit : Bool
  listener : Listener
deriving DecidableEq

namespace Shared

variable {Event : Type u}

/-- `Notify::notify_one` -/
def notifyOne (self : Shared Event) : Shared Event :=
  match self.listener with
  | .listening => { self with listener := .signalled }
  | _ => { self with permit := true }

def update (self : Shared Event) (value : Event) : Shared Event :=
  notifyOne { self with value := value }

def updateWith (self : Shared Event) (f : Event → Event) : Shared Event :=
  notifyOne { self with value := f self.value }

/-- The first poll of `listen_then`. -/
def listen (self : Shared Event) : Option (Shared Event) :=
  match self.listener with
  | .idle =>
      if self.permit then some { self with permit := false, listener := .ready }
      else some { self with listener := .listening }
  | _ => none

def wake (self : Shared Event) : Option (Shared Event) :=
  match self.listener with
  | .signalled => some { self with listener := .ready }
  | _ => none

/-- The lock is granted: the closure gets the value and leaves something in its place. -/
def acquire (leave : Event → Event) (self : Shared Event) : Option (Event × Shared Event) :=
  match self.listener with
  | .ready => some (self.value, { self with value := leave self.value, listener := .idle })
  | _ => none

/-- `select!` drops the future.  A notification that was not polled yet goes back to the
`Notify`, one that was is gone. -/
def cancel (self : Shared Event) : Option (Shared Event) :=
  match self.listener with
  | .idle => none
  | .listening => some { self with listener := .idle }
  | .signalled => some { self with listener := .idle, permit := true }
  | .ready => some { self with listener := .idle }

/-- The notifications that some `listen_then` will still act on. -/
def signals (self : Shared Event) : Nat :=
  (if self.permit then 1 else 0) +
    match self.listener with
    | .idle | .listening => 0
    | .signalled | .ready => 1

end Shared

/-- The closure of the stream loop takes the ranges of a retransmit event and clones any
other event. -/
def StreamEvent.leave : StreamEvent → StreamEvent
  | .retransmit _ => .retransmit []
  | other => other

/-- A channel with what was passed to it and what was observed, every event under the number
of its update. -/
structure Channel (Event : Type u) where
  shared : Shared Event
  written : Nat
  updates : List (Nat × Event)
  observed : List (Nat × Event)
  numbered : updates.map Prod.fst = List.range updates.length

inductive ChannelLabel (Event : Type u) where
  | update (value : Event)
  | updateWith (f : Event → Event)
  | listen
  | wake
  | acquire
  | cancel

namespace Channel

variable {Event : Type u}

def record (self : Channel Event) (shared : Shared Event) : Channel Event where
  shared := shared
  written := self.updates.length
  updates := self.updates ++ [(self.updates.length, shared.value)]
  observed := self.observed
  numbered := by
    rw [List.map_append, self.numbered, List.length_append, List.length_singleton,
      List.range_succ]
    rfl

def step (leave : Event → Event) (self : Channel Event) :
    ChannelLabel Event → Option (Channel Event)
  | .update value => some (self.record (self.shared.update value))
  | .updateWith f => some (self.record (self.shared.updateWith f))
  | .listen => self.shared.listen.map fun shared => { self with shared := shared }
  | .wake => self.shared.wake.map fun shared => { self with shared := shared }
  | .acquire => (self.shared.acquire leave).map fun result =>
      { self with shared := result.2, observed := self.observed ++ [(self.written, result.1)] }
  | .cancel => self.shared.cancel.map fun shared => { self with shared := shared }

def Fresh (self : Channel Event) : Prop :=
  self.updates = [] ∧ self.observed = [] ∧ self.shared.signals = 0

/-- The channel of one stream. -/
def machine (leave : Event → Event) : Machine (Channel Event) (ChannelLabel Event) where
  initial := Fresh
  step := step leave

/-- What was observed, followed by what every outstanding notification will make some
`listen_then` observe, is exactly what was passed to the channel, in order. -/
def Delivered (self : Channel Event) : Prop :=
  self.observed ++ List.replicate self.shared.signals (self.written, self.shared.value) =
    self.updates

/-- The steps that neither overwrite an event nor drop a wake-up: no update comes while a
notification is outstanding, and no `listen_then` is dropped between signal and lock. -/
def Undisturbed (self : Channel Event) : ChannelLabel Event → Prop
  | .update _ | .updateWith _ => self.shared.signals = 0
  | .cancel => self.shared.listener ≠ .ready
  | .listen | .wake | .acquire => True

/-! ## Steps -/

theorem signals_notifyOne_of_none {shared : Shared Event} (none : shared.signals = 0) :
    shared.notifyOne.signals = 1 := by
  cases listener : shared.listener <;> cases permit : shared.permit <;>
    simp [Shared.signals, Shared.notifyOne, listener, permit] at none ⊢

theorem number_lt {self : Channel Event} {entry : Nat × Event} (member : entry ∈ self.updates) :
    entry.1 < self.updates.length := by
  have number := List.mem_map_of_mem (f := Prod.fst) member
  rw [self.numbered] at number
  exact List.mem_range.mp number

theorem signals_le_one {self : Channel Event} (delivered : self.Delivered) :
    self.shared.signals ≤ 1 := by
  have distinct : (self.updates.map Prod.fst).Nodup := by
    rw [self.numbered]
    exact List.nodup_range
  rw [← delivered, List.map_append, List.map_replicate] at distinct
  exact List.nodup_replicate.mp (List.nodup_append.mp distinct).2.1

theorem permit_of_delivered {self : Channel Event} (delivered : self.Delivered)
    (reached : self.shared.listener = .signalled ∨ self.shared.listener = .ready) :
    self.shared.permit = false := by
  have atMostOne := signals_le_one delivered
  cases permit : self.shared.permit with
  | false => rfl
  | true =>
      rcases reached with listener | listener
      · simp [Shared.signals, listener, permit] at atMostOne
      · simp [Shared.signals, listener, permit] at atMostOne

theorem record_delivered_iff {self : Channel Event} (shared : Shared Event)
    (delivered : self.Delivered) :
    (self.record shared).Delivered ↔
      List.replicate shared.signals (self.updates.length, shared.value) =
        List.replicate self.shared.signals (self.written, self.shared.value) ++
          [(self.updates.length, shared.value)] := by
  have updates : (self.record shared).updates =
      self.observed ++ (List.replicate self.shared.signals (self.written, self.shared.value) ++
        [(self.updates.length, shared.value)]) := by
    rw [← List.append_assoc, delivered]
    rfl
  rw [Delivered, updates]
  exact List.append_right_inj _

theorem update_delivered_iff {self : Channel Event} {shared : Shared Event}
    (delivered : self.Delivered) (sameSignals : shared.signals = self.shared.signals) :
    (self.record shared.notifyOne).Delivered ↔ self.shared.signals = 0 := by
  rw [record_delivered_iff _ delivered]
  constructor
  · intro same
    by_contra outstanding
    -- the event in the slot was passed before this one, so it has another number
    have slot : (self.written, self.shared.value) ∈ self.updates := by
      rw [← delivered]
      exact List.mem_append_right _ (List.mem_replicate.mpr ⟨outstanding, rfl⟩)
    have earlier := number_lt slot
    have inSignals : (self.written, self.shared.value) ∈
        List.replicate shared.notifyOne.signals (self.updates.length, shared.notifyOne.value) := by
      rw [same]
      exact List.mem_append_left _ (List.mem_replicate.mpr ⟨outstanding, rfl⟩)
    have number := congrArg Prod.fst (List.mem_replicate.mp inSignals).2
    exact Nat.lt_irrefl _ (number ▸ earlier)
  · intro none
    rw [signals_notifyOne_of_none (sameSignals.trans none), none]
    rfl

theorem move_delivered {self : Channel Event} (shared : Shared Event) (delivered : self.Delivered)
    (value : shared.value = self.shared.value) (signals : shared.signals = self.shared.signals) :
    Delivered { self with shared := shared } := by
  rw [Delivered]
  simp only [value, signals]
  exact delivered

theorem listen_moves {self next : Shared Event} (listened : self.listen = some next) :
    next.value = self.value ∧ next.signals = self.signals := by
  unfold Shared.listen at listened
  split at listened
  · rename_i listener
    split at listened
    · rename_i permit
      cases Option.some.inj listened
      simp [Shared.signals, listener, permit]
    · rename_i permit
      cases Option.some.inj listened
      simp [Shared.signals, listener, permit]
  · cases listened

theorem wake_moves {self next : Shared Event} (woken : self.wake = some next) :
    next.value = self.value ∧ next.signals = self.signals := by
  unfold Shared.wake at woken
  split at woken
  · rename_i listener
    cases Option.some.inj woken
    simp [Shared.signals, listener]
  · cases woken

theorem acquire_takes {leave : Event → Event} {self : Shared Event} {result : Event × Shared Event}
    (acquired : self.acquire leave = some result) :
    result.1 = self.value ∧ self.signals = result.2.signals + 1 := by
  unfold Shared.acquire at acquired
  split at acquired
  · rename_i listener
    cases Option.some.inj acquired
    simp [Shared.signals, listener]
  · cases acquired

theorem acquire_delivered {leave : Event → Event} {self : Channel Event}
    {result : Event × Shared Event} (delivered : self.Delivered)
    (acquired : self.shared.acquire leave = some result) :
    Delivered { self with
      shared := result.2
      observed := self.observed ++ [(self.written, result.1)] } := by
  obtain ⟨value, signals⟩ := acquire_takes acquired
  have atMostOne := signals_le_one delivered
  have none : result.2.signals = 0 := by omega
  rw [Delivered] at delivered ⊢
  simp only [none, value, List.replicate_zero, List.append_nil]
  rw [← delivered, signals, none]
  rfl

theorem cancel_delivered_iff {self : Channel Event} {next : Shared Event}
    (delivered : self.Delivered) (cancelled : self.shared.cancel = some next) :
    Delivered { self with shared := next } ↔ self.shared.listener ≠ .ready := by
  unfold Shared.cancel at cancelled
  split at cancelled
  · cases cancelled
  · rename_i listener
    cases Option.some.inj cancelled
    have kept := move_delivered { self.shared with listener := .idle } delivered rfl
      (by simp [Shared.signals, listener])
    simp [kept, listener]
  · rename_i listener
    cases Option.some.inj cancelled
    have noPermit := permit_of_delivered delivered (Or.inl listener)
    have kept := move_delivered { self.shared with listener := .idle, permit := true } delivered rfl
      (by simp [Shared.signals, listener, noPermit])
    simp [kept, listener]
  · rename_i listener
    cases Option.some.inj cancelled
    have noPermit := permit_of_delivered delivered (Or.inr listener)
    have one : self.shared.signals = 1 := by simp [Shared.signals, listener, noPermit]
    rw [Delivered, one] at delivered
    constructor
    · intro lost
      simp only [Delivered, Shared.signals, noPermit] at lost
      rw [← delivered] at lost
      simp at lost
    · intro notReady
      exact absurd listener notReady

theorem step_delivered_iff {leave : Event → Event} {self next : Channel Event}
    {label : ChannelLabel Event} (delivered : self.Delivered)
    (stepped : self.step leave label = some next) :
    next.Delivered ↔ self.Undisturbed label := by
  cases label with
  | update value =>
      cases Option.some.inj stepped
      exact update_delivered_iff delivered rfl
  | updateWith f =>
      cases Option.some.inj stepped
      exact update_delivered_iff delivered rfl
  | listen =>
      obtain ⟨shared, listened, rfl⟩ := Option.map_eq_some_iff.mp stepped
      obtain ⟨value, signals⟩ := listen_moves listened
      exact iff_of_true (move_delivered shared delivered value signals) trivial
  | wake =>
      obtain ⟨shared, woken, rfl⟩ := Option.map_eq_some_iff.mp stepped
      obtain ⟨value, signals⟩ := wake_moves woken
      exact iff_of_true (move_delivered shared delivered value signals) trivial
  | acquire =>
      obtain ⟨result, acquired, rfl⟩ := Option.map_eq_some_iff.mp stepped
      exact iff_of_true (acquire_delivered delivered acquired) trivial
  | cancel =>
      obtain ⟨shared, cancelled, rfl⟩ := Option.map_eq_some_iff.mp stepped
      exact cancel_delivered_iff delivered cancelled

theorem fresh_delivered {self : Channel Event} (fresh : self.Fresh) : self.Delivered := by
  obtain ⟨updates, observed, signals⟩ := fresh
  rw [Delivered, updates, observed, signals]
  rfl

/-- Along a run of one stream's channel, every event is observed by exactly one `listen_then`
in update order if and only if no step of the run overwrites an event that a notification is
outstanding for or drops a wake-up. -/
theorem delivered_along_iff (leave : Event → Event) (first final : Channel Event)
    (labels : List (ChannelLabel Event)) (fresh : first.Fresh)
    (ran : (machine leave).run first labels = some final) :
    (machine leave).HoldsAlong Delivered first labels ↔
      (machine leave).Guarded Undisturbed first labels :=
  (machine leave).holdsAlong_iff_guarded (fun _ _ _ delivered stepped =>
    step_delivered_iff delivered stepped) (fresh_delivered fresh) ran

/-- The channel `stream_to` creates. -/
def ofStream : Channel StreamEvent where
  shared := ⟨StreamEvent.default, false, .idle⟩
  written := 0
  updates := []
  observed := []
  numbered := rfl

theorem delivered_along_iff_pause_play :
    (machine StreamEvent.leave).HoldsAlong Delivered ofStream
        [.listen, .update (.playback .pause), .wake, .acquire, .update (.playback .play)] ↔
      (machine StreamEvent.leave).Guarded Undisturbed ofStream
        [.listen, .update (.playback .pause), .wake, .acquire, .update (.playback .play)] :=
  delivered_along_iff StreamEvent.leave ofStream _ _ ⟨rfl, rfl, rfl⟩ rfl

/-- Two retransmit requests that arrive before the loop gets to the lock: the first is never
observed, and the loop observes the second one twice. -/
theorem retransmit_overwritten :
    ∃ final, (machine StreamEvent.leave).run ofStream
        [.listen, .update (.retransmit [⟨BytePosition.ofNat 0, 1368⟩]),
          .update (.retransmit [⟨BytePosition.ofNat 2736, 1368⟩]), .wake, .acquire, .listen,
          .acquire] = some final ∧
      final.updates = [(0, .retransmit [⟨BytePosition.ofNat 0, 1368⟩]),
        (1, .retransmit [⟨BytePosition.ofNat 2736, 1368⟩])] ∧
      final.observed = [(1, .retransmit [⟨BytePosition.ofNat 2736, 1368⟩]), (1, .retransmit [])] ∧
      final.shared.signals = 0 ∧ ¬ final.Delivered := by
  refine ⟨_, rfl, rfl, rfl, rfl, ?_⟩
  intro delivered
  exact absurd (congrArg List.head? delivered) (by decide)

end Channel
end Ubass

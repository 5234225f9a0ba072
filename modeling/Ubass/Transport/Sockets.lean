import Ubass.Api.Completion

/-!
# The pool of outbound sockets

`OutboundSockets` hands out its sockets in turn.  `update` measures how long the
windows of the transport last: a row of full windows adds a socket, a row of idle ones
removes the socket behind the current one.

When the current socket is the last one, the one behind it is the first, and its
removal moves the current socket to another place while `current_socket` stays.
-/

set_option autoImplicit false

universe u

namespace Ubass

inductive Panic where
  | overflow
  | outOfBounds
  | divisionByZero
deriving DecidableEq

def bufferTimeout : UInt64 := 5

structure OutboundSockets (Socket : Type u) where
  sockets : List Socket
  currentSocket : Nat
  removalMeter : UInt64
  additionMeter : UInt64
  earlyBatches : UInt64
  onTimeBatches : UInt64

inductive SocketsLabel (Socket : Type u) where
  | retrieve
  /-- `created` is what `UdpSocket::bind` gives, should `update` need a socket. -/
  | update (elapsed : UInt64) (created : Option Socket)

namespace OutboundSockets

def buffersBeforeRemove : UInt64 := 100

def buffersBeforeAdd : Nat := 50

def removalThreshold : UInt64 :=
  buffersBeforeRemove * (buffersBeforeRemove + 1) * (2 * buffersBeforeRemove + 1) / 6

/-- The loop is over `i - 1`. -/
def additionThreshold : UInt64 :=
  (List.range buffersBeforeAdd).foldl
    (fun acc before =>
      acc + UInt64.ofNat before * (bufferTimeout * bufferTimeout) / UInt64.ofNat (before + 1)) 0

def saturatingSub (left right : UInt64) : UInt64 := if left < right then 0 else left - right

variable {Socket : Type u}

def new (socket : Socket) : OutboundSockets Socket := ⟨[socket], 0, 0, 0, 0, 0⟩

def nextSocket (self : OutboundSockets Socket) : OutboundSockets Socket :=
  { self with currentSocket := (self.currentSocket + 1) % self.sockets.length }

def retrieve (self : OutboundSockets Socket) : Except Panic (Socket × OutboundSockets Socket) :=
  match self.sockets[self.currentSocket]? with
  | some socket => .ok (socket, self.nextSocket)
  | none => .error .outOfBounds

/-! ### The parts of `update` -/

def countBatch (self : OutboundSockets Socket) (n : UInt64) : OutboundSockets Socket :=
  if n = 0 then
    { self with
      earlyBatches := saturatingSub self.earlyBatches 2 + 1
      onTimeBatches := self.onTimeBatches + 1 }
  else
    { self with
      onTimeBatches := saturatingSub self.onTimeBatches 1
      earlyBatches := self.earlyBatches + 1 }

def countOverflows (self : OutboundSockets Socket) (n : UInt64) : Bool :=
  if n = 0 then self.onTimeBatches.toNat + 1 = 2 ^ 64 else self.earlyBatches.toNat + 1 = 2 ^ 64

def fillMeters (self : OutboundSockets Socket) (n : UInt64) : OutboundSockets Socket :=
  { self with
    removalMeter := self.removalMeter + self.onTimeBatches * self.onTimeBatches
    additionMeter :=
      self.additionMeter + ((self.earlyBatches - 1) * (n * n)) / self.earlyBatches }

/-- One of the multiplications or additions of the meters leaves `u64`. -/
def metersOverflow (self : OutboundSockets Socket) (n : UInt64) : Bool :=
  let squared := self.onTimeBatches.toNat * self.onTimeBatches.toNat
  let weighted := (self.earlyBatches.toNat - 1) * (n.toNat * n.toNat)
  2 ^ 64 ≤ self.removalMeter.toNat + squared || 2 ^ 64 ≤ weighted ||
    2 ^ 64 ≤ self.additionMeter.toNat + weighted / self.earlyBatches.toNat

def removeSocket (self : OutboundSockets Socket) : OutboundSockets Socket :=
  if removalThreshold ≤ self.removalMeter then
    { self with
      removalMeter := 0
      sockets :=
        if 1 < self.sockets.length then
          self.sockets.eraseIdx ((self.currentSocket + 1) % self.sockets.length)
        else self.sockets }
  else self

/-- The addition event.  The meter has been reset when no socket can be created. -/
def addSocket (self : OutboundSockets Socket) (created : Option Socket) :
    OutboundSockets Socket × Bool :=
  if additionThreshold ≤ self.additionMeter then
    ({ self with additionMeter := 0, sockets := self.sockets ++ created.toList }, created.isSome)
  else (self, true)

/-- An addition or multiplication of `update` leaves `u64`. -/
def updateOverflows (self : OutboundSockets Socket) (elapsed : UInt64) : Bool :=
  let n := saturatingSub bufferTimeout elapsed
  self.countOverflows n || (self.countBatch n).metersOverflow n

def measured (self : OutboundSockets Socket) (elapsed : UInt64) : OutboundSockets Socket :=
  let n := saturatingSub bufferTimeout elapsed
  (self.countBatch n).fillMeters n

/-- `update`, with whether it returns `Ok`. -/
def update (profile : Profile) (self : OutboundSockets Socket) (elapsed : UInt64)
    (created : Option Socket) : Except Panic (OutboundSockets Socket × Bool) :=
  if profile = .overflowChecks ∧ self.updateOverflows elapsed = true then .error .overflow
  else if (self.countBatch (saturatingSub bufferTimeout elapsed)).earlyBatches = 0 then
    .error .divisionByZero
  else .ok ((self.measured elapsed).removeSocket.addSocket created)

def call (profile : Profile) (self : OutboundSockets Socket) :
    SocketsLabel Socket → Except Panic (OutboundSockets Socket)
  | .retrieve => self.retrieve.map Prod.snd
  | .update elapsed created => (self.update profile elapsed created).map Prod.fst

/-- Any sequence of calls.  A panic ends the task. -/
def machine (Socket : Type u) (profile : Profile) :
    Machine (Except Panic (OutboundSockets Socket)) (SocketsLabel Socket) where
  initial state := ∃ socket, state = .ok (new socket)
  step state label :=
    match state with
    | .ok sockets => some (sockets.call profile label)
    | .error _ => none

/-! ## The index -/

structure Indexed (pool : OutboundSockets Socket) : Prop where
  nonempty : 0 < pool.sockets.length
  current : pool.currentSocket < pool.sockets.length

/-- The pool has a current socket after the call, or it has stopped at an overflow check. -/
def Safe : Except Panic (OutboundSockets Socket) → Prop
  | .ok sockets => sockets.Indexed
  | .error panic => panic = .overflow

def Divides (self : OutboundSockets Socket) (elapsed : UInt64) : Prop :=
  elapsed < bufferTimeout → self.earlyBatches.toNat + 1 ≠ 2 ^ 64

def RemovesFirst (self : OutboundSockets Socket) (elapsed : UInt64) : Prop :=
  removalThreshold ≤ (self.measured elapsed).removalMeter ∧ 1 < self.sockets.length ∧
    self.currentSocket + 1 = self.sockets.length

def Adds (self : OutboundSockets Socket) (elapsed : UInt64) (created : Option Socket) : Prop :=
  additionThreshold ≤ (self.measured elapsed).additionMeter ∧ created.isSome = true

/-- An `update` may stop at an overflow check.  Otherwise it must not divide by 0, and must not
remove the first socket while the last one is current, unless it adds one. -/
def KeepsCurrent (profile : Profile) :
    Except Panic (OutboundSockets Socket) → SocketsLabel Socket → Prop
  | .ok sockets, .update elapsed created =>
      (profile = .overflowChecks ∧ sockets.updateOverflows elapsed = true) ∨
        sockets.Divides elapsed ∧
          (sockets.RemovesFirst elapsed → sockets.Adds elapsed created)
  | _, _ => True

variable {self : OutboundSockets Socket} {elapsed : UInt64} {created : Option Socket}

theorem retrieve_of_indexed (indexed : self.Indexed) :
    ∃ socket ∈ self.sockets, self.retrieve = .ok (socket, self.nextSocket) := by
  have current := List.getElem?_eq_getElem indexed.current
  refine ⟨_, List.mem_of_getElem? current, ?_⟩
  rw [retrieve, current]

theorem nextSocket_indexed (indexed : self.Indexed) : self.nextSocket.Indexed :=
  ⟨indexed.nonempty, Nat.mod_lt _ indexed.nonempty⟩

theorem saturatingSub_eq_zero_iff (left right : UInt64) :
    saturatingSub left right = 0 ↔ left ≤ right := by
  rw [saturatingSub]
  split
  · rename_i less
    simp [UInt64.le_of_lt less]
  · rename_i notLess
    have le : right ≤ left := UInt64.not_lt.mp notLess
    constructor
    · intro zero
      have same : left.toNat - right.toNat = 0 := by
        rw [← UInt64.toNat_sub_of_le left right le, zero]
        rfl
      rw [UInt64.le_iff_toNat_le]
      omega
    · intro also
      rw [UInt64.le_antisymm le also]
      simp

theorem succ_eq_zero_iff (count : UInt64) : count + 1 = 0 ↔ count.toNat + 1 = 2 ^ 64 := by
  have bound := count.toNat_lt
  rw [← UInt64.toNat_inj, UInt64.toNat_add]
  simp
  omega

theorem saturatingSub_succ_ne_zero (count : UInt64) : saturatingSub count 2 + 1 ≠ 0 := by
  have bound := count.toNat_lt
  rw [Ne, succ_eq_zero_iff, saturatingSub]
  split
  · simp
  · rename_i notLess
    have le : (2 : UInt64) ≤ count := UInt64.not_lt.mp notLess
    have small := UInt64.le_iff_toNat_le.mp le
    rw [UInt64.toNat_sub_of_le count 2 le]
    simp at small ⊢
    omega

theorem earlyBatches_countBatch_eq_zero_iff :
    (self.countBatch (saturatingSub bufferTimeout elapsed)).earlyBatches = 0 ↔
      ¬ self.Divides elapsed := by
  rw [countBatch, Divides]
  split
  · rename_i late
    rw [saturatingSub_eq_zero_iff] at late
    have notEarly : ¬ elapsed < bufferTimeout := UInt64.not_lt.mpr late
    simp [notEarly, saturatingSub_succ_ne_zero]
  · rename_i early
    rw [saturatingSub_eq_zero_iff, UInt64.not_le] at early
    simp [early, succ_eq_zero_iff]

/-! ### One call -/

@[simp] theorem sockets_measured : (self.measured elapsed).sockets = self.sockets := by
  simp only [measured, fillMeters, countBatch]
  split <;> rfl

@[simp] theorem currentSocket_measured :
    (self.measured elapsed).currentSocket = self.currentSocket := by
  simp only [measured, fillMeters, countBatch]
  split <;> rfl

theorem removeSocket_spec (pool : OutboundSockets Socket) :
    pool.removeSocket.currentSocket = pool.currentSocket ∧
      pool.removeSocket.additionMeter = pool.additionMeter ∧
      pool.removeSocket.sockets.length =
        if removalThreshold ≤ pool.removalMeter ∧ 1 < pool.sockets.length then
          pool.sockets.length - 1
        else pool.sockets.length := by
  rw [removeSocket]
  by_cases triggered : removalThreshold ≤ pool.removalMeter
  · by_cases several : 1 < pool.sockets.length
    · have inside : (pool.currentSocket + 1) % pool.sockets.length < pool.sockets.length :=
        Nat.mod_lt _ (by omega)
      simp [triggered, several, List.length_eraseIdx, inside]
    · simp [triggered, several]
  · simp [triggered]

theorem addSocket_spec (pool : OutboundSockets Socket) (created : Option Socket) :
    (pool.addSocket created).1.currentSocket = pool.currentSocket ∧
      (pool.addSocket created).1.sockets.length =
        if additionThreshold ≤ pool.additionMeter ∧ created.isSome = true then
          pool.sockets.length + 1
        else pool.sockets.length := by
  rw [addSocket]
  by_cases triggered : additionThreshold ≤ pool.additionMeter
  · cases created <;> simp [triggered]
  · simp [triggered]

theorem updated_indexed_iff (indexed : self.Indexed) :
    ((self.measured elapsed).removeSocket.addSocket created).1.Indexed ↔
      (self.RemovesFirst elapsed → self.Adds elapsed created) := by
  obtain ⟨keptIndex, keptMeter, removed⟩ := removeSocket_spec (self.measured elapsed)
  obtain ⟨keptAgain, added⟩ := addSocket_spec (self.measured elapsed).removeSocket created
  rw [keptIndex, currentSocket_measured] at keptAgain
  rw [sockets_measured] at removed
  rw [keptMeter, removed] at added
  have nonempty := indexed.nonempty
  have current := indexed.current
  rw [RemovesFirst, Adds]
  have split : ((self.measured elapsed).removeSocket.addSocket created).1.Indexed ↔
      0 < ((self.measured elapsed).removeSocket.addSocket created).1.sockets.length ∧
        self.currentSocket <
          ((self.measured elapsed).removeSocket.addSocket created).1.sockets.length := by
    constructor
    · intro after
      have inside := after.current
      rw [keptAgain] at inside
      exact ⟨after.nonempty, inside⟩
    · rintro ⟨first, second⟩
      rw [← keptAgain] at second
      exact ⟨first, second⟩
  rw [split]
  clear split keptAgain removed
  by_cases adds : additionThreshold ≤ (self.measured elapsed).additionMeter ∧
      created.isSome = true
  · rw [if_pos adds] at added
    simp only [adds, and_self, implies_true, iff_true]
    split at added <;> omega
  · rw [if_neg adds] at added
    rw [← and_assoc]
    by_cases removes : removalThreshold ≤ (self.measured elapsed).removalMeter ∧
        1 < self.sockets.length
    · rw [if_pos removes] at added
      simp only [adds, removes, true_and, and_self, imp_false]
      omega
    · rw [if_neg removes] at added
      simp only [removes, false_and, false_imp_iff, iff_true]
      omega

theorem call_safe_iff (profile : Profile) (indexed : self.Indexed)
    (label : SocketsLabel Socket) :
    Safe (self.call profile label) ↔ KeepsCurrent profile (.ok self) label := by
  cases label with
  | retrieve =>
      obtain ⟨socket, _, retrieved⟩ := retrieve_of_indexed indexed
      have next := nextSocket_indexed indexed
      simp [call, retrieved, Except.map, Safe, KeepsCurrent, next]
  | update elapsed created =>
      rw [call, update, KeepsCurrent]
      by_cases overflow : profile = .overflowChecks ∧ self.updateOverflows elapsed = true
      · rw [if_pos overflow]
        simp [Except.map, Safe, overflow]
      · rw [if_neg overflow]
        by_cases zero : (self.countBatch (saturatingSub bufferTimeout elapsed)).earlyBatches = 0
        · rw [if_pos zero]
          rw [earlyBatches_countBatch_eq_zero_iff] at zero
          simp [Except.map, Safe, overflow, zero]
        · rw [if_neg zero]
          rw [earlyBatches_countBatch_eq_zero_iff, not_not] at zero
          simp only [Except.map, Safe, overflow, zero, false_or, true_and]
          exact updated_indexed_iff indexed

/-- An `update` that meets the condition and no overflow check leaves a current socket. -/
theorem update_of_keepsCurrent {profile : Profile} (indexed : self.Indexed)
    (keeps : KeepsCurrent profile (.ok self) (.update elapsed created))
    (unchecked : ¬ (profile = .overflowChecks ∧ self.updateOverflows elapsed = true)) :
    ∃ result, self.update profile elapsed created = .ok result ∧ result.1.Indexed := by
  have safe := (call_safe_iff profile indexed (.update elapsed created)).mpr keeps
  cases updated : self.update profile elapsed created with
  | ok result =>
      simp only [call, updated, Except.map, Safe] at safe
      exact ⟨result, rfl, safe⟩
  | error panic =>
      simp only [call, updated, Except.map, Safe] at safe
      rw [update, if_neg unchecked] at updated
      split at updated
      · cases updated
        cases safe
      · cases updated

theorem step_safe_iff (profile : Profile) (state : Except Panic (OutboundSockets Socket))
    (label : SocketsLabel Socket) (next : Except Panic (OutboundSockets Socket))
    (safe : Safe state) (stepped : (machine Socket profile).step state label = some next) :
    Safe next ↔ KeepsCurrent profile state label := by
  cases state with
  | ok sockets =>
      cases stepped
      exact call_safe_iff profile safe label
  | error panic => cases stepped

/-- For every sequence of calls: the pool always has a current socket, and no divisor is 0, exactly
when no `update` removes the first socket while the last one is current without adding one, and none
wraps the count of early batches. -/
theorem sockets_safe_iff (profile : Profile) (socket : Socket) {labels : List (SocketsLabel Socket)}
    {final : Except Panic (OutboundSockets Socket)}
    (ran : (machine Socket profile).run (.ok (new socket)) labels = some final) :
    (machine Socket profile).HoldsAlong Safe (.ok (new socket)) labels ↔
      (machine Socket profile).Guarded (KeepsCurrent profile) (.ok (new socket)) labels :=
  (machine Socket profile).holdsAlong_iff_guarded (step_safe_iff profile)
    ⟨Nat.one_pos, Nat.one_pos⟩ ran

/-- Fifty full windows, each of which is sent through the next socket, and a hundred idle ones. -/
def burst : List (SocketsLabel Nat) :=
  (List.replicate 50 [.update 0 (some 1), .retrieve]).flatten ++
    List.replicate 100 (.update 5 (some 2))

/-- The full windows of the burst and ten of the idle ones. -/
theorem sockets_safe_iff_burst :
    ∃ pool, (machine Nat .release).run (.ok (new 0)) (burst.take 110) = some (.ok pool) ∧
      pool.sockets = [0, 1] ∧
      ((machine Nat .release).HoldsAlong Safe (.ok (new 0)) (burst.take 110) ↔
        (machine Nat .release).Guarded (KeepsCurrent .release) (.ok (new 0))
          (burst.take 110)) := by
  have facts : ((machine Nat .release).run (.ok (new 0)) (burst.take 110)).map
      (Except.map sockets) = some (.ok [0, 1]) := by
    decide +kernel
  obtain ⟨state, ran, values⟩ := Option.map_eq_some_iff.mp facts
  cases state with
  | error panic => cases values
  | ok pool => exact ⟨pool, ran, Except.ok.inj values, sockets_safe_iff .release 0 ran⟩

/-- The burst adds a second socket, which becomes the current one; the idle windows remove the first
one.  The next packet stops the task. -/
theorem burst_panics :
    ∃ pool, (machine Nat .release).run (.ok (new 0)) burst = some (.ok pool) ∧
      pool.sockets.length = 1 ∧ pool.currentSocket = 1 ∧ ¬ pool.Indexed ∧
      pool.call .release .retrieve = .error .outOfBounds := by
  have facts : ((machine Nat .release).run (.ok (new 0)) burst).map (Except.map fun pool =>
      (pool.sockets, pool.currentSocket)) = some (.ok ([1], 1)) := by
    decide +kernel
  obtain ⟨state, ran, values⟩ := Option.map_eq_some_iff.mp facts
  cases state with
  | error panic => cases values
  | ok pool =>
      simp only [Except.map, Except.ok.injEq, Prod.mk.injEq] at values
      obtain ⟨sockets, current⟩ := values
      have one : pool.sockets.length = 1 := by rw [sockets]; rfl
      refine ⟨pool, ran, one, current, ?_, ?_⟩
      · intro indexed
        have inside := indexed.current
        omega
      · simp [call, retrieve, sockets, current, Except.map]

end OutboundSockets
end Ubass

import Mathlib.Data.List.Perm.Basic
import Ubass.Manager.Windows
import Ubass.Processor.WirePacket

/-!
# The tasks around the window of pending acknowledgements

`PendingAckWindow` keeps the packets in a map and their entries in a queue, each
behind a lock of its own.  The calls of `inner_add` and `acknowledge`, the prune task
and the sessions are interleaved at these locks.

An entry that `prune` retries goes back into the queue only if its session is
established; otherwise it is dropped, and its packet stays in the map.  In a run in
which no retry of a pending packet misses its session, every packet is resent until
its retries are over, and is then forgotten (`Released`).
-/

set_option autoImplicit false

namespace Ubass

/-- The entry that `prune` retries, the copy of its packet, and the address to send it to once that
has been read. -/
structure Retrying where
  entry : PendingAckQueueEntry
  packet : Packet
  address : Option SocketAddr

/-- The window, the sessions, the entries that an `inner_add` has not queued yet, and what `prune`
holds between its locks.  The last three fields are history: the fingerprints that have been added,
those that have been resent, once for each time, and those whose retries are over. -/
structure PendingTasks where
  window : PendingAckWindow
  connections : Table SessionId ConnectionStates
  adding : List PendingAckQueueEntry
  expired : List PacketFingerprint
  toRetry : List PendingAckQueueEntry
  retrying : Option Retrying
  asleep : Bool
  added : List PacketFingerprint
  resent : List PacketFingerprint
  spent : List PacketFingerprint

inductive PendingTaskLabel where
  | insert (packet : Packet) (now : Timestamp)
  /-- The `inner_add` of this number goes on. -/
  | pushBack (number : Nat)
  | acknowledge (fingerprint : PacketFingerprint)
  /-- A session appears, changes or disappears. -/
  | connect (sessionId : SessionId) (session : Option ConnectionStates)
  | popQueue (clock : Nat → Timestamp)
  | lookup
  | readAddress
  | requeue
  | removeExpired

namespace PendingAckQueueEntry

def resting (self : PendingAckQueueEntry) : PacketFingerprint × Nat :=
  (self.fingerprint, self.retries.toNat)

/-- An entry that has been popped: it has been counted for a retry that is still to come. -/
def popped (self : PendingAckQueueEntry) : PacketFingerprint × Nat :=
  (self.fingerprint, self.retries.toNat - 1)

def retired (fingerprint : PacketFingerprint) : PacketFingerprint × Nat :=
  (fingerprint, maxRetries.toNat)

def Resting (self : PendingAckQueueEntry) : Prop := self.retries.toNat ≤ maxRetries.toNat

def Popped (self : PendingAckQueueEntry) : Prop :=
  0 < self.retries.toNat ∧ self.retries.toNat ≤ maxRetries.toNat

theorem retried_fst {self : PendingAckQueueEntry} (resting : self.Resting) :
    self.retried.1.fingerprint = self.fingerprint ∧
      self.retried.1.retries.toNat = self.retries.toNat + 1 := by
  have small : maxRetries.toNat = 5 := rfl
  refine ⟨rfl, ?_⟩
  rw [Resting] at resting
  have sum : (self.retries + 1).toNat = (self.retries.toNat + 1) % 2 ^ 8 := UInt8.toNat_add _ _
  show (self.retries + 1).toNat = _
  omega

theorem retried_snd {self : PendingAckQueueEntry} (resting : self.Resting) :
    self.retried.2 = true ↔ self.retries.toNat = maxRetries.toNat := by
  have next := (retried_fst resting).2
  rw [Resting] at resting
  have spent : self.retried.2 = decide (maxRetries < self.retried.1.retries) := rfl
  rw [spent, decide_eq_true_eq, UInt8.lt_iff_toNat_lt, next]
  omega

end PendingAckQueueEntry

namespace PendingAckWindow

open PendingAckQueueEntry

theorem pruneQueue_spec (clock : Nat → Timestamp) {queue : List PendingAckQueueEntry}
    (all : ∀ entry ∈ queue, entry.Resting) :
    ((pruneQueue clock queue).1.map resting ++
        ((pruneQueue clock queue).2.2.map popped ++
          (pruneQueue clock queue).2.1.map retired)).Perm (queue.map resting) ∧
      (∀ entry ∈ (pruneQueue clock queue).1, entry.Resting) ∧
      ∀ entry ∈ (pruneQueue clock queue).2.2, entry.Popped := by
  induction queue generalizing clock with
  | nil => simp [pruneQueue]
  | cons entry rest ih =>
      obtain ⟨moved, stay, pop⟩ := ih (fun reading => clock (reading + 2))
        fun other listed => all other (List.mem_cons_of_mem _ listed)
      have bounded := all entry (by simp)
      obtain ⟨same, next⟩ := retried_fst bounded
      have spent := retried_snd bounded
      by_cases ready : entry.readyToRetry (clock 0) = true
      · by_cases exhausted : entry.retried.2 = true
        · have pruned : pruneQueue clock (entry :: rest) =
              ((pruneQueue (fun reading => clock (reading + 2)) rest).1,
                entry.fingerprint :: (pruneQueue (fun reading => clock (reading + 2)) rest).2.1,
                (pruneQueue (fun reading => clock (reading + 2)) rest).2.2) := by
            rw [pruneQueue, if_pos ready]
            simp only [exhausted, if_true, same]
          have isOver : retired entry.fingerprint = entry.resting := by
            rw [retired, resting, spent.mp exhausted]
          rw [pruned]
          refine ⟨?_, stay, pop⟩
          simp only [List.map_cons, isOver]
          refine List.Perm.trans ?_ (moved.cons entry.resting)
          rw [← List.append_assoc, ← List.append_assoc]
          exact List.perm_middle
        · have pruned : pruneQueue clock (entry :: rest) =
              ((pruneQueue (fun reading => clock (reading + 2)) rest).1,
                (pruneQueue (fun reading => clock (reading + 2)) rest).2.1,
                { entry.retried.1 with timestamp := clock 1 } ::
                  (pruneQueue (fun reading => clock (reading + 2)) rest).2.2) := by
            rw [pruneQueue, if_pos ready]
            simp only [exhausted, if_false, Bool.false_eq_true]
          have isPopped : popped { entry.retried.1 with timestamp := clock 1 } = entry.resting := by
            rw [popped, resting]
            simp only [same, next, Nat.add_sub_cancel]
          rw [pruned]
          refine ⟨?_, stay, ?_⟩
          · simp only [List.map_cons, isPopped, List.cons_append]
            exact List.perm_middle.trans (moved.cons entry.resting)
          · intro other listed
            rcases List.mem_cons.mp listed with rfl | later
            · rw [Resting] at bounded
              rw [spent] at exhausted
              simp only [Popped, next]
              omega
            · exact pop other later
      · rw [pruneQueue, if_neg ready]
        refine ⟨by simp, all, by simp⟩

end PendingAckWindow

namespace PendingTasks

def start : PendingTasks where
  window := PendingAckWindow.new
  connections := Table.empty
  adding := []
  expired := []
  toRetry := []
  retrying := none
  asleep := true
  added := []
  resent := []
  spent := []

/-- `inner_add`, under the lock of the map. -/
def insert (xxh3_128 : List UInt8 → PacketFingerprint) (self : PendingTasks) (packet : Packet)
    (now : Timestamp) : PendingTasks :=
  let fingerprint := packet.fingerprint xxh3_128
  { self with
    window := { self.window with
      pending := self.window.pending.insert fingerprint packet.markResend }
    adding := PendingAckQueueEntry.new fingerprint now :: self.adding
    added := fingerprint :: self.added }

/-- `inner_add`, under the lock of the queue. -/
def pushBack (self : PendingTasks) (number : Nat) (entry : PendingAckQueueEntry) : PendingTasks :=
  { self with
    window := { self.window with queue := self.window.queue ++ [entry] }
    adding := self.adding.eraseIdx number }

def connect (self : PendingTasks) (sessionId : SessionId) (session : Option ConnectionStates) :
    PendingTasks :=
  { self with
    connections :=
      match session with
      | some session => self.connections.insert sessionId session
      | none => self.connections.remove sessionId }

/-- `prune`, its loop under the lock of the queue. -/
def popQueue (self : PendingTasks) (clock : Nat → Timestamp) : PendingTasks :=
  let (queue, expired, toRetry) := PendingAckWindow.pruneQueue clock self.window.queue
  { self with
    window := { self.window with queue := queue }
    expired := expired
    toRetry := toRetry
    asleep := false
    spent := expired ++ self.spent }

/-- `prune`, the next entry to retry: it is dropped when its packet is no longer pending. -/
def lookup (self : PendingTasks) (entry : PendingAckQueueEntry)
    (rest : List PendingAckQueueEntry) : PendingTasks :=
  { self with
    toRetry := rest
    retrying := (self.window.pending.get entry.fingerprint).map fun packet =>
      ⟨entry, packet, none⟩ }

def establishedAddress (self : PendingTasks) (sessionId : SessionId) : Option SocketAddr :=
  match self.connections.get sessionId with
  | some (.established session) => some session.address
  | some (.handshake _ _ _) | none => none

/-- `prune`, under the lock of the connections: the entry is dropped when the session of its packet
is not established. -/
def readAddress (self : PendingTasks) (retrying : Retrying) : PendingTasks :=
  { self with
    retrying := (self.establishedAddress retrying.packet.sessionId).map fun address =>
      { retrying with address := some address } }

/-- `prune`, the entry goes back into the queue, and the packet to the processor. -/
def requeue (self : PendingTasks) (retrying : Retrying) : PendingTasks :=
  { self with
    window := { self.window with queue := self.window.queue ++ [retrying.entry] }
    retrying := none
    resent := retrying.entry.fingerprint :: self.resent }

/-- `prune`, at its end. -/
def removeExpired (self : PendingTasks) : PendingTasks :=
  { self with
    window := self.window.pruneRemove self.expired
    expired := []
    asleep := true }

/-- Packets of different fingerprints are added. -/
def machine (xxh3_128 : List UInt8 → PacketFingerprint) :
    Machine PendingTasks PendingTaskLabel where
  initial state := state = start
  step state
    | .insert packet now =>
        if packet.fingerprint xxh3_128 ∈ state.added then none
        else some (state.insert xxh3_128 packet now)
    | .pushBack number =>
        match state.adding[number]? with
        | some entry => some (state.pushBack number entry)
        | none => none
    | .acknowledge fingerprint =>
        some { state with window := state.window.acknowledge fingerprint }
    | .connect sessionId session => some (state.connect sessionId session)
    | .popQueue clock => if state.asleep then some (state.popQueue clock) else none
    | .lookup =>
        match state.retrying, state.toRetry with
        | none, entry :: rest => some (state.lookup entry rest)
        | _, _ => none
    | .readAddress =>
        match state.retrying with
        | some retrying =>
            if retrying.address = none then some (state.readAddress retrying) else none
        | none => none
    | .requeue =>
        match state.retrying with
        | some retrying => if retrying.address = none then none else some (state.requeue retrying)
        | none => none
    | .removeExpired =>
        if state.asleep = false ∧ state.toRetry = [] ∧ state.retrying.isNone then
          some state.removeExpired
        else none

/-! ## What every fingerprint is due -/

open PendingAckQueueEntry

/-- The fingerprints that some task or the queue has, each with how often it should have been
resent. -/
def due (self : PendingTasks) : List (PacketFingerprint × Nat) :=
  self.adding.map resting ++ (self.window.queue.map resting ++ (self.toRetry.map popped ++
    (self.retrying.toList.map (fun retrying => retrying.entry.popped) ++ self.expired.map retired)))

/-- What is due beside the entry that `prune` is retrying. -/
def dueBeside (self : PendingTasks) : List (PacketFingerprint × Nat) :=
  self.adding.map resting ++ (self.window.queue.map resting ++ (self.toRetry.map popped ++
    self.expired.map retired))

theorem due_of_none {self : PendingTasks} (between : self.retrying = none) :
    self.due = self.dueBeside := by
  rw [due, dueBeside, between]
  rfl

theorem due_of_some {self : PendingTasks} {retrying : Retrying}
    (current : self.retrying = some retrying) :
    (retrying.entry.popped :: self.dueBeside).Perm self.due := by
  have middle := @List.perm_middle _ retrying.entry.popped
    (self.adding.map resting ++ (self.window.queue.map resting ++ self.toRetry.map popped))
    (self.expired.map retired)
  simpa [due, dueBeside, current] using middle.symm

theorem dueBeside_toRetry {self : PendingTasks} {entry : PendingAckQueueEntry}
    {rest : List PendingAckQueueEntry} (toRetry : self.toRetry = entry :: rest) :
    (entry.popped :: { self with toRetry := rest }.dueBeside).Perm self.dueBeside := by
  have front := @List.perm_middle _ entry.popped
    (self.adding.map resting ++ self.window.queue.map resting)
    (rest.map popped ++ self.expired.map retired)
  simpa [dueBeside, toRetry] using front.symm

theorem dueBeside_requeue (self : PendingTasks) (retrying : Retrying) :
    (retrying.entry.resting :: self.dueBeside).Perm (self.requeue retrying).dueBeside := by
  have middle := @List.perm_middle _ retrying.entry.resting
    (self.adding.map resting ++ self.window.queue.map resting)
    (self.toRetry.map popped ++ self.expired.map retired)
  simpa [dueBeside, requeue] using middle.symm

/-- A list of due fingerprints accounts for the map and for what has been resent. -/
structure Accounts (due : List (PacketFingerprint × Nat)) (pending : Table PacketFingerprint Packet)
    (added resent : List PacketFingerprint) : Prop where
  once : (due.map Prod.fst).Nodup
  counted : ∀ item ∈ due, resent.count item.1 = item.2
  known : ∀ item ∈ due, item.1 ∈ added
  tracked : ∀ fingerprint, pending.contains fingerprint = true → fingerprint ∈ due.map Prod.fst

namespace Accounts

variable {due other : List (PacketFingerprint × Nat)} {pending : Table PacketFingerprint Packet}
  {added resent : List PacketFingerprint}

theorem perm (accounts : Accounts due pending added resent) (moved : other.Perm due) :
    Accounts other pending added resent where
  once := (moved.map Prod.fst).nodup_iff.mpr accounts.once
  counted item listed := accounts.counted item (moved.mem_iff.mp listed)
  known item listed := accounts.known item (moved.mem_iff.mp listed)
  tracked fingerprint found := (moved.map Prod.fst).mem_iff.mpr (accounts.tracked fingerprint found)

theorem drop {item : PacketFingerprint × Nat} {rest : List (PacketFingerprint × Nat)}
    (accounts : Accounts due pending added resent) (split : (item :: rest).Perm due)
    (gone : pending.contains item.1 = false) : Accounts rest pending added resent := by
  obtain ⟨once, counted, known, tracked⟩ := accounts.perm split
  rw [List.map_cons, List.nodup_cons] at once
  constructor
  · exact once.2
  · intro other listed
    exact counted other (List.mem_cons_of_mem _ listed)
  · intro other listed
    exact known other (List.mem_cons_of_mem _ listed)
  · intro fingerprint found
    rcases List.mem_cons.mp (tracked fingerprint found) with rfl | later
    · rw [gone] at found
      cases found
    · exact later

theorem resend {fingerprint : PacketFingerprint} {times : Nat}
    {rest : List (PacketFingerprint × Nat)}
    (accounts : Accounts due pending added resent) (split : ((fingerprint, times) :: rest).Perm due)
    (moved : ((fingerprint, times + 1) :: rest).Perm other) :
    Accounts other pending added (fingerprint :: resent) := by
  obtain ⟨once, counted, known, tracked⟩ := accounts.perm split
  apply Accounts.perm ?_ moved.symm
  have apart := (List.nodup_cons.mp once).1
  have here := counted (fingerprint, times) (by simp)
  constructor
  · exact once
  · intro item listed
    rcases List.mem_cons.mp listed with rfl | later
    · simpa using here
    · have different : fingerprint ≠ item.1 := by
        rintro rfl
        exact apart (List.mem_map.mpr ⟨item, later, rfl⟩)
      rw [List.count_cons_of_ne different]
      exact counted item (List.mem_cons_of_mem _ later)
  · intro item listed
    rcases List.mem_cons.mp listed with rfl | later
    · exact known (fingerprint, times) (by simp)
    · exact known item (List.mem_cons_of_mem _ later)
  · exact tracked

end Accounts

/-- What holds between two steps of a run in which no pending packet misses its session. -/
structure Kept (state : PendingTasks) : Prop where
  accounts : Accounts state.due state.window.pending state.added state.resent
  resting : ∀ entry ∈ state.adding ++ state.window.queue, entry.Resting
  popped : ∀ entry ∈ state.toRetry ++ state.retrying.toList.map Retrying.entry, entry.Popped
  atMost : ∀ fingerprint, state.resent.count fingerprint ≤ maxRetries.toNat
  fresh : ∀ fingerprint, fingerprint ∉ state.added → state.resent.count fingerprint = 0
  spent : ∀ fingerprint ∈ state.spent, fingerprint ∈ state.added ∧
    state.resent.count fingerprint = maxRetries.toNat ∧
    (fingerprint ∈ state.due.map Prod.fst → fingerprint ∈ state.expired)
  idle : state.asleep = true → state.toRetry = [] ∧ state.retrying = none ∧ state.expired = []

theorem start_kept : start.Kept where
  accounts := ⟨List.nodup_nil, by simp [due, start, PendingAckWindow.new],
    by simp [due, start, PendingAckWindow.new], by simp [start, PendingAckWindow.new, Table.contains]⟩
  resting := by simp [start, PendingAckWindow.new]
  popped := by simp [start]
  atMost := by simp [start]
  fresh := by simp [start]
  spent := by simp [start]
  idle _ := ⟨rfl, rfl, rfl⟩

variable {xxh3_128 : List UInt8 → PacketFingerprint} {state next : PendingTasks}

theorem insert_kept (kept : state.Kept) {packet : Packet} (now : Timestamp)
    (new : packet.fingerprint xxh3_128 ∉ state.added) :
    (state.insert xxh3_128 packet now).Kept := by
  have due : (state.insert xxh3_128 packet now).due =
      (packet.fingerprint xxh3_128, 0) :: state.due := rfl
  have absent : packet.fingerprint xxh3_128 ∉ state.due.map Prod.fst := by
    intro listed
    obtain ⟨item, held, same⟩ := List.mem_map.mp listed
    exact new (same ▸ kept.accounts.known item held)
  constructor
  · rw [due]
    constructor
    · exact List.nodup_cons.mpr ⟨absent, kept.accounts.once⟩
    · intro item listed
      rcases List.mem_cons.mp listed with rfl | held
      · exact kept.fresh _ new
      · exact kept.accounts.counted item held
    · intro item listed
      rcases List.mem_cons.mp listed with rfl | held
      · exact List.mem_cons_self
      · exact List.mem_cons_of_mem _ (kept.accounts.known item held)
    · intro fingerprint found
      rcases (Table.contains_insert _ _ _ _).mp found with rfl | before
      · exact List.mem_cons_self
      · exact List.mem_cons_of_mem _ (kept.accounts.tracked fingerprint before)
  · intro entry listed
    rcases List.mem_cons.mp listed with rfl | held
    · exact Nat.zero_le _
    · exact kept.resting entry held
  · exact kept.popped
  · exact kept.atMost
  · intro fingerprint unknown
    exact kept.fresh fingerprint fun known => unknown (List.mem_cons_of_mem _ known)
  · intro fingerprint listed
    obtain ⟨known, counted, held⟩ := kept.spent fingerprint listed
    refine ⟨List.mem_cons_of_mem _ known, counted, ?_⟩
    intro again
    rw [due] at again
    rcases List.mem_cons.mp again with rfl | before
    · exact absurd known new
    · exact held before
  · exact kept.idle

/-- A step that only moves entries between the lists, or takes some of them out, keeps what is known
of the fingerprints whose retries are over. -/
theorem Kept.spent_of_subset (kept : state.Kept) (subset : next.due ⊆ state.due)
    (spent : next.spent = state.spent) (added : next.added = state.added)
    (resent : next.resent = state.resent) (expired : next.expired = state.expired) :
    ∀ fingerprint ∈ next.spent, fingerprint ∈ next.added ∧
      next.resent.count fingerprint = maxRetries.toNat ∧
      (fingerprint ∈ next.due.map Prod.fst → fingerprint ∈ next.expired) := by
  intro fingerprint listed
  rw [spent] at listed
  obtain ⟨known, counted, held⟩ := kept.spent fingerprint listed
  rw [added, resent, expired]
  exact ⟨known, counted, fun again => held (List.map_subset _ subset again)⟩

theorem Kept.awake (kept : state.Kept) {retrying : Retrying}
    (current : state.retrying = some retrying) : state.asleep ≠ true := by
  intro asleep
  rw [(kept.idle asleep).2.1] at current
  cases current

theorem pushBack_kept (kept : state.Kept) {number : Nat} {entry : PendingAckQueueEntry}
    (found : state.adding[number]? = some entry) : (state.pushBack number entry).Kept := by
  obtain ⟨inside, here⟩ := List.getElem?_eq_some_iff.mp found
  have taken : (entry :: state.adding.eraseIdx number).Perm state.adding :=
    here ▸ List.getElem_cons_eraseIdx_perm inside
  have moved : ((state.adding.eraseIdx number) ++ (state.window.queue ++ [entry])).Perm
      (state.adding ++ state.window.queue) := by
    rw [← List.append_assoc]
    exact (List.perm_append_singleton _ _).trans (taken.append_right _)
  have due : (state.pushBack number entry).due.Perm state.due := by
    have front := (moved.map PendingAckQueueEntry.resting).append_right
      (state.toRetry.map PendingAckQueueEntry.popped ++
        (state.retrying.toList.map (fun retrying => retrying.entry.popped) ++
          state.expired.map retired))
    simpa only [PendingTasks.due, pushBack, List.map_append, List.append_assoc] using front
  constructor
  · exact kept.accounts.perm due
  · intro other listed
    exact kept.resting other (moved.mem_iff.mp listed)
  · exact kept.popped
  · exact kept.atMost
  · exact kept.fresh
  · exact kept.spent_of_subset due.subset rfl rfl rfl rfl
  · exact kept.idle

theorem popQueue_kept (kept : state.Kept) (clock : Nat → Timestamp)
    (asleep : state.asleep = true) : (state.popQueue clock).Kept := by
  obtain ⟨noRetry, notRetrying, noneExpired⟩ := kept.idle asleep
  have queued : ∀ entry ∈ state.window.queue, entry.Resting := fun entry listed =>
    kept.resting entry (List.mem_append_right _ listed)
  obtain ⟨moved, stay, pop⟩ := PendingAckWindow.pruneQueue_spec clock queued
  have due : (state.popQueue clock).due.Perm state.due := by
    have front := moved.append_left (state.adding.map PendingAckQueueEntry.resting)
    simpa [PendingTasks.due, popQueue, noRetry, notRetrying, noneExpired] using front
  have accounts := kept.accounts.perm due
  constructor
  · exact accounts
  · intro entry listed
    rcases List.mem_append.mp listed with adding | queued
    · exact kept.resting entry (List.mem_append_left _ adding)
    · exact stay entry queued
  · simpa [popQueue, notRetrying] using pop
  · exact kept.atMost
  · exact kept.fresh
  · intro fingerprint listed
    rcases List.mem_append.mp listed with now | before
    · have isDue : retired fingerprint ∈ (state.popQueue clock).due := by
        simp only [PendingTasks.due, List.mem_append]
        exact Or.inr (Or.inr (Or.inr (Or.inr (List.mem_map_of_mem now))))
      exact ⟨accounts.known _ isDue, accounts.counted _ isDue, fun _ => now⟩
    · obtain ⟨known, counted, held⟩ := kept.spent fingerprint before
      refine ⟨known, counted, ?_⟩
      intro again
      have gone := held ((due.map Prod.fst).mem_iff.mp again)
      rw [noneExpired] at gone
      cases gone
  · intro impossible
    cases impossible

theorem lookup_kept (kept : state.Kept) {entry : PendingAckQueueEntry}
    {rest : List PendingAckQueueEntry} (between : state.retrying = none)
    (toRetry : state.toRetry = entry :: rest) : (state.lookup entry rest).Kept := by
  have awake : state.asleep ≠ true := by
    intro asleep
    rw [(kept.idle asleep).1] at toRetry
    cases toRetry
  have pops := kept.popped
  rw [toRetry, between] at pops
  have split : (entry.popped :: (state.lookup entry rest).dueBeside).Perm state.due := by
    rw [due_of_none between]
    exact dueBeside_toRetry toRetry
  cases found : state.window.pending.get entry.fingerprint with
  | some packet =>
      have current : (state.lookup entry rest).retrying = some ⟨entry, packet, none⟩ := by
        rw [lookup, found]
        rfl
      have due : (state.lookup entry rest).due.Perm state.due :=
        (due_of_some current).symm.trans split
      constructor
      · exact kept.accounts.perm due
      · exact kept.resting
      · intro other listed
        rcases List.mem_append.mp listed with later | now
        · exact pops other (List.mem_append_left _ (List.mem_cons_of_mem _ later))
        · rw [current] at now
          cases List.mem_singleton.mp now
          exact pops entry (List.mem_append_left _ List.mem_cons_self)
      · exact kept.atMost
      · exact kept.fresh
      · exact kept.spent_of_subset due.subset rfl rfl rfl rfl
      · intro asleep
        exact absurd asleep awake
  | none =>
      have dropped : (state.lookup entry rest).retrying = none := by
        rw [lookup, found]
        rfl
      have due := due_of_none dropped
      have gone : state.window.pending.contains entry.fingerprint = false := by
        rw [Table.contains, found]
        rfl
      constructor
      · rw [due]
        exact kept.accounts.drop split gone
      · exact kept.resting
      · intro other listed
        rw [dropped, Option.toList_none, List.map_nil, List.append_nil] at listed
        exact pops other (List.mem_append_left _ (List.mem_cons_of_mem _ listed))
      · exact kept.atMost
      · exact kept.fresh
      · have subset : (state.lookup entry rest).due ⊆ state.due := by
          rw [due]
          exact List.Subset.trans (List.subset_cons_self _ _) split.subset
        exact kept.spent_of_subset subset rfl rfl rfl rfl
      · intro asleep
        exact absurd asleep awake

/-- The session of a packet that is still pending is established when `prune` looks for it. -/
def SessionFound (state : PendingTasks) : PendingTaskLabel → Prop
  | .readAddress => ∀ retrying, state.retrying = some retrying →
      state.window.pending.contains retrying.entry.fingerprint = true →
        state.establishedAddress retrying.packet.sessionId ≠ none
  | _ => True

theorem readAddress_kept (kept : state.Kept) {retrying : Retrying}
    (current : state.retrying = some retrying)
    (found : state.window.pending.contains retrying.entry.fingerprint = true →
      state.establishedAddress retrying.packet.sessionId ≠ none) :
    (state.readAddress retrying).Kept := by
  have awake := kept.awake current
  have pops := kept.popped
  rw [current] at pops
  cases address : state.establishedAddress retrying.packet.sessionId with
  | some address =>
      have due : (state.readAddress retrying).due = state.due := by
        simp [PendingTasks.due, readAddress, address, current]
      constructor
      · rw [due]
        exact kept.accounts
      · exact kept.resting
      · simpa [readAddress, address] using pops
      · exact kept.atMost
      · exact kept.fresh
      · have subset : (state.readAddress retrying).due ⊆ state.due := by
          rw [due]
          exact List.Subset.refl _
        exact kept.spent_of_subset subset rfl rfl rfl rfl
      · intro asleep
        exact absurd asleep awake
  | none =>
      have dropped : (state.readAddress retrying).retrying = none := by
        rw [readAddress, address]
        rfl
      have split : (retrying.entry.popped :: (state.readAddress retrying).due).Perm state.due := by
        rw [due_of_none dropped]
        exact due_of_some current
      have gone : state.window.pending.contains retrying.entry.fingerprint = false := by
        rw [Bool.eq_false_iff]
        intro pending
        exact found pending address
      constructor
      · exact kept.accounts.drop split gone
      · exact kept.resting
      · intro other listed
        rw [dropped, Option.toList_none, List.map_nil, List.append_nil] at listed
        exact pops other (List.mem_append_left _ listed)
      · exact kept.atMost
      · exact kept.fresh
      · have subset : (state.readAddress retrying).due ⊆ state.due :=
          List.Subset.trans (List.subset_cons_self _ _) split.subset
        exact kept.spent_of_subset subset rfl rfl rfl rfl
      · intro asleep
        exact absurd asleep awake

theorem requeue_kept (kept : state.Kept) {retrying : Retrying}
    (current : state.retrying = some retrying) : (state.requeue retrying).Kept := by
  have awake := kept.awake current
  have pops := kept.popped
  rw [current] at pops
  obtain ⟨positive, bounded⟩ := pops retrying.entry (by simp)
  have split := due_of_some current
  have rests : retrying.entry.resting =
      (retrying.entry.fingerprint, retrying.entry.retries.toNat - 1 + 1) := by
    rw [PendingAckQueueEntry.resting, Nat.sub_add_cancel positive]
  have moved : ((retrying.entry.fingerprint, retrying.entry.retries.toNat - 1 + 1) ::
      state.dueBeside).Perm (state.requeue retrying).due := by
    rw [due_of_none rfl, ← rests]
    exact dueBeside_requeue state retrying
  have before := kept.accounts.perm split
  have here : state.resent.count retrying.entry.fingerprint = retrying.entry.retries.toNat - 1 :=
    before.counted retrying.entry.popped (by simp)
  have apart := (List.nodup_cons.mp before.once).1
  constructor
  · exact kept.accounts.resend split moved
  · intro entry listed
    rw [requeue, ← List.append_assoc] at listed
    rcases List.mem_append.mp listed with earlier | last
    · exact kept.resting entry earlier
    · cases List.mem_singleton.mp last
      exact bounded
  · intro other listed
    simp only [requeue, Option.toList_none, List.map_nil, List.append_nil] at listed
    exact pops other (List.mem_append_left _ listed)
  · intro fingerprint
    have most := kept.atMost fingerprint
    by_cases same : retrying.entry.fingerprint = fingerprint
    · subst same
      simp only [requeue, List.count_cons_self, here]
      omega
    · simpa only [requeue, List.count_cons_of_ne same] using most
  · intro fingerprint unknown
    have different : retrying.entry.fingerprint ≠ fingerprint := by
      rintro rfl
      exact unknown (before.known retrying.entry.popped (by simp))
    simpa only [requeue, List.count_cons_of_ne different] using kept.fresh fingerprint unknown
  · intro fingerprint listed
    obtain ⟨known, counted, held⟩ := kept.spent fingerprint listed
    have different : retrying.entry.fingerprint ≠ fingerprint := by
      rintro rfl
      -- it would be both retried and expired
      have isDue : retrying.entry.fingerprint ∈ state.due.map Prod.fst :=
        (split.map Prod.fst).mem_iff.mp (by simp [PendingAckQueueEntry.popped])
      apply apart
      have expired := held isDue
      simp only [dueBeside, List.map_append, List.map_map, List.mem_append]
      exact Or.inr (Or.inr (Or.inr (List.mem_map.mpr ⟨_, expired, rfl⟩)))
    refine ⟨known, ?_, ?_⟩
    · simpa only [requeue, List.count_cons_of_ne different] using counted
    · intro again
      have isDue := (moved.map Prod.fst).mem_iff.mpr again
      rcases List.mem_cons.mp isDue with same | other
      · exact absurd same.symm different
      · exact held ((split.map Prod.fst).mem_iff.mp (List.mem_cons_of_mem _ other))
  · intro asleep
    exact absurd asleep awake

theorem removeExpired_kept (kept : state.Kept) (toRetry : state.toRetry = [])
    (retrying : state.retrying = none) : state.removeExpired.Kept := by
  have due : state.due = state.removeExpired.due ++ state.expired.map retired := by
    simp [PendingTasks.due, removeExpired, PendingAckWindow.pruneRemove]
  have accounts := kept.accounts
  rw [due] at accounts
  obtain ⟨once, counted, known, tracked⟩ := accounts
  rw [List.map_append, List.nodup_append] at once
  have names : (state.expired.map retired).map Prod.fst = state.expired := by
    simp [retired, Function.comp_def]
  have contained : ∀ fingerprint, state.removeExpired.window.pending.contains fingerprint = true →
      fingerprint ∉ state.expired ∧ state.window.pending.contains fingerprint = true := by
    intro fingerprint found
    simp only [removeExpired, PendingAckWindow.pruneRemove, Table.contains,
      Table.get_removeAll] at found
    split at found
    · cases found
    · rename_i stays
      exact ⟨stays, found⟩
  constructor
  · constructor
    · exact once.1
    · intro item listed
      exact counted item (List.mem_append_left _ listed)
    · intro item listed
      exact known item (List.mem_append_left _ listed)
    · intro fingerprint found
      obtain ⟨stays, before⟩ := contained fingerprint found
      have listed := tracked fingerprint before
      rw [List.map_append, names] at listed
      exact (List.mem_append.mp listed).resolve_right stays
  · exact kept.resting
  · exact kept.popped
  · exact kept.atMost
  · exact kept.fresh
  · intro fingerprint listed
    obtain ⟨isKnown, isCounted, held⟩ := kept.spent fingerprint listed
    refine ⟨isKnown, isCounted, ?_⟩
    intro again
    have expired := held (by rw [due, List.map_append]; exact List.mem_append_left _ again)
    exact absurd rfl (once.2.2 fingerprint again fingerprint (by rw [names]; exact expired))
  · intro _
    exact ⟨toRetry, retrying, rfl⟩

theorem step_kept (state : PendingTasks) (label : PendingTaskLabel) (next : PendingTasks)
    (kept : state.Kept) (guarded : SessionFound state label)
    (stepped : (machine xxh3_128).step state label = some next) : next.Kept := by
  cases label with
  | insert packet now =>
      simp only [machine, Option.ite_none_left_eq_some, Option.some.injEq] at stepped
      obtain ⟨new, rfl⟩ := stepped
      exact insert_kept kept now new
  | pushBack number =>
      simp only [machine] at stepped
      split at stepped
      · cases stepped
        exact pushBack_kept kept ‹_›
      · cases stepped
  | acknowledge fingerprint =>
      cases stepped
      obtain ⟨once, counted, known, tracked⟩ := kept.accounts
      refine ⟨⟨once, counted, known, ?_⟩, kept.resting, kept.popped, kept.atMost, kept.fresh,
        kept.spent, kept.idle⟩
      intro other found
      exact tracked other ((Table.contains_remove _ _ _).mp found).2
  | connect sessionId session =>
      cases stepped
      exact ⟨kept.accounts, kept.resting, kept.popped, kept.atMost, kept.fresh, kept.spent,
        kept.idle⟩
  | popQueue clock =>
      simp only [machine, Option.ite_none_right_eq_some, Option.some.injEq] at stepped
      obtain ⟨asleep, rfl⟩ := stepped
      exact popQueue_kept kept clock asleep
  | lookup =>
      simp only [machine] at stepped
      split at stepped
      · cases stepped
        exact lookup_kept kept ‹_› ‹_›
      · cases stepped
  | readAddress =>
      simp only [machine] at stepped
      split at stepped
      · rename_i retrying current
        simp only [Option.ite_none_right_eq_some, Option.some.injEq] at stepped
        obtain ⟨_, rfl⟩ := stepped
        exact readAddress_kept kept current (guarded retrying current)
      · cases stepped
  | requeue =>
      simp only [machine] at stepped
      split at stepped
      · simp only [Option.ite_none_left_eq_some, Option.some.injEq] at stepped
        obtain ⟨_, rfl⟩ := stepped
        exact requeue_kept kept ‹_›
      · cases stepped
  | removeExpired =>
      simp only [machine, Option.ite_none_right_eq_some, Option.some.injEq] at stepped
      obtain ⟨⟨_, toRetry, retrying⟩, rfl⟩ := stepped
      exact removeExpired_kept kept toRetry (Option.isNone_iff_eq_none.mp retrying)

/-! ## Between two passes -/

/-- What is promised of the window while `prune` sleeps: a pending packet has one entry in the
queue, unless its `inner_add` has not queued it yet; the entry counts how often it has been resent;
nothing is resent too often, and what has been found too old after the last retry is forgotten. -/
structure Released (state : PendingTasks) : Prop where
  queued : ∀ fingerprint, state.window.pending.contains fingerprint = true →
    fingerprint ∉ state.adding.map PendingAckQueueEntry.fingerprint →
      (state.window.queue.map PendingAckQueueEntry.fingerprint).count fingerprint = 1
  counted : ∀ entry ∈ state.window.queue,
    state.resent.count entry.fingerprint = entry.retries.toNat
  atMost : ∀ fingerprint, state.resent.count fingerprint ≤ maxRetries.toNat
  forgotten : ∀ fingerprint ∈ state.spent,
    state.resent.count fingerprint = maxRetries.toNat ∧
      state.window.pending.contains fingerprint = false

theorem Kept.released (kept : state.Kept) (asleep : state.asleep = true) : state.Released := by
  obtain ⟨noRetry, notRetrying, noneExpired⟩ := kept.idle asleep
  have due : state.due.map Prod.fst =
      state.adding.map PendingAckQueueEntry.fingerprint ++
        state.window.queue.map PendingAckQueueEntry.fingerprint := by
    simp [PendingTasks.due, noRetry, notRetrying, noneExpired, Function.comp_def,
      PendingAckQueueEntry.resting]
  have once := kept.accounts.once
  rw [due, List.nodup_append] at once
  constructor
  · intro fingerprint pending notAdding
    have listed := kept.accounts.tracked fingerprint pending
    rw [due] at listed
    exact List.count_eq_one_of_mem once.2.1 ((List.mem_append.mp listed).resolve_left notAdding)
  · intro entry queued
    exact kept.accounts.counted entry.resting (by
      simp only [PendingTasks.due, List.mem_append]
      exact Or.inr (Or.inl (List.mem_map_of_mem queued)))
  · exact kept.atMost
  · intro fingerprint listed
    obtain ⟨_, counted, held⟩ := kept.spent fingerprint listed
    refine ⟨counted, ?_⟩
    rw [Bool.eq_false_iff]
    intro pending
    have gone := held (kept.accounts.tracked fingerprint pending)
    rw [noneExpired] at gone
    cases gone

/-- In every run in which each retry of a packet that is still pending finds its session
established, whenever `prune` sleeps, every pending packet has its one entry in the queue, none has
been resent more than `MAX_RETRIES` times, and what was retried so often is forgotten. -/
theorem pending_released (xxh3_128 : List UInt8 → PacketFingerprint)
    {labels : List PendingTaskLabel} {state : PendingTasks}
    (guarded : (machine xxh3_128).Guarded SessionFound start labels)
    (ran : (machine xxh3_128).run start labels = some state) (asleep : state.asleep = true) :
    state.Released :=
  ((machine xxh3_128).guarded_run_preserves step_kept start_kept guarded ran).released asleep

def pausing : Packet :=
  .playbackControl (PlaybackControlPacket.new Options.none ⟨1⟩ .pause none (atMillisecond 0))

/-- The hash of its headers. -/
def pausingHash : List UInt8 :=
  [161, 71, 241, 224, 66, 137, 180, 59, 57, 252, 241, 13, 127, 41, 181, 189]

theorem length_pausingHash : pausingHash.length = 16 := rfl

def pausingXxh3 (_ : List UInt8) : PacketFingerprint := ⟨pausingHash, length_pausingHash⟩

def pausedSession : ConnectionStates :=
  .established ⟨⟨1⟩, .up, ⟨[127, 0, 0, 1], 6969⟩, ⟨[]⟩⟩

def pausingAdded : List PendingTaskLabel :=
  [.connect ⟨1⟩ (some pausedSession), .insert pausing (atMillisecond 0), .pushBack 0]

def pausingRetried : List PendingTaskLabel :=
  pausingAdded ++
    [.popQueue fun _ => atMillisecond 501, .lookup, .readAddress, .requeue, .removeExpired]

theorem pending_released_pausing :
    ∃ state, (machine pausingXxh3).run start pausingRetried = some state ∧
      state.resent.length = 1 ∧ state.Released := by
  have facts : ((machine pausingXxh3).run start pausingRetried).map (fun state =>
      (state.asleep, state.resent.length)) = some (true, 1) := by
    decide +kernel
  obtain ⟨state, ran, values⟩ := Option.map_eq_some_iff.mp facts
  obtain ⟨asleep, resent⟩ := Prod.mk.inj values
  refine ⟨state, ran, resent, pending_released pausingXxh3 ?_ ran asleep⟩
  refine (machine _).guarded_cons trivial rfl ((machine _).guarded_cons trivial rfl
    ((machine _).guarded_cons trivial rfl ((machine _).guarded_cons trivial rfl
      ((machine _).guarded_cons trivial rfl ((machine _).guarded_cons ?_ rfl
        ((machine _).guarded_cons trivial rfl ((machine _).guarded_cons trivial rfl trivial)))))))
  -- the session of the packet is established when `prune` reads its address
  intro retrying current _
  cases current
  exact Option.some_ne_none _

/-- The session has been removed when the packet is to be sent again: the packet stays pending
without an entry in the queue. -/
theorem pausing_stuck :
    ∃ state, (machine pausingXxh3).run start (pausingAdded ++ [.connect ⟨1⟩ none,
        .popQueue fun _ => atMillisecond 501, .lookup, .readAddress, .removeExpired]) =
          some state ∧
      state.asleep = true ∧
      state.window.pending.contains (pausing.fingerprint pausingXxh3) = true ∧
      state.window.queue.length = 0 ∧ state.adding.length = 0 ∧
      state.resent.length = 0 ∧ ¬ state.Released := by
  have facts : ((machine pausingXxh3).run start (pausingAdded ++ [.connect ⟨1⟩ none,
      .popQueue fun _ => atMillisecond 501, .lookup, .readAddress, .removeExpired])).map
        (fun state => (state.asleep,
          state.window.pending.contains (pausing.fingerprint pausingXxh3),
          state.window.queue.length, state.adding.length, state.resent.length)) =
      some (true, true, 0, 0, 0) := by
    decide +kernel
  obtain ⟨state, ran, values⟩ := Option.map_eq_some_iff.mp facts
  simp only [Prod.mk.injEq] at values
  obtain ⟨asleep, pending, queue, adding, resent⟩ := values
  refine ⟨state, ran, asleep, pending, queue, adding, resent, ?_⟩
  intro released
  have one := released.queued _ pending (by
    rw [List.length_eq_zero_iff.mp adding]
    exact List.not_mem_nil)
  rw [List.length_eq_zero_iff.mp queue] at one
  cases one

end PendingTasks
end Ubass

import Ubass.Fingerprint
import Ubass.Lib.Machine
import Ubass.Lib.Table
import Ubass.Manager.Receive

/-!
# Fingerprint windows

`FingerprintWindow`, by which a receiver drops a packet that has arrived before,
and `PendingAckWindow`, which keeps a packet until its acknowledgement comes.
Both file packets under their fingerprint.  Their operations are steps of tasks
that take one lock at a time, so the lookup and the insertion of
`dedup_with_payload` are two steps.

Packets are kept apart by both windows exactly when no two of them agree on all
fields but the payload.
-/

set_option autoImplicit false

namespace Ubass

/-- `PacketFingerprint::try_from` -/
def Packet.fingerprint (xxh3_128 : List UInt8 → PacketFingerprint) (self : Packet) :
    PacketFingerprint :=
  xxh3_128 self.headers

/-- `PRUNE_INTERVAL` -/
def windowPruneInterval : Nat := packetDiscardTimeMs

/-! ## FingerprintWindow -/

structure FingerprintWindow where
  fingerprints : Table PacketFingerprint Unit
  queue : List (Timestamp × PacketFingerprint)

namespace FingerprintWindow

def new : FingerprintWindow := ⟨Table.empty, []⟩

def contains (self : FingerprintWindow) (fingerprint : PacketFingerprint) : Bool :=
  self.fingerprints.contains fingerprint

/-- `add`; the result is false when the fingerprint was already there. -/
def add (self : FingerprintWindow) (fingerprint : PacketFingerprint) (now : Timestamp) :
    FingerprintWindow × Bool :=
  if self.contains fingerprint then
    (self, false)
  else
    (⟨self.fingerprints.insert fingerprint (), self.queue ++ [(now, fingerprint)]⟩, true)

/-- `prune`, under the lock of the queue: what has waited too long leaves the queue. -/
def pruneQueue (self : FingerprintWindow) (now : Timestamp) :
    FingerprintWindow × List PacketFingerprint :=
  let expired (entry : Timestamp × PacketFingerprint) :=
    entry.1.beenLongerThan now windowPruneInterval
  ({ self with queue := self.queue.dropWhile expired },
    (self.queue.takeWhile expired).map Prod.snd)

/-- `prune`, under the lock of the set. -/
def pruneRemove (self : FingerprintWindow) (expired : List PacketFingerprint) :
    FingerprintWindow :=
  { self with fingerprints := self.fingerprints.removeAll expired }

theorem contains_add {self : FingerprintWindow} {fingerprint other : PacketFingerprint}
    {now : Timestamp} :
    (self.add fingerprint now).1.contains other = true ↔
      other = fingerprint ∨ self.contains other = true := by
  rw [add]
  split
  · rename_i present
    constructor
    · exact Or.inr
    · rintro (rfl | found)
      · exact present
      · exact found
  · exact Table.contains_insert self.fingerprints fingerprint other ()

theorem contains_pruneRemove {self : FingerprintWindow} {expired : List PacketFingerprint}
    {fingerprint : PacketFingerprint} (kept : fingerprint ∉ expired) :
    (self.pruneRemove expired).contains fingerprint = self.contains fingerprint := by
  simp only [contains, pruneRemove, Table.contains, Table.get_removeAll, if_neg kept]

theorem contains_of_pruneRemove {self : FingerprintWindow} {expired : List PacketFingerprint}
    {fingerprint : PacketFingerprint}
    (found : (self.pruneRemove expired).contains fingerprint = true) :
    self.contains fingerprint = true := by
  simp only [contains, pruneRemove, Table.contains, Table.get_removeAll] at found
  split at found
  · cases found
  · exact found

end FingerprintWindow

/-! ## PendingAckWindow -/

structure PendingAckQueueEntry where
  timestamp : Timestamp
  fingerprint : PacketFingerprint
  retries : UInt8

namespace PendingAckQueueEntry

def maxRetries : UInt8 := 5

def new (fingerprint : PacketFingerprint) (now : Timestamp) : PendingAckQueueEntry :=
  ⟨now, fingerprint, 0⟩

def retried (self : PendingAckQueueEntry) : PendingAckQueueEntry × Bool :=
  ({ self with retries := self.retries + 1 }, maxRetries < self.retries + 1)

def readyToRetry (self : PendingAckQueueEntry) (now : Timestamp) : Bool :=
  self.timestamp.beenLongerThan now windowPruneInterval

end PendingAckQueueEntry

structure PendingAckWindow where
  pending : Table PacketFingerprint Packet
  queue : List PendingAckQueueEntry

namespace PendingAckWindow

def new : PendingAckWindow := ⟨Table.empty, []⟩

/-- `inner_add`: the packet is kept as it will be sent again, under the fingerprint it has now. -/
def innerAdd (xxh3_128 : List UInt8 → PacketFingerprint) (self : PendingAckWindow)
    (packet : Packet) (now : Timestamp) : PendingAckWindow where
  pending := self.pending.insert (packet.fingerprint xxh3_128) packet.markResend
  queue := self.queue ++ [PendingAckQueueEntry.new (packet.fingerprint xxh3_128) now]

def acknowledge (self : PendingAckWindow) (fingerprint : PacketFingerprint) : PendingAckWindow :=
  { self with pending := self.pending.remove fingerprint }

/-- `prune`, the loop over the front of the queue: what stays, what has been retried too often,
what to retry.  The clock is read twice for an entry, to test it and to set it again. -/
def pruneQueue (clock : Nat → Timestamp) :
    List PendingAckQueueEntry →
      List PendingAckQueueEntry × List PacketFingerprint × List PendingAckQueueEntry
  | [] => ([], [], [])
  | entry :: rest =>
      if entry.readyToRetry (clock 0) then
        let (queue, expired, toRetry) := pruneQueue (fun reading => clock (reading + 2)) rest
        let (value, spent) := entry.retried
        if spent then
          (queue, value.fingerprint :: expired, toRetry)
        else
          (queue, expired, { value with timestamp := clock 1 } :: toRetry)
      else
        (entry :: rest, [], [])

/-- `prune`, one entry to retry: it goes back into the queue if its packet is still pending and
the session of the packet is established. -/
def pruneRetry (self : PendingAckWindow) (entry : PendingAckQueueEntry) (established : Bool) :
    PendingAckWindow :=
  if self.pending.contains entry.fingerprint && established then
    { self with queue := self.queue ++ [entry] }
  else
    self

/-- `prune`, at its end. -/
def pruneRemove (self : PendingAckWindow) (expired : List PacketFingerprint) : PendingAckWindow :=
  { self with pending := self.pending.removeAll expired }

end PendingAckWindow

/-! ## The receiver -/

/-- How far `dedup_with_payload` has come with a packet. -/
inductive DedupPhase where
  | arriving
  | adding
  | forwarded
  | dropped
deriving DecidableEq

/-- The window of a receiver, the packets by their number, and what a prune is about to remove. -/
structure Deduplication where
  window : FingerprintWindow
  phase : Nat → DedupPhase
  expired : List PacketFingerprint

inductive DedupLabel where
  /-- The packet of this number takes its next step. -/
  | dedupWithPayload (number : Nat) (now : Timestamp)
  | pruneQueue (now : Timestamp)
  | pruneRemove

namespace Deduplication

def start : Deduplication := ⟨FingerprintWindow.new, fun _ => .arriving, []⟩

/-- `dedup_with_payload`: `contains`, then `add`. -/
def dedupWithPayload (self : Deduplication) (number : Nat) (fingerprint : PacketFingerprint)
    (now : Timestamp) : Option Deduplication :=
  match self.phase number with
  | .arriving =>
      let phase := if self.window.contains fingerprint then .dropped else .adding
      some { self with phase := Function.update self.phase number phase }
  | .adding =>
      some { self with
        window := (self.window.add fingerprint now).1
        phase := Function.update self.phase number .forwarded }
  | .forwarded | .dropped => none

/-- Each of the packets arrives once. -/
def machine (xxh3_128 : List UInt8 → PacketFingerprint) (packets : List Packet) :
    Machine Deduplication DedupLabel where
  initial state := state = start
  step state
    | .dedupWithPayload number now =>
        match packets[number]? with
        | none => none
        | some packet => state.dedupWithPayload number (packet.fingerprint xxh3_128) now
    | .pruneQueue now =>
        let (window, expired) := state.window.pruneQueue now
        some { state with window := window, expired := state.expired ++ expired }
    | .pruneRemove =>
        some { state with window := state.window.pruneRemove state.expired, expired := [] }

/-- Only a packet that was forwarded has left its fingerprint, and none was dropped. -/
structure Forwards (xxh3_128 : List UInt8 → PacketFingerprint) (packets : List Packet)
    (state : Deduplication) : Prop where
  seen : ∀ fingerprint, state.window.contains fingerprint = true →
    ∃ number packet, packets[number]? = some packet ∧
      packet.fingerprint xxh3_128 = fingerprint ∧ state.phase number = .forwarded
  undropped : ∀ number, state.phase number ≠ .dropped

variable {xxh3_128 : List UInt8 → PacketFingerprint} {packets : List Packet}

theorem start_forwards : Forwards xxh3_128 packets start where
  seen fingerprint found := by cases found
  undropped number := by intro dropped; cases dropped

theorem number_eq (distinct : (packets.map (Packet.fingerprint xxh3_128)).Nodup)
    {left right : Nat} {first second : Packet} (foundFirst : packets[left]? = some first)
    (foundSecond : packets[right]? = some second)
    (same : first.fingerprint xxh3_128 = second.fingerprint xxh3_128) : left = right := by
  have inside : left < (packets.map (Packet.fingerprint xxh3_128)).length := by
    rw [List.length_map]
    exact (List.getElem?_eq_some_iff.mp foundFirst).1
  refine (List.getElem?_inj inside distinct).mp ?_
  rw [List.getElem?_map, List.getElem?_map, foundFirst, foundSecond]
  exact congrArg some same

theorem dedupWithPayload_forwards (distinct : (packets.map (Packet.fingerprint xxh3_128)).Nodup)
    {state next : Deduplication} {number : Nat} {packet : Packet} {now : Timestamp}
    (found : packets[number]? = some packet) (holds : Forwards xxh3_128 packets state)
    (stepped : state.dedupWithPayload number (packet.fingerprint xxh3_128) now = some next) :
    Forwards xxh3_128 packets next := by
  rw [dedupWithPayload] at stepped
  split at stepped
  · rename_i arriving
    have unseen : state.window.contains (packet.fingerprint xxh3_128) = false := by
      cases seen : state.window.contains (packet.fingerprint xxh3_128) with
      | false => rfl
      | true =>
          obtain ⟨other, _, foundOther, same, forwarded⟩ := holds.seen _ seen
          cases number_eq distinct foundOther found same
          rw [arriving] at forwarded
          cases forwarded
    rw [unseen] at stepped
    cases stepped
    refine ⟨?_, ?_⟩
    · intro fingerprint seen
      obtain ⟨other, packet, foundOther, same, forwarded⟩ := holds.seen fingerprint seen
      refine ⟨other, packet, foundOther, same, ?_⟩
      have different : other ≠ number := by
        rintro rfl
        rw [arriving] at forwarded
        cases forwarded
      exact (Function.update_of_ne different _ _).trans forwarded
    · intro other
      by_cases same : other = number
      · subst same
        simp
      · simp only [Function.update_of_ne same]
        exact holds.undropped other
  · cases stepped
    refine ⟨?_, ?_⟩
    · intro fingerprint seen
      by_cases mine : fingerprint = packet.fingerprint xxh3_128
      · exact ⟨number, packet, found, mine.symm, Function.update_self ..⟩
      · obtain ⟨other, earlier, foundOther, same, forwarded⟩ :=
          holds.seen fingerprint ((FingerprintWindow.contains_add.mp seen).resolve_left mine)
        refine ⟨other, earlier, foundOther, same, ?_⟩
        by_cases same : other = number
        · subst same
          exact Function.update_self ..
        · exact (Function.update_of_ne same _ _).trans forwarded
    · intro other
      by_cases same : other = number
      · subst same
        simp
      · simp only [Function.update_of_ne same]
        exact holds.undropped other
  · cases stepped
  · cases stepped

theorem Forwards.forwarded_or_goes_on {state : Deduplication}
    (holds : Forwards xxh3_128 packets state) (number : Nat) (fingerprint : PacketFingerprint)
    (now : Timestamp) :
    state.phase number = .forwarded ∨
      (state.dedupWithPayload number fingerprint now).isSome = true := by
  cases phase : state.phase number with
  | forwarded => exact Or.inl rfl
  | dropped => exact absurd phase (holds.undropped number)
  | arriving => exact Or.inr (by simp [dedupWithPayload, phase])
  | adding => exact Or.inr (by simp [dedupWithPayload, phase])

theorem step_forwards (distinct : (packets.map (Packet.fingerprint xxh3_128)).Nodup)
    (state : Deduplication) (label : DedupLabel) (next : Deduplication)
    (holds : Forwards xxh3_128 packets state)
    (stepped : (machine xxh3_128 packets).step state label = some next) :
    Forwards xxh3_128 packets next := by
  cases label with
  | dedupWithPayload number now =>
      simp only [machine] at stepped
      split at stepped
      · cases stepped
      · exact dedupWithPayload_forwards distinct ‹_› holds stepped
  | pruneQueue now =>
      cases stepped
      exact ⟨holds.seen, holds.undropped⟩
  | pruneRemove =>
      cases stepped
      exact ⟨fun fingerprint seen =>
        holds.seen fingerprint (FingerprintWindow.contains_of_pruneRemove seen), holds.undropped⟩

end Deduplication

/-! ## The sender -/

inductive PendingPhase where
  | handed
  | pending
  | acknowledged
  | expired
deriving DecidableEq

/-- The window of a sender, the packets handed to it by their number, and what the prune holds
between its locks. -/
structure Pending where
  window : PendingAckWindow
  phase : Nat → PendingPhase
  expired : List PacketFingerprint
  toRetry : List PendingAckQueueEntry

inductive PendingLabel where
  /-- The task that `add` dispatched for the packet of this number. -/
  | innerAdd (number : Nat) (now : Timestamp)
  /-- The acknowledgement of the packet of this number. -/
  | acknowledge (number : Nat)
  | pruneQueue (clock : Nat → Timestamp)
  | pruneRetry (established : Bool)
  | pruneRemove

namespace Pending

def start : Pending := ⟨PendingAckWindow.new, fun _ => .handed, [], []⟩

def innerAdd (xxh3_128 : List UInt8 → PacketFingerprint) (self : Pending) (number : Nat)
    (packet : Packet) (now : Timestamp) : Option Pending :=
  match self.phase number with
  | .handed =>
      some { self with
        window := self.window.innerAdd xxh3_128 packet now
        phase := Function.update self.phase number .pending }
  | .pending | .acknowledged | .expired => none

def acknowledge (self : Pending) (number : Nat) (fingerprint : PacketFingerprint) : Pending :=
  { self with
    window := self.window.acknowledge fingerprint
    phase := if self.phase number = .pending then
        Function.update self.phase number .acknowledged
      else
        self.phase }

def pruneRemove (xxh3_128 : List UInt8 → PacketFingerprint) (packets : List Packet)
    (self : Pending) : Pending :=
  { self with
    window := self.window.pruneRemove self.expired
    expired := []
    phase := fun number =>
      match packets[number]? with
      | none => self.phase number
      | some packet =>
          if packet.fingerprint xxh3_128 ∈ self.expired && self.phase number = .pending then
            .expired
          else
            self.phase number }

/-- Each of the packets is handed to the window once. -/
def machine (xxh3_128 : List UInt8 → PacketFingerprint) (packets : List Packet) :
    Machine Pending PendingLabel where
  initial state := state = start
  step state
    | .innerAdd number now =>
        match packets[number]? with
        | none => none
        | some packet => state.innerAdd xxh3_128 number packet now
    | .acknowledge number =>
        match packets[number]? with
        | none => none
        | some packet => some (state.acknowledge number (packet.fingerprint xxh3_128))
    | .pruneQueue clock =>
        let (queue, expired, toRetry) := PendingAckWindow.pruneQueue clock state.window.queue
        some { state with
          window := { state.window with queue := queue }
          expired := state.expired ++ expired
          toRetry := state.toRetry ++ toRetry }
    | .pruneRetry established =>
        match state.toRetry with
        | [] => none
        | entry :: rest =>
            some { state with
              window := state.window.pruneRetry entry established
              toRetry := rest }
    | .pruneRemove => some (state.pruneRemove xxh3_128 packets)

/-- Every packet that waits for its acknowledgement has the entry under its fingerprint. -/
def Holds (xxh3_128 : List UInt8 → PacketFingerprint) (packets : List Packet) (self : Pending) :
    Prop :=
  ∀ number packet, packets[number]? = some packet → self.phase number = .pending →
    self.window.pending.get (packet.fingerprint xxh3_128) = some packet.markResend

variable {xxh3_128 : List UInt8 → PacketFingerprint} {packets : List Packet}

theorem start_holds : Holds xxh3_128 packets start := by
  intro number packet found waiting
  cases waiting

theorem innerAdd_holds (distinct : (packets.map (Packet.fingerprint xxh3_128)).Nodup)
    {state next : Pending} {number : Nat} {packet : Packet} {now : Timestamp}
    (found : packets[number]? = some packet) (holds : state.Holds xxh3_128 packets)
    (stepped : state.innerAdd xxh3_128 number packet now = some next) :
    next.Holds xxh3_128 packets := by
  rw [innerAdd] at stepped
  split at stepped <;> cases stepped
  intro other earlier foundOther waiting
  by_cases same : other = number
  · subst same
    cases found.symm.trans foundOther
    exact Table.get_insert_self ..
  · have apart : earlier.fingerprint xxh3_128 ≠ packet.fingerprint xxh3_128 :=
      fun collides => same (Deduplication.number_eq distinct foundOther found collides)
    simp only [Function.update_of_ne same] at waiting
    exact (Table.get_insert_of_ne _ _ apart).trans (holds other earlier foundOther waiting)

theorem acknowledge_holds (distinct : (packets.map (Packet.fingerprint xxh3_128)).Nodup)
    {state : Pending} {number : Nat} {packet : Packet} (found : packets[number]? = some packet)
    (holds : state.Holds xxh3_128 packets) :
    (state.acknowledge number (packet.fingerprint xxh3_128)).Holds xxh3_128 packets := by
  intro other earlier foundOther waiting
  simp only [acknowledge] at waiting
  by_cases same : other = number
  · -- the acknowledged packet is not pending any more
    subst same
    split at waiting
    · simp at waiting
    · exact absurd waiting ‹_›
  · have apart : earlier.fingerprint xxh3_128 ≠ packet.fingerprint xxh3_128 :=
      fun collides => same (Deduplication.number_eq distinct foundOther found collides)
    have before : state.phase other = .pending := by
      split at waiting
      · rwa [Function.update_of_ne same] at waiting
      · exact waiting
    exact (Table.get_remove_of_ne _ apart).trans (holds other earlier foundOther before)

theorem pruneRemove_holds {state : Pending} (holds : state.Holds xxh3_128 packets) :
    (state.pruneRemove xxh3_128 packets).Holds xxh3_128 packets := by
  intro number packet found waiting
  simp only [pruneRemove, found] at waiting
  split at waiting
  · cases waiting
  · rename_i unspent
    have kept : packet.fingerprint xxh3_128 ∉ state.expired := by
      intro spent
      exact unspent (by simp [spent, waiting])
    exact (Table.get_removeAll _ _ _).trans
      ((if_neg kept).trans (holds number packet found waiting))

theorem pruneRetry_pending (window : PendingAckWindow) (entry : PendingAckQueueEntry)
    (established : Bool) : (window.pruneRetry entry established).pending = window.pending := by
  rw [PendingAckWindow.pruneRetry]
  split <;> rfl

theorem step_holds (distinct : (packets.map (Packet.fingerprint xxh3_128)).Nodup)
    (state : Pending) (label : PendingLabel) (next : Pending)
    (holds : state.Holds xxh3_128 packets)
    (stepped : (machine xxh3_128 packets).step state label = some next) :
    next.Holds xxh3_128 packets := by
  cases label with
  | innerAdd number now =>
      simp only [machine] at stepped
      split at stepped
      · cases stepped
      · exact innerAdd_holds distinct ‹_› holds stepped
  | acknowledge number =>
      simp only [machine] at stepped
      split at stepped
      · cases stepped
      · cases stepped
        exact acknowledge_holds distinct ‹_› holds
  | pruneQueue clock =>
      cases stepped
      exact holds
  | pruneRetry established =>
      simp only [machine] at stepped
      split at stepped
      · cases stepped
      · cases stepped
        intro number packet found waiting
        simp only [pruneRetry_pending]
        exact holds number packet found waiting
  | pruneRemove =>
      cases stepped
      exact pruneRemove_holds holds

end Pending

/-! ## Packets kept apart -/

/-- Dedup and ack tracking never confuse two of the packets: the fingerprints differ, in every
run of the receiver a packet is forwarded or its task goes on, and in every run of the sender a
packet that waits for its acknowledgement has an entry. -/
structure KeptApart (xxh3_128 : List UInt8 → PacketFingerprint) (packets : List Packet) : Prop where
  fingerprints : (packets.map (Packet.fingerprint xxh3_128)).Nodup
  forwarded : ∀ labels final,
    (Deduplication.machine xxh3_128 packets).run Deduplication.start labels = some final →
      ∀ number packet, packets[number]? = some packet → final.phase number = .forwarded ∨
        ∀ now, (final.dedupWithPayload number (packet.fingerprint xxh3_128) now).isSome = true
  pending : ∀ labels final,
    (Pending.machine xxh3_128 packets).run Pending.start labels = some final →
      ∀ number packet, packets[number]? = some packet → final.phase number = .pending →
        final.window.pending.get (packet.fingerprint xxh3_128) = some packet.markResend

/-- `xxh3_128` tells the headers of these packets apart. -/
def InjectiveOn (xxh3_128 : List UInt8 → PacketFingerprint) (packets : List Packet) : Prop :=
  ∀ left ∈ packets, ∀ right ∈ packets,
    xxh3_128 left.headers = xxh3_128 right.headers → left.headers = right.headers

theorem keptApart_iff_fingerprints {xxh3_128 : List UInt8 → PacketFingerprint}
    {packets : List Packet} :
    KeptApart xxh3_128 packets ↔ (packets.map (Packet.fingerprint xxh3_128)).Nodup := by
  constructor
  · exact KeptApart.fingerprints
  · intro distinct
    refine ⟨distinct, ?_, ?_⟩
    · intro labels final ran number packet found
      have forwards := Machine.run_preserves _ (Deduplication.step_forwards distinct)
        Deduplication.start_forwards ran
      rw [Classical.or_iff_not_imp_left]
      intro unfinished now
      exact (forwards.forwarded_or_goes_on number _ now).resolve_left unfinished
    · intro labels final ran
      exact Machine.run_preserves _ (Pending.step_holds distinct) Pending.start_holds ran

theorem fingerprint_inj {xxh3_128 : List UInt8 → PacketFingerprint} {packets : List Packet}
    (injective : InjectiveOn xxh3_128 packets) {left right : Packet}
    (leftListed : left ∈ packets) (rightListed : right ∈ packets) (leftCreated : left.Created)
    (rightCreated : right.Created) :
    left.fingerprint xxh3_128 = right.fingerprint xxh3_128 ↔
      left.withoutPayload = right.withoutPayload := by
  rw [← Packet.headers_inj leftCreated.wellFormed rightCreated.wellFormed]
  constructor
  · exact injective left leftListed right rightListed
  · intro same
    exact congrArg xxh3_128 same

theorem keptApart_iff_created {xxh3_128 : List UInt8 → PacketFingerprint} {packets : List Packet}
    (created : ∀ packet ∈ packets, packet.Created) (injective : InjectiveOn xxh3_128 packets) :
    KeptApart xxh3_128 packets ↔
      packets.Pairwise fun left right => left.withoutPayload ≠ right.withoutPayload := by
  rw [keptApart_iff_fingerprints, List.Nodup, List.pairwise_map]
  refine List.Pairwise.iff_of_mem ?_
  intro left right leftListed rightListed
  exact not_congr (fingerprint_inj injective leftListed rightListed (created left leftListed)
    (created right rightListed))

/-! ## A burst of retransmit requests -/

theorem mem_dispatchRetransmitRequest {sessionId : SessionId} {ranges : List ByteRange}
    {clock : Nat → Timestamp} {packet : RetransmitPacket}
    (listed : packet ∈ dispatchRetransmitRequest sessionId ranges clock) :
    ∃ chunk now, packet = RetransmitPacket.data Options.none sessionId chunk now := by
  rw [dispatchRetransmitRequest, List.mem_map] at listed
  obtain ⟨⟨chunk, index⟩, _, rfl⟩ := listed
  exact ⟨chunk, clock index, rfl⟩

theorem pairwise_burst (sessionId : SessionId) (ranges : List ByteRange)
    (clock : Nat → Timestamp) :
    ((dispatchRetransmitRequest sessionId ranges clock).map Packet.retransmit).Pairwise
        (fun left right => left.withoutPayload ≠ right.withoutPayload) ↔
      ((dispatchRetransmitRequest sessionId ranges clock).map RetransmitPacket.timestamp).Nodup := by
  rw [List.Nodup, List.pairwise_map, List.pairwise_map]
  refine List.Pairwise.iff_of_mem ?_
  intro left right leftListed rightListed
  obtain ⟨leftChunk, leftNow, rfl⟩ := mem_dispatchRetransmitRequest leftListed
  obtain ⟨rightChunk, rightNow, rfl⟩ := mem_dispatchRetransmitRequest rightListed
  refine not_congr ⟨?_, ?_⟩
  · intro same
    have readings := congrArg RetransmitPacket.timestamp (Packet.retransmit.inj same)
    exact readings
  · intro same
    have readings : leftNow = rightNow := same
    rw [readings]
    rfl

/-- Packets are kept apart if and only if no two of them differ in their payload alone; the
packets of one `dispatch_retransmit_request` are if and only if no two of them were created in
the same millisecond. -/
theorem keptApart_iff (xxh3_128 : List UInt8 → PacketFingerprint) :
    (∀ packets, (∀ packet ∈ packets, Packet.Created packet) → InjectiveOn xxh3_128 packets →
      (KeptApart xxh3_128 packets ↔
        packets.Pairwise fun left right => left.withoutPayload ≠ right.withoutPayload)) ∧
    ∀ sessionId ranges clock,
      let burst := dispatchRetransmitRequest sessionId ranges clock
      InjectiveOn xxh3_128 (burst.map Packet.retransmit) →
        (KeptApart xxh3_128 (burst.map Packet.retransmit) ↔
          (burst.map RetransmitPacket.timestamp).Nodup) := by
  constructor
  · intro packets created injective
    exact keptApart_iff_created created injective
  · intro sessionId ranges clock burst injective
    rw [← pairwise_burst]
    refine keptApart_iff_created ?_ injective
    intro packet listed
    obtain ⟨inner, innerListed, rfl⟩ := List.mem_map.mp listed
    obtain ⟨chunk, now, rfl⟩ := mem_dispatchRetransmitRequest innerListed
    exact Packet.Created.retransmitData Options.none sessionId chunk now

def burstOfTwo (clock : Nat → Timestamp) : List RetransmitPacket :=
  dispatchRetransmitRequest ⟨1⟩ (List.replicate 229 ⟨BytePosition.ofNat 0, 1368⟩) clock

def atMillisecond (now : Nat) : Timestamp := ⟨now % 2 ^ 64, Timestamp.mod_lt now⟩

/-- The hashes of the headers of the two packets, created at 0 and 1 ms, and of a
`CloseSessionPacket` of the same session at 0 ms. -/
def sampleXxh3 (headers : List UInt8) : PacketFingerprint :=
  if headers = [0, 1, 0, 1, 8, 1, 0, 0, 0, 0, 0, 0, 0, 0, 0, 1, 0, 0, 0, 0, 0, 0, 0, 0] then
    ⟨[32, 188, 59, 26, 31, 236, 237, 155, 206, 253, 240, 89, 168, 9, 5, 44], rfl⟩
  else if headers = [0, 1, 0, 1, 8, 1, 0, 0, 0, 0, 0, 0, 0, 0, 0, 1, 0, 0, 0, 0, 0, 0, 0, 1] then
    ⟨[155, 4, 244, 54, 88, 144, 81, 250, 175, 120, 2, 45, 109, 130, 87, 102], rfl⟩
  else
    ⟨[143, 98, 193, 200, 138, 111, 57, 108, 119, 199, 187, 61, 239, 169, 191, 170], rfl⟩

theorem keptApart_iff_burst :
    KeptApart sampleXxh3
        [.retransmit (RetransmitPacket.data Options.none ⟨1⟩ [] (atMillisecond 0)),
          .closeSession (CloseSessionPacket.new Options.none ⟨1⟩ (atMillisecond 0))] ∧
      KeptApart sampleXxh3 ((burstOfTwo atMillisecond).map Packet.retransmit) := by
  constructor
  · refine ((keptApart_iff sampleXxh3).1 _ ?_ ?_).mpr ?_
    · intro packet listed
      simp only [List.mem_cons, List.not_mem_nil, or_false] at listed
      rcases listed with rfl | rfl
      · exact Packet.Created.retransmitData _ _ _ _
      · exact Packet.Created.closeSession _ _ _
    · unfold InjectiveOn
      decide +kernel
    · decide +kernel
  · refine ((keptApart_iff sampleXxh3).2 ⟨1⟩ _ atMillisecond ?_).mpr ?_
    · unfold InjectiveOn
      decide +kernel
    · decide +kernel

/-- Two retransmit requests of one millisecond share all their headers. -/
theorem burst_confused :
    (burstOfTwo fun _ => atMillisecond 0).Nodup ∧
      ∀ xxh3_128 : List UInt8 → PacketFingerprint,
        InjectiveOn xxh3_128 ((burstOfTwo fun _ => atMillisecond 0).map Packet.retransmit) ∧
          ¬ KeptApart xxh3_128 ((burstOfTwo fun _ => atMillisecond 0).map Packet.retransmit) := by
  have headers : ∀ packet ∈ (burstOfTwo fun _ => atMillisecond 0).map Packet.retransmit,
      packet.headers =
        [0, 1, 0, 1, 8, 1, 0, 0, 0, 0, 0, 0, 0, 0, 0, 1, 0, 0, 0, 0, 0, 0, 0, 0] := by
    decide +kernel
  refine ⟨by decide +kernel, ?_⟩
  intro xxh3_128
  refine ⟨?_, ?_⟩
  · intro left leftListed right rightListed _
    rw [headers left leftListed, headers right rightListed]
  · intro apart
    have distinct := apart.fingerprints
    have two : ((burstOfTwo fun _ => atMillisecond 0).map Packet.retransmit).length = 2 := by
      decide +kernel
    have same : ((burstOfTwo fun _ => atMillisecond 0).map Packet.retransmit).map
          (Packet.fingerprint xxh3_128) =
        List.replicate 2 (xxh3_128
          [0, 1, 0, 1, 8, 1, 0, 0, 0, 0, 0, 0, 0, 0, 0, 1, 0, 0, 0, 0, 0, 0, 0, 0]) := by
      rw [← two, List.eq_replicate_iff]
      refine ⟨List.length_map _, ?_⟩
      intro fingerprint listed
      obtain ⟨packet, packetListed, rfl⟩ := List.mem_map.mp listed
      exact congrArg xxh3_128 (headers packet packetListed)
    rw [same] at distinct
    simp [List.replicate] at distinct

end Ubass

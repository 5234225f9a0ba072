import Mathlib.Data.List.TakeWhile
import Ubass.Manager.Send
import Ubass.Processor.AddAck

/-!
# Control packets and their retries

A control packet is kept by its sender until it is acknowledged, and sent again
by the prune of `PendingAckWindow`.  Its receiver forgets a fingerprint in the
prune of `FingerprintWindow`.  The two prunes run on clocks of their own, and a
network that delays and loses datagrams lies between them.  No handler of a
control packet acknowledges it.
-/

set_option autoImplicit false

namespace Ubass

/-- A packet of the playback or track kinds as its sender registers it. -/
structure ControlPacket where
  packet : Packet
  kind : packet.kind = .playbackControl ∨ packet.kind = .trackRequest ∨
    packet.kind = .trackRejection
  registered : packet.addAck.2 = true

/-- A datagram, with the number of the packet it was made from. -/
structure Copy where
  number : Nat
  retried : Bool
  packet : Packet

namespace Copy

def isControl (self : Copy) (controlType : PlaybackControlType) : Bool :=
  match self.packet with
  | .playbackControl packet => packet.controlType = controlType
  | _ => false

/-- The same packet again, or a retried `Pause` after a `Play` that was created later. -/
def Superseded (earlier later : Copy) : Prop :=
  earlier.number = later.number ∨
    (earlier.isControl .play = true ∧ later.isControl .pause = true ∧ later.retried = true ∧
      later.number < earlier.number)

end Copy

/-- A sender, the datagrams on their way, and a receiver.  `owner` names the packet that was
filed last under a fingerprint, `addedAt` and `overdue` say when the receiver let a fingerprint
through and whether one of its prunes has found it expired since. -/
structure Retries where
  transmitted : Nat → Bool
  handed : Nat → Bool
  sender : PendingAckWindow
  owner : PacketFingerprint → Nat
  toRetry : List PendingAckQueueEntry
  spent : List PacketFingerprint
  wire : List Copy
  receiver : FingerprintWindow
  expired : List PacketFingerprint
  forwarded : List Copy
  addedAt : PacketFingerprint → Timestamp
  overdue : PacketFingerprint → Bool

inductive RetriesLabel where
  /-- The packet of this number is sent for the first time. -/
  | transmit (number : Nat)
  /-- The task that `add` dispatched for the packet of this number. -/
  | innerAdd (number : Nat) (now : Timestamp)
  | acknowledge (fingerprint : PacketFingerprint)
  | pruneQueue (clock : Nat → Timestamp)
  | pruneRetry (established : Bool)
  | pruneRemove
  | lose (index : Nat)
  | deliver (index : Nat) (now : Timestamp)
  | expire (now : Timestamp)
  | forget

namespace Retries

def start : Retries where
  transmitted := fun _ => false
  handed := fun _ => false
  sender := PendingAckWindow.new
  owner := fun _ => 0
  toRetry := []
  spent := []
  wire := []
  receiver := FingerprintWindow.new
  expired := []
  forwarded := []
  addedAt := fun _ => ⟨0, Timestamp.zero_lt⟩
  overdue := fun _ => false

def copies (number : Nat) (retried : Bool) (packet : Packet) : List Copy :=
  List.replicate packet.duplicateCount ⟨number, retried, packet.addAck.1⟩

def receive (xxh3_128 : List UInt8 → PacketFingerprint) (self : Retries) (copy : Copy)
    (now : Timestamp) : Retries :=
  let fingerprint := copy.packet.fingerprint xxh3_128
  if self.receiver.contains fingerprint then self
  else { self with
    receiver := (self.receiver.add fingerprint now).1
    forwarded := self.forwarded ++ [copy]
    addedAt := Function.update self.addedAt fingerprint now
    overdue := Function.update self.overdue fingerprint false }

/-- The prune of the receiver, under the lock of the queue. -/
def expire (self : Retries) (now : Timestamp) : Retries :=
  let (receiver, expired) := self.receiver.pruneQueue now
  { self with
    receiver := receiver
    expired := self.expired ++ expired
    overdue := fun fingerprint => self.overdue fingerprint ||
      (self.addedAt fingerprint).beenLongerThan now windowPruneInterval }

/-- The prune of the receiver, under the lock of the set. -/
def forget (self : Retries) : Retries :=
  { self with receiver := self.receiver.pruneRemove self.expired, expired := [] }

def retry (self : Retries) (entry : PendingAckQueueEntry) (established : Bool) : Retries :=
  { self with
    sender := self.sender.pruneRetry entry established
    wire := self.wire ++
      match self.sender.pending.get entry.fingerprint, established with
      | some packet, true => copies (self.owner entry.fingerprint) true packet
      | _, _ => [] }

def machine (xxh3_128 : List UInt8 → PacketFingerprint) (packets : List ControlPacket) :
    Machine Retries RetriesLabel where
  initial state := state = start
  step state
    | .transmit number =>
        match packets[number]? with
        | none => none
        | some created =>
            if state.transmitted number then none
            else some { state with
              transmitted := Function.update state.transmitted number true
              wire := state.wire ++ copies number false created.packet }
    | .innerAdd number now =>
        match packets[number]? with
        | none => none
        | some created =>
            if state.handed number then none
            else some { state with
              handed := Function.update state.handed number true
              sender := state.sender.innerAdd xxh3_128 created.packet now
              owner := Function.update state.owner (created.packet.fingerprint xxh3_128) number }
    | .acknowledge fingerprint =>
        some { state with sender := state.sender.acknowledge fingerprint }
    | .pruneQueue clock =>
        let (queue, spent, toRetry) := PendingAckWindow.pruneQueue clock state.sender.queue
        some { state with
          sender := { state.sender with queue := queue }
          spent := state.spent ++ spent
          toRetry := state.toRetry ++ toRetry }
    | .pruneRetry established =>
        match state.toRetry with
        | [] => none
        | entry :: rest => some { state.retry entry established with toRetry := rest }
    | .pruneRemove =>
        some { state with sender := state.sender.pruneRemove state.spent, spent := [] }
    | .lose index => some { state with wire := state.wire.eraseIdx index }
    | .deliver index now =>
        match state.wire[index]? with
        | none => none
        | some copy =>
            some { state.receive xxh3_128 copy now with wire := state.wire.eraseIdx index }
    | .expire now => some (state.expire now)
    | .forget => some state.forget

/-- Every packet is forwarded at most once, and no retried `Pause` after a later `Play`. -/
def AppliedOnce (state : Retries) : Prop :=
  state.forwarded.Pairwise fun earlier later => ¬ Copy.Superseded earlier later

/-- A datagram that would be applied out of turn arrives while its fingerprint is in the window. -/
def InWindow (xxh3_128 : List UInt8 → PacketFingerprint) (state : Retries) : RetriesLabel → Prop
  | .deliver index _ =>
      ∀ copy, state.wire[index]? = some copy →
        (∃ earlier ∈ state.forwarded, Copy.Superseded earlier copy) →
          state.receiver.contains (copy.packet.fingerprint xxh3_128) = true
  | _ => True

/-- A datagram that would be applied out of turn is of a packet that was forwarded before, and it
arrives before a prune of the receiver has found that packet expired. -/
def InTime (xxh3_128 : List UInt8 → PacketFingerprint) (state : Retries) : RetriesLabel → Prop
  | .deliver index _ =>
      ∀ copy, state.wire[index]? = some copy →
        (∃ earlier ∈ state.forwarded, Copy.Superseded earlier copy) →
          (∃ earlier ∈ state.forwarded, earlier.number = copy.number) ∧
            state.overdue (copy.packet.fingerprint xxh3_128) = false
  | _ => True

/-! ## What is forwarded -/

variable {xxh3_128 : List UInt8 → PacketFingerprint} {packets : List ControlPacket}

theorem forwarded_receive (state : Retries) (copy : Copy) (now : Timestamp) :
    (state.receive xxh3_128 copy now).forwarded =
      if state.receiver.contains (copy.packet.fingerprint xxh3_128) then state.forwarded
      else state.forwarded ++ [copy] := by
  rw [receive]
  split <;> rfl

@[simp] theorem sender_receive (state : Retries) (copy : Copy) (now : Timestamp) :
    (state.receive xxh3_128 copy now).sender = state.sender := by
  rw [receive]
  split <;> rfl

@[simp] theorem owner_receive (state : Retries) (copy : Copy) (now : Timestamp) :
    (state.receive xxh3_128 copy now).owner = state.owner := by
  rw [receive]
  split <;> rfl

theorem step_forwarded {state next : Retries} {label : RetriesLabel}
    (stepped : (machine xxh3_128 packets).step state label = some next) :
    next.forwarded = state.forwarded ∨
      ∃ index now copy, label = .deliver index now ∧ state.wire[index]? = some copy ∧
        state.receiver.contains (copy.packet.fingerprint xxh3_128) = false ∧
        next.forwarded = state.forwarded ++ [copy] := by
  cases label with
  | deliver index now =>
      simp only [machine] at stepped
      split at stepped
      · cases stepped
      · rename_i copy here
        cases stepped
        cases seen : state.receiver.contains (copy.packet.fingerprint xxh3_128) with
        | true =>
            apply Or.inl
            simp only [forwarded_receive, seen, if_true]
        | false =>
            apply Or.inr
            refine ⟨index, now, copy, rfl, here, seen, ?_⟩
            simp only [forwarded_receive, seen, Bool.false_eq_true, if_false]
  | transmit number =>
      simp only [machine] at stepped
      split at stepped
      · cases stepped
      · split at stepped <;> cases stepped
        exact Or.inl rfl
  | innerAdd number now =>
      simp only [machine] at stepped
      split at stepped
      · cases stepped
      · split at stepped <;> cases stepped
        exact Or.inl rfl
  | pruneRetry established =>
      simp only [machine] at stepped
      split at stepped <;> cases stepped
      exact Or.inl rfl
  | acknowledge | pruneQueue | pruneRemove | lose | expire | forget =>
      cases stepped
      exact Or.inl rfl

theorem step_appliedOnce_iff {state next : Retries} {label : RetriesLabel}
    (applied : state.AppliedOnce)
    (stepped : (machine xxh3_128 packets).step state label = some next) :
    next.AppliedOnce ↔ state.InWindow xxh3_128 label := by
  rcases step_forwarded stepped with same | ⟨index, now, copy, rfl, here, unseen, more⟩
  · refine iff_of_true ?_ ?_
    · rw [AppliedOnce, same]
      exact applied
    · cases label with
      | deliver index now =>
          -- the arriving packet was dropped
          intro copy here _
          simp only [machine, here, Option.some.injEq] at stepped
          subst stepped
          rw [forwarded_receive] at same
          split at same
          · assumption
          · have longer := congrArg List.length same
            rw [List.length_append, List.length_singleton] at longer
            omega
      | _ => trivial
  · rw [AppliedOnce, more, List.pairwise_append]
    constructor
    · rintro ⟨_, _, apart⟩ other otherHere ⟨earlier, listed, superseded⟩
      cases Option.some.inj (here.symm.trans otherHere)
      exact absurd superseded (apart earlier listed copy (List.mem_singleton.mpr rfl))
    · intro inWindow
      refine ⟨applied, List.pairwise_singleton _ _, ?_⟩
      intro earlier listed later last superseded
      cases List.mem_singleton.mp last
      have seen := inWindow copy here ⟨earlier, listed, superseded⟩
      rw [unseen] at seen
      cases seen

/-! ## What is on the wire -/

/-- Every datagram carries the packet of its number, and so will every retry. -/
structure Originals (xxh3_128 : List UInt8 → PacketFingerprint) (packets : List ControlPacket)
    (state : Retries) : Prop where
  pending : ∀ fingerprint stored, state.sender.pending.get fingerprint = some stored →
    ∃ created, packets[state.owner fingerprint]? = some created ∧
      stored = created.packet.markResend
  wire : ∀ copy ∈ state.wire, ∃ created, packets[copy.number]? = some created ∧
    copy.packet = created.packet
  forwarded : ∀ copy ∈ state.forwarded, ∃ created, packets[copy.number]? = some created ∧
    copy.packet = created.packet

theorem start_originals : start.Originals xxh3_128 packets where
  pending fingerprint stored found := by cases found
  wire copy listed := by cases listed
  forwarded copy listed := by cases listed

theorem mem_copies {number : Nat} {retried : Bool} {packet : Packet} {copy : Copy}
    (listed : copy ∈ copies number retried packet) :
    copy.number = number ∧ copy.packet = packet.addAck.1 := by
  cases (List.mem_replicate.mp listed).2
  exact ⟨rfl, rfl⟩

/-- Where `add_ack` gives the created packet back, so do the copies. -/
theorem copy_original {number : Nat} {created : ControlPacket} {retried : Bool}
    {packet : Packet} {copy : Copy} (known : packets[number]? = some created)
    (registered : packet.addAck.1 = created.packet) (listed : copy ∈ copies number retried packet) :
    ∃ created, packets[copy.number]? = some created ∧ copy.packet = created.packet := by
  obtain ⟨sameNumber, samePacket⟩ := mem_copies listed
  refine ⟨created, ?_, ?_⟩
  · rw [sameNumber, known]
  · rw [samePacket, registered]

theorem retry_wire {state : Retries} (originals : state.Originals xxh3_128 packets)
    (entry : PendingAckQueueEntry) (established : Bool) :
    ∀ copy ∈ (state.retry entry established).wire, ∃ created,
      packets[copy.number]? = some created ∧ copy.packet = created.packet := by
  intro copy listed
  have resent : copy ∈ state.wire ∨ ∃ stored,
      state.sender.pending.get entry.fingerprint = some stored ∧
        copy ∈ copies (state.owner entry.fingerprint) true stored := by
    cases found : state.sender.pending.get entry.fingerprint with
    | none =>
        simp only [retry, found, List.append_nil] at listed
        exact Or.inl listed
    | some stored =>
        cases established with
        | false =>
            simp only [retry, found, List.append_nil] at listed
            exact Or.inl listed
        | true =>
            simp only [retry, found, List.mem_append] at listed
            rcases listed with earlier | again
            · exact Or.inl earlier
            · exact Or.inr ⟨stored, rfl, again⟩
  rcases resent with earlier | ⟨stored, found, again⟩
  · exact originals.wire copy earlier
  · obtain ⟨created, owned, rfl⟩ := originals.pending _ _ found
    exact copy_original owned (congrArg Prod.fst (Packet.addAck_markResend created.registered)) again

theorem innerAdd_pending {state : Retries} (originals : state.Originals xxh3_128 packets)
    {number : Nat} {created : ControlPacket} (known : packets[number]? = some created)
    {fingerprint : PacketFingerprint} {stored : Packet} {now : Timestamp}
    (found : (state.sender.innerAdd xxh3_128 created.packet now).pending.get fingerprint =
      some stored) :
    ∃ owned, packets[Function.update state.owner (created.packet.fingerprint xxh3_128) number
        fingerprint]? = some owned ∧ stored = owned.packet.markResend := by
  simp only [PendingAckWindow.innerAdd, Table.get_insert] at found
  by_cases same : fingerprint = created.packet.fingerprint xxh3_128
  · rw [if_pos same] at found
    refine ⟨created, ?_, (Option.some.inj found).symm⟩
    simp only [same, Function.update_self, known]
  · rw [if_neg same] at found
    simp only [Function.update_of_ne same]
    exact originals.pending fingerprint stored found

theorem step_originals {state next : Retries} {label : RetriesLabel}
    (originals : state.Originals xxh3_128 packets)
    (stepped : (machine xxh3_128 packets).step state label = some next) :
    next.Originals xxh3_128 packets := by
  have forwarded : ∀ copy ∈ next.forwarded, ∃ created, packets[copy.number]? = some created ∧
      copy.packet = created.packet := by
    rcases step_forwarded stepped with same | ⟨index, _, arrived, _, here, _, more⟩
    · rw [same]
      exact originals.forwarded
    · intro copy listed
      rw [more, List.mem_append, List.mem_singleton] at listed
      rcases listed with earlier | rfl
      · exact originals.forwarded copy earlier
      · exact originals.wire copy (List.mem_of_getElem? here)
  cases label with
  | transmit number =>
      simp only [machine] at stepped
      split at stepped
      · cases stepped
      · rename_i created known
        split at stepped <;> cases stepped
        refine ⟨originals.pending, ?_, forwarded⟩
        intro copy listed
        rcases List.mem_append.mp listed with earlier | first
        · exact originals.wire copy earlier
        · exact copy_original known (Packet.addAck_of_registered created.registered) first
  | innerAdd number now =>
      simp only [machine] at stepped
      split at stepped
      · cases stepped
      · rename_i created known
        split at stepped <;> cases stepped
        refine ⟨?_, originals.wire, forwarded⟩
        intro fingerprint stored found
        exact innerAdd_pending originals known found
  | acknowledge fingerprint =>
      cases stepped
      refine ⟨?_, originals.wire, forwarded⟩
      intro other stored found
      exact originals.pending other stored (Table.get_of_get_remove found).2
  | pruneQueue clock =>
      cases stepped
      exact ⟨originals.pending, originals.wire, forwarded⟩
  | pruneRetry established =>
      simp only [machine] at stepped
      split at stepped
      · cases stepped
      · rename_i entry rest waiting
        cases stepped
        refine ⟨?_, retry_wire originals entry established, forwarded⟩
        intro fingerprint stored found
        simp only [retry, Pending.pruneRetry_pending] at found
        exact originals.pending fingerprint stored found
  | pruneRemove =>
      cases stepped
      refine ⟨?_, originals.wire, forwarded⟩
      intro fingerprint stored found
      simp only [PendingAckWindow.pruneRemove, Table.get_removeAll] at found
      split at found
      · cases found
      · exact originals.pending fingerprint stored found
  | lose index =>
      cases stepped
      refine ⟨originals.pending, ?_, forwarded⟩
      intro copy listed
      exact originals.wire copy (List.mem_of_mem_eraseIdx listed)
  | deliver index now =>
      simp only [machine] at stepped
      split at stepped
      · cases stepped
      · rename_i arrived here
        cases stepped
        refine ⟨?_, ?_, forwarded⟩
        · intro fingerprint stored found
          simp only [sender_receive] at found
          simp only [owner_receive]
          exact originals.pending fingerprint stored found
        · intro copy listed
          exact originals.wire copy (List.mem_of_mem_eraseIdx listed)
  | expire | forget =>
      cases stepped
      exact ⟨originals.pending, originals.wire, forwarded⟩

/-! ## What is in the window -/

/-- The receiver files a fingerprint once, under the time it was added, and it forgets one only
after a prune has found it expired. -/
structure Dated (state : Retries) : Prop where
  distinct : (state.expired ++ state.receiver.queue.map Prod.snd).Nodup
  contained : ∀ fingerprint ∈ state.expired ++ state.receiver.queue.map Prod.snd,
    state.receiver.contains fingerprint = true
  dates : ∀ entry ∈ state.receiver.queue, state.addedAt entry.2 = entry.1
  expired : ∀ fingerprint ∈ state.expired, state.overdue fingerprint = true

def Known (state : Retries) (fingerprint : PacketFingerprint) : Prop :=
  state.overdue fingerprint = true ∨ state.receiver.contains fingerprint = true

theorem start_dated : start.Dated where
  distinct := List.nodup_nil
  contained fingerprint listed := by cases listed
  dates entry listed := by cases listed
  expired fingerprint listed := by cases listed

theorem receive_dated {state : Retries} (dated : state.Dated) (copy : Copy) (now : Timestamp) :
    (state.receive xxh3_128 copy now).Dated := by
  by_cases seen : state.receiver.contains (copy.packet.fingerprint xxh3_128) = true
  · rw [receive, if_pos seen]
    exact dated
  · rw [receive, if_neg seen]
    generalize copy.packet.fingerprint xxh3_128 = fingerprint at seen
    have fresh : fingerprint ∉ state.expired ++ state.receiver.queue.map Prod.snd :=
      fun listed => seen (dated.contained fingerprint listed)
    have queue : (state.receiver.add fingerprint now).1.queue =
        state.receiver.queue ++ [(now, fingerprint)] := by
      rw [FingerprintWindow.add, if_neg seen]
    have filed : state.expired ++ (state.receiver.add fingerprint now).1.queue.map Prod.snd =
        (state.expired ++ state.receiver.queue.map Prod.snd) ++ [fingerprint] := by
      rw [queue, List.map_append, List.append_assoc]
      rfl
    refine ⟨?_, ?_, ?_, ?_⟩
    · simp only [filed]
      apply List.Nodup.append dated.distinct (List.nodup_singleton _)
      intro other listed last
      cases List.mem_singleton.mp last
      exact fresh listed
    · intro other listed
      simp only [filed] at listed
      rw [FingerprintWindow.contains_add]
      rcases List.mem_append.mp listed with earlier | last
      · exact Or.inr (dated.contained other earlier)
      · exact Or.inl (List.mem_singleton.mp last)
    · intro entry listed
      simp only [queue] at listed
      rcases List.mem_append.mp listed with earlier | last
      · have different : entry.2 ≠ fingerprint := by
          intro same
          apply fresh
          rw [← same]
          exact List.mem_append_right _ (List.mem_map_of_mem earlier)
        simp only [Function.update_of_ne different]
        exact dated.dates entry earlier
      · cases List.mem_singleton.mp last
        exact Function.update_self ..
    · intro other listed
      have different : other ≠ fingerprint := by
        rintro rfl
        exact fresh (List.mem_append_left _ listed)
      simp only [Function.update_of_ne different]
      exact dated.expired other listed

theorem receive_known {state : Retries} (copy : Copy) (now : Timestamp)
    {fingerprint : PacketFingerprint} (known : state.Known fingerprint) :
    (state.receive xxh3_128 copy now).Known fingerprint := by
  rw [receive]
  split
  · exact known
  · generalize copy.packet.fingerprint xxh3_128 = added
    by_cases same : fingerprint = added
    · exact Or.inr (FingerprintWindow.contains_add.mpr (Or.inl same))
    · rcases known with overdue | contains
      · apply Or.inl
        simp only [Function.update_of_ne same]
        exact overdue
      · exact Or.inr (FingerprintWindow.contains_add.mpr (Or.inr contains))

theorem contains_receive (state : Retries) (copy : Copy) (now : Timestamp) :
    (state.receive xxh3_128 copy now).receiver.contains
      (copy.packet.fingerprint xxh3_128) = true := by
  rw [receive]
  split
  · assumption
  · exact FingerprintWindow.contains_add.mpr (Or.inl rfl)

theorem expire_filed (state : Retries) (now : Timestamp) :
    (state.expire now).expired ++ (state.expire now).receiver.queue.map Prod.snd =
      state.expired ++ state.receiver.queue.map Prod.snd := by
  simp only [expire, FingerprintWindow.pruneQueue]
  rw [List.append_assoc, ← List.map_append, List.takeWhile_append_dropWhile]

theorem expire_dated {state : Retries} (dated : state.Dated) (now : Timestamp) :
    (state.expire now).Dated := by
  refine ⟨?_, ?_, ?_, ?_⟩
  · rw [expire_filed]
    exact dated.distinct
  · rw [expire_filed]
    exact dated.contained
  · intro entry listed
    exact dated.dates entry ((List.dropWhile_sublist _).mem listed)
  · intro fingerprint listed
    rcases List.mem_append.mp listed with earlier | found
    · simp only [expire, dated.expired fingerprint earlier, Bool.true_or]
    · obtain ⟨entry, taken, rfl⟩ := List.mem_map.mp found
      have long := List.mem_takeWhile_imp taken
      simp only [expire, dated.dates entry ((List.takeWhile_sublist _).mem taken), long,
        Bool.or_true]

theorem expire_known {state : Retries} (now : Timestamp) {fingerprint : PacketFingerprint}
    (known : state.Known fingerprint) : (state.expire now).Known fingerprint := by
  rcases known with overdue | contains
  · apply Or.inl
    simp only [expire, overdue, Bool.true_or]
  · exact Or.inr contains

theorem forget_dated {state : Retries} (dated : state.Dated) : state.forget.Dated := by
  obtain ⟨_, queued, apart⟩ := List.nodup_append.mp dated.distinct
  refine ⟨queued, ?_, dated.dates, ?_⟩
  · intro fingerprint listed
    have kept : fingerprint ∉ state.expired :=
      fun expired => apart fingerprint expired fingerprint listed rfl
    simp only [forget, FingerprintWindow.contains_pruneRemove kept]
    exact dated.contained fingerprint (List.mem_append_right _ listed)
  · intro fingerprint listed
    cases listed

theorem forget_known {state : Retries} (dated : state.Dated) {fingerprint : PacketFingerprint}
    (known : state.Known fingerprint) : state.forget.Known fingerprint := by
  by_cases expired : fingerprint ∈ state.expired
  · exact Or.inl (dated.expired fingerprint expired)
  · rcases known with overdue | contains
    · exact Or.inl overdue
    · apply Or.inr
      simp only [forget, FingerprintWindow.contains_pruneRemove expired]
      exact contains

structure Receiving (xxh3_128 : List UInt8 → PacketFingerprint) (state : Retries) : Prop where
  dated : state.Dated
  known : ∀ copy ∈ state.forwarded, state.Known (copy.packet.fingerprint xxh3_128)

theorem start_receiving : start.Receiving xxh3_128 where
  dated := start_dated
  known copy listed := by cases listed

theorem receive_receiving {state : Retries} (receiving : state.Receiving xxh3_128) (copy : Copy)
    (now : Timestamp) : (state.receive xxh3_128 copy now).Receiving xxh3_128 := by
  refine ⟨receive_dated receiving.dated copy now, ?_⟩
  intro other listed
  have earlier : other ∈ state.forwarded ∨ other = copy := by
    rw [forwarded_receive] at listed
    split at listed
    · exact Or.inl listed
    · rcases List.mem_append.mp listed with before | last
      · exact Or.inl before
      · exact Or.inr (List.mem_singleton.mp last)
  rcases earlier with before | rfl
  · exact receive_known copy now (receiving.known other before)
  · exact Or.inr (contains_receive state other now)

theorem step_receiving {state next : Retries} {label : RetriesLabel}
    (receiving : state.Receiving xxh3_128)
    (stepped : (machine xxh3_128 packets).step state label = some next) :
    next.Receiving xxh3_128 := by
  have dated := receiving.dated
  cases label with
  | transmit number =>
      simp only [machine] at stepped
      split at stepped
      · cases stepped
      · split at stepped <;> cases stepped
        exact ⟨⟨dated.distinct, dated.contained, dated.dates, dated.expired⟩, receiving.known⟩
  | innerAdd number now =>
      simp only [machine] at stepped
      split at stepped
      · cases stepped
      · split at stepped <;> cases stepped
        exact ⟨⟨dated.distinct, dated.contained, dated.dates, dated.expired⟩, receiving.known⟩
  | pruneRetry established =>
      simp only [machine] at stepped
      split at stepped <;> cases stepped
      exact ⟨⟨dated.distinct, dated.contained, dated.dates, dated.expired⟩, receiving.known⟩
  | acknowledge | pruneQueue | pruneRemove | lose =>
      cases stepped
      exact ⟨⟨dated.distinct, dated.contained, dated.dates, dated.expired⟩, receiving.known⟩
  | deliver index now =>
      simp only [machine] at stepped
      split at stepped
      · cases stepped
      · rename_i copy here
        cases stepped
        have received := receive_receiving receiving copy now
        exact ⟨⟨received.dated.distinct, received.dated.contained, received.dated.dates,
          received.dated.expired⟩, received.known⟩
  | expire now =>
      cases stepped
      exact ⟨expire_dated dated now, fun copy listed =>
        expire_known now (receiving.known copy listed)⟩
  | forget =>
      cases stepped
      exact ⟨forget_dated dated, fun copy listed =>
        forget_known dated (receiving.known copy listed)⟩

/-! ## At most once -/

structure Sound (xxh3_128 : List UInt8 → PacketFingerprint) (packets : List ControlPacket)
    (state : Retries) : Prop where
  originals : state.Originals xxh3_128 packets
  receiving : state.Receiving xxh3_128

theorem InTime.inWindow {state : Retries} {label : RetriesLabel}
    (sound : state.Sound xxh3_128 packets) (inTime : state.InTime xxh3_128 label) :
    state.InWindow xxh3_128 label := by
  cases label with
  | deliver index now =>
      intro copy here superseded
      obtain ⟨⟨earlier, listed, same⟩, fresh⟩ := inTime copy here superseded
      obtain ⟨created, known, packet⟩ := sound.originals.wire copy (List.mem_of_getElem? here)
      obtain ⟨createdEarlier, knownEarlier, packetEarlier⟩ := sound.originals.forwarded earlier listed
      rw [same, known] at knownEarlier
      cases knownEarlier
      have seen := sound.receiving.known earlier listed
      rw [packetEarlier, ← packet] at seen
      rcases seen with overdue | contains
      · rw [fresh] at overdue
        cases overdue
      · exact contains
  | _ => trivial

/-- Control packets are applied at most once, and in the order in which they were created as far
as retries go, in exactly the runs in which nothing that would be applied out of turn arrives after
its fingerprint has left the window.  Every run in which these datagrams arrive in time is one. -/
theorem appliedOnce_iff_inWindow (xxh3_128 : List UInt8 → PacketFingerprint)
    (packets : List ControlPacket) (labels : List RetriesLabel) (final : Retries)
    (ran : (machine xxh3_128 packets).run start labels = some final) :
    ((machine xxh3_128 packets).HoldsAlong AppliedOnce start labels ↔
      (machine xxh3_128 packets).Guarded (InWindow xxh3_128) start labels) ∧
    ((machine xxh3_128 packets).Guarded (InTime xxh3_128) start labels →
      (machine xxh3_128 packets).HoldsAlong AppliedOnce start labels) := by
  have exact : (machine xxh3_128 packets).HoldsAlong AppliedOnce start labels ↔
      (machine xxh3_128 packets).Guarded (InWindow xxh3_128) start labels := by
    have nothing : start.AppliedOnce := List.Pairwise.nil
    apply Machine.holdsAlong_iff_guarded _ _ nothing ran
    intro state label next applied stepped
    exact step_appliedOnce_iff applied stepped
  refine ⟨exact, ?_⟩
  intro guarded
  rw [exact]
  have sound : start.Sound xxh3_128 packets := ⟨start_originals, start_receiving⟩
  apply Machine.guarded_of_guarded _ _ _ sound guarded
  · intro state label holds inTime
    exact inTime.inWindow holds
  · intro state label next holds stepped
    exact ⟨step_originals holds.originals stepped, step_receiving holds.receiving stepped⟩

/-! ## A pause that comes back -/

def applied (session : ConnectionStates) (loop : SendLoop) (forwarded : List Copy) : SendLoop :=
  forwarded.foldl (fun loop copy =>
    match copy.packet with
    | .playbackControl packet => (handleStreamEvent session loop (StreamEvent.fromPacket packet)).2
    | _ => loop) loop

/-- A packet of `send_playback_control_packet`. -/
def playbackControl (opts : Options) (fresh : opts.contains .resend = false)
    (playbackType : PlaybackControlType) (now : Timestamp) : ControlPacket where
  packet := .playbackControl (PlaybackControlPacket.new opts ⟨1⟩ playbackType none now)
  kind := Or.inl rfl
  registered := Options.addAck_set_requireAck fresh

/-- A `Pause` created at 0 ms and a `Play` created at 502 ms. -/
def pausePlay : List ControlPacket :=
  [playbackControl Options.none (by decide) .pause (atMillisecond 0),
    playbackControl Options.none (by decide) .play (atMillisecond 502)]

def pausePlayXxh3 (headers : List UInt8) : PacketFingerprint :=
  if headers = [0, 1, 0, 1, 9, 102, 0, 0, 0, 0, 0, 0, 0, 0, 0, 1, 0, 0, 0, 0, 0, 0, 0, 0, 0, 0,
      0, 0] then
    ⟨[161, 71, 241, 224, 66, 137, 180, 59, 57, 252, 241, 13, 127, 41, 181, 189], rfl⟩
  else
    ⟨[116, 155, 3, 224, 92, 187, 234, 120, 41, 88, 51, 178, 114, 198, 25, 250], rfl⟩

/-- The `Pause` arrives twice, then the `Play`. -/
def inTurn : List RetriesLabel :=
  [.transmit 0, .innerAdd 0 (atMillisecond 0), .deliver 0 (atMillisecond 0),
    .deliver 0 (atMillisecond 0), .transmit 1, .deliver 1 (atMillisecond 502)]

/-- The prunes of the receiver and of the sender run 503 ms after the `Pause`. -/
def retriedPause : List RetriesLabel :=
  [.transmit 0, .innerAdd 0 (atMillisecond 0), .deliver 0 (atMillisecond 0),
    .deliver 0 (atMillisecond 0), .deliver 0 (atMillisecond 0), .expire (atMillisecond 501),
    .forget, .transmit 1, .innerAdd 1 (atMillisecond 502), .deliver 0 (atMillisecond 502),
    .deliver 0 (atMillisecond 502), .deliver 0 (atMillisecond 502),
    .pruneQueue fun _ => atMillisecond 503, .pruneRetry true, .deliver 0 (atMillisecond 504)]

theorem appliedOnce_iff_inWindow_inTurn :
    ∃ final, (machine pausePlayXxh3 pausePlay).run start inTurn = some final ∧
      (machine pausePlayXxh3 pausePlay).HoldsAlong AppliedOnce start inTurn := by
  obtain ⟨final, ran⟩ :
      ∃ final, (machine pausePlayXxh3 pausePlay).run start inTurn = some final := ⟨_, rfl⟩
  refine ⟨final, ran, ?_⟩
  apply (appliedOnce_iff_inWindow pausePlayXxh3 pausePlay inTurn final ran).2
  refine ⟨trivial, ?_⟩
  intro sent stepped
  cases stepped
  refine ⟨trivial, ?_⟩
  intro added stepped
  cases stepped
  refine ⟨?_, ?_⟩
  · rintro copy _ ⟨earlier, listed, _⟩
    cases listed
  intro arrived stepped
  cases stepped
  refine ⟨?_, ?_⟩
  · -- the duplicate of the `Pause`
    intro copy here _
    cases here
    exact ⟨⟨_, List.mem_cons_self, rfl⟩, by decide +kernel⟩
  intro dropped stepped
  cases stepped
  refine ⟨trivial, ?_⟩
  intro sentPlay stepped
  cases stepped
  refine ⟨?_, fun _ _ => trivial⟩
  -- nothing that was forwarded supersedes the `Play`
  rintro copy here ⟨earlier, listed, superseded⟩
  cases here
  cases List.mem_singleton.mp listed
  rcases superseded with same | ⟨play, _⟩
  · cases same
  · cases play

/-- The retry comes after the receiver has forgotten the first `Pause`, and the stream that was
started again stops. -/
theorem pause_applied_after_play :
    ∃ final, (machine pausePlayXxh3 pausePlay).run start retriedPause = some final ∧
      final.forwarded.map Copy.number = [0, 1, 0] ∧
      (applied (.handshake ⟨1⟩ ⟨[]⟩ ⟨[127, 0, 0, 1], 6969⟩) SendLoop.new
        final.forwarded).playing = false ∧
      ¬ final.AppliedOnce := by
  have runs : ((machine pausePlayXxh3 pausePlay).run start retriedPause).map (fun final =>
      (final.forwarded.map Copy.number,
        (applied (.handshake ⟨1⟩ ⟨[]⟩ ⟨[127, 0, 0, 1], 6969⟩) SendLoop.new
          final.forwarded).playing)) = some ([0, 1, 0], false) := by
    decide +kernel
  obtain ⟨final, ran, both⟩ := Option.map_eq_some_iff.mp runs
  obtain ⟨numbers, playing⟩ := Prod.mk.inj both
  refine ⟨final, ran, numbers, playing, ?_⟩
  intro once
  have distinct : (final.forwarded.map Copy.number).Nodup := by
    rw [List.Nodup, List.pairwise_map]
    exact once.imp fun apart same => apart (Or.inl same)
  rw [numbers] at distinct
  exact absurd distinct (by decide)

end Retries
end Ubass

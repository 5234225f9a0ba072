import Ubass.Api.Calls
import Ubass.Manager.Streams

/-!
# Requests for chunks over a whole run

The score policy, the final sweep and the task that prunes batches all ask through
`reserve_for_request`.  A marker is left for each chunk that is asked for, and goes
when the chunk arrives or when the marker is older than `PENDING_TTL_MS`.  So of
two requests for one chunk the second finds the first one's marker gone, which is
what keeps them apart (`Paced`).
-/

set_option autoImplicit false

namespace Ubass

abbrev BytePosition.chunk (self : BytePosition) : Nat := self.toNat / maxPayloadLength

def Timestamp.between (first last reading : Timestamp) : Timestamp :=
  if reading.toNat < first.toNat then first
  else if last.toNat < reading.toNat then last
  else reading

theorem Timestamp.between_bounds {first last : Timestamp} (ordered : first.toNat ≤ last.toNat)
    (reading : Timestamp) :
    first.toNat ≤ (between first last reading).toNat ∧
      (between first last reading).toNat ≤ last.toNat := by
  unfold between
  split
  · exact ⟨Nat.le_refl _, ordered⟩
  · split
    · exact ⟨ordered, Nat.le_refl _⟩
    · omega

namespace StreamingFrom

/-- The sweep of `reserve_for_request`, which reads the clock for each marker. -/
def sweep (self : StreamingFrom) (readings : Nat → Timestamp) : StreamingFrom :=
  { self with
    pending := self.pending.retain fun index since =>
      !since.beenLongerThan (readings index) pendingTtlMs }

/-- `reserve_for_request` with a reading of the clock for each marker, and a last one. -/
def reserveSwept (self : StreamingFrom) (positions : List BytePosition)
    (readings : Nat → Timestamp) (now : Timestamp) : StreamingFrom × List BytePosition :=
  (self.sweep readings).reserve now positions

theorem reserveForRequest_eq (self : StreamingFrom) (positions : List BytePosition)
    (now : Timestamp) :
    self.reserveForRequest positions now = self.reserveSwept positions (fun _ => now) now := rfl

/-- What a data packet or a recovered packet does: it is written, and its marker is cleared when
the write succeeds. -/
def receivePacket (self : StreamingFrom) (position : BytePosition) (payload : List UInt8) :
    StreamingFrom :=
  match self.buffer.write position payload with
  | (buffer, .ok _) => clearPending { self with buffer := buffer } position
  | (buffer, .error _) => { self with buffer := buffer }

@[simp] theorem sweep_buffer (self : StreamingFrom) (readings : Nat → Timestamp) :
    (self.sweep readings).buffer = self.buffer := rfl

theorem get_sweep_eq_some {self : StreamingFrom} {readings : Nat → Timestamp} {index : Nat}
    {since : Timestamp} :
    (self.sweep readings).pending.get index = some since ↔
      self.pending.get index = some since ∧
        since.beenLongerThan (readings index) pendingTtlMs = false := by
  have filtered : (self.sweep readings).pending.get index =
      (self.pending.get index).filter fun since =>
        !since.beenLongerThan (readings index) pendingTtlMs := rfl
  rw [filtered, Option.filter_eq_some_iff]
  simp

theorem get_sweep_of_none {self : StreamingFrom} {readings : Nat → Timestamp} {index : Nat}
    (absent : self.pending.get index = none) :
    (self.sweep readings).pending.get index = none := by
  cases found : (self.sweep readings).pending.get index with
  | none => rfl
  | some since =>
      rw [(get_sweep_eq_some.mp found).1] at absent
      cases absent

/-- What the filter of `reserve_for_request` accepts and marks. -/
structure ReserveSpec (stream : StreamingFrom) (now : Timestamp) (positions : List BytePosition)
    (last : StreamingFrom) (accepted : List BytePosition) : Prop where
  buffer : last.buffer = stream.buffer
  sublist : accepted.Sublist positions
  missing : ∀ position ∈ accepted,
    stream.buffer.positionOccupied position = some false ∧ stream.pending.get position.chunk = none
  distinct : accepted.Pairwise fun left right => left.chunk ≠ right.chunk
  marks : ∀ index, last.pending.get index =
    if index ∈ accepted.map BytePosition.chunk then some now else stream.pending.get index
  complete : ∀ position ∈ positions, stream.buffer.positionOccupied position = some false →
    stream.pending.get position.chunk = none → position.chunk ∈ accepted.map BytePosition.chunk

theorem ReserveSpec.unfilled {self last : StreamingFrom} {now : Timestamp}
    {positions accepted : List BytePosition} (spec : ReserveSpec self now positions last accepted)
    {position : BytePosition} (taken : position ∈ accepted) :
    self.buffer.map[position.chunk]? = some false :=
  (WriteableBuffer.positionOccupied_eq_some.mp (spec.missing position taken).1).2

theorem ReserveSpec.skip {self last : StreamingFrom} {now : Timestamp} {position : BytePosition}
    {rest accepted : List BytePosition} (spec : ReserveSpec self now rest last accepted)
    (skipped : self.buffer.positionOccupied position ≠ some false ∨
      self.pending.get position.chunk ≠ none) :
    ReserveSpec self now (position :: rest) last accepted := by
  refine ⟨spec.buffer, spec.sublist.cons _, spec.missing, spec.distinct, spec.marks, ?_⟩
  intro other listed unoccupied absent
  rcases List.mem_cons.mp listed with rfl | later
  · rcases skipped with filled | pending
    · exact absurd unoccupied filled
    · exact absurd absent pending
  · exact spec.complete other later unoccupied absent

theorem ReserveSpec.take {self last : StreamingFrom} {now : Timestamp} {position : BytePosition}
    {rest accepted : List BytePosition}
    (spec : ReserveSpec { self with pending := self.pending.insert position.chunk now } now rest
      last accepted)
    (unoccupied : self.buffer.positionOccupied position = some false)
    (absent : self.pending.get position.chunk = none) :
    ReserveSpec self now (position :: rest) last (position :: accepted) := by
  have apart : ∀ other ∈ accepted, other.chunk ≠ position.chunk ∧
      self.pending.get other.chunk = none := by
    intro other taken
    have unmarked := (spec.missing other taken).2
    rw [Table.get_insert] at unmarked
    split at unmarked
    · cases unmarked
    · exact ⟨‹_›, unmarked⟩
  refine ⟨spec.buffer, spec.sublist.cons_cons _, ?_, ?_, ?_, ?_⟩
  · intro other listed
    rcases List.mem_cons.mp listed with rfl | later
    · exact ⟨unoccupied, absent⟩
    · exact ⟨(spec.missing other later).1, (apart other later).2⟩
  · refine List.pairwise_cons.mpr ⟨?_, spec.distinct⟩
    intro other later same
    exact (apart other later).1 same.symm
  · intro index
    rw [spec.marks index, Table.get_insert, List.map_cons]
    by_cases here : index = position.chunk
    · simp [here]
    · simp only [List.mem_cons, here, false_or, if_false]
  · intro other listed unoccupiedOther absentOther
    rw [List.map_cons]
    by_cases same : other.chunk = position.chunk
    · exact same ▸ List.mem_cons_self
    · rcases List.mem_cons.mp listed with rfl | later
      · exact absurd rfl same
      · refine List.mem_cons_of_mem _ (spec.complete other later unoccupiedOther ?_)
        rw [Table.get_insert_of_ne _ _ same]
        exact absentOther

theorem reserve_spec (self : StreamingFrom) (now : Timestamp) (positions : List BytePosition) :
    ReserveSpec self now positions (self.reserve now positions).1 (self.reserve now positions).2 := by
  induction positions generalizing self with
  | nil => exact ⟨rfl, .slnil, nofun, .nil, fun _ => rfl, nofun⟩
  | cons position rest ih =>
      rw [reserve]
      split
      · -- the chunk is filled, out of range or asked for already
        rename_i skipped
        refine (ih self).skip ?_
        rcases skipped with filled | pending
        · left
          intro unoccupied
          simp [unoccupied] at filled
        · right
          intro absent
          simp [Table.contains, absent] at pending
      · rename_i taken
        obtain ⟨vacant, fresh⟩ := not_or.mp taken
        have unoccupied : self.buffer.positionOccupied position = some false := by
          cases occupied : self.buffer.positionOccupied position with
          | none => simp [occupied] at vacant
          | some filled => simpa [occupied] using vacant
        exact (ih _).take unoccupied
          (Table.get_of_not_contains (Bool.eq_false_of_not_eq_true fresh))

end StreamingFrom

/-! ## Runs -/

/-- The receiving side of a session, the last reading of its clock, and the requests that were
accepted, the latest first. -/
structure Requested where
  stream : StreamingFrom
  now : Timestamp
  accepted : List (BytePosition × Timestamp)

def Requested.new (buffer : Buffer) (now : Timestamp) : Requested :=
  ⟨StreamingFrom.new (WriteableBuffer.new buffer), now, []⟩

/-- Any decider asks for any positions, a packet arrives, the application seeks. -/
inductive RequestCall where
  | reserve (positions : List BytePosition) (readings : Nat → Timestamp) (now : Timestamp)
  | receive (position : BytePosition) (payload : List UInt8)
  | seek (position : BytePosition)

/-- The calls in any order.  The clock does not go back, between calls or inside one. -/
def requester (profile : Profile) : Machine Requested RequestCall where
  initial state := ∃ buffer now, state = Requested.new buffer now
  step state call :=
    match call with
    | .reserve positions readings now =>
        if state.now.toNat ≤ now.toNat then
          let readings index := Timestamp.between state.now now (readings index)
          let (stream, accepted) := state.stream.reserveSwept positions readings now
          some ⟨stream, now, accepted.map (fun position => (position, now)) ++ state.accepted⟩
        else none
    | .receive position payload =>
        if profile = .overflowChecks ∧ state.stream.buffer.writeOverflows position payload = true then
          none
        else some { state with stream := state.stream.receivePacket position payload }
    | .seek position =>
        if profile = .overflowChecks ∧ state.stream.buffer.seekOverflows position = true then none
        else some { state with
          stream := { state.stream with buffer := (state.stream.buffer.seekHead position).1 } }

namespace Requested

/-- What one call does: it asks, fills a chunk and clears its marker, or leaves the map and the
markers alone. -/
inductive RequestStep (state : Requested) : Requested → Prop
  | reserved (positions accepted : List BytePosition) (readings : Nat → Timestamp) (now : Timestamp)
      (next : Requested) (later : state.now.toNat ≤ now.toNat)
      (bounds : ∀ index, state.now.toNat ≤ (readings index).toNat ∧
        (readings index).toNat ≤ now.toNat)
      (spec : StreamingFrom.ReserveSpec (state.stream.sweep readings) now positions next.stream
        accepted)
      (clock : next.now = now)
      (log : next.accepted = accepted.map (fun position => (position, now)) ++ state.accepted) :
      RequestStep state next
  | received (position : BytePosition) (next : Requested)
      (unfilled : state.stream.buffer.map[position.chunk]? = some false)
      (present : state.stream.buffer.buffer.memory ≠ none)
      (memory : next.stream.buffer.buffer.memory ≠ none)
      (map : next.stream.buffer.map = state.stream.buffer.map.set position.chunk true)
      (pending : next.stream.pending = state.stream.pending.remove position.chunk)
      (clock : next.now = state.now) (log : next.accepted = state.accepted) :
      RequestStep state next
  | marked (position : BytePosition) (next : Requested)
      (missing : state.stream.buffer.buffer.memory = none) : RequestStep state next
  | idle (next : Requested) (map : next.stream.buffer.map = state.stream.buffer.map)
      (memory : next.stream.buffer.buffer.memory = none ↔
        state.stream.buffer.buffer.memory = none)
      (pending : next.stream.pending = state.stream.pending) (clock : next.now = state.now)
      (log : next.accepted = state.accepted) : RequestStep state next

theorem requester_step {profile : Profile} {state next : Requested} {call : RequestCall}
    (stepped : (requester profile).step state call = some next) : RequestStep state next := by
  cases call with
  | reserve positions readings now =>
      obtain ⟨later, same⟩ := Option.ite_none_right_eq_some.mp stepped
      cases same
      exact .reserved positions _ _ now _ later
        (fun index => Timestamp.between_bounds later (readings index))
        (StreamingFrom.reserve_spec _ now positions) rfl rfl
  | receive position payload =>
      obtain ⟨_, same⟩ := Option.ite_none_left_eq_some.mp stepped
      cases same
      have written := WriteableBuffer.write_step state.stream.buffer position payload
      simp only [StreamingFrom.receivePacket]
      generalize state.stream.buffer.write position payload = result at written ⊢
      cases written with
      | rejected error _ => exact .idle _ rfl Iff.rfl rfl rfl rfl
      | null _ missing => exact .marked position _ missing
      | written memory copied accepts present map _ _ bytes =>
          have unfilled := (WriteableBuffer.writeRejects_eq_none.mp accepts).2.1
          refine .received position _ unfilled (by simp [present]) ?_ ?_ rfl rfl rfl
          · simp [bytes]
          · simp [map]
  | seek position =>
      obtain ⟨_, same⟩ := Option.ite_none_left_eq_some.mp stepped
      cases same
      exact .idle _ (WriteableBuffer.seekHead_map _ _)
        (by rw [WriteableBuffer.seekHead_buffer]) rfl rfl rfl

/-- Why two requests for a chunk are apart: whoever was asked for has arrived, still has a marker
that is not older than the request, or was asked for long ago. -/
structure Paced (state : Requested) : Prop where
  present : state.stream.buffer.buffer.memory ≠ none
  markers : ∀ index since, state.stream.pending.get index = some since →
    since.toNat ≤ state.now.toNat
  vacant : ∀ index, state.stream.buffer.map[index]? = some true →
    state.stream.pending.get index = none
  asked : ∀ request ∈ state.accepted, request.2.toNat ≤ state.now.toNat
  covered : ∀ request ∈ state.accepted,
    state.stream.buffer.map[request.1.chunk]? = some true ∨
      (∃ since, state.stream.pending.get request.1.chunk = some since ∧
        request.2.toNat ≤ since.toNat) ∨
      request.2.toNat + StreamingFrom.pendingTtlMs < state.now.toNat
  spaced : state.accepted.Pairwise fun later earlier => later.1.chunk = earlier.1.chunk →
    earlier.2.toNat + StreamingFrom.pendingTtlMs < later.2.toNat

theorem new_paced {buffer : Buffer} (present : buffer.memory ≠ none) (now : Timestamp) :
    (new buffer now).Paced where
  present := present
  markers index since found := by cases found
  vacant index _ := rfl
  asked request listed := by cases listed
  covered request listed := by cases listed
  spaced := .nil

theorem old_of_swept {state : Requested} {readings : Nat → Timestamp} {now since : Timestamp}
    {index : Nat} (found : state.stream.pending.get index = some since)
    (past : since.toNat ≤ state.now.toNat)
    (bounds : state.now.toNat ≤ (readings index).toNat ∧ (readings index).toNat ≤ now.toNat)
    (swept : (state.stream.sweep readings).pending.get index = none) :
    since.toNat + StreamingFrom.pendingTtlMs < now.toNat := by
  have old : since.beenLongerThan (readings index) StreamingFrom.pendingTtlMs = true := by
    by_contra fresh
    rw [StreamingFrom.get_sweep_eq_some.mpr ⟨found, Bool.eq_false_of_not_eq_true fresh⟩] at swept
    cases swept
  rw [Timestamp.beenLongerThan_iff (past.trans bounds.1)] at old
  omega

/-- A chunk that was asked for before and has no marker after the sweep, nor arrived, was asked
for long ago. -/
theorem Paced.old_request {state : Requested} (paced : state.Paced) {readings : Nat → Timestamp}
    {now : Timestamp} (later : state.now.toNat ≤ now.toNat)
    (bounds : ∀ index, state.now.toNat ≤ (readings index).toNat ∧
      (readings index).toNat ≤ now.toNat)
    {request : BytePosition × Timestamp} (listed : request ∈ state.accepted)
    (unfilled : state.stream.buffer.map[request.1.chunk]? ≠ some true)
    (absent : (state.stream.sweep readings).pending.get request.1.chunk = none) :
    request.2.toNat + StreamingFrom.pendingTtlMs < now.toNat := by
  rcases paced.covered request listed with filled | ⟨since, found, notBefore⟩ | old
  · exact absurd filled unfilled
  · have swept := old_of_swept found (paced.markers _ _ found) (bounds _) absent
    omega
  · omega

section Reserved

variable {state next : Requested} {positions accepted : List BytePosition}
  {readings : Nat → Timestamp} {now : Timestamp} (paced : state.Paced)
  (later : state.now.toNat ≤ now.toNat)
  (bounds : ∀ index, state.now.toNat ≤ (readings index).toNat ∧
    (readings index).toNat ≤ now.toNat)
  (spec : StreamingFrom.ReserveSpec (state.stream.sweep readings) now positions next.stream accepted)
  (log : next.accepted = accepted.map (fun position => (position, now)) ++ state.accepted)

include paced later log

theorem asked_reserved {request : BytePosition × Timestamp} (listed : request ∈ next.accepted) :
    request.2.toNat ≤ now.toNat := by
  rw [log] at listed
  rcases List.mem_append.mp listed with fresh | old
  · obtain ⟨position, _, rfl⟩ := List.mem_map.mp fresh
    exact Nat.le_refl _
  · exact (paced.asked request old).trans later

include bounds spec

theorem covered_reserved {request : BytePosition × Timestamp} (listed : request ∈ next.accepted) :
    next.stream.buffer.map[request.1.chunk]? = some true ∨
      (∃ since, next.stream.pending.get request.1.chunk = some since ∧
        request.2.toNat ≤ since.toNat) ∨
      request.2.toNat + StreamingFrom.pendingTtlMs < now.toNat := by
  have buffer : next.stream.buffer = state.stream.buffer := spec.buffer
  rw [buffer]
  by_cases marked : request.1.chunk ∈ accepted.map BytePosition.chunk
  · exact Or.inr (Or.inl ⟨now, by rw [spec.marks, if_pos marked],
      asked_reserved paced later log listed⟩)
  · have old : request ∈ state.accepted := by
      rw [log] at listed
      rcases List.mem_append.mp listed with fresh | old
      · obtain ⟨position, taken, rfl⟩ := List.mem_map.mp fresh
        exact absurd (List.mem_map_of_mem taken) marked
      · exact old
    by_cases filled : state.stream.buffer.map[request.1.chunk]? = some true
    · exact Or.inl filled
    · cases kept : (state.stream.sweep readings).pending.get request.1.chunk with
      | none => exact Or.inr (Or.inr (paced.old_request later bounds old filled kept))
      | some since =>
          obtain ⟨found, _⟩ := StreamingFrom.get_sweep_eq_some.mp kept
          rcases paced.covered request old with filled' | ⟨other, foundOther, notBefore⟩ | long
          · exact Or.inl filled'
          · rw [found] at foundOther
            cases foundOther
            exact Or.inr (Or.inl ⟨since, by rw [spec.marks, if_neg marked, kept], notBefore⟩)
          · exact Or.inr (Or.inr (by omega))

theorem spaced_reserved : next.accepted.Pairwise fun later earlier =>
    later.1.chunk = earlier.1.chunk →
      earlier.2.toNat + StreamingFrom.pendingTtlMs < later.2.toNat := by
  rw [log]
  refine List.pairwise_append.mpr ⟨?_, paced.spaced, ?_⟩
  · refine List.pairwise_map.mpr (spec.distinct.imp ?_)
    intro left right apart same
    exact absurd same apart
  · intro fresh isFresh request old same
    obtain ⟨position, taken, rfl⟩ := List.mem_map.mp isFresh
    have absent := (spec.missing position taken).2
    have missing : state.stream.buffer.map[position.chunk]? = some false := spec.unfilled taken
    simp only at same
    rw [same] at absent missing
    exact paced.old_request later bounds old (by rw [missing]; nofun) absent

theorem paced_reserved (clock : next.now = now) : next.Paced := by
  have buffer : next.stream.buffer = state.stream.buffer := spec.buffer
  refine ⟨by rw [buffer]; exact paced.present, ?_, ?_, ?_, ?_,
    spaced_reserved paced later bounds spec log⟩
  · intro index since found
    rw [spec.marks index] at found
    rw [clock]
    split at found
    · cases found
      exact Nat.le_refl _
    · exact (paced.markers index since (StreamingFrom.get_sweep_eq_some.mp found).1).trans later
  · intro index filled
    rw [buffer] at filled
    rw [spec.marks index, if_neg]
    · exact StreamingFrom.get_sweep_of_none (paced.vacant index filled)
    · intro marked
      obtain ⟨position, taken, same⟩ := List.mem_map.mp marked
      have missing : state.stream.buffer.map[position.chunk]? = some false := spec.unfilled taken
      rw [← same, missing] at filled
      cases filled
  · intro request listed
    rw [clock]
    exact asked_reserved paced later log listed
  · intro request listed
    rw [clock]
    exact covered_reserved paced later bounds spec log listed

end Reserved

theorem paced_received {state next : Requested} {position : BytePosition} (paced : state.Paced)
    (unfilled : state.stream.buffer.map[position.chunk]? = some false)
    (memory : next.stream.buffer.buffer.memory ≠ none)
    (map : next.stream.buffer.map = state.stream.buffer.map.set position.chunk true)
    (pending : next.stream.pending = state.stream.pending.remove position.chunk)
    (clock : next.now = state.now) (log : next.accepted = state.accepted) : next.Paced := by
  have bound := (List.getElem?_eq_some_iff.mp unfilled).1
  refine ⟨memory, ?_, ?_, ?_, ?_, by rw [log]; exact paced.spaced⟩
  · intro index since found
    rw [pending] at found
    rw [clock]
    exact paced.markers index since (Table.get_of_get_remove found).2
  · intro index filled
    rw [map] at filled
    rw [pending, Table.get_remove]
    split
    · rfl
    · rename_i other
      rw [List.getElem?_set_ne (Ne.symm other)] at filled
      exact paced.vacant index filled
  · rw [log, clock]
    exact paced.asked
  · intro request listed
    rw [log] at listed
    rw [map, pending, clock]
    by_cases here : request.1.chunk = position.chunk
    · rw [here]
      exact Or.inl (List.getElem?_set_self bound)
    · rw [List.getElem?_set_ne (Ne.symm here), Table.get_remove_of_ne _ here]
      exact paced.covered request listed

theorem requester_paced {profile : Profile} {state next : Requested} {call : RequestCall}
    (paced : state.Paced) (stepped : (requester profile).step state call = some next) :
    next.Paced := by
  cases requester_step stepped with
  | reserved positions accepted readings now next later bounds spec clock log =>
      exact paced_reserved paced later bounds spec log clock
  | received position next unfilled _ memory map pending clock log =>
      exact paced_received paced unfilled memory map pending clock log
  | marked position next missing => exact absurd missing paced.present
  | idle next map memory pending clock log =>
      refine ⟨fun missing => paced.present (memory.mp missing), ?_, ?_, ?_, ?_, ?_⟩
      · rw [pending, clock]
        exact paced.markers
      · rw [map, pending]
        exact paced.vacant
      · rw [log, clock]
        exact paced.asked
      · rw [log, map, pending, clock]
        exact paced.covered
      · rw [log]
        exact paced.spaced

def AcceptsMissing (before after : Requested) : Prop :=
  ∃ fresh, after.accepted = fresh ++ before.accepted ∧
    ∀ request ∈ fresh, before.stream.buffer.positionOccupied request.1 = some false

theorem requester_acceptsMissing {profile : Profile} {state next : Requested} {call : RequestCall}
    (paced : state.Paced) (stepped : (requester profile).step state call = some next) :
    AcceptsMissing state next := by
  cases requester_step stepped with
  | reserved positions accepted readings now next _ _ spec _ log =>
      refine ⟨_, log, ?_⟩
      intro request listed
      obtain ⟨position, taken, rfl⟩ := List.mem_map.mp listed
      exact (spec.missing position taken).1
  | received position next _ _ _ _ _ _ log => exact ⟨[], log, nofun⟩
  | marked position next missing => exact absurd missing paced.present
  | idle next _ _ _ _ log => exact ⟨[], log, nofun⟩

/-- Over every run on a buffer that is not null: requests for one chunk are further apart than a
marker lives, only chunks that are missing are asked for, and one that has arrived is not marked. -/
theorem requests_spaced {profile : Profile} {buffer : Buffer} {start : Timestamp}
    {calls : List RequestCall} {final : Requested} (present : buffer.memory ≠ none)
    (ran : (requester profile).run (new buffer start) calls = some final) :
    final.accepted.Pairwise (fun later earlier => later.1.chunk = earlier.1.chunk →
        earlier.2.toNat + StreamingFrom.pendingTtlMs < later.2.toNat) ∧
      (requester profile).StepsMeet AcceptsMissing (new buffer start) calls ∧
      ∀ index, final.stream.buffer.map[index]? = some true →
        final.stream.pending.get index = none := by
  have started := new_paced present start
  have kept : ∀ (state : Requested) (call : RequestCall) (next : Requested), state.Paced →
      (requester profile).step state call = some next → next.Paced := by
    intro state call next paced stepped
    exact requester_paced paced stepped
  have paced := (requester profile).run_preserves kept started ran
  refine ⟨paced.spaced, ?_, paced.vacant⟩
  have accepts : ∀ (state : Requested) (call : RequestCall) (next : Requested), state.Paced →
      (requester profile).step state call = some next →
        next.Paced ∧ AcceptsMissing state next := by
    intro state call next before stepped
    exact ⟨requester_paced before stepped, requester_acceptsMissing before stepped⟩
  exact (requester profile).stepsMeet_of_invariant accepts started calls

/-- The only chunk of a buffer, asked for twice with a reading past the lifetime of the marker in
between, and written afterwards. -/
def askedTwice : List RequestCall :=
  [.reserve [BytePosition.ofNat 0, BytePosition.ofNat 1] (fun _ => ⟨0, Timestamp.zero_lt⟩) ⟨7, by decide⟩,
    .reserve [BytePosition.ofNat 0] (fun _ => ⟨508, by decide⟩) ⟨508, by decide⟩,
    .receive (BytePosition.ofNat 0) [1, 2, 3]]

theorem requests_spaced_twice :
    ∃ final, (requester .release).run (new (Buffer.ofBytes [0, 0, 0]) ⟨0, by decide⟩) askedTwice =
        some final ∧
      final.accepted = [(BytePosition.ofNat 0, ⟨508, by decide⟩),
        (BytePosition.ofNat 0, ⟨7, by decide⟩)] ∧
      final.accepted.Pairwise (fun later earlier => later.1.chunk = earlier.1.chunk →
        earlier.2.toNat + StreamingFrom.pendingTtlMs < later.2.toNat) ∧
      (requester .release).StepsMeet AcceptsMissing
        (new (Buffer.ofBytes [0, 0, 0]) ⟨0, by decide⟩) askedTwice ∧
      ∀ index, final.stream.buffer.map[index]? = some true →
        final.stream.pending.get index = none :=
  ⟨_, rfl, by decide +kernel, requests_spaced (by decide) rfl⟩

end Requested
end Ubass

import Mathlib.Algebra.BigOperators.Group.Finset.Basic
import Mathlib.Algebra.Order.BigOperators.Group.Finset
import Mathlib.Logic.Function.Basic
import Ubass.Lib.Machine
import Ubass.Fec.Xor

/-!
# One parity packet for a batch

The calls of `Xor::sent` for the packets of one batch, taking the steps between
their locks in any order.  The calls meet at the entry that the first of them
creates; the one whose block is the last takes the entry out of the map and builds
the parity packet.  `FECInfo::new` then adds two `u8` in a debug assertion, which
stops a build with debug assertions when the batch has 255 packets.
-/

set_option autoImplicit false

namespace Ubass

/-- How far a call of `sent` has come. -/
inductive SentCall where
  | entering
  | adding (ref : Nat)
  | removing
  | building (ref : Nat)
  | returned (parity : Option ParityPacket)
  | panicked

/-- The calls for the packets of a batch, on the state they share. -/
structure SentCalls where
  xor : Xor
  calls : Nat → SentCall

namespace SentCalls

def start (xor : Xor) : SentCalls := ⟨xor, fun _ => .entering⟩

def setCall (self : SentCalls) (index : Nat) (call : SentCall) : Nat → SentCall :=
  Function.update self.calls index call

end SentCalls

/-- Which call takes its next step, and what the clock reads if it builds a packet. -/
abbrev SentLabel := Nat × Timestamp

/-- The steps of the calls, each under one lock.  A call panics when the entry to remove is not
there, and when the assertions of `FECInfo::new` fail. -/
def sentCalls (debugAssertions : Bool) (packets : List FecPacket) : Machine SentCalls SentLabel where
  initial state := ∃ xor, state = SentCalls.start xor
  step state label :=
    match packets[label.1]? with
    | none => none
    | some packet =>
        match state.calls label.1 with
        | .entering =>
            let (ref, xor) := state.xor.sentEntry packet
            some ⟨xor, state.setCall label.1 (.adding ref)⟩
        | .adding ref =>
            let (xor, ready) := state.xor.sentAdd ref packet
            some ⟨xor, state.setCall label.1 (if ready then .removing else .returned none)⟩
        | .removing =>
            let (ref, xor) := state.xor.sentRemove packet
            match ref with
            | none => some ⟨xor, state.setCall label.1 .panicked⟩
            | some ref => some ⟨xor, state.setCall label.1 (.building ref)⟩
        | .building ref =>
            (state.xor.outbound.read ref).map fun batch =>
              if debugAssertions && FecInfo.newPanics packet.fecInfo.batchSize 0 1 then
                ⟨state.xor, state.setCall label.1 .panicked⟩
              else
                ⟨state.xor, state.setCall label.1
                  (.returned (some (Xor.parityPacket packet batch.product label.2)))⟩
        | .returned _ | .panicked => none

/-- The packets are all of those of the batch with this key. -/
structure IsBatch (key : MapKey) (packets : List FecPacket) : Prop where
  nonempty : packets ≠ []
  key : ∀ packet ∈ packets, packet.key = key
  batchSize : ∀ packet ∈ packets, packet.fecInfo.batchSize.toNat = packets.length

namespace SentCalls

def block (packets : List FecPacket) (index : Nat) : FecData :=
  (packets[index]?.map FecPacket.data).getD FecData.default

def product (packets : List FecPacket) : FecData :=
  ParityCode.parity (block packets) (Finset.range packets.length)

/-- Exactly one call has returned a parity packet, with the XOR of all blocks, and the batch is
gone from the map. -/
def OneParity (key : MapKey) (packets : List FecPacket) (state : SentCalls) : Prop :=
  (∃ last < packets.length, ∃ parity, state.calls last = .returned (some parity) ∧
      parity.payload = (product packets).bytes ∧
      ∀ other < packets.length, other ≠ last → state.calls other = .returned none) ∧
    state.xor.outbound.lookup key = none

inductive Step (debugAssertions : Bool) (state : SentCalls) (index : Nat) (packet : FecPacket) :
    SentCalls → Prop
  | found (ref : Nat) (call : state.calls index = .entering)
      (present : state.xor.outbound.refs.get packet.key = some ref) :
      Step debugAssertions state index packet ⟨state.xor, state.setCall index (.adding ref)⟩
  | created (xor : Xor) (call : state.calls index = .entering)
      (absent : state.xor.outbound.refs.get packet.key = none)
      (refs : xor.outbound.refs =
        state.xor.outbound.refs.insert packet.key state.xor.outbound.cells.length)
      (cells : xor.outbound.cells =
        state.xor.outbound.cells ++ [OutboundBatchData.new packet.fecInfo.batchSize]) :
      Step debugAssertions state index packet
        ⟨xor, state.setCall index (.adding state.xor.outbound.cells.length)⟩
  | added (ref : Nat) (xor : Xor) (ready : Bool) (call : state.calls index = .adding ref)
      (result : state.xor.sentAdd ref packet = (xor, ready)) :
      Step debugAssertions state index packet
        ⟨xor, state.setCall index (if ready then .removing else .returned none)⟩
  | missed (xor : Xor) (call : state.calls index = .removing)
      (absent : state.xor.outbound.refs.get packet.key = none) :
      Step debugAssertions state index packet ⟨xor, state.setCall index .panicked⟩
  | removed (ref : Nat) (xor : Xor) (call : state.calls index = .removing)
      (present : state.xor.outbound.refs.get packet.key = some ref)
      (refs : xor.outbound.refs = state.xor.outbound.refs.remove packet.key)
      (cells : xor.outbound.cells = state.xor.outbound.cells) :
      Step debugAssertions state index packet ⟨xor, state.setCall index (.building ref)⟩
  | asserted (ref : Nat) (call : state.calls index = .building ref)
      (panics : debugAssertions = true ∧ FecInfo.newPanics packet.fecInfo.batchSize 0 1 = true) :
      Step debugAssertions state index packet ⟨state.xor, state.setCall index .panicked⟩
  | built (ref : Nat) (batch : OutboundBatchData) (now : Timestamp)
      (call : state.calls index = .building ref)
      (present : state.xor.outbound.read ref = some batch)
      (runs : ¬ (debugAssertions = true ∧
        FecInfo.newPanics packet.fecInfo.batchSize 0 1 = true)) :
      Step debugAssertions state index packet
        ⟨state.xor, state.setCall index
          (.returned (some (Xor.parityPacket packet batch.product now)))⟩

theorem sentCalls_step {debugAssertions : Bool} {packets : List FecPacket}
    {state next : SentCalls} {label : SentLabel}
    (stepped : (sentCalls debugAssertions packets).step state label = some next) :
    ∃ packet, packets[label.1]? = some packet ∧
      Step debugAssertions state label.1 packet next := by
  obtain ⟨index, now⟩ := label
  simp only [sentCalls] at stepped
  split at stepped
  · cases stepped
  · rename_i packet found
    refine ⟨packet, found, ?_⟩
    split at stepped
    · rename_i call
      have entered := state.xor.outbound.entry_step packet.key
        (OutboundBatchData.new packet.fecInfo.batchSize)
      simp only [Xor.sentEntry] at stepped
      generalize state.xor.outbound.entry packet.key
        (OutboundBatchData.new packet.fecInfo.batchSize) = result at entered stepped
      cases entered with
      | found ref present =>
          cases stepped
          exact .found ref call present
      | allocated outbound absent refs cells =>
          cases stepped
          exact .created _ call absent refs cells
    · rename_i ref call
      cases stepped
      exact .added ref _ _ call rfl
    · rename_i call
      simp only [Xor.sentRemove, SharedMap.remove] at stepped
      cases present : state.xor.outbound.refs.get packet.key with
      | none =>
          rw [present] at stepped
          cases stepped
          exact .missed _ call present
      | some ref =>
          rw [present] at stepped
          cases stepped
          exact .removed ref _ call present rfl rfl
    · rename_i ref call
      obtain ⟨batch, present, same⟩ := Option.map_eq_some_iff.mp stepped
      split at same
      · rename_i panics
        cases same
        exact .asserted ref call (by simpa using panics)
      · rename_i runs
        cases same
        exact .built ref batch now call present (by simpa using runs)
    · cases stepped
    · cases stepped

/-! ## The work that is left -/

def left : SentCall → Nat
  | .entering => 4
  | .adding _ => 3
  | .removing => 2
  | .building _ => 1
  | .returned _ | .panicked => 0

def work (packets : List FecPacket) (state : SentCalls) : Nat :=
  ∑ index ∈ Finset.range packets.length, left (state.calls index)

theorem work_start (packets : List FecPacket) (xor : Xor) :
    work packets (start xor) = 4 * packets.length := by
  simp [work, start, left, Nat.mul_comm]

theorem work_decreases {debugAssertions : Bool} {packets : List FecPacket}
    {state next : SentCalls} {label : SentLabel}
    (stepped : (sentCalls debugAssertions packets).step state label = some next) :
    work packets next < work packets state := by
  obtain ⟨packet, found, step⟩ := sentCalls_step stepped
  have inside : label.1 ∈ Finset.range packets.length :=
    Finset.mem_range.mpr (List.getElem?_eq_some_iff.mp found).1
  have calls : ∃ call, next.calls = state.setCall label.1 call ∧
      left call < left (state.calls label.1) := by
    cases step with
    | found ref call | created xor call => exact ⟨_, rfl, by simp [call, left]⟩
    | added ref xor ready call =>
        refine ⟨_, rfl, ?_⟩
        cases ready <;> simp [call, left]
    | missed xor call | removed ref xor call => exact ⟨_, rfl, by simp [call, left]⟩
    | asserted ref call | built ref batch now call => exact ⟨_, rfl, by simp [call, left]⟩
  obtain ⟨call, same, less⟩ := calls
  refine Finset.sum_lt_sum ?_ ⟨label.1, inside, ?_⟩
  · intro index _
    rw [same, setCall]
    by_cases here : index = label.1
    · subst here
      rw [Function.update_self]
      exact less.le
    · rw [Function.update_of_ne here]
  · rw [same, setCall, Function.update_self]
    exact less

/-! ## Where the calls of the batch are -/

def isAdded : SentCall → Bool
  | .entering | .adding _ => false
  | .removing | .building _ | .returned _ | .panicked => true

def added (packets : List FecPacket) (state : SentCalls) : Finset Nat :=
  (Finset.range packets.length).filter fun index => isAdded (state.calls index) = true

theorem mem_added {packets : List FecPacket} {state : SentCalls} {index : Nat} :
    index ∈ added packets state ↔
      index < packets.length ∧ isAdded (state.calls index) = true := by
  rw [added, Finset.mem_filter, Finset.mem_range]

/-- The last call ends with the parity packet, or at the assertions of `FECInfo::new`. -/
def Ends (debugAssertions : Bool) (packets : List FecPacket) (call : SentCall) : Prop :=
  if debugAssertions = true ∧ packets.length = 255 then call = .panicked
  else ∃ parity, call = .returned (some parity) ∧ parity.payload = (product packets).bytes

/-- None has looked the entry up; the entry is in the map and takes blocks; the last block has made
it full; it was taken out of the map; all are done. -/
inductive Stage (debugAssertions : Bool) (key : MapKey) (packets : List FecPacket)
    (state : SentCalls) : Prop
  | waiting (absent : state.xor.outbound.refs.get key = none)
      (all : ∀ index < packets.length, state.calls index = .entering)
  | filling (ref : Nat) (present : state.xor.outbound.refs.get key = some ref)
      (entry : state.xor.outbound.read ref =
        some ⟨ParityCode.parity (block packets) (added packets state), packets.length,
          (added packets state).card⟩)
      (room : (added packets state).card < packets.length)
      (all : ∀ index < packets.length, state.calls index = .entering ∨
        state.calls index = .adding ref ∨ state.calls index = .returned none)
  | full (ref last : Nat) (inside : last < packets.length)
      (present : state.xor.outbound.refs.get key = some ref)
      (entry : state.xor.outbound.read ref =
        some ⟨product packets, packets.length, packets.length⟩)
      (removing : state.calls last = .removing)
      (others : ∀ index < packets.length, index ≠ last → state.calls index = .returned none)
  | building (ref last : Nat) (inside : last < packets.length)
      (absent : state.xor.outbound.refs.get key = none)
      (entry : state.xor.outbound.read ref =
        some ⟨product packets, packets.length, packets.length⟩)
      (taken : state.calls last = .building ref)
      (others : ∀ index < packets.length, index ≠ last → state.calls index = .returned none)
  | done (last : Nat) (inside : last < packets.length)
      (absent : state.xor.outbound.refs.get key = none)
      (ends : Ends debugAssertions packets (state.calls last))
      (others : ∀ index < packets.length, index ≠ last → state.calls index = .returned none)

theorem at_last {state : SentCalls} {size last index : Nat} {remaining call : SentCall}
    (taken : state.calls last = remaining)
    (others : ∀ index < size, index ≠ last → state.calls index = .returned none)
    (inside : index < size) (before : state.calls index = call) (unfinished : call ≠ .returned none) :
    index = last ∧ remaining = call := by
  by_cases same : index = last
  · subst same
    exact ⟨rfl, taken.symm.trans before⟩
  · exact absurd (before.symm.trans (others index inside same)) unfinished

theorem not_of_ends {debugAssertions : Bool} {packets : List FecPacket} {state : SentCalls}
    {last index : Nat} {call : SentCall} (ends : Ends debugAssertions packets (state.calls last))
    (others : ∀ index < packets.length, index ≠ last → state.calls index = .returned none)
    (inside : index < packets.length) (before : state.calls index = call) (running : 0 < left call) :
    False := by
  obtain ⟨same, taken⟩ := at_last rfl others inside before (by rintro rfl; cases running)
  subst same
  rw [taken, Ends] at ends
  split at ends
  · subst ends
    cases running
  · obtain ⟨parity, returned, _⟩ := ends
    subst returned
    cases running

section SetCall

variable {packets : List FecPacket} {state next : SentCalls} {index : Nat} {call : SentCall}
  (calls : next.calls = state.setCall index call)
include calls

theorem calls_self : next.calls index = call := by
  rw [calls, setCall, Function.update_self]

theorem calls_of_ne {other : Nat} (different : other ≠ index) :
    next.calls other = state.calls other := by
  rw [calls, setCall, Function.update_of_ne different]

theorem added_of_not (before : isAdded (state.calls index) = false) (after : isAdded call = false) :
    added packets next = added packets state := by
  ext other
  rw [mem_added, mem_added]
  by_cases same : other = index
  · subst same
    rw [calls_self calls, before, after]
  · rw [calls_of_ne calls same]

theorem added_insert (inside : index < packets.length) (after : isAdded call = true) :
    added packets next = insert index (added packets state) := by
  ext other
  rw [Finset.mem_insert, mem_added, mem_added]
  by_cases same : other = index
  · subst same
    simp [calls_self calls, inside, after]
  · simp [calls_of_ne calls same, same]

end SetCall

section Steps

variable {debugAssertions : Bool} {key : MapKey} {packets : List FecPacket}
  {state next : SentCalls} {index : Nat} {packet : FecPacket}

theorem Stage.entered {ref : Nat} (stage : Stage debugAssertions key packets state)
    (inside : index < packets.length) (before : state.calls index = .entering)
    (present : state.xor.outbound.refs.get key = some ref) (xor : next.xor = state.xor)
    (calls : next.calls = state.setCall index (.adding ref)) :
    Stage debugAssertions key packets next := by
  cases stage with
  | waiting absent => rw [absent] at present; cases present
  | filling mine atKey entry room all =>
      cases present.symm.trans atKey
      have same := @added_of_not packets state next index _ calls (by rw [before]; rfl) rfl
      refine .filling ref (xor ▸ present) (by rw [same, xor]; exact entry) (same ▸ room) ?_
      intro other otherInside
      by_cases here : other = index
      · subst here
        exact Or.inr (Or.inl (calls_self calls))
      · rw [calls_of_ne calls here]
        exact all other otherInside
  | full _ last _ _ _ removing others => cases (at_last removing others inside before (by simp)).2
  | building _ last _ _ _ taken others => cases (at_last taken others inside before (by simp)).2
  | done last _ _ ends others => exact (not_of_ends ends others inside before (by simp [left])).elim

theorem Stage.created {batchSize : UInt8} (stage : Stage debugAssertions key packets state)
    (inside : index < packets.length) (before : state.calls index = .entering)
    (sized : batchSize.toNat = packets.length)
    (absent : state.xor.outbound.refs.get key = none)
    (refs : next.xor.outbound.refs =
      state.xor.outbound.refs.insert key state.xor.outbound.cells.length)
    (cells : next.xor.outbound.cells =
      state.xor.outbound.cells ++ [OutboundBatchData.new batchSize])
    (calls : next.calls = state.setCall index (.adding state.xor.outbound.cells.length)) :
    Stage debugAssertions key packets next := by
  cases stage with
  | waiting _ all =>
      have same := @added_of_not packets state next index _ calls (by rw [before]; rfl) rfl
      have none : added packets next = ∅ := by
        rw [same]
        refine Finset.eq_empty_of_forall_notMem ?_
        intro other listed
        obtain ⟨otherInside, isAdded⟩ := mem_added.mp listed
        rw [all other otherInside] at isAdded
        cases isAdded
      refine .filling state.xor.outbound.cells.length (by rw [refs, Table.get_insert_self]) ?_ ?_ ?_
      · rw [none, SharedMap.read, cells, List.getElem?_append_right (Nat.le_refl _), Nat.sub_self,
          Finset.card_empty, ParityCode.parity_empty, OutboundBatchData.new, sized]
        rfl
      · rw [none, Finset.card_empty]
        omega
      · intro other otherInside
        by_cases here : other = index
        · subst here
          exact Or.inr (Or.inl (calls_self calls))
        · rw [calls_of_ne calls here]
          exact Or.inl (all other otherInside)
  | filling ref present | full ref last _ present => rw [absent] at present; cases present
  | building _ last _ _ _ taken others => cases (at_last taken others inside before (by simp)).2
  | done last _ _ ends others => exact (not_of_ends ends others inside before (by simp [left])).elim

theorem Stage.of_adding {ref : Nat} (stage : Stage debugAssertions key packets state)
    (inside : index < packets.length) (before : state.calls index = .adding ref) :
    state.xor.outbound.refs.get key = some ref ∧
      state.xor.outbound.read ref =
        some ⟨ParityCode.parity (block packets) (added packets state), packets.length,
          (added packets state).card⟩ ∧
      (added packets state).card < packets.length ∧
      ∀ other < packets.length, state.calls other = .entering ∨
        state.calls other = .adding ref ∨ state.calls other = .returned none := by
  cases stage with
  | waiting _ all => rw [all index inside] at before; cases before
  | filling mine present entry room all =>
      have same : mine = ref := by
        rcases all index inside with other | other | other <;> rw [other] at before <;> cases before
        rfl
      subst same
      exact ⟨present, entry, room, all⟩
  | full _ last _ _ _ removing others => cases (at_last removing others inside before (by simp)).2
  | building _ last _ _ _ taken others => cases (at_last taken others inside before (by simp)).2
  | done last _ _ ends others => exact (not_of_ends ends others inside before (by simp [left])).elim

theorem returned_of_all_added {ref : Nat} {call : SentCall}
    (calls : next.calls = state.setCall index call)
    (all : ∀ other < packets.length, state.calls other = .entering ∨
      state.calls other = .adding ref ∨ state.calls other = .returned none)
    (whole : added packets next = Finset.range packets.length) {other : Nat}
    (inside : other < packets.length) (different : other ≠ index) :
    next.calls other = .returned none := by
  have listed : other ∈ added packets next := by
    rw [whole, Finset.mem_range]
    exact inside
  have isAdded := (mem_added.mp listed).2
  rw [calls_of_ne calls different] at isAdded ⊢
  rcases all other inside with same | same | same
  · rw [same] at isAdded; cases isAdded
  · rw [same] at isAdded; cases isAdded
  · exact same

theorem Stage.addition {ref : Nat} {ready : Bool} (stage : Stage debugAssertions key packets state)
    (found : packets[index]? = some packet) (before : state.calls index = .adding ref)
    (result : state.xor.sentAdd ref packet = (next.xor, ready))
    (calls : next.calls = state.setCall index (if ready then .removing else .returned none)) :
    Stage debugAssertions key packets next := by
  have inside := (List.getElem?_eq_some_iff.mp found).1
  obtain ⟨present, entry, room, all⟩ := stage.of_adding inside before
  have fresh : index ∉ added packets state := by
    intro listed
    have isAdded := (mem_added.mp listed).2
    rw [before] at isAdded
    cases isAdded
  have grown : added packets next = insert index (added packets state) := by
    refine added_insert calls inside ?_
    split <;> rfl
  have card : (added packets next).card = (added packets state).card + 1 := by
    rw [grown, Finset.card_insert_of_notMem fresh]
  have blockAt : block packets index = packet.data := by
    rw [block, found]
    rfl
  simp only [Xor.sentAdd, entry] at result
  obtain ⟨xor, ready'⟩ := Prod.mk.inj result
  have stored : next.xor.outbound.read ref =
      some ⟨ParityCode.parity (block packets) (added packets next), packets.length,
        (added packets next).card⟩ := by
    rw [← xor, SharedMap.read_write_self _ (SharedMap.read_lt entry), card, grown,
      ParityCode.parity_insert _ fresh, blockAt]
    rfl
  have atKey : next.xor.outbound.refs.get key = some ref := by
    rw [← xor]
    exact present
  by_cases last : packets.length = (added packets state).card + 1
  · have whole : added packets next = Finset.range packets.length := by
      refine Finset.eq_of_subset_of_card_le (Finset.filter_subset _ _) ?_
      rw [card, Finset.card_range, last]
    have others := fun (other : Nat) (otherInside : other < packets.length)
      (different : other ≠ index) => returned_of_all_added calls all whole otherInside different
    rw [OutboundBatchData.add, decide_eq_true last] at ready'
    rw [← ready', if_pos rfl] at calls
    refine .full ref index inside atKey ?_ (calls_self calls) others
    rw [stored, whole, Finset.card_range]
    rfl
  · rw [OutboundBatchData.add, decide_eq_false last] at ready'
    rw [← ready', if_neg Bool.false_ne_true] at calls
    refine .filling ref atKey stored (by omega) ?_
    intro other otherInside
    by_cases here : other = index
    · subst here
      exact Or.inr (Or.inr (calls_self calls))
    · rw [calls_of_ne calls here]
      exact all other otherInside

theorem Stage.of_removing (stage : Stage debugAssertions key packets state)
    (inside : index < packets.length) (before : state.calls index = .removing) :
    ∃ ref, state.xor.outbound.refs.get key = some ref ∧
      state.xor.outbound.read ref = some ⟨product packets, packets.length, packets.length⟩ ∧
      ∀ other < packets.length, other ≠ index → state.calls other = .returned none := by
  cases stage with
  | waiting _ all => rw [all index inside] at before; cases before
  | filling _ _ _ _ all =>
      rcases all index inside with other | other | other <;> rw [other] at before <;> cases before
  | full ref last _ present entry removing others =>
      obtain ⟨same, _⟩ := at_last removing others inside before (by simp)
      subst same
      exact ⟨ref, present, entry, others⟩
  | building _ last _ _ _ taken others => cases (at_last taken others inside before (by simp)).2
  | done last _ _ ends others => exact (not_of_ends ends others inside before (by simp [left])).elim

theorem Stage.of_building {ref : Nat} (stage : Stage debugAssertions key packets state)
    (inside : index < packets.length) (before : state.calls index = .building ref) :
    state.xor.outbound.refs.get key = none ∧
      state.xor.outbound.read ref = some ⟨product packets, packets.length, packets.length⟩ ∧
      ∀ other < packets.length, other ≠ index → state.calls other = .returned none := by
  cases stage with
  | waiting _ all => rw [all index inside] at before; cases before
  | filling _ _ _ _ all =>
      rcases all index inside with other | other | other <;> rw [other] at before <;> cases before
  | full ref last _ present entry removing others =>
      cases (at_last removing others inside before (by simp)).2
  | building _ last _ absent entry taken others =>
      obtain ⟨same, taken'⟩ := at_last taken others inside before (by simp)
      cases taken'
      exact ⟨absent, entry, same ▸ others⟩
  | done last _ _ ends others => exact (not_of_ends ends others inside before (by simp [left])).elim

/-- The assertions of `FECInfo::new` for a parity packet fail for the largest batch only. -/
theorem newPanics_iff {batchSize : UInt8} (positive : 0 < batchSize.toNat) :
    FecInfo.newPanics batchSize 0 1 = true ↔ batchSize.toNat = 255 := by
  have bound := batchSize.toNat_lt
  have notLess : ¬ batchSize < 1 := by
    rw [UInt8.lt_iff_toNat_lt]
    have one : (1 : UInt8).toNat = 1 := rfl
    omega
  have zero : (0 : UInt8).toNat = 0 := rfl
  have one : (1 : UInt8).toNat = 1 := rfl
  simp only [FecInfo.newPanics, zero, one, notLess, Bool.or_eq_true, decide_eq_true_eq, or_false]
  omega

theorem Stage.step (batch : IsBatch key packets) (found : packets[index]? = some packet)
    (stage : Stage debugAssertions key packets state)
    (step : Step debugAssertions state index packet next) :
    Stage debugAssertions key packets next := by
  have inside := (List.getElem?_eq_some_iff.mp found).1
  have listed := List.mem_of_getElem? found
  have keyed := batch.key packet listed
  have sized := batch.batchSize packet listed
  have panics : FecInfo.newPanics packet.fecInfo.batchSize 0 1 = true ↔ packets.length = 255 := by
    rw [newPanics_iff (by omega), sized]
  cases step with
  | found ref call present => exact stage.entered inside call (keyed ▸ present) rfl rfl
  | created xor call absent refs cells =>
      exact stage.created inside call sized (keyed ▸ absent) (keyed ▸ refs) cells rfl
  | added ref xor ready call result => exact stage.addition found call result rfl
  | missed xor call absent =>
      obtain ⟨ref, present, _⟩ := stage.of_removing inside call
      rw [keyed, present] at absent
      cases absent
  | removed ref xor call present refs cells =>
      obtain ⟨mine, atKey, entry, others⟩ := stage.of_removing inside call
      rw [keyed, atKey] at present
      cases present
      refine .building _ index inside ?_ ?_ (calls_self rfl) ?_
      · rw [refs, keyed, Table.get_remove_self]
      · rw [SharedMap.read, cells]
        exact entry
      · intro other otherInside different
        rw [calls_of_ne rfl different]
        exact others other otherInside different
  | asserted ref call both =>
      obtain ⟨absent, _, others⟩ := stage.of_building inside call
      refine .done index inside absent ?_ ?_
      · rw [calls_self rfl, Ends, if_pos ⟨both.1, panics.mp both.2⟩]
      · intro other otherInside different
        rw [calls_of_ne rfl different]
        exact others other otherInside different
  | built ref entry now call present runs =>
      obtain ⟨absent, stored, others⟩ := stage.of_building inside call
      cases stored.symm.trans present
      rw [panics] at runs
      refine .done index inside absent ?_ ?_
      · rw [calls_self rfl, Ends, if_neg runs]
        exact ⟨_, rfl, rfl⟩
      · intro other otherInside different
        rw [calls_of_ne rfl different]
        exact others other otherInside different

theorem Stage.done_of_halted (batch : IsBatch key packets)
    (stage : Stage debugAssertions key packets state)
    (halted : (sentCalls debugAssertions packets).Halted state) :
    ∃ last < packets.length, state.xor.outbound.refs.get key = none ∧
      Ends debugAssertions packets (state.calls last) ∧
      ∀ other < packets.length, other ≠ last → state.calls other = .returned none := by
  let now : Timestamp := ⟨0, by decide⟩
  have stuck : ∀ index < packets.length, left (state.calls index) ≤ 1 := by
    intro index inside
    have moves := halted (index, now)
    simp only [sentCalls, List.getElem?_eq_getElem inside] at moves
    split at moves
    · cases moves
    · cases moves
    · split at moves <;> cases moves
    all_goals
      rename_i call
      simp [call, left]
  cases stage with
  | waiting absent all =>
      have positive := List.length_pos_of_ne_nil batch.nonempty
      have first := stuck 0 positive
      rw [all 0 positive] at first
      exact absurd first (by decide)
  | filling ref present entry room all =>
      have full : added packets state = Finset.range packets.length := by
        refine Finset.filter_true_of_mem ?_
        intro index listed
        have inside := Finset.mem_range.mp listed
        have bound := stuck index inside
        rcases all index inside with same | same | same
        · simp [same, left] at bound
        · simp [same, left] at bound
        · rw [same]
          rfl
      rw [full, Finset.card_range] at room
      exact absurd room (Nat.lt_irrefl _)
  | full ref last inside present entry removing others =>
      have bound := stuck last inside
      rw [removing] at bound
      exact absurd bound (by decide)
  | building ref last inside absent entry taken others =>
      have moves := halted (last, now)
      simp only [sentCalls, List.getElem?_eq_getElem inside, taken, entry, Option.map_some] at moves
      cases moves
  | done last inside absent ends others => exact ⟨last, inside, absent, ends, others⟩

end Steps

/-! ## Every order of the steps -/

/-- In every order of the steps no call panics, and when none can move any more, exactly one has
returned a parity packet. -/
def SentOnce (debugAssertions : Bool) (key : MapKey) (packets : List FecPacket) (xor : Xor) : Prop :=
  ∀ schedule final,
    (sentCalls debugAssertions packets).run (start xor) schedule = some final →
      (∀ index < packets.length, final.calls index ≠ .panicked) ∧
        ((sentCalls debugAssertions packets).Halted final → OneParity key packets final)

theorem not_panicked_of_stage {debugAssertions : Bool} {key : MapKey} {packets : List FecPacket}
    {state : SentCalls} (stage : Stage debugAssertions key packets state)
    (runs : ¬ (debugAssertions = true ∧ packets.length = 255)) {index : Nat}
    (inside : index < packets.length) : state.calls index ≠ .panicked := by
  intro panicked
  cases stage with
  | waiting _ all => rw [all index inside] at panicked; cases panicked
  | filling _ _ _ _ all =>
      rcases all index inside with same | same | same <;> rw [same] at panicked <;> cases panicked
  | full _ last _ _ _ removing others => cases (at_last removing others inside panicked (by simp)).2
  | building _ last _ _ _ taken others => cases (at_last taken others inside panicked (by simp)).2
  | done last _ _ ends others =>
      obtain ⟨_, taken⟩ := at_last rfl others inside panicked (by simp)
      rw [Ends, if_neg runs, taken] at ends
      obtain ⟨parity, returned, _⟩ := ends
      cases returned

section Runs

variable {key : MapKey} {packets : List FecPacket} (batch : IsBatch key packets)
  (debugAssertions : Bool) {xor : Xor} (absent : xor.outbound.refs.get key = none)
include batch absent

theorem stage_of_run {schedule : List SentLabel} {final : SentCalls}
    (ran : (sentCalls debugAssertions packets).run (start xor) schedule = some final) :
    Stage debugAssertions key packets final := by
  have kept : ∀ (state : SentCalls) (label : SentLabel) (next : SentCalls),
      Stage debugAssertions key packets state →
        (sentCalls debugAssertions packets).step state label = some next →
          Stage debugAssertions key packets next := by
    intro state label next stage stepped
    obtain ⟨packet, found, step⟩ := sentCalls_step stepped
    exact stage.step batch found step
  exact (sentCalls debugAssertions packets).run_preserves kept (.waiting absent fun _ _ => rfl) ran

theorem not_sentOnce_of_largest (assertions : debugAssertions = true)
    (largest : packets.length = 255) : ¬ SentOnce debugAssertions key packets xor := by
  intro once
  obtain ⟨schedule, final, ran, halted⟩ := (sentCalls debugAssertions packets).exists_run_halted
    (fun _ _ _ stepped => work_decreases stepped) (start xor)
  have stage := stage_of_run batch debugAssertions absent ran
  obtain ⟨last, inside, _, ends, _⟩ := stage.done_of_halted batch halted
  rw [Ends, if_pos ⟨assertions, largest⟩] at ends
  exact (once schedule final ran).1 last inside ends

/-- Every run of the calls of a batch that is new to the map ends after at most four steps a call,
and the batch has exactly one parity packet unless it has 255 packets in a build with debug
assertions. -/
theorem sentOnce_iff :
    (SentOnce debugAssertions key packets xor ↔
        ¬ (debugAssertions = true ∧ packets.length = 255)) ∧
      ∀ schedule final,
        (sentCalls debugAssertions packets).run (start xor) schedule = some final →
          schedule.length ≤ 4 * packets.length := by
  refine ⟨⟨?_, ?_⟩, ?_⟩
  · rintro once ⟨assertions, largest⟩
    exact not_sentOnce_of_largest batch debugAssertions absent assertions largest once
  · intro runs schedule final ran
    have stage := stage_of_run batch debugAssertions absent ran
    refine ⟨fun index inside => not_panicked_of_stage stage runs inside, ?_⟩
    intro halted
    obtain ⟨last, inside, gone, ends, others⟩ := stage.done_of_halted batch halted
    rw [Ends, if_neg runs] at ends
    obtain ⟨parity, returned, payload⟩ := ends
    refine ⟨⟨last, inside, parity, returned, payload, others⟩, ?_⟩
    rw [SharedMap.lookup, gone, Option.bind_none]
  · intro schedule final ran
    have bound := (sentCalls debugAssertions packets).length_run_le
      (fun _ _ _ stepped => work_decreases stepped) ran
    rw [work_start] at bound
    omega

end Runs

def equalPackets (size : UInt8) : List FecPacket :=
  List.replicate size.toNat ⟨false, ⟨2⟩, ⟨1⟩, ⟨size, 0, 0⟩, FecData.default⟩

theorem isBatch_equalPackets {size : UInt8} (positive : 0 < size.toNat) :
    IsBatch (⟨1⟩, ⟨2⟩) (equalPackets size) where
  nonempty := by
    intro empty
    have length := congrArg List.length empty
    rw [equalPackets, List.length_replicate] at length
    exact absurd length positive.ne'
  key packet listed := by
    rw [(List.mem_replicate.mp listed).2]
    rfl
  batchSize packet listed := by
    rw [(List.mem_replicate.mp listed).2, equalPackets, List.length_replicate]

theorem sentOnce_iff_three :
    (SentOnce true (⟨1⟩, ⟨2⟩) (equalPackets 3) Xor.new ↔
        ¬ (true = true ∧ (equalPackets 3).length = 255)) ∧
      ∀ schedule final, (sentCalls true (equalPackets 3)).run (start Xor.new) schedule = some final →
        schedule.length ≤ 4 * (equalPackets 3).length :=
  sentOnce_iff (isBatch_equalPackets (by decide)) true rfl

/-- A call panics in a build with debug assertions when the batch has 255 packets. -/
theorem largest_batch_panics : ¬ SentOnce true (⟨1⟩, ⟨2⟩) (equalPackets 255) Xor.new :=
  not_sentOnce_of_largest (isBatch_equalPackets (by decide)) true rfl rfl
    (by rw [equalPackets, List.length_replicate]; rfl)

end SentCalls
end Ubass

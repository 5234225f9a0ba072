import Ubass.Api.Calls
import Ubass.Manager.Receive

/-!
# The holes an application is told of

The endpoint `find_holes` asks the receive buffer of a session for the unfilled
chunks below its length and makes a range of each.  The scan stops before the chunk
that the length lies in.
-/

set_option autoImplicit false

namespace Ubass

/-- The endpoint `find_holes`: its answer if the session receives a stream. -/
def findHoles (connections : Table SessionId ConnectionStates) (sessionId : SessionId) :
    Option (List Span) :=
  ((connections.get sessionId).bind ConnectionStates.receiving).map fun (_, _, streamingFrom) =>
    let buf := streamingFrom.buffer
    (buf.findHoles (BytePosition.ofNat buf.len)).map fun pos =>
      ⟨pos.toNat, pos.toNat + maxPayloadLength⟩

def ReceivesInto (connections : Table SessionId ConnectionStates) (sessionId : SessionId)
    (buf : WriteableBuffer) : Prop :=
  ∃ established stream streamingFrom,
    (connections.get sessionId).bind ConnectionStates.receiving =
      some (established, stream, streamingFrom) ∧ streamingFrom.buffer = buf

namespace WriteableBuffer

/-- The first chunk that `find_holes` does not look at: the one the length lies in, as the `u32`
that the length is converted to. -/
def scanEnd (self : WriteableBuffer) : Nat := (BytePosition.ofNat self.len).toNat / maxPayloadLength

theorem scanEnd_mul_le (self : WriteableBuffer) : self.scanEnd * maxPayloadLength ≤ self.len := by
  have floor := Nat.div_mul_le_self (BytePosition.ofNat self.len).toNat maxPayloadLength
  have wrapped := Nat.mod_le self.len (2 ^ 32)
  rw [BytePosition.toNat_ofNat] at floor
  rw [scanEnd, BytePosition.toNat_ofNat]
  omega

/-- The data chunks are those that start below the length; the last entry of the map has none
when the length is a multiple of the chunk size. -/
def Unoccupied (self : WriteableBuffer) (index : Nat) : Prop :=
  index * maxPayloadLength < self.len ∧ self.map[index]? = some false

/-- A byte of the buffer whose chunk has not been filled. -/
def Missing (self : WriteableBuffer) (byte : Nat) : Prop :=
  byte < self.len ∧ self.map[byte / maxPayloadLength]? = some false

theorem mem_findHoles {self : WriteableBuffer} {pos : BytePosition} :
    pos ∈ self.findHoles (BytePosition.ofNat self.len) ↔
      ∃ index, index < self.scanEnd ∧ self.map[index]? = some false ∧
        pos.toNat = index * maxPayloadLength := by
  have fits : ∀ index, index < self.scanEnd →
      (BytePosition.ofNat (index * maxPayloadLength)).toNat = index * maxPayloadLength := by
    intro index scanned
    have below := Nat.mul_lt_mul_of_pos_right scanned maxPayloadLength_pos
    have floor := Nat.div_mul_le_self (BytePosition.ofNat self.len).toNat maxPayloadLength
    have bound := (BytePosition.ofNat self.len).lt
    rw [scanEnd] at below
    exact BytePosition.toNat_ofNat_of_lt (by omega)
  have entries : ∀ index, index < self.scanEnd →
      (self.map.getD index false = false ↔ self.map[index]? = some false) := by
    intro index scanned
    have below := Nat.mul_lt_mul_of_pos_right scanned maxPayloadLength_pos
    have inside : index < self.map.length := by
      have bound := self.index_lt_map_length (self.scanEnd_mul_le)
      rw [Nat.mul_div_cancel _ maxPayloadLength_pos] at bound
      omega
    simp [inside]
  simp only [findHoles, Nat.min_self, List.mem_filterMap, List.mem_range]
  constructor
  · rintro ⟨index, scanned, found⟩
    split at found
    · cases found
    · rename_i unfilled
      cases Option.some.inj found
      exact ⟨index, scanned, (entries index scanned).mp (by simpa using unfilled),
        fits index scanned⟩
  · rintro ⟨index, scanned, unfilled, start⟩
    refine ⟨index, scanned, ?_⟩
    rw [(entries index scanned).mpr unfilled]
    exact congrArg some (BytePosition.ext ((fits index scanned).trans start.symm))

end WriteableBuffer

/-! ## What the answer says -/

/-- The ranges lie inside the buffer, they cover exactly the bytes that are missing, and there are
none exactly when every data chunk is filled. -/
structure ReportsHoles (buf : WriteableBuffer) (answer : List Span) : Prop where
  inside : ∀ range ∈ answer, range.stop ≤ buf.len
  covers : ∀ byte, (∃ range ∈ answer, range.start ≤ byte ∧ byte < range.stop) ↔ buf.Missing byte
  empty : answer = [] ↔ ∀ index, ¬ buf.Unoccupied index

theorem mem_answer {buf : WriteableBuffer} {range : Span} :
    range ∈ (buf.findHoles (BytePosition.ofNat buf.len)).map
        (fun pos => (⟨pos.toNat, pos.toNat + maxPayloadLength⟩ : Span)) ↔
      ∃ index, index < buf.scanEnd ∧ buf.map[index]? = some false ∧
        range = ⟨index * maxPayloadLength, (index + 1) * maxPayloadLength⟩ := by
  simp only [List.mem_map, WriteableBuffer.mem_findHoles, Nat.succ_mul]
  constructor
  · rintro ⟨pos, ⟨index, scanned, unfilled, start⟩, rfl⟩
    exact ⟨index, scanned, unfilled, by rw [start]⟩
  · rintro ⟨index, scanned, unfilled, rfl⟩
    have bound := (BytePosition.ofNat buf.len).lt
    have floor := Nat.div_mul_le_self (BytePosition.ofNat buf.len).toNat maxPayloadLength
    have below := Nat.mul_lt_mul_of_pos_right scanned WriteableBuffer.maxPayloadLength_pos
    rw [WriteableBuffer.scanEnd] at below
    have start := BytePosition.toNat_ofNat_of_lt
      (show index * maxPayloadLength < 2 ^ 32 by omega)
    exact ⟨BytePosition.ofNat (index * maxPayloadLength),
      ⟨index, scanned, unfilled, start⟩, by rw [start]⟩

namespace WriteableBuffer

variable {buf : WriteableBuffer}

theorem div_eq_iff {byte index : Nat} :
    byte / maxPayloadLength = index ↔
      index * maxPayloadLength ≤ byte ∧ byte < (index + 1) * maxPayloadLength := by
  simp only [maxPayloadLength]
  omega

theorem covered_iff {byte : Nat} :
    (∃ range ∈ (buf.findHoles (BytePosition.ofNat buf.len)).map
        (fun pos => (⟨pos.toNat, pos.toNat + maxPayloadLength⟩ : Span)),
      range.start ≤ byte ∧ byte < range.stop) ↔
      byte / maxPayloadLength < buf.scanEnd ∧ buf.map[byte / maxPayloadLength]? = some false := by
  constructor
  · rintro ⟨range, listed, starts, stops⟩
    obtain ⟨index, scanned, unfilled, rfl⟩ := mem_answer.mp listed
    have chunk := div_eq_iff.mpr ⟨starts, stops⟩
    rw [chunk]
    exact ⟨scanned, unfilled⟩
  · rintro ⟨scanned, unfilled⟩
    obtain ⟨starts, stops⟩ := div_eq_iff.mp (rfl : byte / maxPayloadLength = _)
    exact ⟨_, mem_answer.mpr ⟨_, scanned, unfilled, rfl⟩, starts, stops⟩

theorem reportsHoles_iff :
    ReportsHoles buf ((buf.findHoles (BytePosition.ofNat buf.len)).map
        fun pos => ⟨pos.toNat, pos.toNat + maxPayloadLength⟩) ↔
      ∀ index, buf.scanEnd ≤ index → ¬ buf.Unoccupied index := by
  constructor
  · rintro reports index skipped ⟨data, unfilled⟩
    have chunk : index * maxPayloadLength / maxPayloadLength = index :=
      Nat.mul_div_cancel _ maxPayloadLength_pos
    have missing : buf.Missing (index * maxPayloadLength) := by
      rw [Missing, chunk]
      exact ⟨data, unfilled⟩
    rw [← reports.covers, covered_iff, chunk] at missing
    omega
  · intro filled
    have scanned : ∀ index, buf.Unoccupied index → index < buf.scanEnd := by
      intro index unoccupied
      by_contra skipped
      exact filled index (Nat.le_of_not_lt skipped) unoccupied
    have whole : ∀ index, index < buf.scanEnd → (index + 1) * maxPayloadLength ≤ buf.len := by
      intro index below
      exact (Nat.mul_le_mul_right _ below).trans buf.scanEnd_mul_le
    constructor
    · intro range listed
      obtain ⟨index, below, _, rfl⟩ := mem_answer.mp listed
      exact whole index below
    · intro byte
      rw [covered_iff, Missing]
      apply and_congr_left
      intro unfilled
      obtain ⟨starts, stops⟩ := div_eq_iff.mp (rfl : byte / maxPayloadLength = _)
      constructor
      · intro below
        exact stops.trans_le (whole _ below)
      · intro inside
        exact scanned _ ⟨starts.trans_lt inside, unfilled⟩
    · rw [List.eq_nil_iff_forall_not_mem]
      constructor
      · intro empty index unoccupied
        exact empty _ (mem_answer.mpr ⟨index, scanned index unoccupied, unoccupied.2, rfl⟩)
      · intro full range listed
        obtain ⟨index, below, unfilled, rfl⟩ := mem_answer.mp listed
        have data := whole index below
        rw [Nat.succ_mul] at data
        have positive := maxPayloadLength_pos
        exact full index ⟨by omega, unfilled⟩

end WriteableBuffer

/-! ## The endpoint -/

/-- For every session that receives into a buffer: the endpoint reports its holes exactly when every
data chunk from the end of the scan on is filled. -/
theorem reported_holes_iff {connections : Table SessionId ConnectionStates} {sessionId : SessionId}
    {buf : WriteableBuffer} (receives : ReceivesInto connections sessionId buf) :
    (∃ answer, findHoles connections sessionId = some answer ∧ ReportsHoles buf answer) ↔
      ∀ index, buf.len % 2 ^ 32 / maxPayloadLength ≤ index → ¬ buf.Unoccupied index := by
  obtain ⟨established, stream, streamingFrom, found, rfl⟩ := receives
  rw [← BytePosition.toNat_ofNat, ← WriteableBuffer.scanEnd, ← WriteableBuffer.reportsHoles_iff,
    findHoles, found, Option.map_some]
  simp

def opened (buf : WriteableBuffer) : Table SessionId ConnectionStates :=
  Table.empty.insert ⟨7⟩ (ConnectionStates.opened buf)

theorem receivesInto_opened (buf : WriteableBuffer) : ReceivesInto (opened buf) ⟨7⟩ buf := by
  obtain ⟨session, stream, receives⟩ := ConnectionStates.receiving_opened buf
  exact ⟨session, stream, StreamingFrom.new buf, receives, rfl⟩

theorem reported_holes_iff_opened :
    let buf := WriteableBuffer.new (Buffer.ofBytes (List.replicate 1368 0))
    (∃ answer, findHoles (opened buf) ⟨7⟩ = some answer ∧ ReportsHoles buf answer) ↔
      ∀ index, buf.len % 2 ^ 32 / maxPayloadLength ≤ index → ¬ buf.Unoccupied index :=
  reported_holes_iff (receivesInto_opened _)

/-- Of five bytes, none of which has arrived, no hole is reported. -/
theorem partial_chunk_not_reported :
    let buf := WriteableBuffer.new (Buffer.ofBytes [0, 0, 0, 0, 0])
    (∀ profile, (receiver profile).Reachable buf) ∧ ReceivesInto (opened buf) ⟨7⟩ buf ∧
      findHoles (opened buf) ⟨7⟩ = some [] ∧ (∀ byte, byte < 5 → buf.Missing byte) ∧
      ¬ ∃ answer, findHoles (opened buf) ⟨7⟩ = some answer ∧ ReportsHoles buf answer := by
  intro buf
  have answered : findHoles (opened buf) ⟨7⟩ = some [] := by decide
  refine ⟨fun profile => ⟨buf, [], ⟨_, rfl⟩, rfl⟩, receivesInto_opened buf, answered, ?_, ?_⟩
  · intro byte inside
    have first : byte / maxPayloadLength = 0 := Nat.div_eq_of_lt (inside.trans (by decide))
    rw [WriteableBuffer.Missing, first]
    exact ⟨inside, rfl⟩
  · rintro ⟨answer, other, reports⟩
    cases answered.symm.trans other
    exact reports.empty.mp rfl 0 ⟨by decide, rfl⟩

end Ubass

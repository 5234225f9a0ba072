import Ubass.Lib.Fields

/-!
# Parsers with a running offset

A parser reads a fixed byte string from an offset on.  It can fail, and it can
stop the program: a slice that starts past the end does.  Two rules carry the
developments built on this file.  What was written field by field is read back
field by field (`Reads`), and a parser that starts inside the string and advances
by no more than it has read never stops the program (`Total`).
-/

set_option autoImplicit false

universe u

inductive Stop where
  | error
  | panic
deriving DecidableEq

class Deserialize (Value : Type u) extends Serialize Value where
  deserialize : List UInt8 → Option Value
  sized_le : ∀ bytes value, deserialize bytes = some value → sized ≤ bytes.length

/-- A field that is read back from what was written. -/
class LawfulDeserialize (Value : Type u) extends Deserialize Value where
  deserialize_serialize : ∀ value rest, deserialize (serialize value ++ rest) = some value

namespace LawfulDeserialize

variable {Value : Type u}

@[reducible] def ofNat [Serialize Value] (toNat : Value → Nat) (fromNat : Nat → Option Value)
    (layout : ∀ value, Serialize.serialize value =
      Bytes.beBytes (Serialize.sized Value) (toNat value))
    (fits : ∀ value, toNat value < 256 ^ Serialize.sized Value)
    (inverse : ∀ value, fromNat (toNat value) = some value) : LawfulDeserialize Value where
  deserialize bytes :=
    if bytes.length < Serialize.sized Value then none
    else fromNat (Bytes.ofBeBytes (bytes.take (Serialize.sized Value)))
  deserialize_serialize := by
    intro value rest
    rw [layout, if_neg, List.take_left' (Bytes.length_beBytes _ _),
      Bytes.ofBeBytes_beBytes (fits value), inverse]
    rw [List.length_append, Bytes.length_beBytes]
    omega
  sized_le := by
    intro bytes value read
    split at read
    · cases read
    · omega

@[reducible] def ofBytes [Serialize Value] (fromBytes : List UInt8 → Option Value)
    (inverse : ∀ value, fromBytes (Serialize.serialize value) = some value) :
    LawfulDeserialize Value where
  deserialize bytes :=
    if bytes.length < Serialize.sized Value then none
    else fromBytes (bytes.take (Serialize.sized Value))
  deserialize_serialize := by
    intro value rest
    rw [if_neg, List.take_left' (Serialize.length_serialize value), inverse]
    rw [List.length_append, Serialize.length_serialize]
    omega
  sized_le := by
    intro bytes value read
    split at read
    · cases read
    · omega

end LawfulDeserialize

/-- The value read from the offset on, and the offset after it. -/
def Parser (Value : Type u) : Type u := List UInt8 → Nat → Except Stop (Value × Nat)

namespace Parser

variable {Value Other : Type u}

protected def pure (value : Value) : Parser Value := fun _ offset => .ok (value, offset)

protected def bind (parser : Parser Value) (next : Value → Parser Other) : Parser Other :=
  fun bytes offset =>
    match parser bytes offset with
    | .ok (value, offset) => next value bytes offset
    | .error stop => .error stop

instance : Monad Parser where
  pure := Parser.pure
  bind := Parser.bind

/-- `T::deserialize(&bytes[offset..])?` followed by `offset += sized()`. -/
def fieldWith (deserialize : List UInt8 → Except Stop Value) (sized : Value → Nat) :
    Parser Value :=
  fun bytes offset =>
    if bytes.length < offset then .error .panic
    else (deserialize (bytes.drop offset)).map fun value => (value, offset + sized value)

def field [Deserialize Value] : Parser Value :=
  fieldWith
    (fun bytes =>
      match Deserialize.deserialize bytes with
      | some value => .ok value
      | none => .error .error)
    fun _ => Serialize.sized Value

def parse (parser : Parser Value) (bytes : List UInt8) : Except Stop Value :=
  (parser bytes 0).map Prod.fst

/-- `T::deserialize(&bytes[offset..])` -/
def parseFrom (parser : Parser Value) (bytes : List UInt8) (offset : Nat) : Except Stop Value :=
  (parser bytes offset).map Prod.fst

/-! ## Reading back -/

/-- Wherever the bytes stand, and whatever follows them, the parser reads the value from them. -/
def Reads (parser : Parser Value) (bytes : List UInt8) (value : Value) : Prop :=
  ∀ front rest, parser (front ++ (bytes ++ rest)) front.length =
    .ok (value, (front ++ bytes).length)

/-- Where the bytes are the last ones, the parser reads the value from them. -/
def ReadsToEnd (parser : Parser Value) (bytes : List UInt8) (value : Value) : Prop :=
  ∀ front, parser (front ++ bytes) front.length = .ok (value, (front ++ bytes).length)

/-- A value that is read back, of a field that need not read back every value. -/
theorem reads_field_of [Deserialize Value] {value : Value}
    (read : ∀ rest, Deserialize.deserialize (Serialize.serialize value ++ rest) = some value) :
    Reads field (Serialize.serialize value) value := by
  intro front rest
  have inside : ¬ (front ++ (Serialize.serialize value ++ rest)).length < front.length := by
    rw [List.length_append]
    omega
  rw [field, fieldWith, if_neg inside]
  simp only [List.drop_left, read, Except.map, List.length_append, Serialize.length_serialize]

theorem reads_field [LawfulDeserialize Value] (value : Value) :
    Reads field (Serialize.serialize value) value :=
  reads_field_of (LawfulDeserialize.deserialize_serialize value)

theorem Reads.bind {parser : Parser Value} {next : Value → Parser Other}
    {first second : List UInt8} {value : Value} {other : Other}
    (reads : Reads parser first value) (reads' : Reads (next value) second other) :
    Reads (parser >>= next) (first ++ second) other := by
  intro front rest
  have here := reads front (second ++ rest)
  have after := reads' (front ++ first) rest
  rw [List.append_assoc front first] at after
  rw [List.append_assoc first, ← List.append_assoc front first second]
  show Parser.bind parser next _ _ = _
  rw [Parser.bind, here]
  exact after

theorem Reads.bind_pure {parser : Parser Value} {next : Value → Other} {bytes : List UInt8}
    {value : Value} (reads : Reads parser bytes value) :
    Reads (parser >>= fun value => pure (next value)) bytes (next value) := by
  intro front rest
  show Parser.bind parser _ _ _ = _
  rw [Parser.bind, reads front rest]
  rfl

theorem Reads.bindToEnd {parser : Parser Value} {next : Value → Parser Other}
    {first second : List UInt8} {value : Value} {other : Other}
    (reads : Reads parser first value) (reads' : ReadsToEnd (next value) second other) :
    ReadsToEnd (parser >>= next) (first ++ second) other := by
  intro front
  have here := reads front second
  have after := reads' (front ++ first)
  rw [List.append_assoc front first] at after
  rw [← List.append_assoc front first second]
  show Parser.bind parser next _ _ = _
  rw [Parser.bind, List.append_assoc, here]
  rw [← List.append_assoc] at after
  rw [← List.append_assoc]
  exact after

theorem ReadsToEnd.bind_pure {parser : Parser Value} {next : Value → Other}
    {bytes : List UInt8} {value : Value} (reads : ReadsToEnd parser bytes value) :
    ReadsToEnd (parser >>= fun value => pure (next value)) bytes (next value) := by
  intro front
  show Parser.bind parser _ _ _ = _
  rw [Parser.bind, reads front]
  rfl

theorem readsToEnd_fieldWith {deserialize : List UInt8 → Except Stop Value}
    {sized : Value → Nat} {bytes : List UInt8} {value : Value}
    (read : deserialize bytes = .ok value) (whole : sized value = bytes.length) :
    ReadsToEnd (fieldWith deserialize sized) bytes value := by
  intro front
  have inside : ¬ (front ++ bytes).length < front.length := by
    rw [List.length_append]
    omega
  rw [fieldWith, if_neg inside]
  simp only [List.drop_left, read, Except.map, whole, List.length_append]

/-- Where the bytes are the last ones, the parser fails on them. -/
def FailsAtEnd (parser : Parser Value) (bytes : List UInt8) (stop : Stop) : Prop :=
  ∀ front, parser (front ++ bytes) front.length = .error stop

theorem failsAtEnd_fieldWith {deserialize : List UInt8 → Except Stop Value}
    {sized : Value → Nat} {bytes : List UInt8} {stop : Stop}
    (fails : deserialize bytes = .error stop) :
    FailsAtEnd (fieldWith deserialize sized) bytes stop := by
  intro front
  have inside : ¬ (front ++ bytes).length < front.length := by
    rw [List.length_append]
    omega
  rw [fieldWith, if_neg inside]
  simp only [List.drop_left, fails, Except.map]

theorem failsAtEnd_field [Deserialize Value] {bytes : List UInt8}
    (unread : (Deserialize.deserialize bytes : Option Value) = none) :
    FailsAtEnd (@field Value _) bytes .error :=
  failsAtEnd_fieldWith (by rw [unread])

theorem FailsAtEnd.bind {parser : Parser Value} {next : Value → Parser Other}
    {bytes : List UInt8} {stop : Stop} (fails : FailsAtEnd parser bytes stop) :
    FailsAtEnd (parser >>= next) bytes stop := by
  intro front
  show Parser.bind parser next _ _ = _
  rw [Parser.bind, fails front]

theorem Reads.bindFails {parser : Parser Value} {next : Value → Parser Other}
    {first second : List UInt8} {value : Value} {stop : Stop}
    (reads : Reads parser first value) (fails : FailsAtEnd (next value) second stop) :
    FailsAtEnd (parser >>= next) (first ++ second) stop := by
  intro front
  have here := reads front second
  have after := fails (front ++ first)
  rw [List.append_assoc front first] at after
  show Parser.bind parser next _ _ = _
  rw [Parser.bind, here]
  exact after

theorem FailsAtEnd.parse {parser : Parser Value} {bytes : List UInt8} {stop : Stop}
    (fails : FailsAtEnd parser bytes stop) : parser.parse bytes = .error stop := by
  have here := fails []
  rw [List.nil_append, List.length_nil] at here
  rw [Parser.parse, here]
  rfl

theorem parseFrom_error {parser : Parser Value} {bytes : List UInt8} {offset : Nat} {stop : Stop}
    (failed : parser bytes offset = .error stop) : parser.parseFrom bytes offset = .error stop := by
  rw [Parser.parseFrom, failed]
  rfl

theorem Reads.parse {parser : Parser Value} {bytes : List UInt8} {value : Value}
    (reads : Reads parser bytes value) (rest : List UInt8) :
    parser.parse (bytes ++ rest) = .ok value := by
  have here := reads [] rest
  rw [List.nil_append, List.length_nil] at here
  rw [Parser.parse, here]
  rfl

theorem ReadsToEnd.parse {parser : Parser Value} {bytes : List UInt8} {value : Value}
    (reads : ReadsToEnd parser bytes value) : parser.parse bytes = .ok value := by
  have here := reads []
  rw [List.nil_append, List.length_nil] at here
  rw [Parser.parse, here]
  rfl

theorem Reads.parseFrom {parser : Parser Value} {bytes : List UInt8} {value : Value}
    (reads : Reads parser bytes value) (front rest : List UInt8) :
    parser.parseFrom (front ++ (bytes ++ rest)) front.length = .ok value := by
  rw [Parser.parseFrom, reads front rest]
  rfl

/-! ## Not stopping the program -/

/-- From inside the byte string the parser does not stop the program, and it stays inside. -/
def Total (parser : Parser Value) : Prop :=
  ∀ bytes offset, offset ≤ bytes.length →
    (∃ value after, parser bytes offset = .ok (value, after) ∧ after ≤ bytes.length) ∨
      parser bytes offset = .error .error

theorem total_pure (value : Value) : Total (pure value) := by
  intro bytes offset inside
  exact Or.inl ⟨value, offset, rfl, inside⟩

theorem total_fieldWith {deserialize : List UInt8 → Except Stop Value} {sized : Value → Nat}
    (total : ∀ bytes, deserialize bytes ≠ .error .panic)
    (short : ∀ bytes value, deserialize bytes = .ok value → sized value ≤ bytes.length) :
    Total (fieldWith deserialize sized) := by
  intro bytes offset inside
  rw [fieldWith, if_neg (Nat.not_lt.mpr inside)]
  cases read : deserialize (bytes.drop offset) with
  | error stop =>
      cases stop with
      | error => exact Or.inr rfl
      | panic => exact absurd read (total _)
  | ok value =>
      have consumed := short _ value read
      rw [List.length_drop] at consumed
      exact Or.inl ⟨value, offset + sized value, rfl, by omega⟩

theorem total_field [Deserialize Value] : Total (@field Value _) := by
  apply total_fieldWith
  · intro bytes stopped
    cases read : (Deserialize.deserialize bytes : Option Value) with
    | none => simp [read] at stopped
    | some value => simp [read] at stopped
  · intro bytes value read
    cases found : (Deserialize.deserialize bytes : Option Value) with
    | none => simp [found] at read
    | some other => exact Deserialize.sized_le bytes other found

/-- A field stops the program only where the slice starts past the end. -/
theorem parseFrom_field_panic [Deserialize Value] {bytes : List UInt8} {offset : Nat} :
    (@field Value _).parseFrom bytes offset = .error .panic ↔ bytes.length < offset := by
  constructor
  · intro stopped
    by_contra inside
    rcases @total_field Value _ bytes offset (by omega) with ⟨value, after, read, _⟩ | failed
    · rw [Parser.parseFrom, read] at stopped
      cases stopped
    · rw [Parser.parseFrom, failed] at stopped
      cases stopped
  · intro outside
    rw [Parser.parseFrom, field, fieldWith, if_pos outside]
    rfl

theorem Total.bind {parser : Parser Value} {next : Value → Parser Other} (total : Total parser)
    (total' : ∀ value, Total (next value)) : Total (parser >>= next) := by
  intro bytes offset inside
  show (∃ value after, Parser.bind parser next bytes offset = .ok (value, after) ∧ _) ∨
    Parser.bind parser next bytes offset = _
  rcases total bytes offset inside with ⟨value, after, read, stays⟩ | failed
  · rw [Parser.bind, read]
    exact total' value bytes after stays
  · rw [Parser.bind, failed]
    exact Or.inr rfl

theorem Total.parse {parser : Parser Value} (total : Total parser) (bytes : List UInt8) :
    parser.parse bytes ≠ .error .panic := by
  intro stopped
  rcases total bytes 0 (Nat.zero_le _) with ⟨value, after, read, _⟩ | failed
  · rw [Parser.parse, read] at stopped
    cases stopped
  · rw [Parser.parse, failed] at stopped
    cases stopped

/-! ## Where a parser gets to -/

theorem field_eq_ok [Deserialize Value] {bytes : List UInt8} {offset after : Nat} {value : Value} :
    @field Value _ bytes offset = .ok (value, after) ↔
      offset ≤ bytes.length ∧ Deserialize.deserialize (bytes.drop offset) = some value ∧
        after = offset + Serialize.sized Value := by
  rw [field, fieldWith]
  split
  · constructor
    · intro h
      cases h
    · intro h
      omega
  · cases (Deserialize.deserialize (bytes.drop offset) : Option Value) with
    | none =>
        constructor
        · intro h
          cases h
        · rintro ⟨-, h, -⟩
          cases h
    | some read =>
        constructor
        · intro h
          cases h
          exact ⟨by omega, rfl, rfl⟩
        · rintro ⟨-, h, rfl⟩
          cases h
          rfl

theorem parseFrom_field_eq_ok [Deserialize Value] {bytes : List UInt8} {offset : Nat}
    {value : Value} :
    (@field Value _).parseFrom bytes offset = .ok value ↔
      @field Value _ bytes offset = .ok (value, offset + Serialize.sized Value) := by
  rw [Parser.parseFrom]
  cases h : @field Value _ bytes offset with
  | error stop =>
      constructor
      · intro h'
        cases h'
      · intro h'
        cases h'
  | ok read =>
      obtain ⟨-, -, after⟩ := field_eq_ok.mp h
      constructor
      · intro h'
        cases h'
        rw [← after]
      · intro h'
        cases h'
        rfl

theorem bind_of_ok {parser : Parser Value} {next : Value → Parser Other} {bytes : List UInt8}
    {offset after : Nat} {value : Value} (read : parser bytes offset = .ok (value, after)) :
    (parser >>= next) bytes offset = next value bytes after := by
  show Parser.bind parser next bytes offset = _
  rw [Parser.bind, read]

theorem bind_eq_ok {parser : Parser Value} {next : Value → Parser Other} {bytes : List UInt8}
    {offset : Nat} {result : Other × Nat} :
    (parser >>= next) bytes offset = .ok result ↔
      ∃ value after, parser bytes offset = .ok (value, after) ∧
        next value bytes after = .ok result := by
  show Parser.bind parser next bytes offset = _ ↔ _
  rw [Parser.bind]
  cases parser bytes offset with
  | error stop =>
      constructor
      · intro h
        cases h
      · rintro ⟨value, after, h, -⟩
        cases h
  | ok read =>
      constructor
      · intro h
        exact ⟨read.1, read.2, rfl, h⟩
      · rintro ⟨value, after, h, h'⟩
        cases h
        exact h'

theorem field_bind_panic [Deserialize Value] {next : Value → Parser Other} {bytes : List UInt8}
    {offset : Nat} (inside : offset ≤ bytes.length)
    (stopped : (field >>= next) bytes offset = .error .panic) :
    ∃ value, @field Value _ bytes offset = .ok (value, offset + Serialize.sized Value) ∧
      offset + Serialize.sized Value ≤ bytes.length ∧
      next value bytes (offset + Serialize.sized Value) = .error .panic := by
  rcases @total_field Value _ bytes offset inside with ⟨value, after, read, stays⟩ | failed
  · obtain ⟨-, -, rfl⟩ := field_eq_ok.mp read
    rw [bind_of_ok read] at stopped
    exact ⟨value, read, stays, stopped⟩
  · have h : Parser.bind field next bytes offset = .error .panic := stopped
    rw [Parser.bind, failed] at h
    cases h

def Yields (parser : Parser Value) (bytes : List UInt8) (offset : Nat) (post : Value → Prop) :
    Prop :=
  ∀ value after, parser bytes offset = .ok (value, after) → post value

theorem yields_pure {value : Value} {bytes : List UInt8} {offset : Nat} {post : Value → Prop}
    (holds : post value) : Yields (pure value) bytes offset post := by
  intro read after h
  cases h
  exact holds

theorem yields_bind {parser : Parser Value} {next : Value → Parser Other} {bytes : List UInt8}
    {offset : Nat} {post : Other → Prop}
    (rest : ∀ value after, parser bytes offset = .ok (value, after) →
      Yields (next value) bytes after post) :
    Yields (parser >>= next) bytes offset post := by
  intro other after h
  obtain ⟨value, middle, read, h⟩ := bind_eq_ok.mp h
  exact rest value middle read other after h

theorem yields_field [Deserialize Value] {next : Value → Parser Other} {bytes : List UInt8}
    {offset : Nat} {post : Other → Prop}
    (rest : ∀ value, @field Value _ bytes offset = .ok (value, offset + Serialize.sized Value) →
      Yields (next value) bytes (offset + Serialize.sized Value) post) :
    Yields (field >>= next) bytes offset post := by
  apply yields_bind
  intro value after read
  obtain ⟨-, -, rfl⟩ := field_eq_ok.mp read
  exact rest value read

theorem yields_fieldWith {deserialize : List UInt8 → Except Stop Value} {sized : Value → Nat}
    {next : Value → Other} {bytes : List UInt8} {offset : Nat} {post : Other → Prop}
    (rest : ∀ value, offset ≤ bytes.length → deserialize (bytes.drop offset) = .ok value →
      post (next value)) :
    Yields (fieldWith deserialize sized >>= fun value => pure (next value)) bytes offset post := by
  apply yields_bind
  intro value after read
  rw [fieldWith] at read
  split at read
  · cases read
  · rename_i inside
    apply yields_pure
    cases found : deserialize (bytes.drop offset) with
    | error stop =>
        rw [found] at read
        cases read
    | ok other =>
        rw [found] at read
        cases read
        exact rest _ (Nat.not_lt.mp inside) found

theorem Yields.of_parse {parser : Parser Value} {bytes : List UInt8} {post : Value → Prop}
    {value : Value} (yields : Yields parser bytes 0 post) (read : parser.parse bytes = .ok value) :
    post value := by
  rw [Parser.parse] at read
  cases found : parser bytes 0 with
  | error stop =>
      rw [found] at read
      cases read
  | ok other =>
      rw [found] at read
      cases read
      exact yields _ _ found

def Always (Value : Type u) [Deserialize Value] : Prop :=
  ∀ bytes : List UInt8, Serialize.sized Value ≤ bytes.length →
    ∃ value : Value, Deserialize.deserialize bytes = some value

theorem Always.field [Deserialize Value] (always : Always Value) {bytes : List UInt8}
    {offset after : Nat} (moved : after = offset + Serialize.sized Value)
    (inside : after ≤ bytes.length) :
    ∃ value, @Parser.field Value _ bytes offset = .ok (value, after) := by
  have long : Serialize.sized Value ≤ (bytes.drop offset).length := by
    rw [List.length_drop]
    omega
  obtain ⟨value, read⟩ := always _ long
  exact ⟨value, field_eq_ok.mpr ⟨by omega, read, moved⟩⟩

theorem fieldWith_bind_pure_panic {deserialize : List UInt8 → Except Stop Value}
    {sized : Value → Nat} {next : Value → Other} {bytes : List UInt8} {offset : Nat}
    (inside : offset ≤ bytes.length) :
    (fieldWith deserialize sized >>= fun value => pure (next value)) bytes offset =
        .error .panic ↔
      deserialize (bytes.drop offset) = .error .panic := by
  show Parser.bind _ _ _ _ = _ ↔ _
  rw [Parser.bind, fieldWith, if_neg (Nat.not_lt.mpr inside)]
  cases deserialize (bytes.drop offset) with
  | error stop =>
      constructor
      · intro h
        cases h
        rfl
      · intro h
        cases h
        rfl
  | ok value =>
      constructor
      · intro h
        cases h
      · intro h
        cases h

theorem parse_eq_panic {parser : Parser Value} {bytes : List UInt8} :
    parser.parse bytes = .error .panic ↔ parser bytes 0 = .error .panic := by
  rw [Parser.parse]
  cases parser bytes 0 with
  | error stop =>
      constructor
      · intro h
        cases h
        rfl
      · intro h
        cases h
        rfl
  | ok read =>
      constructor
      · intro h
        cases h
      · intro h
        cases h

/-! ## Lists -/

/-- Reading a list item by item does not stop the program if reading one item does not. -/
theorem mapM_total {Item : Type u} {read : Item → Except Stop Value}
    (total : ∀ item, read item ≠ .error .panic) (items : List Item) :
    (∃ values, items.mapM read = .ok values ∧ values.length = items.length) ∨
      items.mapM read = .error .error := by
  induction items with
  | nil => exact Or.inl ⟨[], rfl, rfl⟩
  | cons item rest ih =>
      rw [List.mapM_cons]
      cases first : read item with
      | error stop =>
          cases stop with
          | error => exact Or.inr rfl
          | panic => exact absurd first (total item)
      | ok value =>
          rcases ih with ⟨values, whole, length⟩ | failed
          · refine Or.inl ⟨value :: values, ?_, congrArg Nat.succ length⟩
            rw [whole]
            rfl
          · rw [failed]
            exact Or.inr rfl

end Parser

import Mathlib.Data.List.Chain
import Mathlib.Data.List.Nodup

/-!
# Constant expressions and discriminants

The integer expressions that may stand for the discriminant of an enumeration, as
the tree a parser makes of them, and the rule by which a compiler numbers the
variants that have none.

`plus` is what becomes of a tree when `+ counter` is written behind its text and the
text is parsed again: operators that bind looser than `+` take the sum as their right
operand.  `AddsOne` says that this is harmless.
-/

set_option autoImplicit false

structure IntType where
  signed : Bool
  bytes : Nat
  positive : 0 < bytes

namespace IntType

def u8 : IntType := ⟨false, 1, Nat.one_pos⟩

abbrev Value (type : IntType) : Type := BitVec (8 * type.bytes)

end IntType

/-! ## Operators -/

inductive BinaryOp where
  | mul
  | div
  | rem
  | add
  | sub
  | shl
  | shr
  | bitAnd
  | bitXor
  | bitOr
deriving DecidableEq

namespace BinaryOp

def precedence : BinaryOp → Nat
  | mul | div | rem => 5
  | add | sub => 4
  | shl | shr => 3
  | bitAnd => 2
  | bitXor => 1
  | bitOr => 0

variable (type : IntType)

/-- An overflow, a division by zero or a shift by the whole width. -/
def fails (op : BinaryOp) (left right : type.Value) : Bool :=
  match op, type.signed with
  | mul, true => left.smulOverflow right
  | mul, false => left.umulOverflow right
  | div, signed | rem, signed => right == 0 || signed && left.sdivOverflow right
  | add, true => left.saddOverflow right
  | add, false => left.uaddOverflow right
  | sub, true => left.ssubOverflow right
  | sub, false => left.usubOverflow right
  | shl, _ | shr, _ => 8 * type.bytes ≤ right.toNat
  | bitAnd, _ | bitXor, _ | bitOr, _ => false

def result (op : BinaryOp) (left right : type.Value) : type.Value :=
  match op, type.signed with
  | mul, _ => left * right
  | div, true => left.sdiv right
  | div, false => left / right
  | rem, true => left.srem right
  | rem, false => left % right
  | add, _ => left + right
  | sub, _ => left - right
  | shl, _ => left <<< right.toNat
  | shr, true => left.sshiftRight right.toNat
  | shr, false => left >>> right.toNat
  | bitAnd, _ => left &&& right
  | bitXor, _ => left ^^^ right
  | bitOr, _ => left ||| right

def apply (op : BinaryOp) (left right : type.Value) : Option type.Value :=
  if op.fails type left right then none else some (op.result type left right)

end BinaryOp

namespace IntType

variable (type : IntType)

def successor (value : type.Value) : Option type.Value := BinaryOp.add.apply type value 1

variable {type}

theorem add_zero (value : type.Value) : BinaryOp.add.apply type value 0 = some value := by
  cases signed : type.signed with
  | false =>
      have below : value.toNat < 2 ^ (8 * type.bytes) := value.isLt
      simp [BinaryOp.apply, BinaryOp.fails, BinaryOp.result, signed, BitVec.uaddOverflow, below]
  | true =>
      have below : value.toInt < 2 ^ (8 * type.bytes - 1) := BitVec.toInt_lt
      have above : -2 ^ (8 * type.bytes - 1) ≤ value.toInt := BitVec.le_toInt value
      simp [BinaryOp.apply, BinaryOp.fails, BinaryOp.result, signed, BitVec.saddOverflow]
      omega

theorem ne_of_successor_eq_some {value next : type.Value}
    (follows : type.successor value = some next) : next ≠ value := by
  intro same
  unfold successor BinaryOp.apply at follows
  split at follows
  · cases follows
  · have sum : value + 1 = value := (Option.some.inj follows).trans same
    have room : 8 ≤ 8 * type.bytes := by
      have := type.positive
      omega
    have large : 2 ^ 8 ≤ 2 ^ (8 * type.bytes) := Nat.pow_le_pow_right (by decide) room
    have one : BitVec.toNat (1 : type.Value) = 1 :=
      (BitVec.toNat_ofNat 1 _).trans (Nat.mod_eq_of_lt (by omega))
    have numbers := congrArg BitVec.toNat sum
    have bound := value.isLt
    rw [BitVec.toNat_add, one] at numbers
    by_cases wraps : value.toNat + 1 = 2 ^ (8 * type.bytes)
    · rw [wraps, Nat.mod_self] at numbers
      omega
    · rw [Nat.mod_eq_of_lt (by omega)] at numbers
      omega

end IntType

/-! ## Expressions -/

/-- All operands are of the type.  An `atom` is whatever binds tighter than every binary operator: a
literal, a path, a call, something in parentheses, with unary operators and casts. -/
inductive ConstExpr (type : IntType) where
  | atom (value : type.Value)
  | binary (op : BinaryOp) (left right : ConstExpr type)

namespace ConstExpr

variable {type : IntType}

def eval : ConstExpr type → Option type.Value
  | atom value => some value
  | binary op left right =>
      left.eval.bind fun leftValue => right.eval.bind fun rightValue =>
        op.apply type leftValue rightValue

/-- The expression with `+ counter` behind it. -/
def plus (counter : type.Value) : ConstExpr type → ConstExpr type
  | atom value => binary .add (atom value) (atom counter)
  | binary op left right =>
      if op.precedence < BinaryOp.add.precedence then binary op left (right.plus counter)
      else binary .add (binary op left right) (atom counter)

/-- With `+ 1` behind it the expression stands for the next number. -/
def AddsOne (expr : ConstExpr type) : Prop :=
  (expr.plus 1).eval = expr.eval.bind type.successor

def IsSum : ConstExpr type → Bool
  | atom _ => true
  | binary op _ _ => BinaryOp.add.precedence ≤ op.precedence

theorem eval_plus_of_isSum {expr : ConstExpr type} (isSum : expr.IsSum = true)
    (counter : type.Value) :
    (expr.plus counter).eval =
      expr.eval.bind fun value => BinaryOp.add.apply type value counter := by
  cases expr with
  | atom value => rfl
  | binary op left right =>
      have tight : ¬ op.precedence < BinaryOp.add.precedence := by
        simpa [IsSum] using isSum
      rw [plus, if_neg tight]
      rfl

theorem addsOne_of_isSum {expr : ConstExpr type} (isSum : expr.IsSum = true) : expr.AddsOne :=
  eval_plus_of_isSum isSum 1

theorem eval_zero_plus_zero (type : IntType) :
    ((atom (0 : type.Value)).plus 0).eval = some 0 :=
  IntType.add_zero 0

end ConstExpr

/-! ## The numbers of the variants -/

namespace IntType

variable (type : IntType)

/-- The discriminants from here on, where `next` is the one a variant without an expression has.
There are none when an expression or a successor overflows: the compiler refuses that. -/
def discriminantsFrom (next : Option type.Value) :
    List (Option (ConstExpr type)) → Option (List type.Value)
  | [] => some []
  | variant :: rest =>
      match variant.elim next ConstExpr.eval with
      | none => none
      | some value => (discriminantsFrom (type.successor value) rest).map (value :: ·)

/-- An explicit discriminant is the value of its expression, any other is the one before plus 1,
and the first is 0. -/
def discriminants (variants : List (Option (ConstExpr type))) : Option (List type.Value) :=
  type.discriminantsFrom (some 0) variants

variable {type}

theorem discriminantsFrom_cons_eq_some {next : Option type.Value}
    {variant : Option (ConstExpr type)} {rest : List (Option (ConstExpr type))}
    {values : List type.Value} :
    type.discriminantsFrom next (variant :: rest) = some values ↔
      ∃ value others, variant.elim next ConstExpr.eval = some value ∧
        type.discriminantsFrom (type.successor value) rest = some others ∧
        values = value :: others := by
  rw [discriminantsFrom]
  cases first : variant.elim next ConstExpr.eval with
  | none => simp
  | some value => simp [eq_comm]

theorem length_of_discriminantsFrom {variants : List (Option (ConstExpr type))}
    {next : Option type.Value} {values : List type.Value}
    (numbered : type.discriminantsFrom next variants = some values) :
    values.length = variants.length := by
  induction variants generalizing next values with
  | nil =>
      cases numbered
      rfl
  | cons variant rest ih =>
      obtain ⟨value, others, _, restNumbered, rfl⟩ :=
        discriminantsFrom_cons_eq_some.mp numbered
      simp [ih restNumbered]

end IntType

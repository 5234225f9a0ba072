import Ubass.Fingerprint
import Ubass.Lib.ConstExpr

/-!
# The derived codec of enumerations

`enum_variants` and `enum_serialization` of `ubass_macros`.  The derived `serialize`
casts a variant and so writes the number the compiler gave it; the derived
`deserialize` compares what it has read with numbers that the macro makes up from the
last explicit discriminant.
-/

set_option autoImplicit false

namespace Ubass

/-- The loop of `enum_variants`, over the discriminants of the variants. -/
def enumVariantsFrom {type : IntType} (counter : type.Value) (lastExpr : ConstExpr type) :
    List (Option (ConstExpr type)) → List (ConstExpr type)
  | [] => []
  | some expr :: rest => expr :: enumVariantsFrom 1 expr rest
  | none :: rest => lastExpr.plus counter :: enumVariantsFrom counter lastExpr rest

/-- `enum_variants`.  The cast to the type of the representation, which the macro writes behind
every expression, changes nothing where all operands are numbers of this type, as they are here:
the right operand of a shift could be of another. -/
def enumVariants {type : IntType} (variants : List (Option (ConstExpr type))) :
    List (ConstExpr type) :=
  enumVariantsFrom 0 (.atom 0) variants

/-- The derived `Serialize`.  A variant is its index in the declaration; `discriminants` is what
`*self as T` gives, `conditions` are the numbers of the generated `if`s. -/
structure EnumSerialize (type : IntType) where
  discriminants : List type.Value
  conditions : List type.Value
deriving DecidableEq

/-- `enum_serialization`.  An expression that overflows is refused by the compiler. -/
def enumSerialization (type : IntType) (variants : List (Option (ConstExpr type))) :
    Option (EnumSerialize type) :=
  (type.discriminants variants).bind fun discriminants =>
    ((enumVariants variants).mapM ConstExpr.eval).map fun conditions => ⟨discriminants, conditions⟩

namespace EnumSerialize

variable {type : IntType}

/-- What `serialize` writes for a number of the representation. -/
def reprBytes (value : type.Value) : List UInt8 := Bytes.beBytes type.bytes value.toNat

def serialize (self : EnumSerialize type) (variant : Nat) : Option (List UInt8) :=
  self.discriminants[variant]?.map reprBytes

def deserialize (self : EnumSerialize type) (bytes : List UInt8) : Option Nat :=
  if bytes.length < type.bytes then none
  else
    let tmp := BitVec.ofNat (8 * type.bytes) (Bytes.ofBeBytes (bytes.take type.bytes))
    self.conditions.findIdx? fun condition => tmp = condition

/-- Every variant is read back, whatever follows it, and no other number is accepted. -/
structure RoundTrips (codec : EnumSerialize type) : Prop where
  reads : ∀ variant bytes, codec.serialize variant = some bytes →
    ∀ rest, codec.deserialize (bytes ++ rest) = some variant
  rejects : ∀ value, value ∉ codec.discriminants → codec.deserialize (reprBytes value) = none

theorem deserialize_reprBytes (self : EnumSerialize type) (value : type.Value)
    (rest : List UInt8) :
    self.deserialize (reprBytes value ++ rest) =
      self.conditions.findIdx? fun condition => value = condition := by
  have length : (reprBytes value).length = type.bytes := Bytes.length_beBytes _ _
  have bound : value.toNat < 256 ^ type.bytes := by
    rw [show (256 : Nat) = 2 ^ 8 by rfl, ← pow_mul]
    exact value.isLt
  have long : ¬ (reprBytes value ++ rest).length < type.bytes := by
    rw [List.length_append, length]
    omega
  simp only [deserialize, if_neg long, List.take_left' length]
  rw [reprBytes, Bytes.ofBeBytes_beBytes bound, BitVec.ofNat_toNat, BitVec.setWidth_eq]

theorem roundTrips_iff {self : EnumSerialize type} (distinct : self.discriminants.Nodup)
    (sameLength : self.conditions.length = self.discriminants.length) :
    self.RoundTrips ↔ self.conditions = self.discriminants := by
  constructor
  · intro roundTrips
    apply List.ext_getElem sameLength
    intro variant inside insideDiscriminants
    have read := roundTrips.reads variant (reprBytes self.discriminants[variant])
      (by simp [serialize, insideDiscriminants]) []
    rw [deserialize_reprBytes, List.findIdx?_eq_some_iff_getElem] at read
    obtain ⟨_, here, _⟩ := read
    exact (of_decide_eq_true here).symm
  · intro same
    constructor
    · intro variant bytes written rest
      obtain ⟨value, found, rfl⟩ := Option.map_eq_some_iff.mp written
      obtain ⟨inside, rfl⟩ := List.getElem?_eq_some_iff.mp found
      rw [deserialize_reprBytes, same, List.findIdx?_eq_some_iff_getElem]
      refine ⟨inside, by simp, ?_⟩
      intro earlier before
      have apart : self.discriminants[variant] ≠ self.discriminants[earlier] := by
        intro equal
        have := (distinct.getElem_inj_iff).mp equal
        omega
      simpa using apart
    · intro value other
      have read := self.deserialize_reprBytes value []
      rw [List.append_nil] at read
      rw [read, same, List.findIdx?_eq_none_iff]
      intro condition listed
      have apart : value ≠ condition := by
        rintro rfl
        exact other listed
      simpa using apart

end EnumSerialize

/-! ## Which numbers the macro makes up -/

variable {type : IntType}

/-- A variant without a discriminant stands behind one whose discriminant gives the next number
when `+ 1` is written behind it. -/
def Follows (before variant : Option (ConstExpr type)) : Prop :=
  variant = none → ∃ expr, before = some expr ∧ expr.AddsOne

theorem follows_of_isSum {expr : ConstExpr type} (isSum : expr.IsSum = true)
    (variant : Option (ConstExpr type)) : Follows (some expr) variant := by
  intro _
  exact ⟨expr, rfl, ConstExpr.addsOne_of_isSum isSum⟩

/-- What the loop of `enum_variants` carries behind a variant to which both sides gave the same
number. -/
def Carries (before : Option (ConstExpr type)) (value : type.Value) (counter : type.Value)
    (lastExpr : ConstExpr type) : Prop :=
  match before with
  | some expr => expr.eval = some value ∧ counter = 1 ∧ lastExpr = expr
  | none => (lastExpr.plus counter).eval = some value

theorem length_enumVariantsFrom (counter : type.Value) (lastExpr : ConstExpr type)
    (variants : List (Option (ConstExpr type))) :
    (enumVariantsFrom counter lastExpr variants).length = variants.length := by
  induction variants generalizing counter lastExpr with
  | nil => rfl
  | cons variant rest ih => cases variant <;> simp [enumVariantsFrom, ih]

/-- Behind such a variant the numbers agree exactly when each variant follows the one before. -/
theorem enumVariantsFrom_agree {variants : List (Option (ConstExpr type))}
    (before : Option (ConstExpr type)) {value counter : type.Value} {lastExpr : ConstExpr type}
    {values : List type.Value} (carries : Carries before value counter lastExpr)
    (numbered : type.discriminantsFrom (type.successor value) variants = some values) :
    (enumVariantsFrom counter lastExpr variants).map ConstExpr.eval = values.map some ↔
      (before :: variants).IsChain Follows := by
  induction variants generalizing before value counter lastExpr values with
  | nil =>
      cases numbered
      simp [enumVariantsFrom]
  | cons variant rest ih =>
      obtain ⟨next, others, first, restNumbered, rfl⟩ :=
        IntType.discriminantsFrom_cons_eq_some.mp numbered
      rw [List.isChain_cons_cons]
      cases variant with
      | some expr =>
          have explicit : expr.eval = some next := first
          have restAgree := ih (some expr) ⟨explicit, rfl, rfl⟩ restNumbered
          rw [enumVariantsFrom, List.map_cons, List.map_cons, List.cons.injEq, restAgree]
          simp [explicit, Follows]
      | none =>
          have follows : type.successor value = some next := first
          simp only [enumVariantsFrom, List.map_cons, List.cons.injEq]
          cases before with
          | some expr =>
              obtain ⟨evaluated, rfl, same⟩ := carries
              subst same
              have addsOne : (lastExpr.plus 1).eval = some next ↔ lastExpr.AddsOne := by
                rw [ConstExpr.AddsOne, evaluated, Option.bind_some, follows]
              have step : Follows (some lastExpr) none ↔ lastExpr.AddsOne := by simp [Follows]
              rw [step, ← addsOne]
              refine and_congr_right ?_
              intro agrees
              exact ih none agrees restNumbered
          | none =>
              -- the macro gives this variant the number of the one before it
              have same : (lastExpr.plus counter).eval = some value := carries
              have apart := IntType.ne_of_successor_eq_some follows
              have never : ¬ Follows (none : Option (ConstExpr type)) none := by simp [Follows]
              constructor
              · rintro ⟨agrees, _⟩
                exact absurd (Option.some.inj (agrees.symm.trans same)) apart
              · rintro ⟨chained, _⟩
                exact absurd chained never

/-- The numbers agree exactly when each variant follows the one before; the first one may have no
discriminant. -/
theorem enumVariants_agree {variants : List (Option (ConstExpr type))} {values : List type.Value}
    (numbered : type.discriminants variants = some values) :
    (enumVariants variants).map ConstExpr.eval = values.map some ↔ variants.IsChain Follows := by
  cases variants with
  | nil =>
      cases numbered
      simp [enumVariants, enumVariantsFrom]
  | cons variant rest =>
      obtain ⟨value, others, first, restNumbered, rfl⟩ :=
        IntType.discriminantsFrom_cons_eq_some.mp numbered
      cases variant with
      | some expr =>
          have explicit : expr.eval = some value := first
          have restAgree := enumVariantsFrom_agree (some expr)
            ⟨explicit, rfl, rfl⟩ restNumbered
          simpa [enumVariants, enumVariantsFrom, explicit] using restAgree
      | none =>
          cases first
          have zero := ConstExpr.eval_zero_plus_zero type
          have restAgree := enumVariantsFrom_agree none zero restNumbered
          rw [enumVariants, enumVariantsFrom, List.map_cons, List.map_cons, List.cons.injEq,
            restAgree]
          exact and_iff_right zero

theorem mapM_eval_eq_some {exprs : List (ConstExpr type)} {values : List type.Value} :
    exprs.mapM ConstExpr.eval = some values ↔ exprs.map ConstExpr.eval = values.map some := by
  induction exprs generalizing values with
  | nil => cases values <;> simp
  | cons expr rest ih =>
      rw [List.mapM_cons, List.map_cons]
      cases first : expr.eval with
      | none => cases values <;> simp
      | some value =>
          cases evaluated : rest.mapM ConstExpr.eval with
          | none => cases values <;> simp [← ih, evaluated]
          | some others => cases values <;> simp [← ih, evaluated]

/-- For every declaration that the compiler accepts: the derived codec round-trips exactly when
every variant without a discriminant is the first one, or follows an explicit discriminant that
gives the next number when `+ 1` is written behind it. -/
theorem derived_codec_iff {type : IntType} {variants : List (Option (ConstExpr type))}
    {values : List type.Value} (numbered : type.discriminants variants = some values)
    (distinct : values.Nodup) :
    (∃ codec, enumSerialization type variants = some codec ∧ codec.RoundTrips) ↔
      variants.IsChain Follows := by
  rw [← enumVariants_agree numbered, ← mapM_eval_eq_some]
  have length : values.length = variants.length := IntType.length_of_discriminantsFrom numbered
  have derived : enumSerialization type variants =
      ((enumVariants variants).mapM ConstExpr.eval).map (EnumSerialize.mk values) := by
    rw [enumSerialization, numbered]
    rfl
  constructor
  · rintro ⟨codec, made, roundTrips⟩
    obtain ⟨conditions, evaluated, rfl⟩ := Option.map_eq_some_iff.mp (derived.symm.trans made)
    have sameLength : conditions.length = values.length := by
      have mapped := congrArg List.length (mapM_eval_eq_some.mp evaluated)
      simp only [List.length_map] at mapped
      rw [length, ← mapped]
      exact length_enumVariantsFrom _ _ _
    have same := (EnumSerialize.roundTrips_iff distinct sameLength).mp roundTrips
    rw [evaluated]
    exact congrArg some same
  · intro evaluated
    refine ⟨⟨values, values⟩, ?_, (EnumSerialize.roundTrips_iff distinct rfl).mpr rfl⟩
    rw [derived, evaluated]
    rfl

/-! ## Enumerations of the wire format -/

/-- The declaration of `ErrorType`: only the first discriminant is explicit. -/
def ErrorType.variants : List (Option (ConstExpr .u8)) := [some (.atom 1), none, none]

theorem enumSerialization_errorType :
    enumSerialization .u8 ErrorType.variants = some ⟨[1, 2, 3], [1, 2, 2]⟩ := by
  decide

/-- The first variant has no discriminant, and the last one stands behind a sum. -/
def sumThenNone : List (Option (ConstExpr .u8)) :=
  [none, some (.binary .add (.atom 3) (.atom 4)), none]

theorem derived_codec_iff_sumThenNone :
    ∃ codec, enumSerialization .u8 sumThenNone = some codec ∧ codec.RoundTrips := by
  apply (@derived_codec_iff .u8 sumThenNone [0, 7, 8] (by decide) (by decide)).mpr
  refine .cons_cons ?_ (.cons_cons (follows_of_isSum rfl none) (.singleton _))
  intro explicit
  cases explicit

/-- The compiler numbers `SessionDoesNotExist` with 3, the derived `deserialize` with 2. -/
theorem third_error_unread :
    IntType.u8.discriminants ErrorType.variants = some [1, 2, 3] ∧
      (∃ codec, enumSerialization .u8 ErrorType.variants = some codec ∧
        codec.serialize 2 = some [3] ∧ codec.deserialize [3] = none) ∧
      ¬ ∃ codec, enumSerialization .u8 ErrorType.variants = some codec ∧ codec.RoundTrips := by
  refine ⟨by decide, ⟨_, enumSerialization_errorType, by decide, by decide⟩, ?_⟩
  rintro ⟨codec, made, roundTrips⟩
  cases enumSerialization_errorType.symm.trans made
  have read := roundTrips.reads 2 [3] (by decide) []
  exact absurd read (by decide)

end Ubass

import Mathlib.Data.Int.ModEq
import VelaExternal.Systems.IntegerType

/-!
# Integer expressions of C

Operands of any integer types, under the integer promotions and the usual arithmetic
conversions. An operation has no result where the language leaves its behaviour undefined: a
result that a signed type cannot represent, a division by zero, a shift by too many bits.
-/

set_option autoImplicit false

namespace VelaExternal.Systems

structure Machine where
  intWidth : Nat
  wide : 16 ≤ intWidth

structure Operand where
  type : IntegerType
  value : Int
  represented : type.Represents value

/-!
## Types
-/

namespace IntegerType

/-- The type of the usual arithmetic conversions: the wider one, and of two types of one width
the unsigned one. Types of different ranks and one width differ in nothing else. -/
def common (first second : IntegerType) : IntegerType :=
  if first.width < second.width then second
  else if second.width < first.width then first
  else if first.isSigned then second else first

def lowest (type : IntegerType) : Operand := ⟨type, type.minimum, type.represents_minimum⟩

def highest (type : IntegerType) : Operand := ⟨type, type.maximum, type.represents_maximum⟩

@[simp] theorem lowest_type (type : IntegerType) : type.lowest.type = type := rfl

@[simp] theorem lowest_value (type : IntegerType) : type.lowest.value = type.minimum := rfl

@[simp] theorem highest_type (type : IntegerType) : type.highest.type = type := rfl

@[simp] theorem highest_value (type : IntegerType) : type.highest.value = type.maximum := rfl

/-- `(type)x` -/
def cast (type : IntegerType) (x : Operand) : Operand :=
  ⟨type, type.wrap x.value, type.represents_wrap x.value⟩

/-- An exact result, brought into the type of the operation. -/
def result (type : IntegerType) (value : Int) : Option Operand :=
  if type.isSigned && !decide (type.Represents value) then none
  else some ⟨type, type.wrap value, type.represents_wrap value⟩

variable {first second type : IntegerType} {value : Int}

theorem minimum_of_signed (signed : type.isSigned = true) : type.minimum = -2 ^ (type.width - 1) :=
  if_pos signed

theorem maximum_of_signed (signed : type.isSigned = true) :
    type.maximum = 2 ^ (type.width - 1) - 1 :=
  if_pos signed

theorem minimum_of_unsigned (unsigned : type.isSigned = false) : type.minimum = 0 := by
  rw [minimum, unsigned]
  rfl

theorem maximum_of_unsigned (unsigned : type.isSigned = false) :
    type.maximum = 2 ^ type.width - 1 := by
  rw [maximum, unsigned]
  rfl

theorem minimum_nonpos (type : IntegerType) : type.minimum ≤ 0 := type.represents_zero.1

theorem maximum_nonneg (type : IntegerType) : 0 ≤ type.maximum := type.represents_zero.2

theorem isSigned_of_negative (represented : type.Represents value) (negative : value < 0) :
    type.isSigned = true := by
  cases signed : type.isSigned with
  | true => rfl
  | false =>
      have lower := represented.1
      rw [minimum_of_unsigned signed] at lower
      omega

theorem two_pow_le {fewer more : Nat} (le : fewer ≤ more) : (2 : Int) ^ fewer ≤ 2 ^ more :=
  pow_le_pow_right₀ (by decide) le

/-- A type holds the values of a narrower one, the negative ones only if it is signed. -/
theorem represents_of_width_lt (represented : first.Represents value)
    (narrower : first.width < second.width) (keeps : second.isSigned = true ∨ 0 ≤ value) :
    second.Represents value := by
  obtain ⟨lower, upper⟩ := represented
  have above : value < 2 ^ first.width := by
    have last := first.maximum_eq
    have lowest := first.minimum_nonpos
    omega
  have below : -2 ^ first.width < value := by
    have last := first.maximum_eq
    have highest := first.maximum_nonneg
    omega
  cases signed : second.isSigned with
  | true =>
      have room := two_pow_le (show first.width ≤ second.width - 1 by omega)
      exact ⟨by rw [minimum_of_signed signed]; omega, by rw [maximum_of_signed signed]; omega⟩
  | false =>
      have nonneg : 0 ≤ value := keeps.resolve_left (by simp [signed])
      have room := two_pow_le (Nat.le_of_lt narrower)
      exact ⟨by rw [minimum_of_unsigned signed]; omega, by rw [maximum_of_unsigned signed]; omega⟩

/-- At one width, only the signedness can lose values. -/
theorem represents_of_width_eq (represented : first.Represents value)
    (same : first.width = second.width)
    (keeps : first.isSigned = second.isSigned ∨ second.isSigned = false ∧ 0 ≤ value) :
    second.Represents value := by
  rcases keeps with signedness | ⟨unsigned, nonneg⟩
  · cases first
    cases second
    cases same
    cases signedness
    exact represented
  · have double := first.two_pow_width
    have half_positive := two_pow_pos (first.width - 1)
    have last := first.maximum_eq
    have lowest := first.minimum_nonpos
    refine ⟨by rw [minimum_of_unsigned unsigned]; omega, ?_⟩
    rw [maximum_of_unsigned unsigned, ← same]
    have upper := represented.2
    omega

theorem common_cases (first second : IntegerType) :
    first.width < second.width ∧ common first second = second ∨
    second.width < first.width ∧ common first second = first ∨
    first.width = second.width ∧ first.isSigned = true ∧ common first second = second ∨
    first.width = second.width ∧ first.isSigned = false ∧ common first second = first := by
  rcases Nat.lt_trichotomy first.width second.width with narrower | same | wider
  · exact .inl ⟨narrower, if_pos narrower⟩
  · cases signed : first.isSigned with
    | true => exact .inr (.inr (.inl ⟨same, rfl, by simp [common, same, signed]⟩))
    | false => exact .inr (.inr (.inr ⟨same, rfl, by simp [common, same, signed]⟩))
  · refine .inr (.inl ⟨wider, ?_⟩)
    rw [common, if_neg (Nat.lt_asymm wider), if_pos wider]

theorem common_comm (first second : IntegerType) : common first second = common second first := by
  rcases common_cases first second with ⟨narrower, eq⟩ | ⟨wider, eq⟩ | ⟨same, signed, eq⟩ |
    ⟨same, unsigned, eq⟩
  · rw [eq, common, if_neg (Nat.lt_asymm narrower), if_pos narrower]
  · rw [eq, common, if_pos wider]
  · rw [eq, common, if_neg (by omega), if_neg (by omega)]
    cases other : second.isSigned with
    | false => rfl
    | true =>
        cases first
        cases second
        cases same
        cases signed
        cases other
        rfl
  · rw [eq, common, if_neg (by omega), if_neg (by omega)]
    cases other : second.isSigned with
    | true => rfl
    | false =>
        cases first
        cases second
        cases same
        cases unsigned
        cases other
        rfl

theorem width_le_common (first second : IntegerType) : first.width ≤ (common first second).width := by
  rcases common_cases first second with ⟨_, eq⟩ | ⟨_, eq⟩ | ⟨_, _, eq⟩ | ⟨_, _, eq⟩ <;>
    rw [eq] <;> omega

theorem common_self (type : IntegerType) : common type type = type := by
  rcases common_cases type type with ⟨_, eq⟩ | ⟨_, eq⟩ | ⟨_, _, eq⟩ | ⟨_, _, eq⟩ <;> exact eq

theorem common_absorb (first second : IntegerType) :
    common first (common first second) = common first second := by
  rcases common_cases first second with ⟨narrower, eq⟩ | ⟨_, eq⟩ | ⟨same, signed, eq⟩ | ⟨_, _, eq⟩
  · rw [eq, eq]
  · rw [eq, common_self]
  · rw [eq, eq]
  · rw [eq, common_self]

theorem common_signed (left : first.isSigned = true) (right : second.isSigned = true) :
    (common first second).isSigned = true := by
  rcases common_cases first second with ⟨_, eq⟩ | ⟨_, eq⟩ | ⟨_, _, eq⟩ | ⟨_, _, eq⟩ <;> rwa [eq]

/-- Of two operands only a negative one changes its value, and only in an unsigned type. -/
theorem represents_common (represented : first.Represents value)
    (keeps : (common first second).isSigned = true ∨ 0 ≤ value) :
    (common first second).Represents value := by
  rcases common_cases first second with ⟨narrower, eq⟩ | ⟨_, eq⟩ | ⟨same, signed, eq⟩ |
    ⟨_, _, eq⟩ <;> rw [eq] at keeps ⊢
  · exact represents_of_width_lt represented narrower keeps
  · exact represented
  · refine represents_of_width_eq represented same ?_
    cases other : second.isSigned with
    | true => exact .inl signed
    | false => exact .inr ⟨rfl, keeps.resolve_left (by simp [other])⟩
  · exact represented

theorem not_represents_of_nonneg (nonneg : 0 ≤ value) :
    ¬type.Represents value ↔ type.maximum < value := by
  have lowest := type.minimum_nonpos
  unfold Represents
  omega

theorem not_represents_of_nonpos (nonpos : value ≤ 0) :
    ¬type.Represents value ↔ value < type.minimum := by
  have highest := type.maximum_nonneg
  unfold Represents
  omega

/-!
## Conversion
-/

theorem wrap_modEq (type : IntegerType) (value : Int) :
    type.wrap value ≡ value [ZMOD 2 ^ type.width] := by
  have same := (Int.mod_modEq (value - type.minimum) (2 ^ type.width)).add_left type.minimum
  rwa [Int.add_comm type.minimum (value - type.minimum), Int.sub_add_cancel] at same

theorem wrap_congr {other : Int} (same : value ≡ other [ZMOD 2 ^ type.width]) :
    type.wrap value = type.wrap other := by
  rw [wrap, wrap, (same.sub_right type.minimum).eq]

/-- The low-order bits are not affected by a detour through a type that is no narrower. -/
theorem wrap_wrap_of_le (le : first.width ≤ second.width) (value : Int) :
    first.wrap (second.wrap value) = first.wrap value :=
  wrap_congr ((second.wrap_modEq value).of_dvd (pow_dvd_pow 2 le))

theorem wrap_of_neg (unsigned : type.isSigned = false) (negative : value < 0)
    (lower : -2 ^ type.width ≤ value) : type.wrap value = value + 2 ^ type.width := by
  rw [← wrap_add_two_pow]
  refine wrap_of_represents ⟨?_, ?_⟩
  · rw [minimum_of_unsigned unsigned]
    omega
  · rw [maximum_of_unsigned unsigned]
    omega

theorem wrap_of_large (unsigned : type.isSigned = false) (large : 2 ^ type.width ≤ value)
    (upper : value < 2 * 2 ^ type.width) : type.wrap value = value - 2 ^ type.width := by
  have around := wrap_add_two_pow type (value - 2 ^ type.width)
  rw [Int.sub_add_cancel] at around
  rw [around]
  refine wrap_of_represents ⟨?_, ?_⟩
  · rw [minimum_of_unsigned unsigned]
    omega
  · rw [maximum_of_unsigned unsigned]
    omega

theorem result_of_represents (represented : type.Represents value) :
    type.result value = some ⟨type, value, represented⟩ := by
  simp [result, represented, wrap_of_represents represented]

theorem result_of_unsigned (unsigned : type.isSigned = false) (value : Int) :
    type.result value = some ⟨type, type.wrap value, type.represents_wrap value⟩ := by
  simp [result, unsigned]

end IntegerType

/-!
## Products and truncated quotients
-/

section Quotients

variable {a b limit : Int}

theorem tdiv_lt_iff (nonneg : 0 ≤ limit) (positive : 0 < b) :
    limit.tdiv b < a ↔ limit < a * b := by
  rw [Int.tdiv_eq_ediv_of_nonneg nonneg, Int.ediv_lt_iff_lt_mul positive]

theorem lt_tdiv_iff (nonpos : limit ≤ 0) (positive : 0 < b) :
    a < limit.tdiv b ↔ a * b < limit := by
  have mirrored := @tdiv_lt_iff (-a) b (-limit) (by omega) positive
  rw [Int.neg_tdiv, Int.neg_mul] at mirrored
  omega

theorem lt_tdiv_iff_of_neg (nonneg : 0 ≤ limit) (negative : b < 0) :
    a < limit.tdiv b ↔ limit < a * b := by
  have mirrored := @tdiv_lt_iff (-a) (-b) limit nonneg (by omega)
  rw [Int.tdiv_neg, Int.neg_mul_neg] at mirrored
  omega

theorem tdiv_lt_iff_of_neg (nonpos : limit ≤ 0) (negative : b < 0) :
    limit.tdiv b < a ↔ a * b < limit := by
  have mirrored := @tdiv_lt_iff a (-b) (-limit) (by omega) (by omega)
  rw [Int.neg_tdiv_neg, Int.mul_neg] at mirrored
  omega

/-- Of the quotients of a type's values only that of the minimum by `-1` is out of range. -/
theorem IntegerType.represents_tdiv {type : IntegerType} {value divisor : Int}
    (represented : type.Represents value) (sign : type.isSigned = true ∨ 0 < divisor)
    (fits : value = type.minimum → divisor ≠ -1) : type.Represents (value.tdiv divisor) := by
  have size := Int.natAbs_tdiv_le_natAbs value divisor
  obtain ⟨lower, upper⟩ := represented
  have least := type.minimum_eq
  have highest := type.maximum_nonneg
  cases signed : type.isSigned with
  | false =>
      rw [signed] at least
      have minimum : type.minimum = 0 := least
      have divisor_positive : 0 < divisor := sign.resolve_left (by simp [signed])
      have nonneg : 0 ≤ value.tdiv divisor := Int.tdiv_nonneg (by omega) (by omega)
      exact ⟨by omega, by omega⟩
  | true =>
      rw [signed] at least
      have minimum : type.minimum = -type.maximum - 1 := least
      by_cases extreme : value = type.minimum
      · rcases Int.lt_trichotomy divisor 0 with negative | zero | positive
        · have not_one := fits extreme
          have nonneg := Int.tdiv_nonneg_of_nonpos_of_nonpos (a := value) (b := divisor)
            (by omega) (by omega)
          have scaled := Int.mul_le_mul_of_nonneg_left (show divisor ≤ -2 by omega)
            (show 0 ≤ type.maximum + 1 by omega)
          have below := (@tdiv_lt_iff_of_neg (type.maximum + 1) divisor value
            (by omega) negative).mpr (by omega)
          exact ⟨by omega, by omega⟩
        · subst zero
          rw [Int.tdiv_zero]
          exact type.represents_zero
        · have nonpos : value.tdiv divisor ≤ 0 := by
            have mirrored := Int.tdiv_nonneg (a := -value) (b := divisor) (by omega) (by omega)
            rw [Int.neg_tdiv] at mirrored
            omega
          exact ⟨by omega, by omega⟩
      · exact ⟨by omega, by omega⟩

end Quotients

/-!
## Operations
-/

namespace Machine

/-- The type `int`. -/
def int (machine : Machine) : IntegerType :=
  ⟨true, machine.intWidth, Nat.lt_of_lt_of_le (by decide) machine.wide⟩

/-- The integer promotions. -/
def promote (machine : Machine) (type : IntegerType) : IntegerType :=
  if type.width < machine.intWidth then machine.int else type

def usualType (machine : Machine) (first second : IntegerType) : IntegerType :=
  (machine.promote first).common (machine.promote second)

variable (machine : Machine)

theorem represents_small {value : Int} (small : -2 ^ 15 ≤ value ∧ value < 2 ^ 15) :
    machine.int.Represents value := by
  have room : (2 : Int) ^ 15 ≤ 2 ^ (machine.int.width - 1) :=
    IntegerType.two_pow_le (Nat.le_sub_of_add_le machine.wide)
  refine ⟨?_, ?_⟩
  · rw [IntegerType.minimum_of_signed rfl]
    omega
  · rw [IntegerType.maximum_of_signed rfl]
    omega

@[simp] theorem int_signed : machine.int.isSigned = true := rfl

/-- A constant that has the type `int` on every machine. -/
def literal (value : Int) (small : -2 ^ 15 ≤ value ∧ value < 2 ^ 15 := by decide) : Operand :=
  ⟨machine.int, value, machine.represents_small small⟩

/-- An arithmetic operator, whose operands are converted to one type first. -/
def arithmetic (operator : Int → Int → Int) (x y : Operand) : Option Operand :=
  let type := machine.usualType x.type y.type
  type.result (operator (type.wrap x.value) (type.wrap y.value))

def add : Operand → Operand → Option Operand := machine.arithmetic (· + ·)

def subtract : Operand → Operand → Option Operand := machine.arithmetic (· - ·)

def multiply : Operand → Operand → Option Operand := machine.arithmetic (· * ·)

def divide (x y : Operand) : Option Operand :=
  if (machine.usualType x.type y.type).wrap y.value = 0 then none
  else machine.arithmetic Int.tdiv x y

def negate (x : Operand) : Option Operand := (machine.promote x.type).result (-x.value)

def complement (x : Operand) : Option Operand := (machine.promote x.type).result (Int.not x.value)

def shiftLeft (x : Operand) (bits : Int) : Option Operand :=
  let type := machine.promote x.type
  if bits < 0 ∨ type.width ≤ bits ∨ type.isSigned = true ∧ x.value < 0 then none
  else type.result (x.value * 2 ^ bits.toNat)

/-- A relational operator, whose operands are converted as for an arithmetic one. -/
def compare (relation : Int → Int → Bool) (x y : Operand) : Bool :=
  let type := machine.usualType x.type y.type
  relation (type.wrap x.value) (type.wrap y.value)

def less : Operand → Operand → Bool := machine.compare fun x y => decide (x < y)

def lessEq : Operand → Operand → Bool := machine.compare fun x y => decide (x ≤ y)

def equal : Operand → Operand → Bool := machine.compare fun x y => decide (x = y)

/-- `x && y`: the second operand is evaluated only where the first is true. -/
def logicalAnd (x y : Option Bool) : Option Bool := do if ← x then y else return false

/-- `x || y`: the second operand is evaluated only where the first is false. -/
def logicalOr (x y : Option Bool) : Option Bool := do if ← x then return true else y

@[simp] theorem logicalAnd_some (x y : Bool) : logicalAnd (some x) (some y) = some (x && y) := by
  cases x <;> rfl

@[simp] theorem logicalAnd_false (y : Option Bool) : logicalAnd (some false) y = some false := rfl

@[simp] theorem logicalOr_some (x y : Bool) : logicalOr (some x) (some y) = some (x || y) := by
  cases x <;> rfl

@[simp] theorem logicalAnd_true (y : Option Bool) : logicalAnd (some true) y = y := rfl

@[simp] theorem logicalOr_false (y : Option Bool) : logicalOr (some false) y = y := rfl

@[simp] theorem logicalOr_true (y : Option Bool) : logicalOr (some true) y = some true := rfl

/-!
## Promotion
-/

variable {machine} {first second type : IntegerType} {value : Int}

theorem promote_of_le (wide : machine.intWidth ≤ type.width) : machine.promote type = type :=
  if_neg (Nat.not_lt_of_le wide)

theorem intWidth_le_promote : machine.intWidth ≤ (machine.promote type).width := by
  rw [promote]
  split
  · exact Nat.le_refl _
  · exact Nat.le_of_not_lt ‹_›

@[simp] theorem promote_promote : machine.promote (machine.promote type) = machine.promote type :=
  promote_of_le intWidth_le_promote

@[simp] theorem promote_int : machine.promote machine.int = machine.int :=
  promote_of_le (Nat.le_refl _)

theorem intWidth_le_usualType : machine.intWidth ≤ (machine.usualType first second).width :=
  Nat.le_trans intWidth_le_promote (IntegerType.width_le_common _ _)

@[simp] theorem promote_usualType :
    machine.promote (machine.usualType first second) = machine.usualType first second :=
  promote_of_le intWidth_le_usualType

@[simp] theorem usualType_promote_left :
    machine.usualType (machine.promote first) second = machine.usualType first second := by
  rw [usualType, usualType, promote_promote]

@[simp] theorem usualType_promote_right :
    machine.usualType first (machine.promote second) = machine.usualType first second := by
  rw [usualType, usualType, promote_promote]

theorem usualType_comm : machine.usualType first second = machine.usualType second first :=
  IntegerType.common_comm _ _

theorem usualType_self : machine.usualType type type = machine.promote type :=
  IntegerType.common_self _

@[simp] theorem usualType_absorb_left :
    machine.usualType first (machine.usualType first second) = machine.usualType first second := by
  rw [usualType, promote_usualType]
  exact IntegerType.common_absorb _ _

@[simp] theorem usualType_absorb_right :
    machine.usualType second (machine.usualType first second) = machine.usualType first second := by
  have swapped : machine.usualType first second = machine.usualType second first := usualType_comm
  rw [swapped, usualType_absorb_left]

/-- The type `int` has no effect on the other operand beyond promoting it. -/
@[simp] theorem usualType_int_left : machine.usualType machine.int type = machine.promote type := by
  have wide : machine.intWidth ≤ (machine.promote type).width := intWidth_le_promote
  rw [usualType, promote_int]
  rcases IntegerType.common_cases machine.int (machine.promote type) with ⟨_, eq⟩ | ⟨wider, _⟩ |
    ⟨_, _, eq⟩ | ⟨_, unsigned, _⟩
  · exact eq
  · exact absurd wider (Nat.not_lt_of_le wide)
  · exact eq
  · cases unsigned

@[simp] theorem usualType_int_right : machine.usualType type machine.int = machine.promote type := by
  rw [usualType_comm, usualType_int_left]

theorem represents_promote (represented : type.Represents value) :
    (machine.promote type).Represents value := by
  rw [promote]
  split
  · exact IntegerType.represents_of_width_lt represented ‹_› (.inl rfl)
  · exact represented

theorem promote_signed_of_signed (signed : type.isSigned = true) :
    (machine.promote type).isSigned = true := by
  rw [promote]
  split
  · rfl
  · exact signed

theorem promote_signed_of_negative (represented : type.Represents value) (negative : value < 0) :
    (machine.promote type).isSigned = true :=
  IntegerType.isSigned_of_negative (represents_promote represented) negative

theorem usualType_signed (left : (machine.promote first).isSigned = true)
    (right : (machine.promote second).isSigned = true) :
    (machine.usualType first second).isSigned = true :=
  IntegerType.common_signed left right

theorem represents_usualType (represented : first.Represents value)
    (keeps : (machine.usualType first second).isSigned = true ∨ 0 ≤ value) :
    (machine.usualType first second).Represents value :=
  IntegerType.represents_common (represents_promote represented) keeps

theorem represents_promote_small (small : -2 ^ 15 ≤ value ∧ value < 2 ^ 15)
    (keeps : (machine.promote type).isSigned = true ∨ 0 ≤ value) :
    (machine.promote type).Represents value := by
  have within : (machine.usualType machine.int type).Represents value :=
    represents_usualType (machine.represents_small small) (by rwa [usualType_int_left])
  rwa [usualType_int_left] at within

theorem represents_usualType_right (represented : second.Represents value)
    (keeps : (machine.usualType first second).isSigned = true ∨ 0 ≤ value) :
    (machine.usualType first second).Represents value := by
  rw [usualType_comm] at keeps ⊢
  exact represents_usualType represented keeps

/-!
## Operands that keep their values
-/

variable {x y : Operand}

/-- The usual arithmetic conversions change neither operand. -/
def Exact (machine : Machine) (x y : Operand) : Prop :=
  (machine.usualType x.type y.type).Represents x.value ∧
    (machine.usualType x.type y.type).Represents y.value

theorem exact_of_keeps
    (left : (machine.usualType x.type y.type).isSigned = true ∨ 0 ≤ x.value)
    (right : (machine.usualType x.type y.type).isSigned = true ∨ 0 ≤ y.value) :
    machine.Exact x y :=
  ⟨represents_usualType x.represented left, represents_usualType_right y.represented right⟩

theorem minimum_neg (signed : type.isSigned = true) : type.minimum < 0 := by
  have positive := IntegerType.two_pow_pos (type.width - 1)
  rw [IntegerType.minimum_of_signed signed]
  omega

/-- An unsigned type of the conversions leaves room for the other, signed type. -/
theorem half_of_negative (represented : first.Represents value) (negative : value < 0) :
    -2 ^ (machine.usualType first second).width ≤ 2 * value := by
  have signed := @promote_signed_of_negative machine _ _ represented negative
  have lower := (@represents_promote machine _ _ represented).1
  have double := (machine.promote first).two_pow_width
  have room := IntegerType.two_pow_le
    (IntegerType.width_le_common (machine.promote first) (machine.promote second))
  rw [IntegerType.minimum_of_signed signed] at lower
  rw [usualType]
  omega

theorem nonneg_of_negative (unsigned : (machine.usualType x.type y.type).isSigned = false)
    (negative : x.value < 0) : 0 ≤ y.value := by
  by_contra other
  have signed := usualType_signed
    (@promote_signed_of_negative machine _ _ x.represented negative)
    (promote_signed_of_negative y.represented (Int.not_le.mp other))
  rw [unsigned] at signed
  cases signed

theorem exact_of_signed (signed : (machine.usualType x.type y.type).isSigned = true) :
    machine.Exact x y :=
  exact_of_keeps (.inl signed) (.inl signed)

theorem exact_of_nonneg (left : 0 ≤ x.value) (right : 0 ≤ y.value) : machine.Exact x y :=
  exact_of_keeps (.inr left) (.inr right)

theorem exact_of_negative (left : x.value < 0) (right : y.value < 0) : machine.Exact x y :=
  exact_of_signed (usualType_signed (promote_signed_of_negative x.represented left)
    (promote_signed_of_negative y.represented right))

theorem Exact.symm (exact : machine.Exact x y) : machine.Exact y x := by
  refine ⟨?_, ?_⟩ <;> rw [usualType_comm]
  · exact exact.2
  · exact exact.1

theorem exact_literal {value : Int} (small : -2 ^ 15 ≤ value ∧ value < 2 ^ 15)
    (keeps : (machine.promote x.type).isSigned = true ∨ 0 ≤ value) :
    machine.Exact x (machine.literal value small) := by
  cases signed : (machine.promote x.type).isSigned with
  | true => exact exact_of_signed (usualType_signed signed (by simp [literal]))
  | false =>
      have nonneg : 0 ≤ x.value := by
        have promoted : (machine.promote x.type).Represents x.value :=
          represents_promote x.represented
        have lower := promoted.1
        rwa [IntegerType.minimum_of_unsigned signed] at lower
      exact exact_of_nonneg nonneg (keeps.resolve_left (by simp [signed]))

theorem compare_of_exact {relation : Int → Int → Bool} (exact : machine.Exact x y) :
    machine.compare relation x y = relation x.value y.value := by
  rw [compare, IntegerType.wrap_of_represents exact.1, IntegerType.wrap_of_represents exact.2]

theorem less_of_exact (exact : machine.Exact x y) :
    machine.less x y = decide (x.value < y.value) :=
  compare_of_exact exact

theorem lessEq_of_exact (exact : machine.Exact x y) :
    machine.lessEq x y = decide (x.value ≤ y.value) :=
  compare_of_exact exact

theorem equal_of_exact (exact : machine.Exact x y) :
    machine.equal x y = decide (x.value = y.value) :=
  compare_of_exact exact

/-- A comparison with zero never goes wrong. -/
@[simp] theorem less_zero : machine.less x (machine.literal 0) = decide (x.value < 0) :=
  less_of_exact (exact_literal _ (.inr (Int.le_refl 0)))

@[simp] theorem zero_less : machine.less (machine.literal 0) x = decide (0 < x.value) := by
  have exact : machine.Exact x (machine.literal 0) := exact_literal _ (.inr (Int.le_refl 0))
  exact less_of_exact exact.symm

/-!
## Exact operations
-/

/-- Operators whose result modulo any number depends only on the operands modulo it. -/
def Modular (operator : Int → Int → Int) : Prop :=
  ∀ {modulus a b c d : Int}, a ≡ b [ZMOD modulus] → c ≡ d [ZMOD modulus] →
    operator a c ≡ operator b d [ZMOD modulus]

theorem modular_add : Modular (· + ·) := fun left right => left.add right

theorem modular_subtract : Modular (· - ·) := fun left right => left.sub right

theorem modular_multiply : Modular (· * ·) := fun left right => left.mul right

variable {operator : Int → Int → Int}

theorem wrap_operator (modular : Modular operator) (type : IntegerType) (a b : Int) :
    type.wrap (operator (type.wrap a) (type.wrap b)) = type.wrap (operator a b) :=
  IntegerType.wrap_congr (modular (type.wrap_modEq a) (type.wrap_modEq b))

theorem arithmetic_of_exact (exact : machine.Exact x y)
    (represented : (machine.usualType x.type y.type).Represents (operator x.value y.value)) :
    machine.arithmetic operator x y = some ⟨_, operator x.value y.value, represented⟩ := by
  rw [arithmetic, IntegerType.wrap_of_represents exact.1, IntegerType.wrap_of_represents exact.2]
  exact IntegerType.result_of_represents represented

/-- In an unsigned type the low-order bits of the exact result are kept. -/
theorem arithmetic_of_unsigned (modular : Modular operator)
    (unsigned : (machine.usualType x.type y.type).isSigned = false) :
    machine.arithmetic operator x y =
      some ⟨_, (machine.usualType x.type y.type).wrap (operator x.value y.value),
        IntegerType.represents_wrap _ _⟩ := by
  rw [arithmetic, IntegerType.result_of_unsigned unsigned]
  simp only [wrap_operator modular]

/-- The conversion of an operand does no harm where the exact result can be represented. -/
theorem arithmetic_of_represents (modular : Modular operator)
    (represented : (machine.usualType x.type y.type).Represents (operator x.value y.value)) :
    machine.arithmetic operator x y = some ⟨_, operator x.value y.value, represented⟩ := by
  cases signed : (machine.usualType x.type y.type).isSigned with
  | true => exact arithmetic_of_exact (exact_of_signed signed) represented
  | false =>
      rw [arithmetic_of_unsigned modular signed]
      simp only [IntegerType.wrap_of_represents represented]

/-- The expression is defined, and its value is the exact one. -/
def Yields (result : Option Operand) (exact : Int) : Prop :=
  ∃ operand, result = some operand ∧ operand.value = exact

theorem type_of_result {operand : Operand} (found : type.result value = some operand) :
    operand.type = type := by
  rw [IntegerType.result] at found
  split at found
  · cases found
  · cases found
    rfl

/-- A C operator is right exactly where the type of the expression holds the exact result. -/
theorem yields_arithmetic_iff (modular : Modular operator) :
    Yields (machine.arithmetic operator x y) (operator x.value y.value) ↔
      (machine.usualType x.type y.type).Represents (operator x.value y.value) := by
  constructor
  · rintro ⟨operand, found, exact⟩
    have typed := type_of_result found
    rw [← exact, ← typed]
    exact operand.represented
  · intro represented
    exact ⟨_, arithmetic_of_represents modular represented, rfl⟩

theorem add_of_represents
    (represented : (machine.usualType x.type y.type).Represents (x.value + y.value)) :
    machine.add x y = some ⟨_, x.value + y.value, represented⟩ :=
  arithmetic_of_represents modular_add represented

theorem subtract_of_represents
    (represented : (machine.usualType x.type y.type).Represents (x.value - y.value)) :
    machine.subtract x y = some ⟨_, x.value - y.value, represented⟩ :=
  arithmetic_of_represents modular_subtract represented

theorem multiply_of_represents
    (represented : (machine.usualType x.type y.type).Represents (x.value * y.value)) :
    machine.multiply x y = some ⟨_, x.value * y.value, represented⟩ :=
  arithmetic_of_represents modular_multiply represented

theorem divide_of_exact (exact : machine.Exact x y) (nonzero : y.value ≠ 0)
    (represented : (machine.usualType x.type y.type).Represents (x.value.tdiv y.value)) :
    machine.divide x y = some ⟨_, x.value.tdiv y.value, represented⟩ := by
  rw [divide, IntegerType.wrap_of_represents exact.2, if_neg nonzero]
  exact arithmetic_of_exact exact represented

theorem add_eq (represented : type.Represents value)
    (typed : machine.usualType x.type y.type = type) (exact : x.value + y.value = value) :
    machine.add x y = some ⟨type, value, represented⟩ := by
  subst typed exact
  exact add_of_represents represented

theorem subtract_eq (represented : type.Represents value)
    (typed : machine.usualType x.type y.type = type) (exact : x.value - y.value = value) :
    machine.subtract x y = some ⟨type, value, represented⟩ := by
  subst typed exact
  exact subtract_of_represents represented

theorem multiply_eq (represented : type.Represents value)
    (typed : machine.usualType x.type y.type = type) (exact : x.value * y.value = value) :
    machine.multiply x y = some ⟨type, value, represented⟩ := by
  subst typed exact
  exact multiply_of_represents represented

theorem divide_eq (exact : machine.Exact x y) (nonzero : y.value ≠ 0)
    (represented : type.Represents value) (typed : machine.usualType x.type y.type = type)
    (quotient : x.value.tdiv y.value = value) :
    machine.divide x y = some ⟨type, value, represented⟩ := by
  subst typed quotient
  exact divide_of_exact exact nonzero represented

end Machine

end VelaExternal.Systems

import Mathlib.Algebra.Order.Ring.Int

/-!
# Integer types of C

A type is given by its signedness and its width; its values are the integers that it can
represent. Conversion takes an integer to the value that agrees with it modulo the width,
and the checked operations report whether that changed the result.
-/

set_option autoImplicit false

namespace VelaExternal.Systems

structure IntegerType where
  isSigned : Bool
  width : Nat
  positive : 0 < width
  deriving DecidableEq

namespace IntegerType

def minimum (type : IntegerType) : Int := if type.isSigned then -2 ^ (type.width - 1) else 0

def maximum (type : IntegerType) : Int :=
  if type.isSigned then 2 ^ (type.width - 1) - 1 else 2 ^ type.width - 1

def Represents (type : IntegerType) (value : Int) : Prop :=
  type.minimum ≤ value ∧ value ≤ type.maximum

instance (type : IntegerType) (value : Int) : Decidable (type.Represents value) :=
  inferInstanceAs (Decidable (_ ∧ _))

@[ext] structure Value (type : IntegerType) where
  toInt : Int
  represented : type.Represents toInt
  deriving DecidableEq

/-!
## Conversion
-/

/-- The integer in the range of the type that agrees with `value` modulo the width. -/
def wrap (type : IntegerType) (value : Int) : Int :=
  type.minimum + (value - type.minimum) % 2 ^ type.width

theorem two_pow_width (type : IntegerType) :
    (2 : Int) ^ type.width = 2 * 2 ^ (type.width - 1) := by
  rw [← Int.pow_succ', Nat.sub_add_cancel type.positive]

theorem two_pow_pos (bits : Nat) : (0 : Int) < 2 ^ bits := Int.pow_pos (by decide)

theorem maximum_eq (type : IntegerType) : type.maximum = type.minimum + 2 ^ type.width - 1 := by
  have double := type.two_pow_width
  unfold maximum minimum
  cases type.isSigned with
  | true =>
      simp only [if_true]
      omega
  | false => simp

theorem minimum_eq (type : IntegerType) :
    type.minimum = if type.isSigned then -type.maximum - 1 else 0 := by
  unfold minimum maximum
  cases type.isSigned with
  | true =>
      simp only [if_true]
      omega
  | false => rfl

theorem represents_zero (type : IntegerType) : type.Represents 0 := by
  have half_positive := two_pow_pos (type.width - 1)
  have positive := two_pow_pos type.width
  unfold Represents minimum maximum
  cases type.isSigned with
  | true =>
      simp only [if_true]
      omega
  | false =>
      simp only [Bool.false_eq_true, if_false]
      omega

theorem minimum_le_maximum (type : IntegerType) : type.minimum ≤ type.maximum :=
  Int.le_trans type.represents_zero.1 type.represents_zero.2

theorem represents_minimum (type : IntegerType) : type.Represents type.minimum :=
  ⟨Int.le_refl _, type.minimum_le_maximum⟩

theorem represents_maximum (type : IntegerType) : type.Represents type.maximum :=
  ⟨type.minimum_le_maximum, Int.le_refl _⟩

theorem represents_wrap (type : IntegerType) (value : Int) : type.Represents (type.wrap value) := by
  have positive := two_pow_pos type.width
  have lower := Int.emod_nonneg (value - type.minimum) (Int.ne_of_gt positive)
  have upper := Int.emod_lt_of_pos (value - type.minimum) positive
  have last := type.maximum_eq
  unfold Represents wrap
  omega

theorem wrap_of_represents {type : IntegerType} {value : Int}
    (represented : type.Represents value) : type.wrap value = value := by
  obtain ⟨lower, upper⟩ := represented
  rw [maximum_eq] at upper
  rw [wrap, Int.emod_eq_of_lt (by omega) (by omega)]
  omega

/-- Going once around the type changes nothing. -/
theorem wrap_add_two_pow (type : IntegerType) (value : Int) :
    type.wrap (value + 2 ^ type.width) = type.wrap value := by
  have around : value + 2 ^ type.width - type.minimum =
      value - type.minimum + 2 ^ type.width := by omega
  rw [wrap, wrap, around, Int.add_emod_right]

def convert (type : IntegerType) (value : Int) : type.Value :=
  ⟨type.wrap value, type.represents_wrap value⟩

theorem convert_of_represents {type : IntegerType} {value : Int}
    (represented : type.Represents value) : (type.convert value).toInt = value :=
  wrap_of_represents represented

/-!
## Checked operations
-/

/-- Whether the result overflows, and the value that is stored. -/
def addWrapv (type : IntegerType) (first second : Int) : Bool × type.Value :=
  (!decide (type.Represents (first + second)), type.convert (first + second))

def subtractWrapv (type : IntegerType) (first second : Int) : Bool × type.Value :=
  (!decide (type.Represents (first - second)), type.convert (first - second))

/-- The complement of all bits, for a type in which it does not overflow. -/
theorem not_eq (value : Int) : Int.not value = -value - 1 := by
  cases value with
  | ofNat value =>
      change Int.negSucc value = -(value : Int) - 1
      omega
  | negSucc value =>
      change (value : Int) = -Int.negSucc value - 1
      omega

end IntegerType

end VelaExternal.Systems

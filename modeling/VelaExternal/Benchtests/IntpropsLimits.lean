import VelaExternal.Benchtests.Intprops

/-!
# Limits of an expression's type

What the macros of `intprops.h` find out about the type of an expression: whether it is
signed, and its minimum and maximum, after promotion.
-/

set_option autoImplicit false

namespace VelaExternal.Benchtests

open Systems
open Systems.Machine

variable {machine : Machine} {e : IntegerType}

@[simp] theorem conditionalZero_type :
    (conditionalZero machine e).type = machine.promote e :=
  usualType_int_left

@[simp] theorem conditionalZero_value : (conditionalZero machine e).value = 0 := rfl

@[simp] theorem literal_type (value : Int) (small : -2 ^ 15 ≤ value ∧ value < 2 ^ 15) :
    (machine.literal value small).type = machine.int := rfl

@[simp] theorem literal_value (value : Int) (small : -2 ^ 15 ≤ value ∧ value < 2 ^ 15) :
    (machine.literal value small).value = value := rfl

@[simp] theorem glIntConvertType_eq (first second : IntegerType) :
    glIntConvertType machine first second = machine.usualType first second := by
  rw [glIntConvertType, conditionalZero_type, usualType_promote_left]

/-- `-1`, or the maximum of an unsigned type -/
theorem glIntNegateConvert_one :
    glIntNegateConvert machine e (machine.literal 1) =
      some (if (machine.promote e).isSigned = true
        then (machine.promote e).cast (machine.literal (-1)) else (machine.promote e).highest) := by
  have typed : machine.usualType (conditionalZero machine e).type (machine.literal 1).type =
      machine.promote e := by simp
  cases signed : (machine.promote e).isSigned with
  | true =>
      have represented : (machine.promote e).Represents (-1) :=
        represents_promote_small (by decide) (.inl signed)
      rw [if_pos rfl, glIntNegateConvert, subtract_eq represented typed rfl]
      simp only [IntegerType.cast, literal_value, IntegerType.wrap_of_represents represented]
  | false =>
      have unsigned := signed
      rw [← typed] at unsigned
      have last : (machine.promote e).wrap (0 - 1) = (machine.promote e).maximum := by
        have positive := IntegerType.two_pow_pos (machine.promote e).width
        rw [IntegerType.wrap_of_neg signed (by omega) (by omega),
          IntegerType.maximum_of_unsigned signed]
        omega
      rw [if_neg (by decide), glIntNegateConvert, Machine.subtract,
        arithmetic_of_unsigned modular_subtract unsigned]
      simp only [conditionalZero_value, literal_value, typed, last, IntegerType.highest]

@[simp] theorem exprSigned_eq (e : IntegerType) :
    exprSigned machine e = some (machine.promote e).isSigned := by
  rw [exprSigned, glIntNegateConvert_one]
  cases signed : (machine.promote e).isSigned with
  | true =>
      have represented : (machine.promote e).Represents (-1) :=
        represents_promote_small (by decide) (.inl signed)
      simp [IntegerType.cast, IntegerType.wrap_of_represents represented]
  | false =>
      have nonneg := (machine.promote e).maximum_nonneg
      simp [Int.not_lt.mpr nonneg]

/-- The maximum is calculated in halves, since its successor cannot be represented. -/
theorem glSignedIntMaximum_eq (signed : (machine.promote e).isSigned = true) :
    glSignedIntMaximum machine e = some (machine.promote e).highest := by
  have wide : 16 ≤ (machine.promote e).width := Nat.le_trans machine.wide intWidth_le_promote
  obtain ⟨bits, width⟩ : ∃ bits, (machine.promote e).width = bits + 2 :=
    ⟨(machine.promote e).width - 2, by omega⟩
  have positive := IntegerType.two_pow_pos bits
  have double : (2 : Int) ^ (bits + 1) = 2 * 2 ^ bits := Int.pow_succ' ..
  have least : (machine.promote e).minimum = -(2 * 2 ^ bits) := by
    rw [IntegerType.minimum_of_signed signed, width, ← double]
    rfl
  have greatest : (machine.promote e).maximum = 2 * 2 ^ bits - 1 := by
    rw [IntegerType.maximum_of_signed signed, width, ← double]
    rfl
  have within : ∀ value : Int, 0 ≤ value → value ≤ 2 * 2 ^ bits - 1 →
      (machine.promote e).Represents value := fun value lower upper =>
    ⟨by rw [least]; omega, by rw [greatest]; exact upper⟩
  have power : machine.shiftLeft ⟨machine.promote e, 1, within 1 (by omega) (by omega)⟩
      ((machine.promote e).width - 2) =
        some ⟨machine.promote e, 2 ^ bits, within _ (by omega) (by omega)⟩ := by
    rw [shiftLeft, if_neg (by simp only [promote_promote, width]; omega), width]
    simp only [promote_promote, Int.natCast_add, Int.cast_ofNat_Int, Int.add_sub_cancel,
      Int.toNat_natCast, Int.one_mul]
    exact IntegerType.result_of_represents (within _ (by omega) (by omega))
  rw [glSignedIntMaximum, glIntConvert,
    add_eq (within 1 (by omega) (by omega)) (by simp) (by simp)]
  simp only [Option.bind_eq_bind, Option.bind_some]
  rw [power]
  simp only [Option.bind_some]
  rw [subtract_eq (within (2 ^ bits - 1) (by omega) (by omega)) (by simp) (by simp)]
  simp only [Option.bind_some]
  rw [multiply_eq (within ((2 ^ bits - 1) * 2) (by omega) (by omega)) (by simp) (by simp)]
  simp only [Option.bind_some]
  exact add_eq (machine.promote e).highest.represented (by simp) (by
    simp only [literal_value, IntegerType.highest_value, greatest]
    omega)

@[simp] theorem glIntMaximum_eq (e : IntegerType) :
    glIntMaximum machine e = some (machine.promote e).highest := by
  rw [glIntMaximum, exprSigned_eq]
  cases signed : (machine.promote e).isSigned with
  | true => simpa using glSignedIntMaximum_eq signed
  | false => simp [glIntNegateConvert_one, signed]

@[simp] theorem glIntMinimum_eq (e : IntegerType) :
    glIntMinimum machine e = some (machine.promote e).lowest := by
  rw [glIntMinimum, exprSigned_eq]
  cases signed : (machine.promote e).isSigned with
  | true =>
      have least : Int.not (machine.promote e).maximum = (machine.promote e).minimum := by
        rw [IntegerType.not_eq, IntegerType.minimum_eq, if_pos signed]
      simp only [Option.bind_eq_bind, Option.bind_some, if_true, glSignedIntMaximum_eq signed,
        Machine.complement]
      simp only [IntegerType.highest, promote_promote, least]
      exact IntegerType.result_of_represents (IntegerType.represents_minimum _)
  | false =>
      simp only [Option.bind_eq_bind, Option.bind_some, Bool.false_eq_true, if_false]
      exact add_eq (machine.promote e).lowest.represented (by simp)
        (by simp [IntegerType.minimum_of_unsigned signed])

end VelaExternal.Benchtests

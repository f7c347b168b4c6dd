import VelaExternal.Benchtests.IntpropsLimits

/-!
# Overflow of C expressions

`INT_<op>_OVERFLOW` for operands of any two types: defined everywhere, and true exactly where
the exact result lies outside the type of the C expression.
-/

set_option autoImplicit false

namespace VelaExternal.Benchtests

open Systems
open Systems.Machine

variable {machine : Machine} {a b : Operand} {type : IntegerType}

/-!
## Operands of the type of the limits
-/

/-- The restriction on the range macros: after the usual arithmetic conversions, which change
neither, the operands have the type of the limits. -/
structure SameType (machine : Machine) (type : IntegerType) (a b : Operand) : Prop where
  left : machine.usualType a.type type = type
  right : machine.usualType b.type type = type
  leftRepresented : type.Represents a.value
  rightRepresented : type.Represents b.value

private theorem sameType_of_exact (exact : machine.Exact a b) :
    SameType machine (machine.usualType a.type b.type) a b where
  left := usualType_absorb_left
  right := usualType_absorb_right
  leftRepresented := exact.1
  rightRepresented := exact.2

private theorem exact_of_type {x y : Operand} (typed : machine.usualType x.type type = type)
    (left : type.Represents x.value) (other : y.type = type) : machine.Exact x y := by
  subst other
  refine ⟨?_, ?_⟩ <;> rw [typed]
  · exact left
  · exact y.represented

private theorem less_type {x : Operand} {value : Int} (typed : machine.usualType x.type type = type)
    (left : type.Represents x.value) (represented : type.Represents value) :
    machine.less x ⟨type, value, represented⟩ = decide (x.value < value) :=
  less_of_exact (exact_of_type typed left rfl)

private theorem type_less {x : Operand} {value : Int} (typed : machine.usualType x.type type = type)
    (left : type.Represents x.value) (represented : type.Represents value) :
    machine.less ⟨type, value, represented⟩ x = decide (value < x.value) :=
  less_of_exact (exact_of_type typed left rfl).symm

/-!
## `INT_<op>_RANGE_OVERFLOW`
-/

section Range

variable (same : SameType machine type a b)

include same

private theorem intAddRangeOverflow_eq :
    intAddRangeOverflow machine a b type.lowest type.highest =
      some (decide ¬type.Represents (a.value + b.value)) := by
  obtain ⟨left, right, leftRepresented, rightRepresented⟩ := same
  have lowest := leftRepresented.1
  have highest := leftRepresented.2
  rw [intAddRangeOverflow, less_zero]
  by_cases negative : b.value < 0
  · have room : type.Represents (type.minimum - b.value) := by
      have minimum_le := rightRepresented.1
      have maximum_nonneg := type.maximum_nonneg
      exact ⟨by omega, by omega⟩
    rw [if_pos (decide_eq_true negative),
      subtract_eq room (by rw [usualType_comm]; exact right) rfl]
    simp only [Option.bind_eq_bind, Option.bind_some, less_type left leftRepresented room]
    refine congrArg some (decide_eq_decide.mpr ?_)
    unfold IntegerType.Represents
    omega
  · have room : type.Represents (type.maximum - b.value) := by
      have le_maximum := rightRepresented.2
      have minimum_nonpos := type.minimum_nonpos
      exact ⟨by omega, by omega⟩
    rw [if_neg (by simpa using negative),
      subtract_eq room (by rw [usualType_comm]; exact right) rfl]
    simp only [Option.bind_eq_bind, Option.bind_some, type_less left leftRepresented room]
    refine congrArg some (decide_eq_decide.mpr ?_)
    unfold IntegerType.Represents
    omega

private theorem intSubtractRangeOverflow_eq :
    intSubtractRangeOverflow machine a b type.lowest type.highest =
      some (decide ¬type.Represents (a.value - b.value)) := by
  obtain ⟨left, right, leftRepresented, rightRepresented⟩ := same
  have lowest := leftRepresented.1
  have highest := leftRepresented.2
  have minimum_nonpos := type.minimum_nonpos
  have maximum_nonneg := type.maximum_nonneg
  rw [intSubtractRangeOverflow, less_zero]
  by_cases negative : b.value < 0
  · have room : type.Represents (type.maximum + b.value) := by
      have minimum_le := rightRepresented.1
      exact ⟨by omega, by omega⟩
    rw [if_pos (decide_eq_true negative), add_eq room (by rw [usualType_comm]; exact right) rfl]
    simp only [Option.bind_eq_bind, Option.bind_some, type_less left leftRepresented room]
    refine congrArg some (decide_eq_decide.mpr ?_)
    unfold IntegerType.Represents
    omega
  · have room : type.Represents (type.minimum + b.value) := by
      have le_maximum := rightRepresented.2
      exact ⟨by omega, by omega⟩
    rw [if_neg (by simpa using negative), add_eq room (by rw [usualType_comm]; exact right) rfl]
    simp only [Option.bind_eq_bind, Option.bind_some, less_type left leftRepresented room]
    refine congrArg some (decide_eq_decide.mpr ?_)
    unfold IntegerType.Represents
    omega

private theorem intMultiplyRangeOverflow_eq :
    intMultiplyRangeOverflow machine a b type.lowest type.highest =
      some (decide ¬type.Represents (a.value * b.value)) := by
  obtain ⟨left, right, leftRepresented, rightRepresented⟩ := same
  have minimum_nonpos := type.minimum_nonpos
  have maximum_nonneg := type.maximum_nonneg
  have left_lower := leftRepresented.1
  have lowest : machine.Exact type.lowest b := (exact_of_type right rightRepresented rfl).symm
  have highest : machine.Exact type.highest b := (exact_of_type right rightRepresented rfl).symm
  have typed : machine.usualType type b.type = type := by rw [usualType_comm]; exact right
  rw [intMultiplyRangeOverflow, less_zero, less_zero]
  rcases Int.lt_trichotomy b.value 0 with negative | zero | positive
  · have signed := IntegerType.isSigned_of_negative rightRepresented negative
    have minusOne : machine.Exact b (machine.literal (-1)) :=
      exact_literal _ (.inl (promote_signed_of_negative b.represented negative))
    rw [if_pos (decide_eq_true negative), equal_of_exact minusOne, literal_value]
    by_cases below : a.value < 0
    · have product := Int.mul_nonneg_of_nonpos_of_nonpos (Int.le_of_lt below) (Int.le_of_lt negative)
      have quotient : type.Represents (type.maximum.tdiv b.value) :=
        IntegerType.represents_tdiv type.represents_maximum (.inl signed) (by omega)
      rw [if_pos (decide_eq_true below), divide_eq highest (by omega) quotient typed rfl]
      simp only [Option.bind_eq_bind, Option.bind_some, less_type left leftRepresented quotient,
        lt_tdiv_iff_of_neg maximum_nonneg negative, IntegerType.not_represents_of_nonneg product]
      rfl
    · have product := Int.mul_nonpos_of_nonneg_of_nonpos (Int.not_lt.mp below) (Int.le_of_lt negative)
      rw [if_neg (by simpa using below)]
      by_cases one : b.value = -1
      · have minimum_eq := type.minimum_eq
        rw [signed, if_pos rfl] at minimum_eq
        have le_maximum := leftRepresented.2
        have fits : type.Represents (a.value * b.value) := by
          rw [one]
          exact ⟨by omega, by omega⟩
        rw [if_pos (decide_eq_true one)]
        simp [fits]
      · have quotient : type.Represents (type.minimum.tdiv b.value) :=
          IntegerType.represents_tdiv type.represents_minimum (.inl signed) fun _ => one
        rw [if_neg (mt of_decide_eq_true one), divide_eq lowest (by omega) quotient typed rfl]
        simp only [Option.bind_eq_bind, Option.bind_some, type_less left leftRepresented quotient,
          tdiv_lt_iff_of_neg minimum_nonpos negative, IntegerType.not_represents_of_nonpos product]
        rfl
  · have is_zero : machine.Exact b (machine.literal 0) := exact_literal _ (.inr (Int.le_refl 0))
    rw [if_neg (by simp [zero]), equal_of_exact is_zero, literal_value]
    simp [zero, type.represents_zero]
  · have is_zero : machine.Exact b (machine.literal 0) := exact_literal _ (.inr (Int.le_refl 0))
    rw [if_neg (by simp; omega), equal_of_exact is_zero, literal_value,
      if_neg (mt of_decide_eq_true (Int.ne_of_gt positive))]
    by_cases below : a.value < 0
    · have product := Int.mul_nonpos_of_nonpos_of_nonneg (Int.le_of_lt below) (Int.le_of_lt positive)
      have quotient : type.Represents (type.minimum.tdiv b.value) :=
        IntegerType.represents_tdiv type.represents_minimum (.inr positive) fun _ => by omega
      rw [if_pos (decide_eq_true below), divide_eq lowest (by omega) quotient typed rfl]
      simp only [Option.bind_eq_bind, Option.bind_some, less_type left leftRepresented quotient,
        lt_tdiv_iff minimum_nonpos positive, IntegerType.not_represents_of_nonpos product]
      rfl
    · have product := Int.mul_nonneg (Int.not_lt.mp below) (Int.le_of_lt positive)
      have quotient : type.Represents (type.maximum.tdiv b.value) :=
        IntegerType.represents_tdiv type.represents_maximum (.inr positive) (by omega)
      rw [if_neg (by simpa using below), divide_eq highest (by omega) quotient typed rfl]
      simp only [Option.bind_eq_bind, Option.bind_some, type_less left leftRepresented quotient,
        tdiv_lt_iff maximum_nonneg positive, IntegerType.not_represents_of_nonneg product]
      rfl

end Range

/-!
## Unsigned results
-/

section Wrapped

variable {x y : Int} (unsigned : type.isSigned = false)

include unsigned

/-- Adding a negative number in an unsigned type wraps around exactly where it makes the
result larger. -/
theorem le_wrap_add_iff (within : type.Represents x) (negative : y < 0)
    (half : -2 ^ type.width ≤ 2 * y) :
    x ≤ type.wrap (x + y) ↔ ¬type.Represents (x + y) := by
  have maximum_eq := IntegerType.maximum_of_unsigned unsigned
  have minimum_eq := IntegerType.minimum_of_unsigned unsigned
  obtain ⟨lower, upper⟩ := within
  by_cases fits : 0 ≤ x + y
  · have represented : type.Represents (x + y) := ⟨by omega, by omega⟩
    rw [IntegerType.wrap_of_represents represented]
    exact iff_of_false (by omega) (not_not_intro represented)
  · rw [IntegerType.not_represents_of_nonpos (by omega),
      IntegerType.wrap_of_neg unsigned (by omega) (by omega)]
    omega

end Wrapped

section Unsigned

variable (typed : machine.usualType a.type b.type = type) (unsigned : type.isSigned = false)

include typed

private theorem usualType_left : machine.usualType a.type type = type := by
  subst typed
  exact usualType_absorb_left

private theorem usualType_right : machine.usualType b.type type = type := by
  subst typed
  exact usualType_absorb_right

theorem left_represents (nonneg : 0 ≤ a.value) : type.Represents a.value := by
  subst typed
  exact represents_usualType a.represented (.inr nonneg)

theorem right_represents (nonneg : 0 ≤ b.value) : type.Represents b.value := by
  subst typed
  exact represents_usualType_right b.represented (.inr nonneg)

theorem left_half (negative : a.value < 0) : -2 ^ type.width ≤ 2 * a.value := by
  subst typed
  exact half_of_negative a.represented negative

theorem right_half (negative : b.value < 0) : -2 ^ type.width ≤ 2 * b.value := by
  subst typed
  rw [usualType_comm]
  exact half_of_negative b.represented negative

include unsigned

theorem right_nonneg (negative : a.value < 0) : 0 ≤ b.value := by
  subst typed
  exact nonneg_of_negative unsigned negative

private theorem arithmetic_unsigned {operator : Int → Int → Int} (modular : Modular operator) :
    machine.arithmetic operator a b =
      some ⟨type, type.wrap (operator a.value b.value), type.represents_wrap _⟩ := by
  subst typed
  exact arithmetic_of_unsigned modular unsigned

private theorem glAddOverflow_of_unsigned :
    glAddOverflow machine a b type.lowest type.highest =
      some (decide ¬type.Represents (a.value + b.value)) := by
  have maximum_eq := IntegerType.maximum_of_unsigned unsigned
  have minimum_eq := IntegerType.minimum_of_unsigned unsigned
  have sum : machine.add a b = _ := arithmetic_unsigned typed unsigned modular_add
  rw [glAddOverflow, less_zero, less_zero, less_zero, sum]
  simp only [IntegerType.lowest_value, minimum_eq, Int.lt_irrefl, decide_false, Bool.false_eq_true,
    if_false, Option.bind_eq_bind, Option.bind_some, decide_eq_true_eq]
  by_cases left_negative : a.value < 0
  · have nonneg := right_nonneg typed unsigned left_negative
    have half := left_half typed left_negative
    have within := right_represents typed nonneg
    have wraps := le_wrap_add_iff unsigned within left_negative half
    rw [Int.add_comm] at wraps
    rw [if_pos left_negative,
      lessEq_of_exact (exact_of_type (usualType_right typed) within rfl)]
    exact congrArg some (decide_eq_decide.mpr wraps)
  · rw [if_neg left_negative]
    have left_within := left_represents typed (Int.not_lt.mp left_negative)
    have left_upper := left_within.2
    by_cases right_negative : b.value < 0
    · have half := right_half typed right_negative
      rw [if_pos right_negative,
        lessEq_of_exact (exact_of_type (usualType_left typed) left_within rfl)]
      exact congrArg some (decide_eq_decide.mpr
        (le_wrap_add_iff unsigned left_within right_negative half))
    · have right_within := right_represents typed (Int.not_lt.mp right_negative)
      have right_upper := right_within.2
      rw [if_neg right_negative,
        less_of_exact (exact_of_type (usualType_right typed) right_within rfl).symm]
      refine congrArg some (decide_eq_decide.mpr ?_)
      rw [IntegerType.not_represents_of_nonneg (by omega)]
      by_cases fits : a.value + b.value ≤ type.maximum
      · have represented : type.Represents (a.value + b.value) := ⟨by omega, fits⟩
        simp only [IntegerType.wrap_of_represents represented]
        omega
      · simp only [IntegerType.wrap_of_large unsigned
          (show 2 ^ type.width ≤ a.value + b.value by omega) (by omega)]
        omega

private theorem glSubtractOverflow_of_unsigned :
    glSubtractOverflow machine a b type.lowest type.highest =
      some (decide ¬type.Represents (a.value - b.value)) := by
  have maximum_eq := IntegerType.maximum_of_unsigned unsigned
  have minimum_eq := IntegerType.minimum_of_unsigned unsigned
  have difference : machine.subtract a b = _ := arithmetic_unsigned typed unsigned modular_subtract
  rw [glSubtractOverflow, less_zero, less_zero, less_zero, difference]
  simp only [IntegerType.lowest_value, minimum_eq, Int.lt_irrefl, decide_false, Bool.false_eq_true,
    if_false, Option.bind_eq_bind, Option.bind_some, decide_eq_true_eq]
  by_cases left_negative : a.value < 0
  · have nonneg := right_nonneg typed unsigned left_negative
    have outside : ¬type.Represents (a.value - b.value) := fun within => by
      have lower := within.1
      omega
    rw [if_pos left_negative, decide_eq_true outside]
    rfl
  · rw [if_neg left_negative]
    have left_within := left_represents typed (Int.not_lt.mp left_negative)
    have left_upper := left_within.2
    by_cases right_negative : b.value < 0
    · have half := right_half typed right_negative
      rw [if_pos right_negative,
        lessEq_of_exact (exact_of_type (usualType_left typed) left_within rfl).symm]
      refine congrArg some (decide_eq_decide.mpr ?_)
      rw [IntegerType.not_represents_of_nonneg (by omega)]
      by_cases fits : a.value - b.value ≤ type.maximum
      · have represented : type.Represents (a.value - b.value) := ⟨by omega, fits⟩
        simp only [IntegerType.wrap_of_represents represented]
        omega
      · simp only [IntegerType.wrap_of_large unsigned
          (show 2 ^ type.width ≤ a.value - b.value by omega) (by omega)]
        omega
    · have right_within := right_represents typed (Int.not_lt.mp right_negative)
      rw [if_neg right_negative,
        less_of_exact (exact_of_nonneg (Int.not_lt.mp left_negative) (Int.not_lt.mp right_negative))]
      refine congrArg some (decide_eq_decide.mpr ?_)
      unfold IntegerType.Represents
      omega

private theorem lowest_divide (negative : b.value < 0) :
    machine.divide type.lowest b = some type.lowest := by
  have minimum_eq := IntegerType.minimum_of_unsigned unsigned
  have half := right_half typed negative
  have positive := IntegerType.two_pow_pos type.width
  have converted := IntegerType.wrap_of_neg unsigned negative (by omega)
  have same : machine.usualType type.lowest.type b.type = type := by
    rw [usualType_comm]
    exact usualType_right typed
  have zero : type.wrap type.lowest.value = type.minimum :=
    IntegerType.wrap_of_represents type.represents_minimum
  rw [Machine.divide, arithmetic, same, converted, if_neg (by omega), zero]
  simp only [minimum_eq, Int.zero_tdiv]
  rw [IntegerType.result_of_represents type.represents_zero]
  simp only [IntegerType.lowest, minimum_eq]

/-- A product of operands of different signs is negative, and none of this type is. -/
theorem glMultiplyOverflow_of_unsigned :
    glMultiplyOverflow machine a b type.lowest type.highest =
      some (decide ¬type.Represents (a.value * b.value)) := by
  have minimum_eq := IntegerType.minimum_of_unsigned unsigned
  have is_zero : machine.equal type.lowest (machine.literal 0) = true := by
    rw [equal_of_exact (exact_literal _ (.inr (Int.le_refl 0)))]
    exact decide_eq_true minimum_eq
  rw [glMultiplyOverflow, is_zero, less_zero, less_zero, zero_less, zero_less, Bool.true_and]
  by_cases opposite : a.value < 0 ∧ 0 < b.value ∨ b.value < 0 ∧ 0 < a.value
  · have negative : a.value * b.value < 0 := by
      rcases opposite with ⟨left, right⟩ | ⟨right, left⟩
      · exact Int.mul_neg_of_neg_of_pos left right
      · exact Int.mul_neg_of_pos_of_neg left right
    have outside : ¬type.Represents (a.value * b.value) := fun within => by
      have lower := within.1
      omega
    have found : (decide (a.value < 0) && decide (0 < b.value) ||
        decide (b.value < 0) && decide (0 < a.value)) = true := by simpa using opposite
    rw [found, decide_eq_true outside]
    rfl
  · have missed : (decide (a.value < 0) && decide (0 < b.value) ||
        decide (b.value < 0) && decide (0 < a.value)) = false := by simpa using opposite
    rw [missed, logicalOr_false]
    by_cases left_negative : a.value < 0
    · have nonneg := right_nonneg typed unsigned left_negative
      have zero : b.value = 0 := by omega
      rw [zero, Int.mul_zero, intMultiplyRangeOverflow, less_zero,
        equal_of_exact (exact_literal _ (.inr (Int.le_refl 0))), literal_value]
      simp [zero, type.represents_zero]
    · by_cases right_negative : b.value < 0
      · have zero : a.value = 0 := by omega
        rw [zero, Int.zero_mul, intMultiplyRangeOverflow, less_zero, less_zero,
          equal_of_exact (exact_literal _
            (.inl (promote_signed_of_negative b.represented right_negative))),
          literal_value, lowest_divide typed unsigned right_negative]
        have same : machine.less type.lowest a = false := by
          rw [less_of_exact (exact_of_nonneg (Int.le_of_eq minimum_eq.symm) (by omega))]
          exact decide_eq_false (by simp [minimum_eq, zero])
        simp [zero, right_negative, type.represents_zero, same]
      · exact intMultiplyRangeOverflow_eq
          { left := usualType_left typed
            right := usualType_right typed
            leftRepresented := left_represents typed (Int.not_lt.mp left_negative)
            rightRepresented := right_represents typed (Int.not_lt.mp right_negative) }

end Unsigned

/-!
## Operands of any types
-/

private theorem glBinaryOpOverflow_eq (opResultOverflow : Operand → Operand → Operand → Operand → Option Bool) :
    glBinaryOpOverflow machine opResultOverflow a b =
      opResultOverflow a b (machine.usualType a.type b.type).lowest
        (machine.usualType a.type b.type).highest := by
  simp [glBinaryOpOverflow]

private theorem lowest_neg (signed : type.isSigned = true) :
    machine.less type.lowest (machine.literal 0) = true := by
  rw [less_zero, IntegerType.lowest_value]
  exact decide_eq_true (minimum_neg signed)

private theorem intAddOverflow_eq (a b : Operand) :
    intAddOverflow machine a b =
      some (decide ¬(machine.usualType a.type b.type).Represents (a.value + b.value)) := by
  rw [intAddOverflow, glBinaryOpOverflow_eq]
  cases signed : (machine.usualType a.type b.type).isSigned with
  | true =>
      rw [glAddOverflow, lowest_neg signed, if_pos rfl]
      exact intAddRangeOverflow_eq (sameType_of_exact (exact_of_signed signed))
  | false => exact glAddOverflow_of_unsigned rfl signed

private theorem intSubtractOverflow_eq (a b : Operand) :
    intSubtractOverflow machine a b =
      some (decide ¬(machine.usualType a.type b.type).Represents (a.value - b.value)) := by
  rw [intSubtractOverflow, glBinaryOpOverflow_eq]
  cases signed : (machine.usualType a.type b.type).isSigned with
  | true =>
      rw [glSubtractOverflow, lowest_neg signed, if_pos rfl]
      exact intSubtractRangeOverflow_eq (sameType_of_exact (exact_of_signed signed))
  | false => exact glSubtractOverflow_of_unsigned rfl signed

private theorem intMultiplyOverflow_eq (a b : Operand) :
    intMultiplyOverflow machine a b =
      some (decide ¬(machine.usualType a.type b.type).Represents (a.value * b.value)) := by
  rw [intMultiplyOverflow, glBinaryOpOverflow_eq]
  cases signed : (machine.usualType a.type b.type).isSigned with
  | true =>
      have nonzero : machine.equal (machine.usualType a.type b.type).lowest (machine.literal 0) =
          false := by
        rw [equal_of_exact (exact_literal _ (.inr (Int.le_refl 0)))]
        exact decide_eq_false (Int.ne_of_lt (minimum_neg signed))
      rw [glMultiplyOverflow, nonzero, Bool.false_and,
        intMultiplyRangeOverflow_eq (sameType_of_exact (exact_of_signed signed)), logicalOr_some,
        Bool.false_or]
  | false => exact glMultiplyOverflow_of_unsigned rfl signed

/-- Whatever the types of the operands, the macros for `+`, `-` and `*` are defined, and are
false exactly where the C expression is defined and has the exact result as its value. -/
theorem int_overflow_iff (machine : Machine) (a b : Operand) :
    (∃ overflow, intAddOverflow machine a b = some overflow ∧
      (overflow = false ↔ Yields (machine.add a b) (a.value + b.value))) ∧
    (∃ overflow, intSubtractOverflow machine a b = some overflow ∧
      (overflow = false ↔ Yields (machine.subtract a b) (a.value - b.value))) ∧
    (∃ overflow, intMultiplyOverflow machine a b = some overflow ∧
      (overflow = false ↔ Yields (machine.multiply a b) (a.value * b.value))) := by
  refine ⟨⟨_, intAddOverflow_eq a b, ?_⟩, ⟨_, intSubtractOverflow_eq a b, ?_⟩,
    ⟨_, intMultiplyOverflow_eq a b, ?_⟩⟩
  · rw [Machine.add, yields_arithmetic_iff modular_add]
    simp
  · rw [Machine.subtract, yields_arithmetic_iff modular_subtract]
    simp
  · rw [Machine.multiply, yields_arithmetic_iff modular_multiply]
    simp

/-!
## Division
-/

private theorem minusOne_of_signed (signed : type.isSigned = true) : type.Represents (-1) := by
  have negative := minimum_neg signed
  exact ⟨by omega, Int.le_trans (by decide) type.maximum_nonneg⟩

private theorem glDivideOverflow_of_signed (same : SameType machine type a b)
    (promoted : machine.promote type = type) (signed : type.isSigned = true) :
    glDivideOverflow machine a b type.lowest type.highest =
      some (decide ¬type.Represents (a.value.tdiv b.value)) := by
  obtain ⟨left, right, leftRepresented, rightRepresented⟩ := same
  have minimum_eq := type.minimum_eq
  rw [signed, if_pos rfl] at minimum_eq
  have left_lower := leftRepresented.1
  have minusOne : type.Represents (-1) := minusOne_of_signed signed
  have negated : type.Represents (-type.maximum) := ⟨by omega, by
    have nonneg := type.maximum_nonneg
    omega⟩
  have negation : machine.negate type.highest = some ⟨type, -type.maximum, negated⟩ := by
    rw [negate, IntegerType.highest_type, promoted]
    exact IntegerType.result_of_represents negated
  have converted : glIntNegateConvert machine type (machine.literal 1) =
      some ⟨type, -1, minusOne⟩ := by
    rw [glIntNegateConvert_one, promoted, if_pos signed]
    simp only [IntegerType.cast, literal_value, IntegerType.wrap_of_represents minusOne]
  have is_minusOne : machine.equal b ⟨type, -1, minusOne⟩ = decide (b.value = -1) :=
    equal_of_exact (exact_of_type right rightRepresented rfl)
  rw [glDivideOverflow, lowest_neg signed, if_pos rfl, IntegerType.lowest_type, converted, negation]
  simp only [Option.bind_eq_bind, Option.bind_some, Option.pure_def, is_minusOne,
    less_type left leftRepresented negated, logicalAnd_some]
  by_cases extreme : b.value = -1 ∧ a.value < -type.maximum
  · have lowest : a.value = type.minimum := by omega
    have outside : ¬type.Represents (a.value.tdiv b.value) := fun within => by
      have upper := within.2
      rw [extreme.1, Int.tdiv_neg, Int.tdiv_one] at upper
      omega
    rw [decide_eq_true extreme.1, decide_eq_true extreme.2, decide_eq_true outside]
    rfl
  · have inside : type.Represents (a.value.tdiv b.value) :=
      IntegerType.represents_tdiv leftRepresented (.inl signed) (by omega)
    have missed : (decide (b.value = -1) && decide (a.value < -type.maximum)) = false := by
      simpa using extreme
    rw [missed]
    simp [inside]

private theorem glDivideOverflow_of_unsigned (typed : machine.usualType a.type b.type = type)
    (unsigned : type.isSigned = false) (nonzero : b.value ≠ 0) :
    glDivideOverflow machine a b type.lowest type.highest =
      some (decide ¬type.Represents (a.value.tdiv b.value)) := by
  have maximum_eq := IntegerType.maximum_of_unsigned unsigned
  have minimum_eq := IntegerType.minimum_of_unsigned unsigned
  have sum : machine.add a b = _ := arithmetic_unsigned typed unsigned modular_add
  have size := Int.natAbs_tdiv_le_natAbs a.value b.value
  rw [glDivideOverflow, less_zero, less_zero, less_zero, sum]
  simp only [IntegerType.lowest_value, minimum_eq, Int.lt_irrefl, decide_false, Bool.false_eq_true,
    if_false, Option.bind_eq_bind, Option.bind_some, Option.pure_def, decide_eq_true_eq]
  by_cases left_negative : a.value < 0
  · have nonneg := right_nonneg typed unsigned left_negative
    have half := left_half typed left_negative
    have within := right_represents typed nonneg
    have upper := within.2
    have quotient := @lt_tdiv_iff (-1) b.value a.value (by omega) (by omega)
    have nonpos : a.value.tdiv b.value ≤ 0 := by
      have mirrored := Int.tdiv_nonneg (show 0 ≤ -a.value by omega) nonneg
      rw [Int.neg_tdiv] at mirrored
      omega
    have past : machine.subtract ⟨type, type.wrap (a.value + b.value), type.represents_wrap _⟩
        (machine.literal 1) =
          some ⟨type, type.wrap (a.value + b.value - 1), type.represents_wrap _⟩ := by
      have same : machine.usualType (Operand.type ⟨type, type.wrap (a.value + b.value),
          type.represents_wrap _⟩) (machine.literal 1).type = type := by
        rw [literal_type, usualType_int_right]
        subst typed
        exact promote_usualType
      have step : type.wrap (type.wrap (a.value + b.value) - 1) =
          type.wrap (a.value + b.value - 1) :=
        IntegerType.wrap_congr ((type.wrap_modEq (a.value + b.value)).sub_right 1)
      rw [Machine.subtract, arithmetic_unsigned same unsigned modular_subtract]
      simp only [literal_value, step]
    rw [if_pos left_negative, past]
    simp only [Option.bind_some]
    rw [lessEq_of_exact (exact_of_type (usualType_right typed) within rfl)]
    refine congrArg some (decide_eq_decide.mpr ?_)
    rw [IntegerType.not_represents_of_nonpos nonpos]
    by_cases fits : 0 ≤ a.value + b.value - 1
    · have represented : type.Represents (a.value + b.value - 1) := ⟨by omega, by omega⟩
      simp only [IntegerType.wrap_of_represents represented]
      omega
    · simp only [IntegerType.wrap_of_neg unsigned (show a.value + b.value - 1 < 0 by omega)
        (by omega)]
      omega
  · have left_within := left_represents typed (Int.not_lt.mp left_negative)
    have left_upper := left_within.2
    rw [if_neg left_negative,
      lessEq_of_exact (exact_of_type (usualType_left typed) left_within rfl).symm, logicalAnd_some]
    by_cases right_negative : b.value < 0
    · have half := right_half typed right_negative
      have quotient := @lt_tdiv_iff_of_neg (-1) b.value a.value (by omega) right_negative
      have nonpos := Int.tdiv_nonpos_of_nonneg_of_nonpos (Int.not_lt.mp left_negative)
        (Int.le_of_lt right_negative)
      rw [decide_eq_true right_negative, Bool.true_and]
      refine congrArg some (decide_eq_decide.mpr ?_)
      rw [IntegerType.not_represents_of_nonpos nonpos]
      by_cases fits : 0 ≤ a.value + b.value
      · have represented : type.Represents (a.value + b.value) := ⟨by omega, by omega⟩
        simp only [IntegerType.wrap_of_represents represented]
        omega
      · simp only [IntegerType.wrap_of_neg unsigned (show a.value + b.value < 0 by omega) (by omega)]
        omega
    · have nonneg := Int.tdiv_nonneg (Int.not_lt.mp left_negative) (Int.not_lt.mp right_negative)
      have inside : type.Represents (a.value.tdiv b.value) := ⟨by omega, by omega⟩
      simp [right_negative, inside]

private theorem intDivideOverflow_eq (a b : Operand) (nonzero : b.value ≠ 0) :
    intDivideOverflow machine a b =
      some (decide ¬(machine.usualType a.type b.type).Represents (a.value.tdiv b.value)) := by
  rw [intDivideOverflow, glBinaryOpOverflow_eq]
  cases signed : (machine.usualType a.type b.type).isSigned with
  | true =>
      exact glDivideOverflow_of_signed (sameType_of_exact (exact_of_signed signed))
        promote_usualType signed
  | false => exact glDivideOverflow_of_unsigned rfl signed nonzero

/-- For a divisor other than zero, `INT_DIVIDE_OVERFLOW` is defined and true exactly where the
truncated quotient lies outside the type of the C expression. -/
theorem int_divide_overflow_iff (machine : Machine) (a b : Operand) (nonzero : b.value ≠ 0) :
    ∃ overflow, intDivideOverflow machine a b = some overflow ∧
      (overflow = true ↔
        ¬(machine.usualType a.type b.type).Represents (a.value.tdiv b.value)) :=
  ⟨_, intDivideOverflow_eq a b nonzero, decide_eq_true_iff⟩

theorem int_divide_overflow_iff_minimum :
    (-1 : Int) ≠ 0 ∧
      ∃ overflow, intDivideOverflow ⟨32, by decide⟩ ⟨⟨true, 32, by decide⟩, -2147483648, by decide⟩
          ⟨⟨true, 64, by decide⟩, -1, by decide⟩ = some overflow ∧
        (overflow = true ↔
          ¬(Machine.usualType ⟨32, by decide⟩ ⟨true, 32, by decide⟩ ⟨true, 64, by decide⟩).Represents
            (Int.tdiv (-2147483648) (-1))) :=
  ⟨by decide, int_divide_overflow_iff ⟨32, by decide⟩ ⟨⟨true, 32, by decide⟩, -2147483648, by decide⟩
    ⟨⟨true, 64, by decide⟩, -1, by decide⟩ (by decide)⟩

end VelaExternal.Benchtests

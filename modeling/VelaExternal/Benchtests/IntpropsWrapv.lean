import VelaExternal.Benchtests.IntpropsOverflow

/-!
# Wrapped results

`INT_<op>_WRAPV` without the built-in functions of the compiler: the low-order bits of the exact
result are stored, whatever the types of the operands, and whether the flag is right about them.
-/

set_option autoImplicit false

namespace VelaExternal.Benchtests

open Systems
open Systems.Machine

variable {machine : Machine} {a b : Operand} {t : IntegerType}

/-!
## Limits of the result
-/

private theorem limitMinimum_value : (limitMinimum machine t).value = t.minimum := by
  rw [limitMinimum]
  cases signed : t.isSigned with
  | true => rfl
  | false => exact (IntegerType.minimum_of_unsigned signed).symm

/-- The minimum has a signed type, also that of an unsigned result, which is the literal `0`. -/
theorem limitMinimum_signed :
    (machine.promote (limitMinimum machine t).type).isSigned = true := by
  rw [limitMinimum]
  cases signed : t.isSigned with
  | true =>
      rw [if_pos rfl, promote_promote]
      exact promote_signed_of_signed signed
  | false =>
      rw [if_neg (by decide), literal_type, promote_int]
      rfl

@[simp] theorem limitMaximum_value : (limitMaximum machine t).value = t.maximum := rfl

/-!
## The stored value
-/

private theorem glIntOpWrapvViaUnsigned_eq {operator : Int → Int → Int} (modular : Modular operator) :
    glIntOpWrapvViaUnsigned (machine.arithmetic operator) (calculationType machine t) t a b =
      some (t.convert (operator a.value b.value)) := by
  have wide : machine.promote (calculationType machine t) = calculationType machine t :=
    promote_of_le (Nat.le_max_left _ _)
  have unsigned : (machine.usualType ((calculationType machine t).cast a).type
      ((calculationType machine t).cast b).type).isSigned = false := by
    simp only [IntegerType.cast, usualType_self, wide]
    rfl
  rw [glIntOpWrapvViaUnsigned, arithmetic_of_unsigned modular unsigned]
  have same : machine.usualType (calculationType machine t) (calculationType machine t) =
      calculationType machine t := by
    rw [usualType_self, wide]
  have low : t.wrap ((calculationType machine t).wrap (operator
      ((calculationType machine t).wrap a.value) ((calculationType machine t).wrap b.value))) =
        t.wrap (operator a.value b.value) := by
    rw [wrap_operator modular, IntegerType.wrap_wrap_of_le (Nat.le_max_right _ _)]
  simp only [Option.bind_eq_bind, Option.bind_some, Option.pure_def, IntegerType.cast, same,
    IntegerType.convert, low]

theorem glIntOpWrapv_eq {operator : Int → Int → Int} (modular : Modular operator)
    {overflow : Operand → Operand → Operand → Operand → Option Bool} {flag : Bool}
    (found : overflow a b (limitMinimum machine t) (limitMaximum machine t) = some flag) :
    glIntOpWrapv machine (machine.arithmetic operator) overflow t a b =
      some (flag, t.convert (operator a.value b.value)) := by
  rw [glIntOpWrapv, glIntOpCalc, found]
  simp only [Option.bind_eq_bind, Option.bind_some, glIntOpWrapvViaUnsigned_eq modular]
  cases flag <;> rfl

/-!
## Subtraction
-/

section Subtraction

/-- The differences `-1 - x` that the macros form, never out of range for a negative `x`. -/
theorem minusOne_subtract {x : Operand} (signed : (machine.promote x.type).isSigned = true)
    (nonpos : x.value ≤ 0) :
    ∃ below, machine.subtract (machine.literal (-1)) x = some below ∧ below.value = -1 - x.value ∧
      below.type = machine.promote x.type := by
  have lower := (@represents_promote machine _ _ x.represented).1
  have minimum_eq := (machine.promote x.type).minimum_eq
  rw [signed, if_pos rfl] at minimum_eq
  have negative := minimum_neg signed
  have room : (machine.promote x.type).Represents (-1 - x.value) := ⟨by omega, by omega⟩
  exact ⟨_, subtract_eq room (by simp) rfl, rfl, rfl⟩

/-- Operands of one sign have a difference that the type of the expression holds. -/
theorem represents_difference (exact : machine.Exact a b)
    (same : a.value < 0 ↔ b.value < 0) (le : a.value ≤ b.value) :
    (machine.usualType a.type b.type).Represents (b.value - a.value) := by
  obtain ⟨⟨lower, upper⟩, right_lower, right_upper⟩ := exact
  have nonpos := (machine.usualType a.type b.type).minimum_nonpos
  by_cases negative : a.value < 0
  · have minimum_eq := (machine.usualType a.type b.type).minimum_eq
    rw [IntegerType.isSigned_of_negative ⟨lower, upper⟩ negative, if_pos rfl] at minimum_eq
    exact ⟨by omega, by omega⟩
  · exact ⟨by omega, by omega⟩

private theorem subtractRange_same_sign (same : a.value < 0 ↔ b.value < 0) :
    glIntSubtractRangeOverflow machine a b (limitMinimum machine t) (limitMaximum machine t) =
      some (decide ¬t.Represents (a.value - b.value)) := by
  have minimum_nonpos := t.minimum_nonpos
  have maximum_nonneg := t.maximum_nonneg
  have exact : machine.Exact a b := by
    by_cases negative : a.value < 0
    · exact exact_of_negative negative (same.mp negative)
    · exact exact_of_nonneg (by omega) (by omega)
  have signs : decide (a.value < 0) = decide (b.value < 0) := decide_eq_decide.mpr same
  rw [glIntSubtractRangeOverflow, less_zero, less_zero, if_pos signs, less_of_exact exact]
  by_cases less : a.value < b.value
  · rw [if_pos (decide_eq_true less), limitMinimum_value]
    by_cases zero : t.minimum = 0
    · have outside : ¬t.Represents (a.value - b.value) := fun within => by
        have lower := within.1
        omega
      rw [decide_eq_true zero, logicalOr_true, decide_eq_true outside]
    · have swapped : machine.usualType b.type a.type = machine.usualType a.type b.type :=
        usualType_comm
      have room := represents_difference exact same (Int.le_of_lt less)
      have rest : (machine.usualType a.type b.type).Represents (b.value - a.value - 1) := by
        have lower := (machine.usualType a.type b.type).minimum_nonpos
        have upper := room.2
        exact ⟨by omega, by omega⟩
      have signed : (machine.promote (limitMinimum machine t).type).isSigned = true :=
        limitMinimum_signed
      obtain ⟨below, found, value, _⟩ := minusOne_subtract signed
        (by rw [limitMinimum_value]; exact minimum_nonpos)
      rw [limitMinimum_value] at value
      rw [decide_eq_false zero, logicalOr_false, found, subtract_eq room swapped rfl]
      simp only [Option.bind_eq_bind, Option.bind_some, Option.pure_def]
      rw [subtract_eq rest (by simp) rfl]
      simp only [Option.bind_some]
      rw [less_of_exact (exact_of_nonneg (by omega) (show 0 ≤ b.value - a.value - 1 by omega)),
        value]
      refine congrArg some (decide_eq_decide.mpr ?_)
      rw [IntegerType.not_represents_of_nonpos (by omega)]
      show -1 - t.minimum < b.value - a.value - 1 ↔ _
      omega
  · have room := represents_difference (Exact.symm exact) same.symm (Int.not_lt.mp less)
    rw [if_neg (mt of_decide_eq_true less), subtract_eq room usualType_comm rfl]
    simp only [Option.bind_eq_bind, Option.bind_some, Option.pure_def]
    rw [less_of_exact (exact_of_nonneg maximum_nonneg (show 0 ≤ a.value - b.value by omega))]
    refine congrArg some (decide_eq_decide.mpr ?_)
    rw [IntegerType.not_represents_of_nonneg (by omega)]
    rfl

private theorem subtractRange_left_negative (left : a.value < 0) (right : 0 ≤ b.value) :
    glIntSubtractRangeOverflow machine a b (limitMinimum machine t) (limitMaximum machine t) =
      some (decide ¬t.Represents (a.value - b.value)) := by
  have minimum_nonpos := t.minimum_nonpos
  have signed : (machine.usualType a.type (limitMinimum machine t).type).isSigned = true :=
    usualType_signed (promote_signed_of_negative a.represented left) limitMinimum_signed
  have room : (machine.usualType a.type (limitMinimum machine t).type).Represents
      (a.value - (limitMinimum machine t).value) := by
    have minimum_eq :=
      (machine.usualType a.type (limitMinimum machine t).type).minimum_eq
    rw [signed, if_pos rfl] at minimum_eq
    have exact := @exact_of_signed machine a (limitMinimum machine t) signed
    have left_lower := exact.1.1
    have lower := exact.2.1
    rw [limitMinimum_value] at lower ⊢
    exact ⟨by omega, by omega⟩
  have different : ¬decide (a.value < 0) = decide (b.value < 0) := by
    simp [left, Int.not_lt.mpr right]
  rw [glIntSubtractRangeOverflow, less_zero, less_zero, if_neg different,
    if_pos (decide_eq_true left), subtract_of_represents room]
  simp only [Option.bind_eq_bind, Option.bind_some, Option.pure_def, glIntConvertType_eq,
    exprSigned_eq, promote_usualType, less_zero, logicalAnd_some, logicalOr_some,
    limitMinimum_value]
  have below : a.value - b.value < t.minimum ↔ a.value - t.minimum < b.value := by omega
  cases compared : (machine.usualType
      (machine.usualType a.type (limitMinimum machine t).type) b.type).isSigned with
  | true =>
      rw [less_of_exact (exact_of_signed compared), Bool.not_true, Bool.false_and, Bool.false_or]
      refine congrArg some (decide_eq_decide.mpr ?_)
      rw [IntegerType.not_represents_of_nonpos (by omega), below]
  | false =>
      rw [Bool.not_false, Bool.true_and]
      by_cases negative : a.value - t.minimum < 0
      · have outside : ¬t.Represents (a.value - b.value) := fun within => by
          have lower := within.1
          omega
        rw [decide_eq_true negative, decide_eq_true outside, Bool.true_or]
      · rw [decide_eq_false negative, Bool.false_or,
          less_of_exact (exact_of_nonneg (Int.not_lt.mp negative) right)]
        refine congrArg some (decide_eq_decide.mpr ?_)
        rw [IntegerType.not_represents_of_nonpos (by omega), below]

private theorem subtractRange_right_negative (left : 0 ≤ a.value) (right : b.value < 0) :
    glIntSubtractRangeOverflow machine a b (limitMinimum machine t) (limitMaximum machine t) =
      some (decide ¬t.Represents (a.value - b.value)) := by
  have maximum_nonneg := t.maximum_nonneg
  have different : ¬decide (a.value < 0) = decide (b.value < 0) := by
    simp [right, Int.not_lt.mpr left]
  have b_signed : (machine.promote b.type).isSigned = true :=
    promote_signed_of_negative b.represented right
  obtain ⟨below, found, value, _⟩ := minusOne_subtract b_signed (Int.le_of_lt right)
  have guard : machine.lessEq (limitMaximum machine t) below =
      decide (t.maximum ≤ -1 - b.value) := by
    rw [lessEq_of_exact (exact_of_nonneg maximum_nonneg (by omega)), value]
    rfl
  have above : t.maximum < a.value - b.value ↔ t.maximum + b.value < a.value := by omega
  rw [glIntSubtractRangeOverflow, less_zero, less_zero, if_neg different,
    if_neg (mt of_decide_eq_true (Int.not_lt.mpr left)), found]
  simp only [Option.bind_eq_bind, Option.bind_some, Option.pure_def, glIntConvertType_eq,
    exprSigned_eq, promote_usualType, guard, logicalAnd_some]
  have keeps := @represents_usualType machine _ b.type _ (limitMaximum machine t).represented
    (.inr maximum_nonneg)
  by_cases reaches : 0 ≤ t.maximum + b.value
  · have room : (machine.usualType (limitMaximum machine t).type b.type).Represents
        (t.maximum + b.value) := by
      have upper := keeps.2
      rw [limitMaximum_value] at upper
      have lower := (machine.usualType (limitMaximum machine t).type b.type).minimum_nonpos
      exact ⟨by omega, by omega⟩
    rw [decide_eq_false (show ¬t.maximum ≤ -1 - b.value by omega), Bool.and_false, logicalOr_false,
      add_eq room rfl rfl]
    simp only [Option.bind_some]
    rw [less_of_exact (exact_of_nonneg reaches left)]
    refine congrArg some (decide_eq_decide.mpr ?_)
    rw [IntegerType.not_represents_of_nonneg (by omega), above]
  · rw [decide_eq_true (show t.maximum ≤ -1 - b.value by omega), Bool.and_true]
    cases signed : ((machine.usualType (limitMaximum machine t).type b.type).isSigned &&
        (machine.usualType (machine.usualType (limitMaximum machine t).type b.type)
          a.type).isSigned) with
    | true =>
        rw [Bool.and_eq_true] at signed
        have exact := exact_of_signed signed.1
        have room : (machine.usualType (limitMaximum machine t).type b.type).Represents
            (t.maximum + b.value) := by
          have lower := exact.2.1
          have nonneg := (machine.usualType (limitMaximum machine t).type b.type).maximum_nonneg
          exact ⟨by omega, by omega⟩
        rw [Bool.not_true, logicalOr_false, add_eq room rfl rfl]
        simp only [Option.bind_some]
        rw [less_of_exact (exact_of_signed signed.2)]
        refine congrArg some (decide_eq_decide.mpr ?_)
        rw [IntegerType.not_represents_of_nonneg (by omega), above]
    | false =>
        have outside : ¬t.Represents (a.value - b.value) := fun within => by
          have upper := within.2
          omega
        rw [Bool.not_false, logicalOr_true, decide_eq_true outside]

theorem glIntSubtractRangeOverflow_eq :
    glIntSubtractRangeOverflow machine a b (limitMinimum machine t) (limitMaximum machine t) =
      some (decide ¬t.Represents (a.value - b.value)) := by
  by_cases left : a.value < 0
  · by_cases right : b.value < 0
    · exact subtractRange_same_sign (iff_of_true left right)
    · exact subtractRange_left_negative left (Int.not_lt.mp right)
  · by_cases right : b.value < 0
    · exact subtractRange_right_negative (Int.not_lt.mp left) right
    · exact subtractRange_same_sign (iff_of_false left right)

end Subtraction

/-!
## Addition
-/

/-- The sum is negative, one operand exceeds the result type, and the type of the expression
is unsigned: the addition wraps around to a large number. -/
def SumMisread (machine : Machine) (t : IntegerType) (a b : Operand) : Prop :=
  (machine.usualType a.type b.type).isSigned = false ∧ a.value + b.value < 0 ∧
    (t.maximum < a.value ∨ t.maximum < b.value)

instance : Decidable (SumMisread machine t a b) := inferInstanceAs (Decidable (_ ∧ _ ∧ _))

section Addition

/-- The first test of a branch, for its negative operand `x` and the other operand. -/
theorem addRange_below {x y : Operand} (negative : x.value < 0) :
    (if (limitMinimum machine t).value ≠ 0 then
      logicalAnd
        (logicalOr
          (exprSigned machine (glIntConvertType machine y.type
            (machine.usualType (limitMinimum machine t).type x.type)))
          (some (machine.less x (limitMinimum machine t))))
        (do return machine.less y (← machine.subtract (limitMinimum machine t) x))
    else do return machine.lessEq y (← machine.subtract (machine.literal (-1)) x)) =
      some (decide (y.value + x.value < t.minimum)) := by
  have x_signed : (machine.promote x.type).isSigned = true :=
    promote_signed_of_negative x.represented negative
  have minimum_nonpos := t.minimum_nonpos
  by_cases zero : t.minimum = 0
  · obtain ⟨below, found, value, typed⟩ := minusOne_subtract x_signed (Int.le_of_lt negative)
    have exact : machine.Exact y below := by
      by_cases y_negative : y.value < 0
      · refine exact_of_signed (usualType_signed (promote_signed_of_negative y.represented y_negative) ?_)
        rw [typed, promote_promote]
        exact x_signed
      · exact exact_of_nonneg (Int.not_lt.mp y_negative) (by omega)
    rw [if_neg (by rw [limitMinimum_value]; exact not_not_intro zero), found]
    simp only [Option.bind_eq_bind, Option.bind_some, Option.pure_def]
    rw [lessEq_of_exact exact, value]
    refine congrArg some (decide_eq_decide.mpr ?_)
    omega
  · have signed : (machine.usualType (limitMinimum machine t).type x.type).isSigned = true :=
      usualType_signed limitMinimum_signed x_signed
    have room : (machine.usualType (limitMinimum machine t).type x.type).Represents
        (t.minimum - x.value) := by
      obtain ⟨left, right⟩ := exact_of_signed signed
      have left_lower := left.1
      have right_lower := right.1
      rw [limitMinimum_value] at left_lower
      have minimum_eq := (machine.usualType (limitMinimum machine t).type x.type).minimum_eq
      rw [signed, if_pos rfl] at minimum_eq
      exact ⟨by omega, by omega⟩
    have x_less : machine.less x (limitMinimum machine t) = decide (x.value < t.minimum) := by
      have exact := exact_of_signed signed
      rw [less_of_exact exact.symm, limitMinimum_value]
    rw [if_pos (by rw [limitMinimum_value]; exact zero),
      subtract_eq room rfl (by rw [limitMinimum_value])]
    simp only [Option.bind_eq_bind, Option.bind_some, Option.pure_def, glIntConvertType_eq,
      exprSigned_eq, promote_usualType, x_less, logicalOr_some, logicalAnd_some]
    have y_compared (y_negative : y.value < 0) : (machine.usualType y.type
        (machine.usualType (limitMinimum machine t).type x.type)).isSigned = true := by
      refine usualType_signed (promote_signed_of_negative y.represented y_negative) ?_
      rwa [promote_usualType]
    cases guard : ((machine.usualType y.type
        (machine.usualType (limitMinimum machine t).type x.type)).isSigned ||
          decide (x.value < t.minimum)) with
    | true =>
        have exact : machine.Exact y ⟨_, t.minimum - x.value, room⟩ := by
          by_cases y_negative : y.value < 0
          · exact exact_of_signed (y_compared y_negative)
          · rcases (Bool.or_eq_true ..).mp guard with compared | reaches
            · exact exact_of_signed compared
            · have below := of_decide_eq_true reaches
              exact exact_of_nonneg (Int.not_lt.mp y_negative)
                (show 0 ≤ t.minimum - x.value by omega)
        rw [Bool.true_and, less_of_exact exact]
        refine congrArg some (decide_eq_decide.mpr ?_)
        show y.value < t.minimum - x.value ↔ _
        omega
    | false =>
        obtain ⟨compared, reaches⟩ := Bool.or_eq_false_iff.mp guard
        have above := of_decide_eq_false reaches
        have nonneg : 0 ≤ y.value := by
          by_contra y_negative
          rw [y_compared (Int.not_le.mp y_negative)] at compared
          cases compared
        rw [Bool.false_and, decide_eq_false (by omega)]

/-- The second test of a branch, where `low` is the negative operand and `high` the other. The
branches guard the addition in different ways, and each guard meets the conditions. -/
theorem addRange_above {guard : Bool} {low high : Int} (negative : low < 0)
    (pair : a.value = high ∧ b.value = low ∨ a.value = low ∧ b.value = high)
    (unguarded : guard = false → high ≤ t.maximum)
    (nonneg : guard = true → 0 ≤ high)
    (guarded : guard = true → (machine.usualType a.type b.type).isSigned = false → t.maximum < high) :
    logicalOr (some (decide (high + low < t.minimum)))
      (logicalAnd (some guard)
        (do return machine.less (limitMaximum machine t) (← machine.add a b))) =
      some (decide (¬t.Represents (a.value + b.value) ∨ SumMisread machine t a b)) := by
  have minimum_nonpos := t.minimum_nonpos
  have maximum_nonneg := t.maximum_nonneg
  have verdict : (¬t.Represents (a.value + b.value) ∨ SumMisread machine t a b) ↔
      (high + low < t.minimum ∨ t.maximum < high + low ∨
        (machine.usualType a.type b.type).isSigned = false ∧ high + low < 0 ∧ t.maximum < high) := by
    have larger : t.maximum < a.value ∨ t.maximum < b.value ↔ t.maximum < high := by omega
    have sum : a.value + b.value = high + low := by omega
    unfold SumMisread IntegerType.Represents
    rw [sum, larger, not_and_or, Int.not_le, Int.not_le, or_assoc]
  rw [decide_eq_decide.mpr verdict]
  by_cases short : high + low < t.minimum
  · rw [decide_eq_true short, logicalOr_true, decide_eq_true (.inl short)]
  · rw [decide_eq_false short, logicalOr_false]
    cases guard with
    | false =>
        have upper := unguarded rfl
        rw [logicalAnd_false, decide_eq_false (by omega)]
    | true =>
        have high_nonneg := nonneg rfl
        have high_upper : high ≤ (machine.usualType a.type b.type).maximum := by
          rcases pair with ⟨left, _⟩ | ⟨_, right⟩
          · exact left ▸ (left_represents rfl (by omega)).2
          · exact right ▸ (right_represents rfl (by omega)).2
        rw [logicalAnd_true]
        by_cases reaches : 0 ≤ high + low
        · have room : (machine.usualType a.type b.type).Represents (high + low) := by
            have lower := (machine.usualType a.type b.type).minimum_nonpos
            exact ⟨by omega, by omega⟩
          rw [add_eq room rfl (by omega)]
          simp only [Option.bind_eq_bind, Option.bind_some, Option.pure_def]
          rw [less_of_exact (exact_of_nonneg maximum_nonneg reaches)]
          refine congrArg some (decide_eq_decide.mpr ?_)
          show t.maximum < high + low ↔ _
          omega
        · have t_signed : t.isSigned = true :=
            IntegerType.isSigned_of_negative t.represents_minimum (by omega)
          cases signed : (machine.usualType a.type b.type).isSigned with
          | true =>
              have exact := exact_of_signed signed
              have room : (machine.usualType a.type b.type).Represents (high + low) := by
                have left_lower := exact.1.1
                have right_lower := exact.2.1
                have upper := (machine.usualType a.type b.type).maximum_nonneg
                exact ⟨by omega, by omega⟩
              have compared : (machine.usualType (limitMaximum machine t).type
                  (machine.usualType a.type b.type)).isSigned = true := by
                refine usualType_signed ?_ (by rwa [promote_usualType])
                rw [limitMaximum, promote_promote]
                exact promote_signed_of_signed t_signed
              rw [add_eq room rfl (by omega)]
              simp only [Option.bind_eq_bind, Option.bind_some, Option.pure_def]
              rw [less_of_exact (exact_of_signed compared)]
              refine congrArg some (decide_eq_decide.mpr ?_)
              show t.maximum < high + low ↔ _
              simp only [Bool.true_eq_false, false_and, or_false]
              omega
          | false =>
              have exceeds := guarded rfl signed
              have half : -2 ^ (machine.usualType a.type b.type).width ≤ 2 * low := by
                rcases pair with ⟨_, right⟩ | ⟨left, _⟩
                · exact right ▸ right_half rfl (by omega)
                · exact left ▸ left_half rfl (by omega)
              have wrapped : (machine.usualType a.type b.type).wrap (a.value + b.value) =
                  high + low + 2 ^ (machine.usualType a.type b.type).width := by
                rw [IntegerType.wrap_of_neg signed (by omega) (by omega)]
                omega
              have wrapped_nonneg :
                  0 ≤ (machine.usualType a.type b.type).wrap (a.value + b.value) := by
                rw [wrapped]
                omega
              rw [Machine.add, arithmetic_of_unsigned modular_add signed]
              simp only [Option.bind_eq_bind, Option.bind_some, Option.pure_def]
              rw [less_of_exact (exact_of_nonneg maximum_nonneg wrapped_nonneg)]
              refine congrArg some (decide_eq_decide.mpr ?_)
              show t.maximum < (machine.usualType a.type b.type).wrap (a.value + b.value) ↔ _
              rw [wrapped]
              simp only [true_and]
              omega

theorem glIntAddRangeOverflow_eq :
    glIntAddRangeOverflow machine a b (limitMinimum machine t) (limitMaximum machine t) =
      some (decide (¬t.Represents (a.value + b.value) ∨ SumMisread machine t a b)) := by
  have maximum_nonneg := t.maximum_nonneg
  rw [glIntAddRangeOverflow, less_zero, less_zero]
  by_cases right_negative : b.value < 0
  · have b_signed : (machine.promote b.type).isSigned = true :=
      promote_signed_of_negative b.represented right_negative
    rw [if_pos (decide_eq_true right_negative), addRange_below right_negative, exprSigned_eq]
    simp only [Option.bind_eq_bind, Option.bind_some, Option.pure_def]
    cases signed : (machine.promote a.type).isSigned with
    | true =>
        have at_least : machine.lessEq (machine.literal 0) a = decide (0 ≤ a.value) :=
          lessEq_of_exact (Exact.symm (exact_literal _ (.inr (Int.le_refl 0))))
        have both := usualType_signed signed b_signed
        rw [if_pos rfl, at_least]
        refine addRange_above right_negative (.inl ⟨rfl, rfl⟩) ?_ of_decide_eq_true ?_
        · intro missed
          have below := of_decide_eq_false missed
          omega
        · intro _ unsigned
          rw [both] at unsigned
          cases unsigned
    | false =>
        have nonneg : 0 ≤ a.value := by
          have lower := (@represents_promote machine _ _ a.represented).1
          rwa [IntegerType.minimum_of_unsigned signed] at lower
        have exceeds : machine.less (limitMaximum machine t) a = decide (t.maximum < a.value) :=
          less_of_exact (exact_of_nonneg maximum_nonneg nonneg)
        rw [if_neg (by decide), exceeds]
        refine addRange_above right_negative (.inl ⟨rfl, rfl⟩) ?_ (fun _ => nonneg) ?_
        · intro missed
          exact Int.not_lt.mp (of_decide_eq_false missed)
        · intro found _
          exact of_decide_eq_true found
  · have right_nonneg := Int.not_lt.mp right_negative
    have exceeds : machine.less (limitMaximum machine t) b = decide (t.maximum < b.value) :=
      less_of_exact (exact_of_nonneg maximum_nonneg right_nonneg)
    rw [if_neg (mt of_decide_eq_true right_negative)]
    by_cases left_negative : a.value < 0
    · rw [if_pos (decide_eq_true left_negative), addRange_below left_negative, glIntConvertType_eq,
        exprSigned_eq, promote_usualType, exceeds, logicalOr_some]
      refine addRange_above left_negative (.inr ⟨rfl, rfl⟩) ?_ (fun _ => right_nonneg) ?_
      · intro missed
        exact Int.not_lt.mp (of_decide_eq_false (Bool.or_eq_false_iff.mp missed).2)
      · intro found unsigned
        rw [unsigned, Bool.false_or] at found
        exact of_decide_eq_true found
    · have left_nonneg := Int.not_lt.mp left_negative
      have verdict : (¬t.Represents (a.value + b.value) ∨ SumMisread machine t a b) ↔
          t.maximum < a.value + b.value := by
        rw [IntegerType.not_represents_of_nonneg (by omega)]
        unfold SumMisread
        omega
      rw [if_neg (mt of_decide_eq_true left_negative), exceeds, decide_eq_decide.mpr verdict]
      by_cases exceeded : t.maximum < b.value
      · rw [decide_eq_true exceeded, logicalOr_true, decide_eq_true (by omega)]
      · have room : (machine.usualType (limitMaximum machine t).type b.type).Represents
            (t.maximum - b.value) := by
          have upper := (@represents_usualType machine _ b.type _ (limitMaximum machine t).represented
            (.inr maximum_nonneg)).2
          rw [limitMaximum_value] at upper
          have lower := (machine.usualType (limitMaximum machine t).type b.type).minimum_nonpos
          exact ⟨by omega, by omega⟩
        rw [decide_eq_false exceeded, logicalOr_false, subtract_eq room rfl rfl]
        simp only [Option.bind_eq_bind, Option.bind_some, Option.pure_def]
        rw [less_of_exact (exact_of_nonneg (show 0 ≤ t.maximum - b.value by omega) left_nonneg)]
        refine congrArg some (decide_eq_decide.mpr ?_)
        show t.maximum - b.value < a.value ↔ _
        omega

end Addition

/-!
## The macros
-/

/-- Without the built-in functions, `INT_SUBTRACT_WRAPV` does what they do. `INT_ADD_WRAPV` is
defined and stores what they store, and its flag is theirs unless the sum is misread. -/
theorem int_wrapv_iff (machine : Machine) (t : IntegerType) (a b : Operand) :
    intSubtractWrapv machine t a b = some (t.subtractWrapv a.value b.value) ∧
    ∃ flag, intAddWrapv machine t a b = some (flag, (t.addWrapv a.value b.value).2) ∧
      (flag = (t.addWrapv a.value b.value).1 ↔
        ¬(t.Represents (a.value + b.value) ∧ SumMisread machine t a b)) := by
  refine ⟨?_, _, glIntOpWrapv_eq modular_add glIntAddRangeOverflow_eq, ?_⟩
  · rw [intSubtractWrapv, Machine.subtract,
      glIntOpWrapv_eq modular_subtract glIntSubtractRangeOverflow_eq, IntegerType.subtractWrapv,
      decide_not]
  · rw [IntegerType.addWrapv]
    by_cases fits : t.Represents (a.value + b.value)
    · simp [fits]
    · simp [fits]

/-- The sum of an `unsigned int` and a negative `int` that fits a `signed char`. -/
example : SumMisread ⟨32, by decide⟩ ⟨true, 8, by decide⟩
    ⟨⟨false, 32, by decide⟩, 200, by decide⟩ ⟨⟨true, 32, by decide⟩, -210, by decide⟩ := by
  decide

end VelaExternal.Benchtests

import VelaExternal.Systems.IntegerType

/-!
# Subtraction of times

`timespec_sub` of `support/timespec.c`, with the macros of `intprops.h` that it uses. The
type of the seconds is any integer type; the difference is exact, or saturated where the
seconds cannot hold it.
-/

set_option autoImplicit false

namespace VelaExternal.Benchtests

open Systems

/-!
## The macros of `intprops.h`
-/

/-- `TYPE_SIGNED(t)` -/
def typeSigned (t : IntegerType) : Bool := !decide ((t.convert 0).toInt < (t.convert (-1)).toInt)

/-- `TYPE_MAXIMUM(t)` -/
def typeMaximum (t : IntegerType) : t.Value :=
  if !typeSigned t then t.convert (-1)
  else t.convert ((2 ^ (t.width - 2) - 1) * 2 + 1)

/-- `TYPE_MINIMUM(t)` -/
def typeMinimum (t : IntegerType) : t.Value := t.convert (Int.not (typeMaximum t).toInt)

/-!
## `timespec_sub`
-/

def timespecHz : Int := 1000000000

/-- The type `int`. -/
def cInt : IntegerType := ⟨true, 32, by decide⟩

@[ext] structure Timespec (time : IntegerType) where
  tvSec : time.Value
  tvNsec : Int
  deriving DecidableEq

section Functions

variable {time : IntegerType}

/-- The assignments after the label `low_overflow`. -/
def lowOverflow (time : IntegerType) : Timespec time := ⟨typeMinimum time, 0⟩

/-- The end of `timespec_sub`, from `INT_SUBTRACT_WRAPV` on. -/
def subtractSeconds (rs bs : time.Value) (rns : Int) : Timespec time :=
  let difference := time.subtractWrapv rs.toInt bs.toInt
  if difference.1 then
    if 0 < bs.toInt then lowOverflow time else ⟨typeMaximum time, timespecHz - 1⟩
  else ⟨difference.2, rns⟩

def timespecSub (a b : Timespec time) : Timespec time :=
  let rs := a.tvSec
  let bs := b.tvSec
  let ns := (cInt.convert (a.tvNsec - b.tvNsec)).toInt
  if ns < 0 then
    let rns := ns + timespecHz
    let bs1 := time.addWrapv bs.toInt 1
    if !bs1.1 then subtractSeconds rs bs1.2 rns
    else if (if typeSigned time then -1 else 0) < rs.toInt then
      subtractSeconds (time.convert (rs.toInt - 1)) bs rns
    else lowOverflow time
  else subtractSeconds rs bs ns

end Functions

/-!
## Minimum and maximum
-/

section Limits

variable {t : IntegerType}

private theorem convert_neg_one (t : IntegerType) :
    (t.convert (-1)).toInt = if t.isSigned then -1 else t.maximum := by
  have last := t.maximum_eq
  cases signed : t.isSigned with
  | true =>
      have half_positive := IntegerType.two_pow_pos (t.width - 1)
      have represented : t.Represents (-1) := by
        refine ⟨?_, Int.le_trans (by decide) t.represents_zero.2⟩
        simp only [IntegerType.minimum, signed, if_true]
        omega
      exact IntegerType.convert_of_represents represented
  | false =>
      have around : -1 + 2 ^ t.width = t.maximum := by
        simp only [IntegerType.maximum, signed, Bool.false_eq_true, if_false]
        omega
      calc (t.convert (-1)).toInt = t.wrap (-1 + 2 ^ t.width) := (t.wrap_add_two_pow (-1)).symm
        _ = t.maximum := by rw [around, IntegerType.wrap_of_represents t.represents_maximum]

theorem typeSigned_eq (t : IntegerType) : typeSigned t = t.isSigned := by
  have zero : (t.convert 0).toInt = 0 := IntegerType.convert_of_represents t.represents_zero
  rw [typeSigned, zero, convert_neg_one]
  cases signed : t.isSigned with
  | true => rfl
  | false =>
      have double := t.two_pow_width
      have half_positive := IntegerType.two_pow_pos (t.width - 1)
      have positive : 0 < t.maximum := by
        simp only [IntegerType.maximum, signed, Bool.false_eq_true, if_false]
        omega
      simpa using positive

private theorem typeMaximum_toInt (wide : 2 ≤ t.width) : (typeMaximum t).toInt = t.maximum := by
  rw [typeMaximum, typeSigned_eq]
  cases signed : t.isSigned with
  | true =>
      have quarter : (2 : Int) ^ (t.width - 1) = 2 * 2 ^ (t.width - 2) := by
        rw [← Int.pow_succ']
        congr 1
        omega
      have built : (2 ^ (t.width - 2) - 1) * 2 + 1 = t.maximum := by
        simp only [IntegerType.maximum, signed, if_true]
        omega
      rw [built]
      exact IntegerType.convert_of_represents t.represents_maximum
  | false => simp [convert_neg_one, signed]

private theorem typeMinimum_toInt (wide : 2 ≤ t.width) : (typeMinimum t).toInt = t.minimum := by
  have complement : Int.not t.maximum = -t.maximum - 1 := IntegerType.not_eq t.maximum
  rw [typeMinimum, typeMaximum_toInt wide, complement]
  cases signed : t.isSigned with
  | true =>
      have least : -t.maximum - 1 = t.minimum := by simp only [t.minimum_eq, signed, if_true]
      rw [least]
      exact IntegerType.convert_of_represents t.represents_minimum
  | false =>
      have last := t.maximum_eq
      have around : -t.maximum - 1 + 2 ^ t.width = t.minimum := by
        simp only [t.minimum_eq, signed, Bool.false_eq_true, if_false] at last ⊢
        omega
      calc (t.convert (-t.maximum - 1)).toInt
          = t.wrap (-t.maximum - 1 + 2 ^ t.width) := (t.wrap_add_two_pow _).symm
        _ = t.minimum := by rw [around, IntegerType.wrap_of_represents t.represents_minimum]

end Limits

/-!
## Saturation
-/

variable {time : IntegerType}

/-- The time since the epoch in nanoseconds. -/
def Timespec.nanoseconds (timespec : Timespec time) : Int :=
  timespec.tvSec.toInt * timespecHz + timespec.tvNsec

def Timespec.Normal (timespec : Timespec time) : Prop :=
  0 ≤ timespec.tvNsec ∧ timespec.tvNsec < timespecHz

instance (timespec : Timespec time) : Decidable timespec.Normal :=
  inferInstanceAs (Decidable (_ ∧ _))

/-- The closest that a `timespec` comes to a number of seconds and nanoseconds. -/
structure Saturated (seconds nanoseconds : Int) (result : Timespec time) : Prop where
  exact : time.Represents seconds →
    result.tvSec.toInt = seconds ∧ result.tvNsec = nanoseconds
  below : seconds < time.minimum → result.tvSec.toInt = time.minimum ∧ result.tvNsec = 0
  above : time.maximum < seconds →
    result.tvSec.toInt = time.maximum ∧ result.tvNsec = timespecHz - 1
  normal : result.Normal

private theorem lowOverflow_saturated (wide : 2 ≤ time.width) {seconds nanoseconds : Int}
    (low : seconds < time.minimum) : Saturated seconds nanoseconds (lowOverflow time) := by
  have ordered := time.minimum_le_maximum
  constructor
  · intro represented
    exact absurd low (Int.not_lt.mpr represented.1)
  · intro _
    exact ⟨typeMinimum_toInt wide, rfl⟩
  · intro high
    omega
  · exact ⟨Int.le_refl 0, (by decide : (0 : Int) < timespecHz)⟩

private theorem highOverflow_saturated (wide : 2 ≤ time.width) {seconds nanoseconds : Int}
    (high : time.maximum < seconds) :
    Saturated seconds nanoseconds (⟨typeMaximum time, timespecHz - 1⟩ : Timespec time) := by
  have ordered := time.minimum_le_maximum
  constructor
  · intro represented
    exact absurd high (Int.not_lt.mpr represented.2)
  · intro low
    omega
  · intro _
    exact ⟨typeMaximum_toInt wide, rfl⟩
  · exact ⟨(by decide : (0 : Int) ≤ timespecHz - 1), Int.sub_one_lt_of_le (Int.le_refl _)⟩

private theorem subtractSeconds_saturated (wide : 2 ≤ time.width) (rs bs : time.Value) {rns : Int}
    (nonnegative : 0 ≤ rns) (within : rns < timespecHz) :
    Saturated (rs.toInt - bs.toInt) rns (subtractSeconds rs bs rns) := by
  by_cases represented : time.Represents (rs.toInt - bs.toInt)
  · have stored : subtractSeconds rs bs rns = ⟨time.convert (rs.toInt - bs.toInt), rns⟩ := by
      simp [subtractSeconds, IntegerType.subtractWrapv, represented]
    rw [stored]
    constructor
    · intro _
      exact ⟨IntegerType.convert_of_represents represented, rfl⟩
    · intro low
      exact absurd low (Int.not_lt.mpr represented.1)
    · intro high
      exact absurd high (Int.not_lt.mpr represented.2)
    · exact ⟨nonnegative, within⟩
  · obtain ⟨bs_lower, bs_upper⟩ := bs.represented
    obtain ⟨rs_lower, rs_upper⟩ := rs.represented
    simp only [subtractSeconds, IntegerType.subtractWrapv, represented, decide_false,
      Bool.not_false, if_true]
    unfold IntegerType.Represents at represented
    by_cases positive : 0 < bs.toInt
    · rw [if_pos positive]
      exact lowOverflow_saturated wide (by omega)
    · rw [if_neg positive]
      exact highOverflow_saturated wide (by omega)

/-- The whole seconds of a difference, and the nanoseconds that are left. -/
theorem nanoseconds_sub (a b : Timespec time) :
    a.nanoseconds - b.nanoseconds =
      (a.tvSec.toInt - b.tvSec.toInt) * timespecHz + (a.tvNsec - b.tvNsec) := by
  simp only [Timespec.nanoseconds, timespecHz]
  omega

private theorem normalized (seconds : Int) {nanoseconds : Int} (nonnegative : 0 ≤ nanoseconds)
    (within : nanoseconds < timespecHz) :
    (seconds * timespecHz + nanoseconds) / timespecHz = seconds ∧
      (seconds * timespecHz + nanoseconds) % timespecHz = nanoseconds := by
  simp only [timespecHz] at within ⊢
  omega

/-- The seconds that the first operand is compared with stand between the limits. -/
theorem borrow_bounds (time : IntegerType) :
    time.minimum ≤ (if typeSigned time then -1 else 0) ∧
      (if typeSigned time then -1 else 0) - time.maximum ≤ time.minimum := by
  have least := time.minimum_eq
  have zero := time.represents_zero.2
  rw [typeSigned_eq]
  cases signed : time.isSigned with
  | true =>
      simp only [signed, if_true] at least ⊢
      omega
  | false =>
      simp only [signed, Bool.false_eq_true, if_false] at least ⊢
      omega

/-- Where the seconds of the first operand can take the borrow. -/
theorem represents_pred {rs : time.Value}
    (room : (if typeSigned time then -1 else 0) < rs.toInt) : time.Represents (rs.toInt - 1) := by
  obtain ⟨above_minimum, _⟩ := borrow_bounds time
  obtain ⟨_, rs_upper⟩ := rs.represented
  constructor
  · exact Int.le_trans above_minimum (Int.le_sub_one_of_lt room)
  · exact Int.le_trans (Int.sub_le_self _ (by decide)) rs_upper

/-- Where they cannot, the greatest second operand goes below the minimum. -/
theorem pred_below {rs : time.Value}
    (no_room : ¬ (if typeSigned time then -1 else 0) < rs.toInt) :
    rs.toInt - time.maximum - 1 < time.minimum := by
  obtain ⟨_, below_minimum⟩ := borrow_bounds time
  have compared := Int.sub_le_sub_right (Int.not_lt.mp no_room) time.maximum
  exact Int.sub_one_lt_of_le (Int.le_trans compared below_minimum)

/-- The borrow goes to the second operand, or to the first one, or neither can take it. -/
theorem borrow_saturated (wide : 2 ≤ time.width) {a b : Timespec time} {ns : Int}
    (kept : (cInt.convert (a.tvNsec - b.tvNsec)).toInt = ns) (negative : ns < 0)
    (above : -timespecHz < ns) :
    Saturated (a.tvSec.toInt - b.tvSec.toInt - 1) (ns + timespecHz) (timespecSub a b) := by
  have nonnegative : 0 ≤ ns + timespecHz := by omega
  have within : ns + timespecHz < timespecHz := by omega
  simp only [timespecSub, kept, negative, if_true, IntegerType.addWrapv, Bool.not_not]
  by_cases represented : time.Represents (b.tvSec.toInt + 1)
  · have stored : (time.convert (b.tvSec.toInt + 1)).toInt = b.tvSec.toInt + 1 :=
      IntegerType.convert_of_represents represented
    have difference : a.tvSec.toInt - b.tvSec.toInt - 1 =
        a.tvSec.toInt - (time.convert (b.tvSec.toInt + 1)).toInt := by omega
    rw [if_pos (decide_eq_true represented), difference]
    exact subtractSeconds_saturated wide a.tvSec _ nonnegative within
  · obtain ⟨bs_lower, bs_upper⟩ := b.tvSec.represented
    have greatest : b.tvSec.toInt = time.maximum := by
      unfold IntegerType.Represents at represented
      omega
    rw [if_neg (by simpa using represented)]
    by_cases room : (if typeSigned time then -1 else 0) < a.tvSec.toInt
    · have stored : (time.convert (a.tvSec.toInt - 1)).toInt = a.tvSec.toInt - 1 :=
        IntegerType.convert_of_represents (represents_pred room)
      have difference : a.tvSec.toInt - b.tvSec.toInt - 1 =
          (time.convert (a.tvSec.toInt - 1)).toInt - b.tvSec.toInt := by omega
      rw [if_pos room, difference]
      exact subtractSeconds_saturated wide _ b.tvSec nonnegative within
    · rw [if_neg room]
      apply lowOverflow_saturated wide
      rw [greatest]
      exact pred_below room

/-- For every integer type of the seconds, `timespec_sub` is exact subtraction, saturated. -/
theorem timespec_sub_saturates (wide : 32 ≤ time.width) {a b : Timespec time}
    (a_normal : a.Normal) (b_normal : b.Normal) :
    Saturated ((a.nanoseconds - b.nanoseconds) / timespecHz)
      ((a.nanoseconds - b.nanoseconds) % timespecHz) (timespecSub a b) := by
  have wide_enough : 2 ≤ time.width := by omega
  obtain ⟨a_lower, a_upper⟩ := a_normal
  obtain ⟨b_lower, b_upper⟩ := b_normal
  have kept : (cInt.convert (a.tvNsec - b.tvNsec)).toInt = a.tvNsec - b.tvNsec := by
    apply IntegerType.convert_of_represents
    simp only [timespecHz] at a_upper b_upper
    simp only [IntegerType.Represents, IntegerType.minimum, IntegerType.maximum, cInt, if_true]
    omega
  rw [nanoseconds_sub]
  by_cases negative : a.tvNsec - b.tvNsec < 0
  · have borrowed : (a.tvSec.toInt - b.tvSec.toInt) * timespecHz + (a.tvNsec - b.tvNsec) =
        (a.tvSec.toInt - b.tvSec.toInt - 1) * timespecHz +
          (a.tvNsec - b.tvNsec + timespecHz) := by
      simp only [timespecHz]
      omega
    have parts := normalized (a.tvSec.toInt - b.tvSec.toInt - 1)
      (by omega : 0 ≤ a.tvNsec - b.tvNsec + timespecHz) (by omega)
    rw [borrowed, parts.1, parts.2]
    exact borrow_saturated wide_enough kept negative (by omega)
  · have parts := normalized (a.tvSec.toInt - b.tvSec.toInt)
      (Int.not_lt.mp negative) (by omega : a.tvNsec - b.tvNsec < timespecHz)
    have unborrowed : timespecSub a b =
        subtractSeconds a.tvSec b.tvSec (a.tvNsec - b.tvNsec) := by
      simp only [timespecSub, kept, negative, if_false]
    rw [parts.1, parts.2, unborrowed]
    exact subtractSeconds_saturated wide_enough _ _ (Int.not_lt.mp negative) (by omega)

def timespec32 (seconds nanoseconds : Int) : Timespec cInt := ⟨cInt.convert seconds, nanoseconds⟩

/-- The greatest second operand leaves the borrow to the first one. -/
theorem timespec_sub_saturates_greatest :
    Saturated (-2147483648) 999999999
      (timespecSub (timespec32 0 0) (timespec32 2147483647 1)) := by
  have wide : 32 ≤ cInt.width := by decide
  have first : (timespec32 0 0).Normal := by decide
  have second : (timespec32 2147483647 1).Normal := by decide
  have saturated := timespec_sub_saturates wide first second
  have seconds : ((timespec32 0 0).nanoseconds - (timespec32 2147483647 1).nanoseconds) /
      timespecHz = -2147483648 := by decide
  have nanoseconds : ((timespec32 0 0).nanoseconds - (timespec32 2147483647 1).nanoseconds) %
      timespecHz = 999999999 := by decide
  rwa [seconds, nanoseconds] at saturated

example : timespecSub (timespec32 (-1) 0) (timespec32 2147483647 1) =
    timespec32 (-2147483648) 0 := by decide

end VelaExternal.Benchtests

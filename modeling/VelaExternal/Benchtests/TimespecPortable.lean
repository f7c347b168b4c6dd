import VelaExternal.Benchtests.IntpropsWrapv
import VelaExternal.Benchtests.Timespec

/-!
# Subtraction of times without built-in functions

`timespec_sub` where the compiler has no built-in functions for `INT_ADD_WRAPV` and
`INT_SUBTRACT_WRAPV`. Every operation is done in the types that the machine gives to `int`,
`long` and `time_t`, and has no result where its behaviour is undefined.
-/

set_option autoImplicit false

namespace VelaExternal.Benchtests

open Systems
open Systems.Machine

/-- A machine with the types of `struct timespec`. Its `int` holds the enumerator
`TIMESPEC_HZ`, and its `long` is no narrower. -/
structure TimeMachine extends Machine where
  time : IntegerType
  long : IntegerType
  holdsHz : toMachine.int.Represents timespecHz
  timeWide : 8 ≤ time.width
  longSigned : long.isSigned = true
  longWide : intWidth ≤ long.width

/-- `struct timespec` -/
structure MachineTimespec (machine : TimeMachine) where
  tvSec : machine.time.Value
  tvNsec : machine.long.Value
  deriving DecidableEq

def MachineTimespec.timespec {machine : TimeMachine} (time : MachineTimespec machine) :
    Timespec machine.time :=
  ⟨time.tvSec, time.tvNsec.toInt⟩

def operandOf {type : IntegerType} (value : type.Value) : Operand :=
  ⟨type, value.toInt, value.represented⟩

/-!
## `timespec_sub`
-/

namespace TimeMachine

variable (machine : TimeMachine)

private theorem small_zero : -2 ^ 15 ≤ (0 : Int) ∧ (0 : Int) < 2 ^ 15 := by decide

private theorem small_one : -2 ^ 15 ≤ (1 : Int) ∧ (1 : Int) < 2 ^ 15 := by decide

private theorem small_minusOne : -2 ^ 15 ≤ (-1 : Int) ∧ (-1 : Int) < 2 ^ 15 := by decide

/-- `TIMESPEC_HZ` -/
def hz : Operand := ⟨machine.int, timespecHz, machine.holdsHz⟩

/-- The value of the function, for which `rns` is converted to `long`. -/
def result (rs : machine.time.Value) (rns : machine.int.Value) : MachineTimespec machine :=
  ⟨rs, machine.long.convert rns.toInt⟩

/-- The assignments after the label `low_overflow`. -/
def lowOverflow : MachineTimespec machine :=
  machine.result (typeMinimum machine.time) (machine.int.convert 0)

/-- The end of `timespec_sub`, from `INT_SUBTRACT_WRAPV` on. -/
def subtractSeconds (rs bs : machine.time.Value) (rns : machine.int.Value) :
    Option (MachineTimespec machine) := do
  let difference ← intSubtractWrapv machine.toMachine machine.time (operandOf rs) (operandOf bs)
  if difference.1 then
    if machine.less (machine.literal 0 small_zero) (operandOf bs) then return machine.lowOverflow
    else
      let last ← machine.subtract machine.hz (machine.literal 1 small_one)
      return machine.result (typeMaximum machine.time) (machine.int.convert last.value)
  else return machine.result difference.2 rns

def timespecSub (a b : MachineTimespec machine) : Option (MachineTimespec machine) := do
  let rs := a.tvSec
  let bs := b.tvSec
  let difference ← machine.subtract (operandOf a.tvNsec) (operandOf b.tvNsec)
  let ns := machine.int.convert difference.value
  if machine.less (operandOf ns) (machine.literal 0 small_zero) then
    let rns := machine.int.convert (← machine.add (operandOf ns) machine.hz).value
    let one := machine.literal 1 small_one
    let bs1 ← intAddWrapv machine.toMachine machine.time (operandOf bs) one
    let least := if typeSigned machine.time then machine.literal (-1) small_minusOne
      else machine.literal 0 small_zero
    if !bs1.1 then machine.subtractSeconds rs bs1.2 rns
    else if machine.less least (operandOf rs) then
      let before ← machine.subtract (operandOf rs) one
      machine.subtractSeconds (machine.time.convert before.value) bs rns
    else return machine.lowOverflow
  else machine.subtractSeconds rs bs ns

end TimeMachine

/-!
## The same with and without built-in functions
-/

section Portable

variable {machine : TimeMachine}

@[simp] theorem operandOf_type {type : IntegerType} (value : type.Value) :
    (operandOf value).type = type := rfl

@[simp] theorem operandOf_value {type : IntegerType} (value : type.Value) :
    (operandOf value).value = value.toInt := rfl

private theorem int_represents {value : Int} (lower : -timespecHz ≤ value)
    (upper : value ≤ timespecHz) : machine.int.Represents value := by
  have holds := machine.holdsHz.2
  have least := machine.int.minimum_eq
  rw [int_signed, if_pos rfl] at least
  exact ⟨by omega, by omega⟩

private theorem long_represents {value : Int} (represented : machine.int.Represents value) :
    machine.long.Represents value := by
  rcases Nat.eq_or_lt_of_le machine.longWide with same | wider
  · exact IntegerType.represents_of_width_eq represented same (.inl machine.longSigned.symm)
  · exact IntegerType.represents_of_width_lt represented wider (.inl machine.longSigned)

private theorem result_timespec (rs : machine.time.Value) {rns : machine.int.Value} :
    (machine.result rs rns).timespec = ⟨rs, rns.toInt⟩ := by
  have kept := IntegerType.convert_of_represents (long_represents rns.represented)
  rw [MachineTimespec.timespec, TimeMachine.result, kept]

private theorem lowOverflow_timespec :
    machine.lowOverflow.timespec = Benchtests.lowOverflow machine.time := by
  have kept := IntegerType.convert_of_represents machine.int.represents_zero
  rw [TimeMachine.lowOverflow, result_timespec, kept]
  rfl

private theorem subtractSeconds_timespec (rs bs : machine.time.Value) (rns : machine.int.Value) :
    (machine.subtractSeconds rs bs rns).map MachineTimespec.timespec =
      some (Benchtests.subtractSeconds rs bs rns.toInt) := by
  have macro_eq : intSubtractWrapv machine.toMachine machine.time (operandOf rs) (operandOf bs) =
      some (machine.time.subtractWrapv rs.toInt bs.toInt) := by
    rw [intSubtractWrapv, Machine.subtract,
      glIntOpWrapv_eq modular_subtract glIntSubtractRangeOverflow_eq, IntegerType.subtractWrapv,
      decide_not]
    rfl
  have below : machine.int.Represents (timespecHz - 1) :=
    int_represents (by decide) (by decide)
  have last : machine.subtract machine.hz (machine.literal 1) = some ⟨machine.int, _, below⟩ :=
    subtract_eq below (by simp [TimeMachine.hz]) rfl
  have sign : machine.less (machine.literal 0) (operandOf bs) = decide (0 < bs.toInt) := zero_less
  rw [TimeMachine.subtractSeconds, macro_eq, Benchtests.subtractSeconds]
  simp only [Option.bind_eq_bind, Option.bind_some, Option.pure_def, sign, decide_eq_true_eq, last]
  split
  · by_cases positive : 0 < bs.toInt
    · rw [if_pos positive, if_pos positive, Option.map_some, lowOverflow_timespec]
    · rw [if_neg positive, if_neg positive, Option.map_some, result_timespec,
        IntegerType.convert_of_represents below]
  · rw [Option.map_some, result_timespec]

/-- The sum that `timespec_sub` forms is never misread: only negative seconds could be, and
then `time_t` and the type of the sum are signed. -/
private theorem addOneWrapv_eq (bs : machine.time.Value) :
    intAddWrapv machine.toMachine machine.time (operandOf bs) (machine.literal 1) =
      some (machine.time.addWrapv bs.toInt 1) := by
  have read : ¬SumMisread machine.toMachine machine.time (operandOf bs) (machine.literal 1) := by
    rintro ⟨unsigned, negative, _⟩
    have below : bs.toInt < 0 := by
      have short : bs.toInt + 1 < 0 := negative
      omega
    have signed : (machine.promote (operandOf bs).type).isSigned = true :=
      promote_signed_of_negative bs.represented below
    rw [literal_type, usualType_int_right, signed] at unsigned
    cases unsigned
  rw [intAddWrapv, Machine.add, glIntOpWrapv_eq modular_add glIntAddRangeOverflow_eq,
    IntegerType.addWrapv, decide_eq_decide.mpr (or_iff_left read), decide_not]
  rfl

/-- `-TYPE_SIGNED(time_t) < rs` -/
private theorem less_rs (rs : machine.time.Value) :
    machine.less (if typeSigned machine.time then machine.literal (-1) else machine.literal 0)
        (operandOf rs) =
      decide ((if typeSigned machine.time then -1 else 0) < rs.toInt) := by
  rw [typeSigned_eq]
  cases signed : machine.time.isSigned with
  | true =>
      have exact : machine.Exact (operandOf rs) (machine.literal (-1)) :=
        exact_literal (by decide) (.inl (promote_signed_of_signed signed))
      exact less_of_exact exact.symm
  | false => exact zero_less

/-- Where the code takes a second from `rs`, it can. -/
private theorem subtract_one {rs : machine.time.Value}
    (room : (if typeSigned machine.time then -1 else 0) < rs.toInt) :
    ∃ before, machine.subtract (operandOf rs) (machine.literal 1) = some before ∧
      before.value = rs.toInt - 1 := by
  have promoted : (machine.promote machine.time).Represents (rs.toInt - 1) :=
    represents_promote (represents_pred room)
  exact ⟨_, subtract_eq promoted (by simp) rfl, rfl⟩

/-- For times with nanoseconds of less than a second, `timespec_sub` is defined without the
built-in functions of the compiler, and returns what it returns with them. -/
theorem timespecSubPortable_eq (a b : MachineTimespec machine) (a_normal : a.timespec.Normal)
    (b_normal : b.timespec.Normal) :
    (machine.timespecSub a b).map MachineTimespec.timespec =
      some (timespecSub a.timespec b.timespec) := by
  obtain ⟨a_lower, a_upper⟩ : 0 ≤ a.tvNsec.toInt ∧ a.tvNsec.toInt < timespecHz := a_normal
  obtain ⟨b_lower, b_upper⟩ : 0 ≤ b.tvNsec.toInt ∧ b.tvNsec.toInt < timespecHz := b_normal
  have int_holds : machine.int.Represents (a.tvNsec.toInt - b.tvNsec.toInt) :=
    int_represents (by omega) (by omega)
  have long_type : machine.usualType machine.long machine.long = machine.long := by
    rw [usualType_self, promote_of_le machine.longWide]
  have difference : machine.subtract (operandOf a.tvNsec) (operandOf b.tvNsec) =
      some ⟨machine.long, _, long_represents int_holds⟩ :=
    subtract_eq (long_represents int_holds) long_type rfl
  have narrowed : (machine.int.convert (a.tvNsec.toInt - b.tvNsec.toInt)).toInt =
      a.tvNsec.toInt - b.tvNsec.toInt := IntegerType.convert_of_represents int_holds
  have narrowed_int : (cInt.convert (a.tvNsec.toInt - b.tvNsec.toInt)).toInt =
      a.tvNsec.toInt - b.tvNsec.toInt := by
    apply IntegerType.convert_of_represents
    simp only [timespecHz] at a_upper b_upper
    simp only [IntegerType.Represents, IntegerType.minimum, IntegerType.maximum, cInt, if_true]
    omega
  have sign : machine.less (operandOf (machine.int.convert (a.tvNsec.toInt - b.tvNsec.toInt)))
      (machine.literal 0) =
        decide ((machine.int.convert (a.tvNsec.toInt - b.tvNsec.toInt)).toInt < 0) := less_zero
  rw [TimeMachine.timespecSub, timespecSub]
  simp only [Option.bind_eq_bind, difference, Option.bind_some, Option.pure_def, sign,
    MachineTimespec.timespec, narrowed, narrowed_int, decide_eq_true_eq]
  by_cases negative : a.tvNsec.toInt - b.tvNsec.toInt < 0
  · have borrowed : machine.int.Represents (a.tvNsec.toInt - b.tvNsec.toInt + timespecHz) :=
      int_represents (by omega) (by omega)
    have sum : machine.add (operandOf (machine.int.convert (a.tvNsec.toInt - b.tvNsec.toInt)))
        machine.hz = some ⟨machine.int, _, borrowed⟩ :=
      add_eq borrowed (by simp [TimeMachine.hz]) (by simp [TimeMachine.hz, narrowed])
    have kept := IntegerType.convert_of_represents borrowed
    simp only [if_pos negative, sum, Option.bind_some, addOneWrapv_eq, less_rs, decide_eq_true_eq]
    split
    · rw [subtractSeconds_timespec, kept]
    · by_cases room : (if typeSigned machine.time then -1 else 0) < a.tvSec.toInt
      · obtain ⟨before, taken, value⟩ := subtract_one room
        rw [if_pos room, if_pos room, taken, Option.bind_some, subtractSeconds_timespec, kept,
          value]
      · rw [if_neg room, if_neg room, Option.map_some, lowOverflow_timespec]
  · simp only [if_neg negative]
    rw [subtractSeconds_timespec, narrowed]

end Portable

/-- A machine with an `int` of 32 bits, and a `long` and a `time_t` of 64. -/
def lp64 : TimeMachine where
  intWidth := 32
  wide := by decide
  time := ⟨true, 64, by decide⟩
  long := ⟨true, 64, by decide⟩
  holdsHz := by decide
  timeWide := by decide
  longSigned := rfl
  longWide := by decide

/-- The borrow goes to the second operand. -/
theorem timespecSubPortable_eq_borrow :
    (lp64.timespecSub ⟨lp64.time.convert 5, lp64.long.convert 0⟩
        ⟨lp64.time.convert 2, lp64.long.convert 1⟩).map MachineTimespec.timespec =
      some ⟨lp64.time.convert 2, 999999999⟩ := by
  have same : (lp64.timespecSub ⟨lp64.time.convert 5, lp64.long.convert 0⟩
      ⟨lp64.time.convert 2, lp64.long.convert 1⟩).map MachineTimespec.timespec = _ :=
    timespecSubPortable_eq _ _ (by decide) (by decide)
  rw [same]
  decide

end VelaExternal.Benchtests

import VelaExternal.Systems.Expression

/-!
# The macros of `intprops.h`

Each macro is the expression that it expands to where the compiler has no built-in function
for it, with arguments of any integer types. An argument that the macro does not evaluate is
given by its type. A macro without a value has undefined behaviour.
-/

set_option autoImplicit false

namespace VelaExternal.Benchtests

open Systems
open Systems.Machine (logicalAnd logicalOr)

section Macros

variable (machine : Machine)

/-!
## Types of expressions
-/

/-- `(1 ? 0 : (e))` -/
def conditionalZero (e : IntegerType) : Operand :=
  ⟨machine.usualType machine.int e, 0, IntegerType.represents_zero _⟩

/-- `_GL_INT_CONVERT(e, v)` -/
def glIntConvert (e : IntegerType) (v : Operand) : Option Operand :=
  machine.add (conditionalZero machine e) v

/-- The type of `_GL_INT_CONVERT(e, v)` -/
def glIntConvertType (e v : IntegerType) : IntegerType :=
  machine.usualType (conditionalZero machine e).type v

/-- `_GL_INT_NEGATE_CONVERT(e, v)` -/
def glIntNegateConvert (e : IntegerType) (v : Operand) : Option Operand :=
  machine.subtract (conditionalZero machine e) v

/-- `EXPR_SIGNED(e)` -/
def exprSigned (e : IntegerType) : Option Bool := do
  return machine.less (← glIntNegateConvert machine e (machine.literal 1)) (machine.literal 0)

/-- `_GL_SIGNED_INT_MAXIMUM(e)` -/
def glSignedIntMaximum (e : IntegerType) : Option Operand := do
  let one ← glIntConvert machine e (machine.literal 1)
  let power ← machine.shiftLeft one ((machine.promote e).width - 2)
  let half ← machine.subtract power (machine.literal 1)
  let double ← machine.multiply half (machine.literal 2)
  machine.add double (machine.literal 1)

/-- `_GL_INT_MINIMUM(e)` -/
def glIntMinimum (e : IntegerType) : Option Operand := do
  if ← exprSigned machine e then machine.complement (← glSignedIntMaximum machine e)
  else glIntConvert machine e (machine.literal 0)

/-- `_GL_INT_MAXIMUM(e)` -/
def glIntMaximum (e : IntegerType) : Option Operand := do
  if ← exprSigned machine e then glSignedIntMaximum machine e
  else glIntNegateConvert machine e (machine.literal 1)

/-!
## `INT_<op>_RANGE_OVERFLOW`
-/

def intAddRangeOverflow (a b min max : Operand) : Option Bool := do
  if machine.less b (machine.literal 0) then return machine.less a (← machine.subtract min b)
  else return machine.less (← machine.subtract max b) a

def intSubtractRangeOverflow (a b min max : Operand) : Option Bool := do
  if machine.less b (machine.literal 0) then return machine.less (← machine.add max b) a
  else return machine.less a (← machine.add min b)

def intMultiplyRangeOverflow (a b min max : Operand) : Option Bool := do
  if machine.less b (machine.literal 0) then
    if machine.less a (machine.literal 0) then return machine.less a (← machine.divide max b)
    else if machine.equal b (machine.literal (-1)) then return false
    else return machine.less (← machine.divide min b) a
  else if machine.equal b (machine.literal 0) then return false
  else if machine.less a (machine.literal 0) then return machine.less a (← machine.divide min b)
  else return machine.less (← machine.divide max b) a

/-!
## `INT_<op>_OVERFLOW`
-/

/-- `_GL_ADD_OVERFLOW(a, b, min, max)` -/
def glAddOverflow (a b min max : Operand) : Option Bool := do
  if machine.less min (machine.literal 0) then intAddRangeOverflow machine a b min max
  else if machine.less a (machine.literal 0) then return machine.lessEq b (← machine.add a b)
  else if machine.less b (machine.literal 0) then return machine.lessEq a (← machine.add a b)
  else return machine.less (← machine.add a b) b

/-- `_GL_SUBTRACT_OVERFLOW(a, b, min, max)` -/
def glSubtractOverflow (a b min max : Operand) : Option Bool := do
  if machine.less min (machine.literal 0) then intSubtractRangeOverflow machine a b min max
  else if machine.less a (machine.literal 0) then return true
  else if machine.less b (machine.literal 0) then
    return machine.lessEq (← machine.subtract a b) a
  else return machine.less a b

/-- `_GL_MULTIPLY_OVERFLOW(a, b, min, max)` -/
def glMultiplyOverflow (a b min max : Operand) : Option Bool :=
  logicalOr
    (some (machine.equal min (machine.literal 0) &&
      (machine.less a (machine.literal 0) && machine.less (machine.literal 0) b ||
        machine.less b (machine.literal 0) && machine.less (machine.literal 0) a)))
    (intMultiplyRangeOverflow machine a b min max)

/-- `_GL_DIVIDE_OVERFLOW(a, b, min, max)` -/
def glDivideOverflow (a b min max : Operand) : Option Bool := do
  if machine.less min (machine.literal 0) then
    logicalAnd
      (do return machine.equal b (← glIntNegateConvert machine min.type (machine.literal 1)))
      (do return machine.less a (← machine.negate max))
  else if machine.less a (machine.literal 0) then
    return machine.lessEq b (← machine.subtract (← machine.add a b) (machine.literal 1))
  else
    logicalAnd (some (machine.less b (machine.literal 0)))
      (do return machine.lessEq (← machine.add a b) a)

/-- `_GL_BINARY_OP_OVERFLOW(a, b, op_result_overflow)` -/
def glBinaryOpOverflow (opResultOverflow : Operand → Operand → Operand → Operand → Option Bool)
    (a b : Operand) : Option Bool := do
  let type := glIntConvertType machine a.type b.type
  opResultOverflow a b (← glIntMinimum machine type) (← glIntMaximum machine type)

def intAddOverflow : Operand → Operand → Option Bool :=
  glBinaryOpOverflow machine (glAddOverflow machine)

def intSubtractOverflow : Operand → Operand → Option Bool :=
  glBinaryOpOverflow machine (glSubtractOverflow machine)

def intMultiplyOverflow : Operand → Operand → Option Bool :=
  glBinaryOpOverflow machine (glMultiplyOverflow machine)

def intDivideOverflow : Operand → Operand → Option Bool :=
  glBinaryOpOverflow machine (glDivideOverflow machine)

/-!
## `INT_<op>_WRAPV`
-/

/-- `_GL_INT_ADD_RANGE_OVERFLOW(a, b, tmin, tmax)` -/
def glIntAddRangeOverflow (a b tmin tmax : Operand) : Option Bool :=
  if machine.less b (machine.literal 0) then
    logicalOr
      (if tmin.value ≠ 0 then
        logicalAnd
          (logicalOr
            (exprSigned machine
              (glIntConvertType machine a.type (machine.usualType tmin.type b.type)))
            (some (machine.less b tmin)))
          (do return machine.less a (← machine.subtract tmin b))
      else do return machine.lessEq a (← machine.subtract (machine.literal (-1)) b))
      (logicalAnd
        (do
          if ← exprSigned machine a.type then return machine.lessEq (machine.literal 0) a
          else return machine.less tmax a)
        (do return machine.less tmax (← machine.add a b)))
  else if machine.less a (machine.literal 0) then
    logicalOr
      (if tmin.value ≠ 0 then
        logicalAnd
          (logicalOr
            (exprSigned machine
              (glIntConvertType machine b.type (machine.usualType tmin.type a.type)))
            (some (machine.less a tmin)))
          (do return machine.less b (← machine.subtract tmin a))
      else do return machine.lessEq b (← machine.subtract (machine.literal (-1)) a))
      (logicalAnd
        (logicalOr (exprSigned machine (glIntConvertType machine a.type b.type))
          (some (machine.less tmax b)))
        (do return machine.less tmax (← machine.add a b)))
  else
    logicalOr (some (machine.less tmax b))
      (do return machine.less (← machine.subtract tmax b) a)

/-- `_GL_INT_SUBTRACT_RANGE_OVERFLOW(a, b, tmin, tmax)` -/
def glIntSubtractRangeOverflow (a b tmin tmax : Operand) : Option Bool :=
  if machine.less a (machine.literal 0) = machine.less b (machine.literal 0) then
    if machine.less a b then
      logicalOr (some (decide (tmin.value = 0)))
        (do
          let below ← machine.subtract (machine.literal (-1)) tmin
          let difference ← machine.subtract b a
          return machine.less below (← machine.subtract difference (machine.literal 1)))
    else do return machine.less tmax (← machine.subtract a b)
  else if machine.less a (machine.literal 0) then
    logicalOr
      (logicalAnd
        (do
          return !(← exprSigned machine
            (glIntConvertType machine (machine.usualType a.type tmin.type) b.type)))
        (do return machine.less (← machine.subtract a tmin) (machine.literal 0)))
      (do return machine.less (← machine.subtract a tmin) b)
  else
    logicalOr
      (logicalAnd
        (do
          return !(← logicalAnd
            (exprSigned machine (glIntConvertType machine tmax.type b.type))
            (exprSigned machine
              (glIntConvertType machine (machine.usualType tmax.type b.type) a.type))))
        (do return machine.lessEq tmax (← machine.subtract (machine.literal (-1)) b)))
      (do return machine.less (← machine.add tmax b) a)

/-- `_GL_INT_OP_WRAPV_VIA_UNSIGNED(a, b, op, ut, t)` -/
def glIntOpWrapvViaUnsigned (op : Operand → Operand → Option Operand) (ut t : IntegerType)
    (a b : Operand) : Option t.Value := do
  return t.convert (← op (ut.cast a) (ut.cast b)).value

/-- `_GL_INT_OP_CALC(a, b, r, op, overflow, ut, t, tmin, tmax)`: its value and that of `*r`. -/
def glIntOpCalc (op : Operand → Operand → Option Operand)
    (overflow : Operand → Operand → Operand → Operand → Option Bool) (ut t : IntegerType)
    (tmin tmax a b : Operand) : Option (Bool × t.Value) := do
  if ← overflow a b tmin tmax then
    return (true, ← glIntOpWrapvViaUnsigned op ut t a b)
  else return (false, ← glIntOpWrapvViaUnsigned op ut t a b)

/-- The limits of `limits.h`, which have the promoted type; that of an unsigned type is `0`. -/
def limitMinimum (t : IntegerType) : Operand :=
  if t.isSigned then
    ⟨machine.promote t, t.minimum, Machine.represents_promote t.represents_minimum⟩
  else machine.literal 0

def limitMaximum (t : IntegerType) : Operand :=
  ⟨machine.promote t, t.maximum, Machine.represents_promote t.represents_maximum⟩

/-- The unsigned type of the calculation: `unsigned int`, or that of a wider result. -/
def calculationType (t : IntegerType) : IntegerType :=
  ⟨false, max machine.intWidth t.width, Nat.lt_of_lt_of_le t.positive (Nat.le_max_right _ _)⟩

/-- `_GL_INT_OP_WRAPV(a, b, r, op, overflow)`, where `*r` has the type `t` -/
def glIntOpWrapv (op : Operand → Operand → Option Operand)
    (overflow : Operand → Operand → Operand → Operand → Option Bool) (t : IntegerType)
    (a b : Operand) : Option (Bool × t.Value) :=
  glIntOpCalc op overflow (calculationType machine t) t (limitMinimum machine t)
    (limitMaximum machine t) a b

def intAddWrapv : (t : IntegerType) → Operand → Operand → Option (Bool × t.Value) :=
  glIntOpWrapv machine machine.add (glIntAddRangeOverflow machine)

def intSubtractWrapv : (t : IntegerType) → Operand → Operand → Option (Bool × t.Value) :=
  glIntOpWrapv machine machine.subtract (glIntSubtractRangeOverflow machine)

end Macros

end VelaExternal.Benchtests

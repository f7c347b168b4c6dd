import Mathlib.Data.List.TakeWhile
import VelaExternal.Systems.CString
import VelaExternal.Systems.Marshal

/-!
# The array functions of a type

`lcm_coretypes.h` is not part of this repository. For each primitive type it provides the
functions that lcm-gen emits for each message type: an array is encoded, measured and
decoded, and the type has a hash. They are a parameter of the model, and `CoreTypes.Lawful`
is what the generated code relies on. So are the allocators, which may refuse any request.
-/

set_option autoImplicit false

namespace VelaExternal.Lcm

open VelaExternal.Systems

/-- A `get_hash` function, by the name of its type. -/
inductive MessageType where
  | primitives
  | primitivesList
  | multidimArray
  | node
  | bools
  | byteArray
  | comments
  | exampleconst
  | anotherType
  | crossPackage
  | arrays
  deriving DecidableEq, Repr

/-- A call returns a number, an exception leaves it, or its behaviour is undefined. -/
inductive Failure where
  | returned (status : Int)
  | thrown
  | undefined
  deriving DecidableEq

/-- The number that the call returns reports an error. -/
def Failure.Negative : Failure → Prop
  | .returned status => status < 0
  | .thrown => False
  | .undefined => False

theorem Failure.minusOne_negative : (returned (-1)).Negative := Int.negSucc_lt_zero 0

/-- An array of `count` elements, none if the count is negative. -/
abbrev Elements (Value : Type) (count : Int) := {values : List Value // values.length = count.toNat}

def Elements.one {Value : Type} (value : Value) : Elements Value 1 := ⟨[value], rfl⟩

def Elements.only {Value : Type} : Elements Value 1 → Value
  | ⟨[value], _⟩ => value

/-- What a `char*` points to. Its length with the terminator is an `int`. -/
structure LcmString extends CString where
  short : chars.length + 1 < 2 ^ 31
  deriving DecidableEq

theorem LcmString.ext {first second : LcmString} (same : first.chars = second.chars) :
    first = second := by
  cases first with
  | mk first _ =>
      cases second with
      | mk second _ =>
          obtain rfl : first = second := CString.ext same
          rfl

theorem LcmString.before_chars (p : LcmString) : before p.chars 0 = p.chars := by
  rw [before, List.takeWhile_eq_self_iff]
  intro char member
  rw [bne_iff_ne]
  rintro rfl
  exact p.nonzero member

structure ArrayFunctions (Value : Type) where
  encodeArray (p : List Value) (elements : Int) : Encoder UInt8
  encodedArraySize (p : List Value) (elements : Int) : Option Int
  decodeArray (elements : Int) : Decoder UInt8 Failure (Elements Value elements)
  hashRecursive (p : List MessageType) : UInt64

/-- Floating point numbers are their bit patterns: the code copies them. `lcmMalloc` and
`operatorNew` say whether there is memory for so many elements when a decoder has come to
`place`. -/
structure CoreTypes where
  boolean : ArrayFunctions Int8
  byte : ArrayFunctions UInt8
  int8 : ArrayFunctions Int8
  int16 : ArrayFunctions Int16
  int32 : ArrayFunctions Int32
  int64 : ArrayFunctions Int64
  float : ArrayFunctions UInt32
  double : ArrayFunctions UInt64
  string : ArrayFunctions LcmString
  lcmMalloc (place elements : Int) : Bool
  operatorNew (place elements : Int) : Bool

/-- `lcm_malloc` returns `NULL`, and the elements that are to follow have no place. -/
def CoreTypes.MallocFails (core : CoreTypes) (failure : Failure) : Prop :=
  failure = .undefined ∧ ∃ place elements, 0 < elements ∧ core.lcmMalloc place elements = false

/-- A vector or a string cannot grow, which may have been caught. -/
def CoreTypes.NewFails (core : CoreTypes) (failure : Failure) : Prop :=
  (failure = .thrown ∨ failure = .returned (-1)) ∧
    ∃ place elements, 0 < elements ∧ core.operatorNew place elements = false

/-!
## Laws
-/

/-- The functions marshal each valid value as `format` says. -/
structure ArrayFunctions.Follows {Value : Type} (functions : ArrayFunctions Value)
    (format : Value → List UInt8) (Valid : Value → Prop) (excuse : Failure → Prop) : Prop where
  size : ∀ (p : List Value) (elements : Nat), elements ≤ p.length → (∀ value ∈ p, Valid value) →
    Measures (functions.encodedArraySize p elements) ((p.take elements).flatMap format)
  writes : ∀ (p : List Value) (elements : Nat), elements ≤ p.length → (∀ value ∈ p, Valid value) →
    (functions.encodeArray p elements).Writes ((p.take elements).flatMap format)
  reads : ∀ {elements : Int} (p : Elements Value elements), 0 ≤ elements →
    (∀ value ∈ p.val, Valid value) →
    (functions.decodeArray elements).Reads Failure.Negative excuse (p.val.flatMap format) (· = p)

/-- A primitive type whose values all take `width` bytes. Every such number of bytes is
the format of some value, and the size is that of so many elements wherever they are. An
array whose size is not an `int` is outside of these laws. -/
structure ArrayFunctions.Fixed {Value : Type} (functions : ArrayFunctions Value)
    (format : Value → List UInt8) (width : Nat) : Prop where
  hash : ∀ p, functions.hashRecursive p = 0
  narrow : width ≤ 8
  sized : ∀ value, (format value).length = width
  size : ∀ (p : List Value) (elements : Nat), width * elements < 2 ^ 31 →
    functions.encodedArraySize p elements = some (width * elements : Int)
  writes : ∀ (p : List Value) (elements : Nat), elements ≤ p.length →
    (functions.encodeArray p elements).Writes ((p.take elements).flatMap format)
  reads : ∀ {elements : Int} (p : Elements Value elements), 0 ≤ elements →
    (functions.decodeArray elements).Reads Failure.Negative (fun _ => False)
      (p.val.flatMap format) (· = p)
  accepts : ∀ (elements : Int) memory offset maxlen (read : Nat) (p : Elements Value elements),
    0 ≤ elements → width * elements < 2 ^ 31 → Window offset maxlen →
    functions.decodeArray elements memory offset maxlen = .ok (read, p) →
    read ≤ maxlen ∧ read = (p.val.flatMap format).length ∧
      Holds memory offset (p.val.flatMap format)
  rejects : ∀ (elements : Int) memory offset maxlen failure,
    0 ≤ elements → width * elements < 2 ^ 31 → Window offset maxlen →
    functions.decodeArray elements memory offset maxlen = .error failure → failure.Negative

/-- How the primitive types stand in a message. -/
structure Wire where
  boolean : Int8 → List UInt8
  byte : UInt8 → List UInt8
  int8 : Int8 → List UInt8
  int16 : Int16 → List UInt8
  int32 : Int32 → List UInt8
  int64 : Int64 → List UInt8
  float : UInt32 → List UInt8
  double : UInt64 → List UInt8

/-- The length of a string counts the terminator, which is sent with it. -/
def Wire.string (wire : Wire) (value : LcmString) : List UInt8 :=
  wire.int32 (.ofNat (value.chars.length + 1)) ++ (value.chars ++ [0])

structure CoreTypes.Lawful (core : CoreTypes) (wire : Wire) : Prop where
  boolean : core.boolean.Fixed wire.boolean 1
  byte : core.byte.Fixed wire.byte 1
  int8 : core.int8.Fixed wire.int8 1
  int16 : core.int16.Fixed wire.int16 2
  int32 : core.int32.Fixed wire.int32 4
  int64 : core.int64.Fixed wire.int64 8
  float : core.float.Fixed wire.float 4
  double : core.double.Fixed wire.double 8
  string : core.string.Follows wire.string (fun _ => True) core.MallocFails
  string_hash : ∀ p, core.string.hashRecursive p = 0

section Format

variable {Value : Type} {format : Value → List UInt8} {width : Nat}
  {functions : ArrayFunctions Value}

theorem length_flatMap_format {Part : Type} {parts : Value → List Part}
    (sized : ∀ value, (parts value).length = width) (values : List Value) :
    (values.flatMap parts).length = width * values.length := by
  induction values with
  | nil => rfl
  | cons value values ih =>
      rw [List.flatMap_cons, List.length_append, ih, sized, List.length_cons]
      rw [Nat.mul_succ, Nat.add_comm]

theorem le_length_flatMap {least : Nat} (long : ∀ value, least ≤ (format value).length)
    (values : List Value) : least * values.length ≤ (values.flatMap format).length := by
  induction values with
  | nil => exact Nat.le_refl 0
  | cons value values ih =>
      have first := long value
      rw [List.flatMap_cons, List.length_append, List.length_cons, Nat.mul_succ]
      omega

theorem ArrayFunctions.Fixed.follows (fixed : functions.Fixed format width) :
    functions.Follows format (fun _ => True) fun _ => False where
  size p elements short _ := by
    intro represented
    rw [length_flatMap_format fixed.sized, List.length_take_of_le short] at represented ⊢
    rw [fixed.size p elements represented, Int.natCast_mul]
  writes p elements short _ := fixed.writes p elements short
  reads p positive _ := fixed.reads p positive

end Format

end VelaExternal.Lcm

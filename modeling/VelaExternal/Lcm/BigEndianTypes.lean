import VelaExternal.Lcm.MessageFormat
import VelaExternal.Systems.BigEndian

/-!
# Primitive types in network byte order

An implementation of the array functions of the primitive types: numbers are sent most
significant byte first, strings after their length. It meets the laws of `CoreTypes`, with
memory for everything or for nothing.
-/

set_option autoImplicit false

namespace VelaExternal.Lcm

open VelaExternal.Systems

section Numbers

variable {Value : Type} {width : Nat}

/-- Numbers of `width` bytes. A negative count fails after it has been multiplied. -/
def numbers (width : Nat) (toNat : Value → Nat) (ofNat : Nat → Value) : ArrayFunctions Value where
  encodeArray p elements memory offset maxlen :=
    if maxlen < width * elements then (memory, -1)
    else (store memory offset ((p.take elements.toNat).flatMap fun value =>
      bigEndian width (toNat value)), width * elements)
  encodedArraySize _ elements := represented (width * elements)
  decodeArray elements memory offset maxlen :=
    if maxlen < width * elements then .error (.returned (-1))
    else if elements < 0 then .error (.returned (width * elements))
    else .ok (width * elements.toNat,
      readArray (fun bytes => ofNat (ofBigEndian bytes)) width memory elements.toNat offset)
  hashRecursive _ := 0

variable {toNat : Value → Nat} {ofNat : Nat → Value}

private theorem numbers_fixed (narrow : width ≤ 8) (inverse : ∀ value, ofNat (toNat value) = value)
    (small : ∀ value, toNat value < 256 ^ width)
    (exact : ∀ number < 256 ^ width, toNat (ofNat number) = number) :
    (numbers width toNat ofNat).Fixed (fun value => bigEndian width (toNat value)) width := by
  have sized : ∀ value, (bigEndian width (toNat value)).length = width :=
    fun _ => length_bigEndian ..
  have length (values : List Value) :
      (values.flatMap fun value => bigEndian width (toNat value)).length = width * values.length :=
    length_flatMap_format sized values
  have read : ∀ value, ofNat (ofBigEndian (bigEndian width (toNat value))) = value := by
    intro value
    rw [ofBigEndian_bigEndian, Nat.mod_eq_of_lt (small value), inverse]
  have written : ∀ bytes, bytes.length = width →
      bigEndian width (toNat (ofNat (ofBigEndian bytes))) = bytes := by
    rintro bytes rfl
    rw [exact _ (ofBigEndian_lt bytes), bigEndian_ofBigEndian]
  refine ⟨fun _ => rfl, narrow, sized, fun p elements represented => ?_, fun p elements short => ?_,
    fun {elements} p positive => ?_,
    fun elements memory offset maxlen taken p positive _ _ done => ?_,
    fun elements memory offset maxlen failure positive _ _ failed => ?_⟩
  · have size : ((width * elements : Nat) : Int) < 2 ^ 31 := by omega
    rw [Int.natCast_mul] at size
    simp only [numbers]
    exact represented_eq (Int.mul_nonneg (Int.natCast_nonneg _) (Int.natCast_nonneg _)) size
  · have total : ((p.take elements).flatMap fun value => bigEndian width (toNat value)).length =
        width * elements := by rw [length, List.length_take_of_le short]
    constructor
    · intro memory offset maxlen within room
      rw [total, Int.natCast_mul] at room
      simp only [numbers, if_neg (Int.not_lt.mpr room), Int.toNat_natCast]
      exact ⟨by rw [total, Int.natCast_mul], holds_store memory offset _,
        unchanged_store memory offset _⟩
    · intro memory offset maxlen within represented more
      rw [total, Int.natCast_mul] at more
      simp only [numbers, if_pos more]
      exact ⟨by decide, .refl memory offset maxlen⟩
  · obtain ⟨count, rfl⟩ := Int.eq_ofNat_of_zero_le positive
    have total : (p.val.flatMap fun value => bigEndian width (toNat value)).length =
        width * count := by
      rw [length, p.property]
      rfl
    constructor
    · intro memory offset maxlen within room holds
      rw [total, Int.natCast_mul] at room
      refine .inl ⟨p, rfl, ?_⟩
      have same := readArray_of_holds (fun bytes => ofNat (ofBigEndian bytes)) sized read p holds
      simp only [numbers, if_neg (Int.not_lt.mpr room), if_neg (Int.not_lt.mpr positive), total, same]
      rfl
    · intro memory offset maxlen within represented more _
      rw [total, Int.natCast_mul] at more
      exact ⟨_, .inl Failure.minusOne_negative, by simp only [numbers, if_pos more]⟩
  · simp only [numbers] at done
    split at done
    · cases done
    · next room =>
        rw [if_neg (Int.not_lt.mpr positive)] at done
        cases done
        refine ⟨by rw [Int.natCast_mul, Int.toNat_of_nonneg positive]; omega, ?_,
          holds_readArray (fun bytes => ofNat (ofBigEndian bytes)) written _ offset⟩
        rw [length, (readArray _ width memory elements.toNat offset).property]
  · simp only [numbers] at failed
    split at failed
    · cases failed
      exact Failure.minusOne_negative
    · rw [if_neg (Int.not_lt.mpr positive)] at failed
      cases failed

end Numbers

/-!
## The types
-/

def signed8 : ArrayFunctions Int8 :=
  numbers 1 (fun value => value.toUInt8.toNat) fun number => (UInt8.ofNat number).toInt8

/-- The characters before the terminator, which is the last of the bytes that are sent. -/
def LcmString.ofBytes {count : Int32} (bytes : Elements UInt8 count.toInt) : LcmString where
  chars := before bytes.val.dropLast 0
  nonzero := by
    intro member
    simpa using List.mem_takeWhile_imp member
  short := by
    have whole := (List.takeWhile_prefix (l := bytes.val.dropLast) fun char => char != 0).length_le
    rw [List.length_dropLast, bytes.property] at whole
    have small := count.toInt_lt
    change (List.takeWhile _ _).length + 1 < 2 ^ 31
    omega

def unsigned8 : ArrayFunctions UInt8 := numbers 1 (fun value => value.toNat) UInt8.ofNat

def signed16 : ArrayFunctions Int16 :=
  numbers 2 (fun value => value.toUInt16.toNat) fun number => (UInt16.ofNat number).toInt16

def signed32 : ArrayFunctions Int32 :=
  numbers 4 (fun value => value.toUInt32.toNat) fun number => (UInt32.ofNat number).toInt32

def signed64 : ArrayFunctions Int64 :=
  numbers 8 (fun value => value.toUInt64.toNat) fun number => (UInt64.ofNat number).toInt64

def unsigned32 : ArrayFunctions UInt32 := numbers 4 (fun value => value.toNat) UInt32.ofNat

def unsigned64 : ArrayFunctions UInt64 := numbers 8 (fun value => value.toNat) UInt64.ofNat

def lengthAndChars : Element LcmString where
  encode p :=
    [signed32.encodeOne (.ofNat (p.chars.length + 1)),
      unsigned8.encodeArray (p.chars ++ [0]) (p.chars.length + 1 : Nat)]
  size p :=
    [signed32.sizeOne (.ofNat (p.chars.length + 1)),
      unsigned8.sizeMany (p.chars ++ [0]) (p.chars.length + 1 : Nat)]
  decode := do
    let length ← signed32.decodeOne
    let bytes ← unsigned8.decodeMany length.toInt
    return LcmString.ofBytes bytes
  hashRecursive _ := 0

def bigEndianTypes (memory : Bool) : CoreTypes where
  boolean := signed8
  byte := unsigned8
  int8 := signed8
  int16 := signed16
  int32 := signed32
  int64 := signed64
  float := unsigned32
  double := unsigned64
  string := lengthAndChars.array
  lcmMalloc _ _ := memory
  operatorNew _ _ := memory

def bigEndianWire : Wire where
  boolean value := bigEndian 1 value.toUInt8.toNat
  byte value := bigEndian 1 value.toNat
  int8 value := bigEndian 1 value.toUInt8.toNat
  int16 value := bigEndian 2 value.toUInt16.toNat
  int32 value := bigEndian 4 value.toUInt32.toNat
  int64 value := bigEndian 8 value.toUInt64.toNat
  float value := bigEndian 4 value.toNat
  double value := bigEndian 8 value.toNat

private theorem unsigned8_fixed : unsigned8.Fixed bigEndianWire.byte 1 :=
  numbers_fixed (by decide) (fun _ => UInt8.ofNat_toNat) (fun value => value.toNat_lt)
    fun _ small => Nat.mod_eq_of_lt small

private theorem signed8_fixed : signed8.Fixed bigEndianWire.int8 1 :=
  numbers_fixed (by decide) (fun value => by simp) (fun value => value.toUInt8.toNat_lt)
    fun _ small => Nat.mod_eq_of_lt small

private theorem signed16_fixed : signed16.Fixed bigEndianWire.int16 2 :=
  numbers_fixed (by decide) (fun value => by simp) (fun value => value.toUInt16.toNat_lt)
    fun _ small => Nat.mod_eq_of_lt small

private theorem signed32_fixed : signed32.Fixed bigEndianWire.int32 4 :=
  numbers_fixed (by decide) (fun value => by simp) (fun value => value.toUInt32.toNat_lt)
    fun _ small => Nat.mod_eq_of_lt small

private theorem signed64_fixed : signed64.Fixed bigEndianWire.int64 8 :=
  numbers_fixed (by decide) (fun value => by simp) (fun value => value.toUInt64.toNat_lt)
    fun _ small => Nat.mod_eq_of_lt small

private theorem unsigned32_fixed : unsigned32.Fixed bigEndianWire.float 4 :=
  numbers_fixed (by decide) (fun _ => UInt32.ofNat_toNat) (fun value => value.toNat_lt)
    fun _ small => Nat.mod_eq_of_lt small

private theorem unsigned64_fixed : unsigned64.Fixed bigEndianWire.double 8 :=
  numbers_fixed (by decide) (fun _ => UInt64.ofNat_toNat) (fun value => value.toNat_lt)
    fun _ small => Nat.mod_eq_of_lt small

private theorem flatMap_byte (bytes : List UInt8) : bytes.flatMap bigEndianWire.byte = bytes := by
  have one : ∀ byte : UInt8, bigEndianWire.byte byte = [byte] := by
    intro byte
    simp [bigEndianWire, bigEndian]
  simp [funext one]

private theorem length_toInt (p : LcmString) :
    (Int32.ofNat (p.chars.length + 1)).toInt = (p.chars.length + 1 : Nat) :=
  Int32.toInt_ofNat_of_lt p.short

theorem LcmString.ofBytes_self (p : LcmString) {count : Int32}
    (bytes : Elements UInt8 count.toInt) (same : bytes.val = p.chars ++ [0]) :
    LcmString.ofBytes bytes = p := by
  apply LcmString.ext
  change before bytes.val.dropLast 0 = p.chars
  rw [same, List.dropLast_concat, p.before_chars]

private theorem lengthAndChars_follows (excuse : Failure → Prop) :
    lengthAndChars.Follows bigEndianWire.string (fun _ => True) excuse where
  encode p _ := by
    refine .cons (signed32_fixed.follows.encodeOne trivial) (.single ?_)
    have bytes := unsigned8_fixed.writes (p.chars ++ [0]) (p.chars.length + 1) (by simp)
    rwa [List.take_of_length_le (by simp), flatMap_byte] at bytes
  size p _ := by
    refine .cons (signed32_fixed.follows.sizeOne trivial) (.single ?_)
    have bytes := unsigned8_fixed.follows.size (p.chars ++ [0]) (p.chars.length + 1) (by simp)
      (trivially _)
    rw [List.take_of_length_le (by simp), flatMap_byte] at bytes
    exact bytes.adding
  decode p _ := by
    refine (signed32_fixed.decodeOne _).bind fun _ length => ?_
    subst length
    have positive : 0 ≤ (Int32.ofNat (p.chars.length + 1)).toInt := by
      rw [length_toInt]
      exact Int.natCast_nonneg _
    have sized : (p.chars ++ [0]).length = (Int32.ofNat (p.chars.length + 1)).toInt.toNat := by
      rw [length_toInt]
      simp
    have read := @ArrayFunctions.Fixed.decodeMany _ _ _ _ excuse unsigned8_fixed _
      ⟨p.chars ++ [0], sized⟩ positive
    rw [flatMap_byte] at read
    rw [← List.append_nil (p.chars ++ [0])]
    exact read.bind fun bytes same => .pure (LcmString.ofBytes_self p bytes (congrArg _ same))

theorem bigEndian_lawful (memory : Bool) : (bigEndianTypes memory).Lawful bigEndianWire where
  boolean := signed8_fixed
  byte := unsigned8_fixed
  int8 := signed8_fixed
  int16 := signed16_fixed
  int32 := signed32_fixed
  int64 := signed64_fixed
  float := unsigned32_fixed
  double := unsigned64_fixed
  string := (lengthAndChars_follows _).array
  string_hash _ := rfl

end VelaExternal.Lcm

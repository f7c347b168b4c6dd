import VelaExternal.Lcm.MessageTypes

/-!
# The message types in C++

The classes that lcm-gen has emitted for the same packages. They call the functions of
`lcm_coretypes.h` for arrays of numbers, and do for themselves what concerns vectors,
strings and other classes.
-/

set_option autoImplicit false

namespace VelaExternal.Lcm

open VelaExternal.Systems

/-- A `std::string`. Its size and a terminator is an `int`. -/
structure StdString where
  chars : List UInt8
  short : chars.length + 1 < 2 ^ 31

/-- The string at `c_str()`, which ends at the first NUL. -/
def StdString.cStr (text : StdString) : LcmString where
  chars := before text.chars 0
  nonzero := by
    intro member
    have kept := List.all_eq_true.mp (List.all_takeWhile (l := text.chars)) 0 member
    simp at kept
  short := by
    have part := (List.takeWhile_prefix (l := text.chars) fun char => char != 0).length_le
    exact Nat.lt_of_le_of_lt (Nat.succ_le_succ part) text.short

/-- `assign(address, length - 1)` -/
def StdString.assign (memory : Memory UInt8) (address : Int) (length : Int32) : StdString where
  chars := window memory address (length.toInt - 1).toNat
  short := by
    have small := length.toInt_lt
    rw [length_window]
    omega

instance : Inhabited StdString := ⟨⟨[], by decide⟩⟩

/-!
## Parts of the methods
-/

section Parts

variable {Value : Type} [Inhabited Value] (core : CoreTypes)

/-- `resize`. The number is converted to an unsigned one, so that a negative one is too large.
`failed` is what becomes of the exception. -/
def CoreTypes.resize (failed : Failure) (count : Int) (vector : List Value) :
    Parser UInt8 Failure (List Value) := fun _ offset _ pos =>
  if 0 ≤ count ∧ (count ≤ vector.length ∨ core.operatorNew (offset + pos) count) then
    .ok (pos, vector.take count.toNat ++ List.replicate (count.toNat - vector.length) default)
  else .error failed

/-- `resize` outside of any `try`, and then the numbers, unless the count is zero. -/
def CoreTypes.getVector (functions : ArrayFunctions Value) (count : Int) (vector : List Value) :
    Parser UInt8 Failure (List Value) :=
  if count = 0 then Parser.pure vector
  else do
    let _ ← core.resize .thrown count vector
    let values ← functions.decodeMany count
    return values.val

/-- The length of the string counts a terminator, which is skipped without a look at it. A
length that is not positive leaves too large a number for `assign`. -/
def CoreTypes.getString : Parser UInt8 Failure StdString := do
  let length ← core.int32.decodeOne
  fun memory offset maxlen pos =>
    if length.toInt > maxlen - pos then .error (.returned (-1))
    else if length.toInt = -2 ^ 31 then .error .undefined
    else if length.toInt = 1 ∨ 1 < length.toInt ∧
        core.operatorNew (offset + pos) (length.toInt - 1) then
      .ok (pos + length.toInt.toNat, .assign memory (offset + pos) length)
    else .error .thrown

/-- `enc_size += size() + 4 + 1`, in a `size_t` that is converted to `int`. -/
def StdString.addSize (text : StdString) : Sizer := fun total =>
  some (Int.bmod (total + (text.chars.length + 4 + 1)) (2 ^ 32))

end Parts

/-- What differs from one class to the other. -/
structure Methods (Class : Type) where
  encodeNoHash (this : Class) : List (Encoder UInt8)
  getEncodedSizeNoHash (this : Class) : List Sizer
  decodeNoHash (this : Class) : Parser UInt8 Failure Class
  computeHash (p : List MessageType) : UInt64

section Methods

variable {Class : Type} (methods : Methods Class) (core : CoreTypes)

def Methods.getHash : Int64 := (methods.computeHash []).toInt64

def Methods.encode (this : Class) : Encoder UInt8 :=
  encodeAll [core.int64.encodeOne methods.getHash, encodeAll (methods.encodeNoHash this)]

def Methods.getEncodedSize (this : Class) : Option Int :=
  adding (sizeAll (methods.getEncodedSizeNoHash this)) 8

def Methods.decode (this : Class) : Decoder UInt8 Failure Class := Parser.run do
  let msgHash ← core.int64.decodeOne
  if msgHash ≠ methods.getHash then
    Parser.fail (.returned (-1))
  else
    Parser.call (methods.decodeNoHash this).run

end Methods

/-!
## `lcmtest`
-/

namespace Lcmtest

structure PrimitivesT where
  i8 : Int8
  i16 : Int16
  numRanges : Int32
  i64 : Int64
  ranges : List Int16
  position : Elements UInt32 3
  orientation : Elements UInt64 4
  name : StdString
  enabled : Int8

instance : Inhabited PrimitivesT :=
  ⟨⟨0, 0, 0, 0, [], ⟨[0, 0, 0], rfl⟩, ⟨[0, 0, 0, 0], rfl⟩, default, 0⟩⟩

def primitivesT (core : CoreTypes) : Methods PrimitivesT where
  encodeNoHash this :=
    [core.int8.encodeOne this.i8,
      core.int16.encodeOne this.i16,
      core.int32.encodeOne this.numRanges,
      core.int64.encodeOne this.i64] ++
    (if this.numRanges.toInt > 0 then
      [core.int16.encodeArray this.ranges this.numRanges.toInt] else []) ++
    [core.float.encodeArray this.position.val 3,
      core.double.encodeArray this.orientation.val 4,
      core.string.encodeOne this.name.cStr,
      core.boolean.encodeOne this.enabled]
  getEncodedSizeNoHash this :=
    [core.int8.sizeMany [] 1,
      core.int16.sizeMany [] 1,
      core.int32.sizeMany [] 1,
      core.int64.sizeMany [] 1,
      core.int16.sizeMany [] this.numRanges.toInt,
      core.float.sizeMany [] 3,
      core.double.sizeMany [] 4,
      this.name.addSize,
      core.boolean.sizeMany [] 1]
  decodeNoHash this := do
    let i8 ← core.int8.decodeOne
    let i16 ← core.int16.decodeOne
    let numRanges ← core.int32.decodeOne
    let i64 ← core.int64.decodeOne
    let ranges ← core.getVector core.int16 numRanges.toInt this.ranges
    let position ← core.float.decodeMany 3
    let orientation ← core.double.decodeMany 4
    let name ← core.getString
    let enabled ← core.boolean.decodeOne
    return { i8, i16, numRanges, i64, ranges, position, orientation, name, enabled }
  computeHash _ := rotate 0xc2731598914f36aa

structure PrimitivesListT where
  numItems : Int32
  items : List PrimitivesT

def primitivesListT (core : CoreTypes) : Methods PrimitivesListT where
  encodeNoHash this :=
    [core.int32.encodeOne this.numItems] ++
    (this.items.take this.numItems.toInt.toNat).map fun item =>
      encodeAll ((primitivesT core).encodeNoHash item)
  getEncodedSizeNoHash this :=
    [core.int32.sizeMany [] 1] ++
    (this.items.take this.numItems.toInt.toNat).map fun item =>
      adding (sizeAll ((primitivesT core).getEncodedSizeNoHash item))
  decodeNoHash this := do
    let numItems ← core.int32.decodeOne
    let resized ← core.resize (.returned (-1)) numItems.toInt this.items
    let items ← Parser.each
      (fun item => Parser.call ((primitivesT core).decodeNoHash item).run) resized
    return { numItems, items }
  computeHash p := hashOnce .primitivesList (fun cp =>
    0xaedf3d0724cd948b + (primitivesT core).computeHash cp) p

structure MultidimArrayT where
  sizeA : Int32
  sizeB : Int32
  sizeC : Int32
  data : List (List (List Int32))
  strarray : List (List StdString)

def multidimArrayT (core : CoreTypes) : Methods MultidimArrayT where
  encodeNoHash this :=
    [core.int32.encodeOne this.sizeA,
      core.int32.encodeOne this.sizeB,
      core.int32.encodeOne this.sizeC] ++
    (if this.sizeC.toInt > 0 then
      (this.data.take this.sizeA.toInt.toNat).flatMap fun plane =>
        (plane.take this.sizeB.toInt.toNat).map fun row =>
          core.int32.encodeArray row this.sizeC.toInt
    else []) ++
    (this.strarray.take 2).flatMap fun row =>
      (row.take this.sizeC.toInt.toNat).map fun text => core.string.encodeOne text.cStr
  getEncodedSizeNoHash this :=
    [core.int32.sizeMany [] 1,
      core.int32.sizeMany [] 1,
      core.int32.sizeMany [] 1,
      adding (product (product (some this.sizeA.toInt) (some this.sizeB.toInt))
        (core.int32.encodedArraySize [] this.sizeC.toInt))] ++
    (this.strarray.take 2).flatMap fun row =>
      (row.take this.sizeC.toInt.toNat).map StdString.addSize
  decodeNoHash this := do
    let sizeA ← core.int32.decodeOne
    let sizeB ← core.int32.decodeOne
    let sizeC ← core.int32.decodeOne
    let planes ← core.resize (.returned (-1)) sizeA.toInt this.data
    let data ← Parser.each (fun plane => do
      let rows ← core.resize (.returned (-1)) sizeB.toInt plane
      Parser.each (core.getVector core.int32 sizeC.toInt) rows) planes
    let columns ← core.resize (.returned (-1)) 2 this.strarray
    let strarray ← Parser.each (fun column => do
      let texts ← core.resize (.returned (-1)) sizeC.toInt column
      Parser.each (fun _ => core.getString) texts) columns
    return { sizeA, sizeB, sizeC, data, strarray }
  computeHash _ := rotate 0x1e012473deb4cfbb

inductive NodeT where
  | mk (numChildren : Int32) (children : List NodeT)

instance : Inhabited NodeT := ⟨.mk 0 []⟩

def NodeT.children : NodeT → List NodeT
  | .mk _ children => children

mutual

def NodeT.encodeNoHash (core : CoreTypes) : NodeT → List (Encoder UInt8)
  | .mk numChildren children =>
      core.int32.encodeOne numChildren ::
        encodeChildren core children numChildren.toInt.toNat

def NodeT.encodeChildren (core : CoreTypes) : List NodeT → Nat → List (Encoder UInt8)
  | [], _ => []
  | _ :: _, 0 => []
  | child :: children, count + 1 =>
      encodeAll (encodeNoHash core child) :: encodeChildren core children count

end

mutual

def NodeT.getEncodedSizeNoHash (core : CoreTypes) : NodeT → List Sizer
  | .mk numChildren children =>
      core.int32.sizeMany [] 1 :: childrenSize core children numChildren.toInt.toNat

def NodeT.childrenSize (core : CoreTypes) : List NodeT → Nat → List Sizer
  | [], _ => []
  | _ :: _, 0 => []
  | child :: children, count + 1 =>
      adding (sizeAll (getEncodedSizeNoHash core child)) :: childrenSize core children count

end

def NodeT.decodeNoHash (core : CoreTypes) : (depth : Nat) → NodeT → Parser UInt8 Failure NodeT
  | 0, _ => Parser.fail (.returned 0)
  | depth + 1, this => do
      let numChildren ← core.int32.decodeOne
      let resized ← core.resize (.returned (-1)) numChildren.toInt this.children
      let children ← Parser.each
        (fun child => Parser.call (decodeNoHash core depth child).run) resized
      return .mk numChildren children

def NodeT.computeHash (p : List MessageType) : UInt64 :=
  if .node ∈ p then 0
  else rotate (0x98ff4a363aeb7273 + computeHash (.node :: p))
termination_by if .node ∈ p then 0 else 1
decreasing_by simp_all

def nodeT (core : CoreTypes) : Methods NodeT where
  encodeNoHash := NodeT.encodeNoHash core
  getEncodedSizeNoHash := NodeT.getEncodedSizeNoHash core
  decodeNoHash this memory offset maxlen :=
    NodeT.decodeNoHash core (maxlen.toNat + 1) this memory offset maxlen
  computeHash := NodeT.computeHash

structure BoolsT where
  oneBool : Int8
  fixedArray : Elements Int8 3
  numA : Int8
  numB : Int8
  oneDimArray : List Int8
  twoDimArray : List (List Int8)

def boolsT (core : CoreTypes) : Methods BoolsT where
  encodeNoHash this :=
    [core.boolean.encodeOne this.oneBool,
      core.boolean.encodeArray this.fixedArray.val 3,
      core.int8.encodeOne this.numA,
      core.int8.encodeOne this.numB] ++
    (if this.numA.toInt > 0 then
      [core.boolean.encodeArray this.oneDimArray this.numA.toInt] else []) ++
    (if this.numB.toInt > 0 then
      (this.twoDimArray.take this.numA.toInt.toNat).map fun row =>
        core.boolean.encodeArray row this.numB.toInt
    else [])
  getEncodedSizeNoHash this :=
    [core.boolean.sizeMany [] 1,
      core.boolean.sizeMany [] 3,
      core.int8.sizeMany [] 1,
      core.int8.sizeMany [] 1,
      core.boolean.sizeMany [] this.numA.toInt,
      adding (product (some this.numA.toInt)
        (core.boolean.encodedArraySize [] this.numB.toInt))]
  decodeNoHash this := do
    let oneBool ← core.boolean.decodeOne
    let fixedArray ← core.boolean.decodeMany 3
    let numA ← core.int8.decodeOne
    let numB ← core.int8.decodeOne
    let oneDimArray ← core.getVector core.boolean numA.toInt this.oneDimArray
    let rows ← core.resize (.returned (-1)) numA.toInt this.twoDimArray
    let twoDimArray ← Parser.each (core.getVector core.boolean numB.toInt) rows
    return { oneBool, fixedArray, numA, numB, oneDimArray, twoDimArray }
  computeHash _ := rotate 0x91cff66a81b52b83

structure ByteArrayT where
  numBytes : Int32
  data : List UInt8

def byteArrayT (core : CoreTypes) : Methods ByteArrayT where
  encodeNoHash this :=
    [core.int32.encodeOne this.numBytes] ++
    (if this.numBytes.toInt > 0 then
      [core.byte.encodeArray this.data this.numBytes.toInt] else [])
  getEncodedSizeNoHash this :=
    [core.int32.sizeMany [] 1,
      core.byte.sizeMany [] this.numBytes.toInt]
  decodeNoHash this := do
    let numBytes ← core.int32.decodeOne
    let data ← core.getVector core.byte numBytes.toInt this.data
    return { numBytes, data }
  computeHash _ := rotate 0x870c7477e270debf

structure CommentsT where
  fieldA : Int8
  fieldB : Int16
  fieldC : Int32
  fieldD : Int64
  fieldE : UInt32
  array : List Int32

def commentsT (core : CoreTypes) : Methods CommentsT where
  encodeNoHash this :=
    [core.int8.encodeOne this.fieldA,
      core.int16.encodeOne this.fieldB,
      core.int32.encodeOne this.fieldC,
      core.int64.encodeOne this.fieldD,
      core.float.encodeOne this.fieldE] ++
    (if this.fieldA.toInt > 0 then
      [core.int32.encodeArray this.array this.fieldA.toInt] else [])
  getEncodedSizeNoHash this :=
    [core.int8.sizeMany [] 1,
      core.int16.sizeMany [] 1,
      core.int32.sizeMany [] 1,
      core.int64.sizeMany [] 1,
      core.float.sizeMany [] 1,
      core.int32.sizeMany [] this.fieldA.toInt]
  decodeNoHash this := do
    let fieldA ← core.int8.decodeOne
    let fieldB ← core.int16.decodeOne
    let fieldC ← core.int32.decodeOne
    let fieldD ← core.int64.decodeOne
    let fieldE ← core.float.decodeOne
    let array ← core.getVector core.int32 fieldA.toInt this.array
    return { fieldA, fieldB, fieldC, fieldD, fieldE, array }
  computeHash _ := rotate 0x4c8ffa86357c7d7e

structure ExampleconstT where
  myOctet : Int8

def exampleconstT (core : CoreTypes) : Methods ExampleconstT where
  encodeNoHash this := [core.int8.encodeOne this.myOctet]
  getEncodedSizeNoHash _ := [core.int8.sizeMany [] 1]
  decodeNoHash _ := do
    let myOctet ← core.int8.decodeOne
    return { myOctet }
  computeHash _ := rotate 0x1ea3d29b9ee2e009

end Lcmtest

/-!
## `lcmtest2` and `lcmtest3`
-/

structure Lcmtest2.AnotherTypeT where
  val : Int32

def Lcmtest2.anotherTypeT (core : CoreTypes) : Methods Lcmtest2.AnotherTypeT where
  encodeNoHash this := [core.int32.encodeOne this.val]
  getEncodedSizeNoHash _ := [core.int32.sizeMany [] 1]
  decodeNoHash _ := do
    let val ← core.int32.decodeOne
    return { val }
  computeHash _ := rotate 0xd21b643a1f224c57

structure Lcmtest2.CrossPackageT where
  primitives : Lcmtest.PrimitivesT
  another : Lcmtest2.AnotherTypeT

def Lcmtest2.crossPackageT (core : CoreTypes) : Methods Lcmtest2.CrossPackageT where
  encodeNoHash this :=
    [encodeAll ((Lcmtest.primitivesT core).encodeNoHash this.primitives),
      encodeAll ((Lcmtest2.anotherTypeT core).encodeNoHash this.another)]
  getEncodedSizeNoHash this :=
    [adding (sizeAll ((Lcmtest.primitivesT core).getEncodedSizeNoHash this.primitives)),
      adding (sizeAll ((Lcmtest2.anotherTypeT core).getEncodedSizeNoHash this.another))]
  decodeNoHash this := do
    let primitives ← Parser.call
      ((Lcmtest.primitivesT core).decodeNoHash this.primitives).run
    let another ← Parser.call ((Lcmtest2.anotherTypeT core).decodeNoHash this.another).run
    return { primitives, another }
  computeHash := hashOnce .crossPackage fun cp =>
    0xbbd3dd8a23ec1955 +
    (Lcmtest.primitivesT core).computeHash cp +
    (Lcmtest2.anotherTypeT core).computeHash cp

structure Lcmtest3.ArraysT where
  arr : Elements Int8 10

def Lcmtest3.arraysT (core : CoreTypes) : Methods Lcmtest3.ArraysT where
  encodeNoHash this := [core.int8.encodeArray this.arr.val 10]
  getEncodedSizeNoHash _ := [core.int8.sizeMany [] 10]
  decodeNoHash _ := do
    let arr ← core.int8.decodeMany 10
    return { arr }
  computeHash _ := rotate 0x3f2258e55559faf8

/-!
## The classes together
-/

def MessageType.Class : MessageType → Type
  | .primitives => Lcmtest.PrimitivesT
  | .primitivesList => Lcmtest.PrimitivesListT
  | .multidimArray => Lcmtest.MultidimArrayT
  | .node => Lcmtest.NodeT
  | .bools => Lcmtest.BoolsT
  | .byteArray => Lcmtest.ByteArrayT
  | .comments => Lcmtest.CommentsT
  | .exampleconst => Lcmtest.ExampleconstT
  | .anotherType => Lcmtest2.AnotherTypeT
  | .crossPackage => Lcmtest2.CrossPackageT
  | .arrays => Lcmtest3.ArraysT

def MessageType.methods (core : CoreTypes) : (type : MessageType) → Methods type.Class
  | .primitives => Lcmtest.primitivesT core
  | .primitivesList => Lcmtest.primitivesListT core
  | .multidimArray => Lcmtest.multidimArrayT core
  | .node => Lcmtest.nodeT core
  | .bools => Lcmtest.boolsT core
  | .byteArray => Lcmtest.byteArrayT core
  | .comments => Lcmtest.commentsT core
  | .exampleconst => Lcmtest.exampleconstT core
  | .anotherType => Lcmtest2.anotherTypeT core
  | .crossPackage => Lcmtest2.crossPackageT core
  | .arrays => Lcmtest3.arraysT core

end VelaExternal.Lcm

import VelaExternal.Lcm.CoreTypes

/-!
# The message types in C

What lcm-gen has emitted for the packages `lcmtest`, `lcmtest2` and `lcmtest3`: the body of
the loop over the elements of an array, for each type, and the functions around it that
differ in the type alone.
-/

set_option autoImplicit false

namespace VelaExternal.Lcm

open VelaExternal.Systems

/-!
## Functions that all types share
-/

section Calls

variable {Value : Type} (functions : ArrayFunctions Value)

def ArrayFunctions.encodeOne (value : Value) : Encoder UInt8 := functions.encodeArray [value] 1

def ArrayFunctions.sizeMany (p : List Value) (elements : Int) : Sizer :=
  adding (functions.encodedArraySize p elements)

def ArrayFunctions.sizeOne (value : Value) : Sizer := functions.sizeMany [value] 1

def ArrayFunctions.decodeMany (elements : Int) : Parser UInt8 Failure (Elements Value elements) :=
  Parser.call (functions.decodeArray elements)

def ArrayFunctions.decodeOne : Parser UInt8 Failure Value := do
  let p ← functions.decodeMany 1
  return Elements.only p

end Calls

/-- `lcm_malloc`, whose result is never looked at: what comes next takes the addresses of the
elements, if there are to be any. -/
def CoreTypes.malloc (core : CoreTypes) (elements : Int) : Parser UInt8 Failure Unit :=
  fun _ offset _ pos =>
    if elements ≤ 0 ∨ core.lcmMalloc (offset + pos) elements then .ok (pos, ())
    else .error .undefined

def rotate (hash : UInt64) : UInt64 := (hash <<< 1) + ((hash >>> 63) &&& 1)

/-- A type that is being hashed already counts for nothing. -/
def hashOnce (type : MessageType) (hash : List MessageType → UInt64) (p : List MessageType) :
    UInt64 :=
  if type ∈ p then 0 else rotate (hash (type :: p))

/-- What the loops of the array functions do for one element. -/
structure Element (Value : Type) where
  encode (p : Value) : List (Encoder UInt8)
  size (p : Value) : List Sizer
  decode : Parser UInt8 Failure Value
  hashRecursive (p : List MessageType) : UInt64

section Element

variable {Value : Type} (element : Element Value)

def Element.array : ArrayFunctions Value where
  encodeArray p elements := encodeAll ((p.take elements.toNat).flatMap element.encode)
  encodedArraySize p elements := sizeAll ((p.take elements.toNat).flatMap element.size)
  decodeArray elements := (Parser.times element.decode elements.toNat).run
  hashRecursive := element.hashRecursive

def Element.getHash : Int64 := (element.hashRecursive []).toInt64

variable (core : CoreTypes)

def Element.encodeMessage (p : Value) : Encoder UInt8 :=
  encodeAll [core.int64.encodeOne element.getHash, element.array.encodeOne p]

def Element.encodedSize (p : Value) : Option Int := element.array.sizeOne p 8

def Element.decodeMessage : Decoder UInt8 Failure Value := Parser.run do
  let thisHash ← core.int64.decodeOne
  if thisHash ≠ element.getHash then
    Parser.fail (.returned (-1))
  else
    element.array.decodeOne

end Element

/-!
## `lcmtest`
-/

structure LcmtestPrimitivesT where
  i8 : Int8
  i16 : Int16
  numRanges : Int32
  i64 : Int64
  ranges : Elements Int16 numRanges.toInt
  position : Elements UInt32 3
  orientation : Elements UInt64 4
  name : LcmString
  enabled : Int8

def lcmtestPrimitivesT (core : CoreTypes) : Element LcmtestPrimitivesT where
  encode p :=
    [core.int8.encodeOne p.i8,
      core.int16.encodeOne p.i16,
      core.int32.encodeOne p.numRanges,
      core.int64.encodeOne p.i64,
      core.int16.encodeArray p.ranges.val p.numRanges.toInt,
      core.float.encodeArray p.position.val 3,
      core.double.encodeArray p.orientation.val 4,
      core.string.encodeOne p.name,
      core.boolean.encodeOne p.enabled]
  size p :=
    [core.int8.sizeOne p.i8,
      core.int16.sizeOne p.i16,
      core.int32.sizeOne p.numRanges,
      core.int64.sizeOne p.i64,
      core.int16.sizeMany p.ranges.val p.numRanges.toInt,
      core.float.sizeMany p.position.val 3,
      core.double.sizeMany p.orientation.val 4,
      core.string.sizeOne p.name,
      core.boolean.sizeOne p.enabled]
  decode := do
    let i8 ← core.int8.decodeOne
    let i16 ← core.int16.decodeOne
    let numRanges ← core.int32.decodeOne
    let i64 ← core.int64.decodeOne
    core.malloc numRanges.toInt
    let ranges ← core.int16.decodeMany numRanges.toInt
    let position ← core.float.decodeMany 3
    let orientation ← core.double.decodeMany 4
    let name ← core.string.decodeOne
    let enabled ← core.boolean.decodeOne
    return { i8, i16, numRanges, i64, ranges, position, orientation, name, enabled }
  hashRecursive := hashOnce .primitives fun cp =>
    0xc2731598914f36aa +
    core.int8.hashRecursive cp +
    core.int16.hashRecursive cp +
    core.int32.hashRecursive cp +
    core.int64.hashRecursive cp +
    core.int16.hashRecursive cp +
    core.float.hashRecursive cp +
    core.double.hashRecursive cp +
    core.string.hashRecursive cp +
    core.boolean.hashRecursive cp

structure LcmtestPrimitivesListT where
  numItems : Int32
  items : Elements LcmtestPrimitivesT numItems.toInt

def lcmtestPrimitivesListT (core : CoreTypes) : Element LcmtestPrimitivesListT where
  encode p :=
    [core.int32.encodeOne p.numItems,
      (lcmtestPrimitivesT core).array.encodeArray p.items.val p.numItems.toInt]
  size p :=
    [core.int32.sizeOne p.numItems,
      (lcmtestPrimitivesT core).array.sizeMany p.items.val p.numItems.toInt]
  decode := do
    let numItems ← core.int32.decodeOne
    core.malloc numItems.toInt
    let items ← (lcmtestPrimitivesT core).array.decodeMany numItems.toInt
    return { numItems, items }
  hashRecursive := hashOnce .primitivesList fun cp =>
    0xaedf3d0724cd948b +
    core.int32.hashRecursive cp +
    (lcmtestPrimitivesT core).hashRecursive cp

structure LcmtestMultidimArrayT where
  sizeA : Int32
  sizeB : Int32
  sizeC : Int32
  data : Elements (Elements (Elements Int32 sizeC.toInt) sizeB.toInt) sizeA.toInt
  strarray : Elements (Elements LcmString sizeC.toInt) 2

def lcmtestMultidimArrayT (core : CoreTypes) : Element LcmtestMultidimArrayT where
  encode p :=
    [core.int32.encodeOne p.sizeA,
      core.int32.encodeOne p.sizeB,
      core.int32.encodeOne p.sizeC] ++
    (p.data.val.flatMap fun plane => plane.val.flatMap fun row =>
      [core.int32.encodeArray row.val p.sizeC.toInt]) ++
    p.strarray.val.flatMap fun row => [core.string.encodeArray row.val p.sizeC.toInt]
  size p :=
    [core.int32.sizeOne p.sizeA,
      core.int32.sizeOne p.sizeB,
      core.int32.sizeOne p.sizeC] ++
    (p.data.val.flatMap fun plane => plane.val.flatMap fun row =>
      [core.int32.sizeMany row.val p.sizeC.toInt]) ++
    p.strarray.val.flatMap fun row => [core.string.sizeMany row.val p.sizeC.toInt]
  decode := do
    let sizeA ← core.int32.decodeOne
    let sizeB ← core.int32.decodeOne
    let sizeC ← core.int32.decodeOne
    core.malloc sizeA.toInt
    let data ← Parser.times (do
      core.malloc sizeB.toInt
      Parser.times (do
        core.malloc sizeC.toInt
        core.int32.decodeMany sizeC.toInt) sizeB.toInt.toNat) sizeA.toInt.toNat
    core.malloc 2
    let strarray ← Parser.times (do
      core.malloc sizeC.toInt
      core.string.decodeMany sizeC.toInt) 2
    return { sizeA, sizeB, sizeC, data, strarray }
  hashRecursive := hashOnce .multidimArray fun cp =>
    0x1e012473deb4cfbb +
    core.int32.hashRecursive cp +
    core.int32.hashRecursive cp +
    core.int32.hashRecursive cp +
    core.int32.hashRecursive cp +
    core.string.hashRecursive cp

/-- A tree whose `children` point to `num_children` nodes if it is well formed. -/
inductive LcmtestNodeT where
  | mk (numChildren : Int32) (children : List LcmtestNodeT)

mutual

def LcmtestNodeT.encode (core : CoreTypes) : LcmtestNodeT → List (Encoder UInt8)
  | .mk numChildren children =>
      [core.int32.encodeOne numChildren,
        encodeAll (encodeChildren core children numChildren.toInt.toNat)]

def LcmtestNodeT.encodeChildren (core : CoreTypes) :
    List LcmtestNodeT → Nat → List (Encoder UInt8)
  | [], _ => []
  | _ :: _, 0 => []
  | child :: children, count + 1 => encode core child ++ encodeChildren core children count

end

mutual

def LcmtestNodeT.size (core : CoreTypes) : LcmtestNodeT → List Sizer
  | .mk numChildren children =>
      [core.int32.sizeOne numChildren,
        adding (sizeAll (childrenSize core children numChildren.toInt.toNat))]

def LcmtestNodeT.childrenSize (core : CoreTypes) : List LcmtestNodeT → Nat → List Sizer
  | [], _ => []
  | _ :: _, 0 => []
  | child :: children, count + 1 => size core child ++ childrenSize core children count

end

/-- The decoder calls itself for the children, here to a given depth. -/
def LcmtestNodeT.decode (core : CoreTypes) : (depth : Nat) → Parser UInt8 Failure LcmtestNodeT
  | 0 => Parser.fail (.returned 0)
  | depth + 1 => do
      let numChildren ← core.int32.decodeOne
      core.malloc numChildren.toInt
      let children ← Parser.call (Parser.times (decode core depth) numChildren.toInt.toNat).run
      return .mk numChildren children.val

def LcmtestNodeT.hashRecursive (core : CoreTypes) (p : List MessageType) : UInt64 :=
  if .node ∈ p then 0
  else rotate (0x98ff4a363aeb7273 + core.int32.hashRecursive (.node :: p) +
    hashRecursive core (.node :: p))
termination_by if .node ∈ p then 0 else 1
decreasing_by simp_all

/-- A node takes up at least one byte, so that the depth is enough for any window. -/
def lcmtestNodeT (core : CoreTypes) : Element LcmtestNodeT where
  encode := LcmtestNodeT.encode core
  size := LcmtestNodeT.size core
  decode memory offset maxlen := LcmtestNodeT.decode core (maxlen.toNat + 1) memory offset maxlen
  hashRecursive := LcmtestNodeT.hashRecursive core

structure LcmtestBoolsT where
  oneBool : Int8
  fixedArray : Elements Int8 3
  numA : Int8
  numB : Int8
  oneDimArray : Elements Int8 numA.toInt
  twoDimArray : Elements (Elements Int8 numB.toInt) numA.toInt

def lcmtestBoolsT (core : CoreTypes) : Element LcmtestBoolsT where
  encode p :=
    [core.boolean.encodeOne p.oneBool,
      core.boolean.encodeArray p.fixedArray.val 3,
      core.int8.encodeOne p.numA,
      core.int8.encodeOne p.numB,
      core.boolean.encodeArray p.oneDimArray.val p.numA.toInt] ++
    p.twoDimArray.val.flatMap fun row => [core.boolean.encodeArray row.val p.numB.toInt]
  size p :=
    [core.boolean.sizeOne p.oneBool,
      core.boolean.sizeMany p.fixedArray.val 3,
      core.int8.sizeOne p.numA,
      core.int8.sizeOne p.numB,
      core.boolean.sizeMany p.oneDimArray.val p.numA.toInt] ++
    p.twoDimArray.val.flatMap fun row => [core.boolean.sizeMany row.val p.numB.toInt]
  decode := do
    let oneBool ← core.boolean.decodeOne
    let fixedArray ← core.boolean.decodeMany 3
    let numA ← core.int8.decodeOne
    let numB ← core.int8.decodeOne
    core.malloc numA.toInt
    let oneDimArray ← core.boolean.decodeMany numA.toInt
    core.malloc numA.toInt
    let twoDimArray ← Parser.times (do
      core.malloc numB.toInt
      core.boolean.decodeMany numB.toInt) numA.toInt.toNat
    return { oneBool, fixedArray, numA, numB, oneDimArray, twoDimArray }
  hashRecursive := hashOnce .bools fun cp =>
    0x91cff66a81b52b83 +
    core.boolean.hashRecursive cp +
    core.boolean.hashRecursive cp +
    core.int8.hashRecursive cp +
    core.int8.hashRecursive cp +
    core.boolean.hashRecursive cp +
    core.boolean.hashRecursive cp

structure LcmtestByteArrayT where
  numBytes : Int32
  data : Elements UInt8 numBytes.toInt

def lcmtestByteArrayT (core : CoreTypes) : Element LcmtestByteArrayT where
  encode p :=
    [core.int32.encodeOne p.numBytes,
      core.byte.encodeArray p.data.val p.numBytes.toInt]
  size p :=
    [core.int32.sizeOne p.numBytes,
      core.byte.sizeMany p.data.val p.numBytes.toInt]
  decode := do
    let numBytes ← core.int32.decodeOne
    core.malloc numBytes.toInt
    let data ← core.byte.decodeMany numBytes.toInt
    return { numBytes, data }
  hashRecursive := hashOnce .byteArray fun cp =>
    0x870c7477e270debf +
    core.int32.hashRecursive cp +
    core.byte.hashRecursive cp

structure LcmtestCommentsT where
  fieldA : Int8
  fieldB : Int16
  fieldC : Int32
  fieldD : Int64
  fieldE : UInt32
  array : Elements Int32 fieldA.toInt

def lcmtestCommentsT (core : CoreTypes) : Element LcmtestCommentsT where
  encode p :=
    [core.int8.encodeOne p.fieldA,
      core.int16.encodeOne p.fieldB,
      core.int32.encodeOne p.fieldC,
      core.int64.encodeOne p.fieldD,
      core.float.encodeOne p.fieldE,
      core.int32.encodeArray p.array.val p.fieldA.toInt]
  size p :=
    [core.int8.sizeOne p.fieldA,
      core.int16.sizeOne p.fieldB,
      core.int32.sizeOne p.fieldC,
      core.int64.sizeOne p.fieldD,
      core.float.sizeOne p.fieldE,
      core.int32.sizeMany p.array.val p.fieldA.toInt]
  decode := do
    let fieldA ← core.int8.decodeOne
    let fieldB ← core.int16.decodeOne
    let fieldC ← core.int32.decodeOne
    let fieldD ← core.int64.decodeOne
    let fieldE ← core.float.decodeOne
    core.malloc fieldA.toInt
    let array ← core.int32.decodeMany fieldA.toInt
    return { fieldA, fieldB, fieldC, fieldD, fieldE, array }
  hashRecursive := hashOnce .comments fun cp =>
    0x4c8ffa86357c7d7e +
    core.int8.hashRecursive cp +
    core.int16.hashRecursive cp +
    core.int32.hashRecursive cp +
    core.int64.hashRecursive cp +
    core.float.hashRecursive cp +
    core.int32.hashRecursive cp

structure LcmtestExampleconstT where
  myOctet : Int8

def lcmtestExampleconstT (core : CoreTypes) : Element LcmtestExampleconstT where
  encode p := [core.int8.encodeOne p.myOctet]
  size p := [core.int8.sizeOne p.myOctet]
  decode := do
    let myOctet ← core.int8.decodeOne
    return { myOctet }
  hashRecursive := hashOnce .exampleconst fun cp =>
    0x1ea3d29b9ee2e009 +
    core.int8.hashRecursive cp

/-!
## `lcmtest2` and `lcmtest3`
-/

structure Lcmtest2AnotherTypeT where
  val : Int32

def lcmtest2AnotherTypeT (core : CoreTypes) : Element Lcmtest2AnotherTypeT where
  encode p := [core.int32.encodeOne p.val]
  size p := [core.int32.sizeOne p.val]
  decode := do
    let val ← core.int32.decodeOne
    return { val }
  hashRecursive := hashOnce .anotherType fun cp =>
    0xd21b643a1f224c57 +
    core.int32.hashRecursive cp

structure Lcmtest2CrossPackageT where
  primitives : LcmtestPrimitivesT
  another : Lcmtest2AnotherTypeT

def lcmtest2CrossPackageT (core : CoreTypes) : Element Lcmtest2CrossPackageT where
  encode p :=
    [(lcmtestPrimitivesT core).array.encodeOne p.primitives,
      (lcmtest2AnotherTypeT core).array.encodeOne p.another]
  size p :=
    [(lcmtestPrimitivesT core).array.sizeOne p.primitives,
      (lcmtest2AnotherTypeT core).array.sizeOne p.another]
  decode := do
    let primitives ← (lcmtestPrimitivesT core).array.decodeOne
    let another ← (lcmtest2AnotherTypeT core).array.decodeOne
    return { primitives, another }
  hashRecursive := hashOnce .crossPackage fun cp =>
    0xbbd3dd8a23ec1955 +
    (lcmtestPrimitivesT core).hashRecursive cp +
    (lcmtest2AnotherTypeT core).hashRecursive cp

structure Lcmtest3ArraysT where
  arr : Elements Int8 10

def lcmtest3ArraysT (core : CoreTypes) : Element Lcmtest3ArraysT where
  encode p := [core.int8.encodeArray p.arr.val 10]
  size p := [core.int8.sizeMany p.arr.val 10]
  decode := do
    let arr ← core.int8.decodeMany 10
    return { arr }
  hashRecursive := hashOnce .arrays fun cp =>
    0x3f2258e55559faf8 +
    core.int8.hashRecursive cp

/-!
## The types together
-/

def MessageType.Value : MessageType → Type
  | .primitives => LcmtestPrimitivesT
  | .primitivesList => LcmtestPrimitivesListT
  | .multidimArray => LcmtestMultidimArrayT
  | .node => LcmtestNodeT
  | .bools => LcmtestBoolsT
  | .byteArray => LcmtestByteArrayT
  | .comments => LcmtestCommentsT
  | .exampleconst => LcmtestExampleconstT
  | .anotherType => Lcmtest2AnotherTypeT
  | .crossPackage => Lcmtest2CrossPackageT
  | .arrays => Lcmtest3ArraysT

def MessageType.element (core : CoreTypes) : (type : MessageType) → Element type.Value
  | .primitives => lcmtestPrimitivesT core
  | .primitivesList => lcmtestPrimitivesListT core
  | .multidimArray => lcmtestMultidimArrayT core
  | .node => lcmtestNodeT core
  | .bools => lcmtestBoolsT core
  | .byteArray => lcmtestByteArrayT core
  | .comments => lcmtestCommentsT core
  | .exampleconst => lcmtestExampleconstT core
  | .anotherType => lcmtest2AnotherTypeT core
  | .crossPackage => lcmtest2CrossPackageT core
  | .arrays => lcmtest3ArraysT core

end VelaExternal.Lcm

import VelaExternal.Lcm.MessageTypes

/-!
# The format of the message types

The bytes that each message type stands for, and that its functions agree on them: one
element is encoded to these bytes, measured as their number, and decoded from them.
-/

set_option autoImplicit false

namespace VelaExternal.Lcm

open VelaExternal.Systems

/-!
## Rules
-/

section Rules

variable {Value : Type} {functions : ArrayFunctions Value} {element : Element Value}
  {format : Value → List UInt8} {Valid : Value → Prop} {width : Nat}
  {excuse kind : Failure → Prop}

theorem ArrayFunctions.Follows.encodeOne (follows : functions.Follows format Valid excuse)
    {value : Value} (valid : Valid value) :
    (functions.encodeOne value).Writes (format value) := by
  simpa [ArrayFunctions.encodeOne] using
    follows.writes [value] 1 (Nat.le_refl _) (by simpa using valid)

theorem ArrayFunctions.Follows.encodeArray (follows : functions.Follows format Valid excuse)
    {count : Int} (p : Elements Value count) (positive : 0 ≤ count)
    (valid : ∀ value ∈ p.val, Valid value) :
    (functions.encodeArray p.val count).Writes (p.val.flatMap format) := by
  have whole := follows.writes p.val count.toNat (Nat.le_of_eq p.property.symm) valid
  rwa [List.take_of_length_le (Nat.le_of_eq p.property), Int.toNat_of_nonneg positive] at whole

theorem ArrayFunctions.Follows.sizeOne (follows : functions.Follows format Valid excuse)
    {value : Value} (valid : Valid value) : (functions.sizeOne value).Adds (format value) := by
  have one := (follows.size [value] 1 (Nat.le_refl _) (by simpa using valid)).adding
  simpa [ArrayFunctions.sizeOne, ArrayFunctions.sizeMany] using one

theorem ArrayFunctions.Follows.sizeArray (follows : functions.Follows format Valid excuse)
    {count : Int} (p : Elements Value count) (positive : 0 ≤ count)
    (valid : ∀ value ∈ p.val, Valid value) :
    (functions.sizeMany p.val count).Adds (p.val.flatMap format) := by
  have whole := follows.size p.val count.toNat (Nat.le_of_eq p.property.symm) valid
  rw [List.take_of_length_le (Nat.le_of_eq p.property), Int.toNat_of_nonneg positive] at whole
  exact whole.adding

theorem ArrayFunctions.Follows.decodeMany (follows : functions.Follows format Valid excuse)
    {count : Int} (p : Elements Value count) (positive : 0 ≤ count)
    (valid : ∀ value ∈ p.val, Valid value) :
    Parser.Reads Failure.Negative excuse (functions.decodeMany count) (p.val.flatMap format)
      (· = p) :=
  (follows.reads p positive valid).call

theorem ArrayFunctions.Follows.decodeOne (follows : functions.Follows format Valid excuse)
    {value : Value} (valid : Valid value) :
    Parser.Reads Failure.Negative excuse functions.decodeOne (format value) (· = value) := by
  have one := follows.decodeMany (.one value) (by decide) (by simpa [Elements.one] using valid)
  have rest : Parser.Reads Failure.Negative excuse functions.decodeOne
      ((Elements.one value).val.flatMap format ++ []) (· = value) :=
    one.bind fun result same => .pure (by rw [same]; rfl)
  simpa [Elements.one] using rest

theorem ArrayFunctions.Fixed.decodeMany (fixed : functions.Fixed format width) {count : Int}
    (p : Elements Value count) (positive : 0 ≤ count) :
    Parser.Reads Failure.Negative excuse (functions.decodeMany count) (p.val.flatMap format)
      (· = p) :=
  (fixed.reads p positive).excused.call

theorem ArrayFunctions.Fixed.decodeOne (fixed : functions.Fixed format width) (value : Value) :
    Parser.Reads Failure.Negative excuse functions.decodeOne (format value) (· = value) := by
  have rest : Parser.Reads Failure.Negative excuse functions.decodeOne
      ((Elements.one value).val.flatMap format ++ []) (· = value) :=
    (fixed.decodeMany (.one value) (by decide)).bind fun result same => .pure (by rw [same]; rfl)
  simpa [Elements.one] using rest

/-- A block is all that an array of elements needs from `lcm_malloc`. -/
theorem CoreTypes.malloc_reads (core : CoreTypes) (elements : Int) :
    Parser.Reads Failure.Negative core.MallocFails (core.malloc elements) [] fun _ => True where
  fits memory offset maxlen pos within room holds := by
    by_cases granted : elements ≤ 0 ∨ core.lcmMalloc (offset + pos) elements
    · exact .inl ⟨(), trivial, if_pos granted⟩
    · obtain ⟨some, none⟩ := not_or.mp granted
      refine .inr ⟨.undefined, ⟨rfl, offset + pos, elements, Int.not_le.mp some, ?_⟩, ?_⟩
      · exact Bool.not_eq_true _ |>.mp none
      · exact if_neg granted
  short memory offset maxlen pos within start represented more holds := by
    simp only [List.length_nil] at more
    omega

theorem CoreTypes.malloc_ok {core : CoreTypes} {elements : Int} {memory : Memory UInt8}
    {offset maxlen : Int} {pos stop : Nat} {result : Unit}
    (done : core.malloc elements memory offset maxlen pos = .ok (stop, result)) : stop = pos := by
  rw [CoreTypes.malloc] at done
  split at done <;> cases done
  rfl

theorem CoreTypes.malloc_accepts (core : CoreTypes) (elements : Int) :
    Parser.Accepts (core.malloc elements) fun bytes _ => bytes = [] := by
  intro memory offset maxlen pos stop value within start done
  obtain rfl := core.malloc_ok done
  exact ⟨start, [], rfl, holds_nil memory _, rfl⟩

theorem ArrayFunctions.Fixed.acceptsMany (fixed : functions.Fixed format width) {count : Int}
    (positive : 0 ≤ count) (small : width * count < 2 ^ 31) :
    Parser.Accepts (functions.decodeMany count) fun bytes p => bytes = p.val.flatMap format := by
  refine .call fun memory offset maxlen read p within done => ?_
  obtain ⟨ends, length, held⟩ := fixed.accepts _ _ _ _ _ _ positive small within done
  exact ⟨ends, _, length, held, rfl⟩

theorem ArrayFunctions.Fixed.acceptsOne (fixed : functions.Fixed format width) :
    Parser.Accepts functions.decodeOne fun bytes value => bytes = format value := by
  have narrow := fixed.narrow
  refine (fixed.acceptsMany (by decide) (by omega)).bind fun xs p one => .pure ?_
  match p, one with
  | ⟨[value], _⟩, one => simpa [Elements.only] using one

theorem ArrayFunctions.Fixed.decodeOne_ok (fixed : functions.Fixed format width)
    {memory : Memory UInt8} {offset maxlen : Int} {pos stop : Nat} {value : Value}
    (within : Window offset maxlen) (inside : pos ≤ maxlen)
    (done : functions.decodeOne memory offset maxlen pos = .ok (stop, value)) :
    stop = pos + width ∧ (stop : Int) ≤ maxlen := by
  obtain ⟨ends, bytes, rfl, _, rfl⟩ := fixed.acceptsOne _ _ _ _ _ _ within inside done
  rw [fixed.sized] at ends ⊢
  exact ⟨rfl, ends⟩

theorem ArrayFunctions.Fixed.rejectsMany (fixed : functions.Fixed format width) {count : Int}
    (positive : 0 ≤ count) (small : width * count < 2 ^ 31) {memory : Memory UInt8}
    {offset maxlen : Int} (within : Window offset maxlen) (start : Nat) :
    Parser.Rejects Failure.Negative memory offset maxlen start (functions.decodeMany count) := by
  intro pos failure after inside failed
  rw [ArrayFunctions.decodeMany, Parser.call_eq_error_iff] at failed
  exact fixed.rejects _ _ _ _ _ positive small (within.rest (Int.natCast_nonneg pos) inside) failed

theorem ArrayFunctions.Fixed.rejectsOne (fixed : functions.Fixed format width)
    {memory : Memory UInt8} {offset maxlen : Int} (within : Window offset maxlen) (start : Nat) :
    Parser.Rejects Failure.Negative memory offset maxlen start functions.decodeOne := by
  have narrow := fixed.narrow
  exact .bind within (fixed.acceptsMany (by decide) (by omega))
    (fixed.rejectsMany (by decide) (by omega) within start) fun _ _ _ => .pure

/-- One element is marshalled as `format` says. -/
structure Element.Follows (element : Element Value) (format : Value → List UInt8)
    (Valid : Value → Prop) (excuse : Failure → Prop) : Prop where
  encode : ∀ p, Valid p → Pieces Encoder.Writes (element.encode p) (format p)
  size : ∀ p, Valid p → Pieces Sizer.Adds (element.size p) (format p)
  decode : ∀ p, Valid p →
    Parser.Reads Failure.Negative excuse element.decode (format p) (· = p)

/-- The loops over the elements. -/
theorem Element.Follows.array (follows : element.Follows format Valid excuse) :
    element.array.Follows format Valid excuse where
  size p elements short valid := by
    refine Pieces.sizeAll (.flatMap fun value member => ?_)
    exact follows.size value (valid value (List.mem_of_mem_take member))
  writes p elements short valid := by
    refine Pieces.encodeAll (.flatMap fun value member => ?_)
    exact follows.encode value (valid value (List.mem_of_mem_take member))
  reads p positive valid := by
    exact (Parser.Reads.times_eq p fun value member =>
      follows.decode value (valid value member)).run

theorem Element.acceptsOne (accepts : Parser.Accepts element.decode fun bytes p =>
      bytes = format p ∧ Valid p) :
    Parser.Accepts element.array.decodeOne fun bytes p => bytes = format p ∧ Valid p := by
  have many : Parser.Accepts (element.array.decodeMany 1) fun bytes p =>
      bytes = p.val.flatMap format ∧ ∀ value ∈ p.val, Valid value :=
    .call fun memory offset maxlen read p within done =>
      (accepts.times 1).run memory offset maxlen read p within done
  refine many.bind fun xs p one => .pure ?_
  match p, one with
  | ⟨[value], _⟩, one => simpa [Elements.only] using one

theorem Element.rejectsOne (accepts : Parser.Accepts element.decode fun bytes p =>
      bytes = format p ∧ Valid p)
    (rejects : ∀ {memory offset maxlen}, Window offset maxlen →
      Parser.Rejects kind memory offset maxlen 0 element.decode)
    {memory : Memory UInt8} {offset maxlen : Int} (within : Window offset maxlen) (start : Nat) :
    Parser.Rejects kind memory offset maxlen start element.array.decodeOne := by
  intro pos failure after inside failed
  change Parser.bind (Parser.call _) _ memory offset maxlen pos = _ at failed
  simp only [Parser.bind, Parser.call] at failed
  have left := within.rest (Int.natCast_nonneg pos) inside
  cases step : element.array.decodeArray 1 memory (offset + pos) (maxlen - pos) with
  | error early =>
      rw [step] at failed
      cases failed
      exact Parser.Rejects.times left accepts (rejects left) 1 0 failure (Nat.le_refl 0)
        left.nonneg step
  | ok result =>
      rw [step] at failed
      cases failed

end Rules

/-!
## `lcmtest`
-/

section Formats

variable (wire : Wire)

def LcmtestPrimitivesT.format (p : LcmtestPrimitivesT) : List UInt8 :=
  [wire.int8 p.i8, wire.int16 p.i16, wire.int32 p.numRanges, wire.int64 p.i64,
    p.ranges.val.flatMap wire.int16, p.position.val.flatMap wire.float,
    p.orientation.val.flatMap wire.double, wire.string p.name, wire.boolean p.enabled].flatten

def LcmtestPrimitivesT.Valid (p : LcmtestPrimitivesT) : Prop := 0 ≤ p.numRanges.toInt

def LcmtestPrimitivesListT.format (p : LcmtestPrimitivesListT) : List UInt8 :=
  [wire.int32 p.numItems, p.items.val.flatMap (LcmtestPrimitivesT.format wire)].flatten

def LcmtestPrimitivesListT.Valid (p : LcmtestPrimitivesListT) : Prop :=
  0 ≤ p.numItems.toInt ∧ ∀ item ∈ p.items.val, item.Valid

def LcmtestMultidimArrayT.format (p : LcmtestMultidimArrayT) : List UInt8 :=
  [wire.int32 p.sizeA, wire.int32 p.sizeB, wire.int32 p.sizeC,
    p.data.val.flatMap fun plane => plane.val.flatMap fun row => row.val.flatMap wire.int32,
    p.strarray.val.flatMap fun row => row.val.flatMap wire.string].flatten

def LcmtestMultidimArrayT.Valid (p : LcmtestMultidimArrayT) : Prop :=
  0 ≤ p.sizeA.toInt ∧ 0 ≤ p.sizeB.toInt ∧ 0 ≤ p.sizeC.toInt

def LcmtestBoolsT.format (p : LcmtestBoolsT) : List UInt8 :=
  [wire.boolean p.oneBool, p.fixedArray.val.flatMap wire.boolean, wire.int8 p.numA,
    wire.int8 p.numB, p.oneDimArray.val.flatMap wire.boolean,
    p.twoDimArray.val.flatMap fun row => row.val.flatMap wire.boolean].flatten

def LcmtestBoolsT.Valid (p : LcmtestBoolsT) : Prop := 0 ≤ p.numA.toInt ∧ 0 ≤ p.numB.toInt

def LcmtestByteArrayT.format (p : LcmtestByteArrayT) : List UInt8 :=
  [wire.int32 p.numBytes, p.data.val.flatMap wire.byte].flatten

def LcmtestByteArrayT.Valid (p : LcmtestByteArrayT) : Prop := 0 ≤ p.numBytes.toInt

def LcmtestCommentsT.format (p : LcmtestCommentsT) : List UInt8 :=
  [wire.int8 p.fieldA, wire.int16 p.fieldB, wire.int32 p.fieldC, wire.int64 p.fieldD,
    wire.float p.fieldE, p.array.val.flatMap wire.int32].flatten

def LcmtestCommentsT.Valid (p : LcmtestCommentsT) : Prop := 0 ≤ p.fieldA.toInt

def LcmtestExampleconstT.format (p : LcmtestExampleconstT) : List UInt8 := wire.int8 p.myOctet

def Lcmtest2AnotherTypeT.format (p : Lcmtest2AnotherTypeT) : List UInt8 := wire.int32 p.val

def Lcmtest2CrossPackageT.format (p : Lcmtest2CrossPackageT) : List UInt8 :=
  [p.primitives.format wire, p.another.format wire].flatten

def Lcmtest2CrossPackageT.Valid (p : Lcmtest2CrossPackageT) : Prop := p.primitives.Valid

def Lcmtest3ArraysT.format (p : Lcmtest3ArraysT) : List UInt8 := p.arr.val.flatMap wire.int8

end Formats

section Types

variable {core : CoreTypes} {wire : Wire} (lawful : core.Lawful wire)

theorem trivially {Value : Type} (values : List Value) : ∀ value ∈ values, True :=
  fun _ _ => trivial

include lawful

theorem LcmtestPrimitivesT.follows :
    (lcmtestPrimitivesT core).Follows (LcmtestPrimitivesT.format wire) Valid core.MallocFails where
  encode p valid := by
    refine Pieces.flatten (.cons ?_ (.cons ?_ (.cons ?_ (.cons ?_ (.cons ?_ (.cons ?_
      (.cons ?_ (.cons ?_ (.cons ?_ .nil)))))))))
    · exact lawful.int8.follows.encodeOne trivial
    · exact lawful.int16.follows.encodeOne trivial
    · exact lawful.int32.follows.encodeOne trivial
    · exact lawful.int64.follows.encodeOne trivial
    · exact lawful.int16.follows.encodeArray p.ranges valid (trivially _)
    · exact lawful.float.follows.encodeArray p.position (by decide) (trivially _)
    · exact lawful.double.follows.encodeArray p.orientation (by decide) (trivially _)
    · exact lawful.string.encodeOne trivial
    · exact lawful.boolean.follows.encodeOne trivial
  size p valid := by
    refine Pieces.flatten (.cons ?_ (.cons ?_ (.cons ?_ (.cons ?_ (.cons ?_ (.cons ?_
      (.cons ?_ (.cons ?_ (.cons ?_ .nil)))))))))
    · exact lawful.int8.follows.sizeOne trivial
    · exact lawful.int16.follows.sizeOne trivial
    · exact lawful.int32.follows.sizeOne trivial
    · exact lawful.int64.follows.sizeOne trivial
    · exact lawful.int16.follows.sizeArray p.ranges valid (trivially _)
    · exact lawful.float.follows.sizeArray p.position (by decide) (trivially _)
    · exact lawful.double.follows.sizeArray p.orientation (by decide) (trivially _)
    · exact lawful.string.sizeOne trivial
    · exact lawful.boolean.follows.sizeOne trivial
  decode p valid := by
    refine (lawful.int8.decodeOne _).bind fun _ i8 => ?_
    refine (lawful.int16.decodeOne _).bind fun _ i16 => ?_
    refine (lawful.int32.decodeOne _).bind fun _ numRanges => ?_
    refine (lawful.int64.decodeOne _).bind fun _ i64 => ?_
    subst numRanges
    refine (core.malloc_reads _).then fun _ _ => ?_
    refine (lawful.int16.decodeMany p.ranges valid).bind fun _ ranges => ?_
    refine (lawful.float.decodeMany p.position (by decide)).bind
      fun _ position => ?_
    refine (lawful.double.decodeMany p.orientation (by decide)).bind
      fun _ orientation => ?_
    refine (lawful.string.decodeOne trivial).bind fun _ name => ?_
    refine (lawful.boolean.decodeOne _).bind fun _ enabled => ?_
    subst i8 i16 i64 ranges position orientation name enabled
    exact .pure rfl

theorem LcmtestPrimitivesListT.follows :
    (lcmtestPrimitivesListT core).Follows (LcmtestPrimitivesListT.format wire) Valid
      core.MallocFails where
  encode p valid := by
    refine Pieces.flatten (.cons ?_ (.cons ?_ .nil))
    · exact lawful.int32.follows.encodeOne trivial
    · exact (LcmtestPrimitivesT.follows lawful).array.encodeArray p.items valid.1 valid.2
  size p valid := by
    refine Pieces.flatten (.cons ?_ (.cons ?_ .nil))
    · exact lawful.int32.follows.sizeOne trivial
    · exact (LcmtestPrimitivesT.follows lawful).array.sizeArray p.items valid.1 valid.2
  decode p valid := by
    refine (lawful.int32.decodeOne _).bind fun _ numItems => ?_
    subst numItems
    refine (core.malloc_reads _).then fun _ _ => ?_
    refine ((LcmtestPrimitivesT.follows lawful).array.decodeMany p.items valid.1 valid.2).bind
      fun _ items => ?_
    subst items
    exact .pure rfl

theorem LcmtestMultidimArrayT.follows :
    (lcmtestMultidimArrayT core).Follows (LcmtestMultidimArrayT.format wire) Valid
      core.MallocFails where
  encode p valid := by
    have sizes : Pieces Encoder.Writes
        [core.int32.encodeOne p.sizeA, core.int32.encodeOne p.sizeB, core.int32.encodeOne p.sizeC]
        [wire.int32 p.sizeA, wire.int32 p.sizeB, wire.int32 p.sizeC].flatten :=
      .flatten (.cons (lawful.int32.follows.encodeOne trivial)
        (.cons (lawful.int32.follows.encodeOne trivial)
          (.cons (lawful.int32.follows.encodeOne trivial) .nil)))
    have data : Pieces Encoder.Writes
        (p.data.val.flatMap fun plane => plane.val.flatMap fun row =>
          [core.int32.encodeArray row.val p.sizeC.toInt])
        (p.data.val.flatMap fun plane => plane.val.flatMap fun row =>
          row.val.flatMap wire.int32) :=
      .flatMap fun _ _ => .flatMap fun row _ =>
        .single (lawful.int32.follows.encodeArray row valid.2.2 (trivially _))
    have strarray : Pieces Encoder.Writes
        (p.strarray.val.flatMap fun row => [core.string.encodeArray row.val p.sizeC.toInt])
        (p.strarray.val.flatMap fun row => row.val.flatMap wire.string) :=
      .flatMap fun row _ => .single (lawful.string.encodeArray row valid.2.2 (trivially _))
    simpa [lcmtestMultidimArrayT, format] using (sizes.append data).append strarray
  size p valid := by
    have sizes : Pieces Sizer.Adds
        [core.int32.sizeOne p.sizeA, core.int32.sizeOne p.sizeB, core.int32.sizeOne p.sizeC]
        [wire.int32 p.sizeA, wire.int32 p.sizeB, wire.int32 p.sizeC].flatten :=
      .flatten (.cons (lawful.int32.follows.sizeOne trivial)
        (.cons (lawful.int32.follows.sizeOne trivial)
          (.cons (lawful.int32.follows.sizeOne trivial) .nil)))
    have data : Pieces Sizer.Adds
        (p.data.val.flatMap fun plane => plane.val.flatMap fun row =>
          [core.int32.sizeMany row.val p.sizeC.toInt])
        (p.data.val.flatMap fun plane => plane.val.flatMap fun row =>
          row.val.flatMap wire.int32) :=
      .flatMap fun _ _ => .flatMap fun row _ =>
        .single (lawful.int32.follows.sizeArray row valid.2.2 (trivially _))
    have strarray : Pieces Sizer.Adds
        (p.strarray.val.flatMap fun row => [core.string.sizeMany row.val p.sizeC.toInt])
        (p.strarray.val.flatMap fun row => row.val.flatMap wire.string) :=
      .flatMap fun row _ => .single (lawful.string.sizeArray row valid.2.2 (trivially _))
    simpa [lcmtestMultidimArrayT, format] using (sizes.append data).append strarray
  decode p valid := by
    refine (lawful.int32.decodeOne _).bind fun _ sizeA => ?_
    refine (lawful.int32.decodeOne _).bind fun _ sizeB => ?_
    refine (lawful.int32.decodeOne _).bind fun _ sizeC => ?_
    subst sizeA sizeB sizeC
    refine (core.malloc_reads _).then fun _ _ => ?_
    have data : Parser.Reads Failure.Negative core.MallocFails _
        (p.data.val.flatMap fun plane => plane.val.flatMap fun row =>
          row.val.flatMap wire.int32) (· = p.data) :=
      .times_eq p.data fun plane _ => (core.malloc_reads p.sizeB.toInt).then fun _ _ =>
        .times_eq plane fun row _ => (core.malloc_reads p.sizeC.toInt).then fun _ _ =>
          lawful.int32.decodeMany row valid.2.2
    refine data.bind fun _ data => ?_
    refine (core.malloc_reads _).then fun _ _ => ?_
    have strarray : Parser.Reads Failure.Negative core.MallocFails _
        (p.strarray.val.flatMap fun row => row.val.flatMap wire.string) (· = p.strarray) :=
      .times_eq p.strarray fun row _ => (core.malloc_reads p.sizeC.toInt).then fun _ _ =>
        lawful.string.decodeMany row valid.2.2 (trivially _)
    refine strarray.bind fun _ strarray => ?_
    subst data strarray
    exact .pure rfl

theorem LcmtestBoolsT.follows :
    (lcmtestBoolsT core).Follows (LcmtestBoolsT.format wire) Valid core.MallocFails where
  encode p valid := by
    have flags : Pieces Encoder.Writes
        [core.boolean.encodeOne p.oneBool, core.boolean.encodeArray p.fixedArray.val 3,
          core.int8.encodeOne p.numA, core.int8.encodeOne p.numB,
          core.boolean.encodeArray p.oneDimArray.val p.numA.toInt]
        [wire.boolean p.oneBool, p.fixedArray.val.flatMap wire.boolean, wire.int8 p.numA,
          wire.int8 p.numB, p.oneDimArray.val.flatMap wire.boolean].flatten := by
      refine .flatten (.cons ?_ (.cons ?_ (.cons ?_ (.cons ?_ (.cons ?_ .nil)))))
      · exact lawful.boolean.follows.encodeOne trivial
      · exact lawful.boolean.follows.encodeArray p.fixedArray (by decide) (trivially _)
      · exact lawful.int8.follows.encodeOne trivial
      · exact lawful.int8.follows.encodeOne trivial
      · exact lawful.boolean.follows.encodeArray p.oneDimArray valid.1 (trivially _)
    have rows : Pieces Encoder.Writes
        (p.twoDimArray.val.flatMap fun row => [core.boolean.encodeArray row.val p.numB.toInt])
        (p.twoDimArray.val.flatMap fun row => row.val.flatMap wire.boolean) :=
      .flatMap fun row _ =>
        .single (lawful.boolean.follows.encodeArray row valid.2 (trivially _))
    simpa [lcmtestBoolsT, format] using flags.append rows
  size p valid := by
    have flags : Pieces Sizer.Adds
        [core.boolean.sizeOne p.oneBool, core.boolean.sizeMany p.fixedArray.val 3,
          core.int8.sizeOne p.numA, core.int8.sizeOne p.numB,
          core.boolean.sizeMany p.oneDimArray.val p.numA.toInt]
        [wire.boolean p.oneBool, p.fixedArray.val.flatMap wire.boolean, wire.int8 p.numA,
          wire.int8 p.numB, p.oneDimArray.val.flatMap wire.boolean].flatten := by
      refine .flatten (.cons ?_ (.cons ?_ (.cons ?_ (.cons ?_ (.cons ?_ .nil)))))
      · exact lawful.boolean.follows.sizeOne trivial
      · exact lawful.boolean.follows.sizeArray p.fixedArray (by decide) (trivially _)
      · exact lawful.int8.follows.sizeOne trivial
      · exact lawful.int8.follows.sizeOne trivial
      · exact lawful.boolean.follows.sizeArray p.oneDimArray valid.1 (trivially _)
    have rows : Pieces Sizer.Adds
        (p.twoDimArray.val.flatMap fun row => [core.boolean.sizeMany row.val p.numB.toInt])
        (p.twoDimArray.val.flatMap fun row => row.val.flatMap wire.boolean) :=
      .flatMap fun row _ => .single (lawful.boolean.follows.sizeArray row valid.2 (trivially _))
    simpa [lcmtestBoolsT, format] using flags.append rows
  decode p valid := by
    refine (lawful.boolean.decodeOne _).bind fun _ oneBool => ?_
    refine (lawful.boolean.decodeMany p.fixedArray (by decide)).bind
      fun _ fixedArray => ?_
    refine (lawful.int8.decodeOne _).bind fun _ numA => ?_
    refine (lawful.int8.decodeOne _).bind fun _ numB => ?_
    subst numA numB
    refine (core.malloc_reads _).then fun _ _ => ?_
    refine (lawful.boolean.decodeMany p.oneDimArray valid.1).bind
      fun _ oneDimArray => ?_
    refine (core.malloc_reads _).then fun _ _ => ?_
    have rows : Parser.Reads Failure.Negative core.MallocFails _
        (p.twoDimArray.val.flatMap fun row => row.val.flatMap wire.boolean)
        (· = p.twoDimArray) :=
      .times_eq p.twoDimArray fun row _ => (core.malloc_reads p.numB.toInt).then fun _ _ =>
        lawful.boolean.decodeMany row valid.2
    refine rows.bind fun _ twoDimArray => ?_
    subst oneBool fixedArray oneDimArray twoDimArray
    exact .pure rfl

theorem LcmtestByteArrayT.follows :
    (lcmtestByteArrayT core).Follows (LcmtestByteArrayT.format wire) Valid core.MallocFails where
  encode p valid := by
    refine Pieces.flatten (.cons ?_ (.cons ?_ .nil))
    · exact lawful.int32.follows.encodeOne trivial
    · exact lawful.byte.follows.encodeArray p.data valid (trivially _)
  size p valid := by
    refine Pieces.flatten (.cons ?_ (.cons ?_ .nil))
    · exact lawful.int32.follows.sizeOne trivial
    · exact lawful.byte.follows.sizeArray p.data valid (trivially _)
  decode p valid := by
    refine (lawful.int32.decodeOne _).bind fun _ numBytes => ?_
    subst numBytes
    refine (core.malloc_reads _).then fun _ _ => ?_
    refine (lawful.byte.decodeMany p.data valid).bind fun _ data => ?_
    subst data
    exact .pure rfl

theorem LcmtestCommentsT.follows :
    (lcmtestCommentsT core).Follows (LcmtestCommentsT.format wire) Valid core.MallocFails where
  encode p valid := by
    refine Pieces.flatten
      (.cons ?_ (.cons ?_ (.cons ?_ (.cons ?_ (.cons ?_ (.cons ?_ .nil))))))
    · exact lawful.int8.follows.encodeOne trivial
    · exact lawful.int16.follows.encodeOne trivial
    · exact lawful.int32.follows.encodeOne trivial
    · exact lawful.int64.follows.encodeOne trivial
    · exact lawful.float.follows.encodeOne trivial
    · exact lawful.int32.follows.encodeArray p.array valid (trivially _)
  size p valid := by
    refine Pieces.flatten
      (.cons ?_ (.cons ?_ (.cons ?_ (.cons ?_ (.cons ?_ (.cons ?_ .nil))))))
    · exact lawful.int8.follows.sizeOne trivial
    · exact lawful.int16.follows.sizeOne trivial
    · exact lawful.int32.follows.sizeOne trivial
    · exact lawful.int64.follows.sizeOne trivial
    · exact lawful.float.follows.sizeOne trivial
    · exact lawful.int32.follows.sizeArray p.array valid (trivially _)
  decode p valid := by
    refine (lawful.int8.decodeOne _).bind fun _ fieldA => ?_
    refine (lawful.int16.decodeOne _).bind fun _ fieldB => ?_
    refine (lawful.int32.decodeOne _).bind fun _ fieldC => ?_
    refine (lawful.int64.decodeOne _).bind fun _ fieldD => ?_
    refine (lawful.float.decodeOne _).bind fun _ fieldE => ?_
    subst fieldA
    refine (core.malloc_reads _).then fun _ _ => ?_
    refine (lawful.int32.decodeMany p.array valid).bind fun _ array => ?_
    subst fieldB fieldC fieldD fieldE array
    exact .pure rfl

theorem LcmtestExampleconstT.follows :
    (lcmtestExampleconstT core).Follows (LcmtestExampleconstT.format wire) (fun _ => True)
      core.MallocFails where
  encode p _ := .single (lawful.int8.follows.encodeOne trivial)
  size p _ := .single (lawful.int8.follows.sizeOne trivial)
  decode p _ := by
    have read : Parser.Reads Failure.Negative core.MallocFails (lcmtestExampleconstT core).decode
        (wire.int8 p.myOctet ++ []) (· = p) :=
      (lawful.int8.decodeOne _).bind fun _ myOctet => .pure (by rw [myOctet])
    rwa [List.append_nil] at read

/-!
## `lcmtest2` and `lcmtest3`
-/

theorem Lcmtest2AnotherTypeT.follows :
    (lcmtest2AnotherTypeT core).Follows (Lcmtest2AnotherTypeT.format wire) (fun _ => True)
      core.MallocFails where
  encode p _ := .single (lawful.int32.follows.encodeOne trivial)
  size p _ := .single (lawful.int32.follows.sizeOne trivial)
  decode p _ := by
    have read : Parser.Reads Failure.Negative core.MallocFails (lcmtest2AnotherTypeT core).decode
        (wire.int32 p.val ++ []) (· = p) :=
      (lawful.int32.decodeOne _).bind fun _ val => .pure (by rw [val])
    rwa [List.append_nil] at read

theorem Lcmtest2CrossPackageT.follows :
    (lcmtest2CrossPackageT core).Follows (Lcmtest2CrossPackageT.format wire) Valid
      core.MallocFails where
  encode p valid := by
    refine Pieces.flatten (.cons ?_ (.cons ?_ .nil))
    · exact (LcmtestPrimitivesT.follows lawful).array.encodeOne valid
    · exact (Lcmtest2AnotherTypeT.follows lawful).array.encodeOne trivial
  size p valid := by
    refine Pieces.flatten (.cons ?_ (.cons ?_ .nil))
    · exact (LcmtestPrimitivesT.follows lawful).array.sizeOne valid
    · exact (Lcmtest2AnotherTypeT.follows lawful).array.sizeOne trivial
  decode p valid := by
    refine ((LcmtestPrimitivesT.follows lawful).array.decodeOne valid).bind
      fun _ primitives => ?_
    refine ((Lcmtest2AnotherTypeT.follows lawful).array.decodeOne trivial).bind
      fun _ another => ?_
    subst primitives another
    exact .pure rfl

theorem Lcmtest3ArraysT.follows :
    (lcmtest3ArraysT core).Follows (Lcmtest3ArraysT.format wire) (fun _ => True)
      core.MallocFails where
  encode p _ := .single (lawful.int8.follows.encodeArray p.arr (by decide) (trivially _))
  size p _ := .single (lawful.int8.follows.sizeArray p.arr (by decide) (trivially _))
  decode p _ := by
    have read : Parser.Reads Failure.Negative core.MallocFails (lcmtest3ArraysT core).decode
        (p.arr.val.flatMap wire.int8 ++ []) (· = p) :=
      (lawful.int8.decodeMany p.arr (by decide)).bind
        fun _ arr => .pure (by rw [arr])
    rwa [List.append_nil] at read

end Types

end VelaExternal.Lcm

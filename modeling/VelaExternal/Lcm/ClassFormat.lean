import VelaExternal.Lcm.MessageClasses
import VelaExternal.Lcm.MessageFormat

/-!
# The format of the classes

An object represents a value of the C type if its fields are the same, as far as the counts
go: a vector may be longer. The methods marshal the object as the functions in C marshal
that value.
-/

set_option autoImplicit false

namespace VelaExternal.Lcm

open VelaExternal.Systems

/-!
## Rules
-/

section Rules

variable {Value : Type} {functions : ArrayFunctions Value} {format : Value → List UInt8}
  {Valid : Value → Prop} {excuse : Failure → Prop} {width : Nat}

theorem Elements.eq_nil {count : Int} (p : Elements Value count) (none : count = 0) :
    p.val = [] := by
  apply List.eq_nil_of_length_eq_zero
  rw [p.property, none]
  rfl

/-- Without columns there is nothing in the rows. -/
theorem flatMap_rows_eq_nil {count : Int} (none : count = 0) (rows : List (Elements Value count)) :
    (rows.flatMap fun row => row.val.flatMap format) = [] := by
  rw [List.flatMap_eq_nil_iff]
  intro row _
  rw [row.eq_nil none]
  rfl

theorem ArrayFunctions.Follows.encodePart (follows : functions.Follows format Valid excuse)
    {count : Int} (p : Elements Value count) (positive : 0 ≤ count) {vector : List Value}
    (same : vector.take count.toNat = p.val) (valid : ∀ value ∈ vector, Valid value) :
    (functions.encodeArray vector count).Writes (p.val.flatMap format) := by
  have enough : count.toNat ≤ vector.length := by
    have length := congrArg List.length same
    rw [List.length_take, p.property] at length
    omega
  have writes := follows.writes vector count.toNat enough valid
  rwa [same, Int.toNat_of_nonneg positive] at writes

theorem ArrayFunctions.Follows.encodeVector (follows : functions.Follows format Valid excuse)
    {count : Int} (p : Elements Value count) (positive : 0 ≤ count) {vector : List Value}
    (same : vector.take count.toNat = p.val) (valid : ∀ value ∈ vector, Valid value) :
    Pieces Encoder.Writes (if count > 0 then [functions.encodeArray vector count] else [])
      (p.val.flatMap format) := by
  by_cases some : count > 0
  · rw [if_pos some]
    exact .single (follows.encodePart p positive same valid)
  · rw [if_neg some, p.eq_nil (by omega)]
    exact .nil

/-- The size of an array of numbers is computed without the array. -/
theorem ArrayFunctions.Fixed.sizeNull (fixed : functions.Fixed format width) {count : Int}
    (p : Elements Value count) (positive : 0 ≤ count) :
    (functions.sizeMany [] count).Adds (p.val.flatMap format) := by
  refine Measures.adding fun represented => ?_
  rw [length_flatMap_format fixed.sized, p.property] at represented ⊢
  have size := fixed.size [] count.toNat represented
  rw [Int.toNat_of_nonneg positive] at size
  rw [size, Int.natCast_mul, Int.toNat_of_nonneg positive]

/-- The size of a row is multiplied by the number of the rows. -/
theorem ArrayFunctions.Fixed.sizeRows (fixed : functions.Fixed format width) {count : Int}
    (rows : List (Elements Value count)) (positive : 0 ≤ count) (small : width * count < 2 ^ 31) :
    Measures (product (some (rows.length : Int)) (functions.encodedArraySize [] count))
      (rows.flatMap fun row => row.val.flatMap format) := by
  have width_row (row : Elements Value count) : (row.val.flatMap format).length =
      width * count.toNat := by
    rw [length_flatMap_format fixed.sized, row.property]
  have represented : width * count.toNat < 2 ^ 31 := by
    rw [← Int.toNat_of_nonneg positive] at small
    exact_mod_cast small
  have size := fixed.size [] count.toNat represented
  rw [Int.toNat_of_nonneg positive] at size
  have bytes : ((width * count.toNat * rows.length : Nat) : Int) =
      rows.length * (width * count) := by
    rw [Int.natCast_mul, Int.natCast_mul, Int.toNat_of_nonneg positive, Int.mul_comm]
  intro short
  rw [length_flatMap_format width_row] at short ⊢
  rw [size, bytes]
  refine product_eq (Int.natCast_nonneg _) (Int.mul_nonneg (Int.natCast_nonneg _) positive) ?_
  rw [← bytes]
  exact_mod_cast short

theorem ArrayFunctions.Fixed.sizeNullOne (fixed : functions.Fixed format width) (value : Value) :
    (functions.sizeMany [] 1).Adds (format value) := by
  simpa [Elements.one] using fixed.sizeNull (.one value) (by decide)

variable (core : CoreTypes)

theorem CoreTypes.resize_reads [Inhabited Value] {failed : Failure}
    (caught : failed = .thrown ∨ failed = .returned (-1)) {count : Int} (positive : 0 ≤ count)
    (vector : List Value) :
    Parser.Reads Failure.Negative core.NewFails (core.resize failed count vector) []
      fun result => result.length = count.toNat where
  fits memory offset maxlen pos within room holds := by
    by_cases granted : count ≤ vector.length ∨ core.operatorNew (offset + pos) count
    · refine .inl ⟨_, ?_, if_pos ⟨positive, granted⟩⟩
      rw [List.length_append, List.length_replicate, List.length_take]
      omega
    · obtain ⟨longer, none⟩ := not_or.mp granted
      refine .inr ⟨failed, ⟨caught, offset + pos, count, by omega, ?_⟩, ?_⟩
      · exact Bool.not_eq_true _ |>.mp none
      · exact if_neg fun both => granted both.2
  short memory offset maxlen pos within start represented more holds := by
    simp only [List.length_nil] at more
    omega

theorem CoreTypes.getVector_reads [Inhabited Value] (fixed : functions.Fixed format width)
    {count : Int} (p : Elements Value count) (positive : 0 ≤ count) (vector : List Value) :
    Parser.Reads Failure.Negative core.NewFails (core.getVector functions count vector)
      (p.val.flatMap format) fun result => result.take count.toNat = p.val := by
  by_cases none : count = 0
  · rw [CoreTypes.getVector, if_pos none, p.eq_nil none]
    exact .pure (by rw [none]; rfl)
  · rw [CoreTypes.getVector, if_neg none]
    refine (core.resize_reads (.inl rfl) positive vector).then fun _ _ => ?_
    rw [← List.append_nil (p.val.flatMap format)]
    refine (fixed.decodeMany p positive).bind fun values same => .pure ?_
    rw [same, List.take_of_length_le (Nat.le_of_eq p.property)]

theorem StdString.cStr_eq {text : StdString} {p : LcmString} (same : text.chars = p.chars) :
    text.cStr = p := by
  apply LcmString.ext
  change before text.chars 0 = p.chars
  rw [same, p.before_chars]

variable {core} {wire : Wire} (lawful : core.Lawful wire)

include lawful

theorem length_string (p : LcmString) : (wire.string p).length = 4 + (p.chars.length + 1) := by
  rw [Wire.string, List.length_append, lawful.int32.sized, List.length_append,
    List.length_singleton]

theorem StdString.addSize_adds {text : StdString} {p : LcmString} (same : text.chars = p.chars) :
    text.addSize.Adds (wire.string p) := by
  intro total start short
  rw [length_string lawful] at short ⊢
  rw [StdString.addSize, same, Int.bmod_eq_of_le (by omega) (by omega)]
  refine congrArg some ?_
  omega

theorem CoreTypes.getString_reads (p : LcmString) :
    Parser.Reads Failure.Negative core.NewFails core.getString (wire.string p) fun text =>
      text.chars = p.chars := by
  refine (lawful.int32.decodeOne _).bind fun length same => ?_
  have exact : length.toInt = (p.chars.length + 1 : Nat) := by
    rw [same]
    exact Int32.toInt_ofNat_of_lt p.short
  constructor
  · intro memory offset maxlen pos within room holds
    rw [List.length_append, List.length_singleton] at room ⊢
    rw [if_neg (by omega), if_neg (by omega)]
    by_cases granted : length.toInt = 1 ∨ 1 < length.toInt ∧
        core.operatorNew (offset + pos) (length.toInt - 1)
    · have count : (length.toInt - 1).toNat = p.chars.length := by omega
      refine .inl ⟨.assign memory (offset + pos) length, ?_, ?_⟩
      · change window memory (offset + pos) (length.toInt - 1).toNat = p.chars
        rw [count]
        exact holds_iff_window.mp (holds_append.mp holds).1
      · rw [if_pos granted, exact, Int.toNat_natCast]
    · obtain ⟨other, none⟩ := not_or.mp granted
      have some : 1 < length.toInt := by omega
      refine .inr ⟨.thrown, ⟨.inl rfl, offset + pos, length.toInt - 1, by omega, ?_⟩,
        if_neg granted⟩
      exact Bool.not_eq_true _ |>.mp fun new => none ⟨some, new⟩
  · intro memory offset maxlen pos within start represented more holds
    rw [List.length_append, List.length_singleton] at more
    exact ⟨.returned (-1), .inl Failure.minusOne_negative, by rw [if_pos (by omega)]⟩

end Rules

section Methods

variable {Class Value : Type}

/-- The methods of an object marshal the value that it represents. -/
structure Methods.Follows (methods : Methods Class) (format : Value → List UInt8)
    (Represents : Class → Value → Prop) (Valid Sized : Value → Prop) (excuse : Failure → Prop) :
    Prop where
  encode : ∀ this p, Represents this p → Valid p →
    Pieces Encoder.Writes (methods.encodeNoHash this) (format p)
  size : ∀ this p, Represents this p → Valid p → Sized p →
    Pieces Sizer.Adds (methods.getEncodedSizeNoHash this) (format p)
  decode : ∀ this p, Valid p →
    Parser.Reads Failure.Negative excuse (methods.decodeNoHash this) (format p) (Represents · p)

/-- A vector has been resized to as many objects as there are values. -/
theorem forall₂_take {relation : Value → Class → Prop} {values : List Value}
    {objects : List Class} {count : Nat} (related : List.Forall₂ relation values objects)
    (length : values.length = count) : List.Forall₂ relation values (objects.take count) := by
  rwa [List.take_of_length_le (by rw [← related.length_eq, length])]

private theorem forall₂_valid {relation : Value → Class → Prop} {Valid : Value → Prop}
    {values : List Value} {objects : List Class} (related : List.Forall₂ relation values objects)
    (valid : ∀ value ∈ values, Valid value) :
    List.Forall₂ (fun value object => relation value object ∧ Valid value) values objects := by
  induction related with
  | nil => exact .nil
  | cons head _ ih =>
      exact .cons ⟨head, valid _ List.mem_cons_self⟩
        (ih fun value member => valid value (List.mem_cons_of_mem _ member))

end Methods

/-!
## `lcmtest`
-/

structure Lcmtest.PrimitivesT.Represents (this : PrimitivesT) (p : LcmtestPrimitivesT) : Prop where
  i8 : this.i8 = p.i8
  i16 : this.i16 = p.i16
  numRanges : this.numRanges = p.numRanges
  i64 : this.i64 = p.i64
  ranges : this.ranges.take p.numRanges.toInt.toNat = p.ranges.val
  position : this.position = p.position
  orientation : this.orientation = p.orientation
  name : this.name.chars = p.name.chars
  enabled : this.enabled = p.enabled

section Classes

variable {core : CoreTypes} {wire : Wire} (lawful : core.Lawful wire)

include lawful

theorem Lcmtest.PrimitivesT.follows :
    (primitivesT core).Follows (LcmtestPrimitivesT.format wire) PrimitivesT.Represents
      LcmtestPrimitivesT.Valid (fun _ => True) core.NewFails where
  encode this p represents valid := by
    obtain ⟨i8, i16, numRanges, i64, ranges, position, orientation, name, enabled⟩ := represents
    have scalars : Pieces Encoder.Writes
        [core.int8.encodeOne p.i8, core.int16.encodeOne p.i16, core.int32.encodeOne p.numRanges,
          core.int64.encodeOne p.i64]
        [wire.int8 p.i8, wire.int16 p.i16, wire.int32 p.numRanges, wire.int64 p.i64].flatten := by
      refine .flatten (.cons ?_ (.cons ?_ (.cons ?_ (.cons ?_ .nil))))
      · exact lawful.int8.follows.encodeOne trivial
      · exact lawful.int16.follows.encodeOne trivial
      · exact lawful.int32.follows.encodeOne trivial
      · exact lawful.int64.follows.encodeOne trivial
    have rest : Pieces Encoder.Writes
        [core.float.encodeArray p.position.val 3, core.double.encodeArray p.orientation.val 4,
          core.string.encodeOne p.name, core.boolean.encodeOne p.enabled]
        [p.position.val.flatMap wire.float, p.orientation.val.flatMap wire.double,
          wire.string p.name, wire.boolean p.enabled].flatten := by
      refine .flatten (.cons ?_ (.cons ?_ (.cons ?_ (.cons ?_ .nil))))
      · exact lawful.float.follows.encodeArray p.position (by decide) (trivially _)
      · exact lawful.double.follows.encodeArray p.orientation (by decide) (trivially _)
      · exact lawful.string.encodeOne trivial
      · exact lawful.boolean.follows.encodeOne trivial
    have vector := lawful.int16.follows.encodeVector p.ranges valid ranges (trivially _)
    simpa [primitivesT, LcmtestPrimitivesT.format, i8, i16, numRanges, i64, position, orientation,
      StdString.cStr_eq name, enabled] using (scalars.append vector).append rest
  size this p represents valid _ := by
    refine Pieces.flatten (.cons ?_ (.cons ?_ (.cons ?_ (.cons ?_ (.cons ?_ (.cons ?_
      (.cons ?_ (.cons ?_ (.cons ?_ .nil)))))))))
    · exact lawful.int8.sizeNullOne p.i8
    · exact lawful.int16.sizeNullOne p.i16
    · exact lawful.int32.sizeNullOne p.numRanges
    · exact lawful.int64.sizeNullOne p.i64
    · rw [represents.numRanges]
      exact lawful.int16.sizeNull p.ranges valid
    · exact lawful.float.sizeNull p.position (by decide)
    · exact lawful.double.sizeNull p.orientation (by decide)
    · exact StdString.addSize_adds lawful represents.name
    · exact lawful.boolean.sizeNullOne p.enabled
  decode this p valid := by
    refine (lawful.int8.decodeOne _).bind fun _ i8 => ?_
    refine (lawful.int16.decodeOne _).bind fun _ i16 => ?_
    refine (lawful.int32.decodeOne _).bind fun _ numRanges => ?_
    refine (lawful.int64.decodeOne _).bind fun _ i64 => ?_
    subst numRanges
    refine (core.getVector_reads lawful.int16 p.ranges valid _).bind fun _ ranges => ?_
    refine (lawful.float.decodeMany p.position (by decide)).bind fun _ position => ?_
    refine (lawful.double.decodeMany p.orientation (by decide)).bind fun _ orientation => ?_
    refine (CoreTypes.getString_reads lawful p.name).bind fun _ name => ?_
    refine (lawful.boolean.decodeOne _).bind fun _ enabled => ?_
    exact .pure ⟨i8, i16, rfl, i64, ranges, position, orientation, name, enabled⟩

end Classes

structure Lcmtest.PrimitivesListT.Represents (this : PrimitivesListT)
    (p : LcmtestPrimitivesListT) : Prop where
  numItems : this.numItems = p.numItems
  items : List.Forall₂ (fun item object => PrimitivesT.Represents object item) p.items.val
    (this.items.take p.numItems.toInt.toNat)

structure Lcmtest.MultidimArrayT.Represents (this : MultidimArrayT)
    (p : LcmtestMultidimArrayT) : Prop where
  sizeA : this.sizeA = p.sizeA
  sizeB : this.sizeB = p.sizeB
  sizeC : this.sizeC = p.sizeC
  data : List.Forall₂
    (fun plane vectors => List.Forall₂
      (fun row vector => vector.take p.sizeC.toInt.toNat = row.val)
      plane.val (vectors.take p.sizeB.toInt.toNat))
    p.data.val (this.data.take p.sizeA.toInt.toNat)
  strarray : List.Forall₂
    (fun row texts => List.Forall₂ (fun string text => StdString.chars text = string.chars)
      row.val (texts.take p.sizeC.toInt.toNat))
    p.strarray.val (this.strarray.take 2)

/-- The class multiplies the number of the rows by the size of one. -/
structure LcmtestMultidimArrayT.Sized (p : LcmtestMultidimArrayT) : Prop where
  rows : p.sizeA.toInt * p.sizeB.toInt < 2 ^ 31
  row : 4 * p.sizeC.toInt < 2 ^ 31

structure Lcmtest.BoolsT.Represents (this : BoolsT) (p : LcmtestBoolsT) : Prop where
  oneBool : this.oneBool = p.oneBool
  fixedArray : this.fixedArray = p.fixedArray
  numA : this.numA = p.numA
  numB : this.numB = p.numB
  oneDimArray : this.oneDimArray.take p.numA.toInt.toNat = p.oneDimArray.val
  twoDimArray : List.Forall₂ (fun row vector => vector.take p.numB.toInt.toNat = row.val)
    p.twoDimArray.val (this.twoDimArray.take p.numA.toInt.toNat)

structure Lcmtest.ByteArrayT.Represents (this : ByteArrayT) (p : LcmtestByteArrayT) : Prop where
  numBytes : this.numBytes = p.numBytes
  data : this.data.take p.numBytes.toInt.toNat = p.data.val

structure Lcmtest.CommentsT.Represents (this : CommentsT) (p : LcmtestCommentsT) : Prop where
  fieldA : this.fieldA = p.fieldA
  fieldB : this.fieldB = p.fieldB
  fieldC : this.fieldC = p.fieldC
  fieldD : this.fieldD = p.fieldD
  fieldE : this.fieldE = p.fieldE
  array : this.array.take p.fieldA.toInt.toNat = p.array.val

def Lcmtest2.CrossPackageT.Represents (this : CrossPackageT) (p : Lcmtest2CrossPackageT) : Prop :=
  this.primitives.Represents p.primitives ∧ this.another.val = p.another.val

section Classes

variable {core : CoreTypes} {wire : Wire} (lawful : core.Lawful wire)

include lawful

theorem Lcmtest.PrimitivesListT.follows :
    (primitivesListT core).Follows (LcmtestPrimitivesListT.format wire)
      PrimitivesListT.Represents LcmtestPrimitivesListT.Valid (fun _ => True) core.NewFails where
  encode this p represents valid := by
    obtain ⟨numItems, items⟩ := represents
    have count : Pieces Encoder.Writes [core.int32.encodeOne p.numItems] (wire.int32 p.numItems) :=
      .single (lawful.int32.follows.encodeOne trivial)
    have each := Pieces.map ((forall₂_valid items valid.2).imp fun item object both =>
      ((PrimitivesT.follows lawful).encode object item both.1 both.2).encodeAll)
    simpa [primitivesListT, LcmtestPrimitivesListT.format, numItems] using count.append each
  size this p represents valid _ := by
    obtain ⟨numItems, items⟩ := represents
    have count : Pieces Sizer.Adds [core.int32.sizeMany [] 1] (wire.int32 p.numItems) :=
      .single (lawful.int32.sizeNullOne p.numItems)
    have each := Pieces.map ((forall₂_valid items valid.2).imp fun item object both =>
      ((PrimitivesT.follows lawful).size object item both.1 both.2 trivial).sizeAll.adding)
    simpa [primitivesListT, LcmtestPrimitivesListT.format, numItems] using count.append each
  decode this p valid := by
    refine (lawful.int32.decodeOne _).bind fun _ numItems => ?_
    subst numItems
    refine (core.resize_reads (.inr rfl) valid.1 _).then fun resized length => ?_
    have each : Parser.Reads Failure.Negative core.NewFails _ (p.items.val.flatMap _) _ :=
      .each (length.trans p.items.property.symm) fun object _ item member =>
        ((PrimitivesT.follows lawful).decode object item (valid.2 item member)).run.call
    exact each.bind fun items represents => .pure ⟨rfl, forall₂_take represents p.items.property⟩

theorem Lcmtest.MultidimArrayT.follows :
    (multidimArrayT core).Follows (LcmtestMultidimArrayT.format wire)
      MultidimArrayT.Represents LcmtestMultidimArrayT.Valid LcmtestMultidimArrayT.Sized
      core.NewFails where
  encode this p represents valid := by
    obtain ⟨sizeA, sizeB, sizeC, data, strarray⟩ := represents
    have sizes : Pieces Encoder.Writes
        [core.int32.encodeOne p.sizeA, core.int32.encodeOne p.sizeB, core.int32.encodeOne p.sizeC]
        [wire.int32 p.sizeA, wire.int32 p.sizeB, wire.int32 p.sizeC].flatten :=
      .flatten (.cons (lawful.int32.follows.encodeOne trivial)
        (.cons (lawful.int32.follows.encodeOne trivial)
          (.cons (lawful.int32.follows.encodeOne trivial) .nil)))
    have planes : Pieces Encoder.Writes
        (if p.sizeC.toInt > 0 then
          (this.data.take p.sizeA.toInt.toNat).flatMap fun plane =>
            (plane.take p.sizeB.toInt.toNat).map fun row =>
              core.int32.encodeArray row p.sizeC.toInt
        else [])
        (p.data.val.flatMap fun plane => plane.val.flatMap fun row =>
          row.val.flatMap wire.int32) := by
      split
      · exact .forall₂ (data.imp fun plane vectors rows => .map (rows.imp fun row vector same =>
          lawful.int32.follows.encodePart row valid.2.2 same (trivially _)))
      · next none =>
          have empty : p.sizeC.toInt = 0 := Int.le_antisymm (Int.not_lt.mp none) valid.2.2
          simp only [flatMap_rows_eq_nil empty, List.flatMap_eq_nil_iff.mpr fun _ _ => rfl]
          exact .nil
    have texts : Pieces Encoder.Writes
        ((this.strarray.take 2).flatMap fun row =>
          (row.take p.sizeC.toInt.toNat).map fun text => core.string.encodeOne text.cStr)
        (p.strarray.val.flatMap fun row => row.val.flatMap wire.string) :=
      .forall₂ (strarray.imp fun row column strings => .map (strings.imp fun string text same => by
        rw [StdString.cStr_eq same]
        exact lawful.string.encodeOne trivial))
    simpa [multidimArrayT, LcmtestMultidimArrayT.format, sizeA, sizeB, sizeC] using
      (sizes.append planes).append texts
  size this p represents valid sized := by
    obtain ⟨sizeA, sizeB, sizeC, data, strarray⟩ := represents
    obtain ⟨positiveA, positiveB, positiveC⟩ := valid
    obtain ⟨rows, narrow⟩ := sized
    have count : (p.data.val.flatMap (·.val)).length =
        p.sizeB.toInt.toNat * p.sizeA.toInt.toNat := by
      rw [length_flatMap_format fun plane => plane.property, p.data.property]
    have all : ((p.data.val.flatMap (·.val)).length : Int) = p.sizeA.toInt * p.sizeB.toInt := by
      rw [count, Int.natCast_mul, Int.toNat_of_nonneg positiveA, Int.toNat_of_nonneg positiveB,
        Int.mul_comm]
    have planes : Measures
        (product (product (some p.sizeA.toInt) (some p.sizeB.toInt))
          (core.int32.encodedArraySize [] p.sizeC.toInt))
        (p.data.val.flatMap fun plane => plane.val.flatMap fun row =>
          row.val.flatMap wire.int32) := by
      rw [product_eq positiveA positiveB rows, ← all, ← List.flatMap_assoc]
      exact lawful.int32.sizeRows _ positiveC narrow
    have sizes : Pieces Sizer.Adds
        [core.int32.sizeMany [] 1, core.int32.sizeMany [] 1, core.int32.sizeMany [] 1,
          adding (product (product (some p.sizeA.toInt) (some p.sizeB.toInt))
            (core.int32.encodedArraySize [] p.sizeC.toInt))]
        [wire.int32 p.sizeA, wire.int32 p.sizeB, wire.int32 p.sizeC,
          p.data.val.flatMap fun plane => plane.val.flatMap fun row =>
            row.val.flatMap wire.int32].flatten :=
      .flatten (.cons (lawful.int32.sizeNullOne p.sizeA)
        (.cons (lawful.int32.sizeNullOne p.sizeB)
          (.cons (lawful.int32.sizeNullOne p.sizeC) (.cons planes.adding .nil))))
    have texts : Pieces Sizer.Adds
        ((this.strarray.take 2).flatMap fun row =>
          (row.take p.sizeC.toInt.toNat).map StdString.addSize)
        (p.strarray.val.flatMap fun row => row.val.flatMap wire.string) :=
      .forall₂ (strarray.imp fun row column strings => .map (strings.imp fun string text same =>
        StdString.addSize_adds lawful same))
    simpa [multidimArrayT, LcmtestMultidimArrayT.format, sizeA, sizeB, sizeC] using
      sizes.append texts
  decode this p valid := by
    refine (lawful.int32.decodeOne _).bind fun _ sizeA => ?_
    refine (lawful.int32.decodeOne _).bind fun _ sizeB => ?_
    refine (lawful.int32.decodeOne _).bind fun _ sizeC => ?_
    subst sizeA sizeB sizeC
    refine (core.resize_reads (.inr rfl) valid.1 _).then fun planes length => ?_
    have data : Parser.Reads Failure.Negative core.NewFails _ (p.data.val.flatMap _) _ :=
      .each (length.trans p.data.property.symm) fun vectors _ plane _ =>
        (core.resize_reads (.inr rfl) valid.2.1 vectors).then fun rows count =>
          .each (count.trans plane.property.symm) fun vector _ row _ =>
            core.getVector_reads lawful.int32 row valid.2.2 vector
    refine data.bind fun data represents => ?_
    refine (core.resize_reads (.inr rfl) (by decide) _).then fun columns length => ?_
    have strarray : Parser.Reads Failure.Negative core.NewFails _ (p.strarray.val.flatMap _) _ :=
      .each (length.trans p.strarray.property.symm) fun column _ row _ =>
        (core.resize_reads (.inr rfl) valid.2.2 column).then fun texts count =>
          .each (count.trans row.property.symm) fun _ _ string _ =>
            CoreTypes.getString_reads lawful string
    refine strarray.bind fun strarray strings => .pure ⟨rfl, rfl, rfl, ?_, ?_⟩
    · exact (forall₂_take represents p.data.property).imp fun plane _ rows =>
        forall₂_take rows plane.property
    · exact (forall₂_take strings p.strarray.property).imp fun row _ texts =>
        forall₂_take texts row.property

theorem Lcmtest.BoolsT.follows :
    (boolsT core).Follows (LcmtestBoolsT.format wire) BoolsT.Represents LcmtestBoolsT.Valid
      (fun _ => True) core.NewFails where
  encode this p represents valid := by
    obtain ⟨oneBool, fixedArray, numA, numB, oneDimArray, twoDimArray⟩ := represents
    have flags : Pieces Encoder.Writes
        [core.boolean.encodeOne p.oneBool, core.boolean.encodeArray p.fixedArray.val 3,
          core.int8.encodeOne p.numA, core.int8.encodeOne p.numB]
        [wire.boolean p.oneBool, p.fixedArray.val.flatMap wire.boolean, wire.int8 p.numA,
          wire.int8 p.numB].flatten := by
      refine .flatten (.cons ?_ (.cons ?_ (.cons ?_ (.cons ?_ .nil))))
      · exact lawful.boolean.follows.encodeOne trivial
      · exact lawful.boolean.follows.encodeArray p.fixedArray (by decide) (trivially _)
      · exact lawful.int8.follows.encodeOne trivial
      · exact lawful.int8.follows.encodeOne trivial
    have vector := lawful.boolean.follows.encodeVector p.oneDimArray valid.1 oneDimArray
      (trivially _)
    have rows : Pieces Encoder.Writes
        (if p.numB.toInt > 0 then
          (this.twoDimArray.take p.numA.toInt.toNat).map fun row =>
            core.boolean.encodeArray row p.numB.toInt
        else [])
        (p.twoDimArray.val.flatMap fun row => row.val.flatMap wire.boolean) := by
      split
      · exact .map (twoDimArray.imp fun row vector same =>
          lawful.boolean.follows.encodePart row valid.2 same (trivially _))
      · next none =>
          rw [flatMap_rows_eq_nil (Int.le_antisymm (Int.not_lt.mp none) valid.2)]
          exact .nil
    simpa [boolsT, LcmtestBoolsT.format, oneBool, fixedArray, numA, numB] using
      (flags.append vector).append rows
  size this p represents valid _ := by
    obtain ⟨oneBool, fixedArray, numA, numB, oneDimArray, twoDimArray⟩ := represents
    obtain ⟨positiveA, positiveB⟩ := valid
    have all : (p.twoDimArray.val.length : Int) = p.numA.toInt := by
      rw [p.twoDimArray.property, Int.toNat_of_nonneg positiveA]
    have small := p.numB.toInt_lt
    have rows := lawful.boolean.sizeRows p.twoDimArray.val positiveB (by omega)
    rw [all] at rows
    have flags : Pieces Sizer.Adds
        [core.boolean.sizeMany [] 1, core.boolean.sizeMany [] 3, core.int8.sizeMany [] 1,
          core.int8.sizeMany [] 1, core.boolean.sizeMany [] p.numA.toInt,
          adding (product (some p.numA.toInt)
            (core.boolean.encodedArraySize [] p.numB.toInt))]
        [wire.boolean p.oneBool, p.fixedArray.val.flatMap wire.boolean, wire.int8 p.numA,
          wire.int8 p.numB, p.oneDimArray.val.flatMap wire.boolean,
          p.twoDimArray.val.flatMap fun row => row.val.flatMap wire.boolean].flatten := by
      refine .flatten (.cons ?_ (.cons ?_ (.cons ?_ (.cons ?_ (.cons ?_ (.cons ?_ .nil))))))
      · exact lawful.boolean.sizeNullOne p.oneBool
      · exact lawful.boolean.sizeNull p.fixedArray (by decide)
      · exact lawful.int8.sizeNullOne p.numA
      · exact lawful.int8.sizeNullOne p.numB
      · exact lawful.boolean.sizeNull p.oneDimArray positiveA
      · exact rows.adding
    simpa [boolsT, LcmtestBoolsT.format, numA, numB] using flags
  decode this p valid := by
    refine (lawful.boolean.decodeOne _).bind fun _ oneBool => ?_
    refine (lawful.boolean.decodeMany p.fixedArray (by decide)).bind fun _ fixedArray => ?_
    refine (lawful.int8.decodeOne _).bind fun _ numA => ?_
    refine (lawful.int8.decodeOne _).bind fun _ numB => ?_
    subst numA numB
    refine (core.getVector_reads lawful.boolean p.oneDimArray valid.1 _).bind
      fun _ oneDimArray => ?_
    refine (core.resize_reads (.inr rfl) valid.1 _).then fun rows length => ?_
    have twoDimArray : Parser.Reads Failure.Negative core.NewFails _
        (p.twoDimArray.val.flatMap _) _ :=
      .each (length.trans p.twoDimArray.property.symm) fun vector _ row _ =>
        core.getVector_reads lawful.boolean row valid.2 vector
    refine twoDimArray.bind fun _ represents => .pure ?_
    exact ⟨oneBool, fixedArray, rfl, rfl, oneDimArray,
      forall₂_take represents p.twoDimArray.property⟩

theorem Lcmtest.ByteArrayT.follows :
    (byteArrayT core).Follows (LcmtestByteArrayT.format wire) ByteArrayT.Represents
      LcmtestByteArrayT.Valid (fun _ => True) core.NewFails where
  encode this p represents valid := by
    obtain ⟨numBytes, data⟩ := represents
    have count : Pieces Encoder.Writes [core.int32.encodeOne p.numBytes] (wire.int32 p.numBytes) :=
      .single (lawful.int32.follows.encodeOne trivial)
    have vector := lawful.byte.follows.encodeVector p.data valid data (trivially _)
    simpa [byteArrayT, LcmtestByteArrayT.format, numBytes] using count.append vector
  size this p represents valid _ := by
    refine Pieces.flatten (.cons (lawful.int32.sizeNullOne p.numBytes) (.cons ?_ .nil))
    rw [represents.numBytes]
    exact lawful.byte.sizeNull p.data valid
  decode this p valid := by
    refine (lawful.int32.decodeOne _).bind fun _ numBytes => ?_
    subst numBytes
    refine (core.getVector_reads lawful.byte p.data valid _).bind fun _ data => ?_
    exact .pure ⟨rfl, data⟩

theorem Lcmtest.CommentsT.follows :
    (commentsT core).Follows (LcmtestCommentsT.format wire) CommentsT.Represents
      LcmtestCommentsT.Valid (fun _ => True) core.NewFails where
  encode this p represents valid := by
    obtain ⟨fieldA, fieldB, fieldC, fieldD, fieldE, array⟩ := represents
    have scalars : Pieces Encoder.Writes
        [core.int8.encodeOne p.fieldA, core.int16.encodeOne p.fieldB,
          core.int32.encodeOne p.fieldC, core.int64.encodeOne p.fieldD,
          core.float.encodeOne p.fieldE]
        [wire.int8 p.fieldA, wire.int16 p.fieldB, wire.int32 p.fieldC, wire.int64 p.fieldD,
          wire.float p.fieldE].flatten := by
      refine .flatten (.cons ?_ (.cons ?_ (.cons ?_ (.cons ?_ (.cons ?_ .nil)))))
      · exact lawful.int8.follows.encodeOne trivial
      · exact lawful.int16.follows.encodeOne trivial
      · exact lawful.int32.follows.encodeOne trivial
      · exact lawful.int64.follows.encodeOne trivial
      · exact lawful.float.follows.encodeOne trivial
    have vector := lawful.int32.follows.encodeVector p.array valid array (trivially _)
    simpa [commentsT, LcmtestCommentsT.format, fieldA, fieldB, fieldC, fieldD, fieldE] using
      scalars.append vector
  size this p represents valid _ := by
    refine Pieces.flatten
      (.cons ?_ (.cons ?_ (.cons ?_ (.cons ?_ (.cons ?_ (.cons ?_ .nil))))))
    · exact lawful.int8.sizeNullOne p.fieldA
    · exact lawful.int16.sizeNullOne p.fieldB
    · exact lawful.int32.sizeNullOne p.fieldC
    · exact lawful.int64.sizeNullOne p.fieldD
    · exact lawful.float.sizeNullOne p.fieldE
    · rw [represents.fieldA]
      exact lawful.int32.sizeNull p.array valid
  decode this p valid := by
    refine (lawful.int8.decodeOne _).bind fun _ fieldA => ?_
    refine (lawful.int16.decodeOne _).bind fun _ fieldB => ?_
    refine (lawful.int32.decodeOne _).bind fun _ fieldC => ?_
    refine (lawful.int64.decodeOne _).bind fun _ fieldD => ?_
    refine (lawful.float.decodeOne _).bind fun _ fieldE => ?_
    subst fieldA
    refine (core.getVector_reads lawful.int32 p.array valid _).bind fun _ array => ?_
    exact .pure ⟨rfl, fieldB, fieldC, fieldD, fieldE, array⟩

theorem Lcmtest.ExampleconstT.follows :
    (exampleconstT core).Follows (LcmtestExampleconstT.format wire)
      (fun this p => this.myOctet = p.myOctet) (fun _ => True) (fun _ => True) core.NewFails where
  encode this p represents _ := by
    rw [LcmtestExampleconstT.format, ← represents]
    exact .single (lawful.int8.follows.encodeOne trivial)
  size this p represents _ _ := .single (lawful.int8.sizeNullOne p.myOctet)
  decode this p _ := by
    have read : Parser.Reads Failure.Negative core.NewFails ((exampleconstT core).decodeNoHash this)
        (wire.int8 p.myOctet ++ []) fun this => this.myOctet = p.myOctet :=
      (lawful.int8.decodeOne _).bind fun _ myOctet => .pure myOctet
    rwa [List.append_nil] at read

/-!
## `lcmtest2` and `lcmtest3`
-/

theorem Lcmtest2.AnotherTypeT.follows :
    (anotherTypeT core).Follows (Lcmtest2AnotherTypeT.format wire)
      (fun this p => this.val = p.val) (fun _ => True) (fun _ => True) core.NewFails where
  encode this p represents _ := by
    rw [Lcmtest2AnotherTypeT.format, ← represents]
    exact .single (lawful.int32.follows.encodeOne trivial)
  size this p represents _ _ := .single (lawful.int32.sizeNullOne p.val)
  decode this p _ := by
    have read : Parser.Reads Failure.Negative core.NewFails ((anotherTypeT core).decodeNoHash this)
        (wire.int32 p.val ++ []) fun this => this.val = p.val :=
      (lawful.int32.decodeOne _).bind fun _ val => .pure val
    rwa [List.append_nil] at read

theorem Lcmtest2.CrossPackageT.follows :
    (crossPackageT core).Follows (Lcmtest2CrossPackageT.format wire) CrossPackageT.Represents
      Lcmtest2CrossPackageT.Valid (fun _ => True) core.NewFails where
  encode this p represents valid := by
    refine Pieces.flatten (.cons ?_ (.cons ?_ .nil))
    · exact ((Lcmtest.PrimitivesT.follows lawful).encode _ _ represents.1 valid).encodeAll
    · exact ((Lcmtest2.AnotherTypeT.follows lawful).encode _ _ represents.2 trivial).encodeAll
  size this p represents valid _ := by
    have primitives := (Lcmtest.PrimitivesT.follows lawful).size _ _ represents.1 valid trivial
    have another := (Lcmtest2.AnotherTypeT.follows lawful).size _ _ represents.2 trivial trivial
    exact Pieces.flatten (.cons primitives.sizeAll.adding (.cons another.sizeAll.adding .nil))
  decode this p valid := by
    refine ((Lcmtest.PrimitivesT.follows lawful).decode _ _ valid).run.call.bind
      fun _ primitives => ?_
    refine ((Lcmtest2.AnotherTypeT.follows lawful).decode _ p.another trivial).run.call.bind
      fun _ another => ?_
    exact .pure ⟨primitives, another⟩

theorem Lcmtest3.ArraysT.follows :
    (arraysT core).Follows (Lcmtest3ArraysT.format wire) (fun this p => this.arr = p.arr)
      (fun _ => True) (fun _ => True) core.NewFails where
  encode this p represents _ := by
    rw [Lcmtest3ArraysT.format, ← represents]
    exact .single (lawful.int8.follows.encodeArray this.arr (by decide) (trivially _))
  size this p represents _ _ := .single (lawful.int8.sizeNull p.arr (by decide))
  decode this p _ := by
    have read : Parser.Reads Failure.Negative core.NewFails ((arraysT core).decodeNoHash this)
        (p.arr.val.flatMap wire.int8 ++ []) fun this => this.arr = p.arr :=
      (lawful.int8.decodeMany p.arr (by decide)).bind fun _ arr => .pure arr
    rwa [List.append_nil] at read

end Classes

end VelaExternal.Lcm

import VelaExternal.Lcm.ClassNode
import VelaExternal.Lcm.MessageProperties

/-!
# Messages between C and C++

The classes and the functions in C write the same messages and read each other's. They
differ on messages that neither writes.
-/

set_option autoImplicit false

namespace VelaExternal.Lcm

open VelaExternal.Systems

namespace MessageType

def Represents : (type : MessageType) → type.Class → type.Value → Prop
  | .primitives => Lcmtest.PrimitivesT.Represents
  | .primitivesList => Lcmtest.PrimitivesListT.Represents
  | .multidimArray => Lcmtest.MultidimArrayT.Represents
  | .node => fun this p => Lcmtest.NodeT.value this = p
  | .bools => Lcmtest.BoolsT.Represents
  | .byteArray => Lcmtest.ByteArrayT.Represents
  | .comments => Lcmtest.CommentsT.Represents
  | .exampleconst => fun this p => Lcmtest.ExampleconstT.myOctet this = p.myOctet
  | .anotherType => fun this p => Lcmtest2.AnotherTypeT.val this = p.val
  | .crossPackage => Lcmtest2.CrossPackageT.Represents
  | .arrays => fun this p => Lcmtest3.ArraysT.arr this = p.arr

/-- No count in the value is negative, in trees neither. -/
def Counted : (type : MessageType) → type.Value → Prop
  | .node => LcmtestNodeT.Counted
  | type => type.Valid

theorem Counted.valid : {type : MessageType} → {p : type.Value} → type.Counted p → type.Valid p
  | .node, _, counted => LcmtestNodeT.Counted.wellFormed counted
  | .primitives, _, valid | .primitivesList, _, valid | .multidimArray, _, valid
  | .bools, _, valid | .byteArray, _, valid | .comments, _, valid | .exampleconst, _, valid
  | .anotherType, _, valid | .crossPackage, _, valid | .arrays, _, valid => valid

/-- The number of the rows in the planes of an array is an `int`. -/
def IntRows : (type : MessageType) → type.Value → Prop
  | .multidimArray => fun p : LcmtestMultidimArrayT => p.sizeA.toInt * p.sizeB.toInt < 2 ^ 31
  | _ => fun _ => True

def Sized : (type : MessageType) → type.Value → Prop
  | .multidimArray => LcmtestMultidimArrayT.Sized
  | _ => fun _ => True

/-- The classes leave the primitive types out of their hashes. -/
theorem computeHash_nil (core : CoreTypes) (type : MessageType) :
    (type.methods core).computeHash [] = type.fingerprint := by
  cases type with
  | node =>
      change Lcmtest.NodeT.computeHash [] = _
      rw [Lcmtest.NodeT.computeHash, Lcmtest.NodeT.computeHash]
      simp [fingerprint]
  | _ => rfl

section Laws

variable {core : CoreTypes} {wire : Wire} (lawful : core.Lawful wire)

include lawful

private theorem classFollows : (type : MessageType) →
    (type.methods core).Follows (type.format wire) type.Represents type.Counted type.Sized
      core.NewFails
  | .primitives => Lcmtest.PrimitivesT.follows lawful
  | .primitivesList => Lcmtest.PrimitivesListT.follows lawful
  | .multidimArray => Lcmtest.MultidimArrayT.follows lawful
  | .node => Lcmtest.NodeT.follows lawful
  | .bools => Lcmtest.BoolsT.follows lawful
  | .byteArray => Lcmtest.ByteArrayT.follows lawful
  | .comments => Lcmtest.CommentsT.follows lawful
  | .exampleconst => Lcmtest.ExampleconstT.follows lawful
  | .anotherType => Lcmtest2.AnotherTypeT.follows lawful
  | .crossPackage => Lcmtest2.CrossPackageT.follows lawful
  | .arrays => Lcmtest3.ArraysT.follows lawful

/-- A message has two strings for each number of a row. -/
theorem row_short {p : LcmtestMultidimArrayT} (valid : p.Valid)
    (short : (message wire .multidimArray p).length < 2 ^ 31) : 4 * p.sizeC.toInt < 2 ^ 31 := by
  have string (text : LcmString) : 2 ≤ (wire.string text).length := by
    rw [length_string lawful]
    omega
  have row (texts : Elements LcmString p.sizeC.toInt) :
      2 * p.sizeC.toInt.toNat ≤ (texts.val.flatMap wire.string).length := by
    have least := le_length_flatMap string texts.val
    rwa [texts.property] at least
  have rows := le_length_flatMap row p.strarray.val
  have part : (p.strarray.val.flatMap fun row => row.val.flatMap wire.string).length ≤
      (message wire .multidimArray p).length := by
    simp only [message, format, LcmtestMultidimArrayT.format, List.flatten_cons, List.flatten_nil,
      List.length_append]
    omega
  have columns := valid.2.2
  rw [p.strarray.property] at rows
  change 2 * p.sizeC.toInt.toNat * 2 ≤ _ at rows
  omega

theorem sized : {type : MessageType} → {p : type.Value} → type.Counted p →
    (type.message wire p).length < 2 ^ 31 → type.IntRows p → type.Sized p
  | .multidimArray, _, valid, short, rows => ⟨rows, row_short lawful valid short⟩
  | .primitives, _, _, _, _ | .primitivesList, _, _, _, _ | .node, _, _, _, _ | .bools, _, _, _, _
  | .byteArray, _, _, _, _ | .comments, _, _, _, _ | .exampleconst, _, _, _, _
  | .anotherType, _, _, _, _ | .crossPackage, _, _, _, _ | .arrays, _, _, _, _ => trivial

variable {type : MessageType} {this : type.Class} {p : type.Value}

theorem getEncodedSize (represents : type.Represents this p) (counted : type.Counted p)
    (short : (type.message wire p).length < 2 ^ 31) (rows : type.IntRows p) :
    (type.methods core).getEncodedSize this = some ((type.message wire p).length : Int) := by
  have body := (classFollows lawful type).size this p represents counted
    (sized lawful counted short rows)
  rw [message, List.length_append, lawful.int64.sized] at short ⊢
  have total := body.sizeAll.adding 8 (by decide) (by omega)
  rw [Methods.getEncodedSize, total, Int.natCast_add]
  rfl

theorem encode (represents : type.Represents this p) (counted : type.Counted p) :
    ((type.methods core).encode core this).Writes (type.message wire p) := by
  have body := ((classFollows lawful type).encode this p represents counted).encodeAll
  refine Pieces.encodeAll (.cons ?_ (.single body))
  rw [Methods.getHash, computeHash_nil]
  exact lawful.int64.follows.encodeOne trivial

theorem decode (this : type.Class) (counted : type.Counted p) :
    ((type.methods core).decode core this).Reads Failure.Negative core.NewFails
      (type.message wire p) (type.Represents · p) := by
  refine (Parser.Reads.bind (lawful.int64.decodeOne _) fun msgHash same => ?_).run
  rw [if_neg (by rw [same, Methods.getHash, computeHash_nil]; simp)]
  exact ((classFollows lawful type).decode this p counted).run.call

end Laws

end MessageType

/-!
## The same messages
-/

section Encode

variable {core : CoreTypes} {wire : Wire} (lawful : core.Lawful wire) (type : MessageType)
  (this : type.Class) (p : type.Value) (represents : type.Represents this p)
  (counted : type.Counted p) (short : (type.message wire p).length < 2 ^ 31)
  (rows : type.IntRows p)

include lawful represents counted short rows

/-- An object and a value in C that it represents are the same message: the hash, the size
and every byte. Neither is written where there is no room for it. -/
theorem class_encode_eq :
    (type.methods core).getHash = (type.element core).getHash ∧
    ∃ size, (type.methods core).getEncodedSize this = some size ∧
      (type.element core).encodedSize p = some size ∧
      ∀ before offset maxlen, Window offset maxlen →
        (size ≤ maxlen →
          (type.methods core).encode core this before offset maxlen =
            (type.element core).encodeMessage core p before offset maxlen) ∧
        (maxlen < size →
          ((type.methods core).encode core this before offset maxlen).2 < 0 ∧
          ((type.element core).encodeMessage core p before offset maxlen).2 < 0) := by
  have inC := MessageType.encodeMessage lawful counted.valid
  have inClass := MessageType.encode lawful represents counted
  refine ⟨?_, _, MessageType.getEncodedSize lawful represents counted short rows,
    MessageType.encodedSize lawful ⟨counted.valid, short⟩,
    fun before offset maxlen within => ⟨fun room => ?_, fun cut => ?_⟩⟩
  · rw [Methods.getHash, MessageType.computeHash_nil, MessageType.getHash lawful]
  · exact inClass.eq inC before within room
  · exact ⟨(inClass.short before offset maxlen within short cut).1,
      (inC.short before offset maxlen within short cut).1⟩

end Encode

/-- Two bytes, in a vector that is longer. -/
def twoBytes : LcmtestByteArrayT := ⟨2, ⟨[7, 9], rfl⟩⟩

private theorem twoBytes_counted : MessageType.byteArray.Counted twoBytes := by
  change (0 : Int) ≤ (2 : Int32).toInt
  decide

theorem class_encode_eq_twoBytes :
    (Lcmtest.byteArrayT (bigEndianTypes true)).encode (bigEndianTypes true) ⟨2, [7, 9, 1]⟩
        (fun _ => 0) 0 14 =
      (lcmtestByteArrayT (bigEndianTypes true)).encodeMessage (bigEndianTypes true) twoBytes
        (fun _ => 0) 0 14 := by
  obtain ⟨_, size, _, sized, same⟩ := class_encode_eq (bigEndian_lawful true) .byteArray
    ⟨2, [7, 9, 1]⟩ twoBytes ⟨rfl, rfl⟩ twoBytes_counted (by decide) trivial
  obtain rfl : (14 : Int) = size := Option.some.inj sized
  exact (same (fun _ => 0) 0 14 ⟨by decide, by decide, by decide⟩).1 (by decide)

section Decode

variable {core : CoreTypes} {wire : Wire} (lawful : core.Lawful wire) (type : MessageType)
  (this : type.Class) (p : type.Value) (counted : type.Counted p)
  (short : (type.message wire p).length < 2 ^ 31)

include lawful counted short

end Decode

section Any

variable {core : CoreTypes} {wire : Wire} (lawful : core.Lawful wire)

include lawful

theorem MessageType.decode_accepts (type : MessageType) (this : type.Class)
    {good : List UInt8 → type.Class → Prop}
    (accepts : Parser.Accepts ((type.methods core).decodeNoHash this) good) {memory : Memory UInt8}
    {offset maxlen : Int} (within : Window offset maxlen) {read : Nat} {object : type.Class}
    (done : (type.methods core).decode core this memory offset maxlen = .ok (read, object)) :
    read ≤ maxlen ∧ ∃ bytes : List UInt8, read = 8 + bytes.length ∧
      Holds memory offset (wire.int64 type.fingerprint.toInt64 ++ bytes) ∧ good bytes object := by
  have body : Parser.Accepts (do
      let msgHash ← core.int64.decodeOne
      if msgHash ≠ (type.methods core).getHash then Parser.fail (.returned (-1))
      else Parser.call ((type.methods core).decodeNoHash this).run)
      fun bytes object => ∃ rest, bytes = wire.int64 type.fingerprint.toInt64 ++ rest ∧
        good rest object := by
    refine lawful.int64.acceptsOne.bind fun xs msgHash first => ?_
    split
    · intro memory offset maxlen pos stop object within inside done
      cases done
    · next same =>
        rw [Methods.getHash, MessageType.computeHash_nil, not_not] at same
        refine (Parser.Accepts.call fun memory offset maxlen read object within done =>
          accepts.run memory offset maxlen read object within done).mono fun ys object rest => ?_
        exact ⟨ys, by rw [first, same], rest⟩
  obtain ⟨ends, bytes, size, held, rest, rfl, one⟩ :=
    body.run memory offset maxlen read object within done
  rw [List.length_append, lawful.int64.sized] at size
  exact ⟨ends, rest, size, held, one⟩

end Any

section Exceptions

variable {core : CoreTypes} {wire : Wire}

/-- `resize` throws for a negative count, and for more elements than there is memory for. -/
theorem CoreTypes.getVector_thrown_iff {Value : Type} [Inhabited Value]
    {functions : ArrayFunctions Value} {format : Value → List UInt8} {width : Nat}
    (fixed : functions.Fixed format width) {count : Int} (small : width * count < 2 ^ 31)
    {vector : List Value} {memory : Memory UInt8} {offset maxlen : Int}
    (within : Window offset maxlen) {pos : Nat} (inside : pos ≤ maxlen) :
    core.getVector functions count vector memory offset maxlen pos = .error .thrown ↔
      count < 0 ∨ (vector.length : Int) < count ∧
        core.operatorNew (offset + pos) count = false := by
  rw [CoreTypes.getVector]
  by_cases none : count = 0
  · rw [if_pos none, none]
    constructor
    · intro impossible
      cases impossible
    · rintro (impossible | ⟨impossible, _⟩) <;> omega
  · rw [if_neg none]
    by_cases granted : 0 ≤ count ∧
        (count ≤ vector.length ∨ core.operatorNew (offset + pos) count)
    · have grown : core.resize .thrown count vector memory offset maxlen pos = .ok (pos, _) :=
        if_pos granted
      rw [Parser.bind_eq_next grown]
      constructor
      · intro thrown
        have rejects : Parser.Rejects Failure.Negative memory offset maxlen 0 (do
            let values ← functions.decodeMany count
            return values.val) :=
          .bind within (fixed.acceptsMany granted.1 small)
            (fixed.rejectsMany granted.1 small within 0) fun _ _ _ => .pure
        cases rejects pos .thrown (Nat.zero_le pos) inside thrown
      · rintro (negative | ⟨longer, refused⟩)
        · exact absurd granted.1 (by omega)
        · rcases granted.2 with shorter | new
          · omega
          · rw [refused] at new
            cases new
    · have failed : core.resize .thrown count vector memory offset maxlen pos = .error .thrown :=
        if_neg granted
      refine iff_of_true ?_ ?_
      · change Parser.bind _ _ memory offset maxlen pos = _
        rw [Parser.bind, failed]
      · by_contra neither
        obtain ⟨positive, fits⟩ := not_or.mp neither
        refine granted ⟨Int.not_lt.mp positive, ?_⟩
        by_contra longer
        obtain ⟨more, refused⟩ := not_or.mp longer
        exact fits ⟨Int.not_le.mp more, Bool.not_eq_true _ |>.mp refused⟩

variable (lawful : core.Lawful wire)

include lawful

private theorem byteArray_thrown_iff (this : Lcmtest.ByteArrayT) (memory : Memory UInt8)
    {offset maxlen : Int} (within : Window offset maxlen) :
    ((Lcmtest.byteArrayT core).decodeNoHash this).run memory offset maxlen = .error .thrown ↔
      4 ≤ maxlen ∧ ∃ numBytes : Int32, Holds memory offset (wire.int32 numBytes) ∧
        (numBytes.toInt < 0 ∨ (this.data.length : Int) < numBytes.toInt ∧
          core.operatorNew (offset + 4) numBytes.toInt = false) := by
  have rest (numBytes : Int32) (room : 4 ≤ maxlen) :
      Parser.bind (core.getVector core.byte numBytes.toInt this.data)
        (fun data => Parser.pure (⟨numBytes, data⟩ : Lcmtest.ByteArrayT)) memory offset maxlen 4 =
          .error .thrown ↔ numBytes.toInt < 0 ∨ (this.data.length : Int) < numBytes.toInt ∧
            core.operatorNew (offset + 4) numBytes.toInt = false := by
    have small : (1 : Nat) * numBytes.toInt < 2 ^ 31 := by
      have bound := numBytes.toInt_lt
      omega
    have thrown : core.getVector core.byte numBytes.toInt this.data memory offset maxlen 4 = _ ↔
        _ ∨ _ ∧ core.operatorNew (offset + (4 : Nat)) _ = _ :=
      CoreTypes.getVector_thrown_iff lawful.byte small within room
    rw [Nat.cast_ofNat] at thrown
    rw [← thrown, Parser.bind]
    cases core.getVector core.byte numBytes.toInt this.data memory offset maxlen 4 with
    | error failure => simp only [Except.error.injEq]
    | ok result => constructor <;> intro impossible <;> cases impossible
  change Parser.bind core.int32.decodeOne _ memory offset maxlen 0 = _ ↔ _
  constructor
  · intro thrown
    rw [Parser.bind] at thrown
    cases first : core.int32.decodeOne memory offset maxlen 0 with
    | error failure =>
        rw [first] at thrown
        cases thrown
        cases lawful.int32.rejectsOne within 0 0 _ (Nat.le_refl 0) within.nonneg first
    | ok result =>
        obtain ⟨stop, numBytes⟩ := result
        obtain ⟨ends, bytes, rfl, held, rfl⟩ :=
          lawful.int32.acceptsOne memory offset maxlen 0 stop numBytes within within.nonneg first
        rw [first] at thrown
        simp only [lawful.int32.sized, Nat.zero_add] at ends thrown
        have room : 4 ≤ maxlen := by omega
        exact ⟨room, numBytes, by simpa using held, (rest numBytes room).mp thrown⟩
  · rintro ⟨room, numBytes, held, fails⟩
    have width := lawful.int32.sized numBytes
    rcases (lawful.int32.decodeOne numBytes).fits memory offset maxlen 0 within (by omega)
      (by simpa using held) with ⟨_, rfl, read⟩ | ⟨_, never, _⟩
    · rw [Parser.bind, read, width]
      exact (rest _ room).mpr fails
    · exact False.elim never

/-- An exception leaves `byte_array_t::decode` on the messages with its hash and a count that
the vector cannot be resized to, and on no other bytes: it is resized outside of any `try`,
before it is known that there are so many bytes. -/
theorem class_byte_array_throws_iff (this : Lcmtest.ByteArrayT) (memory : Memory UInt8)
    (offset maxlen : Int) (within : Window offset maxlen) :
    (Lcmtest.byteArrayT core).decode core this memory offset maxlen = .error .thrown ↔
      12 ≤ maxlen ∧ ∃ numBytes : Int32,
        Holds memory offset (wire.int64 MessageType.byteArray.fingerprint.toInt64 ++
          wire.int32 numBytes) ∧
        (numBytes.toInt < 0 ∨ (this.data.length : Int) < numBytes.toInt ∧
          core.operatorNew (offset + 12) numBytes.toInt = false) := by
  have hash : (Lcmtest.byteArrayT core).getHash = MessageType.byteArray.fingerprint.toInt64 := rfl
  have width := lawful.int64.sized MessageType.byteArray.fingerprint.toInt64
  have place : offset + 12 = offset + 8 + 4 := by omega
  change Parser.bind core.int64.decodeOne _ memory offset maxlen 0 = _ ↔ _
  simp only [holds_append, width, place]
  constructor
  · intro thrown
    rw [Parser.bind] at thrown
    cases first : core.int64.decodeOne memory offset maxlen 0 with
    | error failure =>
        rw [first] at thrown
        cases thrown
        cases lawful.int64.rejectsOne within 0 0 _ (Nat.le_refl 0) within.nonneg first
    | ok result =>
        obtain ⟨stop, msgHash⟩ := result
        obtain ⟨ends, bytes, rfl, held, rfl⟩ :=
          lawful.int64.acceptsOne memory offset maxlen 0 stop msgHash within within.nonneg first
        rw [first] at thrown
        simp only [lawful.int64.sized, Nat.zero_add] at thrown ends
        have left := within.rest (by decide : (0 : Int) ≤ 8) (by omega)
        split at thrown
        · cases thrown
        · next same =>
            rw [hash, not_not] at same
            obtain ⟨room, numBytes, count, fails⟩ :=
              (byteArray_thrown_iff lawful this memory left).mp
                (Parser.call_eq_error_iff.mp thrown)
            rw [same] at held
            exact ⟨by omega, numBytes, ⟨by simpa using held, count⟩, fails⟩
  · rintro ⟨room, numBytes, ⟨held, count⟩, fails⟩
    have left := within.rest (by decide : (0 : Int) ≤ 8) (by omega)
    rcases (lawful.int64.decodeOne MessageType.byteArray.fingerprint.toInt64).fits memory offset
      maxlen 0 within (by omega) (by simpa using held) with ⟨_, rfl, read⟩ | ⟨_, never, _⟩
    · rw [Parser.bind, read]
      simp only [width, Nat.zero_add, hash, ne_eq, not_true_eq_false, if_false]
      exact Parser.call_eq_error_iff.mpr ((byteArray_thrown_iff lawful this memory left).mpr
        ⟨by omega, numBytes, count, fails⟩)
    · exact False.elim never

end Exceptions

theorem class_byte_array_throws_iff_minus_one :
    (Lcmtest.byteArrayT (bigEndianTypes true)).decode (bigEndianTypes true) ⟨0, []⟩
      (store (fun _ => 0) 0 (bigEndianWire.int64 MessageType.byteArray.fingerprint.toInt64 ++
        bigEndianWire.int32 (-1))) 0 12 = .error .thrown :=
  (class_byte_array_throws_iff (bigEndian_lawful true) ⟨0, []⟩ _ 0 12
    ⟨by decide, by decide, by decide⟩).mpr
    ⟨by decide, -1, holds_store (fun _ => 0) 0 _, .inl (by decide)⟩

end VelaExternal.Lcm

import VelaExternal.Lcm.BigEndianTypes
import VelaExternal.Lcm.Node

/-!
# Messages

A message is the hash of its type and then the value. What the functions of a type write
is read back by the same type in full, and by no other.
-/

set_option autoImplicit false

namespace VelaExternal.Lcm

open VelaExternal.Systems

namespace MessageType

def format (wire : Wire) : (type : MessageType) → type.Value → List UInt8
  | .primitives => LcmtestPrimitivesT.format wire
  | .primitivesList => LcmtestPrimitivesListT.format wire
  | .multidimArray => LcmtestMultidimArrayT.format wire
  | .node => LcmtestNodeT.format wire
  | .bools => LcmtestBoolsT.format wire
  | .byteArray => LcmtestByteArrayT.format wire
  | .comments => LcmtestCommentsT.format wire
  | .exampleconst => LcmtestExampleconstT.format wire
  | .anotherType => Lcmtest2AnotherTypeT.format wire
  | .crossPackage => Lcmtest2CrossPackageT.format wire
  | .arrays => Lcmtest3ArraysT.format wire

/-- No count in the value is negative, and trees have the children that they say. -/
def Valid : (type : MessageType) → type.Value → Prop
  | .primitives => LcmtestPrimitivesT.Valid
  | .primitivesList => LcmtestPrimitivesListT.Valid
  | .multidimArray => LcmtestMultidimArrayT.Valid
  | .node => LcmtestNodeT.WellFormed
  | .bools => LcmtestBoolsT.Valid
  | .byteArray => LcmtestByteArrayT.Valid
  | .comments => LcmtestCommentsT.Valid
  | .exampleconst => fun _ => True
  | .anotherType => fun _ => True
  | .crossPackage => Lcmtest2CrossPackageT.Valid
  | .arrays => fun _ => True

def fingerprint : MessageType → UInt64
  | .primitives => rotate 0xc2731598914f36aa
  | .primitivesList => rotate (0xaedf3d0724cd948b + rotate 0xc2731598914f36aa)
  | .multidimArray => rotate 0x1e012473deb4cfbb
  | .node => rotate 0x98ff4a363aeb7273
  | .bools => rotate 0x91cff66a81b52b83
  | .byteArray => rotate 0x870c7477e270debf
  | .comments => rotate 0x4c8ffa86357c7d7e
  | .exampleconst => rotate 0x1ea3d29b9ee2e009
  | .anotherType => rotate 0xd21b643a1f224c57
  | .crossPackage =>
      rotate (0xbbd3dd8a23ec1955 + rotate 0xc2731598914f36aa + rotate 0xd21b643a1f224c57)
  | .arrays => rotate 0x3f2258e55559faf8

def message (wire : Wire) (type : MessageType) (p : type.Value) : List UInt8 :=
  wire.int64 type.fingerprint.toInt64 ++ type.format wire p

/-- The size of the message is an `int`. -/
structure Sendable (wire : Wire) (type : MessageType) (p : type.Value) : Prop where
  valid : type.Valid p
  short : (type.message wire p).length < 2 ^ 31

section Laws

variable {core : CoreTypes} {wire : Wire} (lawful : core.Lawful wire)

include lawful

theorem follows : (type : MessageType) →
    (type.element core).Follows (type.format wire) type.Valid core.MallocFails
  | .primitives => LcmtestPrimitivesT.follows lawful
  | .primitivesList => LcmtestPrimitivesListT.follows lawful
  | .multidimArray => LcmtestMultidimArrayT.follows lawful
  | .node => LcmtestNodeT.follows lawful
  | .bools => LcmtestBoolsT.follows lawful
  | .byteArray => LcmtestByteArrayT.follows lawful
  | .comments => LcmtestCommentsT.follows lawful
  | .exampleconst => LcmtestExampleconstT.follows lawful
  | .anotherType => Lcmtest2AnotherTypeT.follows lawful
  | .crossPackage => Lcmtest2CrossPackageT.follows lawful
  | .arrays => Lcmtest3ArraysT.follows lawful

/-- A tree is hashed inside its own hash, where it counts for nothing. -/
theorem hashRecursive_nil (type : MessageType) :
    (type.element core).hashRecursive [] = type.fingerprint := by
  cases type with
  | node =>
      change LcmtestNodeT.hashRecursive core [] = _
      rw [LcmtestNodeT.hashRecursive, LcmtestNodeT.hashRecursive]
      simp [fingerprint, lawful.int32.hash]
  | _ =>
      simp [element, fingerprint, lcmtestPrimitivesT, lcmtestPrimitivesListT, lcmtestMultidimArrayT,
        lcmtestBoolsT, lcmtestByteArrayT, lcmtestCommentsT, lcmtestExampleconstT,
        lcmtest2AnotherTypeT, lcmtest2CrossPackageT, lcmtest3ArraysT, hashOnce,
        lawful.boolean.hash, lawful.byte.hash, lawful.int8.hash, lawful.int16.hash,
        lawful.int32.hash, lawful.int64.hash, lawful.float.hash, lawful.double.hash,
        lawful.string_hash]

theorem getHash (type : MessageType) :
    (type.element core).getHash = type.fingerprint.toInt64 := by
  rw [Element.getHash, hashRecursive_nil lawful]

variable {type : MessageType} {p : type.Value}

theorem encodedSize (sendable : type.Sendable wire p) :
    (type.element core).encodedSize p = some ((type.message wire p).length : Int) := by
  have short := sendable.short
  rw [message, List.length_append, lawful.int64.sized] at short ⊢
  have rest := (follows lawful type).array.sizeOne sendable.valid 8 (by decide) (by omega)
  rw [Element.encodedSize, rest, Int.natCast_add]
  rfl

theorem encodeMessage (valid : type.Valid p) :
    ((type.element core).encodeMessage core p).Writes (type.message wire p) := by
  refine Pieces.encodeAll (.cons ?_ (.single ((follows lawful type).array.encodeOne valid)))
  rw [getHash lawful]
  exact lawful.int64.follows.encodeOne trivial

theorem decodeMessage (valid : type.Valid p) :
    ((type.element core).decodeMessage core).Reads Failure.Negative core.MallocFails
      (type.message wire p) (· = p) := by
  refine (Parser.Reads.bind (lawful.int64.decodeOne _) fun thisHash same => ?_).run
  rw [if_neg (by rw [same, getHash lawful]; simp)]
  exact (follows lawful type).array.decodeOne valid

end Laws

end MessageType

/-!
## Encoding and decoding
-/

section Messages

variable {core : CoreTypes} {wire : Wire} (lawful : core.Lawful wire) (type : MessageType)
  (p : type.Value) (sendable : type.Sendable wire p)

include lawful sendable

/-- The encoder of every type needs exactly the size that is computed for the message. Where
it has that room it writes nothing else, and where it has not it stays inside its window. -/
theorem message_encode_exact (before : Memory UInt8) (offset maxlen : Int)
    (within : Window offset maxlen) :
    ∃ size, (type.element core).encodedSize p = some size ∧
      (size ≤ maxlen →
        ((type.element core).encodeMessage core p before offset maxlen).2 = size ∧
        Unchanged before ((type.element core).encodeMessage core p before offset maxlen).1 offset
          size) ∧
      (maxlen < size →
        ((type.element core).encodeMessage core p before offset maxlen).2 < 0 ∧
        Unchanged before ((type.element core).encodeMessage core p before offset maxlen).1 offset
          maxlen) := by
  have writes := MessageType.encodeMessage lawful sendable.valid
  refine ⟨_, MessageType.encodedSize lawful sendable, fun room => ?_, ?_⟩
  · obtain ⟨size, _, unchanged⟩ := writes.fits before offset maxlen within room
    exact ⟨size, unchanged⟩
  · exact writes.short before offset maxlen within sendable.short

end Messages

theorem pair_sendable : MessageType.node.Sendable bigEndianWire .pair :=
  ⟨LcmtestNodeT.pair_wellFormed, by decide⟩

theorem message_encode_exact_pair :
    ((MessageType.node.element (bigEndianTypes true)).encodeMessage (bigEndianTypes true) .pair
      (fun _ => 0) 3 24).2 = 20 ∧
    ((MessageType.node.element (bigEndianTypes true)).encodeMessage (bigEndianTypes true) .pair
      (fun _ => 0) 3 19).2 < 0 := by
  obtain ⟨size, sized, enough, _⟩ := message_encode_exact (bigEndian_lawful true) .node .pair
    pair_sendable (fun _ => 0) 3 24 ⟨by decide, by decide, by decide⟩
  obtain ⟨size', sized', _, short⟩ := message_encode_exact (bigEndian_lawful true) .node .pair
    pair_sendable (fun _ => 0) 3 19 ⟨by decide, by decide, by decide⟩
  obtain rfl : (20 : Int) = size := Option.some.inj sized
  obtain rfl : (20 : Int) = size' := Option.some.inj sized'
  exact ⟨(enough (by decide)).1, (short (by decide)).1⟩

section RoundTrip

variable {core : CoreTypes} {wire : Wire} (lawful : core.Lawful wire) (type : MessageType)
  (p : type.Value) (sendable : type.Sendable wire p)

include lawful sendable

end RoundTrip

section Trees

variable {core : CoreTypes} {wire : Wire} (lawful : core.Lawful wire)

include lawful

end Trees

end VelaExternal.Lcm

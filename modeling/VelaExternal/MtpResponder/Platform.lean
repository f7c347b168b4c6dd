import Mathlib.Algebra.Group.Nat.Defs
import Mathlib.Data.List.Basic

/-!
# Platform vocabulary of the MTP responder

Error numbers, the fixed-width integers of the driver and the messages of its
queues. Message kinds and fields come from code outside the repository; they
are known here only as far as the driver uses them.
-/

set_option autoImplicit false

namespace VelaExternal.MtpResponder

inductive Errno where
  | eintr
  | eagain
  | eio
  | enomem
  | ecanceled
  | eshutdown
  | other (code : Nat)
  deriving DecidableEq

/-- Conversion to `mtp_uint32`. -/
def toUint32 (value : Int) : Nat := (BitVec.ofInt 32 value).toNat

/-- Conversion to `mtp_int32`. -/
def toInt32 (value : Int) : Int := (BitVec.ofInt 32 value).toInt

/-- Conversion to `size_t`. -/
def toSizeT (value : Int) : Nat := (BitVec.ofInt 64 value).toNat

theorem toUint32_of_lt {value : Nat} (bounded : value < 2 ^ 32) : toUint32 value = value := by
  rw [toUint32, BitVec.toNat_ofInt]
  omega

theorem toInt32_of_lt {value : Nat} (bounded : value < 2 ^ 31) : toInt32 value = value := by
  rw [toInt32, BitVec.toInt_ofInt, Int.bmod_eq_of_le] <;> omega

theorem toUint32_le (value : Nat) : toUint32 value ≤ value := by
  rw [toUint32, BitVec.toNat_ofInt]
  omega

theorem toInt32_le (value : Nat) : toInt32 value ≤ value := by
  rw [toInt32, BitVec.toInt_ofInt, Int.bmod]
  split <;> omega

inductive MsgType where
  | undefined
  | bulk
  | data
  | event
  | zlp
  | other (code : Nat)
  deriving DecidableEq

/-- A heap block together with its contents; `block` identifies the allocation. -/
structure Buffer where
  block : Nat
  bytes : List UInt8
  deriving DecidableEq

/-- `msgq_ptr_t`; a null `buffer` is `none`. -/
structure MsgqPtr where
  mtype : MsgType
  length : Nat
  buffer : Option Buffer
  deriving DecidableEq

/-- The bytes from `offset` on that a buffer pointer leads to. -/
def bytesAt (buffer : Option Buffer) (offset count : Nat) : List UInt8 :=
  (((buffer.map Buffer.bytes).getD []).drop offset).take count

def MsgqPtr.payload (message : MsgqPtr) : List UInt8 := bytesAt message.buffer 0 message.length

/-- The allocations that a buffer pointer refers to: none or one. -/
def blocksOf (buffer : Option Buffer) : List Nat := (buffer.map Buffer.block).toList

def MsgqPtr.blocks (message : MsgqPtr) : List Nat := blocksOf message.buffer

theorem take_bytesAt (buffer : Option Buffer) (offset : Nat) {count total : Nat}
    (within : count ≤ total) :
    (bytesAt buffer offset total).take count = bytesAt buffer offset count := by
  simp only [bytesAt, List.take_take, Nat.min_eq_left within]

theorem drop_bytesAt (buffer : Option Buffer) (offset count total : Nat) :
    (bytesAt buffer offset total).drop count = bytesAt buffer (offset + count) (total - count) := by
  simp only [bytesAt, List.drop_take, List.drop_drop]

@[simp] theorem bytesAt_zero (buffer : Option Buffer) (offset : Nat) :
    bytesAt buffer offset 0 = [] := by
  simp only [bytesAt, List.take_zero]

@[simp] theorem blocksOf_none : blocksOf none = [] := rfl

end VelaExternal.MtpResponder

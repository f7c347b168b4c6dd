import Mathlib.Data.List.Induction
import VelaExternal.Systems.Marshal

/-!
# Big-endian numbers

Numbers as a fixed number of bytes, the most significant first, and arrays of values that
are represented so in a window of memory.
-/

set_option autoImplicit false

namespace VelaExternal.Systems

def bigEndian : (width value : Nat) → List UInt8
  | 0, _ => []
  | width + 1, value => bigEndian width (value / 256) ++ [.ofNat value]

def ofBigEndian (bytes : List UInt8) : Nat :=
  bytes.foldl (fun value byte => 256 * value + byte.toNat) 0

@[simp] theorem length_bigEndian (width value : Nat) : (bigEndian width value).length = width := by
  induction width generalizing value with
  | zero => rfl
  | succ width ih => rw [bigEndian, List.length_append, ih, List.length_singleton]

theorem ofBigEndian_append (bytes : List UInt8) (byte : UInt8) :
    ofBigEndian (bytes ++ [byte]) = 256 * ofBigEndian bytes + byte.toNat := by
  simp [ofBigEndian]

theorem ofBigEndian_bigEndian (width value : Nat) :
    ofBigEndian (bigEndian width value) = value % 256 ^ width := by
  induction width generalizing value with
  | zero => simp [bigEndian, ofBigEndian, Nat.mod_one]
  | succ width ih =>
      have power : 256 ^ (width + 1) = 256 * 256 ^ width := by rw [Nat.pow_succ, Nat.mul_comm]
      rw [bigEndian, ofBigEndian_append, ih, UInt8.toNat_ofNat', power, Nat.mod_mul]
      exact Nat.add_comm _ _

theorem bigEndian_ofBigEndian (bytes : List UInt8) :
    bigEndian bytes.length (ofBigEndian bytes) = bytes := by
  induction bytes using List.reverseRecOn with
  | nil => rfl
  | append_singleton bytes byte ih =>
      have small := byte.toNat_lt
      have quotient : (256 * ofBigEndian bytes + byte.toNat) / 256 = ofBigEndian bytes := by omega
      have digit : UInt8.ofNat (256 * ofBigEndian bytes + byte.toNat) = byte := by
        apply UInt8.toNat_inj.mp
        rw [UInt8.toNat_ofNat']
        omega
      rw [List.length_append, List.length_singleton, bigEndian, ofBigEndian_append, quotient, digit,
        ih]

theorem ofBigEndian_lt (bytes : List UInt8) : ofBigEndian bytes < 256 ^ bytes.length := by
  have same := ofBigEndian_bigEndian bytes.length (ofBigEndian bytes)
  rw [bigEndian_ofBigEndian] at same
  rw [same]
  exact Nat.mod_lt _ (Nat.pow_pos (by decide))

/-!
## Arrays in memory
-/

universe u

section Arrays

variable {Byte : Type u} {memory : Memory Byte} {address : Int}

/-- Memory after `bytes` have been stored. -/
def store (memory : Memory Byte) (address : Int) (bytes : List Byte) : Memory Byte := fun place =>
  if address ≤ place then bytes[(place - address).toNat]?.getD (memory place) else memory place

theorem holds_store (memory : Memory Byte) (address : Int) (bytes : List Byte) :
    Holds (store memory address bytes) address bytes := by
  intro index inside
  have place : (address + index - address).toNat = index := by omega
  rw [store, if_pos (by omega), place, List.getElem?_eq_getElem inside, Option.getD_some]

theorem unchanged_store (memory : Memory Byte) (address : Int) (bytes : List Byte) :
    Unchanged memory (store memory address bytes) address bytes.length := by
  rintro place (before | after)
  · rw [store, if_neg (by omega)]
  · rw [store]
    split
    · rw [List.getElem?_eq_none (by omega), Option.getD_none]
    · rfl

variable {Value : Type u} {format : Value → List Byte} (parse : List Byte → Value) {width : Nat}

/-- So many values, each from `width` bytes. -/
def readArray (width : Nat) (memory : Memory Byte) :
    (count : Nat) → (address : Int) → {values : List Value // values.length = count}
  | 0, _ => ⟨[], List.length_nil⟩
  | count + 1, address =>
      ⟨parse (window memory address width) :: readArray width memory count (address + width),
        congrArg Nat.succ (readArray width memory count (address + width)).property⟩

theorem holds_readArray (inverse : ∀ bytes, bytes.length = width → format (parse bytes) = bytes)
    (count : Nat) (address : Int) :
    Holds memory address ((readArray parse width memory count address).val.flatMap format) := by
  induction count generalizing address with
  | zero => exact holds_nil memory address
  | succ count ih =>
      simp only [readArray, List.flatMap_cons, inverse _ (length_window ..)]
      refine holds_append.mpr ⟨holds_window memory address width, ?_⟩
      rw [length_window]
      exact ih _

theorem readArray_of_holds (sized : ∀ value, (format value).length = width)
    (inverse : ∀ value, parse (format value) = value) {count : Nat} {address : Int}
    (values : {values : List Value // values.length = count})
    (holds : Holds memory address (values.val.flatMap format)) :
    readArray parse width memory count address = values := by
  apply Subtype.ext
  obtain ⟨values, rfl⟩ := values
  induction values generalizing address with
  | nil => rfl
  | cons value values ih =>
      simp only [List.flatMap_cons] at holds
      obtain ⟨first, rest⟩ := holds_append.mp holds
      rw [sized] at rest
      have head := holds_iff_window.mp first
      rw [sized] at head
      simp only [List.length_cons, readArray, head, inverse]
      exact congrArg (value :: ·) (ih rest)

end Arrays

end VelaExternal.Systems

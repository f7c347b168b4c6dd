import Mathlib.Data.List.Basic

/-!
# C strings

NUL-terminated strings, given by the characters before the terminator, and the functions
of `string.h` on them. The `Reads` of a function is how many characters of its string it
looks at, with the terminator counted as one.
-/

set_option autoImplicit false

namespace VelaExternal.Systems

/-- The characters before the terminator of a string. -/
@[ext] structure CString where
  chars : List UInt8
  nonzero : 0 ∉ chars
  deriving DecidableEq

def ascii (text : String) : List UInt8 := text.toList.map fun char => UInt8.ofNat char.toNat

def CString.literal (text : String) : CString where
  chars := (ascii text).filter fun char => char ≠ 0
  nonzero := by simp

/-!
## Comparison
-/

def strncmp : List UInt8 → List UInt8 → Nat → Int
  | _, _, 0 => 0
  | [], [], _ + 1 => 0
  | [], second :: _, _ + 1 => -second.toNat
  | first :: _, [], _ + 1 => first.toNat
  | first :: firsts, second :: seconds, count + 1 =>
      if first = second then strncmp firsts seconds count else first.toNat - second.toNat

/-- `strncmp` looks at as many characters of one string as of the other. -/
def strncmpReads : List UInt8 → List UInt8 → Nat → Nat
  | _, _, 0 => 0
  | [], _, _ + 1 => 1
  | _ :: _, [], _ + 1 => 1
  | first :: firsts, second :: seconds, count + 1 =>
      if first = second then strncmpReads firsts seconds count + 1 else 1

/-- `strcmp` goes on to the terminator. -/
def strcmp (first second : List UInt8) : Int := strncmp first second (first.length + 1)

def strcmpReads (first second : List UInt8) : Nat := strncmpReads first second (first.length + 1)

theorem strncmp_eq_zero_iff {first second : List UInt8} (first_nonzero : 0 ∉ first)
    (second_nonzero : 0 ∉ second) (count : Nat) :
    strncmp first second count = 0 ↔ first.take count = second.take count := by
  induction first, second, count using strncmp.induct with
  | case1 => simp [strncmp]
  | case2 => simp [strncmp]
  | case3 second seconds count =>
      have positive : second ≠ 0 := by
        intro zero
        exact second_nonzero (zero ▸ List.mem_cons_self)
      simpa [strncmp, ← UInt8.toNat_inj] using positive
  | case4 first firsts count =>
      have positive : first ≠ 0 := by
        intro zero
        exact first_nonzero (zero ▸ List.mem_cons_self)
      simpa [strncmp, ← UInt8.toNat_inj] using positive
  | case5 first firsts seconds count ih =>
      have same := ih (fun member => first_nonzero (List.mem_cons_of_mem _ member))
        (fun member => second_nonzero (List.mem_cons_of_mem _ member))
      simp [strncmp, same]
  | case6 first firsts second seconds count different =>
      have unequal : first.toNat ≠ second.toNat := fun same => different (UInt8.toNat_inj.mp same)
      simp only [strncmp, different, if_false, List.take_succ_cons, List.cons.injEq, false_and,
        iff_false]
      omega

theorem strncmp_eq_zero_iff_prefix {first second : List UInt8} (first_nonzero : 0 ∉ first)
    (second_nonzero : 0 ∉ second) {count : Nat} (within : count ≤ second.length) :
    strncmp first second count = 0 ↔ second.take count <+: first := by
  rw [strncmp_eq_zero_iff first_nonzero second_nonzero, List.prefix_iff_eq_take,
    List.length_take_of_le within]
  exact eq_comm

theorem strcmp_eq_zero_iff {first second : List UInt8} (first_nonzero : 0 ∉ first)
    (second_nonzero : 0 ∉ second) : strcmp first second = 0 ↔ first = second := by
  rw [strcmp, strncmp_eq_zero_iff first_nonzero second_nonzero,
    List.take_of_length_le (Nat.le_succ _)]
  constructor
  · intro same
    have short : second.length ≤ first.length + 1 := by
      have lengths := congrArg List.length same
      rw [List.length_take] at lengths
      omega
    rw [same, List.take_of_length_le short]
  · rintro rfl
    rw [List.take_of_length_le (Nat.le_succ _)]

/-- The test `strcmp(first, second) == 0`. -/
theorem CString.strcmp_eq_zero_iff {first second : CString} :
    strcmp first.chars second.chars = 0 ↔ first = second := by
  rw [Systems.strcmp_eq_zero_iff first.nonzero second.nonzero]
  exact CString.ext_iff.symm

theorem strncmpReads_le (first second : List UInt8) (count : Nat) :
    strncmpReads first second count ≤ count ∧
      strncmpReads first second count ≤ second.length + 1 := by
  induction first, second, count using strncmpReads.induct with
  | case1 => simp [strncmpReads]
  | case2 => simp [strncmpReads]
  | case3 => simp [strncmpReads]
  | case4 first firsts seconds count ih => simpa [strncmpReads] using ih
  | case5 first firsts second seconds count different => simp [strncmpReads, different]

theorem strcmpReads_le (first second : List UInt8) : strcmpReads first second ≤ first.length + 1 :=
  (strncmpReads_le ..).1

/-!
## Search
-/

def strchr (text : List UInt8) (char : UInt8) : Option Nat :=
  text.findIdx? fun other => other == char

def strchrReads (text : List UInt8) (char : UInt8) : Nat :=
  ((strchr text char).getD text.length) + 1

/-- What stands before the first `char`, or the whole string. -/
def before (text : List UInt8) (char : UInt8) : List UInt8 :=
  text.takeWhile fun other => other != char

theorem strchr_lt {text : List UInt8} {char : UInt8} {position : Nat}
    (found : strchr text char = some position) : position < text.length :=
  (List.findIdx?_eq_some_iff_getElem.mp found).1

theorem strchr_le (text : List UInt8) (char : UInt8) :
    (strchr text char).getD text.length ≤ text.length := by
  cases found : strchr text char with
  | none => exact Nat.le_refl _
  | some position => exact Nat.le_of_lt (strchr_lt found)

theorem take_strchr (text : List UInt8) (char : UInt8) :
    text.take ((strchr text char).getD text.length) = before text char := by
  have position : (strchr text char).getD text.length =
      text.findIdx fun other => !(other != char) := by
    simp only [bne, Bool.not_not]
    cases found : strchr text char with
    | none => exact (List.findIdx?_eq_none_iff_findIdx_eq.mp found).symm
    | some position => exact (List.findIdx?_eq_some_iff_findIdx_eq.mp found).2.symm
  rw [position, before, List.takeWhile_eq_take_findIdx_not]

theorem strchrReads_le (text : List UInt8) (char : UInt8) :
    strchrReads text char ≤ text.length + 1 :=
  Nat.succ_le_succ (strchr_le text char)

/-!
## Buffers
-/

/-- The string that a buffer holds, if a terminator stands in it. -/
def stringIn (buffer : List UInt8) : Option (List UInt8) :=
  if 0 ∈ buffer then some (before buffer 0) else none

/-- The buffer after its first bytes have been written, as far as it goes. -/
def overwrite (buffer bytes : List UInt8) : List UInt8 :=
  bytes.take buffer.length ++ buffer.drop bytes.length

theorem stringIn_append {chars : List UInt8} (nonzero : 0 ∉ chars) (rest : List UInt8) :
    stringIn (chars ++ 0 :: rest) = some chars := by
  have kept : ∀ char ∈ chars, (char != 0) = true := by
    intro char member
    rw [bne_iff_ne]
    rintro rfl
    exact nonzero member
  unfold stringIn before
  rw [if_pos (by simp), List.takeWhile_append_of_pos kept]
  simp

theorem stringIn_eq_none_iff {buffer : List UInt8} : stringIn buffer = none ↔ 0 ∉ buffer := by
  simp [stringIn]

/-- A terminator that is written inside the buffer ends the string in it. -/
theorem stringIn_overwrite {chars : List UInt8} (nonzero : 0 ∉ chars) (rest buffer : List UInt8)
    (fits : chars.length < buffer.length) :
    stringIn (overwrite buffer (chars ++ 0 :: rest)) = some chars := by
  have short : chars.length ≤ buffer.length := Nat.le_of_lt fits
  obtain ⟨left, size⟩ := Nat.exists_eq_add_of_lt fits
  have more : buffer.length - chars.length = left + 1 := by omega
  rw [overwrite, List.take_append, List.take_of_length_le short, more, List.take_succ_cons,
    List.append_assoc, List.cons_append]
  exact stringIn_append nonzero _

end VelaExternal.Systems

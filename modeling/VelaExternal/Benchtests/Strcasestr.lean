import VelaExternal.Systems.CString

/-!
# Plain search without regard to case

`simple_strcasestr` of `string/strcasestr.c`. Its inner loop finishes over an occurrence of
the needle, but the test for that stands inside the loop.
-/

set_option autoImplicit false

namespace VelaExternal.Benchtests

open Systems

/-- `tolower` of the C locale. -/
def tolower (c : UInt8) : UInt8 := if 65 ≤ c ∧ c ≤ 90 then c + 32 else c

/-- The characters of a string, with its terminator. -/
def charAt (s : CString) (index : Nat) : UInt8 := s.chars.getD index 0

/-!
## The two loops
-/

/-- How the inner loop ends: by `break`, by `return`, or by its condition. -/
inductive Scan where
  | broken
  | returned
  | finished
  deriving DecidableEq

/-- The inner loop, with `remaining` turns to go. -/
def scan (s1 s2 : CString) (i : Nat) : Nat → Nat → Scan
  | 0, _ => .finished
  | remaining + 1, j =>
      if tolower (charAt s1 (i + j)) ≠ tolower (charAt s2 j) then .broken
      else if j = s2.chars.length then .returned
      else scan s1 s2 i remaining (j + 1)

/-- The outer loop. -/
def search (s1 s2 : CString) : Nat → Nat → Option Nat
  | 0, _ => none
  | remaining + 1, i =>
      match scan s1 s2 i s2.chars.length 0 with
      | .returned => some i
      | .broken | .finished => search s1 s2 remaining (i + 1)

/-- The offset of the result in `s1`, or `none` for `NULL`. -/
def simpleStrcasestr (s1 s2 : CString) : Option Nat :=
  let s1len := s1.chars.length
  let s2len := s2.chars.length
  if s2len > s1len then none else search s1 s2 (s1len - s2len + 1) 0

/-!
## Occurrences
-/

variable {s1 s2 : CString}

def OccursAt (s1 s2 : CString) (i : Nat) : Prop :=
  ∀ j < s2.chars.length, tolower (charAt s1 (i + j)) = tolower (charAt s2 j)

instance (s1 s2 : CString) (i : Nat) : Decidable (OccursAt s1 s2 i) :=
  inferInstanceAs (Decidable (∀ j < _, _))

/-- The inner loop finishes where all the characters that it has left agree. -/
theorem scan_finished_iff {i remaining j : Nat} (left : j + remaining = s2.chars.length) :
    scan s1 s2 i remaining j = .finished ↔
      ∀ k < s2.chars.length, j ≤ k → tolower (charAt s1 (i + k)) = tolower (charAt s2 k) := by
  induction remaining generalizing j with
  | zero =>
      refine iff_of_true rfl ?_
      intro k within from_j
      omega
  | succ remaining ih =>
      have inside : j ≠ s2.chars.length := by omega
      have later := ih (by omega : j + 1 + remaining = s2.chars.length)
      by_cases same : tolower (charAt s1 (i + j)) = tolower (charAt s2 j)
      · rw [scan, if_neg (not_not.mpr same), if_neg inside, later]
        constructor
        · intro rest k within from_j
          rcases Nat.eq_or_lt_of_le from_j with rfl | after_j
          · exact same
          · exact rest k within after_j
        · intro all k within after_j
          exact all k within (Nat.le_of_succ_le after_j)
      · rw [scan, if_pos same]
        refine iff_of_false (by decide) ?_
        intro all
        exact same (all j (by omega) (Nat.le_refl j))

private theorem occursAt_iff_scan {i : Nat} :
    OccursAt s1 s2 i ↔ scan s1 s2 i s2.chars.length 0 = .finished := by
  rw [scan_finished_iff (Nat.zero_add _)]
  constructor
  · intro occurs k within _
    exact occurs k within
  · intro all k within
    exact all k within (Nat.zero_le k)

private theorem tolower_eq_zero_iff {c : UInt8} : tolower c = 0 ↔ c = 0 := by
  unfold tolower
  grind

private theorem charAt_eq_zero_iff {s : CString} {index : Nat} :
    charAt s index = 0 ↔ s.chars.length ≤ index := by
  rw [charAt, List.getD_eq_getElem?_getD]
  by_cases inside : index < s.chars.length
  · have nonzero : s.chars[index] ≠ 0 := by
      intro zero
      exact s.nonzero (zero ▸ List.getElem_mem inside)
    simp [inside, nonzero]
  · simp [inside, Nat.not_lt.mp inside]

/-- The first occurrence is among the offsets that the outer loop comes by, and the inner
loop finishes over it. -/
theorem first_occurrence_visited {i : Nat} (occurs : OccursAt s1 s2 i)
    (first : ∀ k < i, ¬ OccursAt s1 s2 k) :
    i + s2.chars.length ≤ s1.chars.length ∧ scan s1 s2 i s2.chars.length 0 = .finished := by
  refine ⟨?_, occursAt_iff_scan.mp occurs⟩
  cases size : s2.chars.length with
  | zero =>
      have empty : OccursAt s1 s2 0 := by
        intro j within
        omega
      have start : ¬ 0 < i := fun later => first 0 later empty
      omega
  | succ last =>
      have agree := occurs last (by omega)
      have inside : ¬ s2.chars.length ≤ last := by omega
      rw [← charAt_eq_zero_iff, ← tolower_eq_zero_iff, ← agree, tolower_eq_zero_iff,
        charAt_eq_zero_iff] at inside
      omega

/-- The inner loop never gets to its `return`. -/
theorem scan_ne_returned {i remaining j : Nat} (left : j + remaining = s2.chars.length) :
    scan s1 s2 i remaining j ≠ .returned := by
  induction remaining generalizing j with
  | zero => exact nofun
  | succ remaining ih =>
      have inside : j ≠ s2.chars.length := by omega
      have later := ih (by omega : j + 1 + remaining = s2.chars.length)
      by_cases same : tolower (charAt s1 (i + j)) = tolower (charAt s2 j)
      · rwa [scan, if_neg (not_not.mpr same), if_neg inside]
      · rw [scan, if_pos same]
        exact nofun

private theorem search_eq_none (remaining i : Nat) : search s1 s2 remaining i = none := by
  induction remaining generalizing i with
  | zero => rfl
  | succ remaining ih =>
      have never : scan s1 s2 i s2.chars.length 0 ≠ .returned :=
        scan_ne_returned (Nat.zero_add s2.chars.length)
      unfold search
      split
      next returned => exact absurd returned never
      next => exact ih (i + 1)
      next => exact ih (i + 1)

private theorem simpleStrcasestr_eq_none (s1 s2 : CString) : simpleStrcasestr s1 s2 = none := by
  simp only [simpleStrcasestr, search_eq_none, ite_self]

/-- The result is the first occurrence, or `NULL` when there is none. -/
structure FindsFirst (s1 s2 : CString) (result : Option Nat) : Prop where
  found : ∀ i, result = some i ↔ OccursAt s1 s2 i ∧ ∀ k < i, ¬ OccursAt s1 s2 k
  absent : result = none ↔ ∀ i, ¬ OccursAt s1 s2 i

/-- `simple_strcasestr` finds the first occurrence just when there is none, although its outer
loop comes by the first occurrence and its inner loop finishes over it. -/
theorem simple_strcasestr_finds_iff (s1 s2 : CString) :
    (FindsFirst s1 s2 (simpleStrcasestr s1 s2) ↔ ∀ i, ¬ OccursAt s1 s2 i) ∧
      ∀ i, OccursAt s1 s2 i → (∀ k < i, ¬ OccursAt s1 s2 k) →
        i + s2.chars.length ≤ s1.chars.length ∧ scan s1 s2 i s2.chars.length 0 = .finished := by
  refine ⟨?_, fun i occurs first => first_occurrence_visited occurs first⟩
  rw [simpleStrcasestr_eq_none]
  constructor
  · intro finds
    exact finds.absent.mp rfl
  · intro nowhere
    constructor
    · intro i
      exact iff_of_false nofun fun first => nowhere i first.1
    · exact iff_of_true rfl nowhere

/-- A needle that stands in the haystack is not found, and neither is the empty one. -/
theorem simple_strcasestr_misses :
    (OccursAt (.literal "Vela") (.literal "EL") 1 ∧
      ¬ FindsFirst (.literal "Vela") (.literal "EL")
        (simpleStrcasestr (.literal "Vela") (.literal "EL"))) ∧
    ¬ FindsFirst (.literal "Vela") (.literal "")
        (simpleStrcasestr (.literal "Vela") (.literal "")) := by
  have occurs : OccursAt (.literal "Vela") (.literal "EL") 1 := by decide
  have empty : OccursAt (.literal "Vela") (.literal "") 0 := by decide
  refine ⟨⟨occurs, fun finds => ?_⟩, fun finds => ?_⟩
  · exact finds.absent.mp (by decide) 1 occurs
  · exact finds.absent.mp (by decide) 0 empty

end VelaExternal.Benchtests

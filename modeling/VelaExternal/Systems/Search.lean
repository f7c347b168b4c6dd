import Mathlib.Data.List.Basic

/-!
# First-match searches

When the first entry of a table that has an answer decides, the order of the entries does
not matter just when all the answers are the same.
-/

set_option autoImplicit false

namespace VelaExternal.Systems

universe u v

variable {Entry : Type u} {Answer : Type v} {answer : Entry → Option Answer}

/-- No two entries answer differently. -/
def Agree (answer : Entry → Option Answer) (table : List Entry) : Prop :=
  ∀ first ∈ table, ∀ second ∈ table, ∀ one other,
    answer first = some one → answer second = some other → one = other

theorem Agree.findSome?_eq {table permuted : List Entry} (agree : Agree answer table)
    (perm : permuted.Perm table) : permuted.findSome? answer = table.findSome? answer := by
  cases found : permuted.findSome? answer with
  | none =>
      symm
      rw [List.findSome?_eq_none_iff] at found ⊢
      intro entry member
      exact found entry (perm.mem_iff.mpr member)
  | some one =>
      obtain ⟨first, first_member, first_answer⟩ := List.exists_of_findSome?_eq_some found
      cases other_found : table.findSome? answer with
      | none =>
          have silent := List.findSome?_eq_none_iff.mp other_found first
            (perm.mem_iff.mp first_member)
          simp [first_answer] at silent
      | some other =>
          obtain ⟨second, second_member, second_answer⟩ :=
            List.exists_of_findSome?_eq_some other_found
          exact congrArg some (agree first (perm.mem_iff.mp first_member) second second_member
            one other first_answer second_answer)

/-- An entry that is moved to the front decides. -/
theorem findSome?_front {table : List Entry} {entry : Entry} {one : Answer}
    (member : entry ∈ table) (answers : answer entry = some one) :
    ∃ permuted : List Entry, permuted.Perm table ∧ permuted.findSome? answer = some one := by
  obtain ⟨earlier, later, rfl⟩ := List.append_of_mem member
  refine ⟨entry :: (earlier ++ later), List.perm_middle.symm, ?_⟩
  rw [List.findSome?_cons, answers]

theorem agree_iff {table : List Entry} (default : Answer) : Agree answer table ↔
    ∀ permuted : List Entry, permuted.Perm table →
      (permuted.findSome? answer).getD default = (table.findSome? answer).getD default := by
  constructor
  · intro agree permuted perm
    rw [agree.findSome?_eq perm]
  · intro same first first_member second second_member one other first_answer second_answer
    obtain ⟨front, front_perm, front_found⟩ := findSome?_front first_member first_answer
    obtain ⟨next, next_perm, next_found⟩ := findSome?_front second_member second_answer
    have front_same := same front front_perm
    have next_same := same next next_perm
    rw [front_found, Option.getD_some] at front_same
    rw [next_found, Option.getD_some] at next_same
    rw [front_same, next_same]

end VelaExternal.Systems

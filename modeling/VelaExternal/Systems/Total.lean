import Mathlib.Algebra.BigOperators.Group.Finset.Piecewise
import Mathlib.Algebra.Order.BigOperators.Group.Finset
import Mathlib.Data.Fintype.BigOperators

/-! Totals over finitely many tasks, and how one task's change moves them. -/

set_option autoImplicit false

namespace VelaExternal.Systems

universe u v

variable {Task : Type u} {Value : Type v} [Fintype Task]

def total (weight : Value → Nat) (values : Task → Value) : Nat :=
  ∑ task, weight (values task)

def countWhere (passes : Value → Bool) (values : Task → Value) : Nat :=
  total (fun value => (passes value).toNat) values

theorem total_update [DecidableEq Task] (weight : Value → Nat) (values : Task → Value)
    (task : Task) (value : Value) :
    total weight (Function.update values task value) + weight (values task) =
      total weight values + weight value := by
  have others : ∑ other ∈ Finset.univ.erase task,
      weight (Function.update values task value other) =
        ∑ other ∈ Finset.univ.erase task, weight (values other) := by
    apply Finset.sum_congr rfl
    intro other member
    rw [Function.update_of_ne (Finset.ne_of_mem_erase member)]
  have member := Finset.mem_univ task
  unfold total
  rw [← Finset.sum_erase_add _ _ member, others, Function.update_self,
    ← Finset.sum_erase_add _ (fun other => weight (values other)) member]
  omega

theorem total_eq_zero_iff {weight : Value → Nat} {values : Task → Value} :
    total weight values = 0 ↔ ∀ task, weight (values task) = 0 := by
  simp only [total, Finset.sum_eq_zero_iff, Finset.mem_univ, true_implies]

theorem countWhere_update [DecidableEq Task] (passes : Value → Bool) (values : Task → Value)
    (task : Task) (value : Value) :
    countWhere passes (Function.update values task value) + (passes (values task)).toNat =
      countWhere passes values + (passes value).toNat :=
  total_update _ values task value

theorem countWhere_eq_zero_iff {passes : Value → Bool} {values : Task → Value} :
    countWhere passes values = 0 ↔ ∀ task, passes (values task) = false := by
  simp only [countWhere, total_eq_zero_iff, Bool.toNat_eq_zero]

theorem countWhere_eq_card (passes : Value → Bool) (values : Task → Value) :
    countWhere passes values = (Finset.univ.filter fun task => passes (values task)).card := by
  simp only [countWhere, total, Finset.card_filter, Bool.toNat, Bool.cond_eq_ite]

/-- A weight that is never more than one counts the tasks where it is one. -/
theorem total_eq_countWhere {weight : Value → Nat} {passes : Value → Bool}
    {values : Task → Value}
    (same : ∀ task, weight (values task) = (passes (values task)).toNat) :
    total weight values = countWhere passes values :=
  Finset.sum_congr rfl fun task _ => same task

end VelaExternal.Systems

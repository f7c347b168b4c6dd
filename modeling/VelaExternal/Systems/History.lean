import Mathlib.Data.List.Basic

/-!
# What may follow a marked entry

Histories in which some entries rule out others after them: a failure after which
nothing more is delivered, a cancellation after which nothing old is sent.
-/

set_option autoImplicit false

namespace VelaExternal.Systems

universe u

variable {Entry : Type u} {marked : Entry → Prop} {bad : Entry → Entry → Prop}

/-- No entry is followed, at any distance, by one that it rules out. -/
def NoneAfter (marked : Entry → Prop) (bad : Entry → Entry → Prop) (history : List Entry) : Prop :=
  history.Pairwise fun mark later => marked mark → ¬ bad mark later

instance [DecidablePred marked] [DecidableRel bad] (history : List Entry) :
    Decidable (NoneAfter marked bad history) :=
  inferInstanceAs (Decidable (history.Pairwise fun mark later => marked mark → ¬ bad mark later))

@[simp] theorem noneAfter_nil : NoneAfter marked bad [] := List.Pairwise.nil

theorem noneAfter_snoc {history : List Entry} {entry : Entry} :
    NoneAfter marked bad (history ++ [entry]) ↔
      NoneAfter marked bad history ∧ ∀ mark ∈ history, marked mark → ¬ bad mark entry := by
  simp only [NoneAfter, List.pairwise_append, List.pairwise_singleton, List.mem_singleton,
    forall_eq, true_and]

theorem noneAfter_of_unmarked {history : List Entry}
    (unmarked : ∀ entry ∈ history, ¬ marked entry) :
    NoneAfter marked bad history := by
  induction history with
  | nil => exact noneAfter_nil
  | cons entry rest ih =>
      simp only [List.mem_cons, forall_eq_or_imp] at unmarked
      exact .cons (fun _ _ mark => absurd mark unmarked.1) (ih unmarked.2)

theorem noneAfter_snoc_harmless {history : List Entry} {entry : Entry}
    (harmless : ∀ mark, ¬ bad mark entry) :
    NoneAfter marked bad (history ++ [entry]) ↔ NoneAfter marked bad history := by
  rw [noneAfter_snoc]
  exact and_iff_left fun mark _ _ => harmless mark

theorem not_noneAfter_snoc {history : List Entry} {mark entry : Entry} (member : mark ∈ history)
    (marks : marked mark) (ruled_out : bad mark entry) :
    ¬ NoneAfter marked bad (history ++ [entry]) := by
  rw [noneAfter_snoc]
  exact fun held => held.2 mark member marks ruled_out

end VelaExternal.Systems

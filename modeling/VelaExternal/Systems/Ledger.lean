import Mathlib.Data.List.Nodup
import Mathlib.Data.List.Perm.Basic

/-!
# Ownership ledgers

A ledger names, by lists, where resources have come from and gone to. Counts make
the order of the lists irrelevant: every resource acquired is released, held by
someone, or abandoned.
-/

set_option autoImplicit false

namespace VelaExternal.Systems

universe u v

variable {Resource : Type u} [DecidableEq Resource]

structure Balanced (acquired released held abandoned : List Resource) : Prop where
  count : ∀ resource, acquired.count resource =
    released.count resource + held.count resource + abandoned.count resource

/-- Each of `mine` has been released once or is held once, and not both. -/
def Accounted (mine released held : List Resource) : Prop :=
  ∀ resource ∈ mine, released.count resource + held.count resource = 1

instance (mine released held : List Resource) : Decidable (Accounted mine released held) :=
  inferInstanceAs (Decidable (∀ resource ∈ mine, _))

/-- Resources that are acquired once are all accounted for when none is abandoned. -/
theorem Balanced.accounted_iff {acquired released held abandoned mine : List Resource}
    (balanced : Balanced acquired released held abandoned) (distinct : acquired.Nodup)
    (mine_acquired : mine ⊆ acquired) (abandoned_mine : abandoned ⊆ mine) :
    Accounted mine released held ↔ abandoned = [] := by
  have once := List.nodup_iff_count_le_one.mp distinct
  constructor
  · intro accounted
    apply List.eq_nil_iff_forall_not_mem.mpr
    intro resource member
    have total := balanced.count resource
    have kept := accounted resource (abandoned_mine member)
    have lost := List.count_pos_iff.mpr member
    have at_most := once resource
    omega
  · rintro rfl resource member
    have total := balanced.count resource
    have present := List.count_pos_iff.mpr (mine_acquired member)
    have at_most := once resource
    simp only [List.count_nil] at total
    omega

/-!
## Owners
-/

section Owners

variable {Asset : Type u} {Owner : Type v} {own : Owner → List Asset} {live : List Asset}
  {owners : List Owner} {owner : Owner}

/-- The live assets are those of the owners, each of them once. -/
structure Owned (own : Owner → List Asset) (live : List Asset) (owners : List Owner) : Prop where
  perm : live.Perm (owners.flatMap own)
  distinct : live.Nodup

theorem Owned.acquire (owned : Owned own live owners) (new : Owner)
    (fresh : (live ++ own new).Nodup) : Owned own (live ++ own new) (new :: owners) where
  perm := List.perm_append_comm.trans (owned.perm.append_left (own new))
  distinct := fresh

variable [DecidableEq Owner]

theorem Owned.perm_erase (owned : Owned own live owners) (member : owner ∈ owners) :
    live.Perm (own owner ++ (owners.erase owner).flatMap own) :=
  owned.perm.trans ((List.perm_cons_erase member).flatMap_right own)

variable [DecidableEq Asset]

/-- What is live is what one owner has and what is left without it. -/
theorem Owned.perm_diff (owned : Owned own live owners) (member : owner ∈ owners) :
    live.Perm (own owner ++ live.diff (own owner)) := by
  apply List.Perm.symm
  apply List.subperm_append_diff_self_of_count_le
  intro asset _
  rw [(owned.perm_erase member).count_eq, List.count_append]
  exact Nat.le_add_right _ _

theorem Owned.release (owned : Owned own live owners) (member : owner ∈ owners) :
    Owned own (live.diff (own owner)) (owners.erase owner) where
  perm := by
    have parts := (owned.perm_diff member).symm.trans (owned.perm_erase member)
    exact (List.perm_append_left_iff (own owner)).mp parts
  distinct := owned.distinct.sublist (List.diff_sublist ..)

end Owners

end VelaExternal.Systems

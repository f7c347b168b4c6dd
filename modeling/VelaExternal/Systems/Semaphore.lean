import Mathlib.Data.List.Nodup
import Mathlib.Logic.Function.Basic

/-!
# Counting semaphores

A semaphore whose count goes below zero by the number of tasks that it blocks.
-/

set_option autoImplicit false

namespace VelaExternal.Systems

universe u v

structure Semaphore (Task : Type u) where
  count : Int
  blocked : List Task
  accounted : blocked.length = (-count).toNat
  deriving DecidableEq

namespace Semaphore

variable {Task : Type u}

def init (value : Nat) : Semaphore Task where
  count := value
  blocked := []
  accounted := by
    simp only [List.length_nil]
    omega

theorem blocked_eq_nil_iff {semaphore : Semaphore Task} :
    semaphore.blocked = [] ↔ 0 ≤ semaphore.count := by
  have accounted := semaphore.accounted
  rw [← List.length_eq_zero_iff]
  omega

def Available (semaphore : Semaphore Task) : Prop := 0 < semaphore.count

instance (semaphore : Semaphore Task) : Decidable semaphore.Available :=
  inferInstanceAs (Decidable (_ < _))

def take (semaphore : Semaphore Task) (available : semaphore.Available) : Semaphore Task where
  count := semaphore.count - 1
  blocked := semaphore.blocked
  accounted := by
    have accounted := semaphore.accounted
    unfold Available at available
    omega

def block (semaphore : Semaphore Task) (task : Task) (unavailable : ¬ semaphore.Available) :
    Semaphore Task where
  count := semaphore.count - 1
  blocked := semaphore.blocked ++ [task]
  accounted := by
    have accounted := semaphore.accounted
    unfold Available at unavailable
    simp only [List.length_append, List.length_singleton]
    omega

/-- The count that a post hands to a blocked task, or an interrupted task gives back. -/
def release [DecidableEq Task] (semaphore : Semaphore Task) (task : Task)
    (member : task ∈ semaphore.blocked) : Semaphore Task where
  count := semaphore.count + 1
  blocked := semaphore.blocked.erase task
  accounted := by
    have accounted := semaphore.accounted
    have positive := List.length_pos_of_mem member
    rw [List.length_erase_of_mem member]
    omega

/-- A post that finds nobody blocked. -/
def bank (semaphore : Semaphore Task) (idle : semaphore.blocked = []) : Semaphore Task where
  count := semaphore.count + 1
  blocked := []
  accounted := by
    have nonneg := blocked_eq_nil_iff.mp idle
    simp only [List.length_nil]
    omega

def free (semaphore : Semaphore Task) : Nat := semaphore.count.toNat

theorem free_init (value : Nat) : (init value : Semaphore Task).free = value :=
  Int.toNat_natCast value

theorem free_take (semaphore : Semaphore Task) (available : semaphore.Available) :
    (semaphore.take available).free + 1 = semaphore.free := by
  unfold Available at available
  simp only [free, take]
  omega

theorem free_block (semaphore : Semaphore Task) (task : Task)
    (unavailable : ¬ semaphore.Available) :
    (semaphore.block task unavailable).free = semaphore.free := by
  unfold Available at unavailable
  simp only [free, block]
  omega

theorem free_eq_zero_of_mem {semaphore : Semaphore Task} {task : Task}
    (member : task ∈ semaphore.blocked) : semaphore.free = 0 := by
  have accounted := semaphore.accounted
  have positive := List.length_pos_of_mem member
  unfold free
  omega

theorem free_release [DecidableEq Task] (semaphore : Semaphore Task) (task : Task)
    (member : task ∈ semaphore.blocked) :
    (semaphore.release task member).free = semaphore.free := by
  have accounted := semaphore.accounted
  have positive := List.length_pos_of_mem member
  simp only [free, release]
  omega

theorem free_bank (semaphore : Semaphore Task) (idle : semaphore.blocked = []) :
    (semaphore.bank idle).free = semaphore.free + 1 := by
  have nonneg := blocked_eq_nil_iff.mp idle
  simp only [free, bank]
  omega

/-!
## Who is blocked
-/

variable {Value : Type v}

/-- The semaphore blocks the tasks that wait, each once. -/
structure Blocks (semaphore : Semaphore Task) (waiting : Value → Prop) (values : Task → Value) :
    Prop where
  nodup : semaphore.blocked.Nodup
  mem_iff : ∀ task, task ∈ semaphore.blocked ↔ waiting (values task)

variable {waiting : Value → Prop} {values : Task → Value} {semaphore after : Semaphore Task}

theorem blocks_init (value : Nat) (awake : ∀ task, ¬ waiting (values task)) :
    (init value).Blocks waiting values := by
  constructor
  · exact List.nodup_nil
  · intro task
    simp [init, awake]

variable [DecidableEq Task]

theorem Blocks.move {task : Task} {value : Value}
    (blocks : semaphore.Blocks waiting values)
    (blocked : after.blocked = semaphore.blocked)
    (awake : ¬ waiting (values task)) (stays_awake : ¬ waiting value) :
    after.Blocks waiting (Function.update values task value) := by
  constructor
  · rw [blocked]
    exact blocks.nodup
  · intro other
    rw [blocked, blocks.mem_iff]
    by_cases same : other = task
    · cases same
      simp [awake, stays_awake]
    · rw [Function.update_of_ne same]

theorem Blocks.enqueue {task : Task} {value : Value}
    (blocks : semaphore.Blocks waiting values)
    (blocked : after.blocked = semaphore.blocked ++ [task])
    (awake : ¬ waiting (values task)) (waits : waiting value) :
    after.Blocks waiting (Function.update values task value) := by
  have absent : task ∉ semaphore.blocked := fun member => awake ((blocks.mem_iff _).mp member)
  constructor
  · rw [blocked]
    exact List.Nodup.append blocks.nodup (List.nodup_singleton task)
      (List.disjoint_singleton.mpr absent)
  · intro other
    rw [blocked, List.mem_append, List.mem_singleton, blocks.mem_iff]
    by_cases same : other = task
    · cases same
      simp [waits]
    · rw [Function.update_of_ne same]
      simp [same]

theorem Blocks.dequeue {task : Task} {value : Value}
    (blocks : semaphore.Blocks waiting values)
    (blocked : after.blocked = semaphore.blocked.erase task) (wakes : ¬ waiting value) :
    after.Blocks waiting (Function.update values task value) := by
  constructor
  · rw [blocked]
    exact blocks.nodup.erase task
  · intro other
    rw [blocked, blocks.nodup.mem_erase_iff, blocks.mem_iff]
    by_cases same : other = task
    · cases same
      simp [wakes]
    · rw [Function.update_of_ne same]
      simp [same]

end Semaphore

end VelaExternal.Systems

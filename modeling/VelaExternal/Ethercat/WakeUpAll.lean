import VelaExternal.Ethercat.WaitQueueProperties
import VelaExternal.Systems.Total

/-! Whether one call of `wake_up_all` wakes every waiter. The loop ends at the first
positive count, and that count is enough for one waiter only. -/

set_option autoImplicit false

namespace VelaExternal.Ethercat.WaitQueue

open Systems

universe u v w

variable {Thread : Type u} {state after : WaitQueue Thread Unit Unit}
  {event : WaitQueueEvent Thread Unit}

/-- Every thread calls `wait_event(q, c)`; one thread makes `c` true and calls
`wake_up_all(q)`. -/
def broadcast (Thread : Type u) : Calls Thread Unit Unit where
  condition := fun _ => ()
  interruptible := fun _ => false
  target := fun _ => ()
  wakeUp := fun _ => .all

/-!
## The loop of `wake_up_all`
-/

structure Waking (state : WaitQueue Thread Unit Unit) : Prop where
  queued : Queued state
  met : state.wakers () ≠ .setCondition → state.conditions () = true
  bounded : state.queue.count ≤ 1
  posting : state.wakers () = .post → state.queue.count ≤ 0

private theorem waking_initial (conditions : Unit → Bool) :
    Waking (initial conditions : WaitQueue Thread Unit Unit) := by
  constructor
  · exact queued_initial conditions
  · intro moved
    exact absurd rfl moved
  · exact Int.zero_le_ofNat 1
  · exact nofun

theorem Waking.of_low (queued : Queued after)
    (met : after.wakers () ≠ .setCondition → after.conditions () = true)
    (low : after.queue.count ≤ 0) : Waking after := by
  constructor
  · exact queued
  · exact met
  · omega
  · intro posting
    exact low

/-!
## Waiters between the test and the wait
-/

section Window

variable [Fintype Thread]

/-- How many waiters have found the condition false and are about to wait. -/
def window {Condition : Type v} {Waker : Type w} (state : WaitQueue Thread Condition Waker) : Nat :=
  countWhere (fun waiter => decide (waiter.pc = .wait)) state.waiters

/-- Where `wake_up_all` reads the positive count that ends its loop, at most one waiter is
between its test and its wait. -/
def WindowCovered (state : WaitQueue Thread Unit Unit) (event : WaitQueueEvent Thread Unit)
    (_after : WaitQueue Thread Unit Unit) : Prop :=
  match event with
  | .getValue _ => 0 < state.queue.count → state.window ≤ 1
  | _ => True

instance (state : WaitQueue Thread Unit Unit) (event : WaitQueueEvent Thread Unit)
    (after : WaitQueue Thread Unit Unit) : Decidable (WindowCovered state event after) :=
  match event with
  | .getValue _ => inferInstanceAs (Decidable (_ → _))
  | .test _ | .wait _ | .interrupt _ | .setCondition _ | .post _ _ =>
      inferInstanceAs (Decidable True)

/-- The counts that are left when `wake_up_all` has returned are enough for the waiters
that are about to wait. -/
def Covered (state : WaitQueue Thread Unit Unit) : Prop :=
  state.wakers () = .returned → state.window ≤ state.queue.count

private theorem covered_of_running (unread : WindowCovered state event after)
    (before_running : state.wakers () ≠ .returned) (after_running : after.wakers () ≠ .returned) :
    Covered after ↔ Covered state ∧ WindowCovered state event after := by
  constructor
  · intro covered
    exact ⟨fun returned => absurd returned before_running, unread⟩
  · intro covered returned
    exact absurd returned after_running

private theorem covered_congr (unread : WindowCovered state event after)
    (wakers : after.wakers () = state.wakers ())
    (balance : (after.window : Int) - after.queue.count = state.window - state.queue.count) :
    Covered after ↔ Covered state ∧ WindowCovered state event after := by
  have enough : after.window ≤ after.queue.count ↔ state.window ≤ state.queue.count := by
    omega
  unfold Covered
  rw [wakers, enough, and_iff_left unread]

private theorem covered_ends {waker : Unit} (waking : Waking state)
    (at_value : state.wakers waker = .getValue) (high : 0 < state.queue.count) :
    Covered (state.setWaker waker .returned) ↔
      Covered state ∧ WindowCovered state (.getValue waker) (state.setWaker waker .returned) := by
  have last : state.queue.count = 1 := by
    have bounded := waking.bounded
    omega
  constructor
  · intro covered
    have enough : (state.window : Int) ≤ state.queue.count := covered rfl
    constructor
    · intro returned
      rw [at_value] at returned
      cases returned
    · intro _
      omega
  · intro both returned
    have enough : state.window ≤ 1 := both.2 high
    change (state.window : Int) ≤ state.queue.count
    omega

end Window

/-!
## Steps
-/

variable [DecidableEq Thread]

private theorem waking_step (waking : Waking state) (steps : Steps (broadcast Thread) state event after) :
    Waking after := by
  have queued := queued_step waking.queued steps
  have bounded := waking.bounded
  cases steps with
  | leaves thread at_test met => exact ⟨queued, waking.met, bounded, waking.posting⟩
  | stays thread at_test unmet => exact ⟨queued, waking.met, bounded, waking.posting⟩
  | takes thread at_wait available =>
      exact .of_low queued waking.met (Int.sub_nonpos_of_le bounded)
  | blocks thread at_wait unavailable =>
      exact .of_low queued waking.met (Int.sub_nonpos_of_le bounded)
  | interrupt thread member interruptible => cases interruptible
  | setCondition waker at_set => exact ⟨queued, fun _ => rfl, bounded, nofun⟩
  | goesOn waker at_value low =>
      have met := waking.met (by simp [at_value])
      exact .of_low queued (fun _ => met) low
  | ends waker at_value high =>
      have met := waking.met (by simp [at_value])
      exact ⟨queued, fun _ => met, bounded, by simp⟩
  | releases waker thread at_post member =>
      have met := waking.met (by simp [at_post])
      have one_more := Int.add_le_add_right (waking.posting at_post) 1
      exact ⟨queued, fun _ => met, one_more, nofun⟩
  | banks waker at_post idle =>
      have met := waking.met (by simp [at_post])
      have one_more := Int.add_le_add_right (waking.posting at_post) 1
      exact ⟨queued, fun _ => met, one_more, nofun⟩

variable [Fintype Thread]

private theorem window_setWaiter (state : WaitQueue Thread Unit Unit) (thread : Thread)
    (waiter : Waiter) :
    (state.setWaiter thread waiter).window + (decide ((state.waiters thread).pc = .wait)).toNat =
      state.window + (decide (waiter.pc = .wait)).toNat :=
  countWhere_update _ state.waiters thread waiter

private theorem covered_wait {thread : Thread} {waiter : Waiter} {queue : WaitQueueHead Thread}
    (at_wait : (state.waiters thread).pc = .wait) (leaves : waiter.pc ≠ .wait)
    (count : queue.count = state.queue.count - 1) :
    Covered { state.setWaiter thread waiter with queue := queue } ↔
      Covered state ∧ WindowCovered state (.wait thread)
        { state.setWaiter thread waiter with queue := queue } := by
  have window : (state.setWaiter thread waiter).window + 1 = state.window := by
    simpa [at_wait, leaves] using state.window_setWaiter thread waiter
  apply covered_congr
  · trivial
  · rfl
  · change ((state.setWaiter thread waiter).window : Int) - queue.count =
      state.window - state.queue.count
    omega

private theorem covered_step (waking : Waking state)
    (steps : Steps (broadcast Thread) state event after) :
    Covered after ↔ Covered state ∧ WindowCovered state event after := by
  cases steps with
  | leaves thread at_test met =>
      have same : (state.setWaiter thread ((state.waiters thread).setPc .returned)).window =
          state.window := by
        simpa [at_test] using
          state.window_setWaiter thread ((state.waiters thread).setPc .returned)
      apply covered_congr
      · trivial
      · rfl
      · rw [same]
        rfl
  | stays thread at_test unmet =>
      have running : state.wakers () ≠ .returned := by
        intro returned
        have met : state.met (broadcast Thread) thread = true := waking.met (by simp [returned])
        rw [met] at unmet
        cases unmet
      exact covered_of_running trivial running running
  | takes thread at_wait available => exact covered_wait at_wait (by simp) rfl
  | blocks thread at_wait unavailable => exact covered_wait at_wait (by simp) rfl
  | interrupt thread member interruptible => cases interruptible
  | setCondition waker at_set =>
      exact covered_of_running trivial (by simp [at_set])
        (by simp [makeTrue, broadcast, WakeUp.entry])
  | goesOn waker at_value low =>
      exact covered_of_running (by intro high; omega) (by simp [at_value]) (by simp)
  | ends waker at_value high => exact covered_ends waking at_value high
  | releases waker thread at_post member =>
      exact covered_of_running trivial (by simp [at_post]) (by simp [broadcast, WakeUp.afterPost])
  | banks waker at_post idle =>
      exact covered_of_running trivial (by simp [at_post]) (by simp [broadcast, WakeUp.afterPost])

/-!
## Runs that come to rest
-/

private theorem covered_iff_of_terminal (queued : Queued state)
    (terminal : state.Terminal (broadcast Thread)) :
    Covered state ↔ ∀ thread, (state.waiters thread).pc ≠ .blocked := by
  obtain ⟨waiters, wakers⟩ := terminal_iff.mp terminal
  have empty : state.window = 0 := by
    apply countWhere_eq_zero_iff.mpr
    intro thread
    cases waiters thread with
    | inl blocked => rw [blocked]; rfl
    | inr returned => rw [returned]; rfl
  have nonneg : Covered state ↔ 0 ≤ state.queue.count := by
    simp only [Covered, wakers, empty, true_implies, Int.natCast_zero]
  rw [nonneg, ← Semaphore.blocked_eq_nil_iff, List.eq_nil_iff_forall_not_mem]
  simp only [queued.mem_iff, ne_eq]

/-- In every run to a state where no thread can take a step, no waiter is left blocked just
when at most one waiter was between its test and its wait where `wake_up_all` read the
positive count. -/
theorem wake_up_all_wakes_iff (conditions : Unit → Bool)
    {events : List (WaitQueueEvent Thread Unit)} {final : WaitQueue Thread Unit Unit}
    (reached : run (step (broadcast Thread)) (initial conditions) events = some final)
    (terminal : final.Terminal (broadcast Thread)) :
    (∀ thread, (final.waiters thread).pc ≠ .blocked) ↔
      Along (step (broadcast Thread)) WindowCovered (initial conditions) events := by
  have start : Waking (initial conditions : WaitQueue Thread Unit Unit) :=
    waking_initial conditions
  have keeps : ∀ before event after, Waking before →
      step (broadcast Thread) before event = some after → Waking after := by
    intro before event after waking stepped
    exact waking_step waking (step_eq_some stepped)
  have waking := run_invariant keeps start reached
  have idle : Covered (initial conditions : WaitQueue Thread Unit Unit) := nofun
  have exact_step : ∀ before event after, Waking before →
      step (broadcast Thread) before event = some after →
      (Covered after ↔ Covered before ∧ WindowCovered before event after) := by
    intro before event after waking stepped
    exact covered_step waking (step_eq_some stepped)
  rw [← covered_iff_of_terminal waking.queued terminal,
    verdict_iff_along keeps exact_step start reached, and_iff_right idle]

def oneLateWaiter (early late : Thread) : List (WaitQueueEvent Thread Unit) :=
  [.test early, .wait early, .test late, .setCondition (), .getValue (), .post () (some early),
   .getValue (), .post () none, .getValue (), .wait late, .test late, .test early]

theorem wake_up_all_wakes_late_waiter :
    ∃ final, run (step (broadcast (Fin 2))) (initial fun _ => false) (oneLateWaiter 0 1) =
        some final ∧ ∀ thread, (final.waiters thread).pc ≠ .blocked := by
  obtain ⟨final, reached, terminal⟩ : ∃ final,
      run (step (broadcast (Fin 2))) (initial fun _ => false) (oneLateWaiter 0 1) = some final ∧
        final.Terminal (broadcast (Fin 2)) :=
    run_computed (by decide) (terminal_iff.mpr (by decide))
  exact ⟨final, reached, (wake_up_all_wakes_iff (fun _ => false) reached terminal).mpr (by decide)⟩

/-- With two late waiters the one count that the loop leaves is not enough. -/
theorem waiter_left_by_wake_up_all :
    ∃ final, run (step (broadcast (Fin 2))) (initial fun _ => false)
        [.test 0, .test 1, .setCondition (), .getValue (), .post () none, .getValue (),
          .wait 0, .test 0, .wait 1] = some final ∧
      final.Terminal (broadcast (Fin 2)) ∧ (final.waiters 1).pc = .blocked ∧
      final.conditions () = true :=
  run_computed (by decide) ⟨terminal_iff.mpr (by decide), by decide, by decide⟩

end VelaExternal.Ethercat.WaitQueue

import VelaExternal.Ethercat.WaitQueueProperties
import VelaExternal.Systems.Total

/-! Whether `wake_up_interruptible` wakes the waiter that it is meant for, when waiters with
conditions of their own share a queue. A post releases one waiter, whichever it is. -/

set_option autoImplicit false

namespace VelaExternal.Ethercat

open Systems

universe u v

/-- What is known of a waiter from the first value of its condition and the present one,
when no count has been wasted on it. -/
structure Waiter.Served (first present : Bool) (waiter : Waiter) : Prop where
  waited : waiter.pc = .wait ∨ waiter.pc = .blocked ∨ 0 < waiter.counts → first = false
  counts : waiter.counts = 0 ∨
    waiter.counts = 1 ∧ (waiter.pc = .test ∨ waiter.pc = .returned ∧ present = true)

namespace Waiter

variable {first present : Bool} {waiter : Waiter}

private theorem served_initial : Served first present initial := by
  constructor
  · intro waited
    simp [initial] at waited
  · exact .inl rfl

theorem Served.of_met (served : Served first present waiter) : Served first true waiter := by
  constructor
  · exact served.waited
  · cases served.counts with
    | inl uncounted => exact .inl uncounted
    | inr one =>
        cases one.2 with
        | inl at_test => exact .inr ⟨one.1, .inl at_test⟩
        | inr returned => exact .inr ⟨one.1, .inr ⟨returned.1, rfl⟩⟩

theorem Served.waiting (served : Served first present waiter)
    (waits : waiter.pc = .wait ∨ waiter.pc = .blocked) : waiter.counts = 0 ∧ first = false := by
  constructor
  · cases served.counts with
    | inl uncounted => exact uncounted
    | inr one => cases waits with
      | inl at_wait => simp [at_wait] at one
      | inr blocked => simp [blocked] at one
  · cases waits with
    | inl at_wait => exact served.waited (.inl at_wait)
    | inr blocked => exact served.waited (.inr (.inl blocked))

theorem Served.left (served : Served first present waiter) (counted : waiter.counts ≠ 0)
    (not_test : waiter.pc ≠ .test) : waiter.pc = .returned ∧ present = true := by
  cases served.counts with
  | inl uncounted => exact absurd uncounted counted
  | inr one =>
      cases one.2 with
      | inl at_test => exact absurd at_test not_test
      | inr returned => exact returned

theorem Served.leaves (served : Served first present waiter) (met : present = true) :
    Served first present (waiter.setPc .returned) := by
  constructor
  · intro waited
    simp only [setPc, reduceCtorEq, false_or] at waited
    exact served.waited (.inr (.inr waited))
  · cases served.counts with
    | inl uncounted => exact .inl uncounted
    | inr one => exact .inr ⟨one.1, .inr ⟨rfl, met⟩⟩

theorem Served.fresh (uncounted : waiter.counts = 0) (unmet : first = false) :
    Served first present waiter := by
  constructor
  · intro _
    exact unmet
  · exact .inl uncounted

theorem Served.counted (uncounted : waiter.counts = 0) (unmet : first = false) :
    Served first present waiter.counted := by
  constructor
  · intro _
    exact unmet
  · simp [Waiter.counted, uncounted]

end Waiter

namespace WaitQueue

variable {Thread : Type u} {Waker : Type v}

/-- Every thread calls `wait_event_interruptible(q, c_i)` with a condition of its own; every
waker makes its target's condition true and calls `wake_up_interruptible(q)`. -/
def shared (target : Waker → Thread) : Calls Thread Thread Waker where
  condition := fun thread => thread
  interruptible := fun _ => true
  target := target
  wakeUp := fun _ => .interruptible

/-- A waiter that comes back with a count finds its condition true. -/
def CountServes (state : WaitQueue Thread Thread Waker) (event : WaitQueueEvent Thread Waker)
    (_after : WaitQueue Thread Thread Waker) : Prop :=
  match event with
  | .test thread => 0 < (state.waiters thread).counts → state.conditions thread = true
  | _ => True

instance (state : WaitQueue Thread Thread Waker) (event : WaitQueueEvent Thread Waker)
    (after : WaitQueue Thread Thread Waker) : Decidable (CountServes state event after) :=
  match event with
  | .test _ => inferInstanceAs (Decidable (_ → _))
  | .wait _ | .interrupt _ | .setCondition _ | .getValue _ | .post _ _ =>
      inferInstanceAs (Decidable True)

/-!
## Conditions and waiters
-/

/-- Conditions only become true, by their wakers; waiters are served by their conditions. -/
structure Serving (target : Waker → Thread) (conditions : Thread → Bool)
    (state : WaitQueue Thread Thread Waker) : Prop where
  queued : Queued state
  kept : ∀ thread, conditions thread = true → state.conditions thread = true
  made : ∀ thread, state.conditions thread = true → conditions thread = true ∨
    ∃ waker, target waker = thread
  served : ∀ thread, (state.waiters thread).Served (conditions thread) (state.conditions thread)
  straight : ∀ waker, state.wakers waker ≠ .getValue

variable {target : Waker → Thread} {conditions : Thread → Bool}
  {state after : WaitQueue Thread Thread Waker} {event : WaitQueueEvent Thread Waker}

private theorem serving_initial : Serving target conditions (initial conditions) := by
  constructor
  · exact queued_initial conditions
  · intro thread met
    exact met
  · intro thread met
    exact .inl met
  · intro thread
    exact Waiter.served_initial
  · exact nofun

theorem Serving.waker {thread : Thread} (serving : Serving target conditions state)
    (first : conditions thread = false) (met : state.conditions thread = true) :
    ∃ waker, target waker = thread := by
  cases serving.made thread met with
  | inl kept =>
      rw [first] at kept
      cases kept
  | inr made => exact made

theorem Serving.move [DecidableEq Thread] {thread : Thread} {waiter : Waiter}
    (serving : Serving target conditions state) (queued : Queued after)
    (same_conditions : after.conditions = state.conditions)
    (waiters : after.waiters = Function.update state.waiters thread waiter)
    (served : waiter.Served (conditions thread) (state.conditions thread))
    (wakers : after.wakers = state.wakers) : Serving target conditions after := by
  constructor
  · exact queued
  · rw [same_conditions]
    exact serving.kept
  · rw [same_conditions]
    exact serving.made
  · intro other
    rw [same_conditions, waiters]
    by_cases same : other = thread
    · cases same
      rw [Function.update_self]
      exact served
    · rw [Function.update_of_ne same]
      exact serving.served other
  · rw [wakers]
    exact serving.straight

theorem Serving.setWaker [DecidableEq Waker] {waker : Waker} {pc : WakerPc}
    (serving : Serving target conditions state) (straight : pc ≠ .getValue) :
    Serving target conditions (state.setWaker waker pc) := by
  constructor
  · exact ⟨serving.queued.nodup, serving.queued.mem_iff⟩
  · exact serving.kept
  · exact serving.made
  · exact serving.served
  · intro other
    by_cases same : other = waker
    · rw [same, setWaker_self]
      exact straight
    · rw [setWaker_of_ne same]
      exact serving.straight other

theorem Serving.makeTrue [DecidableEq Thread] (serving : Serving target conditions state)
    (waker : Waker) : Serving target conditions (state.makeTrue (target waker)) := by
  constructor
  · exact ⟨serving.queued.nodup, serving.queued.mem_iff⟩
  · intro thread met
    by_cases same : thread = target waker
    · rw [same, makeTrue_self]
    · rw [makeTrue_of_ne same]
      exact serving.kept thread met
  · intro thread met
    by_cases same : thread = target waker
    · exact .inr ⟨waker, same.symm⟩
    · rw [makeTrue_of_ne same] at met
      exact serving.made thread met
  · intro thread
    by_cases same : thread = target waker
    · rw [same, makeTrue_self]
      exact (serving.served _).of_met
    · rw [makeTrue_of_ne same]
      exact serving.served thread
  · exact serving.straight

private theorem serving_step [DecidableEq Thread] [DecidableEq Waker]
    (serving : Serving target conditions state) (steps : Steps (shared target) state event after)
    (serves : CountServes state event after) : Serving target conditions after := by
  have queued := queued_step serving.queued steps
  cases steps with
  | leaves thread at_test met =>
      exact serving.move queued rfl rfl ((serving.served thread).leaves met) rfl
  | stays thread at_test unmet =>
      have unmet : state.conditions thread = false := unmet
      have first : conditions thread = false := by
        rw [← Bool.not_eq_true]
        intro met
        rw [serving.kept thread met] at unmet
        cases unmet
      have uncounted : (state.waiters thread).counts = 0 := by
        by_contra counted
        rw [serves (Nat.pos_of_ne_zero counted)] at unmet
        cases unmet
      exact serving.move queued rfl rfl (.fresh uncounted first) rfl
  | takes thread at_wait available =>
      obtain ⟨uncounted, first⟩ := (serving.served thread).waiting (.inl at_wait)
      exact serving.move queued rfl rfl (.counted uncounted first) rfl
  | blocks thread at_wait unavailable =>
      obtain ⟨uncounted, first⟩ := (serving.served thread).waiting (.inl at_wait)
      exact serving.move queued rfl rfl (.fresh uncounted first) rfl
  | interrupt thread member interruptible =>
      have blocked := (serving.queued.mem_iff thread).mp member
      obtain ⟨uncounted, first⟩ := (serving.served thread).waiting (.inr blocked)
      exact serving.move queued rfl rfl (.fresh uncounted first) rfl
  | setCondition waker at_set =>
      apply Serving.makeTrue
      exact serving.setWaker nofun
  | goesOn waker at_value low => exact absurd at_value (serving.straight waker)
  | ends waker at_value high => exact absurd at_value (serving.straight waker)
  | releases waker thread at_post member =>
      have blocked := (serving.queued.mem_iff thread).mp member
      obtain ⟨uncounted, first⟩ := (serving.served thread).waiting (.inr blocked)
      apply Serving.setWaker
      · exact serving.move ⟨queued.nodup, queued.mem_iff⟩ rfl rfl (.counted uncounted first) rfl
      · exact nofun
  | banks waker at_post idle =>
      apply Serving.setWaker
      · exact ⟨⟨queued.nodup, queued.mem_iff⟩, serving.kept, serving.made, serving.served,
          serving.straight⟩
      · exact nofun

/-!
## Counts and posts
-/

def handed [Fintype Thread] (state : WaitQueue Thread Thread Waker) : Nat :=
  total Waiter.counts state.waiters

def posts [Fintype Waker] (state : WaitQueue Thread Thread Waker) : Nat :=
  countWhere (fun pc => decide (pc = .returned)) state.wakers

private theorem handed_keeps [Fintype Thread] [DecidableEq Thread] (thread : Thread) {waiter : Waiter}
    (same : waiter.counts = (state.waiters thread).counts) :
    (state.setWaiter thread waiter).handed = state.handed := by
  have moved := total_update Waiter.counts state.waiters thread waiter
  rw [same] at moved
  exact Nat.add_right_cancel moved

private theorem handed_counted [Fintype Thread] [DecidableEq Thread]
    (state : WaitQueue Thread Thread Waker) (thread : Thread) :
    (state.setWaiter thread (state.waiters thread).counted).handed = state.handed + 1 := by
  have moved : (state.setWaiter thread (state.waiters thread).counted).handed +
      (state.waiters thread).counts = state.handed + ((state.waiters thread).counts + 1) :=
    total_update Waiter.counts state.waiters thread (state.waiters thread).counted
  omega

private theorem posts_setWaker [Fintype Waker] [DecidableEq Waker]
    (state : WaitQueue Thread Thread Waker) (waker : Waker) (pc : WakerPc) :
    (state.setWaker waker pc).posts + (decide (state.wakers waker = .returned)).toNat =
      state.posts + (decide (pc = .returned)).toNat :=
  countWhere_update _ state.wakers waker pc

/-- A posted count is free, or it was handed to a waiter. -/
def Balanced [Fintype Thread] [Fintype Waker] (state : WaitQueue Thread Thread Waker) : Prop :=
  state.queue.free + state.handed = state.posts

private theorem balanced_initial [Fintype Thread] [Fintype Waker] :
    Balanced (initial conditions : WaitQueue Thread Thread Waker) := by
  have none_free : (initial conditions : WaitQueue Thread Thread Waker).queue.free = 0 :=
    Semaphore.free_init 0
  have none_handed : (initial conditions : WaitQueue Thread Thread Waker).handed = 0 :=
    total_eq_zero_iff.mpr fun _ => rfl
  have none_posted : (initial conditions : WaitQueue Thread Thread Waker).posts = 0 :=
    countWhere_eq_zero_iff.mpr fun _ => rfl
  rw [Balanced, none_free, none_handed, none_posted]

private theorem counted_left [DecidableEq Thread] [DecidableEq Waker] {thread : Thread}
    (serving : Serving target conditions state) (terminal : state.Terminal (shared target))
    (counted : (state.waiters thread).counts ≠ 0) :
    (state.waiters thread).pc = .returned ∧ ∃ waker, target waker = thread := by
  have not_test : (state.waiters thread).pc ≠ .test := by
    cases (terminal_iff.mp terminal).1 thread with
    | inl blocked =>
        rw [blocked]
        simp
    | inr returned =>
        rw [returned]
        simp
  have served := serving.served thread
  have left := served.left counted not_test
  have first := served.waited (.inr (.inr (Nat.pos_of_ne_zero counted)))
  exact ⟨left.1, serving.waker first left.2⟩

section Rest

variable [Fintype Thread] [Fintype Waker] [DecidableEq Thread] [DecidableEq Waker]

private theorem balanced_step (straight : ∀ waker, state.wakers waker ≠ .getValue)
    (balanced : Balanced state) (steps : Steps (shared target) state event after) :
    Balanced after := by
  unfold Balanced at *
  cases steps with
  | leaves thread at_test met =>
      rw [handed_keeps thread (Waiter.setPc_counts ..)]
      exact balanced
  | stays thread at_test unmet =>
      rw [handed_keeps thread (Waiter.setPc_counts ..)]
      exact balanced
  | takes thread at_wait available =>
      have handed := state.handed_counted thread
      have free := state.queue.free_take available
      change (state.queue.take available).free +
        (state.setWaiter thread (state.waiters thread).counted).handed = state.posts
      omega
  | blocks thread at_wait unavailable =>
      change (state.queue.block thread unavailable).free +
        (state.setWaiter thread ((state.waiters thread).setPc .blocked)).handed = state.posts
      rw [Semaphore.free_block, handed_keeps thread (Waiter.setPc_counts ..)]
      exact balanced
  | interrupt thread member interruptible =>
      change (state.queue.release thread member).free +
        (state.setWaiter thread (state.waiters thread).interrupted).handed = state.posts
      rw [Semaphore.free_release, handed_keeps thread (Waiter.interrupted_counts _)]
      exact balanced
  | setCondition waker at_set =>
      have posts : (state.setWaker waker .post).posts = state.posts := by
        simpa [at_set] using state.posts_setWaker waker .post
      change state.queue.free + state.handed = (state.setWaker waker .post).posts
      rw [posts]
      exact balanced
  | goesOn waker at_value low => exact absurd at_value (straight waker)
  | ends waker at_value high => exact absurd at_value (straight waker)
  | releases waker thread at_post member =>
      have posts : (state.setWaker waker .returned).posts = state.posts + 1 := by
        simpa [at_post] using state.posts_setWaker waker .returned
      change (state.queue.release thread member).free +
        (state.setWaiter thread (state.waiters thread).counted).handed =
          (state.setWaker waker .returned).posts
      rw [Semaphore.free_release, handed_counted, posts, ← balanced, Nat.add_assoc]
  | banks waker at_post idle =>
      have posts : (state.setWaker waker .returned).posts = state.posts + 1 := by
        simpa [at_post] using state.posts_setWaker waker .returned
      change (state.queue.bank idle).free + state.handed = (state.setWaker waker .returned).posts
      rw [Semaphore.free_bank, posts, ← balanced, Nat.add_right_comm]

/-!
## Runs that come to rest
-/

/-- The waiters that took a count have left, each for a waker of its own. -/
theorem handed_le_card {spared : Waker} (serving : Serving target conditions state)
    (terminal : state.Terminal (shared target))
    (blocked : (state.waiters (target spared)).pc = .blocked) :
    state.handed ≤ (Finset.univ.erase spared).card := by
  let counted := Finset.univ.filter fun thread => decide ((state.waiters thread).counts = 1)
  have each : ∀ thread, (state.waiters thread).counts =
      (decide ((state.waiters thread).counts = 1)).toNat := by
    intro thread
    cases (serving.served thread).counts with
    | inl uncounted => simp [uncounted]
    | inr one => simp [one.1]
  have handed : state.handed = counted.card := by
    rw [← countWhere_eq_card (fun waiter => decide (waiter.counts = 1)) state.waiters]
    exact total_eq_countWhere each
  have covered : counted ⊆ (Finset.univ.erase spared).image target := by
    intro thread member
    have one : (state.waiters thread).counts = 1 := by simpa [counted] using member
    obtain ⟨returned, waker, aimed⟩ :=
      counted_left serving terminal (by rw [one]; exact Nat.one_ne_zero)
    apply Finset.mem_image.mpr
    refine ⟨waker, Finset.mem_erase.mpr ⟨?_, Finset.mem_univ waker⟩, aimed⟩
    intro same
    rw [← aimed, same, blocked] at returned
    cases returned
  rw [handed]
  exact le_trans (Finset.card_le_card covered) Finset.card_image_le

/-- In a run in which every waiter that comes back with a count finds its condition true,
nobody is left blocked with a condition that is true where no thread can take a step. -/
theorem wake_up_interruptible_wakes (target : Waker → Thread) (conditions : Thread → Bool)
    {events : List (WaitQueueEvent Thread Waker)} {final : WaitQueue Thread Thread Waker}
    (serves : Along (step (shared target)) CountServes (initial conditions) events)
    (reached : run (step (shared target)) (initial conditions) events = some final)
    (terminal : final.Terminal (shared target)) (thread : Thread)
    (blocked : (final.waiters thread).pc = .blocked) : final.conditions thread = false := by
  have keeps : ∀ before event after, Serving target conditions before ∧ Balanced before →
      step (shared target) before event = some after → CountServes before event after →
      Serving target conditions after ∧ Balanced after := by
    intro before event after held stepped serves
    have steps := step_eq_some stepped
    exact ⟨serving_step held.1 steps serves, balanced_step held.1.straight held.2 steps⟩
  obtain ⟨serving, balanced⟩ :=
    run_invariant_along keeps ⟨serving_initial, balanced_initial⟩ serves reached
  rw [← Bool.not_eq_true]
  intro met
  have first : conditions thread = false := (serving.served thread).waited (.inr (.inl blocked))
  obtain ⟨waker, rfl⟩ := serving.waker first met
  have few := handed_le_card serving terminal blocked
  have none_free : final.queue.free = 0 :=
    Semaphore.free_eq_zero_of_mem ((serving.queued.mem_iff _).mpr blocked)
  have all_posted : final.posts = Fintype.card Waker := by
    simp [posts, countWhere_eq_card, (terminal_iff.mp terminal).2]
  rw [Finset.card_erase_of_mem (Finset.mem_univ waker), Finset.card_univ] at few
  have some_waker : 0 < Fintype.card Waker := Fintype.card_pos_iff.mpr ⟨waker⟩
  unfold Balanced at balanced
  omega

def servedPost (other wanted : Thread) : List (WaitQueueEvent Thread Unit) :=
  [.test other, .wait other, .test wanted, .wait wanted, .setCondition (),
   .post () (some wanted), .test wanted]

theorem wake_up_interruptible_wakes_target :
    ∃ final, run (step (shared fun _ => (1 : Fin 2))) (initial fun _ => false) (servedPost 0 1) =
        some final ∧
      (final.waiters 0).pc = .blocked ∧ final.conditions 0 = false := by
  obtain ⟨final, reached, terminal, blocked⟩ : ∃ final,
      run (step (shared fun _ => (1 : Fin 2))) (initial fun _ => false) (servedPost 0 1) =
        some final ∧
        final.Terminal (shared fun _ => 1) ∧ (final.waiters 0).pc = .blocked :=
    run_computed (by decide) ⟨terminal_iff.mpr (by decide), by decide⟩
  exact ⟨final, reached, blocked, wake_up_interruptible_wakes (fun _ => 1) (fun _ => false)
    (by decide) reached terminal 0 blocked⟩

/-- The post releases the first waiter, which finds its condition false and blocks again. -/
theorem wake_up_interruptible_wasted :
    ∃ final, run (step (shared fun _ => 1)) (initial fun _ => false)
        [.test 0, .wait 0, .test 1, .wait 1, .setCondition (), .post () (some (0 : Fin 2)),
          .test 0, .wait 0] = some final ∧
      final.Terminal (shared fun _ => 1) ∧ (final.waiters 1).pc = .blocked ∧
      final.conditions 1 = true :=
  run_computed (by decide) ⟨terminal_iff.mpr (by decide), by decide, by decide⟩

end Rest

end WaitQueue

end VelaExternal.Ethercat

import Mathlib.Data.List.Nodup
import VelaExternal.Ethercat.WaitQueue

/-! Who is blocked on a wait queue, and when its threads have come to rest. -/

set_option autoImplicit false

namespace VelaExternal.Ethercat.WaitQueue

open Systems

universe u v w

variable {Thread : Type u} {Condition : Type v} {Waker : Type w}
  {state after : WaitQueue Thread Condition Waker}

/-!
## Blocked waiters
-/

/-- The semaphore blocks the waiters that are blocked, each once. -/
structure Queued (state : WaitQueue Thread Condition Waker) : Prop where
  nodup : state.queue.blocked.Nodup
  mem_iff : ∀ thread, thread ∈ state.queue.blocked ↔ (state.waiters thread).pc = .blocked

theorem queued_initial (conditions : Condition → Bool) :
    Queued (initial conditions : WaitQueue Thread Condition Waker) := by
  constructor
  · exact List.nodup_nil
  · intro thread
    simp [initial, initWaitqueueHead, Semaphore.init, Waiter.initial]

private theorem queued_iff : Queued state ↔
    state.queue.Blocks (fun waiter => waiter.pc = .blocked) state.waiters :=
  ⟨fun queued => ⟨queued.nodup, queued.mem_iff⟩, fun blocks => ⟨blocks.nodup, blocks.mem_iff⟩⟩

variable [DecidableEq Thread]

theorem Queued.move {thread : Thread} {waiter : Waiter} (queued : Queued state)
    (blocked : after.queue.blocked = state.queue.blocked)
    (waiters : after.waiters = Function.update state.waiters thread waiter)
    (awake : (state.waiters thread).pc ≠ .blocked) (stays_awake : waiter.pc ≠ .blocked) :
    Queued after := by
  rw [queued_iff, waiters]
  exact (queued_iff.mp queued).move blocked awake stays_awake

theorem Queued.enqueue {thread : Thread} {waiter : Waiter} (queued : Queued state)
    (blocked : after.queue.blocked = state.queue.blocked ++ [thread])
    (waiters : after.waiters = Function.update state.waiters thread waiter)
    (awake : (state.waiters thread).pc ≠ .blocked) (blocks : waiter.pc = .blocked) :
    Queued after := by
  rw [queued_iff, waiters]
  exact (queued_iff.mp queued).enqueue blocked awake blocks

theorem Queued.dequeue {thread : Thread} {waiter : Waiter} (queued : Queued state)
    (blocked : after.queue.blocked = state.queue.blocked.erase thread)
    (waiters : after.waiters = Function.update state.waiters thread waiter)
    (wakes : waiter.pc ≠ .blocked) : Queued after := by
  rw [queued_iff, waiters]
  exact (queued_iff.mp queued).dequeue blocked wakes

/-!
## Steps
-/

variable [DecidableEq Condition] [DecidableEq Waker] {calls : Calls Thread Condition Waker}
  {event : WaitQueueEvent Thread Waker}

inductive Steps (calls : Calls Thread Condition Waker) (state : WaitQueue Thread Condition Waker) :
    WaitQueueEvent Thread Waker → WaitQueue Thread Condition Waker → Prop where
  | leaves (thread : Thread) (at_test : (state.waiters thread).pc = .test)
      (met : state.met calls thread = true) :
      Steps calls state (.test thread)
        (state.setWaiter thread ((state.waiters thread).setPc .returned))
  | stays (thread : Thread) (at_test : (state.waiters thread).pc = .test)
      (unmet : state.met calls thread = false) :
      Steps calls state (.test thread)
        (state.setWaiter thread ((state.waiters thread).setPc .wait))
  | takes (thread : Thread) (at_wait : (state.waiters thread).pc = .wait)
      (available : state.queue.Available) :
      Steps calls state (.wait thread)
        { state.setWaiter thread (state.waiters thread).counted with
          queue := state.queue.take available }
  | blocks (thread : Thread) (at_wait : (state.waiters thread).pc = .wait)
      (unavailable : ¬ state.queue.Available) :
      Steps calls state (.wait thread)
        { state.setWaiter thread ((state.waiters thread).setPc .blocked) with
          queue := state.queue.block thread unavailable }
  | interrupt (thread : Thread) (member : thread ∈ state.queue.blocked)
      (interruptible : calls.interruptible thread = true) :
      Steps calls state (.interrupt thread)
        { state.setWaiter thread (state.waiters thread).interrupted with
          queue := state.queue.release thread member }
  | setCondition (waker : Waker) (at_set : state.wakers waker = .setCondition) :
      Steps calls state (.setCondition waker)
        ((state.setWaker waker (calls.wakeUp waker).entry).makeTrue (calls.target waker))
  | goesOn (waker : Waker) (at_value : state.wakers waker = .getValue)
      (low : state.queue.count ≤ 0) :
      Steps calls state (.getValue waker) (state.setWaker waker .post)
  | ends (waker : Waker) (at_value : state.wakers waker = .getValue)
      (high : 0 < state.queue.count) :
      Steps calls state (.getValue waker) (state.setWaker waker .returned)
  | releases (waker : Waker) (thread : Thread) (at_post : state.wakers waker = .post)
      (member : thread ∈ state.queue.blocked) :
      Steps calls state (.post waker (some thread))
        ({ state.setWaiter thread (state.waiters thread).counted with
          queue := state.queue.release thread member } |>.setWaker waker
            (calls.wakeUp waker).afterPost)
  | banks (waker : Waker) (at_post : state.wakers waker = .post)
      (idle : state.queue.blocked = []) :
      Steps calls state (.post waker none)
        ({ state with queue := state.queue.bank idle } |>.setWaker waker
            (calls.wakeUp waker).afterPost)

theorem step_eq_some (stepped : state.step calls event = some after) :
    Steps calls state event after := by
  cases event with
  | test thread =>
      simp [step, stepWaiter, stepWaker] at stepped
      obtain ⟨at_test, rfl⟩ := stepped
      cases met : state.met calls thread with
      | true => exact .leaves thread at_test met
      | false => exact .stays thread at_test met
  | wait thread =>
      simp [step, stepWaiter, stepWaker] at stepped
      obtain ⟨at_wait, stepped⟩ := stepped
      split at stepped
      · cases stepped
        exact .takes thread at_wait _
      · cases stepped
        exact .blocks thread at_wait _
  | interrupt thread =>
      simp [step, stepWaiter, stepWaker] at stepped
      obtain ⟨interruptible, member, rfl⟩ := stepped
      exact .interrupt thread member interruptible
  | setCondition waker =>
      simp [step, stepWaiter, stepWaker] at stepped
      obtain ⟨at_set, rfl⟩ := stepped
      exact .setCondition waker at_set
  | getValue waker =>
      simp [step, stepWaiter, stepWaker] at stepped
      obtain ⟨at_value, rfl⟩ := stepped
      by_cases low : state.queue.count ≤ 0
      · rw [if_pos low]
        exact .goesOn waker at_value low
      · rw [if_neg low]
        exact .ends waker at_value (Int.not_le.mp low)
  | post waker chosen =>
      simp [step, stepWaiter, stepWaker] at stepped
      obtain ⟨at_post, next, posted, rfl⟩ := stepped
      cases chosen with
      | some thread =>
          simp [nxsemPost] at posted
          obtain ⟨member, rfl⟩ := posted
          exact .releases waker thread at_post member
      | none =>
          simp [nxsemPost] at posted
          obtain ⟨idle, rfl⟩ := posted
          exact .banks waker at_post idle

theorem queued_step (queued : Queued state) (steps : Steps calls state event after) :
    Queued after := by
  cases steps with
  | leaves thread at_test met => exact queued.move rfl rfl (by simp [at_test]) (by simp)
  | stays thread at_test unmet => exact queued.move rfl rfl (by simp [at_test]) (by simp)
  | takes thread at_wait available => exact queued.move rfl rfl (by simp [at_wait]) (by simp)
  | blocks thread at_wait unavailable =>
      exact queued.enqueue rfl rfl (by simp [at_wait]) rfl
  | interrupt thread member interruptible => exact queued.dequeue rfl rfl nofun
  | setCondition waker at_set => exact ⟨queued.nodup, queued.mem_iff⟩
  | goesOn waker at_value low => exact ⟨queued.nodup, queued.mem_iff⟩
  | ends waker at_value high => exact ⟨queued.nodup, queued.mem_iff⟩
  | releases waker thread at_post member => exact queued.dequeue rfl rfl (by simp)
  | banks waker at_post idle =>
      constructor
      · exact List.nodup_nil
      · intro thread
        have mem_iff := queued.mem_iff thread
        rw [idle] at mem_iff
        exact mem_iff

/-!
## Rest
-/

theorem terminal_iff : state.Terminal calls ↔
    (∀ thread, (state.waiters thread).pc = .blocked ∨ (state.waiters thread).pc = .returned) ∧
      ∀ waker, state.wakers waker = .returned := by
  constructor
  · intro terminal
    constructor
    · intro thread
      have no_test := terminal (.test thread) rfl
      have no_wait := terminal (.wait thread) rfl
      cases at_pc : (state.waiters thread).pc with
      | test => simp [step, stepWaiter, at_pc] at no_test
      | wait => by_cases available : state.queue.Available <;>
          simp [step, stepWaiter, at_pc, available] at no_wait
      | blocked => exact .inl rfl
      | returned => exact .inr rfl
    · intro waker
      have no_set := terminal (.setCondition waker) rfl
      have no_value := terminal (.getValue waker) rfl
      cases at_pc : state.wakers waker with
      | setCondition => simp [step, stepWaiter, stepWaker, at_pc] at no_set
      | getValue => simp [step, stepWaiter, stepWaker, at_pc] at no_value
      | post =>
          cases blocked : state.queue.blocked with
          | nil =>
              have no_post := terminal (.post waker none) rfl
              simp [step, stepWaiter, stepWaker, nxsemPost, at_pc, blocked] at no_post
          | cons thread others =>
              have no_post := terminal (.post waker (some thread)) rfl
              simp [step, stepWaiter, stepWaker, nxsemPost, at_pc, blocked] at no_post
      | returned => rfl
  · intro rest event unprompted
    obtain ⟨waiters, wakers⟩ := rest
    cases event with
    | test thread =>
        cases waiters thread with
        | inl blocked => simp [step, stepWaiter, stepWaker, blocked]
        | inr returned => simp [step, stepWaiter, stepWaker, returned]
    | wait thread =>
        cases waiters thread with
        | inl blocked => simp [step, stepWaiter, stepWaker, blocked]
        | inr returned => simp [step, stepWaiter, stepWaker, returned]
    | interrupt thread => cases unprompted
    | setCondition waker => simp [step, stepWaiter, stepWaker, wakers waker]
    | getValue waker => simp [step, stepWaiter, stepWaker, wakers waker]
    | post waker chosen => simp [step, stepWaiter, stepWaker, wakers waker]

end VelaExternal.Ethercat.WaitQueue

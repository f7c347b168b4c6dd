import VelaExternal.Ethercat.WaitQueueProperties

/-! How often one call of `wake_up_all` posts. Its loop has no counter of its own: it ends
when the count is positive, and every waiter that waits again takes from the count. -/

set_option autoImplicit false

namespace VelaExternal.Ethercat

open Systems

universe u v

namespace WaitQueueEvent

variable {Thread : Type u} {Waker : Type v}

def isPost : WaitQueueEvent Thread Waker → Bool
  | .post _ _ => true
  | _ => false

def isGetValue : WaitQueueEvent Thread Waker → Bool
  | .getValue _ => true
  | _ => false

def isWait : WaitQueueEvent Thread Waker → Bool
  | .wait _ => true
  | _ => false

end WaitQueueEvent

namespace WaitQueue

variable {Thread : Type u} {Condition : Type v}

/-- The posts of the call, with the one that its loop has decided on. -/
def postsDecided (events : List (WaitQueueEvent Thread Unit))
    (state : WaitQueue Thread Condition Unit) : Nat :=
  events.countP WaitQueueEvent.isPost + if state.wakers () = .post then 1 else 0

/-- With `blocked` threads on the queue at its entry, the call posts at most once for each and
once more; each turn of its loop posts, but for the last. -/
structure WorkBounded (entry : WaitQueue Thread Condition Unit)
    (events : List (WaitQueueEvent Thread Unit)) (state : WaitQueue Thread Condition Unit) :
    Prop where
  posts : postsDecided events state ≤ entry.queue.blocked.length + 1
  reads : events.countP WaitQueueEvent.isGetValue ≤ entry.queue.blocked.length + 2

/-- Where the loop reads the count after one post for each waiter and one more, no more waits
have begun since its entry than were interrupted or found a count that was there at the entry. -/
def NotUndone (entry : WaitQueue Thread Condition Unit)
    (before : List (WaitQueueEvent Thread Unit) × WaitQueue Thread Condition Unit)
    (event : WaitQueueEvent Thread Unit)
    (_after : List (WaitQueueEvent Thread Unit) × WaitQueue Thread Condition Unit) : Prop :=
  match event with
  | .getValue _ =>
      before.1.countP WaitQueueEvent.isPost = entry.queue.blocked.length + 1 →
        before.1.countP WaitQueueEvent.isWait ≤
          before.1.countP WaitQueueEvent.isSignal + entry.queue.free
  | _ => True

instance (entry : WaitQueue Thread Condition Unit) (events : List (WaitQueueEvent Thread Unit))
    (state : WaitQueue Thread Condition Unit) : Decidable (WorkBounded entry events state) :=
  decidable_of_iff (_ ∧ _)
    ⟨fun ⟨posts, reads⟩ => ⟨posts, reads⟩, fun bounded => ⟨bounded.posts, bounded.reads⟩⟩

instance (entry : WaitQueue Thread Condition Unit)
    (before : List (WaitQueueEvent Thread Unit) × WaitQueue Thread Condition Unit)
    (event : WaitQueueEvent Thread Unit)
    (after : List (WaitQueueEvent Thread Unit) × WaitQueue Thread Condition Unit) :
    Decidable (NotUndone entry before event after) :=
  match event with
  | .getValue _ => inferInstanceAs (Decidable (_ → _))
  | .test _ | .wait _ | .interrupt _ | .setCondition _ | .post _ _ =>
      inferInstanceAs (Decidable True)

/-- Where the count comes from, and how far the loop is. -/
structure Accounted (entry : WaitQueue Thread Condition Unit)
    (events : List (WaitQueueEvent Thread Unit)) (state : WaitQueue Thread Condition Unit) :
    Prop where
  count : state.queue.count + events.countP WaitQueueEvent.isWait =
    entry.queue.count + events.countP WaitQueueEvent.isPost +
      events.countP WaitQueueEvent.isSignal
  entered : state.wakers () ≠ .setCondition
  turns : events.countP WaitQueueEvent.isGetValue =
    postsDecided events state + if state.wakers () = .returned then 1 else 0

variable {entry state after : WaitQueue Thread Condition Unit}
  {events : List (WaitQueueEvent Thread Unit)} {event : WaitQueueEvent Thread Unit}

/-- The count is positive after one post for each waiter and one more, just when no wait
has undone a post. -/
theorem count_pos_iff (accounted : Accounted entry events state)
    (posted : events.countP WaitQueueEvent.isPost = entry.queue.blocked.length + 1) :
    0 < state.queue.count ↔ events.countP WaitQueueEvent.isWait ≤
      events.countP WaitQueueEvent.isSignal + entry.queue.free := by
  have count := accounted.count
  have blocked := entry.queue.accounted
  unfold Semaphore.free
  omega

private theorem workBounded_iff (accounted : Accounted entry events state) :
    WorkBounded entry events state ↔
      postsDecided events state ≤ entry.queue.blocked.length + 1 := by
  constructor
  · exact WorkBounded.posts
  · intro few
    have turns := accounted.turns
    refine ⟨few, ?_⟩
    split at turns <;> omega

private theorem countP_concat {Item : Type u} (counted : Item → Bool) (items : List Item)
    (item : Item) :
    (items ++ [item]).countP counted =
      items.countP counted + if counted item = true then 1 else 0 := by
  rw [List.countP_append, List.countP_singleton]

/-- The part of a step that the loop sees. -/
inductive LoopStep (state : WaitQueue Thread Condition Unit) :
    WaitQueueEvent Thread Unit → WaitQueue Thread Condition Unit → Prop where
  | elsewhere {event : WaitQueueEvent Thread Unit} {after : WaitQueue Thread Condition Unit}
      (not_post : event.isPost = false) (not_read : event.isGetValue = false)
      (same : after.wakers () = state.wakers ()) : LoopStep state event after
  | goesOn {after : WaitQueue Thread Condition Unit} (at_value : state.wakers () = .getValue)
      (low : state.queue.count ≤ 0) (next : after.wakers () = .post) :
      LoopStep state (.getValue ()) after
  | ends {after : WaitQueue Thread Condition Unit} (at_value : state.wakers () = .getValue)
      (high : 0 < state.queue.count) (next : after.wakers () = .returned) :
      LoopStep state (.getValue ()) after
  | posts {chosen : Option Thread} {after : WaitQueue Thread Condition Unit}
      (at_post : state.wakers () = .post) (next : after.wakers () = .getValue) :
      LoopStep state (.post () chosen) after

/-- A read of a count that is not positive decides on a post; nothing else does. -/
theorem postsDecided_step (loop : LoopStep state event after) :
    postsDecided (events ++ [event]) after = postsDecided events state +
      if event.isGetValue = true ∧ state.queue.count ≤ 0 then 1 else 0 := by
  unfold postsDecided
  rw [countP_concat]
  cases loop with
  | elsewhere not_post not_read same => simp [not_post, not_read, same]
  | goesOn at_value low next =>
      simp [WaitQueueEvent.isPost, WaitQueueEvent.isGetValue, at_value, low, next]
  | ends at_value high next =>
      simp [WaitQueueEvent.isPost, WaitQueueEvent.isGetValue, at_value, high, next]
  | posts at_post next =>
      simp [WaitQueueEvent.isPost, WaitQueueEvent.isGetValue, at_post, next]

variable [DecidableEq Thread] [DecidableEq Condition] {calls : Calls Thread Condition Unit}

private theorem loop_step (all : calls.wakeUp () = .all) (entered : state.wakers () ≠ .setCondition)
    (steps : Steps calls state event after) : LoopStep state event after := by
  cases steps with
  | leaves thread at_test met => exact .elsewhere rfl rfl rfl
  | stays thread at_test unmet => exact .elsewhere rfl rfl rfl
  | takes thread at_wait available => exact .elsewhere rfl rfl rfl
  | blocks thread at_wait unavailable => exact .elsewhere rfl rfl rfl
  | interrupt thread member interruptible => exact .elsewhere rfl rfl rfl
  | setCondition waker at_set => exact absurd at_set entered
  | goesOn waker at_value low => exact .goesOn at_value low (setWaker_self ..)
  | ends waker at_value high => exact .ends at_value high (setWaker_self ..)
  | releases waker thread at_post member =>
      refine .posts at_post ?_
      rw [setWaker_self, all]
      rfl
  | banks waker at_post idle =>
      refine .posts at_post ?_
      rw [setWaker_self, all]
      rfl

private theorem entered_step (all : calls.wakeUp () = .all) (entered : state.wakers () ≠ .setCondition)
    (steps : Steps calls state event after) : after.wakers () ≠ .setCondition := by
  cases loop_step all entered steps with
  | elsewhere not_post not_read same => exact same ▸ entered
  | goesOn at_value low next => simp [next]
  | ends at_value high next => simp [next]
  | posts at_post next => simp [next]

/-- Waits take from the count; posts and interruptions give back. -/
theorem count_step (steps : Steps calls state event after) :
    after.queue.count + (if event.isWait = true then 1 else 0 : Nat) =
      state.queue.count + (if event.isPost = true then 1 else 0 : Nat) +
        (if event.isSignal = true then 1 else 0 : Nat) := by
  cases steps with
  | leaves thread at_test met | stays thread at_test unmet =>
      simp [setWaiter, WaitQueueEvent.isWait, WaitQueueEvent.isPost, WaitQueueEvent.isSignal]
  | takes thread at_wait available =>
      simp [Semaphore.take, WaitQueueEvent.isWait, WaitQueueEvent.isPost, WaitQueueEvent.isSignal]
  | blocks thread at_wait unavailable =>
      simp [Semaphore.block, WaitQueueEvent.isWait, WaitQueueEvent.isPost, WaitQueueEvent.isSignal]
  | interrupt thread member interruptible =>
      simp [Semaphore.release, WaitQueueEvent.isWait, WaitQueueEvent.isPost,
        WaitQueueEvent.isSignal]
  | setCondition waker at_set | goesOn waker at_value low | ends waker at_value high =>
      simp [setWaker, makeTrue, WaitQueueEvent.isWait, WaitQueueEvent.isPost,
        WaitQueueEvent.isSignal]
  | releases waker thread at_post member =>
      simp [setWaker, Semaphore.release, WaitQueueEvent.isWait, WaitQueueEvent.isPost,
        WaitQueueEvent.isSignal]
  | banks waker at_post idle =>
      simp [setWaker, Semaphore.bank, WaitQueueEvent.isWait, WaitQueueEvent.isPost,
        WaitQueueEvent.isSignal]

private theorem accounted_step (all : calls.wakeUp () = .all) (accounted : Accounted entry events state)
    (steps : Steps calls state event after) : Accounted entry (events ++ [event]) after := by
  obtain ⟨count, entered, turns⟩ := accounted
  have loop := loop_step all entered steps
  have decided : postsDecided (events ++ [event]) after = postsDecided events state +
      if event.isGetValue = true ∧ state.queue.count ≤ 0 then 1 else 0 := postsDecided_step loop
  have moved := count_step steps
  constructor
  · simp only [countP_concat]
    omega
  · exact entered_step all entered steps
  · rw [decided, countP_concat, turns]
    cases loop with
    | elsewhere not_post not_read same => simp [not_read, same]
    | goesOn at_value low next => simp [WaitQueueEvent.isGetValue, at_value, low, next]
    | ends at_value high next => simp [WaitQueueEvent.isGetValue, at_value, high, next]
    | posts at_post next => simp [WaitQueueEvent.isGetValue, at_post, next]

/-- Only a turn of the loop can be one too many. -/
theorem workBounded_step_iff (all : calls.wakeUp () = .all)
    (accounted : Accounted entry events state) (bounded : WorkBounded entry events state)
    (steps : Steps calls state event after) :
    WorkBounded entry (events ++ [event]) after ↔
      NotUndone entry (events, state) event (events ++ [event], after) := by
  have few := bounded.posts
  have loop := loop_step all accounted.entered steps
  rw [workBounded_iff (accounted_step all accounted steps), postsDecided_step loop]
  cases loop with
  | elsewhere not_post not_read same =>
      refine iff_of_true (by simpa [not_read] using few) ?_
      cases event with
      | getValue waker => cases not_read
      | _ => trivial
  | posts at_post next => exact iff_of_true (by simpa [WaitQueueEvent.isGetValue] using few) trivial
  | ends at_value high next =>
      refine iff_of_true (by simpa [Int.not_le.mpr high] using few) ?_
      exact fun posted => (count_pos_iff accounted posted).mp high
  | goesOn at_value low next =>
      have posts : postsDecided events state = events.countP WaitQueueEvent.isPost := by
        simp [postsDecided, at_value]
      simp only [WaitQueueEvent.isGetValue, low, and_self, if_true]
      constructor
      · intro still posted
        change events.countP WaitQueueEvent.isPost = _ at posted
        omega
      · intro kept
        have not_all : events.countP WaitQueueEvent.isPost ≠ entry.queue.blocked.length + 1 := by
          intro posted
          have high := (count_pos_iff accounted posted).mpr (kept posted)
          omega
        omega

/-- The loop never has to wait for a waiter. -/
theorem wake_up_all_enabled (entered : state.wakers () ≠ .setCondition)
    (running : state.wakers () ≠ .returned) :
    ∃ event after, (event.isGetValue = true ∨ event.isPost = true) ∧
      state.step calls event = some after := by
  cases at_pc : state.wakers () with
  | setCondition => exact absurd at_pc entered
  | returned => exact absurd at_pc running
  | getValue =>
      exact ⟨.getValue (), _, .inl rfl, by simp [step, stepWaiter, stepWaker, at_pc]; rfl⟩
  | post =>
      cases blocked : state.queue.blocked with
      | nil =>
          exact ⟨.post () none, _, .inr rfl,
            by simp [step, stepWaiter, stepWaker, nxsemPost, at_pc, blocked]; rfl⟩
      | cons thread others =>
          exact ⟨.post () (some thread), _, .inr rfl,
            by simp [step, stepWaiter, stepWaker, nxsemPost, at_pc, blocked]; rfl⟩

/-- Whatever the waiters do during a call of `wake_up_all`, it makes at most one post for
each thread that was blocked at its entry and one more, exactly when no wait undoes a post
before its loop reads the count after those. Until it has returned its loop can always go on,
so that with a bound on its work it comes to its end. -/
theorem wake_up_all_work_bounded_iff (all : calls.wakeUp () = .all)
    (entered : entry.wakers () = .getValue) (events : List (WaitQueueEvent Thread Unit)) :
    (Along (recorded (step calls)) (fun _ _ after => WorkBounded entry after.1 after.2)
        ([], entry) events ↔
      Along (recorded (step calls)) (NotUndone entry) ([], entry) events) ∧
    ∀ state, run (step calls) entry events = some state → state.wakers () ≠ .returned →
      ∃ event after, (event.isGetValue = true ∨ event.isPost = true) ∧
        state.step calls event = some after := by
  constructor
  · let holds (reached : List (WaitQueueEvent Thread Unit) × WaitQueue Thread Condition Unit) :
        Prop := Accounted entry reached.1 reached.2 ∧ WorkBounded entry reached.1 reached.2
    have accounted : Accounted entry [] entry :=
      ⟨by simp, by simp [entered], by simp [postsDecided, entered]⟩
    have start : holds ([], entry) :=
      ⟨accounted, (workBounded_iff accounted).mpr (by simp [postsDecided, entered])⟩
    refine along_iff_along ?_ ?_ start
    · rintro ⟨past, before⟩ event ⟨_, after⟩ ⟨accounted, bounded⟩ stepped
      obtain ⟨stepped, rfl⟩ := recorded_eq_some.mp stepped
      exact workBounded_step_iff all accounted bounded (step_eq_some stepped)
    · rintro ⟨past, before⟩ event ⟨_, after⟩ ⟨accounted, bounded⟩ stepped kept
      obtain ⟨stepped, rfl⟩ := recorded_eq_some.mp stepped
      have steps := step_eq_some stepped
      exact ⟨accounted_step all accounted steps,
        (workBounded_step_iff all accounted bounded steps).mpr kept⟩
  · intro state reached running
    let inside (state : WaitQueue Thread Condition Unit) : Prop :=
      state.wakers () ≠ .setCondition
    have start : inside entry := by simp [inside, entered]
    have entered_still : inside state := by
      refine run_invariant ?_ start reached
      intro before event after still stepped
      exact entered_step all still (step_eq_some stepped)
    exact wake_up_all_enabled entered_still running

/-- One waiter, whose condition is not the one that the caller of `wake_up_all` makes true. -/
def unrelated : Calls (Fin 1) Bool Unit where
  condition := fun _ => false
  interruptible := fun _ => false
  target := fun _ => true
  wakeUp := fun _ => .all

def unrelatedBlocked : List (WaitQueueEvent (Fin 1) Unit) := [.test 0, .wait 0, .setCondition ()]

theorem wake_up_all_work_bounded_slow_waiter :
    ∃ entry, run (step unrelated) (initial fun _ => false) unrelatedBlocked = some entry ∧
      Along (recorded (step unrelated)) (fun _ _ after => WorkBounded entry after.1 after.2)
        ([], entry)
        [.getValue (), .post () (some 0), .getValue (), .post () none, .getValue ()] := by
  obtain ⟨entry, reached, entered, kept⟩ : ∃ entry,
      run (step unrelated) (initial fun _ => false) unrelatedBlocked = some entry ∧
        entry.wakers () = .getValue ∧
        Along (recorded (step unrelated)) (NotUndone entry) ([], entry)
          [.getValue (), .post () (some 0), .getValue (), .post () none, .getValue ()] :=
    run_computed (by decide) ⟨by decide, by decide⟩
  exact ⟨entry, reached, (wake_up_all_work_bounded_iff rfl entered _).1.mpr kept⟩

/-- The waiter finds its condition false and waits again before each read of the count: with
one thread on the queue the call posts three times, and is not done. -/
theorem wake_up_all_posts_again :
    ∃ entry, run (step unrelated) (initial fun _ => false) unrelatedBlocked = some entry ∧
      entry.wakers () = .getValue ∧ entry.queue.blocked.length = 1 ∧
      (run (step unrelated) entry
        [.getValue (), .post () (some 0), .test 0, .wait 0, .getValue (), .post () (some 0),
          .test 0, .wait 0, .getValue (), .post () (some 0), .test 0, .wait 0]).map
        (fun state => state.wakers ()) = some .getValue ∧
      ¬ Along (recorded (step unrelated)) (fun _ _ after => WorkBounded entry after.1 after.2)
        ([], entry)
        [.getValue (), .post () (some 0), .test 0, .wait 0, .getValue (), .post () (some 0),
          .test 0, .wait 0, .getValue (), .post () (some 0), .test 0, .wait 0] :=
  run_computed (by decide) ⟨by decide, by decide, by decide, by decide⟩

end WaitQueue

end VelaExternal.Ethercat

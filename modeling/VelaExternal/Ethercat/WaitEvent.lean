import VelaExternal.Ethercat.WaitQueueProperties

/-! One call of `wait_event_interruptible`, with a condition that may change at any time
and any results of `nxsem_wait`: what its return value says of why it returned. -/

set_option autoImplicit false

namespace VelaExternal.Ethercat

open Systems

universe u v w

inductive WaitCallPc where
  | test
  | wait
  | returned
  deriving DecidableEq

/-- A call between two of its operations, with `__ret`. -/
structure WaitCall where
  pc : WaitCallPc
  ret : Int
  deriving DecidableEq

/-- An evaluation of the condition, or a return of `nxsem_wait`. -/
inductive WaitCallEvent where
  | evaluate (value : Bool)
  | semWait (result : Int)
  deriving DecidableEq

namespace WaitCall

def initial : WaitCall := ⟨.test, 0⟩

/-- `__wait_event(q, c, 1)`; `nxsem_wait` returns zero or a negative error. -/
def step (call : WaitCall) : WaitCallEvent → Option WaitCall
  | .evaluate value =>
      if call.pc = .test then some ⟨if value then .returned else .wait, call.ret⟩ else none
  | .semWait result =>
      if call.pc = .wait ∧ result ≤ 0 then some ⟨.test, result⟩ else none

private theorem step_evaluate {call after : WaitCall} {value : Bool} :
    call.step (.evaluate value) = some after ↔
      call.pc = .test ∧ ⟨if value then .returned else .wait, call.ret⟩ = after := by
  simp only [step, Option.ite_none_right_eq_some, Option.some.injEq]

private theorem step_semWait {call after : WaitCall} {result : Int} :
    call.step (.semWait result) = some after ↔
      (call.pc = .wait ∧ result ≤ 0) ∧ ⟨.test, result⟩ = after := by
  simp only [step, Option.ite_none_right_eq_some, Option.some.injEq]

/-!
## Why a call returns
-/

/-- The values that the condition was found to have. -/
def evaluations : List WaitCallEvent → List Bool :=
  List.filterMap fun event =>
    match event with
    | .evaluate value => some value
    | .semWait _ => none

/-- A wait was interrupted, and the condition was then found false. -/
def InterruptedUnmet (events : List WaitCallEvent) : Prop :=
  ∃ past result later, events = past ++ .semWait result :: .evaluate false :: later ∧ result < 0

/-- A call returns zero when it last found its condition true, and it returns an error
as soon as it finds it false after an interrupted wait, and only then. -/
structure ReportsWhy (events : List WaitCallEvent) (call : WaitCall) : Prop where
  zero : call.pc = .returned → (call.ret = 0 ↔ (evaluations events).getLast? = some true)
  error : (call.pc = .returned ∧ call.ret < 0) ↔ InterruptedUnmet events

/-- No wait is interrupted, but for one that the call has not yet gone on from. -/
def Uninterrupted (events : List WaitCallEvent) : Prop :=
  ∀ result, .semWait result ∈ events.dropLast → 0 ≤ result

/-- What led a call to where it is. -/
def Arrived (events : List WaitCallEvent) (call : WaitCall) : Prop :=
  match call.pc with
  | .test => events = [] ∧ call.ret = 0 ∨ ∃ past, events = past ++ [.semWait call.ret]
  | .wait => ∃ past, events = past ++ [.evaluate false]
  | .returned => ∃ past, events = past ++ [.evaluate true]

private theorem arrived {events : List WaitCallEvent} {call : WaitCall}
    (reached : run step initial events = some call) : Arrived events call := by
  have start : Arrived [] initial := Or.inl ⟨rfl, rfl⟩
  refine run_history Arrived start ?_ reached
  intro past before event after _ _ stepped
  cases event with
  | evaluate value =>
      obtain ⟨_, rfl⟩ := step_evaluate.mp stepped
      cases value with
      | false => exact ⟨past, rfl⟩
      | true => exact ⟨past, rfl⟩
  | semWait result =>
      obtain ⟨_, rfl⟩ := step_semWait.mp stepped
      exact Or.inr ⟨past, rfl⟩

private theorem returned_last {events : List WaitCallEvent} {call : WaitCall}
    (reached : run step initial events = some call) (returned : call.pc = .returned) :
    (evaluations events).getLast? = some true := by
  have came := arrived reached
  rw [Arrived, returned] at came
  obtain ⟨past, rfl⟩ := came
  simp [evaluations]

private theorem ret_nonpos {events : List WaitCallEvent} {call : WaitCall}
    (reached : run step initial events = some call) : call.ret ≤ 0 := by
  let holds (call : WaitCall) : Prop := call.ret ≤ 0
  change holds call
  refine run_invariant ?_ (Int.le_refl 0 : holds initial) reached
  intro before event after nonpos stepped
  cases event with
  | evaluate value =>
      obtain ⟨_, rfl⟩ := step_evaluate.mp stepped
      exact nonpos
  | semWait result =>
      obtain ⟨⟨_, failed⟩, rfl⟩ := step_semWait.mp stepped
      exact failed

/-- Only an interrupted wait right before its last evaluation gives a call an error to
return. -/
theorem ret_of_uninterrupted {events : List WaitCallEvent} {call : WaitCall}
    (reached : run step initial events = some call) (uninterrupted : Uninterrupted events)
    (returned : call.pc = .returned) : call.ret = 0 := by
  have came := arrived reached
  rw [Arrived, returned] at came
  obtain ⟨past, rfl⟩ := came
  obtain ⟨before, before_reached, stepped⟩ := run_snoc.mp reached
  obtain ⟨at_test, rfl⟩ := step_evaluate.mp stepped
  have before_came := arrived before_reached
  rw [Arrived, at_test] at before_came
  rcases before_came with ⟨_, zero⟩ | ⟨earlier, rfl⟩
  · exact zero
  · have nonpos := ret_nonpos before_reached
    have nonneg : 0 ≤ before.ret := uninterrupted before.ret (by simp)
    exact Int.le_antisymm nonpos nonneg

/-- An evaluation after an interrupted wait gives the call away: it waits again, or it
returns an error with its condition true. -/
theorem not_reportsWhy {past later : List WaitCallEvent} {result : Int} {event : WaitCallEvent}
    {call : WaitCall}
    (reached : run step initial (past ++ .semWait result :: event :: later) = some call)
    (interrupted : result < 0) :
    ¬ ReportsWhy (past ++ .semWait result :: event :: later) call := by
  intro reports
  have zero_of_returned (returned : call.pc = .returned) : call.ret = 0 :=
    (reports.zero returned).mpr (returned_last reached returned)
  obtain ⟨middle, _, rest⟩ := run_append.mp reached
  obtain ⟨woken, waited, rest⟩ := run_cons_eq_some.mp rest
  obtain ⟨_, rfl⟩ := step_semWait.mp waited
  obtain ⟨next, stepped, rest⟩ := run_cons_eq_some.mp rest
  cases event with
  | semWait other => simp [step] at stepped
  | evaluate value =>
      obtain ⟨_, rfl⟩ := step_evaluate.mp stepped
      cases value with
      | false =>
          have error := reports.error.mpr ⟨past, result, later, rfl, interrupted⟩
          have zero := zero_of_returned error.1
          omega
      | true =>
          cases later with
          | nil =>
              obtain rfl := Option.some.inj rest
              have zero : result = 0 := zero_of_returned rfl
              omega
          | cons event later =>
              obtain ⟨beyond, stepped, _⟩ := run_cons_eq_some.mp rest
              cases event <;> simp [step] at stepped

private theorem reportsWhy_iff {events : List WaitCallEvent} {call : WaitCall}
    (reached : run step initial events = some call) :
    ReportsWhy events call ↔ Uninterrupted events := by
  constructor
  · intro reports result member
    obtain ⟨past, rest, shape⟩ := List.append_of_mem member
    have nonempty : events ≠ [] := by
      rintro rfl
      cases member
    have whole := List.dropLast_append_getLast nonempty
    rw [shape, List.append_assoc, List.cons_append] at whole
    by_contra negative
    obtain ⟨event, later, followed⟩ : ∃ event later, rest ++ [events.getLast nonempty] =
        event :: later := by
      cases rest with
      | nil => exact ⟨_, [], rfl⟩
      | cons event rest => exact ⟨event, _, rfl⟩
    rw [followed] at whole
    rw [← whole] at reached reports
    exact not_reportsWhy reached (Int.not_le.mp negative) reports
  · intro uninterrupted
    constructor
    · intro returned
      exact iff_of_true (ret_of_uninterrupted reached uninterrupted returned)
        (returned_last reached returned)
    · refine iff_of_false ?_ ?_
      · intro failed
        obtain ⟨returned, negative⟩ := failed
        have zero := ret_of_uninterrupted reached uninterrupted returned
        omega
      · intro unmet
        obtain ⟨past, result, later, rfl, interrupted⟩ := unmet
        have nonneg := uninterrupted result (by simp)
        omega

/-- For all changes of the condition and all results of the waits, the call reports why it
returned exactly when it does nothing after an interrupted wait. -/
theorem wait_event_reports_why_iff {events : List WaitCallEvent} {call : WaitCall}
    (reached : run step initial events = some call) :
    ReportsWhy events call ↔ Uninterrupted events :=
  reportsWhy_iff reached

theorem wait_event_reports_why_woken :
    ReportsWhy [.evaluate false, .semWait 0, .evaluate true] ⟨.returned, 0⟩ := by
  have uninterrupted : Uninterrupted [.evaluate false, .semWait 0, .evaluate true] := by
    simp [Uninterrupted]
  exact (wait_event_reports_why_iff (by decide)).mpr uninterrupted

/-- After `-EINTR` and a false condition the call waits again, and then returns zero; with
a true condition it returns the error. -/
theorem wait_event_interrupted :
    (run step initial
        [.evaluate false, .semWait (-4), .evaluate false, .semWait 0, .evaluate true] =
          some ⟨.returned, 0⟩ ∧
      ¬ ReportsWhy
        [.evaluate false, .semWait (-4), .evaluate false, .semWait 0, .evaluate true]
        ⟨.returned, 0⟩) ∧
    run step initial [.evaluate false, .semWait (-4), .evaluate true] =
        some ⟨.returned, -4⟩ ∧
      ¬ ReportsWhy [.evaluate false, .semWait (-4), .evaluate true] ⟨.returned, -4⟩ := by
  refine ⟨⟨by decide, fun reports => ?_⟩, by decide, fun reports => ?_⟩
  · have error := reports.error.mpr ⟨[.evaluate false], -4, _, rfl, by decide⟩
    exact absurd error.2 (by decide)
  · exact absurd ((reports.zero rfl).mpr rfl) (by decide)

end WaitCall

/-!
## The waiters of a queue
-/

/-- The call that a waiter of a queue is in; a blocked waiter has not returned from its wait. -/
def Waiter.call (waiter : Waiter) : WaitCall where
  pc :=
    match waiter.pc with
    | .test => .test
    | .wait | .blocked => .wait
    | .returned => .returned
  ret := waiter.ret

namespace WaitQueue

variable {Thread : Type u} {Condition : Type v} {Waker : Type w} [DecidableEq Thread]
  {state after : WaitQueue Thread Condition Waker}

/-- A step that replaces one waiter moves the call of that waiter only. -/
theorem call_moves {acting : Thread} {waiter : Waiter}
    (waiters : after.waiters = Function.update state.waiters acting waiter)
    (moves : (state.waiters acting).call = waiter.call ∨
      ∃ event, (state.waiters acting).call.step event = some waiter.call) (thread : Thread) :
    (state.waiters thread).call = (after.waiters thread).call ∨
      ∃ event, (state.waiters thread).call.step event = some (after.waiters thread).call := by
  rw [waiters]
  by_cases same : thread = acting
  · subst same
    rw [Function.update_self]
    exact moves
  · rw [Function.update_of_ne same]
    exact .inl rfl

variable [DecidableEq Condition] [DecidableEq Waker] {calls : Calls Thread Condition Waker}
  {event : WaitQueueEvent Thread Waker}

private theorem call_step (queued : Queued state) (steps : Steps calls state event after)
    (thread : Thread) :
    (state.waiters thread).call = (after.waiters thread).call ∨
      ∃ event, (state.waiters thread).call.step event = some (after.waiters thread).call := by
  have blocked_pc {acting : Thread} (member : acting ∈ state.queue.blocked) :
      (state.waiters acting).pc = .blocked := (queued.mem_iff acting).mp member
  cases steps with
  | leaves acting at_test met =>
      refine call_moves rfl (.inr ⟨.evaluate true, ?_⟩) thread
      simp [WaitCall.step, Waiter.call, Waiter.setPc, at_test]
  | stays acting at_test unmet =>
      refine call_moves rfl (.inr ⟨.evaluate false, ?_⟩) thread
      simp [WaitCall.step, Waiter.call, Waiter.setPc, at_test]
  | takes acting at_wait available =>
      refine call_moves rfl (.inr ⟨.semWait 0, ?_⟩) thread
      simp [WaitCall.step, Waiter.call, Waiter.counted, at_wait]
  | blocks acting at_wait unavailable =>
      refine call_moves rfl (.inl ?_) thread
      simp [Waiter.call, Waiter.setPc, at_wait]
  | interrupt acting member interruptible =>
      refine call_moves rfl (.inr ⟨.semWait (-4), ?_⟩) thread
      simp [WaitCall.step, Waiter.call, Waiter.interrupted, blocked_pc member]
  | releases waker acting at_post member =>
      refine call_moves rfl (.inr ⟨.semWait 0, ?_⟩) thread
      simp [WaitCall.step, Waiter.call, Waiter.counted, blocked_pc member]
  | setCondition waker at_set | goesOn waker at_value low | ends waker at_value high
  | banks waker at_post idle => exact .inl rfl

/-- Every waiter of a queue makes such a call, whatever the other threads do. -/
theorem waiter_calls {conditions : Condition → Bool} {events : List (WaitQueueEvent Thread Waker)}
    (reached : run (step calls) (initial conditions) events = some state) (thread : Thread) :
    ∃ call_events, run WaitCall.step .initial call_events = some (state.waiters thread).call := by
  let holds (state : WaitQueue Thread Condition Waker) : Prop :=
    Queued state ∧
      ∃ call_events, run WaitCall.step .initial call_events = some (state.waiters thread).call
  have start : holds (initial conditions) := ⟨queued_initial conditions, [], rfl⟩
  suffices held : holds state from held.2
  refine run_invariant ?_ start reached
  intro before event after held stepped
  obtain ⟨queued, call_events, called⟩ := held
  have steps := step_eq_some stepped
  refine ⟨queued_step queued steps, ?_⟩
  rcases call_step queued steps thread with same | ⟨call_event, moved⟩
  · exact ⟨call_events, same ▸ called⟩
  · exact ⟨call_events ++ [call_event], run_snoc.mpr ⟨_, called, moved⟩⟩

/-- So the calls of all waiters, in all runs of the queue, report why they returned exactly when
they do nothing after an interrupted wait. -/
theorem waiter_reports_why {conditions : Condition → Bool}
    {events : List (WaitQueueEvent Thread Waker)}
    (reached : run (step calls) (initial conditions) events = some state) (thread : Thread) :
    ∃ call_events, run WaitCall.step .initial call_events = some (state.waiters thread).call ∧
      (WaitCall.ReportsWhy call_events (state.waiters thread).call ↔
        WaitCall.Uninterrupted call_events) := by
  obtain ⟨call_events, called⟩ := waiter_calls reached thread
  exact ⟨call_events, called, WaitCall.reportsWhy_iff called⟩

end WaitQueue

end VelaExternal.Ethercat

import Mathlib.Logic.Function.Basic
import VelaExternal.Systems.Run
import VelaExternal.Systems.Semaphore

/-!
# Wait queues on NuttX

`__wait_event`, `wake_up_interruptible` and `wake_up_all` of `nuttx/linux/wait.h`, run
by any number of waiters and wakers on one queue.
-/

set_option autoImplicit false

namespace VelaExternal.Ethercat

open Systems

universe u v w

/-- `wait_queue_head_t`, which is `sem_t`. -/
abbrev WaitQueueHead (Thread : Type u) := Semaphore Thread

def initWaitqueueHead {Thread : Type u} : WaitQueueHead Thread := .init 0

inductive WaiterPc where
  | test
  | wait
  | blocked
  | returned
  deriving DecidableEq

/-- A waiter with its `__ret`, and with the number of its waits that ended with a count. -/
structure Waiter where
  pc : WaiterPc
  ret : Int
  counts : Nat
  deriving DecidableEq

namespace Waiter

def initial : Waiter where
  pc := .test
  ret := 0
  counts := 0

def setPc (waiter : Waiter) (pc : WaiterPc) : Waiter :=
  { waiter with pc }

@[simp] theorem setPc_pc (waiter : Waiter) (pc : WaiterPc) : (waiter.setPc pc).pc = pc := rfl

theorem setPc_counts (waiter : Waiter) (pc : WaiterPc) :
    (waiter.setPc pc).counts = waiter.counts := rfl

/-- `nxsem_wait` returns 0. -/
def counted (waiter : Waiter) : Waiter where
  pc := .test
  ret := 0
  counts := waiter.counts + 1

@[simp] theorem counted_pc (waiter : Waiter) : waiter.counted.pc = .test := rfl

/-- `nxsem_wait` returns `-EINTR`. -/
def interrupted (waiter : Waiter) : Waiter :=
  { waiter with pc := .test, ret := -4 }

theorem interrupted_counts (waiter : Waiter) : waiter.interrupted.counts = waiter.counts := rfl

end Waiter

inductive WakeUp where
  | interruptible
  | all
  deriving DecidableEq

/-- Places of a thread that makes a condition true and then calls `wake_up_interruptible`
or `wake_up_all`; only the second one reads the count. -/
inductive WakerPc where
  | setCondition
  | getValue
  | post
  | returned
  deriving DecidableEq

/-- Where a wake-up function starts: the loop of `wake_up_all` tests the count first. -/
def WakeUp.entry : WakeUp → WakerPc
  | .interruptible => .post
  | .all => .getValue

def WakeUp.afterPost : WakeUp → WakerPc
  | .interruptible => .returned
  | .all => .getValue

/-- The arguments that the threads of a queue call its functions with. -/
structure Calls (Thread : Type u) (Condition : Type v) (Waker : Type w) where
  condition : Thread → Condition
  interruptible : Thread → Bool
  target : Waker → Condition
  wakeUp : Waker → WakeUp

structure WaitQueue (Thread : Type u) (Condition : Type v) (Waker : Type w) where
  conditions : Condition → Bool
  queue : WaitQueueHead Thread
  waiters : Thread → Waiter
  wakers : Waker → WakerPc

/-- A `post` comes with the waiter that the scheduler chooses. -/
inductive WaitQueueEvent (Thread : Type u) (Waker : Type w) where
  | test (thread : Thread)
  | wait (thread : Thread)
  | interrupt (thread : Thread)
  | setCondition (waker : Waker)
  | getValue (waker : Waker)
  | post (waker : Waker) (chosen : Option Thread)

def WaitQueueEvent.isSignal {Thread : Type u} {Waker : Type w} :
    WaitQueueEvent Thread Waker → Bool
  | .interrupt _ => true
  | _ => false

namespace WaitQueue

variable {Thread : Type u} {Condition : Type v} {Waker : Type w}

def initial (conditions : Condition → Bool) : WaitQueue Thread Condition Waker where
  conditions := conditions
  queue := initWaitqueueHead
  waiters := fun _ => .initial
  wakers := fun _ => .setCondition

def met (calls : Calls Thread Condition Waker) (state : WaitQueue Thread Condition Waker)
    (thread : Thread) : Bool :=
  state.conditions (calls.condition thread)

def setWaiter [DecidableEq Thread] (state : WaitQueue Thread Condition Waker) (thread : Thread)
    (waiter : Waiter) : WaitQueue Thread Condition Waker :=
  { state with waiters := Function.update state.waiters thread waiter }

def setWaker [DecidableEq Waker] (state : WaitQueue Thread Condition Waker) (waker : Waker)
    (pc : WakerPc) : WaitQueue Thread Condition Waker :=
  { state with wakers := Function.update state.wakers waker pc }

def makeTrue [DecidableEq Condition] (state : WaitQueue Thread Condition Waker)
    (condition : Condition) : WaitQueue Thread Condition Waker :=
  { state with conditions := Function.update state.conditions condition true }

section Fields

variable {state : WaitQueue Thread Condition Waker}

@[simp] theorem setWaker_self [DecidableEq Waker] (waker : Waker) (pc : WakerPc) :
    (state.setWaker waker pc).wakers waker = pc := Function.update_self ..

theorem setWaker_of_ne [DecidableEq Waker] {waker other : Waker} (different : other ≠ waker)
    (pc : WakerPc) : (state.setWaker waker pc).wakers other = state.wakers other :=
  Function.update_of_ne different ..

@[simp] theorem makeTrue_self [DecidableEq Condition] (condition : Condition) :
    (state.makeTrue condition).conditions condition = true := Function.update_self ..

theorem makeTrue_of_ne [DecidableEq Condition] {condition other : Condition}
    (different : other ≠ condition) :
    (state.makeTrue condition).conditions other = state.conditions other :=
  Function.update_of_ne different ..

end Fields

variable [DecidableEq Thread] [DecidableEq Condition] [DecidableEq Waker]

def stepWaiter (calls : Calls Thread Condition Waker)
    (state : WaitQueue Thread Condition Waker) :
    WaitQueueEvent Thread Waker → Option (WaitQueue Thread Condition Waker)
  | .test thread =>
      let waiter := state.waiters thread
      if waiter.pc = .test then
        some (state.setWaiter thread
          (waiter.setPc (if state.met calls thread then .returned else .wait)))
      else none
  | .wait thread =>
      let waiter := state.waiters thread
      if waiter.pc = .wait then
        if available : state.queue.Available then
          some { state.setWaiter thread waiter.counted with queue := state.queue.take available }
        else
          some { state.setWaiter thread (waiter.setPc .blocked) with
            queue := state.queue.block thread available }
      else none
  | .interrupt thread =>
      if member : thread ∈ state.queue.blocked then
        if calls.interruptible thread then
          some { state.setWaiter thread (state.waiters thread).interrupted with
            queue := state.queue.release thread member }
        else none
      else none
  | _ => none

/-- `nxsem_post`: the chosen waiter is released with the count; with nobody blocked the
count is kept. -/
def nxsemPost (state : WaitQueue Thread Condition Waker) :
    Option Thread → Option (WaitQueue Thread Condition Waker)
  | some thread =>
      if member : thread ∈ state.queue.blocked then
        some { state.setWaiter thread (state.waiters thread).counted with
          queue := state.queue.release thread member }
      else none
  | none =>
      if idle : state.queue.blocked = [] then
        some { state with queue := state.queue.bank idle }
      else none

def stepWaker (calls : Calls Thread Condition Waker)
    (state : WaitQueue Thread Condition Waker) :
    WaitQueueEvent Thread Waker → Option (WaitQueue Thread Condition Waker)
  | .setCondition waker =>
      if state.wakers waker = .setCondition then
        some ((state.setWaker waker (calls.wakeUp waker).entry).makeTrue (calls.target waker))
      else none
  | .getValue waker =>
      if state.wakers waker = .getValue then
        some (state.setWaker waker (if state.queue.count ≤ 0 then .post else .returned))
      else none
  | .post waker chosen =>
      if state.wakers waker = .post then
        (state.nxsemPost chosen).map fun next =>
          next.setWaker waker (calls.wakeUp waker).afterPost
      else none
  | _ => none

def step (calls : Calls Thread Condition Waker) (state : WaitQueue Thread Condition Waker)
    (event : WaitQueueEvent Thread Waker) : Option (WaitQueue Thread Condition Waker) :=
  state.stepWaiter calls event <|> state.stepWaker calls event

/-- No thread is able to take a step; a signal would come from outside. -/
def Terminal (calls : Calls Thread Condition Waker) (state : WaitQueue Thread Condition Waker) :
    Prop :=
  ∀ event, event.isSignal = false → state.step calls event = none

end WaitQueue

end VelaExternal.Ethercat

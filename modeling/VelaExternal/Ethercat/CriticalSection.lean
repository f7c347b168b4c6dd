import VelaExternal.Systems.Run
import VelaExternal.Systems.Semaphore
import VelaExternal.Systems.Total

/-!
# Critical sections

`sema_init`, `down` and `up` of `nuttx/linux/semaphore.h`, by any number of threads that
repeat `down(s)`; critical section; `up(s)`. `down` is the interruptible `nxsem_wait`, and
its callers drop what it returns.
-/

set_option autoImplicit false

namespace VelaExternal.Ethercat

open Systems

universe u

/-- Places of a thread: before `down`, blocked in it, between `down` and `up`. -/
inductive LockPc where
  | outside
  | blocked
  | inside
  deriving DecidableEq

structure LockUser where
  pc : LockPc
  ret : Int
  deriving DecidableEq

namespace LockUser

def initial : LockUser where
  pc := .outside
  ret := 0

def setPc (user : LockUser) (pc : LockPc) : LockUser :=
  { user with pc }

/-- `down` returns, with the result of `nxsem_wait`. -/
def enter (ret : Int) : LockUser where
  pc := .inside
  ret := ret

@[simp] theorem setPc_pc (user : LockUser) (pc : LockPc) : (user.setPc pc).pc = pc := rfl

@[simp] theorem enter_pc (ret : Int) : (enter ret).pc = .inside := rfl

end LockUser

structure CriticalSection (Thread : Type u) where
  semaphore : Semaphore Thread
  users : Thread → LockUser

/-- An `up` comes with the thread that the scheduler chooses to wake. -/
inductive LockEvent (Thread : Type u) where
  | down (thread : Thread)
  | interrupt (thread : Thread)
  | up (thread : Thread) (chosen : Option Thread)

def LockEvent.isSignal {Thread : Type u} : LockEvent Thread → Bool
  | .interrupt _ => true
  | _ => false

namespace CriticalSection

variable {Thread : Type u}

/-- `sema_init(s, v)` -/
def semaInit (value : Nat) : Semaphore Thread := .init value

def initial (value : Nat) : CriticalSection Thread where
  semaphore := semaInit value
  users := fun _ => .initial

section Operations

variable [DecidableEq Thread]

def setUser (state : CriticalSection Thread) (thread : Thread) (user : LockUser) :
    CriticalSection Thread :=
  { state with users := Function.update state.users thread user }

/-- `nxsem_wait` takes a count or blocks. -/
def nxsemWait (state : CriticalSection Thread) (thread : Thread) : CriticalSection Thread :=
  if available : state.semaphore.Available then
    { state.setUser thread (.enter 0) with semaphore := state.semaphore.take available }
  else
    { state.setUser thread ((state.users thread).setPc .blocked) with
      semaphore := state.semaphore.block thread available }

/-- A signal: the blocked `nxsem_wait` gives its place up and returns `-EINTR`. -/
def interruptWait (state : CriticalSection Thread) (thread : Thread)
    (member : thread ∈ state.semaphore.blocked) : CriticalSection Thread :=
  { state.setUser thread (.enter (-4)) with
    semaphore := state.semaphore.release thread member }

/-- `nxsem_post`: the `nxsem_wait` of the chosen thread returns with the count; with nobody
blocked the count is kept. -/
def nxsemPost (state : CriticalSection Thread) : Option Thread → Option (CriticalSection Thread)
  | some thread =>
      if member : thread ∈ state.semaphore.blocked then
        some { state.setUser thread (.enter 0) with
          semaphore := state.semaphore.release thread member }
      else none
  | none =>
      if idle : state.semaphore.blocked = [] then
        some { state with semaphore := state.semaphore.bank idle }
      else none

def down (state : CriticalSection Thread) (thread : Thread) : CriticalSection Thread :=
  state.nxsemWait thread

def up (state : CriticalSection Thread) (thread : Thread) (chosen : Option Thread) :
    Option (CriticalSection Thread) :=
  (state.setUser thread ((state.users thread).setPc .outside)).nxsemPost chosen

def step (state : CriticalSection Thread) :
    LockEvent Thread → Option (CriticalSection Thread)
  | .down thread =>
      if (state.users thread).pc = .outside then some (state.down thread) else none
  | .interrupt thread =>
      if member : thread ∈ state.semaphore.blocked then some (state.interruptWait thread member)
      else none
  | .up thread chosen =>
      if (state.users thread).pc = .inside then state.up thread chosen else none

end Operations

def Queued (state : CriticalSection Thread) : Prop :=
  state.semaphore.Blocks (fun user => user.pc = .blocked) state.users

theorem queued_initial (value : Nat) : Queued (initial value : CriticalSection Thread) := by
  apply Semaphore.blocks_init
  intro thread blocked
  cases blocked

section Bounds

variable [Fintype Thread]

def inside (state : CriticalSection Thread) : Nat :=
  countWhere (fun user => decide (user.pc = .inside)) state.users

def Bounded (value : Nat) (state : CriticalSection Thread) : Prop :=
  state.inside ≤ value ∧ state.semaphore.count ≤ value

instance (value : Nat) (state : CriticalSection Thread) : Decidable (Bounded value state) :=
  inferInstanceAs (Decidable (_ ∧ _))

private theorem bounded_of_counts {value : Nat} {state : CriticalSection Thread}
    (counts : state.inside + state.semaphore.free = value) : Bounded value state := by
  unfold Semaphore.free at counts
  constructor <;> omega

structure Sound (value : Nat) (state : CriticalSection Thread) : Prop where
  queued : Queued state
  counts : state.inside + state.semaphore.free = value

private theorem sound_initial (value : Nat) : Sound value (initial value : CriticalSection Thread) := by
  have nobody : (initial value : CriticalSection Thread).inside = 0 := by
    apply countWhere_eq_zero_iff.mpr
    intro thread
    rfl
  constructor
  · exact queued_initial value
  · rw [nobody, Nat.zero_add]
    exact Semaphore.free_init value

end Bounds

/-!
## Steps
-/

variable [DecidableEq Thread] {state after : CriticalSection Thread} {event : LockEvent Thread}

inductive Steps (state : CriticalSection Thread) :
    LockEvent Thread → CriticalSection Thread → Prop where
  | takes (thread : Thread) (at_down : (state.users thread).pc = .outside)
      (available : state.semaphore.Available) :
      Steps state (.down thread)
        { state.setUser thread (.enter 0) with semaphore := state.semaphore.take available }
  | blocks (thread : Thread) (at_down : (state.users thread).pc = .outside)
      (unavailable : ¬ state.semaphore.Available) :
      Steps state (.down thread)
        { state.setUser thread ((state.users thread).setPc .blocked) with
          semaphore := state.semaphore.block thread unavailable }
  | interrupt (thread : Thread) (member : thread ∈ state.semaphore.blocked) :
      Steps state (.interrupt thread)
        { state.setUser thread (.enter (-4)) with
          semaphore := state.semaphore.release thread member }
  | releases (thread chosen : Thread) (at_up : (state.users thread).pc = .inside)
      (member : chosen ∈ state.semaphore.blocked) :
      Steps state (.up thread (some chosen))
        { (state.setUser thread ((state.users thread).setPc .outside)).setUser chosen (.enter 0)
          with semaphore := state.semaphore.release chosen member }
  | banks (thread : Thread) (at_up : (state.users thread).pc = .inside)
      (idle : state.semaphore.blocked = []) :
      Steps state (.up thread none)
        { state.setUser thread ((state.users thread).setPc .outside) with
          semaphore := state.semaphore.bank idle }

theorem step_eq_some (stepped : state.step event = some after) : Steps state event after := by
  cases event with
  | down thread =>
      simp only [step, Option.ite_none_right_eq_some, Option.some.injEq] at stepped
      obtain ⟨at_down, rfl⟩ := stepped
      unfold down nxsemWait
      split
      case isTrue available => exact .takes thread at_down available
      case isFalse unavailable => exact .blocks thread at_down unavailable
  | interrupt thread =>
      simp only [step, Option.dite_none_right_eq_some, Option.some.injEq] at stepped
      obtain ⟨member, rfl⟩ := stepped
      exact .interrupt thread member
  | up thread chosen =>
      simp only [step, up, Option.ite_none_right_eq_some] at stepped
      obtain ⟨at_up, stepped⟩ := stepped
      cases chosen with
      | some chosen =>
          simp only [nxsemPost, Option.dite_none_right_eq_some, Option.some.injEq] at stepped
          obtain ⟨member, rfl⟩ := stepped
          exact .releases thread chosen at_up member
      | none =>
          simp only [nxsemPost, Option.dite_none_right_eq_some, Option.some.injEq] at stepped
          obtain ⟨idle, rfl⟩ := stepped
          exact .banks thread at_up idle

theorem queued_step (queued : Queued state) (steps : Steps state event after) :
    Queued after := by
  cases steps with
  | takes thread at_down available => exact queued.move rfl (by simp [at_down]) (by simp)
  | blocks thread at_down unavailable => exact queued.enqueue rfl (by simp [at_down]) (by simp)
  | interrupt thread member => exact queued.dequeue rfl (by simp)
  | releases thread chosen at_up member =>
      have left : Queued (state.setUser thread ((state.users thread).setPc .outside)) :=
        queued.move rfl (by simp [at_up]) (by simp)
      exact left.dequeue rfl (by simp)
  | banks thread at_up idle => exact queued.move idle.symm (by simp [at_up]) (by simp)

private theorem free_interrupt {thread : Thread} (steps : Steps state (.interrupt thread) after) :
    after.semaphore.free = 0 := by
  cases steps with
  | interrupt thread member =>
      have taken := Semaphore.free_eq_zero_of_mem member
      have same := Semaphore.free_release state.semaphore thread member
      exact same.trans taken

/-!
## Counts

Every count is free or stands for a thread inside, except that an interrupted `down` lets
a thread in without one.
-/

variable [Fintype Thread]

private theorem inside_setUser (state : CriticalSection Thread) (thread : Thread) (user : LockUser) :
    (state.setUser thread user).inside + (decide ((state.users thread).pc = .inside)).toNat =
      state.inside + (decide (user.pc = .inside)).toNat :=
  countWhere_update _ state.users thread user

private theorem inside_enter {thread : Thread} (queued : Queued state)
    (member : thread ∈ state.semaphore.blocked) (ret : Int) :
    (state.setUser thread (.enter ret)).inside = state.inside + 1 := by
  have blocked : (state.users thread).pc = .blocked := (queued.mem_iff thread).mp member
  simpa [blocked] using state.inside_setUser thread (.enter ret)

private theorem inside_leave {thread : Thread} (at_up : (state.users thread).pc = .inside) :
    (state.setUser thread ((state.users thread).setPc .outside)).inside + 1 = state.inside := by
  simpa [at_up] using state.inside_setUser thread ((state.users thread).setPc .outside)

private theorem inside_free_step (queued : Queued state) (steps : Steps state event after) :
    after.inside + after.semaphore.free =
      state.inside + state.semaphore.free + event.isSignal.toNat := by
  cases steps with
  | takes thread at_down available =>
      have entered : (state.setUser thread (.enter 0)).inside = state.inside + 1 := by
        simpa [at_down] using state.inside_setUser thread (.enter 0)
      have taken := Semaphore.free_take state.semaphore available
      change (state.setUser thread (.enter 0)).inside + (state.semaphore.take available).free =
        state.inside + state.semaphore.free
      omega
  | blocks thread at_down unavailable =>
      have stays : (state.setUser thread ((state.users thread).setPc .blocked)).inside =
          state.inside := by
        simpa [at_down] using state.inside_setUser thread ((state.users thread).setPc .blocked)
      have same := Semaphore.free_block state.semaphore thread unavailable
      change (state.setUser thread ((state.users thread).setPc .blocked)).inside +
        (state.semaphore.block thread unavailable).free = state.inside + state.semaphore.free
      omega
  | interrupt thread member =>
      have entered := inside_enter queued member (-4)
      have same := Semaphore.free_release state.semaphore thread member
      change (state.setUser thread (.enter (-4))).inside +
        (state.semaphore.release thread member).free = state.inside + state.semaphore.free + 1
      omega
  | releases thread chosen at_up member =>
      have left := inside_leave at_up
      have left_queued : Queued (state.setUser thread ((state.users thread).setPc .outside)) :=
        queued.move rfl (by simp [at_up]) (by simp)
      have entered := inside_enter left_queued member 0
      have same := Semaphore.free_release state.semaphore chosen member
      change ((state.setUser thread ((state.users thread).setPc .outside)).setUser chosen
        (.enter 0)).inside + (state.semaphore.release chosen member).free =
          state.inside + state.semaphore.free
      omega
  | banks thread at_up idle =>
      have left := inside_leave at_up
      have one_more := Semaphore.free_bank state.semaphore idle
      change (state.setUser thread ((state.users thread).setPc .outside)).inside +
        (state.semaphore.bank idle).free = state.inside + state.semaphore.free
      omega

variable {value : Nat}

/-- The thread that a signal lets in is one too many. -/
theorem not_bounded_of_interrupt {thread : Thread} (sound : Sound value state)
    (steps : Steps state (.interrupt thread) after) : ¬ Bounded value after := by
  intro bounded
  have counts := inside_free_step sound.queued steps
  rw [sound.counts, free_interrupt steps] at counts
  have one_more : after.inside = value + 1 := counts
  have within := bounded.1
  omega

private theorem bounded_step (sound : Sound value state) (steps : Steps state event after) :
    Bounded value after ↔ event.isSignal = false := by
  constructor
  · intro bounded
    cases event with
    | down thread => rfl
    | interrupt thread => exact absurd bounded (not_bounded_of_interrupt sound steps)
    | up thread chosen => rfl
  · intro unprompted
    have counts := inside_free_step sound.queued steps
    rw [sound.counts, unprompted] at counts
    exact bounded_of_counts counts

private theorem sound_step (sound : Sound value state) (steps : Steps state event after)
    (unprompted : event.isSignal = false) : Sound value after := by
  constructor
  · exact queued_step sound.queued steps
  · rw [inside_free_step sound.queued steps, sound.counts, unprompted]
    rfl

/-- In every run a state with too many threads inside or too high a count is reached just
when a signal interrupts a blocked `down`. -/
theorem critical_section_bounded_iff (value : Nat) (events : List (LockEvent Thread)) :
    Always step (Bounded value) (initial value) events ↔
      Along step (fun _ event _ => event.isSignal = false) (initial value) events := by
  have start : Sound value (initial value : CriticalSection Thread) := sound_initial value
  have exact_step : ∀ (before : CriticalSection Thread) event after, Sound value before →
      step before event = some after → (Bounded value after ↔ event.isSignal = false) := by
    intro before event after sound stepped
    exact bounded_step sound (step_eq_some stepped)
  have keeps : ∀ (before : CriticalSection Thread) event after, Sound value before →
      step before event = some after → event.isSignal = false → Sound value after := by
    intro before event after sound stepped unprompted
    exact sound_step sound (step_eq_some stepped) unprompted
  rw [always_iff_along, and_iff_right (bounded_of_counts start.counts)]
  exact along_iff_along exact_step keeps start

/-- One thread is inside when a signal lets the other one in; when both have left, two
counts are there for a section that was made for one thread. -/
theorem interrupted_down_enters :
    (∃ final, run (@step (Fin 2) _) (initial 1) [.down 0, .down 1, .interrupt 1] = some final ∧
        (final.users 1).ret = -4 ∧ final.inside = 2 ∧ ¬ Bounded 1 final) ∧
      ∃ final, run (@step (Fin 2) _) (initial 1) [.down 0, .down 1, .interrupt 1, .up 0 none,
          .up 1 none] = some final ∧ final.semaphore.count = 2 ∧ ¬ Bounded 1 final :=
  ⟨run_computed (by decide) (by decide), run_computed (by decide) (by decide)⟩

end CriticalSection

end VelaExternal.Ethercat

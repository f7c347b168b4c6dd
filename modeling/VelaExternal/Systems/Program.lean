import VelaExternal.Systems.Run

/-!
# Programs over typed operations

A terminating piece of code is a tree of the operations it performs, each with
a continuation for every reply. A handler gives the operations a meaning on a
world and leaves the choices of the environment to events. The same tree is
executed as a whole, or one operation at a time next to other threads.
-/

set_option autoImplicit false

namespace VelaExternal.Systems

inductive Program (Op : Type) (Reply : Op → Type) (Value : Type) where
  | finish (value : Value)
  | call (op : Op) (next : Reply op → Program Op Reply Value)

namespace Program

variable {Op : Type} {Reply : Op → Type} {World Event Value Result : Type}

def bind : Program Op Reply Value → (Value → Program Op Reply Result) → Program Op Reply Result
  | .finish value, continuation => continuation value
  | .call op next, continuation => .call op fun reply => (next reply).bind continuation

instance : Monad (Program Op Reply) where
  pure := .finish
  bind := .bind

def perform (op : Op) : Program Op Reply (Reply op) := .call op .finish

@[simp] theorem pure_eq (value : Value) :
    (pure value : Program Op Reply Value) = .finish value := rfl

@[simp] theorem finish_bind (value : Value)
    (continuation : Value → Program Op Reply Result) :
    (Program.finish value : Program Op Reply Value) >>= continuation = continuation value := rfl

@[simp] theorem call_bind (op : Op) (next : Reply op → Program Op Reply Value)
    (continuation : Value → Program Op Reply Result) :
    Program.call op next >>= continuation = .call op fun reply => next reply >>= continuation := rfl

@[simp] theorem perform_bind (op : Op) (continuation : Reply op → Program Op Reply Result) :
    (perform op : Program Op Reply (Reply op)) >>= continuation = .call op continuation := rfl

section Execution

variable (handle : World → (op : Op) → Event → Option (Reply op × World))

/-- The value and world after a whole execution; every event answers one operation. -/
def exec : Program Op Reply Value → World → List Event → Option (Value × World)
  | .finish value, world, [] => some (value, world)
  | .finish _, _, _ :: _ => none
  | .call _ _, _, [] => none
  | .call op next, world, event :: events =>
      (handle world op event).bind fun answer => (next answer.1).exec answer.2 events

/-- One operation of a program that runs next to others. -/
def step : World × Program Op Reply Value → Event → Option (World × Program Op Reply Value)
  | (_, .finish _), _ => none
  | (world, .call op next), event =>
      (handle world op event).map fun answer => (answer.2, next answer.1)

/-- Every whole execution of the program from `world` ends as `post` says of the
events it consumed, its value and its final world. -/
def Ensures : Program Op Reply Value → (List Event → Value → World → Prop) → World → Prop
  | .finish value, post, world => post [] value world
  | .call op next, post, world =>
      ∀ event reply after, handle world op event = some (reply, after) →
        (next reply).Ensures (fun events => post (event :: events)) after

/-- As long as the environment's answers are allowed, `keeps` holds of every world that
the program passes through after its start, and `post` of its value and final world. -/
def Throughout (allowed : Op → Event → Prop) (keeps : World → Prop) :
    Program Op Reply Value → (Value → World → Prop) → World → Prop
  | .finish value, post, world => post value world
  | .call op next, post, world =>
      ∀ event reply after, allowed op event → handle world op event = some (reply, after) →
        keeps after ∧ (next reply).Throughout allowed keeps post after

end Execution

/-- Whatever the replies, the program performs allowed operations only. -/
def Only (allowed : Op → Prop) : Program Op Reply Value → Prop
  | .finish _ => True
  | .call op next => allowed op ∧ ∀ reply, (next reply).Only allowed

theorem only_bind {allowed : Op → Prop} {program : Program Op Reply Value}
    {continuation : Value → Program Op Reply Result} (first : program.Only allowed)
    (rest : ∀ value, (continuation value).Only allowed) :
    (program >>= continuation).Only allowed := by
  induction program with
  | finish value => exact rest value
  | call op next ih => exact ⟨first.1, fun reply => ih reply (first.2 reply)⟩

@[simp] theorem only_finish {allowed : Op → Prop} {value : Value} :
    (Program.finish value : Program Op Reply Value).Only allowed := trivial

@[simp] theorem only_perform {allowed : Op → Prop} {op : Op} :
    (perform op : Program Op Reply (Reply op)).Only allowed ↔ allowed op :=
  and_iff_left fun _ => trivial

@[simp] theorem only_call {allowed : Op → Prop} {op : Op}
    {next : Reply op → Program Op Reply Value} :
    (Program.call op next).Only allowed ↔ allowed op ∧ ∀ reply, (next reply).Only allowed := Iff.rfl

@[simp] theorem only_ite {allowed : Op → Prop} {condition : Prop} [Decidable condition]
    {first second : Program Op Reply Value} :
    (if condition then first else second).Only allowed ↔
      if condition then first.Only allowed else second.Only allowed := by
  split <;> rfl

theorem Only.mono {allowed weaker : Op → Prop} {program : Program Op Reply Value}
    (only : program.Only allowed) (weaken : ∀ op, allowed op → weaker op) :
    program.Only weaker := by
  induction program with
  | finish value => trivial
  | call op next ih => exact ⟨weaken op only.1, fun reply => ih reply (only.2 reply)⟩

theorem bind_bind {Final : Type} (program : Program Op Reply Value)
    (continuation : Value → Program Op Reply Result) (last : Result → Program Op Reply Final) :
    (program >>= continuation) >>= last = program >>= fun value => continuation value >>= last := by
  induction program with
  | finish value => rfl
  | call op next ih => exact congrArg (Program.call op) (funext ih)

variable {handle : World → (op : Op) → Event → Option (Reply op × World)}

theorem exec_bind {program : Program Op Reply Value}
    {continuation : Value → Program Op Reply Result} {world final : World} {events : List Event}
    {result : Result} :
    (program >>= continuation).exec handle world events = some (result, final) ↔
      ∃ first second value middle, first ++ second = events ∧
        program.exec handle world first = some (value, middle) ∧
        (continuation value).exec handle middle second = some (result, final) := by
  induction program generalizing world events with
  | finish value =>
      constructor
      · intro executed
        exact ⟨[], events, value, world, rfl, rfl, executed⟩
      · intro parts
        obtain ⟨first, second, found, middle, rfl, finished, executed⟩ := parts
        cases first with
        | nil =>
            obtain ⟨rfl, rfl⟩ := Prod.mk.inj (Option.some.inj finished)
            exact executed
        | cons event first => cases finished
  | call op next ih =>
      rw [call_bind]
      cases events with
      | nil =>
          constructor
          · intro executed
            cases executed
          · intro parts
            obtain ⟨first, second, value, middle, empty, executed, -⟩ := parts
            obtain ⟨rfl, rfl⟩ := List.append_eq_nil_iff.mp empty
            cases executed
      | cons event events =>
          simp only [exec, Option.bind_eq_some_iff, ih]
          constructor
          · intro parts
            obtain ⟨answer, handled, first, second, value, middle, rfl, executed, rest⟩ := parts
            exact ⟨event :: first, second, value, middle, rfl,
              Option.bind_eq_some_iff.mpr ⟨answer, handled, executed⟩, rest⟩
          · intro parts
            obtain ⟨first, second, value, middle, same, executed, rest⟩ := parts
            cases first with
            | nil => cases executed
            | cons head first =>
                obtain ⟨rfl, rfl⟩ := List.cons.inj same
                obtain ⟨answer, handled, executed⟩ := Option.bind_eq_some_iff.mp executed
                exact ⟨answer, handled, first, second, value, middle, rfl, executed, rest⟩

@[simp] theorem ensures_finish {value : Value} {post : List Event → Value → World → Prop}
    {world : World} :
    (Program.finish value : Program Op Reply Value).Ensures handle post world ↔
      post [] value world := Iff.rfl

theorem exec_ensures {program : Program Op Reply Value}
    {post : List Event → Value → World → Prop} {world after : World} {events : List Event}
    {value : Value} (ensured : program.Ensures handle post world)
    (executed : program.exec handle world events = some (value, after)) :
    post events value after := by
  induction program generalizing world events post with
  | finish result =>
      cases events with
      | nil =>
          simp only [exec, Option.some.injEq, Prod.mk.injEq] at executed
          obtain ⟨rfl, rfl⟩ := executed
          exact ensured
      | cons event events => simp only [exec, reduceCtorEq] at executed
  | call op next ih =>
      cases events with
      | nil => simp only [exec, reduceCtorEq] at executed
      | cons event events =>
          simp only [exec, Option.bind_eq_some_iff] at executed
          obtain ⟨⟨reply, middle⟩, handled, rest⟩ := executed
          have ended := ih reply (ensured event reply middle handled) rest
          exact ended

theorem Ensures.mono {program : Program Op Reply Value}
    {post weaker : List Event → Value → World → Prop} {world : World}
    (ensured : program.Ensures handle post world)
    (weaken : ∀ events value after, post events value after → weaker events value after) :
    program.Ensures handle weaker world := by
  induction program generalizing world post weaker with
  | finish value => exact weaken [] value world ensured
  | call op next ih =>
      intro event reply after handled
      exact ih reply (ensured event reply after handled)
        fun events value final => weaken (event :: events) value final

theorem Ensures.and {program : Program Op Reply Value}
    {post other : List Event → Value → World → Prop} {world : World}
    (ensured : program.Ensures handle post world) (also : program.Ensures handle other world) :
    program.Ensures handle
      (fun events value after => post events value after ∧ other events value after) world := by
  induction program generalizing world post other with
  | finish value => exact ⟨ensured, also⟩
  | call op next ih =>
      intro event reply after handled
      exact ih reply (ensured event reply after handled) (also event reply after handled)

/-- What all allowed operations do, a program of such operations does. -/
theorem ensures_of_only {allowed : Op → Prop} {quiet : Event → Prop} {keeps : World → Prop}
    {program : Program Op Reply Value} {world : World}
    (each : ∀ op before event reply after, allowed op → keeps before →
      handle before op event = some (reply, after) → quiet event ∧ keeps after)
    (only : program.Only allowed) (start : keeps world) :
    program.Ensures handle
      (fun events _ after => (∀ event ∈ events, quiet event) ∧ keeps after) world := by
  induction program generalizing world with
  | finish value => exact ⟨nofun, start⟩
  | call op next ih =>
      intro event reply after handled
      obtain ⟨quiet_event, kept⟩ := each op world event reply after only.1 start handled
      apply (ih reply (only.2 reply) kept).mono
      intro events value final ended
      exact ⟨List.forall_mem_cons.mpr ⟨quiet_event, ended.1⟩, ended.2⟩

/-- The rule of sequencing: what the first part ensures is where the second starts. -/
@[simp] theorem ensures_bind {program : Program Op Reply Value}
    {continuation : Value → Program Op Reply Result}
    {post : List Event → Result → World → Prop} {world : World} :
    (program >>= continuation).Ensures handle post world ↔
      program.Ensures handle
        (fun first value middle => (continuation value).Ensures handle
          (fun second => post (first ++ second)) middle) world := by
  induction program generalizing world post with
  | finish value => exact Iff.rfl
  | call op next ih =>
      rw [call_bind]
      constructor
      · intro ensured event reply after handled
        exact (ih reply).mp (ensured event reply after handled)
      · intro ensured event reply after handled
        exact (ih reply).mpr (ensured event reply after handled)

@[simp] theorem ensures_perform {op : Op} {post : List Event → Reply op → World → Prop}
    {world : World} :
    (perform op : Program Op Reply (Reply op)).Ensures handle post world ↔
      ∀ event reply after, handle world op event = some (reply, after) →
        post [event] reply after := Iff.rfl

/-- The rule of an operation that the environment answers with one kind of event. -/
theorem ensures_perform_kind {Index : Type} {op : Op} {post : List Event → Reply op → World → Prop}
    {world : World} {event : Index → Event} {reply : Index → Reply op} {after : Index → World}
    (answered : ∀ index, handle world op (event index) = some (reply index, after index))
    (others : ∀ other, (∀ index, other ≠ event index) → handle world op other = none) :
    (perform op : Program Op Reply (Reply op)).Ensures handle post world ↔
      ∀ index, post [event index] (reply index) (after index) := by
  constructor
  · intro ensured index
    exact ensured (event index) (reply index) (after index) (answered index)
  · intro each other result final handled
    obtain ⟨index, rfl⟩ : ∃ index, other = event index := by
      by_contra different
      simp [others other (not_exists.mp different)] at handled
    obtain ⟨rfl, rfl⟩ := Prod.mk.inj (Option.some.inj ((answered index).symm.trans handled))
    exact each index

/-- The rule of an operation that the environment can answer in one way only. -/
theorem ensures_perform_sole {op : Op} {post : List Event → Reply op → World → Prop}
    {world after : World} {event : Event} {reply : Reply op}
    (answered : handle world op event = some (reply, after))
    (others : ∀ other, other ≠ event → handle world op other = none) :
    (perform op : Program Op Reply (Reply op)).Ensures handle post world ↔
      post [event] reply after :=
  (ensures_perform_kind (fun _ : Unit => answered)
    fun other different => others other (different ())).trans (forall_const Unit)

theorem Only.step {allowed : Op → Prop} {program rest : Program Op Reply Value}
    {world after : World}
    {event : Event} (only : program.Only allowed)
    (stepped : Program.step handle (world, program) event = some (after, rest)) :
    rest.Only allowed := by
  cases program with
  | finish value => cases stepped
  | call op next =>
      simp only [Program.step, Option.map_eq_some_iff, Prod.mk.injEq] at stepped
      obtain ⟨⟨reply, middle⟩, -, -, rfl⟩ := stepped
      exact only.2 reply

section Throughout

variable {allowed : Op → Event → Prop} {keeps : World → Prop}

theorem Throughout.mono {program : Program Op Reply Value} {post weaker : Value → World → Prop}
    {world : World} (throughout : program.Throughout handle allowed keeps post world)
    (weaken : ∀ value after, post value after → weaker value after) :
    program.Throughout handle allowed keeps weaker world := by
  induction program generalizing world with
  | finish value => exact weaken value world throughout
  | call op next ih =>
      intro event reply after permitted handled
      obtain ⟨kept, rest⟩ := throughout event reply after permitted handled
      exact ⟨kept, ih reply rest⟩

theorem throughout_bind {program : Program Op Reply Value}
    {continuation : Value → Program Op Reply Result} {post : Result → World → Prop}
    {world : World} :
    (program >>= continuation).Throughout handle allowed keeps post world ↔
      program.Throughout handle allowed keeps
        (fun value middle => (continuation value).Throughout handle allowed keeps post middle)
        world := by
  induction program generalizing world with
  | finish value => exact Iff.rfl
  | call op next ih =>
      rw [call_bind]
      constructor
      · intro throughout event reply after permitted handled
        obtain ⟨kept, rest⟩ := throughout event reply after permitted handled
        exact ⟨kept, (ih reply).mp rest⟩
      · intro throughout event reply after permitted handled
        obtain ⟨kept, rest⟩ := throughout event reply after permitted handled
        exact ⟨kept, (ih reply).mpr rest⟩

theorem throughout_of_only {harmless : Op → Prop} {program : Program Op Reply Value}
    {world : World} (preserves : ∀ op before event reply after, harmless op → keeps before →
      handle before op event = some (reply, after) → keeps after)
    (only : program.Only harmless) (kept : keeps world) :
    program.Throughout handle allowed keeps (fun _ => keeps) world := by
  induction program generalizing world with
  | finish value => exact kept
  | call op next ih =>
      intro event reply after _ handled
      have kept_after := preserves op world event reply after only.1 kept handled
      exact ⟨kept_after, ih reply (only.2 reply) kept_after⟩

/-- A step reaches a world that has the invariant, and a program that goes on keeping it. -/
theorem Throughout.step {program rest : Program Op Reply Value} {world after : World}
    {event : Event} {post : Value → World → Prop}
    (throughout : program.Throughout handle allowed keeps post world)
    (permitted : ∀ op next, program = .call op next → allowed op event)
    (stepped : Program.step handle (world, program) event = some (after, rest)) :
    keeps after ∧ rest.Throughout handle allowed keeps post after := by
  cases program with
  | finish value => cases stepped
  | call op next =>
      simp only [Program.step, Option.map_eq_some_iff, Prod.mk.injEq] at stepped
      obtain ⟨⟨reply, middle⟩, handled, rfl, rfl⟩ := stepped
      exact throughout event reply middle (permitted op next rfl) handled

end Throughout

end Program

end VelaExternal.Systems

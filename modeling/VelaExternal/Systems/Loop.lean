import VelaExternal.Systems.Program

/-!
# Bounded loops of programs

A loop runs its body on an input; what comes out of the body either leaves the
loop with a value or is the input of the next pass, and the number of passes is
bounded. An execution of the loop is a chain of executions of its body.
-/

set_option autoImplicit false

namespace VelaExternal.Systems

inductive Decision (Input Value : Type) where
  | leave (value : Value)
  | again (input : Input)

/-- One pass of a loop as it was executed. -/
structure Pass (Input Output World Event : Type) where
  input : Input
  before : World
  events : List Event
  output : Output
  after : World

namespace Program

variable {Op : Type} {Reply : Op → Type} {Input Output Value World Event : Type}

def loop (body : Input → Program Op Reply Output) (decision : Input → Output → Decision Input Value)
    (exhausted : Input → Value) : Nat → Input → Program Op Reply Value
  | 0, input => .finish (exhausted input)
  | remaining + 1, input => do
      match decision input (← body input) with
      | .leave value => return value
      | .again next => loop body decision exhausted remaining next

variable (handle : World → (op : Op) → Event → Option (Reply op × World))
  (body : Input → Program Op Reply Output) (decision : Input → Output → Decision Input Value)
  (exhausted : Input → Value)

/-- The passes that a loop takes from an input and a world, with the value and the
world that it ends with. -/
inductive Passes :
    Nat → Input → World → List (Pass Input Output World Event) → Value → World → Prop where
  | exhausted {input : Input} {world : World} : Passes 0 input world [] (exhausted input) world
  | leaves {remaining : Nat} {value : Value} (pass : Pass Input Output World Event)
      (executed : (body pass.input).exec handle pass.before pass.events =
        some (pass.output, pass.after))
      (left : decision pass.input pass.output = .leave value) :
      Passes (remaining + 1) pass.input pass.before [pass] value pass.after
  | goesOn {remaining : Nat} {next : Input} {passes : List (Pass Input Output World Event)}
      {value : Value} {final : World} (pass : Pass Input Output World Event)
      (executed : (body pass.input).exec handle pass.before pass.events =
        some (pass.output, pass.after))
      (again : decision pass.input pass.output = .again next)
      (rest : Passes remaining next pass.after passes value final) :
      Passes (remaining + 1) pass.input pass.before (pass :: passes) value final

/-- The last pass left the loop, which the bound had then not yet ended. -/
def LeftEarly (passes : List (Pass Input Output World Event)) : Prop :=
  ∃ pass value, passes.getLast? = some pass ∧ decision pass.input pass.output = .leave value

variable {handle body decision exhausted}

theorem exec_loop {bound : Nat} {input : Input} {world final : World} {events : List Event}
    {value : Value} :
    (loop body decision exhausted bound input).exec handle world events = some (value, final) ↔
      ∃ passes, Passes handle body decision exhausted bound input world passes value final ∧
        passes.flatMap Pass.events = events := by
  induction bound generalizing input world events with
  | zero =>
      constructor
      · intro executed
        cases events with
        | nil =>
            obtain ⟨rfl, rfl⟩ := Prod.mk.inj (Option.some.inj executed)
            exact ⟨[], .exhausted, rfl⟩
        | cons event events => cases executed
      · intro recorded
        obtain ⟨passes, taken, rfl⟩ := recorded
        cases taken with
        | exhausted => rfl
  | succ remaining ih =>
      rw [loop, exec_bind]
      constructor
      · intro parts
        obtain ⟨first, second, output, middle, rfl, executed, rest⟩ := parts
        cases decided : decision input output with
        | leave result =>
            rw [decided] at rest
            cases second with
            | nil =>
                obtain ⟨rfl, rfl⟩ := Prod.mk.inj (Option.some.inj rest)
                exact ⟨_, .leaves ⟨input, world, first, output, middle⟩ executed decided, rfl⟩
            | cons event second => cases rest
        | again next =>
            rw [decided] at rest
            obtain ⟨passes, taken, rfl⟩ := ih.mp rest
            exact ⟨_, .goesOn ⟨input, world, first, output, middle⟩ executed decided taken, rfl⟩
      · intro recorded
        obtain ⟨passes, taken, rfl⟩ := recorded
        cases taken with
        | leaves pass executed left =>
            refine ⟨pass.events, [], pass.output, pass.after, rfl, executed, ?_⟩
            rw [left]
            rfl
        | @goesOn _ next passes _ _ pass executed again rest =>
            refine ⟨pass.events, _, pass.output, pass.after, rfl, executed, ?_⟩
            rw [again]
            exact ih.mpr ⟨passes, rest, rfl⟩

theorem Passes.length_le {bound : Nat} {input : Input} {world final : World}
    {passes : List (Pass Input Output World Event)} {value : Value}
    (taken : Passes handle body decision exhausted bound input world passes value final) :
    passes.length ≤ bound := by
  induction taken with
  | exhausted => exact Nat.le_refl 0
  | leaves pass executed left => exact Nat.succ_le_succ (Nat.zero_le _)
  | goesOn pass executed again rest ih => exact Nat.succ_le_succ ih

theorem Passes.executed {bound : Nat} {input : Input} {world final : World}
    {passes : List (Pass Input Output World Event)} {value : Value}
    (taken : Passes handle body decision exhausted bound input world passes value final) :
    ∀ pass ∈ passes, (body pass.input).exec handle pass.before pass.events =
      some (pass.output, pass.after) := by
  induction taken with
  | exhausted => exact nofun
  | leaves pass executed left => exact List.forall_mem_cons.mpr ⟨executed, nofun⟩
  | goesOn pass executed again rest ih => exact List.forall_mem_cons.mpr ⟨executed, ih⟩

theorem leftEarly_cons {pass : Pass Input Output World Event}
    {passes : List (Pass Input Output World Event)} {next : Input}
    (again : decision pass.input pass.output = .again next) :
    LeftEarly decision (pass :: passes) ↔ LeftEarly decision passes := by
  cases passes with
  | nil => simp [LeftEarly, again]
  | cons second passes => simp only [LeftEarly, List.getLast?_cons_cons]

end Program

end VelaExternal.Systems

import Mathlib.Data.List.Induction
import Mathlib.Logic.Relation

/-!
# Finite runs of event-driven systems

A system answers an event with its next state, or with `none` when the event
cannot occur in the current state. Every choice of a scheduler or of the
environment is an event, so a run is a list of events and is computed.
-/

set_option autoImplicit false

namespace VelaExternal.Systems

universe u v w

variable {State : Type u} {Event : Type v}

/-- The state after a list of events, when each of them can occur in turn. -/
def run (step : State → Event → Option State) : State → List Event → Option State
  | state, [] => some state
  | state, event :: events => (step state event).bind fun next => run step next events

/-- `holds before event after` for every step that a run takes. -/
def Along (step : State → Event → Option State) (holds : State → Event → State → Prop) :
    State → List Event → Prop
  | _, [] => True
  | state, event :: events =>
      match step state event with
      | none => True
      | some next => holds state event next ∧ Along step holds next events

/-- Everything that the steps of a run put out, in order. -/
def outputs {Output : Type w} (step : State → Event → Option State)
    (output : State → Event → List Output) : State → List Event → List Output
  | _, [] => []
  | state, event :: events =>
      match step state event with
      | none => []
      | some next => output state event ++ outputs step output next events

variable {step : State → Event → Option State}

@[simp] theorem run_nil (state : State) : run step state [] = some state := rfl

theorem run_cons_eq_some {state final : State} {event : Event} {events : List Event} :
    run step state (event :: events) = some final ↔
      ∃ next, step state event = some next ∧ run step next events = some final := by
  simp only [run, Option.bind_eq_some_iff]

theorem run_append {state final : State} {first second : List Event} :
    run step state (first ++ second) = some final ↔
      ∃ middle, run step state first = some middle ∧ run step middle second = some final := by
  induction first generalizing state with
  | nil => simp
  | cons event events ih =>
      simp only [List.cons_append, run_cons_eq_some, ih]
      constructor
      · rintro ⟨next, stepped, middle, reached, rest⟩
        exact ⟨middle, ⟨next, stepped, reached⟩, rest⟩
      · rintro ⟨middle, ⟨next, stepped, reached⟩, rest⟩
        exact ⟨next, stepped, middle, reached, rest⟩

theorem run_snoc {state final : State} {events : List Event} {event : Event} :
    run step state (events ++ [event]) = some final ↔
      ∃ middle, run step state events = some middle ∧ step middle event = some final := by
  simp only [run_append, run_cons_eq_some, run_nil, Option.some.injEq, exists_eq_right]

theorem run_computed {initial : State} {events : List Event} {holds : State → Prop}
    (completes : (run step initial events).isSome)
    (found : holds ((run step initial events).get completes)) :
    ∃ final, run step initial events = some final ∧ holds final :=
  ⟨_, (Option.some_get completes).symm, found⟩

/-- Induction along the steps of a run, with the events of the past at hand. -/
theorem run_history {initial final : State} {events : List Event}
    (holds : List Event → State → Prop) (start : holds [] initial)
    (keeps : ∀ past before event after, run step initial past = some before →
      holds past before → step before event = some after → holds (past ++ [event]) after)
    (reached : run step initial events = some final) : holds events final := by
  induction events using List.reverseRecOn generalizing final with
  | nil =>
      obtain rfl := Option.some.inj reached
      exact start
  | append_singleton past event ih =>
      obtain ⟨before, past_reached, stepped⟩ := run_snoc.mp reached
      exact keeps past before event final past_reached (ih past_reached) stepped

theorem run_invariant {initial final : State} {events : List Event} {holds : State → Prop}
    (keeps : ∀ before event after, holds before → step before event = some after → holds after)
    (start : holds initial) (reached : run step initial events = some final) : holds final :=
  run_history (fun _ state => holds state) start
    (fun _ before event after _ held stepped => keeps before event after held stepped) reached

@[simp] theorem along_nil {holds : State → Event → State → Prop} {state : State} :
    Along step holds state [] := trivial

theorem along_cons {holds : State → Event → State → Prop} {state next : State} {event : Event}
    {events : List Event} (stepped : step state event = some next) :
    Along step holds state (event :: events) ↔
      holds state event next ∧ Along step holds next events := by
  simp only [Along, stepped]

theorem along_snoc {holds : State → Event → State → Prop} {state before after : State}
    {events : List Event} {event : Event} (reached : run step state events = some before)
    (stepped : step before event = some after) :
    Along step holds state (events ++ [event]) ↔
      Along step holds state events ∧ holds before event after := by
  induction events generalizing state with
  | nil =>
      obtain rfl := Option.some.inj reached
      simp only [List.nil_append, along_cons stepped, along_nil, and_true, true_and]
  | cons first rest ih =>
      obtain ⟨next, first_stepped, rest_reached⟩ := run_cons_eq_some.mp reached
      simp only [List.cons_append, along_cons first_stepped, ih rest_reached, and_assoc]

instance decidableAlong {holds : State → Event → State → Prop}
    [∀ before event after, Decidable (holds before event after)] (state : State) :
    (events : List Event) → Decidable (Along step holds state events)
  | [] => isTrue trivial
  | event :: events =>
      match stepped : step state event with
      | none => isTrue (by simp only [Along, stepped])
      | some next =>
          have : Decidable (Along step holds next events) := decidableAlong next events
          decidable_of_iff _ (along_cons stepped).symm

/-- A condition on events alone may be checked on the list of them. -/
theorem along_of_forall_mem {condition : Event → Prop} {state : State} {events : List Event}
    (conditions : ∀ event ∈ events, condition event) :
    Along step (fun _ event _ => condition event) state events := by
  induction events generalizing state with
  | nil => trivial
  | cons event events ih =>
      simp only [List.mem_cons, forall_eq_or_imp] at conditions
      cases stepped : step state event with
      | none => simp only [Along, stepped]
      | some next => exact (along_cons stepped).mpr ⟨conditions.1, ih conditions.2⟩

/-- An invariant that needs a condition on the steps holds after every run whose
steps meet the condition. -/
theorem run_invariant_along {initial final : State} {events : List Event} {holds : State → Prop}
    {condition : State → Event → State → Prop}
    (keeps : ∀ before event after, holds before → step before event = some after →
      condition before event after → holds after)
    (start : holds initial) (conditions : Along step condition initial events)
    (reached : run step initial events = some final) : holds final := by
  induction events generalizing initial with
  | nil =>
      obtain rfl := Option.some.inj reached
      exact start
  | cons event events ih =>
      obtain ⟨next, stepped, rest⟩ := run_cons_eq_some.mp reached
      obtain ⟨met, later⟩ := (along_cons stepped).mp conditions
      exact ih (keeps initial event next start stepped met) later rest

/-- An invariant whose steps all have a property gives the property of every step. -/
theorem along_of_invariant {initial : State} {events : List Event} {holds : State → Prop}
    {condition property : State → Event → State → Prop}
    (keeps : ∀ before event after, holds before → step before event = some after →
      condition before event after → holds after ∧ property before event after)
    (start : holds initial) (conditions : Along step condition initial events) :
    Along step property initial events := by
  induction events generalizing initial with
  | nil => trivial
  | cons event events ih =>
      cases stepped : step initial event with
      | none => simp only [Along, stepped]
      | some next =>
          obtain ⟨met, later⟩ := (along_cons stepped).mp conditions
          obtain ⟨held, property_held⟩ := keeps initial event next start stepped met
          exact (along_cons stepped).mpr ⟨property_held, ih held later⟩

/-- A relation to an abstract system that every step can follow is kept by a run:
the abstract system gets to a related state by moves of its own. -/
theorem run_simulates {Abstract : Type w} {initial final : State} {events : List Event}
    {source : Abstract} {related : State → Abstract → Prop} {move : Abstract → Abstract → Prop}
    {condition : State → Event → State → Prop}
    (follows : ∀ before event after start, related before start →
      step before event = some after → condition before event after →
      ∃ target, move start target ∧ related after target)
    (start : related initial source) (conditions : Along step condition initial events)
    (reached : run step initial events = some final) :
    ∃ target, Relation.ReflTransGen move source target ∧ related final target := by
  induction events generalizing initial source with
  | nil =>
      obtain rfl := Option.some.inj reached
      exact ⟨source, .refl, start⟩
  | cons event events ih =>
      obtain ⟨next, stepped, rest⟩ := run_cons_eq_some.mp reached
      obtain ⟨met, later⟩ := (along_cons stepped).mp conditions
      obtain ⟨middle, first, held⟩ := follows initial event next source start stepped met
      obtain ⟨target, moves, related_final⟩ := ih held later rest
      exact ⟨target, .head first moves, related_final⟩

/-- A condition is exact for a property of steps when, from every state of an
invariant, a step has the property just when it meets the condition, and a step
that meets it keeps the invariant. -/
theorem along_iff_along {initial : State} {events : List Event} {holds : State → Prop}
    {condition property : State → Event → State → Prop}
    (exact_step : ∀ before event after, holds before → step before event = some after →
      (property before event after ↔ condition before event after))
    (keeps : ∀ before event after, holds before → step before event = some after →
      condition before event after → holds after)
    (start : holds initial) :
    Along step property initial events ↔ Along step condition initial events := by
  induction events generalizing initial with
  | nil => exact Iff.rfl
  | cons event events ih =>
      cases stepped : step initial event with
      | none => simp only [Along, stepped]
      | some next =>
          have same := exact_step initial event next start stepped
          rw [along_cons stepped, along_cons stepped, same]
          apply and_congr_right
          intro met
          exact ih (keeps initial event next start stepped met)

/-- Where an assumption keeps an invariant, two properties of steps that agree under
both hold of the same runs. -/
theorem along_congr {initial : State} {events : List Event} {holds : State → Prop}
    {assumed condition property : State → Event → State → Prop}
    (keeps : ∀ before event after, holds before → step before event = some after →
      assumed before event after →
      holds after ∧ (property before event after ↔ condition before event after))
    (start : holds initial) (assumptions : Along step assumed initial events) :
    Along step property initial events ↔ Along step condition initial events := by
  induction events generalizing initial with
  | nil => exact Iff.rfl
  | cons event events ih =>
      cases stepped : step initial event with
      | none => simp only [Along, stepped]
      | some next =>
          obtain ⟨met, later⟩ := (along_cons stepped).mp assumptions
          obtain ⟨held, same⟩ := keeps initial event next start stepped met
          rw [along_cons stepped, along_cons stepped, same, ih held later]

/-- A verdict on the state that each step keeps or spoils as its condition says
is, after a run, the condition on all of its steps. -/
theorem verdict_iff_along {initial final : State} {events : List Event}
    {holds verdict : State → Prop} {condition : State → Event → State → Prop}
    (keeps : ∀ before event after, holds before → step before event = some after → holds after)
    (exact_step : ∀ before event after, holds before → step before event = some after →
      (verdict after ↔ verdict before ∧ condition before event after))
    (start : holds initial) (reached : run step initial events = some final) :
    verdict final ↔ verdict initial ∧ Along step condition initial events := by
  induction events generalizing initial with
  | nil =>
      obtain rfl := Option.some.inj reached
      simp only [along_nil, and_true]
  | cons event events ih =>
      obtain ⟨next, stepped, rest⟩ := run_cons_eq_some.mp reached
      rw [ih (keeps initial event next start stepped) rest, along_cons stepped,
        exact_step initial event next start stepped, and_assoc]

/-- What holds of every state that a run passes through, from its first to its last. -/
def Always (step : State → Event → Option State) (holds : State → Prop) (initial : State)
    (events : List Event) : Prop :=
  ∀ past state, past <+: events → run step initial past = some state → holds state

theorem always_iff_along {holds : State → Prop} {initial : State} {events : List Event} :
    Always step holds initial events ↔
      holds initial ∧ Along step (fun _ _ after => holds after) initial events := by
  induction events generalizing initial with
  | nil =>
      constructor
      · intro always
        exact ⟨always [] initial List.nil_prefix rfl, along_nil⟩
      · intro both past state shorter reached
        obtain rfl := List.prefix_nil.mp shorter
        obtain rfl := Option.some.inj reached
        exact both.1
  | cons event events ih =>
      constructor
      · intro always
        have start : holds initial := always [] initial List.nil_prefix rfl
        cases stepped : step initial event with
        | none => simp only [Along, stepped, start, and_true]
        | some next =>
            have rest : Always step holds next events := by
              intro past state shorter reached
              apply always (event :: past) state
              · exact List.cons_prefix_cons.mpr ⟨rfl, shorter⟩
              · exact run_cons_eq_some.mpr ⟨next, stepped, reached⟩
            exact ⟨start, (along_cons stepped).mpr (ih.mp rest)⟩
      · intro both past state shorter reached
        obtain ⟨start, along⟩ := both
        cases past with
        | nil =>
            obtain rfl := Option.some.inj reached
            exact start
        | cons first past =>
            obtain ⟨rfl, rest_shorter⟩ := List.cons_prefix_cons.mp shorter
            obtain ⟨next, stepped, reached⟩ := run_cons_eq_some.mp reached
            exact ih.mpr ((along_cons stepped).mp along) past state rest_shorter reached

/-- `holds` relates the state after each step that is a `trigger` to every state that
the run passes through from there on. -/
def Thereafter (step : State → Event → Option State) (trigger : State → Event → Prop)
    (holds : State → State → Prop) : State → List Event → Prop
  | _, [] => True
  | state, event :: events =>
      match step state event with
      | none => True
      | some next =>
          (trigger state event → Always step (holds next) next events) ∧
            Thereafter step trigger holds next events

theorem thereafter_cons {trigger : State → Event → Prop} {holds : State → State → Prop}
    {state next : State} {event : Event} {events : List Event}
    (stepped : step state event = some next) :
    Thereafter step trigger holds state (event :: events) ↔
      (trigger state event → Always step (holds next) next events) ∧
        Thereafter step trigger holds next events := by
  simp only [Thereafter, stepped]

/-- Where no step ends the relation, it need only be there right after each trigger. -/
theorem thereafter_iff_along {trigger : State → Event → Prop} {holds : State → State → Prop}
    {initial : State} {events : List Event}
    (keeps : ∀ earlier before event after, holds earlier before →
      step before event = some after → holds earlier after) :
    Thereafter step trigger holds initial events ↔
      Along step (fun before event after => trigger before event → holds after after)
        initial events := by
  induction events generalizing initial with
  | nil => exact Iff.rfl
  | cons event events ih =>
      cases stepped : step initial event with
      | none => simp only [Along, Thereafter, stepped]
      | some next =>
          have lasting : Always step (holds next) next events ↔ holds next next := by
            constructor
            · intro always
              exact always [] next List.nil_prefix rfl
            · intro start past state shorter reached
              exact run_invariant (keeps next) start reached
          rw [thereafter_cons stepped, along_cons stepped, ih, lasting]

theorem Thereafter.mono {trigger : State → Event → Prop} {holds weaker : State → State → Prop}
    {initial : State} {events : List Event}
    (implies : ∀ earlier later, holds earlier later → weaker earlier later)
    (thereafter : Thereafter step trigger holds initial events) :
    Thereafter step trigger weaker initial events := by
  induction events generalizing initial with
  | nil => trivial
  | cons event events ih =>
      cases stepped : step initial event with
      | none => simp only [Thereafter, stepped]
      | some next =>
          obtain ⟨first, rest⟩ := (thereafter_cons stepped).mp thereafter
          refine (thereafter_cons stepped).mpr ⟨?_, ih rest⟩
          intro triggered past state shorter reached
          exact implies next state (first triggered past state shorter reached)

/-- The system that remembers its past events. -/
def recorded (step : State → Event → Option State) (state : List Event × State) (event : Event) :
    Option (List Event × State) :=
  (step state.2 event).map fun next => (state.1 ++ [event], next)

theorem recorded_eq_some {state after : List Event × State} {event : Event} :
    recorded step state event = some after ↔
      step state.2 event = some after.2 ∧ after.1 = state.1 ++ [event] := by
  obtain ⟨past, next⟩ := after
  simp only [recorded, Option.map_eq_some_iff, Prod.mk.injEq]
  constructor
  · rintro ⟨next, stepped, rfl, rfl⟩
    exact ⟨stepped, rfl⟩
  · rintro ⟨stepped, rfl⟩
    exact ⟨next, stepped, rfl, rfl⟩

theorem along_recorded {holds : State → Event → State → Prop} {past : List Event} {state : State}
    {events : List Event} :
    Along (recorded step) (fun before event after => holds before.2 event after.2) (past, state)
      events ↔ Along step holds state events := by
  induction events generalizing past state with
  | nil => exact Iff.rfl
  | cons event events ih =>
      cases stepped : step state event with
      | none => simp only [Along, recorded, stepped, Option.map_none]
      | some next =>
          have recorded_step : recorded step (past, state) event = some (past ++ [event], next) :=
            recorded_eq_some.mpr ⟨stepped, rfl⟩
          rw [along_cons stepped, along_cons recorded_step, ih]

/-- What holds of all beginnings of a run's events holds of its past at each step. -/
theorem along_recorded_past {holds : List Event → Prop} {past : List Event} {state : State}
    {events : List Event} (prefixes : ∀ first, first <+: past ++ events → holds first) :
    Along (recorded step) (fun _ _ after => holds after.1) (past, state) events := by
  induction events generalizing past state with
  | nil => trivial
  | cons event events ih =>
      cases stepped : step state event with
      | none => simp only [Along, recorded, stepped, Option.map_none]
      | some next =>
          have recorded_step : recorded step (past, state) event = some (past ++ [event], next) :=
            recorded_eq_some.mpr ⟨stepped, rfl⟩
          have same : past ++ [event] ++ events = past ++ event :: events := by simp
          refine (along_cons recorded_step).mpr ⟨?_, ih fun first shorter => ?_⟩
          · exact prefixes (past ++ [event]) (same ▸ List.prefix_append _ events)
          · exact prefixes first (same ▸ shorter)

theorem outputs_snoc {Output : Type w} {output : State → Event → List Output}
    {state before after : State} {events : List Event} {event : Event}
    (reached : run step state events = some before) (stepped : step before event = some after) :
    outputs step output state (events ++ [event]) =
      outputs step output state events ++ output before event := by
  induction events generalizing state with
  | nil =>
      obtain rfl := Option.some.inj reached
      simp only [List.nil_append, outputs, stepped, List.append_nil]
  | cons first rest ih =>
      obtain ⟨next, first_stepped, rest_reached⟩ := run_cons_eq_some.mp reached
      simp only [List.cons_append, outputs, first_stepped, ih rest_reached, List.append_assoc]

theorem outputs_eq_nil_iff {Output : Type w} {output : State → Event → List Output}
    {state final : State} {events : List Event} (reached : run step state events = some final) :
    outputs step output state events = [] ↔
      Along step (fun before event _ => output before event = []) state events := by
  induction events generalizing state with
  | nil => simp [outputs]
  | cons event events ih =>
      obtain ⟨next, stepped, rest⟩ := run_cons_eq_some.mp reached
      simp only [outputs, stepped, List.append_eq_nil_iff, along_cons stepped, ih rest]

end VelaExternal.Systems

import Mathlib.Logic.Relation

/-! # Executions of state machines

Two presentations of a run are used. A program whose every request has one
outcome is a step function folded over a list of events. An abstract protocol
is a labelled step relation. Both come with the rule that turns what one step
preserves into what a whole run preserves.
-/

namespace RvcOrchestrator.Foundation

variable {State Event Action : Type}

/-! ## Step functions -/

def run (step : State → Event → State) (initial : State) (events : List Event) : State :=
  events.foldl step initial

@[simp] theorem run_nil (step : State → Event → State) (initial : State) :
    run step initial [] = initial := rfl

@[simp] theorem run_cons (step : State → Event → State) (initial : State)
    (event : Event) (events : List Event) :
    run step initial (event :: events) = run step (step initial event) events := rfl

theorem run_append (step : State → Event → State) (initial : State)
    (first second : List Event) :
    run step initial (first ++ second) = run step (run step initial first) second := by
  simp [run, List.foldl_append]

/-- What one step preserves, a run preserves. -/
theorem run_preserves {step : State → Event → State} (Property : State → Prop)
    (preserved : ∀ state event, Property state → Property (step state event))
    {initial : State} (holds : Property initial) (events : List Event) :
    Property (run step initial events) := by
  induction events generalizing initial with
  | nil => exact holds
  | cons event events induction => exact induction (preserved initial event holds)

/-- Every step of the run meets `condition` in the state in which it starts. -/
def Along (step : State → Event → State) (condition : State → Event → Prop) :
    State → List Event → Prop
  | _, [] => True
  | state, event :: events =>
      condition state event ∧ Along step condition (step state event) events

instance Along.decidable {step : State → Event → State} {condition : State → Event → Prop}
    [∀ state event, Decidable (condition state event)] :
    (initial : State) → (events : List Event) → Decidable (Along step condition initial events)
  | _, [] => inferInstanceAs (Decidable True)
  | state, event :: events =>
      let _ : Decidable (Along step condition (step state event) events) :=
        Along.decidable (step state event) events
      inferInstanceAs
        (Decidable (condition state event ∧ Along step condition (step state event) events))

theorem Along.ofForall {step : State → Event → State} {condition : State → Event → Prop}
    (always : ∀ state event, condition state event) (initial : State) (events : List Event) :
    Along step condition initial events := by
  induction events generalizing initial with
  | nil => trivial
  | cons event events induction => exact ⟨always initial event, induction _⟩

theorem Along.append {step : State → Event → State} {condition : State → Event → Prop}
    {initial : State} {front back : List Event} (first : Along step condition initial front)
    (second : Along step condition (run step initial front) back) :
    Along step condition initial (front ++ back) := by
  induction front generalizing initial with
  | nil => exact second
  | cons event events induction => exact ⟨first.1, induction first.2 second⟩

theorem run_preserves_along {step : State → Event → State}
    {condition : State → Event → Prop} (Property : State → Prop)
    (preserved : ∀ state event, condition state event →
      Property state → Property (step state event))
    {initial : State} (holds : Property initial) {events : List Event}
    (along : Along step condition initial events) :
    Property (run step initial events) := by
  induction events generalizing initial with
  | nil => exact holds
  | cons event events induction =>
      exact induction (preserved initial event along.1 holds) along.2

/-- What every step preserves holds along the run. -/
theorem Along.withInvariant {step : State → Event → State} {condition : State → Event → Prop}
    (Invariant : State → Prop)
    (preserved : ∀ state event, Invariant state → Invariant (step state event))
    {initial : State} (holds : Invariant initial) {events : List Event}
    (along : Along step condition initial events) :
    Along step (fun state event => condition state event ∧ Invariant state) initial events := by
  induction events generalizing initial with
  | nil => trivial
  | cons event events induction =>
      exact ⟨⟨along.1, holds⟩, induction (preserved initial event holds) along.2⟩

/-- Two conditions that agree wherever an invariant holds agree along every run. -/
theorem along_congr {step : State → Event → State} {condition other : State → Event → Prop}
    (Invariant : State → Prop)
    (preserved : ∀ state event, Invariant state → Invariant (step state event))
    (agree : ∀ state event, Invariant state → (condition state event ↔ other state event))
    {initial : State} (holds : Invariant initial) (events : List Event) :
    Along step condition initial events ↔ Along step other initial events := by
  induction events generalizing initial with
  | nil => exact Iff.rfl
  | cons event events induction =>
      exact and_congr (agree initial event holds) (induction (preserved initial event holds))

/-- Where a step keeps a property exactly if it meets the condition, a run keeps it
exactly if all its steps do. -/
theorem run_iff_along {step : State → Event → State} {condition : State → Event → Prop}
    (Invariant Property : State → Prop)
    (preserved : ∀ state event, Invariant state → Invariant (step state event))
    (exact : ∀ state event, Invariant state →
      (Property (step state event) ↔ Property state ∧ condition state event))
    {initial : State} (holds : Invariant initial) (events : List Event) :
    Property (run step initial events) ↔
      Property initial ∧ Along step condition initial events := by
  induction events generalizing initial with
  | nil => exact ⟨fun property => ⟨property, trivial⟩, fun both => both.1⟩
  | cons event events induction =>
      rw [run_cons, induction (preserved initial event holds), exact initial event holds,
        and_assoc]
      rfl

/-! ## Labelled step relations -/

inductive Steps (Step : State → Action → State → Prop) : State → List Action → State → Prop
  | nil (state : State) : Steps Step state [] state
  | cons {first middle last : State} {action : Action} {actions : List Action} :
      Step first action middle → Steps Step middle actions last →
      Steps Step first (action :: actions) last

namespace Steps

variable {Step : State → Action → State → Prop} {first middle last : State}

theorem single {action : Action} (step : Step first action last) :
    Steps Step first [action] last :=
  .cons step (.nil last)

theorem append {front back : List Action} (left : Steps Step first front middle)
    (right : Steps Step middle back last) : Steps Step first (front ++ back) last := by
  induction left with
  | nil => exact right
  | cons step _ induction => exact .cons step (induction right)

theorem preserves {Property : State → Prop} {actions : List Action}
    (steps : Steps Step first actions last)
    (preserved : ∀ before action after, Step before action after →
      Property before → Property after)
    (holds : Property first) : Property last := by
  induction steps with
  | nil => exact holds
  | cons step _ induction => exact induction (preserved _ _ _ step holds)

end Steps

end RvcOrchestrator.Foundation

import RvcOrchestrator.Foundation.Execution

/-! # Reads of a versioned state

A reader looks at a state several times, and the state may change in between. Where every
change raises a version, what the reader has seen under one version belongs together.
-/

namespace RvcOrchestrator.Foundation

variable {View : Type}

def Advances (version : View → Nat) (before after : View) : Prop :=
  after = before ∨ version before < version after

theorem Advances.refl (version : View → Nat) (view : View) : Advances version view view := .inl rfl

/-- The version has been reached, and as long as it is the current one the fact holds. -/
structure Known (version : View → Nat) (number : Nat) (fact : View → Prop) (view : View) :
    Prop where
  reached : number ≤ version view
  current : version view = number → fact view

namespace Known

variable {version : View → Nat} {number : Nat} {fact other : View → Prop} {view after : View}

theorem advance (known : Known version number fact view)
    (advances : Advances version view after) : Known version number fact after := by
  rcases advances with rfl | later
  · exact known
  · have reached := known.reached
    exact ⟨by omega, fun same => by omega⟩

theorem mono (known : Known version number fact view)
    (weaker : version view = number → fact view → other view) :
    Known version number other view :=
  ⟨known.reached, fun same => weaker same (known.current same)⟩

end Known

/-! ## What a run has been through -/

section

variable {State Event : Type}

def Visited (step : State → Event → State) (initial : State) (events : List Event)
    (state : State) : Prop :=
  ∃ front back, events = front ++ back ∧ run step initial front = state

theorem along_visited (step : State → Event → State) (initial : State) (events : List Event) :
    Along step (fun state _ => Visited step initial events state) initial events := by
  have later (front : List Event) : ∀ back, events = front ++ back →
      Along step (fun state _ => Visited step initial events state)
        (run step initial front) back := by
    intro back
    induction back generalizing front with
    | nil => exact fun _ => trivial
    | cons event back induction =>
        intro split
        refine ⟨⟨front, event :: back, split, rfl⟩, ?_⟩
        have next := induction (front ++ [event]) (by rw [split, List.append_assoc]; rfl)
        rw [run_append] at next
        exact next
  exact later [] events rfl

theorem Along.mono {step : State → Event → State} {condition weaker : State → Event → Prop}
    {initial : State} {events : List Event} (along : Along step condition initial events)
    (weaken : ∀ state event, condition state event → weaker state event) :
    Along step weaker initial events := by
  induction events generalizing initial with
  | nil => trivial
  | cons event events induction =>
      exact ⟨weaken initial event along.1, induction along.2⟩

theorem Along.and {step : State → Event → State} {left right : State → Event → Prop}
    {initial : State} {events : List Event} (first : Along step left initial events)
    (second : Along step right initial events) :
    Along step (fun state event => left state event ∧ right state event) initial events := by
  induction events generalizing initial with
  | nil => trivial
  | cons event events induction =>
      exact ⟨⟨first.1, second.1⟩, induction first.2 second.2⟩

end

end RvcOrchestrator.Foundation

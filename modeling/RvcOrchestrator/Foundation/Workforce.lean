import RvcOrchestrator.Foundation.Execution

/-! # Processes over a shared state

Any number of processes work on one state. A process is at some phase; a move takes it
to its next phase or ends it, and may change the state. Processes start and stop at any
time, and the state may also change by itself.
-/

namespace RvcOrchestrator.Foundation

/-- A launch that is not possible, and a disturbance that is not, do nothing. -/
structure Workforce (State Phase Launch Choice Disturbance : Type) where
  launch : Launch → State → Option (Phase × State)
  advance : Choice → Phase → State → Option Phase × State
  disturb : Disturbance → State → Option State

namespace Workforce

variable {State Phase Launch Choice Disturbance : Type}

structure Situation (State Phase : Type) where
  state : State
  phases : List Phase

inductive Event (Launch Choice Disturbance : Type) where
  | launch (launch : Launch)
  /-- The process at this place makes its next move. -/
  | proceed (place : Nat) (choice : Choice)
  | stop (place : Nat)
  | disturb (disturbance : Disturbance)

variable (workforce : Workforce State Phase Launch Choice Disturbance)

def move (situation : Situation State Phase) (place : Nat) (choice : Choice) (phase : Phase) :
    Situation State Phase :=
  match workforce.advance choice phase situation.state with
  | (none, state) => ⟨state, situation.phases.eraseIdx place⟩
  | (some next, state) => ⟨state, situation.phases.set place next⟩

def step (situation : Situation State Phase) :
    Event Launch Choice Disturbance → Situation State Phase
  | .launch launch =>
      match workforce.launch launch situation.state with
      | none => situation
      | some (phase, state) => ⟨state, situation.phases ++ [phase]⟩
  | .proceed place choice =>
      match situation.phases[place]? with
      | none => situation
      | some phase => workforce.move situation place choice phase
  | .stop place => { situation with phases := situation.phases.eraseIdx place }
  | .disturb disturbance =>
      match workforce.disturb disturbance situation.state with
      | none => situation
      | some state => { situation with state }

/-! ## What one step does -/

variable {workforce} {situation : Situation State Phase}

theorem step_proceed {place : Nat} {choice : Choice} {phase : Phase}
    (found : situation.phases[place]? = some phase) :
    workforce.step situation (.proceed place choice) =
      workforce.move situation place choice phase := by
  simp only [step, found]

theorem mem_phases_move {place : Nat} {choice : Choice} {phase other : Phase}
    (member : other ∈ (workforce.move situation place choice phase).phases) :
    other ∈ situation.phases ∨ (workforce.advance choice phase situation.state).1 = some other := by
  unfold move at member
  split at member
  · exact .inl (List.mem_of_mem_eraseIdx member)
  · next next state advanced =>
      rcases List.mem_or_eq_of_mem_set member with earlier | same
      · exact .inl earlier
      · exact .inr (by rw [advanced, same])

theorem state_move (place : Nat) (choice : Choice) (phase : Phase) :
    (workforce.move situation place choice phase).state =
      (workforce.advance choice phase situation.state).2 := by
  unfold move
  split
  · next state advanced => rw [advanced]
  · next next state advanced => rw [advanced]

/-- What holds of the state and of every process, each seen alone, is kept by a step if
launches, moves and disturbances keep it. -/
structure Preserves (workforce : Workforce State Phase Launch Choice Disturbance)
    (condition : Situation State Phase → Event Launch Choice Disturbance → Prop)
    (Holds : State → Prop) (Fits : State → Phase → Prop) : Prop where
  launched : ∀ situation launch phase state,
    condition situation (.launch launch) → Holds situation.state →
    workforce.launch launch situation.state = some (phase, state) →
    Holds state ∧ Fits state phase ∧ ∀ other, Fits situation.state other → Fits state other
  moved : ∀ situation place choice phase, condition situation (.proceed place choice) →
    situation.phases[place]? = some phase → Holds situation.state →
    (∀ other ∈ situation.phases, Fits situation.state other) →
    Holds (workforce.advance choice phase situation.state).2 ∧
      (∀ next, (workforce.advance choice phase situation.state).1 = some next →
        Fits (workforce.advance choice phase situation.state).2 next) ∧
      ∀ other ∈ situation.phases, Fits (workforce.advance choice phase situation.state).2 other
  disturbed : ∀ situation disturbance state, condition situation (.disturb disturbance) →
    Holds situation.state → workforce.disturb disturbance situation.state = some state →
    Holds state ∧ ∀ other, Fits situation.state other → Fits state other

theorem Preserves.step {condition : Situation State Phase → Event Launch Choice Disturbance → Prop}
    {Holds : State → Prop} {Fits : State → Phase → Prop}
    (preserves : Preserves workforce condition Holds Fits)
    {event : Event Launch Choice Disturbance} (meets : condition situation event)
    (holds : Holds situation.state ∧ ∀ phase ∈ situation.phases, Fits situation.state phase) :
    Holds (workforce.step situation event).state ∧
      ∀ phase ∈ (workforce.step situation event).phases,
        Fits (workforce.step situation event).state phase := by
  cases event with
  | launch launch =>
      simp only [Workforce.step]
      split
      · exact holds
      · next phase state launched =>
          have kept := preserves.launched situation launch phase state meets holds.1 launched
          refine ⟨kept.1, ?_⟩
          intro other member
          rcases List.mem_append.mp member with earlier | last
          · exact kept.2.2 other (holds.2 other earlier)
          · rw [List.mem_singleton.mp last]
            exact kept.2.1
  | proceed place choice =>
      cases found : situation.phases[place]? with
      | none =>
          simp only [Workforce.step, found]
          exact holds
      | some phase =>
          have kept := preserves.moved situation place choice phase meets found holds.1 holds.2
          rw [step_proceed found, state_move]
          refine ⟨kept.1, ?_⟩
          intro other member
          rcases mem_phases_move member with earlier | next
          · exact kept.2.2 other earlier
          · exact kept.2.1 other next
  | stop place =>
      exact ⟨holds.1, fun phase member => holds.2 phase (List.mem_of_mem_eraseIdx member)⟩
  | disturb disturbance =>
      simp only [Workforce.step]
      split
      · exact holds
      · next state disturbed =>
          have kept := preserves.disturbed situation disturbance state meets holds.1 disturbed
          exact ⟨kept.1, fun phase member => kept.2 phase (holds.2 phase member)⟩

theorem Preserves.run {condition : Situation State Phase → Event Launch Choice Disturbance → Prop}
    {Holds : State → Prop} {Fits : State → Phase → Prop}
    (preserves : Preserves workforce condition Holds Fits)
    (holds : Holds situation.state ∧ ∀ phase ∈ situation.phases, Fits situation.state phase)
    {events : List (Event Launch Choice Disturbance)}
    (along : Along workforce.step condition situation events) :
    Holds (Foundation.run workforce.step situation events).state ∧
      ∀ phase ∈ (Foundation.run workforce.step situation events).phases,
        Fits (Foundation.run workforce.step situation events).state phase := by
  apply run_preserves_along (fun situation : Situation State Phase => Holds situation.state ∧
    ∀ phase ∈ situation.phases, Fits situation.state phase) _ holds along
  intro situation event meets kept
  exact preserves.step meets kept

/-! ### Processes apart from the one that moves -/

theorem mem_set_apart {phases : List Phase} {place : Nat} {next other : Phase}
    (member : other ∈ phases.set place next) : other ∈ phases.eraseIdx place ∨ other = next := by
  induction phases generalizing place with
  | nil => nomatch member
  | cons head tail induction =>
      cases place with
      | zero =>
          rcases List.mem_cons.mp member with same | later
          · exact .inr same
          · exact .inl later
      | succ place =>
          rcases List.mem_cons.mp member with same | later
          · exact .inl (same ▸ List.mem_cons_self)
          · rcases induction later with apart | same
            · exact .inl (List.mem_cons_of_mem head apart)
            · exact .inr same

theorem mem_phases_move_apart {place : Nat} {choice : Choice} {phase other : Phase}
    (member : other ∈ (workforce.move situation place choice phase).phases) :
    other ∈ situation.phases.eraseIdx place ∨
      (workforce.advance choice phase situation.state).1 = some other := by
  unfold move at member
  split at member
  · exact .inl member
  · next next state advanced =>
      rcases mem_set_apart member with apart | same
      · exact .inl apart
      · exact .inr (by rw [advanced, same])

/-- `Preserves` where a move only has to keep what holds of the processes at other places. -/
structure PreservesApart (workforce : Workforce State Phase Launch Choice Disturbance)
    (condition : Situation State Phase → Event Launch Choice Disturbance → Prop)
    (Holds : State → Prop) (Fits : State → Phase → Prop) : Prop where
  launched : ∀ situation launch phase state,
    condition situation (.launch launch) → Holds situation.state →
    workforce.launch launch situation.state = some (phase, state) →
    Holds state ∧ Fits state phase ∧
      ∀ other ∈ situation.phases, Fits situation.state other → Fits state other
  moved : ∀ situation place choice phase, condition situation (.proceed place choice) →
    situation.phases[place]? = some phase → Holds situation.state →
    Fits situation.state phase →
    (∀ other ∈ situation.phases.eraseIdx place, Fits situation.state other) →
    Holds (workforce.advance choice phase situation.state).2 ∧
      (∀ next, (workforce.advance choice phase situation.state).1 = some next →
        Fits (workforce.advance choice phase situation.state).2 next) ∧
      ∀ other ∈ situation.phases.eraseIdx place,
        Fits (workforce.advance choice phase situation.state).2 other
  disturbed : ∀ situation disturbance state, condition situation (.disturb disturbance) →
    Holds situation.state → workforce.disturb disturbance situation.state = some state →
    Holds state ∧ ∀ other ∈ situation.phases, Fits situation.state other → Fits state other

theorem PreservesApart.step
    {condition : Situation State Phase → Event Launch Choice Disturbance → Prop}
    {Holds : State → Prop} {Fits : State → Phase → Prop}
    (preserves : PreservesApart workforce condition Holds Fits)
    {event : Event Launch Choice Disturbance} (meets : condition situation event)
    (holds : Holds situation.state ∧ ∀ phase ∈ situation.phases, Fits situation.state phase) :
    Holds (workforce.step situation event).state ∧
      ∀ phase ∈ (workforce.step situation event).phases,
        Fits (workforce.step situation event).state phase := by
  cases event with
  | launch launch =>
      simp only [Workforce.step]
      split
      · exact holds
      · next phase state launched =>
          have kept := preserves.launched situation launch phase state meets holds.1 launched
          refine ⟨kept.1, ?_⟩
          intro other member
          rcases List.mem_append.mp member with earlier | last
          · exact kept.2.2 other earlier (holds.2 other earlier)
          · rw [List.mem_singleton.mp last]
            exact kept.2.1
  | proceed place choice =>
      cases found : situation.phases[place]? with
      | none =>
          simp only [Workforce.step, found]
          exact holds
      | some phase =>
          have kept := preserves.moved situation place choice phase meets found holds.1
            (holds.2 phase (List.mem_of_getElem? found))
            fun other member => holds.2 other (List.mem_of_mem_eraseIdx member)
          rw [step_proceed found, state_move]
          refine ⟨kept.1, ?_⟩
          intro other member
          rcases mem_phases_move_apart member with apart | next
          · exact kept.2.2 other apart
          · exact kept.2.1 other next
  | stop place =>
      exact ⟨holds.1, fun phase member => holds.2 phase (List.mem_of_mem_eraseIdx member)⟩
  | disturb disturbance =>
      simp only [Workforce.step]
      split
      · exact holds
      · next state disturbed =>
          have kept := preserves.disturbed situation disturbance state meets holds.1 disturbed
          exact ⟨kept.1, fun phase member => kept.2 phase member (holds.2 phase member)⟩

theorem PreservesApart.run
    {condition : Situation State Phase → Event Launch Choice Disturbance → Prop}
    {Holds : State → Prop} {Fits : State → Phase → Prop}
    (preserves : PreservesApart workforce condition Holds Fits)
    (holds : Holds situation.state ∧ ∀ phase ∈ situation.phases, Fits situation.state phase)
    {events : List (Event Launch Choice Disturbance)}
    (along : Along workforce.step condition situation events) :
    Holds (Foundation.run workforce.step situation events).state ∧
      ∀ phase ∈ (Foundation.run workforce.step situation events).phases,
        Fits (Foundation.run workforce.step situation events).state phase := by
  apply run_preserves_along (fun situation : Situation State Phase => Holds situation.state ∧
    ∀ phase ∈ situation.phases, Fits situation.state phase) _ holds along
  intro situation event meets kept
  exact preserves.step meets kept

/-! ## One process alone -/

def solo (workforce : Workforce State Phase Launch Choice Disturbance) :
    Option Phase → State → List Choice → Option Phase × State
  | none, state, _ => (none, state)
  | some phase, state, [] => (some phase, state)
  | some phase, state, choice :: choices =>
      workforce.solo (workforce.advance choice phase state).1
        (workforce.advance choice phase state).2 choices

theorem solo_of_advance {phase : Phase} {next : Option Phase} {state after : State}
    {choice : Choice} {choices : List Choice}
    (advanced : workforce.advance choice phase state = (next, after)) :
    workforce.solo (some phase) state (choice :: choices) = workforce.solo next after choices := by
  rw [solo, advanced]

/-- The process that was launched last runs alone if only its own moves follow. -/
theorem run_last (workforce : Workforce State Phase Launch Choice Disturbance)
    (phases : List Phase) (choices : List Choice) (phase : Option Phase) (state : State) :
    Foundation.run workforce.step ⟨state, phases ++ phase.toList⟩
        (choices.map (.proceed phases.length)) =
      ⟨(workforce.solo phase state choices).2,
        phases ++ (workforce.solo phase state choices).1.toList⟩ := by
  induction choices generalizing phase state with
  | nil => cases phase <;> rfl
  | cons choice choices induction =>
      cases phase with
      | none =>
          have idle : workforce.step ⟨state, phases ++ none.toList⟩
              (.proceed phases.length choice) = ⟨state, phases ++ none.toList⟩ := by
            simp [Workforce.step]
          rw [List.map_cons, run_cons, idle, induction none state]
          cases choices <;> rfl
      | some phase =>
          have moved : workforce.step ⟨state, phases ++ (some phase).toList⟩
              (.proceed phases.length choice) =
              ⟨(workforce.advance choice phase state).2,
                phases ++ (workforce.advance choice phase state).1.toList⟩ := by
            have found : (phases ++ (some phase).toList)[phases.length]? = some phase := by simp
            rw [step_proceed found]
            unfold move
            split
            · next after advanced => simp [advanced, List.eraseIdx_append_of_length_le]
            · next next after advanced => simp [advanced]
          rw [List.map_cons, run_cons, moved, induction]
          rfl

/-! ## Names

A process that needs a name draws it when it is launched, and no name is drawn twice.
-/

structure Names {Name : Type} (workforce : Workforce State Phase Launch Choice Disturbance)
    (name : Phase → Option Name) (Drawn : State → Name → Prop) : Prop where
  launched : ∀ {launch state phase after}, workforce.launch launch state = some (phase, after) →
    (∀ other, Drawn state other → Drawn after other) ∧
      ∀ own, name phase = some own → ¬Drawn state own ∧ Drawn after own
  moved : ∀ choice phase state,
    (∀ other, Drawn state other → Drawn (workforce.advance choice phase state).2 other) ∧
      ∀ next, (workforce.advance choice phase state).1 = some next → name next = name phase
  disturbed : ∀ {disturbance state after}, workforce.disturb disturbance state = some after →
    ∀ other, Drawn state other → Drawn after other

def Named {Name : Type} (name : Phase → Option Name) (Drawn : State → Name → Prop)
    (situation : Situation State Phase) : Prop :=
  (situation.phases.filterMap name).Nodup ∧
    ∀ own ∈ situation.phases.filterMap name, Drawn situation.state own

variable {Name : Type} {name : Phase → Option Name} {Drawn : State → Name → Prop}

omit workforce in
theorem Named.drawn (named : Named name Drawn situation) {phase : Phase} {own : Name}
    (member : phase ∈ situation.phases) (called : name phase = some own) :
    Drawn situation.state own :=
  named.2 own (List.mem_filterMap.mpr ⟨phase, member, called⟩)

theorem eq_of_filterMap_nodup {phases : List Phase} (nodup : (phases.filterMap name).Nodup)
    {first second : Phase} (left : first ∈ phases) (right : second ∈ phases) {own : Name}
    (firstName : name first = some own) (secondName : name second = some own) :
    first = second := by
  induction phases with
  | nil => nomatch left
  | cons head tail induction =>
      rcases List.mem_cons.mp left with isFirst | leftTail
      · rcases List.mem_cons.mp right with isSecond | rightTail
        · exact isFirst.trans isSecond.symm
        · subst isFirst
          rw [List.filterMap_cons_some firstName, List.nodup_cons] at nodup
          have again : own ∈ tail.filterMap name :=
            List.mem_filterMap.mpr ⟨second, rightTail, secondName⟩
          exact absurd again nodup.1
      · rcases List.mem_cons.mp right with isSecond | rightTail
        · subst isSecond
          rw [List.filterMap_cons_some secondName, List.nodup_cons] at nodup
          have again : own ∈ tail.filterMap name :=
            List.mem_filterMap.mpr ⟨first, leftTail, firstName⟩
          exact absurd again nodup.1
        · exact induction (nodup.sublist ((List.sublist_cons_self head tail).filterMap name))
            leftTail rightTail

omit workforce in
theorem Named.eq (named : Named name Drawn situation) {first second : Phase}
    (left : first ∈ situation.phases) (right : second ∈ situation.phases) {own : Name}
    (firstName : name first = some own) (secondName : name second = some own) :
    first = second :=
  eq_of_filterMap_nodup named.1 left right firstName secondName

theorem not_mem_filterMap_eraseIdx {phases : List Phase} {place : Nat} {phase : Phase}
    (nodup : (phases.filterMap name).Nodup) (found : phases[place]? = some phase) {own : Name}
    (called : name phase = some own) : own ∉ (phases.eraseIdx place).filterMap name := by
  induction phases generalizing place with
  | nil => nomatch found
  | cons head tail induction =>
      cases place with
      | zero =>
          rcases Option.some.inj found with rfl
          rw [List.filterMap_cons_some called, List.nodup_cons] at nodup
          exact nodup.1
      | succ place =>
          have inTail : phase ∈ tail := List.mem_of_getElem? found
          cases headName : name head with
          | none =>
              rw [List.filterMap_cons_none headName] at nodup
              rw [List.eraseIdx_cons_succ, List.filterMap_cons_none headName]
              exact induction nodup found
          | some other =>
              rw [List.filterMap_cons_some headName, List.nodup_cons] at nodup
              rw [List.eraseIdx_cons_succ, List.filterMap_cons_some headName, List.mem_cons]
              rintro (same | later)
              · exact nodup.1 (same ▸ List.mem_filterMap.mpr ⟨phase, inTail, called⟩)
              · exact induction nodup.2 found later

omit workforce in
/-- The processes at other places have other names. -/
theorem Named.apart (named : Named name Drawn situation) {place : Nat} {phase other : Phase}
    (found : situation.phases[place]? = some phase)
    (member : other ∈ situation.phases.eraseIdx place) {own : Name}
    (called : name phase = some own) : name other ≠ some own := fun same =>
  not_mem_filterMap_eraseIdx named.1 found called (List.mem_filterMap.mpr ⟨other, member, same⟩)

theorem filterMap_set {phases : List Phase} {place : Nat} {phase next : Phase}
    (found : phases[place]? = some phase) (same : name next = name phase) :
    (phases.set place next).filterMap name = phases.filterMap name := by
  induction phases generalizing place with
  | nil => nomatch found
  | cons head tail induction =>
      cases place with
      | zero =>
          rcases Option.some.inj found with rfl
          simp only [List.set_cons_zero, List.filterMap_cons, same]
      | succ place =>
          simp only [List.set_cons_succ, List.filterMap_cons, induction found]

theorem Names.step (names : Names workforce name Drawn) (named : Named name Drawn situation)
    (event : Event Launch Choice Disturbance) :
    Named name Drawn (workforce.step situation event) := by
  cases event with
  | launch launch =>
      simp only [Workforce.step]
      split
      · exact named
      · next phase after launched =>
          have drawn := names.launched launched
          cases called : name phase with
          | none =>
              simp only [Named, List.filterMap_append, List.filterMap_cons_none called,
                List.filterMap_nil, List.append_nil]
              exact ⟨named.1, fun own member => drawn.1 own (named.2 own member)⟩
          | some own =>
              simp only [Named, List.filterMap_append, List.filterMap_cons_some called,
                List.filterMap_nil]
              constructor
              · refine List.nodup_append.mpr ⟨named.1, List.pairwise_singleton _ own, ?_⟩
                intro other earlier last member same
                rw [same, List.mem_singleton.mp member] at earlier
                exact (drawn.2 own called).1 (named.2 own earlier)
              · intro other member
                rcases List.mem_append.mp member with earlier | last
                · exact drawn.1 other (named.2 other earlier)
                · rw [List.mem_singleton.mp last]
                  exact (drawn.2 own called).2
  | proceed place choice =>
      cases found : situation.phases[place]? with
      | none =>
          simp only [Workforce.step, found]
          exact named
      | some phase =>
          have drawn := names.moved choice phase situation.state
          rw [step_proceed found]
          unfold move
          split
          · next after advanced =>
              rw [advanced] at drawn
              have fewer : (situation.phases.eraseIdx place).Sublist situation.phases :=
                List.eraseIdx_sublist ..
              exact ⟨named.1.sublist (fewer.filterMap name), fun own member =>
                drawn.1 own (named.2 own ((fewer.filterMap name).subset member))⟩
          · next next after advanced =>
              rw [advanced] at drawn
              unfold Named
              rw [filterMap_set found (drawn.2 next rfl)]
              exact ⟨named.1, fun own member => drawn.1 own (named.2 own member)⟩
  | stop place =>
      have fewer : (situation.phases.eraseIdx place).Sublist situation.phases :=
        List.eraseIdx_sublist ..
      exact ⟨named.1.sublist (fewer.filterMap name), fun own member =>
        named.2 own ((fewer.filterMap name).subset member)⟩
  | disturb disturbance =>
      simp only [Workforce.step]
      split
      · exact named
      · next after disturbed =>
          exact ⟨named.1, fun own member =>
            names.disturbed disturbed own (named.2 own member)⟩

/-- In every run from a state without processes, no two processes have the same name. -/
theorem Names.run (names : Names workforce name Drawn) (initial : State)
    (events : List (Event Launch Choice Disturbance)) :
    Named name Drawn (Foundation.run workforce.step ⟨initial, []⟩ events) := by
  apply run_preserves (Named name Drawn)
  · intro situation event named
    exact names.step named event
  · exact ⟨List.nodup_nil, fun _ member => nomatch member⟩

end Workforce

end RvcOrchestrator.Foundation

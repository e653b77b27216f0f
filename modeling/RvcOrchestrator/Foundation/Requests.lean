import RvcOrchestrator.Foundation.Execution

/-! # Concurrent requests with one transaction each

A request first makes some reads, each at its own moment, which may already answer
it. If none does, one atomic transaction answers it and may change the state. Between
any two of these moments other requests, and whatever else happens to the state, go
on. A request may also be abandoned at any moment.
-/

namespace RvcOrchestrator.Foundation

/-- `Local` is what a request has remembered from its reads. -/
structure Service (State Request Local Answer Disturbance : Type) where
  start : Request → Local
  reads : Request → List (State → Local → Except Answer Local)
  commit : Request → Local → State → Answer × State
  disturb : Disturbance → State → State

namespace Service

variable {State Request Local Answer Disturbance : Type}

structure Flight (State Request Local Answer : Type) where
  request : Request
  memory : Local
  pending : List (State → Local → Except Answer Local)

structure Serving (State Request Local Answer : Type) where
  state : State
  flights : List (Flight State Request Local Answer)
  answers : List (Request × Answer)

def Serving.initial (state : State) : Serving State Request Local Answer where
  state := state
  flights := []
  answers := []

inductive Event (Request Disturbance : Type) where
  | arrive (request : Request)
  /-- The request at this place makes its next read, or its transaction. -/
  | proceed (place : Nat)
  | abandon (place : Nat)
  | disturb (disturbance : Disturbance)

variable (service : Service State Request Local Answer Disturbance)

def proceed (serving : Serving State Request Local Answer) (place : Nat)
    (flight : Flight State Request Local Answer) : Serving State Request Local Answer :=
  match flight.pending with
  | [] =>
      let (answer, state) := service.commit flight.request flight.memory serving.state
      { state := state
        flights := serving.flights.eraseIdx place
        answers := serving.answers ++ [(flight.request, answer)] }
  | read :: pending =>
      match read serving.state flight.memory with
      | .error answer =>
          { serving with
            flights := serving.flights.eraseIdx place
            answers := serving.answers ++ [(flight.request, answer)] }
      | .ok memory =>
          { serving with
            flights := serving.flights.set place { flight with memory, pending } }

def step (serving : Serving State Request Local Answer) :
    Event Request Disturbance → Serving State Request Local Answer
  | .arrive request =>
      { serving with
        flights := serving.flights ++ [⟨request, service.start request, service.reads request⟩] }
  | .proceed place =>
      match serving.flights[place]? with
      | none => serving
      | some flight => service.proceed serving place flight
  | .abandon place => { serving with flights := serving.flights.eraseIdx place }
  | .disturb disturbance => { serving with state := service.disturb disturbance serving.state }

/-! ## What one step does -/

def Commits (serving : Serving State Request Local Answer) (place : Nat) (request : Request)
    (memory : Local) : Prop :=
  serving.flights[place]? = some ⟨request, memory, []⟩

def Answers (serving : Serving State Request Local Answer) (place : Nat) (request : Request)
    (answer : Answer) : Prop :=
  ∃ read pending memory, serving.flights[place]? = some ⟨request, memory, read :: pending⟩ ∧
    read serving.state memory = .error answer

theorem step_cases (serving : Serving State Request Local Answer)
    (event : Event Request Disturbance) :
    ((service.step serving event).state = serving.state ∧
      (service.step serving event).answers = serving.answers) ∨
    (∃ place request answer, event = .proceed place ∧ Answers serving place request answer ∧
      (service.step serving event).state = serving.state ∧
      (service.step serving event).answers = serving.answers ++ [(request, answer)]) ∨
    (∃ place request memory, event = .proceed place ∧ Commits serving place request memory ∧
      (service.step serving event).state = (service.commit request memory serving.state).2 ∧
      (service.step serving event).answers =
        serving.answers ++ [(request, (service.commit request memory serving.state).1)]) ∨
    ∃ disturbance, event = .disturb disturbance ∧
      (service.step serving event).state = service.disturb disturbance serving.state ∧
      (service.step serving event).answers = serving.answers := by
  cases event with
  | arrive request => exact .inl ⟨rfl, rfl⟩
  | abandon place => exact .inl ⟨rfl, rfl⟩
  | disturb disturbance => exact .inr (.inr (.inr ⟨disturbance, rfl, rfl, rfl⟩))
  | proceed place =>
      simp only [step]
      split
      · exact .inl ⟨rfl, rfl⟩
      · next flight found =>
          rcases flight with ⟨request, memory, pending⟩
          cases pending with
          | nil => exact .inr (.inr (.inl ⟨place, request, memory, rfl, found, rfl, rfl⟩))
          | cons read pending =>
              simp only [proceed]
              split
              · next answer refused =>
                  exact .inr (.inl ⟨place, request, answer, rfl,
                    ⟨read, pending, memory, found, refused⟩, rfl, rfl⟩)
              · exact .inl ⟨rfl, rfl⟩

theorem step_read {serving : Serving State Request Local Answer} {place : Nat}
    {request : Request} {memory next : Local} {read : State → Local → Except Answer Local}
    {pending : List (State → Local → Except Answer Local)}
    (found : serving.flights[place]? = some ⟨request, memory, read :: pending⟩)
    (accepted : read serving.state memory = .ok next) :
    service.step serving (.proceed place) =
      { serving with flights := serving.flights.set place ⟨request, next, pending⟩ } := by
  simp only [step, found, proceed, accepted]

theorem step_answer {serving : Serving State Request Local Answer} {place : Nat}
    {request : Request} {memory : Local} {answer : Answer}
    {read : State → Local → Except Answer Local}
    {pending : List (State → Local → Except Answer Local)}
    (found : serving.flights[place]? = some ⟨request, memory, read :: pending⟩)
    (refused : read serving.state memory = .error answer) :
    service.step serving (.proceed place) =
      { serving with
        flights := serving.flights.eraseIdx place
        answers := serving.answers ++ [(request, answer)] } := by
  simp only [step, found, proceed, refused]

theorem step_commit {serving : Serving State Request Local Answer} {place : Nat}
    {request : Request} {memory : Local} (commits : Commits serving place request memory) :
    service.step serving (.proceed place) =
      { state := (service.commit request memory serving.state).2
        flights := serving.flights.eraseIdx place
        answers := serving.answers ++
          [(request, (service.commit request memory serving.state).1)] } := by
  simp only [step, show serving.flights[place]? = _ from commits, proceed]

/-- What transactions and disturbances preserve holds after every run. -/
theorem run_state_preserves (Property : State → Prop)
    (committed : ∀ request memory state, Property state →
      Property (service.commit request memory state).2)
    (disturbed : ∀ disturbance state, Property state →
      Property (service.disturb disturbance state))
    {state : State} (holds : Property state) (events : List (Event Request Disturbance)) :
    Property (run service.step (.initial state) events).state := by
  refine run_preserves
    (fun serving : Serving State Request Local Answer => Property serving.state) ?_ holds events
  intro serving event property
  rcases service.step_cases serving event with
    ⟨same, -⟩ | ⟨_, _, _, -, -, same, -⟩ | ⟨_, request, memory, -, -, changed, -⟩ |
      ⟨disturbance, -, changed, -⟩
  · rw [same]
    exact property
  · rw [same]
    exact property
  · rw [changed]
    exact committed request memory serving.state property
  · rw [changed]
    exact disturbed disturbance serving.state property

/-! ## Answers -/

def Belongs (serving : Serving State Request Local Answer) : Prop :=
  ∀ flight ∈ serving.flights, ∀ read ∈ flight.pending, read ∈ service.reads flight.request

variable {service} in
theorem Belongs.step {serving : Serving State Request Local Answer}
    (belongs : service.Belongs serving) (event : Event Request Disturbance) :
    service.Belongs (service.step serving event) := by
  cases event with
  | arrive request =>
      intro flight member
      rcases List.mem_append.mp member with earlier | new
      · exact belongs flight earlier
      · rw [List.mem_singleton.mp new]
        exact fun _ member => member
  | abandon place => exact fun flight member => belongs flight (List.mem_of_mem_eraseIdx member)
  | disturb disturbance => exact belongs
  | proceed place =>
      simp only [Service.step]
      split
      · exact belongs
      · next flight found =>
          have stored : flight ∈ serving.flights := List.mem_of_getElem? found
          rcases flight with ⟨request, memory, pending⟩
          cases pending with
          | nil => exact fun flight member => belongs flight (List.mem_of_mem_eraseIdx member)
          | cons read pending =>
              simp only [proceed]
              split
              · exact fun flight member => belongs flight (List.mem_of_mem_eraseIdx member)
              · intro flight member
                rcases List.mem_or_eq_of_mem_set member with earlier | rfl
                · exact belongs flight earlier
                · exact fun later member => belongs _ stored later (List.mem_cons_of_mem _ member)

/-- What holds of each answer when it is given, and is kept by transactions and
disturbances, holds of all answers of a run. -/
theorem run_answers (Invariant : State → Prop) (Holds : State → Request → Answer → Prop)
    (committed : ∀ request memory state, Invariant state →
      Invariant (service.commit request memory state).2)
    (disturbed : ∀ disturbance state, Invariant state →
      Invariant (service.disturb disturbance state))
    (kept : ∀ other memory state request answer, Invariant state → Holds state request answer →
      Holds (service.commit other memory state).2 request answer)
    (keptDisturbed : ∀ disturbance state request answer, Invariant state →
      Holds state request answer → Holds (service.disturb disturbance state) request answer)
    (answered : ∀ request memory state, Invariant state →
      Holds (service.commit request memory state).2 request
        (service.commit request memory state).1)
    (read : ∀ request, ∀ stage ∈ service.reads request, ∀ state memory answer,
      Invariant state → stage state memory = .error answer → Holds state request answer)
    (state : State) (holds : Invariant state) (events : List (Event Request Disturbance)) :
    ∀ entry ∈ (run service.step (.initial state) events).answers,
      Holds (run service.step (.initial state) events).state entry.1 entry.2 := by
  let Good (serving : Serving State Request Local Answer) : Prop :=
    Invariant serving.state ∧ service.Belongs serving ∧
      ∀ entry ∈ serving.answers, Holds serving.state entry.1 entry.2
  have good : Good (run service.step (.initial state) events) := by
    refine run_preserves Good ?_
      ⟨holds, by simp [Serving.initial, Belongs], by simp [Serving.initial]⟩ events
    rintro serving event ⟨invariant, belongs, all⟩
    have belongsNext := belongs.step event
    rcases service.step_cases serving event with
      ⟨same, answers⟩ | ⟨place, request, answer, -, refused, same, answers⟩ |
        ⟨place, request, memory, -, -, changed, answers⟩ | ⟨disturbance, -, changed, answers⟩
    · refine ⟨same ▸ invariant, belongsNext, ?_⟩
      rw [same, answers]
      exact all
    · refine ⟨same ▸ invariant, belongsNext, ?_⟩
      rcases refused with ⟨stage, pending, memory, found, refused⟩
      rw [same, answers]
      intro entry member
      rcases List.mem_append.mp member with earlier | new
      · exact all entry earlier
      · rw [List.mem_singleton.mp new]
        exact read request stage (belongs _ (List.mem_of_getElem? found) stage List.mem_cons_self)
          _ _ _ invariant refused
    · refine ⟨changed ▸ committed request memory _ invariant, belongsNext, ?_⟩
      rw [changed, answers]
      intro entry member
      rcases List.mem_append.mp member with earlier | new
      · exact kept request memory _ _ _ invariant (all entry earlier)
      · rw [List.mem_singleton.mp new]
        exact answered request memory _ invariant
    · refine ⟨changed ▸ disturbed disturbance _ invariant, belongsNext, ?_⟩
      rw [changed, answers]
      exact fun entry member => keptDisturbed disturbance _ _ _ invariant (all entry member)
  exact good.2.2

/-! ## A request alone -/

section

def readAll (state : State) :
    List (State → Local → Except Answer Local) → Local → Except Answer Local
  | [], memory => .ok memory
  | read :: pending, memory =>
      match read state memory with
      | .error answer => .error answer
      | .ok next => readAll state pending next

variable {service} {state : State} {answers : List (Request × Answer)} {request : Request}

theorem run_reads {pending : List (State → Local → Except Answer Local)} {memory last : Local}
    (accepted : readAll state pending memory = .ok last) :
    run service.step ⟨state, [⟨request, memory, pending⟩], answers⟩
        (List.replicate pending.length (.proceed 0)) =
      ⟨state, [⟨request, last, []⟩], answers⟩ := by
  induction pending generalizing memory with
  | nil =>
      rcases Except.ok.inj accepted with rfl
      rfl
  | cons read pending induction =>
      simp only [readAll] at accepted
      split at accepted
      · nomatch accepted
      · next next read_eq =>
          rw [List.length_cons, List.replicate_succ, run_cons, service.step_read rfl read_eq]
          exact induction accepted

variable (service) in
def alone (request : Request) : List (Event Request Disturbance) :=
  .arrive request ::
    (List.replicate (service.reads request).length (.proceed 0) ++ [.proceed 0])

theorem run_alone {memory : Local}
    (accepted : readAll state (service.reads request) (service.start request) = .ok memory) :
    run service.step ⟨state, [], answers⟩ (service.alone request) =
      ⟨(service.commit request memory state).2, [],
        answers ++ [(request, (service.commit request memory state).1)]⟩ := by
  rw [alone, run_cons, run_append]
  have arrived : service.step ⟨state, [], answers⟩ (.arrive request) =
      ⟨state, [⟨request, service.start request, service.reads request⟩], answers⟩ := rfl
  have commits : Commits (⟨state, [⟨request, memory, []⟩], answers⟩ :
      Serving State Request Local Answer) 0 request memory := rfl
  rw [arrived, run_reads accepted, run_cons, service.step_commit commits]
  rfl

end

end Service

/-! ## Requests that are sent again -/

/-- What is kept of a transaction, under the key its sender chose. -/
structure Recorded (Kind Fingerprint Response : Type) where
  kind : Kind
  fingerprint : Fingerprint
  response : Response

section

variable {Kind Fingerprint Response : Type} [DecidableEq Kind] [DecidableEq Fingerprint]

/-- Nothing is recorded under the key, or the request is answered as it was before, or
its key belongs to another request. -/
inductive Replay (Response : Type) where
  | fresh
  | again (response : Response)
  | conflict

def replay (recorded : Option (Recorded Kind Fingerprint Response)) (kind : Kind)
    (fingerprint : Fingerprint) : Replay Response :=
  match recorded with
  | none => .fresh
  | some record =>
      if record.kind ≠ kind ∨ record.fingerprint ≠ fingerprint then .conflict
      else .again record.response

theorem replay_eq_fresh_iff {recorded : Option (Recorded Kind Fingerprint Response)} {kind : Kind}
    {fingerprint : Fingerprint} : replay recorded kind fingerprint = .fresh ↔ recorded = none := by
  cases recorded with
  | none => simp [replay]
  | some record =>
      simp only [replay]
      split <;> simp

theorem replay_eq_again_iff {recorded : Option (Recorded Kind Fingerprint Response)} {kind : Kind}
    {fingerprint : Fingerprint} {response : Response} :
    replay recorded kind fingerprint = .again response ↔
      recorded = some ⟨kind, fingerprint, response⟩ := by
  cases recorded with
  | none => simp [replay]
  | some record =>
      rcases record with ⟨recordedKind, recordedFingerprint, recordedResponse⟩
      simp only [replay]
      split
      · next different =>
          simp only [reduceCtorEq, Option.some.injEq, Recorded.mk.injEq, false_iff, not_and]
          intro sameKind sameFingerprint
          exact absurd different (by simp [sameKind, sameFingerprint])
      · next same =>
          simp only [ne_eq, not_or, Decidable.not_not] at same
          simp [same.1, same.2]

end

end RvcOrchestrator.Foundation

import RvcOrchestrator.Manager.Assignment.Coherence

/-! # The status history of a Job

Every status writer appends to one list of events. Per Job the list is a path
of the transition table that ends in the stored status, and what the path has
closed stays closed.
-/

namespace RvcOrchestrator.Manager.Assignment

open RvcOrchestrator.Foundation RvcOrchestrator.Contracts

/-! ## Paths of the transition table -/

def Edge : Option JobStatus → JobStatus → Prop
  | none, target => target = .queued
  | some current, target => target ∈ allowedJobTransitions current

/-- The events lead from `start` to `last`, each leaving where the one before it
arrived. A Job without a history starts at `none`. -/
def Path : Option JobStatus → List JobStatusEvent → Option JobStatus → Prop
  | start, [], last => start = last
  | start, event :: events, last =>
      event.previousStatus = start ∧ Edge start event.status ∧
        Path (some event.status) events last

namespace Path

theorem append {start middle last : Option JobStatus} {front back : List JobStatusEvent}
    (left : Path start front middle) (right : Path middle back last) :
    Path start (front ++ back) last := by
  induction front generalizing start with
  | nil => exact left ▸ right
  | cons event front induction => exact ⟨left.1, left.2.1, induction left.2.2⟩

end Path

def eventsOf (jobId : JobId) (events : List JobStatusEvent) : List JobStatusEvent :=
  events.filter fun event => event.jobId = jobId

theorem eventsOf_append (jobId : JobId) (front back : List JobStatusEvent) :
    eventsOf jobId (front ++ back) = eventsOf jobId front ++ eventsOf jobId back :=
  List.filter_append front back

theorem eventsOf_eq_self {jobId : JobId} {events : List JobStatusEvent}
    (all : ∀ event ∈ events, event.jobId = jobId) : eventsOf jobId events = events :=
  List.filter_eq_self.mpr fun event member => decide_eq_true (all event member)

theorem eventsOf_eq_nil {jobId : JobId} {events : List JobStatusEvent}
    (none : ∀ event ∈ events, event.jobId ≠ jobId) : eventsOf jobId events = [] :=
  List.filter_eq_nil_iff.mpr fun event member => by simp [none event member]

def State.statusOf (state : State) (jobId : JobId) : Option JobStatus :=
  (state.jobs.find? jobId).map JobState.status

/-- Every Job's events are a path from nothing to its stored status. A Job that
does not exist has no events. -/
def History (state : State) : Prop :=
  ∀ jobId, Path none (eventsOf jobId state.events) (state.statusOf jobId)

theorem History.empty : History .empty := fun _ => rfl

/-- A step that appends the events `new`, all of one Job, keeps every history. -/
theorem History.append {state next : State} (history : History state) (jobId : JobId)
    {new : List JobStatusEvent} (appended : next.events = state.events ++ new)
    (ofJob : ∀ event ∈ new, event.jobId = jobId)
    (path : Path (state.statusOf jobId) new (next.statusOf jobId))
    (others : ∀ other, other ≠ jobId → next.statusOf other = state.statusOf other) :
    History next := by
  intro other
  rw [appended, eventsOf_append]
  refine (history other).append ?_
  by_cases equal : other = jobId
  · subst equal
    rw [eventsOf_eq_self ofJob]
    exact path
  · rw [eventsOf_eq_nil fun event member =>
      (ofJob event member).trans_ne (Ne.symm equal), others other equal]
    exact rfl

theorem History.of_same {state next : State} (history : History state)
    (sameEvents : next.events = state.events)
    (sameStatus : ∀ jobId, next.statusOf jobId = state.statusOf jobId) : History next := by
  intro jobId
  rw [sameEvents, sameStatus]
  exact history jobId

theorem History.step {state next : State} {action : Action} (history : History state)
    (taken : Step state action next) : History next := by
  cases taken with
  | register | extend => exact history.of_same rfl fun _ => rfl
  | requestCancel =>
      refine history.of_same rfl fun other => ?_
      simp only [State.statusOf, Table.find?_modify]
      split <;> simp [Function.comp_def]
  | @create job now fresh =>
      refine history.append job rfl (by simp) ?_ ?_
      · simp [State.statusOf, fresh, Path, Edge]
      · intro other different
        rw [State.statusOf, State.statusOf, Table.find?_insert_of_ne _ _ _ fresh different]
  | @assign workerId jobId attemptId leaseId now expiry job idle found queued =>
      refine history.append jobId rfl (by simp) ?_ ?_
      · simp [State.statusOf, State.assign, found, queued, Path, Edge, allowedJobTransitions]
      · intro other different
        rw [State.statusOf, State.statusOf, State.assign, Table.find?_modify_of_ne _ _ _ different]
  | @advance leaseId lease job attempt target occurredAt binding notRequested allowed =>
      refine history.append lease.jobId rfl (by simp) ?_ ?_
      · simp [State.statusOf, State.advance, binding.jobFound, Path, Edge, allowed]
      · intro other different
        rw [State.statusOf, State.statusOf, State.advance,
          Table.find?_modify_of_ne _ _ _ different]
  | @finish leaseId lease job attempt target closer now occurredAt watermarks binding
      cancellation allowed =>
      refine history.append lease.jobId rfl (by simp) ?_ ?_
      · simp [State.statusOf, State.finish, binding.jobFound, Path, Edge, allowed]
      · intro other different
        rw [State.statusOf, State.statusOf, State.finish, Table.find?_modify_of_ne _ _ _ different]
  | @requeue jobId job attemptId now found failed current =>
      refine history.append jobId rfl (by simp) ?_ ?_
      · simp [State.statusOf, State.requeue, found, failed, Path, Edge, allowedJobTransitions]
      · intro other different
        rw [State.statusOf, State.statusOf, State.requeue,
          Table.find?_modify_of_ne _ _ _ different]
  | @discard jobId job target now found queued closing =>
      refine history.append jobId rfl (by simp) ?_ ?_
      · rcases closing with rfl | rfl <;>
          simp [State.statusOf, State.discard, found, queued, Path, Edge, allowedJobTransitions]
      · intro other different
        rw [State.statusOf, State.statusOf, State.discard,
          Table.find?_modify_of_ne _ _ _ different]

/-! ## What stays -/

structure Later (before after : State) : Prop where
  finishedAttempt : ∀ {attemptId attempt}, before.attempts.find? attemptId = some attempt →
    attempt.finishedAt ≠ none → after.attempts.find? attemptId = some attempt
  closedJob : ∀ {jobId job}, before.jobs.find? jobId = some job →
    job.status = .completed ∨ job.status = .cancelled →
    ∃ later, after.jobs.find? jobId = some later ∧ later.status = job.status

namespace Later

theorem refl (state : State) : Later state state where
  finishedAttempt found _ := found
  closedJob found _ := ⟨_, found, rfl⟩

theorem trans {first middle last : State} (left : Later first middle)
    (right : Later middle last) : Later first last where
  finishedAttempt found finished :=
    right.finishedAttempt (left.finishedAttempt found finished) finished
  closedJob found closed := by
    obtain ⟨job, jobFound, same⟩ := left.closedJob found closed
    obtain ⟨later, laterFound, sameLater⟩ := right.closedJob jobFound (same ▸ closed)
    exact ⟨later, laterFound, sameLater.trans same⟩

end Later

/-- The Jobs a step writes are neither completed nor cancelled, unless it only
marks them. -/
private theorem closedJob_modify {state : State} {jobId : JobId} {job : JobState}
    {change : JobState → JobState} (found : state.jobs.find? jobId = some job)
    (notClosed : ¬(job.status = .completed ∨ job.status = .cancelled)) :
    ∀ {other row}, state.jobs.find? other = some row →
      row.status = .completed ∨ row.status = .cancelled →
      ∃ later, (state.jobs.modify jobId change).find? other = some later ∧
        later.status = row.status := by
  intro other row rowFound closed
  have different : other ≠ jobId := by
    rintro rfl
    rw [found] at rowFound
    injection rowFound with same
    exact notClosed (same ▸ closed)
  exact ⟨row, by rw [Table.find?_modify_of_ne _ _ _ different, rowFound], rfl⟩

private theorem not_closed_of_leased {status : JobStatus} (leased : status.Leased) :
    ¬(status = .completed ∨ status = .cancelled) := by
  rintro (rfl | rfl) <;> exact leased.2.2 (by decide)

private theorem finishedAttempt_modify {state : State} {attemptId : AttemptId}
    {attempt : AttemptState} {change : AttemptState → AttemptState}
    (found : state.attempts.find? attemptId = some attempt)
    (unfinished : attempt.finishedAt = none) :
    ∀ {other row}, state.attempts.find? other = some row → row.finishedAt ≠ none →
      (state.attempts.modify attemptId change).find? other = some row := by
  intro other row rowFound finished
  have different : other ≠ attemptId := by
    rintro rfl
    rw [found] at rowFound
    injection rowFound with same
    exact finished (same ▸ unfinished)
  rw [Table.find?_modify_of_ne _ _ _ different, rowFound]

theorem Step.later {state next : State} {action : Action} (taken : Step state action next) :
    Later state next := by
  cases taken with
  | register | extend => exact ⟨fun found _ => found, fun found _ => ⟨_, found, rfl⟩⟩
  | create fresh =>
      exact ⟨fun found _ => found,
        fun found _ => ⟨_, Table.find?_insert_of_some _ _ _ fresh found, rfl⟩⟩
  | assign idle found queued freshAttempt freshLease =>
      refine ⟨fun attemptFound _ =>
        Table.find?_insert_of_some _ _ _ freshAttempt attemptFound, closedJob_modify found ?_⟩
      rw [queued]
      decide
  | advance binding =>
      exact ⟨finishedAttempt_modify binding.attemptFound binding.unfinished,
        closedJob_modify binding.jobFound (not_closed_of_leased binding.leased)⟩
  | finish binding =>
      exact ⟨finishedAttempt_modify binding.attemptFound binding.unfinished,
        closedJob_modify binding.jobFound (not_closed_of_leased binding.leased)⟩
  | requeue found failed current =>
      refine ⟨fun attemptFound _ => attemptFound, closedJob_modify found ?_⟩
      rw [failed]
      decide
  | discard found queued closing =>
      refine ⟨fun attemptFound _ => attemptFound, closedJob_modify found ?_⟩
      rw [queued]
      decide
  | requestCancel found notQueued running =>
      refine ⟨fun attemptFound _ => attemptFound, closedJob_modify found ?_⟩
      rintro (completed | cancelled)
      · exact running (by rw [completed]; decide)
      · exact running (by rw [cancelled]; decide)

theorem Steps.later {state last : State} {actions : List Action}
    (taken : Steps Step state actions last) : Later state last := by
  induction taken with
  | nil => exact Later.refl _
  | cons step _ induction => exact step.later.trans induction

/-! ## A requested cancellation -/

def Condemned (attemptId : AttemptId) (state : State) : Prop :=
  ∃ attempt, state.attempts.find? attemptId = some attempt ∧
    (attempt.finishedAt = none ∧
      (∃ job, state.jobs.find? attempt.jobId = some job ∧
        job.currentAttemptId = some attemptId ∧ job.cancelRequestedAt ≠ none) ∨
      attempt.finishedAt ≠ none ∧ attempt.status = .cancelled)

theorem Condemned.step {attemptId : AttemptId} {state next : State} {action : Action}
    (condemned : Condemned attemptId state) (sound : Sound state)
    (taken : Step state action next) : Condemned attemptId next := by
  obtain ⟨attempt, found, ⟨unfinished, job, jobFound, current, requested⟩ | cancelled⟩ :=
    condemned
  case inr =>
    exact ⟨attempt, taken.later.finishedAttempt found cancelled.1, .inr cancelled⟩
  have running : ¬attempt.status.Terminal := (sound.attemptOver found).mp unfinished
  have sameStatus : attempt.status = job.status := by
    obtain ⟨other, otherFound, -, same⟩ := sound.currentAttempt jobFound current
    rw [found] at otherFound
    injection otherFound with equal
    exact equal ▸ same
  -- A step on another Job does not touch this attempt either.
  cases taken with
  | register | extend =>
      exact ⟨attempt, found, .inl ⟨unfinished, job, jobFound, current, requested⟩⟩
  | create fresh =>
      exact ⟨attempt, found, .inl ⟨unfinished, job,
        Table.find?_insert_of_some _ _ _ fresh jobFound, current, requested⟩⟩
  | @assign workerId jobId newAttempt leaseId now expiry queuedJob idle queuedFound queued
      freshAttempt freshLease =>
      have different : attempt.jobId ≠ jobId := by
        rintro rfl
        rw [jobFound] at queuedFound
        injection queuedFound with equal
        subst equal
        exact requested (sound.queuedJob jobFound queued).2.2
      exact ⟨attempt, Table.find?_insert_of_some _ _ _ freshAttempt found, .inl ⟨unfinished, job,
        by rw [State.assign, Table.find?_modify_of_ne _ _ _ different, jobFound], current,
        requested⟩⟩
  | @advance leaseId lease held heldAttempt target occurredAt binding notRequested =>
      have different : attempt.jobId ≠ lease.jobId := by
        intro equal
        have heldFound := binding.jobFound
        rw [← equal, jobFound] at heldFound
        injection heldFound with same
        exact requested (same ▸ notRequested)
      refine ⟨attempt, ?_, .inl ⟨unfinished, job, ?_, current, requested⟩⟩
      · rw [State.advance, Table.find?_modify_of_ne _ _ _
          (binding.attempt_ne sound.toCoherent found different), found]
      · rw [State.advance, Table.find?_modify_of_ne _ _ _ different, jobFound]
  | @finish leaseId lease held heldAttempt target closer now occurredAt watermarks binding
      cancellation =>
      by_cases equal : attempt.jobId = lease.jobId
      · have heldFound := binding.jobFound
        rw [← equal, jobFound] at heldFound
        injection heldFound with same
        subst same
        have sameAttempt := binding.current
        rw [current] at sameAttempt
        injection sameAttempt with sameAttempt
        subst sameAttempt
        refine ⟨_, Table.find?_modify_of_some _ _ _ found, .inr ?_⟩
        simp [cancellation requested]
      · refine ⟨attempt, ?_, .inl ⟨unfinished, job, ?_, current, requested⟩⟩
        · rw [State.finish, Table.find?_modify_of_ne _ _ _
            (binding.attempt_ne sound.toCoherent found equal), found]
        · rw [State.finish, Table.find?_modify_of_ne _ _ _ equal, jobFound]
  | @requeue jobId failedJob failedAttempt now failedFound failed =>
      have different : attempt.jobId ≠ jobId := by
        rintro rfl
        rw [jobFound] at failedFound
        injection failedFound with same
        exact running (by rw [sameStatus, same, failed]; decide)
      exact ⟨attempt, found, .inl ⟨unfinished, job,
        by rw [State.requeue, Table.find?_modify_of_ne _ _ _ different, jobFound], current,
        requested⟩⟩
  | @discard jobId queuedJob target now queuedFound queued =>
      have different : attempt.jobId ≠ jobId := by
        rintro rfl
        rw [jobFound] at queuedFound
        injection queuedFound with same
        subst same
        exact requested (sound.queuedJob jobFound queued).2.2
      exact ⟨attempt, found, .inl ⟨unfinished, job,
        by rw [State.discard, Table.find?_modify_of_ne _ _ _ different, jobFound], current,
        requested⟩⟩
  | requestCancel =>
      refine ⟨attempt, found, .inl ⟨unfinished, _,
        Table.find?_modify_of_some _ _ _ jobFound, ?_⟩⟩
      split
      · exact ⟨current, by simp⟩
      · exact ⟨current, requested⟩

theorem Condemned.steps {attemptId : AttemptId} {state last : State} {actions : List Action}
    (condemned : Condemned attemptId state) (sound : Sound state)
    (taken : Steps Step state actions last) : Condemned attemptId last := by
  induction taken with
  | nil => exact condemned
  | cons step _ induction => exact induction (condemned.step sound step) (sound.step step)

/-! ## The queue -/

@[reducible] def Waits (status : JobStatus) : Prop :=
  status = .queued ∨ status = .retrying

/-- Neither creates a Job nor puts one back. -/
def Action.LeavesQueue : Action → Prop
  | .create .. | .requeue .. => False
  | _ => True

structure NothingQueued (before after : State) : Prop where
  events : ∃ new, after.events = before.events ++ new ∧ ∀ event ∈ new, ¬Waits event.status
  jobs : ∀ {jobId status}, after.statusOf jobId = some status → Waits status →
    before.statusOf jobId = some status

namespace NothingQueued

theorem refl (state : State) : NothingQueued state state where
  events := ⟨[], by simp⟩
  jobs found _ := found

theorem trans {first middle last : State} (left : NothingQueued first middle)
    (right : NothingQueued middle last) : NothingQueued first last where
  events := by
    rcases left.events with ⟨front, frontAppended, frontMoves⟩
    rcases right.events with ⟨back, backAppended, backMoves⟩
    refine ⟨front ++ back, by rw [backAppended, frontAppended, List.append_assoc], ?_⟩
    intro event member
    rcases List.mem_append.mp member with inFront | inBack
    · exact frontMoves event inFront
    · exact backMoves event inBack
  jobs found waits := left.jobs (right.jobs found waits) waits

end NothingQueued

/-- One Job moves, with one event, and not to the queue. -/
private theorem nothingQueued_modify {state next : State} (jobId : JobId)
    (change : JobState → JobState) {event : JobStatusEvent}
    (appended : next.events = state.events ++ [event])
    (changed : next.jobs = state.jobs.modify jobId change)
    (reached : ∀ job, (change job).status = event.status) (moves : ¬Waits event.status) :
    NothingQueued state next where
  events := ⟨[event], appended, by simpa using moves⟩
  jobs := by
    intro other status found waits
    by_cases equal : other = jobId
    · subst equal
      rw [State.statusOf, changed, Table.find?_modify_self, Option.map_map,
        Option.map_eq_some_iff] at found
      rcases found with ⟨job, -, same⟩
      rw [Function.comp_apply, reached] at same
      exact absurd waits (same ▸ moves)
    · rwa [State.statusOf, changed, Table.find?_modify_of_ne _ _ _ equal] at found

theorem Step.nothingQueued {state next : State} {action : Action}
    (taken : Step state action next) (leaves : action.LeavesQueue) :
    NothingQueued state next := by
  cases taken with
  | register | extend => exact ⟨⟨[], by simp⟩, fun found _ => found⟩
  | create | requeue => exact leaves.elim
  | requestCancel =>
      refine ⟨⟨[], by simp⟩, ?_⟩
      intro other status found _
      rw [State.statusOf, Table.find?_modify] at found
      split at found
      · rwa [Option.map_map] at found
      · exact found
  | assign => exact nothingQueued_modify _ _ rfl (by rw [State.assign]) (by simp) (by simp)
  | @advance leaseId lease job attempt target occurredAt binding notRequested allowed running =>
      have leased := (leased_or_terminal_of_allowed binding.leased allowed).resolve_right running
      exact nothingQueued_modify _ _ rfl (by rw [State.advance]) (by simp)
        (not_or.mpr ⟨leased.1, leased.2.1⟩)
  | @finish leaseId lease job attempt target closer now occurredAt watermarks binding
      cancellation allowed terminal =>
      refine nothingQueued_modify _ _ rfl (by rw [State.finish]) (by simp) ?_
      rintro (rfl | rfl)
      · exact absurd terminal (by decide)
      · exact absurd terminal (by decide)
  | discard found queued closing =>
      refine nothingQueued_modify _ _ rfl (by rw [State.discard]) (by simp) ?_
      rcases closing with rfl | rfl <;> simp [Waits]

theorem Steps.nothingQueued {state last : State} {actions : List Action}
    (taken : Steps Step state actions last) (leave : ∀ action ∈ actions, action.LeavesQueue) :
    NothingQueued state last := by
  induction taken with
  | nil => exact .refl _
  | cons step _ induction =>
      exact (step.nothingQueued (leave _ List.mem_cons_self)).trans
        (induction fun action member => leave action (List.mem_cons_of_mem _ member))

/-! ## Whose attempt it is -/

def AttemptKept (before after : State) : Prop :=
  ∀ attemptId attempt, before.attempts.find? attemptId = some attempt →
    ∃ later, after.attempts.find? attemptId = some later ∧ later.jobId = attempt.jobId ∧
      later.workerId = attempt.workerId ∧ later.attemptNumber = attempt.attemptNumber

theorem AttemptKept.refl (state : State) : AttemptKept state state :=
  fun _ attempt found => ⟨attempt, found, rfl, rfl, rfl⟩

theorem AttemptKept.trans {first middle last : State} (left : AttemptKept first middle)
    (right : AttemptKept middle last) : AttemptKept first last := by
  intro attemptId attempt found
  rcases left attemptId attempt found with ⟨between, betweenFound, job, worker, number⟩
  rcases right attemptId between betweenFound with ⟨later, laterFound, laterJob, laterWorker,
    laterNumber⟩
  exact ⟨later, laterFound, laterJob.trans job, laterWorker.trans worker,
    laterNumber.trans number⟩

theorem Step.attemptKept {state next : State} {action : Action} (taken : Step state action next) :
    AttemptKept state next := by
  have changed : ∀ {attempts : Table AttemptId AttemptState} {key : AttemptId}
      {change : AttemptState → AttemptState}, attempts = state.attempts.modify key change →
      (∀ row, (change row).jobId = row.jobId ∧ (change row).workerId = row.workerId ∧
        (change row).attemptNumber = row.attemptNumber) →
      ∀ attemptId attempt, state.attempts.find? attemptId = some attempt →
        ∃ later, attempts.find? attemptId = some later ∧ later.jobId = attempt.jobId ∧
          later.workerId = attempt.workerId ∧ later.attemptNumber = attempt.attemptNumber := by
    rintro attempts key change rfl same attemptId attempt found
    refine ⟨_, Table.find?_modify_of_some _ _ _ found, ?_⟩
    split
    · exact same attempt
    · exact ⟨rfl, rfl, rfl⟩
  cases taken with
  | assign idle jobFound queued freshAttempt freshLease =>
      intro attemptId attempt found
      exact ⟨attempt, Table.find?_insert_of_some _ _ _ freshAttempt found, rfl, rfl, rfl⟩
  | advance => exact changed (by rw [State.advance]) (by simp)
  | finish => exact changed (by rw [State.finish]) (by simp)
  | register | create | extend | requeue | discard | requestCancel => exact .refl state

theorem Steps.attemptKept {state last : State} {actions : List Action}
    (taken : Steps Step state actions last) : AttemptKept state last := by
  induction taken with
  | nil state => exact .refl state
  | cons step _ induction => exact (Step.attemptKept step).trans induction

end RvcOrchestrator.Manager.Assignment

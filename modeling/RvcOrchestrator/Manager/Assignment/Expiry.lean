import RvcOrchestrator.Manager.Assignment.History

/-! # Lease expiries over time

What the clock adds to the protocol. A request reads the clock before it
commits, so a step is judged by the readings of its request, and the expiry of a
lease only ever moves forward.
-/

namespace RvcOrchestrator.Manager.Assignment

open RvcOrchestrator.Foundation RvcOrchestrator.Contracts

/-- The step extends and recovers leases by the given clock readings, and is not
an administrator's revocation of a running attempt. -/
def Action.Timely (readings : List Time) : Action → Prop
  | .extend _ now _ => now ∈ readings
  | .finish _ _ (.reaper recoveredAt) _ _ _ => recoveredAt ∈ readings
  | .finish _ _ .administrator _ _ _ => False
  | _ => True

/-! ## Expiries move forward -/

/-- Every lease is still there for the same parties, and its expiry has moved
only by a request that read the clock before it. -/
def Growth (readings : List Time) (before after : State) : Prop :=
  ∀ leaseId lease, before.leases.find? leaseId = some lease →
    ∃ later, after.leases.find? leaseId = some later ∧ later.jobId = lease.jobId ∧
      later.attemptId = lease.attemptId ∧ later.workerId = lease.workerId ∧
      lease.expiresAt ≤ later.expiresAt ∧
      (lease.expiresAt < later.expiresAt → ∃ now ∈ readings, now < lease.expiresAt)

namespace Growth

variable {readings : List Time} {first middle last : State}

theorem of_same (same : last.leases = first.leases) : Growth readings first last := by
  intro leaseId lease found
  exact ⟨lease, same ▸ found, rfl, rfl, rfl, le_rfl, fun less => absurd less (lt_irrefl _)⟩

theorem trans (left : Growth readings first middle) (right : Growth readings middle last) :
    Growth readings first last := by
  intro leaseId lease found
  rcases left leaseId lease found with ⟨between, betweenFound, job, attempt, worker, forward, reading⟩
  rcases right leaseId between betweenFound with
    ⟨later, laterFound, laterJob, laterAttempt, laterWorker, laterForward, laterReading⟩
  refine ⟨later, laterFound, laterJob.trans job, laterAttempt.trans attempt,
    laterWorker.trans worker, forward.trans laterForward, ?_⟩
  intro moved
  rcases lt_or_eq_of_le forward with movedFirst | same
  · exact reading movedFirst
  · rw [same] at moved ⊢
    exact laterReading moved

end Growth

/-- One lease changes, and not who it is for. -/
private theorem growth_modify {readings : List Time} {state next : State} (leaseId : LeaseId)
    (change : LeaseState → LeaseState) (changed : next.leases = state.leases.modify leaseId change)
    (parties : ∀ lease, (change lease).jobId = lease.jobId ∧
      (change lease).attemptId = lease.attemptId ∧ (change lease).workerId = lease.workerId)
    (forward : ∀ {lease}, state.leases.find? leaseId = some lease →
      lease.expiresAt ≤ (change lease).expiresAt ∧
      (lease.expiresAt < (change lease).expiresAt → ∃ now ∈ readings, now < lease.expiresAt)) :
    Growth readings state next := by
  intro other lease found
  rw [changed]
  by_cases equal : other = leaseId
  · subst equal
    refine ⟨change lease, by rw [Table.find?_modify_self, found, Option.map_some], ?_⟩
    exact ⟨(parties lease).1, (parties lease).2.1, (parties lease).2.2, (forward found).1,
      (forward found).2⟩
  · refine ⟨lease, by rw [Table.find?_modify_of_ne _ _ _ equal, found], rfl, rfl, rfl, le_rfl, ?_⟩
    intro less
    exact absurd less (lt_irrefl _)

theorem Step.growth {readings : List Time} {state next : State} {action : Action}
    (taken : Step state action next) (timely : action.Timely readings) :
    Growth readings state next := by
  cases taken with
  | register | create | advance | requeue | discard | requestCancel => exact Growth.of_same rfl
  | @extend leaseId lease now expiry found leaseOpen unexpired later =>
      apply growth_modify leaseId (fun row => { row with expiresAt := expiry }) rfl
      · intro row
        exact ⟨rfl, rfl, rfl⟩
      · intro row rowFound
        rw [found] at rowFound
        injection rowFound with same
        subst same
        exact ⟨later, fun _ => ⟨now, timely, unexpired⟩⟩
  | assign idle found queued freshAttempt freshLease =>
      intro leaseId lease leaseFound
      exact ⟨lease, Table.find?_insert_of_some _ _ _ freshLease leaseFound, rfl, rfl, rfl, le_rfl,
        fun less => absurd less (lt_irrefl _)⟩
  | @finish leaseId lease job attempt target closer now occurredAt watermarks binding =>
      apply growth_modify leaseId (fun row => { row with
        active := false
        releasedAt := some now }) rfl
      · intro row
        exact ⟨rfl, rfl, rfl⟩
      · intro row _
        exact ⟨le_rfl, fun less => absurd less (lt_irrefl _)⟩

theorem Steps.growth {readings : List Time} {state last : State} {actions : List Action}
    (taken : Steps Step state actions last)
    (timely : ∀ action ∈ actions, action.Timely readings) : Growth readings state last := by
  induction taken with
  | nil => exact Growth.of_same rfl
  | cons step _ induction =>
      exact (step.growth (timely _ List.mem_cons_self)).trans
        (induction fun action member => timely action (List.mem_cons_of_mem _ member))

/-! ## How leases are closed -/

/-- The Worker itself has reported the end of the attempt. -/
def EndedByWorker (events : List JobStatusEvent) (attemptId : AttemptId) : Prop :=
  ∃ event ∈ events, event.attemptId = some attemptId ∧ event.source = .worker ∧
    event.status.Terminal

/-- Every closed lease was ended by its Worker or has expired. -/
def Accounted (clock : Time) (state : State) : Prop :=
  ∀ leaseId lease, state.leases.find? leaseId = some lease → ¬lease.Open →
    EndedByWorker state.events lease.attemptId ∨ lease.expiresAt ≤ clock

theorem EndedByWorker.append {events : List JobStatusEvent} {attemptId : AttemptId}
    (ended : EndedByWorker events attemptId) (new : List JobStatusEvent) :
    EndedByWorker (events ++ new) attemptId := by
  rcases ended with ⟨event, member, rest⟩
  exact ⟨event, List.mem_append_left _ member, rest⟩

theorem Accounted.later {clock later : Time} {state : State} (accounted : Accounted clock state)
    (forward : clock ≤ later) : Accounted later state := by
  intro leaseId lease found closed
  exact (accounted leaseId lease found closed).imp id fun expired => expired.trans forward

/-- The closed leases were closed before, and no event is forgotten. -/
private theorem accounted_of_closed {clock : Time} {state next : State}
    (accounted : Accounted clock state) (new : List JobStatusEvent)
    (appended : next.events = state.events ++ new)
    (closedBefore : ∀ {leaseId lease}, next.leases.find? leaseId = some lease → ¬lease.Open →
      state.leases.find? leaseId = some lease) : Accounted clock next := by
  intro leaseId lease found closed
  rw [appended]
  exact (accounted leaseId lease (closedBefore found closed) closed).imp (fun ended => ended.append new) id

theorem Accounted.step {clock : Time} {readings : List Time} {state next : State}
    {action : Action} (accounted : Accounted clock state)
    (past : ∀ reading ∈ readings, reading ≤ clock) (taken : Step state action next)
    (timely : action.Timely readings) : Accounted clock next := by
  cases taken with
  | register | requestCancel =>
      exact accounted_of_closed accounted [] (List.append_nil _).symm fun found _ => found
  | create | advance | requeue | discard =>
      exact accounted_of_closed accounted _ rfl fun found _ => found
  | @extend leaseId lease now expiry found leaseOpen unexpired later =>
      refine accounted_of_closed accounted [] (List.append_nil _).symm ?_
      intro other row rowFound closed
      rcases (Table.find?_modify_eq_some_iff ..).mp rowFound with ⟨old, oldFound, rfl⟩
      split at closed
      · next equal =>
          rw [equal, found] at oldFound
          injection oldFound with same
          subst same
          exact absurd leaseOpen closed
      · next different => rwa [if_neg different]
  | assign idle found queued freshAttempt freshLease =>
      refine accounted_of_closed accounted _ rfl ?_
      intro other row rowFound closed
      rcases (Table.find?_insert_eq_some_iff _ _ _ freshLease).mp rowFound with
        ⟨-, rfl⟩ | rowFound
      · exact absurd ⟨rfl, rfl⟩ closed
      · exact rowFound
  | @finish leaseId lease job attempt target closer now occurredAt watermarks binding
      cancellation allowed terminal revoked expired =>
      intro other row rowFound closed
      rcases (Table.find?_modify_eq_some_iff ..).mp rowFound with ⟨old, oldFound, rfl⟩
      by_cases equal : other = leaseId
      · subst equal
        rw [binding.leaseFound] at oldFound
        injection oldFound with same
        subst same
        cases closer with
        | worker =>
            refine .inl ⟨_, List.mem_append_right _ List.mem_cons_self, ?_, rfl, terminal⟩
            simp
        | reaper recoveredAt =>
            refine .inr ?_
            simp only [if_true]
            exact (expired recoveredAt rfl).trans (past recoveredAt timely)
        | administrator => exact timely.elim
      · simp only [if_neg equal] at closed ⊢
        exact (accounted other old oldFound closed).imp (fun ended => ended.append _) id

theorem Accounted.steps {clock : Time} {readings : List Time} {state last : State}
    {actions : List Action} (accounted : Accounted clock state)
    (past : ∀ reading ∈ readings, reading ≤ clock) (taken : Steps Step state actions last)
    (timely : ∀ action ∈ actions, action.Timely readings) : Accounted clock last := by
  induction taken with
  | nil => exact accounted
  | cons step _ induction =>
      exact induction (accounted.step past step (timely _ List.mem_cons_self))
        fun action member => timely action (List.mem_cons_of_mem _ member)

end RvcOrchestrator.Manager.Assignment

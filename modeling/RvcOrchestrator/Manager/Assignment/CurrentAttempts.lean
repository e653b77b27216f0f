import RvcOrchestrator.Manager.Assignment.History

/-! # Jobs and their current attempts

A Job that has no current attempt is in the queue or was cancelled there, and belongs to
no Worker. One that has a current attempt belongs to the Worker of it, which is its last.
-/

namespace RvcOrchestrator.Manager.Assignment

open RvcOrchestrator.Foundation RvcOrchestrator.Contracts

structure Matched (state : State) : Prop where
  current : ∀ {jobId job attemptId}, state.jobs.find? jobId = some job →
    job.currentAttemptId = some attemptId →
    ∃ attempt, state.attempts.find? attemptId = some attempt ∧
      job.workerId = some attempt.workerId ∧ attempt.attemptNumber = job.attemptCount
  absent : ∀ {jobId job}, state.jobs.find? jobId = some job → job.currentAttemptId = none →
    (job.status = .queued ∨ job.status = .cancelled) ∧ job.workerId = none

theorem Matched.empty : Matched .empty where
  current found := nomatch found
  absent found := nomatch found

/-- No Job is failed in the queue. -/
def Action.QueueIntact : Action → Prop
  | .discard _ target _ => target ≠ .failed
  | _ => True

structure JobKept (before after : JobState) : Prop where
  current : after.currentAttemptId = before.currentAttemptId
  worker : after.workerId = before.workerId
  count : after.attemptCount = before.attemptCount
  waiting : before.currentAttemptId = none → after.status = before.status

def Unassigned (job : JobState) : Prop :=
  job.currentAttemptId = none ∧ (job.status = .queued ∨ job.status = .cancelled) ∧
    job.workerId = none

def JobBecomes (before after : JobState) : Prop :=
  JobKept before after ∨ Unassigned after

theorem JobBecomes.refl (job : JobState) : JobBecomes job job :=
  .inl ⟨rfl, rfl, rfl, fun _ => rfl⟩

def AttemptBecomes (before after : AttemptState) : Prop :=
  after.workerId = before.workerId ∧ after.attemptNumber = before.attemptNumber

theorem AttemptBecomes.refl (attempt : AttemptState) : AttemptBecomes attempt attempt :=
  ⟨rfl, rfl⟩

variable {state next : State}

theorem Matched.amend (matched : Matched state)
    (jobs : ∀ jobId after, next.jobs.find? jobId = some after →
      (∃ job, state.jobs.find? jobId = some job ∧ JobBecomes job after) ∨ Unassigned after)
    (attempts : ∀ attemptId attempt, state.attempts.find? attemptId = some attempt →
      ∃ after, next.attempts.find? attemptId = some after ∧ AttemptBecomes attempt after) :
    Matched next where
  current := by
    intro jobId after attemptId found current
    rcases jobs jobId after found with ⟨job, jobFound, kept | unassigned⟩ | unassigned
    · rcases matched.current jobFound (kept.current ▸ current) with
        ⟨attempt, attemptFound, worker, number⟩
      rcases attempts attemptId attempt attemptFound with ⟨later, laterFound, sameWorker, sameNumber⟩
      exact ⟨later, laterFound, by rw [kept.worker, worker, sameWorker],
        by rw [sameNumber, number, kept.count]⟩
    · rw [unassigned.1] at current
      cases current
    · rw [unassigned.1] at current
      cases current
  absent := by
    intro jobId after found absent
    rcases jobs jobId after found with ⟨job, jobFound, kept | unassigned⟩ | unassigned
    · have jobAbsent := kept.current.symm.trans absent
      rw [kept.waiting jobAbsent, kept.worker]
      exact matched.absent jobFound jobAbsent
    · exact unassigned.2
    · exact unassigned.2

/-- One Job row and one attempt row change. -/
theorem Matched.modify (matched : Matched state) (jobId : JobId)
    (jobChange : JobState → JobState) (attemptId : AttemptId)
    (attemptChange : AttemptState → AttemptState)
    (jobs : next.jobs = state.jobs.modify jobId jobChange)
    (attempts : next.attempts = state.attempts.modify attemptId attemptChange)
    (jobBecomes : ∀ job, state.jobs.find? jobId = some job → JobBecomes job (jobChange job))
    (attemptBecomes : ∀ attempt, AttemptBecomes attempt (attemptChange attempt)) :
    Matched next := by
  apply matched.amend
  · intro other after found
    rw [jobs] at found
    exact .inl (Table.find?_of_find?_modify JobBecomes.refl jobBecomes found)
  · intro other attempt found
    rw [attempts]
    exact Table.find?_modify_of_find? AttemptBecomes.refl (fun row _ => attemptBecomes row) found

theorem Matched.modifyJob (matched : Matched state) (jobId : JobId)
    (jobChange : JobState → JobState) (jobs : next.jobs = state.jobs.modify jobId jobChange)
    (attempts : next.attempts = state.attempts)
    (jobBecomes : ∀ job, state.jobs.find? jobId = some job → JobBecomes job (jobChange job)) :
    Matched next := by
  apply matched.amend
  · intro other after found
    rw [jobs] at found
    exact .inl (Table.find?_of_find?_modify JobBecomes.refl jobBecomes found)
  · intro other attempt found
    exact ⟨attempt, attempts ▸ found, .refl attempt⟩

/-- Nothing but the queue changes. -/
theorem Matched.of_same (matched : Matched state) (jobs : next.jobs = state.jobs)
    (attempts : next.attempts = state.attempts) : Matched next where
  current found := by
    rw [jobs] at found
    rw [attempts]
    exact matched.current found
  absent found := by
    rw [jobs] at found
    exact matched.absent found

theorem Matched.assign (matched : Matched state) {worker : WorkerId} {jobId : JobId}
    {attemptId : AttemptId} {leaseId : LeaseId} {now expiry : Time} {number : Nat}
    (freshAttempt : state.attempts.find? attemptId = none)
    (freshLease : state.leases.find? leaseId = none) :
    Matched (state.assign worker jobId attemptId leaseId now expiry number freshAttempt
      freshLease) := by
  have stems : ∀ {other after},
      (state.assign worker jobId attemptId leaseId now expiry number freshAttempt
        freshLease).jobs.find? other = some after →
      (after.currentAttemptId = some attemptId ∧ after.workerId = some worker ∧
        after.attemptCount = number) ∨ state.jobs.find? other = some after := by
    intro other after found
    rcases (Table.find?_modify_eq_some_iff state.jobs jobId _).mp found with ⟨job, jobFound, same⟩
    by_cases equal : other = jobId
    · rw [same, if_pos equal]
      exact .inl ⟨rfl, rfl, rfl⟩
    · rw [same, if_neg equal]
      exact .inr jobFound
  constructor
  · intro other after currentId found current
    rcases stems found with ⟨assigned, worker, count⟩ | earlier
    · rw [assigned] at current
      injection current with current
      rw [← current, count, worker]
      exact ⟨_, Table.find?_insert_self _ _ _ freshAttempt, rfl, rfl⟩
    · rcases matched.current earlier current with ⟨attempt, attemptFound, rest⟩
      exact ⟨attempt, Table.find?_insert_of_some _ _ _ freshAttempt attemptFound, rest⟩
  · intro other after found absent
    rcases stems found with ⟨assigned, -, -⟩ | earlier
    · rw [assigned] at absent
      cases absent
    · exact matched.absent earlier absent

theorem Matched.step {action : Action} (matched : Matched state) (sound : Sound state)
    (taken : Step state action next) (intact : action.QueueIntact) : Matched next := by
  cases taken with
  | register => exact matched.of_same rfl rfl
  | @create jobId now fresh =>
      apply matched.amend
      · intro other after found
        rcases (Table.find?_insert_eq_some_iff _ _ _ fresh).mp found with ⟨-, created⟩ | earlier
        · rw [created]
          exact .inr ⟨rfl, .inl rfl, rfl⟩
        · exact .inl ⟨after, earlier, .refl after⟩
      · intro attemptId attempt found
        exact ⟨attempt, found, .refl attempt⟩
  | extend => exact matched.of_same rfl rfl
  | assign idle found queued freshAttempt freshLease => exact matched.assign freshAttempt freshLease
  | @advance leaseId lease job attempt target occurredAt binding =>
      apply matched.modify lease.jobId (fun row => { row with status := target }) lease.attemptId
        (fun row => { row with status := target }) rfl rfl
      · intro row found
        rw [binding.jobFound] at found
        injection found with same
        subst same
        refine .inl ⟨rfl, rfl, rfl, ?_⟩
        intro absent
        rw [binding.current] at absent
        cases absent
      · exact fun row => ⟨rfl, rfl⟩
  | @finish leaseId lease job attempt target closer now occurredAt watermarks binding =>
      apply matched.modify lease.jobId
        (fun row => { row with
          status := target
          cancelRequestedAt := closer.requestedAt now row.cancelRequestedAt })
        lease.attemptId
        (fun row => { row with
          status := target
          finishedAt := some now
          watermarks := watermarks }) rfl rfl
      · intro row found
        rw [binding.jobFound] at found
        injection found with same
        subst same
        refine .inl ⟨rfl, rfl, rfl, ?_⟩
        intro absent
        rw [binding.current] at absent
        cases absent
      · exact fun row => ⟨rfl, rfl⟩
  | @requeue jobId job attemptId now =>
      exact matched.modifyJob jobId
        (fun row => { row with
          status := .queued
          workerId := none
          currentAttemptId := none
          cancelRequestedAt := none }) rfl rfl fun row _ => .inr ⟨rfl, .inl rfl, rfl⟩
  | @discard jobId job target now found queued closing =>
      have changed : (state.discard jobId target now).jobs =
          state.jobs.modify jobId fun row => { row with status := target } := rfl
      apply matched.modifyJob jobId _ changed rfl
      intro row rowFound
      rw [found] at rowFound
      injection rowFound with same
      subst same
      have alone := sound.queuedJob found queued
      rcases closing with failed | cancelled
      · exact absurd failed intact
      · exact .inr ⟨alone.2.1, .inr cancelled, alone.1⟩
  | @requestCancel jobId job now =>
      exact matched.modifyJob jobId (fun row => { row with cancelRequestedAt := some now }) rfl rfl
        fun row _ => .inl ⟨rfl, rfl, rfl, fun _ => rfl⟩

theorem Matched.steps {actions : List Action} (matched : Matched state) (sound : Sound state)
    (taken : Steps Step state actions next) (intact : ∀ action ∈ actions, action.QueueIntact) :
    Matched next := by
  induction taken with
  | nil => exact matched
  | cons step rest induction =>
      apply induction (matched.step sound step (intact _ List.mem_cons_self))
      · exact sound.steps (.single step)
      · exact fun action member => intact action (List.mem_cons_of_mem _ member)

end RvcOrchestrator.Manager.Assignment

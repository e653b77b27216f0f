import RvcOrchestrator.Manager.Operations

/-! # Terminal statuses in the outbox

An attempt that ends has to be announced to MLflow, whose run of the Job would
otherwise stay running. The announcement is an outbox row of the transaction
that ends the attempt.
-/

namespace RvcOrchestrator.Manager

open RvcOrchestrator.Foundation RvcOrchestrator.Contracts
open Assignment (Action Sound)

/-! ## Runs of MLflow -/

inductive RunStatus where
  | running
  | finished
  | failed
  | killed
deriving DecidableEq, Repr

def mlflowStatus : JobStatus → Option RunStatus
  | .completed => some .finished
  | .failed => some .failed
  | .cancelled => some .killed
  | _ => none

theorem mlflowStatus_of_terminal {status : JobStatus} (terminal : status.Terminal) :
    ∃ runStatus, mlflowStatus status = some runStatus := by
  revert terminal
  cases status <;> simp [mlflowStatus, JobStatus.Terminal, terminalJobStatuses]

theorem mlflowStatus_ne_running {status : JobStatus} {runStatus : RunStatus}
    (mapped : mlflowStatus status = some runStatus) : runStatus ≠ .running := by
  rintro rfl
  cases status <;> cases mapped

/-- The run of a Job once an event has been projected. Every event of the Job
creates the run if it is missing. -/
def projectRun (jobId : JobId) (run : Option RunStatus) : OutboxEvent → Option RunStatus
  | .jobCreated job => if job = jobId then some (run.getD .running) else run
  | .metricBatch job _ _ => if job = jobId then some (run.getD .running) else run
  | .terminal job _ status _ =>
      if job = jobId then some ((mlflowStatus status).getD (run.getD .running)) else run

def projectedRun (jobId : JobId) (events : List OutboxEvent) : Option RunStatus :=
  events.foldl (projectRun jobId) none

/-- The run exists and has come to its end. -/
def Stopped (run : Option RunStatus) : Prop :=
  ∃ status, run = some status ∧ status ≠ .running

theorem Stopped.projectRun {jobId : JobId} {run : Option RunStatus} (stopped : Stopped run)
    (event : OutboxEvent) : Stopped (projectRun jobId run event) := by
  rcases stopped with ⟨status, rfl, notRunning⟩
  cases event with
  | jobCreated job =>
      simp only [Manager.projectRun]
      split <;> exact ⟨status, rfl, notRunning⟩
  | metricBatch job attempt key =>
      simp only [Manager.projectRun]
      split <;> exact ⟨status, rfl, notRunning⟩
  | terminal job attempt target endedAt =>
      simp only [Manager.projectRun]
      split
      · rcases mapped : mlflowStatus target with _ | runStatus
        · exact ⟨status, rfl, notRunning⟩
        · exact ⟨runStatus, rfl, mlflowStatus_ne_running mapped⟩
      · exact ⟨status, rfl, notRunning⟩

/-- A run that has heard of a terminal status has stopped, whatever else is
projected before or after. -/
theorem stopped_projectedRun {jobId : JobId} {attemptId : AttemptId} {status : JobStatus}
    {endedAt : Time} {events : List OutboxEvent} (terminal : status.Terminal)
    (member : .terminal jobId attemptId status endedAt ∈ events) :
    Stopped (projectedRun jobId events) := by
  rcases List.append_of_mem member with ⟨front, back, rfl⟩
  rcases mlflowStatus_of_terminal terminal with ⟨runStatus, mapped⟩
  have stopped : Stopped (projectRun jobId (projectedRun jobId front)
      (.terminal jobId attemptId status endedAt)) := by
    refine ⟨runStatus, ?_, mlflowStatus_ne_running mapped⟩
    rw [projectRun, if_pos rfl, mapped, Option.getD_some]
  rw [projectedRun, List.foldl_append, List.foldl_cons]
  exact run_preserves Stopped (fun _ event holds => holds.projectRun event) stopped back

/-! ## What a transaction announces -/

def OutboxEvent.IsTerminal : OutboxEvent → Prop
  | .terminal .. => True
  | _ => False

def Announced (ledger : Ledger) (attemptId : AttemptId) (attempt : AttemptRow) : Prop :=
  ∃ endedAt, attempt.finishedAt = some endedAt ∧
    .terminal attempt.jobId attemptId attempt.status endedAt ∈ ledger.outbox

def EndsAnnounced (before after : Ledger) : Prop :=
  ∀ attemptId attempt, after.attempts.find? attemptId = some attempt →
    attempt.finishedAt ≠ none →
    (∀ earlier, before.attempts.find? attemptId = some earlier → earlier.finishedAt = none) →
    Announced after attemptId attempt

/-- The transaction ends no attempt and announces no end. -/
structure Quiet (before after : Ledger) : Prop where
  attempts : ∀ {attemptId attempt}, after.attempts.find? attemptId = some attempt →
    attempt.finishedAt ≠ none → before.attempts.find? attemptId = some attempt
  outbox : ∃ new, after.outbox = before.outbox ++ new ∧ ∀ event ∈ new, ¬event.IsTerminal

/-- What a request's own transaction does with attempts and announcements. -/
inductive Closing (settings : Settings) (before after : Ledger) : Prop
  | nothing (quiet : Quiet before after)
  | ended {attemptId : AttemptId} {closed : AttemptRow} {now : Time}
      (found : after.attempts.find? attemptId = some closed)
      (finished : closed.finishedAt = some now)
      (others : ∀ {other}, other ≠ attemptId →
        after.attempts.find? other = before.attempts.find? other)
      (outbox : after.outbox =
        enqueue settings (.terminal closed.jobId attemptId closed.status now) before.outbox)

section

variable {platform : Platform} {settings : Settings} {ledger before after : Ledger}

theorem Quiet.same (attempts : after.attempts = before.attempts)
    (outbox : after.outbox = before.outbox) : Quiet before after := by
  refine ⟨?_, [], ?_, ?_⟩
  · intro attemptId attempt found _
    exact attempts ▸ found
  · rw [outbox, List.append_nil]
  · simp

theorem Quiet.terminal_mem (quiet : Quiet before after) {event : OutboxEvent}
    (terminal : event.IsTerminal) (member : event ∈ after.outbox) : event ∈ before.outbox := by
  rcases quiet.outbox with ⟨new, appended, silent⟩
  rw [appended] at member
  exact (List.mem_append.mp member).resolve_right fun added => silent event added terminal

theorem Closing.endsAnnounced (enabled : settings.mlflowEnabled = true)
    (closing : Closing settings before after) : EndsAnnounced before after := by
  intro attemptId attempt found finished unfinished
  cases closing with
  | nothing quiet => exact absurd (unfinished attempt (quiet.attempts found finished)) finished
  | @ended closedId closed now closedFound closedFinished others outbox =>
      by_cases same : attemptId = closedId
      · subst same
        rw [closedFound] at found
        injection found with equal
        subst equal
        refine ⟨now, closedFinished, ?_⟩
        rw [outbox, enqueue, if_pos enabled]
        exact List.mem_append_right _ List.mem_cons_self
      · rw [others same] at found
        exact absurd (unfinished attempt found) finished

/-- A transaction announces only attempts that have ended. -/
theorem Closing.terminal_mem (closing : Closing settings before after) {jobId : JobId}
    {attemptId : AttemptId} {status : JobStatus} {endedAt : Time}
    (member : .terminal jobId attemptId status endedAt ∈ after.outbox) :
    .terminal jobId attemptId status endedAt ∈ before.outbox ∨
      ∃ attempt, after.attempts.find? attemptId = some attempt ∧ attempt.finishedAt ≠ none := by
  cases closing with
  | nothing quiet => exact .inl (quiet.terminal_mem trivial member)
  | @ended closedId closed now closedFound closedFinished others outbox =>
      rw [outbox, enqueue] at member
      split at member
      · rcases List.mem_append.mp member with earlier | added
        · exact .inl earlier
        · rw [List.mem_singleton] at added
          injection added with _ sameAttempt
          refine .inr ⟨closed, sameAttempt ▸ closedFound, ?_⟩
          simp [closedFinished]
      · exact .inl member

/-- What is announced stays announced. -/
theorem Closing.outbox_subset (closing : Closing settings before after) :
    before.outbox ⊆ after.outbox := by
  intro event member
  cases closing with
  | nothing quiet =>
      rcases quiet.outbox with ⟨new, appended, -⟩
      rw [appended]
      exact List.mem_append_left _ member
  | ended found finished others outbox =>
      rw [outbox, enqueue]
      split
      · exact List.mem_append_left _ member
      · exact member

/-! ## The requests -/

theorem committed_quiet {Response : Type} {outcome : Outcome Response}
    (accepted : ∀ {response next}, outcome = .ok (response, next) → Quiet ledger next) :
    Quiet ledger (committed ledger outcome) := by
  match outcome with
  | .ok (_, next) => exact accepted rfl
  | .error _ => exact .same rfl rfl

theorem committed_closing {Response : Type} {outcome : Outcome Response}
    (accepted : ∀ {response next}, outcome = .ok (response, next) →
      Closing settings ledger next) :
    Closing settings ledger (committed ledger outcome) := by
  match outcome with
  | .ok (_, next) => exact accepted rfl
  | .error _ => exact .nothing (.same rfl rfl)

theorem registerWorker_quiet {next : Ledger} {bootstrap : BootstrapToken}
    {workerId reply : WorkerId} {payload : WorkerRegisterRequest} {now : Time}
    (accepted : registerWorker ledger bootstrap workerId payload now = .ok (reply, next)) :
    Quiet ledger next := by
  unfold registerWorker at accepted
  split at accepted
  · cases accepted
  · cases accepted
  · split at accepted
    · cases accepted
    · split at accepted
      · cases accepted
        exact .same rfl rfl
      · cases accepted

theorem reEnrollWorker_quiet {next : Ledger} {bootstrap : BootstrapToken} {reply : WorkerId}
    {payload : WorkerReEnrollRequest}
    (accepted : reEnrollWorker ledger bootstrap payload = .ok (reply, next)) :
    Quiet ledger next := by
  unfold reEnrollWorker at accepted
  split at accepted
  · cases accepted
  · cases accepted
  · split at accepted
    · cases accepted
    · split at accepted
      · cases accepted
      · split at accepted
        · cases accepted
        · cases accepted
          exact .same rfl rfl

theorem cancelAssignment_closing {workerId : WorkerId} {leaseId : LeaseId} {lease : LeaseRow}
    {attempt : AttemptRow} {previous : JobStatus} {now : Time}
    (found : ledger.attempts.find? lease.attemptId = some attempt)
    (ofJob : attempt.jobId = lease.jobId) :
    Closing settings ledger
      (cancelAssignment settings ledger workerId leaseId lease previous now) := by
  have closed : (cancelAssignment settings ledger workerId leaseId lease previous
      now).attempts.find? lease.attemptId = some { attempt with
        status := .cancelled
        errorCode := some "worker_token_emergency_revoked"
        errorMessage :=
          some "The assigned Worker credential was revoked by an administrator."
        finishedAt := some now } := by
    rw [cancelAssignment, Table.find?_modify_self, found, Option.map_some]
  refine .ended closed rfl ?_ ?_
  · intro other different
    exact Table.find?_modify_of_ne _ _ _ different
  · simp only [cancelAssignment, ofJob]

theorem revokeWorkerToken_closing {next : Ledger} {workerId : WorkerId}
    {payload : WorkerTokenRevokeRequest} {now : Time}
    (accepted : revokeWorkerToken settings ledger workerId payload now = .ok ((), next)) :
    Closing settings ledger next := by
  unfold revokeWorkerToken at accepted
  simp only at accepted
  split at accepted
  · cases accepted
  · split at accepted
    · cases accepted
    · split at accepted
      · cases accepted
      · split at accepted
        · cases accepted
          exact .nothing (.same rfl rfl)
        · next jobId leaseId lease bound single =>
            split at accepted
            · cases accepted
            · split at accepted
              · next job attempt jobFound attemptFound =>
                  split at accepted
                  · cases accepted
                  · next consistent =>
                      simp only [not_or, not_not] at consistent
                      cases accepted
                      exact cancelAssignment_closing attemptFound consistent.2.2.2.1
              · cases accepted
        · cases accepted

theorem quarantine_quiet {next : Ledger} {jobId : JobId} {now : Time}
    (quiet : Quiet (quarantineInvalidQueuedJobConfig ledger jobId now) next) :
    Quiet ledger next :=
  ⟨quiet.attempts, quiet.outbox⟩

theorem claimFirst_quiet {request : ClaimRequest} {entries : List (JobId × JobRow)}
    {next : Ledger} {response : Option JobClaim}
    (accepted : claimFirst platform settings request entries ledger = .ok (response, next)) :
    Quiet ledger next := by
  induction entries generalizing ledger with
  | nil =>
      cases accepted
      exact .same rfl rfl
  | cons entry rest induction =>
      rcases entry with ⟨jobId, job⟩
      unfold claimFirst at accepted
      split at accepted
      · exact quarantine_quiet (induction accepted)
      · split at accepted
        · cases accepted
        · exact induction accepted
        · rcases commitClaim_eq_ok accepted with ⟨configSha256, freshAttempt, freshLease, -, -, rfl⟩
          refine ⟨?_, [], by rw [List.append_nil]; rfl, by simp⟩
          intro attemptId attempt found finished
          rcases (Table.find?_insert_eq_some_iff _ _ _ freshAttempt).mp found with ⟨-, rfl⟩ | earlier
          · exact absurd rfl finished
          · exact earlier

theorem claimJob_quiet {request : ClaimRequest} {next : Ledger} {response : Option JobClaim}
    (accepted : claimJob platform settings ledger request = .ok (response, next)) :
    Quiet ledger next := by
  unfold claimJob at accepted
  split at accepted
  · cases accepted
  · split at accepted
    · cases accepted
    · split at accepted
      · cases accepted
      · split at accepted
        · cases accepted
          exact .same rfl rfl
        · split at accepted
          · cases accepted
          · exact claimFirst_quiet accepted

theorem heartbeat_quiet {workerId : WorkerId} {payload : WorkerHeartbeatRequest} {now : Time}
    {response : WorkerHeartbeatResponse} {next : Ledger}
    (accepted : heartbeat platform settings ledger workerId payload now = .ok (response, next)) :
    Quiet ledger next := by
  unfold heartbeat at accepted
  split at accepted
  · simp only at accepted
    split at accepted
    · split at accepted
      · cases accepted
      · split at accepted
        · cases accepted
        · split at accepted
          · cases accepted
          · split at accepted
            · cases accepted
            · cases accepted
              exact .same rfl rfl
    · cases accepted
  · split at accepted
    · cases accepted
    · split at accepted
      · cases accepted
      · cases accepted
        exact .same rfl rfl

theorem renewLease_quiet {workerId : WorkerId} {jobId : JobId} {leaseId : LeaseId}
    {checkedAt now : Time} {response : LeaseRenewResponse} {next : Ledger}
    (accepted : renewLease platform settings ledger workerId jobId leaseId checkedAt now =
      .ok (response, next)) :
    Quiet ledger next := by
  unfold renewLease at accepted
  split at accepted
  · cases accepted
  · cases accepted
    exact .same rfl rfl

theorem writeTerminal_closing {workerId : WorkerId} {jobId : JobId} {attemptId : AttemptId}
    {attempt : AttemptRow} {update : JobStatusUpdate} {previous target : JobStatus} {now : Time}
    (found : ledger.attempts.find? attemptId = some attempt) (ofJob : attempt.jobId = jobId) :
    Closing settings ledger
      (writeTerminal settings ledger workerId jobId attemptId update previous target now) := by
  have closed : (writeTerminal settings ledger workerId jobId attemptId update previous target
      now).attempts.find? attemptId = some { attempt with
        status := target
        errorCode := update.errorCode
        errorMessage := update.errorMessage
        telemetryCounts := update.telemetryCounts
        finishedAt := some now } := by
    rw [writeTerminal, Table.find?_modify_self, found, Option.map_some]
  refine .ended closed rfl ?_ ?_
  · intro other different
    exact Table.find?_modify_of_ne _ _ _ different
  · simp only [writeTerminal, ofJob]

/-- The attempt of a status update is the one its lease names, of the Job that the
lease names. -/
theorem commitStatus_closing {workerId : WorkerId} {jobId : JobId} {update : JobStatusUpdate}
    {attemptId : AttemptId} {expectedStatus : JobStatus} {inventory : ArtifactInventory}
    {clock : StatusClock} {ack : StatusAck} {next : Ledger} (sound : Sound ledger.view)
    (accepted : commitStatus platform settings ledger workerId jobId update attemptId
      expectedStatus inventory clock = .ok (ack, next)) :
    Closing settings ledger next := by
  unfold commitStatus at accepted
  split at accepted
  · cases accepted
  · next claim locked =>
      rcases lockCurrentStatusClaim_eq_ok locked with ⟨leaseFound, -, attemptFound, -, ofJob,
        ofAttempt, -, -, -, -, unfinished, -⟩
      have attemptJob : claim.attempt.jobId = jobId := by
        rcases sound.leaseAttempt (leaseView leaseFound) with ⟨state, stateFound, sameJob, -⟩
        rw [show (Ledger.leaseState claim.lease).attemptId = attemptId from ofAttempt,
          attemptView attemptFound] at stateFound
        injection stateFound with same
        subst same
        exact sameJob.trans ofJob
      split at accepted
      · cases accepted
      · cases accepted
      · split at accepted
        · split at accepted
          · cases accepted
          · split at accepted
            · cases accepted
            · split at accepted
              · cases accepted
              · cases accepted
                exact writeTerminal_closing attemptFound attemptJob
        · cases accepted
          refine .nothing ⟨?_, [], by rw [List.append_nil]; rfl, by simp⟩
          intro other attempt found finished
          rcases (Table.find?_modify_eq_some_iff ..).mp found with ⟨row, rowFound, rfl⟩
          split at finished
          · next same =>
              rw [same, attemptFound] at rowFound
              injection rowFound with equal
              subst equal
              exact absurd unfinished finished
          · next different => rw [if_neg different, rowFound]

theorem createJob_quiet {admission : JobAdmission} {jobId reply : JobId} {config : JobConfig}
    {now : Time} {next : Ledger}
    (accepted : createJob platform settings ledger admission jobId config now =
      .ok (reply, next)) :
    Quiet ledger next := by
  unfold createJob at accepted
  split at accepted
  · cases accepted
  · split at accepted
    · cases accepted
    · split at accepted
      · cases accepted
        refine ⟨fun found _ => found, ?_⟩
        simp only [enqueue]
        split
        · exact ⟨[.jobCreated jobId], rfl, by simp [OutboxEvent.IsTerminal]⟩
        · exact ⟨[], by simp, by simp⟩
      · cases accepted

theorem cancelJob_quiet {jobId : JobId} {owns : Bool} {now : Time} {next : Ledger}
    (accepted : cancelJob ledger jobId owns now = .ok ((), next)) :
    Quiet ledger next := by
  unfold cancelJob at accepted
  split at accepted
  · cases accepted
  · split at accepted
    · cases accepted
    · split at accepted
      · cases accepted
      · split at accepted
        · cases accepted
          exact .same rfl rfl
        · cases accepted
          exact .same rfl rfl

theorem retryJob_quiet {jobId : JobId} {owns : Bool} {now : Time} {next : Ledger}
    (accepted : retryJob platform ledger jobId owns now = .ok ((), next)) :
    Quiet ledger next := by
  unfold retryJob at accepted
  split at accepted
  · cases accepted
  · split at accepted
    · cases accepted
    · split at accepted
      · cases accepted
      · split at accepted
        · cases accepted
        · split at accepted
          · cases accepted
          · split at accepted
            · cases accepted
            · cases accepted
              exact .same rfl rfl

/-- Every request but lease recovery announces what it ends. -/
theorem Operation.commit_closing {operation : Operation} (sound : Sound ledger.view)
    (noRecovery : ∀ recovery, operation ≠ .recoverExpiredLeases recovery) :
    Closing settings ledger (operation.commit platform settings ledger) := by
  cases operation with
  | registerWorker => exact .nothing (committed_quiet registerWorker_quiet)
  | reEnrollWorker => exact .nothing (committed_quiet reEnrollWorker_quiet)
  | revokeWorkerToken => exact committed_closing revokeWorkerToken_closing
  | recoverExpiredLeases recovery => exact absurd rfl (noRecovery recovery)
  | claim => exact .nothing (committed_quiet claimJob_quiet)
  | heartbeat => exact .nothing (committed_quiet heartbeat_quiet)
  | renewLease => exact .nothing (committed_quiet renewLease_quiet)
  | updateJobStatus =>
      refine committed_closing ?_
      intro ack next accepted
      unfold Manager.updateJobStatus at accepted
      split at accepted
      · cases accepted
      · exact commitStatus_closing sound accepted
  | createJob => exact .nothing (committed_quiet createJob_quiet)
  | cancelJob => exact .nothing (committed_quiet cancelJob_quiet)
  | retryJob => exact .nothing (committed_quiet retryJob_quiet)

/-! ## Lease recovery -/

def Heard (settings : Settings) (recoveredAt : Time) (worker : WorkerRow) : Prop :=
  ∃ heartbeat, worker.lastHeartbeatAt = some heartbeat ∧
    recoveredAt - seconds settings.workerOfflineSeconds < heartbeat

/-- The lease recovery that is part of a request. -/
def Operation.recovery? : Operation → Option Recovery
  | .recoverExpiredLeases recovery | .claim recovery _ | .heartbeat recovery .. => some recovery
  | _ => none

/-- All expired leases that the request's recovery finds belong to Workers that are
still heard of. -/
def ReapsNothing (settings : Settings) (ledger : Ledger) (operation : Operation) : Prop :=
  ∀ recovery, operation.recovery? = some recovery →
    ∀ leaseId ∈ expiredLeases ledger recovery.recoveredAt 100 recovery.locked,
      ∀ {lease worker}, ledger.leases.find? leaseId = some lease →
        ledger.workers.find? lease.workerId = some worker →
        Heard settings recovery.recoveredAt worker

theorem heard_iff {recoveredAt : Time} {worker : WorkerRow} :
    Heard settings recoveredAt worker ↔ (worker.lastHeartbeatAt.any fun heartbeat =>
      decide (recoveredAt - seconds settings.workerOfflineSeconds < heartbeat)) = true := by
  rw [Option.any_eq_true]
  simp [Heard]

theorem recoverLease_of_heard {recoveredAt : Time} {leaseId : LeaseId}
    (heard : ∀ {lease worker}, ledger.leases.find? leaseId = some lease →
      ledger.workers.find? lease.workerId = some worker → Heard settings recoveredAt worker) :
    recoverLease platform settings recoveredAt ledger leaseId = ledger := by
  unfold recoverLease
  split
  · rfl
  · next lease leaseFound =>
      split
      · next worker job attempt workerFound _ _ =>
          split
          · rfl
          · rw [if_pos (heard_iff.mp (heard leaseFound workerFound))]
      · rfl

theorem foldl_recoverLease_of_heard {recoveredAt : Time} {leaseIds : List LeaseId}
    (heard : ∀ leaseId ∈ leaseIds, ∀ {lease worker}, ledger.leases.find? leaseId = some lease →
      ledger.workers.find? lease.workerId = some worker → Heard settings recoveredAt worker) :
    leaseIds.foldl (recoverLease platform settings recoveredAt) ledger = ledger := by
  induction leaseIds with
  | nil => rfl
  | cons leaseId leaseIds induction =>
      rw [List.foldl_cons, recoverLease_of_heard (heard leaseId List.mem_cons_self)]
      exact induction fun other member => heard other (List.mem_cons_of_mem _ member)

theorem recoverLease_outbox (recoveredAt : Time) (leaseId : LeaseId) :
    (recoverLease platform settings recoveredAt ledger leaseId).outbox = ledger.outbox := by
  unfold recoverLease
  split
  · rfl
  · split
    · split
      · rfl
      · split <;> rfl
    · rfl

theorem recover_outbox (recovery : Recovery) :
    (recover platform settings ledger recovery).outbox = ledger.outbox :=
  run_preserves (fun current : Ledger => current.outbox = ledger.outbox)
    (fun _ leaseId same => (recoverLease_outbox recovery.recoveredAt leaseId).trans same) rfl _

def Ended (ledger : Ledger) (attemptId : AttemptId) : Prop :=
  ∃ attempt, ledger.attempts.find? attemptId = some attempt ∧ attempt.finishedAt ≠ none

def Abandoned (settings : Settings) (ledger : Ledger) (recoveredAt : Time)
    (leaseId : LeaseId) (attemptId : AttemptId) : Prop :=
  ∃ lease worker job attempt, ledger.leases.find? leaseId = some lease ∧
    lease.attemptId = attemptId ∧ ledger.workers.find? lease.workerId = some worker ∧
    ledger.jobs.find? lease.jobId = some job ∧ job.currentAttemptId = some attemptId ∧
    ledger.attempts.find? attemptId = some attempt ∧ attempt.finishedAt = none ∧
    ¬Heard settings recoveredAt worker

/-- Recovery ends the attempt of the lease and leaves the others alone. -/
theorem ended_closeAbandoned {leaseId : LeaseId} {lease : LeaseRow} {job : JobRow} {valid : Bool}
    {recoveredAt : Time} {attemptId : AttemptId} {attempt : AttemptRow}
    (found : ledger.attempts.find? attemptId = some attempt)
    (ends : lease.attemptId = attemptId ∨ attempt.finishedAt ≠ none) :
    Ended (closeAbandoned settings ledger leaseId lease job valid recoveredAt) attemptId := by
  by_cases same : attemptId = lease.attemptId
  · have finished : ((closeAbandoned settings ledger leaseId lease job valid
        recoveredAt).attempts.find? attemptId).map AttemptRow.finishedAt =
          some (some recoveredAt) := by
      rw [closeAbandoned, same, Table.find?_modify_self, ← same, found]
      rfl
    rcases Option.map_eq_some_iff.mp finished with ⟨closed, closedFound, closedAt⟩
    exact ⟨closed, closedFound, by simp [closedAt]⟩
  · refine ⟨attempt, ?_, ends.resolve_left (Ne.symm same)⟩
    rw [closeAbandoned, Table.find?_modify_of_ne _ _ _ same, found]

theorem Ended.recoverLease {attemptId : AttemptId} (ended : Ended ledger attemptId)
    (recoveredAt : Time) (leaseId : LeaseId) :
    Ended (recoverLease platform settings recoveredAt ledger leaseId) attemptId := by
  rcases ended with ⟨attempt, found, finished⟩
  unfold Manager.recoverLease
  split
  · exact ⟨attempt, found, finished⟩
  · split
    · split
      · exact ⟨attempt, found, finished⟩
      · split
        · exact ⟨attempt, found, finished⟩
        · exact ended_closeAbandoned found (.inr finished)
    · exact ⟨attempt, found, finished⟩

theorem Abandoned.recoverLease {recoveredAt : Time} {leaseId : LeaseId} {attemptId : AttemptId}
    (abandoned : Abandoned settings ledger recoveredAt leaseId attemptId) :
    Ended (recoverLease platform settings recoveredAt ledger leaseId) attemptId := by
  rcases abandoned with ⟨lease, worker, job, attempt, leaseFound, rfl, workerFound, jobFound,
    current, attemptFound, unfinished, silent⟩
  unfold Manager.recoverLease
  simp only [leaseFound, workerFound, jobFound, attemptFound]
  rw [if_neg (by simp [current, unfinished]), if_neg (fun heard => silent (heard_iff.mpr heard))]
  exact ended_closeAbandoned attemptFound (.inl rfl)

/-- Recovery hears of nobody. -/
theorem closeAbandoned_heartbeat (settings : Settings) (ledger : Ledger) (leaseId : LeaseId)
    (lease : LeaseRow) (job : JobRow) (valid : Bool) (recoveredAt : Time) (workerId : WorkerId) :
    ((closeAbandoned settings ledger leaseId lease job valid recoveredAt).workers.find?
        workerId).map WorkerRow.lastHeartbeatAt =
      (ledger.workers.find? workerId).map WorkerRow.lastHeartbeatAt := by
  simp only [closeAbandoned, Table.find?_modify]
  split
  · rw [Option.map_map]
    congr 1
    funext row
    simp only [Function.comp_apply]
    split <;> rfl
  · rfl

/-- An abandoned attempt stays so while another attempt, of another Job, is ended. -/
theorem Abandoned.closeAbandoned {recoveredAt : Time} {leaseId other : LeaseId}
    {attemptId : AttemptId} {otherLease : LeaseRow} {otherJob : JobRow}
    (abandoned : Abandoned settings ledger recoveredAt leaseId attemptId) (valid : Bool)
    (differentLease : leaseId ≠ other) (differentAttempt : otherLease.attemptId ≠ attemptId)
    (otherJobFound : ledger.jobs.find? otherLease.jobId = some otherJob)
    (otherCurrent : otherJob.currentAttemptId = some otherLease.attemptId) :
    Abandoned settings
      (Manager.closeAbandoned settings ledger other otherLease otherJob valid recoveredAt)
      recoveredAt leaseId attemptId := by
  rcases abandoned with ⟨lease, worker, job, attempt, leaseFound, ofAttempt, workerFound,
    jobFound, current, attemptFound, unfinished, silent⟩
  have differentJob : lease.jobId ≠ otherLease.jobId := by
    intro sameJob
    rw [← sameJob, jobFound] at otherJobFound
    injection otherJobFound with equal
    rw [← equal, current] at otherCurrent
    injection otherCurrent with equal
    exact differentAttempt equal.symm
  have heartbeat := closeAbandoned_heartbeat settings ledger other otherLease otherJob valid
    recoveredAt lease.workerId
  rw [workerFound, Option.map_some] at heartbeat
  rcases Option.map_eq_some_iff.mp heartbeat with ⟨later, laterFound, sameHeartbeat⟩
  refine ⟨lease, later, job, attempt, ?_, ofAttempt, laterFound, ?_, current, ?_, unfinished, ?_⟩
  · rw [Manager.closeAbandoned, Table.find?_modify_of_ne _ _ _ differentLease, leaseFound]
  · rw [Manager.closeAbandoned, Table.find?_modify_of_ne _ _ _ differentJob, jobFound]
  · rw [Manager.closeAbandoned, Table.find?_modify_of_ne _ _ _ (Ne.symm differentAttempt),
      attemptFound]
  · rw [Heard, sameHeartbeat]
    exact silent

theorem Abandoned.other {recoveredAt : Time} {leaseId other : LeaseId} {attemptId : AttemptId}
    (abandoned : Abandoned settings ledger recoveredAt leaseId attemptId)
    (different : leaseId ≠ other) :
    Ended (Manager.recoverLease platform settings recoveredAt ledger other) attemptId ∨
      Abandoned settings (Manager.recoverLease platform settings recoveredAt ledger other)
        recoveredAt leaseId attemptId := by
  unfold Manager.recoverLease
  split
  · exact .inr abandoned
  · next otherLease otherFound =>
      split
      · next otherJobFound _ =>
          split
          · exact .inr abandoned
          · next current =>
              simp only [not_or, not_not] at current
              split
              · exact .inr abandoned
              · by_cases same : otherLease.attemptId = attemptId
                · rcases abandoned with ⟨-, -, -, attempt, -, -, -, -, -, found, -⟩
                  exact .inl (ended_closeAbandoned found (.inl same))
                · exact .inr (abandoned.closeAbandoned _ different same otherJobFound current.1)
      · exact .inr abandoned

/-- Recovery ends every abandoned attempt of its list. -/
theorem Abandoned.foldl_recoverLease {recoveredAt : Time} {leaseId : LeaseId}
    {attemptId : AttemptId} {leaseIds : List LeaseId} (member : leaseId ∈ leaseIds)
    (abandoned : Abandoned settings ledger recoveredAt leaseId attemptId) :
    Ended (leaseIds.foldl (Manager.recoverLease platform settings recoveredAt) ledger)
      attemptId := by
  have stays : ∀ (rest : List LeaseId) {current : Ledger}, Ended current attemptId →
      Ended (rest.foldl (Manager.recoverLease platform settings recoveredAt) current)
        attemptId := fun rest _ ended =>
    run_preserves (fun current : Ledger => Ended current attemptId)
      (fun _ next ended => ended.recoverLease recoveredAt next) ended rest
  induction leaseIds generalizing ledger with
  | nil => cases member
  | cons head rest induction =>
      rw [List.foldl_cons]
      by_cases same : leaseId = head
      · subst same
        exact stays rest abandoned.recoverLease
      · rcases abandoned.other same with ended | abandoned
        · exact stays rest ended
        · exact induction ((List.mem_cons.mp member).resolve_left same) abandoned

theorem abandoned_of_mem {recoveredAt : Time} {locked : List LeaseId} {leaseId : LeaseId}
    {lease : LeaseRow} {worker : WorkerRow} (sound : Sound ledger.view)
    (member : leaseId ∈ expiredLeases ledger recoveredAt 100 locked)
    (leaseFound : ledger.leases.find? leaseId = some lease)
    (workerFound : ledger.workers.find? lease.workerId = some worker)
    (silent : ¬Heard settings recoveredAt worker) :
    Abandoned settings ledger recoveredAt leaseId lease.attemptId := by
  rcases List.mem_map.mp member with ⟨⟨_, row⟩, taken, rfl⟩
  have matching := (List.perm_insertionSort _ _).mem_iff.mp (List.mem_of_mem_take taken)
  simp only [List.mem_filter, Bool.and_eq_true, decide_eq_true_eq, List.any_eq_true,
    Option.any_eq_true, Option.isNone_iff_eq_none] at matching
  rcases matching with ⟨stored, ⟨⟨-, ⟨jobId, job⟩, jobStored, current, -⟩, attempt, attemptFound,
    unfinished⟩, -⟩
  have rowFound := ledger.leases.mem_rows_iff.mp stored
  rw [leaseFound] at rowFound
  injection rowFound with same
  subst same
  have jobFound := ledger.jobs.mem_rows_iff.mp jobStored
  have ofJob : lease.jobId = jobId := by
    rcases sound.leaseAttempt (leaseView leaseFound) with ⟨state, stateFound, sameJob, -⟩
    rcases sound.currentAttempt (jobView jobFound) current with ⟨other, otherFound, ofJob, -⟩
    rw [show (Ledger.leaseState lease).attemptId = lease.attemptId from rfl] at stateFound
    rw [stateFound] at otherFound
    injection otherFound with equal
    rw [← ofJob, ← equal, sameJob]
    rfl
  exact ⟨lease, worker, job, attempt, leaseFound, rfl, workerFound, ofJob ▸ jobFound, current,
    attemptFound, unfinished, silent⟩

/-! ## Runs -/

def OnlyEnded (ledger : Ledger) : Prop :=
  ∀ jobId attemptId status endedAt,
    .terminal jobId attemptId status endedAt ∈ ledger.outbox → Ended ledger attemptId

theorem Operation.start_outbox (operation : Operation) :
    (operation.start platform settings ledger).outbox = ledger.outbox := by
  cases operation with
  | claim recovery request => exact recover_outbox recovery
  | heartbeat recovery workerId payload now => exact recover_outbox recovery
  | _ => rfl

theorem Ended.perform {attemptId : AttemptId} (sound : Sound ledger.view)
    (ended : Ended ledger attemptId) (operation : Operation) :
    Ended (perform platform settings ledger operation) attemptId := by
  rcases ended with ⟨attempt, found, finished⟩
  rcases (preserved_of_does sound (perform_does platform settings operation sound)).finishedAttempt
    found finished with ⟨later, laterFound, -, same⟩
  exact ⟨later, laterFound, same ▸ finished⟩

theorem OnlyEnded.perform (sound : Sound ledger.view) (only : OnlyEnded ledger)
    (operation : Operation) : OnlyEnded (perform platform settings ledger operation) := by
  intro jobId attemptId status endedAt member
  by_cases recovers : ∃ recovery, operation = .recoverExpiredLeases recovery
  · rcases recovers with ⟨recovery, rfl⟩
    have same : (Manager.perform platform settings ledger (.recoverExpiredLeases recovery)).outbox =
        ledger.outbox := recover_outbox recovery
    rw [same] at member
    exact (only _ _ _ _ member).perform sound _
  · have closing : Closing settings (operation.start platform settings ledger)
        (Manager.perform platform settings ledger operation) :=
      Operation.commit_closing ((operation.start_does sound).sound sound)
        fun recovery same => recovers ⟨recovery, same⟩
    rcases closing.terminal_mem member with earlier | ended
    · rw [operation.start_outbox] at earlier
      exact (only _ _ _ _ earlier).perform sound operation
    · exact ended

theorem outbox_subset_perform (sound : Sound ledger.view) (operation : Operation) :
    ledger.outbox ⊆ (perform platform settings ledger operation).outbox := by
  by_cases recovers : ∃ recovery, operation = .recoverExpiredLeases recovery
  · rcases recovers with ⟨recovery, rfl⟩
    intro event member
    have same : (perform platform settings ledger (.recoverExpiredLeases recovery)).outbox =
        ledger.outbox := recover_outbox recovery
    rwa [same]
  · rw [← operation.start_outbox]
    exact (Operation.commit_closing ((operation.start_does sound).sound sound)
      fun recovery same => recovers ⟨recovery, same⟩).outbox_subset

/-- A recovery that finds nobody silent changes nothing. -/
theorem recover_of_reapsNothing {operation : Operation} {recovery : Recovery}
    (nothing : ReapsNothing settings ledger operation)
    (recovers : operation.recovery? = some recovery) :
    recover platform settings ledger recovery = ledger :=
  foldl_recoverLease_of_heard (nothing recovery recovers)

theorem endsAnnounced_of_reapsNothing {operation : Operation}
    (enabled : settings.mlflowEnabled = true) (sound : Sound ledger.view)
    (nothing : ReapsNothing settings ledger operation) :
    EndsAnnounced ledger (perform platform settings ledger operation) := by
  have started : operation.start platform settings ledger = ledger := by
    cases operation with
    | claim recovery request => exact recover_of_reapsNothing nothing rfl
    | heartbeat recovery workerId payload now => exact recover_of_reapsNothing nothing rfl
    | _ => rfl
  rw [perform, started]
  by_cases recovers : ∃ recovery, operation = .recoverExpiredLeases recovery
  · rcases recovers with ⟨recovery, rfl⟩
    have same : Operation.commit platform settings ledger (.recoverExpiredLeases recovery) =
        ledger := recover_of_reapsNothing nothing rfl
    rw [same]
    intro attemptId attempt found finished unfinished
    exact absurd (unfinished attempt found) finished
  · exact (Operation.commit_closing sound
      fun recovery same => recovers ⟨recovery, same⟩).endsAnnounced enabled

/-- A request that recovers leases announces nothing itself. -/
theorem terminal_mem_of_recovery {operation : Operation} {recovery : Recovery}
    (recovers : operation.recovery? = some recovery) {event : OutboxEvent}
    (terminal : event.IsTerminal)
    (member : event ∈ (perform platform settings ledger operation).outbox) :
    event ∈ ledger.outbox := by
  have quiet : ∀ {next}, Quiet (operation.start platform settings ledger) next →
      next = perform platform settings ledger operation → event ∈ ledger.outbox := by
    rintro next quiet rfl
    rw [← operation.start_outbox]
    exact quiet.terminal_mem terminal member
  cases operation with
  | recoverExpiredLeases recovery =>
      have same : (perform platform settings ledger (.recoverExpiredLeases recovery)).outbox =
          ledger.outbox := recover_outbox recovery
      rwa [same] at member
  | claim => exact quiet (committed_quiet claimJob_quiet) rfl
  | heartbeat => exact quiet (committed_quiet heartbeat_quiet) rfl
  | _ => cases recovers

theorem ended_start {operation : Operation} {recovery : Recovery} {attemptId : AttemptId}
    (sound : Sound ledger.view) (recovers : operation.recovery? = some recovery)
    (ended : Ended (recover platform settings ledger recovery) attemptId) :
    Ended (perform platform settings ledger operation) attemptId := by
  have further : ∀ commit : Operation, Ended (commit.commit platform settings
      (recover platform settings ledger recovery)) attemptId := by
    intro commit
    have startSound : Sound (recover platform settings ledger recovery).view :=
      (recoverExpiredLeases_does sound).sound sound
    rcases ended with ⟨attempt, found, finished⟩
    rcases (preserved_of_does startSound (commit.commit_does startSound)).finishedAttempt found
      finished with ⟨later, laterFound, -, same⟩
    exact ⟨later, laterFound, same ▸ finished⟩
  cases operation with
  | recoverExpiredLeases =>
      cases recovers
      exact ended
  | claim =>
      cases recovers
      exact further _
  | heartbeat =>
      cases recovers
      exact further _
  | _ => cases recovers

/-- In a reachable ledger, a request announces every attempt it ends exactly if its
lease recovery gives nobody up. -/
theorem endsAnnounced_iff (enabled : settings.mlflowEnabled = true) (sound : Sound ledger.view)
    (only : OnlyEnded ledger) (operation : Operation) :
    EndsAnnounced ledger (perform platform settings ledger operation) ↔
      ReapsNothing settings ledger operation := by
  constructor
  · intro announced recovery recovers leaseId member lease worker leaseFound workerFound
    by_contra silent
    have abandoned := abandoned_of_mem sound member leaseFound workerFound silent
    rcases ended_start sound recovers (abandoned.foldl_recoverLease member) with
      ⟨attempt, attemptFound, finished⟩
    rcases abandoned with ⟨_, _, _, earlier, _, _, _, _, _, earlierFound, unfinished, _⟩
    have event := announced _ attempt attemptFound finished (by
      intro row rowFound
      rw [earlierFound] at rowFound
      injection rowFound with same
      exact same ▸ unfinished)
    rcases event with ⟨endedAt, -, inOutbox⟩
    rcases only _ _ _ _ (terminal_mem_of_recovery recovers trivial inOutbox) with
      ⟨row, rowFound, rowFinished⟩
    rw [earlierFound] at rowFound
    injection rowFound with same
    exact rowFinished (same ▸ unfinished)
  · exact endsAnnounced_of_reapsNothing enabled sound

def AllAnnounced (ledger : Ledger) : Prop :=
  ∀ attemptId attempt, ledger.attempts.find? attemptId = some attempt →
    attempt.finishedAt ≠ none → Announced ledger attemptId attempt

theorem AllAnnounced.perform (enabled : settings.mlflowEnabled = true) (sound : Sound ledger.view)
    (all : AllAnnounced ledger) {operation : Operation}
    (nothing : ReapsNothing settings ledger operation) :
    AllAnnounced (perform platform settings ledger operation) := by
  intro attemptId attempt found finished
  by_cases ended : Ended ledger attemptId
  · rcases ended with ⟨earlier, earlierFound, earlierFinished⟩
    rcases perform_does platform settings operation sound with ⟨actions, -, steps⟩
    have kept := (Assignment.Steps.later steps).finishedAttempt (attemptView earlierFound)
      earlierFinished
    rw [attemptView found] at kept
    injection kept with same
    rcases all attemptId earlier earlierFound earlierFinished with ⟨endedAt, endedThen, member⟩
    refine ⟨endedAt, (congrArg Assignment.AttemptState.finishedAt same).trans endedThen, ?_⟩
    rw [show attempt.jobId = earlier.jobId from congrArg Assignment.AttemptState.jobId same,
      show attempt.status = earlier.status from congrArg Assignment.AttemptState.status same]
    exact outbox_subset_perform sound operation member
  · refine endsAnnounced_of_reapsNothing enabled sound nothing attemptId attempt found finished ?_
    intro earlier earlierFound
    by_contra earlierFinished
    exact ended ⟨earlier, earlierFound, earlierFinished⟩

theorem onlyEnded_run (platform : Platform) (settings : Settings) (operations : List Operation) :
    OnlyEnded (run (perform platform settings) .empty operations) := by
  have both : Sound (run (perform platform settings) .empty operations).view ∧
      OnlyEnded (run (perform platform settings) .empty operations) := by
    refine run_preserves (fun ledger : Ledger => Sound ledger.view ∧ OnlyEnded ledger) ?_ ?_
      operations
    · rintro ledger operation ⟨sound, only⟩
      exact ⟨(perform_does platform settings operation sound).sound sound,
        only.perform sound operation⟩
    · refine ⟨Sound.empty, ?_⟩
      intro jobId attemptId status endedAt member
      cases member
  exact both.2

theorem allAnnounced_run (platform : Platform) {operations : List Operation}
    (enabled : settings.mlflowEnabled = true)
    (along : Along (perform platform settings) (ReapsNothing settings) .empty operations) :
    AllAnnounced (run (perform platform settings) .empty operations) := by
  have both : Sound (run (perform platform settings) .empty operations).view ∧
      AllAnnounced (run (perform platform settings) .empty operations) := by
    refine run_preserves_along (fun ledger : Ledger => Sound ledger.view ∧ AllAnnounced ledger)
      ?_ ?_ along
    · rintro ledger operation nothing ⟨sound, all⟩
      exact ⟨(perform_does platform settings operation sound).sound sound,
        all.perform enabled sound nothing⟩
    · refine ⟨Sound.empty, ?_⟩
      intro attemptId attempt found
      cases found
  exact both.2

/-- An outbox that is drained in any order leaves no run of an ended attempt
running. -/
theorem AllAnnounced.stopped (sound : Sound ledger.view) (all : AllAnnounced ledger)
    {attemptId : AttemptId} {attempt : AttemptRow}
    (found : ledger.attempts.find? attemptId = some attempt) (finished : attempt.finishedAt ≠ none)
    {projected : List OutboxEvent} (drained : ∀ event, event ∈ projected ↔ event ∈ ledger.outbox) :
    Stopped (projectedRun attempt.jobId projected) := by
  have terminal : attempt.status.Terminal := by
    by_contra running
    exact finished ((sound.attemptOver (attemptView found)).mpr running)
  rcases all attemptId attempt found finished with ⟨endedAt, -, member⟩
  exact stopped_projectedRun terminal ((drained _).mpr member)

/-- A request that ends an attempt announces it in the same transaction exactly if
its lease recovery gives nobody up; and as long as no recovery does, every ended
attempt is announced and no drained outbox leaves its run running. -/
theorem terminal_outbox (platform : Platform) (settings : Settings)
    (enabled : settings.mlflowEnabled = true) (operations : List Operation) :
    let ledger := run (perform platform settings) .empty operations
    (∀ operation, EndsAnnounced ledger (perform platform settings ledger operation) ↔
      ReapsNothing settings ledger operation) ∧
    (Along (perform platform settings) (ReapsNothing settings) .empty operations →
      AllAnnounced ledger ∧
      ∀ attemptId attempt projected, ledger.attempts.find? attemptId = some attempt →
        attempt.finishedAt ≠ none → (∀ event, event ∈ projected ↔ event ∈ ledger.outbox) →
        Stopped (projectedRun attempt.jobId projected)) := by
  intro ledger
  have sound : Sound ledger.view := sound_run platform settings operations
  refine ⟨?_, ?_⟩
  · intro operation
    exact endsAnnounced_iff enabled sound (onlyEnded_run platform settings operations) operation
  · intro along
    have all : AllAnnounced ledger := allAnnounced_run platform enabled along
    refine ⟨all, ?_⟩
    intro attemptId attempt projected found finished drained
    exact all.stopped sound found finished drained

end

/-! ## An attempt that nobody announces -/

/-- Nothing expires before the Worker is lost. -/
theorem reapsNothing_arrival :
    Along (perform samplePlatform sampleSettings) (ReapsNothing sampleSettings) .empty
      (arrival ++ [abandonment]) := by
  refine Along.append ⟨?_, ?_, ?_, trivial⟩ ⟨?_, trivial⟩
  · intro recovery recovers
    cases recovers
  · intro recovery recovers
    cases recovers
  · intro recovery recovers
    cases recovers
  · rw [run_arrival]
    intro recovery recovers leaseId member
    cases recovers
    cases member

theorem terminal_outbox_held :
    sampleSettings.mlflowEnabled = true ∧
    (∀ operation, EndsAnnounced heldLedger
        (perform samplePlatform sampleSettings heldLedger operation) ↔
      ReapsNothing sampleSettings heldLedger operation) ∧
    AllAnnounced heldLedger := by
  have complete := terminal_outbox samplePlatform sampleSettings rfl (arrival ++ [abandonment])
  simp only [run_heldLedger] at complete
  exact ⟨rfl, complete.1, (complete.2 reapsNothing_arrival).1⟩

/-- The Worker has been silent for ten minutes when the other one reports. -/
theorem not_reapsNothing_idleHeartbeat : ¬ReapsNothing sampleSettings heldLedger idleHeartbeat := by
  intro nothing
  have expired : expiredLeases heldLedger (seconds 600) 100 [] = [1] := by decide +kernel
  rcases nothing ⟨seconds 600, []⟩ rfl 1 (by rw [expired]; exact List.mem_cons_self)
    heldLedger_lease heldLedger_worker with ⟨heartbeat, last, recent⟩
  injection last with same
  rw [← same] at recent
  exact absurd recent (by decide +kernel)

theorem abandoned_attempt_unannounced :
    ¬∀ operations operation, EndsAnnounced
      (run (perform samplePlatform sampleSettings) .empty operations)
      (perform samplePlatform sampleSettings
        (run (perform samplePlatform sampleSettings) .empty operations) operation) := by
  intro announced
  have ends := announced (arrival ++ [abandonment]) idleHeartbeat
  have sound := sound_run samplePlatform sampleSettings (arrival ++ [abandonment])
  have only := onlyEnded_run samplePlatform sampleSettings (arrival ++ [abandonment])
  rw [endsAnnounced_iff rfl sound only, run_heldLedger] at ends
  exact not_reapsNothing_idleHeartbeat ends

end RvcOrchestrator.Manager

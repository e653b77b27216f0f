import RvcOrchestrator.Manager.ClaimSelection
import RvcOrchestrator.Manager.Simulation

/-! # Runs of the Manager

Every request of a Worker, a user or an administrator, as an operation on the
ledger, and what holds after any sequence of them. One operation is what one
request commits; requests that interleave commit in some order.
-/

namespace RvcOrchestrator.Manager

open RvcOrchestrator.Foundation RvcOrchestrator.Contracts
open Assignment (Action Step State Sound History Path eventsOf Later Condemned)

/-! ## Operations -/

/-- The lease recovery that heartbeats and claims run first, in a transaction of
its own: the instant it reads and the leases it finds locked. -/
structure Recovery where
  recoveredAt : Time
  locked : List LeaseId

inductive Operation where
  | registerWorker (bootstrap : BootstrapToken) (workerId : WorkerId)
      (payload : WorkerRegisterRequest) (now : Time)
  | reEnrollWorker (bootstrap : BootstrapToken) (payload : WorkerReEnrollRequest)
  | revokeWorkerToken (workerId : WorkerId) (payload : WorkerTokenRevokeRequest) (now : Time)
  | recoverExpiredLeases (recovery : Recovery)
  | claim (recovery : Recovery) (request : ClaimRequest)
  | heartbeat (recovery : Recovery) (workerId : WorkerId) (payload : WorkerHeartbeatRequest)
      (now : Time)
  | renewLease (workerId : WorkerId) (jobId : JobId) (leaseId : LeaseId) (checkedAt now : Time)
  | updateJobStatus (earlier : Ledger) (workerId : WorkerId) (jobId : JobId)
      (update : JobStatusUpdate) (inventory : ArtifactInventory) (samples : SampleCompletion)
      (inventoryAtCommit : ArtifactInventory) (clock : StatusClock)
  | createJob (admission : JobAdmission) (jobId : JobId) (config : JobConfig) (now : Time)
  | cancelJob (jobId : JobId) (ownsExperiment : Bool) (now : Time)
  | retryJob (jobId : JobId) (ownsExperiment : Bool) (now : Time)

/-- The requests that a Worker's token authorizes. -/
def Operation.ofWorker : Operation → Bool
  | .claim .. | .heartbeat .. | .renewLease .. | .updateJobStatus .. => true
  | _ => false

def committed {Response : Type} (ledger : Ledger) (outcome : Outcome Response) : Ledger :=
  match outcome with
  | .ok (_, next) => next
  | .error _ => ledger

section

variable (platform : Platform) (settings : Settings)

def recover (ledger : Ledger) (recovery : Recovery) : Ledger :=
  recoverExpiredLeases platform settings ledger recovery.recoveredAt recovery.locked

def Operation.start (ledger : Ledger) : Operation → Ledger
  | .claim recovery _ | .heartbeat recovery .. => recover platform settings ledger recovery
  | _ => ledger

def Operation.commit (ledger : Ledger) : Operation → Ledger
  | .registerWorker bootstrap workerId payload now =>
      committed ledger (Manager.registerWorker ledger bootstrap workerId payload now)
  | .reEnrollWorker bootstrap payload =>
      committed ledger (Manager.reEnrollWorker ledger bootstrap payload)
  | .revokeWorkerToken workerId payload now =>
      committed ledger (Manager.revokeWorkerToken settings ledger workerId payload now)
  | .recoverExpiredLeases recovery => recover platform settings ledger recovery
  | .claim _ request => committed ledger (claimJob platform settings ledger request)
  | .heartbeat _ workerId payload now =>
      committed ledger (Manager.heartbeat platform settings ledger workerId payload now)
  | .renewLease workerId jobId leaseId checkedAt now =>
      committed ledger
        (Manager.renewLease platform settings ledger workerId jobId leaseId checkedAt now)
  | .updateJobStatus earlier workerId jobId update inventory samples inventoryAtCommit clock =>
      committed ledger (Manager.updateJobStatus platform settings earlier ledger workerId jobId
        update inventory samples inventoryAtCommit clock)
  | .createJob admission jobId config now =>
      committed ledger (Manager.createJob platform settings ledger admission jobId config now)
  | .cancelJob jobId ownsExperiment now =>
      committed ledger (Manager.cancelJob ledger jobId ownsExperiment now)
  | .retryJob jobId ownsExperiment now =>
      committed ledger (Manager.retryJob platform ledger jobId ownsExperiment now)

def perform (ledger : Ledger) (operation : Operation) : Ledger :=
  operation.commit platform settings (operation.start platform settings ledger)

end

/-! ## Operations are protocol steps -/

theorem committed_does {Response : Type} {permitted : Action → Prop} {ledger : Ledger}
    {outcome : Outcome Response}
    (accepted : ∀ {response next}, outcome = .ok (response, next) →
      Does permitted ledger.view next.view) :
    Does permitted ledger.view (committed ledger outcome).view := by
  match outcome with
  | .ok (_, next) => exact accepted rfl
  | .error _ => exact Does.nothing _ _

section

variable {platform : Platform} {settings : Settings} {ledger : Ledger}

theorem Operation.start_does (operation : Operation) (sound : Sound ledger.view) :
    Does (fun action => ∃ recoveredAt, Reaps recoveredAt action) ledger.view
      (operation.start platform settings ledger).view := by
  have reaps : ∀ recovery : Recovery,
      Does (fun action => ∃ recoveredAt, Reaps recoveredAt action) ledger.view
        (recover platform settings ledger recovery).view := fun recovery =>
    (recoverExpiredLeases_does sound).weaken fun action reaps => ⟨recovery.recoveredAt, reaps⟩
  cases operation with
  | claim recovery request => exact reaps recovery
  | heartbeat recovery workerId payload now => exact reaps recovery
  | _ => exact Does.nothing _ _

/-- A Worker's own transaction takes no step that fills the queue. -/
theorem Operation.commit_of_worker {operation : Operation} (ofWorker : operation.ofWorker = true)
    (sound : Sound ledger.view) :
    Does Action.LeavesQueue ledger.view (operation.commit platform settings ledger).view := by
  cases operation with
  | claim recovery request =>
      refine committed_does fun accepted => (claimJob_does accepted).weaken ?_
      rintro action (⟨jobId, rfl⟩ | ⟨jobId, expiry, rfl⟩)
      · exact trivial
      · exact trivial
  | heartbeat recovery workerId payload now =>
      refine committed_does fun accepted => (heartbeat_does accepted).weaken ?_
      rintro action ⟨leaseId, expiry, rfl⟩
      exact trivial
  | renewLease workerId jobId leaseId checkedAt now =>
      refine committed_does fun accepted => (renewLease_does sound accepted).weaken ?_
      rintro action ⟨expiry, rfl⟩
      exact trivial
  | updateJobStatus =>
      refine committed_does fun accepted => (updateJobStatus_does sound accepted).weaken ?_
      rintro action (⟨target, occurredAt, rfl⟩ | ⟨target, now, occurredAt, counts, rfl⟩)
      · exact trivial
      · exact trivial
  | _ => cases ofWorker

theorem Operation.commit_does (operation : Operation) (sound : Sound ledger.view) :
    Does (fun _ => True) ledger.view (operation.commit platform settings ledger).view := by
  have trivially : ∀ {permitted : Action → Prop} {last : State},
      Does permitted ledger.view last → Does (fun _ => True) ledger.view last :=
    fun does => does.weaken fun _ _ => trivial
  cases operation with
  | registerWorker => exact committed_does fun accepted => trivially (registerWorker_does accepted)
  | reEnrollWorker => exact committed_does fun accepted => reEnrollWorker_does _ accepted
  | revokeWorkerToken =>
      exact committed_does fun accepted => trivially (revokeWorkerToken_does sound accepted)
  | recoverExpiredLeases => exact trivially (recoverExpiredLeases_does sound)
  | createJob => exact committed_does fun accepted => trivially (createJob_does accepted)
  | cancelJob => exact committed_does fun accepted => trivially (cancelJob_does accepted)
  | retryJob => exact committed_does fun accepted => trivially (retryJob_does accepted)
  | claim | heartbeat | renewLease | updateJobStatus =>
      exact trivially (Operation.commit_of_worker rfl sound)

theorem perform_does (platform : Platform) (settings : Settings) (operation : Operation)
    (sound : Sound ledger.view) :
    Does (fun _ => True) ledger.view (perform platform settings ledger operation).view := by
  have started : Does (fun _ => True) ledger.view
      (operation.start platform settings ledger).view :=
    (operation.start_does sound).weaken fun _ _ => trivial
  exact started.trans (operation.commit_does (started.sound sound))

end

/-! ## The assignment ledger -/

structure OpenLease (ledger : Ledger) (workerId : WorkerId) (leaseId : LeaseId)
    (lease : LeaseRow) : Prop where
  found : ledger.leases.find? leaseId = some lease
  ofWorker : lease.workerId = workerId
  active : lease.active = true
  unreleased : lease.releasedAt = none

/-- The Worker's only open lease is on the Job, and the Job and its unfinished
current attempt agree. -/
structure Holds (ledger : Ledger) (workerId : WorkerId) (jobId : JobId) (leaseId : LeaseId)
    (lease : LeaseRow) (job : JobRow) (attempt : AttemptRow) : Prop
    extends OpenLease ledger workerId leaseId lease where
  only : ∀ {other otherLease}, OpenLease ledger workerId other otherLease → other = leaseId
  ofJob : lease.jobId = jobId
  jobFound : ledger.jobs.find? jobId = some job
  assigned : job.workerId = some workerId
  current : job.currentAttemptId = some lease.attemptId
  attemptFound : ledger.attempts.find? lease.attemptId = some attempt
  unfinished : attempt.finishedAt = none
  attemptJob : attempt.jobId = jobId
  attemptWorker : attempt.workerId = workerId
  sameStatus : attempt.status = job.status
  notQueued : job.status ≠ .queued
  notRetrying : job.status ≠ .retrying
  running : job.status ∉ terminalJobStatuses

structure AssignmentConsistent (ledger : Ledger) : Prop where
  /-- A Worker is bound to a Job exactly when it holds it. -/
  bound : ∀ {workerId worker}, ledger.workers.find? workerId = some worker → ∀ jobId,
    worker.currentJobId = some jobId ↔
      ∃ leaseId lease job attempt, Holds ledger workerId jobId leaseId lease job attempt
  /-- A Job has at most one open lease. -/
  oneLease : ∀ {left right leftWorker rightWorker leftLease rightLease},
    OpenLease ledger leftWorker left leftLease → OpenLease ledger rightWorker right rightLease →
    leftLease.jobId = rightLease.jobId → left = right
  /-- The attempts of a Job are numbered from one to its attempt count, each number
  once. -/
  numbered : ∀ {jobId job}, ledger.jobs.find? jobId = some job → ∀ number,
    (1 ≤ number ∧ number ≤ job.attemptCount ↔
      ∃ attemptId attempt, ledger.attempts.find? attemptId = some attempt ∧
        attempt.jobId = jobId ∧ attempt.attemptNumber = number) ∧
    ∀ {left right leftAttempt rightAttempt},
      ledger.attempts.find? left = some leftAttempt →
      ledger.attempts.find? right = some rightAttempt →
      leftAttempt.jobId = jobId → rightAttempt.jobId = jobId →
      leftAttempt.attemptNumber = number → rightAttempt.attemptNumber = number → left = right

section

variable {ledger : Ledger}

theorem OpenLease.isOpen {workerId : WorkerId} {leaseId : LeaseId} {lease : LeaseRow}
    (leaseOpen : OpenLease ledger workerId leaseId lease) : (Ledger.leaseState lease).Open :=
  ⟨leaseOpen.active, leaseOpen.unreleased⟩

/-- A row of the view is a row of the ledger. -/
theorem find?_map_eq_some {Key Row Image : Type} [DecidableEq Key] {project : Row → Image}
    {table : Table Key Row} {key : Key} {image : Image}
    (found : (table.map project).find? key = some image) :
    ∃ row, table.find? key = some row ∧ project row = image := by
  rwa [Table.find?_map, Option.map_eq_some_iff] at found

theorem holds_of_open (sound : Sound ledger.view) {workerId : WorkerId} {leaseId : LeaseId}
    {lease : LeaseRow} (leaseOpen : OpenLease ledger workerId leaseId lease) :
    ∃ job attempt, Holds ledger workerId lease.jobId leaseId lease job attempt := by
  rcases sound.openJob (leaseView leaseOpen.found) leaseOpen.isOpen with
    ⟨jobState, jobStateFound, assigned, current, leased⟩
  rcases find?_map_eq_some jobStateFound with ⟨job, jobFound, rfl⟩
  rcases sound.leaseAttempt (leaseView leaseOpen.found) with
    ⟨attemptState, attemptStateFound, attemptJob, attemptWorker, openIff⟩
  rcases find?_map_eq_some attemptStateFound with ⟨attempt, attemptFound, rfl⟩
  rcases binding_of_open sound leaseOpen.found leaseOpen.isOpen jobFound attemptFound with
    ⟨-, sameStatus, -, -⟩
  refine ⟨job, attempt, leaseOpen, ?_, rfl, jobFound, ?_, current, attemptFound,
    openIff.mp leaseOpen.isOpen, attemptJob, ?_, sameStatus, leased.1, leased.2.1, leased.2.2⟩
  · intro other otherLease otherOpen
    exact sound.worker_lease_unique (leaseView otherOpen.found) otherOpen.isOpen
      (leaseView leaseOpen.found) leaseOpen.isOpen
      (otherOpen.ofWorker.trans leaseOpen.ofWorker.symm)
  · exact assigned.trans (congrArg some leaseOpen.ofWorker)
  · exact attemptWorker.trans leaseOpen.ofWorker

theorem assignmentConsistent_of_sound (sound : Sound ledger.view) :
    AssignmentConsistent ledger where
  bound := by
    intro workerId worker workerFound jobId
    constructor
    · intro bound
      have boundView : ledger.view.workers.find? workerId = some (some jobId) := by
        rw [workerView workerFound, bound]
      rcases sound.boundWorker boundView with ⟨leaseId, state, found, leaseOpen, ofWorker, ofJob⟩
      rcases find?_map_eq_some found with ⟨lease, leaseFound, rfl⟩
      subst ofJob
      rcases holds_of_open sound ⟨leaseFound, ofWorker, leaseOpen.1, leaseOpen.2⟩ with
        ⟨job, attempt, holds⟩
      exact ⟨leaseId, lease, job, attempt, holds⟩
    · rintro ⟨leaseId, lease, job, attempt, holds⟩
      have boundView := sound.openWorker (leaseView holds.found) holds.isOpen
      rw [show (Ledger.leaseState lease).workerId = workerId from holds.ofWorker,
        workerView workerFound] at boundView
      injection boundView with bound
      rw [bound, ← holds.ofJob]
      rfl
  oneLease := by
    intro left right leftWorker rightWorker leftLease rightLease leftOpen rightOpen sameJob
    exact sound.open_lease_unique (leaseView leftOpen.found) leftOpen.isOpen
      (leaseView rightOpen.found) rightOpen.isOpen sameJob
  numbered := by
    intro jobId job jobFound number
    constructor
    · constructor
      · rintro ⟨positive, atMost⟩
        rcases sound.used (jobView jobFound) positive atMost with
          ⟨attemptId, state, found, ofJob, ofNumber⟩
        rcases find?_map_eq_some found with ⟨attempt, attemptFound, rfl⟩
        exact ⟨attemptId, attempt, attemptFound, ofJob, ofNumber⟩
      · rintro ⟨attemptId, attempt, attemptFound, ofJob, ofNumber⟩
        rcases sound.bounded (attemptView attemptFound) with ⟨state, found, positive, atMost⟩
        rw [show (Ledger.attemptState attempt).jobId = jobId from ofJob, jobView jobFound] at found
        injection found with same
        subst same ofNumber
        exact ⟨positive, atMost⟩
    · intro left right leftAttempt rightAttempt leftFound rightFound leftJob rightJob leftNumber
        rightNumber
      exact sound.unique (attemptView leftFound) (attemptView rightFound)
        (leftJob.trans rightJob.symm) (leftNumber.trans rightNumber.symm)

end

section Runs

variable (platform : Platform) (settings : Settings)

theorem sound_run (operations : List Operation) :
    Sound (run (perform platform settings) .empty operations).view := by
  refine run_preserves (fun ledger : Ledger => Sound ledger.view) ?_ ?_ operations
  · intro ledger operation sound
    exact (perform_does platform settings operation sound).sound sound
  · exact Sound.empty

/-- Whatever requests have been made, the four tables agree on who works on
what, and attempts are numbered without gaps. -/
theorem assignment_consistent (operations : List Operation) :
    AssignmentConsistent (run (perform platform settings) .empty operations) :=
  assignmentConsistent_of_sound (sound_run platform settings operations)

/-! ## The status history -/

/-- What no further request undoes. -/
structure Preserved (before after : Ledger) : Prop where
  /-- A finished attempt keeps its status and its end. -/
  finishedAttempt : ∀ {attemptId attempt}, before.attempts.find? attemptId = some attempt →
    attempt.finishedAt ≠ none → ∃ later, after.attempts.find? attemptId = some later ∧
      later.status = attempt.status ∧ later.finishedAt = attempt.finishedAt
  closedJob : ∀ {jobId job}, before.jobs.find? jobId = some job →
    job.status = .completed ∨ job.status = .cancelled →
    ∃ later, after.jobs.find? jobId = some later ∧ later.status = job.status
  /-- A requested cancellation is the only end its attempt can have. -/
  cancellation : ∀ {jobId job attemptId}, before.jobs.find? jobId = some job →
    job.status.Leased → job.cancelRequestedAt ≠ none → job.currentAttemptId = some attemptId →
    ∃ later, after.attempts.find? attemptId = some later ∧
      (later.status.Terminal → later.status = .cancelled)

/-- No Job has been moved to `queued` or `retrying`, neither by an event nor in
its row. -/
structure QueueUntouched (before after : Ledger) : Prop where
  events : ∃ new, after.events = before.events ++ new ∧
    ∀ event ∈ new, event.status ≠ .queued ∧ event.status ≠ .retrying
  jobs : ∀ {jobId job}, after.jobs.find? jobId = some job →
    job.status = .queued ∨ job.status = .retrying →
    ∃ earlier, before.jobs.find? jobId = some earlier ∧ earlier.status = job.status

theorem Does.history {permitted : Action → Prop} {first last : State}
    (does : Does permitted first last) (history : History first) : History last := by
  rcases does with ⟨_, _, steps⟩
  exact steps.preserves (fun _ _ _ step holds => holds.step step) history

theorem preserved_of_does {permitted : Action → Prop} {before after : Ledger}
    (sound : Sound before.view) (does : Does permitted before.view after.view) :
    Preserved before after := by
  rcases does with ⟨actions, -, steps⟩
  have later := Assignment.Steps.later steps
  constructor
  case finishedAttempt =>
    intro attemptId attempt found finished
    rcases find?_map_eq_some (later.finishedAttempt (attemptView found) finished) with
      ⟨row, rowFound, same⟩
    exact ⟨row, rowFound, congrArg Assignment.AttemptState.status same,
      congrArg Assignment.AttemptState.finishedAt same⟩
  case closedJob =>
    intro jobId job found closed
    rcases later.closedJob (jobView found) closed with ⟨state, stateFound, same⟩
    rcases find?_map_eq_some stateFound with ⟨row, rowFound, rfl⟩
    exact ⟨row, rowFound, same⟩
  case cancellation =>
    intro jobId job attemptId found leased requested current
    rcases sound.currentAttempt (jobView found) current with
      ⟨attempt, attemptFound, ofJob, sameStatus⟩
    have unfinished : attempt.finishedAt = none := by
      rw [sound.attemptOver attemptFound, sameStatus]
      exact leased.2.2
    have condemned : Condemned attemptId before.view :=
      ⟨attempt, attemptFound, .inl ⟨unfinished, _, ofJob ▸ jobView found, current, requested⟩⟩
    rcases condemned.steps sound steps with ⟨state, stateFound, running | cancelled⟩
    · rcases find?_map_eq_some stateFound with ⟨row, rowFound, rfl⟩
      refine ⟨row, rowFound, ?_⟩
      intro terminal
      exact absurd terminal (((sound.steps steps).attemptOver stateFound).mp running.1)
    · rcases find?_map_eq_some stateFound with ⟨row, rowFound, rfl⟩
      exact ⟨row, rowFound, fun _ => cancelled.2⟩

theorem queueUntouched_of_does {before after : Ledger}
    (does : Does Action.LeavesQueue before.view after.view) : QueueUntouched before after := by
  rcases does with ⟨actions, leave, steps⟩
  have nothing := Assignment.Steps.nothingQueued steps leave
  constructor
  case events =>
    rcases nothing.events with ⟨new, appended, moves⟩
    exact ⟨new, appended, fun event member => not_or.mp (moves event member)⟩
  case jobs =>
    intro jobId job found waits
    have status : after.view.statusOf jobId = some job.status := by
      rw [State.statusOf, jobView found]
      rfl
    have earlier := nothing.jobs status waits
    rw [State.statusOf, Option.map_eq_some_iff] at earlier
    rcases earlier with ⟨state, stateFound, same⟩
    rcases find?_map_eq_some stateFound with ⟨row, rowFound, rfl⟩
    exact ⟨row, rowFound, same⟩

theorem history_run (operations : List Operation) :
    History (run (perform platform settings) .empty operations).view := by
  have both : Sound (run (perform platform settings) .empty operations).view ∧
      History (run (perform platform settings) .empty operations).view := by
    refine run_preserves (fun ledger : Ledger => Sound ledger.view ∧ History ledger.view) ?_ ?_
      operations
    · rintro ledger operation ⟨sound, history⟩
      have does := perform_does platform settings operation sound
      exact ⟨does.sound sound, does.history history⟩
    · exact ⟨Sound.empty, History.empty⟩
  exact both.2

theorem run_does {ledger : Ledger} (sound : Sound ledger.view) (operations : List Operation) :
    Does (fun _ => True) ledger.view (run (perform platform settings) ledger operations).view := by
  induction operations generalizing ledger with
  | nil => exact Does.nothing _ _
  | cons operation operations induction =>
      have first := perform_does platform settings operation sound
      exact first.trans (induction (first.sound sound))

/-- The events of a Job are a path of the transition table that ends in its
status, what is over stays over, and a Worker's request fills the queue only
through the lease recovery it runs first. -/
theorem status_history (operations : List Operation) :
    let ledger := run (perform platform settings) .empty operations
    (∀ jobId, Path none (eventsOf jobId ledger.events)
      ((ledger.jobs.find? jobId).map JobRow.status)) ∧
    (∀ further, Preserved ledger (run (perform platform settings) ledger further)) ∧
    ∀ operation : Operation, operation.ofWorker = true →
      QueueUntouched (operation.start platform settings ledger)
        (perform platform settings ledger operation) := by
  intro ledger
  have sound : Sound ledger.view := sound_run platform settings operations
  refine ⟨?_, ?_, ?_⟩
  · intro jobId
    have path := history_run platform settings operations jobId
    rwa [State.statusOf, view_jobs, Table.find?_map, Option.map_map] at path
  · intro further
    exact preserved_of_does sound (run_does platform settings sound further)
  · intro operation ofWorker
    exact queueUntouched_of_does
      (Operation.commit_of_worker ofWorker ((operation.start_does sound).sound sound))

end Runs

/-! ## Recovery inside a Worker's request -/

theorem recoverLease_of_abandoned {platform : Platform} {settings : Settings} {ledger : Ledger}
    {leaseId : LeaseId} {recoveredAt : Time} {lease : LeaseRow} {worker : WorkerRow}
    {job : JobRow} {attempt : AttemptRow} {config : JobConfig}
    (leaseFound : ledger.leases.find? leaseId = some lease)
    (workerFound : ledger.workers.find? lease.workerId = some worker)
    (jobFound : ledger.jobs.find? lease.jobId = some job)
    (attemptFound : ledger.attempts.find? lease.attemptId = some attempt)
    (current : job.currentAttemptId = some lease.attemptId)
    (unfinished : attempt.finishedAt = none)
    (silent : (worker.lastHeartbeatAt.any fun heartbeat =>
      decide (recoveredAt - seconds settings.workerOfflineSeconds < heartbeat)) = false)
    (valid : validatedJobConfig platform lease.jobId job (some attempt) = .ok config) :
    recoverLease platform settings recoveredAt ledger leaseId =
      closeAbandoned settings ledger leaseId lease job true recoveredAt := by
  simp [recoverLease, leaseFound, workerFound, jobFound, attemptFound, current, unfinished,
    silent, valid, Except.toOption]

def sampleAdmission : JobAdmission where
  experimentDatasetId := some "data-1"
  ownsExperiment := true
  datasetReady := true
  sampleGate := .error ⟨404, "test set not found"⟩

def arrival : List Operation :=
  [.registerWorker .verified 1 ⟨"worker-1", sampleCapabilities⟩ 0,
    .registerWorker .verified 2 ⟨"worker-2", sampleCapabilities⟩ 0,
    .createJob sampleAdmission 1 plainConfig 0]

def abandonment : Operation := .claim ⟨1000, []⟩ sampleRequest

def idleHeartbeat : Operation :=
  .heartbeat ⟨seconds 600, []⟩ 2
    { status := .idle
      capabilities := sampleCapabilities
      current := none
      busyHasJob := by decide
      idleHasNone := by decide } (seconds 600)

def queuedLedger : Ledger :=
  { Ledger.empty with
    workers := (Table.single 1 sampleWorker).insert 2
      { sampleWorker with name := "worker-2" } rfl
    jobs := .single 1 (createdJob samplePlatform plainConfig 0)
    events := [⟨1, none, none, .queued, 0, .manager⟩]
    outbox := [.jobCreated 1] }

def heldLedger : Ledger :=
  assignJob sampleSettings queuedLedger sampleRequest 1 (createdJob samplePlatform plainConfig 0)
    (samplePlatform.configSha256 plainConfig) rfl rfl

set_option maxRecDepth 4000 in
theorem run_arrival : run (perform samplePlatform sampleSettings) .empty arrival = queuedLedger :=
  rfl

theorem validateDatasetTransfer_sample (request : ClaimRequest) (job : JobRow) :
    (claimOf sampleSettings request 1 job plainConfig.normal
      (samplePlatform.configSha256 plainConfig)
      (some (sampleTransfer 1), none)).validateDatasetTransfer samplePlatform.sha256 = .ok () := by
  have hash : jobConfigSha256 samplePlatform.sha256 plainConfig.normal.modelDump =
      samplePlatform.configSha256 plainConfig := configSha256_normal ..
  simp only [JobClaim.validateDatasetTransfer, claimOf, hash, ne_eq, not_true_eq_false, if_false]
  rfl

/-- A claim of the one queued Job. -/
theorem claimJob_sample {ledger : Ledger} {request : ClaimRequest} {job : JobRow}
    (ready : ReadyToClaim ledger request.workerId)
    (candidates : claimCandidates ledger = [(1, job)])
    (valid : validatedJobConfig samplePlatform 1 job none = .ok plainConfig.normal)
    (offered : offeredInputs sampleSettings request 1 job plainConfig.normal =
      .ok (some (some (sampleTransfer 1), none)))
    (hash : job.configSha256 = some (samplePlatform.configSha256 plainConfig))
    (freshAttempt : ledger.attempts.find? request.attemptId = none)
    (freshLease : ledger.leases.find? request.leaseId = none) :
    claimJob samplePlatform sampleSettings ledger request =
      .ok (some (claimOf sampleSettings request 1 job plainConfig.normal
          (samplePlatform.configSha256 plainConfig) (some (sampleTransfer 1), none)),
        assignJob sampleSettings ledger request 1 job (samplePlatform.configSha256 plainConfig)
          freshAttempt freshLease) := by
  rw [claimJob_of_ready ready, candidates, claimFirst, valid]
  simp only [offered]
  exact commitClaim_of_valid freshAttempt freshLease hash (validateDatasetTransfer_sample _ _)

theorem claimJob_queuedLedger :
    claimJob samplePlatform sampleSettings queuedLedger sampleRequest =
      .ok (some (claimOf sampleSettings sampleRequest 1 (createdJob samplePlatform plainConfig 0)
        plainConfig.normal (samplePlatform.configSha256 plainConfig)
        (some (sampleTransfer 1), none)), heldLedger) := by
  have ready : ReadyToClaim queuedLedger sampleRequest.workerId :=
    ⟨sampleWorker, rfl, rfl, rfl, by decide, rfl⟩
  have candidates : claimCandidates queuedLedger =
      [(1, createdJob samplePlatform plainConfig 0)] := rfl
  have valid : validatedJobConfig samplePlatform 1 (createdJob samplePlatform plainConfig 0)
      none = .ok plainConfig.normal :=
    validatedJobConfig_readBack (storesConfig_createdJob ..)
      (show PyFloat.zero.Small by decide +kernel) (Json.readBack_copy _) rfl (by simp)
  have offered : offeredInputs sampleSettings sampleRequest 1
      (createdJob samplePlatform plainConfig 0) plainConfig.normal =
        .ok (some (some (sampleTransfer 1), none)) := by
    decide +kernel
  exact claimJob_sample ready candidates valid offered rfl rfl rfl

theorem perform_abandonment :
    perform samplePlatform sampleSettings queuedLedger abandonment = heldLedger := by
  have start : Operation.start samplePlatform sampleSettings queuedLedger abandonment =
      queuedLedger := rfl
  rw [perform, start, abandonment, Operation.commit, claimJob_queuedLedger]
  rfl

theorem run_heldLedger :
    run (perform samplePlatform sampleSettings) .empty (arrival ++ [abandonment]) =
      heldLedger := by
  rw [run_append, run_arrival, run_cons, run_nil, perform_abandonment]

def heldJob : JobRow :=
  { createdJob samplePlatform plainConfig 0 with
    status := .assigned
    workerId := some 1
    attemptCount := 1
    currentAttemptId := some 1
    startedAt := some 1000 }

def heldAttempt : AttemptRow where
  jobId := 1
  workerId := 1
  attemptNumber := 1
  engineMode := .rvcWebui
  runtimeImageDigest := sampleCapabilities.runtimeImageDigest
  runtimeAssetManifestSha256 := sampleCapabilities.runtimeAssetManifestSha256
  jobConfigSha256 := some (samplePlatform.configSha256 plainConfig)
  status := .assigned
  startedAt := 1000
  finishedAt := none
  errorCode := none
  errorMessage := none
  telemetryCounts := none

def heldLease : LeaseRow where
  jobId := 1
  attemptId := 1
  workerId := 1
  expiresAt := leaseExpiry sampleSettings 1000
  lastRenewedAt := 1000
  releasedAt := none
  active := true

def heldWorker : WorkerRow :=
  { sampleWorker with
    status := .busy
    currentJobId := some 1
    lastHeartbeatAt := some 1000 }

theorem heldLedger_lease : heldLedger.leases.find? 1 = some heldLease := rfl

theorem heldLedger_job : heldLedger.jobs.find? 1 = some heldJob := rfl

theorem heldLedger_attempt : heldLedger.attempts.find? 1 = some heldAttempt := rfl

theorem heldLedger_worker : heldLedger.workers.find? 1 = some heldWorker := rfl

/-- A Job keeps its snapshot whatever its status. -/
theorem validatedJobConfig_sample {job : JobRow} {attempt : Option AttemptRow}
    (stores : StoresConfig plainConfig job)
    (document : job.configJson = plainConfig.modelDump.copy)
    (hash : job.configSha256 = some (samplePlatform.configSha256 plainConfig))
    (ofAttempt : ∀ row ∈ attempt, row.jobId = 1 ∧ row.jobConfigSha256 = job.configSha256) :
    validatedJobConfig samplePlatform 1 job attempt = .ok plainConfig.normal :=
  validatedJobConfig_readBack stores (show PyFloat.zero.Small by decide +kernel)
    (document ▸ Json.readBack_copy _) hash ofAttempt

theorem validatedJobConfig_heldJob :
    validatedJobConfig samplePlatform 1 heldJob (some heldAttempt) = .ok plainConfig.normal := by
  have stores := storesConfig_createdJob samplePlatform plainConfig 0
  exact validatedJobConfig_sample
    ⟨stores.jobName, stores.experimentId, stores.datasetId, stores.totalEpoch, stores.priority,
      stores.testSetId⟩ rfl rfl (by simp [heldAttempt, heldJob, createdJob])

theorem recover_heldLedger :
    recover samplePlatform sampleSettings heldLedger ⟨seconds 600, []⟩ =
      closeAbandoned sampleSettings heldLedger 1 heldLease heldJob true (seconds 600) := by
  have expired : expiredLeases heldLedger (seconds 600) 100 [] = [1] := by decide +kernel
  have silent : ((some 1000 : Option Time).any fun heartbeat =>
      decide (seconds 600 - seconds sampleSettings.workerOfflineSeconds < heartbeat)) = false := by
    decide +kernel
  rw [recover, recoverExpiredLeases, expired]
  exact recoverLease_of_abandoned heldLedger_lease heldLedger_worker heldLedger_job
    heldLedger_attempt rfl rfl silent validatedJobConfig_heldJob

/-- The heartbeat of one Worker puts the abandoned Job of another back into the
queue. -/
theorem heartbeat_requeues :
    ¬∀ operations operation, Operation.ofWorker operation = true →
      QueueUntouched (run (perform samplePlatform sampleSettings) .empty operations)
        (perform samplePlatform sampleSettings
          (run (perform samplePlatform sampleSettings) .empty operations) operation) := by
  intro untouched
  have sameJobs : ∀ ledger : Ledger,
      (Operation.commit samplePlatform sampleSettings ledger idleHeartbeat).jobs =
        ledger.jobs := by
    intro ledger
    simp only [idleHeartbeat, Operation.commit, heartbeat]
    split
    · rfl
    · split <;> rfl
  have requeued : ((perform samplePlatform sampleSettings heldLedger idleHeartbeat).jobs.find?
      1).map JobRow.status = some .queued := by
    rw [perform, sameJobs, idleHeartbeat, Operation.start, recover_heldLedger, closeAbandoned,
      heldLease]
    simp only [Table.find?_modify_self, heldLedger_job]
    rfl
  rcases Option.map_eq_some_iff.mp requeued with ⟨job, found, queued⟩
  have kept := untouched (arrival ++ [abandonment]) idleHeartbeat rfl
  rw [run_heldLedger] at kept
  rcases kept.jobs found (.inl queued) with ⟨earlier, earlierFound, same⟩
  rw [heldLedger_job] at earlierFound
  injection earlierFound with equal
  rw [← equal, queued] at same
  cases same

/-! ## The columns of a row -/

/-- What the columns of one row say about each other, and a Job's status about its lease. -/
structure RowsSettled (ledger : Ledger) : Prop where
  attempt : ∀ attemptId attempt, ledger.attempts.find? attemptId = some attempt →
    (attempt.finishedAt = none ↔ attempt.status ∉ terminalJobStatuses)
  lease : ∀ leaseId lease, ledger.leases.find? leaseId = some lease →
    (lease.active = true ↔ lease.releasedAt = none)
  queued : ∀ jobId job, ledger.jobs.find? jobId = some job → job.status = .queued →
    job.workerId = none ∧ job.currentAttemptId = none ∧ job.cancelRequestedAt = none
  unretried : ∀ jobId job, ledger.jobs.find? jobId = some job → job.status ≠ .retrying
  failed : ∀ jobId job, ledger.jobs.find? jobId = some job → job.status = .failed →
    job.cancelRequestedAt = none
  leased : ∀ jobId job, ledger.jobs.find? jobId = some job →
    (job.status ≠ .queued ∧ job.status ∉ terminalJobStatuses ↔
      ∃ workerId leaseId lease, OpenLease ledger workerId leaseId lease ∧ lease.jobId = jobId)

/-- Whatever requests have been made, a Job is being worked on exactly while a lease on it is open,
an attempt has ended exactly if its status is terminal, and nothing is left on a queued Job. -/
theorem rows_settled (operations : List Operation) :
    RowsSettled (run (perform platform settings) .empty operations) := by
  have sound := sound_run platform settings operations
  constructor
  · exact fun _ _ found => sound.attemptOver (attemptView found)
  · exact fun _ _ found => sound.activeOpen (leaseView found)
  · exact fun _ _ found => sound.queuedJob (jobView found)
  · exact fun _ _ found => sound.neverRetrying (jobView found)
  · exact fun _ _ found => sound.failedJob (jobView found)
  · intro jobId job found
    constructor
    · rintro ⟨started, running⟩
      rcases sound.leasedJob (jobView found)
        ⟨started, sound.neverRetrying (jobView found), running⟩ with
        ⟨leaseId, state, stateFound, isOpen, ofJob⟩
      rcases find?_map_eq_some stateFound with ⟨lease, leaseFound, rfl⟩
      exact ⟨lease.workerId, leaseId, lease, ⟨leaseFound, rfl, isOpen.1, isOpen.2⟩, ofJob⟩
    · rintro ⟨workerId, leaseId, lease, leaseOpen, rfl⟩
      rcases holds_of_open sound leaseOpen with ⟨other, attempt, holds⟩
      cases Option.some.inj (found.symm.trans holds.jobFound)
      exact ⟨holds.notQueued, holds.running⟩

end RvcOrchestrator.Manager

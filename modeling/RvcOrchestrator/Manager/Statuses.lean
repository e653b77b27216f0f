import RvcOrchestrator.Manager.Claims

/-! # Status updates

A Worker's status update first validates the transition on what it reads
without locks, then takes the locks in the canonical order and validates
everything again before it writes. Between the two the ledger may have changed,
so the first read is of an arbitrary earlier ledger.
-/

namespace RvcOrchestrator.Manager

open RvcOrchestrator.Foundation RvcOrchestrator.Contracts

/-! ## Checks -/

def validateCurrentEpoch (job : JobRow) (currentEpoch : Option (IntFrom 0)) :
    Except HttpError Unit :=
  match currentEpoch with
  | none => .ok ()
  | some epoch =>
      if job.totalEpoch < epoch.1 then .error ⟨422, "current_epoch exceeds total_epoch"⟩
      else if job.currentEpoch.any fun stored => epoch.1 < stored then
        .error ⟨409, "current_epoch cannot move backwards"⟩
      else .ok ()

/-- The artifact types of the current attempt that a query finds registered. -/
structure ArtifactInventory where
  finalSmallModel : Bool
  finalIndex : Bool

def requiredArtifactsExist (platform : Platform) (ledger : Ledger) (jobId : JobId)
    (job : JobRow) (inventory : ArtifactInventory) : Bool :=
  match job.currentAttemptId.bind ledger.attempts.find? with
  | none => false
  | some attempt =>
      match validatedJobConfig platform jobId job (some attempt) with
      | .error _ => false
      | .ok config =>
          (!config.artifacts.collectSmallModel || inventory.finalSmallModel) &&
            (!(config.index.buildIndex && config.index.collectAddedIndex &&
              config.artifacts.collectIndex) || inventory.finalIndex)

/-- The answer of the sample verification, which may be unavailable. -/
inductive SampleCompletion where
  | ready
  | incomplete
  | unavailable
deriving DecidableEq

/-- The transition, cancellation and epoch checks, made on every row the request
reads. -/
def validateTarget (job : JobRow) (update : JobStatusUpdate) : Except HttpError JobStatus :=
  match validateJobTransition job.status update.status with
  | .error invalid => .error ⟨409, invalid.message⟩
  | .ok target =>
      if job.cancelRequestedAt.isSome && target ≠ .cancelled then
        .error ⟨409, "job cancellation superseded status update"⟩
      else .ok target

/-- The unlocked reads: which attempt the request is about and which status it
expects to find again. -/
def precheckStatus (platform : Platform) (earlier : Ledger) (workerId : WorkerId)
    (jobId : JobId) (update : JobStatusUpdate) (inventory : ArtifactInventory)
    (samples : SampleCompletion) (now : Time) : Except HttpError (AttemptId × JobStatus) :=
  match requireActiveLease platform earlier workerId jobId update.leaseId now with
  | .error error => .error error
  | .ok lease =>
      match earlier.jobs.find? jobId with
      | none => .error ⟨409, "job attempt is no longer current"⟩
      | some job =>
          match validateCurrentEpoch job update.currentEpoch, validateTarget job update with
          | .error error, _ => .error error
          | .ok (), .error error => .error error
          | .ok (), .ok target =>
              if target = .completed ∧
                  requiredArtifactsExist platform earlier jobId job inventory = false then
                .error ⟨409, "required artifacts are not registered"⟩
              else if target = .completed ∧ samples = .unavailable then
                .error ⟨503, "sample completion verification is temporarily unavailable"⟩
              else if target = .completed ∧ samples = .incomplete then
                .error ⟨409, "required samples are not registered"⟩
              else .ok (lease.attemptId, job.status)

structure StatusClaim where
  lease : LeaseRow
  job : JobRow
  attempt : AttemptRow
  worker : WorkerRow

def lockCurrentStatusClaim (platform : Platform) (ledger : Ledger) (workerId : WorkerId)
    (jobId : JobId) (attemptId : AttemptId) (leaseId : LeaseId) (expectedStatus : JobStatus)
    (now : Time) : Except HttpError StatusClaim :=
  let changed : Except HttpError StatusClaim :=
    .error ⟨409, "job claim changed before status commit"⟩
  match ledger.jobs.find? jobId, ledger.attempts.find? attemptId with
  | some job, some attempt =>
      if (validatedJobConfig platform jobId job (some attempt)).toOption.isNone then
        .error ⟨409, "job configuration integrity check failed"⟩
      else
        match ledger.leases.find? leaseId, ledger.workers.find? workerId with
        | some lease, some worker =>
            if lease.active = false ∨ lease.releasedAt ≠ none ∨ lease.expiresAt ≤ now ∨
                lease.jobId ≠ jobId ∨ lease.attemptId ≠ attemptId ∨ lease.workerId ≠ workerId ∨
                job.workerId ≠ some workerId ∨ job.currentAttemptId ≠ some attemptId ∨
                job.status ≠ expectedStatus ∨ job.status ∈ terminalJobStatuses ∨
                attempt.jobId ≠ jobId ∨ attempt.workerId ≠ workerId ∨
                attempt.finishedAt ≠ none ∨ attempt.status ≠ expectedStatus ∨
                attempt.status ∈ terminalJobStatuses ∨ worker.isActive = false ∨
                worker.currentJobId ≠ some jobId then
              changed
            else .ok ⟨lease, job, attempt, worker⟩
        | _, _ => changed
  | _, _ => changed

def maxSequence (sequences : List Nat) : Option Nat := sequences.max?

def logSequences (ledger : Ledger) (attemptId : AttemptId) : List Nat :=
  (ledger.logs.filter fun row => row.attemptId = attemptId).map JobLog.sequence

def metricSequences (ledger : Ledger) (attemptId : AttemptId) : List Nat :=
  (ledger.metrics.filter fun row => row.attemptId = attemptId).map Metric.sequence

def validateTerminalTelemetryWatermarks (ledger : Ledger) (attemptId : AttemptId)
    (counts : Option (Nat × Nat)) : Except HttpError Unit :=
  match counts with
  | none => .ok ()
  | some (logCount, metricCount) =>
      if (maxSequence (logSequences ledger attemptId)).any fun sequence =>
          logCount ≤ sequence then
        .error ⟨409, "telemetry_log_count is below an ingested sequence"⟩
      else if (maxSequence (metricSequences ledger attemptId)).any fun sequence =>
          metricCount ≤ sequence then
        .error ⟨409, "telemetry_metric_count is below an ingested sequence"⟩
      else .ok ()

/-! ## The write -/

structure StatusAck where
  jobId : JobId
  status : JobStatus
  leaseExpiresAt : Option Time
deriving DecidableEq

/-- The columns every accepted update writes. -/
def recordUpdate (update : JobStatusUpdate) (row : JobRow) : JobRow :=
  { row with
    currentEpoch :=
      match update.currentEpoch with
      | some epoch => some epoch.1
      | none => row.currentEpoch
    errorCode := update.errorCode
    errorMessage := update.errorMessage }

def statusEvents (jobId : JobId) (attemptId : AttemptId) (previous target : JobStatus)
    (occurredAt : Time) : List JobStatusEvent :=
  if previous = target then []
  else [⟨jobId, some attemptId, some previous, target, occurredAt, .worker⟩]

def writeRunning (ledger : Ledger) (jobId : JobId) (attemptId : AttemptId)
    (update : JobStatusUpdate) (previous target : JobStatus) : Ledger :=
  { ledger with
    jobs := ledger.jobs.modify jobId fun row => { recordUpdate update row with status := target }
    attempts := ledger.attempts.modify attemptId fun row => { row with
      status := target
      errorCode := update.errorCode
      errorMessage := update.errorMessage }
    events := ledger.events ++ statusEvents jobId attemptId previous target update.occurredAt }

def writeTerminal (settings : Settings) (ledger : Ledger) (workerId : WorkerId) (jobId : JobId)
    (attemptId : AttemptId) (update : JobStatusUpdate) (previous target : JobStatus)
    (now : Time) : Ledger :=
  { ledger with
    jobs := ledger.jobs.modify jobId fun row => { recordUpdate update row with
      status := target
      completedAt := if target = .completed then some now else row.completedAt }
    attempts := ledger.attempts.modify attemptId fun row => { row with
      status := target
      errorCode := update.errorCode
      errorMessage := update.errorMessage
      telemetryCounts := update.telemetryCounts
      finishedAt := some now }
    leases := ledger.leases.modify update.leaseId fun row => { row with
      active := false
      releasedAt := some now }
    workers := ledger.workers.modify workerId fun row => { row with
      currentJobId := none
      status := .idle }
    events := ledger.events ++ statusEvents jobId attemptId previous target update.occurredAt
    outbox := enqueue settings (.terminal jobId attemptId target now) ledger.outbox }

/-- The clock readings of the request, in the order in which it makes them. -/
structure StatusClock where
  checkedAt : Time
  lockedAt : Time
  fencedAt : Time
  now : Time

/-- The locked part of the request. A terminal status takes the write fence and
the locks once more. -/
def commitStatus (platform : Platform) (settings : Settings) (ledger : Ledger)
    (workerId : WorkerId) (jobId : JobId) (update : JobStatusUpdate) (attemptId : AttemptId)
    (expectedStatus : JobStatus) (inventory : ArtifactInventory) (clock : StatusClock) :
    Outcome StatusAck :=
  match lockCurrentStatusClaim platform ledger workerId jobId attemptId update.leaseId
    expectedStatus clock.lockedAt with
  | .error error => .error error
  | .ok claim =>
      match validateTarget claim.job update, validateCurrentEpoch claim.job update.currentEpoch with
      | .error error, _ => .error error
      | .ok _, .error error => .error error
      | .ok target, .ok () =>
          if target ∈ terminalJobStatuses then
            match lockCurrentStatusClaim platform ledger workerId jobId attemptId update.leaseId
              expectedStatus clock.fencedAt with
            | .error error => .error error
            | .ok _ =>
                if target = .completed ∧
                    requiredArtifactsExist platform ledger jobId claim.job inventory = false then
                  reject 409 "required artifacts changed before commit"
                else
                  match validateTerminalTelemetryWatermarks ledger attemptId
                    update.telemetryCounts with
                  | .error error => .error error
                  | .ok () => .ok (⟨jobId, target, none⟩,
                      writeTerminal settings ledger workerId jobId attemptId update
                        claim.job.status target clock.now)
          else .ok (⟨jobId, target, some claim.lease.expiresAt⟩,
            writeRunning ledger jobId attemptId update claim.job.status target)

theorem commitStatus_of_terminal {platform : Platform} {settings : Settings} {ledger : Ledger}
    {workerId : WorkerId} {jobId : JobId} {update : JobStatusUpdate} {attemptId : AttemptId}
    {expectedStatus target : JobStatus} {inventory : ArtifactInventory} {clock : StatusClock}
    {claim fenced : StatusClaim}
    (locked : lockCurrentStatusClaim platform ledger workerId jobId attemptId update.leaseId
      expectedStatus clock.lockedAt = .ok claim)
    (stillLocked : lockCurrentStatusClaim platform ledger workerId jobId attemptId update.leaseId
      expectedStatus clock.fencedAt = .ok fenced)
    (targeted : validateTarget claim.job update = .ok target)
    (epoch : validateCurrentEpoch claim.job update.currentEpoch = .ok ())
    (terminal : target ∈ terminalJobStatuses) (incomplete : target ≠ .completed)
    (counted : validateTerminalTelemetryWatermarks ledger attemptId update.telemetryCounts =
      .ok ()) :
    commitStatus platform settings ledger workerId jobId update attemptId expectedStatus inventory
      clock = .ok (⟨jobId, target, none⟩, writeTerminal settings ledger workerId jobId attemptId
        update claim.job.status target clock.now) := by
  simp [commitStatus, locked, targeted, epoch, terminal, stillLocked, incomplete, counted]

def updateJobStatus (platform : Platform) (settings : Settings) (earlier ledger : Ledger)
    (workerId : WorkerId) (jobId : JobId) (update : JobStatusUpdate)
    (inventory : ArtifactInventory) (samples : SampleCompletion)
    (inventoryAtCommit : ArtifactInventory) (clock : StatusClock) : Outcome StatusAck :=
  match precheckStatus platform earlier workerId jobId update inventory samples
    clock.checkedAt with
  | .error error => .error error
  | .ok (attemptId, expectedStatus) =>
      commitStatus platform settings ledger workerId jobId update attemptId expectedStatus
        inventoryAtCommit clock

theorem updateJobStatus_of_checked {platform : Platform} {settings : Settings}
    {earlier ledger : Ledger} {workerId : WorkerId} {jobId : JobId} {update : JobStatusUpdate}
    {inventory : ArtifactInventory} {samples : SampleCompletion}
    {inventoryAtCommit : ArtifactInventory} {clock : StatusClock} {attemptId : AttemptId}
    {expectedStatus : JobStatus}
    (checked : precheckStatus platform earlier workerId jobId update inventory samples
      clock.checkedAt = .ok (attemptId, expectedStatus)) :
    updateJobStatus platform settings earlier ledger workerId jobId update inventory samples
        inventoryAtCommit clock =
      commitStatus platform settings ledger workerId jobId update attemptId expectedStatus
        inventoryAtCommit clock := by
  simp [updateJobStatus, checked]

end RvcOrchestrator.Manager

import RvcOrchestrator.Manager.JobConfigs

/-! # Worker requests and lease recovery

Registration, heartbeats, lease renewal, revocation, and the recovery of leases
whose Worker has gone silent. Authentication has already happened when these run;
what a request reads before it takes its locks is an argument, so that nothing
is assumed about when it was read.
-/

namespace RvcOrchestrator.Manager

open RvcOrchestrator.Foundation RvcOrchestrator.Contracts

/-! ## Registration -/

/-- The outcome of comparing the presented bootstrap token. -/
inductive BootstrapToken where
  | disabled
  | invalid
  | verified
deriving DecidableEq

def registerWorker (ledger : Ledger) (bootstrap : BootstrapToken) (workerId : WorkerId)
    (payload : WorkerRegisterRequest) (now : Time) : Outcome WorkerId :=
  match bootstrap with
  | .disabled => reject 503 "worker registration is disabled"
  | .invalid => reject 401 "invalid worker bootstrap token"
  | .verified =>
      if ledger.workers.rows.any fun row => row.2.name = payload.name then
        reject 409 "worker name already registered"
      else if fresh : ledger.workers.find? workerId = none then
        .ok (workerId, { ledger with
          workers := ledger.workers.insert workerId
            { name := payload.name
              status := .idle
              capabilities := payload.capabilities
              lastHeartbeatAt := some now
              currentJobId := none
              isActive := true
              pendingTokenHash := none } fresh })
      else identifierTaken

/-- The active, unreleased leases of a Worker, in the order of their identifiers. -/
def openLeases (ledger : Ledger) (workerId : WorkerId) : List (LeaseId × LeaseRow) :=
  (ledger.leases.rows.filter fun row =>
    row.2.workerId = workerId && row.2.active && row.2.releasedAt.isNone).insertionSort
      fun left right => left.1 ≤ right.1

def reEnrollWorker (ledger : Ledger) (bootstrap : BootstrapToken)
    (payload : WorkerReEnrollRequest) : Outcome WorkerId :=
  match bootstrap with
  | .disabled => reject 503 "worker re-enrollment is disabled"
  | .invalid => reject 401 "invalid worker bootstrap token"
  | .verified =>
      match ledger.workers.find? payload.workerId with
      | none => reject 401 "invalid worker token"
      | some worker =>
          if worker.name ≠ payload.name then
            reject 409 "Worker re-enrollment identity does not match"
          else if worker.isActive || worker.currentJobId.isSome ||
              !(openLeases ledger payload.workerId).isEmpty then
            reject 409 "only an inactive unassigned Worker can be re-enrolled"
          else
            .ok (payload.workerId, { ledger with
              workers := ledger.workers.modify payload.workerId fun row => { row with
                status := .idle
                capabilities := payload.capabilities
                lastHeartbeatAt := none
                isActive := true
                pendingTokenHash := none } })

/-! ## Revocation -/

def deactivateWorker (workers : Table WorkerId WorkerRow) (workerId : WorkerId) :
    Table WorkerId WorkerRow :=
  workers.modify workerId fun row => { row with
    isActive := false
    status := .draining
    currentJobId := none
    pendingTokenHash := none }

def cancelAssignment (settings : Settings) (ledger : Ledger) (workerId : WorkerId)
    (leaseId : LeaseId) (lease : LeaseRow) (previous : JobStatus) (now : Time) : Ledger :=
  { ledger with
    workers := deactivateWorker ledger.workers workerId
    jobs := ledger.jobs.modify lease.jobId fun row => { row with
      status := .cancelled
      cancelRequestedAt := some now
      errorCode := some "worker_token_emergency_revoked"
      errorMessage :=
        some "The assigned Worker credential was revoked by an administrator." }
    attempts := ledger.attempts.modify lease.attemptId fun row => { row with
      status := .cancelled
      errorCode := some "worker_token_emergency_revoked"
      errorMessage :=
        some "The assigned Worker credential was revoked by an administrator."
      finishedAt := some now }
    leases := ledger.leases.modify leaseId fun row => { row with
      active := false
      releasedAt := some now }
    events := ledger.events ++
      [⟨lease.jobId, some lease.attemptId, some previous, .cancelled, now, .manager⟩]
    outbox := enqueue settings (.terminal lease.jobId lease.attemptId .cancelled now)
      ledger.outbox }

def revokeWorkerToken (settings : Settings) (ledger : Ledger) (workerId : WorkerId)
    (payload : WorkerTokenRevokeRequest) (now : Time) : Outcome Unit :=
  let inconsistent : Outcome Unit :=
    reject 409 "Worker assignment ledger is inconsistent; revoke was not applied"
  match ledger.workers.find? workerId with
  | none => reject 404 "worker not found"
  | some worker =>
      let leases := openLeases ledger workerId
      if worker.name ≠ payload.expectedWorkerName then
        reject 409 "Worker revocation identity does not match"
      else if (worker.currentJobId.isSome || !leases.isEmpty) && !payload.forceCancelActive then
        reject 409 "active Worker revocation requires explicit force_cancel_active"
      else
        match worker.currentJobId, leases with
        | none, [] => .ok ((), { ledger with
            workers := deactivateWorker ledger.workers workerId })
        | some jobId, [(leaseId, lease)] =>
            if jobId ≠ lease.jobId then inconsistent
            else
              match ledger.jobs.find? lease.jobId, ledger.attempts.find? lease.attemptId with
              | some job, some attempt =>
                  if lease.workerId ≠ workerId ∨ job.workerId ≠ some workerId ∨
                      job.currentAttemptId ≠ some lease.attemptId ∨
                      attempt.jobId ≠ lease.jobId ∨ attempt.workerId ≠ workerId ∨
                      attempt.finishedAt ≠ none ∨ job.status ∈ terminalJobStatuses then
                    inconsistent
                  else
                    .ok ((), cancelAssignment settings ledger workerId leaseId lease job.status
                      now)
              | _, _ => inconsistent
        | _, _ => inconsistent

/-! ## Lease recovery -/

def recoverableStatuses : List JobStatus :=
  [.assigned, .downloadingDataset, .validatingDataset, .preparingFlatDataset, .preprocessing,
    .extractingF0, .extractingFeatures, .training, .savingCheckpoint, .buildingIndex,
    .collectingSmallModel, .generatingSamples, .evaluating, .uploadingArtifacts]

/-- The recovery query. Rows locked by other transactions are skipped. -/
def expiredLeases (ledger : Ledger) (recoveredAt : Time) (batchLimit : Nat)
    (locked : List LeaseId) : List LeaseId :=
  let matching := ledger.leases.rows.filter fun row =>
    row.2.expiresAt ≤ recoveredAt && row.1 ∉ locked &&
      (ledger.jobs.rows.any fun job =>
        job.2.currentAttemptId = some row.2.attemptId && job.2.status ∈ recoverableStatuses) &&
      (ledger.attempts.find? row.2.attemptId).any (fun attempt => attempt.finishedAt.isNone) &&
      (ledger.workers.find? row.2.workerId).isSome
  let ordered := matching.insertionSort fun left right =>
    left.2.expiresAt < right.2.expiresAt ∨
      left.2.expiresAt = right.2.expiresAt ∧ left.1 ≤ right.1
  (ordered.take batchLimit).map Prod.fst

/-- What recovery writes for one lease, once it has decided to act. -/
def closeAbandoned (settings : Settings) (ledger : Ledger) (leaseId : LeaseId)
    (lease : LeaseRow) (job : JobRow) (configIntegrityValid : Bool) (recoveredAt : Time) :
    Ledger :=
  let cancelled := job.cancelRequestedAt.isSome
  let terminal : JobStatus := if cancelled then .cancelled else .failed
  let errorCode :=
    if configIntegrityValid then "worker_lease_expired" else "job_config_integrity_failed"
  let errorMessage :=
    if configIntegrityValid then "Worker became offline and its Job lease expired"
    else "Job configuration integrity could not be verified"
  let autoRequeue := !cancelled && configIntegrityValid &&
    decide (0 < settings.leaseRecoveryMaxAttempts) &&
    decide (job.attemptCount < settings.leaseRecoveryMaxAttempts)
  { ledger with
    leases := ledger.leases.modify leaseId fun row => { row with
      active := false
      releasedAt := some recoveredAt }
    attempts := ledger.attempts.modify lease.attemptId fun row => { row with
      status := terminal
      finishedAt := some recoveredAt
      errorCode := if cancelled then row.errorCode else some errorCode
      errorMessage := if cancelled then row.errorMessage else some errorMessage }
    jobs := ledger.jobs.modify lease.jobId fun row =>
      if autoRequeue then { row with
        status := .queued
        workerId := none
        currentAttemptId := none
        cancelRequestedAt := none
        errorCode := none
        errorMessage := none
        startedAt := none
        completedAt := none
        currentEpoch := none }
      else { row with
        status := terminal
        errorCode := if cancelled then none else some errorCode
        errorMessage := if cancelled then none else some errorMessage }
    events := ledger.events ++
      [⟨lease.jobId, some lease.attemptId, some job.status, terminal, recoveredAt, .manager⟩] ++
      (if autoRequeue then
        [⟨lease.jobId, some lease.attemptId, some .failed, .retrying, recoveredAt, .manager⟩,
          ⟨lease.jobId, some lease.attemptId, some .retrying, .queued, recoveredAt, .manager⟩]
      else [])
    workers := ledger.workers.modify lease.workerId fun row =>
      if row.currentJobId = some lease.jobId then
        { row with currentJobId := none, status := .idle }
      else row }

def recoverLease (platform : Platform) (settings : Settings) (recoveredAt : Time)
    (ledger : Ledger) (leaseId : LeaseId) : Ledger :=
  match ledger.leases.find? leaseId with
  | none => ledger
  | some lease =>
      match ledger.workers.find? lease.workerId, ledger.jobs.find? lease.jobId,
        ledger.attempts.find? lease.attemptId with
      | some worker, some job, some attempt =>
          if job.currentAttemptId ≠ some lease.attemptId ∨ attempt.finishedAt ≠ none then ledger
          else if worker.lastHeartbeatAt.any fun heartbeat =>
              recoveredAt - seconds settings.workerOfflineSeconds < heartbeat then ledger
          else
            let valid :=
              (validatedJobConfig platform lease.jobId job (some attempt)).toOption.isSome
            closeAbandoned settings ledger leaseId lease job valid recoveredAt
      | _, _, _ => ledger

def recoverExpiredLeases (platform : Platform) (settings : Settings) (ledger : Ledger)
    (recoveredAt : Time) (locked : List LeaseId) : Ledger :=
  (expiredLeases ledger recoveredAt 100 locked).foldl
    (recoverLease platform settings recoveredAt) ledger

/-! ## Heartbeat and renewal -/

def recordHeartbeat (payload : WorkerHeartbeatRequest) (now : Time) (row : WorkerRow) :
    WorkerRow :=
  { row with
    status := payload.status
    capabilities := payload.capabilities
    lastHeartbeatAt := some now }

def cancelJobIds (ledger : Ledger) (workerId : WorkerId) : List JobId :=
  (ledger.jobs.rows.filter fun row =>
    row.2.workerId = some workerId && row.2.cancelRequestedAt.isSome &&
      row.2.status ∉ terminalJobStatuses).map Prod.fst

/-- The request after its recovery pass. `now` is read before any lock is taken. -/
def heartbeat (platform : Platform) (settings : Settings) (ledger : Ledger)
    (workerId : WorkerId) (payload : WorkerHeartbeatRequest) (now : Time) :
    Outcome WorkerHeartbeatResponse :=
  match payload.current with
  | some (jobId, leaseId) =>
      let stale : Outcome WorkerHeartbeatResponse :=
        reject 409 "heartbeat lease is no longer current"
      match ledger.leases.find? leaseId, ledger.jobs.find? jobId with
      | some lease, some job =>
          match ledger.attempts.find? lease.attemptId with
          | none => stale
          | some attempt =>
              if (validatedJobConfig platform jobId job (some attempt)).toOption.isNone then
                reject 409 "job configuration integrity check failed"
              else
                match ledger.workers.find? workerId with
                | none => stale
                | some worker =>
                    if lease.active = false ∨ lease.releasedAt ≠ none ∨ lease.expiresAt ≤ now ∨
                        lease.workerId ≠ workerId ∨ lease.jobId ≠ jobId ∨
                        job.workerId ≠ some workerId ∨
                        job.currentAttemptId ≠ some lease.attemptId ∨ attempt.jobId ≠ jobId ∨
                        attempt.workerId ≠ workerId ∨ attempt.finishedAt ≠ none ∨
                        worker.currentJobId ≠ some jobId then
                      stale
                    else
                      let renewedUntil := max lease.expiresAt (leaseExpiry settings now)
                      .ok (⟨now, some renewedUntil, cancelJobIds ledger workerId⟩, { ledger with
                        leases := ledger.leases.modify leaseId fun row => { row with
                          expiresAt := renewedUntil
                          lastRenewedAt := max row.lastRenewedAt now }
                        workers := ledger.workers.modify workerId
                          (recordHeartbeat payload now) })
      | _, _ => stale
  | none =>
      match ledger.workers.find? workerId with
      | none => reject 401 "invalid worker token"
      | some worker =>
          if worker.currentJobId.isSome then
            reject 409 "heartbeat omitted active job assignment"
          else
            .ok (⟨now, none, cancelJobIds ledger workerId⟩, { ledger with
              workers := ledger.workers.modify workerId (recordHeartbeat payload now) })

/-- The lease check shared by renewal and status updates. -/
def requireActiveLease (platform : Platform) (ledger : Ledger) (workerId : WorkerId)
    (jobId : JobId) (leaseId : LeaseId) (now : Time) : Except HttpError LeaseRow :=
  match ledger.leases.find? leaseId with
  | none => .error ⟨409, "invalid job lease"⟩
  | some lease =>
      if lease.jobId ≠ jobId ∨ lease.workerId ≠ workerId ∨ lease.active = false then
        .error ⟨409, "invalid job lease"⟩
      else if lease.expiresAt ≤ now then .error ⟨409, "job lease expired"⟩
      else
        match ledger.jobs.find? jobId, ledger.attempts.find? lease.attemptId with
        | some job, some attempt =>
            if job.currentAttemptId ≠ some lease.attemptId ∨ job.workerId ≠ some workerId ∨
                attempt.workerId ≠ workerId then
              .error ⟨409, "job attempt is no longer current"⟩
            else if
                (validatedJobConfig platform jobId job (some attempt)).toOption.isNone then
              .error ⟨409, "job configuration integrity check failed"⟩
            else .ok lease
        | _, _ => .error ⟨409, "job attempt is no longer current"⟩

/-- The expiry is checked at `checkedAt` and extended from the later reading
`now`. -/
def renewLease (platform : Platform) (settings : Settings) (ledger : Ledger)
    (workerId : WorkerId) (jobId : JobId) (leaseId : LeaseId) (checkedAt now : Time) :
    Outcome LeaseRenewResponse :=
  match requireActiveLease platform ledger workerId jobId leaseId checkedAt with
  | .error error => .error error
  | .ok lease =>
      let renewedUntil := max lease.expiresAt (leaseExpiry settings now)
      .ok (⟨leaseId, renewedUntil⟩, { ledger with
        leases := ledger.leases.modify leaseId fun row => { row with
          expiresAt := renewedUntil
          lastRenewedAt := max row.lastRenewedAt now } })

end RvcOrchestrator.Manager

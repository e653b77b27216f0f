import RvcOrchestrator.Manager.Operations

/-! # Stored telemetry

Logs, metrics and the batches they came in. Requests that assign, renew, update,
cancel or recover Jobs leave them alone.
-/

namespace RvcOrchestrator.Manager

open RvcOrchestrator.Foundation RvcOrchestrator.Contracts
open Assignment (Action Sound AttemptKept)

/-! ## Requests that store no telemetry -/

structure SameTelemetry (before after : Ledger) : Prop where
  logs : after.logs = before.logs
  metrics : after.metrics = before.metrics
  batches : after.batches = before.batches

namespace SameTelemetry

theorem refl (ledger : Ledger) : SameTelemetry ledger ledger := ⟨rfl, rfl, rfl⟩

theorem trans {first middle last : Ledger} (left : SameTelemetry first middle)
    (right : SameTelemetry middle last) : SameTelemetry first last :=
  ⟨right.logs.trans left.logs, right.metrics.trans left.metrics,
    right.batches.trans left.batches⟩

end SameTelemetry

section

variable {platform : Platform} {settings : Settings} {ledger next : Ledger}

theorem committed_sameTelemetry {Response : Type} {outcome : Outcome Response}
    (accepted : ∀ {response next}, outcome = .ok (response, next) → SameTelemetry ledger next) :
    SameTelemetry ledger (committed ledger outcome) := by
  match outcome with
  | .ok (_, next) => exact accepted rfl
  | .error _ => exact .refl _

theorem registerWorker_sameTelemetry {bootstrap : BootstrapToken} {workerId reply : WorkerId}
    {payload : WorkerRegisterRequest} {now : Time}
    (accepted : registerWorker ledger bootstrap workerId payload now = .ok (reply, next)) :
    SameTelemetry ledger next := by
  unfold registerWorker at accepted
  repeat' split at accepted
  all_goals cases accepted
  all_goals exact ⟨rfl, rfl, rfl⟩

theorem reEnrollWorker_sameTelemetry {bootstrap : BootstrapToken} {reply : WorkerId}
    {payload : WorkerReEnrollRequest}
    (accepted : reEnrollWorker ledger bootstrap payload = .ok (reply, next)) :
    SameTelemetry ledger next := by
  unfold reEnrollWorker at accepted
  repeat' split at accepted
  all_goals cases accepted
  all_goals exact ⟨rfl, rfl, rfl⟩

theorem revokeWorkerToken_sameTelemetry {workerId : WorkerId}
    {payload : WorkerTokenRevokeRequest} {now : Time}
    (accepted : revokeWorkerToken settings ledger workerId payload now = .ok ((), next)) :
    SameTelemetry ledger next := by
  unfold revokeWorkerToken at accepted
  simp only at accepted
  repeat' split at accepted
  all_goals cases accepted
  all_goals exact ⟨rfl, rfl, rfl⟩

theorem recoverLease_sameTelemetry (recoveredAt : Time) (leaseId : LeaseId) :
    SameTelemetry ledger (recoverLease platform settings recoveredAt ledger leaseId) := by
  unfold recoverLease
  repeat' split
  all_goals exact ⟨rfl, rfl, rfl⟩

theorem recover_sameTelemetry (recovery : Recovery) :
    SameTelemetry ledger (recover platform settings ledger recovery) :=
  run_preserves (fun current : Ledger => SameTelemetry ledger current)
    (fun _ leaseId same => same.trans (recoverLease_sameTelemetry recovery.recoveredAt leaseId))
    (.refl ledger) _

theorem claimFirst_sameTelemetry {request : ClaimRequest} {entries : List (JobId × JobRow)}
    {response : Option JobClaim}
    (accepted : claimFirst platform settings request entries ledger = .ok (response, next)) :
    SameTelemetry ledger next := by
  induction entries generalizing ledger with
  | nil =>
      cases accepted
      exact .refl _
  | cons entry rest induction =>
      unfold claimFirst at accepted
      split at accepted
      · have quarantined := induction accepted
        exact ⟨quarantined.logs, quarantined.metrics, quarantined.batches⟩
      · split at accepted
        · cases accepted
        · exact induction accepted
        · rcases commitClaim_eq_ok accepted with ⟨configSha256, freshAttempt, freshLease, -, -, rfl⟩
          exact ⟨rfl, rfl, rfl⟩

theorem claimJob_sameTelemetry {request : ClaimRequest} {response : Option JobClaim}
    (accepted : claimJob platform settings ledger request = .ok (response, next)) :
    SameTelemetry ledger next := by
  unfold claimJob at accepted
  repeat' split at accepted
  all_goals first
    | exact claimFirst_sameTelemetry accepted
    | cases accepted
  all_goals exact .refl _

theorem heartbeat_sameTelemetry {workerId : WorkerId} {payload : WorkerHeartbeatRequest}
    {now : Time} {response : WorkerHeartbeatResponse}
    (accepted : heartbeat platform settings ledger workerId payload now = .ok (response, next)) :
    SameTelemetry ledger next := by
  unfold heartbeat at accepted
  simp only at accepted
  repeat' split at accepted
  all_goals cases accepted
  all_goals exact ⟨rfl, rfl, rfl⟩

theorem renewLease_sameTelemetry {workerId : WorkerId} {jobId : JobId} {leaseId : LeaseId}
    {checkedAt now : Time} {response : LeaseRenewResponse}
    (accepted : renewLease platform settings ledger workerId jobId leaseId checkedAt now =
      .ok (response, next)) :
    SameTelemetry ledger next := by
  unfold renewLease at accepted
  split at accepted
  · cases accepted
  · cases accepted
    exact ⟨rfl, rfl, rfl⟩

theorem updateJobStatus_sameTelemetry {earlier : Ledger} {workerId : WorkerId} {jobId : JobId}
    {update : JobStatusUpdate} {inventory inventoryAtCommit : ArtifactInventory}
    {samples : SampleCompletion} {clock : StatusClock} {ack : StatusAck}
    (accepted : updateJobStatus platform settings earlier ledger workerId jobId update inventory
      samples inventoryAtCommit clock = .ok (ack, next)) :
    SameTelemetry ledger next := by
  unfold updateJobStatus at accepted
  split at accepted
  · cases accepted
  · unfold commitStatus at accepted
    repeat' split at accepted
    all_goals cases accepted
    all_goals exact ⟨rfl, rfl, rfl⟩

theorem createJob_sameTelemetry {admission : JobAdmission} {jobId reply : JobId}
    {config : JobConfig} {now : Time}
    (accepted : createJob platform settings ledger admission jobId config now =
      .ok (reply, next)) :
    SameTelemetry ledger next := by
  unfold createJob at accepted
  repeat' split at accepted
  all_goals cases accepted
  all_goals exact ⟨rfl, rfl, rfl⟩

theorem cancelJob_sameTelemetry {jobId : JobId} {owns : Bool} {now : Time}
    (accepted : cancelJob ledger jobId owns now = .ok ((), next)) :
    SameTelemetry ledger next := by
  unfold cancelJob at accepted
  repeat' split at accepted
  all_goals cases accepted
  all_goals exact ⟨rfl, rfl, rfl⟩

theorem retryJob_sameTelemetry {jobId : JobId} {owns : Bool} {now : Time}
    (accepted : retryJob platform ledger jobId owns now = .ok ((), next)) :
    SameTelemetry ledger next := by
  unfold retryJob at accepted
  repeat' split at accepted
  all_goals cases accepted
  all_goals exact ⟨rfl, rfl, rfl⟩

theorem perform_sameTelemetry (platform : Platform) (settings : Settings) (ledger : Ledger)
    (operation : Operation) :
    SameTelemetry ledger (perform platform settings ledger operation) := by
  cases operation with
  | registerWorker => exact committed_sameTelemetry registerWorker_sameTelemetry
  | reEnrollWorker => exact committed_sameTelemetry reEnrollWorker_sameTelemetry
  | revokeWorkerToken => exact committed_sameTelemetry revokeWorkerToken_sameTelemetry
  | recoverExpiredLeases recovery => exact recover_sameTelemetry recovery
  | claim recovery request =>
      exact (recover_sameTelemetry recovery).trans (committed_sameTelemetry claimJob_sameTelemetry)
  | heartbeat recovery workerId payload now =>
      exact (recover_sameTelemetry recovery).trans
        (committed_sameTelemetry heartbeat_sameTelemetry)
  | renewLease => exact committed_sameTelemetry renewLease_sameTelemetry
  | updateJobStatus => exact committed_sameTelemetry updateJobStatus_sameTelemetry
  | createJob => exact committed_sameTelemetry createJob_sameTelemetry
  | cancelJob => exact committed_sameTelemetry cancelJob_sameTelemetry
  | retryJob => exact committed_sameTelemetry retryJob_sameTelemetry

theorem perform_attemptKept (platform : Platform) (settings : Settings) (sound : Sound ledger.view)
    (operation : Operation) :
    AttemptKept ledger.view (perform platform settings ledger operation).view := by
  rcases perform_does platform settings operation sound with ⟨actions, -, steps⟩
  exact Assignment.Steps.attemptKept steps

end

end RvcOrchestrator.Manager

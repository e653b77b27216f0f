import RvcOrchestrator.Manager.Assignment.History

/-! # The Manager's ledger

The tables the Worker and Job requests read and write, with the columns they
use, and the outcome of a request.
-/

namespace RvcOrchestrator.Manager

open RvcOrchestrator.Foundation RvcOrchestrator.Contracts

/-! ## Rows -/

structure WorkerRow where
  name : String
  status : WorkerStatus
  capabilities : WorkerCapabilities
  lastHeartbeatAt : Option Time
  currentJobId : Option JobId
  isActive : Bool
  pendingTokenHash : Option String
deriving DecidableEq

structure SamplePlanItem where
  testSetItemId : Nat
  sha256 : String
deriving DecidableEq

/-- `sample_plan_json` and its hashes. The items are rows of one table. -/
structure SamplePlan where
  testSetId : String
  items : List SamplePlanItem
  inferenceConfig : InferencePresetConfig
  inferenceConfigSha256 : String
  sha256 : String
  distinctItems : (items.map SamplePlanItem.testSetItemId).Nodup
deriving DecidableEq

structure JobRow where
  experimentId : String
  datasetId : String
  jobName : String
  testSetId : Option String
  samplePlan : Option SamplePlan
  configJson : Json
  configSha256 : Option String
  priority : Int
  totalEpoch : Int
  createdAt : Time
  status : JobStatus
  workerId : Option WorkerId
  currentAttemptId : Option AttemptId
  attemptCount : Nat
  cancelRequestedAt : Option Time
  currentEpoch : Option Int
  errorCode : Option String
  errorMessage : Option String
  startedAt : Option Time
  completedAt : Option Time
deriving DecidableEq

structure AttemptRow where
  jobId : JobId
  workerId : WorkerId
  attemptNumber : Nat
  engineMode : WorkerEngineMode
  runtimeImageDigest : Option String
  runtimeAssetManifestSha256 : Option String
  jobConfigSha256 : Option String
  status : JobStatus
  startedAt : Time
  finishedAt : Option Time
  errorCode : Option String
  errorMessage : Option String
  /-- A constraint of the table makes the two counts present together. -/
  telemetryCounts : Option (Nat × Nat)
deriving DecidableEq

structure LeaseRow where
  jobId : JobId
  attemptId : AttemptId
  workerId : WorkerId
  expiresAt : Time
  lastRenewedAt : Time
  releasedAt : Option Time
  active : Bool
deriving DecidableEq

inductive LogLevel where
  | debug
  | info
  | warning
  | error
deriving DecidableEq, Repr

structure JobLog where
  id : Nat
  jobId : JobId
  attemptId : AttemptId
  sequence : Nat
  level : LogLevel
  message : String
  fieldsJson : Json
  occurredAt : Time
deriving DecidableEq

structure Metric where
  jobId : JobId
  attemptId : AttemptId
  sequence : Nat
  epoch : Option Nat
  step : Option Nat
  key : String
  value : PyFloat
  occurredAt : Time
deriving DecidableEq

inductive BatchType where
  | logs
  | metrics
deriving DecidableEq, Repr

structure IngestBatch where
  jobId : JobId
  attemptId : AttemptId
  batchType : BatchType
  idempotencyKey : String
  payloadFingerprint : String
  itemCount : Nat
deriving DecidableEq

/-- The events of the MLflow outbox that concern a Job, by what their key and
payload say. -/
inductive OutboxEvent where
  | jobCreated (job : JobId)
  | metricBatch (job : JobId) (attempt : AttemptId) (idempotencyKey : String)
  | terminal (job : JobId) (attempt : AttemptId) (status : JobStatus) (endedAt : Time)
deriving DecidableEq

structure Ledger where
  workers : Table WorkerId WorkerRow
  jobs : Table JobId JobRow
  attempts : Table AttemptId AttemptRow
  leases : Table LeaseId LeaseRow
  events : List JobStatusEvent
  logs : List JobLog
  metrics : List Metric
  batches : List IngestBatch
  outbox : List OutboxEvent

def Ledger.empty : Ledger where
  workers := .empty
  jobs := .empty
  attempts := .empty
  leases := .empty
  events := []
  logs := []
  metrics := []
  batches := []
  outbox := []

/-! ## Settings and outcomes -/

structure Settings where
  leaseSeconds : Nat
  workerOfflineSeconds : Nat
  leaseRecoveryMaxAttempts : Nat
  allowFakeWorkers : Bool
  approvedSampleRuntimeBundles : List (String × String)
  /-- `environment == "test"`. -/
  testEnvironment : Bool
  mlflowEnabled : Bool
  leaseSecondsRange : 15 ≤ leaseSeconds ∧ leaseSeconds ≤ 3600
  workerOfflineRange : 30 ≤ workerOfflineSeconds ∧ workerOfflineSeconds ≤ 7200

/-- A runtime is approved by the digests of its image and of its assets. -/
def RuntimeApproved (bundles : List (String × String)) (image manifest : String) : Prop :=
  (image, manifest) ∈ bundles

instance (bundles : List (String × String)) (image manifest : String) :
    Decidable (RuntimeApproved bundles image manifest) :=
  inferInstanceAs (Decidable (_ ∈ _))

def seconds (count : Nat) : Time := (count : Int) * 1000000

def leaseExpiry (settings : Settings) (now : Time) : Time :=
  now + seconds settings.leaseSeconds

structure HttpError where
  status : Nat
  detail : String
deriving DecidableEq, Repr

/-- What a request answers and leaves behind. A request that raises leaves the
ledger as it was: its transaction is rolled back. -/
abbrev Outcome (Response : Type) := Except HttpError (Response × Ledger)

def reject {Response : Type} (status : Nat) (detail : String) : Outcome Response :=
  .error ⟨status, detail⟩

/-- The primary-key check at commit. Identifiers are random, and a collision
surfaces as an unhandled `IntegrityError`. -/
def identifierTaken {Response : Type} : Outcome Response :=
  reject 500 "Internal Server Error"

/-- Nothing is written to the outbox while MLflow is disabled. -/
def enqueue (settings : Settings) (event : OutboxEvent) (outbox : List OutboxEvent) :
    List OutboxEvent :=
  if settings.mlflowEnabled then outbox ++ [event] else outbox

/-! ## The view of the assignment protocol -/

namespace Ledger

def jobState (row : JobRow) : Assignment.JobState where
  status := row.status
  workerId := row.workerId
  currentAttemptId := row.currentAttemptId
  attemptCount := row.attemptCount
  cancelRequestedAt := row.cancelRequestedAt

def attemptState (row : AttemptRow) : Assignment.AttemptState where
  jobId := row.jobId
  workerId := row.workerId
  attemptNumber := row.attemptNumber
  status := row.status
  finishedAt := row.finishedAt
  watermarks := row.telemetryCounts

def leaseState (row : LeaseRow) : Assignment.LeaseState where
  jobId := row.jobId
  attemptId := row.attemptId
  workerId := row.workerId
  expiresAt := row.expiresAt
  releasedAt := row.releasedAt
  active := row.active

def view (ledger : Ledger) : Assignment.State where
  workers := ledger.workers.map WorkerRow.currentJobId
  jobs := ledger.jobs.map jobState
  attempts := ledger.attempts.map attemptState
  leases := ledger.leases.map leaseState
  events := ledger.events

end Ledger

end RvcOrchestrator.Manager

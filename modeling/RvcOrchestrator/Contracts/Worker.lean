import RvcOrchestrator.Contracts.JobDocument
import RvcOrchestrator.Contracts.Status

/-! # Worker requests

The values that cross the boundary between a Worker and the Manager. As in the
configuration contract, a value of these types has passed its validators.
-/

namespace RvcOrchestrator.Contracts

open RvcOrchestrator.Foundation

/-! ## Identities and time -/

/-- Row identifiers are UUID texts in the source. The program only compares
them, for equality and, in `ORDER BY`, for their order. -/
abbrev WorkerId := Nat
abbrev JobId := Nat
abbrev AttemptId := Nat
abbrev LeaseId := Nat

/-- An instant, in microseconds. -/
abbrev Time := Int

/-! ## Capabilities -/

inductive WorkerStatus where
  | idle
  | busy
  | draining
deriving DecidableEq, Repr

inductive WorkerEngineMode where
  | rvcWebui
  | fake
deriving DecidableEq, Repr

/-- The fields of a GPU that scheduling and the Worker's own checks read. -/
structure GPUCapability where
  index : IntIn 0 1023
  totalVramMb : IntFrom 1
deriving DecidableEq

def validateGpuInventory (gpus : List GPUCapability) : Except ValidationError Unit :=
  if ¬(gpus.map fun gpu => gpu.index.1).Nodup then .error (.value "GPU indexes must be unique")
  else .ok ()

/-- The capabilities that scheduling and the Worker's own checks read. -/
structure WorkerCapabilities where
  engineMode : WorkerEngineMode
  rvcCommitHash : String
  supportedRvcVersions : List RVCVersion
  supportedTrainingF0Methods : List TrainingF0Method
  supportedInferenceF0Methods : List InferenceF0Method
  fixedTestSetInferenceReady : Bool
  gpus : List GPUCapability
  tags : List String
  rvcAssetsReady : Bool
  runtimeImageDigest : Option String
  runtimeAssetManifestSha256 : Option String
  validGpus : validateGpuInventory gpus = .ok ()
deriving DecidableEq

structure WorkerRegisterRequest where
  name : String
  capabilities : WorkerCapabilities

structure WorkerReEnrollRequest where
  workerId : WorkerId
  name : String
  capabilities : WorkerCapabilities

structure WorkerTokenRevokeRequest where
  expectedWorkerName : String
  forceCancelActive : Bool

/-- `validate_current_assignment` ties the two identifiers together, so they are
one optional pair here, and the status to their presence. -/
structure WorkerHeartbeatRequest where
  status : WorkerStatus
  capabilities : WorkerCapabilities
  current : Option (JobId × LeaseId)
  busyHasJob : status = .busy → current ≠ none
  idleHasNone : status = .idle → current = none

structure WorkerHeartbeatResponse where
  serverTime : Time
  leaseExpiresAt : Option Time
  cancelJobIds : List JobId
deriving DecidableEq

structure LeaseRenewResponse where
  leaseId : LeaseId
  leaseExpiresAt : Time
deriving DecidableEq

/-! ## Status updates -/

/-- The two telemetry counts come together and only with a terminal status; the
error fields only with a failure. -/
structure JobStatusUpdate where
  leaseId : LeaseId
  status : JobStatus
  occurredAt : Time
  currentEpoch : Option (IntFrom 0)
  telemetryCounts : Option (Nat × Nat)
  errorCode : Option String
  errorMessage : Option String
  failedHasMessage : status = .failed → truthy errorMessage = true
  errorOnlyFailed : status ≠ .failed → truthy errorCode = false ∧ truthy errorMessage = false
  countsOnlyTerminal : telemetryCounts ≠ none → status.Terminal

/-! ## Claims -/

/-- Where a Worker downloads an input of its Job. The Manager only offers paths
of its own API. -/
inductive DownloadPath where
  | dataset (job : JobId)
  | testSetItem (job : JobId) (item : Nat)
deriving DecidableEq

structure DatasetTransfer where
  datasetId : String
  downloadPath : DownloadPath
  sizeBytes : Int
  sha256 : String
deriving DecidableEq

/-- The inference settings of a Job, as its samples are generated with them. -/
structure InferencePresetConfig where
  inferenceF0Method : InferenceF0Method
  transpose : IntIn (-48) 48
  indexRate : FloatIn 0 1
  filterRadius : IntIn 0 7
  resampleSr : InferenceResampleRate
  rmsMixRate : FloatIn 0 1
  protect : FloatIn 0 (1 / 2)
deriving DecidableEq

def resolvedInferenceConfig (config : JobConfig) : InferencePresetConfig where
  inferenceF0Method := config.autoInferenceSamples.inferenceF0Method
  transpose := config.autoInferenceSamples.transpose
  indexRate := config.autoInferenceSamples.indexRate
  filterRadius := config.autoInferenceSamples.filterRadius
  resampleSr := config.autoInferenceSamples.resampleSr
  rmsMixRate := config.autoInferenceSamples.rmsMixRate
  protect := config.autoInferenceSamples.protect

structure TestSetTransferItem where
  testSetItemId : Nat
  downloadPath : DownloadPath
deriving DecidableEq

structure TestSetTransfer where
  testSetId : String
  inferenceConfig : InferencePresetConfig
  items : List TestSetTransferItem
deriving DecidableEq

structure JobClaim where
  jobId : JobId
  attemptId : AttemptId
  attemptNumber : Nat
  leaseId : LeaseId
  leaseExpiresAt : Time
  config : JobConfig
  configSha256 : String
  datasetTransfer : Option DatasetTransfer
  testSetTransfer : Option TestSetTransfer
deriving DecidableEq

def JobClaim.validateDatasetTransfer (sha256 : Sha256) (claim : JobClaim) :
    Except ValidationError Unit :=
  let sample := claim.config.autoInferenceSamples
  if jobConfigSha256 sha256 claim.config.modelDump ≠ claim.configSha256 then
    .error (.value "Job config hash does not match its snapshot")
  else if claim.datasetTransfer.any fun transfer =>
      transfer.datasetId ≠ claim.config.datasetId.1 then
    .error (.value "dataset transfer does not match Job config")
  else if claim.datasetTransfer.any fun transfer =>
      transfer.downloadPath ≠ .dataset claim.jobId then
    .error (.value "dataset transfer path does not match claimed Job")
  else if sample.enabled = false then
    if claim.testSetTransfer.isSome then
      .error (.value "sample-disabled Job cannot include a TestSet transfer")
    else .ok ()
  else
    match claim.testSetTransfer with
    | none => .error (.value "sample-enabled Job requires a verified TestSet transfer")
    | some transfer =>
        if some transfer.testSetId ≠ sample.testSetId then
          .error (.value "TestSet transfer does not match Job config")
        else if transfer.inferenceConfig ≠ resolvedInferenceConfig claim.config then
          .error (.value "TestSet transfer inference config does not match Job config")
        else if transfer.items.any fun item =>
            item.downloadPath ≠ .testSetItem claim.jobId item.testSetItemId then
          .error (.value "TestSet item path does not match claimed Job and item")
        else .ok ()

end RvcOrchestrator.Contracts

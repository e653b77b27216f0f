import RvcOrchestrator.Contracts.Status

/-! # Failures of stages

Whatever a stage raises is classified before it is reported: as a cancellation, or as a failure
with a code and a text that say nothing about the exception itself.
-/

namespace RvcOrchestrator.Worker

open RvcOrchestrator.Contracts

/-! ## Failures -/

inductive StageErrorCategory where
  | cancelled
  | timeout
  | process
  | transient
  | integrity
  | configuration
  | telemetry
  | internal
deriving DecidableEq

inductive StageFailureCause where
  | cancellation
  | processTimeout
  | testSetTimeout
  | processNonzero
  | processRuntime
  | transientExhausted
  | datasetIntegrity
  | testSetIntegrity
  | artifactIntegrity
  | workspaceIntegrity
  | runtimeIntegrity
  | workerRuntimeUnready
  | remoteRejected
  | configuration
  | telemetryPersistence
  | unknown
deriving DecidableEq

structure StageExecutionError where
  stage : JobStatus
  errorCode : String
  category : StageErrorCategory
  retryable : Bool
  cause : StageFailureCause
  safeMessage : String
deriving DecidableEq

/-- `StageExecutionCancelled` or another `StageExecutionError`. -/
inductive StageFailure where
  | cancelled (stage : JobStatus)
  | failed (error : StageExecutionError)
deriving DecidableEq

/-! ## Exceptions -/

inductive ManagerErrorCategory where
  | transport
  | protocol
  | integrity
  | configuration
deriving DecidableEq

/-- `ManagerClientError` and the classes below it. -/
inductive ManagerErrorClass where
  | managerClientError
  | artifactTransferCancelled
  | datasetTransferError
  | datasetTransferCancelled
  | testSetTransferError
  | testSetTransferCancelled
deriving DecidableEq

inductive PlainErrorClass where
  | cancelledError
  | processRunnerError
  | processCancelled
  | processTimedOut
  | processFailed
  | rvcRunnerError
  | rvcConfigurationError
  | rvcRuntimeIntegrityError
  | nativeRvcRunnerError
  | nativeRvcConfigurationError
  | nativeSampleInferenceError
  | nativeSamplePublicationError
  | runtimeActivationError
  | datasetMaterializationError
  | datasetMaterializationCancelled
  | testSetMaterializationError
  | testSetMaterializationCancelled
  | testSetMaterializationTimeout
  | workspaceError
  | insufficientDiskError
  | telemetrySpoolError
  | pretrainedResolutionError
  | rvcCommandError
  | artifactDiscoveryError
  | indexBuildError
  | metricParserError
  | smallModelExtractionError
  | trainingInputError
  | other
deriving DecidableEq

inductive RaisedError where
  | manager (errorClass : ManagerErrorClass) (retryable : Bool) (category : ManagerErrorCategory)
  | stage (failure : StageFailure)
  | plain (errorClass : PlainErrorClass)
deriving DecidableEq

/-- An exception and the chain of its causes. -/
structure WorkerException where
  error : RaisedError
  causes : List RaisedError
deriving DecidableEq

namespace RaisedError

def IsPlain (classes : List PlainErrorClass) : RaisedError → Prop
  | plain errorClass => errorClass ∈ classes
  | _ => False

instance (classes : List PlainErrorClass) (error : RaisedError) :
    Decidable (error.IsPlain classes) :=
  match error with
  | plain errorClass => inferInstanceAs (Decidable (errorClass ∈ classes))
  | manager .. => inferInstanceAs (Decidable False)
  | stage .. => inferInstanceAs (Decidable False)

def IsManager (classes : List ManagerErrorClass) : RaisedError → Prop
  | manager errorClass _ _ => errorClass ∈ classes
  | _ => False

instance (classes : List ManagerErrorClass) (error : RaisedError) :
    Decidable (error.IsManager classes) :=
  match error with
  | manager errorClass _ _ => inferInstanceAs (Decidable (errorClass ∈ classes))
  | plain .. => inferInstanceAs (Decidable False)
  | stage .. => inferInstanceAs (Decidable False)

/-- The types that mean a cancellation. -/
def IsCancellation : RaisedError → Prop
  | stage (.cancelled _) => True
  | error =>
      error.IsPlain [.cancelledError, .processCancelled, .testSetMaterializationCancelled] ∨
        error.IsManager
          [.artifactTransferCancelled, .datasetTransferCancelled, .testSetTransferCancelled]

instance (error : RaisedError) : Decidable error.IsCancellation :=
  match error with
  | stage (.cancelled _) => inferInstanceAs (Decidable True)
  | stage (.failed _) => inferInstanceAs (Decidable (_ ∨ _))
  | manager .. => inferInstanceAs (Decidable (_ ∨ _))
  | plain .. => inferInstanceAs (Decidable (_ ∨ _))

end RaisedError

/-! ## Classification -/

def stageError (stage : JobStatus) (errorCode : String) (category : StageErrorCategory)
    (retryable : Bool) (cause : StageFailureCause) (action : String) : StageExecutionError where
  stage := stage
  errorCode := errorCode
  category := category
  retryable := retryable
  cause := cause
  safeMessage := "Worker stage " ++ stage.value ++ " " ++ action ++ "."

/-- `_find_cause`, the exception itself first. -/
def findCause (exception : WorkerException) (isInstance : RaisedError → Bool) :
    Option RaisedError :=
  (exception.error :: exception.causes).find? isInstance

def allManagerErrors : List ManagerErrorClass :=
  [.managerClientError, .artifactTransferCancelled, .datasetTransferError,
    .datasetTransferCancelled, .testSetTransferError, .testSetTransferCancelled]

def findManagerError (exception : WorkerException) : Option (Bool × ManagerErrorCategory) :=
  match findCause exception fun error => error.IsManager allManagerErrors with
  | some (.manager _ retryable category) => some (retryable, category)
  | _ => none

/-- The classification of what is neither a cancellation nor classified already. -/
def stageErrorOf (stage : JobStatus) (exception : WorkerException) : StageExecutionError :=
  let error := exception.error
  let integrity (cause : StageFailureCause) : StageExecutionError :=
    stageError stage "stage_integrity_failed" .integrity false cause "failed an integrity check"
  if error.IsPlain [.testSetMaterializationTimeout] then
    stageError stage "stage_timeout" .timeout false .testSetTimeout "timed out"
  else if (findCause exception fun error => error.IsPlain [.processTimedOut]).isSome then
    stageError stage "stage_timeout" .timeout false .processTimeout "timed out"
  else if (findCause exception fun error => error.IsPlain [.processFailed]).isSome then
    stageError stage "stage_process_failed" .process false .processNonzero
      "failed in its isolated process"
  else if error.IsPlain
      [.processRunnerError, .processCancelled, .processTimedOut, .processFailed] then
    stageError stage "stage_process_failed" .process false .processRuntime
      "could not run its isolated process"
  else if (findManagerError exception).any Prod.fst then
    stageError stage "exhausted_transient" .transient true .transientExhausted
      "exhausted its bounded transient operation"
  else if (findManagerError exception).any fun details => details.2 = .integrity then
    integrity .artifactIntegrity
  else if error.IsManager [.datasetTransferError, .datasetTransferCancelled] ∨
      error.IsPlain [.datasetMaterializationError, .datasetMaterializationCancelled] then
    integrity .datasetIntegrity
  else if error.IsManager [.testSetTransferError, .testSetTransferCancelled] ∨
      error.IsPlain [.testSetMaterializationError, .testSetMaterializationCancelled,
        .testSetMaterializationTimeout] then
    integrity .testSetIntegrity
  else if error.IsPlain [.workspaceError, .insufficientDiskError] then
    integrity .workspaceIntegrity
  else if error.IsPlain [.telemetrySpoolError] then
    stageError stage "telemetry_persistence_failed" .telemetry false .telemetryPersistence
      "could not persist required telemetry"
  else if error.IsManager allManagerErrors then
    stageError stage "stage_remote_rejected" .configuration false .remoteRejected
      "was rejected by the Manager"
  else if error.IsPlain [.rvcRuntimeIntegrityError, .nativeSamplePublicationError] then
    { stage := stage
      errorCode := "worker_runtime_unready"
      category := .integrity
      retryable := false
      cause := .workerRuntimeUnready
      safeMessage := "Worker runtime is not ready for assigned execution." }
  else if error.IsPlain [.pretrainedResolutionError, .rvcCommandError, .rvcConfigurationError,
      .nativeRvcConfigurationError] then
    stageError stage "stage_configuration_invalid" .configuration false .configuration
      "has an invalid configuration"
  else if error.IsPlain [.artifactDiscoveryError, .indexBuildError, .metricParserError,
      .rvcRunnerError, .nativeRvcRunnerError, .nativeSampleInferenceError,
      .runtimeActivationError, .smallModelExtractionError, .trainingInputError] then
    integrity .runtimeIntegrity
  else
    stageError stage "stage_internal_error" .internal false .unknown "failed unexpectedly"

/-- `cancelled` says whether a cancellation event was given and is set. -/
def classifyStageException (stage : JobStatus) (exception : WorkerException) (cancelled : Bool) :
    StageFailure :=
  if cancelled = true ∨ exception.error.IsCancellation then .cancelled stage
  else
    match exception.error with
    | .stage failure => failure
    | _ => .failed (stageErrorOf stage exception)

/-- The classified failure as an exception, without causes. -/
def StageFailure.exception (failure : StageFailure) : WorkerException := ⟨.stage failure, []⟩

theorem classifyStageException_cancelled (stage : JobStatus) (exception : WorkerException) :
    classifyStageException stage exception true = .cancelled stage :=
  if_pos (.inl rfl)

/-- Without an event that is set, only cancellation types are taken for a cancellation. -/
theorem classifyStageException_failed {stage : JobStatus} {exception : WorkerException}
    (noCancellation : ¬exception.error.IsCancellation) :
    ∃ error, classifyStageException stage exception false = .failed error := by
  have classified : ¬(false = true ∨ exception.error.IsCancellation) := by
    rintro (set | cancellation)
    · cases set
    · exact noCancellation cancellation
  rw [classifyStageException, if_neg classified]
  split
  · next failure raised =>
      cases failure with
      | cancelled stage =>
          rw [raised] at noCancellation
          exact absurd trivial noCancellation
      | failed error => exact ⟨error, rfl⟩
  · exact ⟨_, rfl⟩

end RvcOrchestrator.Worker

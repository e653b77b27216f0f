import RvcOrchestrator.Manager.Statuses

/-! # Creating, cancelling and retrying Jobs -/

namespace RvcOrchestrator.Manager

open RvcOrchestrator.Foundation RvcOrchestrator.Contracts

/-- What `create_job` reads about the experiment, the dataset and, for a Job with
samples, the test set. -/
structure JobAdmission where
  experimentDatasetId : Option String
  ownsExperiment : Bool
  datasetReady : Bool
  sampleGate : Except HttpError SamplePlan

def admitJob (admission : JobAdmission) (config : JobConfig) :
    Except HttpError (Option SamplePlan) :=
  match admission.experimentDatasetId with
  | none => .error ⟨404, "experiment not found"⟩
  | some datasetId =>
      if admission.ownsExperiment = false then
        .error ⟨404, "experiment not found"⟩
      else if datasetId ≠ config.datasetId.1 then
        .error ⟨409, "job dataset does not match experiment dataset"⟩
      else if admission.datasetReady = false then
        .error ⟨409, "dataset is not ready for jobs"⟩
      else if config.autoInferenceSamples.enabled then admission.sampleGate.map some
      else .ok none

def createdJob (platform : Platform) (config : JobConfig) (createdAt : Time)
    (samplePlan : Option SamplePlan := none) : JobRow where
  experimentId := config.experimentId.1
  datasetId := config.datasetId.1
  jobName := config.jobName.1
  testSetId :=
    if config.autoInferenceSamples.enabled then config.autoInferenceSamples.testSetId else none
  samplePlan := samplePlan
  configJson := config.modelDump.copy
  configSha256 := some (platform.configSha256 config)
  priority := config.resource.priority.1
  totalEpoch := config.training.epochs.1
  createdAt := createdAt
  status := .queued
  workerId := none
  currentAttemptId := none
  attemptCount := 0
  cancelRequestedAt := none
  currentEpoch := none
  errorCode := none
  errorMessage := none
  startedAt := none
  completedAt := none

def createJob (platform : Platform) (settings : Settings) (ledger : Ledger)
    (admission : JobAdmission) (jobId : JobId) (config : JobConfig) (now : Time) :
    Outcome JobId :=
  match admitJob admission config with
  | .error error => .error error
  | .ok samplePlan =>
      if ledger.jobs.rows.any fun row =>
          row.2.experimentId = config.experimentId.1 && row.2.jobName = config.jobName.1 then
        reject 409 "job name already exists in experiment"
      else if fresh : ledger.jobs.find? jobId = none then
        .ok (jobId, { ledger with
          jobs := ledger.jobs.insert jobId (createdJob platform config now samplePlan) fresh
          events := ledger.events ++ [⟨jobId, none, none, .queued, now, .manager⟩]
          outbox := enqueue settings (.jobCreated jobId) ledger.outbox })
      else identifierTaken

/-- A disabled sample section names no test set, so the column is the
configuration's own field. -/
theorem storesConfig_createdJob (platform : Platform) (config : JobConfig) (createdAt : Time)
    (samplePlan : Option SamplePlan := none) :
    StoresConfig config (createdJob platform config createdAt samplePlan) where
  jobName := rfl
  experimentId := rfl
  datasetId := rfl
  totalEpoch := rfl
  priority := rfl
  testSetId := by
    have valid := config.autoInferenceSamples.valid
    simp only [createdJob]
    cases enabled : config.autoInferenceSamples.enabled with
    | true => rfl
    | false =>
        have absent : config.autoInferenceSamples.testSetId = none := by
          rw [validateTestSet, enabled] at valid
          by_contra present
          simp [present] at valid
        rw [absent]
        rfl

def cancelJob (ledger : Ledger) (jobId : JobId) (ownsExperiment : Bool) (now : Time) :
    Outcome Unit :=
  match ledger.jobs.find? jobId with
  | none => reject 404 "job not found"
  | some job =>
      if ownsExperiment = false then reject 404 "job not found"
      else if job.status ∈ terminalJobStatuses then
        reject 409 "terminal job cannot be cancelled"
      else if job.status = .queued then
        .ok ((), { ledger with
          jobs := ledger.jobs.modify jobId fun row => { row with status := .cancelled }
          events := ledger.events ++ [⟨jobId, none, some .queued, .cancelled, now, .manager⟩] })
      else
        .ok ((), { ledger with
          jobs := ledger.jobs.modify jobId fun row => { row with cancelRequestedAt := some now } })

def retryJob (platform : Platform) (ledger : Ledger) (jobId : JobId) (ownsExperiment : Bool)
    (now : Time) : Outcome Unit :=
  match ledger.jobs.find? jobId with
  | none => reject 404 "job not found"
  | some job =>
      if ownsExperiment = false then reject 404 "job not found"
      else if job.status ≠ .failed then reject 409 "only failed jobs can be retried"
      else
        match job.currentAttemptId with
        | none => reject 409 "job configuration integrity check failed"
        | some attemptId =>
            match ledger.attempts.find? attemptId with
            | none => reject 409 "job configuration integrity check failed"
            | some attempt =>
                if (validatedJobConfig platform jobId job (some attempt)).toOption.isNone then
                  reject 409 "job configuration integrity check failed"
                else
                  .ok ((), { ledger with
                    jobs := ledger.jobs.modify jobId fun row => { row with
                      status := .queued
                      workerId := none
                      currentAttemptId := none
                      cancelRequestedAt := none
                      errorCode := none
                      errorMessage := none
                      startedAt := none
                      completedAt := none
                      currentEpoch := none }
                    events := ledger.events ++
                      [⟨jobId, some attemptId, some .failed, .retrying, now, .manager⟩,
                        ⟨jobId, some attemptId, some .retrying, .queued, now, .manager⟩] })

end RvcOrchestrator.Manager

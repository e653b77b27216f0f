import RvcOrchestrator.Manager.Assignment.CurrentAttempts
import RvcOrchestrator.Manager.Ingest
import RvcOrchestrator.Manager.Snapshots

/-! # Readers of the Job ledger

The comparison of experiments and the projection of Jobs read a Job beside its current
attempt, and refuse what does not fit together. What the writers leave behind is followed
column by column until no reader has anything left to refuse.
-/

namespace RvcOrchestrator.Manager

open RvcOrchestrator.Foundation RvcOrchestrator.Contracts
open Assignment (Action Sound Matched)

/-! ## The comparison of experiments -/

/-- The message of `InvalidExperimentComparisonLedger`. -/
def comparisonInconsistent : String := "experiment comparison ledger is inconsistent"

/-- `_validated_job_config`. A JSONB document holds no number that is not finite. -/
def validatedComparisonConfig (platform : Platform) (jobId : JobId) (job : JobRow)
    (attempt : Option AttemptRow) : Except String JobConfig :=
  let read : Option JobConfig :=
    match job.configSha256 with
    | none =>
        if attempt.isSome then none
        else (JobConfig.modelValidate platform.lax job.configJson).toOption
    | some _ => (validatedJobConfig platform jobId job attempt).toOption
  match read with
  | none => .error comparisonInconsistent
  | some config =>
      let samples := config.autoInferenceSamples
      if config.jobName.1 ≠ job.jobName ∨ config.experimentId.1 ≠ job.experimentId ∨
          config.datasetId.1 ≠ job.datasetId ∨ config.training.epochs.1 ≠ job.totalEpoch ∨
          config.resource.priority.1 ≠ job.priority then
        .error comparisonInconsistent
      else if samples.enabled ∧ (job.testSetId = none ∨ samples.testSetId ≠ job.testSetId) then
        .error comparisonInconsistent
      else if ¬samples.enabled ∧ job.testSetId ≠ none then .error comparisonInconsistent
      else if job.totalEpoch < 1 ∨
          job.currentEpoch.any (fun epoch => ¬(0 ≤ epoch ∧ epoch ≤ job.totalEpoch)) then
        .error comparisonInconsistent
      else .ok config

structure ComparisonAttemptRead where
  id : AttemptId
  attemptNumber : Nat
  engineMode : WorkerEngineMode
  status : JobStatus
  startedAt : Time
  finishedAt : Option Time
deriving DecidableEq

/-- One turn of the loop of `_validated_current_attempts`. -/
def validatedCurrentAttempt (ledger : Ledger) (jobId : JobId) (job : JobRow) :
    Except String (Option ComparisonAttemptRead) :=
  match job.currentAttemptId with
  | none =>
      if job.status ≠ .queued ∧ job.status ≠ .cancelled then .error comparisonInconsistent
      else if job.workerId ≠ none then .error comparisonInconsistent
      else .ok none
  | some attemptId =>
      match ledger.attempts.find? attemptId with
      | none => .error comparisonInconsistent
      | some attempt =>
          if attempt.jobId ≠ jobId ∨ some attempt.workerId ≠ job.workerId ∨
              attempt.attemptNumber ≠ job.attemptCount ∨ attempt.attemptNumber < 1 ∨
              attempt.status ≠ job.status then
            .error comparisonInconsistent
          else if attempt.status ∈ terminalJobStatuses ∧
              attempt.finishedAt.all (fun finishedAt => finishedAt < attempt.startedAt) then
            .error comparisonInconsistent
          else if attempt.status ∉ terminalJobStatuses ∧ attempt.finishedAt ≠ none then
            .error comparisonInconsistent
          else
            .ok (some
              { id := attemptId
                attemptNumber := attempt.attemptNumber
                engineMode := attempt.engineMode
                status := attempt.status
                startedAt := attempt.startedAt
                finishedAt := attempt.finishedAt })

def validatedCurrentAttempts (ledger : Ledger) :
    List (JobId × JobRow) → Except String (List (JobId × Option ComparisonAttemptRead))
  | [] => .ok []
  | (jobId, job) :: jobs =>
      match validatedCurrentAttempt ledger jobId job with
      | .error error => .error error
      | .ok read => (validatedCurrentAttempts ledger jobs).map fun reads => (jobId, read) :: reads

/-! ## The projection of a Job -/

structure JobRead where
  id : JobId
  experimentId : String
  datasetId : String
  workerId : Option WorkerId
  jobName : String
  status : JobStatus
  config : JobConfig
  configSha256 : Option String
  testSetId : Option String
  priority : Int
  currentEpoch : Option Int
  totalEpoch : Int
  attemptCount : Nat
  currentAttemptId : Option AttemptId
  currentAttemptEngineMode : Option WorkerEngineMode
  cancelRequestedAt : Option Time
  errorCode : Option String
  errorMessage : Option String
  startedAt : Option Time
  completedAt : Option Time
  createdAt : Time

def jobRead (jobId : JobId) (job : JobRow) (config : JobConfig)
    (engineMode : Option WorkerEngineMode) : JobRead where
  id := jobId
  experimentId := job.experimentId
  datasetId := job.datasetId
  workerId := job.workerId
  jobName := job.jobName
  status := job.status
  config := config
  configSha256 := job.configSha256
  testSetId := job.testSetId
  priority := job.priority
  currentEpoch := job.currentEpoch
  totalEpoch := job.totalEpoch
  attemptCount := job.attemptCount
  currentAttemptId := job.currentAttemptId
  currentAttemptEngineMode := engineMode
  cancelRequestedAt := job.cancelRequestedAt
  errorCode := job.errorCode
  errorMessage := job.errorMessage
  startedAt := job.startedAt
  completedAt := job.completedAt
  createdAt := job.createdAt

def jobToSchema (platform : Platform) (jobId : JobId) (job : JobRow)
    (currentAttempt : Option (AttemptId × AttemptRow)) : Except HttpError JobRead :=
  let invalid : Except HttpError JobRead :=
    .error ⟨409, "job configuration integrity check failed"⟩
  match job.currentAttemptId, currentAttempt with
  | none, some _ => invalid
  | none, none =>
      let config : Option JobConfig :=
        match job.configSha256 with
        | none => (JobConfig.modelValidate platform.lax job.configJson).toOption
        | some _ => (validatedJobConfig platform jobId job none).toOption
      match config with
      | none => invalid
      | some config => .ok (jobRead jobId job config none)
  | some _, none => invalid
  | some current, some (attemptId, attempt) =>
      if attemptId ≠ current ∨ attempt.jobId ≠ jobId then invalid
      else
        match validatedJobConfig platform jobId job (some attempt) with
        | .error _ => invalid
        | .ok config => .ok (jobRead jobId job config (some attempt.engineMode))

/-- The attempt that `_jobs_to_schema` fetches for a Job. -/
def currentAttempt (ledger : Ledger) (job : JobRow) : Option (AttemptId × AttemptRow) :=
  job.currentAttemptId.bind fun attemptId =>
    (ledger.attempts.find? attemptId).map fun attempt => (attemptId, attempt)

/-! ## What the readers rely on -/

/-- The row still holds the configuration it was created with, and an epoch of it. -/
structure Documented (platform : Platform) (job : JobRow) : Prop where
  stored : ∃ config, config.resource.minVramGb.1.Small ∧ StoredAs platform config job
  epoch : ∀ epoch ∈ job.currentEpoch, 0 ≤ epoch ∧ epoch ≤ job.totalEpoch

/-- The columns that the assignment protocol does not see, up to an instant. -/
structure Recorded (platform : Platform) (latest : Time) (ledger : Ledger) : Prop where
  job : ∀ {jobId job}, ledger.jobs.find? jobId = some job → Documented platform job
  started : ∀ {attemptId attempt}, ledger.attempts.find? attemptId = some attempt →
    attempt.startedAt ≤ latest ∧
      ∀ finishedAt ∈ attempt.finishedAt, attempt.startedAt ≤ finishedAt
  snapshot : ∀ {attemptId attempt}, ledger.attempts.find? attemptId = some attempt →
    ∃ job, ledger.jobs.find? attempt.jobId = some job ∧
      attempt.jobConfigSha256 = job.configSha256

variable {platform : Platform} {settings : Settings} {text : TelemetryText}
  {ledger next : Ledger} {latest now : Time}

theorem Recorded.empty (platform : Platform) (latest : Time) : Recorded platform latest .empty where
  job found := nomatch found
  started found := nomatch found
  snapshot found := nomatch found

theorem Documented.accepted {job : JobRow} (documented : Documented platform job) {jobId : JobId}
    {attempt : Option AttemptRow} (ofAttempt : MatchingAttempt jobId job attempt) :
    ∃ config, validatedJobConfig platform jobId job attempt = .ok config.normal ∧
      StoresConfig config job := by
  rcases documented.stored with ⟨config, small, stored⟩
  exact ⟨config, stored.accepted small ofAttempt, stored.toStoresConfig⟩

structure ReadersAccept (platform : Platform) (ledger : Ledger) : Prop where
  attempts : ∀ jobs : List (JobId × JobRow),
    (∀ entry ∈ jobs, ledger.jobs.find? entry.1 = some entry.2) →
    ∃ reads, validatedCurrentAttempts ledger jobs = .ok reads
  config : ∀ {jobId job}, ledger.jobs.find? jobId = some job →
    ∃ config, validatedComparisonConfig platform jobId job
      ((currentAttempt ledger job).map Prod.snd) = .ok config
  schema : ∀ {jobId job}, ledger.jobs.find? jobId = some job →
    ∃ read, jobToSchema platform jobId job (currentAttempt ledger job) = .ok read
  queued : ∀ {jobId job}, ledger.jobs.find? jobId = some job → job.status = .queued →
    job.currentAttemptId = none ∧ job.workerId = none
  terminal : ∀ {jobId job attemptId}, ledger.jobs.find? jobId = some job →
    job.status ∈ terminalJobStatuses → job.currentAttemptId = some attemptId →
    ∃ attempt, ledger.attempts.find? attemptId = some attempt ∧
      attempt.status = job.status ∧ job.workerId = some attempt.workerId ∧
      attempt.attemptNumber = job.attemptCount

/-- A Job's current attempt, with everything that is known about the two. -/
theorem current_row (sound : Sound ledger.view) (matched : Matched ledger.view) {jobId : JobId}
    {job : JobRow} {attemptId : AttemptId} (found : ledger.jobs.find? jobId = some job)
    (current : job.currentAttemptId = some attemptId) :
    ∃ attempt, ledger.attempts.find? attemptId = some attempt ∧ attempt.jobId = jobId ∧
      attempt.status = job.status ∧ job.workerId = some attempt.workerId ∧
      attempt.attemptNumber = job.attemptCount ∧ 1 ≤ attempt.attemptNumber ∧
      (attempt.finishedAt = none ↔ job.status ∉ terminalJobStatuses) := by
  rcases sound.currentAttempt (jobView found) current with ⟨state, stateFound, ofJob, sameStatus⟩
  rcases matched.current (jobView found) current with ⟨other, otherFound, worker, number⟩
  rw [stateFound] at otherFound
  injection otherFound with same
  subst same
  rcases find?_map_eq_some stateFound with ⟨attempt, attemptFound, rfl⟩
  rcases sound.bounded stateFound with ⟨_, -, positive, -⟩
  have ended := sound.attemptOver stateFound
  rw [sameStatus] at ended
  exact ⟨attempt, attemptFound, ofJob, sameStatus, worker, number, positive, ended⟩

theorem currentAttempt_of_find? {job : JobRow} {attemptId : AttemptId} {attempt : AttemptRow}
    (current : job.currentAttemptId = some attemptId)
    (found : ledger.attempts.find? attemptId = some attempt) :
    currentAttempt ledger job = some (attemptId, attempt) := by
  simp [currentAttempt, current, found]

theorem currentAttempt_of_absent {job : JobRow} (absent : job.currentAttemptId = none) :
    currentAttempt ledger job = none := by
  simp [currentAttempt, absent]

theorem matchingAttempt_current (sound : Sound ledger.view) (matched : Matched ledger.view)
    (recorded : Recorded platform latest ledger) {jobId : JobId} {job : JobRow}
    (found : ledger.jobs.find? jobId = some job) :
    MatchingAttempt jobId job ((currentAttempt ledger job).map Prod.snd) := by
  intro attempt member
  cases current : job.currentAttemptId with
  | none =>
      rw [currentAttempt_of_absent current] at member
      nomatch member
  | some attemptId =>
      rcases current_row sound matched found current with ⟨row, rowFound, ofJob, -⟩
      rw [currentAttempt_of_find? current rowFound] at member
      rcases Option.some.inj member with rfl
      rcases recorded.snapshot rowFound with ⟨owner, ownerFound, hash⟩
      rw [ofJob, found] at ownerFound
      exact ⟨ofJob, hash.trans (congrArg JobRow.configSha256 (Option.some.inj ownerFound).symm)⟩

theorem validatedCurrentAttempt_accepts (sound : Sound ledger.view) (matched : Matched ledger.view)
    (recorded : Recorded platform latest ledger) {jobId : JobId} {job : JobRow}
    (found : ledger.jobs.find? jobId = some job) :
    ∃ read, validatedCurrentAttempt ledger jobId job = .ok read := by
  unfold validatedCurrentAttempt
  cases current : job.currentAttemptId with
  | none =>
      rcases matched.absent (jobView found) current with ⟨status, worker⟩
      have waits : ¬(job.status ≠ .queued ∧ job.status ≠ .cancelled) := by
        rintro ⟨notQueued, notCancelled⟩
        rcases status with queued | cancelled
        · exact notQueued queued
        · exact notCancelled cancelled
      have free : ¬job.workerId ≠ none := not_not.mpr worker
      simp only [if_neg waits, if_neg free]
      exact ⟨none, rfl⟩
  | some attemptId =>
      rcases current_row sound matched found current with
        ⟨attempt, attemptFound, ofJob, status, worker, number, positive, overAt⟩
      have fits : ¬(attempt.jobId ≠ jobId ∨ some attempt.workerId ≠ job.workerId ∨
          attempt.attemptNumber ≠ job.attemptCount ∨ attempt.attemptNumber < 1 ∨
          attempt.status ≠ job.status) := by
        rintro (otherJob | otherWorker | otherNumber | few | otherStatus)
        · exact otherJob ofJob
        · exact otherWorker worker.symm
        · exact otherNumber number
        · omega
        · exact otherStatus status
      have ended : ¬(attempt.status ∈ terminalJobStatuses ∧
          attempt.finishedAt.all (fun finishedAt => decide (finishedAt < attempt.startedAt)) =
            true) := by
        rintro ⟨terminal, early⟩
        rw [status] at terminal
        cases finished : attempt.finishedAt with
        | none => exact overAt.mp finished terminal
        | some finishedAt =>
            have later := (recorded.started attemptFound).2 finishedAt finished
            rw [finished, Option.all_some, decide_eq_true_eq] at early
            exact absurd later (not_le_of_gt early)
      have running : ¬(attempt.status ∉ terminalJobStatuses ∧ attempt.finishedAt ≠ none) := by
        rintro ⟨notTerminal, finished⟩
        exact finished (overAt.mpr (status ▸ notTerminal))
      simp only [attemptFound, if_neg fits, if_neg ended, if_neg running]
      exact ⟨_, rfl⟩

theorem validatedCurrentAttempts_accepts (sound : Sound ledger.view)
    (matched : Matched ledger.view) (recorded : Recorded platform latest ledger)
    (jobs : List (JobId × JobRow))
    (stored : ∀ entry ∈ jobs, ledger.jobs.find? entry.1 = some entry.2) :
    ∃ reads, validatedCurrentAttempts ledger jobs = .ok reads := by
  induction jobs with
  | nil => exact ⟨[], rfl⟩
  | cons entry jobs induction =>
      rcases validatedCurrentAttempt_accepts sound matched recorded
        (stored entry List.mem_cons_self) with ⟨read, accepted⟩
      rcases induction fun other member => stored other (List.mem_cons_of_mem _ member) with
        ⟨reads, rest⟩
      refine ⟨(entry.1, read) :: reads, ?_⟩
      rw [validatedCurrentAttempts, accepted, rest]
      rfl

/-- A configuration that its snapshot proves is accepted again for a comparison. -/
theorem validatedComparisonConfig_of_accepted {jobId : JobId} {job : JobRow}
    {attempt : Option AttemptRow} {config : JobConfig}
    (accepted : validatedJobConfig platform jobId job attempt = .ok config)
    (epochs : ∀ epoch ∈ job.currentEpoch, 0 ≤ epoch ∧ epoch ≤ job.totalEpoch) :
    validatedComparisonConfig platform jobId job attempt = .ok config := by
  have ofJob := (validatedJobConfig_eq_ok accepted).2.2.1
  simp only [matchesJob, Bool.and_eq_true, decide_eq_true_eq] at ofJob
  rcases ofJob with ⟨⟨⟨⟨⟨jobName, experimentId⟩, datasetId⟩, totalEpoch⟩, priority⟩, testSetId⟩
  have hashed := (validatedJobConfig_eq_ok accepted).1
  have columns : ¬(config.jobName.1 ≠ job.jobName ∨ config.experimentId.1 ≠ job.experimentId ∨
      config.datasetId.1 ≠ job.datasetId ∨ config.training.epochs.1 ≠ job.totalEpoch ∨
      config.resource.priority.1 ≠ job.priority) := by
    simp [jobName, experimentId, datasetId, totalEpoch, priority]
  have samplesValid := config.autoInferenceSamples.valid
  have withSamples : ¬(config.autoInferenceSamples.enabled = true ∧
      (job.testSetId = none ∨ config.autoInferenceSamples.testSetId ≠ job.testSetId)) := by
    rintro ⟨enabled, absent | different⟩
    · rw [validateTestSet, enabled, testSetId, absent] at samplesValid
      cases samplesValid
    · exact different testSetId
  have withoutSamples : ¬(¬config.autoInferenceSamples.enabled = true ∧
      job.testSetId ≠ none) := by
    rintro ⟨disabled, present⟩
    rw [Bool.not_eq_true] at disabled
    rw [validateTestSet, disabled, testSetId] at samplesValid
    simp [present] at samplesValid
  have epochBounds : ¬(job.totalEpoch < 1 ∨ job.currentEpoch.any (fun epoch =>
      decide ¬(0 ≤ epoch ∧ epoch ≤ job.totalEpoch)) = true) := by
    rintro (few | outside)
    · have positive := config.training.epochs.2.1
      omega
    · rw [Option.any_eq_true] at outside
      rcases outside with ⟨epoch, stored, outside⟩
      exact (decide_eq_true_eq.mp outside) (epochs epoch stored)
  simp only [validatedComparisonConfig, hashed, accepted, Except.toOption, if_neg columns,
    if_neg withSamples, if_neg withoutSamples, if_neg epochBounds]

theorem validatedComparisonConfig_accepts (sound : Sound ledger.view)
    (matched : Matched ledger.view) (recorded : Recorded platform latest ledger) {jobId : JobId}
    {job : JobRow} (found : ledger.jobs.find? jobId = some job) :
    ∃ config, validatedComparisonConfig platform jobId job
      ((currentAttempt ledger job).map Prod.snd) = .ok config := by
  have documented := recorded.job found
  rcases documented.accepted (matchingAttempt_current sound matched recorded found) with
    ⟨config, accepted, -⟩
  exact ⟨config.normal, validatedComparisonConfig_of_accepted accepted documented.epoch⟩

theorem jobToSchema_accepts (sound : Sound ledger.view) (matched : Matched ledger.view)
    (recorded : Recorded platform latest ledger) {jobId : JobId} {job : JobRow}
    (found : ledger.jobs.find? jobId = some job) :
    ∃ read, jobToSchema platform jobId job (currentAttempt ledger job) = .ok read := by
  rcases (recorded.job found).accepted (matchingAttempt_current sound matched recorded found) with
    ⟨config, accepted, -⟩
  cases current : job.currentAttemptId with
  | none =>
      rw [currentAttempt_of_absent current, Option.map_none] at accepted
      have hashed := (validatedJobConfig_eq_ok accepted).1
      rw [currentAttempt_of_absent current]
      simp only [jobToSchema, current, hashed, accepted, Except.toOption]
      exact ⟨_, rfl⟩
  | some attemptId =>
      rcases current_row sound matched found current with ⟨attempt, attemptFound, ofJob, -⟩
      rw [currentAttempt_of_find? current attemptFound, Option.map_some] at accepted
      rw [currentAttempt_of_find? current attemptFound]
      have same : ¬(attemptId ≠ attemptId ∨ attempt.jobId ≠ jobId) := by simp [ofJob]
      simp only [jobToSchema, current, if_neg same, accepted]
      exact ⟨_, rfl⟩

theorem readersAccept_of_recorded (sound : Sound ledger.view) (matched : Matched ledger.view)
    (recorded : Recorded platform latest ledger) : ReadersAccept platform ledger where
  attempts := validatedCurrentAttempts_accepts sound matched recorded
  config := validatedComparisonConfig_accepts sound matched recorded
  schema := jobToSchema_accepts sound matched recorded
  queued found waits :=
    have alone := sound.queuedJob (jobView found) waits
    ⟨alone.2.1, alone.1⟩
  terminal := by
    intro jobId job attemptId found terminal current
    rcases current_row sound matched found current with
      ⟨attempt, attemptFound, -, status, worker, number, -, -⟩
    exact ⟨attempt, attemptFound, status, worker, number⟩

end RvcOrchestrator.Manager

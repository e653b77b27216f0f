import RvcOrchestrator.Manager.Workers

/-! # Job claims

How an idle Worker is matched with a queued Job: the candidate query, the checks
every candidate passes, and what a successful claim writes.
-/

namespace RvcOrchestrator.Manager

open RvcOrchestrator.Foundation RvcOrchestrator.Contracts

/-! ## Compatibility -/

def workerCanRun (settings : Settings) (config : JobConfig)
    (capabilities : WorkerCapabilities) : Bool :=
  let isFake : Bool := capabilities.engineMode = .fake
  let sample := config.autoInferenceSamples
  let method := config.f0Extraction.trainingF0Method
  let minVramGb := config.resource.minVramGb.1
  -- The product is exact unless it overflows to infinity, which no GPU reaches.
  let requiredMb : Option ℚ :=
    if minVramGb.value * 1024 < 2 ^ 1024 then some (minVramGb.value * 1024) else none
  if isFake && !settings.allowFakeWorkers then false
  else if !isFake && config.rvcBackend.rvcCommitHash.any fun hash =>
      capabilities.rvcCommitHash ≠ hash then false
  else if !isFake && !capabilities.rvcAssetsReady then false
  else if config.model.version ∉ capabilities.supportedRvcVersions then false
  else if method.any fun method => method ∉ capabilities.supportedTrainingF0Methods then false
  else if sample.enabled &&
      (isFake || !capabilities.fixedTestSetInferenceReady ||
        sample.inferenceF0Method ∉ capabilities.supportedInferenceF0Methods ||
        match capabilities.runtimeImageDigest, capabilities.runtimeAssetManifestSha256 with
        | some image, some manifest =>
            ¬RuntimeApproved settings.approvedSampleRuntimeBundles image manifest
        | _, _ => true) then false
  else if config.resource.preferredWorkerTags.1.any fun tag => tag ∉ capabilities.tags then
    false
  else if minVramGb.decimal ≠ 0 && !isFake &&
      !capabilities.gpus.any fun gpu => requiredMb.any fun required =>
        required ≤ (gpu.totalVramMb.1 : ℚ) then false
  else if !isFake && decide (capabilities.gpus.length < config.training.gpuIds.1.length) then
    false
  else true

/-! ## Inputs of a Job -/

inductive DatasetRowStatus where
  | ready
  | legacyImported
  | other
deriving DecidableEq

structure DatasetRow where
  status : DatasetRowStatus
  isUsable : Bool
  flatStorageUri : Option String
  preparedFlatSizeBytes : Option Int
  preparedFlatSha256 : Option String
deriving DecidableEq

def datasetReadyForTraining (dataset : DatasetRow) : Bool :=
  dataset.isUsable && (dataset.status = .ready || dataset.status = .legacyImported) &&
    dataset.flatStorageUri.isSome

structure DatasetUploadRow where
  storageBackend : String
  storageNamespaceSha256 : String
  preparedFlatObjectKey : String
deriving DecidableEq

/-- The storage as a claim sees it. `storageUri` is `none` where the port
raises. -/
structure ClaimStoragePort where
  backend : String
  namespaceFingerprint : String
  storageUri : String → Option String

/-- What a claim reads outside the ledger. A dataset row that another
transaction holds locked is skipped like a missing one. -/
structure Catalog where
  resolvedStorageBackend : String
  storage : ClaimStoragePort
  dataset : String → Option DatasetRow
  /-- The latest completed upload of a dataset. -/
  upload : String → Option DatasetUploadRow
  verifiedTestSetTransfer : JobId → JobRow → JobConfig → Option TestSetTransfer

def transferAccepted (sizeBytes : Int) (sha256 : String) : Bool :=
  decide (sizeBytes ≤ 100 * 1024 ^ 3) && decide (IsSha256 sha256)

/-- `none` where the source returns `None`; a transfer the contract refuses
raises. -/
def verifiedDatasetTransfer (catalog : Catalog) (datasetId : String) (dataset : DatasetRow)
    (jobId : JobId) : Except HttpError (Option DatasetTransfer) :=
  match dataset.preparedFlatSizeBytes, dataset.preparedFlatSha256, catalog.upload datasetId with
  | some sizeBytes, some sha256, some upload =>
      if dataset.status ≠ .ready ∨ dataset.isUsable = false ∨ sizeBytes ≤ 0 then .ok none
      else if upload.storageBackend ≠ catalog.resolvedStorageBackend ∨
          upload.storageBackend ≠ catalog.storage.backend ∨
          upload.storageNamespaceSha256 ≠ catalog.storage.namespaceFingerprint then .ok none
      else
        match catalog.storage.storageUri upload.preparedFlatObjectKey with
        | none => .ok none
        | some uri =>
            if dataset.flatStorageUri ≠ some uri then .ok none
            else if transferAccepted sizeBytes sha256 then
              .ok (some ⟨datasetId, .dataset jobId, sizeBytes, sha256⟩)
            else .error ⟨500, "Internal Server Error"⟩
  | _, _, _ => .ok none

/-! ## Candidates -/

/-- The claim order: priority descending, then age, then identifier. -/
def claimOrder (left right : JobId × JobRow) : Prop :=
  right.2.priority < left.2.priority ∨
    left.2.priority = right.2.priority ∧
      (left.2.createdAt < right.2.createdAt ∨
        left.2.createdAt = right.2.createdAt ∧ left.1 ≤ right.1)

instance : DecidableRel claimOrder := fun _ _ =>
  inferInstanceAs (Decidable (_ ∨ _))

def queuedJobs (ledger : Ledger) : List (JobId × JobRow) :=
  (ledger.jobs.rows.filter fun row =>
    row.2.status = .queued && row.2.configSha256.isSome).insertionSort claimOrder

def claimCandidates (ledger : Ledger) : List (JobId × JobRow) :=
  (queuedJobs ledger).take 50

/-- The listed rows are distinct stored Jobs that wait in the queue. -/
structure Waiting (ledger : Ledger) (entries : List (JobId × JobRow)) : Prop where
  nodup : (entries.map Prod.fst).Nodup
  stored : ∀ entry ∈ entries, ledger.jobs.find? entry.1 = some entry.2
  queued : ∀ entry ∈ entries, entry.2.status = .queued

theorem mem_queuedJobs_iff {ledger : Ledger} {entry : JobId × JobRow} :
    entry ∈ queuedJobs ledger ↔
      ledger.jobs.find? entry.1 = some entry.2 ∧ entry.2.status = .queued ∧
        entry.2.configSha256.isSome = true := by
  unfold queuedJobs
  rw [(List.perm_insertionSort _ _).mem_iff, List.mem_filter, Bool.and_eq_true,
    decide_eq_true_eq, ledger.jobs.mem_rows_iff]

theorem waiting_queuedJobs (ledger : Ledger) : Waiting ledger (queuedJobs ledger) where
  nodup := by
    have perm := (List.perm_insertionSort claimOrder (ledger.jobs.rows.filter fun row =>
      row.2.status = .queued && row.2.configSha256.isSome)).map Prod.fst
    exact perm.nodup_iff.mpr (List.filter_sublist.map Prod.fst |>.nodup ledger.jobs.keysNodup)
  stored _ member := (mem_queuedJobs_iff.mp member).1
  queued _ member := (mem_queuedJobs_iff.mp member).2.1

theorem Waiting.sublist {ledger : Ledger} {entries part : List (JobId × JobRow)}
    (waiting : Waiting ledger entries) (sublist : part.Sublist entries) :
    Waiting ledger part where
  nodup := (sublist.map Prod.fst).nodup waiting.nodup
  stored entry member := waiting.stored entry (sublist.subset member)
  queued entry member := waiting.queued entry (sublist.subset member)

theorem waiting_claimCandidates (ledger : Ledger) : Waiting ledger (claimCandidates ledger) :=
  (waiting_queuedJobs ledger).sublist (List.take_sublist 50 _)

/-! ## The claim transaction -/

def quarantineInvalidQueuedJobConfig (ledger : Ledger) (jobId : JobId) (now : Time) : Ledger :=
  { ledger with
    jobs := ledger.jobs.modify jobId fun row => { row with
      status := .failed
      errorCode := some "job_config_integrity_failed"
      errorMessage := some "Job configuration integrity could not be verified" }
    events := ledger.events ++ [⟨jobId, none, some .queued, .failed, now, .manager⟩] }

/-- Quarantine touches no other Job. -/
theorem Waiting.quarantine {ledger : Ledger} {jobId : JobId} {job : JobRow}
    {rest : List (JobId × JobRow)} (waiting : Waiting ledger ((jobId, job) :: rest))
    (now : Time) : Waiting (quarantineInvalidQueuedJobConfig ledger jobId now) rest where
  nodup := (List.nodup_cons.mp waiting.nodup).2
  stored entry member := by
    have different : entry.1 ≠ jobId := by
      intro same
      exact (List.nodup_cons.mp waiting.nodup).1 (List.mem_map.mpr ⟨entry, member, same⟩)
    rw [quarantineInvalidQueuedJobConfig, Table.find?_modify_of_ne _ _ _ different]
    exact waiting.stored entry (List.mem_cons_of_mem _ member)
  queued entry member := waiting.queued entry (List.mem_cons_of_mem _ member)

/-- A claim in the making: who claims, what it has presented, and what the
Manager draws and reads for it. -/
structure ClaimRequest where
  workerId : WorkerId
  capabilities : WorkerCapabilities
  catalog : Catalog
  attemptId : AttemptId
  leaseId : LeaseId
  now : Time

/-- The inputs offered for a candidate, or `none` if the Worker must pass it
over. -/
def offeredInputs (settings : Settings) (request : ClaimRequest) (jobId : JobId)
    (job : JobRow) (config : JobConfig) :
    Except HttpError (Option (Option DatasetTransfer × Option TestSetTransfer)) :=
  if workerCanRun settings config request.capabilities = false then .ok none
  else
    match request.catalog.dataset job.datasetId with
    | none => .ok none
    | some dataset =>
        if datasetReadyForTraining dataset = false then .ok none
        else
          -- URI-seeded legacy fixtures exist only in the isolated test policy.
          let testLegacyCompatibility : Bool :=
            settings.testEnvironment && dataset.status = .legacyImported
          match verifiedDatasetTransfer request.catalog job.datasetId dataset jobId with
          | .error error => .error error
          | .ok transfer =>
              if transfer.isNone && !testLegacyCompatibility then .ok none
              else if config.autoInferenceSamples.enabled then
                match request.catalog.verifiedTestSetTransfer jobId job config with
                | none => .ok none
                | some testSet => .ok (some (transfer, some testSet))
              else .ok (some (transfer, none))

def assignJob (settings : Settings) (ledger : Ledger) (request : ClaimRequest) (jobId : JobId)
    (job : JobRow) (configSha256 : String)
    (freshAttempt : ledger.attempts.find? request.attemptId = none)
    (freshLease : ledger.leases.find? request.leaseId = none) : Ledger :=
  { ledger with
    jobs := ledger.jobs.modify jobId fun row => { row with
      status := .assigned
      workerId := some request.workerId
      attemptCount := job.attemptCount + 1
      currentAttemptId := some request.attemptId
      currentEpoch := none
      startedAt := some request.now }
    attempts := ledger.attempts.insert request.attemptId
      { jobId := jobId
        workerId := request.workerId
        attemptNumber := job.attemptCount + 1
        engineMode := request.capabilities.engineMode
        runtimeImageDigest := request.capabilities.runtimeImageDigest
        runtimeAssetManifestSha256 := request.capabilities.runtimeAssetManifestSha256
        jobConfigSha256 := some configSha256
        status := .assigned
        startedAt := request.now
        finishedAt := none
        errorCode := none
        errorMessage := none
        telemetryCounts := none } freshAttempt
    leases := ledger.leases.insert request.leaseId
      { jobId := jobId
        attemptId := request.attemptId
        workerId := request.workerId
        expiresAt := leaseExpiry settings request.now
        lastRenewedAt := request.now
        releasedAt := none
        active := true } freshLease
    events := ledger.events ++
      [⟨jobId, some request.attemptId, some .queued, .assigned, request.now, .manager⟩]
    workers := ledger.workers.modify request.workerId fun row => { row with
      status := .busy
      currentJobId := some jobId
      capabilities := request.capabilities
      lastHeartbeatAt := some request.now } }

def claimOf (settings : Settings) (request : ClaimRequest) (jobId : JobId) (job : JobRow)
    (config : JobConfig) (configSha256 : String)
    (inputs : Option DatasetTransfer × Option TestSetTransfer) : JobClaim where
  jobId := jobId
  attemptId := request.attemptId
  attemptNumber := job.attemptCount + 1
  leaseId := request.leaseId
  leaseExpiresAt := leaseExpiry settings request.now
  config := config
  configSha256 := configSha256
  datasetTransfer := inputs.1
  testSetTransfer := inputs.2

def commitClaim (platform : Platform) (settings : Settings) (ledger : Ledger)
    (request : ClaimRequest) (jobId : JobId) (job : JobRow) (config : JobConfig)
    (inputs : Option DatasetTransfer × Option TestSetTransfer) : Outcome (Option JobClaim) :=
  if freshAttempt : ledger.attempts.find? request.attemptId = none then
    if freshLease : ledger.leases.find? request.leaseId = none then
      match job.configSha256 with
      | none => reject 500 "Internal Server Error"
      | some configSha256 =>
          match (claimOf settings request jobId job config configSha256
            inputs).validateDatasetTransfer platform.sha256 with
          | .error _ => reject 503 "job claim transfer validation failed"
          | .ok () => .ok (some (claimOf settings request jobId job config configSha256 inputs),
              assignJob settings ledger request jobId job configSha256 freshAttempt freshLease)
    else identifierTaken
  else identifierTaken

/-- What a committed claim answers and writes. -/
theorem commitClaim_eq_ok {platform : Platform} {settings : Settings} {ledger next : Ledger}
    {request : ClaimRequest} {jobId : JobId} {job : JobRow} {config : JobConfig}
    {inputs : Option DatasetTransfer × Option TestSetTransfer} {response : Option JobClaim}
    (accepted : commitClaim platform settings ledger request jobId job config inputs =
      .ok (response, next)) :
    ∃ configSha256 freshAttempt freshLease, job.configSha256 = some configSha256 ∧
      response = some (claimOf settings request jobId job config configSha256 inputs) ∧
      next = assignJob settings ledger request jobId job configSha256 freshAttempt
        freshLease := by
  unfold commitClaim at accepted
  split at accepted
  · next freshAttempt =>
      split at accepted
      · next freshLease =>
          split at accepted
          · cases accepted
          · next configSha256 stored =>
              split at accepted
              · cases accepted
              · injection accepted with accepted
                injection accepted with answered changed
                exact ⟨configSha256, freshAttempt, freshLease, stored, answered.symm,
                  changed.symm⟩
      · cases accepted
  · cases accepted

def claimFirst (platform : Platform) (settings : Settings) (request : ClaimRequest) :
    List (JobId × JobRow) → Ledger → Outcome (Option JobClaim)
  | [], ledger => .ok (none, ledger)
  | (jobId, job) :: rest, ledger =>
      match validatedJobConfig platform jobId job none with
      | .error _ =>
          claimFirst platform settings request rest
            (quarantineInvalidQueuedJobConfig ledger jobId request.now)
      | .ok config =>
          match offeredInputs settings request jobId job config with
          | .error error => .error error
          | .ok none => claimFirst platform settings request rest ledger
          | .ok (some inputs) => commitClaim platform settings ledger request jobId job config inputs

def claimJob (platform : Platform) (settings : Settings) (ledger : Ledger)
    (request : ClaimRequest) : Outcome (Option JobClaim) :=
  match ledger.workers.find? request.workerId with
  | none => reject 401 "invalid worker token"
  | some worker =>
      if worker.isActive = false then reject 401 "invalid worker token"
      else if worker.pendingTokenHash.isSome then reject 409 "worker token rotation is pending"
      else if worker.status = .draining then .ok (none, ledger)
      else if worker.currentJobId.isSome then reject 409 "worker already has an active job"
      else claimFirst platform settings request (claimCandidates ledger) ledger

end RvcOrchestrator.Manager

import RvcOrchestrator.Manager.Ledger

/-! # Configuration snapshots

A Job stores its configuration as a document with the digest of its canonical
text. Everything that acts on a Job first proves that the two still belong
together.
-/

namespace RvcOrchestrator.Manager

open RvcOrchestrator.Foundation RvcOrchestrator.Contracts

/-- What the Manager's own code rests on: the digest and the schema library's
conversions. -/
structure Platform where
  sha256 : Sha256
  lax : Lax

def Platform.configSha256 (platform : Platform) (config : JobConfig) : String :=
  jobConfigSha256 platform.sha256 config.modelDump

/-- The message of `InvalidJobConfigLedger`. -/
abbrev InvalidJobConfigLedger := String

def matchesJob (config : JobConfig) (job : JobRow) : Bool :=
  config.jobName.1 = job.jobName && config.experimentId.1 = job.experimentId &&
    config.datasetId.1 = job.datasetId && config.training.epochs.1 = job.totalEpoch &&
    config.resource.priority.1 = job.priority &&
    config.autoInferenceSamples.testSetId = job.testSetId

def validatedJobConfig (platform : Platform) (jobId : JobId) (job : JobRow)
    (attempt : Option AttemptRow) : Except InvalidJobConfigLedger JobConfig :=
  match job.configSha256 with
  | none => .error "Job config hash is missing or malformed"
  | some stored =>
      if ¬IsSha256 stored then .error "Job config hash is missing or malformed"
      else
        match JobConfig.modelValidate platform.lax job.configJson with
        | .error _ => .error "Job config snapshot is invalid"
        | .ok config =>
            if jobConfigSha256 platform.sha256 job.configJson ≠ stored ∨
                platform.configSha256 config ≠ stored then
              .error "Job config snapshot does not match its hash"
            else if matchesJob config job = false then
              .error "Job config snapshot does not match the Job ledger"
            else if attempt.any fun row =>
                row.jobId ≠ jobId ∨ row.jobConfigSha256 ≠ some stored then
              .error "Job attempt does not match the Job config snapshot"
            else .ok config

/-- The columns `create_job` derives from the configuration. -/
structure StoresConfig (config : JobConfig) (job : JobRow) : Prop where
  jobName : job.jobName = config.jobName.1
  experimentId : job.experimentId = config.experimentId.1
  datasetId : job.datasetId = config.datasetId.1
  totalEpoch : job.totalEpoch = config.training.epochs.1
  priority : job.priority = config.resource.priority.1
  testSetId : job.testSetId = config.autoInferenceSamples.testSetId

/-! ## What an accepted snapshot proves -/

/-- An accepted snapshot has the hash of its document, of the returned
configuration and of its attempt. -/
theorem validatedJobConfig_eq_ok {platform : Platform} {jobId : JobId} {job : JobRow}
    {attempt : Option AttemptRow} {config : JobConfig}
    (accepted : validatedJobConfig platform jobId job attempt = .ok config) :
    job.configSha256 = some (jobConfigSha256 platform.sha256 job.configJson) ∧
      job.configSha256 = some (platform.configSha256 config) ∧ matchesJob config job = true ∧
      ∀ row ∈ attempt, row.jobId = jobId ∧ row.jobConfigSha256 = job.configSha256 := by
  unfold validatedJobConfig at accepted
  split at accepted
  · cases accepted
  · next stored found =>
      split at accepted
      · cases accepted
      · split at accepted
        · cases accepted
        · split at accepted
          · cases accepted
          · next hashes =>
              split at accepted
              · cases accepted
              · next matched =>
                  split at accepted
                  · cases accepted
                  · next attemptMatches =>
                      injection accepted with same
                      subst same
                      rw [not_or, not_not, not_not] at hashes
                      refine ⟨by rw [found, hashes.1], by rw [found, hashes.2],
                        by simpa using matched, ?_⟩
                      intro row member
                      rw [Option.mem_def] at member
                      subst member
                      simpa [found, not_or] using attemptMatches

section Storage

variable {platform : Platform} {config : JobConfig} {jobId : JobId} {job : JobRow}

theorem StoresConfig.matchesJob_normal (stores : StoresConfig config job) :
    matchesJob config.normal job = true := by
  simp [matchesJob, JobConfig.normal, AutoInferenceSamplesConfig.normal,
    ResourceRequirements.normal, stores.jobName, stores.experimentId, stores.datasetId,
    stores.totalEpoch, stores.priority, stores.testSetId]

theorem configSha256_normal (platform : Platform) (config : JobConfig) :
    platform.configSha256 config.normal = platform.configSha256 config := by
  have sameText := canonicalJobConfigText_eq_iff.mpr config.sameDocument_normal
  rw [Platform.configSha256, Platform.configSha256, jobConfigSha256, jobConfigSha256, sameText]

/-- The stored document of a configuration without a huge VRAM bound is
accepted again, alone and with an attempt made from it. -/
theorem validatedJobConfig_readBack (stores : StoresConfig config job)
    (small : config.resource.minVramGb.1.Small)
    (readBack : Json.ReadBack config.modelDump job.configJson)
    (hash : job.configSha256 = some (platform.configSha256 config))
    {attempt : Option AttemptRow}
    (ofAttempt : ∀ row ∈ attempt, row.jobId = jobId ∧ row.jobConfigSha256 = job.configSha256) :
    validatedJobConfig platform jobId job attempt = .ok config.normal := by
  have sameText : canonicalJobConfigText job.configJson =
      canonicalJobConfigText config.modelDump :=
    (canonicalJobConfigText_eq_iff.mpr (config.sameDocument_readBack small readBack)).symm
  have raw : jobConfigSha256 platform.sha256 job.configJson = platform.configSha256 config := by
    rw [jobConfigSha256, sameText]
    rfl
  have attemptMatches : (attempt.any fun row =>
      decide (row.jobId ≠ jobId ∨ row.jobConfigSha256 ≠ some (platform.configSha256 config))) =
        false := by
    cases attempt with
    | none => rfl
    | some row =>
        have both := ofAttempt row rfl
        rw [hash] at both
        simp [both.1, both.2]
  unfold validatedJobConfig
  rw [hash]
  simp only [JobConfig.modelValidate_readBack platform.lax small readBack, raw,
    configSha256_normal, stores.matchesJob_normal, attemptMatches]
  have wellFormed : IsSha256 (platform.configSha256 config) := platform.sha256.wellFormed _
  simp [wellFormed]

/-- An accepted snapshot is the created document, if no other text shares its
digest. -/
theorem sameDocument_of_accepted
    (unshared : ∀ text, platform.sha256.digest text = platform.configSha256 config →
      text = canonicalJobConfigText config.modelDump)
    (hash : job.configSha256 = some (platform.configSha256 config))
    {attempt : Option AttemptRow} {returned : JobConfig}
    (accepted : validatedJobConfig platform jobId job attempt = .ok returned) :
    SameDocument job.configJson config.modelDump := by
  have raw := (validatedJobConfig_eq_ok accepted).1
  rw [hash, Option.some.injEq] at raw
  exact canonicalJobConfigText_eq_iff.mp (unshared _ raw.symm)

/-- An accepted snapshot of the created document has the created hash. -/
theorem hash_of_accepted (small : config.resource.minVramGb.1.Small)
    (readBack : Json.ReadBack config.modelDump job.configJson)
    {attempt : Option AttemptRow} {returned : JobConfig}
    (accepted : validatedJobConfig platform jobId job attempt = .ok returned) :
    job.configSha256 = some (platform.configSha256 config) := by
  have sameText :=
    canonicalJobConfigText_eq_iff.mpr (config.sameDocument_readBack small readBack)
  rw [(validatedJobConfig_eq_ok accepted).1, Platform.configSha256, jobConfigSha256,
    jobConfigSha256, sameText]

/-- A huge VRAM bound is refused as soon as it has been stored. -/
theorem rejected_of_large (large : ¬config.resource.minVramGb.1.Small)
    (unshared : ∀ text, platform.sha256.digest text = platform.configSha256 config →
      text = canonicalJobConfigText config.modelDump)
    (hash : job.configSha256 = some (platform.configSha256 config))
    (stored : job.configJson = config.modelDump.copy) (attempt : Option AttemptRow)
    (returned : JobConfig) : validatedJobConfig platform jobId job attempt ≠ .ok returned := by
  intro accepted
  have same := sameDocument_of_accepted unshared hash accepted
  rw [stored] at same
  exact JobConfig.not_sameDocument_copy large same.symm

end Storage

/-! ## Claims -/

/-- A claim under another hash than that of its configuration is refused. -/
theorem validateDatasetTransfer_hash {platform : Platform} {config : JobConfig}
    {claim : JobClaim} (ofConfig : claim.config.normal = config.normal)
    (accepted : claim.validateDatasetTransfer platform.sha256 = .ok ()) :
    claim.configSha256 = platform.configSha256 config := by
  unfold JobClaim.validateDatasetTransfer at accepted
  by_cases same : jobConfigSha256 platform.sha256 claim.config.modelDump = claim.configSha256
  · calc claim.configSha256 = platform.configSha256 claim.config := same.symm
      _ = platform.configSha256 claim.config.normal := (configSha256_normal ..).symm
      _ = platform.configSha256 config.normal := by rw [ofConfig]
      _ = platform.configSha256 config := configSha256_normal ..
  · simp [same] at accepted

/-! ## A concrete configuration -/

/-- Every section but the resources is left at its default. -/
def sampleConfig (jobName : SafeName) (resource : ResourceRequirements) : JobConfig where
  jobName := jobName
  experimentId := ⟨"exp-1", by decide +kernel⟩
  datasetId := ⟨"data-1", by decide +kernel⟩
  rvcBackend := .default
  model := ⟨.v2, .khz40, true, defaultSpeakerId⟩
  pretrained := .default
  trainingFeature := ⟨⟩
  training := .default
  f0Extraction := .default
  index := .default
  autoInferenceSamples := .default
  artifacts := .default
  resource := resource
  valid := rfl

def plainConfig : JobConfig := sampleConfig ⟨"voice-1", by decide +kernel⟩ .default

/-- A Job that asks for ten quadrillion gigabytes. -/
def hugeConfig : JobConfig :=
  sampleConfig ⟨"voice-1", by decide +kernel⟩
    { ResourceRequirements.default with
      minVramGb := ⟨⟨false, 1, 16, by decide⟩, by decide +kernel⟩ }

/-- The SHA-256 digests of the documents of the two configurations, as created
and as read back. No other digest is used. -/
def sampleSha256 : Sha256 where
  digest text :=
    if text = canonicalJobConfigText hugeConfig.modelDump then
      "913d03265e51d4e75272fdb24c9b61f92bba6440d0f632243565f89a8563965b"
    else if text = canonicalJobConfigText plainConfig.modelDump then
      "e641e1afc927b4e7388c6d2cb0d621855d2de09e536dfdb3dd7ece516712efaf"
    else if text = canonicalJobConfigText hugeConfig.modelDump.copy then
      "b42deccc49d6682f425863ecae4253c57a8eda68db3473e7444b7a6f0c9b4fea"
    else "e3b0c44298fc1c149afbf4c8996fb92427ae41e4649b934ca495991b7852b855"
  wellFormed text := by
    split
    · decide +kernel
    · split
      · decide +kernel
      · split <;> decide +kernel

def samplePlatform : Platform where
  sha256 := sampleSha256
  lax := wholeLax

end RvcOrchestrator.Manager

import RvcOrchestrator.Manager.ArtifactUploads
import RvcOrchestrator.Manager.ModelRegistry
import RvcOrchestrator.Manager.Workers

/-! # Samples

A Worker registers one sample for each item of the test set of its Job. The Manager first
verifies all that the registration says, without any lock: the plan, the artifacts and the
bytes of the output. Durations and metrics are exact rationals.
-/

namespace RvcOrchestrator.Manager

open RvcOrchestrator.Foundation RvcOrchestrator.Contracts

/-! ## Registrations -/

def sampleMaxOutputBytes : Nat := 256 * 1024 ^ 2

def sampleMaxOutputDurationSeconds : ℚ := 600

def sampleMaxTotalOutputBytes : Nat := 2 * 1024 ^ 3

def sampleMaxTotalOutputDurationSeconds : ℚ := 3600

structure SampleMetricValues where
  peakAmplitude : ℚ
  rms : ℚ
  clippingRatio : ℚ
  silenceRatio : ℚ
deriving DecidableEq

structure SampleRegistrationRequest where
  leaseId : LeaseId
  attemptId : AttemptId
  testSetId : String
  testSetItemId : Nat
  artifactId : UploadArtifactId
  samplePlanSha256 : String
  inputSha256 : String
  modelSha256 : String
  indexSha256 : Option String
  inferenceF0Method : InferenceF0Method
  inferenceConfigSha256 : String
  nativeInferenceManifestSha256 : String
  nativeInferenceRequestSha256 : String
  outputSizeBytes : Nat
  outputSha256 : String
  outputSampleRateHz : Nat
  outputChannels : Nat
  outputDurationSeconds : ℚ
  metrics : SampleMetricValues
  rvcCommitHash : String
  runtimeImageDigest : String
  runtimeAssetManifestSha256 : String
  size : 0 < outputSizeBytes ∧ outputSizeBytes ≤ sampleMaxOutputBytes
  sampleRate : 8000 ≤ outputSampleRateHz ∧ outputSampleRateHz ≤ 192000
  channels : 1 ≤ outputChannels ∧ outputChannels ≤ 2
  duration : 0 < outputDurationSeconds ∧ outputDurationSeconds ≤ sampleMaxOutputDurationSeconds
deriving DecidableEq

/-- What a registration says of its sample. The lease and the plan are those of the
attempt and its Job, and are not stored. -/
def SampleRegistrationRequest.contents (payload : SampleRegistrationRequest) :
    SampleRegistrationRequest :=
  { payload with
    leaseId := 0
    samplePlanSha256 := "" }

structure SamplePcmInspection where
  sampleRateHz : Nat
  channels : Nat
  durationSeconds : ℚ
  metrics : SampleMetricValues
deriving DecidableEq

/-- The algorithm and its thresholds are constants. -/
structure SampleMetricsEvidence where
  workerReported : SampleMetricValues
  managerComputed : SampleMetricValues
  workerReportedDurationSeconds : ℚ
  managerComputedSampleRateHz : Nat
  managerComputedChannels : Nat
  managerComputedDurationSeconds : ℚ
deriving DecidableEq

def sampleMetricsEvidence (payload : SampleRegistrationRequest)
    (inspection : SamplePcmInspection) : SampleMetricsEvidence where
  workerReported := payload.metrics
  managerComputed := inspection.metrics
  workerReportedDurationSeconds := payload.outputDurationSeconds
  managerComputedSampleRateHz := inspection.sampleRateHz
  managerComputedChannels := inspection.channels
  managerComputedDurationSeconds := inspection.durationSeconds

structure SampleId where
  value : Nat
deriving DecidableEq

structure Sample where
  id : SampleId
  jobId : JobId
  attemptId : AttemptId
  testSetId : String
  testSetItemId : Nat
  artifactId : UploadArtifactId
  inputSha256 : String
  modelSha256 : String
  indexSha256 : Option String
  inferenceF0Method : InferenceF0Method
  inferenceConfigSha256 : String
  nativeInferenceManifestSha256 : String
  nativeInferenceRequestSha256 : String
  outputSizeBytes : Nat
  outputSha256 : String
  outputSampleRateHz : Nat
  outputChannels : Nat
  outputDurationSeconds : ℚ
  metrics : SampleMetricsEvidence
  rvcCommitHash : String
  runtimeImageDigest : String
  runtimeAssetManifestSha256 : String
deriving DecidableEq

/-- `uq_sample_attempt_item_config`. -/
abbrev SampleIdentity := AttemptId × Nat × String

def Sample.identity (sample : Sample) : SampleIdentity :=
  (sample.attemptId, sample.testSetItemId, sample.inferenceConfigSha256)

def SampleRegistrationRequest.identity (payload : SampleRegistrationRequest) : SampleIdentity :=
  (payload.attemptId, payload.testSetItemId, payload.inferenceConfigSha256)

def newSample (id : SampleId) (jobId : JobId) (payload : SampleRegistrationRequest)
    (inspection : SamplePcmInspection) : Sample where
  id := id
  jobId := jobId
  attemptId := payload.attemptId
  testSetId := payload.testSetId
  testSetItemId := payload.testSetItemId
  artifactId := payload.artifactId
  inputSha256 := payload.inputSha256
  modelSha256 := payload.modelSha256
  indexSha256 := payload.indexSha256
  inferenceF0Method := payload.inferenceF0Method
  inferenceConfigSha256 := payload.inferenceConfigSha256
  nativeInferenceManifestSha256 := payload.nativeInferenceManifestSha256
  nativeInferenceRequestSha256 := payload.nativeInferenceRequestSha256
  outputSizeBytes := payload.outputSizeBytes
  outputSha256 := payload.outputSha256
  outputSampleRateHz := inspection.sampleRateHz
  outputChannels := inspection.channels
  outputDurationSeconds := inspection.durationSeconds
  metrics := sampleMetricsEvidence payload inspection
  rvcCommitHash := payload.rvcCommitHash
  runtimeImageDigest := payload.runtimeImageDigest
  runtimeAssetManifestSha256 := payload.runtimeAssetManifestSha256

/-- `math.isclose`. -/
def isClose (first second relTol absTol : ℚ) : Bool :=
  |first - second| ≤ max (relTol * max |first| |second|) absTol

def durationTolerance (sampleRateHz : Nat) : ℚ := max (1 / sampleRateHz) (1 / 1000000)

def sampleMetricsMatch (reported computed : SampleMetricValues) : Bool :=
  let close (reported computed : ℚ) : Bool :=
    isClose reported computed (1 / 100000) (1 / 1000000)
  close reported.peakAmplitude computed.peakAmplitude && close reported.rms computed.rms &&
    close reported.clippingRatio computed.clippingRatio &&
    close reported.silenceRatio computed.silenceRatio

def sampleMatchesRegistration (sample : Sample) (payload : SampleRegistrationRequest)
    (evidence : SampleMetricsEvidence) : Bool :=
  sample.attemptId = payload.attemptId &&
    sample.testSetId = payload.testSetId &&
    sample.testSetItemId = payload.testSetItemId &&
    sample.artifactId = payload.artifactId &&
    sample.inputSha256 = payload.inputSha256 &&
    sample.modelSha256 = payload.modelSha256 &&
    sample.indexSha256 = payload.indexSha256 &&
    sample.inferenceF0Method = payload.inferenceF0Method &&
    sample.inferenceConfigSha256 = payload.inferenceConfigSha256 &&
    sample.nativeInferenceManifestSha256 = payload.nativeInferenceManifestSha256 &&
    sample.nativeInferenceRequestSha256 = payload.nativeInferenceRequestSha256 &&
    sample.outputSizeBytes = payload.outputSizeBytes &&
    sample.outputSha256 = payload.outputSha256 &&
    sample.outputSampleRateHz = payload.outputSampleRateHz &&
    sample.outputChannels = payload.outputChannels &&
    isClose sample.outputDurationSeconds evidence.managerComputedDurationSeconds 0
      (durationTolerance evidence.managerComputedSampleRateHz) &&
    sample.rvcCommitHash = payload.rvcCommitHash &&
    sample.runtimeImageDigest = payload.runtimeImageDigest &&
    sample.runtimeAssetManifestSha256 = payload.runtimeAssetManifestSha256 &&
    sample.metrics = evidence

/-! ## What the verification reads -/

inductive NativeSampleRole where
  | model
  | output
  | index
deriving DecidableEq

/-- The runtime that the metadata of an artifact names. -/
structure ArtifactProvenance where
  rvcCommitHash : String
  runtimeImageDigest : String
  runtimeAssetManifestSha256 : String
  nativeInferenceManifestSha256 : String
  nativeInferenceRequestSha256 : String
  nativeSampleRole : NativeSampleRole
deriving DecidableEq

/-- An artifact whose completed upload has been checked against it. -/
structure SampleArtifactBinding where
  artifactMimeType : String
  uploadContentType : String
  artifactSizeBytes : Nat
  uploadExpectedSizeBytes : Nat
  provenance : Option ArtifactProvenance
deriving DecidableEq

/-- The storage may be unavailable, and the artifact missing. -/
abbrev BindingRead := Option (Option SampleArtifactBinding)

/-- What a request reads besides the ledger. -/
structure SampleSources where
  /-- `verified_test_set_transfer` finds the test set as the Job's plan has it. -/
  planVerifiable : Bool
  modelBinding : BindingRead
  indexBinding : BindingRead
  outputBinding : BindingRead
  /-- The slot, the spool and the canonical object, unless one of them fails. -/
  bytes : Except HttpError Unit

def provenanceMatches (payload : SampleRegistrationRequest) (role : NativeSampleRole)
    (binding : SampleArtifactBinding) : Bool :=
  binding.provenance =
    some
      { rvcCommitHash := payload.rvcCommitHash
        runtimeImageDigest := payload.runtimeImageDigest
        runtimeAssetManifestSha256 := payload.runtimeAssetManifestSha256
        nativeInferenceManifestSha256 := payload.nativeInferenceManifestSha256
        nativeInferenceRequestSha256 := payload.nativeInferenceRequestSha256
        nativeSampleRole := role }

def sampleOutputRate (config : JobConfig) : Int :=
  if config.autoInferenceSamples.resampleSr.1 ≠ 0 then config.autoInferenceSamples.resampleSr.1
  else
    match config.model.sampleRate with
    | .khz40 => 40000
    | .khz48 => 48000

/-- The transfer carries the plan of the Job, which must be the one its configuration asks
for. -/
def verifiedSamplePlan (job : JobRow) (config : JobConfig) (verifiable : Bool) :
    Option SamplePlan :=
  if config.autoInferenceSamples.enabled = false ∨
      job.testSetId ≠ config.autoInferenceSamples.testSetId ∨ verifiable = false then none
  else job.samplePlan.filter fun plan =>
    some plan.testSetId = job.testSetId && plan.inferenceConfig = resolvedInferenceConfig config

/-! ## The verification -/

section

variable (platform : Platform) (settings : Settings) (sampleMaxBytes : Nat)

def verifySampleClaim (ledger : Ledger) (workerId : WorkerId) (jobId : JobId)
    (payload : SampleRegistrationRequest) (now : Time) :
    Except HttpError (JobRow × JobConfig) :=
  if sampleMaxBytes < payload.outputSizeBytes then
    .error ⟨413, "sample exceeds configured size limit"⟩
  else
    match requireActiveLease platform ledger workerId jobId payload.leaseId now with
    | .error error => .error error
    | .ok lease =>
        if lease.attemptId ≠ payload.attemptId then
          .error ⟨409, "sample attempt does not match lease"⟩
        else
          match ledger.jobs.find? jobId, ledger.attempts.find? payload.attemptId,
            ledger.workers.find? workerId with
          | some job, some attempt, some worker =>
              if attempt.jobId ≠ jobId ∨ attempt.workerId ≠ workerId ∨
                  attempt.engineMode ≠ .rvcWebui ∨ job.workerId ≠ some workerId ∨
                  job.currentAttemptId ≠ some payload.attemptId ∨
                  attempt.runtimeImageDigest ≠ some payload.runtimeImageDigest ∨
                  attempt.runtimeAssetManifestSha256 ≠
                    some payload.runtimeAssetManifestSha256 then
                .error ⟨409, "job attempt is no longer current"⟩
              else
                match validatedJobConfig platform jobId job (some attempt) with
                | .error _ => .error ⟨409, "job configuration integrity check failed"⟩
                | .ok config =>
                    let sample := config.autoInferenceSamples
                    let capabilities := worker.capabilities
                    let expectedCommit := config.rvcBackend.rvcCommitHash.getD rvcReviewedCommit
                    if sample.enabled = false ∨
                        capabilities.fixedTestSetInferenceReady = false ∨
                        capabilities.engineMode ≠ .rvcWebui ∨
                        capabilities.rvcAssetsReady = false ∨
                        sample.inferenceF0Method ∉ capabilities.supportedInferenceF0Methods then
                      .error ⟨409, "sample runtime is not ready"⟩
                    else if expectedCommit ≠ rvcReviewedCommit ∨
                        payload.rvcCommitHash ≠ expectedCommit ∨
                        capabilities.rvcCommitHash ≠ expectedCommit ∨
                        ¬RuntimeApproved settings.approvedSampleRuntimeBundles
                          payload.runtimeImageDigest payload.runtimeAssetManifestSha256 ∨
                        capabilities.runtimeImageDigest ≠ some payload.runtimeImageDigest ∨
                        capabilities.runtimeAssetManifestSha256 ≠
                          some payload.runtimeAssetManifestSha256 then
                      .error ⟨409, "RVC runtime commit does not match"⟩
                    else .ok (job, config)
          | _, _, _ => .error ⟨409, "job attempt is no longer current"⟩

/-- The item and the settings are those of the plan. -/
def verifySamplePlan (plan : SamplePlan) (payload : SampleRegistrationRequest) :
    Except HttpError Unit :=
  let indexRate := plan.inferenceConfig.indexRate.1.value
  if payload.testSetId ≠ plan.testSetId ∨ payload.samplePlanSha256 ≠ plan.sha256 ∨
      payload.inferenceConfigSha256 ≠ plan.inferenceConfigSha256 ∨
      payload.inferenceF0Method ≠ plan.inferenceConfig.inferenceF0Method then
    .error ⟨409, "sample provenance does not match Job snapshot"⟩
  else
    match plan.items.find? fun item => item.testSetItemId = payload.testSetItemId with
    | none => .error ⟨409, "sample input is not in the Job TestSet"⟩
    | some item =>
        if payload.inputSha256 ≠ item.sha256 then
          .error ⟨409, "sample input checksum does not match"⟩
        else if 0 < indexRate ∧ payload.indexSha256 = none then
          .error ⟨409, "sample retrieval index is required"⟩
        else if indexRate = 0 ∧ payload.indexSha256 ≠ none then
          .error ⟨409, "no-index sample must not declare an index"⟩
        else .ok ()

def verifySampleArtifacts (payload : SampleRegistrationRequest) (sources : SampleSources) :
    Except HttpError Unit :=
  let index : BindingRead :=
    if payload.indexSha256.isSome then sources.indexBinding else some none
  match sources.modelBinding, index, sources.outputBinding with
  | some model, some index, some output =>
      match model with
      | none => .error ⟨409, "verified final small model is missing"⟩
      | some model =>
          if payload.indexSha256.isSome ∧ index = none then
            .error ⟨409, "verified final index is missing"⟩
          else
            match output with
            | none => .error ⟨409, "verified sample Artifact is missing"⟩
            | some output =>
                if !provenanceMatches payload .model model ||
                    !provenanceMatches payload .output output ||
                    !index.all (provenanceMatches payload .index) then
                  .error ⟨409, "Artifact runtime provenance does not match"⟩
                else if output.artifactMimeType ≠ "audio/wav" ∨
                    output.uploadContentType ≠ "audio/wav" ∨
                    output.artifactSizeBytes ≠ payload.outputSizeBytes ∨
                    output.uploadExpectedSizeBytes ≠ payload.outputSizeBytes then
                  .error ⟨409, "sample Artifact metadata does not match"⟩
                else .ok ()
  | _, _, _ => .error ⟨503, "sample storage namespace is unavailable"⟩

/-- What the inspection finds is what the registration says. -/
def verifySampleAudio (config : JobConfig) (payload : SampleRegistrationRequest)
    (inspection : SamplePcmInspection) : Except HttpError Unit :=
  let expectedRate := sampleOutputRate config
  if (inspection.sampleRateHz : Int) ≠ expectedRate ∨
      payload.outputSampleRateHz ≠ inspection.sampleRateHz ∨
      payload.outputChannels ≠ inspection.channels ∨
      durationTolerance inspection.sampleRateHz <
        |payload.outputDurationSeconds - inspection.durationSeconds| then
    .error ⟨422, "sample PCM metadata does not match"⟩
  else if sampleMetricsMatch payload.metrics inspection.metrics = false then
    .error ⟨422, "sample PCM metrics do not match"⟩
  else if inspection.durationSeconds ≤ 0 ∨
      sampleMaxOutputDurationSeconds < inspection.durationSeconds then
    -- The evidence does not accept such a duration.
    .error ⟨500, "Internal Server Error"⟩
  else .ok ()

structure VerifiedSample (inspect : String → Option SamplePcmInspection) where
  workerId : WorkerId
  jobId : JobId
  payload : SampleRegistrationRequest
  config : JobConfig
  plan : SamplePlan
  inspection : SamplePcmInspection
  inspected : inspect payload.outputSha256 = some inspection
  planned : verifySamplePlan plan payload = .ok ()
  audible : verifySampleAudio config payload inspection = .ok ()

/-- `inspect` is what `inspect_sample_pcm_wav` finds in the bytes with a hash. -/
def verifySample (inspect : String → Option SamplePcmInspection) (ledger : Ledger)
    (workerId : WorkerId) (jobId : JobId) (payload : SampleRegistrationRequest)
    (sources : SampleSources) (now : Time) : Except HttpError (VerifiedSample inspect) :=
  match verifySampleClaim platform settings sampleMaxBytes ledger workerId jobId payload now with
  | .error error => .error error
  | .ok (job, config) =>
      match verifiedSamplePlan job config sources.planVerifiable with
      | none => .error ⟨409, "sample plan is no longer verifiable"⟩
      | some plan =>
          match planned : verifySamplePlan plan payload with
          | .error error => .error error
          | .ok () =>
              match verifySampleArtifacts payload sources, sources.bytes with
              | .error error, _ => .error error
              | .ok (), .error error => .error error
              | .ok (), .ok () =>
                  match inspected : inspect payload.outputSha256 with
                  | none => .error ⟨422, "sample output is not a supported PCM WAV"⟩
                  | some inspection =>
                      match audible : verifySampleAudio config payload inspection with
                      | .error error => .error error
                      | .ok () =>
                          .ok
                            { workerId := workerId
                              jobId := jobId
                              payload := payload
                              config := config
                              plan := plan
                              inspection := inspection
                              inspected := inspected
                              planned := planned
                              audible := audible }

end

/-! ## What a verified sample is -/

namespace VerifiedSample

variable {inspect : String → Option SamplePcmInspection} (verified : VerifiedSample inspect)

def identity : SampleIdentity := verified.payload.identity

def evidence : SampleMetricsEvidence := sampleMetricsEvidence verified.payload verified.inspection

def sample (id : SampleId) : Sample :=
  newSample id verified.jobId verified.payload verified.inspection

@[simp] theorem sample_identity (id : SampleId) :
    (verified.sample id).identity = verified.identity := rfl

@[simp] theorem sample_id (id : SampleId) : (verified.sample id).id = id := rfl

theorem audio : verified.payload.outputSampleRateHz = verified.inspection.sampleRateHz ∧
    verified.payload.outputChannels = verified.inspection.channels ∧
    0 < verified.inspection.durationSeconds ∧
    verified.inspection.durationSeconds ≤ sampleMaxOutputDurationSeconds := by
  have audible := verified.audible
  simp only [verifySampleAudio] at audible
  split at audible
  · cases audible
  · next described =>
      split at audible
      · cases audible
      · split at audible
        · cases audible
        · next bounded =>
            simp only [not_or, not_not, not_le, not_lt] at described bounded
            exact ⟨described.2.1, described.2.2.1, bounded.1, bounded.2⟩

/-- A stored sample matches a registration exactly if it was registered as the same. -/
theorem matches_sample_iff (other : VerifiedSample inspect) (id : SampleId) :
    sampleMatchesRegistration (other.sample id) verified.payload verified.evidence = true ↔
      verified.payload.contents = other.payload.contents := by
  constructor
  · intro matching
    simp only [sampleMatchesRegistration, sample, newSample, evidence, sampleMetricsEvidence,
      Bool.and_eq_true, decide_eq_true_eq, SampleMetricsEvidence.mk.injEq] at matching
    have sameRate : verified.payload.outputSampleRateHz = other.payload.outputSampleRateHz := by
      rw [verified.audio.1, other.audio.1]
      exact matching.2.2.2.2.1.symm
    have sameChannels : verified.payload.outputChannels = other.payload.outputChannels := by
      rw [verified.audio.2.1, other.audio.2.1]
      exact matching.2.2.2.2.2.1.symm
    simp only [SampleRegistrationRequest.contents, SampleRegistrationRequest.mk.injEq]
    grind
  · intro same
    simp only [SampleRegistrationRequest.contents, SampleRegistrationRequest.mk.injEq] at same
    have sameInspection : verified.inspection = other.inspection := by
      have found := verified.inspected
      rw [show verified.payload.outputSha256 = other.payload.outputSha256 by grind,
        other.inspected] at found
      exact (Option.some.inj found).symm
    have close : isClose other.inspection.durationSeconds other.inspection.durationSeconds 0
        (durationTolerance other.inspection.sampleRateHz) = true := by
      simp [isClose, durationTolerance]
    simp only [sampleMatchesRegistration, sample, newSample, evidence, sampleMetricsEvidence,
      sameInspection, close, Bool.and_eq_true, decide_eq_true_eq]
    have rate := other.audio.1
    have channels := other.audio.2.1
    grind

end VerifiedSample

end RvcOrchestrator.Manager

import RvcOrchestrator.Manager.Readers
import RvcOrchestrator.Manager.Samples

/-! # What a comparison says of a Job

The configuration of the Job, its current attempt with the latest points of its metrics, and
the artifacts and samples of that attempt whose uploads have been verified.
-/

namespace RvcOrchestrator.Manager

open RvcOrchestrator.Foundation RvcOrchestrator.Contracts

/-! ## What is read -/

/-- `manager_verification`. Its session is a field of the artifact. -/
structure ManagerVerification where
  algorithm : String
  boundedStream : Bool
  storageBackend : StorageBackend
deriving DecidableEq

structure ComparedArtifact extends Artifact where
  managerVerification : Option ManagerVerification
  provenance : Option ArtifactProvenance
deriving DecidableEq

/-- `sys.float_info.max`, as it is written. -/
def floatMax : ℚ := 17976931348623157 * 10 ^ 292

/-- The smallest positive double, as it is written. -/
def floatMin : ℚ := 5 / 10 ^ 324

structure ComparedSample extends Sample where
  createdAt : Time
  /-- The double of the duration, as it is written. -/
  writtenDuration : PyFloat
  positiveDouble : 0 < outputDurationSeconds →
    floatMin ≤ writtenDuration.decimal ∧ writtenDuration.decimal ≤ floatMax
deriving DecidableEq

/-- The tables as the queries find them. The last query makes sure that Jobs and attempts are
still those of the first. -/
structure ComparisonRows where
  ledger : Ledger
  metrics : List Metric
  artifacts : List ComparedArtifact
  uploads : Table UploadId UploadSession
  samples : List ComparedSample
  /-- `uq_metric_attempt_sequence` -/
  metricKey : (metrics.map fun metric => (metric.attemptId, metric.sequence)).Nodup
  sampleKey : (samples.map fun sample => sample.id).Nodup

inductive ComparisonError where
  /-- `InvalidExperimentComparisonLedger` -/
  | invalid
  /-- `ExperimentComparisonUnavailable` -/
  | unavailable
  /-- A schema of the response does not accept a value. -/
  | schema
deriving DecidableEq, Repr

/-! ## Metrics -/

def metricPointLimitPerKey : Nat := 200

def trainingMetricKeys : List String :=
  ["current_epoch", "epoch_completed", "epoch_progress_percent", "grad_norm_d", "grad_norm_g",
    "learning_rate", "loss_d_total", "loss_fm", "loss_g_adversarial", "loss_g_total", "loss_kl",
    "loss_mel", "step", "total_epoch"]

def systemMetricKeys : List String :=
  ["system.disk_free_bytes", "system.gpu.count", "system.gpu.telemetry_available"] ++
    (List.range 64).flatMap fun gpuIndex =>
      ["temperature_c", "utilization_percent", "vram_total_mb", "vram_used_mb"].map fun suffix =>
        "system.gpu." ++ toString gpuIndex ++ "." ++ suffix

def allowedComparisonMetricKeys : List String :=
  (trainingMetricKeys ++ systemMetricKeys).mergeSort fun left right => left ≤ right

structure ComparisonMetricPoint where
  sequence : Nat
  epoch : Option Nat
  step : Option Nat
  value : PyFloat
  occurredAt : Time
deriving DecidableEq

def metricPoint (metric : Metric) : ComparisonMetricPoint where
  sequence := metric.sequence
  epoch := metric.epoch
  step := metric.step
  value := metric.value
  occurredAt := metric.occurredAt

structure ComparisonMetricSeries where
  key : String
  totalPoints : Nat
  truncated : Bool
  points : List ComparisonMetricPoint
deriving DecidableEq

/-- The `relevant` rows of a current attempt. -/
def relevantMetrics (rows : ComparisonRows) (jobId : JobId) (attemptId : AttemptId) :
    List Metric :=
  rows.metrics.filter fun metric =>
    metric.jobId = jobId && metric.attemptId = attemptId &&
      metric.key ∈ allowedComparisonMetricKeys

def metricSeries (relevant : List Metric) (key : String) : ComparisonMetricSeries :=
  let ofKey := relevant.filter fun metric => metric.key = key
  let ranked := ofKey.mergeSort fun left right => right.sequence ≤ left.sequence
  let points := (ranked.take metricPointLimitPerKey).reverse.map metricPoint
  { key := key
    totalPoints := ofKey.length
    truncated := points.length < ofKey.length
    points := points }

def metricSeriesOfJob (rows : ComparisonRows) (jobId : JobId) (attemptId : AttemptId) :
    Except ComparisonError (List ComparisonMetricSeries) :=
  let relevant := relevantMetrics rows jobId attemptId
  if relevant.any fun metric =>
      floatMax < metric.value.decimal || metric.value.decimal < -floatMax then
    .error .invalid
  else
    let keys := (relevant.map Metric.key).dedup.mergeSort fun left right => left ≤ right
    .ok (keys.map (metricSeries relevant))

/-! ## Artifacts -/

/-- Neither empty nor a path, and without control characters. -/
def IsPlainFilename (filename : String) : Prop :=
  filename ≠ "" ∧ filename ≠ "." ∧ filename ≠ ".." ∧ '/' ∉ filename.toList ∧
    '\\' ∉ filename.toList ∧ ∀ char ∈ filename.toList, ¬(char.toNat < 32 ∨ char.toNat = 127)

instance (filename : String) : Decidable (IsPlainFilename filename) :=
  letI : Decidable (∀ char ∈ filename.toList, ¬(char.toNat < 32 ∨ char.toNat = 127)) :=
    List.decidableBAll _ filename.toList
  inferInstanceAs (Decidable (_ ∧ _ ∧ _ ∧ _ ∧ _ ∧ _))

structure ComparisonArtifactRead where
  id : UploadArtifactId
  filename : String
  sizeBytes : Nat
  sha256 : String
  plain : IsPlainFilename filename
  length : 1 ≤ filename.toList.length ∧ filename.toList.length ≤ 255
  positive : 0 < sizeBytes
  digest : IsSha256 sha256
deriving DecidableEq

/-- A text that is a digest is its own lower case. -/
def artifactToRead (artifact : ComparedArtifact) :
    Except ComparisonError ComparisonArtifactRead :=
  if accepted : IsPlainFilename artifact.filename ∧ IsSha256 artifact.sha256 then
    if fits : (1 ≤ artifact.filename.toList.length ∧ artifact.filename.toList.length ≤ 255) ∧
        0 < artifact.sizeBytes then
      .ok ⟨artifact.id, artifact.filename, artifact.sizeBytes, artifact.sha256, accepted.1, fits.1,
        fits.2, accepted.2⟩
    else .error .schema
  else .error .invalid

/-- `VerifiedArtifactBinding` -/
structure ComparedBinding where
  artifact : ComparedArtifact
  upload : UploadSession

/-- `none` stands for an artifact that is not verified. -/
def verifiedBindingFromRows (storage : StorageIdentity) (artifact : ComparedArtifact)
    (uploadId : UploadId) (upload : UploadSession) (jobId : JobId) (attemptId : AttemptId)
    (artifactType : ArtifactType) : Except ComparisonError (Option ComparedBinding) :=
  if ¬storage.Matches upload then .error .unavailable
  else
    let expectedKey := canonicalObjectKey jobId attemptId artifactType uploadId
    match artifact.managerVerification with
    | none => .ok none
    | some verification =>
        if upload.artifactId ≠ some artifact.id ∨ upload.status ≠ .completed ∨
            artifact.jobId ≠ jobId ∨ artifact.attemptId ≠ attemptId ∨
            artifact.artifactType ≠ artifactType ∨ artifact.sizeBytes = 0 ∨
            artifact.objectKey ≠ expectedKey ∨ upload.jobId ≠ jobId ∨
            upload.attemptId ≠ attemptId ∨ upload.artifactType ≠ artifactType ∨
            upload.canonicalObjectKey ≠ expectedKey ∨
            upload.expectedSizeBytes ≠ artifact.sizeBytes ∨
            upload.expectedSha256 ≠ artifact.sha256 ∨ upload.contentType ≠ artifact.mimeType ∨
            upload.filename ≠ artifact.filename ∨ verification.algorithm ≠ "sha256" ∨
            verification.boundedStream = false ∨ artifact.uploadSessionId ≠ uploadId ∨
            verification.storageBackend ≠ storage.backend then
          .ok none
        else .ok (some ⟨artifact, upload⟩)

/-- `_COMPARISON_ARTIFACT_TYPES` -/
def comparisonArtifactTypes : List ArtifactType := [.finalSmallModel, .finalIndex, .sample]

def completedUploads (rows : ComparisonRows) (jobId : JobId) (attemptId : AttemptId) :
    List (ComparedArtifact × UploadId × UploadSession) :=
  (rows.artifacts.filter fun artifact =>
      artifact.jobId = jobId && artifact.attemptId = attemptId &&
        artifact.artifactType ∈ comparisonArtifactTypes).flatMap fun artifact =>
    (rows.uploads.rows.filter fun entry =>
      entry.2.artifactId = some artifact.id && entry.2.status = .completed).map fun entry =>
        (artifact, entry)

def verifiedBindings (storage : StorageIdentity) (rows : ComparisonRows) (jobId : JobId)
    (attemptId : AttemptId) : Except ComparisonError (List ComparedBinding) :=
  let read : Except ComparisonError (List ComparedBinding) :=
    (completedUploads rows jobId attemptId).mapM fun (artifact, uploadId, upload) =>
      match verifiedBindingFromRows storage artifact uploadId upload jobId attemptId
        artifact.artifactType with
      | .error error => .error error
      | .ok none => .error .invalid
      | .ok (some binding) => .ok binding
  match read with
  | .error error => .error error
  | .ok bindings =>
      if ¬(bindings.map fun binding => binding.artifact.id).Nodup then .error .invalid
      else .ok bindings

/-- At most one artifact of a type is shown. -/
def selectedArtifact (bindings : List ComparedBinding) (artifactType : ArtifactType) :
    Except ComparisonError (Option ComparisonArtifactRead) :=
  match bindings.filter fun binding => binding.artifact.artifactType = artifactType with
  | [] => .ok none
  | [binding] => (artifactToRead binding.artifact).map some
  | _ => .error .invalid

/-! ## Samples -/

structure ComparisonSampleRead where
  id : SampleId
  testSetItemId : Nat
  outputSizeBytes : Nat
  outputSha256 : String
  outputSampleRateHz : Nat
  outputChannels : Nat
  outputDurationSeconds : PyFloat
  createdAt : Time
  positive : 0 < outputSizeBytes ∧ 0 < outputSampleRateHz ∧ 0 < outputChannels
  duration : floatMin ≤ outputDurationSeconds.decimal ∧ outputDurationSeconds.decimal ≤ floatMax
  digest : IsSha256 outputSha256
deriving DecidableEq

/-- `artifact_provenance_matches` -/
def sampleProvenanceMatches (sample : ComparedSample) (role : NativeSampleRole)
    (binding : ComparedBinding) : Bool :=
  binding.artifact.provenance =
    some
      { rvcCommitHash := sample.rvcCommitHash
        runtimeImageDigest := sample.runtimeImageDigest
        runtimeAssetManifestSha256 := sample.runtimeAssetManifestSha256
        nativeInferenceManifestSha256 := sample.nativeInferenceManifestSha256
        nativeInferenceRequestSha256 := sample.nativeInferenceRequestSha256
        nativeSampleRole := role }

def sampleProvenanceIsValid (sample : ComparedSample) (attempt : AttemptRow)
    (outputBinding modelBinding : ComparedBinding)
    (indexBinding : Option ComparedBinding) : Bool :=
  attempt.runtimeImageDigest = some sample.runtimeImageDigest &&
    attempt.runtimeAssetManifestSha256 = some sample.runtimeAssetManifestSha256 &&
    sampleProvenanceMatches sample .output outputBinding &&
    sampleProvenanceMatches sample .model modelBinding &&
    indexBinding.all (sampleProvenanceMatches sample .index)

/-- One turn of the loop of `_samples_by_job`. The evidence of the metrics is a column of the
model that is always valid. -/
def sampleToRead (job : JobRow) (config : JobConfig) (attempt : AttemptRow)
    (bindings : List ComparedBinding) (seenItems : List Nat) (sample : ComparedSample) :
    Except ComparisonError ComparisonSampleRead :=
  let modelBindings := bindings.filter fun binding =>
    binding.artifact.artifactType = .finalSmallModel &&
      binding.artifact.sha256 = sample.modelSha256
  let indexBindings := bindings.filter fun binding =>
    binding.artifact.artifactType = .finalIndex &&
      some binding.artifact.sha256 = sample.indexSha256
  let expectedIndex := decide (0 < config.autoInferenceSamples.indexRate.1.decimal)
  match bindings.find? fun binding => binding.artifact.id = sample.artifactId, modelBindings with
  | some outputBinding, [modelBinding] =>
      if config.autoInferenceSamples.enabled = false ∨ some sample.testSetId ≠ job.testSetId ∨
          sample.testSetItemId ∈ seenItems ∨ outputBinding.artifact.artifactType ≠ .sample ∨
          outputBinding.artifact.sha256 ≠ sample.outputSha256 ∨
          outputBinding.artifact.sizeBytes ≠ sample.outputSizeBytes ∨
          outputBinding.artifact.mimeType ≠ "audio/wav" ∨ 1 < indexBindings.length ∨
          sample.outputDurationSeconds ≤ 0 ∨ sample.outputSizeBytes = 0 ∨
          sample.outputSampleRateHz = 0 ∨ sample.outputChannels = 0 then
        .error .invalid
      else if expectedIndex ≠ sample.indexSha256.isSome ∨
          expectedIndex ≠ !indexBindings.isEmpty then
        .error .invalid
      else if sampleProvenanceIsValid sample attempt outputBinding modelBinding
          indexBindings.head? = false then
        .error .invalid
      else if fits : ((0 < sample.outputSizeBytes ∧ 0 < sample.outputSampleRateHz ∧
          0 < sample.outputChannels) ∧ 0 < sample.outputDurationSeconds) ∧
            IsSha256 sample.outputSha256 then
        .ok
          { id := sample.id
            testSetItemId := sample.testSetItemId
            outputSizeBytes := sample.outputSizeBytes
            outputSha256 := sample.outputSha256
            outputSampleRateHz := sample.outputSampleRateHz
            outputChannels := sample.outputChannels
            outputDurationSeconds := sample.writtenDuration
            createdAt := sample.createdAt
            positive := fits.1.1
            duration := sample.positiveDouble fits.1.2
            digest := fits.2 }
      else .error .schema
  | _, _ => .error .invalid

def samplesToReads (job : JobRow) (config : JobConfig) (attempt : AttemptRow)
    (bindings : List ComparedBinding) :
    List Nat → List ComparedSample → Except ComparisonError (List ComparisonSampleRead)
  | _, [] => .ok []
  | seenItems, sample :: samples =>
      match sampleToRead job config attempt bindings seenItems sample with
      | .error error => .error error
      | .ok read =>
          (samplesToReads job config attempt bindings (sample.testSetItemId :: seenItems)
            samples).map (read :: ·)

def selectedSamples (rows : ComparisonRows) (jobId : JobId) (attemptId : AttemptId) :
    List ComparedSample :=
  (rows.samples.filter fun sample =>
    sample.jobId = jobId && sample.attemptId = attemptId).mergeSort fun left right =>
      left.createdAt < right.createdAt ||
        (left.createdAt = right.createdAt && left.id.value ≤ right.id.value)

/-! ## The response -/

structure ComparisonAvailability where
  finalModel : Option ComparisonArtifactRead
  finalIndex : Option ComparisonArtifactRead
  samples : List ComparisonSampleRead
  few : samples.length ≤ 128

def ComparisonAvailability.none : ComparisonAvailability := ⟨.none, .none, [], Nat.zero_le _⟩

structure ComparisonJobRead where
  id : JobId
  jobName : String
  status : JobStatus
  config : JobConfig
  currentEpoch : Option Int
  totalEpoch : Int
  currentAttempt : Option ComparisonAttemptRead
  metrics : List ComparisonMetricSeries
  availability : ComparisonAvailability

def comparisonAvailability (storage : StorageIdentity) (rows : ComparisonRows) (jobId : JobId)
    (job : JobRow) (config : JobConfig) (attemptId : AttemptId) (attempt : AttemptRow) :
    Except ComparisonError ComparisonAvailability := do
  let bindings ← verifiedBindings storage rows jobId attemptId
  let finalModel ← selectedArtifact bindings .finalSmallModel
  let finalIndex ← selectedArtifact bindings .finalIndex
  let samples ← samplesToReads job config attempt bindings [] (selectedSamples rows jobId attemptId)
  if few : samples.length ≤ 128 then return ⟨finalModel, finalIndex, samples, few⟩
  else .error .schema

/-- Nothing is shown of a Job without a current attempt. -/
def comparisonResults (storage : StorageIdentity) (rows : ComparisonRows) (jobId : JobId)
    (job : JobRow) (config : JobConfig) : Option (AttemptId × AttemptRow) →
      Except ComparisonError (List ComparisonMetricSeries × ComparisonAvailability)
  | none => .ok ([], .none)
  | some (attemptId, attempt) => do
      let metrics ← metricSeriesOfJob rows jobId attemptId
      let availability ← comparisonAvailability storage rows jobId job config attemptId attempt
      return (metrics, availability)

/-- `build_experiment_comparison_jobs`, for one of the Jobs. -/
def comparisonJob (platform : Platform) (storage : StorageIdentity) (rows : ComparisonRows)
    (jobId : JobId) (job : JobRow) : Except ComparisonError ComparisonJobRead := do
  let current := currentAttempt rows.ledger job
  let attemptRead ← (validatedCurrentAttempt rows.ledger jobId job).mapError fun _ => .invalid
  let config ← (validatedComparisonConfig platform jobId job (current.map Prod.snd)).mapError
    fun _ => .invalid
  let results ← comparisonResults storage rows jobId job config current
  .ok
    { id := jobId
      jobName := job.jobName
      status := job.status
      config := config
      currentEpoch := job.currentEpoch
      totalEpoch := job.totalEpoch
      currentAttempt := attemptRead
      metrics := results.1
      availability := results.2 }

/-! ## What is shown of a Job -/

structure SeriesSound (series : ComparisonMetricSeries) : Prop where
  key : series.key ∈ allowedComparisonMetricKeys
  some_ : 1 ≤ series.points.length
  few : series.points.length ≤ metricPointLimitPerKey
  total : series.points.length ≤ series.totalPoints
  truncated : series.truncated = decide (series.points.length < series.totalPoints)
  increasing : series.points.Pairwise fun left right => left.sequence < right.sequence
  finite : ∀ point ∈ series.points,
    -floatMax ≤ point.value.decimal ∧ point.value.decimal ≤ floatMax

/-- The latest rows of a key, in the order of their sequence. -/
theorem pairwise_latest {metrics : List Metric}
    (unique : (metrics.map Metric.sequence).Nodup) (count : Nat) :
    ((metrics.mergeSort fun left right => right.sequence ≤ left.sequence).take count).reverse.Pairwise
      fun left right => left.sequence < right.sequence := by
  rw [List.pairwise_reverse]
  have ranked : (metrics.mergeSort fun left right => right.sequence ≤ left.sequence).Pairwise
      fun left right => right.sequence ≤ left.sequence := by
    have transitive (first second third : Metric) :
        decide (second.sequence ≤ first.sequence) = true →
          decide (third.sequence ≤ second.sequence) = true →
            decide (third.sequence ≤ first.sequence) = true := by
      simp only [decide_eq_true_eq]
      omega
    have total (first second : Metric) :
        (decide (second.sequence ≤ first.sequence) ||
          decide (first.sequence ≤ second.sequence)) = true := by
      simp only [Bool.or_eq_true, decide_eq_true_eq]
      omega
    have sorted := List.pairwise_mergeSort transitive total metrics
    exact sorted.imp of_decide_eq_true
  have distinct : (metrics.mergeSort fun left right => right.sequence ≤ left.sequence).Pairwise
      fun left right => left.sequence ≠ right.sequence :=
    List.pairwise_map.mp (((metrics.mergeSort_perm _).map Metric.sequence).nodup_iff.mpr unique)
  exact ((ranked.and distinct).imp fun both => lt_of_le_of_ne both.1 (Ne.symm both.2)).sublist
    (List.take_sublist count _)

theorem metricSeries_sound {relevant : List Metric} {key : String}
    (allowed : key ∈ allowedComparisonMetricKeys) (present : key ∈ relevant.map Metric.key)
    (unique : (relevant.map Metric.sequence).Nodup)
    (finite : ∀ metric ∈ relevant,
      -floatMax ≤ metric.value.decimal ∧ metric.value.decimal ≤ floatMax) :
    SeriesSound (metricSeries relevant key) := by
  have length : (metricSeries relevant key).points.length =
      min metricPointLimitPerKey (relevant.filter fun metric => metric.key = key).length := by
    simp [metricSeries]
  have total : (metricSeries relevant key).totalPoints =
      (relevant.filter fun metric => metric.key = key).length := rfl
  rcases List.mem_map.mp present with ⟨metric, member, rfl⟩
  have some_ : 1 ≤ (relevant.filter fun other => other.key = metric.key).length :=
    List.length_pos_of_mem (List.mem_filter.mpr ⟨member, decide_eq_true rfl⟩)
  exact
    { key := allowed
      some_ := by
        rw [length]
        exact Nat.le_min.mpr ⟨by decide, some_⟩
      few := by
        rw [length]
        exact Nat.min_le_left ..
      total := by
        rw [length, total]
        exact Nat.min_le_right ..
      truncated := rfl
      increasing := by
        have ofKey : ((relevant.filter fun other => other.key = metric.key).map
            Metric.sequence).Nodup := unique.sublist (List.filter_sublist.map _)
        exact List.pairwise_map.mpr (pairwise_latest ofKey metricPointLimitPerKey)
      finite := by
        intro point shown
        rcases List.mem_map.mp shown with ⟨other, ofKey, rfl⟩
        have relevantOther := List.mem_of_mem_take (List.mem_reverse.mp ofKey)
        rw [List.mem_mergeSort] at relevantOther
        exact finite other (List.mem_filter.mp relevantOther).1 }

theorem relevant_iff {rows : ComparisonRows} {jobId : JobId} {attemptId : AttemptId}
    {metric : Metric} :
    metric ∈ relevantMetrics rows jobId attemptId ↔ metric ∈ rows.metrics ∧
      (metric.jobId = jobId ∧ metric.attemptId = attemptId) ∧
        metric.key ∈ allowedComparisonMetricKeys := by
  rw [relevantMetrics, List.mem_filter]
  simp only [Bool.and_eq_true, decide_eq_true_eq]

/-- A sequence is used once in an attempt. -/
theorem relevant_unique (rows : ComparisonRows) (jobId : JobId) (attemptId : AttemptId) :
    ((relevantMetrics rows jobId attemptId).map Metric.sequence).Nodup := by
  have pairs : ((relevantMetrics rows jobId attemptId).map fun metric =>
      (metric.attemptId, metric.sequence)).Nodup :=
    rows.metricKey.sublist (List.filter_sublist.map _)
  have same : ((relevantMetrics rows jobId attemptId).map fun metric =>
      (metric.attemptId, metric.sequence)) =
        ((relevantMetrics rows jobId attemptId).map Metric.sequence).map (attemptId, ·) := by
    rw [List.map_map]
    exact List.map_congr_left fun metric relevant =>
      Prod.ext (relevant_iff.mp relevant).2.1.2 rfl
  rw [same] at pairs
  exact pairs.of_map _

theorem length_allowedComparisonMetricKeys : allowedComparisonMetricKeys.length = 273 := by
  rw [allowedComparisonMetricKeys, List.length_mergeSort]
  decide +kernel

/-- The series of an attempt are sound, each of another key. -/
theorem metricSeriesOfJob_sound {rows : ComparisonRows} {jobId : JobId} {attemptId : AttemptId}
    {series : List ComparisonMetricSeries}
    (read : metricSeriesOfJob rows jobId attemptId = .ok series) :
    (∀ shown ∈ series, SeriesSound shown) ∧
      (series.map ComparisonMetricSeries.key).Nodup ∧ series.length ≤ 273 := by
  simp only [metricSeriesOfJob] at read
  split at read
  · cases read
  · next finite =>
      cases read
      have allowed : ∀ key ∈ (relevantMetrics rows jobId attemptId).map Metric.key,
          key ∈ allowedComparisonMetricKeys := by
        intro key member
        rcases List.mem_map.mp member with ⟨metric, relevant, rfl⟩
        exact (relevant_iff.mp relevant).2.2
      have distinct := List.nodup_dedup ((relevantMetrics rows jobId attemptId).map Metric.key)
      refine ⟨?_, ?_, ?_⟩
      · intro shown member
        rcases List.mem_map.mp member with ⟨key, ofKeys, rfl⟩
        rw [List.mem_mergeSort, List.mem_dedup] at ofKeys
        apply metricSeries_sound (allowed key ofKeys) ofKeys (relevant_unique ..)
        intro metric relevant
        have fits : ¬(floatMax < metric.value.decimal ∨ metric.value.decimal < -floatMax) := by
          intro outside
          refine finite (List.any_eq_true.mpr ⟨metric, relevant, ?_⟩)
          simpa using outside
        exact ⟨not_lt.mp fun below => fits (.inr below), not_lt.mp fun above => fits (.inl above)⟩
      · rw [List.map_map]
        exact ((List.mergeSort_perm ..).nodup_iff.mpr distinct).map fun _ _ same => same
      · rw [List.length_map, List.length_mergeSort, ← length_allowedComparisonMetricKeys]
        exact (List.subperm_of_subset distinct fun key member =>
          allowed key (List.mem_dedup.mp member)).length_le

theorem sampleToRead_eq_ok {job : JobRow} {config : JobConfig} {attempt : AttemptRow}
    {bindings : List ComparedBinding} {seenItems : List Nat} {sample : ComparedSample}
    {shown : ComparisonSampleRead}
    (read : sampleToRead job config attempt bindings seenItems sample = .ok shown) :
    shown.id = sample.id ∧ shown.testSetItemId = sample.testSetItemId ∧
      sample.testSetItemId ∉ seenItems ∧ config.autoInferenceSamples.enabled = true := by
  simp only [sampleToRead] at read
  split at read
  · split at read
    · cases read
    · next accepted =>
        split at read
        · cases read
        · split at read
          · cases read
          · split at read
            · cases read
              simp only [not_or, Bool.not_eq_false] at accepted
              exact ⟨rfl, rfl, accepted.2.2.1, accepted.1⟩
            · cases read
  · cases read

/-- The samples are of an enabled section, each of another item. -/
theorem samplesToReads_eq_ok {job : JobRow} {config : JobConfig} {attempt : AttemptRow}
    {bindings : List ComparedBinding} {seenItems : List Nat} {samples : List ComparedSample}
    {reads : List ComparisonSampleRead}
    (read : samplesToReads job config attempt bindings seenItems samples = .ok reads) :
    reads.map ComparisonSampleRead.id = samples.map (fun sample => sample.id) ∧
      (∀ shown ∈ reads, shown.testSetItemId ∉ seenItems) ∧
      (reads.map ComparisonSampleRead.testSetItemId).Nodup ∧
      (reads ≠ [] → config.autoInferenceSamples.enabled = true) := by
  induction samples generalizing seenItems reads with
  | nil =>
      cases read
      exact ⟨rfl, List.forall_mem_nil _, List.nodup_nil, fun some_ => absurd rfl some_⟩
  | cons sample samples induction =>
      rw [samplesToReads] at read
      split at read
      · cases read
      · next shown ofSample =>
          rcases sampleToRead_eq_ok ofSample with ⟨sameId, sameItem, fresh, enabled⟩
          rcases later : samplesToReads job config attempt bindings
              (sample.testSetItemId :: seenItems) samples with error | others
          · rw [later] at read
            cases read
          · rw [later] at read
            cases read
            rcases induction later with ⟨ids, unseen, items, -⟩
            refine ⟨?_, ?_, ?_, fun _ => enabled⟩
            · rw [List.map_cons, List.map_cons, sameId, ids]
            · intro other member
              rcases List.mem_cons.mp member with rfl | member
              · rw [sameItem]
                exact fresh
              · exact fun seen => unseen other member (List.mem_cons_of_mem _ seen)
            · rw [List.map_cons, List.nodup_cons, sameItem]
              refine ⟨fun again => ?_, items⟩
              rcases List.mem_map.mp again with ⟨other, member, same⟩
              exact unseen other member (same ▸ List.mem_cons_self)

structure AvailabilitySound (config : JobConfig) (availability : ComparisonAvailability) : Prop where
  ids : (availability.samples.map ComparisonSampleRead.id).Nodup
  items : (availability.samples.map ComparisonSampleRead.testSetItemId).Nodup
  enabled : availability.samples ≠ [] → config.autoInferenceSamples.enabled = true

theorem selectedSamples_nodup (rows : ComparisonRows) (jobId : JobId) (attemptId : AttemptId) :
    ((selectedSamples rows jobId attemptId).map fun sample => sample.id).Nodup :=
  ((List.mergeSort_perm ..).map _).nodup_iff.mpr
    (rows.sampleKey.sublist (List.filter_sublist.map _))

/-- A reader that returns has read its first part. -/
theorem bind_eq_ok {Error Value Result : Type} {first : Except Error Value}
    {rest : Value → Except Error Result} {result : Result} :
    first >>= rest = .ok result ↔ ∃ value, first = .ok value ∧ rest value = .ok result := by
  cases first with
  | error error => simp [bind, Except.bind]
  | ok value => simp [bind, Except.bind]

theorem mapError_eq_ok {Error Other Value : Type} {first : Except Error Value}
    {change : Error → Other} {value : Value} :
    first.mapError change = .ok value ↔ first = .ok value := by
  cases first with
  | error error => simp [Except.mapError]
  | ok value => simp [Except.mapError]

theorem comparisonAvailability_sound {storage : StorageIdentity} {rows : ComparisonRows}
    {jobId : JobId} {job : JobRow} {config : JobConfig} {attemptId : AttemptId}
    {attempt : AttemptRow} {availability : ComparisonAvailability}
    (read : comparisonAvailability storage rows jobId job config attemptId attempt =
      .ok availability) : AvailabilitySound config availability := by
  rcases bind_eq_ok.mp read with ⟨bindings, -, read⟩
  rcases bind_eq_ok.mp read with ⟨finalModel, -, read⟩
  rcases bind_eq_ok.mp read with ⟨finalIndex, -, read⟩
  rcases bind_eq_ok.mp read with ⟨samples, ofSamples, read⟩
  split at read
  · cases read
    rcases samplesToReads_eq_ok ofSamples with ⟨ids, -, items, enabled⟩
    exact
      { ids := ids ▸ selectedSamples_nodup rows jobId attemptId
        items := items
        enabled := enabled }
  · cases read

structure ComparisonJobSound (jobId : JobId) (job : JobRow) (read : ComparisonJobRead) :
    Prop where
  id : read.id = jobId
  jobName : read.jobName = read.config.jobName.1
  totalEpoch : read.totalEpoch = read.config.training.epochs.1
  experimentId : read.config.experimentId.1 = job.experimentId
  datasetId : read.config.datasetId.1 = job.datasetId
  currentEpoch : ∀ epoch, read.currentEpoch = some epoch → 0 ≤ epoch ∧ epoch ≤ read.totalEpoch
  status : ∀ attempt, read.currentAttempt = some attempt → attempt.status = read.status
  numbered : ∀ attempt, read.currentAttempt = some attempt → 1 ≤ attempt.attemptNumber
  ended : ∀ attempt, read.currentAttempt = some attempt →
    (attempt.status ∈ terminalJobStatuses ↔ attempt.finishedAt ≠ none) ∧
      ∀ finishedAt, attempt.finishedAt = some finishedAt → attempt.startedAt ≤ finishedAt
  idle : read.currentAttempt = none → (read.status = .queued ∨ read.status = .cancelled) ∧
    read.metrics = [] ∧ read.availability = .none
  metrics : (∀ series ∈ read.metrics, SeriesSound series) ∧
    (read.metrics.map ComparisonMetricSeries.key).Nodup ∧ read.metrics.length ≤ 273
  availability : AvailabilitySound read.config read.availability

theorem validatedComparisonConfig_eq_ok {platform : Platform} {jobId : JobId} {job : JobRow}
    {attempt : Option AttemptRow} {config : JobConfig}
    (read : validatedComparisonConfig platform jobId job attempt = .ok config) :
    config.jobName.1 = job.jobName ∧ config.experimentId.1 = job.experimentId ∧
      config.datasetId.1 = job.datasetId ∧ config.training.epochs.1 = job.totalEpoch ∧
      ∀ epoch, job.currentEpoch = some epoch → 0 ≤ epoch ∧ epoch ≤ job.totalEpoch := by
  simp only [validatedComparisonConfig] at read
  split at read
  · cases read
  · split at read
    · cases read
    · next matched =>
        split at read
        · cases read
        · split at read
          · cases read
          · split at read
            · cases read
            · next epochs =>
                cases read
                simp only [not_or, not_not] at matched epochs
                refine ⟨matched.1, matched.2.1, matched.2.2.1, matched.2.2.2.1, ?_⟩
                intro epoch current
                simpa [current] using epochs.2

theorem row_ended {row : AttemptRow}
    (ended : ¬(row.status ∈ terminalJobStatuses ∧
      row.finishedAt.all (fun finishedAt => finishedAt < row.startedAt) = true))
    (running : ¬(row.status ∉ terminalJobStatuses ∧ row.finishedAt ≠ none)) :
    (row.status ∈ terminalJobStatuses ↔ row.finishedAt ≠ none) ∧
      ∀ finishedAt, row.finishedAt = some finishedAt → row.startedAt ≤ finishedAt := by
  have terminal (some_ : row.finishedAt ≠ none) : row.status ∈ terminalJobStatuses :=
    Decidable.not_not.mp fun notTerminal => running ⟨notTerminal, some_⟩
  refine ⟨⟨?_, terminal⟩, ?_⟩
  · intro terminal none
    refine ended ⟨terminal, ?_⟩
    rw [none]
    rfl
  · intro finishedAt finished
    by_contra early
    refine ended ⟨terminal (by simp [finished]), ?_⟩
    rw [finished]
    exact decide_eq_true (not_le.mp early)

/-- The current attempt that is shown is that of the row. -/
theorem validatedCurrentAttempt_eq_ok {ledger : Ledger} {jobId : JobId} {job : JobRow}
    {attempt : Option ComparisonAttemptRead}
    (read : validatedCurrentAttempt ledger jobId job = .ok attempt) :
    (attempt = none → currentAttempt ledger job = none ∧
      (job.status = .queued ∨ job.status = .cancelled)) ∧
    ∀ shown, attempt = some shown → shown.status = job.status ∧ 1 ≤ shown.attemptNumber ∧
      (shown.status ∈ terminalJobStatuses ↔ shown.finishedAt ≠ none) ∧
      ∀ finishedAt, shown.finishedAt = some finishedAt → shown.startedAt ≤ finishedAt := by
  unfold validatedCurrentAttempt at read
  split at read
  · next absent =>
      split at read
      · cases read
      · next status =>
          split at read
          · cases read
          · cases read
            constructor
            · intro _
              refine ⟨currentAttempt_of_absent absent, ?_⟩
              by_cases queued : job.status = .queued
              · exact .inl queued
              · exact .inr (Decidable.not_not.mp fun other => status ⟨queued, other⟩)
            · intro shown never
              cases never
  · split at read
    · cases read
    · next row found =>
        split at read
        · cases read
        · next matched =>
            split at read
            · cases read
            · next ended =>
                split at read
                · cases read
                · next running =>
                    cases read
                    simp only [not_or, not_not] at matched
                    constructor
                    · intro never
                      cases never
                    · intro shown same
                      cases same
                      exact ⟨matched.2.2.2.2, Nat.not_lt.mp matched.2.2.2.1,
                        row_ended ended running⟩

theorem comparisonJob_sound {platform : Platform} {storage : StorageIdentity}
    {rows : ComparisonRows} {jobId : JobId} {job : JobRow} {read : ComparisonJobRead}
    (built : comparisonJob platform storage rows jobId job = .ok read) :
    ComparisonJobSound jobId job read := by
  simp only [comparisonJob] at built
  rcases bind_eq_ok.mp built with ⟨attemptRead, ofAttempt, built⟩
  rcases bind_eq_ok.mp built with ⟨config, ofConfig, built⟩
  rcases bind_eq_ok.mp built with ⟨⟨metrics, availability⟩, ofResults, built⟩
  rw [mapError_eq_ok] at ofAttempt ofConfig
  cases built
  rcases validatedComparisonConfig_eq_ok ofConfig with ⟨name, experiment, dataset, epochs, inside⟩
  rcases validatedCurrentAttempt_eq_ok ofAttempt with ⟨idle, held⟩
  have sound : ((∀ series ∈ metrics, SeriesSound series) ∧
      (metrics.map ComparisonMetricSeries.key).Nodup ∧ metrics.length ≤ 273) ∧
        AvailabilitySound config availability := by
    unfold comparisonResults at ofResults
    split at ofResults
    · cases ofResults
      exact ⟨⟨List.forall_mem_nil _, List.nodup_nil, Nat.zero_le _⟩,
        ⟨List.nodup_nil, List.nodup_nil, fun some_ => absurd rfl some_⟩⟩
    · rcases bind_eq_ok.mp ofResults with ⟨read, ofMetrics, ofResults⟩
      rcases bind_eq_ok.mp ofResults with ⟨found, ofAvailability, ofResults⟩
      cases ofResults
      exact ⟨metricSeriesOfJob_sound ofMetrics, comparisonAvailability_sound ofAvailability⟩
  exact
    { id := rfl
      jobName := name.symm
      totalEpoch := epochs.symm
      experimentId := experiment
      datasetId := dataset
      currentEpoch := inside
      status := fun attempt shown => (held attempt shown).1
      numbered := fun attempt shown => (held attempt shown).2.1
      ended := fun attempt shown => (held attempt shown).2.2
      idle := by
        intro none
        rcases idle none with ⟨absent, status⟩
        rw [absent] at ofResults
        cases ofResults
        exact ⟨status, rfl, rfl⟩
      metrics := sound.1
      availability := sound.2 }

/-! ## A Job that waits -/

def waitingJob (jobId : JobId) (config : JobConfig) : ComparisonJobRead where
  id := jobId
  jobName := config.jobName.1
  status := .queued
  config := config.normal
  currentEpoch := none
  totalEpoch := config.training.epochs.1
  currentAttempt := none
  metrics := []
  availability := .none

theorem comparisonJob_created {platform : Platform} {config : JobConfig} {createdAt : Time}
    {samplePlan : Option SamplePlan} (small : config.resource.minVramGb.1.Small)
    (storage : StorageIdentity) (rows : ComparisonRows) (jobId : JobId) :
    comparisonJob platform storage rows jobId (createdJob platform config createdAt samplePlan) =
      .ok (waitingJob jobId config) := by
  have accepted : validatedJobConfig platform jobId
      (createdJob platform config createdAt samplePlan) none = .ok config.normal :=
    validatedJobConfig_readBack (storesConfig_createdJob platform config createdAt samplePlan)
      small (Json.readBack_copy _) rfl (by simp)
  have shown := validatedComparisonConfig_of_accepted accepted fun epoch never => by cases never
  rw [comparisonJob, currentAttempt_of_absent rfl, Option.map_none, shown]
  rfl

end RvcOrchestrator.Manager

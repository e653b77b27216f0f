import RvcOrchestrator.Manager.ExperimentComparison
import RvcOrchestrator.Web.ComparisonConfigs

/-! # Jobs that a comparison shows

The web server checks the comparison that the Manager answers, Job by Job, before the browser
sees it. One Job that it does not accept makes the whole comparison fail.
-/

namespace RvcOrchestrator.Web

open RvcOrchestrator.Foundation RvcOrchestrator.Contracts RvcOrchestrator.Manager
open RvcOrchestrator.Foundation.JsNumber (Number maxSafeInteger)

/-! ## The Manager's response -/

/-- How identifiers and times are written. -/
structure ComparisonText where
  uuid : Nat → String
  isoformat : Time → String

def engineModeText : WorkerEngineMode → String
  | .rvcWebui => "rvc_webui"
  | .fake => "fake"

section

variable (text : ComparisonText)

def attemptDump (attempt : ComparisonAttemptRead) : Json :=
  .object
    [("id", .str (text.uuid attempt.id)), ("attempt_number", .int attempt.attemptNumber),
      ("engine_mode", .str (engineModeText attempt.engineMode)),
      ("status", .str attempt.status.value),
      ("started_at", .str (text.isoformat attempt.startedAt)),
      ("finished_at", orNull (fun time => .str (text.isoformat time)) attempt.finishedAt)]

def pointDump (point : ComparisonMetricPoint) : Json :=
  .object
    [("sequence", .int point.sequence),
      ("epoch", orNull (fun epoch : Nat => .int epoch) point.epoch),
      ("step", orNull (fun step : Nat => .int step) point.step), ("value", .float point.value),
      ("occurred_at", .str (text.isoformat point.occurredAt))]

def seriesDump (series : ComparisonMetricSeries) : Json :=
  .object
    [("key", .str series.key), ("total_points", .int series.totalPoints),
      ("truncated", .bool series.truncated),
      ("points", .array (series.points.map (pointDump text)))]

def artifactDump (artifact : ComparisonArtifactRead) : Json :=
  .object
    [("id", .str (text.uuid artifact.id)), ("filename", .str artifact.filename),
      ("size_bytes", .int artifact.sizeBytes), ("sha256", .str artifact.sha256)]

def sampleDump (sample : ComparisonSampleRead) : Json :=
  .object
    [("id", .str (text.uuid sample.id.value)),
      ("test_set_item_id", .str (text.uuid sample.testSetItemId)),
      ("output_size_bytes", .int sample.outputSizeBytes),
      ("output_sha256", .str sample.outputSha256),
      ("output_sample_rate_hz", .int sample.outputSampleRateHz),
      ("output_channels", .int sample.outputChannels),
      ("output_duration_seconds", .float sample.outputDurationSeconds),
      ("created_at", .str (text.isoformat sample.createdAt))]

def availabilityDump (availability : ComparisonAvailability) : Json :=
  .object
    [("final_model", orNull (artifactDump text) availability.finalModel),
      ("final_index", orNull (artifactDump text) availability.finalIndex),
      ("samples", .array (availability.samples.map (sampleDump text)))]

def jobDump (read : ComparisonJobRead) : Json :=
  .object
    [("id", .str (text.uuid read.id)), ("job_name", .str read.jobName),
      ("status", .str read.status.value), ("config", read.config.modelDump),
      ("current_epoch", orNull .int read.currentEpoch), ("total_epoch", .int read.totalEpoch),
      ("current_attempt", orNull (attemptDump text) read.currentAttempt),
      ("metrics", .array (read.metrics.map (seriesDump text))),
      ("availability", availabilityDump text read.availability)]

end

/-! ## What the web server makes of it -/

structure ExperimentComparisonAttempt where
  id : String
  attemptNumber : Int
  engineMode : String
  status : String
  startedAt : String
  finishedAt : Option String

structure ExperimentComparisonMetricPoint where
  sequence : Int
  epoch : Option Int
  step : Option Int
  value : Number
  occurredAt : String

structure ExperimentComparisonMetricSeries where
  key : String
  totalPoints : Int
  truncated : Bool
  points : List ExperimentComparisonMetricPoint

structure ExperimentComparisonArtifact where
  id : String
  filename : String
  sizeBytes : Int
  sha256 : String

structure ExperimentComparisonSample where
  id : String
  testSetItemId : String
  outputSizeBytes : Int
  outputSha256 : String
  outputSampleRateHz : Int
  outputChannels : Int
  outputDurationSeconds : Number
  createdAt : String

structure ExperimentComparisonAvailability where
  finalModel : Option ExperimentComparisonArtifact
  finalIndex : Option ExperimentComparisonArtifact
  samples : List ExperimentComparisonSample

structure ExperimentComparisonJob where
  id : String
  jobName : String
  status : String
  config : Json
  currentEpoch : Option Int
  totalEpoch : Int
  currentAttempt : Option ExperimentComparisonAttempt
  metrics : List ExperimentComparisonMetricSeries
  availability : ExperimentComparisonAvailability

/-- The fields of `ApiExperiment` that a Job is compared with. -/
structure ApiExperiment where
  id : String
  datasetId : String

def jobStatuses : List String :=
  ["queued", "assigned", "downloading_dataset", "validating_dataset", "preparing_flat_dataset",
    "preprocessing", "extracting_f0", "extracting_features", "training", "saving_checkpoint",
    "building_index", "collecting_small_model", "generating_samples", "evaluating",
    "uploading_artifacts", "completed", "failed", "cancelled", "retrying"]

def jobStatusOf (value : Unknown) : Option String :=
  (textOf value).filter fun status => status ∈ jobStatuses

/-- `/^[A-Za-z0-9_.-]{1,128}$/` -/
def metricKeyPattern (text : String) : Bool :=
  1 ≤ text.toList.length && text.toList.length ≤ 128 &&
    text.toList.all fun char => char.isAlphanum || char ∈ ['_', '.', '-']

def trainingComparisonMetricKeys : List String :=
  ["current_epoch", "epoch_completed", "epoch_progress_percent", "grad_norm_d", "grad_norm_g",
    "learning_rate", "loss_d_total", "loss_fm", "loss_g_adversarial", "loss_g_total", "loss_kl",
    "loss_mel", "step", "total_epoch"]

def systemComparisonMetricKeys : List String :=
  ["system.disk_free_bytes", "system.gpu.count", "system.gpu.telemetry_available"]

/-- `(?:[0-9]|[1-5][0-9]|6[0-3])` -/
def gpuIndexPattern : List Char → Bool
  | [digit] => digit.isDigit
  | [tens, digit] =>
      ('1' ≤ tens && tens ≤ '5' && digit.isDigit) || (tens = '6' && '0' ≤ digit && digit ≤ '3')
  | _ => false

def gpuMetricSuffixes : List String :=
  ["temperature_c", "utilization_percent", "vram_total_mb", "vram_used_mb"]

/-- `/^system\.gpu\.…\.(?:temperature_c|utilization_percent|vram_total_mb|vram_used_mb)$/` -/
def systemComparisonMetricKeyPattern (key : String) : Bool :=
  gpuMetricSuffixes.any fun suffix =>
    ((key.toList.dropPrefix? "system.gpu.".toList).bind fun rest =>
      rest.dropSuffix? ("." ++ suffix).toList).any gpuIndexPattern

def comparisonMetricKey (value : Unknown) : Option String :=
  (textOf value).filter fun key =>
    metricKeyPattern key &&
      (key ∈ trainingComparisonMetricKeys || key ∈ systemComparisonMetricKeys ||
        systemComparisonMetricKeyPattern key)

section

-- `Date.parse`, which fails with `NaN`.
variable (parse : String → Option Int)

def safeDate (value : Unknown) : Option String :=
  (textOf value).filter fun text => utf16Length text ≤ 64 && (parse text).isSome

/-- No comparison with `NaN` holds. -/
def isBefore (left right : String) : Bool :=
  match parse left, parse right with
  | some left, some right => left < right
  | _, _ => false

def publicComparisonAttempt (value : Unknown) : Option ExperimentComparisonAttempt := do
  let fields ← record value
  let id ← canonicalUuid (property fields "id")
  let attemptNumber ← integer (property fields "attempt_number") 1 2147483647
  let engineMode ← (textOf (property fields "engine_mode")).filter fun mode =>
    mode = "fake" || mode = "rvc_webui"
  let status ← jobStatusOf (property fields "status")
  let startedAt ← safeDate parse (property fields "started_at")
  let finishedAt ← nullable (safeDate parse) (property fields "finished_at")
  let isTerminal := decide (status ∈ ["completed", "failed", "cancelled"])
  if isTerminal ≠ finishedAt.isSome ∨
      finishedAt.any (fun finishedAt => isBefore parse finishedAt startedAt) = true then none
  else return ⟨id, attemptNumber, engineMode, status, startedAt, finishedAt⟩

def publicComparisonMetricPoint (value : Unknown) : Option ExperimentComparisonMetricPoint := do
  let fields ← record value
  let sequence ← integer (property fields "sequence") 0 maxSafeInteger
  let epoch ← nullableInteger (property fields "epoch") 0 maxSafeInteger
  let step ← nullableInteger (property fields "step") 0 maxSafeInteger
  let value ← (numberOf (property fields "value")).filter fun _ =>
    numberInRange (property fields "value") (-floatMax) floatMax
  let occurredAt ← safeDate parse (property fields "occurred_at")
  return ⟨sequence, epoch, step, value, occurredAt⟩

def publicComparisonMetricSeries (value : Unknown) : Option ExperimentComparisonMetricSeries := do
  let fields ← record value
  let key ← comparisonMetricKey (property fields "key")
  let items ← arrayOf (property fields "points")
  let totalPoints ← integer (property fields "total_points") 1 maxSafeInteger
  let truncated ← booleanOf (property fields "truncated")
  let points ← items.mapM fun item => publicComparisonMetricPoint parse (some item)
  let increasing := (points.zip points.tail).all fun (previous, point) =>
    previous.sequence < point.sequence
  if points.length < 1 ∨ 200 < points.length ∨ totalPoints < points.length ∨
      truncated ≠ decide ((points.length : Int) < totalPoints) ∨ increasing = false then none
  else return ⟨key, totalPoints, truncated, points⟩

def publicComparisonMetrics (value : Unknown) :
    Option (List ExperimentComparisonMetricSeries) := do
  let items ← arrayOf value
  if 273 < items.length then none
  else
    let parsed ← items.mapM fun item => publicComparisonMetricSeries parse (some item)
    if (parsed.map ExperimentComparisonMetricSeries.key).Nodup then return parsed else none

def publicComparisonArtifact (value : Unknown) : Option ExperimentComparisonArtifact := do
  let fields ← record value
  let id ← canonicalUuid (property fields "id")
  let filename ← safeArtifactFilename (property fields "filename")
  let sizeBytes ← integer (property fields "size_bytes") 1 maxSafeInteger
  let sha256 ← (textOf (property fields "sha256")).filter sha256Pattern
  return ⟨id, filename, sizeBytes, sha256⟩

def publicComparisonSample (value : Unknown) : Option ExperimentComparisonSample := do
  let fields ← record value
  let id ← canonicalUuid (property fields "id")
  let testSetItemId ← canonicalUuid (property fields "test_set_item_id")
  let outputSizeBytes ← integer (property fields "output_size_bytes") 1 maxSafeInteger
  let outputSha256 ← (textOf (property fields "output_sha256")).filter sha256Pattern
  let outputSampleRateHz ← integer (property fields "output_sample_rate_hz") 1 maxSafeInteger
  let outputChannels ← integer (property fields "output_channels") 1 maxSafeInteger
  let outputDurationSeconds ← (numberOf (property fields "output_duration_seconds")).filter fun _ =>
    numberInRange (property fields "output_duration_seconds") floatMin floatMax
  let createdAt ← safeDate parse (property fields "created_at")
  return ⟨id, testSetItemId, outputSizeBytes, outputSha256, outputSampleRateHz, outputChannels,
    outputDurationSeconds, createdAt⟩

def publicComparisonAvailability (value : Unknown) : Option ExperimentComparisonAvailability := do
  let fields ← record value
  let items ← arrayOf (property fields "samples")
  if 128 < items.length then none
  else
    let finalModel ← nullable publicComparisonArtifact (property fields "final_model")
    let finalIndex ← nullable publicComparisonArtifact (property fields "final_index")
    let parsed ← items.mapM fun item => publicComparisonSample parse (some item)
    if (parsed.map ExperimentComparisonSample.id).Nodup ∧
        (parsed.map ExperimentComparisonSample.testSetItemId).Nodup then
      return ⟨finalModel, finalIndex, parsed⟩
    else none

/-- `config.section.name` -/
def configField (config : Json) (section_ name : String) : Unknown :=
  (property config section_).bind fun fields => property fields name

def agreesWithExperiment (expectedJobId : String) (experiment : ApiExperiment)
    (job : ExperimentComparisonJob) : Bool :=
  job.id = expectedJobId && !job.currentEpoch.any (fun epoch => decide (job.totalEpoch < epoch)) &&
    property job.config "job_name" = some (.str job.jobName) &&
    property job.config "experiment_id" = some (.str experiment.id) &&
    property job.config "dataset_id" = some (.str experiment.datasetId) &&
    numberOf (configField job.config "training" "epochs") = some (.finite job.totalEpoch) &&
    !job.currentAttempt.any (fun attempt => decide (attempt.status ≠ job.status)) &&
    !(job.currentAttempt.isNone && job.status ≠ "queued" && job.status ≠ "cancelled")

def resultsAsConfigured (job : ExperimentComparisonJob) : Bool :=
  let isTrue (section_ name : String) : Bool :=
    configField job.config section_ name = some (.bool true)
  !(job.availability.finalModel.isSome && !isTrue "artifacts" "collect_small_model") &&
    !(job.availability.finalIndex.isSome &&
      (!isTrue "index" "build_index" || !isTrue "artifacts" "collect_index")) &&
    !(!job.availability.samples.isEmpty &&
      (!isTrue "auto_inference_samples" "enabled" || !isTrue "artifacts" "collect_samples")) &&
    !(job.currentAttempt.isNone &&
      (!job.metrics.isEmpty || job.availability.finalModel.isSome ||
        job.availability.finalIndex.isSome || !job.availability.samples.isEmpty))

def publicComparisonJob (value : Unknown) (expectedJobId : String) (experiment : ApiExperiment) :
    Option ExperimentComparisonJob := do
  let fields ← record value
  let id ← (canonicalUuid (property fields "id")).filter fun _ => canonicalUuidPattern expectedJobId
  let jobName ← safeIdentifier (property fields "job_name")
  let status ← jobStatusOf (property fields "status")
  let config ← publicComparisonJobConfig (property fields "config")
  let currentEpoch ← nullableInteger (property fields "current_epoch") 0 100000
  let totalEpoch ← integer (property fields "total_epoch") 1 100000
  let currentAttempt ← nullable (publicComparisonAttempt parse) (property fields "current_attempt")
  let metrics ← publicComparisonMetrics parse (property fields "metrics")
  let availability ← publicComparisonAvailability parse (property fields "availability")
  let job := ⟨id, jobName, status, config, currentEpoch, totalEpoch, currentAttempt, metrics,
    availability⟩
  if agreesWithExperiment expectedJobId experiment job && resultsAsConfigured job then some job
  else none

end

/-! ## What the checks say of the response -/

theorem gpuIndexPattern_toString : ∀ gpuIndex < 64,
    gpuIndexPattern (toString gpuIndex).toList = true ∧ (toString gpuIndex).toList.length ≤ 2 ∧
      (toString gpuIndex).toList.all Char.isDigit = true := by
  decide +kernel

/-- The keys that the Manager shows are those that the web server knows. -/
theorem comparisonMetricKey_allowed {key : String} (allowed : key ∈ allowedComparisonMetricKeys) :
    comparisonMetricKey (some (.str key)) = some key := by
  rw [allowedComparisonMetricKeys, List.mem_mergeSort, List.mem_append, systemMetricKeys,
    List.mem_append, List.mem_flatMap] at allowed
  rw [comparisonMetricKey, textOf, Option.filter_some]
  rcases allowed with training | system | ⟨gpuIndex, inRange, gpu⟩
  · have all : ∀ key ∈ trainingMetricKeys, metricKeyPattern key = true := by decide +kernel
    have known : key ∈ trainingComparisonMetricKeys := training
    simp [all key training, known]
  · have all : ∀ key ∈ systemComparisonMetricKeys, metricKeyPattern key = true := by
      decide +kernel
    have known : key ∈ systemComparisonMetricKeys := system
    simp [all key known, known]
  · rcases gpuIndexPattern_toString gpuIndex (List.mem_range.mp inRange) with
      ⟨index, short, digits⟩
    rcases List.mem_map.mp gpu with ⟨suffix, known, rfl⟩
    generalize toString gpuIndex = text at index short digits
    have chars : ("system.gpu." ++ text ++ "." ++ suffix).toList =
        "system.gpu.".toList ++ (text.toList ++ ("." ++ suffix).toList) := by
      simp only [String.toList_append, List.append_assoc]
    have matched : systemComparisonMetricKeyPattern ("system.gpu." ++ text ++ "." ++ suffix) =
        true := by
      refine List.any_eq_true.mpr ⟨suffix, known, ?_⟩
      have first : ("system.gpu." ++ text ++ "." ++ suffix).toList.dropPrefix?
          "system.gpu.".toList = some (text.toList ++ ("." ++ suffix).toList) :=
        List.dropPrefix?_eq_some_iff.mpr ⟨_, chars, BEq.rfl⟩
      have last : (text.toList ++ ("." ++ suffix).toList).dropSuffix? ("." ++ suffix).toList =
          some text.toList :=
        List.dropSuffix?_eq_some_iff.mpr ⟨_, rfl, BEq.rfl⟩
      rw [first, Option.bind_some, last]
      exact index
    have shape : metricKeyPattern ("system.gpu." ++ text ++ "." ++ suffix) = true := by
      have bounds : ∀ suffix ∈ gpuMetricSuffixes,
          ("." ++ suffix).toList.length ≤ 20 ∧ (("." ++ suffix).toList.all fun char =>
            char.isAlphanum || char ∈ ['_', '.', '-']) = true := by
        decide +kernel
      have front : ("system.gpu.".toList.all fun char =>
          char.isAlphanum || char ∈ ['_', '.', '-']) = true := by
        decide +kernel
      have middle : (text.toList.all fun char => char.isAlphanum || char ∈ ['_', '.', '-']) =
          true := by
        rw [List.all_eq_true] at digits ⊢
        intro char member
        simp [Char.isAlphanum, digits char member]
      have length : "system.gpu.".toList.length = 11 := by decide +kernel
      have rest := bounds suffix known
      rw [metricKeyPattern, chars]
      simp only [List.length_append, List.all_append, front, middle, rest.2, length,
        Bool.and_true, Bool.and_eq_true, decide_eq_true_eq]
      omega
    rw [matched, shape, Bool.or_true, Bool.and_true, if_pos rfl]

/-- How the response is written, and `Date.parse`. -/
structure ReadableText extends ComparisonText where
  parse : String → Option Int

def ReadableText.Reads (text : ReadableText) (time : Time) : Prop :=
  text.parse (text.isoformat time) = some (time / 1000) ∧ utf16Length (text.isoformat time) ≤ 64

section

variable {text : ReadableText}

theorem safeDate_isoformat {time : Time} (reads : text.Reads time) :
    safeDate text.parse (some (.str (text.isoformat time))) = some (text.isoformat time) := by
  rw [safeDate, textOf, Option.filter_some, if_pos]
  simp [reads.1, reads.2]

theorem isBefore_isoformat {first second : Time} (readsFirst : text.Reads first)
    (readsSecond : text.Reads second) (order : first ≤ second) :
    isBefore text.parse (text.isoformat second) (text.isoformat first) = false := by
  have later : first / 1000 ≤ second / 1000 := Int.ediv_le_ediv (by decide) order
  simp [isBefore, readsFirst.1, readsSecond.1, later]

theorem nullableInteger_nat (value : Option Nat) :
    nullableInteger (some (orNull (fun value : Nat => .int value) value)) 0 maxSafeInteger =
      if ∀ given ∈ value, (given : Int) ≤ maxSafeInteger then
        some (value.map fun given : Nat => (given : Int))
      else none :=
  nullable_orNull (fun given same => by cases same) fun given _ => integer_nat (Nat.zero_le given)

theorem jobStatusOf_value (status : JobStatus) :
    jobStatusOf (some (.str status.value)) = some status.value := by
  cases status <;> decide +kernel

/-! ### Artifacts and samples -/

def ArtifactShown (artifact : ComparisonArtifactRead) : Prop :=
  utf16Length artifact.filename ≤ 255 ∧ (artifact.sizeBytes : Int) ≤ maxSafeInteger

instance (artifact : ComparisonArtifactRead) : Decidable (ArtifactShown artifact) :=
  inferInstanceAs (Decidable (_ ∧ _))

def shownArtifact (text : ReadableText) (artifact : ComparisonArtifactRead) :
    ExperimentComparisonArtifact where
  id := text.uuid artifact.id
  filename := artifact.filename
  sizeBytes := artifact.sizeBytes
  sha256 := artifact.sha256

theorem safeArtifactFilename_plain {filename : String} (plain : IsPlainFilename filename) :
    safeArtifactFilename (some (.str filename)) =
      if utf16Length filename ≤ 255 then some filename else none := by
  rcases plain with ⟨some_, notDot, notDots, noSlash, noBackslash, printable⟩
  have noControl : hasControlCharacter filename = false := by
    rw [← Bool.not_eq_true, hasControlCharacter, List.any_eq_true]
    rintro ⟨char, member, isControl⟩
    refine printable char member ?_
    simpa using isControl
  rw [safeArtifactFilename, textOf, Option.filter_some, safePublicString, noControl]
  simp [one_le_utf16Length some_, notDot, notDots, noSlash, noBackslash]

theorem publicComparisonArtifact_dump {artifact : ComparisonArtifactRead}
    (canonical : canonicalUuidPattern (text.uuid artifact.id) = true) :
    publicComparisonArtifact (some (artifactDump text.toComparisonText artifact)) =
      if ArtifactShown artifact then some (shownArtifact text artifact) else none := by
  have digest : ((textOf (some (.str artifact.sha256))).filter sha256Pattern) =
      some artifact.sha256 := by
    rw [textOf, Option.filter_some, if_pos (sha256Pattern_iff.mpr artifact.digest)]
  have size : integer (some (.int artifact.sizeBytes)) 1 maxSafeInteger =
      if (artifact.sizeBytes : Int) ≤ maxSafeInteger then some (artifact.sizeBytes : Int)
      else none :=
    integer_nat artifact.positive
  simp only [publicComparisonArtifact, artifactDump, record, Option.bind_eq_bind,
    Option.bind_some, property_cons, if_true, String.reduceEq, if_false,
    canonicalUuid_str canonical, safeArtifactFilename_plain artifact.plain, digest, size]
  by_cases short : utf16Length artifact.filename ≤ 255
  · by_cases small : (artifact.sizeBytes : Int) ≤ maxSafeInteger
    · rw [if_pos short, if_pos small, if_pos ⟨short, small⟩]
      rfl
    · have hidden : ¬ArtifactShown artifact := fun shown => small shown.2
      rw [if_pos short, if_neg small, if_neg hidden]
      rfl
  · have hidden : ¬ArtifactShown artifact := fun shown => short shown.1
    rw [if_neg short, if_neg hidden]
    rfl

def SampleShown (sample : ComparisonSampleRead) : Prop :=
  (sample.outputSizeBytes : Int) ≤ maxSafeInteger ∧
    (sample.outputSampleRateHz : Int) ≤ maxSafeInteger ∧
    (sample.outputChannels : Int) ≤ maxSafeInteger

instance (sample : ComparisonSampleRead) : Decidable (SampleShown sample) :=
  inferInstanceAs (Decidable (_ ∧ _ ∧ _))

def shownSample (text : ReadableText) (sample : ComparisonSampleRead) :
    ExperimentComparisonSample where
  id := text.uuid sample.id.value
  testSetItemId := text.uuid sample.testSetItemId
  outputSizeBytes := sample.outputSizeBytes
  outputSha256 := sample.outputSha256
  outputSampleRateHz := sample.outputSampleRateHz
  outputChannels := sample.outputChannels
  outputDurationSeconds := .finite sample.outputDurationSeconds.decimal
  createdAt := text.isoformat sample.createdAt

theorem publicComparisonSample_dump {sample : ComparisonSampleRead}
    (canonical : canonicalUuidPattern (text.uuid sample.id.value) = true)
    (canonicalItem : canonicalUuidPattern (text.uuid sample.testSetItemId) = true)
    (reads : text.Reads sample.createdAt) :
    publicComparisonSample text.parse (some (sampleDump text.toComparisonText sample)) =
      if SampleShown sample then some (shownSample text sample) else none := by
  have digest : ((textOf (some (.str sample.outputSha256))).filter sha256Pattern) =
      some sample.outputSha256 := by
    rw [textOf, Option.filter_some, if_pos (sha256Pattern_iff.mpr sample.digest)]
  have number (value : Nat) (positive : 0 < value) :
      integer (some (.int value)) 1 maxSafeInteger =
        if (value : Int) ≤ maxSafeInteger then some (value : Int) else none :=
    integer_nat positive
  have duration : numberInRange (some (.float sample.outputDurationSeconds)) floatMin floatMax =
      true :=
    numberInRange_float.mpr sample.duration
  simp only [publicComparisonSample, sampleDump, record, Option.bind_eq_bind, Option.bind_some,
    property_cons, if_true, String.reduceEq, if_false, canonicalUuid_str canonical,
    canonicalUuid_str canonicalItem, digest, number _ sample.positive.1,
    number _ sample.positive.2.1, number _ sample.positive.2.2, numberOf, Option.filter_some,
    duration, safeDate_isoformat reads]
  by_cases size : (sample.outputSizeBytes : Int) ≤ maxSafeInteger
  · by_cases rate : (sample.outputSampleRateHz : Int) ≤ maxSafeInteger
    · by_cases channels : (sample.outputChannels : Int) ≤ maxSafeInteger
      · rw [if_pos size, if_pos rate, if_pos channels, if_pos ⟨size, rate, channels⟩]
        rfl
      · have hidden : ¬SampleShown sample := fun shown => channels shown.2.2
        rw [if_pos size, if_pos rate, if_neg channels, if_neg hidden]
        rfl
    · have hidden : ¬SampleShown sample := fun shown => rate shown.2.1
      rw [if_pos size, if_neg rate, if_neg hidden]
      rfl
  · have hidden : ¬SampleShown sample := fun shown => size shown.1
    rw [if_neg size, if_neg hidden]
    rfl

/-! ### Metrics -/

def PointShown (point : ComparisonMetricPoint) : Prop :=
  (point.sequence : Int) ≤ maxSafeInteger ∧
    (∀ epoch ∈ point.epoch, (epoch : Int) ≤ maxSafeInteger) ∧
    ∀ step ∈ point.step, (step : Int) ≤ maxSafeInteger

instance (point : ComparisonMetricPoint) : Decidable (PointShown point) :=
  inferInstanceAs (Decidable (_ ∧ _ ∧ _))

def shownPoint (text : ReadableText) (point : ComparisonMetricPoint) :
    ExperimentComparisonMetricPoint where
  sequence := point.sequence
  epoch := point.epoch.map fun epoch : Nat => (epoch : Int)
  step := point.step.map fun step : Nat => (step : Int)
  value := .finite point.value.decimal
  occurredAt := text.isoformat point.occurredAt

theorem publicComparisonMetricPoint_dump {point : ComparisonMetricPoint}
    (finite : -floatMax ≤ point.value.decimal ∧ point.value.decimal ≤ floatMax)
    (reads : text.Reads point.occurredAt) :
    publicComparisonMetricPoint text.parse (some (pointDump text.toComparisonText point)) =
      if PointShown point then some (shownPoint text point) else none := by
  have sequence : integer (some (.int point.sequence)) 0 maxSafeInteger =
      if (point.sequence : Int) ≤ maxSafeInteger then some (point.sequence : Int) else none :=
    integer_nat (Nat.zero_le point.sequence)
  have value : numberInRange (some (.float point.value)) (-floatMax) floatMax = true :=
    numberInRange_float.mpr finite
  simp only [publicComparisonMetricPoint, pointDump, record, Option.bind_eq_bind,
    Option.bind_some, property_cons, if_true, String.reduceEq, if_false, sequence,
    nullableInteger_nat, numberOf, Option.filter_some, value, safeDate_isoformat reads]
  by_cases order : (point.sequence : Int) ≤ maxSafeInteger
  · by_cases epoch : ∀ given ∈ point.epoch, (given : Int) ≤ maxSafeInteger
    · by_cases step : ∀ given ∈ point.step, (given : Int) ≤ maxSafeInteger
      · rw [if_pos order, if_pos epoch, if_pos step, if_pos ⟨order, epoch, step⟩]
        rfl
      · have hidden : ¬PointShown point := fun shown => step shown.2.2
        rw [if_pos order, if_pos epoch, if_neg step, if_neg hidden]
        rfl
    · have hidden : ¬PointShown point := fun shown => epoch shown.2.1
      rw [if_pos order, if_neg epoch, if_neg hidden]
      rfl
  · have hidden : ¬PointShown point := fun shown => order shown.1
    rw [if_neg order, if_neg hidden]
    rfl

def SeriesShown (series : ComparisonMetricSeries) : Prop :=
  (series.totalPoints : Int) ≤ maxSafeInteger ∧ ∀ point ∈ series.points, PointShown point

instance (series : ComparisonMetricSeries) : Decidable (SeriesShown series) :=
  inferInstanceAs (Decidable (_ ∧ _))

def shownSeries (text : ReadableText) (series : ComparisonMetricSeries) :
    ExperimentComparisonMetricSeries where
  key := series.key
  totalPoints := series.totalPoints
  truncated := series.truncated
  points := series.points.map (shownPoint text)

theorem increasing_shown {points : List ComparisonMetricPoint}
    (increasing : points.Pairwise fun left right => left.sequence < right.sequence) :
    (((points.map (shownPoint text)).zip (points.map (shownPoint text)).tail).all
      fun (previous, point) => decide (previous.sequence < point.sequence)) = true := by
  induction points with
  | nil => rfl
  | cons point points induction =>
      rcases List.pairwise_cons.mp increasing with ⟨later, rest⟩
      cases points with
      | nil => rfl
      | cons next points =>
          have first : (point.sequence : Int) < next.sequence :=
            Int.ofNat_lt.mpr (later next List.mem_cons_self)
          have others := induction rest
          simp only [List.map_cons, List.tail_cons, List.zip_cons_cons, List.all_cons,
            Bool.and_eq_true, decide_eq_true_eq] at others ⊢
          exact ⟨first, others⟩

theorem publicComparisonMetricSeries_dump {series : ComparisonMetricSeries}
    (sound : SeriesSound series) (reads : ∀ point ∈ series.points, text.Reads point.occurredAt) :
    publicComparisonMetricSeries text.parse (some (seriesDump text.toComparisonText series)) =
      if SeriesShown series then some (shownSeries text series) else none := by
  have total : integer (some (.int series.totalPoints)) 1 maxSafeInteger =
      if (series.totalPoints : Int) ≤ maxSafeInteger then some (series.totalPoints : Int)
      else none :=
    integer_nat (sound.some_.trans sound.total)
  have points : ((series.points.map (pointDump text.toComparisonText)).mapM fun item =>
      publicComparisonMetricPoint text.parse (some item)) =
        if ∀ point ∈ series.points, PointShown point then
          some (series.points.map (shownPoint text))
        else none :=
    mapM_map fun point member =>
      publicComparisonMetricPoint_dump (sound.finite point member) (reads point member)
  have fits : ¬((series.points.map (shownPoint text)).length < 1 ∨
      200 < (series.points.map (shownPoint text)).length ∨
      (series.totalPoints : Int) < (series.points.map (shownPoint text)).length ∨
      series.truncated ≠ decide
        (((series.points.map (shownPoint text)).length : Int) < series.totalPoints)) := by
    have few : series.points.length ≤ 200 := sound.few
    have some_ := sound.some_
    have total := sound.total
    rw [List.length_map]
    rintro (none | many | fewer | wrong)
    · omega
    · omega
    · omega
    · exact wrong (sound.truncated.trans (decide_eq_decide.mpr Nat.cast_lt.symm))
  simp only [publicComparisonMetricSeries, seriesDump, record, Option.bind_eq_bind,
    Option.bind_some, property_cons, if_true, String.reduceEq, if_false,
    comparisonMetricKey_allowed sound.key, arrayOf, booleanOf, total, points]
  by_cases small : (series.totalPoints : Int) ≤ maxSafeInteger
  · by_cases shown : ∀ point ∈ series.points, PointShown point
    · have accepted : SeriesShown series := ⟨small, shown⟩
      rw [if_pos small, if_pos shown, if_pos accepted, Option.bind_some, Option.bind_some,
        if_neg]
      · rfl
      · rw [increasing_shown sound.increasing]
        simpa only [Bool.true_eq_false, or_false, ← or_assoc] using fits
    · have hidden : ¬SeriesShown series := fun accepted => shown accepted.2
      rw [if_pos small, if_neg shown, if_neg hidden]
      rfl
  · have hidden : ¬SeriesShown series := fun accepted => small accepted.1
    rw [if_neg small, if_neg hidden]
    rfl

theorem publicComparisonMetrics_dump {metrics : List ComparisonMetricSeries}
    (sound : ∀ series ∈ metrics, SeriesSound series)
    (distinct : (metrics.map ComparisonMetricSeries.key).Nodup) (few : metrics.length ≤ 273)
    (reads : ∀ series ∈ metrics, ∀ point ∈ series.points, text.Reads point.occurredAt) :
    publicComparisonMetrics text.parse
        (some (.array (metrics.map (seriesDump text.toComparisonText)))) =
      if ∀ series ∈ metrics, SeriesShown series then some (metrics.map (shownSeries text))
      else none := by
  have parsed : ((metrics.map (seriesDump text.toComparisonText)).mapM fun item =>
      publicComparisonMetricSeries text.parse (some item)) =
        if ∀ series ∈ metrics, SeriesShown series then some (metrics.map (shownSeries text))
        else none :=
    mapM_map fun series member =>
      publicComparisonMetricSeries_dump (sound series member) (reads series member)
  have keys : ((metrics.map (shownSeries text)).map ExperimentComparisonMetricSeries.key).Nodup := by
    rw [List.map_map]
    exact distinct
  simp only [publicComparisonMetrics, arrayOf, Option.bind_eq_bind, Option.bind_some,
    List.length_map, Nat.not_lt.mpr few, if_false, parsed]
  split
  · rw [Option.bind_some, if_pos keys]
    rfl
  · rfl

/-! ### Attempts -/

def shownAttempt (text : ReadableText) (attempt : ComparisonAttemptRead) :
    ExperimentComparisonAttempt where
  id := text.uuid attempt.id
  attemptNumber := attempt.attemptNumber
  engineMode := engineModeText attempt.engineMode
  status := attempt.status.value
  startedAt := text.isoformat attempt.startedAt
  finishedAt := attempt.finishedAt.map text.isoformat

theorem terminal_value (status : JobStatus) :
    status.value ∈ ["completed", "failed", "cancelled"] ↔ status ∈ terminalJobStatuses := by
  cases status <;> decide +kernel

theorem publicComparisonAttempt_dump {attempt : ComparisonAttemptRead}
    (canonical : canonicalUuidPattern (text.uuid attempt.id) = true)
    (numbered : 1 ≤ attempt.attemptNumber)
    (ended : attempt.status ∈ terminalJobStatuses ↔ attempt.finishedAt ≠ none)
    (order : ∀ finishedAt, attempt.finishedAt = some finishedAt →
      attempt.startedAt ≤ finishedAt)
    (reads : text.Reads attempt.startedAt)
    (readsFinished : ∀ finishedAt, attempt.finishedAt = some finishedAt →
      text.Reads finishedAt) :
    publicComparisonAttempt text.parse (some (attemptDump text.toComparisonText attempt)) =
      if (attempt.attemptNumber : Int) ≤ 2147483647 then some (shownAttempt text attempt)
      else none := by
  have number : integer (some (.int attempt.attemptNumber)) 1 2147483647 =
      if (attempt.attemptNumber : Int) ≤ 2147483647 then some (attempt.attemptNumber : Int)
      else none := by
    rw [integer_int (by decide) (by decide)]
    congr 1
    rw [eq_iff_iff]
    omega
  have engine : ((textOf (some (.str (engineModeText attempt.engineMode)))).filter fun mode =>
      mode = "fake" || mode = "rvc_webui") = some (engineModeText attempt.engineMode) := by
    cases attempt.engineMode <;> rfl
  have finished : nullable (safeDate text.parse)
      (some (orNull (fun time => .str (text.isoformat time)) attempt.finishedAt)) =
        some (attempt.finishedAt.map text.isoformat) := by
    have each (time : Time) (given : attempt.finishedAt = some time) :
        safeDate text.parse (some (.str (text.isoformat time))) =
          if True then some (text.isoformat time) else none := by
      rw [safeDate_isoformat (readsFinished time given), if_pos trivial]
    rw [nullable_orNull (fun time same => by cases same) each, if_pos fun _ _ => trivial]
  have terminal : ¬(decide (attempt.status.value ∈ ["completed", "failed", "cancelled"]) ≠
      (attempt.finishedAt.map text.isoformat).isSome ∨
        ((attempt.finishedAt.map text.isoformat).any fun finishedAt =>
          isBefore text.parse finishedAt (text.isoformat attempt.startedAt)) = true) := by
    rw [Option.isSome_map]
    rintro (other | early)
    · apply other
      rw [Bool.eq_iff_iff, decide_eq_true_iff, terminal_value, ended, Option.isSome_iff_ne_none]
    · rw [Option.any_map, Option.any_eq_true] at early
      rcases early with ⟨finishedAt, given, before⟩
      rw [isBefore_isoformat reads (readsFinished finishedAt given) (order finishedAt given)]
        at before
      cases before
  simp only [publicComparisonAttempt, attemptDump, record, Option.bind_eq_bind,
    Option.bind_some, property_cons, if_true, String.reduceEq, if_false,
    canonicalUuid_str canonical, number, engine, jobStatusOf_value, safeDate_isoformat reads, finished]
  by_cases small : (attempt.attemptNumber : Int) ≤ 2147483647
  · rw [if_pos small, if_pos small, Option.bind_some, if_neg terminal]
    rfl
  · rw [if_neg small, if_neg small]
    rfl

/-! ### What is available -/

def AvailabilityShown (availability : ComparisonAvailability) : Prop :=
  (∀ artifact ∈ availability.finalModel, ArtifactShown artifact) ∧
    (∀ artifact ∈ availability.finalIndex, ArtifactShown artifact) ∧
    ∀ sample ∈ availability.samples, SampleShown sample

instance (availability : ComparisonAvailability) : Decidable (AvailabilityShown availability) :=
  inferInstanceAs (Decidable (_ ∧ _ ∧ _))

def shownAvailability (text : ReadableText) (availability : ComparisonAvailability) :
    ExperimentComparisonAvailability where
  finalModel := availability.finalModel.map (shownArtifact text)
  finalIndex := availability.finalIndex.map (shownArtifact text)
  samples := availability.samples.map (shownSample text)

def availabilityIds (availability : ComparisonAvailability) : List Nat :=
  availability.finalModel.toList.map ComparisonArtifactRead.id ++
    availability.finalIndex.toList.map ComparisonArtifactRead.id ++
    availability.samples.map (fun sample => sample.id.value) ++
    availability.samples.map ComparisonSampleRead.testSetItemId

/-- The identifiers are written as canonical UUIDs, different ones differently. -/
structure WritesIds (text : ReadableText) (ids : List Nat) : Prop where
  canonical : ∀ id ∈ ids, canonicalUuidPattern (text.uuid id) = true
  distinct : ∀ left ∈ ids, ∀ right ∈ ids, text.uuid left = text.uuid right → left = right

theorem WritesIds.nodup {ids : List Nat} (writes : WritesIds text ids) {Value : Type}
    {values : List Value} {id : Value → Nat} (inside : ∀ value ∈ values, id value ∈ ids)
    (distinct : (values.map id).Nodup) : (values.map fun value => text.uuid (id value)).Nodup := by
  have written : ((values.map id).map text.uuid).Nodup := by
    refine List.Nodup.map_on ?_ distinct
    intro left leftMember right rightMember same
    rcases List.mem_map.mp leftMember with ⟨value, member, rfl⟩
    rcases List.mem_map.mp rightMember with ⟨other, otherMember, rfl⟩
    exact writes.distinct _ (inside value member) _ (inside other otherMember) same
  rwa [List.map_map] at written

theorem publicComparisonAvailability_dump {config : JobConfig}
    {availability : ComparisonAvailability} (sound : AvailabilitySound config availability)
    (writes : WritesIds text (availabilityIds availability))
    (reads : ∀ sample ∈ availability.samples, text.Reads sample.createdAt) :
    publicComparisonAvailability text.parse
        (some (availabilityDump text.toComparisonText availability)) =
      if AvailabilityShown availability then some (shownAvailability text availability)
      else none := by
  have artifactId {artifact : ComparisonArtifactRead}
      (given : availability.finalModel = some artifact ∨
        availability.finalIndex = some artifact) :
      canonicalUuidPattern (text.uuid artifact.id) = true := by
    apply writes.canonical
    rcases given with given | given <;> simp [availabilityIds, given]
  have sampleId (sample : ComparisonSampleRead) (member : sample ∈ availability.samples) :
      sample.id.value ∈ availabilityIds availability ∧
        sample.testSetItemId ∈ availabilityIds availability := by
    simp only [availabilityIds, List.mem_append, List.mem_map]
    exact ⟨.inl (.inr ⟨sample, member, rfl⟩), .inr ⟨sample, member, rfl⟩⟩
  have notNull (artifact : ComparisonArtifactRead) :
      artifactDump text.toComparisonText artifact ≠ .null := fun same => by cases same
  have model : nullable publicComparisonArtifact
      (some (orNull (artifactDump text.toComparisonText) availability.finalModel)) =
        if ∀ artifact ∈ availability.finalModel, ArtifactShown artifact then
          some (availability.finalModel.map (shownArtifact text))
        else none :=
    nullable_orNull notNull fun artifact given =>
      publicComparisonArtifact_dump (artifactId (.inl given))
  have index : nullable publicComparisonArtifact
      (some (orNull (artifactDump text.toComparisonText) availability.finalIndex)) =
        if ∀ artifact ∈ availability.finalIndex, ArtifactShown artifact then
          some (availability.finalIndex.map (shownArtifact text))
        else none :=
    nullable_orNull notNull fun artifact given =>
      publicComparisonArtifact_dump (artifactId (.inr given))
  have samples : ((availability.samples.map (sampleDump text.toComparisonText)).mapM fun item =>
      publicComparisonSample text.parse (some item)) =
        if ∀ sample ∈ availability.samples, SampleShown sample then
          some (availability.samples.map (shownSample text))
        else none :=
    mapM_map fun sample member => publicComparisonSample_dump
      (writes.canonical _ (sampleId sample member).1)
      (writes.canonical _ (sampleId sample member).2) (reads sample member)
  have ids : ((availability.samples.map (shownSample text)).map
      ExperimentComparisonSample.id).Nodup := by
    have values : (availability.samples.map fun sample => sample.id.value).Nodup := by
      have mapped := sound.ids.map (f := SampleId.value) fun left right same => by
        cases left
        cases right
        exact congrArg SampleId.mk same
      rwa [List.map_map] at mapped
    rw [List.map_map]
    exact writes.nodup (fun sample member => (sampleId sample member).1) values
  have items : ((availability.samples.map (shownSample text)).map
      ExperimentComparisonSample.testSetItemId).Nodup := by
    rw [List.map_map]
    exact writes.nodup (fun sample member => (sampleId sample member).2) sound.items
  simp only [publicComparisonAvailability, availabilityDump, record, Option.bind_eq_bind,
    Option.bind_some, property_cons, if_true, String.reduceEq, if_false, arrayOf, model, index,
    samples, List.length_map, Nat.not_lt.mpr availability.few]
  by_cases modelShown : ∀ artifact ∈ availability.finalModel, ArtifactShown artifact
  · by_cases indexShown : ∀ artifact ∈ availability.finalIndex, ArtifactShown artifact
    · by_cases samplesShown : ∀ sample ∈ availability.samples, SampleShown sample
      · have shown : AvailabilityShown availability := ⟨modelShown, indexShown, samplesShown⟩
        rw [if_pos modelShown, if_pos indexShown, if_pos samplesShown, if_pos shown,
          Option.bind_some, Option.bind_some, Option.bind_some, if_pos ⟨ids, items⟩]
        rfl
      · have hidden : ¬AvailabilityShown availability := fun shown => samplesShown shown.2.2
        rw [if_pos modelShown, if_pos indexShown, if_neg samplesShown, if_neg hidden]
        rfl
    · have hidden : ¬AvailabilityShown availability := fun shown => indexShown shown.2.1
      rw [if_pos modelShown, if_neg indexShown, if_neg hidden]
      rfl
  · have hidden : ¬AvailabilityShown availability := fun shown => modelShown shown.1
    rw [if_neg modelShown, if_neg hidden]
    rfl

/-! ### Jobs -/

def comparisonIds (read : ComparisonJobRead) : List Nat :=
  read.id :: read.currentAttempt.toList.map ComparisonAttemptRead.id ++
    availabilityIds read.availability

structure Readable (text : ReadableText) (read : ComparisonJobRead) : Prop where
  ids : WritesIds text (comparisonIds read)
  startedAt : ∀ attempt ∈ read.currentAttempt, text.Reads attempt.startedAt
  finishedAt : ∀ attempt ∈ read.currentAttempt, ∀ finishedAt ∈ attempt.finishedAt,
    text.Reads finishedAt
  occurredAt : ∀ series ∈ read.metrics, ∀ point ∈ series.points, text.Reads point.occurredAt
  createdAt : ∀ sample ∈ read.availability.samples, text.Reads sample.createdAt

/-- Where the web server asks for more than the Manager does. -/
structure JobShown (read : ComparisonJobRead) (experiment : ApiExperiment) : Prop where
  config : ConfigShown read.config
  dataset : read.config.datasetId.1 = experiment.datasetId
  attempt : ∀ attempt ∈ read.currentAttempt, (attempt.attemptNumber : Int) ≤ 2147483647
  metrics : ∀ series ∈ read.metrics, SeriesShown series
  availability : AvailabilityShown read.availability
  finalModel : read.availability.finalModel ≠ none → read.config.artifacts.collectSmallModel = true
  finalIndex : read.availability.finalIndex ≠ none →
    read.config.index.buildIndex = true ∧ read.config.artifacts.collectIndex = true

section

variable {jobId : JobId} {job : JobRow} {read : ComparisonJobRead} {experiment : ApiExperiment}

theorem currentEpoch_read (sound : ComparisonJobSound jobId job read) :
    nullableInteger (some (orNull .int read.currentEpoch)) 0 100000 = some read.currentEpoch := by
  have bound := read.config.training.epochs.2.2
  have each (epoch : Int) (given : read.currentEpoch = some epoch) :
      integer (some (.int epoch)) 0 100000 = if True then some epoch else none := by
    have inside := sound.currentEpoch epoch given
    rw [sound.totalEpoch] at inside
    rw [integer_int (by decide) (by decide), if_pos ⟨inside.1, inside.2.trans bound⟩, if_pos trivial]
  rw [nullableInteger, nullable_orNull (fun epoch same => by cases same) each,
    if_pos fun _ _ => trivial, Option.map_id']

def shownJob (text : ReadableText) (read : ComparisonJobRead) : ExperimentComparisonJob where
  id := text.uuid read.id
  jobName := read.jobName
  status := read.status.value
  config := read.config.modelDump
  currentEpoch := read.currentEpoch
  totalEpoch := read.totalEpoch
  currentAttempt := read.currentAttempt.map (shownAttempt text)
  metrics := read.metrics.map (shownSeries text)
  availability := shownAvailability text read.availability

theorem agreesWithExperiment_shown (sound : ComparisonJobSound jobId job read)
    (ofExperiment : read.config.experimentId.1 = experiment.id) :
    agreesWithExperiment (text.uuid read.id) experiment (shownJob text read) = true ↔
      read.config.datasetId.1 = experiment.datasetId := by
  have current : ¬∃ epoch, read.currentEpoch = some epoch ∧ read.totalEpoch < epoch := by
    rintro ⟨epoch, current, late⟩
    exact absurd late (not_lt.mpr (sound.currentEpoch epoch current).2)
  have name : property read.config.modelDump "job_name" = some (.str read.jobName) := by
    rw [sound.jobName]
    rfl
  have sameExperiment : property read.config.modelDump "experiment_id" =
      some (.str experiment.id) := by
    rw [← ofExperiment]
    rfl
  have dataset : property read.config.modelDump "dataset_id" =
    some (.str read.config.datasetId.1) := rfl
  have epochs : numberOf (configField read.config.modelDump "training" "epochs") =
      some (.finite read.totalEpoch) := by
    rw [sound.totalEpoch]
    rfl
  have status : ¬∃ attempt, read.currentAttempt.map (shownAttempt text) = some attempt ∧
      attempt.status ≠ read.status.value := by
    rintro ⟨_, shown, different⟩
    rcases Option.map_eq_some_iff.mp shown with ⟨attempt, current, rfl⟩
    refine different ?_
    rw [shownAttempt, sound.status attempt current]
  have idle : ¬((read.currentAttempt.map (shownAttempt text) = none ∧
      read.status.value ≠ "queued") ∧ read.status.value ≠ "cancelled") := by
    rintro ⟨⟨absent, notQueued⟩, notCancelled⟩
    rcases (sound.idle (Option.map_eq_none_iff.mp absent)).1 with queued | cancelled
    · exact notQueued (by rw [queued]; rfl)
    · exact notCancelled (by rw [cancelled]; rfl)
  simp only [agreesWithExperiment, Bool.and_eq_true, Bool.not_eq_true', ← Bool.not_eq_true,
    decide_eq_true_eq, Option.any_eq_true, Option.isNone_iff_eq_none]
  simp only [shownJob, current, name, sameExperiment, dataset, epochs, status, idle,
    not_false_eq_true, and_true, true_and, Option.some.injEq, Json.str.injEq]

theorem resultsAsConfigured_shown (sound : ComparisonJobSound jobId job read) :
    resultsAsConfigured (shownJob text read) = true ↔
      (read.availability.finalModel ≠ none → read.config.artifacts.collectSmallModel = true) ∧
        (read.availability.finalIndex ≠ none →
          read.config.index.buildIndex = true ∧ read.config.artifacts.collectIndex = true) := by
  have model : configField read.config.modelDump "artifacts" "collect_small_model" =
    some (.bool read.config.artifacts.collectSmallModel) := rfl
  have index : configField read.config.modelDump "artifacts" "collect_index" =
    some (.bool read.config.artifacts.collectIndex) := rfl
  have build : configField read.config.modelDump "index" "build_index" =
    some (.bool read.config.index.buildIndex) := rfl
  have enabled : configField read.config.modelDump "auto_inference_samples" "enabled" =
    some (.bool read.config.autoInferenceSamples.enabled) := rfl
  have samples : configField read.config.modelDump "artifacts" "collect_samples" =
    some (.bool read.config.artifacts.collectSamples) := rfl
  rcases validateCrossFields_eq_ok read.config with ⟨-, -, -, sampled⟩
  have planned : ¬read.availability.samples = [] →
      read.config.autoInferenceSamples.enabled = true ∧
        read.config.artifacts.collectSamples = true := by
    intro some_
    have isEnabled := sound.availability.enabled some_
    exact ⟨isEnabled, (sampled isEnabled).2.1⟩
  have idle : read.currentAttempt = none →
      ((read.metrics = [] ∧ read.availability.finalModel = none) ∧
        read.availability.finalIndex = none) ∧ read.availability.samples = [] := by
    intro absent
    rcases (sound.idle absent).2 with ⟨metrics, availability⟩
    rw [availability]
    exact ⟨⟨⟨metrics, rfl⟩, rfl⟩, rfl⟩
  simp only [resultsAsConfigured, Bool.and_eq_true, Bool.or_eq_true, Bool.not_eq_true',
    ← Bool.not_eq_true, decide_eq_true_eq, List.isEmpty_iff, Option.isSome_iff_ne_none,
    Option.isNone_iff_eq_none]
  simp only [shownJob, shownAvailability, model, index, build, enabled, samples,
    Option.some.injEq, Json.bool.injEq, ne_eq, Option.map_eq_none_iff, List.map_eq_nil_iff,
    ← not_and_or, not_and_not_right]
  exact ⟨fun all => all.1.1, fun both => ⟨⟨both, planned⟩, idle⟩⟩

/-- A Job is shown if its parts are, and if it agrees with its experiment. -/
theorem publicComparisonJob_isSome_iff (sound : ComparisonJobSound jobId job read)
    (readable : Readable text read)
    (ofExperiment : read.config.experimentId.1 = experiment.id) :
    (publicComparisonJob text.parse (some (jobDump text.toComparisonText read))
      (text.uuid read.id) experiment).isSome = true ↔ JobShown read experiment := by
  have writes := readable.ids
  have canonical : canonicalUuidPattern (text.uuid read.id) = true :=
    writes.canonical _ List.mem_cons_self
  have jobName : safeIdentifier (some (.str read.jobName)) = some read.jobName := by
    rw [sound.jobName]
    exact Option.filter_eq_some_iff.mpr ⟨rfl, decide_eq_true read.config.jobName.2⟩
  have totalEpoch : integer (some (.int read.totalEpoch)) 1 100000 = some read.totalEpoch := by
    rw [integer_int (by decide) (by decide), if_pos]
    rw [sound.totalEpoch]
    exact read.config.training.epochs.2
  have attempt : nullable (publicComparisonAttempt text.parse)
      (some (orNull (attemptDump text.toComparisonText) read.currentAttempt)) =
        if ∀ attempt ∈ read.currentAttempt, (attempt.attemptNumber : Int) ≤ 2147483647 then
          some (read.currentAttempt.map (shownAttempt text))
        else none := by
    refine nullable_orNull (fun attempt same => by cases same) fun attempt given => ?_
    refine publicComparisonAttempt_dump (writes.canonical _ ?_) (sound.numbered attempt given)
      (sound.ended attempt given).1 (sound.ended attempt given).2
      (readable.startedAt attempt given) (readable.finishedAt attempt given)
    simp [comparisonIds, given]
  have metrics := publicComparisonMetrics_dump sound.metrics.1 sound.metrics.2.1
    sound.metrics.2.2 readable.occurredAt
  have results : WritesIds text (availabilityIds read.availability) :=
    { canonical := fun id member => writes.canonical id (List.mem_append_right _ member)
      distinct := fun left leftMember right rightMember => writes.distinct left
        (List.mem_append_right _ leftMember) right (List.mem_append_right _ rightMember) }
  have availability :=
    publicComparisonAvailability_dump sound.availability results readable.createdAt
  simp only [publicComparisonJob, jobDump, record, Option.bind_eq_bind, Option.bind_some,
    property_cons, if_true, String.reduceEq, if_false, canonicalUuid_str canonical,
    Option.filter_some, canonical, jobName, jobStatusOf_value, currentEpoch_read sound, totalEpoch,
    attempt, metrics, availability]
  rw [Option.isSome_iff_exists]
  simp only [Option.bind_eq_some_iff, publicComparisonJobConfig_eq_some_iff,
    Option.ite_none_right_eq_some, Bool.and_eq_true]
  constructor
  · rintro ⟨_, _, ⟨rfl, config⟩, _, ⟨attemptShown, sameAttempt⟩, _,
      ⟨metricsShown, sameMetrics⟩, _, ⟨availabilityShown, sameAvailability⟩, ⟨agrees, fits⟩, -⟩
    cases sameAttempt
    cases sameMetrics
    cases sameAvailability
    have configured := (resultsAsConfigured_shown sound).mp fits
    exact
      { config := config
        dataset := (agreesWithExperiment_shown sound ofExperiment).mp agrees
        attempt := attemptShown
        metrics := metricsShown
        availability := availabilityShown
        finalModel := configured.1
        finalIndex := configured.2 }
  · intro shown
    exact ⟨_, _, ⟨rfl, shown.config⟩, _, ⟨shown.attempt, rfl⟩, _, ⟨shown.metrics, rfl⟩, _,
      ⟨shown.availability, rfl⟩,
      ⟨(agreesWithExperiment_shown sound ofExperiment).mpr shown.dataset,
        (resultsAsConfigured_shown sound).mpr ⟨shown.finalModel, shown.finalIndex⟩⟩, rfl⟩

/-- A Job is accepted, in whatever state the Manager serves it, if and only if it lies within
the bounds that the web server has of its own. -/
theorem publicComparisonJob_accepts_iff {platform : Platform} {storage : StorageIdentity}
    {rows : ComparisonRows} (built : comparisonJob platform storage rows jobId job = .ok read)
    (readable : Readable text read) (ofExperiment : job.experimentId = experiment.id) :
    ((publicComparisonJobConfig (some read.config.modelDump)).isSome = true ∧
      (publicComparisonJob text.parse (some (jobDump text.toComparisonText read))
        (text.uuid jobId) experiment).isSome = true) ↔ JobShown read experiment := by
  have sound := comparisonJob_sound built
  have accepts := publicComparisonJob_isSome_iff sound readable
    (sound.experimentId.trans ofExperiment)
  rw [sound.id] at accepts
  rw [accepts]
  refine and_iff_right_of_imp fun shown => ?_
  rw [publicComparisonJobConfig_eq_some_iff.mpr ⟨rfl, shown.config⟩]
  rfl

end

end

/-! ## Shards on one device -/

def shardedConfig (ids : List Int)
    (valid : validateRmvpeGpuIds (some .rmvpeGpu) (some ids) = .ok ()) : JobConfig :=
  { plainConfig with
    experimentId := ⟨"6f9619ff-8b86-4d11-942d-00c04fc964ff", by decide +kernel⟩
    datasetId := ⟨"7d444840-9dc0-41d1-b245-5ffdce74fad2", by decide +kernel⟩
    f0Extraction := ⟨some .rmvpeGpu, some ids, valid⟩
    valid := rfl }

def spreadShards : JobConfig := shardedConfig [0, 1] rfl

def repeatedShards : JobConfig := shardedConfig [0, 0] rfl

/-- The SHA-256 digests of the documents of the two configurations. No other digest is used. -/
def shardsSha256 : Sha256 where
  digest document :=
    if document = canonicalJobConfigText repeatedShards.modelDump then
      "d8ea453c441e419d9763a43d36dbcaf78eab1f870b54d964aa34263b2adc5750"
    else "ec319e4bd46ce2ae0a709858f3590c8b1a8b7c0b2479c11fde3aea8d048fcb92"
  wellFormed document := by
    split
    · decide +kernel
    · decide +kernel

def shardsPlatform : Platform where
  sha256 := shardsSha256
  lax := wholeLax

def shardsStorage : StorageIdentity where
  backend := .s3
  namespaceFingerprint := "namespace"

/-- The rows of a Manager that has stored nothing but Jobs. -/
def shardsRows (ledger : Ledger) : ComparisonRows where
  ledger := ledger
  metrics := []
  artifacts := []
  uploads := .empty
  samples := []
  metricKey := List.nodup_nil
  sampleKey := List.nodup_nil

def shardsText : ReadableText where
  uuid _ := "0b6c1f0e-5a53-4d0c-9d5f-3f1f3a4b8c11"
  isoformat _ := "1970-01-01T00:00:00Z"
  parse _ := some 0

def shardsExperiment : ApiExperiment where
  id := "6f9619ff-8b86-4d11-942d-00c04fc964ff"
  datasetId := "7d444840-9dc0-41d1-b245-5ffdce74fad2"

def shardsAdmission : JobAdmission where
  experimentDatasetId := some "7d444840-9dc0-41d1-b245-5ffdce74fad2"
  ownsExperiment := true
  datasetReady := true
  sampleGate := .error ⟨409, "sample runtime is not ready"⟩

theorem readable_waitingJob (config : JobConfig) : Readable shardsText (waitingJob 1 config) where
  ids :=
    have canonical : canonicalUuidPattern "0b6c1f0e-5a53-4d0c-9d5f-3f1f3a4b8c11" = true := by
      decide +kernel
    { canonical := fun _ _ => canonical
      distinct := by
        intro left leftMember right rightMember _
        rw [List.mem_singleton.mp leftMember, List.mem_singleton.mp rightMember] }
  startedAt _ never := by cases never
  finishedAt _ never := by cases never
  occurredAt _ never := by cases never
  createdAt _ never := by cases never

theorem comparisonJob_shards (ids : List Int)
    (valid : validateRmvpeGpuIds (some .rmvpeGpu) (some ids) = .ok ()) (ledger : Ledger) :
    comparisonJob shardsPlatform shardsStorage (shardsRows ledger) 1
        (createdJob shardsPlatform (shardedConfig ids valid) 0) =
      .ok (waitingJob 1 (shardedConfig ids valid)) :=
  comparisonJob_created (show PyFloat.zero.Small by decide +kernel) shardsStorage
    (shardsRows ledger) 1

theorem configShown_spreadShards : ConfigShown spreadShards.normal where
  experimentId := by decide +kernel
  datasetId := by decide +kernel
  repository := by decide +kernel
  rvcCommitHash _ never := by cases never
  speakerId := by decide
  gPath _ never := by cases never
  dPath _ never := by cases never
  saveEveryEpoch := by decide
  gpuIds := by decide
  rmvpeGpuIds ids given := by
    cases given
    decide
  testSetId _ never := by cases never
  minVramGb := by decide +kernel
  workerTags _ never := by cases never

theorem not_configShown_repeatedShards : ¬ConfigShown repeatedShards.normal := by
  intro shown
  have distinct : [(0 : Int), 0].Nodup := (shown.rmvpeGpuIds [0, 0] rfl).2.2
  simp at distinct

theorem jobShown_spreadShards : JobShown (waitingJob 1 spreadShards) shardsExperiment where
  config := configShown_spreadShards
  dataset := rfl
  attempt _ never := by cases never
  metrics _ never := by cases never
  availability :=
    ⟨by simp [waitingJob, ComparisonAvailability.none],
      by simp [waitingJob, ComparisonAvailability.none],
      by simp [waitingJob, ComparisonAvailability.none]⟩
  finalModel given := absurd rfl given
  finalIndex given := absurd rfl given

theorem publicComparisonJob_accepts_spreadShards :
    (publicComparisonJobConfig (some spreadShards.normal.modelDump)).isSome = true ∧
      (publicComparisonJob shardsText.parse
        (some (jobDump shardsText.toComparisonText (waitingJob 1 spreadShards)))
        (shardsText.uuid 1) shardsExperiment).isSome = true :=
  (publicComparisonJob_accepts_iff (comparisonJob_shards [0, 1] rfl .empty)
    (readable_waitingJob spreadShards) rfl).mpr jobShown_spreadShards

/-- A Job that has just been created with its shards on one device is served by the Manager and
refused by the web server. -/
theorem publicComparisonJob_refuses_repeatedShards :
    ∃ ledger job read,
      createJob shardsPlatform sampleSettings .empty shardsAdmission 1 repeatedShards 0 =
          .ok (1, ledger) ∧
        ledger.jobs.find? 1 = some job ∧
        comparisonJob shardsPlatform shardsStorage (shardsRows ledger) 1 job = .ok read ∧
        Readable shardsText read ∧
        job.experimentId = shardsExperiment.id ∧ job.datasetId = shardsExperiment.datasetId ∧
        publicComparisonJobConfig (some read.config.modelDump) = none ∧
        publicComparisonJob shardsText.parse
          (some (jobDump shardsText.toComparisonText read)) (shardsText.uuid 1)
          shardsExperiment = none := by
  refine ⟨_, createdJob shardsPlatform repeatedShards 0, waitingJob 1 repeatedShards, rfl, rfl,
    comparisonJob_shards [0, 0] rfl _, readable_waitingJob repeatedShards, rfl, rfl, ?_, ?_⟩
  · rw [Option.eq_none_iff_forall_ne_some]
    intro document accepted
    exact not_configShown_repeatedShards (publicComparisonJobConfig_eq_some_iff.mp accepted).2
  · rw [← Option.not_isSome_iff_eq_none]
    intro accepted
    have sound := comparisonJob_sound (comparisonJob_shards [0, 0] rfl .empty)
    exact not_configShown_repeatedShards
      ((publicComparisonJob_isSome_iff sound (readable_waitingJob repeatedShards) rfl).mp
        accepted).config

end RvcOrchestrator.Web

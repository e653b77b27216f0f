import RvcOrchestrator.Contracts.JobConfig

/-! # Job configuration documents

The codecs of the configuration's records, field by field with the contract's
keys and defaults, and the canonical text a configuration is hashed by.
-/

namespace RvcOrchestrator.Contracts

open RvcOrchestrator.Foundation

section Codecs

variable (lax : Lax)

/-! ## Field codecs -/

/-- A literal field: one admissible text, which the record does not store. -/
def literalCodec (text : String) : Codec Unit :=
  Codec.enum (fun _ => text) [()] fun _ => by simp

def RVCVersion.codec : Codec RVCVersion :=
  Codec.enum RVCVersion.value [.v1, .v2] fun value => by cases value <;> decide

def SampleRate.codec : Codec SampleRate :=
  Codec.enum SampleRate.value [.khz40, .khz48] fun value => by cases value <;> decide

def TrainingF0Method.codec : Codec TrainingF0Method :=
  Codec.enum TrainingF0Method.value [.pm, .harvest, .dio, .rmvpe, .rmvpeGpu]
    fun value => by cases value <;> decide

def InferenceF0Method.codec : Codec InferenceF0Method :=
  Codec.enum InferenceF0Method.value [.pm, .harvest, .crepe, .rmvpe]
    fun value => by cases value <;> decide

def PretrainedMode.codec : Codec PretrainedMode :=
  Codec.enum PretrainedMode.value [.auto, .custom] fun value => by cases value <;> decide

def optionalStr : Codec (Option String) :=
  Codec.str.option fun _ => by simp [Codec.str]

def SafeName.codec : Codec SafeName :=
  Codec.str.restrict IsSafeName fun _ holds => holds

def intInCodec (low high : Int) : Codec (IntIn low high) :=
  (Codec.int lax).restrict _ fun _ holds => holds

def intFromCodec (low : Int) : Codec (IntFrom low) :=
  (Codec.int lax).restrict _ fun _ holds => holds

def floatInCodec (low high : ℚ) : Codec (FloatIn low high) :=
  (Codec.float lax).restrict _ fun value holds =>
    (PyFloat.decimal_unsignedZero value).symm ▸ holds

def floatFromCodec (low : ℚ) : Codec (FloatFrom low) :=
  (Codec.float lax).restrict _ fun value holds =>
    (PyFloat.decimal_unsignedZero value).symm ▸ holds

/-- `_parse_gpu_ids`: a number or a comma-separated text stands for a list. -/
def parseGpuIds : Json → Except ValidationError Json
  | .int value => .ok (.array [.int value])
  | .bool value => .ok (.array [.bool value])
  | .str text =>
      if strip text = "" then .ok (.array [])
      else
        match (text.toList.splitOn ',').mapM fun part =>
            lax.parseInt (strip (String.ofList part)) with
        | some ids => .ok (.array (ids.map .int))
        | none => .error (.value "invalid literal for int()")
  | document => .ok document

theorem parseGpuIds_readBack (ids : List Int) (result : Json)
    (readBack : Json.ReadBack ((Codec.int lax).list.dump ids) result) :
    parseGpuIds lax result = .ok result := by
  simp only [Codec.list, Json.ReadBack] at readBack
  obtain ⟨items, rfl, -⟩ := readBack
  rfl

def gpuIdsCodec : Codec GpuIds :=
  ((Codec.int lax).list.before (parseGpuIds lax) (parseGpuIds_readBack lax)).refine
    (fun value =>
      if notEmpty : value ≠ [] then
        match checked : validateGpuIds value with
        | .ok () => .ok ⟨value, notEmpty, checked⟩
        | .error error => .error error
      else .error .constraint)
    Subtype.val id (fun value => List.map_id value.1) fun value => by
      rw [dif_pos value.2.1]
      split
      · rfl
      · next error failed => exact absurd (value.2.2.symm.trans failed) (by simp)

def optionalGpuIdsCodec : Codec (Option (List Int)) :=
  ((Codec.int lax).list.option fun _ => by simp [Codec.list]).before (parseGpuIds lax) (by
    intro ids result readBack
    cases ids with
    | none =>
        simp only [Codec.option, Json.ReadBack] at readBack
        rw [readBack]
        rfl
    | some ids => exact parseGpuIds_readBack lax ids result readBack)

/-- `_require_exact_integer` runs before the bounds. -/
def resampleRateCodec : Codec InferenceResampleRate :=
  ((Codec.int lax).before
    (fun document =>
      match document with
      | .int value => .ok (.int value)
      | _ => .error (.value "inference resample_sr must be an exact JSON integer"))
    (by
      intro value result readBack
      simp only [Codec.int, Json.ReadBack] at readBack
      rw [readBack])).restrict _ fun _ holds => holds

theorem uniqueTags_eq_ok {tags stripped : List String}
    (accepted : uniqueTags tags = .ok stripped) :
    stripped.length = tags.length ∧ uniqueTags stripped = .ok stripped := by
  simp only [uniqueTags] at accepted
  have same : (tags.map strip).map strip = tags.map strip := by
    rw [List.map_map]
    exact List.map_congr_left fun tag _ => strip_idem tag
  split at accepted
  · cases accepted
  · next notEmpty =>
      split at accepted
      · cases accepted
      · next unique =>
          injection accepted with equal
          subst equal
          refine ⟨List.length_map _, ?_⟩
          simp only [uniqueTags, same]
          rw [if_neg notEmpty, if_neg unique]

def workerTagsCodec : Codec WorkerTags :=
  Codec.str.list.refine
    (fun value =>
      if short : value.length ≤ 64 then
        match checked : uniqueTags value with
        | .ok tags => .ok ⟨tags, (uniqueTags_eq_ok checked).1.trans_le short,
            (uniqueTags_eq_ok checked).2⟩
        | .error error => .error error
      else .error .constraint)
    Subtype.val id (fun value => List.map_id value.1) fun value => by
      rw [dif_pos value.2.1]
      split
      · next tags checked =>
          have equal := value.2.2.symm.trans checked
          injection equal with equal
          subst equal
          rfl
      · next error failed => exact absurd (value.2.2.symm.trans failed) (by simp)

/-! ## Section codecs -/

def RVCBackendConfig.codec : Codec RVCBackendConfig :=
  (((Fields.field "backend_type" (literalCodec "rvc_webui") (some ())).and <|
    (Fields.field "repository" Codec.str
      (some "RVC-Project/Retrieval-based-Voice-Conversion-WebUI")).and <|
    (Fields.field "rvc_version" (RVCVersion.codec.option fun _ => by
      simp [RVCVersion.codec, Codec.enum]) (some none)).and <|
    Fields.field "rvc_commit_hash" optionalStr (some none)).record (by simp [Fields.and, Fields.field])).refine
    (fun (_, repository, rvcVersion, rvcCommitHash) => .ok ⟨repository, rvcVersion, rvcCommitHash⟩)
    (fun config => ((), config.repository, config.rvcVersion, config.rvcCommitHash))
    id (fun config => by cases config with | mk _ version hash => cases version <;> cases hash <;> rfl)
    fun _ => rfl

def defaultSpeakerId : IntFrom 0 := ⟨0, by decide⟩

def ModelConfig.codec : Codec ModelConfig :=
  (((Fields.field "version" RVCVersion.codec none).and <|
    (Fields.field "sample_rate" SampleRate.codec none).and <|
    (Fields.field "use_f0" (Codec.bool lax) (some true)).and <|
    Fields.field "speaker_id" (intFromCodec lax 0) (some defaultSpeakerId)).record (by simp [Fields.and, Fields.field])).refine
    (fun (version, sampleRate, useF0, speakerId) => .ok ⟨version, sampleRate, useF0, speakerId⟩)
    (fun config => (config.version, config.sampleRate, config.useF0, config.speakerId))
    id (fun _ => rfl) fun _ => rfl

/-- Build a record whose validator has accepted its fields. -/
def afterValidation {Value : Type} (outcome : Except ValidationError Unit)
    (build : outcome = .ok () → Value) : Except ValidationError Value :=
  match outcome, build with
  | .ok (), build => .ok (build rfl)
  | .error error, _ => .error error

theorem afterValidation_eq_ok {Value : Type} {outcome : Except ValidationError Unit}
    {build : outcome = .ok () → Value} (checked : outcome = .ok ()) :
    afterValidation outcome build = .ok (build checked) := by
  subst checked
  rfl

def PretrainedConfig.codec : Codec PretrainedConfig :=
  (((Fields.field "mode" PretrainedMode.codec (some .auto)).and <|
    (Fields.field "g_path" optionalStr (some none)).and <|
    (Fields.field "d_path" optionalStr (some none)).and <|
    Fields.field "allow_custom_override" (Codec.bool lax) (some false)).record (by simp [Fields.and, Fields.field])).refine
    (fun (mode, gPath, dPath, allowCustomOverride) =>
      afterValidation (validateCustomPaths mode gPath dPath) fun valid =>
        ⟨mode, gPath, dPath, allowCustomOverride, valid⟩)
    (fun config => (config.mode, config.gPath, config.dPath, config.allowCustomOverride))
    id (fun config => by
      cases config with | mk _ gPath dPath _ _ => cases gPath <;> cases dPath <;> rfl)
    fun config => afterValidation_eq_ok config.valid

def TrainingFeatureConfig.codec : Codec TrainingFeatureConfig :=
  (((Fields.field "feature_dir_policy" (literalCodec "auto") (some ())).and <|
    (Fields.field "v1_feature_dir" (literalCodec "3_feature256") (some ())).and <|
    Fields.field "v2_feature_dir" (literalCodec "3_feature768") (some ())).record
      (by simp [Fields.and, Fields.field])).refine
    (fun _ => .ok ⟨⟩) (fun _ => ((), (), ())) id (fun _ => rfl) fun _ => rfl

def TrainingConfig.codec : Codec TrainingConfig :=
  (((Fields.field "epochs" (intInCodec lax 1 100000) (some ⟨80, by decide⟩)).and <|
    (Fields.field "batch_size_per_gpu" (intInCodec lax 1 1024) (some ⟨8, by decide⟩)).and <|
    (Fields.field "save_every_epoch" (intFromCodec lax 1) (some ⟨5, by decide⟩)).and <|
    (Fields.field "save_only_latest" (Codec.bool lax) (some false)).and <|
    (Fields.field "save_every_weights" (Codec.bool lax) (some true)).and <|
    (Fields.field "cache_dataset_in_gpu" (Codec.bool lax) (some false)).and <|
    Fields.field "gpu_ids" (gpuIdsCodec lax) (some ⟨[0], by decide⟩)).record (by simp [Fields.and, Fields.field])).refine
    (fun (epochs, batchSizePerGpu, saveEveryEpoch, saveOnlyLatest, saveEveryWeights,
        cacheDatasetInGpu, gpuIds) =>
      .ok ⟨epochs, batchSizePerGpu, saveEveryEpoch, saveOnlyLatest, saveEveryWeights,
        cacheDatasetInGpu, gpuIds⟩)
    (fun config => (config.epochs, config.batchSizePerGpu, config.saveEveryEpoch,
      config.saveOnlyLatest, config.saveEveryWeights, config.cacheDatasetInGpu, config.gpuIds))
    id (fun _ => rfl) fun _ => rfl

def F0ExtractionConfig.codec : Codec F0ExtractionConfig :=
  (((Fields.field "training_f0_method" (TrainingF0Method.codec.option fun _ => by
      simp [TrainingF0Method.codec, Codec.enum]) (some (some .rmvpe))).and <|
    Fields.field "rmvpe_gpu_ids" (optionalGpuIdsCodec lax) (some none)).record
      (by simp [Fields.and, Fields.field])).refine
    (fun (trainingF0Method, rmvpeGpuIds) =>
      afterValidation (validateRmvpeGpuIds trainingF0Method rmvpeGpuIds) fun valid =>
        ⟨trainingF0Method, rmvpeGpuIds, valid⟩)
    (fun config => (config.trainingF0Method, config.rmvpeGpuIds))
    id (fun config => by
      obtain ⟨method, gpuIds, valid⟩ := config
      have same : Option.map (List.map fun id : Int => id) gpuIds = gpuIds := by
        cases gpuIds <;> simp
      cases method <;> exact congrArg _ same)
    fun config => afterValidation_eq_ok config.valid

def IndexConfig.codec : Codec IndexConfig :=
  (((Fields.field "build_index" (Codec.bool lax) (some true)).and <|
    (Fields.field "collect_total_fea" (Codec.bool lax) (some true)).and <|
    Fields.field "collect_added_index" (Codec.bool lax) (some true)).record (by simp [Fields.and, Fields.field])).refine
    (fun (buildIndex, collectTotalFea, collectAddedIndex) =>
      .ok ⟨buildIndex, collectTotalFea, collectAddedIndex⟩)
    (fun config => (config.buildIndex, config.collectTotalFea, config.collectAddedIndex))
    id (fun _ => rfl) fun _ => rfl

def FloatIn.normal {low high : ℚ} (number : FloatIn low high) : FloatIn low high :=
  ⟨number.1.unsignedZero, (PyFloat.decimal_unsignedZero number.1).symm ▸ number.2⟩

def AutoInferenceSamplesConfig.normal (config : AutoInferenceSamplesConfig) :
    AutoInferenceSamplesConfig :=
  { config with
    indexRate := config.indexRate.normal
    rmsMixRate := config.rmsMixRate.normal
    protect := config.protect.normal }

/-- A decimal constant of the source. -/
def hundredths (coefficient : Nat) (normal : coefficient % 10 ≠ 0 ∧ coefficient < 10 ^ 17) :
    PyFloat :=
  ⟨false, coefficient, -2, .inr normal⟩

def AutoInferenceSamplesConfig.codec : Codec AutoInferenceSamplesConfig :=
  (((Fields.field "enabled" (Codec.bool lax) (some false)).and <|
    (Fields.field "test_set_id" optionalStr (some none)).and <|
    (Fields.field "inference_f0_method" InferenceF0Method.codec (some .rmvpe)).and <|
    (Fields.field "transpose" (intInCodec lax (-48) 48) (some ⟨0, by decide⟩)).and <|
    (Fields.field "index_rate" (floatInCodec lax 0 1)
      (some ⟨hundredths 75 (by decide), by decide +kernel⟩)).and <|
    (Fields.field "filter_radius" (intInCodec lax 0 7) (some ⟨3, by decide⟩)).and <|
    (Fields.field "resample_sr" (resampleRateCodec lax) (some ⟨0, by decide⟩)).and <|
    (Fields.field "rms_mix_rate" (floatInCodec lax 0 1)
      (some ⟨hundredths 25 (by decide), by decide +kernel⟩)).and <|
    Fields.field "protect" (floatInCodec lax 0 (1 / 2))
      (some ⟨hundredths 33 (by decide), by decide +kernel⟩)).record (by simp [Fields.and, Fields.field])).refine
    (fun (enabled, testSetId, inferenceF0Method, transpose, indexRate, filterRadius, resampleSr,
        rmsMixRate, protect) =>
      afterValidation (validateTestSet enabled testSetId) fun valid =>
        ⟨enabled, testSetId, inferenceF0Method, transpose, indexRate, filterRadius, resampleSr,
          rmsMixRate, protect, valid⟩)
    (fun config => (config.enabled, config.testSetId, config.inferenceF0Method,
      config.transpose, config.indexRate, config.filterRadius, config.resampleSr,
      config.rmsMixRate, config.protect))
    AutoInferenceSamplesConfig.normal
    (fun config => by
      cases config with | mk _ testSetId _ _ _ _ _ _ _ _ => cases testSetId <;> rfl)
    fun config => afterValidation_eq_ok config.valid

def ArtifactCollectionConfig.codec : Codec ArtifactCollectionConfig :=
  (((Fields.field "collect_checkpoints" (Codec.bool lax) (some true)).and <|
    (Fields.field "collect_small_model" (Codec.bool lax) (some true)).and <|
    (Fields.field "extract_small_model_if_missing" (Codec.bool lax) (some true)).and <|
    (Fields.field "collect_index" (Codec.bool lax) (some true)).and <|
    (Fields.field "collect_tensorboard" (Codec.bool lax) (some true)).and <|
    (Fields.field "collect_logs" (Codec.bool lax) (some true)).and <|
    Fields.field "collect_samples" (Codec.bool lax) (some true)).record (by simp [Fields.and, Fields.field])).refine
    (fun (collectCheckpoints, collectSmallModel, extractSmallModelIfMissing, collectIndex,
        collectTensorboard, collectLogs, collectSamples) =>
      .ok ⟨collectCheckpoints, collectSmallModel, extractSmallModelIfMissing, collectIndex,
        collectTensorboard, collectLogs, collectSamples⟩)
    (fun config => (config.collectCheckpoints, config.collectSmallModel,
      config.extractSmallModelIfMissing, config.collectIndex, config.collectTensorboard,
      config.collectLogs, config.collectSamples))
    id (fun _ => rfl) fun _ => rfl

def ResourceRequirements.normal (config : ResourceRequirements) : ResourceRequirements :=
  { config with
    minVramGb := ⟨config.minVramGb.1.unsignedZero,
      (PyFloat.decimal_unsignedZero config.minVramGb.1).symm ▸ config.minVramGb.2⟩ }

def ResourceRequirements.codec : Codec ResourceRequirements :=
  (((Fields.field "min_vram_gb" (floatFromCodec lax 0)
      (some ⟨.zero, by decide +kernel⟩)).and <|
    (Fields.field "preferred_worker_tags" workerTagsCodec (some ⟨[], by decide⟩)).and <|
    Fields.field "priority" (intInCodec lax 0 10) (some ⟨5, by decide⟩)).record
      (by simp [Fields.and, Fields.field])).refine
    (fun (minVramGb, preferredWorkerTags, priority) =>
      .ok ⟨minVramGb, preferredWorkerTags, priority⟩)
    (fun config => (config.minVramGb, config.preferredWorkerTags, config.priority))
    ResourceRequirements.normal (fun _ => rfl) fun _ => rfl

/-! ## Defaults -/

def RVCBackendConfig.default : RVCBackendConfig where
  repository := "RVC-Project/Retrieval-based-Voice-Conversion-WebUI"
  rvcVersion := none
  rvcCommitHash := none

def PretrainedConfig.default : PretrainedConfig where
  mode := .auto
  gPath := none
  dPath := none
  allowCustomOverride := false
  valid := rfl

def TrainingConfig.default : TrainingConfig where
  epochs := ⟨80, by decide⟩
  batchSizePerGpu := ⟨8, by decide⟩
  saveEveryEpoch := ⟨5, by decide⟩
  saveOnlyLatest := false
  saveEveryWeights := true
  cacheDatasetInGpu := false
  gpuIds := ⟨[0], by decide⟩

def F0ExtractionConfig.default : F0ExtractionConfig where
  trainingF0Method := some .rmvpe
  rmvpeGpuIds := none
  valid := rfl

def IndexConfig.default : IndexConfig where
  buildIndex := true
  collectTotalFea := true
  collectAddedIndex := true

def AutoInferenceSamplesConfig.default : AutoInferenceSamplesConfig where
  enabled := false
  testSetId := none
  inferenceF0Method := .rmvpe
  transpose := ⟨0, by decide⟩
  indexRate := ⟨hundredths 75 (by decide), by decide +kernel⟩
  filterRadius := ⟨3, by decide⟩
  resampleSr := ⟨0, by decide⟩
  rmsMixRate := ⟨hundredths 25 (by decide), by decide +kernel⟩
  protect := ⟨hundredths 33 (by decide), by decide +kernel⟩
  valid := rfl

def ArtifactCollectionConfig.default : ArtifactCollectionConfig where
  collectCheckpoints := true
  collectSmallModel := true
  extractSmallModelIfMissing := true
  collectIndex := true
  collectTensorboard := true
  collectLogs := true
  collectSamples := true

def ResourceRequirements.default : ResourceRequirements where
  minVramGb := ⟨.zero, by decide +kernel⟩
  preferredWorkerTags := ⟨[], by decide⟩
  priority := ⟨5, by decide⟩

/-! ## The configuration document -/

theorem validateCrossFields_normal (rvcBackend : RVCBackendConfig) (model : ModelConfig)
    (f0Extraction : F0ExtractionConfig) (index : IndexConfig)
    (autoInferenceSamples : AutoInferenceSamplesConfig)
    (artifacts : ArtifactCollectionConfig) :
    validateCrossFields rvcBackend model f0Extraction index autoInferenceSamples.normal
        artifacts =
      validateCrossFields rvcBackend model f0Extraction index autoInferenceSamples
        artifacts := by
  simp only [validateCrossFields, AutoInferenceSamplesConfig.normal, FloatIn.normal,
    PyFloat.decimal_unsignedZero]

def JobConfig.normal (config : JobConfig) : JobConfig :=
  { config with
    autoInferenceSamples := config.autoInferenceSamples.normal
    resource := config.resource.normal
    valid := (validateCrossFields_normal ..).trans config.valid }

theorem JobConfig.normal_normal (config : JobConfig) : config.normal.normal = config.normal := by
  simp [JobConfig.normal, AutoInferenceSamplesConfig.normal, ResourceRequirements.normal,
    FloatIn.normal]

def JobConfig.codec : Codec JobConfig :=
  (((Fields.field "schema_version" (literalCodec "1.0") (some ())).and <|
    (Fields.field "job_name" SafeName.codec none).and <|
    (Fields.field "experiment_id" SafeName.codec none).and <|
    (Fields.field "dataset_id" SafeName.codec none).and <|
    (Fields.field "rvc_backend" RVCBackendConfig.codec (some .default)).and <|
    (Fields.field "model" (ModelConfig.codec lax) none).and <|
    (Fields.field "pretrained" (PretrainedConfig.codec lax) (some .default)).and <|
    (Fields.field "training_feature" TrainingFeatureConfig.codec (some ⟨⟩)).and <|
    (Fields.field "training" (TrainingConfig.codec lax) (some .default)).and <|
    (Fields.field "f0_extraction" (F0ExtractionConfig.codec lax) (some .default)).and <|
    (Fields.field "index" (IndexConfig.codec lax) (some .default)).and <|
    (Fields.field "auto_inference_samples" (AutoInferenceSamplesConfig.codec lax)
      (some .default)).and <|
    (Fields.field "artifacts" (ArtifactCollectionConfig.codec lax) (some .default)).and <|
    Fields.field "resource" (ResourceRequirements.codec lax) (some .default)).record
      (by simp [Fields.and, Fields.field])).refine
    (fun (_, jobName, experimentId, datasetId, rvcBackend, model, pretrained, trainingFeature,
        training, f0Extraction, index, autoInferenceSamples, artifacts, resource) =>
      afterValidation
        (validateCrossFields rvcBackend model f0Extraction index autoInferenceSamples artifacts)
        fun valid =>
          ⟨jobName, experimentId, datasetId, rvcBackend, model, pretrained, trainingFeature,
            training, f0Extraction, index, autoInferenceSamples, artifacts, resource, valid⟩)
    (fun config => ((), config.jobName, config.experimentId, config.datasetId,
      config.rvcBackend, config.model, config.pretrained, config.trainingFeature,
      config.training, config.f0Extraction, config.index, config.autoInferenceSamples,
      config.artifacts, config.resource))
    JobConfig.normal (fun _ => rfl) fun config => afterValidation_eq_ok config.valid

def JobConfig.modelValidate (document : Json) : Except ValidationError JobConfig :=
  (JobConfig.codec lax).validate document

end Codecs

/-- Dumping involves no conversion, so any choice of them gives the same
document. -/
def JobConfig.modelDump (config : JobConfig) : Json :=
  (JobConfig.codec .strict).dump config

/-! ## Floats of the document -/

theorem small_of_floatIn {low high : ℚ} (nonNegative : 0 ≤ low) (bounded : high ≤ 1)
    (number : FloatIn low high) : number.1.Small := by
  rw [PyFloat.small_iff (nonNegative.trans number.2.1)]
  calc number.1.decimal ≤ high := number.2.2
    _ ≤ 1 := bounded
    _ < 10 ^ 16 := by norm_num

private theorem smallFloats_optionalStr (text : Option String) :
    (optionalStr.dump text).SmallFloats :=
  Codec.str.smallFloats_option _ (fun _ => trivial) text

private theorem smallFloats_ids (lax : Lax) (ids : List Int) :
    ((Codec.int lax).list.dump ids).SmallFloats :=
  (Codec.int lax).smallFloats_list (fun _ => trivial) ids

/-- Only the minimum VRAM can be too large for a JSONB column to return it as a
float. -/
theorem JobConfig.smallFloats_modelDump (config : JobConfig) :
    config.modelDump.SmallFloats ↔ config.resource.minVramGb.1.Small := by
  constructor
  · intro small
    -- `resource` is the last section and `min_vram_gb` its first field.
    exact small.2.2.2.2.2.2.2.2.2.2.2.2.2.1.1
  · intro small
    have lax : Lax := .strict
    have rvcBackend : (RVCBackendConfig.codec.dump config.rvcBackend).SmallFloats :=
      ⟨trivial, trivial, RVCVersion.codec.smallFloats_option _ (fun _ => trivial) _,
        smallFloats_optionalStr _, trivial⟩
    have model : ((ModelConfig.codec lax).dump config.model).SmallFloats :=
      ⟨trivial, trivial, trivial, trivial, trivial⟩
    have pretrained : ((PretrainedConfig.codec lax).dump config.pretrained).SmallFloats :=
      ⟨trivial, smallFloats_optionalStr _, smallFloats_optionalStr _, trivial, trivial⟩
    have trainingFeature :
        (TrainingFeatureConfig.codec.dump config.trainingFeature).SmallFloats :=
      ⟨trivial, trivial, trivial, trivial⟩
    have training : ((TrainingConfig.codec lax).dump config.training).SmallFloats :=
      ⟨trivial, trivial, trivial, trivial, trivial, trivial, smallFloats_ids lax _, trivial⟩
    have f0Extraction : ((F0ExtractionConfig.codec lax).dump config.f0Extraction).SmallFloats :=
      ⟨TrainingF0Method.codec.smallFloats_option _ (fun _ => trivial) _,
        (Codec.int lax).list.smallFloats_option (fun _ => by simp [Codec.list])
          (smallFloats_ids lax) _, trivial⟩
    have index : ((IndexConfig.codec lax).dump config.index).SmallFloats :=
      ⟨trivial, trivial, trivial, trivial⟩
    have autoInferenceSamples : ((AutoInferenceSamplesConfig.codec lax).dump
        config.autoInferenceSamples).SmallFloats :=
      ⟨trivial, smallFloats_optionalStr _, trivial, trivial,
        small_of_floatIn (by norm_num) (by norm_num) _, trivial, trivial,
        small_of_floatIn (by norm_num) (by norm_num) _,
        small_of_floatIn (by norm_num) (by norm_num) _, trivial⟩
    have artifacts : ((ArtifactCollectionConfig.codec lax).dump config.artifacts).SmallFloats :=
      ⟨trivial, trivial, trivial, trivial, trivial, trivial, trivial, trivial⟩
    have resource : ((ResourceRequirements.codec lax).dump config.resource).SmallFloats :=
      ⟨small, Codec.str.smallFloats_list (fun _ => trivial) _, trivial, trivial⟩
    exact ⟨trivial, trivial, trivial, trivial, rvcBackend, model, pretrained, trainingFeature,
      training, f0Extraction, index, autoInferenceSamples, artifacts, resource, trivial⟩

/-! ## The canonical text and its digest -/

/-- PostgreSQL JSONB does not preserve the sign of numeric zero, so every
floating-point zero is collapsed before hashing. -/
def normalizeJsonValue (document : Json) : Json :=
  document.mapFloats PyFloat.unsignedZero

/-- The text whose UTF-8 bytes are hashed. -/
def canonicalJobConfigText (document : Json) : String :=
  (normalizeJsonValue document).dumps

def IsSha256 (text : String) : Prop :=
  text.toList.length = 64 ∧
    ∀ char ∈ text.toList, char.isDigit = true ∨ 'a' ≤ char ∧ char ≤ 'f'

instance (text : String) : Decidable (IsSha256 text) :=
  letI : Decidable (∀ char ∈ text.toList, char.isDigit = true ∨ 'a' ≤ char ∧ char ≤ 'f') :=
    List.decidableBAll _ text.toList
  inferInstanceAs (Decidable (_ ∧ _))

/-- SHA-256 of the UTF-8 bytes of a text, in hexadecimal. -/
structure Sha256 where
  digest : String → String
  wellFormed : ∀ text, IsSha256 (digest text)

def jobConfigSha256 (sha256 : Sha256) (document : Json) : String :=
  sha256.digest (canonicalJobConfigText document)

/-- Two documents are the same up to the order of keys and the sign of zeros. -/
def SameDocument (left right : Json) : Prop :=
  (normalizeJsonValue left).sortKeys = (normalizeJsonValue right).sortKeys

theorem canonicalJobConfigText_eq_iff {left right : Json} :
    canonicalJobConfigText left = canonicalJobConfigText right ↔ SameDocument left right :=
  Json.dumps_eq_iff

/-- The same documents have the same fields. -/
theorem SameDocument.field {left right : List (String × Json)}
    (same : SameDocument (.object left) (.object right))
    (nodup : (right.map Prod.fst).Nodup) {key : String} {leftValue rightValue : Json}
    (leftMember : (key, leftValue) ∈ left) (rightMember : (key, rightValue) ∈ right) :
    SameDocument leftValue rightValue := by
  unfold SameDocument normalizeJsonValue at same ⊢
  simp only [Json.mapFloats, Json.mapFloatsFields_eq_map] at same
  refine Json.sortKeys_field_eq ?_ same
    (List.mem_map.mpr ⟨(key, leftValue), leftMember, rfl⟩)
    (List.mem_map.mpr ⟨(key, rightValue), rightMember, rfl⟩)
  simpa [List.map_map, Function.comp_def] using nodup

/-- A stored configuration validates again, to an equal configuration. -/
theorem JobConfig.modelValidate_readBack (lax : Lax) {config : JobConfig} {document : Json}
    (small : config.resource.minVramGb.1.Small)
    (readBack : Json.ReadBack config.modelDump document) :
    JobConfig.modelValidate lax document = .ok config.normal :=
  (JobConfig.codec lax).readBack (config.smallFloats_modelDump.mpr small) readBack

theorem JobConfig.sameDocument_readBack {config : JobConfig} {document : Json}
    (small : config.resource.minVramGb.1.Small)
    (readBack : Json.ReadBack config.modelDump document) :
    SameDocument config.modelDump document :=
  Json.sortKeys_readBack ((JobConfig.codec _).keysNodup config)
    (config.smallFloats_modelDump.mpr small) readBack

/-- A field of a record and the same field of its stored copy. -/
private theorem SameDocument.copyField {fields : List (String × Json)}
    (same : SameDocument (.object fields) (Json.copy (.object fields)))
    (nodup : (fields.map Prod.fst).Nodup) {key : String} {value : Json}
    (member : (key, value) ∈ fields) : SameDocument value value.copy :=
  same.field (Json.readBackFields_keys (Json.readBackFields_copy fields) ▸ nodup) member
    (Json.copyFields_mem member)

/-- A huge VRAM bound comes back as an integer, and the document is another. -/
theorem JobConfig.not_sameDocument_copy {config : JobConfig}
    (large : ¬config.resource.minVramGb.1.Small) :
    ¬SameDocument config.modelDump config.modelDump.copy := by
  intro same
  have resource : SameDocument ((ResourceRequirements.codec .strict).dump config.resource)
      ((ResourceRequirements.codec .strict).dump config.resource).copy :=
    SameDocument.copyField same ((JobConfig.codec .strict).keysNodup config).1
      (List.mem_of_getLast? rfl)
  have minVramGb : SameDocument (.float config.resource.minVramGb.1)
      (Json.float config.resource.minVramGb.1).copy :=
    SameDocument.copyField resource
      ((ResourceRequirements.codec .strict).keysNodup config.resource).1 List.mem_cons_self
  unfold SameDocument normalizeJsonValue at minVramGb
  rw [Json.copy, PyFloat.readBack, if_pos (not_le.mp large)] at minVramGb
  simp [Json.mapFloats, Json.sortKeys] at minVramGb

theorem JobConfig.sameDocument_normal (config : JobConfig) :
    SameDocument config.normal.modelDump config.modelDump :=
  congrArg Json.sortKeys ((JobConfig.codec _).dump_normal config)

end RvcOrchestrator.Contracts

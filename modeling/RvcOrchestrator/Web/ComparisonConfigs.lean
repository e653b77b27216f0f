import RvcOrchestrator.Web.PublicValues

/-! # Job configurations that a comparison shows

The web server checks the configuration of every Job that it shows in a comparison, field by
field. Some of its bounds are those of the contract, and some are narrower.
-/

namespace RvcOrchestrator.Web

open RvcOrchestrator.Foundation RvcOrchestrator.Contracts
open RvcOrchestrator.Foundation.JsNumber (maxSafeInteger)

/-! ## Sections -/

structure ConfigSections where
  backend : Json
  model : Json
  pretrained : Json
  feature : Json
  training : Json
  f0 : Json
  index : Json
  samples : Json
  artifacts : Json
  resource : Json

def configKeys : List String :=
  ["schema_version", "job_name", "experiment_id", "dataset_id", "rvc_backend", "model",
    "pretrained", "training_feature", "training", "f0_extraction", "index",
    "auto_inference_samples", "artifacts", "resource"]

def artifactKeys : List String :=
  ["collect_checkpoints", "collect_small_model", "extract_small_model_if_missing",
    "collect_index", "collect_tensorboard", "collect_logs", "collect_samples"]

def configSections (value : Json) : Option ConfigSections := do
  let backend ← exactRecord (property value "rvc_backend")
    ["backend_type", "repository", "rvc_version", "rvc_commit_hash"]
  let model ← exactRecord (property value "model")
    ["version", "sample_rate", "use_f0", "speaker_id"]
  let pretrained ← exactRecord (property value "pretrained")
    ["mode", "g_path", "d_path", "allow_custom_override"]
  let feature ← exactRecord (property value "training_feature")
    ["feature_dir_policy", "v1_feature_dir", "v2_feature_dir"]
  let training ← exactRecord (property value "training")
    ["epochs", "batch_size_per_gpu", "save_every_epoch", "save_only_latest",
      "save_every_weights", "cache_dataset_in_gpu", "gpu_ids"]
  let f0 ← exactRecord (property value "f0_extraction") ["training_f0_method", "rmvpe_gpu_ids"]
  let index ← exactRecord (property value "index")
    ["build_index", "collect_total_fea", "collect_added_index"]
  let samples ← exactRecord (property value "auto_inference_samples")
    ["enabled", "test_set_id", "inference_f0_method", "transpose", "index_rate",
      "filter_radius", "resample_sr", "rms_mix_rate", "protect"]
  let artifacts ← exactRecord (property value "artifacts") artifactKeys
  let resource ← exactRecord (property value "resource")
    ["min_vram_gb", "preferred_worker_tags", "priority"]
  return ⟨backend, model, pretrained, feature, training, f0, index, samples, artifacts, resource⟩

def versions : List String := ["v1", "v2"]

def rates : List String := ["40k", "48k"]

def f0Methods : List String := ["pm", "harvest", "dio", "rmvpe", "rmvpe_gpu"]

def inferenceF0Methods : List String := ["pm", "harvest", "crepe", "rmvpe"]

def isOneOf (value : Unknown) (texts : List String) : Bool :=
  (textOf value).any fun text => decide (text ∈ texts)

/-! ## The checks, section by section -/

/-- `/^[a-f0-9]{7,64}$/` -/
def commitHashPattern (text : String) : Bool :=
  7 ≤ text.toList.length && text.toList.length ≤ 64 && text.toList.all isHexDigit

def comparisonBackend (backend model : Json) : Bool :=
  let backendVersion := property backend "rvc_version"
  let commitHash := property backend "rvc_commit_hash"
  property backend "backend_type" = some (.str "rvc_webui") &&
    (textOf (property backend "repository")).any (safePublicString · 512) &&
    (backendVersion = some .null || isOneOf backendVersion versions) &&
    (commitHash = some .null || (textOf commitHash).any commitHashPattern) &&
    isOneOf (property model "version") versions &&
    (backendVersion = some .null || backendVersion = property model "version") &&
    isOneOf (property model "sample_rate") rates &&
    isBoolean (property model "use_f0") &&
    integerInRange (property model "speaker_id") 0 1000000

def comparisonPretrained (pretrained feature : Json) : Bool :=
  let mode := property pretrained "mode"
  let gPath := nullableSafeRelativePath (property pretrained "g_path")
  let dPath := nullableSafeRelativePath (property pretrained "d_path")
  (mode = some (.str "auto") || mode = some (.str "custom")) && gPath.isSome && dPath.isSome &&
    !(mode = some (.str "custom") && (gPath = some none || dPath = some none)) &&
    isBoolean (property pretrained "allow_custom_override") &&
    property feature "feature_dir_policy" = some (.str "auto") &&
    property feature "v1_feature_dir" = some (.str "3_feature256") &&
    property feature "v2_feature_dir" = some (.str "3_feature768")

def comparisonTraining (training : Json) : Bool :=
  integerInRange (property training "epochs") 1 100000 &&
    integerInRange (property training "batch_size_per_gpu") 1 1024 &&
    integerInRange (property training "save_every_epoch") 1 2147483647 &&
    booleanFields training ["save_only_latest", "save_every_weights", "cache_dataset_in_gpu"] &&
    (integerArray (property training "gpu_ids") 1 64 0 63).isSome

def comparisonF0 (model f0 index : Json) : Bool :=
  let useF0 := property model "use_f0"
  let method := property f0 "training_f0_method"
  let given := property f0 "rmvpe_gpu_ids"
  let rmvpeGpuIds := if given = some .null then none else integerArray given 1 64 0 63
  (method = some .null || isOneOf method f0Methods) &&
    !(useF0 = some (.bool true) && method = some .null) &&
    !(useF0 = some (.bool false) && (method ≠ some .null || rmvpeGpuIds.isSome)) &&
    !(method = some (.str "rmvpe_gpu") && !rmvpeGpuIds.isSome) &&
    !(method ≠ some (.str "rmvpe_gpu") && rmvpeGpuIds.isSome) &&
    booleanFields index ["build_index", "collect_total_fea", "collect_added_index"]

def comparisonSamples (index samples artifacts : Json) : Bool :=
  let enabled := property samples "enabled" = some (.bool true)
  let given := property samples "test_set_id"
  let testSetId := if given = some .null then none else safeIdentifier given
  let indexRate := numberOf (property samples "index_rate")
  let usesIndex := indexRate.any fun rate =>
    match rate with
    | .finite rate => decide (0 < rate)
    | .notFinite => false
  isBoolean (property samples "enabled") && testSetId.isNone = decide (given = some .null) &&
    !(enabled && testSetId.isNone) && !(!enabled && given ≠ some .null) &&
    isOneOf (property samples "inference_f0_method") inferenceF0Methods &&
    integerInRange (property samples "transpose") (-48) 48 &&
    numberInRange (property samples "index_rate") 0 1 &&
    integerInRange (property samples "filter_radius") 0 7 &&
    validInferenceResampleRate (property samples "resample_sr") &&
    numberInRange (property samples "rms_mix_rate") 0 1 &&
    numberInRange (property samples "protect") 0 (1 / 2) &&
    booleanFields artifacts artifactKeys &&
    !(enabled && property artifacts "collect_samples" ≠ some (.bool true)) &&
    !(enabled && property artifacts "collect_small_model" ≠ some (.bool true)) &&
    !(enabled && property index "build_index" = some (.bool false) &&
      indexRate ≠ some (.finite 0)) &&
    !(enabled && usesIndex && property artifacts "collect_index" ≠ some (.bool true)) &&
    !(enabled && usesIndex && property index "collect_added_index" ≠ some (.bool true))

def comparisonResource (resource : Json) : Bool :=
  numberInRange (property resource "min_vram_gb") 0 1024 &&
    integerInRange (property resource "priority") 0 10 &&
    (stringArray (property resource "preferred_worker_tags") 64 128).any fun tags =>
      tags.all fun tag => trim tag = tag

def publicComparisonJobConfig (value : Unknown) : Option Json := do
  let document ← value
  if !hasExactKeys value configKeys || property document "schema_version" ≠ some (.str "1.0") ||
      (safeIdentifier (property document "job_name")).isNone ||
      (canonicalUuid (property document "experiment_id")).isNone ||
      (canonicalUuid (property document "dataset_id")).isNone then none
  else
    let sections ← configSections document
    if comparisonBackend sections.backend sections.model &&
        comparisonPretrained sections.pretrained sections.feature &&
        comparisonTraining sections.training &&
        comparisonF0 sections.model sections.f0 sections.index &&
        comparisonSamples sections.index sections.samples sections.artifacts &&
        comparisonResource sections.resource then some document
    else none

/-! ## Which configurations pass -/

/-- The bounds that are narrower than those of the contract. -/
structure ConfigShown (config : JobConfig) : Prop where
  experimentId : canonicalUuidPattern config.experimentId.1 = true
  datasetId : canonicalUuidPattern config.datasetId.1 = true
  repository : safePublicString config.rvcBackend.repository 512 = true
  rvcCommitHash : ∀ hash, config.rvcBackend.rvcCommitHash = some hash →
    commitHashPattern hash = true
  speakerId : config.model.speakerId.1 ≤ 1000000
  gPath : ∀ path, config.pretrained.gPath = some path →
    (nullableSafeRelativePath (some (.str path))).isSome = true
  dPath : ∀ path, config.pretrained.dPath = some path →
    (nullableSafeRelativePath (some (.str path))).isSome = true
  saveEveryEpoch : config.training.saveEveryEpoch.1 ≤ 2147483647
  gpuIds : config.training.gpuIds.1.length ≤ 64 ∧ ∀ id ∈ config.training.gpuIds.1, id ≤ 63
  rmvpeGpuIds : ∀ ids, config.f0Extraction.rmvpeGpuIds = some ids →
    ids.length ≤ 64 ∧ (∀ id ∈ ids, id ≤ 63) ∧ ids.Nodup
  testSetId : ∀ id, config.autoInferenceSamples.testSetId = some id → IsSafeName id
  minVramGb : config.resource.minVramGb.1.decimal ≤ 1024
  workerTags : ∀ tag ∈ config.resource.preferredWorkerTags.1,
    safePublicString tag 128 = true ∧ trim tag = tag

/-! ## The sections as they are dumped -/

theorem configSections_modelDump (config : JobConfig) :
    configSections config.modelDump = some
      ⟨RVCBackendConfig.codec.dump config.rvcBackend,
        (ModelConfig.codec .strict).dump config.model,
        (PretrainedConfig.codec .strict).dump config.pretrained,
        TrainingFeatureConfig.codec.dump config.trainingFeature,
        (TrainingConfig.codec .strict).dump config.training,
        (F0ExtractionConfig.codec .strict).dump config.f0Extraction,
        (IndexConfig.codec .strict).dump config.index,
        (AutoInferenceSamplesConfig.codec .strict).dump config.autoInferenceSamples,
        (ArtifactCollectionConfig.codec .strict).dump config.artifacts,
        (ResourceRequirements.codec .strict).dump config.resource⟩ := rfl

theorem isOneOf_version (version : RVCVersion) :
    isOneOf (some (.str version.value)) versions = true := by
  cases version <;> rfl

theorem isOneOf_rate (rate : SampleRate) : isOneOf (some (.str rate.value)) rates = true := by
  cases rate <;> rfl

theorem isOneOf_f0Method (method : TrainingF0Method) :
    isOneOf (some (.str method.value)) f0Methods = true := by
  cases method <;> rfl

theorem isOneOf_inferenceF0Method (method : InferenceF0Method) :
    isOneOf (some (.str method.value)) inferenceF0Methods = true := by
  cases method <;> rfl

theorem dump_backend (backend : RVCBackendConfig) :
    RVCBackendConfig.codec.dump backend = .object
      [("backend_type", .str "rvc_webui"), ("repository", .str backend.repository),
        ("rvc_version", orNull (fun version => .str (RVCVersion.value version)) backend.rvcVersion),
        ("rvc_commit_hash", orNull .str backend.rvcCommitHash)] := by
  rcases backend with ⟨repository, _ | version, _ | hash⟩ <;> rfl

theorem dump_model (model : ModelConfig) :
    (ModelConfig.codec .strict).dump model = .object
      [("version", .str model.version.value), ("sample_rate", .str model.sampleRate.value),
        ("use_f0", .bool model.useF0), ("speaker_id", .int model.speakerId.1)] := rfl

theorem dump_pretrained (pretrained : PretrainedConfig) :
    (PretrainedConfig.codec .strict).dump pretrained = .object
      [("mode", .str pretrained.mode.value), ("g_path", orNull .str pretrained.gPath),
        ("d_path", orNull .str pretrained.dPath),
        ("allow_custom_override", .bool pretrained.allowCustomOverride)] := by
  rcases pretrained with ⟨mode, _ | gPath, _ | dPath, override, valid⟩ <;> rfl

theorem dump_feature (feature : TrainingFeatureConfig) :
    TrainingFeatureConfig.codec.dump feature = .object
      [("feature_dir_policy", .str "auto"), ("v1_feature_dir", .str "3_feature256"),
        ("v2_feature_dir", .str "3_feature768")] := rfl

theorem dump_training (training : TrainingConfig) :
    (TrainingConfig.codec .strict).dump training = .object
      [("epochs", .int training.epochs.1), ("batch_size_per_gpu", .int training.batchSizePerGpu.1),
        ("save_every_epoch", .int training.saveEveryEpoch.1),
        ("save_only_latest", .bool training.saveOnlyLatest),
        ("save_every_weights", .bool training.saveEveryWeights),
        ("cache_dataset_in_gpu", .bool training.cacheDatasetInGpu),
        ("gpu_ids", .array (training.gpuIds.1.map .int))] := rfl

theorem dump_f0 (f0 : F0ExtractionConfig) :
    (F0ExtractionConfig.codec .strict).dump f0 = .object
      [("training_f0_method",
          orNull (fun method => .str (TrainingF0Method.value method)) f0.trainingF0Method),
        ("rmvpe_gpu_ids", orNull (fun ids => .array (ids.map .int)) f0.rmvpeGpuIds)] := by
  rcases f0 with ⟨_ | method, _ | ids, valid⟩ <;> rfl

theorem dump_index (index : IndexConfig) :
    (IndexConfig.codec .strict).dump index = .object
      [("build_index", .bool index.buildIndex), ("collect_total_fea", .bool index.collectTotalFea),
        ("collect_added_index", .bool index.collectAddedIndex)] := rfl

theorem dump_samples (samples : AutoInferenceSamplesConfig) :
    (AutoInferenceSamplesConfig.codec .strict).dump samples = .object
      [("enabled", .bool samples.enabled), ("test_set_id", orNull .str samples.testSetId),
        ("inference_f0_method", .str samples.inferenceF0Method.value),
        ("transpose", .int samples.transpose.1), ("index_rate", .float samples.indexRate.1),
        ("filter_radius", .int samples.filterRadius.1), ("resample_sr", .int samples.resampleSr.1),
        ("rms_mix_rate", .float samples.rmsMixRate.1), ("protect", .float samples.protect.1)] := by
  rcases samples with ⟨enabled, _ | testSetId, method, transpose, rate, radius, resample, rms,
    protect, valid⟩ <;> rfl

theorem dump_artifacts (artifacts : ArtifactCollectionConfig) :
    (ArtifactCollectionConfig.codec .strict).dump artifacts = .object
      [("collect_checkpoints", .bool artifacts.collectCheckpoints),
        ("collect_small_model", .bool artifacts.collectSmallModel),
        ("extract_small_model_if_missing", .bool artifacts.extractSmallModelIfMissing),
        ("collect_index", .bool artifacts.collectIndex),
        ("collect_tensorboard", .bool artifacts.collectTensorboard),
        ("collect_logs", .bool artifacts.collectLogs),
        ("collect_samples", .bool artifacts.collectSamples)] := rfl

theorem dump_resource (resource : ResourceRequirements) :
    (ResourceRequirements.codec .strict).dump resource = .object
      [("min_vram_gb", .float resource.minVramGb.1),
        ("preferred_worker_tags", .array (resource.preferredWorkerTags.1.map .str)),
        ("priority", .int resource.priority.1)] := rfl

/-! ## Which sections pass -/

theorem comparisonBackend_dump {backend : RVCBackendConfig} {model : ModelConfig}
    (agree : ∀ version, backend.rvcVersion = some version → version = model.version) :
    comparisonBackend (RVCBackendConfig.codec.dump backend)
        ((ModelConfig.codec .strict).dump model) = true ↔
      safePublicString backend.repository 512 = true ∧
        (∀ hash, backend.rvcCommitHash = some hash → commitHashPattern hash = true) ∧
        model.speakerId.1 ≤ 1000000 := by
  have speaker : integerInRange (some (.int model.speakerId.1)) 0 1000000 = true ↔
      model.speakerId.1 ≤ 1000000 := by
    rw [integerInRange_int (by decide) (by decide)]
    exact and_iff_right model.speakerId.2
  have version : orNull (fun version => .str (RVCVersion.value version)) backend.rvcVersion =
      .null ∨ isOneOf (some (orNull (fun version => .str (RVCVersion.value version))
        backend.rvcVersion)) versions = true := by
    cases backend.rvcVersion with
    | none => exact .inl rfl
    | some version => exact .inr (isOneOf_version version)
  have agrees : orNull (fun version => .str (RVCVersion.value version)) backend.rvcVersion =
      .null ∨ orNull (fun version => .str (RVCVersion.value version)) backend.rvcVersion =
        .str model.version.value := by
    rcases given : backend.rvcVersion with _ | version
    · exact .inl rfl
    · exact .inr (congrArg _ (congrArg _ (agree version given)))
  have hash : (orNull .str backend.rvcCommitHash = Json.null ∨
      (textOf (some (orNull .str backend.rvcCommitHash))).any commitHashPattern = true) ↔
        ∀ hash, backend.rvcCommitHash = some hash → commitHashPattern hash = true := by
    cases backend.rvcCommitHash with
    | none => simp [orNull]
    | some hash => simp [orNull, textOf]
  rw [dump_backend, dump_model]
  simp only [comparisonBackend, property_cons, if_true, String.reduceEq, if_false,
    Bool.and_eq_true, Bool.or_eq_true, decide_eq_true_eq, Option.some.injEq, true_and, version,
    agrees, hash, speaker, isOneOf_version, isOneOf_rate, isBoolean, and_true, and_assoc]
  rfl

theorem comparisonPretrained_dump (pretrained : PretrainedConfig)
    (feature : TrainingFeatureConfig) :
    comparisonPretrained ((PretrainedConfig.codec .strict).dump pretrained)
        (TrainingFeatureConfig.codec.dump feature) = true ↔
      (∀ path, pretrained.gPath = some path →
          (nullableSafeRelativePath (some (.str path))).isSome = true) ∧
        ∀ path, pretrained.dPath = some path →
          (nullableSafeRelativePath (some (.str path))).isSome = true := by
  have safe (path : Option String) :
      (nullableSafeRelativePath (some (orNull .str path))).isSome = true ↔
        ∀ text, path = some text → (nullableSafeRelativePath (some (.str text))).isSome = true := by
    cases path with
    | none => simp [orNull, nullableSafeRelativePath]
    | some text => simp [orNull]
  have given {path : Option String} (some_ : truthy path = true) :
      nullableSafeRelativePath (some (orNull .str path)) ≠ some none := by
    cases path with
    | none => cases some_
    | some text =>
        simp only [orNull, Option.elim_some, nullableSafeRelativePath]
        split
        · exact (Option.some_ne_none none).symm
        · split
          · exact (Option.some_ne_none none).symm
          · intro same
            cases same
  have mode : pretrained.mode.value = "auto" ∨ pretrained.mode.value = "custom" := by
    cases pretrained.mode
    · exact .inl rfl
    · exact .inr rfl
  have both : ¬(pretrained.mode.value = "custom" ∧
      (nullableSafeRelativePath (some (orNull .str pretrained.gPath)) = some none ∨
        nullableSafeRelativePath (some (orNull .str pretrained.dPath)) = some none)) := by
    rintro ⟨isCustom, missing⟩
    have custom : pretrained.mode = .custom := by
      rcases isMode : pretrained.mode
      · rw [isMode] at isCustom
        exact absurd isCustom (by decide)
      · rfl
    have valid := pretrained.valid
    simp only [validateCustomPaths, custom, true_and] at valid
    split at valid
    · cases valid
    · next paths =>
        rw [not_or, Bool.not_eq_false, Bool.not_eq_false] at paths
        exact missing.elim (given paths.1) (given paths.2)
  rw [dump_pretrained, dump_feature]
  simp only [comparisonPretrained, property_cons, if_true, String.reduceEq, if_false,
    Bool.and_eq_true, Bool.or_eq_true, Bool.not_eq_true', decide_eq_true_eq, Option.some.injEq,
    Json.str.injEq, mode, safe, isBoolean, and_true, true_and]
  rw [and_iff_left]
  rw [← Bool.not_eq_true]
  simpa only [Bool.and_eq_true, Bool.or_eq_true, decide_eq_true_eq] using both

theorem comparisonTraining_dump (training : TrainingConfig) :
    comparisonTraining ((TrainingConfig.codec .strict).dump training) = true ↔
      training.saveEveryEpoch.1 ≤ 2147483647 ∧
        training.gpuIds.1.length ≤ 64 ∧ ∀ id ∈ training.gpuIds.1, id ≤ 63 := by
  have epochs : integerInRange (some (.int training.epochs.1)) 1 100000 = true :=
    (integerInRange_int (by decide) (by decide)).mpr training.epochs.2
  have batch : integerInRange (some (.int training.batchSizePerGpu.1)) 1 1024 = true :=
    (integerInRange_int (by decide) (by decide)).mpr training.batchSizePerGpu.2
  have save : integerInRange (some (.int training.saveEveryEpoch.1)) 1 2147483647 = true ↔
      training.saveEveryEpoch.1 ≤ 2147483647 := by
    rw [integerInRange_int (by decide) (by decide)]
    exact and_iff_right training.saveEveryEpoch.2
  have gpus : (integerArray (some (.array (training.gpuIds.1.map .int))) 1 64 0 63).isSome =
      true ↔ training.gpuIds.1.length ≤ 64 ∧ ∀ id ∈ training.gpuIds.1, id ≤ 63 := by
    rcases training.gpuIds with ⟨ids, some_, valid⟩
    unfold validateGpuIds at valid
    split at valid
    · cases valid
    · next natural =>
        split at valid
        · cases valid
        · next distinct =>
            rw [integerArray_ints (by decide) (by decide), Option.isSome_ite]
            have nonNegative : ∀ id ∈ ids, 0 ≤ id := by
              intro id member
              by_contra negative
              exact natural (List.any_eq_true.mpr ⟨id, member, decide_eq_true (not_le.mp negative)⟩)
            have length : 1 ≤ ids.length := List.length_pos_iff.mpr some_
            constructor
            · rintro ⟨⟨-, short⟩, inside, -⟩
              exact ⟨short, fun id member => (inside id member).2⟩
            · rintro ⟨short, below⟩
              exact ⟨⟨length, short⟩, fun id member => ⟨nonNegative id member, below id member⟩,
                Decidable.not_not.mp distinct⟩
  rw [dump_training]
  simp only [comparisonTraining, property_cons, if_true, String.reduceEq, if_false,
    Bool.and_eq_true, booleanFields, List.all_cons, List.all_nil, isBoolean, epochs, batch, save,
    gpus, and_true, true_and]

/-- The identifiers as the web server has parsed them. -/
theorem rmvpeGpuIds_isSome {gpuIds : Option (List Int)} :
    (if orNull (fun ids => Json.array (ids.map .int)) gpuIds = .null then none
      else integerArray (some (orNull (fun ids => .array (ids.map .int)) gpuIds))
        1 64 0 63).isSome = true ↔
      ∃ ids, gpuIds = some ids ∧ (1 ≤ ids.length ∧ ids.length ≤ 64) ∧
        (∀ id ∈ ids, 0 ≤ id ∧ id ≤ 63) ∧ ids.Nodup := by
  cases gpuIds with
  | none => simp [orNull]
  | some ids =>
      rw [orNull, Option.elim_some, if_neg (by simp), integerArray_ints (by decide) (by decide),
        Option.isSome_ite]
      simp

theorem validateRmvpeGpuIds_eq_ok {method : Option TrainingF0Method}
    {gpuIds : Option (List Int)} (valid : validateRmvpeGpuIds method gpuIds = .ok ()) :
    (method = some .rmvpeGpu → ∃ ids, gpuIds = some ids ∧ 1 ≤ ids.length ∧ ∀ id ∈ ids, 0 ≤ id) ∧
      (method ≠ some .rmvpeGpu → ∀ ids, gpuIds = some ids → ids = []) := by
  unfold validateRmvpeGpuIds at valid
  split at valid
  · cases valid
  · next needed =>
      split at valid
      · cases valid
      · next allowed =>
          split at valid
          · cases valid
          · next natural =>
              constructor
              · intro isGpu
                rcases gpuIds with _ | ids
                · exact absurd ⟨isGpu, rfl⟩ needed
                · refine ⟨ids, rfl, ?_, ?_⟩
                  · rcases ids with _ | ⟨id, rest⟩
                    · exact absurd ⟨isGpu, rfl⟩ needed
                    · exact Nat.succ_pos _
                  · intro id member
                    by_contra negative
                    exact natural (List.any_eq_true.mpr
                      ⟨id, member, decide_eq_true (not_le.mp negative)⟩)
              · rintro notGpu ids rfl
                by_contra some_
                exact allowed ⟨notGpu, decide_eq_true some_⟩

theorem comparisonF0_dump {model : ModelConfig} {f0 : F0ExtractionConfig} {index : IndexConfig}
    (used : model.useF0 = true → f0.trainingF0Method ≠ none)
    (unused : model.useF0 = false → f0.trainingF0Method = none) :
    comparisonF0 ((ModelConfig.codec .strict).dump model)
        ((F0ExtractionConfig.codec .strict).dump f0) ((IndexConfig.codec .strict).dump index) =
        true ↔
      ∀ ids, f0.rmvpeGpuIds = some ids → ids.length ≤ 64 ∧ (∀ id ∈ ids, id ≤ 63) ∧ ids.Nodup := by
  rcases f0 with ⟨method, gpuIds, valid⟩
  rcases validateRmvpeGpuIds_eq_ok valid with ⟨needed, allowed⟩
  have known : method = none ∨
      isOneOf (some (orNull (fun method => Json.str (TrainingF0Method.value method)) method))
        f0Methods = true := by
    cases method with
    | none => exact .inl rfl
    | some method => exact .inr (isOneOf_f0Method method)
  have absent : orNull (fun method => Json.str (TrainingF0Method.value method)) method = .null ↔
      method = none := by
    cases method <;> simp [orNull]
  have isGpu : orNull (fun method => Json.str (TrainingF0Method.value method)) method =
      .str "rmvpe_gpu" ↔ method = some .rmvpeGpu := by
    rcases method with _ | method
    · simp [orNull]
    · cases method <;> simp [orNull, TrainingF0Method.value]
  rw [dump_model, dump_f0, dump_index]
  have parsed := @rmvpeGpuIds_isSome gpuIds
  simp only [comparisonF0, property_cons, if_true, String.reduceEq, if_false, Bool.and_eq_true,
    Bool.or_eq_true, Bool.not_eq_true', ← Bool.not_eq_true, decide_eq_true_eq, booleanFields,
    List.all_cons, List.all_nil, isBoolean, and_true, ne_eq, Option.some.injEq, Json.bool.injEq,
    known, absent, isGpu, true_and, parsed]
  by_cases gpu : method = some .rmvpeGpu
  · rcases needed gpu with ⟨ids, rfl, some_, natural⟩
    constructor
    · intro accepted other same
      have fits := Decidable.not_not.mp fun none => accepted.1.2 ⟨gpu, none⟩
      rcases fits with ⟨_, found, ⟨-, short⟩, inside, distinct⟩
      cases found
      cases same
      exact ⟨short, fun id member => (inside id member).2, distinct⟩
    · intro all
      rcases all ids rfl with ⟨short, below, distinct⟩
      have notNone : method ≠ none := fun none => by cases none.symm.trans gpu
      refine ⟨⟨⟨fun both => notNone both.2, fun both =>
        notNone (unused (Bool.eq_false_of_not_eq_true both.1))⟩, ?_⟩, fun both => both.1 gpu⟩
      rintro ⟨-, none⟩
      exact none ⟨ids, rfl, ⟨some_, short⟩, fun id member => ⟨natural id member, below id member⟩,
        distinct⟩
  · have never : ¬∃ ids, gpuIds = some ids ∧ (1 ≤ ids.length ∧ ids.length ≤ 64) ∧
        (∀ id ∈ ids, 0 ≤ id ∧ id ≤ 63) ∧ ids.Nodup := by
      rintro ⟨ids, same, ⟨some_, -⟩, -⟩
      rw [allowed gpu ids same] at some_
      cases some_
    constructor
    · intro _ ids same
      rw [allowed gpu ids same]
      exact ⟨Nat.zero_le _, List.forall_mem_nil _, List.nodup_nil⟩
    · intro _
      refine ⟨⟨⟨fun both => used both.1 both.2, ?_⟩, fun both => gpu both.1⟩,
        fun both => never both.2⟩
      rintro ⟨isUnused, some_ | parsed⟩
      · exact some_ (unused (Bool.eq_false_of_not_eq_true isUnused))
      · exact never parsed

/-- The test set's identifier as the web server has parsed it. -/
theorem testSetId_parsed (testSetId : Option String) :
    (if testSetId = none then none else safeIdentifier (some (orNull .str testSetId))) =
      testSetId.filter fun text => IsSafeName text := by
  cases testSetId with
  | none => rfl
  | some id =>
      rw [if_neg (Option.some_ne_none id)]
      rfl

theorem validateTestSet_eq_ok {enabled : Bool} {testSetId : Option String}
    (valid : validateTestSet enabled testSetId = .ok ()) :
    testSetId.isSome = enabled := by
  unfold validateTestSet at valid
  split at valid
  · cases valid
  · next given =>
      split at valid
      · cases valid
      · next absent =>
          rcases enabled with _ | _
          · rcases testSetId with _ | id
            · rfl
            · exact absurd ⟨rfl, Option.some_ne_none id⟩ absent
          · rcases testSetId with _ | id
            · exact absurd ⟨rfl, rfl⟩ given
            · rfl

theorem comparisonSamples_dump {index : IndexConfig} {samples : AutoInferenceSamplesConfig}
    {artifacts : ArtifactCollectionConfig}
    (withoutIndex : samples.enabled = true → index.buildIndex = false →
      samples.indexRate.1.decimal = 0)
    (collectSamples : samples.enabled = true → artifacts.collectSamples = true)
    (collectSmallModel : samples.enabled = true → artifacts.collectSmallModel = true)
    (collectIndex : samples.enabled = true → 0 < samples.indexRate.1.decimal →
      artifacts.collectIndex = true)
    (collectAddedIndex : samples.enabled = true → 0 < samples.indexRate.1.decimal →
      index.collectAddedIndex = true) :
    comparisonSamples ((IndexConfig.codec .strict).dump index)
        ((AutoInferenceSamplesConfig.codec .strict).dump samples)
        ((ArtifactCollectionConfig.codec .strict).dump artifacts) = true ↔
      ∀ id, samples.testSetId = some id → IsSafeName id := by
  have transpose : integerInRange (some (.int samples.transpose.1)) (-48) 48 = true :=
    (integerInRange_int (by decide) (by decide)).mpr samples.transpose.2
  have radius : integerInRange (some (.int samples.filterRadius.1)) 0 7 = true :=
    (integerInRange_int (by decide) (by decide)).mpr samples.filterRadius.2
  have rate : numberInRange (some (.float samples.indexRate.1)) 0 1 = true :=
    numberInRange_float.mpr samples.indexRate.2
  have mix : numberInRange (some (.float samples.rmsMixRate.1)) 0 1 = true :=
    numberInRange_float.mpr samples.rmsMixRate.2
  have protect : numberInRange (some (.float samples.protect.1)) 0 (1 / 2) = true :=
    numberInRange_float.mpr samples.protect.2
  have resample : validInferenceResampleRate (some (.int samples.resampleSr.1)) = true := by
    rw [validInferenceResampleRate, Bool.or_eq_true, integerInRange_int (by decide) (by decide),
      integerInRange_int (by decide) (by decide)]
    have given := samples.resampleSr.2
    omega
  have absent : orNull .str samples.testSetId = Json.null ↔ samples.testSetId = none := by
    cases samples.testSetId <;> simp [orNull]
  have zero : numberOf (some (.float samples.indexRate.1)) = some (.finite 0) ↔
      samples.indexRate.1.decimal = 0 := by
    simp [numberOf]
  have positive : ((numberOf (some (.float samples.indexRate.1))).any fun rate =>
      match rate with
      | .finite rate => decide (0 < rate)
      | .notFinite => false) = true ↔ 0 < samples.indexRate.1.decimal :=
    decide_eq_true_iff
  have isGiven := validateTestSet_eq_ok samples.valid
  rw [dump_index, dump_samples, dump_artifacts]
  simp only [comparisonSamples, property_cons, if_true, String.reduceEq, if_false,
    Bool.and_eq_true, Bool.not_eq_true', ← Bool.not_eq_true, decide_eq_true_eq, booleanFields,
    artifactKeys, List.all_cons, List.all_nil, isBoolean, and_true, ne_eq, Option.some.injEq,
    Json.bool.injEq, true_and, transpose, radius, rate, mix, protect, resample,
    isOneOf_inferenceF0Method, testSetId_parsed, absent, positive, zero]
  rcases given : samples.testSetId with _ | id
  · have disabled : samples.enabled ≠ true := by
      rw [← isGiven, given]
      exact Bool.false_ne_true
    simp [disabled]
  · have enabled : samples.enabled = true := by
      rw [← isGiven, given]
      rfl
    by_cases safe : IsSafeName id
    · have build : ¬(¬index.buildIndex = true ∧ ¬samples.indexRate.1.decimal = 0) := by
        rintro ⟨skipped, nonzero⟩
        exact nonzero (withoutIndex enabled (Bool.eq_false_of_not_eq_true skipped))
      have collected : 0 < samples.indexRate.1.decimal →
          artifacts.collectIndex = true ∧ index.collectAddedIndex = true :=
        fun positive => ⟨collectIndex enabled positive, collectAddedIndex enabled positive⟩
      simp only [enabled, collectSamples enabled, collectSmallModel enabled]
      simp [safe]
      grind
    · simp [enabled, safe]

theorem uniqueTags_nodup {tags stripped : List String} (valid : uniqueTags tags = .ok stripped) :
    stripped.Nodup := by
  simp only [uniqueTags] at valid
  split at valid
  · cases valid
  · split at valid
    · cases valid
    · next distinct =>
        cases valid
        exact Decidable.not_not.mp distinct

theorem comparisonResource_dump (resource : ResourceRequirements) :
    comparisonResource ((ResourceRequirements.codec .strict).dump resource) = true ↔
      resource.minVramGb.1.decimal ≤ 1024 ∧
        ∀ tag ∈ resource.preferredWorkerTags.1,
          safePublicString tag 128 = true ∧ trim tag = tag := by
  have priority : integerInRange (some (.int resource.priority.1)) 0 10 = true :=
    (integerInRange_int (by decide) (by decide)).mpr resource.priority.2
  have vram : numberInRange (some (.float resource.minVramGb.1)) 0 1024 = true ↔
      resource.minVramGb.1.decimal ≤ 1024 := by
    rw [numberInRange_float]
    exact and_iff_right resource.minVramGb.2
  have tags : ((stringArray (some (.array (resource.preferredWorkerTags.1.map .str))) 64 128).any
      fun tags => tags.all fun tag => decide (trim tag = tag)) = true ↔
        ∀ tag ∈ resource.preferredWorkerTags.1,
          safePublicString tag 128 = true ∧ trim tag = tag := by
    rcases resource.preferredWorkerTags with ⟨tags, few, valid⟩
    rw [stringArray_texts]
    have distinct := uniqueTags_nodup valid
    constructor
    · intro accepted tag member
      split at accepted
      · next fits =>
          exact ⟨fits.2.1 tag member, of_decide_eq_true (List.all_eq_true.mp accepted tag member)⟩
      · cases accepted
    · intro all
      rw [if_pos ⟨few, fun tag member => (all tag member).1, distinct⟩]
      exact List.all_eq_true.mpr fun tag member => decide_eq_true (all tag member).2
  rw [dump_resource]
  simp only [comparisonResource, property_cons, if_true, String.reduceEq, if_false,
    Bool.and_eq_true, priority, vram, tags, and_true]

/-- What the fields of a valid configuration say of each other. -/
theorem validateCrossFields_eq_ok (config : JobConfig) :
    (∀ version, config.rvcBackend.rvcVersion = some version → version = config.model.version) ∧
      (config.model.useF0 = true → config.f0Extraction.trainingF0Method ≠ none) ∧
      (config.model.useF0 = false → config.f0Extraction.trainingF0Method = none) ∧
      (config.autoInferenceSamples.enabled = true →
        (config.index.buildIndex = false →
            config.autoInferenceSamples.indexRate.1.decimal = 0) ∧
          config.artifacts.collectSamples = true ∧ config.artifacts.collectSmallModel = true ∧
          (0 < config.autoInferenceSamples.indexRate.1.decimal →
            config.artifacts.collectIndex = true ∧ config.index.collectAddedIndex = true)) := by
  have valid := config.valid
  simp only [validateCrossFields] at valid
  split_ifs at valid with versions used unused gpus withoutIndex samples model index added
  refine ⟨?_, ?_, ?_, ?_⟩
  · intro version given
    by_contra different
    refine versions ⟨by simp [given], ?_⟩
    rw [given]
    exact fun same => different (Option.some.inj same)
  · exact fun uses absent => used ⟨uses, absent⟩
  · exact fun uses => Decidable.not_not.mp fun given => unused ⟨uses, given⟩
  · intro enabled
    simp only [enabled, true_and, Bool.not_eq_false] at samples model withoutIndex index added
    refine ⟨?_, samples, model, ?_⟩
    · exact fun skipped => Decidable.not_not.mp fun nonzero => withoutIndex ⟨skipped, nonzero⟩
    · intro positive
      simp only [positive, true_and, Bool.not_eq_false] at index added
      exact ⟨index, added⟩

theorem modelDump_fields (config : JobConfig) :
    config.modelDump = .object
      [("schema_version", .str "1.0"), ("job_name", .str config.jobName.1),
        ("experiment_id", .str config.experimentId.1), ("dataset_id", .str config.datasetId.1),
        ("rvc_backend", RVCBackendConfig.codec.dump config.rvcBackend),
        ("model", (ModelConfig.codec .strict).dump config.model),
        ("pretrained", (PretrainedConfig.codec .strict).dump config.pretrained),
        ("training_feature", TrainingFeatureConfig.codec.dump config.trainingFeature),
        ("training", (TrainingConfig.codec .strict).dump config.training),
        ("f0_extraction", (F0ExtractionConfig.codec .strict).dump config.f0Extraction),
        ("index", (IndexConfig.codec .strict).dump config.index),
        ("auto_inference_samples",
          (AutoInferenceSamplesConfig.codec .strict).dump config.autoInferenceSamples),
        ("artifacts", (ArtifactCollectionConfig.codec .strict).dump config.artifacts),
        ("resource", (ResourceRequirements.codec .strict).dump config.resource)] := rfl

theorem canonicalUuid_isNone (text : String) :
    (canonicalUuid (some (.str text))).isNone = true ↔ ¬canonicalUuidPattern text = true := by
  rw [canonicalUuid, textOf, Option.filter_some]
  split
  · next canonical => simp [canonical]
  · next other => simp [other]

/-- The web server shows a configuration, as it is, if and only if it lies within the narrower
bounds. -/
theorem publicComparisonJobConfig_eq_some_iff {config : JobConfig} {document : Json} :
    publicComparisonJobConfig (some config.modelDump) = some document ↔
      config.modelDump = document ∧ ConfigShown config := by
  rcases validateCrossFields_eq_ok config with ⟨versions, used, unused, sampled⟩
  have jobName : safeIdentifier (some (.str config.jobName.1)) = some config.jobName.1 :=
    Option.filter_eq_some_iff.mpr ⟨rfl, decide_eq_true config.jobName.2⟩
  have keys : hasExactKeys (some config.modelDump) configKeys = true := by
    rw [modelDump_fields]
    simp [hasExactKeys, configKeys]
  have version : property config.modelDump "schema_version" = some (.str "1.0") := rfl
  have name : property config.modelDump "job_name" = some (.str config.jobName.1) := rfl
  have experiment : property config.modelDump "experiment_id" =
    some (.str config.experimentId.1) := rfl
  have dataset : property config.modelDump "dataset_id" = some (.str config.datasetId.1) := rfl
  unfold publicComparisonJobConfig
  simp only [Option.bind_eq_bind, Option.bind_some, keys, version, name, experiment, dataset,
    jobName, configSections_modelDump, comparisonBackend_dump versions,
    comparisonPretrained_dump, comparisonTraining_dump, comparisonF0_dump used unused,
    comparisonResource_dump, Bool.and_eq_true, Bool.or_eq_true, canonicalUuid_isNone,
    Bool.not_true, Bool.false_eq_true, ne_eq, not_true_eq_false, decide_false, Option.isNone_some,
    false_or,
    comparisonSamples_dump (fun enabled => (sampled enabled).1)
      (fun enabled => (sampled enabled).2.1) (fun enabled => (sampled enabled).2.2.1)
      (fun enabled positive => ((sampled enabled).2.2.2 positive).1)
      fun enabled positive => ((sampled enabled).2.2.2 positive).2]
  split
  · next refused =>
      constructor
      · intro never
        cases never
      · rintro ⟨-, shown⟩
        exact refused.elim (fun other => absurd shown.experimentId other)
          fun other => absurd shown.datasetId other
  · next canonical =>
      rw [not_or, not_not, not_not] at canonical
      split
      · next sections =>
          rcases sections with ⟨⟨⟨⟨⟨⟨repository, hash, speaker⟩, gPath, dPath⟩, save, gpuIds⟩,
            rmvpeGpuIds⟩, testSetId⟩, vram, tags⟩
          rw [Option.some.injEq]
          refine (and_iff_left ?_).symm
          exact
            { experimentId := canonical.1
              datasetId := canonical.2
              repository := repository
              rvcCommitHash := hash
              speakerId := speaker
              gPath := gPath
              dPath := dPath
              saveEveryEpoch := save
              gpuIds := gpuIds
              rmvpeGpuIds := rmvpeGpuIds
              testSetId := testSetId
              minVramGb := vram
              workerTags := tags }
      · next refused =>
          constructor
          · intro never
            cases never
          · rintro ⟨-, shown⟩
            exact absurd
              ⟨⟨⟨⟨⟨⟨shown.repository, shown.rvcCommitHash, shown.speakerId⟩, shown.gPath,
                shown.dPath⟩, shown.saveEveryEpoch, shown.gpuIds⟩, shown.rmvpeGpuIds⟩,
                shown.testSetId⟩, shown.minVramGb, shown.workerTags⟩ refused

end RvcOrchestrator.Web

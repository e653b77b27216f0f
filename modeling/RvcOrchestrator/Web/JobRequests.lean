import RvcOrchestrator.Web.ComparisonConfigs
import RvcOrchestrator.Web.JobMatrix

/-! # Job configurations on their way to the Manager

The web server checks the configuration of a planned Job before it relays it, and the Manager
reads it by its own contract.
-/

namespace RvcOrchestrator.Web.JobMatrix

open RvcOrchestrator.Foundation RvcOrchestrator.Contracts RvcOrchestrator.Web

/-! ## What the web server relays -/

def jobBackend (backend model : Json) : Bool :=
  property backend "backend_type" = some (.str "rvc_webui") &&
    property backend "repository" = some (.str officialRepository) &&
    isOneOf (property backend "rvc_version") Web.versions &&
    property backend "rvc_commit_hash" = some .null &&
    isOneOf (property model "version") Web.versions &&
    property backend "rvc_version" = property model "version" &&
    isOneOf (property model "sample_rate") Web.rates &&
    isBoolean (property model "use_f0") &&
    Web.integerInRange (property model "speaker_id") 0 1000000

def jobPretrained (pretrained feature : Json) : Bool :=
  property pretrained "mode" = some (.str "auto") && property pretrained "g_path" = some .null &&
    property pretrained "d_path" = some .null &&
    property pretrained "allow_custom_override" = some (.bool false) &&
    property feature "feature_dir_policy" = some (.str "auto") &&
    property feature "v1_feature_dir" = some (.str "3_feature256") &&
    property feature "v2_feature_dir" = some (.str "3_feature768")

def jobTraining (training : Json) : Bool :=
  Web.integerInRange (property training "epochs") 1 100000 &&
    Web.integerInRange (property training "batch_size_per_gpu") 1 1024 &&
    Web.integerInRange (property training "save_every_epoch") 1 100000 &&
    booleanFields training ["save_only_latest", "save_every_weights", "cache_dataset_in_gpu"] &&
    (integerArray (property training "gpu_ids") 1 16 0 31).isSome

def jobF0 (model f0 : Json) : Bool :=
  let useF0 := property model "use_f0"
  let method := property f0 "training_f0_method"
  let given := property f0 "rmvpe_gpu_ids"
  let rmvpeGpuIds := if given = some .null then none else integerArray given 1 16 0 31
  (method = some .null || isOneOf method Web.f0Methods) &&
    !(useF0 = some (.bool true) && method = some .null) &&
    !(useF0 = some (.bool false) && (method ≠ some .null || rmvpeGpuIds.isSome)) &&
    !(method = some (.str "rmvpe_gpu") && !rmvpeGpuIds.isSome) &&
    !(method ≠ some (.str "rmvpe_gpu") && rmvpeGpuIds.isSome)

def jobIndex (index : Json) : Bool :=
  booleanFields index ["build_index", "collect_total_fea", "collect_added_index"] &&
    property index "collect_total_fea" = property index "build_index" &&
    property index "collect_added_index" = property index "build_index"

def jobSamples (samples : Json) : Bool :=
  property samples "enabled" = some (.bool false) &&
    property samples "test_set_id" = some .null &&
    isOneOf (property samples "inference_f0_method") inferenceF0Methods &&
    Web.integerInRange (property samples "transpose") (-48) 48 &&
    numberInRange (property samples "index_rate") 0 1 &&
    Web.integerInRange (property samples "filter_radius") 0 7 &&
    Web.integerInRange (property samples "resample_sr") 0 768000 &&
    numberInRange (property samples "rms_mix_rate") 0 1 &&
    numberInRange (property samples "protect") 0 (1 / 2)

def jobArtifacts (index artifacts : Json) : Bool :=
  booleanFields artifacts artifactKeys &&
    property artifacts "collect_samples" = some (.bool false) &&
    property artifacts "collect_index" = property index "build_index"

def jobResource (resource : Json) : Bool :=
  numberInRange (property resource "min_vram_gb") 0 1024 &&
    Web.integerInRange (property resource "priority") 0 10 &&
    (stringArray (property resource "preferred_worker_tags") 64 128).isSome

def jobCreateRequest (value : Unknown) : Option Json := do
  let document ← value
  if !hasExactKeys value configKeys || property document "schema_version" ≠ some (.str "1.0") ||
      (Web.safeIdentifier (property document "job_name")).isNone ||
      (Web.safeIdentifier (property document "experiment_id")).isNone ||
      (Web.safeIdentifier (property document "dataset_id")).isNone then none
  else
    let sections ← configSections document
    if jobBackend sections.backend sections.model &&
        jobPretrained sections.pretrained sections.feature && jobTraining sections.training &&
        jobF0 sections.model sections.f0 && jobIndex sections.index &&
        jobSamples sections.samples && jobArtifacts sections.index sections.artifacts &&
        jobResource sections.resource then some document
    else none

/-! ## Planned configurations are relayed -/

section

variable {experimentId datasetId jobName : String} {options : JobMatrixOptions}
variable {version : RVCVersion} {sampleRate : SampleRate} {f0Method : Option TrainingF0Method}

theorem integerInRange_stringify {value : Double} {minimum maximum : Int}
    (low : -JsNumber.maxSafeInteger ≤ minimum) (high : maximum ≤ JsNumber.maxSafeInteger)
    (inside : integerInRange value minimum maximum = true) :
    Web.integerInRange (some (stringify value)) minimum maximum = true := by
  rcases whole_of_integerInRange inside with ⟨number, bounds, written, -⟩
  rw [written]
  exact (integerInRange_int low high).mpr bounds

theorem numberInRange_stringify {value : PyFloat} {minimum maximum : ℚ}
    (low : minimum ≤ value.decimal) (high : value.decimal ≤ maximum) :
    numberInRange (some (stringify (.finite value))) minimum maximum = true := by
  rw [stringify, wholeNumber]
  split
  · next number whole =>
      split at whole
      · next integral =>
          cases whole
          have exact_ : (value.decimal.num : ℚ) = value.decimal :=
            Rat.coe_int_num_of_den_eq_one integral.1
          simp [numberInRange, numberOf, exact_, low, high]
      · cases whole
  · exact numberInRange_float.mpr ⟨low, high⟩

theorem safePublicString_of_not_refused {tag : String} (accepted : isRefusedTag tag = false) :
    safePublicString tag 128 = true := by
  simp only [isRefusedTag, Bool.or_eq_false_iff, decide_eq_false_iff_not, not_lt] at accepted
  simp [safePublicString, accepted]

theorem safeIdentifier_of_isSafeName {text : String} (safe : IsSafeName text) :
    Web.safeIdentifier (some (.str text)) = some text :=
  Option.filter_eq_some_iff.mpr ⟨rfl, decide_eq_true safe⟩

theorem integerArray_gpuIds (valid : ValidOptions experimentId datasetId options) :
    (integerArray (some (.array (options.gpuIds.map .int))) 1 16 0 31).isSome = true := by
  rw [integerArray_ints (by decide) (by decide), if_pos valid.gpuIds]
  rfl

theorem jobTraining_createJobConfig (valid : ValidOptions experimentId datasetId options) :
    jobTraining (.object
      [("epochs", stringify options.epochs),
        ("batch_size_per_gpu", stringify options.batchSizePerGpu),
        ("save_every_epoch", stringify options.saveEveryEpoch),
        ("save_only_latest", .bool options.saveOnlyLatest),
        ("save_every_weights", .bool options.saveEveryWeights),
        ("cache_dataset_in_gpu", .bool options.cacheDatasetInGpu),
        ("gpu_ids", .array (options.gpuIds.map .int))]) = true := by
  have epochs := integerInRange_stringify (by decide) (by decide) valid.epochs
  have batch := integerInRange_stringify (by decide) (by decide) valid.batchSizePerGpu
  have save := integerInRange_stringify (by decide) (by decide) valid.saveEveryEpoch
  have gpuIds := integerArray_gpuIds valid
  simp only [jobTraining, property_cons, if_true, String.reduceEq, if_false, Bool.and_eq_true,
    booleanFields, List.all_cons, List.all_nil, isBoolean, epochs, batch, save, gpuIds, and_self]

theorem jobF0_createJobConfig (valid : ValidOptions experimentId datasetId options)
    (used : options.useF0 = f0Method.isSome) :
    jobF0
      (.object
        [("version", .str version.value), ("sample_rate", .str sampleRate.value),
          ("use_f0", .bool options.useF0), ("speaker_id", .int 0)])
      (.object
        [("training_f0_method",
            orNull (fun method => .str (TrainingF0Method.value method)) f0Method),
          ("rmvpe_gpu_ids",
            if f0Method = some .rmvpeGpu then .array (options.gpuIds.map .int) else .null)]) =
      true := by
  have gpuIds := integerArray_gpuIds valid
  simp only [jobF0, property_cons, if_true, String.reduceEq, if_false, used]
  rcases f0Method with _ | _ | _ | _ | _ | _
  · rfl
  · rfl
  · rfl
  · rfl
  · rfl
  · simp [orNull, TrainingF0Method.value, isOneOf, textOf, f0Methods, gpuIds]

theorem jobResource_createJobConfig (valid : ValidOptions experimentId datasetId options) :
    jobResource (.object
      [("min_vram_gb", stringify options.minVramGb),
        ("preferred_worker_tags", .array (options.preferredWorkerTags.map .str)),
        ("priority", stringify options.priority)]) = true := by
  rcases valid.minVramGb with ⟨vram, given, natural, small⟩
  have minVramGb : numberInRange (some (stringify options.minVramGb)) 0 1024 = true := by
    rw [given]
    exact numberInRange_stringify natural small
  have priority := integerInRange_stringify (by decide) (by decide) valid.priority
  have tags : (stringArray (some (.array (options.preferredWorkerTags.map .str))) 64 128).isSome =
      true := by
    rcases valid.preferredWorkerTags with ⟨few, accepted, distinct⟩
    rw [stringArray_texts, if_pos ⟨few, fun tag member =>
      safePublicString_of_not_refused (accepted tag member), distinct⟩]
    rfl
  simp only [jobResource, property_cons, if_true, String.reduceEq, if_false, minVramGb, priority,
    tags, Bool.and_self]

theorem jobBackend_createJobConfig :
    jobBackend
      (.object
        [("backend_type", .str "rvc_webui"), ("repository", .str officialRepository),
          ("rvc_version", .str version.value), ("rvc_commit_hash", .null)])
      (.object
        [("version", .str version.value), ("sample_rate", .str sampleRate.value),
          ("use_f0", .bool options.useF0), ("speaker_id", .int 0)]) = true := by
  have speaker : Web.integerInRange (some (.int 0)) 0 1000000 = true :=
    (integerInRange_int (by decide) (by decide)).mpr (by decide)
  simp only [jobBackend, property_cons, if_true, String.reduceEq, if_false, isOneOf_version,
    isOneOf_rate, isBoolean, speaker, decide_true, Bool.and_self]

theorem jobSamples_createJobConfig :
    jobSamples (.object
      [("enabled", .bool false), ("test_set_id", .null), ("inference_f0_method", .str "rmvpe"),
        ("transpose", .int 0), ("index_rate", .float (hundredths 75 (by decide))),
        ("filter_radius", .int 3), ("resample_sr", .int 0),
        ("rms_mix_rate", .float (hundredths 25 (by decide))),
        ("protect", .float (hundredths 33 (by decide)))]) = true := by
  decide +kernel

/-- The web server relays what has been planned. -/
theorem jobCreateRequest_createJobConfig (valid : ValidOptions experimentId datasetId options)
    (used : options.useF0 = f0Method.isSome) (name : IsSafeName jobName) :
    jobCreateRequest (some (createJobConfig experimentId datasetId jobName version sampleRate
        f0Method options)) =
      some (createJobConfig experimentId datasetId jobName version sampleRate f0Method
        options) := by
  have training := jobTraining_createJobConfig valid
  have f0 := @jobF0_createJobConfig _ _ _ version sampleRate _ valid used
  have names := safeIdentifier_of_isSafeName name
  have experiment := safeIdentifier_of_isSafeName valid.experimentId
  have dataset := safeIdentifier_of_isSafeName valid.datasetId
  have resource := jobResource_createJobConfig valid
  have keys : hasExactKeys (some (createJobConfig experimentId datasetId jobName version
      sampleRate f0Method options)) configKeys = true := by
    simp [hasExactKeys, configKeys, createJobConfig]
  have index : jobIndex (.object
      [("build_index", .bool options.buildIndex), ("collect_total_fea", .bool options.buildIndex),
        ("collect_added_index", .bool options.buildIndex)]) = true := by
    simp [jobIndex, property_cons, booleanFields, isBoolean]
  have sections : configSections (createJobConfig experimentId datasetId jobName version
    sampleRate f0Method options) = some ⟨_, _, _, _, _, _, _, _, _, _⟩ := rfl
  have artifacts : jobArtifacts (.object
      [("build_index", .bool options.buildIndex), ("collect_total_fea", .bool options.buildIndex),
        ("collect_added_index", .bool options.buildIndex)]) (.object
      [("collect_checkpoints", .bool true), ("collect_small_model", .bool true),
        ("extract_small_model_if_missing", .bool true), ("collect_index", .bool options.buildIndex),
        ("collect_tensorboard", .bool true), ("collect_logs", .bool true),
        ("collect_samples", .bool false)]) = true := by
    simp [jobArtifacts, property_cons, booleanFields, artifactKeys, isBoolean]
  unfold jobCreateRequest
  simp only [Option.bind_eq_bind, Option.bind_some, keys, sections, training, f0, index, artifacts,
    resource, jobBackend_createJobConfig, jobSamples_createJobConfig]
  simp only [createJobConfig, property_cons, if_true, String.reduceEq, if_false, names, experiment,
    dataset]
  rfl

end

/-! ## What the Manager reads -/

mutual

/-- The document that JavaScript writes when it has read this one. It has one kind of numbers. -/
def rewritten : Json → Json
  | .array items => .array (rewrittenItems items)
  | .object fields => .object (rewrittenFields fields)
  | .float value => stringify (.finite value)
  | .null => .null
  | .bool value => .bool value
  | .int value => .int value
  | .str value => .str value

def rewrittenItems : List Json → List Json
  | [] => []
  | item :: items => rewritten item :: rewrittenItems items

def rewrittenFields : List (String × Json) → List (String × Json)
  | [] => []
  | (key, value) :: fields => (key, rewritten value) :: rewrittenFields fields

end

/-- A whole number in the place of a float is read as that float. -/
def ReadsWholeNumbers (lax : Lax) : Prop :=
  ∀ number : Nat, number ≤ 1024 → ∃ value,
    lax.float (.int number) = some value ∧ value.negative = false ∧ value.decimal = number

theorem rewrittenItems_map {Value : Type} {write : Value → Json}
    (plain : ∀ value, rewritten (write value) = write value) (values : List Value) :
    rewrittenItems (values.map write) = values.map write := by
  induction values with
  | nil => rfl
  | cons value values induction =>
      rw [List.map_cons, rewrittenItems, plain value, induction]

theorem copyItems_map {Value : Type} {write : Value → Json}
    (plain : ∀ value, (write value).copy = write value) (values : List Value) :
    Json.copyItems (values.map write) = values.map write := by
  induction values with
  | nil => rfl
  | cons value values induction =>
      rw [List.map_cons, Json.copyItems, plain value, induction]

theorem unsignedZero_of_nonneg {value : PyFloat} (positive : value.negative = false) :
    value.unsignedZero = value := by
  unfold PyFloat.unsignedZero
  split
  · next zero => exact (PyFloat.ext_of_isZero zero positive).symm
  · rfl

/-- A number from the form is read as a float that is written the same. -/
theorem float_validate_stringify {lax : Lax} (wholes : ReadsWholeNumbers lax) {value : PyFloat}
    (natural : 0 ≤ value.decimal) (small : value.decimal ≤ 1024) :
    ∃ read : PyFloat,
      (Codec.float lax).validate (stringify (.finite value)) =
          (Codec.float lax).validate (.float read) ∧
        read.decimal = value.decimal ∧ read.unsignedZero = read ∧
        stringify (.finite read) = stringify (.finite value) := by
  by_cases whole : value.decimal.den = 1
  · have exact_ : (value.decimal.num : ℚ) = value.decimal := Rat.coe_int_num_of_den_eq_one whole
    have bounds : 0 ≤ value.decimal.num ∧ value.decimal.num ≤ 1024 := by
      constructor
      · exact Rat.num_nonneg.mpr natural
      · rw [← exact_] at small
        exact_mod_cast small
    have cast : ((value.decimal.num.toNat : Nat) : Int) = value.decimal.num :=
      Int.toNat_of_nonneg bounds.1
    rcases wholes value.decimal.num.toNat (by omega) with ⟨read, isRead, positive, same⟩
    have decimals : read.decimal = value.decimal := by
      rw [same, ← exact_, ← cast]
      rfl
    refine ⟨read, ?_, decimals, unsignedZero_of_nonneg positive, ?_⟩
    · rw [stringify, wholeNumber, if_pos ⟨whole, by omega⟩]
      rw [cast] at isRead
      simp only [Codec.float, isRead]
      rfl
    · rw [stringify, stringify, wholeNumber, wholeNumber, decimals, if_pos ⟨whole, by omega⟩]
  · have written : stringify (.finite value) = .float value := by
      rw [stringify, wholeNumber, if_neg fun both => whole both.1]
    have nonzero : ¬value.IsZero := fun zero => by
      rw [PyFloat.decimal_of_isZero zero] at whole
      exact whole rfl
    exact ⟨value, by rw [written], rfl, if_neg nonzero, rfl⟩

/-- The Manager's reading of a Job depends on its resources by what these are read as. -/
theorem modelValidate_congr_resource {lax : Lax} {front : List (String × Json)}
    {left right : Json}
    (same : (ResourceRequirements.codec lax).validate left =
      (ResourceRequirements.codec lax).validate right) (absent : front.lookup "resource" = none) :
    JobConfig.modelValidate lax (.object (front ++ [("resource", left)])) =
      JobConfig.modelValidate lax (.object (front ++ [("resource", right)])) := by
  simp only [JobConfig.modelValidate, JobConfig.codec, Codec.refine, Fields.record, Fields.and,
    Fields.field, List.lookup_append, List.lookup_cons, List.lookup_nil, String.reduceBEq, absent,
    Option.none_or, same, List.all_append, List.all_cons, List.all_nil]

theorem resource_validate_congr {lax : Lax} {left right : Json} {rest : List (String × Json)}
    (same : (Codec.float lax).validate left = (Codec.float lax).validate right) :
    (ResourceRequirements.codec lax).validate (.object (("min_vram_gb", left) :: rest)) =
      (ResourceRequirements.codec lax).validate (.object (("min_vram_gb", right) :: rest)) := by
  simp only [ResourceRequirements.codec, floatFromCodec, Codec.restrict, Codec.refine,
    Fields.record, Fields.and, Fields.field, List.lookup_cons, String.reduceBEq, same,
    List.all_cons]
  rfl

theorem validateGpuIds_natural {ids : List Int} (valid : validateGpuIds ids = .ok ()) :
    ids.any (· < 0) = false := by
  rw [validateGpuIds] at valid
  split at valid
  · cases valid
  · next natural => exact Bool.eq_false_of_not_eq_true natural

structure PlannedValues where
  jobName : SafeName
  experimentId : SafeName
  datasetId : SafeName
  version : RVCVersion
  sampleRate : SampleRate
  f0Method : Option TrainingF0Method
  training : TrainingConfig
  buildIndex : Bool
  resource : ResourceRequirements

def PlannedValues.f0Extraction (values : PlannedValues) : F0ExtractionConfig where
  trainingF0Method := values.f0Method
  rmvpeGpuIds := if values.f0Method = some .rmvpeGpu then some values.training.gpuIds.1 else none
  valid := by
    have natural := validateGpuIds_natural values.training.gpuIds.2.2
    by_cases gpu : values.f0Method = some .rmvpeGpu
    · simp [validateRmvpeGpuIds, gpu, nonEmpty, values.training.gpuIds.2.1, natural]
    · simp [validateRmvpeGpuIds, gpu, nonEmpty]

def PlannedValues.config (values : PlannedValues) : JobConfig where
  jobName := values.jobName
  experimentId := values.experimentId
  datasetId := values.datasetId
  rvcBackend := ⟨officialRepository, some values.version, none⟩
  model := ⟨values.version, values.sampleRate, values.f0Method.isSome, defaultSpeakerId⟩
  pretrained := .default
  trainingFeature := ⟨⟩
  training := values.training
  f0Extraction := values.f0Extraction
  index := ⟨values.buildIndex, values.buildIndex, values.buildIndex⟩
  autoInferenceSamples := .default
  artifacts := ⟨true, true, true, values.buildIndex, true, true, false⟩
  resource := values.resource
  valid := by
    rcases given : values.f0Method with _ | method
    · simp [validateCrossFields, AutoInferenceSamplesConfig.default, PlannedValues.f0Extraction,
        given, nonEmpty]
    · simp [validateCrossFields, AutoInferenceSamplesConfig.default, PlannedValues.f0Extraction,
        given]

def PlannedValues.front (values : PlannedValues) : List (String × Json) :=
  [("schema_version", .str "1.0"), ("job_name", .str values.jobName.1),
    ("experiment_id", .str values.experimentId.1), ("dataset_id", .str values.datasetId.1),
    ("rvc_backend", RVCBackendConfig.codec.dump values.config.rvcBackend),
    ("model", (ModelConfig.codec .strict).dump values.config.model),
    ("pretrained", (PretrainedConfig.codec .strict).dump .default),
    ("training_feature", TrainingFeatureConfig.codec.dump ⟨⟩),
    ("training", (TrainingConfig.codec .strict).dump values.training),
    ("f0_extraction", (F0ExtractionConfig.codec .strict).dump values.f0Extraction),
    ("index", (IndexConfig.codec .strict).dump values.config.index),
    ("auto_inference_samples", (AutoInferenceSamplesConfig.codec .strict).dump .default),
    ("artifacts", (ArtifactCollectionConfig.codec .strict).dump values.config.artifacts)]

theorem PlannedValues.modelDump_config (values : PlannedValues) :
    values.config.modelDump = .object (values.front ++
      [("resource", (ResourceRequirements.codec .strict).dump values.resource)]) := rfl

theorem PlannedValues.dump_f0Extraction (values : PlannedValues) :
    (F0ExtractionConfig.codec .strict).dump values.f0Extraction = .object
      [("training_f0_method",
          orNull (fun method => .str (TrainingF0Method.value method)) values.f0Method),
        ("rmvpe_gpu_ids",
          if values.f0Method = some .rmvpeGpu then .array (values.training.gpuIds.1.map .int)
          else .null)] := by
  rw [dump_f0]
  simp only [PlannedValues.f0Extraction]
  split <;> rfl

theorem PlannedValues.lookup_front (values : PlannedValues) :
    values.front.lookup "resource" = none := by
  simp [PlannedValues.front, List.lookup_cons]

/-- A planned configuration is stored and read back as it is. -/
theorem PlannedValues.copy_modelDump {values : PlannedValues}
    (small : values.resource.minVramGb.1.Small)
    (unsigned : values.resource.minVramGb.1.unsignedZero = values.resource.minVramGb.1) :
    values.config.modelDump.copy = values.config.modelDump := by
  have gpuIds : Json.copyItems (values.training.gpuIds.1.map .int) =
      values.training.gpuIds.1.map .int :=
    copyItems_map (fun _ => rfl) _
  have tags : Json.copyItems (values.resource.preferredWorkerTags.1.map .str) =
      values.resource.preferredWorkerTags.1.map .str :=
    copyItems_map (fun _ => rfl) _
  have vram : values.resource.minVramGb.1.readBack = .float values.resource.minVramGb.1 := by
    rw [PyFloat.readBack_of_small small, unsigned]
  have samples : ((AutoInferenceSamplesConfig.codec .strict).dump
      AutoInferenceSamplesConfig.default).copy =
        (AutoInferenceSamplesConfig.codec .strict).dump .default := by
    decide +kernel
  have f0 : ((F0ExtractionConfig.codec .strict).dump values.f0Extraction).copy =
      (F0ExtractionConfig.codec .strict).dump values.f0Extraction := by
    rw [PlannedValues.dump_f0Extraction]
    rcases values.f0Method with _ | method
    · rfl
    · by_cases gpu : some method = some TrainingF0Method.rmvpeGpu
      · rw [if_pos gpu]
        simp only [orNull, Option.elim_some, Json.copy, Json.copyFields, gpuIds]
      · rw [if_neg gpu]
        simp only [orNull, Option.elim_some, Json.copy, Json.copyFields]
  rw [PlannedValues.modelDump_config, PlannedValues.front, dump_resource, dump_training]
  simp only [List.cons_append, List.nil_append, Json.copy, Json.copyFields, samples, f0, gpuIds,
    tags, vram]
  rfl

/-- What the Manager reads of a planned document, given the resources that it reads. -/
theorem PlannedValues.modelValidate {values : PlannedValues} {lax : Lax} {resource : Json}
    (read : (ResourceRequirements.codec lax).validate resource =
      (ResourceRequirements.codec lax).validate
        ((ResourceRequirements.codec .strict).dump values.resource))
    (small : values.resource.minVramGb.1.Small)
    (unsigned : values.resource.minVramGb.1.unsignedZero = values.resource.minVramGb.1) :
    JobConfig.modelValidate lax (.object (values.front ++ [("resource", resource)])) =
      .ok values.config.normal := by
  rw [modelValidate_congr_resource read values.lookup_front, ← PlannedValues.modelDump_config]
  have stored := Json.readBack_copy values.config.modelDump
  rw [PlannedValues.copy_modelDump small unsigned] at stored
  exact JobConfig.modelValidate_readBack lax small stored

theorem PlannedValues.normal_config {values : PlannedValues}
    (unsigned : values.resource.minVramGb.1.unsignedZero = values.resource.minVramGb.1) :
    values.config.normal = values.config := by
  have resource : values.resource.normal = values.resource := by
    rcases given : values.resource with ⟨vram, tags, priority⟩
    rw [given] at unsigned
    simp only [ResourceRequirements.normal, unsigned]
  have samples : AutoInferenceSamplesConfig.default.normal = .default := by
    decide +kernel
  simp only [JobConfig.normal, PlannedValues.config, resource, samples]

section

variable {experimentId datasetId jobName : String} {options : JobMatrixOptions}
variable {version : RVCVersion} {sampleRate : SampleRate} {f0Method : Option TrainingF0Method}

theorem validateGpuIds_of_valid (valid : ValidOptions experimentId datasetId options) :
    options.gpuIds ≠ [] ∧ validateGpuIds options.gpuIds = .ok () := by
  rcases valid.gpuIds with ⟨length, inside, distinct⟩
  have natural : options.gpuIds.any (· < 0) = false := by
    simp only [List.any_eq_false, decide_eq_true_eq, not_lt]
    exact fun id member => (inside id member).1
  constructor
  · rintro none
    rw [none] at length
    exact absurd length.1 (by decide)
  · simp [validateGpuIds, natural, distinct]

theorem uniqueTags_of_valid (valid : ValidOptions experimentId datasetId options)
    (stable : ∀ tag ∈ options.preferredWorkerTags, strip tag = tag) :
    uniqueTags options.preferredWorkerTags = .ok options.preferredWorkerTags := by
  rcases valid.preferredWorkerTags with ⟨-, accepted, distinct⟩
  have same : options.preferredWorkerTags.map strip = options.preferredWorkerTags := by
    rw [List.map_congr_left stable, List.map_id']
  have some_ : options.preferredWorkerTags.any (· = "") = false := by
    simp only [List.any_eq_false, decide_eq_true_eq]
    rintro tag member rfl
    have refused : isRefusedTag "" = true := by decide
    rw [accepted "" member] at refused
    cases refused
  simp [uniqueTags, same, some_, distinct]

/-- A plan is a valid configuration, but for the number that stands for the memory. -/
theorem createJobConfig_eq_planned (valid : ValidOptions experimentId datasetId options)
    (used : options.useF0 = f0Method.isSome) (name : IsSafeName jobName)
    (stable : ∀ tag ∈ options.preferredWorkerTags, strip tag = tag) (vram : FloatFrom 0) :
    ∃ values : PlannedValues, values.resource.minVramGb = vram ∧
      createJobConfig experimentId datasetId jobName version sampleRate f0Method options =
        .object (values.front ++ [("resource", .object
          [("min_vram_gb", stringify options.minVramGb),
            ("preferred_worker_tags", .array (values.resource.preferredWorkerTags.1.map .str)),
            ("priority", .int values.resource.priority.1)])]) := by
  rcases whole_of_integerInRange valid.epochs with ⟨epochs, epochsIn, epochsAre, -⟩
  rcases whole_of_integerInRange valid.batchSizePerGpu with ⟨batch, batchIn, batchIs, -⟩
  rcases whole_of_integerInRange valid.saveEveryEpoch with ⟨save, saveIn, saveIs, -⟩
  rcases whole_of_integerInRange valid.priority with ⟨priority, priorityIn, priorityIs, -⟩
  refine ⟨
    { jobName := ⟨jobName, name⟩
      experimentId := ⟨experimentId, valid.experimentId⟩
      datasetId := ⟨datasetId, valid.datasetId⟩
      version := version
      sampleRate := sampleRate
      f0Method := f0Method
      training :=
        { epochs := ⟨epochs, epochsIn⟩
          batchSizePerGpu := ⟨batch, batchIn⟩
          saveEveryEpoch := ⟨save, saveIn.1⟩
          saveOnlyLatest := options.saveOnlyLatest
          saveEveryWeights := options.saveEveryWeights
          cacheDatasetInGpu := options.cacheDatasetInGpu
          gpuIds := ⟨options.gpuIds, validateGpuIds_of_valid valid⟩ }
      buildIndex := options.buildIndex
      resource :=
        { minVramGb := vram
          preferredWorkerTags := ⟨options.preferredWorkerTags, valid.preferredWorkerTags.1,
            uniqueTags_of_valid valid stable⟩
          priority := ⟨priority, priorityIn⟩ } }, rfl, ?_⟩
  rw [createJobConfig, PlannedValues.front, PlannedValues.dump_f0Extraction, dump_training]
  simp only [epochsAre, batchIs, saveIs, priorityIs, used]
  rfl

end

/-- The values of a planned configuration are written as they have been planned. -/
theorem PlannedValues.rewritten_modelDump (values : PlannedValues) :
    rewritten values.config.modelDump = .object (values.front ++ [("resource", .object
      [("min_vram_gb", stringify (.finite values.resource.minVramGb.1)),
        ("preferred_worker_tags", .array (values.resource.preferredWorkerTags.1.map .str)),
        ("priority", .int values.resource.priority.1)])]) := by
  have gpuIds : rewrittenItems (values.training.gpuIds.1.map .int) =
      values.training.gpuIds.1.map .int :=
    rewrittenItems_map (fun _ => rfl) _
  have tags : rewrittenItems (values.resource.preferredWorkerTags.1.map .str) =
      values.resource.preferredWorkerTags.1.map .str :=
    rewrittenItems_map (fun _ => rfl) _
  have samples : rewritten ((AutoInferenceSamplesConfig.codec .strict).dump
      AutoInferenceSamplesConfig.default) =
        (AutoInferenceSamplesConfig.codec .strict).dump .default := by
    decide +kernel
  have f0 : rewritten ((F0ExtractionConfig.codec .strict).dump values.f0Extraction) =
      (F0ExtractionConfig.codec .strict).dump values.f0Extraction := by
    rw [PlannedValues.dump_f0Extraction]
    rcases values.f0Method with _ | method
    · rfl
    · by_cases gpu : some method = some TrainingF0Method.rmvpeGpu
      · rw [if_pos gpu]
        simp only [orNull, Option.elim_some, rewritten, rewrittenFields, gpuIds]
      · rw [if_neg gpu]
        simp only [orNull, Option.elim_some, rewritten, rewrittenFields]
  rw [PlannedValues.modelDump_config, PlannedValues.front, dump_resource, dump_training]
  simp only [List.cons_append, List.nil_append, rewritten, rewrittenFields, samples, f0, gpuIds,
    tags]
  rfl

section

variable {experimentId datasetId jobName : String} {options : JobMatrixOptions}
variable {version : RVCVersion} {sampleRate : SampleRate} {f0Method : Option TrainingF0Method}
variable {lax : Lax}

/-- The Manager keeps a plan whose tags it does not strip. -/
theorem createJobConfig_kept (wholes : ReadsWholeNumbers lax)
    (valid : ValidOptions experimentId datasetId options)
    (used : options.useF0 = f0Method.isSome) (name : IsSafeName jobName)
    (stable : ∀ tag ∈ options.preferredWorkerTags, strip tag = tag) :
    ∃ config,
      JobConfig.modelValidate lax (createJobConfig experimentId datasetId jobName version
        sampleRate f0Method options) = .ok config ∧
      rewritten config.modelDump =
        createJobConfig experimentId datasetId jobName version sampleRate f0Method options := by
  rcases valid.minVramGb with ⟨vram, given, natural, bounded⟩
  rcases float_validate_stringify wholes natural bounded with
    ⟨read, isRead, decimals, unsigned, written⟩
  rcases @createJobConfig_eq_planned _ _ _ _ version sampleRate _ valid used name stable
    ⟨read, decimals ▸ natural⟩ with ⟨values, isVram, planned⟩
  have isRead_ : values.resource.minVramGb.1 = read := congrArg Subtype.val isVram
  have unsigned_ : values.resource.minVramGb.1.unsignedZero = values.resource.minVramGb.1 := by
    rw [isRead_, unsigned]
  have small : values.resource.minVramGb.1.Small := by
    rw [PyFloat.small_iff values.resource.minVramGb.2, isRead_, decimals]
    linarith
  refine ⟨values.config, ?_, ?_⟩
  · rw [planned, ← PlannedValues.normal_config unsigned_]
    refine PlannedValues.modelValidate ?_ small unsigned_
    rw [dump_resource, isRead_, given]
    exact resource_validate_congr isRead
  · rw [PlannedValues.rewritten_modelDump, planned, isRead_, written, given]

theorem strip_of_uniqueTags {tags : List String} (valid : uniqueTags tags = .ok tags) :
    tags.map strip = tags := by
  simp only [uniqueTags] at valid
  split at valid
  · cases valid
  · split at valid
    · cases valid
    · exact Except.ok.inj valid

/-- The tags of a plan that the Manager keeps have been stripped. -/
theorem strip_of_kept {config : JobConfig}
    (kept : rewritten config.modelDump =
      createJobConfig experimentId datasetId jobName version sampleRate f0Method options) :
    ∀ tag ∈ options.preferredWorkerTags, strip tag = tag := by
  have tags : rewrittenItems (config.resource.preferredWorkerTags.1.map .str) =
      config.resource.preferredWorkerTags.1.map .str :=
    rewrittenItems_map (fun _ => rfl) _
  have left : (property (rewritten config.modelDump) "resource").bind
      (property · "preferred_worker_tags") =
        some (.array (rewrittenItems (config.resource.preferredWorkerTags.1.map .str))) := rfl
  have right : (property (createJobConfig experimentId datasetId jobName version sampleRate
      f0Method options) "resource").bind (property · "preferred_worker_tags") =
        some (.array (options.preferredWorkerTags.map .str)) := rfl
  rw [kept, right, tags, Option.some.injEq, Json.array.injEq] at left
  have same : options.preferredWorkerTags = config.resource.preferredWorkerTags.1 :=
    List.map_injective_iff.mpr (fun _ _ equal => Json.str.inj equal) left
  have valid := config.resource.preferredWorkerTags.2.2
  rw [← same] at valid
  exact List.map_inj_left.mp ((strip_of_uniqueTags valid).trans (List.map_id' _).symm)

end

/-! ## Spaces at the edges of tags -/

def BareEdges (test : Char → Bool) (text : List Char) : Prop :=
  (∀ char ∈ text.head?, test char = false) ∧ ∀ char ∈ text.getLast?, test char = false

def trimChars (test : Char → Bool) (text : List Char) : List Char :=
  (text.dropWhile test).rdropWhile test

theorem dropWhile_eq_self_of_head {test : Char → Bool} {text : List Char}
    (bare : ∀ char ∈ text.head?, test char = false) : text.dropWhile test = text := by
  rcases text with _ | ⟨head, tail⟩
  · rfl
  · rw [List.dropWhile_cons_of_neg]
    rw [bare head rfl]
    exact Bool.false_ne_true

/-- Trimming leaves bare edges, and texts with bare edges as they are. -/
theorem trimChars_eq_self_iff {test : Char → Bool} {text : List Char} :
    trimChars test text = text ↔ BareEdges test text := by
  constructor
  · intro same
    have front := List.rdropWhile_prefix test (text.dropWhile test)
    rw [← trimChars, same] at front
    have dropped := (List.dropWhile_suffix test).eq_of_length_le front.length_le
    constructor
    · intro char first
      have head := List.head?_dropWhile_not test text
      rw [dropped, Option.mem_def.mp first] at head
      exact head
    · intro char last
      rw [trimChars, dropped] at same
      have some_ : text ≠ [] := by
        rintro rfl
        cases last
      have notLast := List.rdropWhile_eq_self_iff.mp same some_
      rw [List.getLast?_eq_some_getLast some_, Option.mem_some_iff] at last
      rw [← last]
      exact Bool.eq_false_of_not_eq_true notLast
  · rintro ⟨first, last⟩
    rw [trimChars, dropWhile_eq_self_of_head first, List.rdropWhile_eq_self_iff]
    intro some_
    rw [last _ (List.getLast?_eq_some_getLast some_)]
    exact Bool.false_ne_true

theorem trimChars_idem (test : Char → Bool) (text : List Char) :
    trimChars test (trimChars test text) = trimChars test text := by
  rw [trimChars_eq_self_iff]
  have front := List.rdropWhile_prefix test (text.dropWhile test)
  rw [← trimChars] at front
  constructor
  · intro char first
    have head := List.head?_dropWhile_not test text
    rcases front with ⟨rest, whole⟩
    rw [← whole, List.head?_append, Option.mem_def.mp first] at head
    exact head
  · intro char last
    have some_ : trimChars test text ≠ [] := by
      intro none
      rw [none] at last
      cases last
    rw [List.getLast?_eq_some_getLast some_, Option.mem_some_iff] at last
    rw [← last]
    exact Bool.eq_false_of_not_eq_true (List.rdropWhile_last_not test _ some_)

theorem trim_eq (text : String) : trim text = String.ofList (trimChars isJsSpace text.toList) := rfl

theorem strip_eq_self_iff {text : String} :
    strip text = text ↔ BareEdges isPythonSpace text.toList := by
  rw [← trimChars_eq_self_iff, ← String.toList_inj]
  rw [strip, String.toList_ofList]
  rfl

/-- Of the characters that a tag may have, only the next-line character is a space for the Manager
and not for the browser. -/
theorem isPythonSpace_iff {char : Char} (notSpace : isJsSpace char = false)
    (printable : ¬(char.toNat < 0x20 ∨ char.toNat = 0x7F)) :
    isPythonSpace char = false ↔ char ≠ '\u0085' := by
  have code : char ≠ '\u0085' ↔ char.toNat ≠ 0x85 := not_congr
    ⟨fun same => by rw [same]; rfl, fun same => Char.toNat_inj.mp same⟩
  rw [code]
  simp only [isJsSpace, Bool.or_eq_false_iff, Bool.and_eq_false_iff,
    decide_eq_false_iff_not] at notSpace
  simp only [isPythonSpace, Bool.or_eq_false_iff, Bool.and_eq_false_iff, decide_eq_false_iff_not,
    beq_eq_false_iff_ne]
  omega

def BareOfNextLines (tag : String) : Prop :=
  tag.toList.head? ≠ some '\u0085' ∧ tag.toList.getLast? ≠ some '\u0085'

instance (tag : String) : Decidable (BareOfNextLines tag) :=
  inferInstanceAs (Decidable (_ ∧ _))

theorem parseWorkerTags_spec {value : String} {tags : List String}
    (parsed : parseWorkerTags value = some tags) :
    ∀ tag ∈ tags, trim tag = tag ∧ isRefusedTag tag = false := by
  rw [parseWorkerTags] at parsed
  split at parsed
  · cases parsed
    exact List.forall_mem_nil _
  · simp only at parsed
    split at parsed
    · cases parsed
    · next accepted =>
        cases parsed
        rw [not_or, not_or] at accepted
        intro tag member
        refine ⟨?_, ?_⟩
        · rcases List.mem_map.mp member with ⟨part, -, rfl⟩
          rw [trim_eq, trim_eq, String.toList_ofList, String.toList_ofList, trimChars_idem]
        · have all := Bool.eq_false_of_not_eq_true accepted.2.1
          rw [List.any_eq_false] at all
          exact Bool.eq_false_of_not_eq_true (all tag member)

/-- The Manager strips a tag of the form if and only if a next-line character is at an edge. -/
theorem strip_eq_self_iff_bare {tag : String} (trimmed : trim tag = tag)
    (accepted : isRefusedTag tag = false) : strip tag = tag ↔ BareOfNextLines tag := by
  have edges : BareEdges isJsSpace tag.toList := by
    rw [← trimChars_eq_self_iff, ← String.ofList_inj, ← trim_eq, trimmed, String.ofList_toList]
  have printable : ∀ char ∈ tag.toList, ¬(char.toNat < 0x20 ∨ char.toNat = 0x7F) := by
    simp only [isRefusedTag, Bool.or_eq_false_iff] at accepted
    have none := accepted.2
    rw [hasControlCharacter, List.any_eq_false] at none
    intro char member
    simpa using none char member
  have edge : ∀ char ∈ tag.toList, isJsSpace char = false →
      (isPythonSpace char = false ↔ char ≠ '\u0085') :=
    fun char member notSpace => isPythonSpace_iff notSpace (printable char member)
  rw [strip_eq_self_iff, BareEdges, BareOfNextLines]
  apply and_congr
  · rcases first : tag.toList.head? with _ | char
    · simp
    · have given := edge char (List.mem_of_mem_head? first) (edges.1 char first)
      simpa using given
  · rcases last : tag.toList.getLast? with _ | char
    · simp
    · have given := edge char (List.mem_of_mem_getLast? last) (edges.2 char last)
      simpa using given

/-! ## Which plans are admissible -/

structure PlansAdmissible (lax : Lax) (plans : List JobMatrixPlan) : Prop where
  distinct : (plans.map JobMatrixPlan.jobName).Nodup
  safe : ∀ plan ∈ plans, IsSafeName plan.jobName
  relayed : ∀ plan ∈ plans, jobCreateRequest (some plan.config) = some plan.config
  /-- The Manager accepts the configuration and keeps it unchanged. -/
  kept : ∀ plan ∈ plans, ∃ config, JobConfig.modelValidate lax plan.config = .ok config ∧
    rewritten config.modelDump = plan.config

section

variable {tables : TextTables} {experimentId datasetId : String} {options : JobMatrixOptions}
variable {plans : List JobMatrixPlan} {lax : Lax}

theorem used_of_mem_matrixConditions
    {combination : RVCVersion × SampleRate × Option TrainingF0Method}
    (member : combination ∈ matrixConditions options) :
    options.useF0 = combination.2.2.isSome := by
  have inMethods := (List.mem_product.mp (List.mem_product.mp member).2).2
  rw [matrixMethods] at inMethods
  split at inMethods
  · next uses =>
      rcases List.mem_map.mp inMethods with ⟨method, -, same⟩
      rw [uses, ← same]
      rfl
  · next unused =>
      rw [List.mem_singleton.mp inMethods]
      exact Bool.eq_false_of_not_eq_true unused

theorem orderedUnique_ne_nil {Value : Type} [DecidableEq Value] {values order : List Value}
    (some_ : values ≠ []) (complete : ∀ value, value ∈ order) :
    orderedUnique values order ≠ [] := by
  rcases List.exists_mem_of_ne_nil values some_ with ⟨value, member⟩
  exact List.ne_nil_of_mem (List.mem_filter.mpr ⟨complete value, decide_eq_true member⟩)

/-- A form without errors plans a Job. -/
theorem exists_mem_matrixConditions (valid : ValidOptions experimentId datasetId options) :
    ∃ combination, combination ∈ matrixConditions options := by
  have versions : orderedUnique options.versions rvcVersions ≠ [] :=
    orderedUnique_ne_nil valid.versions (by rintro (_ | _) <;> decide)
  have rates : orderedUnique options.sampleRates sampleRates ≠ [] :=
    orderedUnique_ne_nil valid.sampleRates (by rintro (_ | _) <;> decide)
  have methods : matrixMethods options ≠ [] := by
    rw [matrixMethods]
    split
    · next uses =>
        have given : orderedUnique options.f0Methods trainingF0Methods ≠ [] :=
          orderedUnique_ne_nil (valid.f0Methods uses)
            (by rintro (_ | _ | _ | _ | _) <;> decide)
        exact fun none => given (List.map_eq_nil_iff.mp none)
    · exact List.cons_ne_nil none []
  rcases List.exists_mem_of_ne_nil _ versions with ⟨version, inVersions⟩
  rcases List.exists_mem_of_ne_nil _ rates with ⟨rate, inRates⟩
  rcases List.exists_mem_of_ne_nil _ methods with ⟨method, inMethods⟩
  exact ⟨(version, rate, method), List.mem_product.mpr
    ⟨inVersions, List.mem_product.mpr ⟨inRates, inMethods⟩⟩⟩

/-- What a plan is. -/
theorem plan_spec (built : buildJobMatrix tables experimentId datasetId options = ⟨plans, []⟩)
    {plan : JobMatrixPlan} (member : plan ∈ plans) :
    IsSafeName plan.jobName ∧ options.useF0 = plan.f0Method.isSome ∧
      plan.config = createJobConfig experimentId datasetId plan.jobName plan.version
        plan.sampleRate plan.f0Method options := by
  rcases buildJobMatrix_eq_plans built with ⟨valid, rfl⟩
  rcases List.mem_map.mp member with ⟨combination, inside, same⟩
  have starts : StartsName plan.jobName.toList ∧ plan.jobName.toList.length ≤ 128 := by
    rw [← same]
    exact deterministicJobName_startsName
      (normalizeJobPrefix_startsName tables options.jobPrefix) valid.toNamedNumbers combination.1
      combination.2.1 combination.2.2
  refine ⟨starts.1.isSafeName starts.2, ?_, ?_⟩
  · rw [← same]
    exact used_of_mem_matrixConditions inside
  · rw [← same]
    rfl

theorem stable_of_plansAdmissible
    (built : buildJobMatrix tables experimentId datasetId options = ⟨plans, []⟩)
    (admissible : PlansAdmissible lax plans) :
    ∀ tag ∈ options.preferredWorkerTags, strip tag = tag := by
  rcases buildJobMatrix_eq_plans built with ⟨valid, rfl⟩
  rcases exists_mem_matrixConditions valid with ⟨combination, member⟩
  rcases admissible.kept _ (List.mem_map_of_mem member) with ⟨config, -, kept⟩
  exact strip_of_kept kept

theorem plansAdmissible_of_stable (wholes : ReadsWholeNumbers lax)
    (built : buildJobMatrix tables experimentId datasetId options = ⟨plans, []⟩)
    (stable : ∀ tag ∈ options.preferredWorkerTags, strip tag = tag) :
    PlansAdmissible lax plans where
  distinct := buildJobMatrix_names_nodup built
  safe plan member := (plan_spec built member).1
  relayed plan member := by
    rcases plan_spec built member with ⟨name, used, planned⟩
    rw [planned]
    exact jobCreateRequest_createJobConfig (buildJobMatrix_eq_plans built).1 used name
  kept plan member := by
    rcases plan_spec built member with ⟨name, used, planned⟩
    rw [planned]
    exact createJobConfig_kept wholes (buildJobMatrix_eq_plans built).1 used name stable

/-- A form without errors has texts that are accepted. -/
theorem parsed_of_valid {gpuIdsText workerTags : String}
    (valid : ValidOptions experimentId datasetId (formOptions options gpuIdsText workerTags)) :
    (∃ gpuIds, parseGpuIds gpuIdsText = some gpuIds) ∧
      ∃ tags, parseWorkerTags workerTags = some tags := by
  constructor
  · rcases parsed : parseGpuIds gpuIdsText with _ | gpuIds
    · have length := valid.gpuIds.1.1
      rw [formOptions, parsed] at length
      cases length
    · exact ⟨gpuIds, rfl⟩
  · rcases parsed : parseWorkerTags workerTags with _ | tags
    · have accepted := valid.preferredWorkerTags.2.1
      rw [formOptions, parsed] at accepted
      have refused : isRefusedTag "" = true := by decide
      rw [accepted "" List.mem_cons_self] at refused
      cases refused
    · exact ⟨tags, rfl⟩

theorem edges_of_form {gpuIdsText workerTags : String}
    (built : buildJobMatrix tables experimentId datasetId
      (formOptions options gpuIdsText workerTags) = ⟨plans, []⟩) :
    ∀ tag ∈ (formOptions options gpuIdsText workerTags).preferredWorkerTags,
      strip tag = tag ↔ BareOfNextLines tag := by
  rcases (parsed_of_valid (buildJobMatrix_eq_plans built).1).2 with ⟨tags, parsed⟩
  intro tag member
  rw [formOptions, parsed] at member
  have accepted := parseWorkerTags_spec parsed tag member
  exact strip_eq_self_iff_bare accepted.1 accepted.2

/-- The plans of a form without errors are admissible if and only if no tag has a next-line
character at an edge. -/
theorem buildJobMatrix_admissible_iff {gpuIdsText workerTags : String}
    (wholes : ReadsWholeNumbers lax)
    (built : buildJobMatrix tables experimentId datasetId
      (formOptions options gpuIdsText workerTags) = ⟨plans, []⟩) :
    PlansAdmissible lax plans ↔
      ∀ tag ∈ (formOptions options gpuIdsText workerTags).preferredWorkerTags,
        BareOfNextLines tag := by
  constructor
  · exact fun admissible tag member => (edges_of_form built tag member).mp
      (stable_of_plansAdmissible built admissible tag member)
  · exact fun bare => plansAdmissible_of_stable wholes built fun tag member =>
      (edges_of_form built tag member).mpr (bare tag member)

end

/-! ## A next line in a tag -/

def plainTables : TextTables where
  normalizeNfkd := id
  toLowerCase := id

def plainForm : JobMatrixOptions where
  jobPrefix := "speaker-a"
  versions := [.v2]
  sampleRates := [.khz40]
  useF0 := true
  f0Methods := [.rmvpe]
  epochs := .finite ⟨false, 8, 1, by decide⟩
  batchSizePerGpu := .finite ⟨false, 8, 0, by decide⟩
  saveEveryEpoch := .finite ⟨false, 5, 0, by decide⟩
  saveOnlyLatest := false
  saveEveryWeights := true
  cacheDatasetInGpu := false
  gpuIds := []
  buildIndex := true
  minVramGb := .finite ⟨false, 245, -1, by decide⟩
  preferredWorkerTags := []
  priority := .finite ⟨false, 5, 0, by decide⟩

theorem readsWholeNumbers_wholeLax : ReadsWholeNumbers wholeLax := by
  have all : ∀ number < 1025, ((wholeFloat number).any fun value =>
      decide (value.negative = false ∧ value.decimal = (number : ℚ))) = true := by
    decide +kernel
  intro number bounded
  have read := all number (by omega)
  rcases given : wholeFloat number with _ | value
  · rw [given] at read
    cases read
  · rw [given, Option.any_some, decide_eq_true_eq] at read
    exact ⟨value, given, read⟩

def plainPlans (workerTags : String) : List JobMatrixPlan :=
  [matrixPlan plainTables "experiment-1" "dataset-1" (formOptions plainForm "0" workerTags) .v2
    .khz40 (some .rmvpe)]

theorem buildJobMatrix_plainForm {workerTags : String}
    (valid : validateOptions "experiment-1" "dataset-1" (formOptions plainForm "0" workerTags) =
      []) :
    buildJobMatrix plainTables "experiment-1" "dataset-1" (formOptions plainForm "0" workerTags) =
      ⟨plainPlans workerTags, []⟩ := by
  rw [buildJobMatrix, valid]
  rfl

theorem buildJobMatrix_admits_plainTags : PlansAdmissible wholeLax (plainPlans "24gb, rmvpe") :=
  (buildJobMatrix_admissible_iff readsWholeNumbers_wholeLax
    (buildJobMatrix_plainForm (by decide +kernel))).mpr (by decide +kernel)

/-- A tag that is a next-line character is planned and relayed, and the Manager refuses it. -/
theorem buildJobMatrix_plans_nextLine :
    parseGpuIds "0" = some [0] ∧ parseWorkerTags "\u0085" = some ["\u0085"] ∧
      buildJobMatrix plainTables "experiment-1" "dataset-1"
          { plainForm with gpuIds := [0], preferredWorkerTags := ["\u0085"] } =
        ⟨plainPlans "\u0085", []⟩ ∧
      (∀ lax, ¬PlansAdmissible lax (plainPlans "\u0085")) ∧
      ∀ plan ∈ plainPlans "\u0085", jobCreateRequest (some plan.config) = some plan.config ∧
        JobConfig.modelValidate .strict plan.config =
          .error (.value "worker tags cannot be empty") := by
  have built : buildJobMatrix plainTables "experiment-1" "dataset-1"
      (formOptions plainForm "0" "\u0085") = ⟨plainPlans "\u0085", []⟩ :=
    buildJobMatrix_plainForm (by decide +kernel)
  refine ⟨by decide +kernel, by decide +kernel, built, ?_, fun plan member => ⟨?_, ?_⟩⟩
  · intro lax admissible
    have stripped := stable_of_plansAdmissible built admissible "\u0085" (by decide +kernel)
    revert stripped
    decide +kernel
  · rcases plan_spec built member with ⟨name, used, planned⟩
    rw [planned]
    exact jobCreateRequest_createJobConfig (buildJobMatrix_eq_plans built).1 used name
  · rw [List.mem_singleton.mp member]
    decide +kernel

end RvcOrchestrator.Web.JobMatrix

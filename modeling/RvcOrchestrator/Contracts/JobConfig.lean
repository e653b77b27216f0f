import RvcOrchestrator.Foundation.Codec

/-! # The Job configuration contract

Every value of these types has passed the contract: the fields carry their
bounds and the records carry what their validators check. Each record comes
with the codec by which it is dumped to and validated from a JSON document.
-/

namespace RvcOrchestrator.Contracts

open RvcOrchestrator.Foundation

/-! ## Field types -/

inductive RVCVersion where
  | v1
  | v2
deriving DecidableEq, Repr

def RVCVersion.value : RVCVersion → String
  | v1 => "v1"
  | v2 => "v2"

inductive SampleRate where
  | khz40
  | khz48
deriving DecidableEq, Repr

def SampleRate.value : SampleRate → String
  | khz40 => "40k"
  | khz48 => "48k"

inductive TrainingF0Method where
  | pm
  | harvest
  | dio
  | rmvpe
  | rmvpeGpu
deriving DecidableEq, Repr

def TrainingF0Method.value : TrainingF0Method → String
  | pm => "pm"
  | harvest => "harvest"
  | dio => "dio"
  | rmvpe => "rmvpe"
  | rmvpeGpu => "rmvpe_gpu"

inductive InferenceF0Method where
  | pm
  | harvest
  | crepe
  | rmvpe
deriving DecidableEq, Repr

def InferenceF0Method.value : InferenceF0Method → String
  | pm => "pm"
  | harvest => "harvest"
  | crepe => "crepe"
  | rmvpe => "rmvpe"

inductive PretrainedMode where
  | auto
  | custom
deriving DecidableEq, Repr

def PretrainedMode.value : PretrainedMode → String
  | auto => "auto"
  | custom => "custom"

/-- The characters `str.strip` removes. -/
def isPythonSpace (char : Char) : Bool :=
  let code := char.toNat
  (9 ≤ code && code ≤ 13) || (28 ≤ code && code ≤ 32) || code == 0x85 || code == 0xA0 ||
    code == 0x1680 || (0x2000 ≤ code && code ≤ 0x200A) || code == 0x2028 || code == 0x2029 ||
    code == 0x202F || code == 0x205F || code == 0x3000

def stripChars (text : List Char) : List Char :=
  ((text.dropWhile isPythonSpace).reverse.dropWhile isPythonSpace).reverse

def strip (text : String) : String :=
  String.ofList (stripChars text.toList)

theorem dropWhile_idem (test : Char → Bool) (text : List Char) :
    (text.dropWhile test).dropWhile test = text.dropWhile test := by
  induction text with
  | nil => rfl
  | cons head tail induction =>
      by_cases drops : test head = true <;> simp [drops, induction]

/-- What `str.strip` returns starts and ends with characters that stay. -/
theorem stripChars_idem (text : List Char) : stripChars (stripChars text) = stripChars text := by
  have startStays : ∀ front : List Char, front.dropWhile isPythonSpace = front →
      ((front.reverse.dropWhile isPythonSpace).reverse).dropWhile isPythonSpace =
        (front.reverse.dropWhile isPythonSpace).reverse := by
    intro front stays
    match front with
    | [] => rfl
    | head :: tail =>
        have keeps : isPythonSpace head = false := by
          by_contra drops
          rw [Bool.not_eq_false] at drops
          have shorter : (head :: tail).dropWhile isPythonSpace =
              tail.dropWhile isPythonSpace := List.dropWhile_cons_of_pos drops
          have length := (List.dropWhile_suffix isPythonSpace (l := tail)).length_le
          rw [← shorter, stays] at length
          simp at length
        have last : ((head :: tail).reverse.dropWhile isPythonSpace) =
            tail.reverse.dropWhile isPythonSpace ++ [head] := by
          rw [List.reverse_cons, List.dropWhile_append]
          split
          · next empty =>
              rw [List.isEmpty_iff.mp empty]
              simp [keeps]
          · rfl
        rw [last, List.reverse_append]
        simp [keeps]
  have stays := startStays (text.dropWhile isPythonSpace) (dropWhile_idem _ text)
  unfold stripChars
  rw [stays, List.reverse_reverse, dropWhile_idem]

theorem strip_idem (text : String) : strip (strip text) = strip text := by
  rw [strip, strip, String.toList_ofList, stripChars_idem]

def isSafeIdentifierChar (char : Char) : Bool :=
  char.isAlphanum || char == '_' || char == '.' || char == '-'

/-- `^[A-Za-z0-9][A-Za-z0-9_.-]*$`, with the length bounds of `SafeName`. -/
def IsSafeName (text : String) : Prop :=
  match text.toList with
  | [] => False
  | head :: tail => head.isAlphanum = true ∧ (∀ char ∈ tail, isSafeIdentifierChar char = true) ∧
      tail.length < 128

instance (text : String) : Decidable (IsSafeName text) := by
  unfold IsSafeName
  cases text.toList with
  | nil => infer_instance
  | cons head tail =>
      letI : Decidable (∀ char ∈ tail, isSafeIdentifierChar char = true) :=
        List.decidableBAll _ tail
      infer_instance

abbrev SafeName := { text : String // IsSafeName text }

abbrev IntIn (low high : Int) := { number : Int // low ≤ number ∧ number ≤ high }

abbrev IntFrom (low : Int) := { number : Int // low ≤ number }

abbrev FloatIn (low high : ℚ) := { number : PyFloat // low ≤ number.decimal ∧ number.decimal ≤ high }

abbrev FloatFrom (low : ℚ) := { number : PyFloat // low ≤ number.decimal }

/-! ## Sections -/

structure RVCBackendConfig where
  repository : String
  rvcVersion : Option RVCVersion
  rvcCommitHash : Option String
deriving DecidableEq

structure ModelConfig where
  version : RVCVersion
  sampleRate : SampleRate
  useF0 : Bool
  speakerId : IntFrom 0
deriving DecidableEq

def truthy (text : Option String) : Bool :=
  match text with
  | none => false
  | some text => text ≠ ""

def unsafePath (path : Option String) : Bool :=
  match path with
  | none => false
  | some path => path.toList.head? == some '/' || ['.', '.'] ∈ path.toList.splitOn '/'

def validateCustomPaths (mode : PretrainedMode) (gPath dPath : Option String) :
    Except ValidationError Unit :=
  if mode = .custom ∧ (truthy gPath = false ∨ truthy dPath = false) then
    .error (.value "custom pretrained mode requires both g_path and d_path")
  else if unsafePath gPath || unsafePath dPath then
    .error (.value "pretrained paths must be safe relative paths")
  else .ok ()

structure PretrainedConfig where
  mode : PretrainedMode
  gPath : Option String
  dPath : Option String
  allowCustomOverride : Bool
  valid : validateCustomPaths mode gPath dPath = .ok ()
deriving DecidableEq

/-- Its three fields have one admissible value each. -/
structure TrainingFeatureConfig where
deriving DecidableEq

def validateGpuIds (value : List Int) : Except ValidationError Unit :=
  if value.any (· < 0) then .error (.value "GPU IDs must be non-negative")
  else if ¬value.Nodup then .error (.value "GPU IDs must be unique")
  else .ok ()

/-- `gpu_ids` has at least one element and has passed `validate_gpu_ids`. -/
abbrev GpuIds := { value : List Int // value ≠ [] ∧ validateGpuIds value = .ok () }

structure TrainingConfig where
  epochs : IntIn 1 100000
  batchSizePerGpu : IntIn 1 1024
  saveEveryEpoch : IntFrom 1
  saveOnlyLatest : Bool
  saveEveryWeights : Bool
  cacheDatasetInGpu : Bool
  gpuIds : GpuIds
deriving DecidableEq

def nonEmpty (value : Option (List Int)) : Bool :=
  match value with
  | none => false
  | some value => value ≠ []

def validateRmvpeGpuIds (method : Option TrainingF0Method) (gpuIds : Option (List Int)) :
    Except ValidationError Unit :=
  if method = some .rmvpeGpu ∧ nonEmpty gpuIds = false then
    .error (.value "rmvpe_gpu requires at least one rmvpe_gpu_id")
  else if method ≠ some .rmvpeGpu ∧ nonEmpty gpuIds = true then
    .error (.value "rmvpe_gpu_ids are only valid with rmvpe_gpu")
  else if (gpuIds.getD []).any (· < 0) then
    .error (.value "RMVPE GPU IDs must be non-negative")
  else .ok ()

structure F0ExtractionConfig where
  trainingF0Method : Option TrainingF0Method
  rmvpeGpuIds : Option (List Int)
  valid : validateRmvpeGpuIds trainingF0Method rmvpeGpuIds = .ok ()
deriving DecidableEq

structure IndexConfig where
  buildIndex : Bool
  collectTotalFea : Bool
  collectAddedIndex : Bool
deriving DecidableEq

def validateTestSet (enabled : Bool) (testSetId : Option String) :
    Except ValidationError Unit :=
  if enabled = true ∧ truthy testSetId = false then
    .error (.value "enabled sample generation requires test_set_id")
  else if enabled = false ∧ testSetId ≠ none then
    .error (.value "disabled sample generation requires test_set_id=null")
  else .ok ()

/-- Zero, or a rate the resampler supports. -/
abbrev InferenceResampleRate := { rate : Int // rate = 0 ∨ 16000 ≤ rate ∧ rate ≤ 192000 }

structure AutoInferenceSamplesConfig where
  enabled : Bool
  testSetId : Option String
  inferenceF0Method : InferenceF0Method
  transpose : IntIn (-48) 48
  indexRate : FloatIn 0 1
  filterRadius : IntIn 0 7
  resampleSr : InferenceResampleRate
  rmsMixRate : FloatIn 0 1
  protect : FloatIn 0 (1 / 2)
  valid : validateTestSet enabled testSetId = .ok ()
deriving DecidableEq

structure ArtifactCollectionConfig where
  collectCheckpoints : Bool
  collectSmallModel : Bool
  extractSmallModelIfMissing : Bool
  collectIndex : Bool
  collectTensorboard : Bool
  collectLogs : Bool
  collectSamples : Bool
deriving DecidableEq

def uniqueTags (value : List String) : Except ValidationError (List String) :=
  let stripped := value.map strip
  if stripped.any (· = "") then .error (.value "worker tags cannot be empty")
  else if ¬stripped.Nodup then .error (.value "worker tags must be unique")
  else .ok stripped

/-- At most 64 tags, as `unique_tags` leaves them. -/
abbrev WorkerTags := { tags : List String // tags.length ≤ 64 ∧ uniqueTags tags = .ok tags }

structure ResourceRequirements where
  minVramGb : FloatFrom 0
  preferredWorkerTags : WorkerTags
  priority : IntIn 0 10
deriving DecidableEq

/-! ## The whole configuration -/

def validateCrossFields (rvcBackend : RVCBackendConfig) (model : ModelConfig)
    (f0Extraction : F0ExtractionConfig) (index : IndexConfig)
    (autoInferenceSamples : AutoInferenceSamplesConfig) (artifacts : ArtifactCollectionConfig) :
    Except ValidationError Unit :=
  let indexRate := autoInferenceSamples.indexRate.1
  if rvcBackend.rvcVersion ≠ none ∧ rvcBackend.rvcVersion ≠ some model.version then
    .error (.value "backend and model RVC versions must match")
  else if model.useF0 = true ∧ f0Extraction.trainingF0Method = none then
    .error (.value "use_f0=true requires training_f0_method")
  else if model.useF0 = false ∧ f0Extraction.trainingF0Method ≠ none then
    .error (.value "use_f0=false requires training_f0_method=null")
  else if model.useF0 = false ∧ nonEmpty f0Extraction.rmvpeGpuIds = true then
    .error (.value "use_f0=false cannot declare rmvpe_gpu_ids")
  else if autoInferenceSamples.enabled = true ∧ index.buildIndex = false ∧
      indexRate.decimal ≠ 0 then
    .error (.value "sample generation without an index requires index_rate=0")
  else if autoInferenceSamples.enabled = true ∧ artifacts.collectSamples = false then
    .error (.value "sample generation requires collect_samples=true")
  else if autoInferenceSamples.enabled = true ∧ artifacts.collectSmallModel = false then
    .error (.value "sample generation requires collect_small_model=true")
  else if autoInferenceSamples.enabled = true ∧ 0 < indexRate.decimal ∧
      artifacts.collectIndex = false then
    .error (.value "sample generation with index_rate>0 requires collect_index=true")
  else if autoInferenceSamples.enabled = true ∧ 0 < indexRate.decimal ∧
      index.collectAddedIndex = false then
    .error (.value "sample generation with index_rate>0 requires collect_added_index=true")
  else .ok ()

structure JobConfig where
  jobName : SafeName
  experimentId : SafeName
  datasetId : SafeName
  rvcBackend : RVCBackendConfig
  model : ModelConfig
  pretrained : PretrainedConfig
  trainingFeature : TrainingFeatureConfig
  training : TrainingConfig
  f0Extraction : F0ExtractionConfig
  index : IndexConfig
  autoInferenceSamples : AutoInferenceSamplesConfig
  artifacts : ArtifactCollectionConfig
  resource : ResourceRequirements
  valid : validateCrossFields rvcBackend model f0Extraction index autoInferenceSamples
    artifacts = .ok ()
deriving DecidableEq

end RvcOrchestrator.Contracts

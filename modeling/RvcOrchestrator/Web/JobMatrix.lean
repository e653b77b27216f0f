import RvcOrchestrator.Foundation.Uuid
import RvcOrchestrator.Web.PublicValues

/-! # The matrix of Jobs that the browser plans

A form asks for several versions, sample rates and methods at once, and each combination becomes
a Job of its own, with a name that tells it from the others.
-/

namespace RvcOrchestrator.Web.JobMatrix

open RvcOrchestrator.Foundation RvcOrchestrator.Contracts RvcOrchestrator.Web
open RvcOrchestrator.Foundation.JsNumber (Number)

/-! ## Numbers -/

/-- A number of JavaScript, finite ones by the decimals that are written for them. -/
inductive Double where
  | finite (value : PyFloat)
  | infinite (negative : Bool)
  | nan
deriving DecidableEq

def Double.number : Double → Number
  | finite value => .finite value.decimal
  | infinite _ | nan => .notFinite

/-- The numbers that are written without a point and without an exponent. -/
def wholeNumber (value : PyFloat) : Option Int :=
  if value.decimal.den = 1 ∧ value.decimal.num.natAbs < 10 ^ 21 then some value.decimal.num
  else none

/-- `JSON.stringify` -/
def stringify : Double → Json
  | .finite value =>
      match wholeNumber value with
      | some number => .int number
      | none => .float value
  | .infinite _ | .nan => .null

/-- `String` -/
def numberText : Double → List Char
  | .finite value =>
      match wholeNumber value with
      | some number => Json.intText number
      | none =>
          let position := value.point
          (if value.negative then ['-'] else []) ++
            if 0 < position ∧ position ≤ 21 then
              value.digits.take position.toNat ++ '.' :: value.digits.drop position.toNat
            else if -6 < position ∧ position ≤ 0 then
              '0' :: '.' :: List.replicate (-position).toNat '0' ++ value.digits
            else
              PyFloat.scientificDigits value.digits ++ 'e' ::
                (if position - 1 < 0 then '-' else '+') :: Nat.toDigits 10 (position - 1).natAbs
  | .infinite negative => (if negative then "-Infinity" else "Infinity").toList
  | .nan => "NaN".toList

def integerInRange (value : Double) (minimum maximum : Int) : Bool :=
  value.number.safeInteger.any fun number => minimum ≤ number && number ≤ maximum

/-! ## The form -/

/-- `gpuIds` are whole numbers, as `parseGpuIds` leaves them. -/
structure JobMatrixOptions where
  jobPrefix : String
  versions : List RVCVersion
  sampleRates : List SampleRate
  useF0 : Bool
  f0Methods : List TrainingF0Method
  epochs : Double
  batchSizePerGpu : Double
  saveEveryEpoch : Double
  saveOnlyLatest : Bool
  saveEveryWeights : Bool
  cacheDatasetInGpu : Bool
  gpuIds : List Int
  buildIndex : Bool
  minVramGb : Double
  preferredWorkerTags : List String
  priority : Double

structure JobMatrixPlan where
  key : String
  jobName : String
  version : RVCVersion
  sampleRate : SampleRate
  f0Method : Option TrainingF0Method
  config : Json

structure JobMatrixResult where
  plans : List JobMatrixPlan
  errors : List String

def maxJobMatrixSize : Nat := 16

def rvcVersions : List RVCVersion := [.v1, .v2]

def sampleRates : List SampleRate := [.khz40, .khz48]

def trainingF0Methods : List TrainingF0Method := [.pm, .harvest, .dio, .rmvpe, .rmvpeGpu]

/-- `value.split(",").map((part) => part.trim())` -/
def trimmedParts (value : String) : List String :=
  (value.toList.splitOn ',').map fun part => trim (String.ofList part)

/-- `/^(0|[1-9][0-9]*)$/` -/
def isPlainInteger (part : String) : Bool :=
  match part.toList with
  | [] => false
  | ['0'] => true
  | head :: tail => '1' ≤ head && head ≤ '9' && tail.all Char.isDigit

/-- Digits that are too many for a safe integer are rounded to no safe one either. -/
def parseGpuIds (value : String) : Option (List Int) :=
  let parts := trimmedParts value
  if parts.length < 1 ∨ 16 < parts.length ∨ parts.any (!isPlainInteger ·) then none
  else
    let parsed : List Int := parts.map fun part => Nat.ofDigitChars 10 part.toList 0
    if parsed.any fun item => JsNumber.maxSafeInteger < item || item < 0 || 31 < item then none
    else if parsed.Nodup then some parsed
    else none

/-- `tag.length < 1 || tag.length > 128 || /[\u0000-\u001f\u007f]/.test(tag)` -/
def isRefusedTag (tag : String) : Bool :=
  utf16Length tag < 1 || 128 < utf16Length tag || hasControlCharacter tag

def parseWorkerTags (value : String) : Option (List String) :=
  if trim value = "" then some []
  else
    let tags := trimmedParts value
    if 64 < tags.length ∨ tags.any isRefusedTag ∨ ¬tags.Nodup then none else some tags

def formOptions (options : JobMatrixOptions) (gpuIdsText workerTags : String) :
    JobMatrixOptions :=
  { options with
    gpuIds := (parseGpuIds gpuIdsText).getD []
    preferredWorkerTags := (parseWorkerTags workerTags).getD [""] }

def safeIdentifier (text : String) : Bool := IsSafeName text

def validateOptions (experimentId datasetId : String) (options : JobMatrixOptions) :
    List String :=
  (if !safeIdentifier experimentId || !safeIdentifier datasetId then
    ["Experiment 또는 Dataset ID가 올바르지 않습니다."] else []) ++
  (if options.versions.length = 0 then ["RVC 버전을 하나 이상 선택해 주세요."] else []) ++
  (if options.sampleRates.length = 0 then ["sample rate를 하나 이상 선택해 주세요."] else []) ++
  (if options.useF0 && options.f0Methods.length = 0 then
    ["F0를 사용할 때는 학습용 F0 방식을 하나 이상 선택해 주세요."] else []) ++
  (if !integerInRange options.epochs 1 100000 then
    ["epoch는 1~100000이어야 합니다."] else []) ++
  (if !integerInRange options.batchSizePerGpu 1 1024 then
    ["GPU당 batch는 1~1024여야 합니다."] else []) ++
  (if !integerInRange options.saveEveryEpoch 1 100000 then
    ["checkpoint 저장 간격은 1~100000이어야 합니다."] else []) ++
  (if options.gpuIds.length < 1 ∨ 16 < options.gpuIds.length ∨
      options.gpuIds.any (fun id => id < 0 || 31 < id) ∨ ¬options.gpuIds.Nodup then
    ["GPU ID는 중복 없이 0~31 범위에서 1~16개여야 합니다."] else []) ++
  (match options.minVramGb.number with
    | .finite number =>
        if number < 0 ∨ 1024 < number then ["최소 VRAM은 0~1024 GiB여야 합니다."] else []
    | .notFinite => ["최소 VRAM은 0~1024 GiB여야 합니다."]) ++
  (if !integerInRange options.priority 0 10 then ["우선순위는 0~10이어야 합니다."] else []) ++
  (if 64 < options.preferredWorkerTags.length ∨ options.preferredWorkerTags.any isRefusedTag ∨
      ¬options.preferredWorkerTags.Nodup then
    ["Worker tag는 중복 없이 각 1~128자, 최대 64개여야 합니다."] else [])

/-! ## Names -/

/-- How JavaScript decomposes texts and lowers their case. -/
structure TextTables where
  normalizeNfkd : String → String
  toLowerCase : String → String

/-- `text.replace(/[…]{least,}/g, "-")`; `run` are the characters of the class that have just
been read. -/
def replaceRuns (inClass : Char → Bool) (least : Nat) (run : List Char) : List Char → List Char
  | [] => if run ≠ [] ∧ least ≤ run.length then ['-'] else run
  | char :: rest =>
      if inClass char then replaceRuns inClass least (run ++ [char]) rest
      else
        (if run ≠ [] ∧ least ≤ run.length then ['-'] else run) ++
          char :: replaceRuns inClass least [] rest

def isNameSeparator (char : Char) : Bool := char = '_' || char = '.' || char = '-'

/-- `[a-z0-9_.-]` -/
def isPrefixChar (char : Char) : Bool :=
  char.isLower || char.isDigit || isNameSeparator char

def isCombiningMark (char : Char) : Bool := 0x300 ≤ char.toNat && char.toNat ≤ 0x36F

def normalizeJobPrefix (tables : TextTables) (value : String) : String :=
  let bare := (tables.normalizeNfkd value).toList.filter fun char => !isCombiningMark char
  let lower := trim (tables.toLowerCase (String.ofList bare))
  let replaced := replaceRuns (!isPrefixChar ·) 1 [] lower.toList
  let edged := (replaced.dropWhile isNameSeparator).rdropWhile isNameSeparator
  let normalized := replaceRuns isNameSeparator 2 [] edged
  if normalized = [] then "rvc-job" else String.ofList normalized

def utf16Codes (text : List Char) : List (BitVec 32) :=
  text.flatMap fun char =>
    let code := char.toNat
    if code < 0x10000 then [.ofNat 32 code]
    else
      [.ofNat 32 (0xD800 + (code - 0x10000) / 0x400),
        .ofNat 32 (0xDC00 + (code - 0x10000) % 0x400)]

def stableSignature (value : List Char) : List Char :=
  let hash := (utf16Codes value).foldl (fun hash code => (hash ^^^ code) * 0x01000193#32)
    0x811C9DC5#32
  hexDigits 8 hash.toNat

def condition (version : RVCVersion) (sampleRate : SampleRate)
    (f0Method : Option TrainingF0Method) : List Char :=
  version.value.toList ++ '-' :: sampleRate.value.toList ++
    '-' :: (f0Method.elim "nof0" TrainingF0Method.value).toList

/-- `Number(flag)`, written. -/
def flagText (flag : Bool) : List Char := if flag then ['1'] else ['0']

def signature (version : RVCVersion) (sampleRate : SampleRate)
    (f0Method : Option TrainingF0Method) (options : JobMatrixOptions) : List Char :=
  stableSignature (['|'].intercalate
    [condition version sampleRate f0Method, numberText options.epochs,
      numberText options.batchSizePerGpu, numberText options.saveEveryEpoch,
      flagText options.saveOnlyLatest, flagText options.saveEveryWeights,
      flagText options.cacheDatasetInGpu, ['.'].intercalate (options.gpuIds.map Json.intText),
      flagText options.buildIndex, numberText options.minVramGb,
      ['.'].intercalate (options.preferredWorkerTags.map String.toList),
      numberText options.priority])

def nameTail (version : RVCVersion) (sampleRate : SampleRate)
    (f0Method : Option TrainingF0Method) (options : JobMatrixOptions) : List Char :=
  '-' :: 'e' :: numberText options.epochs ++ '-' :: 'b' :: numberText options.batchSizePerGpu ++
    '-' :: signature version sampleRate f0Method options

/-- The prefix is cut so that the name has 128 characters at most. -/
def deterministicJobName (jobPrefix : String) (version : RVCVersion) (sampleRate : SampleRate)
    (f0Method : Option TrainingF0Method) (options : JobMatrixOptions) : String :=
  let suffix := condition version sampleRate f0Method ++
    nameTail version sampleRate f0Method options
  let available : Int := 128 - suffix.length - 1
  let cut := (jobPrefix.toList.take (max 1 available).toNat).rdropWhile isNameSeparator
  let safePrefix := if cut = [] then "rvc".toList else cut
  String.ofList (safePrefix ++ '-' :: suffix)

/-! ## Plans -/

def officialRepository : String := "RVC-Project/Retrieval-based-Voice-Conversion-WebUI"

theorem indexRate_normal : 75 % 10 ≠ 0 ∧ 75 < 10 ^ 17 := by decide

theorem rmsMixRate_normal : 25 % 10 ≠ 0 ∧ 25 < 10 ^ 17 := by decide

theorem protect_normal : 33 % 10 ≠ 0 ∧ 33 < 10 ^ 17 := by decide

def createJobConfig (experimentId datasetId jobName : String) (version : RVCVersion)
    (sampleRate : SampleRate) (f0Method : Option TrainingF0Method) (options : JobMatrixOptions) :
    Json :=
  let buildIndex := options.buildIndex
  let gpuIds := Json.array (options.gpuIds.map .int)
  .object
    [("schema_version", .str "1.0"), ("job_name", .str jobName),
      ("experiment_id", .str experimentId), ("dataset_id", .str datasetId),
      ("rvc_backend", .object
        [("backend_type", .str "rvc_webui"), ("repository", .str officialRepository),
          ("rvc_version", .str version.value), ("rvc_commit_hash", .null)]),
      ("model", .object
        [("version", .str version.value), ("sample_rate", .str sampleRate.value),
          ("use_f0", .bool options.useF0), ("speaker_id", .int 0)]),
      ("pretrained", .object
        [("mode", .str "auto"), ("g_path", .null), ("d_path", .null),
          ("allow_custom_override", .bool false)]),
      ("training_feature", .object
        [("feature_dir_policy", .str "auto"), ("v1_feature_dir", .str "3_feature256"),
          ("v2_feature_dir", .str "3_feature768")]),
      ("training", .object
        [("epochs", stringify options.epochs),
          ("batch_size_per_gpu", stringify options.batchSizePerGpu),
          ("save_every_epoch", stringify options.saveEveryEpoch),
          ("save_only_latest", .bool options.saveOnlyLatest),
          ("save_every_weights", .bool options.saveEveryWeights),
          ("cache_dataset_in_gpu", .bool options.cacheDatasetInGpu), ("gpu_ids", gpuIds)]),
      ("f0_extraction", .object
        [("training_f0_method",
            orNull (fun method => .str (TrainingF0Method.value method)) f0Method),
          ("rmvpe_gpu_ids", if f0Method = some .rmvpeGpu then gpuIds else .null)]),
      ("index", .object
        [("build_index", .bool buildIndex), ("collect_total_fea", .bool buildIndex),
          ("collect_added_index", .bool buildIndex)]),
      ("auto_inference_samples", .object
        [("enabled", .bool false), ("test_set_id", .null), ("inference_f0_method", .str "rmvpe"),
          ("transpose", .int 0), ("index_rate", .float (hundredths 75 indexRate_normal)),
          ("filter_radius", .int 3), ("resample_sr", .int 0),
          ("rms_mix_rate", .float (hundredths 25 rmsMixRate_normal)),
          ("protect", .float (hundredths 33 protect_normal))]),
      ("artifacts", .object
        [("collect_checkpoints", .bool true), ("collect_small_model", .bool true),
          ("extract_small_model_if_missing", .bool true), ("collect_index", .bool buildIndex),
          ("collect_tensorboard", .bool true), ("collect_logs", .bool true),
          ("collect_samples", .bool false)]),
      ("resource", .object
        [("min_vram_gb", stringify options.minVramGb),
          ("preferred_worker_tags", .array (options.preferredWorkerTags.map .str)),
          ("priority", stringify options.priority)])]

def orderedUnique {Value : Type} [DecidableEq Value] (values order : List Value) : List Value :=
  order.filter fun value => value ∈ values

def matrixMethods (options : JobMatrixOptions) : List (Option TrainingF0Method) :=
  if options.useF0 then (orderedUnique options.f0Methods trainingF0Methods).map some else [none]

def matrixPlan (tables : TextTables) (experimentId datasetId : String)
    (options : JobMatrixOptions) (version : RVCVersion) (sampleRate : SampleRate)
    (f0Method : Option TrainingF0Method) : JobMatrixPlan :=
  let jobName := deterministicJobName (normalizeJobPrefix tables options.jobPrefix) version
    sampleRate f0Method options
  { key := jobName
    jobName := jobName
    version := version
    sampleRate := sampleRate
    f0Method := f0Method
    config :=
      createJobConfig experimentId datasetId jobName version sampleRate f0Method options }

def buildJobMatrix (tables : TextTables) (experimentId datasetId : String)
    (options : JobMatrixOptions) : JobMatrixResult :=
  let errors := validateOptions experimentId datasetId options
  if errors.length > 0 then ⟨[], errors⟩
  else
    let versions := orderedUnique options.versions rvcVersions
    let rates := orderedUnique options.sampleRates sampleRates
    let methods := matrixMethods options
    if versions.length * rates.length * methods.length > maxJobMatrixSize then
      ⟨[], ["조합은 최대 16개까지 한 번에 만들 수 있습니다."]⟩
    else
      ⟨versions.flatMap fun version => rates.flatMap fun sampleRate => methods.map fun f0Method =>
        matrixPlan tables experimentId datasetId options version sampleRate f0Method, []⟩

/-! ## What a name is made of -/

theorem whole_of_integerInRange {value : Double} {minimum maximum : Int}
    (inside : integerInRange value minimum maximum = true) :
    ∃ number, (minimum ≤ number ∧ number ≤ maximum) ∧ stringify value = .int number ∧
      numberText value = Json.intText number := by
  rw [integerInRange] at inside
  rcases safe : value.number.safeInteger with _ | number
  · simp [safe] at inside
  · simp only [safe, Option.any_some, Bool.and_eq_true, decide_eq_true_eq] at inside
    rcases value with value | negative | _
    · rw [Double.number, Number.safeInteger] at safe
      split at safe
      · next small =>
          have large : JsNumber.maxSafeInteger < 10 ^ 21 := by decide
          have whole : wholeNumber value = some number := by
            rw [wholeNumber, if_pos ⟨small.1, by omega⟩, safe]
          exact ⟨number, inside, by rw [stringify, whole], by rw [numberText, whole]⟩
      · cases safe
    · cases safe
    · cases safe

section

variable {inClass : Char → Bool} {least : Nat} {run text : List Char} {char : Char}

theorem mem_replaceRuns (member : char ∈ replaceRuns inClass least run text) :
    char = '-' ∨ char ∈ run ∨ char ∈ text := by
  induction text generalizing run with
  | nil =>
      rw [replaceRuns] at member
      split at member
      · exact .inl (List.mem_singleton.mp member)
      · exact .inr (.inl member)
  | cons head rest induction =>
      rw [replaceRuns] at member
      split at member
      · rcases induction member with hyphen | pending | later
        · exact .inl hyphen
        · rcases List.mem_append.mp pending with before | last
          · exact .inr (.inl before)
          · exact .inr (.inr (List.mem_singleton.mp last ▸ List.mem_cons_self))
        · exact .inr (.inr (List.mem_cons_of_mem head later))
      · rcases List.mem_append.mp member with closed | later
        · split at closed
          · exact .inl (List.mem_singleton.mp closed)
          · exact .inr (.inl closed)
        · rcases List.mem_cons.mp later with rfl | later
          · exact .inr (.inr List.mem_cons_self)
          · rcases induction later with hyphen | pending | later
            · exact .inl hyphen
            · cases pending
            · exact .inr (.inr (List.mem_cons_of_mem head later))

/-- Where every run is replaced, nothing of the class is left. -/
theorem not_inClass_of_mem_replaceRuns (member : char ∈ replaceRuns inClass 1 run text) :
    char = '-' ∨ inClass char = false := by
  have closed : ∀ run : List Char, char ∈ (if run ≠ [] ∧ 1 ≤ run.length then ['-'] else run) →
      char = '-' := by
    intro run member
    split at member
    · exact List.mem_singleton.mp member
    · next short =>
        rcases run with _ | ⟨head, rest⟩
        · cases member
        · exact absurd ⟨List.cons_ne_nil head rest, Nat.le_add_left 1 _⟩ short
  induction text generalizing run with
  | nil => exact .inl (closed run member)
  | cons head rest induction =>
      rw [replaceRuns] at member
      split at member
      · exact induction member
      · next other =>
          rcases List.mem_append.mp member with before | later
          · exact .inl (closed run before)
          · rcases List.mem_cons.mp later with rfl | later
            · exact .inr (Bool.eq_false_of_not_eq_true other)
            · exact induction later

end

theorem isPrefixChar_safe {char : Char} (given : isPrefixChar char = true) :
    isSafeIdentifierChar char = true := by
  simp only [isPrefixChar, isNameSeparator, Bool.or_eq_true, decide_eq_true_eq] at given
  have letter : char.isAlpha = (char.isUpper || char.isLower) := rfl
  simp only [isSafeIdentifierChar, Char.isAlphanum, letter, Bool.or_eq_true, beq_iff_eq]
  tauto

theorem isPrefixChar_alphanum {char : Char} (given : isPrefixChar char = true)
    (inside : isNameSeparator char = false) : char.isAlphanum = true := by
  simp only [isPrefixChar, inside, Bool.or_false, Bool.or_eq_true] at given
  have letter : char.isAlpha = (char.isUpper || char.isLower) := rfl
  simp only [Char.isAlphanum, letter, Bool.or_eq_true]
  tauto

/-- A text that a safe name may begin with. -/
def StartsName (text : List Char) : Prop :=
  (∃ head ∈ text.head?, head.isAlphanum = true) ∧ ∀ char ∈ text, isSafeIdentifierChar char = true

theorem startsName_cons {head : Char} {tail : List Char} :
    StartsName (head :: tail) ↔
      head.isAlphanum = true ∧ ∀ char ∈ tail, isSafeIdentifierChar char = true := by
  constructor
  · rintro ⟨⟨_, ⟨⟩, first⟩, safe⟩
    exact ⟨first, fun char member => safe char (List.mem_cons_of_mem head member)⟩
  · rintro ⟨first, safe⟩
    refine ⟨⟨head, rfl, first⟩, fun char member => ?_⟩
    rcases List.mem_cons.mp member with rfl | later
    · simp [isSafeIdentifierChar, first]
    · exact safe char later

theorem not_startsName_nil : ¬StartsName [] := by
  rintro ⟨⟨_, none, -⟩, -⟩
  cases none

theorem not_isNameSeparator_of_alphanum {char : Char} (given : char.isAlphanum = true) :
    isNameSeparator char = false := by
  by_contra separator
  simp only [Bool.not_eq_false, isNameSeparator, Bool.or_eq_true, decide_eq_true_eq] at separator
  rcases separator with (rfl | rfl) | rfl <;> revert given <;> decide

/-- Cutting at the end leaves a beginning that does not end in a separator. -/
theorem StartsName.rdropWhile {text : List Char} (starts : StartsName text) :
    StartsName (text.rdropWhile isNameSeparator) := by
  rcases text with _ | ⟨head, tail⟩
  · exact absurd starts not_startsName_nil
  · rw [startsName_cons] at starts
    have first := List.rdropWhile_prefix isNameSeparator (head :: tail)
    rcases kept : (head :: tail).rdropWhile isNameSeparator with _ | ⟨char, rest⟩
    · have separator := List.rdropWhile_eq_nil_iff.mp kept head List.mem_cons_self
      rw [not_isNameSeparator_of_alphanum starts.1] at separator
      cases separator
    · rw [kept, List.cons_prefix_cons] at first
      rcases first with ⟨rfl, rest⟩
      exact startsName_cons.mpr
        ⟨starts.1, fun other member => starts.2 other (rest.subset member)⟩

theorem StartsName.take {text : List Char} (starts : StartsName text) {count : Nat}
    (some_ : 1 ≤ count) : StartsName (text.take count) := by
  rcases text with _ | ⟨head, tail⟩
  · exact absurd starts not_startsName_nil
  · rw [startsName_cons] at starts
    rcases count with _ | count
    · cases some_
    · exact startsName_cons.mpr
        ⟨starts.1, fun char member => starts.2 char (List.mem_of_mem_take member)⟩

theorem normalizeJobPrefix_startsName (tables : TextTables) (value : String) :
    StartsName (normalizeJobPrefix tables value).toList := by
  unfold normalizeJobPrefix
  simp only
  generalize (trim (tables.toLowerCase _)).toList = lower
  generalize edged : ((replaceRuns (!isPrefixChar ·) 1 [] lower).dropWhile
    isNameSeparator).rdropWhile isNameSeparator = text
  have known : ∀ char ∈ text, isPrefixChar char = true := by
    intro char member
    have inReplaced : char ∈ replaceRuns (!isPrefixChar ·) 1 [] lower := by
      rw [← edged] at member
      exact (List.dropWhile_suffix _).subset ((List.rdropWhile_prefix _ _).subset member)
    rcases not_inClass_of_mem_replaceRuns inReplaced with rfl | other
    · decide
    · simpa using other
  split
  · exact startsName_cons.mpr ⟨by decide, List.all_eq_true.mp (by decide)⟩
  · next some_ =>
      rw [String.toList_ofList]
      rcases text with _ | ⟨head, tail⟩
      · exact absurd rfl some_
      · have first : isNameSeparator head = false := by
          have front := List.rdropWhile_prefix isNameSeparator
            ((replaceRuns (!isPrefixChar ·) 1 [] lower).dropWhile isNameSeparator)
          rw [edged] at front
          rcases front with ⟨rest, whole⟩
          have head_ := List.head?_dropWhile_not isNameSeparator
            (replaceRuns (!isPrefixChar ·) 1 [] lower)
          rw [← whole] at head_
          simpa using head_
        have collapsed : replaceRuns isNameSeparator 2 [] (head :: tail) =
            head :: replaceRuns isNameSeparator 2 [] tail := by
          rw [replaceRuns, if_neg (by simp [first])]
          rfl
        rw [collapsed, startsName_cons]
        refine ⟨isPrefixChar_alphanum (known head List.mem_cons_self) first, ?_⟩
        intro char member
        rcases mem_replaceRuns member with rfl | pending | later
        · decide
        · cases pending
        · exact isPrefixChar_safe (known char (List.mem_cons_of_mem head later))

theorem isDigit_of_mem_intText {number : Int} {char : Char} (natural : 0 ≤ number)
    (member : char ∈ Json.intText number) : char.isDigit = true := by
  rw [Json.intText, if_neg (by omega)] at member
  exact Nat.isDigit_of_mem_toDigits (by decide) (by decide) member

theorem length_intText_le {number : Int} {count : Nat} (natural : 0 ≤ number) (some_ : 0 < count)
    (below : number < 10 ^ count) : (Json.intText number).length ≤ count := by
  rw [Json.intText, if_neg (by omega)]
  apply (Nat.length_toDigits_le_iff (by decide) some_).mpr
  have cast : ((number.natAbs : Nat) : Int) < ((10 ^ count : Nat) : Int) := by
    rw [Int.natAbs_of_nonneg natural]
    exact_mod_cast below
  exact_mod_cast cast

/-! ## Safe names -/

theorem StartsName.isSafeName {text : String} (starts : StartsName text.toList)
    (short : text.toList.length ≤ 128) : IsSafeName text := by
  rw [IsSafeName]
  generalize text.toList = chars at *
  rcases chars with _ | ⟨head, tail⟩
  · exact absurd starts not_startsName_nil
  · rw [startsName_cons] at starts
    exact ⟨starts.1, starts.2, short⟩

theorem StartsName.append {text rest : List Char} (starts : StartsName text)
    (safe : ∀ char ∈ rest, isSafeIdentifierChar char = true) : StartsName (text ++ rest) := by
  rcases text with _ | ⟨head, tail⟩
  · exact absurd starts not_startsName_nil
  · rw [startsName_cons] at starts
    refine startsName_cons.mpr ⟨starts.1, fun char member => ?_⟩
    rcases List.mem_append.mp member with first | later
    · exact starts.2 char first
    · exact safe char later

theorem condition_safe (version : RVCVersion) (sampleRate : SampleRate)
    (f0Method : Option TrainingF0Method) :
    (condition version sampleRate f0Method).length ≤ 16 ∧
      ∀ char ∈ condition version sampleRate f0Method, isSafeIdentifierChar char = true := by
  rw [← List.all_eq_true]
  cases version <;> cases sampleRate <;> rcases f0Method with _ | _ | _ | _ | _ | _ <;> decide

theorem isSafeIdentifierChar_of_isDigit {char : Char} (digit : char.isDigit = true) :
    isSafeIdentifierChar char = true := by
  simp [isSafeIdentifierChar, Char.isAlphanum, digit]

theorem length_signature (version : RVCVersion) (sampleRate : SampleRate)
    (f0Method : Option TrainingF0Method) (options : JobMatrixOptions) :
    (signature version sampleRate f0Method options).length = 8 :=
  length_hexDigits ..

theorem signature_safe {version : RVCVersion} {sampleRate : SampleRate}
    {f0Method : Option TrainingF0Method} {options : JobMatrixOptions} {char : Char}
    (member : char ∈ signature version sampleRate f0Method options) :
    isSafeIdentifierChar char = true := by
  have safe : "0123456789abcdef".toList.all isSafeIdentifierChar = true := by decide
  exact List.all_eq_true.mp safe char (mem_hexDigits member)

structure NamedNumbers (options : JobMatrixOptions) : Prop where
  epochs : integerInRange options.epochs 1 100000 = true
  batchSizePerGpu : integerInRange options.batchSizePerGpu 1 1024 = true

theorem numberText_safe {value : Double} {maximum : Int} (count : Nat) (some_ : 0 < count)
    (below : maximum < 10 ^ count) (inside : integerInRange value 1 maximum = true) :
    (numberText value).length ≤ count ∧
      ∀ char ∈ numberText value, isSafeIdentifierChar char = true := by
  rcases whole_of_integerInRange inside with ⟨number, bounds, -, text⟩
  rw [text]
  exact ⟨length_intText_le (by omega) some_ (by omega), fun char member =>
    isSafeIdentifierChar_of_isDigit (isDigit_of_mem_intText (by omega) member)⟩

theorem nameTail_safe {options : JobMatrixOptions} (numbers : NamedNumbers options)
    (version : RVCVersion) (sampleRate : SampleRate) (f0Method : Option TrainingF0Method) :
    (nameTail version sampleRate f0Method options).length ≤ 23 ∧
      ∀ char ∈ nameTail version sampleRate f0Method options,
        isSafeIdentifierChar char = true := by
  have epochs := numberText_safe 6 (by decide) (by decide) numbers.epochs
  have batch := numberText_safe 4 (by decide) (by decide) numbers.batchSizePerGpu
  constructor
  · have written := length_signature version sampleRate f0Method options
    simp only [nameTail, List.length_cons, List.length_append]
    omega
  · intro char member
    simp only [nameTail, List.cons_append, List.mem_cons, List.mem_append] at member
    rcases member with rfl | rfl | ((written | rfl | rfl | written) | rfl | written)
    · decide
    · decide
    · exact epochs.2 char written
    · decide
    · decide
    · exact batch.2 char written
    · decide
    · exact signature_safe written

def cutPrefix (jobPrefix : String) (suffix : List Char) : List Char :=
  let available : Int := 128 - suffix.length - 1
  let cut := (jobPrefix.toList.take (max 1 available).toNat).rdropWhile isNameSeparator
  if cut = [] then "rvc".toList else cut

theorem deterministicJobName_eq (jobPrefix : String) (version : RVCVersion)
    (sampleRate : SampleRate) (f0Method : Option TrainingF0Method) (options : JobMatrixOptions) :
    deterministicJobName jobPrefix version sampleRate f0Method options =
      String.ofList (cutPrefix jobPrefix
        (condition version sampleRate f0Method ++ nameTail version sampleRate f0Method options) ++
          '-' :: (condition version sampleRate f0Method ++
            nameTail version sampleRate f0Method options)) := rfl

theorem cutPrefix_startsName {jobPrefix : String} (starts : StartsName jobPrefix.toList)
    {suffix : List Char} (short : suffix.length ≤ 126) :
    StartsName (cutPrefix jobPrefix suffix) ∧
      (cutPrefix jobPrefix suffix).length + suffix.length ≤ 127 := by
  have count : 1 ≤ (max 1 (128 - suffix.length - 1 : Int)).toNat := by omega
  have cut := (starts.take count).rdropWhile
  have length := (List.rdropWhile_prefix isNameSeparator
    (jobPrefix.toList.take (max 1 (128 - suffix.length - 1 : Int)).toNat)).length_le
  rw [List.length_take] at length
  unfold cutPrefix
  simp only
  split
  · next empty =>
      rw [empty] at cut
      exact absurd cut not_startsName_nil
  · exact ⟨cut, by omega⟩

/-- Whatever the prefix is, the name is a safe identifier. -/
theorem deterministicJobName_startsName {jobPrefix : String}
    (starts : StartsName jobPrefix.toList) {options : JobMatrixOptions}
    (numbers : NamedNumbers options) (version : RVCVersion) (sampleRate : SampleRate)
    (f0Method : Option TrainingF0Method) :
    StartsName
        (deterministicJobName jobPrefix version sampleRate f0Method options).toList ∧
      (deterministicJobName jobPrefix version sampleRate f0Method options).toList.length ≤ 128 := by
  have conditionSafe := condition_safe version sampleRate f0Method
  have tailSafe := nameTail_safe numbers version sampleRate f0Method
  rw [deterministicJobName_eq, String.toList_ofList]
  generalize condition version sampleRate f0Method = front at *
  generalize nameTail version sampleRate f0Method options = tail at *
  have length : (front ++ tail).length = front.length + tail.length := List.length_append
  have cut := @cutPrefix_startsName _ starts (front ++ tail) (by omega)
  constructor
  · apply cut.1.append
    intro char member
    rcases List.mem_cons.mp member with rfl | inSuffix
    · decide
    · rcases List.mem_append.mp inSuffix with inCondition | inTail
      · exact conditionSafe.2 char inCondition
      · exact tailSafe.2 char inTail
  · rw [List.length_append, List.length_cons]
    omega

/-! ## Distinct names -/

def nullableMethods : List (Option TrainingF0Method) := none :: trainingF0Methods.map some

theorem mem_nullableMethods (method : Option TrainingF0Method) : method ∈ nullableMethods := by
  rcases method with _ | _ | _ | _ | _ | _ <;> decide

/-- No condition ends another one. -/
theorem condition_eq_of_suffix {version otherVersion : RVCVersion}
    {sampleRate otherRate : SampleRate} {f0Method otherMethod : Option TrainingF0Method}
    (ends : '-' :: condition version sampleRate f0Method <:+
      '-' :: condition otherVersion otherRate otherMethod) :
    version = otherVersion ∧ sampleRate = otherRate ∧ f0Method = otherMethod := by
  have all : ∀ version ∈ rvcVersions, ∀ sampleRate ∈ sampleRates, ∀ f0Method ∈ nullableMethods,
      ∀ otherVersion ∈ rvcVersions, ∀ otherRate ∈ sampleRates, ∀ otherMethod ∈ nullableMethods,
        '-' :: condition version sampleRate f0Method <:+
          '-' :: condition otherVersion otherRate otherMethod →
        version = otherVersion ∧ sampleRate = otherRate ∧ f0Method = otherMethod := by
    decide +kernel
  have versions : ∀ version : RVCVersion, version ∈ rvcVersions := by
    rintro (_ | _) <;> decide
  have rates : ∀ rate : SampleRate, rate ∈ sampleRates := by
    rintro (_ | _) <;> decide
  exact all version (versions _) sampleRate (rates _) f0Method (mem_nullableMethods _)
    otherVersion (versions _) otherRate (rates _) otherMethod (mem_nullableMethods _) ends

theorem length_nameTail (version otherVersion : RVCVersion) (sampleRate otherRate : SampleRate)
    (f0Method otherMethod : Option TrainingF0Method) (options : JobMatrixOptions) :
    (nameTail version sampleRate f0Method options).length =
      (nameTail otherVersion otherRate otherMethod options).length := by
  simp [nameTail, length_signature]

/-- The prefixes are cut at different lengths, but the conditions before the common ends of two
equal names end at one place. -/
theorem deterministicJobName_injective {jobPrefix : String} {version otherVersion : RVCVersion}
    {sampleRate otherRate : SampleRate} {f0Method otherMethod : Option TrainingF0Method}
    {options : JobMatrixOptions}
    (same : deterministicJobName jobPrefix version sampleRate f0Method options =
      deterministicJobName jobPrefix otherVersion otherRate otherMethod options) :
    version = otherVersion ∧ sampleRate = otherRate ∧ f0Method = otherMethod := by
  rw [deterministicJobName_eq, deterministicJobName_eq] at same
  have chars := String.ofList_injective same
  generalize cutPrefix jobPrefix _ = first at chars
  generalize cutPrefix jobPrefix _ = second at chars
  rw [← List.cons_append, ← List.cons_append, ← List.append_assoc, ← List.append_assoc] at chars
  have fronts := (List.append_inj' chars (length_nameTail ..)).1
  have left : '-' :: condition version sampleRate f0Method <:+
      second ++ '-' :: condition otherVersion otherRate otherMethod :=
    ⟨first, fronts⟩
  have right : '-' :: condition otherVersion otherRate otherMethod <:+
      second ++ '-' :: condition otherVersion otherRate otherMethod :=
    List.suffix_append ..
  rcases List.suffix_or_suffix_of_suffix left right with ends | ends
  · exact condition_eq_of_suffix ends
  · rcases condition_eq_of_suffix ends with ⟨versions, rates, methods⟩
    exact ⟨versions.symm, rates.symm, methods.symm⟩

/-! ## Which forms are planned -/

structure ValidOptions (experimentId datasetId : String) (options : JobMatrixOptions) : Prop
    extends NamedNumbers options where
  experimentId : IsSafeName experimentId
  datasetId : IsSafeName datasetId
  versions : options.versions ≠ []
  sampleRates : options.sampleRates ≠ []
  f0Methods : options.useF0 = true → options.f0Methods ≠ []
  saveEveryEpoch : integerInRange options.saveEveryEpoch 1 100000 = true
  gpuIds : (1 ≤ options.gpuIds.length ∧ options.gpuIds.length ≤ 16) ∧
    (∀ id ∈ options.gpuIds, 0 ≤ id ∧ id ≤ 31) ∧ options.gpuIds.Nodup
  minVramGb : ∃ value, options.minVramGb = .finite value ∧ 0 ≤ value.decimal ∧
    value.decimal ≤ 1024
  priority : integerInRange options.priority 0 10 = true
  preferredWorkerTags : options.preferredWorkerTags.length ≤ 64 ∧
    (∀ tag ∈ options.preferredWorkerTags, isRefusedTag tag = false) ∧
      options.preferredWorkerTags.Nodup

theorem validateOptions_eq_nil {experimentId datasetId : String} {options : JobMatrixOptions}
    (valid : validateOptions experimentId datasetId options = []) :
    ValidOptions experimentId datasetId options := by
  simp only [validateOptions, List.append_eq_nil_iff, ite_eq_right_iff, List.cons_ne_nil,
    imp_false, not_or, not_and, not_lt, Bool.or_eq_true, Bool.and_eq_true, Bool.not_eq_true',
    Bool.not_eq_true, decide_eq_true_eq, List.any_eq_true, not_exists, not_not] at valid
  rcases valid with ⟨⟨⟨⟨⟨⟨⟨⟨⟨⟨ids, versions⟩, rates⟩, methods⟩, epochs⟩, batch⟩, save⟩, gpuIds⟩,
    vram⟩, priority⟩, tags⟩
  exact
    { experimentId := by simpa [safeIdentifier] using ids.1
      datasetId := by simpa [safeIdentifier] using ids.2
      versions := fun none => versions (by rw [none]; rfl)
      sampleRates := fun none => rates (by rw [none]; rfl)
      f0Methods := fun uses none => methods uses (by rw [none]; rfl)
      epochs := by simpa using epochs
      batchSizePerGpu := by simpa using batch
      saveEveryEpoch := by simpa using save
      gpuIds := ⟨⟨gpuIds.1, gpuIds.2.1⟩, fun id member => gpuIds.2.2.1 id member, gpuIds.2.2.2⟩
      minVramGb := by
        rcases given : options.minVramGb with value | negative | _
        · refine ⟨value, rfl, ?_⟩
          simpa [given, Double.number] using vram
        · simp [given, Double.number] at vram
        · simp [given, Double.number] at vram
      priority := by simpa using priority
      preferredWorkerTags := ⟨tags.1, fun tag member => tags.2.1 tag member, tags.2.2⟩ }

def matrixConditions (options : JobMatrixOptions) :
    List (RVCVersion × SampleRate × Option TrainingF0Method) :=
  orderedUnique options.versions rvcVersions ×ˢ
    orderedUnique options.sampleRates sampleRates ×ˢ matrixMethods options

/-- One plan for each combination. -/
theorem buildJobMatrix_eq_plans {tables : TextTables} {experimentId datasetId : String}
    {options : JobMatrixOptions} {plans : List JobMatrixPlan}
    (built : buildJobMatrix tables experimentId datasetId options = ⟨plans, []⟩) :
    ValidOptions experimentId datasetId options ∧
      plans = (matrixConditions options).map fun combination =>
        matrixPlan tables experimentId datasetId options combination.1 combination.2.1
          combination.2.2 := by
  unfold buildJobMatrix at built
  simp only at built
  split at built
  · next refused =>
      rw [(JobMatrixResult.mk.inj built).2] at refused
      exact absurd refused (Nat.lt_irrefl 0)
  · next accepted =>
      split at built
      · cases (JobMatrixResult.mk.inj built).2
      · have none := List.eq_nil_of_length_eq_zero (Nat.eq_zero_of_not_pos accepted)
        refine ⟨validateOptions_eq_nil none, (JobMatrixResult.mk.inj built).1.symm.trans ?_⟩
        simp only [matrixConditions, SProd.sprod, List.product, List.map_flatMap, List.map_map,
          Function.comp_def]

theorem matrixConditions_nodup (options : JobMatrixOptions) :
    (matrixConditions options).Nodup := by
  have methods : (matrixMethods options).Nodup := by
    unfold matrixMethods
    split
    · exact ((show trainingF0Methods.Nodup by decide).filter _).map (Option.some_injective _)
    · exact List.nodup_singleton none
  exact ((show rvcVersions.Nodup by decide).filter _).product
    (((show sampleRates.Nodup by decide).filter _).product methods)

/-- The names of the plans are pairwise distinct. -/
theorem buildJobMatrix_names_nodup {tables : TextTables} {experimentId datasetId : String}
    {options : JobMatrixOptions} {plans : List JobMatrixPlan}
    (built : buildJobMatrix tables experimentId datasetId options = ⟨plans, []⟩) :
    (plans.map JobMatrixPlan.jobName).Nodup := by
  rw [(buildJobMatrix_eq_plans built).2, List.map_map]
  apply (matrixConditions_nodup options).map
  intro left right same
  rcases deterministicJobName_injective same with ⟨versions, rates, methods⟩
  exact Prod.ext versions (Prod.ext rates methods)

end RvcOrchestrator.Web.JobMatrix

import RvcOrchestrator.Manager.ClaimSelection

/-! # The Worker's own check of a claim

The Manager has compared a Job with the capabilities that its Worker presented.
Before it starts, the Worker asks the same question again, of its runtime as it
is now.
-/

namespace RvcOrchestrator.Worker

open RvcOrchestrator.Foundation RvcOrchestrator.Contracts

/-! ## Rejections -/

inductive ClaimRejection where
  | configChanged
  | samplesNotReady
  | sampleRuntimeChanged
  | assetsNotReady
  | commitMismatch
  | gpuNotVisible
  | runtimeChanged (message : String)
  | unreviewedRepository
  | reviewedCommitMismatch
  | sampleDependencyMissing
deriving DecidableEq

def ClaimRejection.message : ClaimRejection → String
  | configChanged => "Job configuration changed after the Manager claim"
  | samplesNotReady => "Worker fixed TestSet inference capability is not ready"
  | sampleRuntimeChanged => "Worker sample runtime changed after the Job claim"
  | assetsNotReady => "Worker RVC assets are not ready for a real Job"
  | commitMismatch => "Job RVC commit does not match current Worker capabilities"
  | gpuNotVisible => "Job requests a GPU that is not visible"
  | runtimeChanged message => message
  | unreviewedRepository => "Job requests an unreviewed RVC repository"
  | reviewedCommitMismatch => "Job RVC commit does not match the reviewed Worker runtime"
  | sampleDependencyMissing =>
      "native sample inference requires an explicit reviewed fixed TestSet dependency"

/-- The reasons that concern what the Worker can do, rather than the configuration
itself or a runtime that was changed on disk. -/
def ClaimRejection.OfCapability : ClaimRejection → Prop
  | configChanged | runtimeChanged _ | unreviewedRepository => False
  | _ => True

/-! ## GPU identifiers -/

/-- The messages of `RvcCommandError` are replaced by the caller. -/
def checkedGpuIds (gpuIds : List Int) (allowEmpty : Bool) : Bool :=
  (allowEmpty || gpuIds ≠ []) && !gpuIds.any (· < 0) && gpuIds.Nodup

/-- `validate_gpu_ids` returns. -/
def gpuIdsAccepted (requested available : List Int) : Bool :=
  checkedGpuIds requested false && checkedGpuIds available true &&
    requested.all fun gpuId => gpuId ∈ available

def visibleGpuIds (capabilities : WorkerCapabilities) : List Int :=
  capabilities.gpus.map fun gpu => gpu.index.1

def jobGpusAccepted (config : JobConfig) (visible : List Int) : Bool :=
  gpuIdsAccepted config.training.gpuIds.1 visible &&
    (config.f0Extraction.trainingF0Method ≠ some .rmvpeGpu ||
      gpuIdsAccepted (config.f0Extraction.rmvpeGpuIds.getD []) visible)

/-! ## Runners -/

def rvcUpstreamRepository : String := "RVC-Project/Retrieval-based-Voice-Conversion-WebUI"

/-- The only source revision with which a native runner starts. -/
def rvcReviewedCommit : String := "7ef19867780cf703841ebafb565a4e47d1ea86ff"

/-- `runtimeOnDisk` is what a renewed look at the source revision and at the two
manifests raises. -/
structure NativeRunner where
  sampleInferenceDependencyVerified : Bool
  runtimeOnDisk : Except String Unit

/-- A profile runner has verified its repository against the profile and keeps the commit. -/
inductive Runner where
  | fake
  | profile (verifiedCommitHash : String)
  | native (runner : NativeRunner)

def Runner.rvcRevision : Runner → String
  | .fake => "fake-runner"
  | .profile verifiedCommitHash =>
      if 7 ≤ verifiedCommitHash.length then verifiedCommitHash else "profile-pinned"
  | .native _ => rvcReviewedCommit

def Runner.rvcAssetsReady : Runner → Bool
  | .fake => false
  | .profile _ | .native _ => true

/-- The verified dependency is what makes a native runner ready for samples. -/
def Runner.samplesReady : Runner → Bool
  | .fake | .profile _ => false
  | .native runner => runner.sampleInferenceDependencyVerified

/-- These are capabilities that a Worker with this runner observes. -/
structure Runner.Presents (runner : Runner) (capabilities : WorkerCapabilities) : Prop where
  engineMode : capabilities.engineMode = .fake ↔ runner = .fake
  rvcCommitHash : capabilities.rvcCommitHash = runner.rvcRevision
  rvcAssetsReady : capabilities.rvcAssetsReady = runner.rvcAssetsReady
  samplesReady : capabilities.fixedTestSetInferenceReady = runner.samplesReady

section

-- The method `str.lower`.
variable (lower : String → String)

def NativeRunner.validateClaim (runner : NativeRunner) (config : JobConfig)
    (availableGpuIds : List Int) : Except ClaimRejection Unit :=
  match runner.runtimeOnDisk with
  | .error message => .error (.runtimeChanged message)
  | .ok () =>
      if config.rvcBackend.repository ≠ rvcUpstreamRepository then .error .unreviewedRepository
      else if config.rvcBackend.rvcCommitHash.any fun hash => lower hash ≠ rvcReviewedCommit then
        .error .reviewedCommitMismatch
      else if config.autoInferenceSamples.enabled && !runner.sampleInferenceDependencyVerified then
        .error .sampleDependencyMissing
      else if jobGpusAccepted config availableGpuIds = false then .error .gpuNotVisible
      else .ok ()

def Runner.validateClaim (runner : Runner) (config : JobConfig) (availableGpuIds : List Int) :
    Except ClaimRejection Unit :=
  match runner with
  | .native reviewed => reviewed.validateClaim lower config availableGpuIds
  | .fake | .profile _ => .ok ()

/-! ## The check -/

structure ClaimedRuntime where
  jobId : JobId
  attemptId : AttemptId
  runtimeImageDigest : Option String
  runtimeAssetManifestSha256 : Option String

/-- The beginning of `_execute_claim`. -/
def ClaimedRuntime.of (claim : JobClaim) (capabilities : WorkerCapabilities) : ClaimedRuntime where
  jobId := claim.jobId
  attemptId := claim.attemptId
  runtimeImageDigest := capabilities.runtimeImageDigest
  runtimeAssetManifestSha256 := capabilities.runtimeAssetManifestSha256

def sampleRuntimeUnchanged (active : Option ClaimedRuntime) (claim : JobClaim)
    (capabilities : WorkerCapabilities) : Bool :=
  active.any fun active =>
    active.jobId = claim.jobId && active.attemptId = claim.attemptId &&
      active.runtimeImageDigest.isSome && active.runtimeAssetManifestSha256.isSome &&
      capabilities.runtimeImageDigest = active.runtimeImageDigest &&
      capabilities.runtimeAssetManifestSha256 = active.runtimeAssetManifestSha256

def validateClaimRuntime (sha256 : Sha256) (runner : Runner) (capabilities : WorkerCapabilities)
    (active : Option ClaimedRuntime) (claim : JobClaim) : Except ClaimRejection Unit :=
  let samples := claim.config.autoInferenceSamples.enabled
  if jobConfigSha256 sha256 claim.config.modelDump ≠ claim.configSha256 then .error .configChanged
  else if samples && !capabilities.fixedTestSetInferenceReady then .error .samplesNotReady
  else if samples && !sampleRuntimeUnchanged active claim capabilities then
    .error .sampleRuntimeChanged
  else
    match runner with
    | .fake => .ok ()
    | _ =>
        if capabilities.rvcAssetsReady = false then .error .assetsNotReady
        else if claim.config.rvcBackend.rvcCommitHash.any fun hash =>
            lower hash ≠ lower capabilities.rvcCommitHash then .error .commitMismatch
        else if jobGpusAccepted claim.config (visibleGpuIds capabilities) = false then
          .error .gpuNotVisible
        else runner.validateClaim lower claim.config (visibleGpuIds capabilities)

/-- The check at the start of a claim, with the capabilities that were presented for
it. -/
def startClaim (sha256 : Sha256) (runner : Runner) (capabilities : WorkerCapabilities)
    (claim : JobClaim) : Except ClaimRejection Unit :=
  validateClaimRuntime lower sha256 runner capabilities (some (.of claim capabilities)) claim

end

/-! ## Where the two checks agree -/

/-- What the Manager has established about a real Worker. -/
structure Compatible (config : JobConfig) (capabilities : WorkerCapabilities) : Prop where
  commit : ∀ {hash}, config.rvcBackend.rvcCommitHash = some hash →
    capabilities.rvcCommitHash = hash
  assets : capabilities.rvcAssetsReady = true
  samples : config.autoInferenceSamples.enabled = true →
    capabilities.fixedTestSetInferenceReady = true ∧
      capabilities.runtimeImageDigest.isSome = true ∧
      capabilities.runtimeAssetManifestSha256.isSome = true

theorem compatible_of_workerCanRun {settings : Manager.Settings} {config : JobConfig}
    {capabilities : WorkerCapabilities} (real : capabilities.engineMode ≠ .fake)
    (accepted : Manager.workerCanRun settings config capabilities = true) :
    Compatible config capabilities := by
  have passed : ∀ {condition : Prop} [Decidable condition] {rest : Bool},
      (if condition then false else rest) = true → ¬condition ∧ rest = true := by
    intro condition _ rest
    split <;> simp_all
  simp only [Manager.workerCanRun, decide_eq_false real] at accepted
  rcases passed accepted with ⟨-, accepted⟩
  rcases passed accepted with ⟨commit, accepted⟩
  rcases passed accepted with ⟨assets, accepted⟩
  rcases passed accepted with ⟨-, accepted⟩
  rcases passed accepted with ⟨-, accepted⟩
  rcases passed accepted with ⟨samples, -⟩
  constructor
  · intro hash requested
    simpa [requested] using commit
  · simpa using assets
  · intro enabled
    rcases image : capabilities.runtimeImageDigest with _ | digest
    · simp [enabled, image] at samples
    · rcases manifest : capabilities.runtimeAssetManifestSha256 with _ | manifest
      · simp_all
      · simp_all

/-- Every GPU that the Job asks for is one that the Worker reports. The contract
does not keep the identifiers of RMVPE from being repeated, but the Worker does. -/
def GpusVisible (config : JobConfig) (capabilities : WorkerCapabilities) : Prop :=
  config.training.gpuIds.1 ⊆ visibleGpuIds capabilities ∧
    (config.f0Extraction.trainingF0Method = some .rmvpeGpu →
      (config.f0Extraction.rmvpeGpuIds.getD []).Nodup ∧
        config.f0Extraction.rmvpeGpuIds.getD [] ⊆ visibleGpuIds capabilities)

theorem checkedGpuIds_visible (capabilities : WorkerCapabilities) :
    checkedGpuIds (visibleGpuIds capabilities) true = true := by
  have unique : (visibleGpuIds capabilities).Nodup := by
    have valid := capabilities.validGpus
    unfold validateGpuInventory at valid
    split at valid
    · cases valid
    · next unique => exact not_not.mp unique
  have natural : ∀ gpuId ∈ visibleGpuIds capabilities, ¬gpuId < 0 := by
    intro gpuId member
    rcases List.mem_map.mp member with ⟨gpu, -, rfl⟩
    have bound := gpu.index.2.1
    omega
  simp only [checkedGpuIds, Bool.true_or, Bool.true_and, Bool.and_eq_true, decide_eq_true_eq,
    Bool.not_eq_true', List.any_eq_false]
  exact ⟨natural, unique⟩

theorem gpuIdsAccepted_iff {requested : List Int} (capabilities : WorkerCapabilities)
    (nonempty : requested ≠ []) (natural : requested.any (· < 0) = false) :
    gpuIdsAccepted requested (visibleGpuIds capabilities) = true ↔
      requested.Nodup ∧ requested ⊆ visibleGpuIds capabilities := by
  rw [gpuIdsAccepted, checkedGpuIds_visible, checkedGpuIds, natural]
  simp [nonempty, List.subset_def]

theorem training_gpuIds (config : JobConfig) :
    config.training.gpuIds.1 ≠ [] ∧ config.training.gpuIds.1.any (· < 0) = false ∧
      config.training.gpuIds.1.Nodup := by
  rcases config.training.gpuIds with ⟨gpuIds, nonempty, valid⟩
  unfold validateGpuIds at valid
  split at valid
  · cases valid
  · next natural =>
      split at valid
      · cases valid
      · next unique => exact ⟨nonempty, Bool.eq_false_of_not_eq_true natural, not_not.mp unique⟩

theorem rmvpe_gpuIds {config : JobConfig}
    (method : config.f0Extraction.trainingF0Method = some .rmvpeGpu) :
    config.f0Extraction.rmvpeGpuIds.getD [] ≠ [] ∧
      (config.f0Extraction.rmvpeGpuIds.getD []).any (· < 0) = false := by
  have valid := config.f0Extraction.valid
  unfold validateRmvpeGpuIds at valid
  split at valid
  · cases valid
  · next given =>
      split at valid
      · cases valid
      · split at valid
        · cases valid
        · next natural =>
            refine ⟨?_, Bool.eq_false_of_not_eq_true natural⟩
            intro empty
            apply given
            refine ⟨method, ?_⟩
            rcases ids : config.f0Extraction.rmvpeGpuIds with _ | gpuIds
            · rfl
            · rw [ids, Option.getD_some] at empty
              rw [empty]
              rfl

theorem jobGpusAccepted_iff {config : JobConfig} (capabilities : WorkerCapabilities) :
    jobGpusAccepted config (visibleGpuIds capabilities) = true ↔
      GpusVisible config capabilities := by
  rcases training_gpuIds config with ⟨nonempty, natural, unique⟩
  rw [jobGpusAccepted, Bool.and_eq_true, gpuIdsAccepted_iff capabilities nonempty natural,
    Bool.or_eq_true, decide_eq_true_eq, GpusVisible]
  by_cases method : config.f0Extraction.trainingF0Method = some .rmvpeGpu
  · rcases rmvpe_gpuIds method with ⟨rmvpeNonempty, rmvpeNatural⟩
    rw [gpuIdsAccepted_iff capabilities rmvpeNonempty rmvpeNatural]
    simp [method, unique]
  · simp [method, unique]

section

variable {lower : String → String} {sha256 : Sha256} {runner : Runner}
  {capabilities : WorkerCapabilities} {claim : JobClaim}

/-- A native runner repeats the checks of its Worker on the same values. -/
theorem validateClaim_not_capability (reviewed : lower rvcReviewedCommit = rvcReviewedCommit)
    (presents : runner.Presents capabilities) (compatible : Compatible claim.config capabilities)
    (visible : GpusVisible claim.config capabilities) {rejection : ClaimRejection}
    (rejected : runner.validateClaim lower claim.config (visibleGpuIds capabilities) =
      .error rejection) : ¬rejection.OfCapability := by
  cases runner with
  | fake => cases rejected
  | profile _ => cases rejected
  | native native =>
      have sameCommit : claim.config.rvcBackend.rvcCommitHash.any (fun hash =>
          lower hash ≠ rvcReviewedCommit) = false := by
        rcases requested : claim.config.rvcBackend.rvcCommitHash with _ | hash
        · rfl
        · have same := (compatible.commit requested).symm.trans presents.rvcCommitHash
          rw [same, Runner.rvcRevision, Option.any_some, reviewed]
          simp
      have samplesReady : (claim.config.autoInferenceSamples.enabled &&
          !native.sampleInferenceDependencyVerified) = false := by
        rcases enabled : claim.config.autoInferenceSamples.enabled with _ | _
        · rfl
        · have ready := (compatible.samples enabled).1
          rw [presents.samplesReady, Runner.samplesReady] at ready
          rw [ready]
          rfl
      rw [Runner.validateClaim, NativeRunner.validateClaim, sameCommit, samplesReady,
        (jobGpusAccepted_iff capabilities).mpr visible] at rejected
      split at rejected
      · injection rejected with same
        subst same
        exact id
      · split at rejected
        · injection rejected with same
          subst same
          exact id
        · simp at rejected

/-- With the capabilities that the Manager has accepted, only the GPUs are left to
be checked. -/
theorem startClaim_of_compatible (lower : String → String) (real : capabilities.engineMode ≠ .fake)
    (presents : runner.Presents capabilities) (compatible : Compatible claim.config capabilities)
    (hash : jobConfigSha256 sha256 claim.config.modelDump = claim.configSha256) :
    startClaim lower sha256 runner capabilities claim =
      if jobGpusAccepted claim.config (visibleGpuIds capabilities) = false then
        .error .gpuNotVisible
      else runner.validateClaim lower claim.config (visibleGpuIds capabilities) := by
  have samplesReady : (claim.config.autoInferenceSamples.enabled &&
      !capabilities.fixedTestSetInferenceReady) = false := by
    rcases enabled : claim.config.autoInferenceSamples.enabled with _ | _
    · rfl
    · rw [(compatible.samples enabled).1]
      rfl
  have unchanged : (claim.config.autoInferenceSamples.enabled &&
      !sampleRuntimeUnchanged (some (.of claim capabilities)) claim capabilities) = false := by
    rcases enabled : claim.config.autoInferenceSamples.enabled with _ | _
    · rfl
    · rcases compatible.samples enabled with ⟨-, image, manifest⟩
      simp [sampleRuntimeUnchanged, ClaimedRuntime.of, image, manifest]
  have sameCommit : claim.config.rvcBackend.rvcCommitHash.any (fun hash =>
      lower hash ≠ lower capabilities.rvcCommitHash) = false := by
    rcases requested : claim.config.rvcBackend.rvcCommitHash with _ | hash
    · rfl
    · simp [compatible.commit requested]
  unfold startClaim validateClaimRuntime
  simp only [hash, ne_eq, not_true_eq_false, if_false, samplesReady, unchanged, compatible.assets]
  cases runner with
  | fake => exact absurd (presents.engineMode.mpr rfl) real
  | profile => simp only [sameCommit]; rfl
  | native native => simp only [sameCommit]; rfl

/-- The Worker finds no fault with its capabilities, exactly if every GPU the Job
names is one of its own. A claim whose hash is wrong is refused before. -/
theorem admission_agrees_iff (settings : Manager.Settings)
    (reviewed : lower rvcReviewedCommit = rvcReviewedCommit)
    (real : capabilities.engineMode ≠ .fake) (presents : runner.Presents capabilities)
    (accepted : Manager.workerCanRun settings claim.config capabilities = true) :
    (∀ rejection, startClaim lower sha256 runner capabilities claim = .error rejection →
        ¬rejection.OfCapability) ↔
      (jobConfigSha256 sha256 claim.config.modelDump = claim.configSha256 →
        GpusVisible claim.config capabilities) := by
  have compatible := compatible_of_workerCanRun real accepted
  constructor
  · intro agrees hash
    by_contra hidden
    have refused : jobGpusAccepted claim.config (visibleGpuIds capabilities) = false := by
      rw [← Bool.not_eq_true, jobGpusAccepted_iff]
      exact hidden
    have rejected := startClaim_of_compatible lower real presents compatible hash
    rw [if_pos refused] at rejected
    exact agrees _ rejected trivial
  · intro visible rejection rejected
    by_cases hash : jobConfigSha256 sha256 claim.config.modelDump = claim.configSha256
    · have accepted := (jobGpusAccepted_iff capabilities).mpr (visible hash)
      rw [startClaim_of_compatible lower real presents compatible hash, accepted] at rejected
      exact validateClaim_not_capability reviewed presents compatible (visible hash) rejected
    · unfold startClaim validateClaimRuntime at rejected
      simp only at rejected
      rw [if_pos hash] at rejected
      injection rejected with same
      subst same
      exact id

end

/-! ## A GPU that is not there -/

/-- One GPU is asked for, and it is not the one that a Worker with one GPU has. -/
def secondGpuConfig : JobConfig :=
  { Manager.plainConfig with
    training := { TrainingConfig.default with gpuIds := ⟨[1], by decide⟩ } }

def claimFor (sha256 : Sha256) (config : JobConfig) : JobClaim where
  jobId := 1
  attemptId := 1
  attemptNumber := 1
  leaseId := 1
  leaseExpiresAt := 0
  config := config
  configSha256 := jobConfigSha256 sha256 config.modelDump
  datasetTransfer := none
  testSetTransfer := none

theorem claimFor_hash (sha256 : Sha256) (config : JobConfig) :
    jobConfigSha256 sha256 (claimFor sha256 config).config.modelDump =
      (claimFor sha256 config).configSha256 := rfl

def sampleRunner : Runner := .native ⟨false, .ok ()⟩

theorem presents_sample : sampleRunner.Presents Manager.sampleCapabilities where
  engineMode := by simp [sampleRunner, Manager.sampleCapabilities]
  rvcCommitHash := rfl
  rvcAssetsReady := rfl
  samplesReady := rfl

example : (Runner.profile rvcReviewedCommit).Presents Manager.sampleCapabilities where
  engineMode := by simp [Manager.sampleCapabilities]
  rvcCommitHash := by decide
  rvcAssetsReady := rfl
  samplesReady := rfl

theorem admission_agrees_sample :
    GpusVisible (claimFor Manager.sampleSha256 Manager.plainConfig).config
        Manager.sampleCapabilities ∧
      ∀ rejection, startClaim String.toLower Manager.sampleSha256 sampleRunner
        Manager.sampleCapabilities (claimFor Manager.sampleSha256 Manager.plainConfig) =
          .error rejection → ¬rejection.OfCapability := by
  have visible : GpusVisible (claimFor Manager.sampleSha256 Manager.plainConfig).config
      Manager.sampleCapabilities := ⟨by decide, by decide⟩
  exact ⟨visible, (admission_agrees_iff Manager.sampleSettings (by decide +kernel) (by decide)
    presents_sample (by decide +kernel)).mpr fun _ => visible⟩

theorem second_gpu_admitted :
    ¬∀ (claim : JobClaim) (capabilities : WorkerCapabilities) (runner : Runner),
      capabilities.engineMode ≠ .fake → runner.Presents capabilities →
      Manager.workerCanRun Manager.sampleSettings claim.config capabilities = true →
      ∀ rejection, startClaim String.toLower Manager.sampleSha256 runner capabilities claim =
        .error rejection → ¬rejection.OfCapability := by
  intro agrees
  have real : Manager.sampleCapabilities.engineMode ≠ .fake := by decide
  have accepted : Manager.workerCanRun Manager.sampleSettings
      (claimFor Manager.sampleSha256 secondGpuConfig).config Manager.sampleCapabilities = true := by
    decide +kernel
  have hidden : jobGpusAccepted (claimFor Manager.sampleSha256 secondGpuConfig).config
      (visibleGpuIds Manager.sampleCapabilities) = false := by
    decide +kernel
  have rejected := startClaim_of_compatible String.toLower real presents_sample
    (compatible_of_workerCanRun real accepted) (claimFor_hash _ _)
  rw [if_pos hidden] at rejected
  exact agrees _ _ _ real presents_sample accepted _ rejected trivial

end RvcOrchestrator.Worker

import RvcOrchestrator.Manager.Experiments

/-! # Which Job a claim selects

The claim loop takes the first eligible candidate. It sees the whole queue only
as far as the candidate query reaches, so a long enough head of Jobs that the
Worker cannot run hides what stands behind it.
-/

namespace RvcOrchestrator.Manager

open RvcOrchestrator.Foundation RvcOrchestrator.Contracts

/-! ## Eligible Jobs -/

section

variable (platform : Platform) (settings : Settings) (request : ClaimRequest)

/-- A Job the Worker can be given: its configuration is intact and within the
Worker's capabilities, and its inputs are there. -/
def Eligible (entry : JobId × JobRow) : Prop :=
  ∃ config dataset,
    validatedJobConfig platform entry.1 entry.2 none = .ok config ∧
    workerCanRun settings config request.capabilities = true ∧
    request.catalog.dataset entry.2.datasetId = some dataset ∧
    datasetReadyForTraining dataset = true ∧
    (∃ transfer, verifiedDatasetTransfer request.catalog entry.2.datasetId dataset entry.1 =
        .ok transfer ∧
      (transfer.isSome ∨ settings.testEnvironment ∧ dataset.status = .legacyImported)) ∧
    (config.autoInferenceSamples.enabled →
      (request.catalog.verifiedTestSetTransfer entry.1 entry.2 config).isSome)

/-- A Job whose dataset is recorded with a size or a digest that the transfer
contract refuses, so that the claim raises when it reaches the Job. -/
def Raises (entry : JobId × JobRow) : Prop :=
  ∃ config dataset error,
    validatedJobConfig platform entry.1 entry.2 none = .ok config ∧
    workerCanRun settings config request.capabilities = true ∧
    request.catalog.dataset entry.2.datasetId = some dataset ∧
    datasetReadyForTraining dataset = true ∧
    verifiedDatasetTransfer request.catalog entry.2.datasetId dataset entry.1 = .error error

end

section

variable {platform : Platform} {settings : Settings} {request : ClaimRequest}

/-- The three answers of `offeredInputs`. -/
theorem offeredInputs_cases {jobId : JobId} {job : JobRow} {config : JobConfig}
    (valid : validatedJobConfig platform jobId job none = .ok config) :
    (∃ error, offeredInputs settings request jobId job config = .error error ∧
      Raises platform settings request (jobId, job)) ∨
    (offeredInputs settings request jobId job config = .ok none ∧
      ¬Eligible platform settings request (jobId, job) ∧
      ¬Raises platform settings request (jobId, job)) ∨
    ∃ inputs, offeredInputs settings request jobId job config = .ok (some inputs) ∧
      Eligible platform settings request (jobId, job) := by
  unfold offeredInputs Eligible Raises
  simp only [valid, Except.ok.injEq]
  cases canRun : workerCanRun settings config request.capabilities with
  | false => simp [canRun]
  | true =>
      cases found : request.catalog.dataset job.datasetId with
      | none => simp
      | some dataset =>
          cases ready : datasetReadyForTraining dataset with
          | false => simp [ready]
          | true =>
              cases checked : verifiedDatasetTransfer request.catalog job.datasetId dataset
                jobId with
              | error error => simp [canRun, ready, checked]
              | ok transfer =>
                  simp only [ready, checked, Bool.true_eq_false, if_false]
                  split
                  · next refused =>
                      simp only [Bool.and_eq_true, Option.isNone_iff_eq_none, Bool.not_eq_true',
                        Bool.and_eq_false_iff, decide_eq_false_iff_not] at refused
                      simp [canRun, ready, checked, refused.1]
                      grind
                  · next offered =>
                      cases samples : config.autoInferenceSamples.enabled with
                      | false => simp [canRun, ready, checked, samples]; grind
                      | true =>
                          cases testSet : request.catalog.verifiedTestSetTransfer jobId job
                            config with
                          | none => simp [canRun, ready, checked, samples, testSet]
                          | some _ => simp [canRun, ready, checked, samples, testSet]; grind

/-! ## The loop -/

theorem commitClaim_of_valid {ledger : Ledger} {jobId : JobId} {job : JobRow}
    {config : JobConfig} {inputs : Option DatasetTransfer × Option TestSetTransfer}
    {configSha256 : String}
    (freshAttempt : ledger.attempts.find? request.attemptId = none)
    (freshLease : ledger.leases.find? request.leaseId = none)
    (hash : job.configSha256 = some configSha256)
    (valid : (claimOf settings request jobId job config configSha256
      inputs).validateDatasetTransfer platform.sha256 = .ok ()) :
    commitClaim platform settings ledger request jobId job config inputs =
      .ok (some (claimOf settings request jobId job config configSha256 inputs),
        assignJob settings ledger request jobId job configSha256 freshAttempt freshLease) := by
  unfold commitClaim
  rw [dif_pos freshAttempt, dif_pos freshLease, hash]
  simp only [valid]

theorem not_eligible_of_invalid {entry : JobId × JobRow} {error : InvalidJobConfigLedger}
    (invalid : validatedJobConfig platform entry.1 entry.2 none = .error error) :
    ¬Eligible platform settings request entry ∧ ¬Raises platform settings request entry := by
  constructor
  · rintro ⟨config, dataset, valid, -⟩
    rw [invalid] at valid
    cases valid
  · rintro ⟨config, dataset, refused, valid, -⟩
    rw [invalid] at valid
    cases valid

/-- Candidates that are neither eligible nor raise are passed over. -/
theorem claimFirst_of_passed {entries : List (JobId × JobRow)} (ledger : Ledger)
    (passed : ∀ entry ∈ entries, ¬Eligible platform settings request entry ∧
      ¬Raises platform settings request entry) :
    ∃ next, claimFirst platform settings request entries ledger = .ok (none, next) := by
  induction entries generalizing ledger with
  | nil => exact ⟨ledger, rfl⟩
  | cons entry rest induction =>
      rcases entry with ⟨jobId, job⟩
      have passedRest : ∀ entry ∈ rest, ¬Eligible platform settings request entry ∧
          ¬Raises platform settings request entry :=
        fun entry member => passed entry (List.mem_cons_of_mem _ member)
      have head := passed (jobId, job) List.mem_cons_self
      unfold claimFirst
      split
      · exact induction _ passedRest
      · next config valid =>
          rcases offeredInputs_cases valid with
            ⟨error, -, raises⟩ | ⟨offered, -⟩ | ⟨inputs, -, eligible⟩
          · exact absurd raises head.2
          · rw [offered]
            exact induction ledger passedRest
          · exact absurd eligible head.1

theorem not_eligible_of_claimFirst_none {entries : List (JobId × JobRow)} {ledger next : Ledger}
    (accepted : claimFirst platform settings request entries ledger = .ok (none, next)) :
    ∀ entry ∈ entries, ¬Eligible platform settings request entry := by
  induction entries generalizing ledger with
  | nil => simp
  | cons entry rest induction =>
      rcases entry with ⟨jobId, job⟩
      unfold claimFirst at accepted
      split at accepted
      · next invalid =>
          exact List.forall_mem_cons.mpr
            ⟨(not_eligible_of_invalid invalid).1, induction accepted⟩
      · next config valid =>
          rcases offeredInputs_cases valid with
            ⟨error, offered, -⟩ | ⟨offered, passed, -⟩ | ⟨inputs, offered, -⟩
          · rw [offered] at accepted
            cases accepted
          · rw [offered] at accepted
            exact List.forall_mem_cons.mpr ⟨passed, induction accepted⟩
          · rw [offered] at accepted
            rcases commitClaim_eq_ok accepted with ⟨_, _, _, -, impossible, -⟩
            cases impossible

/-- A candidate that raises keeps the claim from coming back empty. -/
theorem claimFirst_ne_none_of_raises {entries : List (JobId × JobRow)} {ledger next : Ledger}
    {entry : JobId × JobRow} (member : entry ∈ entries)
    (raises : Raises platform settings request entry) :
    claimFirst platform settings request entries ledger ≠ .ok (none, next) := by
  intro accepted
  induction entries generalizing ledger with
  | nil => cases member
  | cons head rest induction =>
      rcases head with ⟨jobId, job⟩
      unfold claimFirst at accepted
      split at accepted
      · next invalid =>
          rcases List.mem_cons.mp member with rfl | member
          · exact (not_eligible_of_invalid invalid).2 raises
          · exact induction member accepted
      · next config valid =>
          rcases offeredInputs_cases valid with
            ⟨error, offered, -⟩ | ⟨offered, -, passed⟩ | ⟨inputs, offered, -⟩
          · rw [offered] at accepted
            cases accepted
          · rw [offered] at accepted
            rcases List.mem_cons.mp member with rfl | member
            · exact passed raises
            · exact induction member accepted
          · rw [offered] at accepted
            rcases commitClaim_eq_ok accepted with ⟨_, _, _, -, impossible, -⟩
            cases impossible

theorem claimFirst_eq_some {entries : List (JobId × JobRow)} {ledger next : Ledger}
    {claim : JobClaim}
    (accepted : claimFirst platform settings request entries ledger = .ok (some claim, next)) :
    ∃ front job back, entries = front ++ (claim.jobId, job) :: back ∧
      Eligible platform settings request (claim.jobId, job) ∧
      ∀ entry ∈ front, ¬Eligible platform settings request entry := by
  induction entries generalizing ledger with
  | nil => cases accepted
  | cons entry rest induction =>
      rcases entry with ⟨jobId, job⟩
      -- A passed candidate joins the front of what the rest of the loop finds.
      have extend : ∀ {ledger : Ledger}, ¬Eligible platform settings request (jobId, job) →
          claimFirst platform settings request rest ledger = .ok (some claim, next) →
          ∃ front job' back, (jobId, job) :: rest = front ++ (claim.jobId, job') :: back ∧
            Eligible platform settings request (claim.jobId, job') ∧
            ∀ entry ∈ front, ¬Eligible platform settings request entry := by
        intro ledger passed accepted
        rcases induction accepted with ⟨front, job', back, split, eligible, before⟩
        exact ⟨(jobId, job) :: front, job', back, by rw [split, List.cons_append], eligible,
          List.forall_mem_cons.mpr ⟨passed, before⟩⟩
      unfold claimFirst at accepted
      split at accepted
      · next invalid => exact extend (not_eligible_of_invalid invalid).1 accepted
      · next config valid =>
          rcases offeredInputs_cases valid with
            ⟨error, offered, -⟩ | ⟨offered, passed, -⟩ | ⟨inputs, offered, eligible⟩
          · rw [offered] at accepted
            cases accepted
          · rw [offered] at accepted
            exact extend passed accepted
          · rw [offered] at accepted
            rcases commitClaim_eq_ok accepted with ⟨_, _, _, -, answered, -⟩
            injection answered with answered
            subst answered
            exact ⟨[], job, rest, rfl, eligible, by simp⟩

end

/-! ## The order of the queue -/

instance : IsTrans (JobId × JobRow) claimOrder where
  trans := by
    intro first second third left right
    unfold claimOrder at *
    grind

instance : Std.Total claimOrder where
  total := by
    intro left right
    unfold claimOrder
    grind

theorem pairwise_queuedJobs (ledger : Ledger) : (queuedJobs ledger).Pairwise claimOrder :=
  List.pairwise_insertionSort claimOrder _

/-! ## Completeness -/

/-- A Worker that may claim: active, idle, and not in the middle of a token
rotation. -/
def ReadyToClaim (ledger : Ledger) (workerId : WorkerId) : Prop :=
  ∃ worker, ledger.workers.find? workerId = some worker ∧ worker.isActive = true ∧
    worker.pendingTokenHash = none ∧ worker.status ≠ .draining ∧ worker.currentJobId = none

section

variable (platform : Platform) (settings : Settings) (ledger : Ledger) (request : ClaimRequest)

def InQueue (entry : JobId × JobRow) : Prop :=
  ledger.jobs.find? entry.1 = some entry.2 ∧ entry.2.status = .queued ∧
    entry.2.configSha256.isSome = true

structure ClaimComplete : Prop where
  /-- A claim comes back empty only if nothing in the queue is eligible. -/
  nothing : ∀ {next}, claimJob platform settings ledger request = .ok (none, next) →
    ∀ {entry}, InQueue ledger entry → ¬Eligible platform settings request entry
  /-- The claimed Job is the first eligible one. -/
  first : ∀ {claim next}, claimJob platform settings ledger request = .ok (some claim, next) →
    ∃ job, InQueue ledger (claim.jobId, job) ∧
      Eligible platform settings request (claim.jobId, job) ∧
      ∀ {entry}, InQueue ledger entry → Eligible platform settings request entry →
        claimOrder (claim.jobId, job) entry

variable {platform settings ledger request}

theorem claimJob_of_ready (ready : ReadyToClaim ledger request.workerId) :
    claimJob platform settings ledger request =
      claimFirst platform settings request (claimCandidates ledger) ledger := by
  rcases ready with ⟨worker, found, active, noRotation, notDraining, unbound⟩
  simp [claimJob, found, active, noRotation, notDraining, unbound]

/-- What is eligible and not among the candidates stands behind all of them. -/
theorem claimOrder_of_first {front back : List (JobId × JobRow)} {chosen entry : JobId × JobRow}
    (candidates : claimCandidates ledger = front ++ chosen :: back)
    (before : ∀ other ∈ front, ¬Eligible platform settings request other)
    (inQueue : InQueue ledger entry) (eligible : Eligible platform settings request entry) :
    claimOrder chosen entry := by
  have queue : queuedJobs ledger = front ++ chosen :: (back ++ (queuedJobs ledger).drop 50) := by
    calc queuedJobs ledger = claimCandidates ledger ++ (queuedJobs ledger).drop 50 :=
          (List.take_append_drop 50 _).symm
      _ = front ++ chosen :: (back ++ (queuedJobs ledger).drop 50) := by
          rw [candidates, List.append_assoc, List.cons_append]
  have sorted := pairwise_queuedJobs ledger
  rw [queue] at sorted
  have behind := List.pairwise_cons.mp (List.pairwise_append.mp sorted).2.1
  have member : entry ∈ queuedJobs ledger := mem_queuedJobs_iff.mpr inQueue
  rw [queue] at member
  rcases List.mem_append.mp member with inFront | inRest
  · exact absurd eligible (before entry inFront)
  · rcases List.mem_cons.mp inRest with same | later
    · rw [same]
      exact (total_of claimOrder chosen chosen).elim id id
    · exact behind.1 entry later

/-- A claim sees the whole queue exactly when the queue has nothing for the
Worker, or one of its first fifty Jobs is eligible or stops the claim with an
error. -/
theorem claimComplete_iff (ready : ReadyToClaim ledger request.workerId) :
    ClaimComplete platform settings ledger request ↔
      (∀ entry, InQueue ledger entry → ¬Eligible platform settings request entry) ∨
      ∃ entry ∈ claimCandidates ledger,
        Eligible platform settings request entry ∨ Raises platform settings request entry := by
  constructor
  · intro complete
    by_contra hidden
    simp only [not_or, not_exists, not_and] at hidden
    rcases claimFirst_of_passed ledger hidden.2 with ⟨next, empty⟩
    exact hidden.1 fun entry => complete.nothing ((claimJob_of_ready ready).trans empty)
  · intro visible
    constructor
    case nothing =>
      intro next empty entry inQueue
      rw [claimJob_of_ready ready] at empty
      rcases visible with nothing | ⟨candidate, member, eligible | raises⟩
      · exact nothing entry inQueue
      · exact absurd eligible (not_eligible_of_claimFirst_none empty candidate member)
      · exact absurd empty (claimFirst_ne_none_of_raises member raises)
    case first =>
      intro claim next claimed
      rw [claimJob_of_ready ready] at claimed
      rcases claimFirst_eq_some claimed with ⟨front, job, back, candidates, eligible, before⟩
      have member : (claim.jobId, job) ∈ claimCandidates ledger := by
        rw [candidates]
        exact List.mem_append_right _ List.mem_cons_self
      exact ⟨job, mem_queuedJobs_iff.mp (List.mem_of_mem_take member), eligible,
        claimOrder_of_first candidates before⟩

end

/-! ## A starved Worker -/

def sampleSettings : Settings where
  leaseSeconds := 60
  workerOfflineSeconds := 90
  leaseRecoveryMaxAttempts := 3
  allowFakeWorkers := false
  approvedSampleRuntimeBundles := []
  testEnvironment := false
  mlflowEnabled := true
  leaseSecondsRange := by decide
  workerOfflineRange := by decide

/-- One GPU, ready for both versions of the engine, without tags. -/
def sampleCapabilities : WorkerCapabilities where
  engineMode := .rvcWebui
  rvcCommitHash := "7ef19867780cf703841ebafb565a4e47d1ea86ff"
  supportedRvcVersions := [.v1, .v2]
  supportedTrainingF0Methods := [.pm, .harvest, .dio, .rmvpe]
  supportedInferenceF0Methods := [.pm, .harvest, .crepe, .rmvpe]
  fixedTestSetInferenceReady := false
  gpus := [⟨⟨0, by decide⟩, ⟨24576, by decide⟩⟩]
  tags := []
  rvcAssetsReady := true
  runtimeImageDigest := none
  runtimeAssetManifestSha256 := none
  validGpus := rfl

def sampleWorker : WorkerRow where
  name := "worker-1"
  status := .idle
  capabilities := sampleCapabilities
  lastHeartbeatAt := some 0
  currentJobId := none
  isActive := true
  pendingTokenHash := none

def sampleDataset : DatasetRow where
  status := .ready
  isUsable := true
  flatStorageUri := some "file:///data-1/flat.zip"
  preparedFlatSizeBytes := some 1048576
  preparedFlatSha256 :=
    some "30e14955ebf1352266dc2ff8067e68104607e750abb9d3b36582b8af909fcb58"

/-- Every dataset is uploaded, prepared and verified. -/
def sampleCatalog : Catalog where
  resolvedStorageBackend := "local"
  storage := ⟨"local", "namespace-1", fun key => some ("file:///" ++ key)⟩
  dataset _ := some sampleDataset
  upload _ := some ⟨"local", "namespace-1", "data-1/flat.zip"⟩
  verifiedTestSetTransfer _ _ _ := none

def sampleTransfer (jobId : JobId) : DatasetTransfer where
  datasetId := "data-1"
  downloadPath := .dataset jobId
  sizeBytes := 1048576
  sha256 := "30e14955ebf1352266dc2ff8067e68104607e750abb9d3b36582b8af909fcb58"

def sampleRequest : ClaimRequest where
  workerId := 1
  capabilities := sampleCapabilities
  catalog := sampleCatalog
  attemptId := 1
  leaseId := 1
  now := 1000

/-- Fifty Jobs ask for a tag that the Worker does not have, and one does not. -/
def starvedConfig (number : Nat) : JobConfig :=
  sampleConfig
    ⟨String.ofList ('j' :: List.replicate (min number 50) 'x'), by
      simp [IsSafeName, isSafeIdentifierChar]⟩
    { ResourceRequirements.default with
      preferredWorkerTags :=
        if number < 50 then ⟨["a100"], by decide +kernel⟩
        else ResourceRequirements.default.preferredWorkerTags }

def starvedRow (platform : Platform) (number : Nat) : JobId × JobRow :=
  (number, createdJob platform (starvedConfig number) number)

def starvedLedger (platform : Platform) : Ledger :=
  { Ledger.empty with
    workers := .single 1 sampleWorker
    jobs :=
      { rows := (List.range 51).map (starvedRow platform)
        keysNodup := by
          rw [List.map_map]
          exact (List.map_id' (List.range 51)).symm ▸ List.nodup_range } }

theorem queuedJobs_starved (platform : Platform) :
    queuedJobs (starvedLedger platform) = (List.range 51).map (starvedRow platform) := by
  have sorted : ((List.range 51).map (starvedRow platform)).Pairwise claimOrder := by
    rw [List.pairwise_map]
    refine List.pairwise_lt_range.imp ?_
    intro left right less
    exact .inr ⟨rfl, .inl (Int.ofNat_lt.mpr less)⟩
  have all : ((List.range 51).map (starvedRow platform)).filter (fun row =>
      row.2.status = .queued && row.2.configSha256.isSome) =
        (List.range 51).map (starvedRow platform) := by
    rw [List.filter_eq_self]
    intro entry member
    rcases List.mem_map.mp member with ⟨number, -, rfl⟩
    rfl
  rw [queuedJobs, starvedLedger, all, sorted.insertionSort_eq]

theorem validatedJobConfig_starved (platform : Platform) (number : Nat) :
    validatedJobConfig platform (starvedRow platform number).1 (starvedRow platform number).2
      none = .ok (starvedConfig number).normal :=
  validatedJobConfig_readBack (storesConfig_createdJob ..)
    (show PyFloat.zero.Small by decide +kernel) (Json.readBack_copy _) rfl (by simp)

theorem workerCanRun_starved {number : Nat} (few : number < 50) :
    workerCanRun sampleSettings (starvedConfig number).normal sampleCapabilities = false := by
  simp [workerCanRun, starvedConfig, few, sampleConfig, JobConfig.normal, sampleCapabilities,
    ResourceRequirements.normal]

theorem readyToClaim_starved (platform : Platform) :
    ReadyToClaim (starvedLedger platform) sampleRequest.workerId :=
  ⟨sampleWorker, rfl, rfl, rfl, by decide, rfl⟩

/-- An idle Worker is told that there is no Job for it, while one waits behind
fifty others. -/
theorem claimComplete_starved :
    ¬∃ platform, ClaimComplete platform sampleSettings (starvedLedger platform) sampleRequest := by
  rintro ⟨platform, complete⟩
  have passed : ∀ entry ∈ claimCandidates (starvedLedger platform),
      ¬Eligible platform sampleSettings sampleRequest entry ∧
        ¬Raises platform sampleSettings sampleRequest entry := by
    intro entry member
    rw [claimCandidates, queuedJobs_starved, ← List.map_take, List.take_range] at member
    rcases List.mem_map.mp member with ⟨number, below, rfl⟩
    have unable : ∀ config, validatedJobConfig platform (starvedRow platform number).1
        (starvedRow platform number).2 none = .ok config →
        workerCanRun sampleSettings config sampleCapabilities ≠ true := by
      intro config valid
      rw [validatedJobConfig_starved] at valid
      injection valid with same
      rw [← same, workerCanRun_starved (by simpa using below)]
      decide
    constructor
    · rintro ⟨config, dataset, valid, canRun, -⟩
      exact unable config valid canRun
    · rintro ⟨config, dataset, error, valid, canRun, -⟩
      exact unable config valid canRun
  rcases claimFirst_of_passed (starvedLedger platform) passed with ⟨next, empty⟩
  have last : InQueue (starvedLedger platform) (starvedRow platform 50) := by
    apply mem_queuedJobs_iff.mp
    rw [queuedJobs_starved]
    exact List.mem_map_of_mem (by decide)
  have transferred : verifiedDatasetTransfer sampleCatalog "data-1" sampleDataset 50 =
      .ok (some (sampleTransfer 50)) := by
    decide +kernel
  apply complete.nothing ((claimJob_of_ready (readyToClaim_starved platform)).trans empty) last
  exact ⟨(starvedConfig 50).normal, sampleDataset, validatedJobConfig_starved platform 50,
    by decide +kernel, rfl, rfl, ⟨_, transferred, .inl rfl⟩, fun enabled => by cases enabled⟩

theorem claimComplete_iff_starved :
    ReadyToClaim (starvedLedger samplePlatform) sampleRequest.workerId ∧
      (ClaimComplete samplePlatform sampleSettings (starvedLedger samplePlatform) sampleRequest ↔
        (∀ entry, InQueue (starvedLedger samplePlatform) entry →
          ¬Eligible samplePlatform sampleSettings sampleRequest entry) ∨
        ∃ entry ∈ claimCandidates (starvedLedger samplePlatform),
          Eligible samplePlatform sampleSettings sampleRequest entry ∨
            Raises samplePlatform sampleSettings sampleRequest entry) :=
  ⟨readyToClaim_starved samplePlatform, claimComplete_iff (readyToClaim_starved samplePlatform)⟩

end RvcOrchestrator.Manager

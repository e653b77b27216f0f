import RvcOrchestrator.Manager.ClaimSelection

/-! # The life of a configuration snapshot

From its creation to its claim, a configuration lives in a JSONB column beside
its digest. The digest is taken over printed text, so the column has to return
every number in the spelling in which it was hashed.
-/

namespace RvcOrchestrator.Manager

open RvcOrchestrator.Foundation RvcOrchestrator.Contracts

/-! ## Claims of a valid snapshot -/

section

variable {platform : Platform} {settings : Settings} {request : ClaimRequest}

/-- A claim fails no Job whose snapshot it can verify. -/
theorem claimFirst_not_failed {entries : List (JobId × JobRow)} {ledger next : Ledger}
    {jobId : JobId} {job : JobRow} {response : Option JobClaim}
    (valid : ∀ row, (jobId, row) ∈ entries →
      ∃ config, validatedJobConfig platform jobId row none = .ok config)
    (found : ledger.jobs.find? jobId = some job) (notFailed : job.status ≠ .failed)
    (accepted : claimFirst platform settings request entries ledger = .ok (response, next)) :
    ∃ later, next.jobs.find? jobId = some later ∧ later.status ≠ .failed := by
  induction entries generalizing ledger with
  | nil =>
      injection accepted with accepted
      injection accepted with _ same
      exact ⟨job, same ▸ found, notFailed⟩
  | cons entry rest induction =>
      rcases entry with ⟨other, row⟩
      have validRest : ∀ row, (jobId, row) ∈ rest →
          ∃ config, validatedJobConfig platform jobId row none = .ok config :=
        fun row member => valid row (List.mem_cons_of_mem _ member)
      unfold claimFirst at accepted
      split at accepted
      · next invalid =>
          have different : jobId ≠ other := by
            rintro rfl
            rcases valid row List.mem_cons_self with ⟨config, accepted⟩
            rw [invalid] at accepted
            cases accepted
          refine induction validRest ?_ accepted
          rw [quarantineInvalidQueuedJobConfig, Table.find?_modify_of_ne _ _ _ different, found]
      · split at accepted
        · cases accepted
        · exact induction validRest found accepted
        · rcases commitClaim_eq_ok accepted with ⟨_, _, _, -, -, rfl⟩
          refine ⟨_, Table.find?_modify_of_some _ _ _ found, ?_⟩
          split
          · simp
          · exact notFailed

end

/-! ## The hash of a snapshot -/

/-- The rows of a Job created from the configuration, with its document as any
JSONB column may return it. -/
structure StoredAs (platform : Platform) (config : JobConfig) (job : JobRow) : Prop
    extends StoresConfig config job where
  document : Json.ReadBack config.modelDump job.configJson
  hash : job.configSha256 = some (platform.configSha256 config)

/-- The attempt, if there is one, is the Job's own. -/
def MatchingAttempt (jobId : JobId) (job : JobRow) (attempt : Option AttemptRow) : Prop :=
  ∀ row ∈ attempt, row.jobId = jobId ∧ row.jobConfigSha256 = job.configSha256

def AttemptHash (attempt : Option AttemptRow) (hash : String) : Prop :=
  ∃ row ∈ attempt, row.jobConfigSha256 = some hash

/-- What the hash of a configuration is for. The four `altered` clauses compare
what has been changed with what is still as it was created. -/
structure HashSurvives (platform : Platform) (config : JobConfig) : Prop where
  /-- The stored Job is accepted, as a configuration that Python finds equal to
  the one created: the two zeros are one number. -/
  accepted : ∀ {jobId job attempt}, StoredAs platform config job →
    MatchingAttempt jobId job attempt →
    ∃ returned, validatedJobConfig platform jobId job attempt = .ok returned ∧
      returned.normal = config.normal
  alteredDocument : ∀ {jobId job attempt returned},
    ¬SameDocument job.configJson config.modelDump →
    job.configSha256 = some (platform.configSha256 config) ∨
      AttemptHash attempt (platform.configSha256 config) →
    validatedJobConfig platform jobId job attempt ≠ .ok returned
  alteredJobHash : ∀ {jobId job attempt returned},
    job.configSha256 ≠ some (platform.configSha256 config) →
    Json.ReadBack config.modelDump job.configJson ∨
      AttemptHash attempt (platform.configSha256 config) →
    validatedJobConfig platform jobId job attempt ≠ .ok returned
  alteredAttemptHash : ∀ {jobId job attempt returned},
    attempt.jobConfigSha256 ≠ some (platform.configSha256 config) →
    Json.ReadBack config.modelDump job.configJson ∨
      job.configSha256 = some (platform.configSha256 config) →
    validatedJobConfig platform jobId job (some attempt) ≠ .ok returned
  alteredClaimHash : ∀ {claim : JobClaim}, claim.config.normal = config.normal →
    claim.configSha256 ≠ platform.configSha256 config →
    claim.validateDatasetTransfer platform.sha256 ≠ .ok ()
  neverQuarantined : ∀ {settings request entries ledger response next jobId job},
    Waiting ledger entries → (jobId, job) ∈ entries → StoredAs platform config job →
    claimFirst platform settings request entries ledger = .ok (response, next) →
    ∃ later, next.jobs.find? jobId = some later ∧ later.status ≠ .failed
  alteredNeverLeased : ∀ {settings request entries ledger claim next job},
    Waiting ledger entries → (claim.jobId, job) ∈ entries →
    job.configSha256 = some (platform.configSha256 config) →
    claimFirst platform settings request entries ledger = .ok (some claim, next) →
    SameDocument job.configJson config.modelDump

section

variable {platform : Platform} {config : JobConfig}

theorem StoredAs.accepted (small : config.resource.minVramGb.1.Small) {jobId : JobId}
    {job : JobRow} {attempt : Option AttemptRow} (stored : StoredAs platform config job)
    (ofAttempt : MatchingAttempt jobId job attempt) :
    validatedJobConfig platform jobId job attempt = .ok config.normal :=
  validatedJobConfig_readBack stored.toStoresConfig small stored.document stored.hash ofAttempt

/-- The hash of an accepted attempt is the hash of its Job. -/
theorem hash_of_attemptHash {jobId : JobId} {job : JobRow} {attempt : Option AttemptRow}
    {returned : JobConfig} {hash : String} (ofAttempt : AttemptHash attempt hash)
    (accepted : validatedJobConfig platform jobId job attempt = .ok returned) :
    job.configSha256 = some hash := by
  rcases ofAttempt with ⟨row, member, same⟩
  rw [← ((validatedJobConfig_eq_ok accepted).2.2.2 row member).2, same]

theorem hashSurvives_of_small (small : config.resource.minVramGb.1.Small)
    (unshared : ∀ text, platform.sha256.digest text = platform.configSha256 config →
      text = canonicalJobConfigText config.modelDump) : HashSurvives platform config where
  accepted stored ofAttempt :=
    ⟨config.normal, stored.accepted small ofAttempt, config.normal_normal⟩
  alteredDocument altered witness accepted := by
    rcases witness with ofJob | ofAttempt
    · exact altered (sameDocument_of_accepted unshared ofJob accepted)
    · exact altered (sameDocument_of_accepted unshared
        (hash_of_attemptHash ofAttempt accepted) accepted)
  alteredJobHash altered witness accepted := by
    rcases witness with readBack | ofAttempt
    · exact altered (hash_of_accepted small readBack accepted)
    · exact altered (hash_of_attemptHash ofAttempt accepted)
  alteredAttemptHash := by
    intro jobId job attempt returned altered witness accepted
    have same := ((validatedJobConfig_eq_ok accepted).2.2.2 attempt rfl).2
    rcases witness with readBack | ofJob
    · exact altered (same.trans (hash_of_accepted small readBack accepted))
    · exact altered (same.trans ofJob)
  alteredClaimHash ofConfig altered accepted :=
    altered (validateDatasetTransfer_hash ofConfig accepted)
  neverQuarantined := by
    intro settings request entries ledger response next jobId job waiting member stored claimed
    have found := waiting.stored _ member
    refine claimFirst_not_failed ?_ found ?_ claimed
    · intro row rowMember
      have rowFound := waiting.stored _ rowMember
      rw [found] at rowFound
      injection rowFound with same
      subst same
      exact ⟨config.normal, stored.accepted small (by simp [MatchingAttempt])⟩
    · rw [waiting.queued _ member]
      decide
  alteredNeverLeased := by
    intro settings request entries ledger claim next job waiting member hash claimed
    rcases claimFirst_eq_some claimed with
      ⟨front, row, back, split, ⟨returned, dataset, valid, -⟩, -⟩
    have rowMember : (claim.jobId, row) ∈ entries := by
      rw [split]
      exact List.mem_append_right _ List.mem_cons_self
    have rowFound := waiting.stored _ rowMember
    rw [waiting.stored _ member] at rowFound
    injection rowFound with same
    subst same
    exact sameDocument_of_accepted unshared hash valid

/-- The created row itself, once read back, is refused. -/
theorem not_hashSurvives_of_large (large : ¬config.resource.minVramGb.1.Small)
    (unshared : ∀ text, platform.sha256.digest text = platform.configSha256 config →
      text = canonicalJobConfigText config.modelDump) : ¬HashSurvives platform config := by
  intro survives
  have stored : StoredAs platform config (createdJob platform config 0) :=
    { storesConfig_createdJob platform config 0 with
      document := Json.readBack_copy _
      hash := rfl }
  have alone : MatchingAttempt 0 (createdJob platform config 0) none := by
    simp [MatchingAttempt]
  rcases survives.accepted stored alone with ⟨returned, accepted, -⟩
  exact rejected_of_large large unshared rfl rfl none returned accepted

/-- The hash of a configuration survives its storage exactly when the minimum
VRAM is printed without an exponent. -/
theorem hashSurvives_iff
    (unshared : ∀ text, platform.sha256.digest text = platform.configSha256 config →
      text = canonicalJobConfigText config.modelDump) :
    HashSurvives platform config ↔ config.resource.minVramGb.1.decimal < 10 ^ 16 := by
  rw [← PyFloat.small_iff config.resource.minVramGb.2]
  constructor
  · intro survives
    by_contra large
    exact not_hashSurvives_of_large large unshared survives
  · intro small
    exact hashSurvives_of_small small unshared

end

theorem unshared_hugeConfig (text : String)
    (same : samplePlatform.sha256.digest text = samplePlatform.configSha256 hugeConfig) :
    text = canonicalJobConfigText hugeConfig.modelDump := by
  have created : samplePlatform.configSha256 hugeConfig =
      "913d03265e51d4e75272fdb24c9b61f92bba6440d0f632243565f89a8563965b" := by
    simp only [Platform.configSha256, jobConfigSha256, samplePlatform, sampleSha256, if_true]
  rw [created] at same
  by_contra different
  simp only [samplePlatform, sampleSha256, if_neg different] at same
  split at same
  · simp at same
  · split at same <;> simp at same

/-- What is stored of it is still a valid configuration, under another hash. -/
example :
    (JobConfig.modelValidate samplePlatform.lax
      (createdJob samplePlatform hugeConfig 0).configJson).isOk = true := by
  decide +kernel

/-- A Job that asks for `1e16` gigabytes cannot be claimed once it is stored. -/
theorem not_hashSurvives_hugeConfig : ¬HashSurvives samplePlatform hugeConfig :=
  not_hashSurvives_of_large (by decide +kernel) unshared_hugeConfig

theorem hashSurvives_hugeConfig_iff :
    HashSurvives samplePlatform hugeConfig ↔
      hugeConfig.resource.minVramGb.1.decimal < 10 ^ 16 :=
  hashSurvives_iff unshared_hugeConfig

end RvcOrchestrator.Manager

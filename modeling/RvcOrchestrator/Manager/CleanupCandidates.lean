import RvcOrchestrator.Foundation.Truth
import RvcOrchestrator.Manager.DatasetUploads

/-! # Candidates of a cleanup

A cleanup run selects abandoned upload sessions by a query and checks each of them again before
it claims it. Both are written for the sessions of datasets and of test sets.
-/

namespace RvcOrchestrator.Manager

open RvcOrchestrator.Foundation RvcOrchestrator.Contracts

/-! ## Rows -/

structure CleanupColumns where
  status : UploadStatus
  generation : Nat
  uploadWriteToken : Option ClaimToken
  uploadHeartbeatAt : Option Time
  cleanupClaimRunId : Option Nat
  cleanupClaimedAt : Option Time
  cleanupClaimGeneration : Option Nat
  cleanupCompletedAt : Option Time
  expiresAt : Time
  updatedAt : Time

structure CleanupPeriods where
  grace : Nat
  claimStale : Nat
  writeStale : Nat

structure TestSetItemUploadSession extends CleanupColumns

structure TestSetSettings where
  cleanupGrace : Nat
  lateWriterGrace : Nat
  cleanupClaimStale : Nat
  uploadWriteStale : Nat

def DatasetUploadSession.cleanup (upload : DatasetUploadSession) : CleanupColumns where
  status := upload.status
  generation := upload.generation
  uploadWriteToken := upload.uploadWriteToken
  uploadHeartbeatAt := upload.uploadHeartbeatAt
  cleanupClaimRunId := upload.cleanupClaimRunId
  cleanupClaimedAt := upload.cleanupClaimedAt
  cleanupClaimGeneration := upload.cleanupClaimGeneration
  cleanupCompletedAt := upload.cleanupCompletedAt
  expiresAt := upload.expiresAt
  updatedAt := upload.updatedAt

/-- `_dataset_cleanup_grace` -/
def DatasetSettings.cleanupPeriods (settings : DatasetSettings) : CleanupPeriods where
  grace := max settings.cleanupGrace settings.lateWriterGrace
  claimStale := settings.cleanupClaimStale
  writeStale := settings.uploadWriteStale

/-- `_test_set_cleanup_grace` -/
def TestSetSettings.cleanupPeriods (settings : TestSetSettings) : CleanupPeriods where
  grace := max settings.cleanupGrace settings.lateWriterGrace
  claimStale := settings.cleanupClaimStale
  writeStale := settings.uploadWriteStale

/-! ## The check -/

namespace CleanupColumns

variable (periods : CleanupPeriods) (runId : Nat) (now : Time) (row : CleanupColumns)

def writerIsActive : Bool :=
  match row.uploadWriteToken, row.uploadHeartbeatAt with
  | some _, some heartbeat => now - seconds periods.writeStale < heartbeat
  | _, _ => false

def graceSince : Time := if row.status = .pending then row.expiresAt else row.updatedAt

/-- A run has claimed the row lately, or at no time. -/
def claimIsFresh : Bool :=
  match row.cleanupClaimRunId, row.cleanupClaimedAt with
  | none, _ => false
  | some _, none => true
  | some _, some claimedAt => now - seconds periods.claimStale < claimedAt

def isCleanupEligible : Bool :=
  if row.cleanupCompletedAt.isSome then false
  else if row.status = .completed ∨ row.status = .finalizing then false
  else if row.status ∉ [.pending, .expired, .failed] then false
  else if row.writerIsActive periods now then false
  else if row.cleanupClaimRunId = some runId then
    row.cleanupClaimGeneration = some row.generation
  else if row.claimIsFresh periods now then false
  else row.graceSince ≤ now - seconds periods.grace

/-! ## The query -/

def candidatePredicate : Truth :=
  let graceBefore := now - seconds periods.grace
  let staleBefore := now - seconds periods.claimStale
  let writerStaleBefore := now - seconds periods.writeStale
  let noActiveWriter := Truth.any
    [Truth.isNull row.uploadWriteToken, Truth.isNull row.uploadHeartbeatAt,
      Truth.compare row.uploadHeartbeatAt (· ≤ writerStaleBefore)]
  let unclaimed := Truth.isNull row.cleanupClaimRunId
  Truth.all
    [Truth.isNull row.cleanupCompletedAt,
      Truth.compare (some row.status) (· ∈ [.pending, .expired, .failed]),
      noActiveWriter,
      Truth.any
        [Truth.all
          [Truth.compare row.cleanupClaimRunId (· = runId),
            Truth.equal row.cleanupClaimGeneration (some row.generation)],
          Truth.all
            [Truth.isNotNull row.cleanupClaimRunId,
              Truth.compare row.cleanupClaimedAt (· ≤ staleBefore)],
          Truth.all
            [unclaimed, Truth.compare (some row.status) (· = .pending),
              Truth.compare (some row.expiresAt) (· ≤ graceBefore)],
          Truth.all
            [unclaimed, Truth.compare (some row.status) (· ∈ [.expired, .failed]),
              Truth.compare (some row.updatedAt) (· ≤ graceBefore)]]]

/-! ## Where they differ -/

/-- Only a claim or the grace period can still keep a run from the row. -/
def Open : Prop :=
  row.cleanupCompletedAt = none ∧ row.status ∈ [.pending, .expired, .failed] ∧
    row.writerIsActive periods now = false

/-- The claim of an open row is old, and it is the run's own claim of another generation, or
another run's claim within the grace period. -/
def StaleClaimMisread : Prop :=
  row.Open periods now ∧ ∃ claimant, row.cleanupClaimRunId = some claimant ∧
    row.claimIsFresh periods now = false ∧
    if claimant = runId then row.cleanupClaimGeneration ≠ some row.generation
    else now - seconds periods.grace < row.graceSince

variable {periods runId now row}

theorem isCleanupEligible_iff : row.isCleanupEligible periods runId now = true ↔
    row.Open periods now ∧
      if row.cleanupClaimRunId = some runId then
        row.cleanupClaimGeneration = some row.generation
      else
        row.claimIsFresh periods now = false ∧ row.graceSince ≤ now - seconds periods.grace := by
  unfold isCleanupEligible Open
  cases completed : row.cleanupCompletedAt with
  | some _ => simp
  | none =>
      cases status : row.status <;> cases active : row.writerIsActive periods now <;>
        cases fresh : row.claimIsFresh periods now <;> simp

theorem noActiveWriter_iff :
    (row.uploadWriteToken = none ∨ row.uploadHeartbeatAt = none ∨
      ∃ heartbeat, row.uploadHeartbeatAt = some heartbeat ∧
        heartbeat ≤ now - seconds periods.writeStale) ↔
    row.writerIsActive periods now = false := by
  unfold writerIsActive
  cases row.uploadWriteToken <;> cases row.uploadHeartbeatAt <;> simp

theorem staleClaim_iff :
    ((∃ claimant, row.cleanupClaimRunId = some claimant) ∧
      ∃ claimedAt, row.cleanupClaimedAt = some claimedAt ∧
        claimedAt ≤ now - seconds periods.claimStale) ↔
    row.cleanupClaimRunId ≠ none ∧ row.claimIsFresh periods now = false := by
  unfold claimIsFresh
  cases row.cleanupClaimRunId <;> cases row.cleanupClaimedAt <;> simp

theorem claimIsFresh_of_unclaimed (unclaimed : row.cleanupClaimRunId = none) :
    row.claimIsFresh periods now = false := by
  rw [claimIsFresh, unclaimed]

theorem graceOver_iff {before : Time} (status : row.status ∈ [.pending, .expired, .failed]) :
    (row.status = .pending ∧ row.expiresAt ≤ before ∨
      row.status ∈ [.expired, .failed] ∧ row.updatedAt ≤ before) ↔ row.graceSince ≤ before := by
  unfold graceSince
  cases same : row.status <;> simp_all

theorem candidatePredicate_iff : (row.candidatePredicate periods runId now).Selects ↔
    row.Open periods now ∧
      (row.cleanupClaimRunId = some runId ∧
          row.cleanupClaimGeneration = some row.generation ∨
        row.cleanupClaimRunId ≠ none ∧ row.claimIsFresh periods now = false ∨
        row.cleanupClaimRunId = none ∧ row.graceSince ≤ now - seconds periods.grace) := by
  unfold candidatePredicate
  simp only [Truth.selects_all_cons, Truth.selects_all_nil, Truth.selects_any_cons,
    Truth.selects_any_nil, Truth.selects_isNull, Truth.selects_isNotNull, Truth.selects_compare,
    Truth.selects_equal, Option.some.injEq, exists_eq_left', and_true, or_false,
    noActiveWriter_iff, staleClaim_iff]
  constructor
  · rintro ⟨completed, status, idle, choice⟩
    refine ⟨⟨completed, status, idle⟩, ?_⟩
    rw [← graceOver_iff status]
    grind
  · rintro ⟨⟨completed, status, idle⟩, choice⟩
    refine ⟨completed, status, idle, ?_⟩
    rw [← graceOver_iff status] at choice
    grind

/-- The query and the check take the same rows, but for misread claims. -/
theorem candidate_iff_eligible :
    ((row.candidatePredicate periods runId now).Selects ↔
      row.isCleanupEligible periods runId now = true) ↔
    ¬row.StaleClaimMisread periods runId now := by
  rw [candidatePredicate_iff, isCleanupEligible_iff, StaleClaimMisread]
  by_cases openRow : row.Open periods now
  · cases claim : row.cleanupClaimRunId with
    | none =>
        have stale : row.claimIsFresh periods now = false := claimIsFresh_of_unclaimed claim
        grind
    | some claimant => by_cases own : claimant = runId <;> grind
  · grind

end CleanupColumns

/-! ## The two tables -/

section

variable (settings : DatasetSettings) (runId : Nat) (now : Time)

def isDatasetCleanupEligible (upload : DatasetUploadSession) : Bool :=
  upload.cleanup.isCleanupEligible settings.cleanupPeriods runId now

def datasetCandidatePredicate (upload : DatasetUploadSession) : Truth :=
  upload.cleanup.candidatePredicate settings.cleanupPeriods runId now

end

section

variable (settings : TestSetSettings) (runId : Nat) (now : Time)

def isTestSetCleanupEligible (upload : TestSetItemUploadSession) : Bool :=
  upload.isCleanupEligible settings.cleanupPeriods runId now

def testSetCandidatePredicate (upload : TestSetItemUploadSession) : Truth :=
  upload.candidatePredicate settings.cleanupPeriods runId now

end

section

variable {settings : DatasetSettings} {runId : Nat} {now : Time} {upload : DatasetUploadSession}

theorem datasetWriterIsActive_iff :
    upload.cleanup.writerIsActive settings.cleanupPeriods now = false ↔
      ¬upload.WriterIsActive settings now := by
  unfold CleanupColumns.writerIsActive DatasetUploadSession.WriterIsActive
    DatasetUploadSession.cleanup DatasetSettings.cleanupPeriods
  cases upload.uploadWriteToken <;> cases upload.uploadHeartbeatAt <;> simp

theorem datasetClaimIsFresh_iff :
    upload.cleanup.claimIsFresh settings.cleanupPeriods now = false ↔
      (upload.cleanupClaimRunId ≠ none → ∃ claimedAt ∈ upload.cleanupClaimedAt,
        claimedAt ≤ now - seconds settings.cleanupClaimStale) := by
  unfold CleanupColumns.claimIsFresh DatasetUploadSession.cleanup DatasetSettings.cleanupPeriods
  cases upload.cleanupClaimRunId <;> cases upload.cleanupClaimedAt <;> simp

theorem datasetGraceSince_iff {before : Time} : upload.cleanup.graceSince ≤ before ↔
    if upload.status = .pending then upload.expiresAt ≤ before
    else upload.updatedAt ≤ before := by
  unfold CleanupColumns.graceSince DatasetUploadSession.cleanup
  split <;> rfl

theorem datasetOpen_iff : upload.cleanup.Open settings.cleanupPeriods now ↔
    upload.cleanupCompletedAt = none ∧ (upload.status = .pending ∨ upload.status.Abandoned) ∧
      ¬upload.WriterIsActive settings now := by
  rw [CleanupColumns.Open, datasetWriterIsActive_iff]
  simp only [DatasetUploadSession.cleanup, List.mem_cons, List.not_mem_nil, or_false,
    UploadStatus.Abandoned]
  grind

/-- The check of a dataset's session is the one its cleanup makes. -/
theorem isDatasetCleanupEligible_iff :
    isDatasetCleanupEligible settings runId now upload = true ↔
      upload.CleanupEligible settings now runId := by
  rw [isDatasetCleanupEligible, CleanupColumns.isCleanupEligible_iff, datasetOpen_iff,
    datasetClaimIsFresh_iff, datasetGraceSince_iff, DatasetUploadSession.CleanupEligible, and_assoc,
    and_assoc]
  rfl

end

/-- The rows a run selects are those it may clean, in both tables, unless an old claim is
misread. -/
theorem candidates_iff_eligible (runId : Nat) (now : Time) :
    (∀ (settings : DatasetSettings) (upload : DatasetUploadSession),
      ((datasetCandidatePredicate settings runId now upload).Selects ↔
        isDatasetCleanupEligible settings runId now upload = true) ↔
      ¬upload.cleanup.StaleClaimMisread settings.cleanupPeriods runId now) ∧
    ∀ (settings : TestSetSettings) (upload : TestSetItemUploadSession),
      ((testSetCandidatePredicate settings runId now upload).Selects ↔
        isTestSetCleanupEligible settings runId now upload = true) ↔
      ¬upload.StaleClaimMisread settings.cleanupPeriods runId now :=
  ⟨fun _ _ => CleanupColumns.candidate_iff_eligible,
    fun _ _ => CleanupColumns.candidate_iff_eligible⟩

/-- A run claimed the expired session and died. Its claim is stale, but the claim was also the
last update of the row, so the grace period has begun again. -/
def claimedExpiredUpload : TestSetItemUploadSession where
  status := .expired
  generation := 1
  uploadWriteToken := none
  uploadHeartbeatAt := none
  cleanupClaimRunId := some 1
  cleanupClaimedAt := some 0
  cleanupClaimGeneration := some 1
  cleanupCompletedAt := none
  expiresAt := -seconds 700000
  updatedAt := 0

def defaultTestSetSettings : TestSetSettings where
  cleanupGrace := 604800
  lateWriterGrace := 7200
  cleanupClaimStale := 900
  uploadWriteStale := 300

theorem candidate_not_eligible :
    ¬((testSetCandidatePredicate defaultTestSetSettings 2 (seconds 1000)
          claimedExpiredUpload).Selects ↔
        isTestSetCleanupEligible defaultTestSetSettings 2 (seconds 1000)
          claimedExpiredUpload = true) := by
  decide

end RvcOrchestrator.Manager

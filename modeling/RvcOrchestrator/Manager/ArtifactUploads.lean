import RvcOrchestrator.Manager.Ledger

/-! # Artifact uploads: the ledger

An upload session, and the updates that are made to it. Every update names what it
expects to find in the row and changes nothing otherwise.
-/

namespace RvcOrchestrator.Manager

open RvcOrchestrator.Foundation RvcOrchestrator.Contracts

abbrev UploadId := Nat

/-- The tokens by which requests claim a session are random UUIDs. -/
abbrev ClaimToken := Nat

abbrev UploadArtifactId := Nat

/-! ## Rows -/

inductive StorageBackend where
  /-- `local` -/
  | disk
  | s3
deriving DecidableEq, Repr

inductive ArtifactType where
  | finalSmallModel
  | finalIndex
  | totalFeatures
  | generatorCheckpoint
  | discriminatorCheckpoint
  | trainLog
  | tensorboard
  | sample
  | environment
  | config
  | datasetReport
deriving DecidableEq, Repr

inductive UploadStatus where
  | pending
  | finalizing
  | completed
  | failed
  | expired
deriving DecidableEq, Repr

def UploadStatus.text : UploadStatus → String
  | pending => "pending"
  | finalizing => "finalizing"
  | completed => "completed"
  | failed => "failed"
  | expired => "expired"

def UploadStatus.Terminal (status : UploadStatus) : Prop :=
  status = completed ∨ status = failed ∨ status = expired

def UploadStatus.Abandoned (status : UploadStatus) : Prop :=
  status = failed ∨ status = expired

instance : DecidablePred UploadStatus.Terminal := fun status =>
  inferInstanceAs (Decidable (status = _ ∨ status = _ ∨ status = _))

instance : DecidablePred UploadStatus.Abandoned := fun status =>
  inferInstanceAs (Decidable (status = _ ∨ status = _))

/-- The paths of stored objects. The parts of a path are UUIDs and types, none of which
contains the separator. -/
inductive ObjectKey where
  | staging (attemptId : AttemptId) (uploadId : UploadId)
  | verified (jobId : JobId) (attemptId : AttemptId) (artifactType : ArtifactType)
      (uploadId : UploadId)
deriving DecidableEq

def stagingObjectKey (attemptId : AttemptId) (uploadId : UploadId) : ObjectKey :=
  .staging attemptId uploadId

def canonicalObjectKey (jobId : JobId) (attemptId : AttemptId) (artifactType : ArtifactType)
    (uploadId : UploadId) : ObjectKey :=
  .verified jobId attemptId artifactType uploadId

structure CleanupMarks where
  firstDeletedAt : Option Time
  completedAt : Option Time
deriving DecidableEq

inductive CleanupKind where
  | canonical
  | staging
deriving DecidableEq, Repr

structure UploadSession where
  jobId : JobId
  attemptId : AttemptId
  leaseId : LeaseId
  workerId : WorkerId
  artifactId : Option UploadArtifactId
  artifactType : ArtifactType
  filename : String
  contentType : String
  expectedSizeBytes : Nat
  expectedSha256 : String
  dedupeKey : Option (AttemptId × ArtifactType × String)
  temporaryObjectKey : ObjectKey
  canonicalObjectKey : ObjectKey
  storageBackend : StorageBackend
  storageNamespaceSha256 : String
  status : UploadStatus
  uploadWriteToken : Option ClaimToken
  uploadHeartbeatAt : Option Time
  finalizationToken : Option ClaimToken
  cleanupToken : Option ClaimToken
  cleanupHeartbeatAt : Option Time
  expiresAt : Time
  uploadedAt : Option Time
  finalizedAt : Option Time
  stagingCleanup : CleanupMarks
  canonicalCleanup : CleanupMarks
  failureCode : Option String
  updatedAt : Time
deriving DecidableEq

namespace UploadSession

def marks (row : UploadSession) : CleanupKind → CleanupMarks
  | .canonical => row.canonicalCleanup
  | .staging => row.stagingCleanup

def setMarks (row : UploadSession) (marks : CleanupMarks) : CleanupKind → UploadSession
  | .canonical => { row with canonicalCleanup := marks }
  | .staging => { row with stagingCleanup := marks }

def objectKey (row : UploadSession) : CleanupKind → ObjectKey
  | .canonical => row.canonicalObjectKey
  | .staging => row.temporaryObjectKey

end UploadSession

structure Artifact where
  id : UploadArtifactId
  jobId : JobId
  attemptId : AttemptId
  artifactType : ArtifactType
  filename : String
  /-- The storage URI is the key under the prefix of the storage. -/
  objectKey : ObjectKey
  sizeBytes : Nat
  sha256 : String
  mimeType : String
  /-- `manager_verification.upload_session_id` in the metadata. -/
  uploadSessionId : UploadId
deriving DecidableEq

/-- The settings of artifact uploads, in seconds. -/
structure ArtifactSettings where
  finalizingStale : Nat
  cleanupClaimStale : Nat
  cleanupConfirmationGrace : Nat
  stagingCleanupGrace : Nat

/-- The storage that the process is configured with. -/
structure StorageIdentity where
  backend : StorageBackend
  namespaceFingerprint : String

/-- `_upload_storage_matches` -/
def StorageIdentity.Matches (storage : StorageIdentity) (row : UploadSession) : Prop :=
  row.storageBackend = storage.backend ∧
    row.storageNamespaceSha256 = storage.namespaceFingerprint

instance (storage : StorageIdentity) (row : UploadSession) : Decidable (storage.Matches row) :=
  inferInstanceAs (Decidable (_ ∧ _))

/-! ## Updates of a session -/

section

variable (token : ClaimToken) (now : Time) (row : UploadSession)

/-! ### Writing the upload -/

def claimUploadWrite : Option UploadSession :=
  if row.status = .pending ∧ row.uploadWriteToken = none ∧ row.finalizationToken = none ∧
      row.uploadedAt = none ∧ now < row.expiresAt then
    some { row with
      uploadWriteToken := some token
      uploadHeartbeatAt := some now
      failureCode := none
      updatedAt := now }
  else none

def touchArtifactUploadWrite : Option UploadSession :=
  if row.status = .pending ∧ row.uploadWriteToken = some token ∧ row.uploadedAt = none ∧
      now < row.expiresAt then
    some { row with uploadHeartbeatAt := some now, updatedAt := now }
  else none

def clearArtifactUploadWrite : Option UploadSession :=
  if row.status = .pending ∧ row.uploadWriteToken = some token ∧ row.uploadedAt = none then
    some { row with uploadWriteToken := none, uploadHeartbeatAt := none, updatedAt := now }
  else none

def expireArtifactUploadWrite : Option UploadSession :=
  if row.status = .pending ∧ row.uploadWriteToken = some token ∧ row.uploadedAt = none then
    some { row with
      status := .expired
      uploadWriteToken := none
      uploadHeartbeatAt := none
      failureCode := some "upload_write_deadline_exceeded"
      dedupeKey := none
      finalizedAt := some now
      updatedAt := now }
  else none

def sealUpload : Option UploadSession :=
  if row.status = .pending ∧ row.uploadWriteToken = some token ∧ row.finalizationToken = none ∧
      row.uploadedAt = none ∧ now < row.expiresAt then
    some { row with
      uploadedAt := some now
      uploadWriteToken := none
      uploadHeartbeatAt := none
      failureCode := none
      updatedAt := now }
  else none

def expireUpload : Option UploadSession :=
  if row.status = .pending ∧ row.uploadWriteToken = none ∧ row.finalizationToken = none ∧
      row.expiresAt ≤ now then
    some { row with
      status := .expired
      uploadHeartbeatAt := none
      failureCode := some "upload_expired"
      dedupeKey := none
      finalizedAt := some now
      updatedAt := now }
  else none

/-! ### Finalizing -/

def recoverStaleFinalizing (cutoff : Time) : Option UploadSession :=
  if row.status = .finalizing ∧ row.updatedAt ≤ cutoff then
    some { row with
      status := .pending
      uploadWriteToken := none
      uploadHeartbeatAt := none
      finalizationToken := none
      failureCode := some "stale_finalizing_recovered"
      updatedAt := now }
  else none

def claimFinalization : Option UploadSession :=
  if row.status = .pending ∧ row.uploadWriteToken = none ∧ row.finalizationToken = none ∧
      (row.storageBackend ≠ .disk ∨ row.uploadedAt ≠ none) then
    some { row with
      status := .finalizing
      finalizationToken := some token
      failureCode := none
      updatedAt := now }
  else none

def touchArtifactFinalization : Option UploadSession :=
  if row.status = .finalizing ∧ row.finalizationToken = some token then
    some { row with updatedAt := now }
  else none

/-- `_transition_owned_finalizing` to `pending`. -/
def resetFinalizing (failureCode : String) : Option UploadSession :=
  if row.status = .finalizing ∧ row.finalizationToken = some token then
    some { row with
      status := .pending
      uploadWriteToken := none
      uploadHeartbeatAt := none
      finalizationToken := none
      failureCode := some failureCode
      updatedAt := now }
  else none

/-- `_transition_owned_finalizing` to `failed`. -/
def failFinalizing (failureCode : String) : Option UploadSession :=
  if row.status = .finalizing ∧ row.finalizationToken = some token then
    some { row with
      status := .failed
      uploadWriteToken := none
      uploadHeartbeatAt := none
      finalizationToken := none
      failureCode := some failureCode
      dedupeKey := none
      finalizedAt := some now
      updatedAt := now }
  else none

/-- The second update of `_mark_verification_failure`. -/
def markCanonicalNotRequired : Option UploadSession :=
  if row.status = .failed ∧ row.canonicalCleanup.completedAt = none then
    some { row with
      canonicalCleanup := { row.canonicalCleanup with completedAt := some now }
      updatedAt := now }
  else none

def completeUpload (artifactId : UploadArtifactId) : Option UploadSession :=
  if row.status = .finalizing ∧ row.finalizationToken = some token then
    some { row with
      artifactId := some artifactId
      status := .completed
      uploadWriteToken := none
      uploadHeartbeatAt := none
      finalizationToken := none
      failureCode := none
      uploadedAt := some (row.uploadedAt.getD now)
      finalizedAt := some now
      updatedAt := now }
  else none

/-! ### Cleaning up -/

/-- Nobody holds the cleanup claim, or its holder is silent. -/
def cleanupClaimable (settings : ArtifactSettings) : Bool :=
  row.cleanupToken = none || row.cleanupHeartbeatAt.all fun heartbeat =>
    heartbeat ≤ now - seconds settings.cleanupClaimStale

def claimCleanup (storage : StorageIdentity) (settings : ArtifactSettings) :
    Option UploadSession :=
  if storage.Matches row ∧ row.status.Terminal ∧ cleanupClaimable now row settings ∧
      (row.stagingCleanup.completedAt = none ∨
        row.status.Abandoned ∧ row.canonicalCleanup.completedAt = none) then
    some { row with
      cleanupToken := some token
      cleanupHeartbeatAt := some now
      finalizedAt := some (row.finalizedAt.getD row.updatedAt)
      updatedAt := now }
  else none

def touchCleanupClaim : Option UploadSession :=
  if row.status.Terminal ∧ row.cleanupToken = some token then
    some { row with cleanupHeartbeatAt := some now, updatedAt := now }
  else none

def releaseCleanupClaim : Option UploadSession :=
  if row.cleanupToken = some token then
    some { row with cleanupToken := none, cleanupHeartbeatAt := none, updatedAt := now }
  else none

/-- `_candidate_identity_predicates`, and the storage of the candidate. -/
def SameCandidate (candidate : UploadSession) : Prop :=
  row.jobId = candidate.jobId ∧ row.attemptId = candidate.attemptId ∧
    row.artifactType = candidate.artifactType ∧
    row.temporaryObjectKey = candidate.temporaryObjectKey ∧
    row.canonicalObjectKey = candidate.canonicalObjectKey ∧
    row.storageBackend = candidate.storageBackend ∧
    row.storageNamespaceSha256 = candidate.storageNamespaceSha256

instance (candidate : UploadSession) : Decidable (SameCandidate row candidate) :=
  inferInstanceAs (Decidable (_ ∧ _ ∧ _ ∧ _ ∧ _ ∧ _ ∧ _))

def CleanupKind.Expects (candidate : UploadSession) : CleanupKind → Prop
  | .canonical => row.status.Abandoned
  | .staging => row.status = candidate.status

instance (candidate : UploadSession) : (kind : CleanupKind) →
    Decidable (kind.Expects row candidate)
  | .canonical => inferInstanceAs (Decidable row.status.Abandoned)
  | .staging => inferInstanceAs (Decidable (row.status = candidate.status))

/-- A failed cleanup of the canonical object stays on record. -/
def cleanupFailureCode : CleanupKind → String
  | .canonical => "canonical_cleanup_failed"
  | .staging =>
      if row.canonicalCleanup.completedAt = none ∧
          row.failureCode = some "canonical_cleanup_failed" then "canonical_cleanup_failed"
      else "cleanup_failed"

def recordCleanupFailure (candidate : UploadSession) (kind : CleanupKind) :
    Option UploadSession :=
  if row.cleanupToken = some token ∧ SameCandidate row candidate ∧
      kind.Expects row candidate ∧ (row.marks kind).completedAt = none then
    some { row with
      failureCode := some (cleanupFailureCode row kind)
      cleanupHeartbeatAt := some now
      updatedAt := now }
  else none

def recordCleanupKeyMismatch (candidate : UploadSession) : Option UploadSession :=
  if row.cleanupToken = some token ∧ SameCandidate row candidate then
    some { row with
      failureCode := some "cleanup_key_mismatch"
      cleanupHeartbeatAt := some now
      updatedAt := now }
  else none

def recordFirstDelete (candidate : UploadSession) (kind : CleanupKind) : Option UploadSession :=
  if row.cleanupToken = some token ∧ SameCandidate row candidate ∧
      kind.Expects row candidate ∧ (row.marks kind).firstDeletedAt = none ∧
      (row.marks kind).completedAt = none then
    some { row.setMarks { row.marks kind with firstDeletedAt := some now } kind with
      cleanupHeartbeatAt := some now
      updatedAt := now }
  else none

def recordCleanupComplete (candidate : UploadSession) (kind : CleanupKind)
    (localSinglePass : Bool) : Option UploadSession :=
  if row.cleanupToken = some token ∧ SameCandidate row candidate ∧
      kind.Expects row candidate ∧ (localSinglePass ∨ (row.marks kind).firstDeletedAt ≠ none) ∧
      (row.marks kind).completedAt = none then
    let firstDeletedAt := if localSinglePass then some now else (row.marks kind).firstDeletedAt
    some { row.setMarks ⟨firstDeletedAt, some now⟩ kind with
      cleanupHeartbeatAt := some now
      updatedAt := now }
  else none

end

/-! ## When an object is due -/

inductive CleanupAction where
  | onePass
  | first
  | confirm
deriving DecidableEq, Repr

def canonicalAction (settings : ArtifactSettings) (candidate : UploadSession) (now : Time) :
    Option CleanupAction :=
  if ¬candidate.status.Abandoned ∨ candidate.canonicalCleanup.completedAt ≠ none then none
  else
    match candidate.canonicalCleanup.firstDeletedAt with
    | some firstDeletedAt =>
        if firstDeletedAt + seconds settings.cleanupConfirmationGrace ≤ now then some .confirm
        else none
    | none =>
        if candidate.finalizedAt.getD candidate.updatedAt + seconds settings.finalizingStale ≤ now
        then some .first
        else none

def stagingAction (settings : ArtifactSettings) (storage : StorageIdentity)
    (candidate : UploadSession) (now : Time) : Option CleanupAction :=
  if ¬candidate.status.Terminal ∨ candidate.stagingCleanup.completedAt ≠ none then none
  else
    match candidate.stagingCleanup.firstDeletedAt with
    | some firstDeletedAt =>
        if firstDeletedAt + seconds settings.cleanupConfirmationGrace ≤ now then some .confirm
        else none
    | none =>
        if storage.backend = .disk then some .onePass
        else if candidate.expiresAt + seconds settings.stagingCleanupGrace ≤ now then some .first
        else none

def cleanupActions (settings : ArtifactSettings) (storage : StorageIdentity)
    (candidate : UploadSession) (now : Time) : List (CleanupKind × CleanupAction) :=
  ((canonicalAction settings candidate now).map (CleanupKind.canonical, ·)).toList ++
    ((stagingAction settings storage candidate now).map (CleanupKind.staging, ·)).toList

/-- `_validated_candidate_object_keys` returns the keys of the row. -/
def candidateKeysValid (uploadId : UploadId) (candidate : UploadSession) : Bool :=
  candidate.temporaryObjectKey = stagingObjectKey candidate.attemptId uploadId &&
    candidate.canonicalObjectKey = canonicalObjectKey candidate.jobId candidate.attemptId
      candidate.artifactType uploadId

/-- `_cleanup_due_predicate` with the claim predicate of `_candidate_ids`. -/
def cleanupSelected (settings : ArtifactSettings) (storage : StorageIdentity)
    (row : UploadSession) (now : Time) : Bool :=
  storage.Matches row && cleanupClaimable now row settings &&
    ((canonicalAction settings row now).isSome || (stagingAction settings storage row now).isSome)

end RvcOrchestrator.Manager

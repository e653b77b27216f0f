import RvcOrchestrator.Manager.Accounts
import RvcOrchestrator.Manager.ArtifactUploads

/-! # Datasets: the rows

A dataset, its upload sessions, and the updates that are made to them.
-/

namespace RvcOrchestrator.Manager

open RvcOrchestrator.Foundation RvcOrchestrator.Contracts

abbrev DatasetId := Nat

/-! ## Object keys -/

/-- The four objects that a finalization publishes. -/
inductive CanonicalRole where
  | original
  | preparedFlat
  | manifest
  | qualityReport
deriving DecidableEq, Repr

def canonicalRoles : List CanonicalRole :=
  [.original, .preparedFlat, .manifest, .qualityReport]

@[simp] theorem mem_canonicalRoles (role : CanonicalRole) : role ∈ canonicalRoles := by
  cases role <;> simp [canonicalRoles]

/-- The paths of stored objects. Their parts are UUIDs and file names, none of which contains
the separator, and the name of the file says what its role is. -/
inductive DatasetObjectKey where
  | staging (datasetId : DatasetId) (uploadId : UploadId)
  | verified (datasetId : DatasetId) (uploadId : UploadId) (role : CanonicalRole)
      (extension : String)
deriving DecidableEq

namespace DatasetObjectKey

def uploadId : DatasetObjectKey → UploadId
  | staging _ uploadId | verified _ uploadId _ _ => uploadId

end DatasetObjectKey

def datasetTemporaryObjectKey (datasetId : DatasetId) (sessionId : UploadId) : DatasetObjectKey :=
  .staging datasetId sessionId

def datasetVerifiedObjectKey (datasetId : DatasetId) (uploadSessionId : UploadId)
    (extension : String) : CanonicalRole → DatasetObjectKey
  | .original => .verified datasetId uploadSessionId .original extension
  | role => .verified datasetId uploadSessionId role ""

/-- The suffix of a plain file name, in lower case. -/
def datasetExtension (filename : String) : String :=
  let suffix := filename.toList.reverse.takeWhile (· ≠ '.')
  if suffix = [] ∨ filename.length ≤ suffix.length + 1 then ""
  else (String.ofList ('.' :: suffix.reverse)).toLower

theorem uploadId_verifiedObjectKey (datasetId : DatasetId) (uploadId : UploadId)
    (extension : String) (role : CanonicalRole) :
    (datasetVerifiedObjectKey datasetId uploadId extension role).uploadId = uploadId := by
  cases role <;> rfl

/-- The keys of the objects of one session differ by their roles. -/
theorem datasetVerifiedObjectKey_injective {datasetId otherDatasetId : DatasetId}
    {uploadId otherId : UploadId} {extension otherExtension : String}
    {role other : CanonicalRole}
    (same : datasetVerifiedObjectKey datasetId uploadId extension role =
      datasetVerifiedObjectKey otherDatasetId otherId otherExtension other) :
    role = other := by
  cases role <;> cases other <;> first | rfl | cases same

theorem datasetVerifiedObjectKey_ne_temporary (datasetId otherDatasetId : DatasetId)
    (uploadId otherId : UploadId) (extension : String) (role : CanonicalRole) :
    datasetVerifiedObjectKey datasetId uploadId extension role ≠
      datasetTemporaryObjectKey otherDatasetId otherId := by
  cases role <;> simp [datasetVerifiedObjectKey, datasetTemporaryObjectKey]

/-! ## Rows -/

inductive DatasetStatus where
  | uploadPending
  | processing
  | ready
  | decoderPending
  | failed
  | deleting
  | deleteFailed
  | legacyImported
deriving DecidableEq, Repr

/-- A storage URI: a key under the prefix of the storage, or what a client supplied. -/
inductive DatasetUri where
  | stored (key : DatasetObjectKey)
  | external (uri : String)
deriving DecidableEq

structure Dataset where
  createdBy : UserId
  originalSizeBytes : Option Nat
  originalSha256 : Option String
  storageUri : Option DatasetUri
  flatStorageUri : Option DatasetUri
  manifestStorageUri : Option DatasetUri
  qualityReportStorageUri : Option DatasetUri
  preparedFlatSizeBytes : Option Nat
  preparedFlatSha256 : Option String
  manifestSha256 : Option String
  qualityReportSha256 : Option String
  decoderPendingCount : Nat
  isUsable : Bool
  status : DatasetStatus
  failureCode : Option String
  retryable : Bool
deriving DecidableEq

/-- The fields of the request without its idempotency key. Their hash is the fingerprint. -/
structure DatasetUploadDocument where
  name : String
  filename : String
  contentType : String
  sizeBytes : Nat
  sha256 : String
deriving DecidableEq

/-- The columns of a session that are never updated. -/
structure DatasetReservation where
  datasetId : DatasetId
  ownerId : UserId
  idempotencyKey : String
  generation : Nat
  requestFingerprint : DatasetUploadDocument
  filename : String
  contentType : String
  expectedSizeBytes : Nat
  expectedSha256 : String
  temporaryObjectKey : DatasetObjectKey
  originalObjectKey : DatasetObjectKey
  preparedFlatObjectKey : DatasetObjectKey
  manifestObjectKey : DatasetObjectKey
  qualityReportObjectKey : DatasetObjectKey
  storageBackend : StorageBackend
  storageNamespaceSha256 : String
  expiresAt : Time
deriving DecidableEq

structure DatasetUploadSession extends DatasetReservation where
  status : UploadStatus
  uploadWriteToken : Option ClaimToken
  uploadHeartbeatAt : Option Time
  finalizationToken : Option ClaimToken
  finalizationHeartbeatAt : Option Time
  uploadedAt : Option Time
  finalizedAt : Option Time
  failureCode : Option String
  cleanupClaimRunId : Option Nat
  cleanupClaimedAt : Option Time
  cleanupClaimGeneration : Option Nat
  cleanupFirstDeletedAt : Option Time
  cleanupCompletedAt : Option Time
  updatedAt : Time
deriving DecidableEq

/-- Pending or finalizing: what the quotas of an owner count. -/
def UploadStatus.Active (status : UploadStatus) : Prop :=
  status = pending ∨ status = finalizing

instance : DecidablePred UploadStatus.Active := fun status =>
  inferInstanceAs (Decidable (status = _ ∨ status = _))

theorem UploadStatus.active_or_terminal (status : UploadStatus) :
    status.Active ∨ status.Terminal := by
  cases status <;> simp [Active, Terminal]

theorem UploadStatus.Terminal.not_active {status : UploadStatus} (terminal : status.Terminal) :
    ¬status.Active := by
  rcases terminal with same | same | same <;> simp [same, Active]

namespace DatasetReservation

def canonicalObjectKey (row : DatasetReservation) : CanonicalRole → DatasetObjectKey
  | .original => row.originalObjectKey
  | .preparedFlat => row.preparedFlatObjectKey
  | .manifest => row.manifestObjectKey
  | .qualityReport => row.qualityReportObjectKey

/-- The keys of the row are those of its identifier. -/
def KeysValid (row : DatasetReservation) (uploadId : UploadId) : Prop :=
  row.temporaryObjectKey = datasetTemporaryObjectKey row.datasetId uploadId ∧
    ∀ role ∈ canonicalRoles, row.canonicalObjectKey role =
      datasetVerifiedObjectKey row.datasetId uploadId (datasetExtension row.filename) role

instance (row : DatasetReservation) (uploadId : UploadId) : Decidable (row.KeysValid uploadId) :=
  inferInstanceAs (Decidable (_ ∧ _))

end DatasetReservation

/-- `_upload_storage_matches` -/
def StorageIdentity.Holds (storage : StorageIdentity) (row : DatasetReservation) : Prop :=
  row.storageBackend = storage.backend ∧
    row.storageNamespaceSha256 = storage.namespaceFingerprint

instance (storage : StorageIdentity) (row : DatasetReservation) : Decidable (storage.Holds row) :=
  inferInstanceAs (Decidable (_ ∧ _))

/-- The settings of dataset uploads. The periods are in seconds. -/
structure DatasetSettings where
  uploadMaxBytes : Nat
  ownerMaxSessions : Nat
  ownerMaxBytes : Nat
  uploadTtl : Nat
  uploadWriteStale : Nat
  finalizingStale : Nat
  cleanupGrace : Nat
  lateWriterGrace : Nat
  confirmationGrace : Nat
  cleanupClaimStale : Nat

/-! ## Updates of a session -/

namespace DatasetUploadSession

section

variable (now : Time) (row : DatasetUploadSession)

/-- `_recover_stale_finalizing` and `_expire_upload` -/
def expire (failureCode : String) : DatasetUploadSession :=
  { row with
    status := .expired
    uploadWriteToken := none
    uploadHeartbeatAt := none
    finalizationToken := none
    finalizationHeartbeatAt := none
    failureCode := some failureCode
    updatedAt := now }

def fenceStaleWriter : DatasetUploadSession :=
  { row with
    status := .expired
    uploadWriteToken := none
    uploadHeartbeatAt := none
    failureCode := some "stale_upload_writer"
    updatedAt := now }

/-- `_expire_upload_write_claim` -/
def expireUploadWriteClaim : DatasetUploadSession :=
  { row with
    status := .expired
    uploadWriteToken := none
    uploadHeartbeatAt := none
    uploadedAt := none
    failureCode := some "upload_write_deadline_exceeded"
    updatedAt := now }

def claimUploadWrite (token : ClaimToken) : DatasetUploadSession :=
  { row with
    uploadWriteToken := some token
    uploadHeartbeatAt := some now
    uploadedAt := none
    failureCode := none
    updatedAt := now }

/-- `_touch_upload_write` -/
def touchUploadWrite (token : ClaimToken) (generation : Nat) : Option DatasetUploadSession :=
  if row.generation = generation ∧ row.status = .pending ∧ row.uploadWriteToken = some token ∧
      now < row.expiresAt then
    some { row with uploadHeartbeatAt := some now, updatedAt := now }
  else none

/-- `_clear_upload_write_claim` -/
def clearUploadWriteClaim (token : ClaimToken) (generation : Nat) : Option DatasetUploadSession :=
  if row.generation = generation ∧ row.status = .pending ∧ row.uploadWriteToken = some token then
    some { row with uploadWriteToken := none, uploadHeartbeatAt := none, updatedAt := now }
  else none

def sealUpload : DatasetUploadSession :=
  { row with
    uploadedAt := some now
    uploadWriteToken := none
    uploadHeartbeatAt := none
    updatedAt := now }

def claimFinalization (token : ClaimToken) : DatasetUploadSession :=
  { row with
    status := .finalizing
    finalizationToken := some token
    finalizationHeartbeatAt := some now
    failureCode := none
    updatedAt := now }

/-- `_touch_finalization` -/
def touchFinalization (token : ClaimToken) (generation : Nat) : Option DatasetUploadSession :=
  if row.generation = generation ∧ row.status = .finalizing ∧
      row.finalizationToken = some token then
    some { row with finalizationHeartbeatAt := some now, updatedAt := now }
  else none

/-- How `_set_upload_failure` and `_recover_aborted_finalization` end a finalization. -/
def failFinalization (failureCode : String) (retryable : Bool) : DatasetUploadSession :=
  { row with
    status := if retryable then .pending else .failed
    finalizationToken := none
    finalizationHeartbeatAt := none
    failureCode := some failureCode
    updatedAt := now }

def complete : DatasetUploadSession :=
  { row with
    status := .completed
    finalizationToken := none
    finalizationHeartbeatAt := none
    failureCode := none
    finalizedAt := some now
    updatedAt := now }

def setFailureCode (failureCode : String) : DatasetUploadSession :=
  { row with failureCode := some failureCode, updatedAt := now }

/-- The update of `_claim_candidate`. -/
def claimCleanup (runId : Nat) : DatasetUploadSession :=
  { row with
    status := if row.status = .pending then .expired else row.status
    uploadWriteToken := none
    uploadHeartbeatAt := none
    finalizationToken := none
    finalizationHeartbeatAt := none
    cleanupClaimRunId := some runId
    cleanupClaimedAt := some now
    cleanupFirstDeletedAt :=
      if row.cleanupClaimGeneration = some row.generation then row.cleanupFirstDeletedAt else none
    cleanupClaimGeneration := some row.generation
    failureCode := some "staging_cleanup_pending"
    updatedAt := now }

def recordFirstDeletion : DatasetUploadSession :=
  { row with
    cleanupFirstDeletedAt := some now
    failureCode := some "staging_cleanup_confirmation_pending"
    updatedAt := now }

def completeCleanup : DatasetUploadSession :=
  { row with
    cleanupCompletedAt := some now
    failureCode := some "staging_cleanup_complete"
    updatedAt := now }

end

/-! ### Conditions -/

section

variable (settings : DatasetSettings) (now : Time) (row : DatasetUploadSession)

def FinalizationStale : Prop :=
  row.finalizationHeartbeatAt.getD row.updatedAt ≤ now - seconds settings.finalizingStale ∧
    row.finalizationToken ≠ none

/-- The heartbeat of a write, or the last update before the first heartbeat. -/
def WriteActive : Prop :=
  now - seconds settings.uploadWriteStale < row.uploadHeartbeatAt.getD row.updatedAt

/-- `_dataset_writer_is_active` -/
def WriterIsActive : Prop :=
  row.uploadWriteToken ≠ none ∧
    ∃ heartbeat ∈ row.uploadHeartbeatAt, now - seconds settings.uploadWriteStale < heartbeat

/-- `_dataset_cleanup_grace` -/
def graceBefore : Time :=
  now - seconds (max settings.cleanupGrace settings.lateWriterGrace)

/-- `_is_cleanup_eligible` -/
def CleanupEligible (runId : Nat) : Prop :=
  row.cleanupCompletedAt = none ∧ (row.status = .pending ∨ row.status.Abandoned) ∧
    ¬row.WriterIsActive settings now ∧
    if row.cleanupClaimRunId = some runId then row.cleanupClaimGeneration = some row.generation
    else
      (row.cleanupClaimRunId ≠ none →
        ∃ claimedAt ∈ row.cleanupClaimedAt,
          claimedAt ≤ now - seconds settings.cleanupClaimStale) ∧
      if row.status = .pending then row.expiresAt ≤ graceBefore settings now
      else row.updatedAt ≤ graceBefore settings now

/-- What `_delete_claimed_staging_object` expects of the row. -/
def CleanupClaimed (uploadId : UploadId) (runId : Nat) : Prop :=
  row.cleanupClaimRunId = some runId ∧ row.cleanupClaimGeneration = some row.generation ∧
    row.cleanupCompletedAt = none ∧ row.status.Abandoned ∧ row.uploadWriteToken = none ∧
    row.finalizationToken = none ∧
    row.temporaryObjectKey = datasetTemporaryObjectKey row.datasetId uploadId

instance : Decidable (row.FinalizationStale settings now) :=
  inferInstanceAs (Decidable (_ ∧ _))

instance : Decidable (row.WriteActive settings now) :=
  inferInstanceAs (Decidable (_ < _))

instance : Decidable (row.WriterIsActive settings now) :=
  inferInstanceAs (Decidable (_ ∧ _))

instance (runId : Nat) : Decidable (row.CleanupEligible settings now runId) :=
  inferInstanceAs (Decidable (_ ∧ _ ∧ _ ∧ ite ..))

instance (uploadId : UploadId) (runId : Nat) : Decidable (row.CleanupClaimed uploadId runId) :=
  inferInstanceAs (Decidable (_ ∧ _ ∧ _ ∧ _ ∧ _ ∧ _ ∧ _))

/-- `active_upload` of `delete_dataset` -/
def BlocksDeletion : Prop :=
  row.uploadWriteToken ≠ none ∨ row.status = .finalizing ∨
    row.status = .pending ∧ now < row.expiresAt

/-- `cleanup_pending` of `delete_dataset` -/
def CleanupPending : Prop :=
  (row.status = .pending ∨ row.status.Abandoned) ∧ row.cleanupCompletedAt = none

instance : Decidable (row.BlocksDeletion now) :=
  inferInstanceAs (Decidable (_ ∨ _ ∨ _ ∧ _))

instance : Decidable row.CleanupPending :=
  inferInstanceAs (Decidable (_ ∧ _))

end

end DatasetUploadSession

/-! ## Updates of a dataset -/

/-- What `prepare_dataset_snapshot` leaves to be published beside the original. -/
structure DatasetSnapshot (Content : Type) where
  preparedFlat : Content
  manifest : Content
  qualityReport : Content
  decoderPendingCount : Nat
deriving DecidableEq

def DatasetSnapshot.content {Content : Type} (snapshot : DatasetSnapshot Content)
    (verified : Content) : CanonicalRole → Content
  | .original => verified
  | .preparedFlat => snapshot.preparedFlat
  | .manifest => snapshot.manifest
  | .qualityReport => snapshot.qualityReport

namespace Dataset

section

variable (dataset : Dataset)

def reopen (failureCode : String) : Dataset :=
  { dataset with
    status := .uploadPending
    failureCode := some failureCode
    retryable := true }

def startProcessing : Dataset :=
  { dataset with status := .processing, failureCode := none, retryable := true }

def failProcessing (failureCode : String) (retryable : Bool) : Dataset :=
  { dataset with
    status := if retryable then .uploadPending else .failed
    failureCode := some failureCode
    retryable := retryable }

def finalize {Content : Type} (sizeBytes : Content → Nat) (sha256 : Content → String)
    (upload : DatasetReservation) (snapshot : DatasetSnapshot Content) : Dataset :=
  { dataset with
    flatStorageUri := some (.stored upload.preparedFlatObjectKey)
    manifestStorageUri := some (.stored upload.manifestObjectKey)
    qualityReportStorageUri := some (.stored upload.qualityReportObjectKey)
    preparedFlatSizeBytes := some (sizeBytes snapshot.preparedFlat)
    preparedFlatSha256 := some (sha256 snapshot.preparedFlat)
    manifestSha256 := some (sha256 snapshot.manifest)
    qualityReportSha256 := some (sha256 snapshot.qualityReport)
    decoderPendingCount := snapshot.decoderPendingCount
    isUsable := snapshot.decoderPendingCount = 0
    status := if snapshot.decoderPendingCount = 0 then .ready else .decoderPending
    failureCode := none
    retryable := false }

def startDeleting : Dataset :=
  { dataset with status := .deleting, retryable := true }

def failDeleting : Dataset :=
  { dataset with
    status := .deleteFailed
    failureCode := some "object_cleanup_failed"
    retryable := true }

/-- `dataset_ready_for_training` -/
def ReadyForTraining : Prop :=
  dataset.isUsable ∧ (dataset.status = .ready ∨ dataset.status = .legacyImported) ∧
    dataset.flatStorageUri ≠ none

instance : Decidable dataset.ReadyForTraining :=
  inferInstanceAs (Decidable (_ ∧ _ ∧ _))

/-- The SHA-256 of each object, as the row records it. -/
def recordedSha256 : CanonicalRole → Option String
  | .original => dataset.originalSha256
  | .preparedFlat => dataset.preparedFlatSha256
  | .manifest => dataset.manifestSha256
  | .qualityReport => dataset.qualityReportSha256

/-- The size of an object, where the row has a column for it. -/
def recordedSizeBytes : CanonicalRole → Option Nat
  | .original => dataset.originalSizeBytes
  | .preparedFlat => dataset.preparedFlatSizeBytes
  | .manifest | .qualityReport => none

end

end Dataset

end RvcOrchestrator.Manager

import RvcOrchestrator.Manager.DatasetUploads

/-! # Dataset uploads: finalization and deletion

A finalization claims its session, verifies and prepares the upload, publishes four objects,
each operation between two heartbeats, and completes the session. Whatever ends it early
removes what it has published.
-/

namespace RvcOrchestrator.Manager

open RvcOrchestrator.Foundation RvcOrchestrator.Contracts

section

variable {Content : Type} (sizeBytes : Content → Nat) (sha256 : Content → String)
  (settings : DatasetSettings) (storage : StorageIdentity)

/-! ## Finalizing -/

structure FinalizeDatasetRequest where
  uploadId : UploadId
  user : DatasetUser
deriving DecidableEq

inductive FinalizationTask (Content : Type) where
  | verify
  | prepare (verified : Content)
  | publish (verified : Content) (snapshot : DatasetSnapshot Content) (role : CanonicalRole)

inductive TaskFailure where
  | notFound
  | mismatch (failureCode : String)
  | spool (failureCode : String)
  | preparation (failureCode : String) (retryable : Bool)
  | storage
  | other
deriving DecidableEq

inductive TaskResult (Content : Type) where
  | verified (verified : Content)
  | prepared (verified : Content) (snapshot : DatasetSnapshot Content)
  | published (verified : Content) (snapshot : DatasetSnapshot Content) (role : CanonicalRole)
  | failed (failure : TaskFailure)

inductive CleanupReason where
  | leaseLost
  | publishFailed
deriving DecidableEq

/-- `published` are the roles in `published_keys`, the last one first. -/
inductive DatasetFinalizePhase (Content : Type) where
  | requested
  | starting (owned : DatasetReservation) (task : FinalizationTask Content)
      (published : List CanonicalRole)
  | operating (owned : DatasetReservation) (task : FinalizationTask Content)
      (published : List CanonicalRole)
  | operated (owned : DatasetReservation) (result : TaskResult Content)
      (published : List CanonicalRole)
  | cleaning (owned : DatasetReservation) (remaining : List CanonicalRole) (succeeded : Bool)
      (reason : CleanupReason)
  /-- `_set_upload_failure` -/
  | failing (owned : DatasetReservation) (failureCode : String)
      (retryable cleanupTemporary : Bool) (published : List CanonicalRole) (answer : HttpError)
  | committing (owned : DatasetReservation) (verified : Content)
      (snapshot : DatasetSnapshot Content) (published : List CanonicalRole)
  /-- `_recover_aborted_finalization` -/
  | recovering (owned : DatasetReservation) (failureCode : String)
      (published : List CanonicalRole) (afterCommit cancelled : Bool)
  | removingStaging (owned : DatasetReservation) (recovered cancelled : Bool)
  | marking (owned : DatasetReservation)
  | answered (answer : DatasetAnswer DatasetId)

def CanonicalRole.next? : CanonicalRole → Option CanonicalRole
  | original => some preparedFlat
  | preparedFlat => some manifest
  | manifest => some qualityReport
  | qualityReport => none

def finalizationLeaseLost : HttpError := ⟨409, "dataset finalization lease was lost"⟩

def beginDatasetFinalization (store : DatasetStore Content) (request : FinalizeDatasetRequest)
    (token : ClaimToken) : DatasetFinalizePhase Content × DatasetStore Content :=
  let refuse (status : Nat) (detail : String) :
      DatasetFinalizePhase Content × DatasetStore Content :=
    (.answered (some (.error ⟨status, detail⟩)), store)
  match store.lockDatasetThenUpload request.uploadId with
  | none =>
      if (store.sessions request.uploadId).isNone then
        refuse 404 "dataset upload session not found"
      else refuse 409 "dataset upload lost its dataset row"
  | some (dataset, upload) =>
      if ¬request.user.MayUse dataset then refuse 404 "dataset not found"
      else if ¬storage.Holds upload.toDatasetReservation then
        (.answered (some (.error storageUnavailable)), store)
      else if upload.status = .completed then (.answered (some (.ok upload.datasetId)), store)
      else if upload.status.Abandoned then
        refuse 409 ("dataset upload is " ++ upload.status.text)
      else if ¬upload.KeysValid request.uploadId then
        refuse 409 "dataset upload object key is invalid"
      else if upload.status = .finalizing then
        if upload.FinalizationStale settings store.clock then
          (.answered (some (.error ⟨409,
              "stale dataset finalization was fenced; initialize a new generation"⟩)),
            store.commit request.uploadId
              (upload.expire store.clock "stale_finalizing_recovered")
              (dataset.reopen "stale_finalizing_recovered"))
        else refuse 409 "dataset upload is already finalizing"
      else if upload.expiresAt ≤ store.clock then
        (.answered (some (.error ⟨409, "dataset upload expired"⟩)),
          store.commit request.uploadId (upload.expire store.clock "upload_expired")
            (dataset.reopen "upload_expired"))
      else if upload.uploadWriteToken ≠ none then
        if upload.WriteActive settings store.clock then
          refuse 409 "dataset upload write is active"
        else
          (.answered (some (.error ⟨409, "stale dataset upload writer was fenced"⟩)),
            store.commit request.uploadId (upload.fenceStaleWriter store.clock)
              (dataset.reopen "stale_upload_writer"))
      else
        (.starting upload.toDatasetReservation .verify [],
          store.commit request.uploadId (upload.claimFinalization store.clock token)
            dataset.startProcessing)

/-- `verify_object_to_spool` -/
def verifyDatasetUpload (store : DatasetStore Content) (owned : DatasetReservation) :
    DatasetOutcome → TaskResult Content
  | .spoolRaises failureCode => .failed (.spool failureCode)
  | .storageRaises _ | .timesOut _ => .failed .storage
  | .aborts .. | .preparationRaises .. => .failed .other
  | .works =>
      match store.objects owned.temporaryObjectKey with
      | none => .failed .notFound
      | some content =>
          if owned.expectedSizeBytes + 1 < sizeBytes content then
            .failed (.mismatch "size_mismatch")
          else if sizeBytes content ≠ owned.expectedSizeBytes then
            .failed (.mismatch "size_mismatch")
          else if sha256 content ≠ owned.expectedSha256 then
            .failed (.mismatch "sha256_mismatch")
          else .verified content

/-- What `ingest_dataset` and the archive writer make of a verified upload, or the failure
code with which they refuse it. -/
abbrev DatasetPreparation (Content : Type) :=
  String → Content → Except String (DatasetSnapshot Content)

/-- `prepare_dataset_snapshot` -/
def prepareDatasetSnapshot (prepare : DatasetPreparation Content) (owned : DatasetReservation)
    (verified : Content) : DatasetOutcome → TaskResult Content
  | .preparationRaises failureCode retryable => .failed (.preparation failureCode retryable)
  | .aborts .. | .spoolRaises _ | .storageRaises _ | .timesOut _ => .failed .other
  | .works =>
      match prepare (datasetExtension owned.filename) verified with
      | .error failureCode => .failed (.preparation failureCode false)
      | .ok snapshot => .prepared verified snapshot

/-- `store_verified_file` never replaces an object, and returns only if it has stored its
own. -/
def storeVerifiedDatasetFile (store : DatasetStore Content) (key : DatasetObjectKey)
    (content : Content) (outcome : DatasetOutcome) : Bool × DatasetStore Content :=
  if (store.objects key).isSome then (false, store)
  else
    match outcome with
    | .works => (true, store.writeObject key content)
    | .storageRaises effective | .timesOut effective | .aborts _ effective =>
        (false, if effective then store.writeObject key content else store)
    | .spoolRaises _ | .preparationRaises .. => (false, store)

/-- `publish_canonical` records a key only after the storage has returned. -/
def publishCanonical (store : DatasetStore Content) (owned : DatasetReservation)
    (verified : Content) (snapshot : DatasetSnapshot Content) (role : CanonicalRole)
    (outcome : DatasetOutcome) (published : List CanonicalRole) :
    DatasetFinalizePhase Content × DatasetStore Content :=
  let stored := storeVerifiedDatasetFile store (owned.canonicalObjectKey role)
    (snapshot.content verified role) outcome
  (if stored.1 then .operated owned (.published verified snapshot role) (role :: published)
    else
      .operated owned
        (.failed (match outcome with | .aborts .. => .other | _ => .storage)) published,
    stored.2)

def afterTask (owned : DatasetReservation) (result : TaskResult Content)
    (published : List CanonicalRole) : DatasetFinalizePhase Content :=
  match result with
  | .verified verified => .starting owned (.prepare verified) published
  | .prepared verified snapshot => .starting owned (.publish verified snapshot .original) published
  | .published verified snapshot role =>
      match role.next? with
      | some next => .starting owned (.publish verified snapshot next) published
      | none => .committing owned verified snapshot published
  | .failed .notFound =>
      .failing owned "uploaded_object_not_found" true false published
        ⟨409, "uploaded dataset object not found"⟩
  | .failed (.mismatch failureCode) =>
      .failing owned failureCode false true published
        ⟨422, "dataset size or SHA-256 mismatch"⟩
  | .failed (.spool failureCode) =>
      .failing owned failureCode true false published
        ⟨503, "dataset verification spool unavailable"⟩
  | .failed (.preparation failureCode retryable) =>
      .failing owned failureCode retryable (!retryable) published
        ⟨if retryable then 503 else 422, "dataset preparation failed"⟩
  | .failed .storage => .cleaning owned published true .publishFailed
  | .failed .other => .recovering owned "dataset_finalization_aborted" published false false

def afterCleaning (owned : DatasetReservation) (succeeded : Bool) :
    CleanupReason → DatasetFinalizePhase Content
  | .leaseLost => .answered (some (.error finalizationLeaseLost))
  | .publishFailed =>
      .failing owned (if succeeded then "dataset_publish_failed" else "partial_cleanup_failed")
        succeeded false [] ⟨503, "dataset object publish failed"⟩

def abortFinalization (owned : DatasetReservation) (published : List CanonicalRole)
    (cancelled : Bool) : DatasetFinalizePhase Content :=
  .recovering owned
    (if cancelled then "finalization_cancelled" else "dataset_finalization_aborted") published
    false cancelled

/-- `_set_upload_failure`. An aborted transaction may have removed the staged object. -/
def setUploadFailure (store : DatasetStore Content) (request : FinalizeDatasetRequest)
    (token : ClaimToken) (owned : DatasetReservation) (failureCode : String)
    (retryable cleanupTemporary : Bool) (published : List CanonicalRole) (answer : HttpError)
    (outcome : DatasetOutcome) (deletions : DatasetObjectKey → Deletion) :
    DatasetFinalizePhase Content × DatasetStore Content :=
  match store.lockDatasetThenUpload request.uploadId with
  | none => (.cleaning owned published true .leaseLost, store)
  | some (dataset, upload) =>
      if upload.generation ≠ owned.generation ∨ upload.status ≠ .finalizing ∨
          upload.finalizationToken ≠ some token then
        (.cleaning owned published true .leaseLost, store)
      else
        let key := upload.temporaryObjectKey
        let deleted :=
          if cleanupTemporary then store.deleteObject key (deletions key) else (true, store)
        let failureCode := if deleted.1 then failureCode else "staging_cleanup_failed"
        let retryable := retryable && deleted.1
        match outcome with
        | .aborts _ false => (.answered (some (.error datasetInternalError)), deleted.2)
        | _ =>
            (.answered (some (.error answer)),
              deleted.2.commit request.uploadId
                (upload.failFinalization store.clock failureCode retryable)
                (dataset.failProcessing failureCode retryable))

def commitDatasetFinalization (store : DatasetStore Content) (request : FinalizeDatasetRequest)
    (token : ClaimToken) (owned : DatasetReservation) (snapshot : DatasetSnapshot Content)
    (published : List CanonicalRole) (outcome : DatasetOutcome) :
    DatasetFinalizePhase Content × DatasetStore Content :=
  match store.lockDatasetThenUpload request.uploadId with
  | none => (.cleaning owned published true .leaseLost, store)
  | some (dataset, upload) =>
      if upload.status ≠ .finalizing ∨ upload.generation ≠ owned.generation ∨
          upload.finalizationToken ≠ some token then
        (.cleaning owned published true .leaseLost, store)
      else
        let committed := store.commit request.uploadId (upload.complete store.clock)
          (dataset.finalize sizeBytes sha256 upload.toDatasetReservation snapshot)
        match outcome with
        | .aborts cancelled effective =>
            (.recovering owned
              (if cancelled then "dataset_finalize_commit_cancelled"
                else "dataset_finalize_commit_failed") published true cancelled,
              if effective then committed else store)
        | _ => (.removingStaging owned false false, committed)

def abortedAnswer (afterCommit cancelled : Bool) : DatasetAnswer DatasetId :=
  if cancelled then none
  else
    some (.error ⟨503,
      if afterCommit then "dataset finalization commit failed" else "dataset finalization aborted"⟩)

/-- `_recover_aborted_finalization`. An aborted transaction may have removed objects. -/
def recoverAbortedFinalization (store : DatasetStore Content) (request : FinalizeDatasetRequest)
    (token : ClaimToken) (owned : DatasetReservation) (failureCode : String)
    (published : List CanonicalRole) (afterCommit cancelled : Bool) (outcome : DatasetOutcome)
    (deletions : DatasetObjectKey → Deletion) :
    DatasetFinalizePhase Content × DatasetStore Content :=
  match store.lockDatasetThenUpload request.uploadId with
  | none => (.answered (abortedAnswer afterCommit cancelled), store)
  | some (dataset, upload) =>
      if upload.datasetId ≠ owned.datasetId ∨ upload.generation ≠ owned.generation then
        (.answered (abortedAnswer afterCommit cancelled), store)
      else if upload.status = .completed then
        (if afterCommit then .removingStaging owned true cancelled
          else .answered (if cancelled then none else some (.ok owned.datasetId)), store)
      else if upload.status = .finalizing ∧ upload.finalizationToken ≠ some token then
        (.answered (abortedAnswer afterCommit cancelled), store)
      else
        let cleaned := cleanupPublishedKeys deletions (published.map owned.canonicalObjectKey) store
        let failureCode := if cleaned.1 then failureCode else "partial_cleanup_failed"
        match outcome with
        | .aborts _ false => (.answered (some (.error datasetInternalError)), cleaned.2)
        | _ =>
            (.answered (abortedAnswer afterCommit cancelled),
              if upload.status = .finalizing then
                cleaned.2.commit request.uploadId
                  (upload.failFinalization store.clock failureCode cleaned.1)
                  (dataset.failProcessing failureCode cleaned.1)
              else if cleaned.1 = false then
                cleaned.2.setSession request.uploadId
                  (upload.setFailureCode store.clock failureCode)
              else cleaned.2)

def advanceDatasetFinalizer (prepare : DatasetPreparation Content)
    (request : FinalizeDatasetRequest) (token : ClaimToken) (store : DatasetStore Content)
    (outcome : DatasetOutcome) (deletions : DatasetObjectKey → Deletion) :
    DatasetFinalizePhase Content → DatasetFinalizePhase Content × DatasetStore Content
  | .requested => beginDatasetFinalization settings storage store request token
  | .starting owned task published =>
      match outcome with
      | .aborts cancelled _ => (abortFinalization owned published cancelled, store)
      | _ =>
          let touched := store.amend request.uploadId fun row =>
            row.touchFinalization store.clock token owned.generation
          (if touched.1 then .operating owned task published
            else .cleaning owned published true .leaseLost, touched.2)
  | .operating owned .verify published =>
      (.operated owned (verifyDatasetUpload sizeBytes sha256 store owned outcome) published, store)
  | .operating owned (.prepare verified) published =>
      (.operated owned (prepareDatasetSnapshot prepare owned verified outcome) published, store)
  | .operating owned (.publish verified snapshot role) published =>
      publishCanonical store owned verified snapshot role outcome published
  | .operated owned result published =>
      match outcome with
      | .aborts cancelled _ => (abortFinalization owned published cancelled, store)
      | _ =>
          let touched := store.amend request.uploadId fun row =>
            row.touchFinalization store.clock token owned.generation
          (if touched.1 then afterTask owned result published
            else .cleaning owned published true .leaseLost, touched.2)
  | .cleaning owned [] succeeded reason => (afterCleaning owned succeeded reason, store)
  | .cleaning owned (role :: remaining) succeeded reason =>
      let key := owned.canonicalObjectKey role
      let deleted := store.deleteObject key (deletions key)
      (.cleaning owned remaining (succeeded && deleted.1) reason, deleted.2)
  | .failing owned failureCode retryable cleanupTemporary published answer =>
      setUploadFailure store request token owned failureCode retryable cleanupTemporary published
        answer outcome deletions
  | .committing owned _ snapshot published =>
      commitDatasetFinalization sizeBytes sha256 store request token owned snapshot published
        outcome
  | .recovering owned failureCode published afterCommit cancelled =>
      recoverAbortedFinalization store request token owned failureCode published afterCommit
        cancelled outcome deletions
  | .removingStaging owned recovered cancelled =>
      let key := owned.temporaryObjectKey
      let deleted := store.deleteObject key (deletions key)
      (if recovered ∨ deleted.1 then
          .answered (if cancelled then none else some (.ok owned.datasetId))
        else .marking owned,
        deleted.2)
  | .marking owned =>
      (.answered (some (.ok owned.datasetId)),
        (store.amend request.uploadId fun row =>
          some (row.setFailureCode store.clock "staging_cleanup_pending")).2)
  | .answered answer => (.answered answer, store)

/-! ## Deleting -/

structure DeleteDatasetRequest where
  datasetId : DatasetId
  user : DatasetUser
deriving DecidableEq

inductive DeletePhase where
  | requested
  | deleting (remaining : List DatasetObjectKey) (succeeded : Bool)
  | failing
  | removing
  | answered (answer : DatasetAnswer Unit)
deriving DecidableEq

def DatasetReservation.keys (row : DatasetReservation) : List DatasetObjectKey :=
  row.temporaryObjectKey :: canonicalRoles.map row.canonicalObjectKey

def beginDeletion (store : DatasetStore Content) (request : DeleteDatasetRequest) :
    DeletePhase × DatasetStore Content :=
  let refuse (status : Nat) (detail : String) : DeletePhase × DatasetStore Content :=
    (.answered (some (.error ⟨status, detail⟩)), store)
  match store.datasets request.datasetId with
  | none => refuse 404 "dataset not found"
  | some dataset =>
      let uploads := (store.uploadsOf request.datasetId).filterMap store.sessions
      if ¬request.user.MayUse dataset then refuse 404 "dataset not found"
      else if (store.experiments.any (·.2 = request.datasetId)) ∨
          (store.jobs.any (·.2 = request.datasetId)) then
        refuse 409 "referenced dataset cannot be deleted"
      else if uploads.any fun upload => upload.BlocksDeletion store.clock then
        refuse 409 "active dataset upload cannot be deleted"
      else if uploads.any fun upload => upload.CleanupPending then
        refuse 409 "dataset staging cleanup is pending"
      else if uploads.any fun upload => ¬storage.Holds upload.toDatasetReservation then
        (.answered (some (.error storageUnavailable)), store)
      else
        (if uploads = [] then .removing
          else .deleting (uploads.flatMap fun upload => upload.toDatasetReservation.keys) true,
          store.setDataset request.datasetId dataset.startDeleting)

/-- The row of the dataset goes, and with it those of its sessions. -/
def removeDataset (store : DatasetStore Content) (datasetId : DatasetId) : DatasetStore Content :=
  { store with
    datasets := Function.update store.datasets datasetId none
    sessions := fun uploadId =>
      (store.sessions uploadId).filter fun row => row.datasetId ≠ datasetId }

/-- The keys come from a set, so they are deleted in any order. -/
def advanceDeletion (request : DeleteDatasetRequest) (store : DatasetStore Content)
    (deletions : DatasetObjectKey → Deletion) (pick : Nat) :
    DeletePhase → DeletePhase × DatasetStore Content
  | .requested => beginDeletion storage store request
  | .deleting remaining succeeded =>
      match remaining[pick]? with
      | none =>
          (if remaining ≠ [] then .deleting remaining succeeded
            else if succeeded then .removing else .failing,
            store)
      | some key =>
          let deleted := store.deleteObject key (deletions key)
          (.deleting (remaining.eraseIdx pick) (succeeded && deleted.1), deleted.2)
  | .failing =>
      match store.datasets request.datasetId with
      | none => (.answered (some (.error datasetInternalError)), store)
      | some dataset =>
          (.answered (some (.error ⟨503, "dataset object cleanup failed"⟩)),
            store.setDataset request.datasetId dataset.failDeleting)
  | .removing =>
      -- A row that others refer to cannot be deleted.
      if store.experiments.any (·.2 = request.datasetId) ∨
          store.jobs.any (·.2 = request.datasetId) then
        (.answered (some (.error datasetInternalError)), store)
      else (.answered (some (.ok ())), removeDataset store request.datasetId)
  | .answered answer => (.answered answer, store)

/-! ## Processes -/

inductive DatasetPhase (Content : Type) where
  | initializer (request : DatasetUploadInitRequest) (phase : InitializePhase)
  | writer (request : LocalUploadRequest Content) (token : ClaimToken) (phase : LocalUploadPhase)
  /-- A presigned upload that the object store has accepted. -/
  | presigned (key : DatasetObjectKey) (content : Content)
  | finalizer (request : FinalizeDatasetRequest) (token : ClaimToken)
      (phase : DatasetFinalizePhase Content)
  | deleter (request : DeleteDatasetRequest) (phase : DeletePhase)

inductive DatasetLaunch (Content : Type) where
  | init (request : DatasetUploadInitRequest)
  | write (request : LocalUploadRequest Content) (token : ClaimToken)
  | put (grant : UploadGrant) (content : Content)
  | finalize (request : FinalizeDatasetRequest) (token : ClaimToken)
  | delete (request : DeleteDatasetRequest)

/-- What happens to the state in one transaction, and the passing of time. What the other
checks of these requests refuse changes nothing. -/
inductive DatasetDisturbance where
  | tick (elapsed : Nat)
  /-- `legacy_import_dataset` -/
  | importDataset (datasetId : DatasetId) (owner : UserId) (storageUri : String)
      (flatStorageUri : Option String)
  | createExperiment (experimentId : Nat) (datasetId : DatasetId) (user : DatasetUser)
  | deleteExperiment (experimentId : Nat)
  | createJob (experimentId : Nat) (datasetId : DatasetId)
  /-- `_claim_candidate` -/
  | claimCleanup (uploadId : UploadId) (runId : Nat)
  /-- `_delete_claimed_staging_object` -/
  | deleteStaging (uploadId : UploadId) (runId : Nat) (deletion : Deletion)
  /-- The same, when it ends before its commit. -/
  | interruptStaging (uploadId : UploadId) (runId : Nat) (deletion : Deletion)

def drawDatasetToken (store : DatasetStore Content) (token : ClaimToken)
    (phase : DatasetPhase Content) : Option (DatasetPhase Content × DatasetStore Content) :=
  if token ∈ store.tokens then none
  else some (phase, { store with tokens := token :: store.tokens })

def launchDatasetProcess (launch : DatasetLaunch Content) (store : DatasetStore Content) :
    Option (DatasetPhase Content × DatasetStore Content) :=
  match launch with
  | .init request => some (.initializer request .requested, store)
  | .write request token => drawDatasetToken store token (.writer request token .requested)
  | .put grant content =>
      -- The size and the checksum of the body are signed.
      if grant ∈ store.grants ∧ store.clock < grant.expiresAt ∧
          sizeBytes content = grant.sizeBytes then
        some (.presigned grant.key content, store)
      else none
  | .finalize request token => drawDatasetToken store token (.finalizer request token .requested)
  | .delete request => some (.deleter request .requested, store)

def initializerPhase (request : DatasetUploadInitRequest) :
    InitializePhase → Option (DatasetPhase Content)
  | .answered _ => none
  | phase => some (.initializer request phase)

def localUploadPhase (request : LocalUploadRequest Content) (token : ClaimToken) :
    LocalUploadPhase → Option (DatasetPhase Content)
  | .answered _ => none
  | phase => some (.writer request token phase)

def datasetFinalizerPhase (request : FinalizeDatasetRequest) (token : ClaimToken) :
    DatasetFinalizePhase Content → Option (DatasetPhase Content)
  | .answered _ => none
  | phase => some (.finalizer request token phase)

def deleterPhase (request : DeleteDatasetRequest) : DeletePhase → Option (DatasetPhase Content)
  | .answered _ => none
  | phase => some (.deleter request phase)

/-- A heartbeat keeps the claim of a process alive while it waits for an operation. -/
def heartbeatDatasetProcess (store : DatasetStore Content) :
    DatasetPhase Content → DatasetStore Content
  | .finalizer request token (.operating owned _ _) =>
      (store.amend request.uploadId fun row =>
        row.touchFinalization store.clock token owned.generation).2
  | .writer request token (.writing owned) =>
      (store.amend request.uploadId fun row =>
        row.touchUploadWrite store.clock token owned.generation).2
  | _ => store

def advanceDatasetProcess (prepare : DatasetPreparation Content) (choice : DatasetChoice)
    (phase : DatasetPhase Content) (store : DatasetStore Content) :
    Option (DatasetPhase Content) × DatasetStore Content :=
  match choice with
  | .heartbeat => (some phase, heartbeatDatasetProcess store phase)
  | .go outcome deletions pick uploadId datasetId =>
      match phase with
      | .initializer request phase =>
          let next := advanceInitializer settings storage request store outcome uploadId datasetId
            phase
          (initializerPhase request next.1, next.2)
      | .writer request token phase =>
          let next := advanceLocalUpload settings storage sizeBytes request token store outcome
            deletions phase
          (localUploadPhase request token next.1, next.2)
      | .presigned key content => (none, (storeVerifiedDatasetFile store key content outcome).2)
      | .finalizer request token phase =>
          let next := advanceDatasetFinalizer sizeBytes sha256 settings storage prepare request
            token store outcome deletions phase
          (datasetFinalizerPhase request token next.1, next.2)
      | .deleter request phase =>
          let next := advanceDeletion storage request store deletions pick phase
          (deleterPhase request next.1, next.2)

def importedDataset (owner : UserId) (storageUri : String) (flatStorageUri : Option String) :
    Dataset where
  createdBy := owner
  originalSizeBytes := none
  originalSha256 := none
  storageUri := some (.external storageUri)
  flatStorageUri := flatStorageUri.map .external
  manifestStorageUri := none
  qualityReportStorageUri := none
  preparedFlatSizeBytes := none
  preparedFlatSha256 := none
  manifestSha256 := none
  qualityReportSha256 := none
  decoderPendingCount := 0
  isUsable := flatStorageUri.isSome
  status := .legacyImported
  failureCode := none
  retryable := false

/-- `_delete_claimed_staging_object` -/
def deleteClaimedStagingObject (store : DatasetStore Content) (uploadId : UploadId)
    (upload : DatasetUploadSession) (deletion : Deletion) : Option (DatasetStore Content) :=
  if ¬storage.Holds upload.toDatasetReservation then
    some (store.setSession uploadId
      (upload.setFailureCode store.clock "staging_cleanup_pending"))
  else if ∃ firstDeletedAt ∈ upload.cleanupFirstDeletedAt,
      store.clock < firstDeletedAt + seconds settings.confirmationGrace then none
  else
    let deleted := store.deleteObject upload.temporaryObjectKey deletion
    if deleted.1 = false then
      some (deleted.2.setSession uploadId
        (upload.setFailureCode store.clock "staging_cleanup_pending"))
    else if upload.cleanupFirstDeletedAt = none then
      some (deleted.2.setSession uploadId (upload.recordFirstDeletion store.clock))
    else some (deleted.2.setSession uploadId (upload.completeCleanup store.clock))

def disturbDatasetStore (disturbance : DatasetDisturbance) (store : DatasetStore Content) :
    Option (DatasetStore Content) :=
  match disturbance with
  | .tick elapsed => some { store with clock := store.clock + elapsed }
  | .importDataset datasetId owner storageUri flatStorageUri =>
      if datasetId ∈ store.datasetIds then none
      else
        some { store.setDataset datasetId (importedDataset owner storageUri flatStorageUri) with
          datasetIds := datasetId :: store.datasetIds }
  | .createExperiment experimentId datasetId user =>
      match store.datasets datasetId with
      | none => none
      | some dataset =>
          if user.MayUse dataset ∧ dataset.ReadyForTraining ∧
              ¬store.experiments.any (·.1 = experimentId) then
            some { store with experiments := (experimentId, datasetId) :: store.experiments }
          else none
  | .deleteExperiment experimentId =>
      if store.jobs.any (·.1 = experimentId) then none
      else some { store with experiments := store.experiments.filter (·.1 ≠ experimentId) }
  | .createJob experimentId datasetId =>
      match store.datasets datasetId with
      | none => none
      | some dataset =>
          if (experimentId, datasetId) ∈ store.experiments ∧ dataset.ReadyForTraining then
            some { store with jobs := (experimentId, datasetId) :: store.jobs }
          else none
  | .claimCleanup uploadId runId =>
      match store.lockDatasetThenUpload uploadId with
      | none => none
      | some (_, upload) =>
          if upload.CleanupEligible settings store.clock runId ∧
              upload.temporaryObjectKey = datasetTemporaryObjectKey upload.datasetId uploadId then
            some (store.setSession uploadId (upload.claimCleanup store.clock runId))
          else none
  | .deleteStaging uploadId runId deletion =>
      match store.lockDatasetThenUpload uploadId with
      | none => none
      | some (_, upload) =>
          if upload.CleanupClaimed uploadId runId then
            deleteClaimedStagingObject settings storage store uploadId upload deletion
          else none
  | .interruptStaging uploadId runId deletion =>
      match store.lockDatasetThenUpload uploadId with
      | none => none
      | some (_, upload) =>
          if upload.CleanupClaimed uploadId runId then
            (deleteClaimedStagingObject settings storage store uploadId upload deletion).map
              fun after => { store with objects := after.objects }
          else none

def datasetWorkforce (prepare : DatasetPreparation Content) :
    Workforce (DatasetStore Content) (DatasetPhase Content) (DatasetLaunch Content)
      DatasetChoice DatasetDisturbance where
  launch := launchDatasetProcess sizeBytes
  advance := advanceDatasetProcess sizeBytes sha256 settings storage prepare
  disturb := disturbDatasetStore settings storage

abbrev DatasetSituation (Content : Type) :=
  Workforce.Situation (DatasetStore Content) (DatasetPhase Content)

abbrev DatasetEvent (Content : Type) :=
  Workforce.Event (DatasetLaunch Content) DatasetChoice DatasetDisturbance

/-- The situation after `events`, from an empty store. -/
def datasetRun (prepare : DatasetPreparation Content) (events : List (DatasetEvent Content)) :
    DatasetSituation Content :=
  run (datasetWorkforce sizeBytes sha256 settings storage prepare).step ⟨.empty, []⟩ events

end

end RvcOrchestrator.Manager

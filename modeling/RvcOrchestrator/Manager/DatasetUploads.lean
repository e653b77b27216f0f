import RvcOrchestrator.Foundation.Workforce
import RvcOrchestrator.Manager.Datasets

/-! # Dataset uploads: the requests

What reserves, writes, finalizes and deletes the uploads of a dataset, one transaction or
storage operation at a time. Between two of them any other request may come, and the request
may be lost. A deletion that the storage makes while rows are locked is part of the
transaction that holds the locks.
-/

namespace RvcOrchestrator.Manager

open RvcOrchestrator.Foundation RvcOrchestrator.Contracts

/-! ## The state -/

/-- A presigned upload: the object store accepts it until it expires, whatever becomes of the
session. -/
structure UploadGrant where
  key : DatasetObjectKey
  sizeBytes : Nat
  sha256 : String
  expiresAt : Time
deriving DecidableEq

structure DatasetStore (Content : Type) where
  clock : Time
  datasets : DatasetId → Option Dataset
  /-- The identifiers drawn so far, also those of rows that are gone. -/
  datasetIds : List DatasetId
  sessions : UploadId → Option DatasetUploadSession
  uploads : List UploadId
  objects : DatasetObjectKey → Option Content
  grants : List UploadGrant
  /-- The experiments with their datasets. -/
  experiments : List (Nat × DatasetId)
  /-- The Jobs, by their experiments and datasets. -/
  jobs : List (Nat × DatasetId)
  tokens : List ClaimToken

/-- How a deletion by the storage ends. One that raises may have taken effect. -/
inductive Deletion where
  | works
  | raises (effective : Bool)
deriving DecidableEq

def Deletion.effective : Deletion → Bool
  | works => true
  | raises effective => effective

namespace DatasetStore

variable {Content : Type}

def empty : DatasetStore Content where
  clock := 0
  datasets _ := none
  datasetIds := []
  sessions _ := none
  uploads := []
  objects _ := none
  grants := []
  experiments := []
  jobs := []
  tokens := []

variable (store : DatasetStore Content)

def amend (uploadId : UploadId)
    (update : DatasetUploadSession → Option DatasetUploadSession) : Bool × DatasetStore Content :=
  match (store.sessions uploadId).bind update with
  | none => (false, store)
  | some row =>
      (true, { store with sessions := Function.update store.sessions uploadId (some row) })

def setDataset (datasetId : DatasetId) (dataset : Dataset) : DatasetStore Content :=
  { store with datasets := Function.update store.datasets datasetId (some dataset) }

def setSession (uploadId : UploadId) (upload : DatasetUploadSession) : DatasetStore Content :=
  { store with sessions := Function.update store.sessions uploadId (some upload) }

/-- A commit of both rows that `_lock_dataset_then_upload` has locked. -/
def commit (uploadId : UploadId) (upload : DatasetUploadSession) (dataset : Dataset) :
    DatasetStore Content :=
  (store.setSession uploadId upload).setDataset upload.datasetId dataset

def writeObject (key : DatasetObjectKey) (content : Content) : DatasetStore Content :=
  { store with objects := Function.update store.objects key (some content) }

def deleteObject (key : DatasetObjectKey) (deletion : Deletion) : Bool × DatasetStore Content :=
  (deletion = .works,
    if deletion.effective then { store with objects := Function.update store.objects key none }
    else store)

/-- `_lock_dataset_then_upload` -/
def lockDatasetThenUpload (uploadId : UploadId) : Option (Dataset × DatasetUploadSession) :=
  match store.sessions uploadId with
  | none => none
  | some upload =>
      match store.datasets upload.datasetId with
      | none => none
      | some dataset => some (dataset, upload)

/-- `_find_existing_upload`: the session with the highest generation. -/
def findExistingUpload (ownerId : UserId) (idempotencyKey : String) : Option UploadId :=
  (store.uploads.filter fun uploadId => (store.sessions uploadId).any fun row =>
      row.ownerId = ownerId ∧ row.idempotencyKey = idempotencyKey).argmax fun uploadId =>
    ((store.sessions uploadId).map (·.generation)).getD 0

def uploadsOf (datasetId : DatasetId) : List UploadId :=
  store.uploads.filter fun uploadId =>
    (store.sessions uploadId).any fun row => row.datasetId = datasetId

def countsFor (ownerId : UserId) (uploadId : UploadId) : Bool :=
  (store.sessions uploadId).any fun row => row.ownerId = ownerId ∧ row.status.Active

def activeSessions (ownerId : UserId) : Nat :=
  store.uploads.countP (store.countsFor ownerId)

def reservedBytes (ownerId : UserId) (uploadId : UploadId) : Nat :=
  if store.countsFor ownerId uploadId then
    ((store.sessions uploadId).map (·.expectedSizeBytes)).getD 0
  else 0

def activeBytes (ownerId : UserId) : Nat :=
  (store.uploads.map (store.reservedBytes ownerId)).sum

end DatasetStore

/-- `_cleanup_published_keys` while locks are held. -/
def cleanupPublishedKeys {Content : Type} (deletions : DatasetObjectKey → Deletion) :
    List DatasetObjectKey → DatasetStore Content → Bool × DatasetStore Content
  | [], store => (true, store)
  | key :: later, store =>
      let first := store.deleteObject key (deletions key)
      let rest := cleanupPublishedKeys deletions later first.2
      (first.1 && rest.1, rest.2)

/-! ## Choices -/

/-- How an operation outside the database ends, or a commit. One that raises may have taken
effect. -/
inductive DatasetOutcome where
  | works
  | storageRaises (effective : Bool)
  | spoolRaises (failureCode : String)
  | preparationRaises (failureCode : String) (retryable : Bool)
  | timesOut (effective : Bool)
  /-- The request is cancelled, or anything else is raised. -/
  | aborts (cancelled effective : Bool)
deriving DecidableEq

inductive DatasetChoice where
  | go (outcome : DatasetOutcome) (deletions : DatasetObjectKey → Deletion) (pick : Nat)
      (uploadId : UploadId) (datasetId : DatasetId)
  /-- A heartbeat during an operation of the storage. -/
  | heartbeat

/-- A request is answered, or ends without an answer when it is cancelled. -/
abbrev DatasetAnswer (Response : Type) := Option (Except HttpError Response)

def datasetInternalError : HttpError := ⟨500, "Internal Server Error"⟩

structure DatasetUser where
  id : UserId
  isAdmin : Bool
deriving DecidableEq

/-- `_require_dataset_owner_or_admin` -/
def DatasetUser.MayUse (user : DatasetUser) (dataset : Dataset) : Prop :=
  user.isAdmin ∨ dataset.createdBy = user.id

instance (user : DatasetUser) (dataset : Dataset) : Decidable (user.MayUse dataset) :=
  inferInstanceAs (Decidable (_ ∨ _))

def storageUnavailable : HttpError := ⟨503, "dataset storage namespace is unavailable"⟩

section

variable {Content : Type} (settings : DatasetSettings) (storage : StorageIdentity)

/-! ## Initializing -/

structure DatasetUploadInitRequest where
  ownerId : UserId
  idempotencyKey : String
  document : DatasetUploadDocument
deriving DecidableEq

/-- The answer, without what the client needs to make the upload. -/
structure DatasetUploadInitResponse where
  uploadSessionId : UploadId
  datasetId : DatasetId
  status : UploadStatus
  expiresAt : Time
  failureCode : Option String
  retryable : Bool
deriving DecidableEq

inductive InitializePhase where
  | requested
  | locking (existing : UploadId)
  | reserving (dataset : Option DatasetId) (generation : Nat)
  | raced
  | answered (answer : DatasetAnswer DatasetUploadInitResponse)
deriving DecidableEq

/-- `dataset_upload_ttl_seconds` -/
def datasetUploadTtlSeconds (sizeBytes : Nat) : Nat :=
  min settings.uploadTtl (300 + (sizeBytes + 2 * 1024 ^ 2 - 1) / (2 * 1024 ^ 2))

/-- What `create_upload_target` adds to the grants. The local backend checks the session
instead. -/
def grantUpload (store : DatasetStore Content) (upload : DatasetReservation) :
    DatasetStore Content :=
  match storage.backend with
  | .disk => store
  | .s3 =>
      let remaining := max 1 ((upload.expiresAt - store.clock) / 1000000).toNat
      { store with
        grants :=
          ⟨upload.temporaryObjectKey, upload.expectedSizeBytes, upload.expectedSha256,
            store.clock + seconds remaining⟩ :: store.grants }

/-- `_upload_init_response` -/
def uploadInitResponse (store : DatasetStore Content) (uploadId : UploadId)
    (upload : DatasetUploadSession) (outcome : DatasetOutcome) :
    InitializePhase × DatasetStore Content :=
  let response : DatasetUploadInitResponse :=
    ⟨uploadId, upload.datasetId, upload.status, upload.expiresAt, upload.failureCode,
      upload.status = .pending ∨ upload.status = .finalizing ∨ upload.status = .expired⟩
  if ¬storage.Holds upload.toDatasetReservation then
    (.answered (some (.error storageUnavailable)), store)
  else if upload.status ≠ .pending then (.answered (some (.ok response)), store)
  else if outcome = .works then
    (.answered (some (.ok response)), grantUpload storage store upload.toDatasetReservation)
  else (.answered (some (.error datasetInternalError)), store)

def newDataset (request : DatasetUploadInitRequest) : Dataset where
  createdBy := request.ownerId
  originalSizeBytes := some request.document.sizeBytes
  originalSha256 := some request.document.sha256
  storageUri := none
  flatStorageUri := none
  manifestStorageUri := none
  qualityReportStorageUri := none
  preparedFlatSizeBytes := none
  preparedFlatSha256 := none
  manifestSha256 := none
  qualityReportSha256 := none
  decoderPendingCount := 0
  isUsable := false
  status := .uploadPending
  failureCode := none
  retryable := true

def newDatasetUpload (request : DatasetUploadInitRequest) (datasetId : DatasetId)
    (uploadId : UploadId) (generation : Nat) (now : Time) : DatasetUploadSession :=
  let key := datasetVerifiedObjectKey datasetId uploadId
    (datasetExtension request.document.filename)
  { datasetId := datasetId
    ownerId := request.ownerId
    idempotencyKey := request.idempotencyKey
    generation := generation
    requestFingerprint := request.document
    filename := request.document.filename
    contentType := request.document.contentType
    expectedSizeBytes := request.document.sizeBytes
    expectedSha256 := request.document.sha256
    temporaryObjectKey := datasetTemporaryObjectKey datasetId uploadId
    originalObjectKey := key .original
    preparedFlatObjectKey := key .preparedFlat
    manifestObjectKey := key .manifest
    qualityReportObjectKey := key .qualityReport
    storageBackend := storage.backend
    storageNamespaceSha256 := storage.namespaceFingerprint
    expiresAt := now + seconds (datasetUploadTtlSeconds settings request.document.sizeBytes)
    status := .pending
    uploadWriteToken := none
    uploadHeartbeatAt := none
    finalizationToken := none
    finalizationHeartbeatAt := none
    uploadedAt := none
    finalizedAt := none
    failureCode := none
    cleanupClaimRunId := none
    cleanupClaimedAt := none
    cleanupClaimGeneration := none
    cleanupFirstDeletedAt := none
    cleanupCompletedAt := none
    updatedAt := now }

/-- `_enforce_owner_quota` -/
def enforceOwnerQuota (store : DatasetStore Content) (ownerId : UserId) (requestedSize : Nat) :
    Except HttpError Unit :=
  if settings.ownerMaxSessions ≤ store.activeSessions ownerId then
    .error ⟨409, "dataset upload session quota exceeded"⟩
  else if settings.ownerMaxBytes < store.activeBytes ownerId + requestedSize then
    .error ⟨409, "dataset upload byte quota exceeded"⟩
  else .ok ()

/-- The unique constraint on owner, idempotency key and generation. -/
def generationTaken (store : DatasetStore Content) (request : DatasetUploadInitRequest)
    (generation : Nat) : Bool :=
  store.uploads.any fun uploadId => (store.sessions uploadId).any fun row =>
    row.ownerId = request.ownerId ∧ row.idempotencyKey = request.idempotencyKey ∧
      row.generation = generation

/-- Both rows of a new reservation, and its grant. -/
def insertReservation (store : DatasetStore Content) (dataset : Dataset)
    (upload : DatasetUploadSession) (uploadId : UploadId) : DatasetStore Content :=
  let stored : DatasetStore Content :=
    { store.setSession uploadId upload with uploads := uploadId :: store.uploads }
  grantUpload storage
    (stored.setDataset upload.datasetId
      { dataset with storageUri := some (.stored upload.originalObjectKey) })
    upload.toDatasetReservation

/-- The last transaction of the request. Identifiers are random, so none is drawn twice. -/
def reserveUpload (store : DatasetStore Content) (request : DatasetUploadInitRequest)
    (existing : Option DatasetId) (generation : Nat) (outcome : DatasetOutcome)
    (uploadId : UploadId) (datasetId : DatasetId) : InitializePhase × DatasetStore Content :=
  match enforceOwnerQuota settings store request.ownerId request.document.sizeBytes with
  | .error error => (.answered (some (.error error)), store)
  | .ok () =>
      match existing.elim (some (newDataset request)) store.datasets with
      | none => (.answered (some (.error datasetInternalError)), store)
      | some dataset =>
          if uploadId ∈ store.uploads ∨ (existing = none ∧ datasetId ∈ store.datasetIds) ∨
              generationTaken store request generation then
            (.raced, store)
          else if outcome ≠ .works then
            (.answered (some (.error ⟨503, "dataset upload signing failed"⟩)), store)
          else
            let upload := newDatasetUpload settings storage request (existing.getD datasetId)
              uploadId generation store.clock
            (.answered (some (.ok
                ⟨uploadId, upload.datasetId, .pending, upload.expiresAt, none, true⟩)),
              insertReservation storage
                { store with
                  datasetIds :=
                    if existing = none then datasetId :: store.datasetIds else store.datasetIds }
                dataset upload uploadId)

/-- The transaction over the session that was found. The recovery and the expiry of that
session commit, so the reservation after them is a transaction of its own. -/
def replayUpload (store : DatasetStore Content) (request : DatasetUploadInitRequest)
    (existing : UploadId) (outcome : DatasetOutcome) (uploadId : UploadId)
    (datasetId : DatasetId) : InitializePhase × DatasetStore Content :=
  match store.lockDatasetThenUpload existing with
  | none => (.answered (some (.error ⟨409, "dataset upload lost its dataset row"⟩)), store)
  | some (dataset, upload) =>
      let next : InitializePhase := .reserving (some upload.datasetId) (upload.generation + 1)
      if store.findExistingUpload request.ownerId request.idempotencyKey ≠ some existing then
        (.answered (some (.error ⟨409, "dataset upload generation changed"⟩)), store)
      else if upload.requestFingerprint ≠ request.document then
        (.answered (some (.error ⟨409, "dataset idempotency key conflict"⟩)), store)
      else if ¬storage.Holds upload.toDatasetReservation then
        (.answered (some (.error storageUnavailable)), store)
      else if upload.status = .finalizing ∧ upload.FinalizationStale settings store.clock then
        (next, store.commit existing (upload.expire store.clock "stale_finalizing_recovered")
          (dataset.reopen "stale_finalizing_recovered"))
      else if upload.status = .pending ∧ upload.expiresAt ≤ store.clock then
        (next, store.commit existing (upload.expire store.clock "upload_expired")
          (dataset.reopen "upload_expired"))
      else if upload.status = .expired then
        reserveUpload settings storage store request (some upload.datasetId)
          (upload.generation + 1) outcome uploadId datasetId
      else uploadInitResponse storage store existing upload outcome

def advanceInitializer (request : DatasetUploadInitRequest) (store : DatasetStore Content)
    (outcome : DatasetOutcome) (uploadId : UploadId) (datasetId : DatasetId) :
    InitializePhase → InitializePhase × DatasetStore Content
  | .requested =>
      if settings.uploadMaxBytes < request.document.sizeBytes then
        (.answered (some (.error ⟨413, "dataset exceeds configured size limit"⟩)), store)
      else
        match store.findExistingUpload request.ownerId request.idempotencyKey with
        | none => (.reserving none 1, store)
        | some existing => (.locking existing, store)
  | .locking existing =>
      replayUpload settings storage store request existing outcome uploadId datasetId
  | .reserving existing generation =>
      reserveUpload settings storage store request existing generation outcome uploadId datasetId
  | .raced =>
      match (store.findExistingUpload request.ownerId request.idempotencyKey).bind fun raced =>
          (store.sessions raced).map fun upload => (raced, upload) with
      | none => (.answered (some (.error ⟨409, "dataset upload session conflict"⟩)), store)
      | some (raced, upload) =>
          if upload.requestFingerprint ≠ request.document then
            (.answered (some (.error ⟨409, "dataset upload session conflict"⟩)), store)
          else uploadInitResponse storage store raced upload outcome
  | .answered answer => (.answered answer, store)

/-! ## Writing -/

structure LocalUploadRequest (Content : Type) where
  uploadId : UploadId
  /-- The token in the header is that of the session. -/
  authorized : Bool
  /-- The header, if there is one, and its value, if it is a number. -/
  contentLength : Option (Option Int)
  contentType : String
  content : Content

inductive UploadWriteResult where
  | written
  | refused (error : HttpError)
deriving DecidableEq

inductive LocalUploadPhase where
  | requested
  | startWriting (owned : DatasetUploadSession)
  | writing (owned : DatasetUploadSession)
  | wrote (owned : DatasetUploadSession) (result : UploadWriteResult)
  | sealing (owned : DatasetUploadSession)
  | timingOut (owned : DatasetUploadSession)
  | cleaning (owned : DatasetUploadSession) (clears : Bool) (answer : HttpError)
  | clearing (owned : DatasetUploadSession) (answer : HttpError)
  | answered (answer : DatasetAnswer Unit)
deriving DecidableEq

def writeLeaseLost : HttpError := ⟨409, "dataset upload write lease was lost"⟩

def refuseUploadHeaders (request : LocalUploadRequest Content) (upload : DatasetReservation) :
    Option HttpError :=
  if request.authorized = false then some ⟨401, "invalid dataset upload token"⟩
  else
    match request.contentLength with
    | none => some ⟨411, "Content-Length is required"⟩
    | some none => some ⟨400, "invalid Content-Length"⟩
    | some (some length) =>
        if length ≠ upload.expectedSizeBytes then
          some ⟨422, "Content-Length does not match session"⟩
        else if request.contentType ≠ upload.contentType then
          some ⟨422, "Content-Type does not match session"⟩
        else none

def beginLocalUpload (store : DatasetStore Content) (request : LocalUploadRequest Content)
    (token : ClaimToken) : LocalUploadPhase × DatasetStore Content :=
  let refuse (status : Nat) (detail : String) : LocalUploadPhase × DatasetStore Content :=
    (.answered (some (.error ⟨status, detail⟩)), store)
  if storage.backend ≠ .disk then refuse 404 "upload endpoint not found"
  else
    match store.lockDatasetThenUpload request.uploadId with
    | none =>
        if (store.sessions request.uploadId).isNone then
          refuse 404 "dataset upload session not found"
        else refuse 409 "dataset upload session changed"
    | some (dataset, upload) =>
        if upload.storageBackend ≠ .disk then refuse 404 "dataset upload session not found"
        else if ¬storage.Holds upload.toDatasetReservation then
          (.answered (some (.error storageUnavailable)), store)
        else if upload.status ≠ .pending then refuse 409 "dataset upload is not writable"
        else if upload.temporaryObjectKey ≠
            datasetTemporaryObjectKey upload.datasetId request.uploadId then
          refuse 409 "dataset staging key is invalid"
        else if upload.expiresAt ≤ store.clock then
          (.answered (some (.error ⟨410, "dataset upload expired"⟩)),
            store.commit request.uploadId (upload.expire store.clock "upload_expired")
              (dataset.reopen "upload_expired"))
        else
          match refuseUploadHeaders request upload.toDatasetReservation with
          | some error => (.answered (some (.error error)), store)
          | none =>
              if upload.uploadWriteToken ≠ none then
                if upload.WriteActive settings store.clock then
                  refuse 409 "dataset upload write is active"
                else
                  (.answered (some (.error ⟨409, "stale dataset upload writer was fenced"⟩)),
                    store.commit request.uploadId (upload.fenceStaleWriter store.clock)
                      (dataset.reopen "stale_upload_writer"))
              else
                (.startWriting upload,
                  store.setSession request.uploadId (upload.claimUploadWrite store.clock token))

/-- `write_upload_stream` replaces the object, and writes nothing unless the size is right. -/
def writeUploadBody (sizeBytes : Content → Nat) (store : DatasetStore Content)
    (owned : DatasetReservation) (content : Content) (effective : Bool) : DatasetStore Content :=
  if effective ∧ sizeBytes content = owned.expectedSizeBytes then
    store.writeObject owned.temporaryObjectKey content
  else store

def advanceLocalUpload (sizeBytes : Content → Nat) (request : LocalUploadRequest Content)
    (token : ClaimToken) (store : DatasetStore Content) (outcome : DatasetOutcome)
    (deletions : DatasetObjectKey → Deletion) :
    LocalUploadPhase → LocalUploadPhase × DatasetStore Content
  | .requested => beginLocalUpload settings storage store request token
  | .startWriting owned =>
      match outcome with
      | .timesOut _ => (.timingOut owned, store)
      | _ =>
          let touched := store.amend request.uploadId fun row =>
            row.touchUploadWrite store.clock token owned.generation
          (if touched.1 then .writing owned else .cleaning owned true writeLeaseLost, touched.2)
  | .writing owned =>
      let content := request.content
      let write := writeUploadBody sizeBytes store owned.toDatasetReservation content
      match outcome with
      | .timesOut effective => (.timingOut owned, write effective)
      | .storageRaises effective =>
          (.wrote owned (.refused ⟨503, "dataset upload failed"⟩), write effective)
      | _ =>
          if owned.expectedSizeBytes < sizeBytes content then
            (.wrote owned (.refused ⟨413, "dataset upload exceeds session size"⟩), store)
          else if sizeBytes content ≠ owned.expectedSizeBytes then
            (.wrote owned (.refused ⟨422, "dataset upload size mismatch"⟩), store)
          else (.wrote owned .written, write true)
  | .wrote owned result =>
      match outcome with
      | .timesOut _ => (.timingOut owned, store)
      | _ =>
          let touched := store.amend request.uploadId fun row =>
            row.touchUploadWrite store.clock token owned.generation
          (match touched.1, result with
            | false, _ => .cleaning owned true writeLeaseLost
            | true, .refused error => .cleaning owned true error
            | true, .written => .sealing owned,
            touched.2)
  | .sealing owned =>
      match store.lockDatasetThenUpload request.uploadId with
      | none => (.cleaning owned true writeLeaseLost, store)
      | some (_, upload) =>
          if upload.generation = owned.generation ∧ upload.status = .pending ∧
              upload.uploadWriteToken = some token ∧ storage.Holds upload.toDatasetReservation ∧
              upload.temporaryObjectKey = owned.temporaryObjectKey then
            (.answered (some (.ok ())),
              store.setSession request.uploadId (upload.sealUpload store.clock))
          else (.cleaning owned true writeLeaseLost, store)
  | .timingOut owned =>
      (.cleaning owned false ⟨408, "dataset upload deadline exceeded"⟩,
        match store.lockDatasetThenUpload request.uploadId with
        | none => store
        | some (dataset, upload) =>
            if upload.generation = owned.generation ∧ upload.status = .pending ∧
                upload.uploadWriteToken = some token then
              store.commit request.uploadId (upload.expireUploadWriteClaim store.clock)
                (dataset.reopen "upload_write_deadline_exceeded")
            else store)
  | .cleaning owned clears answer =>
      (if clears then .clearing owned answer else .answered (some (.error answer)),
        (store.deleteObject owned.temporaryObjectKey (deletions owned.temporaryObjectKey)).2)
  | .clearing owned answer =>
      (.answered (some (.error answer)),
        (store.amend request.uploadId fun row =>
          row.clearUploadWriteClaim store.clock token owned.generation).2)
  | .answered answer => (.answered answer, store)

end

end RvcOrchestrator.Manager

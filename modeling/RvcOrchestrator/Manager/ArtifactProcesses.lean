import RvcOrchestrator.Foundation.Workforce
import RvcOrchestrator.Manager.ArtifactUploads

/-! # Artifact uploads: the requests

What writes, finalizes and cleans up an upload session, one transaction or storage
operation at a time. Between two of them any other request may come, and the request may
be lost. The object store is outside the transactions of the database.
-/

namespace RvcOrchestrator.Manager

open RvcOrchestrator.Foundation RvcOrchestrator.Contracts

/-! ## The state -/

/-- What `require_active_lease` reads of a lease that is active and not expired. -/
structure ActiveLease where
  jobId : JobId
  attemptId : AttemptId
  workerId : WorkerId
  /-- The Job still has the attempt and its configuration is intact. -/
  jobIntact : Bool
deriving DecidableEq

structure ArtifactStore (Content : Type) where
  /-- The sessions created so far. -/
  uploads : List UploadId
  sessions : UploadId → Option UploadSession
  artifacts : List Artifact
  objects : ObjectKey → Option Content
  leases : LeaseId → Option ActiveLease
  /-- The tokens drawn so far. -/
  tokens : List ClaimToken

namespace ArtifactStore

variable {Content : Type}

def empty : ArtifactStore Content where
  uploads := []
  sessions _ := none
  artifacts := []
  objects _ := none
  leases _ := none
  tokens := []

def amend (store : ArtifactStore Content) (uploadId : UploadId)
    (update : UploadSession → Option UploadSession) : Bool × ArtifactStore Content :=
  match (store.sessions uploadId).bind update with
  | none => (false, store)
  | some row =>
      (true, { store with sessions := Function.update store.sessions uploadId (some row) })

def writeObject (store : ArtifactStore Content) (key : ObjectKey) (content : Content) :
    ArtifactStore Content :=
  { store with objects := Function.update store.objects key (some content) }

def deleteObject (store : ArtifactStore Content) (key : ObjectKey) : ArtifactStore Content :=
  { store with objects := Function.update store.objects key none }

end ArtifactStore

/-! ## Choices -/

/-- How an operation outside the database ends. An operation of the storage that raises may
have taken effect. -/
inductive OperationOutcome where
  | works
  | storageRaises (effective : Bool)
  | spoolRaises (failureCode : String)
  | timesOut (effective : Bool)
deriving DecidableEq

inductive ArtifactChoice where
  | go (now : Time) (outcome : OperationOutcome) (artifactId : UploadArtifactId)
  /-- A heartbeat during an operation of the storage. -/
  | heartbeat (now : Time)
deriving DecidableEq

/-! ## Finalizing -/

structure FinalizeRequest where
  uploadId : UploadId
  jobId : JobId
  attemptId : AttemptId
  leaseId : LeaseId
  workerId : WorkerId
deriving DecidableEq

abbrev FinalizeAnswer := Except HttpError UploadArtifactId

inductive Verification (Content : Type) where
  | verified (content : Content)
  | notFound
  | mismatch (failureCode : String)
  | spoolFailed (failureCode : String)
  | readFailed

inductive FinalizePhase (Content : Type) where
  | requested
  | recovering (cutoff : Time)
  | expiring
  | claiming (owned : UploadSession)
  | startReading (owned : UploadSession)
  | reading (owned : UploadSession)
  | read (owned : UploadSession) (result : Verification Content)
  | resetting (failureCode : String) (answer : HttpError)
  | checking (owned : UploadSession) (content : Content)
  | startPublishing (owned : UploadSession) (content : Content)
  | publishing (owned : UploadSession) (content : Content)
  | published (owned : UploadSession) (succeeded : Bool)
  | removingSpool (owned : UploadSession)
  | committing (owned : UploadSession)
  /-- `canonicalPublished` distinguishes `_fail_owned_after_canonical_publish` from
  `_mark_verification_failure`. -/
  | failing (canonicalPublished : Bool) (failureCode : String) (answer : HttpError)
  | marking (answer : HttpError)
  | answered (answer : FinalizeAnswer)

def ownershipChanged : HttpError := ⟨409, "upload finalization ownership changed"⟩

section

variable {Content : Type} (sizeBytes : Content → Nat) (sha256 : Content → String)
  (settings : ArtifactSettings) (storage : StorageIdentity)

def requireUploadLease (store : ArtifactStore Content) (request : FinalizeRequest) :
    Except String AttemptId :=
  match store.leases request.leaseId with
  | none => .error "invalid job lease"
  | some lease =>
      if lease.jobId ≠ request.jobId ∨ lease.workerId ≠ request.workerId then
        .error "invalid job lease"
      else if ¬lease.jobIntact then .error "job configuration integrity check failed"
      else .ok lease.attemptId

/-- The lease is active and belongs to the attempt of the request. -/
def uploadLeaseRefusal (store : ArtifactStore Content) (request : FinalizeRequest) :
    Option String :=
  match requireUploadLease store request with
  | .error detail => some detail
  | .ok attemptId =>
      if attemptId ≠ request.attemptId then some "upload attempt does not match lease" else none

def leaseFailureCode (detail : String) : String :=
  if detail = "job configuration integrity check failed" then "job_config_integrity_failed"
  else "claim_changed_after_verification"

def uploadBelongsToClaim (row : UploadSession) (request : FinalizeRequest) : Bool :=
  row.jobId = request.jobId && row.attemptId = request.attemptId &&
    row.leaseId = request.leaseId && row.workerId = request.workerId

def admitFinalization (upload : UploadSession) (now : Time) : FinalizePhase Content :=
  if upload.uploadWriteToken ≠ none then .answered (.error ⟨409, "upload session write is active"⟩)
  else if upload.storageBackend = .disk ∧ upload.uploadedAt = none then
    .answered (.error ⟨409, "local upload is not sealed"⟩)
  else if upload.expiresAt ≤ now then .expiring
  else .claiming upload

def beginFinalization (store : ArtifactStore Content) (request : FinalizeRequest) (now : Time) :
    FinalizePhase Content :=
  match requireUploadLease store request with
  | .error detail => .answered (.error ⟨409, detail⟩)
  | .ok _ =>
      match store.sessions request.uploadId with
      | none => .answered (.error ⟨409, "upload session does not match lease"⟩)
      | some upload =>
          if uploadBelongsToClaim upload request = false then
            .answered (.error ⟨409, "upload session does not match lease"⟩)
          else if ¬storage.Matches upload then
            .answered (.error ⟨503, "upload storage namespace is unavailable"⟩)
          else
            match upload.status with
            | .completed =>
                match upload.artifactId.filter fun id => store.artifacts.any (·.id = id) with
                | some artifactId => .answered (.ok artifactId)
                | none => admitFinalization upload now
            | .failed | .expired =>
                .answered (.error ⟨409, "upload session is " ++ upload.status.text⟩)
            | .finalizing =>
                if now - seconds settings.finalizingStale < upload.updatedAt then
                  .answered (.error ⟨409, "upload session is already finalizing"⟩)
                else .recovering (now - seconds settings.finalizingStale)
            | .pending => admitFinalization upload now

/-- `verify_object_to_spool` -/
def verifyObjectToSpool (store : ArtifactStore Content) (owned : UploadSession) :
    OperationOutcome → Verification Content
  | .spoolRaises failureCode => .spoolFailed failureCode
  | .storageRaises _ | .timesOut _ => .readFailed
  | .works =>
      match store.objects owned.temporaryObjectKey with
      | none => .notFound
      | some content =>
          if sizeBytes content ≠ owned.expectedSizeBytes then .mismatch "size_mismatch"
          else if sha256 content ≠ owned.expectedSha256 then .mismatch "sha256_mismatch"
          else .verified content

def afterReading (owned : UploadSession) : Verification Content → FinalizePhase Content
  | .verified content => .checking owned content
  | .notFound => .resetting "uploaded_object_not_found" ⟨409, "uploaded object not found"⟩
  | .spoolFailed failureCode =>
      .resetting failureCode ⟨503, "artifact verification spool is temporarily unavailable"⟩
  | .mismatch failureCode =>
      .failing false failureCode ⟨422, "uploaded artifact failed size or SHA-256 verification"⟩
  | .readFailed => .resetting "verification_read_failed" ⟨503, "artifact verification read failed"⟩

/-- `store_verified_file` never replaces an object, and returns only if it has stored its
own. -/
def storeVerifiedFile (store : ArtifactStore Content) (key : ObjectKey) (content : Content) :
    OperationOutcome → Bool × ArtifactStore Content
  | .works =>
      if (store.objects key).isSome then (false, store) else (true, store.writeObject key content)
  | .storageRaises effective | .timesOut effective =>
      if effective && (store.objects key).isNone then (false, store.writeObject key content)
      else (false, store)
  | .spoolRaises _ => (false, store)

def spoolCleanupFailed : HttpError := ⟨503, "artifact verification spool cleanup failed"⟩

def checkBeforePublishing (store : ArtifactStore Content) (request : FinalizeRequest)
    (owned : UploadSession) (content : Content) (outcome : OperationOutcome) :
    FinalizePhase Content :=
  match uploadLeaseRefusal store request with
  | none => .startPublishing owned content
  | some detail =>
      match outcome with
      | .spoolRaises failureCode => .failing false failureCode spoolCleanupFailed
      | _ => .failing false (leaseFailureCode detail) ⟨409, detail⟩

def newArtifact (upload : UploadSession) (uploadId : UploadId) (artifactId : UploadArtifactId) :
    Artifact where
  id := artifactId
  jobId := upload.jobId
  attemptId := upload.attemptId
  artifactType := upload.artifactType
  filename := upload.filename
  objectKey := upload.canonicalObjectKey
  sizeBytes := upload.expectedSizeBytes
  sha256 := upload.expectedSha256
  mimeType := upload.contentType
  uploadSessionId := uploadId

/-- The primary key and the unique constraint of the artifact table. -/
def artifactTaken (store : ArtifactStore Content) (artifact : Artifact) : Bool :=
  store.artifacts.any fun other =>
    other.id = artifact.id || other.attemptId = artifact.attemptId &&
      other.artifactType = artifact.artifactType && other.sha256 = artifact.sha256

def commitFinalization (store : ArtifactStore Content) (request : FinalizeRequest)
    (token : ClaimToken) (now : Time) (artifactId : UploadArtifactId) :
    FinalizePhase Content × ArtifactStore Content :=
  match uploadLeaseRefusal store request with
  | some detail => (.failing true (leaseFailureCode detail) ⟨409, detail⟩, store)
  | none =>
      match store.sessions request.uploadId with
      | none => (.answered (.error ownershipChanged), store)
      | some upload =>
          match completeUpload token now upload artifactId with
          | none => (.failing true "claim_changed_after_verification" ownershipChanged, store)
          | some completed =>
              let artifact := newArtifact upload request.uploadId artifactId
              if artifactTaken store artifact then
                (.failing true "artifact_commit_conflict"
                  ⟨409, "canonical artifact already exists"⟩, store)
              else
                (.answered (.ok artifactId),
                  { store with
                    sessions :=
                      Function.update store.sessions request.uploadId (some completed)
                    artifacts := store.artifacts ++ [artifact] })

/-- A conditional update and what follows when it found its row and when it did not. -/
def amending {Phase : Type} (store : ArtifactStore Content) (uploadId : UploadId)
    (update : UploadSession → Option UploadSession) (found missed : Phase) :
    Phase × ArtifactStore Content :=
  let amended := store.amend uploadId update
  (if amended.1 then found else missed, amended.2)

def advanceFinalizer (request : FinalizeRequest) (token : ClaimToken)
    (store : ArtifactStore Content) (now : Time) (outcome : OperationOutcome)
    (artifactId : UploadArtifactId) :
    FinalizePhase Content → FinalizePhase Content × ArtifactStore Content
  | .requested => (beginFinalization settings storage store request now, store)
  | .recovering cutoff =>
      let recovered := store.amend request.uploadId fun row => recoverStaleFinalizing now row cutoff
      (match recovered.1, recovered.2.sessions request.uploadId with
        | true, some upload => admitFinalization upload now
        | _, _ => .answered (.error ⟨409, "upload session is already finalizing"⟩),
        recovered.2)
  | .expiring =>
      amending store request.uploadId (expireUpload now)
        (.answered (.error ⟨409, "upload session expired"⟩))
        (.answered (.error ⟨409, "artifact upload state changed"⟩))
  | .claiming owned =>
      amending store request.uploadId (claimFinalization token now) (.startReading owned)
        (.answered (.error ⟨409, "upload session finalization conflict"⟩))
  | .startReading owned =>
      amending store request.uploadId (touchArtifactFinalization token now) (.reading owned)
        (.answered (.error ownershipChanged))
  | .reading owned =>
      (.read owned (verifyObjectToSpool sizeBytes sha256 store owned outcome), store)
  | .read owned result =>
      amending store request.uploadId (touchArtifactFinalization token now)
        (afterReading owned result) (.answered (.error ownershipChanged))
  | .resetting failureCode answer =>
      amending store request.uploadId (fun row => resetFinalizing token now row failureCode)
        (.answered (.error answer)) (.answered (.error ownershipChanged))
  | .checking owned content =>
      (checkBeforePublishing store request owned content outcome, store)
  | .startPublishing owned content =>
      amending store request.uploadId (touchArtifactFinalization token now)
        (.publishing owned content) (.answered (.error ownershipChanged))
  | .publishing owned content =>
      let stored := storeVerifiedFile store owned.canonicalObjectKey content outcome
      (.published owned stored.1, stored.2)
  | .published owned succeeded =>
      amending store request.uploadId (touchArtifactFinalization token now)
        (if succeeded then .removingSpool owned
          else .failing true "storage_publish_failed" ⟨503, "verified artifact publish failed"⟩)
        (.answered (.error ownershipChanged))
  | .removingSpool owned =>
      (match outcome with
        | .spoolRaises failureCode => .failing true failureCode spoolCleanupFailed
        | _ => .committing owned,
        store)
  | .committing _ => commitFinalization store request token now artifactId
  | .failing canonicalPublished failureCode answer =>
      amending store request.uploadId (fun row => failFinalizing token now row failureCode)
        (if canonicalPublished then .answered (.error answer) else .marking answer)
        (.answered (.error ownershipChanged))
  | .marking answer =>
      amending store request.uploadId (markCanonicalNotRequired now) (.answered (.error answer))
        (.answered (.error answer))
  | .answered answer => (.answered answer, store)

/-! ## Writing -/

inductive WriteResult where
  | written
  /-- Too large, too small, or not stored. -/
  | refused
  | timedOut
deriving DecidableEq

/-- The local endpoint. An upload to S3 goes to the object store itself. -/
inductive WritePhase (Content : Type) where
  | requested (content : Content)
  | expiringWrite (holder : ClaimToken)
  | expiring
  | claiming (owned : UploadSession) (content : Content)
  | startWriting (owned : UploadSession) (content : Content)
  | writing (owned : UploadSession) (content : Content)
  | wrote (result : WriteResult)
  | sealing
  | clearing
  | timingOut
  | losing
  | ended

/-- Its token is checked before; the declared length is the expected one. -/
def beginWriting (store : ArtifactStore Content) (uploadId : UploadId) (content : Content)
    (now : Time) : WritePhase Content :=
  match store.sessions uploadId with
  | none => .ended
  | some upload =>
      if ¬storage.Matches upload ∨ upload.storageBackend ≠ .disk ∨ upload.status ≠ .pending then
        .ended
      else if upload.expiresAt ≤ now then
        match upload.uploadWriteToken with
        | some holder => .expiringWrite holder
        | none => .expiring
      else if upload.uploadedAt ≠ none ∨ upload.uploadWriteToken ≠ none then .ended
      else .claiming upload content

def writeUploadStream (store : ArtifactStore Content) (owned : UploadSession)
    (content : Content) : OperationOutcome → WriteResult × ArtifactStore Content
  | .works | .spoolRaises _ =>
      if sizeBytes content = owned.expectedSizeBytes then
        (.written, store.writeObject owned.temporaryObjectKey content)
      else (.refused, store)
  | .storageRaises effective =>
      (.refused,
        if effective then store.writeObject owned.temporaryObjectKey content else store)
  | .timesOut effective =>
      (.timedOut,
        if effective then store.writeObject owned.temporaryObjectKey content else store)

def advanceWriter (uploadId : UploadId) (token : ClaimToken) (store : ArtifactStore Content)
    (now : Time) (outcome : OperationOutcome) :
    WritePhase Content → WritePhase Content × ArtifactStore Content
  | .requested content => (beginWriting storage store uploadId content now, store)
  | .expiringWrite holder =>
      amending store uploadId (expireArtifactUploadWrite holder now) .ended .ended
  | .expiring => amending store uploadId (expireUpload now) .ended .ended
  | .claiming owned content =>
      amending store uploadId (claimUploadWrite token now) (.startWriting owned content) .ended
  | .startWriting owned content =>
      amending store uploadId (touchArtifactUploadWrite token now) (.writing owned content)
        .losing
  | .writing owned content =>
      let written := writeUploadStream sizeBytes store owned content outcome
      (match written.1 with
        | .timedOut => .timingOut
        | result => .wrote result,
        written.2)
  | .wrote result =>
      amending store uploadId (touchArtifactUploadWrite token now)
        (if result = .written then .sealing else .clearing) .losing
  | .sealing => amending store uploadId (sealUpload token now) .ended .timingOut
  | .clearing => amending store uploadId (clearArtifactUploadWrite token now) .ended .ended
  | .timingOut => amending store uploadId (expireArtifactUploadWrite token now) .ended .ended
  | .losing => amending store uploadId (expireArtifactUploadWrite token now) .ended .clearing
  | .ended => (.ended, store)

/-! ## Cleaning up -/

inductive CleanupPhase where
  | selecting (now : Time)
  | claiming (now : Time)
  | loading (now : Time)
  | mismatched (candidate : UploadSession)
  | starting (candidate : UploadSession)
      (actions : List (CleanupKind × CleanupAction))
  | deleting (candidate : UploadSession) (kind : CleanupKind) (action : CleanupAction)
      (later : List (CleanupKind × CleanupAction))
  | deleted (candidate : UploadSession) (kind : CleanupKind) (action : CleanupAction)
      (succeeded : Bool) (later : List (CleanupKind × CleanupAction))
  | recording (candidate : UploadSession) (kind : CleanupKind) (action : CleanupAction)
      (succeeded : Bool) (later : List (CleanupKind × CleanupAction))
  | releasing
  | ended
deriving DecidableEq

def loadCandidate (store : ArtifactStore Content) (uploadId : UploadId) (token : ClaimToken)
    (now : Time) : CleanupPhase :=
  match (store.sessions uploadId).filter fun row => row.cleanupToken = some token with
  | none => .ended
  | some candidate =>
      if candidateKeysValid uploadId candidate then
        .starting candidate (cleanupActions settings storage candidate now)
      else .mismatched candidate

def deleteCurrentObject (store : ArtifactStore Content) (key : ObjectKey) :
    OperationOutcome → Bool × ArtifactStore Content
  | .works | .spoolRaises _ => (true, store.deleteObject key)
  | .storageRaises effective | .timesOut effective =>
      (false, if effective then store.deleteObject key else store)

def cleanupRecord (token : ClaimToken) (now : Time) (candidate : UploadSession)
    (kind : CleanupKind) (action : CleanupAction) (succeeded : Bool) (row : UploadSession) :
    Option UploadSession :=
  if succeeded then
    match action with
    | .first => recordFirstDelete token now row candidate kind
    | .onePass => recordCleanupComplete token now row candidate kind true
    | .confirm => recordCleanupComplete token now row candidate kind false
  else recordCleanupFailure token now row candidate kind

def advanceCleaner (uploadId : UploadId) (token : ClaimToken) (store : ArtifactStore Content)
    (now : Time) (outcome : OperationOutcome) :
    CleanupPhase → CleanupPhase × ArtifactStore Content
  | .selecting started =>
      (if (store.sessions uploadId).any fun row => cleanupSelected settings storage row started
        then .claiming started else .ended,
        store)
  | .claiming started =>
      amending store uploadId (fun row => claimCleanup token now row storage settings)
        (.loading started) .ended
  | .loading started => (loadCandidate settings storage store uploadId token started, store)
  | .mismatched candidate =>
      amending store uploadId (fun row => recordCleanupKeyMismatch token now row candidate)
        .releasing .releasing
  | .starting candidate actions =>
      match actions with
      | [] => (.releasing, store)
      | (kind, action) :: later =>
          amending store uploadId (touchCleanupClaim token now)
            (.deleting candidate kind action later) .ended
  | .deleting candidate kind action later =>
      let deleted := deleteCurrentObject store (candidate.objectKey kind) outcome
      (.deleted candidate kind action deleted.1 later, deleted.2)
  | .deleted candidate kind action succeeded later =>
      amending store uploadId (touchCleanupClaim token now)
        (.recording candidate kind action succeeded later) .ended
  | .recording candidate kind action succeeded later =>
      amending store uploadId (cleanupRecord token now candidate kind action succeeded)
        (.starting candidate later) (.starting candidate later)
  | .releasing => amending store uploadId (releaseCleanupClaim token now) .ended .ended
  | .ended => (.ended, store)

end

/-! ## Processes -/

inductive ArtifactPhase (Content : Type) where
  | finalizer (request : FinalizeRequest) (token : ClaimToken) (phase : FinalizePhase Content)
  | writer (uploadId : UploadId) (token : ClaimToken) (phase : WritePhase Content)
  /-- An upload with a signed URL, which the object store accepts once. -/
  | presigned (uploadId : UploadId) (owned : UploadSession) (content : Content)
  | cleaner (uploadId : UploadId) (token : ClaimToken) (phase : CleanupPhase)

inductive ArtifactLaunch (Content : Type) where
  | finalize (request : FinalizeRequest) (token : ClaimToken)
  | write (uploadId : UploadId) (content : Content) (token : ClaimToken)
  | put (uploadId : UploadId) (content : Content) (now : Time)
  | clean (uploadId : UploadId) (now : Time) (token : ClaimToken)

/-- What happens to the state without a process. The request that initializes an upload
also recovers and expires the session it finds, each in a transaction of its own, as it
read it before. -/
inductive ArtifactDisturbance where
  | create (uploadId : UploadId) (request : FinalizeRequest) (artifactType : ArtifactType)
      (filename contentType : String) (sizeBytes : Nat) (sha256 : String) (expiresAt now : Time)
  | recover (uploadId : UploadId) (cutoff now : Time)
  | expire (uploadId : UploadId) (now : Time)
  | expireWrite (uploadId : UploadId) (holder : ClaimToken) (now : Time)
  | lease (leaseId : LeaseId) (lease : Option ActiveLease)

section

variable {Content : Type} (sizeBytes : Content → Nat) (sha256 : Content → String)
  (settings : ArtifactSettings) (storage : StorageIdentity)

def drawToken (store : ArtifactStore Content) (token : ClaimToken)
    (phase : ArtifactPhase Content) : Option (ArtifactPhase Content × ArtifactStore Content) :=
  if token ∈ store.tokens then none
  else some (phase, { store with tokens := token :: store.tokens })

def launchArtifactProcess (launch : ArtifactLaunch Content) (store : ArtifactStore Content) :
    Option (ArtifactPhase Content × ArtifactStore Content) :=
  match launch with
  | .finalize request token => drawToken store token (.finalizer request token .requested)
  | .write uploadId content token =>
      drawToken store token (.writer uploadId token (.requested content))
  | .put uploadId content now =>
      match store.sessions uploadId with
      | none => none
      | some upload =>
          if upload.storageBackend = .s3 ∧ now < upload.expiresAt then
            some (.presigned uploadId upload content, store)
          else none
  | .clean uploadId now token =>
      drawToken store token (.cleaner uploadId token (.selecting now))

/-- A process that has answered ends with its next move. -/
def finalizerPhase (request : FinalizeRequest) (token : ClaimToken) :
    FinalizePhase Content → Option (ArtifactPhase Content)
  | .answered _ => none
  | phase => some (.finalizer request token phase)

def writerPhase (uploadId : UploadId) (token : ClaimToken) :
    WritePhase Content → Option (ArtifactPhase Content)
  | .ended => none
  | phase => some (.writer uploadId token phase)

def cleanerPhase (uploadId : UploadId) (token : ClaimToken) :
    CleanupPhase → Option (ArtifactPhase Content)
  | .ended => none
  | phase => some (.cleaner uploadId token phase)

/-- A heartbeat keeps the claim of a process alive while it waits for the storage. -/
def heartbeatArtifactProcess (now : Time) (store : ArtifactStore Content) :
    ArtifactPhase Content → ArtifactStore Content
  | .finalizer request token (.reading _) | .finalizer request token (.publishing _ _) =>
      (store.amend request.uploadId (touchArtifactFinalization token now)).2
  | .writer uploadId token (.writing _ _) =>
      (store.amend uploadId (touchArtifactUploadWrite token now)).2
  | .cleaner uploadId token (.deleting _ _ _ _) =>
      (store.amend uploadId (touchCleanupClaim token now)).2
  | _ => store

def advanceArtifactProcess (choice : ArtifactChoice) (phase : ArtifactPhase Content)
    (store : ArtifactStore Content) : Option (ArtifactPhase Content) × ArtifactStore Content :=
  match choice with
  | .heartbeat now => (some phase, heartbeatArtifactProcess now store phase)
  | .go now outcome artifactId =>
      match phase with
      | .finalizer request token phase =>
          let next := advanceFinalizer sizeBytes sha256 settings storage request token store now
            outcome artifactId phase
          (finalizerPhase request token next.1, next.2)
      | .writer uploadId token phase =>
          let next := advanceWriter sizeBytes storage uploadId token store now outcome phase
          (writerPhase uploadId token next.1, next.2)
      | .presigned _ owned content =>
          (none, (storeVerifiedFile store owned.temporaryObjectKey content outcome).2)
      | .cleaner uploadId token phase =>
          let next := advanceCleaner settings storage uploadId token store now outcome phase
          (cleanerPhase uploadId token next.1, next.2)

def newUploadSession (uploadId : UploadId) (request : FinalizeRequest)
    (artifactType : ArtifactType) (filename contentType : String) (sizeBytes : Nat)
    (sha256 : String) (expiresAt now : Time) : UploadSession where
  jobId := request.jobId
  attemptId := request.attemptId
  leaseId := request.leaseId
  workerId := request.workerId
  artifactId := none
  artifactType := artifactType
  filename := filename
  contentType := contentType
  expectedSizeBytes := sizeBytes
  expectedSha256 := sha256
  dedupeKey := some (request.attemptId, artifactType, sha256)
  temporaryObjectKey := stagingObjectKey request.attemptId uploadId
  canonicalObjectKey := canonicalObjectKey request.jobId request.attemptId artifactType uploadId
  storageBackend := storage.backend
  storageNamespaceSha256 := storage.namespaceFingerprint
  status := .pending
  uploadWriteToken := none
  uploadHeartbeatAt := none
  finalizationToken := none
  cleanupToken := none
  cleanupHeartbeatAt := none
  expiresAt := expiresAt
  uploadedAt := none
  finalizedAt := none
  stagingCleanup := ⟨none, none⟩
  canonicalCleanup := ⟨none, none⟩
  failureCode := none
  updatedAt := now

/-- The unique constraint on `dedupe_key`. -/
def dedupeKeyTaken (store : ArtifactStore Content)
    (dedupeKey : Option (AttemptId × ArtifactType × String)) : Bool :=
  store.uploads.any fun other => (store.sessions other).any (·.dedupeKey = dedupeKey)

def disturbArtifactStore (disturbance : ArtifactDisturbance) (store : ArtifactStore Content) :
    Option (ArtifactStore Content) :=
  match disturbance with
  | .create uploadId request artifactType filename contentType size digest expiresAt now =>
      -- Identifiers are random, so no object is at the keys of a new session.
      let row := newUploadSession storage uploadId request artifactType filename contentType size
        digest expiresAt now
      if (store.sessions uploadId).isSome ∨ (uploadLeaseRefusal store request).isSome ∨
          dedupeKeyTaken store row.dedupeKey then none
      else some { store with
        uploads := uploadId :: store.uploads
        sessions := Function.update store.sessions uploadId (some row) }
  | .recover uploadId cutoff now =>
      some (store.amend uploadId fun row => recoverStaleFinalizing now row cutoff).2
  | .expire uploadId now => some (store.amend uploadId (expireUpload now)).2
  | .expireWrite uploadId holder now =>
      some (store.amend uploadId (expireArtifactUploadWrite holder now)).2
  | .lease leaseId lease =>
      some { store with leases := Function.update store.leases leaseId lease }

def artifactWorkforce : Workforce (ArtifactStore Content) (ArtifactPhase Content)
    (ArtifactLaunch Content) ArtifactChoice ArtifactDisturbance where
  launch := launchArtifactProcess
  advance := advanceArtifactProcess sizeBytes sha256 settings storage
  disturb := disturbArtifactStore storage

abbrev ArtifactSituation (Content : Type) :=
  Workforce.Situation (ArtifactStore Content) (ArtifactPhase Content)

abbrev ArtifactEvent (Content : Type) :=
  Workforce.Event (ArtifactLaunch Content) ArtifactChoice ArtifactDisturbance

/-- The situation after `events`, from an empty store. -/
def artifactRun (events : List (ArtifactEvent Content)) : ArtifactSituation Content :=
  run (artifactWorkforce sizeBytes sha256 settings storage).step ⟨.empty, []⟩ events

end

/-! ## A sample -/

namespace UploadSample

def settings : ArtifactSettings where
  finalizingStale := 60
  cleanupClaimStale := 60
  cleanupConfirmationGrace := 60
  stagingCleanupGrace := 7200

def storage : StorageIdentity := ⟨.s3, "namespace"⟩

def request : FinalizeRequest where
  uploadId := 0
  jobId := 1
  attemptId := 2
  leaseId := 3
  workerId := 4

def proceed (now : Nat) (count : Nat) : List (ArtifactEvent Nat) :=
  List.replicate count (.proceed 0 (.go (seconds now) .works 0))

def uploaded : List (ArtifactEvent Nat) :=
  [.disturb (.lease 3 (some ⟨1, 2, 4, true⟩)),
    .disturb (.create 0 request .finalIndex "model.index" "application/octet-stream" 5 "digest"
      (seconds 300) 0),
    .launch (.put 0 5 0)] ++ proceed 1 1

def run (events : List (ArtifactEvent Nat)) : ArtifactSituation Nat :=
  artifactRun id (fun _ => "digest") settings storage events

end UploadSample

end RvcOrchestrator.Manager

import RvcOrchestrator.Foundation.Locks
import RvcOrchestrator.Manager.ArtifactProcesses

/-! # Artifact uploads: the request that opens a session

The request looks for a session of its idempotency key or of its content, and answers with
it if it is still of use. Otherwise it reserves a new one: under a lock on the row of the
attempt it counts the sessions of the attempt, then their bytes, and inserts its own.
-/

namespace RvcOrchestrator.Manager

open RvcOrchestrator.Foundation RvcOrchestrator.Contracts

/-! ## Requests -/

structure UploadInitSettings where
  artifactMaxBytes : Nat
  sampleMaxBytes : Nat
  artifactUploadTtlSeconds : Nat
  artifactRetryAfterSeconds : Nat
  artifactAttemptMaxSessions : Nat
  artifactAttemptMaxBytes : Nat

/-- What `upload_request_fingerprint` digests. -/
structure UploadDescription where
  artifactType : ArtifactType
  filename : String
  contentType : String
  sizeBytes : Nat
  sha256 : String
  metadata : Json

structure UploadInitRequest extends UploadDescription where
  jobId : JobId
  workerId : WorkerId
  leaseId : LeaseId
  attemptId : AttemptId
  idempotencyKey : String

/-- `upload_dedupe_key` -/
def UploadInitRequest.dedupeKey (request : UploadInitRequest) :
    AttemptId × ArtifactType × String :=
  (request.attemptId, request.artifactType, request.sha256)

def UploadInitRequest.claim (request : UploadInitRequest) (uploadId : UploadId) :
    FinalizeRequest where
  uploadId := uploadId
  jobId := request.jobId
  attemptId := request.attemptId
  leaseId := request.leaseId
  workerId := request.workerId

def effectiveArtifactUploadTtlSeconds (settings : UploadInitSettings) (sizeBytes : Nat) : Nat :=
  let transferSeconds := (sizeBytes + 2097152 - 1) / 2097152
  min settings.artifactUploadTtlSeconds (300 + transferSeconds)

structure UploadInitResponse where
  uploadSessionId : UploadId
  status : UploadStatus
  method : Option String
  expiresAt : Time
  artifact : Option Artifact
  failureCode : Option String
  retryable : Bool
  retryAfterSeconds : Option Nat
deriving DecidableEq

abbrev UploadInitAnswer := Except HttpError UploadInitResponse

/-! ## The state -/

/-- The columns of a session that no other request reads. -/
structure UploadRegistration (Digest : Type) where
  idempotencyKey : String
  generation : Nat
  requestFingerprint : Digest

/-- A session as a query returns it. -/
structure FoundUpload (Digest : Type) where
  id : UploadId
  row : UploadSession
  registration : UploadRegistration Digest

structure UploadStore (Content Digest : Type) where
  ledger : ArtifactStore Content
  registrations : UploadId → Option (UploadRegistration Digest)
  /-- The locks on rows of attempts. A transaction is named by the session that it is to
  reserve. -/
  locks : Locks UploadId AttemptId
  /-- The identifiers drawn for sessions so far. -/
  drawn : List UploadId

namespace UploadStore

variable {Content Digest : Type}

def empty : UploadStore Content Digest where
  ledger := .empty
  registrations _ := none
  locks := .empty
  drawn := []

def load (store : UploadStore Content Digest) (id : UploadId) : Option (FoundUpload Digest) :=
  match store.ledger.sessions id, store.registrations id with
  | some row, some registration => some ⟨id, row, registration⟩
  | _, _ => none

def rows (store : UploadStore Content Digest) : List (FoundUpload Digest) :=
  store.ledger.uploads.filterMap store.load

/-- The first query of `_find_existing_upload`. -/
def findByIdempotencyKey (store : UploadStore Content Digest) (request : UploadInitRequest) :
    Option (FoundUpload Digest) :=
  (store.rows.filter fun found =>
    found.row.attemptId = request.attemptId &&
      found.registration.idempotencyKey = request.idempotencyKey).argmax
    fun found => found.registration.generation

/-- `_find_deduplicated_upload` -/
def findDeduplicated (store : UploadStore Content Digest) (request : UploadInitRequest) :
    Option (FoundUpload Digest) :=
  store.rows.find? fun found => found.row.dedupeKey = some request.dedupeKey

end UploadStore

/-! ## The quota -/

/-- `quota_session` -/
def UploadSession.QuotaSession (row : UploadSession) : Prop :=
  row.status = .pending ∨ row.status = .finalizing ∨ row.status = .completed ∨
    row.status.Abandoned ∧
      (row.stagingCleanup.completedAt = none ∨ row.canonicalCleanup.completedAt = none)

instance : DecidablePred UploadSession.QuotaSession := fun _ =>
  inferInstanceAs (Decidable (_ ∨ _))

namespace ArtifactStore

variable {Content : Type}

def quotaSession (store : ArtifactStore Content) (attemptId : AttemptId) (uploadId : UploadId) :
    Option UploadSession :=
  (store.sessions uploadId).filter fun row => row.attemptId = attemptId ∧ row.QuotaSession

def quotaSessions (store : ArtifactStore Content) (attemptId : AttemptId) : List UploadSession :=
  store.uploads.filterMap (store.quotaSession attemptId)

def sessionCount (store : ArtifactStore Content) (attemptId : AttemptId) : Nat :=
  (store.quotaSessions attemptId).length

def activeBytes (store : ArtifactStore Content) (attemptId : AttemptId) : Nat :=
  ((store.quotaSessions attemptId).map (·.expectedSizeBytes)).sum

end ArtifactStore

/-! ## The request -/

structure Reservation where
  generation : Nat
  expiresAt : Time
deriving DecidableEq

inductive UploadSearch where
  | first
  | beforeReservation (reservation : Reservation)
  | afterConflict
deriving DecidableEq

inductive InitStage (Digest : Type) where
  | requested
  | finding (search : UploadSearch)
  /-- No session has the idempotency key. -/
  | deduplicating (search : UploadSearch)
  | recovering (found : FoundUpload Digest) (cutoff : Time)
  /-- Another request was faster to recover it. -/
  | refreshing (id : UploadId)
  | expiringWrite (found : FoundUpload Digest) (holder : ClaimToken)
  | expiring (found : FoundUpload Digest)
  | reloading (id : UploadId) (expired : Bool)
  /-- The session that was found has expired. -/
  | replacing (search : UploadSearch) (generation : Nat)
  | signing (reservation : Reservation)
  | leasing (reservation : Reservation)
  | locking (reservation : Reservation)
  | counting (reservation : Reservation)
  | summing (reservation : Reservation)
  | inserting (reservation : Reservation)
  | answering (found : FoundUpload Digest)
  | answered (answer : UploadInitAnswer)

structure InitChoice where
  now : Time
  signs : Bool
deriving DecidableEq

def uploadSessionConflict : HttpError := ⟨409, "artifact upload session conflict"⟩

def uploadStateChanged : HttpError := ⟨409, "artifact upload state changed"⟩

def uploadStorageUnavailable : HttpError := ⟨503, "upload storage namespace is unavailable"⟩

def uploadRequestFailed : HttpError := ⟨500, "Internal Server Error"⟩

section

variable {Content Digest : Type} [DecidableEq Digest]
  (fingerprint : UploadDescription → Digest) (settings : ArtifactSettings)
  (initSettings : UploadInitSettings) (storage : StorageIdentity) (request : UploadInitRequest)
  (uploadId : UploadId)

def refuse (status : Nat) (detail : String) : InitStage Digest :=
  .answered (.error ⟨status, detail⟩)

/-- `_retry_metadata` -/
def retryMetadata (row : UploadSession) : Bool × Option Nat :=
  match row.status with
  | .finalizing | .expired => (true, some initSettings.artifactRetryAfterSeconds)
  | .pending => (true, row.failureCode.map fun _ => initSettings.artifactRetryAfterSeconds)
  | .completed | .failed => (false, none)

/-- `_init_response` -/
def initResponse (store : ArtifactStore Content) (found : FoundUpload Digest) (signs : Bool) :
    UploadInitAnswer :=
  if ¬storage.Matches found.row then .error uploadStorageUnavailable
  else if found.row.status = .pending ∧ signs = false then .error uploadRequestFailed
  else
    .ok
      { uploadSessionId := found.id
        status := found.row.status
        method := if found.row.status = .pending then some "PUT" else none
        expiresAt := found.row.expiresAt
        artifact :=
          if found.row.status = .pending then none
          else store.artifacts.find? fun artifact => found.row.artifactId = some artifact.id
        failureCode := found.row.failureCode
        retryable := (retryMetadata initSettings found.row).1
        retryAfterSeconds := (retryMetadata initSettings found.row).2 }

/-- The sizes are checked, then the lease. -/
def beginInit (store : ArtifactStore Content) : InitStage Digest :=
  if initSettings.artifactMaxBytes < request.sizeBytes then
    refuse 413 "artifact exceeds configured size limit"
  else if request.artifactType = .sample ∧ initSettings.sampleMaxBytes < request.sizeBytes then
    refuse 413 "sample exceeds configured size limit"
  else
    match uploadLeaseRefusal store (request.claim uploadId) with
    | some detail => refuse 409 detail
    | none => .finding .first

def signUpload (generation : Nat) (now : Time) : InitStage Digest :=
  .signing
    { generation
      expiresAt :=
        now + seconds (effectiveArtifactUploadTtlSeconds initSettings request.sizeBytes) }

def nextGeneration (found : FoundUpload Digest) (least : Nat) : Nat :=
  if found.registration.idempotencyKey = request.idempotencyKey then
    max least (found.registration.generation + 1)
  else least

/-- An expired session gives way to one that has its content. -/
def replaceExpired (found : FoundUpload Digest) : InitStage Digest :=
  if found.row.status = .expired then .replacing .first (nextGeneration request found 1)
  else .answering found

/-- A session past its deadline expires first. -/
def settleExisting (found : FoundUpload Digest) (now : Time) : InitStage Digest :=
  if found.row.status = .pending ∧ found.row.expiresAt ≤ now then
    match found.row.uploadWriteToken with
    | some holder => .expiringWrite found holder
    | none => .expiring found
  else replaceExpired request found

def meetExisting (found : FoundUpload Digest) (now : Time) : UploadSearch → InitStage Digest
  | .first =>
      if found.registration.requestFingerprint ≠ fingerprint request.toUploadDescription then
        refuse 409 "idempotency key or artifact checksum conflicts with prior payload"
      else if ¬storage.Matches found.row then .answered (.error uploadStorageUnavailable)
      else if found.row.status = .finalizing ∧
          found.row.updatedAt ≤ now - seconds settings.finalizingStale then
        .recovering found (now - seconds settings.finalizingStale)
      else settleExisting request found now
  | .beforeReservation reservation =>
      if found.registration.requestFingerprint ≠ fingerprint request.toUploadDescription then
        .answered (.error uploadSessionConflict)
      else if found.row.status = .expired then
        .replacing (.beforeReservation reservation)
          (nextGeneration request found reservation.generation)
      else .answering found
  | .afterConflict =>
      if found.row.status = .expired then .replacing .afterConflict 0
      else if found.registration.requestFingerprint ≠ fingerprint request.toUploadDescription then
        .answered (.error uploadSessionConflict)
      else .answering found

def meetNone (now : Time) : UploadSearch → InitStage Digest
  | .first => signUpload initSettings request 1 now
  | .beforeReservation reservation => .locking reservation
  | .afterConflict => .answered (.error uploadSessionConflict)

def meetReplacement (found : Option (FoundUpload Digest)) (generation : Nat) (now : Time) :
    UploadSearch → InitStage Digest
  | .first =>
      match found with
      | none => signUpload initSettings request generation now
      | some found =>
          if found.registration.requestFingerprint ≠ fingerprint request.toUploadDescription then
            refuse 409 "artifact checksum conflicts with an active upload payload"
          else .answering found
  | .beforeReservation reservation =>
      match found with
      | none => .locking { reservation with generation }
      | some found => .answering found
  | .afterConflict =>
      match found with
      | none => .answered (.error uploadSessionConflict)
      | some found =>
          if found.registration.requestFingerprint ≠ fingerprint request.toUploadDescription then
            .answered (.error uploadSessionConflict)
          else .answering found

def recoveredUpload (found : FoundUpload Digest) : FoundUpload Digest :=
  { found with
    row :=
      { found.row with
        status := .pending
        uploadWriteToken := none
        uploadHeartbeatAt := none
        finalizationToken := none
        failureCode := some "stale_finalizing_recovered" } }

/-- The unique constraint on attempt, idempotency key and generation. -/
def uploadGenerationTaken (store : UploadStore Content Digest) (generation : Nat) : Bool :=
  store.rows.any fun found =>
    found.row.attemptId = request.attemptId &&
      found.registration.idempotencyKey = request.idempotencyKey &&
      found.registration.generation = generation

def reservedUpload (reservation : Reservation) (now : Time) : UploadSession :=
  newUploadSession storage uploadId (request.claim uploadId) request.artifactType
    request.filename request.contentType request.sizeBytes request.sha256 reservation.expiresAt now

def insertUpload (store : UploadStore Content Digest) (reservation : Reservation) (now : Time) :
    InitStage Digest × UploadStore Content Digest :=
  let row := reservedUpload storage request uploadId reservation now
  let registration : UploadRegistration Digest :=
    { idempotencyKey := request.idempotencyKey
      generation := reservation.generation
      requestFingerprint := fingerprint request.toUploadDescription }
  let closed := { store with locks := store.locks.close uploadId }
  if (store.ledger.sessions uploadId).isSome ∨ dedupeKeyTaken store.ledger row.dedupeKey ∨
      uploadGenerationTaken request store reservation.generation then
    (.finding .afterConflict, closed)
  else
    (.answered (.ok
      { uploadSessionId := uploadId
        status := .pending
        method := some "PUT"
        expiresAt := reservation.expiresAt
        artifact := none
        failureCode := none
        retryable := true
        retryAfterSeconds := none }),
      { closed with
        ledger :=
          { store.ledger with
            uploads := uploadId :: store.ledger.uploads
            sessions := Function.update store.ledger.sessions uploadId (some row) }
        registrations := Function.update store.registrations uploadId (some registration) })

def InitStage.reserves : InitStage Digest → Bool
  | .finding (.beforeReservation _) | .deduplicating (.beforeReservation _)
  | .replacing (.beforeReservation _) _ | .locking _ | .counting _ | .summing _ | .inserting _ =>
      true
  | _ => false

/-- A transaction that is left for an answer ends. -/
def goOnInit (store : UploadStore Content Digest) (stage : InitStage Digest) :
    InitStage Digest × UploadStore Content Digest :=
  (stage,
    if stage.reserves then store else { store with locks := store.locks.close uploadId })

/-- A conditional update of a session. -/
def UploadStore.amend (store : UploadStore Content Digest) (id : UploadId)
    (update : UploadSession → Option UploadSession) : Bool × UploadStore Content Digest :=
  let amended := store.ledger.amend id update
  (amended.1, { store with ledger := amended.2 })

/-- One statement of `initialize_artifact_upload`. -/
def advanceInitStage (choice : InitChoice) (store : UploadStore Content Digest) :
    InitStage Digest → InitStage Digest × UploadStore Content Digest
  | .requested => (beginInit initSettings request uploadId store.ledger, store)
  | .finding search =>
      match store.findByIdempotencyKey request with
      | none => goOnInit uploadId store (.deduplicating search)
      | some found =>
          goOnInit uploadId store
            (meetExisting fingerprint settings storage request found choice.now search)
  | .deduplicating search =>
      match store.findDeduplicated request with
      | none => goOnInit uploadId store (meetNone initSettings request choice.now search)
      | some found =>
          goOnInit uploadId store
            (meetExisting fingerprint settings storage request found choice.now search)
  | .recovering found cutoff =>
      let recovered := store.amend found.id fun row => recoverStaleFinalizing choice.now row cutoff
      (if recovered.1 then settleExisting request (recoveredUpload found) choice.now
        else .refreshing found.id,
        recovered.2)
  | .refreshing id =>
      match store.load id with
      | none => (.answered (.error uploadRequestFailed), store)
      | some found => (settleExisting request found choice.now, store)
  | .expiringWrite found holder =>
      let expired := store.amend found.id (expireArtifactUploadWrite holder choice.now)
      (.reloading found.id expired.1, expired.2)
  | .expiring found =>
      -- The cleanup of the expired session that follows is a request of its own.
      let expired := store.amend found.id (expireUpload choice.now)
      (if expired.1 then .reloading found.id true else .answered (.error uploadStateChanged),
        expired.2)
  | .reloading id expired =>
      match store.load id with
      | none => (refuse 409 "artifact upload disappeared", store)
      | some found =>
          if expired then (replaceExpired request found, store)
          else (.answered (.error uploadStateChanged), store)
  | .replacing search generation =>
      goOnInit uploadId store
        (meetReplacement fingerprint initSettings request (store.findDeduplicated request)
          generation choice.now search)
  | .signing reservation =>
      if choice.signs then
        (.leasing reservation, { store with locks := store.locks.start uploadId })
      else (refuse 503 "object upload signing failed", store)
  | .leasing reservation =>
      match uploadLeaseRefusal store.ledger (request.claim uploadId) with
      | some detail => goOnInit uploadId store (refuse 409 detail)
      | none => (.finding (.beforeReservation reservation), store)
  | .locking reservation =>
      match store.locks.acquire uploadId request.attemptId with
      | none => (.locking reservation, store)
      | some locks => (.counting reservation, { store with locks })
  | .counting reservation =>
      if initSettings.artifactAttemptMaxSessions ≤ store.ledger.sessionCount request.attemptId then
        goOnInit uploadId store (refuse 409 "artifact session quota exceeded")
      else (.summing reservation, store)
  | .summing reservation =>
      if initSettings.artifactAttemptMaxBytes <
          store.ledger.activeBytes request.attemptId + request.sizeBytes then
        goOnInit uploadId store (refuse 409 "artifact byte quota exceeded")
      else (.inserting reservation, store)
  | .inserting reservation =>
      insertUpload fingerprint storage request uploadId store reservation choice.now
  | .answering found =>
      (.answered (initResponse initSettings storage store.ledger found choice.signs), store)
  | .answered answer => (.answered answer, store)

/-- A transaction that the database has ended fails with its next statement. -/
def advanceInit (choice : InitChoice) (store : UploadStore Content Digest)
    (stage : InitStage Digest) : InitStage Digest × UploadStore Content Digest :=
  if stage.reserves ∧ uploadId ∉ store.locks.active then
    (.answered (.error uploadRequestFailed), store)
  else
    advanceInitStage fingerprint settings initSettings storage request uploadId choice store stage

end

/-! ## All requests together -/

inductive UploadPhase (Content Digest : Type) where
  | artifact (phase : ArtifactPhase Content)
  | init (request : UploadInitRequest) (uploadId : UploadId) (stage : InitStage Digest)

/-- The identifier of the session is drawn with the request, whether it is used or not. -/
inductive UploadLaunch (Content : Type) where
  | artifact (launch : ArtifactLaunch Content)
  | init (request : UploadInitRequest) (uploadId : UploadId)

structure UploadChoice where
  artifact : ArtifactChoice
  init : InitChoice
deriving DecidableEq

inductive UploadDisturbance where
  | lease (leaseId : LeaseId) (lease : Option ActiveLease)
  /-- The database ends the transaction: a lost connection, a deadlock. -/
  | abort (uploadId : UploadId)

section

variable {Content Digest : Type} [DecidableEq Digest] (sizeBytes : Content → Nat)
  (sha256 : Content → String) (fingerprint : UploadDescription → Digest)
  (settings : ArtifactSettings) (initSettings : UploadInitSettings) (storage : StorageIdentity)

def launchUpload (launch : UploadLaunch Content) (store : UploadStore Content Digest) :
    Option (UploadPhase Content Digest × UploadStore Content Digest) :=
  match launch with
  | .artifact launch =>
      (launchArtifactProcess launch store.ledger).map fun launched =>
        (.artifact launched.1, { store with ledger := launched.2 })
  | .init request uploadId =>
      if uploadId ∈ store.drawn then none
      else
        some (.init request uploadId .requested, { store with drawn := uploadId :: store.drawn })

def advanceUpload (choice : UploadChoice) (phase : UploadPhase Content Digest)
    (store : UploadStore Content Digest) :
    Option (UploadPhase Content Digest) × UploadStore Content Digest :=
  match phase with
  | .artifact phase =>
      let advanced := advanceArtifactProcess sizeBytes sha256 settings storage choice.artifact
        phase store.ledger
      (advanced.1.map .artifact, { store with ledger := advanced.2 })
  | .init request uploadId stage =>
      let advanced := advanceInit fingerprint settings initSettings storage request uploadId
        choice.init store stage
      (some (.init request uploadId advanced.1), advanced.2)

def disturbUploads (disturbance : UploadDisturbance) (store : UploadStore Content Digest) :
    Option (UploadStore Content Digest) :=
  match disturbance with
  | .lease leaseId lease =>
      some { store with
        ledger :=
          { store.ledger with leases := Function.update store.ledger.leases leaseId lease } }
  | .abort uploadId => some { store with locks := store.locks.close uploadId }

/-- Requests that open sessions, beside all those that write, finalize and clean them up. -/
def uploadWorkforce : Workforce (UploadStore Content Digest) (UploadPhase Content Digest)
    (UploadLaunch Content) UploadChoice UploadDisturbance where
  launch := launchUpload
  advance := advanceUpload sizeBytes sha256 fingerprint settings initSettings storage
  disturb := disturbUploads

abbrev UploadSituation (Content Digest : Type) :=
  Workforce.Situation (UploadStore Content Digest) (UploadPhase Content Digest)

abbrev UploadEvent (Content : Type) :=
  Workforce.Event (UploadLaunch Content) UploadChoice UploadDisturbance

/-- The situation after `events`, from an empty store. -/
def uploadRun (events : List (UploadEvent Content)) : UploadSituation Content Digest :=
  run (uploadWorkforce sizeBytes sha256 fingerprint settings initSettings storage).step
    ⟨.empty, []⟩ events

end

end RvcOrchestrator.Manager

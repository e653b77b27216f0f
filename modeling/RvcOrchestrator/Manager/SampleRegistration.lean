import RvcOrchestrator.Foundation.Locks
import RvcOrchestrator.Foundation.Workforce
import RvcOrchestrator.Manager.Operations
import RvcOrchestrator.Manager.Samples

/-! # Sample registration

A verified registration becomes a sample in one transaction, which locks the attempt and
the rows of the claim. If the insertion violates a constraint, the transaction is rolled
back with its locks, and a second one confirms what is stored.
-/

namespace RvcOrchestrator.Manager

open RvcOrchestrator.Foundation RvcOrchestrator.Contracts

/-! ## The state -/

structure SampleTransaction where
  token : ClaimToken
  /-- The transaction after the rollback of the first one. -/
  second : Bool
deriving DecidableEq

inductive SampleResource where
  /-- The advisory lock on the registrations of an attempt. -/
  | registration (attemptId : AttemptId)
  | leaseRow (leaseId : LeaseId)
  | jobRow (jobId : JobId)
  | attemptRow (attemptId : AttemptId)
  | workerRow (workerId : WorkerId)
  /-- An entry of a unique index that is not committed yet. -/
  | identity (identity : SampleIdentity)
  | primaryKey (id : SampleId)
deriving DecidableEq

structure SampleStore where
  ledger : Ledger
  samples : List Sample
  locks : Locks SampleTransaction SampleResource
  /-- The tokens drawn so far. -/
  tokens : List ClaimToken

def SampleStore.empty : SampleStore where
  ledger := .empty
  samples := []
  locks := .empty
  tokens := []

/-! ## The claim and the fence -/

section

variable (platform : Platform) {inspect : String → Option SamplePcmInspection}

def lockCurrentSampleClaim (ledger : Ledger) (verified : VerifiedSample inspect) (now : Time) :
    Except HttpError LeaseRow :=
  let payload := verified.payload
  let changed : Except HttpError LeaseRow :=
    .error ⟨409, "sample claim changed during verification"⟩
  match ledger.jobs.find? verified.jobId, ledger.attempts.find? payload.attemptId with
  | some job, some attempt =>
      match validatedJobConfig platform verified.jobId job (some attempt) with
      | .error _ => .error ⟨409, "Job snapshot changed during verification"⟩
      | .ok config =>
          match ledger.leases.find? payload.leaseId, ledger.workers.find? verified.workerId with
          | some lease, some worker =>
              if lease.active = false ∨ lease.releasedAt ≠ none ∨ lease.expiresAt ≤ now ∨
                  lease.jobId ≠ verified.jobId ∨ lease.attemptId ≠ payload.attemptId ∨
                  lease.workerId ≠ verified.workerId ∨
                  job.workerId ≠ some verified.workerId ∨
                  job.currentAttemptId ≠ some payload.attemptId ∨
                  job.testSetId ≠ some payload.testSetId ∨
                  job.samplePlan.map SamplePlan.sha256 ≠ some payload.samplePlanSha256 ∨
                  job.cancelRequestedAt ≠ none ∨ job.status ∈ terminalJobStatuses ∨
                  attempt.jobId ≠ verified.jobId ∨ attempt.workerId ≠ verified.workerId ∨
                  attempt.finishedAt ≠ none ∨ attempt.status ∈ terminalJobStatuses ∨
                  attempt.runtimeImageDigest ≠ some payload.runtimeImageDigest ∨
                  attempt.runtimeAssetManifestSha256 ≠
                    some payload.runtimeAssetManifestSha256 ∨
                  worker.currentJobId ≠ some verified.jobId ∨ config ≠ verified.config then
                changed
              else .ok lease
          | _, _ => changed
  | _, _ => changed

def sampleClaimChanged : HttpError := ⟨409, "sample claim changed during verification"⟩

/-- The fenced update finds its row, and the rows read after it agree. -/
def acquireSampleRegistrationJobFence (ledger : Ledger) (verified : VerifiedSample inspect) :
    Except HttpError Unit :=
  let payload := verified.payload
  let expectedConfigSha256 := platform.configSha256 verified.config
  match ledger.jobs.find? verified.jobId, ledger.attempts.find? payload.attemptId with
  | some job, some attempt =>
      if job.workerId ≠ some verified.workerId ∨
          job.currentAttemptId ≠ some payload.attemptId ∨
          job.testSetId ≠ some payload.testSetId ∨
          job.samplePlan.map SamplePlan.sha256 ≠ some payload.samplePlanSha256 ∨
          job.configSha256 ≠ some expectedConfigSha256 ∨ job.cancelRequestedAt ≠ none ∨
          job.status ∈ terminalJobStatuses then
        .error sampleClaimChanged
      else
        match validatedJobConfig platform verified.jobId job (some attempt) with
        | .error _ => .error sampleClaimChanged
        | .ok config =>
            if attempt.jobId ≠ verified.jobId ∨ attempt.workerId ≠ verified.workerId ∨
                attempt.jobConfigSha256 ≠ some expectedConfigSha256 ∨
                attempt.finishedAt ≠ none ∨ attempt.status ∈ terminalJobStatuses ∨
                attempt.runtimeImageDigest ≠ some payload.runtimeImageDigest ∨
                attempt.runtimeAssetManifestSha256 ≠
                  some payload.runtimeAssetManifestSha256 ∨ config ≠ verified.config then
              .error sampleClaimChanged
            else .ok ()
  | _, _ => .error sampleClaimChanged

def fenceSampleClaim (ledger : Ledger) (verified : VerifiedSample inspect) (now : Time) :
    Except HttpError LeaseRow :=
  match acquireSampleRegistrationJobFence platform ledger verified with
  | .error error => .error error
  | .ok () => lockCurrentSampleClaim platform ledger verified now

def requireFencedLeaseTime (lease : LeaseRow) (now : Time) : Except HttpError Unit :=
  if lease.active = false ∨ lease.releasedAt ≠ none ∨ lease.expiresAt ≤ now then
    .error ⟨409, "sample lease expired before commit"⟩
  else .ok ()

end

/-! ## Totals -/

def samplesOf (attemptId : AttemptId) (samples : List Sample) : List Sample :=
  samples.filter fun sample => sample.attemptId = attemptId

def totalSizeBytes (samples : List Sample) : Nat := (samples.map Sample.outputSizeBytes).sum

def totalDurationSeconds (samples : List Sample) : ℚ :=
  (samples.map Sample.outputDurationSeconds).sum

def sampleAttemptTotals (samples : List Sample) (attemptId : AttemptId) :
    Except HttpError (Nat × ℚ) :=
  if (samplesOf attemptId samples).any fun sample =>
      sample.outputSizeBytes = 0 || decide (sample.outputDurationSeconds ≤ 0) then
    .error ⟨409, "sample attempt ledger is invalid"⟩
  else
    .ok (totalSizeBytes (samplesOf attemptId samples),
      totalDurationSeconds (samplesOf attemptId samples))

/-! ## The request -/

inductive SampleStage where
  | verified
  | attemptLocked
  | claimLocked
  | fenced (lease : LeaseRow)
  | replaying (lease : LeaseRow) (existing : Sample)
  | limiting (lease : LeaseRow)
  | inserting (lease : LeaseRow)
  | registering (lease : LeaseRow) (sample : Sample)
  | raced
  | relocking (existing : Sample)
  | refencing (existing : Sample)

inductive SamplePhase (inspect : String → Option SamplePcmInspection) where
  | running (transaction : SampleTransaction) (verified : VerifiedSample inspect)
      (stage : SampleStage)
  | answered (token : ClaimToken) (payload : SampleRegistrationRequest)
      (answer : Except HttpError Sample)

/-- A commit that raises may have taken effect. -/
inductive DatabaseOutcome where
  | works
  | raises (effective : Bool)
deriving DecidableEq

structure SampleChoice where
  now : Time
  sampleId : SampleId
  database : DatabaseOutcome

section

variable (platform : Platform) {inspect : String → Option SamplePcmInspection}

abbrev SampleMove (inspect : String → Option SamplePcmInspection) :=
  Option (SamplePhase inspect) × SampleStore

def endSample (store : SampleStore) (transaction : SampleTransaction)
    (verified : VerifiedSample inspect) (answer : Except HttpError Sample) :
    SampleMove inspect :=
  (some (.answered transaction.token verified.payload answer),
    { store with locks := store.locks.close transaction })

def goOn (store : SampleStore) (transaction : SampleTransaction)
    (verified : VerifiedSample inspect) (stage : SampleStage)
    (locks : Locks SampleTransaction SampleResource) : SampleMove inspect :=
  (some (.running transaction verified stage), { store with locks })

def sampleClaimRows (verified : VerifiedSample inspect) : List SampleResource :=
  [.leaseRow verified.payload.leaseId, .jobRow verified.jobId,
    .attemptRow verified.payload.attemptId, .workerRow verified.workerId]

def findSample (store : SampleStore) (identity : SampleIdentity) : Option Sample :=
  store.samples.find? fun sample => sample.identity = identity

/-- The stored sample is of the Job and as it was registered. -/
def replays (verified : VerifiedSample inspect) (existing : Sample) : Bool :=
  existing.jobId = verified.jobId &&
    sampleMatchesRegistration existing verified.payload verified.evidence

/-- The rows are locked at once: a row that is locked first and read first does not change
until the others are locked. A request that meets a lock of another waits. -/
def lockSampleClaim (store : SampleStore) (transaction : SampleTransaction)
    (verified : VerifiedSample inspect) (stage next : SampleStage) (now : Time) :
    SampleMove inspect :=
  match store.locks.acquireAll transaction (sampleClaimRows verified) with
  | none => goOn store transaction verified stage store.locks
  | some locks =>
      match lockCurrentSampleClaim platform store.ledger verified now with
      | .error error => endSample store transaction verified (.error error)
      | .ok _ => goOn store transaction verified next locks

def internalError : HttpError := ⟨500, "Internal Server Error"⟩

/-- One statement of a request whose transaction is open. -/
def advanceSampleStage (choice : SampleChoice) (transaction : SampleTransaction)
    (verified : VerifiedSample inspect) (stage : SampleStage) (store : SampleStore) :
    SampleMove inspect :=
  match stage with
  | .verified =>
      match store.locks.acquire transaction (.registration verified.payload.attemptId) with
      | none =>
          endSample store transaction verified
            (.error ⟨429, "sample attempt registration is already in progress"⟩)
      | some locks => goOn store transaction verified .attemptLocked locks
  | .attemptLocked =>
      lockSampleClaim platform store transaction verified .attemptLocked .claimLocked choice.now
  | .claimLocked =>
      match fenceSampleClaim platform store.ledger verified choice.now with
      | .error error => endSample store transaction verified (.error error)
      | .ok lease => goOn store transaction verified (.fenced lease) store.locks
  | .fenced lease =>
      match findSample store verified.identity with
      | none => goOn store transaction verified (.limiting lease) store.locks
      | some existing =>
          if replays verified existing then
            goOn store transaction verified (.replaying lease existing) store.locks
          else
            endSample store transaction verified
              (.error ⟨409, "sample identity conflicts with prior payload"⟩)
  | .replaying lease existing =>
      endSample store transaction verified
        ((requireFencedLeaseTime lease choice.now).map fun _ => existing)
  | .limiting lease =>
      match sampleAttemptTotals store.samples verified.payload.attemptId with
      | .error error => endSample store transaction verified (.error error)
      | .ok (sizeBytes, durationSeconds) =>
          if sampleMaxTotalOutputBytes < sizeBytes + verified.payload.outputSizeBytes ∨
              sampleMaxTotalOutputDurationSeconds <
                durationSeconds + verified.inspection.durationSeconds then
            endSample store transaction verified
              (.error ⟨413, "sample attempt exceeds total output limits"⟩)
          else goOn store transaction verified (.inserting lease) store.locks
  | .inserting lease =>
      match store.locks.acquireAll transaction
        [.identity verified.identity, .primaryKey choice.sampleId] with
      | none => goOn store transaction verified (.inserting lease) store.locks
      | some locks =>
          if store.samples.any fun sample =>
              sample.identity = verified.identity || sample.id = choice.sampleId then
            let second : SampleTransaction := ⟨transaction.token, true⟩
            goOn store second verified .raced ((store.locks.close transaction).start second)
          else
            goOn store transaction verified
              (.registering lease (verified.sample choice.sampleId)) locks
  | .registering lease sample =>
      match requireFencedLeaseTime lease choice.now with
      | .error error => endSample store transaction verified (.error error)
      | .ok () =>
          endSample { store with samples := store.samples ++ [sample] } transaction verified
            (.ok sample)
  | .raced =>
      match (findSample store verified.identity).filter (replays verified) with
      | none =>
          endSample store transaction verified
            (.error ⟨409, "sample registration conflict"⟩)
      | some raced => goOn store transaction verified (.relocking raced) store.locks
  | .relocking raced =>
      lockSampleClaim platform store transaction verified (.relocking raced) (.refencing raced)
        choice.now
  | .refencing raced =>
      match fenceSampleClaim platform store.ledger verified choice.now with
      | .error error => endSample store transaction verified (.error error)
      | .ok lease => goOn store transaction verified (.replaying lease raced) store.locks

/-- A statement that raises. Only a commit may have taken effect. -/
def raiseSample (choice : SampleChoice) (effective : Bool) (transaction : SampleTransaction)
    (verified : VerifiedSample inspect) (stage : SampleStage) (store : SampleStore) :
    SampleMove inspect :=
  match stage with
  | .claimLocked | .refencing _ =>
      endSample store transaction verified
        (.error ⟨503, "sample registration fence is temporarily unavailable"⟩)
  | .registering lease sample =>
      match requireFencedLeaseTime lease choice.now with
      | .error error => endSample store transaction verified (.error error)
      | .ok () =>
          endSample { store with
            samples := if effective then store.samples ++ [sample] else store.samples }
            transaction verified (.error internalError)
  | _ => endSample store transaction verified (.error internalError)

def advanceSample (choice : SampleChoice) :
    SamplePhase inspect → SampleStore → SampleMove inspect
  | .answered .., store => (none, store)
  | .running transaction verified stage, store =>
      -- The database ends transactions of its own accord: lost connections and deadlocks.
      if transaction ∉ store.locks.active then
        (some (.answered transaction.token verified.payload (.error internalError)), store)
      else
        match choice.database with
        | .works => advanceSampleStage platform choice transaction verified stage store
        | .raises effective => raiseSample choice effective transaction verified stage store

end

/-! ## All requests together -/

structure SampleRequest where
  token : ClaimToken
  workerId : WorkerId
  jobId : JobId
  payload : SampleRegistrationRequest
  sources : SampleSources
  now : Time

section

variable (platform : Platform) (settings : Settings) (sampleMaxBytes : Nat)
  (inspect : String → Option SamplePcmInspection)

/-- The verification of a request, up to its first lock. -/
def launchSample (request : SampleRequest) (store : SampleStore) :
    Option (SamplePhase inspect × SampleStore) :=
  if request.token ∈ store.tokens then none
  else
    let tokens := request.token :: store.tokens
    match verifySample platform settings sampleMaxBytes inspect store.ledger request.workerId
      request.jobId request.payload request.sources request.now with
    | .error error =>
        some (.answered request.token request.payload (.error error), { store with tokens })
    | .ok verified =>
        let transaction : SampleTransaction := ⟨request.token, false⟩
        some (.running transaction verified .verified,
          { store with
            tokens
            locks := store.locks.start transaction })

inductive SampleDisturbance where
  | perform (operation : Operation)
  | abort (transaction : SampleTransaction)

/-- Whether a change of the ledger leaves a locked row as it is. -/
def SampleResource.kept (before after : Ledger) : SampleResource → Bool
  | .leaseRow leaseId => before.leases.find? leaseId = after.leases.find? leaseId
  | .jobRow jobId => before.jobs.find? jobId = after.jobs.find? jobId
  | .attemptRow attemptId => before.attempts.find? attemptId = after.attempts.find? attemptId
  | .workerRow workerId => before.workers.find? workerId = after.workers.find? workerId
  | .registration _ | .identity _ | .primaryKey _ => true

def disturbSamples (disturbance : SampleDisturbance) (store : SampleStore) :
    Option SampleStore :=
  match disturbance with
  | .perform operation =>
      let ledger := perform platform settings store.ledger operation
      if store.locks.held.all fun entry => entry.1.kept store.ledger ledger then
        some { store with ledger }
      else none
  | .abort transaction => some { store with locks := store.locks.close transaction }

def sampleRegistry :
    Workforce SampleStore (SamplePhase inspect) SampleRequest SampleChoice SampleDisturbance where
  launch := launchSample platform settings sampleMaxBytes inspect
  advance := advanceSample platform
  disturb := disturbSamples platform settings

end

end RvcOrchestrator.Manager

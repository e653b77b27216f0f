import RvcOrchestrator.Manager.Accounts
import RvcOrchestrator.Manager.JobConfigs

/-! # The model registry

Candidates of an experiment, the entry that is its champion, and the three requests
that change them. Every request checks its Job and artifacts without locks first and
again behind the fence of the experiment.
-/

namespace RvcOrchestrator.Manager

open RvcOrchestrator.Foundation RvcOrchestrator.Contracts

abbrev ExperimentId := String
abbrev ArtifactId := Nat
abbrev RegistryEntryId := Nat

def rvcReviewedCommit : String := "7ef19867780cf703841ebafb565a4e47d1ea86ff"

/-! ## Candidates -/

structure ArtifactRow where
  jobId : JobId
  attemptId : AttemptId
  artifactType : String
  filename : String
  sizeBytes : Nat
  sha256 : String
  storageUri : String
  metadataJson : Json
deriving DecidableEq

structure CompletedUpload where
  id : Nat
  status : String
  canonicalObjectKey : String
  storageNamespaceSha256 : String
  expectedSizeBytes : Nat
  expectedSha256 : String
deriving DecidableEq

structure VerifiedArtifactBinding where
  artifactId : ArtifactId
  artifact : ArtifactRow
  upload : CompletedUpload
deriving DecidableEq

structure AttemptProvenance where
  engineMode : String
  executionProvenanceVersion : Option String
  rvcCommitHash : Option String
  runtimeImageDigest : Option String
  runtimeAssetManifestSha256 : Option String
deriving DecidableEq

/-- The rest of the Manager as the registry sees it. -/
structure Sources where
  jobs : Table JobId JobRow
  attempts : Table AttemptId AttemptRow
  provenance : AttemptId → AttemptProvenance
  artifactIds : JobId → AttemptId → String → List ArtifactId
  /-- The artifact with its completed upload, if their rows agree with each other and
  with the Job, the attempt, the type and the Worker. -/
  verifiedArtifactBinding : ArtifactId → JobId → AttemptId → String → WorkerId →
    Except HttpError (Option VerifiedArtifactBinding)
  /-- Whether the stored bytes are still those of the ledger. -/
  verifyCurrentArtifactBytes : VerifiedArtifactBinding → Except HttpError Bool
  approvedSampleRuntimeBundles : List (String × String)

structure CandidateContext where
  jobId : JobId
  job : JobRow
  attemptId : AttemptId
  attempt : AttemptRow
  provenance : AttemptProvenance
  model : VerifiedArtifactBinding
  index : Option VerifiedArtifactBinding
  jobConfigSha256 : String
deriving DecidableEq

def registryConflict (detail : String) : HttpError := ⟨409, detail⟩

def binding (sources : Sources) (artifactId : ArtifactId) (jobId : JobId) (attemptId : AttemptId)
    (artifactType : String) (workerId : WorkerId) : Except HttpError VerifiedArtifactBinding :=
  match sources.verifiedArtifactBinding artifactId jobId attemptId artifactType workerId with
  | .error error => .error error
  | .ok none => .error (registryConflict "model registry artifact ledger is inconsistent")
  | .ok (some binding) => .ok binding

def configMatchesJob (config : JobConfig) (job : JobRow) : Bool :=
  config.jobName.1 = job.jobName && config.experimentId.1 = job.experimentId &&
    config.datasetId.1 = job.datasetId && config.training.epochs.1 = job.totalEpoch &&
    config.resource.priority.1 = job.priority &&
    config.rvcBackend.rvcCommitHash.getD rvcReviewedCommit = rvcReviewedCommit

def isCurrentAttempt (job : JobRow) (attemptId : AttemptId) (attempt : AttemptRow) : Bool :=
  job.currentAttemptId = some attemptId && job.status = .completed &&
    job.workerId = some attempt.workerId && job.attemptCount = attempt.attemptNumber

def isEligible (sources : Sources) (experimentId : ExperimentId) (requireCurrent : Bool)
    (jobId : JobId) (job : JobRow) (attemptId : AttemptId) (attempt : AttemptRow)
    (config : JobConfig) : Bool :=
  let provenance := sources.provenance attemptId
  job.experimentId = experimentId && attempt.jobId = jobId && configMatchesJob config job &&
    (!requireCurrent || isCurrentAttempt job attemptId attempt) &&
    attempt.status = .completed &&
    attempt.finishedAt.any (fun finishedAt => attempt.startedAt ≤ finishedAt) &&
    provenance.engineMode = "rvc_webui" &&
    provenance.executionProvenanceVersion = some "worker-claim-v1" &&
    provenance.rvcCommitHash = some rvcReviewedCommit &&
    match provenance.runtimeImageDigest, provenance.runtimeAssetManifestSha256 with
    | some image, some manifest => RuntimeApproved sources.approvedSampleRuntimeBundles image manifest
    | _, _ => false

def notEligible : HttpError := registryConflict "model registry candidate is not eligible"

def candidateContext (platform : Platform) (sources : Sources) (experimentId : ExperimentId)
    (jobId : JobId) (attemptId : AttemptId) (modelArtifactId : ArtifactId)
    (requireCurrent : Bool) : Except HttpError CandidateContext :=
  match sources.jobs.find? jobId, sources.attempts.find? attemptId with
  | some job, some attempt =>
      match validatedJobConfig platform jobId job (some attempt) with
      | .error _ => .error (registryConflict "model registry Job configuration is invalid")
      | .ok config =>
          match job.configSha256 with
          | none => .error notEligible
          | some jobConfigSha256 =>
              if isEligible sources experimentId requireCurrent jobId job attemptId attempt
                  config = false then
                .error notEligible
              else if sources.artifactIds jobId attemptId "final_small_model" ≠
                  [modelArtifactId] then
                .error (registryConflict "model registry final model ledger is ambiguous")
              else
                match binding sources modelArtifactId jobId attemptId "final_small_model"
                    attempt.workerId with
                | .error error => .error error
                | .ok model =>
                    let context index : CandidateContext :=
                      ⟨jobId, job, attemptId, attempt, sources.provenance attemptId, model, index,
                        jobConfigSha256⟩
                    match sources.artifactIds jobId attemptId "final_index" with
                    | [] => .ok (context none)
                    | [indexId] =>
                        match binding sources indexId jobId attemptId "final_index"
                            attempt.workerId with
                        | .error error => .error error
                        | .ok index => .ok (context (some index))
                    | _ => .error (registryConflict "model registry final index ledger is ambiguous")
  | _, _ => .error notEligible

/-- The fields of a context that are fingerprinted. -/
structure ContextDocument where
  job : JobId × ExperimentId × String × JobStatus × Option AttemptId × String
  attempt : AttemptId × JobId × Nat × JobStatus × AttemptProvenance × Option String
  artifacts : List VerifiedArtifactBinding
deriving DecidableEq

def CandidateContext.document (context : CandidateContext) : ContextDocument where
  job := (context.jobId, context.job.experimentId, context.job.jobName, context.job.status,
    context.job.currentAttemptId, context.jobConfigSha256)
  attempt := (context.attemptId, context.attempt.jobId, context.attempt.attemptNumber,
    context.attempt.status, context.provenance, context.attempt.jobConfigSha256)
  artifacts := context.model :: context.index.toList

def verifyContextBytes (sources : Sources) (context : CandidateContext) : Except HttpError Unit :=
  let verify (binding : VerifiedArtifactBinding) : Except HttpError Unit :=
    match sources.verifyCurrentArtifactBytes binding with
    | .error error => .error error
    | .ok true => .ok ()
    | .ok false => .error (registryConflict "model registry artifact bytes do not match ledger")
  match verify context.model with
  | .error error => .error error
  | .ok () =>
      match context.index with
      | none => .ok ()
      | some index => verify index

/-! ## Entries -/

structure ArtifactSnapshot where
  id : ArtifactId
  filename : String
  sizeBytes : Nat
  sha256 : String
deriving DecidableEq

def VerifiedArtifactBinding.snapshot (binding : VerifiedArtifactBinding) : ArtifactSnapshot where
  id := binding.artifactId
  filename := binding.artifact.filename
  sizeBytes := binding.artifact.sizeBytes
  sha256 := binding.artifact.sha256

/-- The columns of an entry that are written once. -/
structure EntrySnapshot where
  sourceJobId : JobId
  sourceAttemptId : AttemptId
  sourceJobName : String
  sourceAttemptNumber : Nat
  jobConfigSha256 : String
  provenance : AttemptProvenance
  model : ArtifactSnapshot
  index : Option ArtifactSnapshot
deriving DecidableEq

def CandidateContext.snapshot (context : CandidateContext) : EntrySnapshot where
  sourceJobId := context.jobId
  sourceAttemptId := context.attemptId
  sourceJobName := context.job.jobName
  sourceAttemptNumber := context.attempt.attemptNumber
  jobConfigSha256 := context.jobConfigSha256
  provenance := context.provenance
  model := context.model.snapshot
  index := context.index.map VerifiedArtifactBinding.snapshot

inductive EntryStatus where
  | candidate
  | approved
  | revoked
deriving DecidableEq, Repr

inductive RevokeReason where
  | qualityRejected
  | securityIssue
  | operatorRequest
deriving DecidableEq, Repr

def RevokeReason.value : RevokeReason → String
  | .qualityRejected => "quality_rejected"
  | .securityIssue => "security_issue"
  | .operatorRequest => "operator_request"

structure ModelRegistryEntry where
  experimentId : ExperimentId
  rowVersion : Nat
  status : EntryStatus
  /-- `active_slot = 1`. -/
  active : Bool
  snapshot : EntrySnapshot
  createdBy : UserId
  approvedBy : Option UserId
  revokedBy : Option UserId
  createdAt : Time
  approvedAt : Option Time
  revokedAt : Option Time
  revokeReason : Option RevokeReason
  updatedAt : Time
deriving DecidableEq

structure ModelRegistryEntryRead where
  id : RegistryEntryId
  experimentId : ExperimentId
  rowVersion : Nat
  status : EntryStatus
  isActive : Bool
  snapshot : EntrySnapshot
  createdAt : Time
  approvedAt : Option Time
  revokedAt : Option Time
  revokeReason : Option RevokeReason
deriving DecidableEq

def entryToRead (entryId : RegistryEntryId) (entry : ModelRegistryEntry) :
    ModelRegistryEntryRead where
  id := entryId
  experimentId := entry.experimentId
  rowVersion := entry.rowVersion
  status := entry.status
  isActive := entry.active
  snapshot := entry.snapshot
  createdAt := entry.createdAt
  approvedAt := entry.approvedAt
  revokedAt := entry.revokedAt
  revokeReason := entry.revokeReason

structure ModelRegistryMutationRead where
  experimentId : ExperimentId
  registryRowVersion : Nat
  activeEntryId : Option RegistryEntryId
  entry : ModelRegistryEntryRead
deriving DecidableEq

structure ExperimentModelRegistry where
  rowVersion : Nat
  updatedAt : Time
deriving DecidableEq

/-! ## Requests -/

structure ModelRegistryCandidateCreate where
  expectedRegistryRowVersion : { version : Nat // version ≤ 2147483647 }
  sourceJobId : JobId
  sourceAttemptId : AttemptId
  modelArtifactId : ArtifactId
deriving DecidableEq

structure ModelRegistryEntryPromote where
  expectedRegistryRowVersion : RowVersion
  expectedEntryRowVersion : RowVersion
deriving DecidableEq

structure ModelRegistryEntryRevoke where
  expectedRegistryRowVersion : RowVersion
  expectedEntryRowVersion : RowVersion
  reasonCode : RevokeReason
deriving DecidableEq

inductive RegistryOperation where
  | candidate (payload : ModelRegistryCandidateCreate)
  | promote (payload : ModelRegistryEntryPromote)
  | revoke (payload : ModelRegistryEntryRevoke)
deriving DecidableEq

inductive RegistryOperationType where
  | candidate
  | promote
  | revoke
deriving DecidableEq, Repr

def RegistryOperationType.value : RegistryOperationType → String
  | .candidate => "candidate"
  | .promote => "promote"
  | .revoke => "revoke"

namespace RegistryOperation

def operationType : RegistryOperation → RegistryOperationType
  | .candidate _ => .candidate
  | .promote _ => .promote
  | .revoke _ => .revoke

def expectedRegistryRowVersion : RegistryOperation → Nat
  | .candidate payload => payload.expectedRegistryRowVersion.1
  | .promote payload => payload.expectedRegistryRowVersion.1
  | .revoke payload => payload.expectedRegistryRowVersion.1

/-- The body. Identifiers are numbers here. -/
def document : RegistryOperation → Json
  | .candidate payload =>
      .object [("expected_registry_row_version", .int payload.expectedRegistryRowVersion.1),
        ("source_job_id", .int payload.sourceJobId),
        ("source_attempt_id", .int payload.sourceAttemptId),
        ("model_artifact_id", .int payload.modelArtifactId)]
  | .promote payload =>
      .object [("expected_registry_row_version", .int payload.expectedRegistryRowVersion.1),
        ("expected_entry_row_version", .int payload.expectedEntryRowVersion.1)]
  | .revoke payload =>
      .object [("expected_registry_row_version", .int payload.expectedRegistryRowVersion.1),
        ("expected_entry_row_version", .int payload.expectedEntryRowVersion.1),
        ("reason_code", .str payload.reasonCode.value)]

def canonical (operation : RegistryOperation) (path : String) : Json :=
  .object [("method", .str "POST"), ("operation_type", .str operation.operationType.value),
    ("path", .str path), ("document", operation.document)]

end RegistryOperation

/-- A request, with the experiment and the entry that its path names, and with what it
draws and reads while it is handled: a new identifier and the clock, once for the
entries and once for the registry. -/
structure RegistryRequest where
  claims : AccessTokenClaims
  expectedActorId : Option UserId
  idempotencyKey : String
  path : String
  experimentId : ExperimentId
  entryId : RegistryEntryId
  operation : RegistryOperation
  newId : RegistryEntryId
  now : Time
  advancedAt : Time
deriving DecidableEq

def RegistryRequest.actorId (request : RegistryRequest) : UserId := request.claims.subject

structure RegistrySecrets (Digest : Type) where
  sha256 : String → Digest
  hmacSha256 : Json → Digest
  canonicalSha256 : ContextDocument → Digest

abbrev ModelRegistryOperation (Digest : Type) :=
  Recorded RegistryOperationType Digest ModelRegistryMutationRead

structure RegistryState (Digest : Type) [DecidableEq Digest] where
  accounts : Accounts Digest
  /-- The experiments with the users who created them. -/
  experiments : Table ExperimentId UserId
  sources : Sources
  registries : Table ExperimentId ExperimentModelRegistry
  entries : Table RegistryEntryId ModelRegistryEntry
  operations : Table (UserId × Digest) (ModelRegistryOperation Digest)

section

variable {Digest : Type} [DecidableEq Digest]

/-! ## Checks -/

def experimentNotFound : HttpError := ⟨404, "experiment not found"⟩

def entryNotFound : HttpError := ⟨404, "model registry entry not found"⟩

def registryChanged : HttpError := registryConflict "model registry changed; refresh and retry"

def requireVisibleExperiment (state : RegistryState Digest) (experimentId : ExperimentId)
    (actorId : UserId) (actor : User) : Except HttpError Unit :=
  match state.experiments.find? experimentId with
  | none => .error experimentNotFound
  | some createdBy =>
      if actor.role ≠ .admin ∧ createdBy ≠ actorId then .error experimentNotFound else .ok ()

def requireRegistryVersion (registry : Option ExperimentModelRegistry) (expected : Nat) :
    Except HttpError Unit :=
  if registry.elim 0 ExperimentModelRegistry.rowVersion ≠ expected then .error registryChanged
  else .ok ()

def requireUnregistered (state : RegistryState Digest) (artifactId : ArtifactId) :
    Except HttpError Unit :=
  if state.entries.rows.any fun row => row.2.snapshot.model.id = artifactId then
    .error (registryConflict "model artifact already has a registry entry")
  else .ok ()

def requireEntry (state : RegistryState Digest) (experimentId : ExperimentId)
    (entryId : RegistryEntryId) (expected : Nat) : Except HttpError ModelRegistryEntry :=
  match state.entries.find? entryId with
  | none => .error entryNotFound
  | some entry =>
      if entry.experimentId ≠ experimentId then .error entryNotFound
      else if entry.rowVersion ≠ expected then
        .error (registryConflict "model registry entry changed; refresh and retry")
      else .ok entry

def requirePromotable (entry : ModelRegistryEntry) : Except HttpError Unit :=
  if entry.status = .revoked then
    .error (registryConflict "revoked model registry entry cannot be promoted")
  else if entry.active then .error (registryConflict "model registry entry is already active")
  else .ok ()

def actorKeyHash (secrets : RegistrySecrets Digest) (request : RegistryRequest) : Digest :=
  secrets.sha256 (request.actorId ++ "\x1f" ++ request.idempotencyKey)

def registryFingerprint (secrets : RegistrySecrets Digest) (request : RegistryRequest) : Digest :=
  secrets.hmacSha256 (request.operation.canonical request.path)

def registryReplay (secrets : RegistrySecrets Digest) (state : RegistryState Digest)
    (request : RegistryRequest) : Replay ModelRegistryMutationRead :=
  replay (state.operations.find? (request.actorId, actorKeyHash secrets request))
    request.operation.operationType (registryFingerprint secrets request)

def registryKeyConflict : HttpError :=
  registryConflict "idempotency key conflicts with a prior model registry request"

def frozenInconsistent : HttpError :=
  registryConflict "model registry frozen snapshot is inconsistent"

/-! ## The reads before the fence -/

abbrev RegistryAnswer := Except HttpError (ModelRegistryMutationRead × Bool)

/-- What a request remembers: the actor as authenticated, the entry it is to promote
and the fingerprint of the context it has verified. -/
structure RegistryMemory (Digest : Type) where
  actor : Option User
  entry : Option ModelRegistryEntry
  fingerprint : Option Digest

abbrev RegistryRead (Digest : Type) [DecidableEq Digest] :=
  RegistryState Digest → RegistryMemory Digest → Except RegistryAnswer (RegistryMemory Digest)

def authenticateActor (request : RegistryRequest) : RegistryRead Digest := fun state memory =>
  match requireUserAuth state.accounts request.claims with
  | .error error => .error (.error error)
  | .ok user =>
      if request.expectedActorId.any (fun expected => expected ≠ request.actorId) then
        .error (.error (registryConflict "authenticated actor changed; reload before retry"))
      else .ok { memory with actor := some user }

def readVisibleExperiment (request : RegistryRequest) : RegistryRead Digest := fun state memory =>
  match memory.actor with
  | none => .error (.error experimentNotFound)
  | some actor =>
      match requireVisibleExperiment state request.experimentId request.actorId actor with
      | .error error => .error (.error error)
      | .ok () => .ok memory

def readReplay (secrets : RegistrySecrets Digest) (request : RegistryRequest) :
    RegistryRead Digest := fun state memory =>
  match registryReplay secrets state request with
  | .conflict => .error (.error registryKeyConflict)
  | .again response => .error (.ok (response, true))
  | .fresh => .ok memory

def readRegistryVersion (request : RegistryRequest) : RegistryRead Digest := fun state memory =>
  match requireRegistryVersion (state.registries.find? request.experimentId)
      request.operation.expectedRegistryRowVersion with
  | .error error => .error (.error error)
  | .ok () => .ok memory

def readUnregistered (artifactId : ArtifactId) : RegistryRead Digest := fun state memory =>
  match requireUnregistered state artifactId with
  | .error error => .error (.error error)
  | .ok () => .ok memory

def readEntry (request : RegistryRequest) (expected : Nat) : RegistryRead Digest :=
  fun state memory =>
    match requireEntry state request.experimentId request.entryId expected with
    | .error error => .error (.error error)
    | .ok entry =>
        match requirePromotable entry with
        | .error error => .error (.error error)
        | .ok () => .ok { memory with entry := some entry }

def preflightContext (platform : Platform) (secrets : RegistrySecrets Digest)
    (request : RegistryRequest) (payload : ModelRegistryCandidateCreate) : RegistryRead Digest :=
  fun state memory =>
    match candidateContext platform state.sources request.experimentId payload.sourceJobId
        payload.sourceAttemptId payload.modelArtifactId true with
    | .error error => .error (.error error)
    | .ok context =>
        match verifyContextBytes state.sources context with
        | .error error => .error (.error error)
        | .ok () => .ok { memory with fingerprint := some (secrets.canonicalSha256 context.document) }

def entryContext (platform : Platform) (state : RegistryState Digest)
    (experimentId : ExperimentId) (entry : ModelRegistryEntry) :
    Except HttpError CandidateContext :=
  candidateContext platform state.sources experimentId entry.snapshot.sourceJobId
    entry.snapshot.sourceAttemptId entry.snapshot.model.id false

def preflightEntryContext (platform : Platform) (secrets : RegistrySecrets Digest)
    (request : RegistryRequest) : RegistryRead Digest := fun state memory =>
  match memory.entry with
  | none => .error (.error entryNotFound)
  | some entry =>
      match entryContext platform state request.experimentId entry with
      | .error error => .error (.error error)
      | .ok context =>
          match verifyContextBytes state.sources context with
          | .error error => .error (.error error)
          | .ok () =>
              if context.snapshot ≠ entry.snapshot then .error (.error frozenInconsistent)
              else
                .ok { memory with fingerprint := some (secrets.canonicalSha256 context.document) }

def registryReads (platform : Platform) (secrets : RegistrySecrets Digest)
    (request : RegistryRequest) : List (RegistryRead Digest) :=
  [authenticateActor request, readVisibleExperiment request, readReplay secrets request] ++
    match request.operation with
    | .candidate payload =>
        [readRegistryVersion request, readUnregistered payload.modelArtifactId,
          preflightContext platform secrets request payload]
    | .promote payload =>
        [readRegistryVersion request, readEntry request payload.expectedEntryRowVersion.1,
          preflightEntryContext platform secrets request]
    | .revoke _ => []

/-! ## Transactions -/

/-- The actor as they are behind the fence of the experiment. -/
def lockExperimentFence (state : RegistryState Digest) (request : RegistryRequest) :
    Except HttpError Unit :=
  if state.experiments.find? request.experimentId = none then .error experimentNotFound
  else
    match state.accounts.users.find? request.actorId with
    | none => .error ⟨401, "invalid or expired access token"⟩
    | some actor =>
        if actor.disabled = true ∨
            actor.accessTokenVersion ≠ request.claims.accessTokenVersion then
          .error ⟨401, "invalid or expired access token"⟩
        else requireVisibleExperiment state request.experimentId request.actorId actor

def activeEntryId (entries : Table RegistryEntryId ModelRegistryEntry)
    (experimentId : ExperimentId) : Option RegistryEntryId :=
  (entries.rows.find? fun row => row.2.experimentId = experimentId && row.2.active).map Prod.fst

/-- Writing the clock into `updated_at` is an update, and counts as a version, only if
it changes the column. -/
def advanceRegistry (registries : Table ExperimentId ExperimentModelRegistry)
    (experimentId : ExperimentId) (now : Time) :
    ExperimentModelRegistry × Table ExperimentId ExperimentModelRegistry :=
  match found : registries.find? experimentId with
  | none => (⟨1, now⟩, registries.insert experimentId ⟨1, now⟩ found)
  | some registry =>
      let advanced : ExperimentModelRegistry :=
        if registry.updatedAt = now then registry else ⟨registry.rowVersion + 1, now⟩
      (advanced, registries.modify experimentId fun _ => advanced)

/-- What a transaction writes: the entry it is about, all entries, and which of them is
active. -/
structure RegistryWrite where
  entryId : RegistryEntryId
  entry : ModelRegistryEntry
  entries : Table RegistryEntryId ModelRegistryEntry
  activeEntryId : Option RegistryEntryId

abbrev RegistryChange := Except HttpError RegistryWrite

def candidateEntry (request : RegistryRequest) (context : CandidateContext) :
    ModelRegistryEntry where
  experimentId := request.experimentId
  rowVersion := 1
  status := .candidate
  active := false
  snapshot := context.snapshot
  createdBy := request.actorId
  approvedBy := none
  revokedBy := none
  createdAt := request.now
  approvedAt := none
  revokedAt := none
  revokeReason := none
  updatedAt := request.now

def createCandidate (platform : Platform) (secrets : RegistrySecrets Digest)
    (state : RegistryState Digest) (request : RegistryRequest)
    (payload : ModelRegistryCandidateCreate) (fingerprint : Option Digest) : RegistryChange :=
  match requireRegistryVersion (state.registries.find? request.experimentId)
      payload.expectedRegistryRowVersion.1 with
  | .error error => .error error
  | .ok () =>
      match requireUnregistered state payload.modelArtifactId with
      | .error error => .error error
      | .ok () =>
          match fingerprint with
          | none => .error (registryConflict "model registry preflight result is unavailable")
          | some verified =>
              match candidateContext platform state.sources request.experimentId
                  payload.sourceJobId payload.sourceAttemptId payload.modelArtifactId true with
              | .error error => .error error
              | .ok context =>
                  if verified ≠ secrets.canonicalSha256 context.document then
                    .error (registryConflict
                      "model registry artifact ledger changed during verification")
                  else if state.entries.rows.any fun row =>
                      row.2.snapshot.model.id = context.snapshot.model.id then
                    .error registryChanged
                  else if fresh : state.entries.find? request.newId = none then
                    let entry := candidateEntry request context
                    let entries := state.entries.insert request.newId entry fresh
                    .ok ⟨request.newId, entry, entries, activeEntryId entries request.experimentId⟩
                  else .error registryChanged

def ModelRegistryEntry.deactivated (entry : ModelRegistryEntry) (now : Time) :
    ModelRegistryEntry :=
  { entry with rowVersion := entry.rowVersion + 1, active := false, updatedAt := now }

def ModelRegistryEntry.promoted (entry : ModelRegistryEntry) (actorId : UserId) (now : Time) :
    ModelRegistryEntry :=
  { entry with
    rowVersion := entry.rowVersion + 1
    status := .approved
    active := true
    approvedBy := if entry.approvedAt = none then some actorId else entry.approvedBy
    approvedAt := if entry.approvedAt = none then some now else entry.approvedAt
    updatedAt := now }

def ModelRegistryEntry.revokedBecause (entry : ModelRegistryEntry) (reason : RevokeReason)
    (actorId : UserId) (now : Time) : ModelRegistryEntry :=
  { entry with
    rowVersion := entry.rowVersion + 1
    status := .revoked
    active := false
    revokedBy := some actorId
    revokedAt := some now
    revokeReason := some reason
    updatedAt := now }

/-- The active entry of the experiment, if there is one, leaves the slot. -/
def vacateSlot (entries : Table RegistryEntryId ModelRegistryEntry)
    (experimentId : ExperimentId) (now : Time) : Table RegistryEntryId ModelRegistryEntry :=
  match activeEntryId entries experimentId with
  | none => entries
  | some previous => entries.modify previous fun entry => entry.deactivated now

def requireRegistry (state : RegistryState Digest) (request : RegistryRequest) :
    Except HttpError Unit :=
  match requireRegistryVersion (state.registries.find? request.experimentId)
      request.operation.expectedRegistryRowVersion with
  | .error error => .error error
  | .ok () =>
      if state.registries.find? request.experimentId = none then .error registryChanged else .ok ()

def promoteEntry (platform : Platform) (secrets : RegistrySecrets Digest)
    (state : RegistryState Digest) (request : RegistryRequest)
    (payload : ModelRegistryEntryPromote) (fingerprint : Option Digest) : RegistryChange :=
  match requireRegistry state request with
  | .error error => .error error
  | .ok () =>
      match requireEntry state request.experimentId request.entryId
          payload.expectedEntryRowVersion.1 with
      | .error error => .error error
      | .ok entry =>
          match requirePromotable entry with
          | .error error => .error error
          | .ok () =>
              match fingerprint with
              | none => .error (registryConflict "model registry preflight result is unavailable")
              | some verified =>
                  match entryContext platform state request.experimentId entry with
                  | .error error => .error error
                  | .ok context =>
                      if verified ≠ secrets.canonicalSha256 context.document ∨
                          context.snapshot ≠ entry.snapshot then
                        .error frozenInconsistent
                      else
                        let promoted := entry.promoted request.actorId request.now
                        let entries := (vacateSlot state.entries request.experimentId
                          request.now).modify request.entryId fun _ => promoted
                        .ok ⟨request.entryId, promoted, entries, some request.entryId⟩

def revokeEntry (state : RegistryState Digest) (request : RegistryRequest)
    (payload : ModelRegistryEntryRevoke) : RegistryChange :=
  match requireRegistry state request with
  | .error error => .error error
  | .ok () =>
      match requireEntry state request.experimentId request.entryId
          payload.expectedEntryRowVersion.1 with
      | .error error => .error error
      | .ok entry =>
          if entry.status = .revoked then
            .error (registryConflict "model registry entry is already revoked")
          else
            let revoked := entry.revokedBecause payload.reasonCode request.actorId request.now
            let entries := state.entries.modify request.entryId fun _ => revoked
            .ok ⟨request.entryId, revoked, entries, activeEntryId entries request.experimentId⟩

def registryChange (platform : Platform) (secrets : RegistrySecrets Digest)
    (state : RegistryState Digest) (request : RegistryRequest) (fingerprint : Option Digest) :
    RegistryChange :=
  match request.operation with
  | .candidate payload => createCandidate platform secrets state request payload fingerprint
  | .promote payload => promoteEntry platform secrets state request payload fingerprint
  | .revoke payload => revokeEntry state request payload

/-- The transaction of a request: fence, replay, change, record. -/
def mutateRegistry (platform : Platform) (secrets : RegistrySecrets Digest)
    (request : RegistryRequest) (memory : RegistryMemory Digest) (state : RegistryState Digest) :
    RegistryAnswer × RegistryState Digest :=
  match lockExperimentFence state request with
  | .error error => (.error error, state)
  | .ok () =>
      match replayed : registryReplay secrets state request with
      | .conflict => (.error registryKeyConflict, state)
      | .again response => (.ok (response, true), state)
      | .fresh =>
          match registryChange platform secrets state request memory.fingerprint with
          | .error error => (.error error, state)
          | .ok write =>
              let advanced :=
                advanceRegistry state.registries request.experimentId request.advancedAt
              let result : ModelRegistryMutationRead :=
                ⟨request.experimentId, advanced.1.rowVersion, write.activeEntryId,
                  entryToRead write.entryId write.entry⟩
              (.ok (result, false),
                { state with
                  registries := advanced.2
                  entries := write.entries
                  operations := state.operations.insert
                    (request.actorId, actorKeyHash secrets request)
                    ⟨request.operation.operationType, registryFingerprint secrets request, result⟩
                    (replay_eq_fresh_iff.mp replayed) })

/-- Whatever else happens to the users, the experiments, the Jobs and the artifacts. -/
structure Surroundings (Digest : Type) [DecidableEq Digest] where
  accounts : Accounts Digest
  experiments : Table ExperimentId UserId
  sources : Sources

def modelRegistry (platform : Platform) (secrets : RegistrySecrets Digest) :
    Service (RegistryState Digest) RegistryRequest (RegistryMemory Digest) RegistryAnswer
      (Surroundings Digest) where
  start _ := ⟨none, none, none⟩
  reads := registryReads platform secrets
  commit := mutateRegistry platform secrets
  disturb surroundings state :=
    { state with
      accounts := surroundings.accounts
      experiments := surroundings.experiments
      sources := surroundings.sources }

def RegistryState.initial (surroundings : Surroundings Digest) : RegistryState Digest where
  accounts := surroundings.accounts
  experiments := surroundings.experiments
  sources := surroundings.sources
  registries := .empty
  entries := .empty
  operations := .empty

end

end RvcOrchestrator.Manager

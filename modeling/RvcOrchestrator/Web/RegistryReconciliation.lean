import RvcOrchestrator.Manager.RegistryEffects

/-! # Reconciling a registry mutation

When the response to a mutation is lost, the browser compares the registry with what it was
when the mutation was asked for.
-/

namespace RvcOrchestrator.Web

open RvcOrchestrator.Foundation RvcOrchestrator.Contracts RvcOrchestrator.Manager

/-! ## Intents -/

structure RegistrySnapshot where
  experimentId : ExperimentId
  registryRowVersion : Nat
  activeEntryId : Option RegistryEntryId
  canManage : Bool
  items : List ModelRegistryEntryRead
  total : Nat

structure RegistryCandidateSource where
  experimentId : ExperimentId
  jobId : JobId
  jobName : String
  attemptId : AttemptId
  attemptNumber : Nat
  model : ArtifactSnapshot
  index : Option ArtifactSnapshot

inductive RegistryMutationAction where
  | register (source : RegistryCandidateSource)
  | promote (entry : ModelRegistryEntryRead)
  | revoke (entry : ModelRegistryEntryRead) (reason : RevokeReason)

structure RegistryMutationIntent where
  actorId : UserId
  baselineFingerprint : String
  expectedRegistryRowVersion : Nat
  experimentId : ExperimentId
  idempotencyKey : String
  action : RegistryMutationAction

/-- How times are written, and how `localeCompare` orders the entries. -/
structure FingerprintText where
  isoformat : Time → String
  precedes : RegistryEntryId → RegistryEntryId → Bool

section

variable (text : FingerprintText)

def optional {Value : Type} (write : Value → Json) (value : Option Value) : Json :=
  value.elim .null write

def identifier (id : Nat) : Json := .int id

def statusText : EntryStatus → String
  | .candidate => "candidate"
  | .approved => "approved"
  | .revoked => "revoked"

def artifactFingerprintValue (artifact : ArtifactSnapshot) : Json :=
  .object [("filename", .str artifact.filename), ("id", identifier artifact.id),
    ("sha256", .str artifact.sha256), ("size_bytes", .int artifact.sizeBytes)]

def entryFingerprintValue (entry : ModelRegistryEntryRead) : Json :=
  let time (at_ : Time) : Json := .str (text.isoformat at_)
  .object [("approved_at", optional time entry.approvedAt), ("created_at", time entry.createdAt),
    ("engine_mode", .str entry.snapshot.provenance.engineMode),
    ("experiment_id", .str entry.experimentId), ("id", identifier entry.id),
    ("index", optional artifactFingerprintValue entry.snapshot.index),
    ("is_active", .bool entry.isActive),
    ("job_config_sha256", .str entry.snapshot.jobConfigSha256),
    ("model", artifactFingerprintValue entry.snapshot.model),
    ("revoke_reason", optional (fun reason => .str (RevokeReason.value reason))
      entry.revokeReason),
    ("revoked_at", optional time entry.revokedAt), ("row_version", .int entry.rowVersion),
    ("runtime_asset_manifest_sha256",
      optional .str entry.snapshot.provenance.runtimeAssetManifestSha256),
    ("runtime_image_digest", optional .str entry.snapshot.provenance.runtimeImageDigest),
    ("rvc_commit_hash", optional .str entry.snapshot.provenance.rvcCommitHash),
    ("source_attempt_id", identifier entry.snapshot.sourceAttemptId),
    ("source_attempt_number", .int entry.snapshot.sourceAttemptNumber),
    ("source_job_id", identifier entry.snapshot.sourceJobId),
    ("source_job_name", .str entry.snapshot.sourceJobName),
    ("status", .str (statusText entry.status))]

def fingerprintDocument (snapshot : RegistrySnapshot) : Json :=
  let items := snapshot.items.mergeSort fun left right => text.precedes left.id right.id
  .object [("active_entry_id", optional identifier snapshot.activeEntryId),
    ("can_manage", .bool snapshot.canManage), ("experiment_id", .str snapshot.experimentId),
    ("items", .array (items.map (entryFingerprintValue text))),
    ("registry_row_version", .int snapshot.registryRowVersion), ("total", .int snapshot.total)]

/-- `JSON.stringify` writes what `json.dumps` writes without spaces. -/
def registrySnapshotFingerprint (snapshot : RegistrySnapshot) : String :=
  String.ofList (fingerprintDocument text snapshot).render

def createIntent (snapshot : RegistrySnapshot) (action : RegistryMutationAction)
    (idempotencyKey : String) (actorId : UserId) : RegistryMutationIntent where
  actorId := actorId
  baselineFingerprint := registrySnapshotFingerprint text snapshot
  expectedRegistryRowVersion := snapshot.registryRowVersion
  experimentId := snapshot.experimentId
  idempotencyKey := idempotencyKey
  action := action

def createRegistryRegisterIntent (snapshot : RegistrySnapshot) (source : RegistryCandidateSource) :
    String → UserId → RegistryMutationIntent :=
  createIntent text snapshot (.register source)

def createRegistryPromoteIntent (snapshot : RegistrySnapshot) (entry : ModelRegistryEntryRead) :
    String → UserId → RegistryMutationIntent :=
  createIntent text snapshot (.promote entry)

def createRegistryRevokeIntent (snapshot : RegistrySnapshot) (entry : ModelRegistryEntryRead)
    (reason : RevokeReason) : String → UserId → RegistryMutationIntent :=
  createIntent text snapshot (.revoke entry reason)

inductive CreatedFrom (snapshot : RegistrySnapshot) : RegistryMutationIntent → Prop
  | register (source : RegistryCandidateSource) (key : String) (actorId : UserId) :
      CreatedFrom snapshot (createRegistryRegisterIntent text snapshot source key actorId)
  | promote (entry : ModelRegistryEntryRead) (key : String) (actorId : UserId) :
      CreatedFrom snapshot (createRegistryPromoteIntent text snapshot entry key actorId)
  | revoke (entry : ModelRegistryEntryRead) (reason : RevokeReason) (key : String)
      (actorId : UserId) :
      CreatedFrom snapshot (createRegistryRevokeIntent text snapshot entry reason key actorId)

/-! ## Reconciliation -/

def registryIntentIsApplied (intent : RegistryMutationIntent) (snapshot : RegistrySnapshot) :
    Bool :=
  if snapshot.experimentId ≠ intent.experimentId then false
  else
    match intent.action with
    | .register source =>
        snapshot.items.any fun entry =>
          entry.snapshot.sourceJobId = source.jobId &&
            entry.snapshot.sourceAttemptId = source.attemptId &&
            entry.snapshot.model.id = source.model.id
    | .promote promoted =>
        snapshot.activeEntryId = some promoted.id &&
          snapshot.items.any fun entry =>
            entry.id = promoted.id && entry.status = .approved && entry.isActive
    | .revoke revoked reason =>
        snapshot.items.any fun entry =>
          entry.id = revoked.id && entry.status = .revoked && entry.revokeReason = some reason &&
            !entry.isActive

inductive RegistryReconciliationState where
  | applied
  | changed
  | unchanged
deriving DecidableEq, Repr

structure RegistryReconciliationResult where
  snapshot : RegistrySnapshot
  state : RegistryReconciliationState

def reconcileRegistryMutation (intent : RegistryMutationIntent) (snapshot : RegistrySnapshot) :
    RegistryReconciliationResult :=
  if registryIntentIsApplied intent snapshot then ⟨snapshot, .applied⟩
  else if snapshot.experimentId = intent.experimentId ∧
      registrySnapshotFingerprint text snapshot = intent.baselineFingerprint then
    ⟨snapshot, .unchanged⟩
  else ⟨snapshot, .changed⟩

end

/-! ## The intent and the Manager -/

def RegistryMutationIntent.effect (intent : RegistryMutationIntent) : RegistryEffect :=
  match intent.action with
  | .register source => .registered source.jobId source.attemptId source.model.id
  | .promote entry => .champion entry.id
  | .revoke entry reason => .revoked entry.id reason

/-- The request is one that `executeRegistryMutationIntent` sends. -/
def RegistryMutationIntent.Sends (intent : RegistryMutationIntent) (request : RegistryRequest) :
    Prop :=
  request.actorId = intent.actorId ∧
    request.idempotencyKey = intent.idempotencyKey ∧
    request.operation.expectedRegistryRowVersion = intent.expectedRegistryRowVersion ∧
    match intent.action, request.operation with
    | .register source, .candidate payload =>
        request.experimentId = source.experimentId ∧ payload.sourceJobId = source.jobId ∧
          payload.sourceAttemptId = source.attemptId ∧ payload.modelArtifactId = source.model.id
    | .promote entry, .promote payload =>
        request.experimentId = intent.experimentId ∧ request.entryId = entry.id ∧
          payload.expectedEntryRowVersion.1 = entry.rowVersion
    | .revoke entry reason, .revoke payload =>
        request.experimentId = intent.experimentId ∧ request.entryId = entry.id ∧
          payload.expectedEntryRowVersion.1 = entry.rowVersion ∧ payload.reasonCode = reason
    | _, _ => False

theorem RegistryMutationIntent.Sends.effect {intent : RegistryMutationIntent}
    {request : RegistryRequest} (sends : intent.Sends request) :
    request.effect = intent.effect := by
  rcases sends with ⟨-, -, -, asks⟩
  unfold RegistryRequest.effect RegistryMutationIntent.effect
  split at asks
  · next source payload isRegister isCandidate =>
      rw [isRegister, isCandidate]
      exact congr (congr (congrArg _ asks.2.1) asks.2.2.1) asks.2.2.2
  · next entry payload isPromote isPromotion =>
      rw [isPromote, isPromotion]
      exact congrArg _ asks.2.1
  · next entry reason payload isRevoke isRevocation =>
      rw [isRevoke, isRevocation]
      exact congr (congrArg _ asks.2.1) asks.2.2.2
  · cases asks

/-- What `fetchModelRegistrySnapshot` returns. -/
def RegistrySnapshot.fetched (experimentId : ExperimentId) (snapshot : ModelRegistrySnapshot) :
    RegistrySnapshot where
  experimentId := experimentId
  registryRowVersion := snapshot.expected.registryRowVersion
  activeEntryId := snapshot.expected.activeEntryId
  canManage := snapshot.expected.canManage
  items := snapshot.items
  total := snapshot.expected.total

section

variable {Digest : Type} [DecidableEq Digest] {text : FingerprintText}
  {state before after : RegistryState Digest} {experimentId : ExperimentId}
  {intent : RegistryMutationIntent}

def snapshotOf (state : RegistryState Digest) (experimentId : ExperimentId) : RegistrySnapshot :=
  .fetched experimentId (registryView state experimentId).snapshot

theorem mem_snapshotOf {entry : ModelRegistryEntryRead} :
    entry ∈ (snapshotOf state experimentId).items ↔
      ∃ row ∈ state.entries.rows.filter (fun row => row.2.experimentId = experimentId),
        entryToRead row.1 row.2 = entry := by
  have sorted : (registryView state experimentId).sorted.Perm
      (state.entries.rows.filter fun row => row.2.experimentId = experimentId) :=
    List.perm_insertionSort NewerOrSame _
  constructor
  · intro member
    rcases List.mem_map.mp member with ⟨row, rowMember, same⟩
    exact ⟨row, sorted.mem_iff.mp rowMember, same⟩
  · rintro ⟨row, rowMember, same⟩
    exact List.mem_map.mpr ⟨row, sorted.mem_iff.mpr rowMember, same⟩

theorem any_snapshotOf {test : ModelRegistryEntryRead → Bool} :
    (snapshotOf state experimentId).items.any test = true ↔
      ∃ entryId entry, state.entries.find? entryId = some entry ∧
        entry.experimentId = experimentId ∧ test (entryToRead entryId entry) = true := by
  rw [List.any_eq_true]
  constructor
  · rintro ⟨_, member, passes⟩
    rcases mem_snapshotOf.mp member with ⟨⟨entryId, entry⟩, rowMember, rfl⟩
    rcases List.mem_filter.mp rowMember with ⟨stored, here⟩
    exact ⟨entryId, entry, state.entries.mem_rows_iff.mp stored, of_decide_eq_true here, passes⟩
  · rintro ⟨entryId, entry, found, here, passes⟩
    exact ⟨_, mem_snapshotOf.mpr ⟨(entryId, entry), List.mem_filter.mpr
      ⟨state.entries.mem_rows_iff.mpr found, decide_eq_true here⟩, rfl⟩, passes⟩

theorem activeEntryId_snapshotOf (state : RegistryState Digest) (experimentId : ExperimentId) :
    (snapshotOf state experimentId).activeEntryId =
      activeEntryId state.entries experimentId := by
  simp only [snapshotOf, RegistrySnapshot.fetched, RegistryView.snapshot,
    RegistryView.activeEntryId, RegistryView.activeRow, registryView, activeEntryId,
    List.find?_filter, Bool.decide_and, Bool.decide_eq_true]

/-- The browser takes an intent for applied exactly if its effect holds. -/
theorem registryIntentIsApplied_iff (sound : ChampionsSound state.entries) :
    registryIntentIsApplied intent (snapshotOf state intent.experimentId) = true ↔
      intent.effect.Holds intent.experimentId state.entries := by
  have here : (snapshotOf state intent.experimentId).experimentId = intent.experimentId := rfl
  rw [registryIntentIsApplied, if_neg (not_not_intro here), RegistryMutationIntent.effect]
  cases intent.action with
  | register source =>
      simp only [any_snapshotOf, Bool.and_eq_true, decide_eq_true_eq, and_assoc]
      rfl
  | promote promoted =>
      simp only [Bool.and_eq_true, decide_eq_true_eq, any_snapshotOf,
        activeEntryId_snapshotOf, and_assoc]
      constructor
      · exact And.right
      · rintro ⟨entryId, entry, found, ofExperiment, rfl, approved, active⟩
        exact ⟨sound.activeEntryId_eq_some_iff.mpr ⟨entry, found, ofExperiment, active⟩,
          promoted.id, entry, found, ofExperiment, rfl, approved, active⟩
  | revoke revoked reason =>
      simp only [any_snapshotOf, Bool.and_eq_true, decide_eq_true_eq, Bool.not_eq_true', and_assoc]
      rfl

/-! ## Fingerprints -/

theorem entryFingerprintValue_eq {left right : ModelRegistryEntryRead}
    (same : entryFingerprintValue text left = entryFingerprintValue text right) :
    left.id = right.id ∧ left.rowVersion = right.rowVersion := by
  simp only [entryFingerprintValue, identifier, Json.object.injEq, List.cons.injEq,
    Prod.mk.injEq, true_and, Json.int.injEq, Nat.cast_inj] at same
  exact ⟨same.2.2.2.2.1, by omega⟩

/-- Snapshots with one fingerprint have the same entries in the same versions. -/
theorem rowVersion_of_fingerprint {left right : RegistrySnapshot}
    (same : registrySnapshotFingerprint text left = registrySnapshotFingerprint text right)
    {entry : ModelRegistryEntryRead} (member : entry ∈ left.items) :
    ∃ other ∈ right.items, other.id = entry.id ∧ other.rowVersion = entry.rowVersion := by
  have rendered : (fingerprintDocument text left).render ++ [] =
      (fingerprintDocument text right).render ++ [] :=
    congrArg (· ++ []) (String.ofList_injective same)
  have stops : Json.Stops [] := by simp [Json.Stops]
  have document := (Json.render_injective stops stops rendered).1
  simp only [fingerprintDocument, Json.object.injEq, List.cons.injEq, Prod.mk.injEq, true_and,
    Json.array.injEq] at document
  have items := document.2.2.2.1
  have written : entryFingerprintValue text entry ∈ (left.items.mergeSort fun left right =>
      text.precedes left.id right.id).map (entryFingerprintValue text) :=
    List.mem_map_of_mem (List.mem_mergeSort.mpr member)
  rw [items] at written
  rcases List.mem_map.mp written with ⟨other, otherMember, sameValue⟩
  exact ⟨other, List.mem_mergeSort.mp otherMember, entryFingerprintValue_eq sameValue⟩

theorem not_renewed_of_fingerprint
    (same : registrySnapshotFingerprint text (snapshotOf after experimentId) =
      registrySnapshotFingerprint text (snapshotOf before experimentId)) :
    ¬EntryRenewed experimentId before.entries after.entries := by
  rintro ⟨entryId, later, found, here, newer⟩
  have member : entryToRead entryId later ∈ (snapshotOf after experimentId).items :=
    mem_snapshotOf.mpr ⟨(entryId, later), List.mem_filter.mpr
      ⟨after.entries.mem_rows_iff.mpr found, decide_eq_true here⟩, rfl⟩
  rcases rowVersion_of_fingerprint same member with ⟨other, otherMember, sameId, sameVersion⟩
  rcases mem_snapshotOf.mp otherMember with ⟨⟨otherId, entry⟩, rowMember, rfl⟩
  have stored := before.entries.mem_rows_iff.mp (List.mem_filter.mp rowMember).1
  rcases (show otherId = entryId from sameId) with rfl
  exact absurd sameVersion (Nat.ne_of_lt (newer entry stored))

/-! ## Soundness -/

theorem CreatedFrom.fingerprint {snapshot : RegistrySnapshot}
    (created : CreatedFrom text snapshot intent) :
    intent.experimentId = snapshot.experimentId ∧
      intent.baselineFingerprint = registrySnapshotFingerprint text snapshot := by
  cases created with
  | register source key actorId => exact ⟨rfl, rfl⟩
  | promote entry key actorId => exact ⟨rfl, rfl⟩
  | revoke entry reason key actorId => exact ⟨rfl, rfl⟩

theorem reconcile_eq_applied_iff {snapshot : RegistrySnapshot} :
    (reconcileRegistryMutation text intent snapshot).state = .applied ↔
      registryIntentIsApplied intent snapshot = true := by
  unfold reconcileRegistryMutation
  by_cases applied : registryIntentIsApplied intent snapshot = true
  · rw [if_pos applied]
    exact ⟨fun _ => applied, fun _ => rfl⟩
  · rw [if_neg applied]
    refine ⟨?_, fun now => absurd now applied⟩
    intro same
    split at same
    · cases same
    · cases same

theorem fingerprint_of_unchanged {snapshot : RegistrySnapshot}
    (unchanged : (reconcileRegistryMutation text intent snapshot).state = .unchanged) :
    registrySnapshotFingerprint text snapshot = intent.baselineFingerprint := by
  unfold reconcileRegistryMutation at unchanged
  split at unchanged
  · cases unchanged
  · split at unchanged
    · next same => exact same.2
    · cases unchanged

structure Reconciles (text : FingerprintText) (intent : RegistryMutationIntent)
    (before after : RegistryServing Digest) (outcome : RegistryReconciliationState) : Prop where
  unchanged : outcome = .unchanged → committedBetween before after intent.experimentId = []
  applied : ∀ request,
    (committedBetween before after intent.experimentId).getLast? = some request →
      intent.Sends request → outcome = .applied
  /-- The registry is as asked for, and a mutation that asks for the same has made it so. -/
  asked : outcome = .applied →
    intent.effect.Holds intent.experimentId after.state.entries ∧
      ∃ request ∈ committedBetween before after intent.experimentId,
        request.effect = intent.effect
  told : ∀ request ∈ committedBetween before after intent.experimentId,
    intent.Sends request → outcome ≠ .unchanged

/-- For every intent whose effect does not hold yet, and whatever happens until the registry is
read again: the browser takes it for unchanged only if no mutation was committed, for applied if
the intent's own was the last one, and only if the registry is as the intent asks for. -/
theorem reconcileRegistryMutation_sound (platform : Platform) (secrets : RegistrySecrets Digest)
    (surroundings : Surroundings Digest) (earlier later : List (RegistryEvent Digest)) :
    let before := run (modelRegistry platform secrets).step
      (.initial (.initial surroundings)) earlier
    let after := run (modelRegistry platform secrets).step before later
    before.state.sources.Keyed →
    Along (modelRegistry platform secrets).step KeyedSources before later →
    ∀ (text : FingerprintText) (experimentId : ExperimentId) (intent : RegistryMutationIntent),
      CreatedFrom text (snapshotOf before.state experimentId) intent →
      ¬intent.effect.Holds experimentId before.state.entries →
      Reconciles text intent before after
        (reconcileRegistryMutation text intent (snapshotOf after.state experimentId)).state := by
  intro before after keyed keyedEvents text experimentId intent created notYet
  have belongs : (modelRegistry platform secrets).Belongs before := by
    apply run_preserves
    · intro serving event belongs
      exact belongs.step event
    · simp [Service.Belongs, Service.Serving.initial]
  have empty : ChampionsSound (RegistryState.initial surroundings).entries := by
    constructor
    · intro _ _ _ _ found
      cases found
    · intro _ _ found
      cases found
    · intro _ _ _ _ found
      cases found
  have sound : ChampionsSound before.state.entries :=
    (championsSound_run platform secrets (.initial (.initial surroundings)) earlier empty).1
  have soundAfter : ChampionsSound after.state.entries :=
    (championsSound_run platform secrets before later sound).1
  rcases created.fingerprint with ⟨rfl, baseline⟩
  have since := since_run belongs sound keyed keyedEvents intent.experimentId
  have unchanged : (reconcileRegistryMutation text intent
      (snapshotOf after.state intent.experimentId)).state = .unchanged →
        committedBetween before after intent.experimentId = [] := by
    intro outcome
    by_contra some
    have same := fingerprint_of_unchanged outcome
    rw [baseline] at same
    exact not_renewed_of_fingerprint same (since.renewed some)
  constructor
  case unchanged => exact unchanged
  case applied =>
    intro request isLast sends
    rw [reconcile_eq_applied_iff, registryIntentIsApplied_iff soundAfter, ← sends.effect]
    exact since.last request isLast
  case asked =>
    intro outcome
    rw [reconcile_eq_applied_iff, registryIntentIsApplied_iff soundAfter] at outcome
    rcases since.only _ outcome with held | made
    · exact absurd held notYet
    · exact ⟨outcome, made⟩
  case told =>
    intro request member sends outcome
    rw [unchanged outcome] at member
    cases member

end

/-! ## A lost response -/

def sampleText : FingerprintText where
  isoformat at_ := toString at_
  precedes left right := left ≤ right

def lostRegistration : RegistryMutationIntent :=
  createRegistryRegisterIntent sampleText (snapshotOf sampleState completedJob.experimentId)
    ⟨completedJob.experimentId, 1, "voice-1", 1, 1, ⟨7, "voice-1.pth", 8, "3"⟩, none⟩ "key-1" "ada"

theorem keyed_sampleSources : sampleSources.Keyed := by
  intro artifactId jobId attemptId artifactType workerId binding found
  cases found
  rfl

theorem keyedSources_overlap (serving : RegistryServing SampleDigest) :
    Along sampleService.step KeyedSources serving overlap := by
  refine ⟨?_, ?_, ?_, ?_, ?_, ?_, ?_, ?_, ?_, ?_, ?_, ?_, ?_, trivial⟩
  all_goals
    intro _ same
    cases same

theorem reconcile_lostRegistration :
    Along sampleService.step KeyedSources (.initial sampleState) overlap ∧
    (reconcileRegistryMutation sampleText lostRegistration
      (snapshotOf (run sampleService.step (.initial sampleState) overlap).state
        completedJob.experimentId)).state = .applied := by
  rcases answers_overlap with ⟨result, answers⟩
  have last : (committedBetween (.initial sampleState)
      (run sampleService.step (.initial sampleState) overlap)
      lostRegistration.experimentId).getLast? = some nomination := by
    rw [committedBetween, answers]
    rfl
  have notYet : ¬lostRegistration.effect.Holds completedJob.experimentId
      sampleState.entries := by
    rintro ⟨_, _, found, -⟩
    cases found
  have reconciles := reconcileRegistryMutation_sound samplePlatform registrySecrets
    sampleSurroundings [] overlap keyed_sampleSources (keyedSources_overlap _) sampleText
    completedJob.experimentId lostRegistration (.register _ _ _) notYet
  exact ⟨keyedSources_overlap _, reconciles.applied nomination last ⟨rfl, rfl, rfl, rfl, rfl, rfl, rfl⟩⟩

end RvcOrchestrator.Web

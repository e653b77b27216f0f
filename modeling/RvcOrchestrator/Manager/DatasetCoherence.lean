import RvcOrchestrator.Manager.DatasetObjects

/-! # Dataset uploads: what holds between the moves

A finalization that still has its claim finds what it has published. A published dataset has
its four objects, because whoever could remove them has lost its claim or works on sessions
that are over.
-/

namespace RvcOrchestrator.Manager

open RvcOrchestrator.Foundation RvcOrchestrator.Contracts

section

variable {Content : Type} (sizeBytes : Content → Nat) (sha256 : Content → String)
  (settings : DatasetSettings)

/-! ## Phases -/

/-- The roles that are published before this one, the last first. -/
def CanonicalRole.before : CanonicalRole → List CanonicalRole
  | original => []
  | preparedFlat => [original]
  | manifest => [preparedFlat, original]
  | qualityReport => [manifest, preparedFlat, original]

theorem CanonicalRole.before_of_next {role next : CanonicalRole}
    (follows : role.next? = some next) : next.before = role :: role.before := by
  cases role <;> cases follows <;> rfl

theorem CanonicalRole.all_of_last {role : CanonicalRole} (last : role.next? = none)
    (other : CanonicalRole) : other ∈ role :: role.before := by
  cases role <;> cases last
  cases other <;> simp [before]

namespace DatasetFinalizePhase

def owned : DatasetFinalizePhase Content → Option DatasetReservation
  | requested | answered _ => none
  | starting owned _ _ | operating owned _ _ | operated owned _ _ | cleaning owned _ _ _
  | failing owned _ _ _ _ _ | committing owned _ _ _ | recovering owned _ _ _ _
  | removingStaging owned _ _ | marking owned => some owned

def committed : DatasetFinalizePhase Content → Bool
  | recovering _ _ _ afterCommit _ => afterCommit
  | removingStaging .. | marking _ => true
  | _ => false

def Orderly : DatasetFinalizePhase Content → Prop
  | starting _ (.publish _ _ role) published | operating _ (.publish _ _ role) published =>
      published = role.before
  | operated _ (.published _ _ role) published => published = role :: role.before
  | operated _ (.failed failure) published =>
      failure = .storage ∨ failure = .other ∨ published = []
  | starting _ _ published | operating _ _ published | operated _ _ published
  | failing _ _ _ _ published _ => published = []
  | committing _ _ _ published => ∀ role, role ∈ published
  | _ => True

def verified? : DatasetFinalizePhase Content → Option Content
  | starting _ (.prepare verified) _ | operating _ (.prepare verified) _
  | starting _ (.publish verified _ _) _ | operating _ (.publish verified _ _) _
  | operated _ (.verified verified) _ | operated _ (.prepared verified _) _
  | operated _ (.published verified _ _) _ | committing _ verified _ _ => some verified
  | _ => none

def stored? : DatasetFinalizePhase Content →
    Option (Content × DatasetSnapshot Content × List CanonicalRole)
  | starting _ (.publish verified snapshot _) published
  | operating _ (.publish verified snapshot _) published
  | operated _ (.published verified snapshot _) published
  | committing _ verified snapshot published => some (verified, snapshot, published)
  | _ => none

end DatasetFinalizePhase

def LocalUploadPhase.owned : LocalUploadPhase → Option DatasetReservation
  | requested | answered _ => none
  | startWriting owned | writing owned | wrote owned _ | sealing owned | timingOut owned
  | cleaning owned _ _ | clearing owned _ => some owned.toDatasetReservation

namespace DatasetPhase

def name : DatasetPhase Content → Option ClaimToken
  | writer _ token _ | finalizer _ token _ => some token
  | initializer .. | presigned .. | deleter .. => none

def recording : DatasetPhase Content → Option (DatasetSnapshot Content)
  | finalizer _ _ phase => phase.recording
  | _ => none

end DatasetPhase

/-! ## What holds of a process -/

/-- The upload is the one that the process has claimed, and nobody else claims it. -/
structure DatasetStore.Holds (store : DatasetStore Content) (uploadId : UploadId)
    (token : ClaimToken) (owned : DatasetReservation) : Prop where
  drawn : uploadId ∈ store.uploads
  keys : owned.KeysValid uploadId
  reservation : ∀ row, store.sessions uploadId = some row → row.toDatasetReservation = owned
  claim : ∀ row, store.sessions uploadId = some row →
    row.status ≠ .pending ∧ (row.status = .finalizing → row.finalizationToken = some token)

structure DatasetFinalizePhase.Fits (store : DatasetStore Content) (uploadId : UploadId)
    (token : ClaimToken) (phase : DatasetFinalizePhase Content) : Prop where
  holds : ∀ owned, phase.owned = some owned → store.Holds uploadId token owned
  orderly : phase.Orderly
  uncompleted : phase.owned ≠ none → phase.committed = false →
    ∀ row, store.sessions uploadId = some row → row.status ≠ .completed
  verified : ∀ owned content, phase.owned = some owned → phase.verified? = some content →
    sizeBytes content = owned.expectedSizeBytes ∧ sha256 content = owned.expectedSha256
  stored : ∀ owned verified snapshot roles row, phase.owned = some owned →
    phase.stored? = some (verified, snapshot, roles) → store.sessions uploadId = some row →
    row.status = .finalizing →
    ∀ role ∈ roles, store.objects (owned.canonicalObjectKey role) =
      some (snapshot.content verified role)

/-- A session whose objects may be deleted is over, and so is its dataset if it was
completed. -/
def DatasetStore.Discarded (store : DatasetStore Content) (uploadId : UploadId) : Prop :=
  uploadId ∈ store.uploads ∧ ∀ row, store.sessions uploadId = some row →
    row.status.Terminal ∧ (row.status = .completed →
      ∃ dataset, store.datasets row.datasetId = some dataset ∧ dataset.Deleting)

def DatasetPhase.Fits (store : DatasetStore Content) : DatasetPhase Content → Prop
  | .initializer request phase => phase.Fits store request
  | .writer request _ phase => ∀ owned, phase.owned = some owned →
      owned.temporaryObjectKey = datasetTemporaryObjectKey owned.datasetId request.uploadId
  | .presigned key _ => ∃ datasetId uploadId, key = datasetTemporaryObjectKey datasetId uploadId
  | .finalizer request token phase => phase.Fits sizeBytes sha256 store request.uploadId token
  | .deleter _ (.deleting remaining _) => ∀ key ∈ remaining, store.Discarded key.uploadId
  | .deleter _ _ => True

/-! ## What holds of the store -/

/-- The row records the size, where it has a column for it, and the SHA-256. -/
def Dataset.Records (dataset : Dataset) (role : CanonicalRole) (content : Content) : Prop :=
  dataset.recordedSha256 role = some (sha256 content) ∧
    (role = .original ∨ role = .preparedFlat →
      dataset.recordedSizeBytes role = some (sizeBytes content))

/-- The completed session of a published dataset, with its four objects. -/
def DatasetStore.Publishes (store : DatasetStore Content) (datasetId : DatasetId)
    (dataset : Dataset) : Prop :=
  ∃ uploadId row, store.sessions uploadId = some row ∧ row.datasetId = datasetId ∧
    row.status = .completed ∧ ∀ role, ∃ content,
      store.objects (row.canonicalObjectKey role) = some content ∧
        dataset.Records sizeBytes sha256 role content

structure DatasetStore.Coherent (store : DatasetStore Content) : Prop where
  sound : store.Sound settings
  grants : ∀ grant ∈ store.grants, ∃ datasetId uploadId,
    grant.key = datasetTemporaryObjectKey datasetId uploadId
  published : ∀ datasetId dataset, store.datasets datasetId = some dataset →
    dataset.Published → store.Publishes sizeBytes sha256 datasetId dataset

theorem DatasetStore.Coherent.empty :
    (DatasetStore.empty : DatasetStore Content).Coherent sizeBytes sha256 settings where
  sound := .empty settings
  grants _ member := nomatch member
  published _ _ found := nomatch found

variable {sizeBytes sha256 settings} {storage : StorageIdentity}
  {store after : DatasetStore Content}

/-! ## Who may touch which objects -/

theorem canonicalObjectKey_eq {row : DatasetReservation} {uploadId : UploadId}
    (valid : row.KeysValid uploadId) (role : CanonicalRole) :
    row.canonicalObjectKey role =
      datasetVerifiedObjectKey row.datasetId uploadId (datasetExtension row.filename) role :=
  valid.2 role (mem_canonicalRoles role)

theorem canonicalObjectKey_ne_staging {row : DatasetReservation} {uploadId : UploadId}
    (valid : row.KeysValid uploadId) (role : CanonicalRole) (datasetId : DatasetId)
    (otherId : UploadId) :
    row.canonicalObjectKey role ≠ datasetTemporaryObjectKey datasetId otherId := by
  rw [canonicalObjectKey_eq valid]
  exact datasetVerifiedObjectKey_ne_temporary _ _ _ _ _ _

theorem uploadId_canonicalObjectKey {row : DatasetReservation} {uploadId : UploadId}
    (valid : row.KeysValid uploadId) (role : CanonicalRole) :
    (row.canonicalObjectKey role).uploadId = uploadId := by
  rw [canonicalObjectKey_eq valid]
  exact uploadId_verifiedObjectKey ..

/-- Sessions share no canonical object. -/
theorem uploadId_of_canonicalObjectKey_eq {row other : DatasetReservation}
    {uploadId otherId : UploadId} (valid : row.KeysValid uploadId)
    (otherValid : other.KeysValid otherId) {role otherRole : CanonicalRole}
    (same : row.canonicalObjectKey role = other.canonicalObjectKey otherRole) :
    uploadId = otherId := by
  have sameId := congrArg DatasetObjectKey.uploadId same
  rwa [uploadId_canonicalObjectKey valid, uploadId_canonicalObjectKey otherValid] at sameId

theorem canonicalObjectKey_injective {row : DatasetReservation} {uploadId : UploadId}
    (valid : row.KeysValid uploadId) {role other : CanonicalRole}
    (same : row.canonicalObjectKey role = row.canonicalObjectKey other) : role = other := by
  rw [canonicalObjectKey_eq valid, canonicalObjectKey_eq valid] at same
  exact datasetVerifiedObjectKey_injective same

/-- The objects of the session are out of the reach of the process: the session is pending or
completed, or another process finalizes it. -/
def DatasetPhase.Spares (store : DatasetStore Content) (phase : DatasetPhase Content)
    (row : DatasetUploadSession) : Prop :=
  row.status = .pending ∨
    (row.status = .completed ∧ ∀ request deletion, phase = .deleter request deletion →
      ∀ dataset, store.datasets row.datasetId = some dataset → ¬dataset.Deleting) ∨
    row.status = .finalizing ∧ phase.name ≠ row.finalizationToken

theorem untouched_of_spares (sound : store.Sound settings) {phase : DatasetPhase Content}
    (fits : phase.Fits sizeBytes sha256 store) {uploadId : UploadId} {row : DatasetUploadSession}
    (found : store.sessions uploadId = some row) (spares : phase.Spares store row)
    (role : CanonicalRole) : ¬phase.Touches store (row.canonicalObjectKey role) := by
  have valid := sound.keysValid uploadId row found
  have staging {key : DatasetObjectKey} (isStaging : ∃ datasetId stagingId,
      key = datasetTemporaryObjectKey datasetId stagingId)
      (same : row.canonicalObjectKey role = key) : False := by
    rcases isStaging with ⟨datasetId, stagingId, rfl⟩
    exact canonicalObjectKey_ne_staging valid role datasetId stagingId same
  intro touches
  cases phase with
  | initializer request phase => exact touches
  | writer request token phase =>
      cases phase with
      | writing owned => exact staging ⟨_, _, fits _ rfl⟩ touches
      | cleaning owned clears answer => exact staging ⟨_, _, fits _ rfl⟩ touches
      | _ => exact touches
  | presigned key content => exact staging fits touches.1
  | finalizer request token phase =>
      -- A finalizer that touches the object would be at work on this session.
      have own (owned : DatasetReservation) (claimed : phase.owned = some owned)
          {other : CanonicalRole}
          (same : row.canonicalObjectKey role = owned.canonicalObjectKey other) :
          store.sessions request.uploadId = some row ∧ row.status ≠ .pending ∧
            (row.status = .finalizing → row.finalizationToken = some token) := by
        have holds := fits.holds owned claimed
        have ownRow : store.sessions request.uploadId = some row := by
          rw [← uploadId_of_canonicalObjectKey_eq valid holds.keys same]
          exact found
        exact ⟨ownRow, holds.claim row ownRow⟩
      have removes (uncompleted : row.status ≠ .completed)
          (claim : row.status ≠ .pending ∧
            (row.status = .finalizing → row.finalizationToken = some token)) : False := by
        rcases spares with pending | ⟨completed, -⟩ | ⟨finalizing, other⟩
        · exact claim.1 pending
        · exact uncompleted completed
        · exact other (claim.2 finalizing).symm
      cases phase with
      | operating owned task published =>
          cases task with
          | publish verified snapshot publishing =>
              have claim := own owned rfl touches.1
              exact removes (fits.uncompleted (Option.some_ne_none owned) rfl row claim.1) claim.2
          | _ => exact touches
      | cleaning owned remaining succeeded reason =>
          rcases touches with ⟨other, -, same⟩
          have claim := own owned rfl same
          exact removes (fits.uncompleted (Option.some_ne_none owned) rfl row claim.1) claim.2
      | failing owned failureCode retryable cleanupTemporary published answer =>
          rcases touches with ⟨other, otherFound, same⟩
          exact staging ⟨_, _, (sound.keysValid request.uploadId other otherFound).1⟩ same
      | recovering owned failureCode published afterCommit cancelled =>
          rcases touches with ⟨⟨other, -, same⟩, current, currentFound, uncompleted, -⟩
          have claim := own owned rfl same
          rcases Option.some.inj (currentFound.symm.trans claim.1) with rfl
          exact removes uncompleted claim.2
      | removingStaging owned recovered cancelled =>
          exact staging ⟨_, _, (fits.holds owned rfl).keys.1⟩ touches
      | _ => exact touches
  | deleter request phase =>
      cases phase with
      | deleting remaining succeeded =>
          have discarded := (fits _ touches).2 row
          rw [uploadId_canonicalObjectKey valid] at discarded
          rcases discarded found with ⟨terminal, deleting⟩
          rcases spares with pending | ⟨completed, undeleted⟩ | ⟨finalizing, -⟩
          · exact terminal.not_active (.inl pending)
          · rcases deleting completed with ⟨dataset, parent, begun⟩
            exact undeleted request _ rfl dataset parent begun
          · exact terminal.not_active (.inr finalizing)
      | _ => exact touches

/-- A move leaves the objects of the sessions that it spares as they are. -/
theorem objects_of_spares {prepare : DatasetPreparation Content} (choice : DatasetChoice)
    (sound : store.Sound settings) {phase : DatasetPhase Content}
    (fits : phase.Fits sizeBytes sha256 store) {uploadId : UploadId} {row : DatasetUploadSession}
    (found : store.sessions uploadId = some row) (spares : phase.Spares store row)
    (role : CanonicalRole) :
    (advanceDatasetProcess sizeBytes sha256 settings storage prepare choice phase
      store).2.objects (row.canonicalObjectKey role) =
        store.objects (row.canonicalObjectKey role) :=
  advance_objects choice (untouched_of_spares sound fits found spares role)

end

end RvcOrchestrator.Manager

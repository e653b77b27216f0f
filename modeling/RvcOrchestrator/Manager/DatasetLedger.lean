import RvcOrchestrator.Manager.DatasetFinalization

/-! # Dataset uploads: the rows over time

What one move may do to the rows of datasets and sessions, and what holds of the rows in
every state: the generations of a dataset follow each other, all but the last are expired,
and the active sessions of an owner stay within the quotas.
-/

namespace RvcOrchestrator.Manager

open RvcOrchestrator.Foundation RvcOrchestrator.Contracts

/-! ## Moves of the rows -/

/-- What a move by the process with the token `actor` makes of the row of a session. -/
inductive SessionBecomes (actor : Option ClaimToken) (row : DatasetUploadSession) :
    DatasetUploadSession → Prop
  | keeps {next : DatasetUploadSession}
      (reservation : next.toDatasetReservation = row.toDatasetReservation)
      (status : next.status = row.status)
      (token : row.status = .finalizing → next.finalizationToken = row.finalizationToken)
      (uncleaned : row.status.Active → next.cleanupCompletedAt = row.cleanupCompletedAt) :
      SessionBecomes actor row next
  | expires {next : DatasetUploadSession}
      (reservation : next.toDatasetReservation = row.toDatasetReservation)
      (active : row.status.Active) (status : next.status = .expired) :
      SessionBecomes actor row next
  | claims {next : DatasetUploadSession} {token : ClaimToken}
      (reservation : next.toDatasetReservation = row.toDatasetReservation)
      (pending : row.status = .pending) (status : next.status = .finalizing)
      (claimed : next.finalizationToken = some token) (own : actor = some token)
      (uncleaned : next.cleanupCompletedAt = row.cleanupCompletedAt) :
      SessionBecomes actor row next
  | ends {next : DatasetUploadSession} {token : ClaimToken}
      (reservation : next.toDatasetReservation = row.toDatasetReservation)
      (finalizing : row.status = .finalizing) (held : row.finalizationToken = some token)
      (own : actor = some token)
      (status : next.status = .pending ∨ next.status = .failed ∨ next.status = .completed)
      (uncleaned : next.cleanupCompletedAt = row.cleanupCompletedAt) :
      SessionBecomes actor row next

namespace SessionBecomes

variable {actor : Option ClaimToken} {row next : DatasetUploadSession}

theorem reservation (becomes : SessionBecomes actor row next) :
    next.toDatasetReservation = row.toDatasetReservation := by
  cases becomes <;> assumption

theorem same (actor : Option ClaimToken) (row : DatasetUploadSession) :
    SessionBecomes actor row row :=
  .keeps rfl rfl (fun _ => rfl) fun _ => rfl

/-- A status that is terminal stays. -/
theorem terminal (becomes : SessionBecomes actor row next) (terminal : row.status.Terminal) :
    next.status = row.status := by
  cases becomes with
  | keeps _ status => exact status
  | expires _ active => exact absurd active terminal.not_active
  | claims _ pending => exact absurd (.inl pending) terminal.not_active
  | ends _ finalizing => exact absurd (.inr finalizing) terminal.not_active

/-- Only an active session is active afterwards. -/
theorem active (becomes : SessionBecomes actor row next) (active : next.status.Active) :
    row.status.Active := by
  rcases row.status.active_or_terminal with before | terminal
  · exact before
  · exact becomes.terminal terminal ▸ active

theorem uncleaned (becomes : SessionBecomes actor row next) (active : next.status.Active) :
    next.cleanupCompletedAt = row.cleanupCompletedAt := by
  have before := becomes.active active
  cases becomes with
  | keeps _ _ _ uncleaned => exact uncleaned before
  | expires _ _ expired =>
      rw [expired] at active
      rcases active with other | other
      · nomatch other
      · nomatch other
  | claims _ _ _ _ _ uncleaned => exact uncleaned
  | ends _ _ _ _ _ uncleaned => exact uncleaned

end SessionBecomes

section

variable {Content : Type} (sizeBytes : Content → Nat) (sha256 : Content → String)
  (settings : DatasetSettings) (storage : StorageIdentity)

/-- What becomes of the dataset when the row of its session becomes `next`. Only the snapshot
`completing` is recorded. -/
inductive DatasetFollows (completing : Option (DatasetSnapshot Content))
    (row next : DatasetUploadSession) (dataset : Dataset) : Dataset → Prop
  | unchanged (other : next.status = .completed → row.status = .completed) :
      DatasetFollows completing row next dataset dataset
  | adjusted (active : row.status.Active) (other : next.status ≠ .completed)
      (status : DatasetStatus) (failureCode : Option String) (retryable : Bool)
      (unready : status = .uploadPending ∨ status = .processing ∨ status = .failed) :
      DatasetFollows completing row next dataset { dataset with status, failureCode, retryable }
  | completes (finalizing : row.status = .finalizing) (completed : next.status = .completed)
      (snapshot : DatasetSnapshot Content) (own : completing = some snapshot) :
      DatasetFollows completing row next dataset
        (dataset.finalize sizeBytes sha256 row.toDatasetReservation snapshot)

namespace DatasetStore

structure SameRows (store after : DatasetStore Content) : Prop where
  datasets : after.datasets = store.datasets
  datasetIds : after.datasetIds = store.datasetIds
  sessions : after.sessions = store.sessions
  uploads : after.uploads = store.uploads

/-- A reservation of this generation follows the sessions of its dataset. -/
def Continues (store : DatasetStore Content) (request : DatasetUploadInitRequest)
    (existing : Option DatasetId) (generation : Nat) : Prop :=
  match existing with
  | none => generation = 1
  | some datasetId =>
      datasetId ∈ store.datasetIds ∧ ∀ dataset, store.datasets datasetId = some dataset →
        ∃ uploadId row, store.sessions uploadId = some row ∧ row.datasetId = datasetId ∧
          row.ownerId = request.ownerId ∧ row.idempotencyKey = request.idempotencyKey ∧
          row.requestFingerprint = request.document ∧ row.status = .expired ∧
          generation = row.generation + 1

structure Reserves (store after : DatasetStore Content) (request : DatasetUploadInitRequest)
    (existing : Option DatasetId) (generation : Nat) (dataset : Dataset) (uploadId : UploadId)
    (datasetId : DatasetId) : Prop where
  continues : store.Continues request existing generation
  sessionsWithin : store.activeSessions request.ownerId < settings.ownerMaxSessions
  bytesWithin : store.activeBytes request.ownerId + request.document.sizeBytes ≤
    settings.ownerMaxBytes
  source : existing.elim (some (newDataset request)) store.datasets = some dataset
  freshUpload : uploadId ∉ store.uploads
  freshDataset : existing = none → datasetId ∉ store.datasetIds
  freshGeneration : generationTaken store request generation = false
  uploads : after.uploads = uploadId :: store.uploads
  datasetIds : after.datasetIds =
    if existing = none then datasetId :: store.datasetIds else store.datasetIds
  sessions : after.sessions = Function.update store.sessions uploadId
    (some (newDatasetUpload settings storage request (existing.getD datasetId) uploadId generation
      store.clock))
  datasets : ∃ uri, after.datasets = Function.update store.datasets (existing.getD datasetId)
    (some { dataset with storageUri := uri })

inductive RowsMove (actor : Option ClaimToken) (completing : Option (DatasetSnapshot Content))
    (store after : DatasetStore Content) : Prop
  | same (rows : store.SameRows after)
  | session (uploadId : UploadId) (row next : DatasetUploadSession) (dataset dataset' : Dataset)
      (found : store.sessions uploadId = some row)
      (parent : store.datasets row.datasetId = some dataset)
      (becomes : SessionBecomes actor row next)
      (follows : DatasetFollows sizeBytes sha256 completing row next dataset dataset')
      (sessions : after.sessions = Function.update store.sessions uploadId (some next))
      (datasets : after.datasets = Function.update store.datasets row.datasetId (some dataset'))
      (uploads : after.uploads = store.uploads) (datasetIds : after.datasetIds = store.datasetIds)
  | reserved (request : DatasetUploadInitRequest) (existing : Option DatasetId)
      (generation : Nat) (dataset : Dataset) (uploadId : UploadId) (datasetId : DatasetId)
      (reserves : store.Reserves settings storage after request existing generation dataset
        uploadId datasetId)
  | deletion (datasetId : DatasetId) (dataset dataset' : Dataset)
      (found : store.datasets datasetId = some dataset)
      (moved : dataset' = dataset.startDeleting ∨ dataset' = dataset.failDeleting)
      (sessions : after.sessions = store.sessions)
      (datasets : after.datasets = Function.update store.datasets datasetId (some dataset'))
      (uploads : after.uploads = store.uploads) (datasetIds : after.datasetIds = store.datasetIds)
  | imported (datasetId : DatasetId) (dataset : Dataset) (fresh : datasetId ∉ store.datasetIds)
      (legacy : dataset.status = .legacyImported) (sessions : after.sessions = store.sessions)
      (datasets : after.datasets = Function.update store.datasets datasetId (some dataset))
      (uploads : after.uploads = store.uploads)
      (datasetIds : after.datasetIds = datasetId :: store.datasetIds)
  | removed (datasetId : DatasetId)
      (sessions : after.sessions = fun uploadId =>
        (store.sessions uploadId).filter fun row => row.datasetId ≠ datasetId)
      (datasets : after.datasets = Function.update store.datasets datasetId none)
      (uploads : after.uploads = store.uploads) (datasetIds : after.datasetIds = store.datasetIds)

/-! ## What holds of the rows -/

structure Sound (store : DatasetStore Content) : Prop where
  uploadsNodup : store.uploads.Nodup
  uploadDrawn : ∀ uploadId row, store.sessions uploadId = some row → uploadId ∈ store.uploads
  datasetDrawn : ∀ datasetId dataset, store.datasets datasetId = some dataset →
    datasetId ∈ store.datasetIds
  parent : ∀ uploadId row, store.sessions uploadId = some row →
    ∃ dataset, store.datasets row.datasetId = some dataset ∧
      dataset.originalSizeBytes = some row.expectedSizeBytes ∧
      dataset.originalSha256 = some row.expectedSha256
  keysValid : ∀ uploadId row, store.sessions uploadId = some row → row.KeysValid uploadId
  declared : ∀ uploadId row, store.sessions uploadId = some row →
    row.requestFingerprint.sizeBytes = row.expectedSizeBytes ∧
      row.requestFingerprint.sha256 = row.expectedSha256
  sameKey : ∀ uploadId row otherId other, store.sessions uploadId = some row →
    store.sessions otherId = some other → row.datasetId = other.datasetId →
    row.ownerId = other.ownerId ∧ row.idempotencyKey = other.idempotencyKey
  distinct : ∀ uploadId row otherId other, store.sessions uploadId = some row →
    store.sessions otherId = some other → row.ownerId = other.ownerId →
    row.idempotencyKey = other.idempotencyKey → row.generation = other.generation →
    uploadId = otherId
  predecessor : ∀ uploadId row, store.sessions uploadId = some row → row.generation = 1 ∨
    ∃ otherId other, store.sessions otherId = some other ∧ other.datasetId = row.datasetId ∧
      other.generation + 1 = row.generation ∧ other.status = .expired
  claimed : ∀ uploadId row, store.sessions uploadId = some row → row.status = .finalizing →
    row.finalizationToken ≠ none
  uncleaned : ∀ uploadId row, store.sessions uploadId = some row → row.status.Active →
    row.cleanupCompletedAt = none
  sessionsWithin : ∀ ownerId, store.activeSessions ownerId ≤ settings.ownerMaxSessions
  bytesWithin : ∀ ownerId, store.activeBytes ownerId ≤ settings.ownerMaxBytes

theorem Sound.empty : (empty : DatasetStore Content).Sound settings where
  uploadsNodup := List.nodup_nil
  uploadDrawn _ _ found := nomatch found
  datasetDrawn _ _ found := nomatch found
  parent _ _ found := nomatch found
  keysValid _ _ found := nomatch found
  declared _ _ found := nomatch found
  sameKey _ _ _ _ found := nomatch found
  distinct _ _ _ _ found := nomatch found
  predecessor _ _ found := nomatch found
  claimed _ _ found := nomatch found
  uncleaned _ _ found := nomatch found
  sessionsWithin _ := Nat.zero_le _
  bytesWithin _ := Nat.zero_le _

variable {settings} {store after : DatasetStore Content}

namespace Sound

/-- Every session below another one of its dataset is expired. -/
theorem lower_expired (sound : store.Sound settings) {uploadId otherId : UploadId}
    {row other : DatasetUploadSession} (found : store.sessions uploadId = some row)
    (otherFound : store.sessions otherId = some other)
    (sameDataset : row.datasetId = other.datasetId) (lower : row.generation < other.generation) :
    row.status = .expired := by
  -- The induction goes down from the higher session through its predecessors.
  induction distance : other.generation - row.generation using Nat.strong_induction_on
    generalizing otherId other with
  | _ gap induction =>
      rcases sound.predecessor otherId other otherFound with
        first | ⟨beforeId, before, beforeFound, ofDataset, next, expired⟩
      · rcases sound.predecessor uploadId row found with one | ⟨-, earlier, -, -, positive, -⟩
        · omega
        · omega
      · have key := sound.sameKey uploadId row beforeId before found beforeFound
          (sameDataset.trans ofDataset.symm)
        by_cases same : row.generation = before.generation
        · have sameId := sound.distinct uploadId row beforeId before found beforeFound key.1 key.2
            same
          rw [← sameId, found] at beforeFound
          rw [Option.some.inj beforeFound]
          exact expired
        · have below : row.generation < before.generation := by omega
          have closer : before.generation - row.generation < gap := by omega
          exact induction _ closer beforeFound (sameDataset.trans ofDataset.symm) below rfl

/-- Two sessions of one dataset that are not expired are the same. -/
theorem only_unexpired (sound : store.Sound settings) {uploadId otherId : UploadId}
    {row other : DatasetUploadSession} (found : store.sessions uploadId = some row)
    (otherFound : store.sessions otherId = some other)
    (sameDataset : row.datasetId = other.datasetId) (unexpired : row.status ≠ .expired)
    (otherUnexpired : other.status ≠ .expired) : uploadId = otherId := by
  rcases Nat.lt_trichotomy row.generation other.generation with lower | same | higher
  · exact absurd (sound.lower_expired found otherFound sameDataset lower) unexpired
  · have key := sound.sameKey uploadId row otherId other found otherFound sameDataset
    exact sound.distinct uploadId row otherId other found otherFound key.1 key.2 same
  · exact absurd (sound.lower_expired otherFound found sameDataset.symm higher) otherUnexpired

/-- A session that is not expired has the highest generation of its dataset. -/
theorem highest (sound : store.Sound settings) {uploadId otherId : UploadId}
    {row other : DatasetUploadSession} (found : store.sessions uploadId = some row)
    (otherFound : store.sessions otherId = some other)
    (sameDataset : other.datasetId = row.datasetId) (unexpired : row.status ≠ .expired) :
    other.generation ≤ row.generation := by
  by_contra above
  exact unexpired (sound.lower_expired found otherFound sameDataset.symm (by omega))

end Sound

/-! ## Quotas -/

theorem activeSessions_le (uploads : after.uploads = store.uploads) {ownerId : UserId}
    (fewer : ∀ uploadId, after.countsFor ownerId uploadId = true →
      store.countsFor ownerId uploadId = true) :
    after.activeSessions ownerId ≤ store.activeSessions ownerId := by
  unfold activeSessions
  rw [uploads]
  exact List.countP_mono_left fun uploadId _ => fewer uploadId

theorem activeBytes_le (uploads : after.uploads = store.uploads) {ownerId : UserId}
    (fewer : ∀ uploadId, after.reservedBytes ownerId uploadId ≤
      store.reservedBytes ownerId uploadId) :
    after.activeBytes ownerId ≤ store.activeBytes ownerId := by
  unfold activeBytes
  rw [uploads]
  exact List.sum_le_sum fun uploadId _ => fewer uploadId

theorem countsFor_eq_true {ownerId : UserId} {uploadId : UploadId} :
    store.countsFor ownerId uploadId = true ↔
      ∃ row, store.sessions uploadId = some row ∧ row.ownerId = ownerId ∧ row.status.Active := by
  unfold countsFor
  cases store.sessions uploadId with
  | none => simp
  | some row => simp

/-- No session counts more than it did, if every row stems from a row that counted as much. -/
theorem counts_of_rows {ownerId : UserId}
    (stem : ∀ uploadId next, after.sessions uploadId = some next → next.status.Active →
      ∃ row, store.sessions uploadId = some row ∧ row.status.Active ∧
        next.toDatasetReservation = row.toDatasetReservation) (uploadId : UploadId) :
    (after.countsFor ownerId uploadId = true → store.countsFor ownerId uploadId = true) ∧
      after.reservedBytes ownerId uploadId ≤ store.reservedBytes ownerId uploadId := by
  have counted : after.countsFor ownerId uploadId = true →
      store.countsFor ownerId uploadId = true ∧
        ((after.sessions uploadId).map (·.expectedSizeBytes)).getD 0 =
          ((store.sessions uploadId).map (·.expectedSizeBytes)).getD 0 := by
    intro counts
    rcases countsFor_eq_true.mp counts with ⟨next, nextFound, owner, active⟩
    rcases stem uploadId next nextFound active with ⟨row, found, rowActive, same⟩
    refine ⟨countsFor_eq_true.mpr ⟨row, found, ?_, rowActive⟩, ?_⟩
    · rw [← owner, same]
    · rw [nextFound, found]
      simp [same]
  refine ⟨fun counts => (counted counts).1, ?_⟩
  unfold reservedBytes
  by_cases counts : after.countsFor ownerId uploadId = true
  · rw [if_pos counts, if_pos (counted counts).1, (counted counts).2]
  · rw [if_neg counts]
    exact Nat.zero_le _

/-! ## Every move keeps the rows sound -/

/-- No session is new, and a dataset that keeps one of its sessions keeps all. -/
structure Evolves (actor : Option ClaimToken) (store after : DatasetStore Content) : Prop where
  uploads : after.uploads = store.uploads
  back : ∀ uploadId next, after.sessions uploadId = some next →
    ∃ row, store.sessions uploadId = some row ∧ SessionBecomes actor row next
  siblings : ∀ uploadId row next otherId other, after.sessions uploadId = some next →
    store.sessions uploadId = some row → store.sessions otherId = some other →
    other.datasetId = row.datasetId →
    ∃ otherNext, after.sessions otherId = some otherNext ∧ SessionBecomes actor other otherNext
  parents : ∀ uploadId row next dataset, after.sessions uploadId = some next →
    store.sessions uploadId = some row → store.datasets row.datasetId = some dataset →
    ∃ dataset', after.datasets row.datasetId = some dataset' ∧
      dataset'.originalSizeBytes = dataset.originalSizeBytes ∧
      dataset'.originalSha256 = dataset.originalSha256
  drawn : ∀ datasetId dataset, after.datasets datasetId = some dataset →
    datasetId ∈ after.datasetIds

variable {sizeBytes sha256 storage} {actor : Option ClaimToken}
  {completing : Option (DatasetSnapshot Content)}

theorem follows_originals {row next : DatasetUploadSession} {dataset dataset' : Dataset}
    (follows : DatasetFollows sizeBytes sha256 completing row next dataset dataset') :
    dataset'.originalSizeBytes = dataset.originalSizeBytes ∧
      dataset'.originalSha256 = dataset.originalSha256 := by
  cases follows <;> exact ⟨rfl, rfl⟩

/-- The sessions are the same, and the datasets but for what a move may change. -/
theorem Evolves.ofSessions (uploads : after.uploads = store.uploads)
    (sessions : after.sessions = store.sessions)
    (parents : ∀ datasetId dataset, store.datasets datasetId = some dataset →
      ∃ dataset', after.datasets datasetId = some dataset' ∧
        dataset'.originalSizeBytes = dataset.originalSizeBytes ∧
        dataset'.originalSha256 = dataset.originalSha256)
    (drawn : ∀ datasetId dataset, after.datasets datasetId = some dataset →
      datasetId ∈ after.datasetIds) : Evolves actor store after where
  uploads := uploads
  back _ next found := ⟨next, sessions ▸ found, .same actor next⟩
  siblings _ _ _ _ other _ _ otherFound _ := ⟨other, sessions ▸ otherFound, .same actor other⟩
  parents _ row _ dataset _ _ parent := parents row.datasetId dataset parent
  drawn := drawn

/-- One session changes, and its dataset follows it. -/
theorem Evolves.ofSession {uploadId : UploadId} {row next : DatasetUploadSession}
    {dataset dataset' : Dataset} (sound : store.Sound settings)
    (found : store.sessions uploadId = some row)
    (parent : store.datasets row.datasetId = some dataset) (becomes : SessionBecomes actor row next)
    (originals : dataset'.originalSizeBytes = dataset.originalSizeBytes ∧
      dataset'.originalSha256 = dataset.originalSha256)
    (sessions : after.sessions = Function.update store.sessions uploadId (some next))
    (datasets : after.datasets = Function.update store.datasets row.datasetId (some dataset'))
    (uploads : after.uploads = store.uploads) (datasetIds : after.datasetIds = store.datasetIds) :
    Evolves actor store after where
  uploads := uploads
  back := by
    intro otherId other otherFound
    rw [sessions] at otherFound
    by_cases same : otherId = uploadId
    · subst same
      rw [Function.update_self] at otherFound
      rcases Option.some.inj otherFound with rfl
      exact ⟨row, found, becomes⟩
    · rw [Function.update_of_ne same] at otherFound
      exact ⟨other, otherFound, .same actor other⟩
  siblings := by
    intro _ _ _ otherId other _ _ otherFound _
    by_cases same : otherId = uploadId
    · subst same
      rw [found] at otherFound
      rcases Option.some.inj otherFound with rfl
      exact ⟨next, by rw [sessions, Function.update_self], becomes⟩
    · exact ⟨other, by rw [sessions, Function.update_of_ne same, otherFound], .same actor other⟩
  parents := by
    intro _ other _ ofOther _ _ otherParent
    rw [datasets]
    by_cases same : other.datasetId = row.datasetId
    · rw [same, Function.update_self]
      rw [same, parent] at otherParent
      rcases Option.some.inj otherParent with rfl
      exact ⟨dataset', rfl, originals⟩
    · rw [Function.update_of_ne same]
      exact ⟨ofOther, otherParent, rfl, rfl⟩
  drawn := by
    intro datasetId ofId ofIdFound
    rw [datasets] at ofIdFound
    rw [datasetIds]
    by_cases same : datasetId = row.datasetId
    · exact same ▸ sound.datasetDrawn row.datasetId dataset parent
    · rw [Function.update_of_ne same] at ofIdFound
      exact sound.datasetDrawn datasetId ofId ofIdFound

/-- A dataset goes, and its sessions with it. -/
theorem Evolves.ofRemoval {datasetId : DatasetId} (sound : store.Sound settings)
    (sessions : after.sessions = fun uploadId =>
      (store.sessions uploadId).filter fun row => row.datasetId ≠ datasetId)
    (datasets : after.datasets = Function.update store.datasets datasetId none)
    (uploads : after.uploads = store.uploads) (datasetIds : after.datasetIds = store.datasetIds) :
    Evolves actor store after := by
  have kept : ∀ otherId next, after.sessions otherId = some next ↔
      store.sessions otherId = some next ∧ next.datasetId ≠ datasetId := by
    intro otherId next
    rw [sessions]
    simp [Option.filter_eq_some_iff]
  constructor
  · exact uploads
  · intro otherId next nextFound
    exact ⟨next, ((kept otherId next).mp nextFound).1, .same actor next⟩
  · intro ownId row next otherId other nextFound found otherFound same
    rcases (kept ownId next).mp nextFound with ⟨nextBefore, different⟩
    rcases Option.some.inj (nextBefore.symm.trans found) with rfl
    exact ⟨other, (kept otherId other).mpr ⟨otherFound, same ▸ different⟩, .same actor other⟩
  · intro ownId row next dataset nextFound found parent
    rcases (kept ownId next).mp nextFound with ⟨nextBefore, different⟩
    rcases Option.some.inj (nextBefore.symm.trans found) with rfl
    exact ⟨dataset, by rw [datasets, Function.update_of_ne different, parent], rfl, rfl⟩
  · intro otherId other otherFound
    rw [datasets] at otherFound
    rw [datasetIds]
    by_cases same : otherId = datasetId
    · rw [same, Function.update_self] at otherFound
      nomatch otherFound
    · rw [Function.update_of_ne same] at otherFound
      exact sound.datasetDrawn otherId other otherFound

theorem RowsMove.evolves (sound : store.Sound settings)
    (move : RowsMove sizeBytes sha256 settings storage actor completing store after) :
    Evolves actor store after ∨ ∃ request existing generation dataset uploadId datasetId,
      store.Reserves settings storage after request existing generation dataset uploadId
        datasetId := by
  cases move with
  | same rows =>
      left
      apply Evolves.ofSessions rows.uploads rows.sessions
      · intro datasetId dataset found
        exact ⟨dataset, rows.datasets ▸ found, rfl, rfl⟩
      · intro datasetId dataset found
        rw [rows.datasets] at found
        exact rows.datasetIds ▸ sound.datasetDrawn datasetId dataset found
  | session uploadId row next dataset dataset' found parent becomes follows sessions datasets
      uploads datasetIds =>
      exact .inl (.ofSession sound found parent becomes (follows_originals follows) sessions
        datasets uploads datasetIds)
  | reserved request existing generation dataset uploadId datasetId reserves =>
      exact .inr ⟨request, existing, generation, dataset, uploadId, datasetId, reserves⟩
  | deletion datasetId dataset dataset' found moved sessions datasets uploads datasetIds =>
      left
      have originals : dataset'.originalSizeBytes = dataset.originalSizeBytes ∧
          dataset'.originalSha256 = dataset.originalSha256 := by
        rcases moved with rfl | rfl
        · exact ⟨rfl, rfl⟩
        · exact ⟨rfl, rfl⟩
      apply Evolves.ofSessions uploads sessions
      · intro otherId other otherFound
        rw [datasets]
        by_cases same : otherId = datasetId
        · rw [same, Function.update_self]
          rw [same, found] at otherFound
          rcases Option.some.inj otherFound with rfl
          exact ⟨dataset', rfl, originals⟩
        · rw [Function.update_of_ne same]
          exact ⟨other, otherFound, rfl, rfl⟩
      · intro otherId other otherFound
        rw [datasets] at otherFound
        rw [datasetIds]
        by_cases same : otherId = datasetId
        · exact same ▸ sound.datasetDrawn datasetId dataset found
        · rw [Function.update_of_ne same] at otherFound
          exact sound.datasetDrawn otherId other otherFound
  | imported datasetId dataset fresh legacy sessions datasets uploads datasetIds =>
      left
      apply Evolves.ofSessions uploads sessions
      · intro otherId other otherFound
        rw [datasets]
        have different : otherId ≠ datasetId := by
          rintro rfl
          exact fresh (sound.datasetDrawn otherId other otherFound)
        rw [Function.update_of_ne different]
        exact ⟨other, otherFound, rfl, rfl⟩
      · intro otherId other otherFound
        rw [datasets] at otherFound
        rw [datasetIds]
        by_cases same : otherId = datasetId
        · exact same ▸ List.mem_cons_self
        · rw [Function.update_of_ne same] at otherFound
          exact List.mem_cons_of_mem datasetId (sound.datasetDrawn otherId other otherFound)
  | removed datasetId sessions datasets uploads datasetIds =>
      exact .inl (.ofRemoval sound sessions datasets uploads datasetIds)

theorem Evolves.active (evolves : Evolves actor store after) {uploadId : UploadId}
    {next : DatasetUploadSession} (found : after.sessions uploadId = some next)
    (active : next.status.Active) :
    ∃ row, store.sessions uploadId = some row ∧ row.status.Active ∧
      next.toDatasetReservation = row.toDatasetReservation := by
  rcases evolves.back uploadId next found with ⟨row, rowFound, becomes⟩
  exact ⟨row, rowFound, becomes.active active, becomes.reservation⟩

theorem Evolves.sound (evolves : Evolves actor store after) (sound : store.Sound settings) :
    after.Sound settings where
  uploadsNodup := evolves.uploads ▸ sound.uploadsNodup
  uploadDrawn uploadId next found := by
    rcases evolves.back uploadId next found with ⟨row, rowFound, -⟩
    exact evolves.uploads ▸ sound.uploadDrawn uploadId row rowFound
  datasetDrawn := evolves.drawn
  parent uploadId next found := by
    rcases evolves.back uploadId next found with ⟨row, rowFound, becomes⟩
    rcases sound.parent uploadId row rowFound with ⟨dataset, parent, size, digest⟩
    rcases evolves.parents uploadId row next dataset found rowFound parent with
      ⟨dataset', parent', sameSize, sameDigest⟩
    rw [becomes.reservation]
    exact ⟨dataset', parent', sameSize.trans size, sameDigest.trans digest⟩
  keysValid uploadId next found := by
    rcases evolves.back uploadId next found with ⟨row, rowFound, becomes⟩
    rw [becomes.reservation]
    exact sound.keysValid uploadId row rowFound
  declared uploadId next found := by
    rcases evolves.back uploadId next found with ⟨row, rowFound, becomes⟩
    rw [becomes.reservation]
    exact sound.declared uploadId row rowFound
  sameKey uploadId next otherId otherNext found otherFound same := by
    rcases evolves.back uploadId next found with ⟨row, rowFound, becomes⟩
    rcases evolves.back otherId otherNext otherFound with ⟨other, otherBefore, otherBecomes⟩
    rw [becomes.reservation, otherBecomes.reservation] at same ⊢
    exact sound.sameKey uploadId row otherId other rowFound otherBefore same
  distinct uploadId next otherId otherNext found otherFound owner key generation := by
    rcases evolves.back uploadId next found with ⟨row, rowFound, becomes⟩
    rcases evolves.back otherId otherNext otherFound with ⟨other, otherBefore, otherBecomes⟩
    rw [becomes.reservation, otherBecomes.reservation] at owner key generation
    exact sound.distinct uploadId row otherId other rowFound otherBefore owner key generation
  predecessor uploadId next found := by
    rcases evolves.back uploadId next found with ⟨row, rowFound, becomes⟩
    rw [becomes.reservation]
    rcases sound.predecessor uploadId row rowFound with
      first | ⟨otherId, other, otherFound, ofDataset, before, expired⟩
    · exact .inl first
    · rcases evolves.siblings uploadId row next otherId other found rowFound otherFound
        ofDataset with ⟨otherNext, otherAfter, otherBecomes⟩
      refine .inr ⟨otherId, otherNext, otherAfter, ?_, ?_, ?_⟩
      · rw [otherBecomes.reservation, ofDataset]
      · rw [otherBecomes.reservation, before]
      · rw [otherBecomes.terminal (.inr (.inr expired)), expired]
  claimed uploadId next found finalizing := by
    rcases evolves.back uploadId next found with ⟨row, rowFound, becomes⟩
    cases becomes with
    | keeps _ status token =>
        have before := status.symm.trans finalizing
        exact token before ▸ sound.claimed uploadId row rowFound before
    | expires _ _ expired => nomatch expired.symm.trans finalizing
    | claims _ _ _ claimed =>
        rw [claimed]
        exact Option.some_ne_none _
    | ends _ _ _ _ status =>
        rw [finalizing] at status
        rcases status with other | other | other <;> nomatch other
  uncleaned uploadId next found active := by
    rcases evolves.back uploadId next found with ⟨row, rowFound, becomes⟩
    exact (becomes.uncleaned active).trans
      (sound.uncleaned uploadId row rowFound (becomes.active active))
  sessionsWithin ownerId := by
    apply Nat.le_trans (activeSessions_le evolves.uploads fun uploadId => ?_)
      (sound.sessionsWithin ownerId)
    exact (counts_of_rows (fun _ _ found => evolves.active found) uploadId).1
  bytesWithin ownerId := by
    apply Nat.le_trans (activeBytes_le evolves.uploads fun uploadId => ?_)
      (sound.bytesWithin ownerId)
    exact (counts_of_rows (fun _ _ found => evolves.active found) uploadId).2

/-! ### Reservations -/

theorem newDatasetUpload_keysValid (request : DatasetUploadInitRequest) (datasetId : DatasetId)
    (uploadId : UploadId) (generation : Nat) (now : Time) :
    (newDatasetUpload settings storage request datasetId uploadId generation now).KeysValid
      uploadId := by
  refine ⟨rfl, fun role _ => ?_⟩
  cases role <;> rfl

section

variable {request : DatasetUploadInitRequest} {existing : Option DatasetId} {generation : Nat}
  {dataset : Dataset} {uploadId : UploadId} {datasetId : DatasetId}

/-- The row of the reservation is new, the others are as they were. -/
theorem Reserves.session_cases (reserves : store.Reserves settings storage after request existing
      generation dataset uploadId datasetId) {otherId : UploadId} {next : DatasetUploadSession}
    (found : after.sessions otherId = some next) :
    otherId = uploadId ∧ next = newDatasetUpload settings storage request
        (existing.getD datasetId) uploadId generation store.clock ∨
      otherId ≠ uploadId ∧ store.sessions otherId = some next := by
  rw [reserves.sessions] at found
  by_cases same : otherId = uploadId
  · rw [same, Function.update_self] at found
    exact .inl ⟨same, (Option.some.inj found).symm⟩
  · rw [Function.update_of_ne same] at found
    exact .inr ⟨same, found⟩

theorem Reserves.kept (reserves : store.Reserves settings storage after request existing
      generation dataset uploadId datasetId) (sound : store.Sound settings) {otherId : UploadId}
    {row : DatasetUploadSession} (found : store.sessions otherId = some row) :
    after.sessions otherId = some row := by
  have different : otherId ≠ uploadId := by
    rintro rfl
    exact reserves.freshUpload (sound.uploadDrawn otherId row found)
  rw [reserves.sessions, Function.update_of_ne different, found]

/-- A dataset that already has a session has one with the key of the request. -/
theorem Reserves.sibling (reserves : store.Reserves settings storage after request existing
      generation dataset uploadId datasetId) (sound : store.Sound settings) {otherId : UploadId}
    {other : DatasetUploadSession} (found : store.sessions otherId = some other)
    (same : other.datasetId = existing.getD datasetId) :
    other.ownerId = request.ownerId ∧ other.idempotencyKey = request.idempotencyKey := by
  rcases sound.parent otherId other found with ⟨parent, parentFound, -⟩
  cases existing with
  | none =>
      rw [same] at parentFound
      exact absurd (sound.datasetDrawn datasetId parent parentFound) (reserves.freshDataset rfl)
  | some existing =>
      rcases reserves.continues.2 dataset reserves.source with
        ⟨beforeId, before, beforeFound, ofDataset, owner, key, -⟩
      have sameKey := sound.sameKey otherId other beforeId before found beforeFound
        (same.trans ofDataset.symm)
      exact ⟨sameKey.1.trans owner, sameKey.2.trans key⟩

theorem Reserves.free (reserves : store.Reserves settings storage after request existing
      generation dataset uploadId datasetId) (sound : store.Sound settings) {otherId : UploadId}
    {other : DatasetUploadSession} (found : store.sessions otherId = some other)
    (owner : other.ownerId = request.ownerId)
    (key : other.idempotencyKey = request.idempotencyKey) : other.generation ≠ generation := by
  intro same
  have free := reserves.freshGeneration
  simp only [generationTaken, List.any_eq_false] at free
  apply free otherId (sound.uploadDrawn otherId other found)
  simp [found, owner, key, same]

/-- The dataset of the reservation declares what the request declares. -/
theorem Reserves.originals (reserves : store.Reserves settings storage after request existing
      generation dataset uploadId datasetId) (sound : store.Sound settings) :
    dataset.originalSizeBytes = some request.document.sizeBytes ∧
      dataset.originalSha256 = some request.document.sha256 := by
  have source := reserves.source
  cases existing with
  | none =>
      rcases Option.some.inj source with rfl
      exact ⟨rfl, rfl⟩
  | some existing =>
      rcases reserves.continues.2 dataset source with
        ⟨beforeId, before, beforeFound, ofDataset, -, -, document, -⟩
      rcases sound.parent beforeId before beforeFound with ⟨parent, parentFound, size, digest⟩
      rw [ofDataset, show store.datasets existing = some dataset from source] at parentFound
      rcases Option.some.inj parentFound with rfl
      have declared := sound.declared beforeId before beforeFound
      rw [size, digest, ← declared.1, ← declared.2, document]
      exact ⟨rfl, rfl⟩

theorem Reserves.parents (reserves : store.Reserves settings storage after request existing
      generation dataset uploadId datasetId) {otherId : DatasetId} {other : Dataset}
    (found : store.datasets otherId = some other) (different : otherId ≠ existing.getD datasetId) :
    after.datasets otherId = some other := by
  rcases reserves.datasets with ⟨uri, datasets⟩
  rw [datasets, Function.update_of_ne different, found]

/-- What the sessions that were there count, and what the new one does. -/
theorem Reserves.counts (reserves : store.Reserves settings storage after request existing
      generation dataset uploadId datasetId) (ownerId : UserId) :
    after.activeSessions ownerId =
        store.activeSessions ownerId + (if ownerId = request.ownerId then 1 else 0) ∧
      after.activeBytes ownerId =
        (if ownerId = request.ownerId then request.document.sizeBytes else 0) +
          store.activeBytes ownerId := by
  have own : after.sessions uploadId = some (newDatasetUpload settings storage request
      (existing.getD datasetId) uploadId generation store.clock) := by
    rw [reserves.sessions]
    exact Function.update_self ..
  have ownCounts : after.countsFor ownerId uploadId = decide (ownerId = request.ownerId) := by
    simp [countsFor, own, newDatasetUpload, UploadStatus.Active, eq_comm]
  have others : ∀ otherId ∈ store.uploads, after.sessions otherId = store.sessions otherId := by
    intro otherId member
    have different : otherId ≠ uploadId := fun same => reserves.freshUpload (same ▸ member)
    rw [reserves.sessions, Function.update_of_ne different]
  have otherCounts : ∀ otherId ∈ store.uploads,
      after.countsFor ownerId otherId = store.countsFor ownerId otherId := by
    intro otherId member
    unfold countsFor
    rw [others otherId member]
  constructor
  · unfold activeSessions
    rw [reserves.uploads, List.countP_cons, ownCounts]
    congr 1
    · exact List.countP_congr fun otherId member => by rw [otherCounts otherId member]
    · simp
  · unfold activeBytes
    rw [reserves.uploads, List.map_cons, List.sum_cons]
    congr 1
    · unfold reservedBytes
      rw [ownCounts, own]
      by_cases same : ownerId = request.ownerId
      · simp [same, newDatasetUpload]
      · simp [same]
    · congr 1
      apply List.map_congr_left
      intro otherId member
      unfold reservedBytes
      rw [otherCounts otherId member, others otherId member]

theorem Reserves.sound (reserves : store.Reserves settings storage after request existing
      generation dataset uploadId datasetId) (sound : store.Sound settings) :
    after.Sound settings where
  uploadsNodup := by
    rw [reserves.uploads]
    exact List.nodup_cons.mpr ⟨reserves.freshUpload, sound.uploadsNodup⟩
  uploadDrawn otherId next found := by
    rw [reserves.uploads]
    rcases reserves.session_cases found with ⟨rfl, -⟩ | ⟨-, before⟩
    · exact List.mem_cons_self
    · exact List.mem_cons_of_mem uploadId (sound.uploadDrawn otherId next before)
  datasetDrawn otherId other found := by
    rcases reserves.datasets with ⟨uri, datasets⟩
    rw [datasets] at found
    rw [reserves.datasetIds]
    by_cases same : otherId = existing.getD datasetId
    · subst same
      cases existing with
      | none => exact List.mem_cons_self
      | some existing => exact reserves.continues.1
    · rw [Function.update_of_ne same] at found
      have drawn := sound.datasetDrawn otherId other found
      split
      · exact List.mem_cons_of_mem datasetId drawn
      · exact drawn
  parent otherId next found := by
    rcases reserves.datasets with ⟨uri, datasets⟩
    rcases reserves.session_cases found with ⟨-, rfl⟩ | ⟨-, before⟩
    · refine ⟨{ dataset with storageUri := uri }, ?_, reserves.originals sound⟩
      rw [datasets]
      exact Function.update_self (existing.getD datasetId) _ store.datasets
    · rcases sound.parent otherId next before with ⟨parent, parentFound, size, digest⟩
      by_cases same : next.datasetId = existing.getD datasetId
      · have sameParent : parent = dataset := by
          cases existing with
          | none =>
              rw [same] at parentFound
              exact absurd (sound.datasetDrawn datasetId parent parentFound)
                (reserves.freshDataset rfl)
          | some existing =>
              rw [same] at parentFound
              exact Option.some.inj (parentFound.symm.trans reserves.source)
        refine ⟨{ dataset with storageUri := uri }, ?_, sameParent ▸ size, sameParent ▸ digest⟩
        rw [datasets, same, Function.update_self]
      · exact ⟨parent, reserves.parents parentFound same, size, digest⟩
  keysValid otherId next found := by
    rcases reserves.session_cases found with ⟨rfl, rfl⟩ | ⟨-, before⟩
    · exact newDatasetUpload_keysValid ..
    · exact sound.keysValid otherId next before
  declared otherId next found := by
    rcases reserves.session_cases found with ⟨-, rfl⟩ | ⟨-, before⟩
    · exact ⟨rfl, rfl⟩
    · exact sound.declared otherId next before
  sameKey firstId first secondId second firstFound secondFound same := by
    rcases reserves.session_cases firstFound with ⟨-, rfl⟩ | ⟨-, firstBefore⟩
    · rcases reserves.session_cases secondFound with ⟨-, rfl⟩ | ⟨-, secondBefore⟩
      · exact ⟨rfl, rfl⟩
      · have key := reserves.sibling sound secondBefore same.symm
        exact ⟨key.1.symm, key.2.symm⟩
    · rcases reserves.session_cases secondFound with ⟨-, rfl⟩ | ⟨-, secondBefore⟩
      · exact reserves.sibling sound firstBefore same
      · exact sound.sameKey firstId first secondId second firstBefore secondBefore same
  distinct firstId first secondId second firstFound secondFound owner key same := by
    rcases reserves.session_cases firstFound with ⟨rfl, rfl⟩ | ⟨-, firstBefore⟩
    · rcases reserves.session_cases secondFound with ⟨rfl, rfl⟩ | ⟨-, secondBefore⟩
      · rfl
      · exact absurd same.symm (reserves.free sound secondBefore owner.symm key.symm)
    · rcases reserves.session_cases secondFound with ⟨rfl, rfl⟩ | ⟨-, secondBefore⟩
      · exact absurd same (reserves.free sound firstBefore owner key)
      · exact sound.distinct firstId first secondId second firstBefore secondBefore owner key same
  predecessor otherId next found := by
    rcases reserves.session_cases found with ⟨-, rfl⟩ | ⟨-, before⟩
    · have continues := reserves.continues
      cases existing with
      | none => exact .inl continues
      | some existing =>
          rcases continues.2 dataset reserves.source with
            ⟨beforeId, before, beforeFound, ofDataset, -, -, -, expired, next⟩
          exact .inr ⟨beforeId, before, reserves.kept sound beforeFound, ofDataset, next.symm,
            expired⟩
    · rcases sound.predecessor otherId next before with
        first | ⟨beforeId, row, rowFound, ofDataset, below, expired⟩
      · exact .inl first
      · exact .inr ⟨beforeId, row, reserves.kept sound rowFound, ofDataset, below, expired⟩
  claimed otherId next found finalizing := by
    rcases reserves.session_cases found with ⟨-, rfl⟩ | ⟨-, before⟩
    · nomatch finalizing
    · exact sound.claimed otherId next before finalizing
  uncleaned otherId next found active := by
    rcases reserves.session_cases found with ⟨-, rfl⟩ | ⟨-, before⟩
    · rfl
    · exact sound.uncleaned otherId next before active
  sessionsWithin ownerId := by
    rw [(reserves.counts ownerId).1]
    split
    · next same => exact same ▸ reserves.sessionsWithin
    · exact sound.sessionsWithin ownerId
  bytesWithin ownerId := by
    rw [(reserves.counts ownerId).2]
    split
    · next same =>
        rw [Nat.add_comm]
        exact same ▸ reserves.bytesWithin
    · rw [Nat.zero_add]
      exact sound.bytesWithin ownerId

end

theorem RowsMove.sound
    (move : RowsMove sizeBytes sha256 settings storage actor completing store after)
    (sound : store.Sound settings) : after.Sound settings := by
  rcases move.evolves sound with
    evolves | ⟨request, existing, generation, dataset, uploadId, datasetId, reserves⟩
  · exact evolves.sound sound
  · exact reserves.sound sound

/-! ### What stays -/

theorem RowsMove.uploads_subset
    (move : RowsMove sizeBytes sha256 settings storage actor completing store after)
    {uploadId : UploadId} (drawn : uploadId ∈ store.uploads) : uploadId ∈ after.uploads := by
  cases move with
  | same rows => exact rows.uploads ▸ drawn
  | session _ _ _ _ _ _ _ _ _ _ _ uploads _ => exact uploads ▸ drawn
  | reserved _ _ _ _ newId _ reserves =>
      rw [reserves.uploads]
      exact List.mem_cons_of_mem newId drawn
  | deletion _ _ _ _ _ _ _ uploads _ => exact uploads ▸ drawn
  | imported _ _ _ _ _ _ uploads _ => exact uploads ▸ drawn
  | removed _ _ _ uploads _ => exact uploads ▸ drawn

theorem RowsMove.datasetIds_subset
    (move : RowsMove sizeBytes sha256 settings storage actor completing store after)
    {datasetId : DatasetId} (drawn : datasetId ∈ store.datasetIds) :
    datasetId ∈ after.datasetIds := by
  cases move with
  | same rows => exact rows.datasetIds ▸ drawn
  | session _ _ _ _ _ _ _ _ _ _ _ _ datasetIds => exact datasetIds ▸ drawn
  | reserved _ _ _ _ _ newId reserves =>
      rw [reserves.datasetIds]
      split
      · exact List.mem_cons_of_mem newId drawn
      · exact drawn
  | deletion _ _ _ _ _ _ _ _ datasetIds => exact datasetIds ▸ drawn
  | imported newId _ _ _ _ _ _ datasetIds =>
      rw [datasetIds]
      exact List.mem_cons_of_mem newId drawn
  | removed _ _ _ _ datasetIds => exact datasetIds ▸ drawn

/-- The row of a session that was drawn before stems from the row it had. -/
theorem RowsMove.back
    (move : RowsMove sizeBytes sha256 settings storage actor completing store after)
    (sound : store.Sound settings) {uploadId : UploadId} (drawn : uploadId ∈ store.uploads)
    {next : DatasetUploadSession} (found : after.sessions uploadId = some next) :
    ∃ row, store.sessions uploadId = some row ∧ SessionBecomes actor row next := by
  rcases move.evolves sound with evolves | ⟨_, _, _, _, newId, _, reserves⟩
  · exact evolves.back uploadId next found
  · rcases reserves.session_cases found with ⟨rfl, -⟩ | ⟨-, before⟩
    · exact absurd drawn reserves.freshUpload
    · exact ⟨next, before, .same actor next⟩

/-- A dataset that was drawn before and is there afterwards was there. -/
theorem RowsMove.dataset_back
    (move : RowsMove sizeBytes sha256 settings storage actor completing store after)
    {datasetId : DatasetId} (drawn : datasetId ∈ store.datasetIds) {dataset' : Dataset}
    (found : after.datasets datasetId = some dataset') :
    ∃ dataset, store.datasets datasetId = some dataset := by
  cases move with
  | same rows => exact ⟨dataset', rows.datasets ▸ found⟩
  | session _ row _ dataset _ _ parent _ _ _ datasets _ _ =>
      by_cases same : datasetId = row.datasetId
      · exact ⟨dataset, same ▸ parent⟩
      · rw [datasets, Function.update_of_ne same] at found
        exact ⟨dataset', found⟩
  | reserved request existing _ dataset _ newId reserves =>
      by_cases same : datasetId = existing.getD newId
      · cases existing with
        | none =>
            rw [same] at drawn
            exact absurd drawn (reserves.freshDataset rfl)
        | some existing => exact ⟨dataset, same ▸ reserves.source⟩
      · rcases reserves.datasets with ⟨uri, datasets⟩
        rw [datasets, Function.update_of_ne same] at found
        exact ⟨dataset', found⟩
  | deletion ownId dataset _ ownFound _ _ datasets _ _ =>
      by_cases same : datasetId = ownId
      · exact ⟨dataset, same ▸ ownFound⟩
      · rw [datasets, Function.update_of_ne same] at found
        exact ⟨dataset', found⟩
  | imported newId _ fresh _ _ datasets _ _ =>
      have different : datasetId ≠ newId := fun same => fresh (same ▸ drawn)
      rw [datasets, Function.update_of_ne different] at found
      exact ⟨dataset', found⟩
  | removed goneId _ datasets _ _ =>
      by_cases same : datasetId = goneId
      · rw [datasets, same, Function.update_self] at found
        nomatch found
      · rw [datasets, Function.update_of_ne same] at found
        exact ⟨dataset', found⟩

/-- A session stays as long as its dataset. -/
theorem RowsMove.forward
    (move : RowsMove sizeBytes sha256 settings storage actor completing store after)
    (sound : store.Sound settings) {uploadId : UploadId} {row : DatasetUploadSession}
    (found : store.sessions uploadId = some row)
    (parent : after.datasets row.datasetId ≠ none) :
    ∃ next, after.sessions uploadId = some next ∧ SessionBecomes actor row next := by
  cases move with
  | same rows => exact ⟨row, rows.sessions ▸ found, .same actor row⟩
  | session ownId own next _ _ ownFound _ becomes _ sessions _ _ _ =>
      by_cases same : uploadId = ownId
      · rw [same, ownFound] at found
        rcases Option.some.inj found with rfl
        exact ⟨next, by rw [sessions, same, Function.update_self], becomes⟩
      · exact ⟨row, by rw [sessions, Function.update_of_ne same, found], .same actor row⟩
  | reserved _ _ _ _ _ _ reserves => exact ⟨row, reserves.kept sound found, .same actor row⟩
  | deletion _ _ _ _ _ sessions _ _ _ => exact ⟨row, sessions ▸ found, .same actor row⟩
  | imported _ _ _ _ sessions _ _ _ => exact ⟨row, sessions ▸ found, .same actor row⟩
  | removed goneId sessions datasets _ _ =>
      have different : row.datasetId ≠ goneId := by
        intro same
        rw [datasets, same, Function.update_self] at parent
        exact parent rfl
      refine ⟨row, ?_, .same actor row⟩
      rw [sessions]
      simp [found, different]

theorem Continues.move {request : DatasetUploadInitRequest} {existing : Option DatasetId}
    {generation : Nat} (continues : store.Continues request existing generation)
    (move : RowsMove sizeBytes sha256 settings storage actor completing store after)
    (sound : store.Sound settings) : after.Continues request existing generation := by
  cases existing with
  | none => exact continues
  | some datasetId =>
      refine ⟨move.datasetIds_subset continues.1, ?_⟩
      intro dataset' found'
      rcases move.dataset_back continues.1 found' with ⟨dataset, found⟩
      rcases continues.2 dataset found with
        ⟨uploadId, row, rowFound, ofDataset, owner, key, document, expired, next⟩
      have parent : after.datasets row.datasetId ≠ none := by
        rw [ofDataset, found']
        exact Option.some_ne_none _
      rcases move.forward sound rowFound parent with ⟨rowNext, nextFound, becomes⟩
      have reservation := becomes.reservation
      refine ⟨uploadId, rowNext, nextFound, ?_⟩
      rw [reservation, becomes.terminal (.inr (.inr expired))]
      exact ⟨ofDataset, owner, key, document, expired, next⟩

end DatasetStore

def Dataset.Deleting (dataset : Dataset) : Prop :=
  dataset.status = .deleting ∨ dataset.status = .deleteFailed

def Dataset.Published (dataset : Dataset) : Prop :=
  dataset.status = .ready ∨ dataset.status = .decoderPending

theorem Dataset.Published.not_deleting {dataset : Dataset} (published : dataset.Published) :
    ¬dataset.Deleting := by
  rcases published with same | same <;> simp [Dataset.Deleting, same]

namespace DatasetStore

variable {settings} {store after : DatasetStore Content} {sizeBytes sha256 storage}
  {actor : Option ClaimToken} {completing : Option (DatasetSnapshot Content)}

/-- Where no session is active, a deletion that has begun is not taken back. -/
theorem RowsMove.deleting
    (move : RowsMove sizeBytes sha256 settings storage actor completing store after)
    (sound : store.Sound settings) {datasetId : DatasetId} {dataset dataset' : Dataset}
    (found : store.datasets datasetId = some dataset) (deleting : dataset.Deleting)
    (inactive : ∀ uploadId row, store.sessions uploadId = some row →
      row.datasetId = datasetId → ¬row.status.Active)
    (found' : after.datasets datasetId = some dataset') : dataset'.Deleting := by
  cases move with
  | same rows =>
      rw [rows.datasets, found] at found'
      exact Option.some.inj found' ▸ deleting
  | session uploadId row next parent parent' rowFound parentFound _ follows _ datasets _ _ =>
      rw [datasets] at found'
      by_cases same : datasetId = row.datasetId
      · rw [same, Function.update_self] at found'
        rw [same, parentFound] at found
        rcases Option.some.inj found with rfl
        rcases Option.some.inj found' with rfl
        cases follows with
        | unchanged => exact deleting
        | adjusted active => exact absurd active (inactive uploadId row rowFound same.symm)
        | completes finalizing =>
            exact absurd (.inr finalizing) (inactive uploadId row rowFound same.symm)
      · rw [Function.update_of_ne same, found] at found'
        exact Option.some.inj found' ▸ deleting
  | reserved request existing _ source _ newId reserves =>
      rcases reserves.datasets with ⟨uri, datasets⟩
      rw [datasets] at found'
      by_cases same : datasetId = existing.getD newId
      · rw [same, Function.update_self] at found'
        cases existing with
        | none =>
            have drawn := sound.datasetDrawn datasetId dataset found
            rw [same] at drawn
            exact absurd drawn (reserves.freshDataset rfl)
        | some existing =>
            have sameRow := reserves.source.symm.trans (same ▸ found)
            rw [← Option.some.inj found', Option.some.inj sameRow]
            exact deleting
      · rw [Function.update_of_ne same, found] at found'
        exact Option.some.inj found' ▸ deleting
  | deletion ownId own own' ownFound moved _ datasets _ _ =>
      rw [datasets] at found'
      by_cases same : datasetId = ownId
      · rw [same, Function.update_self] at found'
        rcases Option.some.inj found' with rfl
        rcases moved with rfl | rfl
        · exact .inl rfl
        · exact .inr rfl
      · rw [Function.update_of_ne same, found] at found'
        exact Option.some.inj found' ▸ deleting
  | imported newId own fresh _ _ datasets _ _ =>
      have different : datasetId ≠ newId := by
        rintro rfl
        exact fresh (sound.datasetDrawn datasetId dataset found)
      rw [datasets, Function.update_of_ne different, found] at found'
      exact Option.some.inj found' ▸ deleting
  | removed goneId _ datasets _ _ =>
      rw [datasets] at found'
      by_cases same : datasetId = goneId
      · rw [same, Function.update_self] at found'
        nomatch found'
      · rw [Function.update_of_ne same, found] at found'
        exact Option.some.inj found' ▸ deleting

end DatasetStore

end

end RvcOrchestrator.Manager

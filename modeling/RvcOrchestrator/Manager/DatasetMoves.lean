import RvcOrchestrator.Manager.DatasetLedger

/-! # Dataset uploads: what each request does to the rows

Every move of a process and every disturbance is one of the moves of the ledger.
-/

namespace RvcOrchestrator.Manager

open RvcOrchestrator.Foundation RvcOrchestrator.Contracts

section

variable {Content : Type} {sizeBytes : Content → Nat} {sha256 : Content → String}
  {settings : DatasetSettings} {storage : StorageIdentity}
  {completing : Option (DatasetSnapshot Content)}

namespace DatasetStore

variable {store middle after : DatasetStore Content} {actor : Option ClaimToken}

/-! ## The operations of the store -/

theorem SameRows.refl (store : DatasetStore Content) : store.SameRows store :=
  ⟨rfl, rfl, rfl, rfl⟩

theorem SameRows.trans (first : store.SameRows middle) (second : middle.SameRows after) :
    store.SameRows after :=
  ⟨second.datasets.trans first.datasets, second.datasetIds.trans first.datasetIds,
    second.sessions.trans first.sessions, second.uploads.trans first.uploads⟩

theorem sameRows_writeObject (key : DatasetObjectKey) (content : Content) :
    store.SameRows (store.writeObject key content) :=
  ⟨rfl, rfl, rfl, rfl⟩

theorem sameRows_deleteObject (key : DatasetObjectKey) (deletion : Deletion) :
    store.SameRows (store.deleteObject key deletion).2 := by
  unfold deleteObject
  split
  · exact ⟨rfl, rfl, rfl, rfl⟩
  · exact .refl store

theorem sameRows_cleanup (deletions : DatasetObjectKey → Deletion) (keys : List DatasetObjectKey) :
    store.SameRows (cleanupPublishedKeys deletions keys store).2 := by
  induction keys generalizing store with
  | nil => exact .refl store
  | cons key later induction =>
      exact (sameRows_deleteObject key (deletions key)).trans induction

theorem sameRows_grantUpload (upload : DatasetReservation) :
    store.SameRows (grantUpload storage store upload) := by
  unfold grantUpload
  split
  · exact .refl store
  · exact ⟨rfl, rfl, rfl, rfl⟩

theorem sameRows_storeVerified (key : DatasetObjectKey) (content : Content)
    (outcome : DatasetOutcome) :
    store.SameRows (storeVerifiedDatasetFile store key content outcome).2 := by
  unfold storeVerifiedDatasetFile
  repeat' split
  all_goals first | exact .refl store | exact sameRows_writeObject key content

theorem sameRows_writeUploadBody (owned : DatasetReservation) (content : Content)
    (effective : Bool) :
    store.SameRows (writeUploadBody sizeBytes store owned content effective) := by
  unfold writeUploadBody
  split
  · exact sameRows_writeObject _ content
  · exact .refl store

theorem lock_eq_some {uploadId : UploadId} {dataset : Dataset} {upload : DatasetUploadSession}
    (locked : store.lockDatasetThenUpload uploadId = some (dataset, upload)) :
    store.sessions uploadId = some upload ∧ store.datasets upload.datasetId = some dataset := by
  unfold lockDatasetThenUpload at locked
  split at locked
  · nomatch locked
  · next found =>
      split at locked
      · nomatch locked
      · next parent =>
          cases locked
          exact ⟨found, parent⟩

theorem sessions_commit (store : DatasetStore Content) (uploadId : UploadId)
    (upload : DatasetUploadSession) (dataset : Dataset) :
    (store.commit uploadId upload dataset).sessions uploadId = some upload :=
  Function.update_self ..

theorem RowsMove.ofSame (rows : store.SameRows after) :
    RowsMove sizeBytes sha256 settings storage actor completing store after :=
  .same rows

theorem RowsMove.refl (store : DatasetStore Content) :
    RowsMove sizeBytes sha256 settings storage actor completing store store :=
  .same (.refl store)

/-- A commit of both rows, after operations of the storage. -/
theorem RowsMove.commit (rows : store.SameRows middle) {uploadId : UploadId}
    {row next : DatasetUploadSession} {dataset dataset' : Dataset}
    (locked : store.lockDatasetThenUpload uploadId = some (dataset, row))
    (becomes : SessionBecomes actor row next)
    (follows : DatasetFollows sizeBytes sha256 completing row next dataset dataset') :
    RowsMove sizeBytes sha256 settings storage actor completing store
      (middle.commit uploadId next dataset') := by
  rcases lock_eq_some locked with ⟨found, parent⟩
  refine .session uploadId row next dataset dataset' found parent becomes follows ?_ ?_
    rows.uploads rows.datasetIds
  · exact congrArg (Function.update · uploadId (some next)) rows.sessions
  · have sameId : next.datasetId = row.datasetId := by rw [becomes.reservation]
    simp only [DatasetStore.commit, setDataset, setSession, sameId, rows.datasets]

/-- A commit of the row of the session alone. -/
theorem RowsMove.setSession (rows : store.SameRows middle) {uploadId : UploadId}
    {row next : DatasetUploadSession} {dataset : Dataset}
    (found : store.sessions uploadId = some row)
    (parent : store.datasets row.datasetId = some dataset)
    (becomes : SessionBecomes actor row next)
    (other : next.status = .completed → row.status = .completed) :
    RowsMove sizeBytes sha256 settings storage actor completing store
      (middle.setSession uploadId next) := by
  refine .session uploadId row next dataset dataset found parent becomes (.unchanged other) ?_ ?_
    rows.uploads rows.datasetIds
  · exact congrArg (Function.update · uploadId (some next)) rows.sessions
  · rw [← parent, Function.update_eq_self]
    exact rows.datasets

/-- A conditional update that leaves the status as it is. -/
theorem RowsMove.amend (sound : store.Sound settings) (uploadId : UploadId)
    {update : DatasetUploadSession → Option DatasetUploadSession}
    (keeps : ∀ row next, update row = some next →
      SessionBecomes actor row next ∧ next.status = row.status) :
    RowsMove sizeBytes sha256 settings storage actor completing store
      (store.amend uploadId update).2 := by
  unfold DatasetStore.amend
  split
  · exact .refl store
  · next next updated =>
      rcases Option.bind_eq_some_iff.mp updated with ⟨row, found, becomes⟩
      rcases sound.parent uploadId row found with ⟨dataset, parent, -⟩
      have kept := keeps row next becomes
      exact .setSession (.refl store) found parent kept.1 fun completed =>
        kept.2.symm.trans completed

end DatasetStore

open DatasetStore

/-! ## The updates -/

section

variable {actor : Option ClaimToken} {row next : DatasetUploadSession} {now : Time}

theorem touchFinalization_keeps {token : ClaimToken} {generation : Nat}
    (touched : row.touchFinalization now token generation = some next) :
    SessionBecomes actor row next ∧ next.status = row.status := by
  unfold DatasetUploadSession.touchFinalization at touched
  split at touched
  · rcases Option.some.inj touched with rfl
    exact ⟨.keeps rfl rfl (fun _ => rfl) fun _ => rfl, rfl⟩
  · nomatch touched

theorem touchUploadWrite_keeps {token : ClaimToken} {generation : Nat}
    (touched : row.touchUploadWrite now token generation = some next) :
    SessionBecomes actor row next ∧ next.status = row.status := by
  unfold DatasetUploadSession.touchUploadWrite at touched
  split at touched
  · rcases Option.some.inj touched with rfl
    exact ⟨.keeps rfl rfl (fun _ => rfl) fun _ => rfl, rfl⟩
  · nomatch touched

theorem clearUploadWriteClaim_keeps {token : ClaimToken} {generation : Nat}
    (cleared : row.clearUploadWriteClaim now token generation = some next) :
    SessionBecomes actor row next ∧ next.status = row.status := by
  unfold DatasetUploadSession.clearUploadWriteClaim at cleared
  split at cleared
  · rcases Option.some.inj cleared with rfl
    exact ⟨.keeps rfl rfl (fun _ => rfl) fun _ => rfl, rfl⟩
  · nomatch cleared

theorem setFailureCode_keeps (failureCode : String) :
    SessionBecomes actor row (row.setFailureCode now failureCode) :=
  .keeps rfl rfl (fun _ => rfl) fun _ => rfl

/-- Whatever expires an active session reopens its dataset or leaves it alone. -/
theorem reopen_follows (dataset : Dataset) (active : row.status.Active)
    (expired : next.status = .expired) (failureCode : String) :
    DatasetFollows sizeBytes sha256 completing row next dataset (dataset.reopen failureCode) :=
  .adjusted active (by rw [expired]; exact nofun) .uploadPending (some failureCode) true (.inl rfl)

theorem failProcessing_follows (dataset : Dataset) (finalizing : row.status = .finalizing)
    {failureCode : String} {retryable : Bool} :
    DatasetFollows sizeBytes sha256 completing row
      (row.failFinalization now failureCode retryable) dataset
      (dataset.failProcessing failureCode retryable) := by
  have unready : (if retryable then DatasetStatus.uploadPending else .failed) = .uploadPending ∨
      (if retryable then DatasetStatus.uploadPending else .failed) = .processing ∨
      (if retryable then DatasetStatus.uploadPending else .failed) = .failed := by
    cases retryable
    · exact .inr (.inr rfl)
    · exact .inl rfl
  refine .adjusted (.inr finalizing) ?_ _ (some failureCode) retryable unready
  cases retryable <;> exact nofun

theorem failFinalization_ends {token : ClaimToken} (finalizing : row.status = .finalizing)
    (held : row.finalizationToken = some token) {failureCode : String} {retryable : Bool} :
    SessionBecomes (some token) row (row.failFinalization now failureCode retryable) := by
  refine .ends rfl finalizing held rfl ?_ rfl
  cases retryable
  · exact .inr (.inl rfl)
  · exact .inl rfl

end

/-! ## Initializing -/

section

variable {store : DatasetStore Content} {actor : Option ClaimToken}
  {request : DatasetUploadInitRequest} {outcome : DatasetOutcome}

theorem findExistingUpload_eq_some {ownerId : UserId} {idempotencyKey : String}
    {uploadId : UploadId}
    (found : store.findExistingUpload ownerId idempotencyKey = some uploadId) :
    ∃ row, store.sessions uploadId = some row ∧ row.ownerId = ownerId ∧
      row.idempotencyKey = idempotencyKey := by
  have member := List.argmax_mem (Option.mem_def.mpr found)
  have held := (List.mem_filter.mp member).2
  cases rowFound : store.sessions uploadId with
  | none =>
      rw [rowFound] at held
      nomatch held
  | some row =>
      rw [rowFound] at held
      have both := of_decide_eq_true held
      exact ⟨row, rfl, both.1, both.2⟩

theorem sameRows_uploadInitResponse (uploadId : UploadId) (upload : DatasetUploadSession) :
    store.SameRows (uploadInitResponse storage store uploadId upload outcome).2 := by
  unfold uploadInitResponse
  repeat' split
  all_goals first | exact .refl store | exact sameRows_grantUpload upload.toDatasetReservation

theorem enforceOwnerQuota_eq_ok {ownerId : UserId} {requestedSize : Nat}
    (within : enforceOwnerQuota settings store ownerId requestedSize = .ok ()) :
    store.activeSessions ownerId < settings.ownerMaxSessions ∧
      store.activeBytes ownerId + requestedSize ≤ settings.ownerMaxBytes := by
  unfold enforceOwnerQuota at within
  split at within
  · nomatch within
  · next sessions =>
      split at within
      · nomatch within
      · next bytes => exact ⟨Nat.lt_of_not_le sessions, Nat.le_of_not_lt bytes⟩

theorem reserveUpload_rows {existing : Option DatasetId} {generation : Nat} {uploadId : UploadId}
    {datasetId : DatasetId} (continues : store.Continues request existing generation) :
    RowsMove sizeBytes sha256 settings storage actor completing store
      (reserveUpload settings storage store request existing generation outcome uploadId
        datasetId).2 := by
  unfold reserveUpload
  split
  · exact .refl store
  · next within =>
      split
      · exact .refl store
      · next dataset source =>
          split
          · exact .refl store
          · next fresh =>
              split
              · exact .refl store
              · rw [not_or, not_or] at fresh
                have bounds := enforceOwnerQuota_eq_ok within
                refine .reserved request existing generation dataset uploadId datasetId ?_
                refine ⟨continues, bounds.1, bounds.2, source, fresh.1,
                  fun none drawn => fresh.2.1 ⟨none, drawn⟩, Bool.eq_false_iff.mpr fresh.2.2,
                  ?_, ?_, ?_, ?_⟩
                · exact (sameRows_grantUpload _).uploads
                · exact (sameRows_grantUpload _).datasetIds
                · exact (sameRows_grantUpload _).sessions
                · exact ⟨_, (sameRows_grantUpload _).datasets⟩

end

section

variable {store : DatasetStore Content} {actor : Option ClaimToken}
  {request : DatasetUploadInitRequest} {outcome : DatasetOutcome}

def InitializePhase.Fits (store : DatasetStore Content) (request : DatasetUploadInitRequest) :
    InitializePhase → Prop
  | .reserving existing generation => store.Continues request existing generation
  | _ => True

theorem expire_becomes {row : DatasetUploadSession} {now : Time} (active : row.status.Active)
    (failureCode : String) : SessionBecomes actor row (row.expire now failureCode) :=
  .expires rfl active rfl

/-- What the transaction over an existing session finds when it goes on to reserve. -/
theorem continues_of_found (sound : store.Sound settings) {existing : UploadId}
    {row : DatasetUploadSession} (found : store.sessions existing = some row)
    (key : store.findExistingUpload request.ownerId request.idempotencyKey = some existing)
    (document : row.requestFingerprint = request.document) (expired : row.status = .expired) :
    store.Continues request (some row.datasetId) (row.generation + 1) := by
  rcases findExistingUpload_eq_some key with ⟨same, sameFound, owner, idempotencyKey⟩
  rcases Option.some.inj (found.symm.trans sameFound) with rfl
  rcases sound.parent existing row found with ⟨dataset, parent, -⟩
  exact ⟨sound.datasetDrawn row.datasetId dataset parent, fun _ _ =>
    ⟨existing, row, found, rfl, owner, idempotencyKey, document, expired, rfl⟩⟩

/-- The same after the session has been expired. -/
theorem continues_of_expired (sound : store.Sound settings) {existing : UploadId}
    {row : DatasetUploadSession} {dataset : Dataset} (found : store.sessions existing = some row)
    (key : store.findExistingUpload request.ownerId request.idempotencyKey = some existing)
    (document : row.requestFingerprint = request.document) (failureCode : String) :
    (store.commit existing (row.expire store.clock failureCode) dataset).Continues request
      (some row.datasetId) (row.generation + 1) := by
  rcases findExistingUpload_eq_some key with ⟨same, sameFound, owner, idempotencyKey⟩
  rcases Option.some.inj (found.symm.trans sameFound) with rfl
  rcases sound.parent existing row found with ⟨parent, parentFound, -⟩
  refine ⟨sound.datasetDrawn row.datasetId parent parentFound, fun _ _ => ?_⟩
  exact ⟨existing, row.expire store.clock failureCode, Function.update_self .., rfl, owner,
    idempotencyKey, document, rfl, rfl⟩

theorem replayUpload_rows (sound : store.Sound settings) {existing uploadId : UploadId}
    {datasetId : DatasetId} :
    RowsMove sizeBytes sha256 settings storage actor completing store
        (replayUpload settings storage store request existing outcome uploadId datasetId).2 ∧
      (replayUpload settings storage store request existing outcome uploadId datasetId).1.Fits
        (replayUpload settings storage store request existing outcome uploadId datasetId).2
        request := by
  unfold replayUpload
  split
  · exact ⟨.refl store, trivial⟩
  · next dataset upload locked =>
      rcases lock_eq_some locked with ⟨found, parent⟩
      split
      · exact ⟨.refl store, trivial⟩
      · next key =>
          rw [not_not] at key
          split
          · exact ⟨.refl store, trivial⟩
          · next document =>
              rw [not_not] at document
              split
              · exact ⟨.refl store, trivial⟩
              · split
                · next stale =>
                    have active : upload.status.Active := .inr stale.1
                    exact ⟨.commit (.refl store) locked (expire_becomes active _)
                      (reopen_follows dataset active rfl _),
                      continues_of_expired sound found key document _⟩
                · split
                  · next due =>
                      have active : upload.status.Active := .inl due.1
                      exact ⟨.commit (.refl store) locked (expire_becomes active _)
                        (reopen_follows dataset active rfl _),
                        continues_of_expired sound found key document _⟩
                  · split
                    · next expired =>
                        refine ⟨reserveUpload_rows
                          (continues_of_found sound found key document expired), ?_⟩
                        unfold reserveUpload
                        repeat' split
                        all_goals trivial
                    · refine ⟨.ofSame (sameRows_uploadInitResponse existing upload), ?_⟩
                      unfold uploadInitResponse
                      repeat' split
                      all_goals trivial

theorem advanceInitializer_rows (sound : store.Sound settings) {uploadId : UploadId}
    {datasetId : DatasetId} {phase : InitializePhase} (fits : phase.Fits store request) :
    RowsMove sizeBytes sha256 settings storage actor completing store
        (advanceInitializer settings storage request store outcome uploadId datasetId phase).2 ∧
      (advanceInitializer settings storage request store outcome uploadId datasetId phase).1.Fits
        (advanceInitializer settings storage request store outcome uploadId datasetId phase).2
        request := by
  cases phase with
  | requested =>
      simp only [advanceInitializer]
      repeat' split
      · exact ⟨.refl store, trivial⟩
      · exact ⟨.refl store, rfl⟩
      · exact ⟨.refl store, trivial⟩
  | locking existing => exact replayUpload_rows sound
  | reserving existing generation =>
      refine ⟨reserveUpload_rows fits, ?_⟩
      simp only [advanceInitializer, reserveUpload]
      repeat' split
      all_goals trivial
  | raced =>
      simp only [advanceInitializer]
      split
      · exact ⟨.refl store, trivial⟩
      · next raced upload _ =>
          split
          · exact ⟨.refl store, trivial⟩
          · refine ⟨.ofSame (sameRows_uploadInitResponse raced upload), ?_⟩
            unfold uploadInitResponse
            repeat' split
            all_goals trivial
  | answered answer => exact ⟨.refl store, trivial⟩

end

/-! ## Writing -/

section

variable {store : DatasetStore Content} {actor : Option ClaimToken}
  {request : LocalUploadRequest Content} {token : ClaimToken}

theorem expires_of_pending {row next : DatasetUploadSession}
    (reservation : next.toDatasetReservation = row.toDatasetReservation)
    (pending : row.status = .pending) (expired : next.status = .expired) :
    SessionBecomes actor row next :=
  .expires reservation (.inl pending) expired

theorem beginLocalUpload_rows :
    RowsMove sizeBytes sha256 settings storage actor completing store
      (beginLocalUpload settings storage store request token).2 := by
  simp only [beginLocalUpload]
  split
  · exact .refl store
  · split
    · split <;> exact .refl store
    · next dataset upload locked =>
        rcases lock_eq_some locked with ⟨found, parent⟩
        split
        · exact .refl store
        · split
          · exact .refl store
          · split
            · exact .refl store
            · next pending =>
                rw [not_not] at pending
                split
                · exact .refl store
                · split
                  · exact .commit (.refl store) locked (expire_becomes (.inl pending) _)
                      (reopen_follows dataset (.inl pending) rfl _)
                  · split
                    · exact .refl store
                    · split
                      · split
                        · exact .refl store
                        · exact .commit (.refl store) locked
                            (expires_of_pending rfl pending rfl)
                            (reopen_follows dataset (.inl pending) rfl _)
                      · exact .setSession (.refl store) found parent
                          (.keeps rfl rfl (fun _ => rfl) fun _ => rfl) id

theorem advanceLocalUpload_rows (sound : store.Sound settings) {outcome : DatasetOutcome}
    {deletions : DatasetObjectKey → Deletion} {phase : LocalUploadPhase} :
    RowsMove sizeBytes sha256 settings storage actor completing store
      (advanceLocalUpload settings storage sizeBytes request token store outcome deletions
        phase).2 := by
  cases phase with
  | requested => exact beginLocalUpload_rows
  | startWriting owned =>
      simp only [advanceLocalUpload]
      split
      · exact .refl store
      · exact .amend sound _ fun _ _ => touchUploadWrite_keeps
  | writing owned =>
      simp only [advanceLocalUpload]
      repeat' split
      all_goals first | exact .refl store | exact .ofSame (sameRows_writeUploadBody ..)
  | wrote owned result =>
      simp only [advanceLocalUpload]
      split
      · exact .refl store
      · exact .amend sound _ fun _ _ => touchUploadWrite_keeps
  | sealing owned =>
      simp only [advanceLocalUpload]
      split
      · exact .refl store
      · next upload locked =>
          rcases lock_eq_some locked with ⟨found, parent⟩
          split
          · exact .setSession (.refl store) found parent
              (.keeps rfl rfl (fun _ => rfl) fun _ => rfl) id
          · exact .refl store
  | timingOut owned =>
      simp only [advanceLocalUpload]
      split
      · exact .refl store
      · next dataset upload locked =>
          split
          · next claimed =>
              exact .commit (.refl store) locked (expires_of_pending rfl claimed.2.1 rfl)
                (reopen_follows dataset (.inl claimed.2.1) rfl _)
          · exact .refl store
  | cleaning owned clears answer => exact .ofSame (sameRows_deleteObject _ _)
  | clearing owned answer => exact .amend sound _ fun _ _ => clearUploadWriteClaim_keeps
  | answered answer => exact .refl store

end

/-! ## Finalizing -/

section

variable {store : DatasetStore Content} {request : FinalizeDatasetRequest} {token : ClaimToken}
  {outcome : DatasetOutcome} {deletions : DatasetObjectKey → Deletion}

theorem beginDatasetFinalization_rows :
    RowsMove sizeBytes sha256 settings storage (some token) completing store
      (beginDatasetFinalization settings storage store request token).2 := by
  simp only [beginDatasetFinalization]
  split
  · split <;> exact .refl store
  · next dataset upload locked =>
      split
      · exact .refl store
      · split
        · exact .refl store
        · split
          · exact .refl store
          · next uncompleted =>
              split
              · exact .refl store
              · next unabandoned =>
                  split
                  · exact .refl store
                  · split
                    · next finalizing =>
                        split
                        · exact .commit (.refl store) locked
                            (expire_becomes (.inr finalizing) _)
                            (reopen_follows dataset (.inr finalizing) rfl _)
                        · exact .refl store
                    · next unclaimed =>
                        have pending : upload.status = .pending := by
                          cases same : upload.status with
                          | pending => rfl
                          | finalizing => exact absurd same unclaimed
                          | completed => exact absurd same uncompleted
                          | failed => exact absurd (.inl same) unabandoned
                          | expired => exact absurd (.inr same) unabandoned
                        split
                        · exact .commit (.refl store) locked (expire_becomes (.inl pending) _)
                            (reopen_follows dataset (.inl pending) rfl _)
                        · split
                          · split
                            · exact .refl store
                            · exact .commit (.refl store) locked
                                (expires_of_pending rfl pending rfl)
                                (reopen_follows dataset (.inl pending) rfl _)
                          · refine .commit (.refl store) locked
                              (.claims rfl pending rfl rfl rfl rfl) ?_
                            have uncompleted : UploadStatus.finalizing ≠ .completed := nofun
                            exact .adjusted (.inl pending) uncompleted .processing none true
                              (.inr (.inl rfl))

theorem setUploadFailure_rows {owned : DatasetReservation} {failureCode : String}
    {retryable cleanupTemporary : Bool} {published : List CanonicalRole} {answer : HttpError} :
    RowsMove sizeBytes sha256 settings storage (some token) completing store
      (setUploadFailure store request token owned failureCode retryable cleanupTemporary published
        answer outcome deletions).2 := by
  unfold setUploadFailure
  split
  · exact .refl store
  · next dataset upload locked =>
      split
      · exact .refl store
      · next held =>
          simp only [not_or, not_not] at held
          have rows : store.SameRows (if cleanupTemporary then
              store.deleteObject upload.temporaryObjectKey (deletions upload.temporaryObjectKey)
            else (true, store)).2 := by
            split
            · exact sameRows_deleteObject ..
            · exact .refl store
          simp only
          split
          · exact .ofSame rows
          · exact .commit rows locked (failFinalization_ends held.2.1 held.2.2)
              (failProcessing_follows dataset held.2.1)

theorem commitDatasetFinalization_rows {owned : DatasetReservation}
    {snapshot : DatasetSnapshot Content} {published : List CanonicalRole} :
    RowsMove sizeBytes sha256 settings storage (some token) (some snapshot) store
      (commitDatasetFinalization sizeBytes sha256 store request token owned snapshot published
        outcome).2 := by
  unfold commitDatasetFinalization
  split
  · exact .refl store
  · next dataset upload locked =>
      split
      · exact .refl store
      · next held =>
          simp only [not_or, not_not] at held
          have committed : RowsMove sizeBytes sha256 settings storage (some token) (some snapshot)
              store
              (store.commit request.uploadId (upload.complete store.clock)
                (dataset.finalize sizeBytes sha256 upload.toDatasetReservation snapshot)) :=
            .commit (.refl store) locked
              (.ends rfl held.1 held.2.2 rfl (.inr (.inr rfl)) rfl)
              (.completes held.1 rfl snapshot rfl)
          simp only
          split
          · next effective =>
              cases effective with
              | true => exact committed
              | false => exact .refl store
          · exact committed

theorem recoverAbortedFinalization_rows {owned : DatasetReservation} {failureCode : String}
    {published : List CanonicalRole} {afterCommit cancelled : Bool} :
    RowsMove sizeBytes sha256 settings storage (some token) completing store
      (recoverAbortedFinalization store request token owned failureCode published afterCommit
        cancelled outcome deletions).2 := by
  unfold recoverAbortedFinalization
  split
  · exact .refl store
  · next dataset upload locked =>
      rcases lock_eq_some locked with ⟨found, parent⟩
      split
      · exact .refl store
      · split
        · exact .refl store
        · split
          · exact .refl store
          · next held =>
              rw [not_and, not_not] at held
              have rows : store.SameRows (cleanupPublishedKeys deletions
                  (published.map owned.canonicalObjectKey) store).2 := sameRows_cleanup ..
              simp only
              split
              · exact .ofSame rows
              · simp only
                split
                · next finalizing =>
                    exact .commit rows locked
                      (failFinalization_ends finalizing (held finalizing))
                      (failProcessing_follows dataset finalizing)
                · split
                  · exact .setSession rows found parent (setFailureCode_keeps _) id
                  · exact .ofSame rows

def DatasetFinalizePhase.recording :
    DatasetFinalizePhase Content → Option (DatasetSnapshot Content)
  | .committing _ _ snapshot _ => some snapshot
  | _ => none

theorem advanceDatasetFinalizer_rows (sound : store.Sound settings)
    {prepare : DatasetPreparation Content} {phase : DatasetFinalizePhase Content} :
    RowsMove sizeBytes sha256 settings storage (some token) phase.recording store
      (advanceDatasetFinalizer sizeBytes sha256 settings storage prepare request token store
        outcome deletions phase).2 := by
  cases phase with
  | requested => exact beginDatasetFinalization_rows
  | starting owned task published =>
      simp only [advanceDatasetFinalizer]
      split
      · exact .refl store
      · exact .amend sound _ fun _ _ => touchFinalization_keeps
  | operating owned task published =>
      cases task with
      | verify => exact .refl store
      | prepare verified => exact .refl store
      | publish verified snapshot role => exact .ofSame (sameRows_storeVerified ..)
  | operated owned result published =>
      simp only [advanceDatasetFinalizer]
      split
      · exact .refl store
      · exact .amend sound _ fun _ _ => touchFinalization_keeps
  | cleaning owned remaining succeeded reason =>
      cases remaining with
      | nil => exact .refl store
      | cons role remaining => exact .ofSame (sameRows_deleteObject ..)
  | failing owned failureCode retryable cleanupTemporary published answer =>
      exact setUploadFailure_rows
  | committing owned verified snapshot published => exact commitDatasetFinalization_rows
  | recovering owned failureCode published afterCommit cancelled =>
      exact recoverAbortedFinalization_rows
  | removingStaging owned recovered cancelled => exact .ofSame (sameRows_deleteObject ..)
  | marking owned =>
      apply RowsMove.amend sound
      intro row next same
      rcases Option.some.inj same with rfl
      exact ⟨setFailureCode_keeps _, rfl⟩
  | answered answer => exact .refl store

end

/-! ## Deleting, and the rest -/

section

variable {store after : DatasetStore Content} {actor : Option ClaimToken}

theorem advanceDeletion_rows {request : DeleteDatasetRequest}
    {deletions : DatasetObjectKey → Deletion} {pick : Nat} {phase : DeletePhase} :
    RowsMove sizeBytes sha256 settings storage actor completing store
      (advanceDeletion storage request store deletions pick phase).2 := by
  cases phase with
  | requested =>
      simp only [advanceDeletion, beginDeletion]
      split
      · exact .refl store
      · next dataset found =>
          repeat' split
          all_goals
            first
            | exact .refl store
            | exact .deletion request.datasetId dataset _ found (.inl rfl) rfl rfl rfl rfl
  | deleting remaining succeeded =>
      simp only [advanceDeletion]
      split
      · exact .refl store
      · exact .ofSame (sameRows_deleteObject ..)
  | failing =>
      simp only [advanceDeletion]
      split
      · exact .refl store
      · next dataset found =>
          exact .deletion request.datasetId dataset _ found (.inr rfl) rfl rfl rfl rfl
  | removing =>
      simp only [advanceDeletion]
      split
      · exact .refl store
      · exact .removed request.datasetId rfl rfl rfl rfl
  | answered answer => exact .refl store

theorem heartbeatDatasetProcess_rows (sound : store.Sound settings)
    (phase : DatasetPhase Content) :
    RowsMove sizeBytes sha256 settings storage actor completing store
      (heartbeatDatasetProcess store phase) := by
  unfold heartbeatDatasetProcess
  split
  · exact .amend sound _ fun _ _ => touchFinalization_keeps
  · exact .amend sound _ fun _ _ => touchUploadWrite_keeps
  · exact .refl store

theorem claimCleanup_becomes {row : DatasetUploadSession} (now : Time) (runId : Nat)
    (inactive : row.status = .pending ∨ row.status.Abandoned) :
    SessionBecomes actor row (row.claimCleanup now runId) ∧
      ((row.claimCleanup now runId).status = .completed → row.status = .completed) := by
  rcases inactive with pending | abandoned
  · have expired : (row.claimCleanup now runId).status = .expired := if_pos pending
    exact ⟨.expires rfl (.inl pending) expired,
      fun completed => nomatch expired.symm.trans completed⟩
  · have terminal : row.status.Terminal := .inr abandoned
    have unpending : row.status ≠ .pending := fun pending => terminal.not_active (.inl pending)
    have same : (row.claimCleanup now runId).status = row.status := if_neg unpending
    refine ⟨.keeps rfl same ?_ ?_, fun completed => same.symm.trans completed⟩
    · exact fun finalizing => absurd (.inr finalizing) terminal.not_active
    · exact fun active => absurd active terminal.not_active

/-- A row that is not active keeps what the ledger watches in every update of the cleanup. -/
theorem keeps_of_abandoned {row next : DatasetUploadSession}
    (reservation : next.toDatasetReservation = row.toDatasetReservation)
    (status : next.status = row.status) (abandoned : row.status.Abandoned) :
    SessionBecomes actor row next := by
  have terminal : row.status.Terminal := .inr abandoned
  refine .keeps reservation status ?_ ?_
  · exact fun finalizing => absurd (.inr finalizing) terminal.not_active
  · exact fun active => absurd active terminal.not_active

theorem deleteClaimedStagingObject_rows {uploadId : UploadId} {upload : DatasetUploadSession}
    {dataset : Dataset} {deletion : Deletion} (found : store.sessions uploadId = some upload)
    (parent : store.datasets upload.datasetId = some dataset)
    (abandoned : upload.status.Abandoned)
    (deleted : deleteClaimedStagingObject settings storage store uploadId upload deletion =
      some after) : RowsMove sizeBytes sha256 settings storage actor completing store after := by
  have rows : store.SameRows (store.deleteObject upload.temporaryObjectKey deletion).2 :=
    sameRows_deleteObject ..
  unfold deleteClaimedStagingObject at deleted
  split at deleted
  · rcases Option.some.inj deleted with rfl
    exact .setSession (.refl store) found parent (keeps_of_abandoned rfl rfl abandoned) id
  · split at deleted
    · nomatch deleted
    · simp only at deleted
      split at deleted
      · rcases Option.some.inj deleted with rfl
        exact .setSession rows found parent (keeps_of_abandoned rfl rfl abandoned) id
      · split at deleted
        · rcases Option.some.inj deleted with rfl
          exact .setSession rows found parent (keeps_of_abandoned rfl rfl abandoned) id
        · rcases Option.some.inj deleted with rfl
          exact .setSession rows found parent (keeps_of_abandoned rfl rfl abandoned) id

theorem disturbDatasetStore_rows {disturbance : DatasetDisturbance}
    (disturbed : disturbDatasetStore settings storage disturbance store = some after) :
    RowsMove sizeBytes sha256 settings storage actor completing store after := by
  cases disturbance with
  | tick elapsed =>
      rcases Option.some.inj disturbed with rfl
      exact .ofSame ⟨rfl, rfl, rfl, rfl⟩
  | importDataset datasetId owner storageUri flatStorageUri =>
      simp only [disturbDatasetStore] at disturbed
      split at disturbed
      · nomatch disturbed
      · next fresh =>
          rcases Option.some.inj disturbed with rfl
          exact .imported datasetId _ fresh rfl rfl rfl rfl rfl
  | createExperiment experimentId datasetId user =>
      simp only [disturbDatasetStore] at disturbed
      repeat' split at disturbed
      all_goals
        cases disturbed
        try exact .ofSame ⟨rfl, rfl, rfl, rfl⟩
  | deleteExperiment experimentId =>
      simp only [disturbDatasetStore] at disturbed
      repeat' split at disturbed
      all_goals
        cases disturbed
        try exact .ofSame ⟨rfl, rfl, rfl, rfl⟩
  | createJob experimentId datasetId =>
      simp only [disturbDatasetStore] at disturbed
      repeat' split at disturbed
      all_goals
        cases disturbed
        try exact .ofSame ⟨rfl, rfl, rfl, rfl⟩
  | claimCleanup uploadId runId =>
      simp only [disturbDatasetStore] at disturbed
      split at disturbed
      · nomatch disturbed
      · next dataset upload locked =>
          rcases lock_eq_some locked with ⟨found, parent⟩
          split at disturbed
          · next eligible =>
              rcases Option.some.inj disturbed with rfl
              have becomes : SessionBecomes actor upload (upload.claimCleanup store.clock runId) ∧
                  ((upload.claimCleanup store.clock runId).status = .completed →
                    upload.status = .completed) :=
                claimCleanup_becomes store.clock runId eligible.1.2.1
              exact .setSession (.refl store) found parent becomes.1 becomes.2
          · nomatch disturbed
  | deleteStaging uploadId runId deletion =>
      simp only [disturbDatasetStore] at disturbed
      split at disturbed
      · nomatch disturbed
      · next dataset upload locked =>
          rcases lock_eq_some locked with ⟨found, parent⟩
          split at disturbed
          · next claimed =>
              exact deleteClaimedStagingObject_rows found parent claimed.2.2.2.1 disturbed
          · nomatch disturbed
  | interruptStaging uploadId runId deletion =>
      simp only [disturbDatasetStore] at disturbed
      split at disturbed
      · nomatch disturbed
      · split at disturbed
        · rcases Option.map_eq_some_iff.mp disturbed with ⟨middle, -, rfl⟩
          exact .ofSame ⟨rfl, rfl, rfl, rfl⟩
        · nomatch disturbed

end

end

end RvcOrchestrator.Manager

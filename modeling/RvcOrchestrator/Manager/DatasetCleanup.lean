import RvcOrchestrator.Manager.DatasetLifecycle

/-! # Dataset uploads: the maintenance

The maintenance deletes only staged objects of abandoned sessions, takes no session from a
writer that is alive, and completes a cleanup only after two deletions.
-/

namespace RvcOrchestrator.Manager

open RvcOrchestrator.Foundation RvcOrchestrator.Contracts

section

variable {Content : Type} {sizeBytes : Content → Nat} {sha256 : Content → String}
  {settings : DatasetSettings} {storage : StorageIdentity}

/-! ## Who sets the markers -/

namespace DatasetUploadSession

/-- A write claim has its first heartbeat from the start. -/
def Beating (row : DatasetUploadSession) : Prop :=
  row.uploadWriteToken ≠ none → row.uploadHeartbeatAt ≠ none

structure MarkersKept (row next : DatasetUploadSession) : Prop where
  reservation : next.toDatasetReservation = row.toDatasetReservation
  firstDeleted : next.cleanupFirstDeletedAt = row.cleanupFirstDeletedAt
  completed : next.cleanupCompletedAt = row.cleanupCompletedAt
  beating : row.Beating → next.Beating

structure Unmarked (row : DatasetUploadSession) : Prop where
  firstDeleted : row.cleanupFirstDeletedAt = none
  completed : row.cleanupCompletedAt = none
  unwritten : row.uploadWriteToken = none

variable {row next : DatasetUploadSession}

theorem MarkersKept.refl (row : DatasetUploadSession) : row.MarkersKept row :=
  ⟨rfl, rfl, rfl, id⟩

/-- An update that ends the write claim, or leaves it as it is. -/
theorem MarkersKept.unwritten (reservation : next.toDatasetReservation = row.toDatasetReservation)
    (firstDeleted : next.cleanupFirstDeletedAt = row.cleanupFirstDeletedAt)
    (completed : next.cleanupCompletedAt = row.cleanupCompletedAt)
    (unwritten : next.uploadWriteToken = none) : row.MarkersKept next :=
  ⟨reservation, firstDeleted, completed, fun _ written => absurd unwritten written⟩

theorem touchUploadWrite_marks {now : Time} {token : ClaimToken} {generation : Nat}
    (touched : row.touchUploadWrite now token generation = some next) : row.MarkersKept next := by
  unfold touchUploadWrite at touched
  split at touched
  · rcases Option.some.inj touched with rfl
    exact ⟨rfl, rfl, rfl, fun _ _ => Option.some_ne_none now⟩
  · nomatch touched

theorem clearUploadWriteClaim_marks {now : Time} {token : ClaimToken} {generation : Nat}
    (cleared : row.clearUploadWriteClaim now token generation = some next) :
    row.MarkersKept next := by
  unfold clearUploadWriteClaim at cleared
  split at cleared
  · rcases Option.some.inj cleared with rfl
    exact .unwritten rfl rfl rfl rfl
  · nomatch cleared

theorem touchFinalization_marks {now : Time} {token : ClaimToken} {generation : Nat}
    (touched : row.touchFinalization now token generation = some next) :
    row.MarkersKept next := by
  unfold touchFinalization at touched
  split at touched
  · rcases Option.some.inj touched with rfl
    exact ⟨rfl, rfl, rfl, id⟩
  · nomatch touched

end DatasetUploadSession

namespace DatasetStore

variable {store middle after : DatasetStore Content}

def MarkersKept (store after : DatasetStore Content) : Prop :=
  ∀ uploadId next, after.sessions uploadId = some next →
    next.Unmarked ∨ ∃ row, store.sessions uploadId = some row ∧ row.MarkersKept next

theorem MarkersKept.ofSessions (sessions : after.sessions = store.sessions) :
    store.MarkersKept after :=
  fun _ next found => .inr ⟨next, sessions ▸ found, .refl next⟩

theorem MarkersKept.ofSame (rows : store.SameRows after) : store.MarkersKept after :=
  .ofSessions rows.sessions

theorem MarkersKept.refl (store : DatasetStore Content) : store.MarkersKept store :=
  .ofSessions rfl

/-- The row of one session is replaced. -/
theorem MarkersKept.update (rows : middle.sessions = store.sessions) {uploadId : UploadId}
    {next : DatasetUploadSession}
    (marks : next.Unmarked ∨ ∃ row, store.sessions uploadId = some row ∧ row.MarkersKept next)
    (sessions : after.sessions = Function.update middle.sessions uploadId (some next)) :
    store.MarkersKept after := by
  intro otherId other found
  rw [sessions, rows] at found
  by_cases same : otherId = uploadId
  · rcases same with rfl
    rw [Function.update_self] at found
    rcases Option.some.inj found with rfl
    exact marks
  · rw [Function.update_of_ne same] at found
    exact .inr ⟨other, found, .refl other⟩

theorem MarkersKept.amend {uploadId : UploadId}
    {update : DatasetUploadSession → Option DatasetUploadSession}
    (marks : ∀ row next, update row = some next → row.MarkersKept next) :
    store.MarkersKept (store.amend uploadId update).2 := by
  unfold DatasetStore.amend
  split
  · exact .refl store
  · next next updated =>
      rcases Option.bind_eq_some_iff.mp updated with ⟨row, found, becomes⟩
      exact .update rfl (.inr ⟨row, found, marks row next becomes⟩) rfl

/-- A commit of both rows, after operations of the storage. -/
theorem MarkersKept.commit (rows : store.SameRows middle) {uploadId : UploadId}
    {row next : DatasetUploadSession} {dataset dataset' : Dataset}
    (locked : store.lockDatasetThenUpload uploadId = some (dataset, row))
    (marks : row.MarkersKept next) : store.MarkersKept (middle.commit uploadId next dataset') :=
  .update rows.sessions (.inr ⟨row, (lock_eq_some locked).1, marks⟩) rfl

theorem MarkersKept.setSession (rows : store.SameRows middle) {uploadId : UploadId}
    {row next : DatasetUploadSession} {dataset : Dataset}
    (locked : store.lockDatasetThenUpload uploadId = some (dataset, row))
    (marks : row.MarkersKept next) : store.MarkersKept (middle.setSession uploadId next) :=
  .update rows.sessions (.inr ⟨row, (lock_eq_some locked).1, marks⟩) rfl

end DatasetStore

open DatasetStore DatasetUploadSession

/-! ## The requests -/

section

variable {store after : DatasetStore Content} {outcome : DatasetOutcome}

theorem reserveUpload_marks {request : DatasetUploadInitRequest} {existing : Option DatasetId}
    {generation : Nat} {uploadId : UploadId} {datasetId : DatasetId} :
    store.MarkersKept (reserveUpload settings storage store request existing generation outcome
      uploadId datasetId).2 := by
  unfold reserveUpload
  split
  · exact .refl store
  · split
    · exact .refl store
    · split
      · exact .refl store
      · split
        · exact .refl store
        · exact .update rfl (.inl ⟨rfl, rfl, rfl⟩) (sameRows_grantUpload _).sessions

theorem advanceInitializer_marks {request : DatasetUploadInitRequest} {uploadId : UploadId}
    {datasetId : DatasetId} {phase : InitializePhase} :
    store.MarkersKept (advanceInitializer settings storage request store outcome uploadId
      datasetId phase).2 := by
  cases phase with
  | requested =>
      simp only [advanceInitializer]
      repeat' split
      all_goals exact .refl store
  | locking existing =>
      simp only [advanceInitializer, replayUpload]
      split
      · exact .refl store
      · next dataset upload locked =>
          split
          · exact .refl store
          · split
            · exact .refl store
            · split
              · exact .refl store
              · split
                · exact .commit (.refl store) locked (.unwritten rfl rfl rfl rfl)
                · split
                  · exact .commit (.refl store) locked (.unwritten rfl rfl rfl rfl)
                  · split
                    · exact reserveUpload_marks
                    · exact .ofSame (sameRows_uploadInitResponse ..)
  | reserving existing generation => exact reserveUpload_marks
  | raced =>
      simp only [advanceInitializer]
      split
      · exact .refl store
      · split
        · exact .refl store
        · exact .ofSame (sameRows_uploadInitResponse ..)
  | answered answer => exact .refl store

theorem beginLocalUpload_marks {request : LocalUploadRequest Content} {token : ClaimToken} :
    store.MarkersKept (beginLocalUpload settings storage store request token).2 := by
  simp only [beginLocalUpload]
  split
  · exact .refl store
  · split
    · split <;> exact .refl store
    · next dataset upload locked =>
        repeat' split
        all_goals
          first
          | exact .refl store
          | exact .commit (.refl store) locked (.unwritten rfl rfl rfl rfl)
          | exact .setSession (.refl store) locked
              ⟨rfl, rfl, rfl, fun _ _ => Option.some_ne_none store.clock⟩

theorem advanceLocalUpload_marks {request : LocalUploadRequest Content} {token : ClaimToken}
    {deletions : DatasetObjectKey → Deletion} {phase : LocalUploadPhase} :
    store.MarkersKept (advanceLocalUpload settings storage sizeBytes request token store outcome
      deletions phase).2 := by
  cases phase with
  | requested => exact beginLocalUpload_marks
  | startWriting owned =>
      simp only [advanceLocalUpload]
      split
      · exact .refl store
      · exact .amend fun _ _ => touchUploadWrite_marks
  | writing owned =>
      simp only [advanceLocalUpload]
      repeat' split
      all_goals first | exact .refl store | exact .ofSame (sameRows_writeUploadBody ..)
  | wrote owned result =>
      simp only [advanceLocalUpload]
      split
      · exact .refl store
      · exact .amend fun _ _ => touchUploadWrite_marks
  | sealing owned =>
      simp only [advanceLocalUpload]
      split
      · exact .refl store
      · next dataset upload locked =>
          split
          · exact .setSession (.refl store) locked (.unwritten rfl rfl rfl rfl)
          · exact .refl store
  | timingOut owned =>
      simp only [advanceLocalUpload]
      split
      · exact .refl store
      · next dataset upload locked =>
          split
          · exact .commit (.refl store) locked (.unwritten rfl rfl rfl rfl)
          · exact .refl store
  | cleaning owned clears answer => exact .ofSame (sameRows_deleteObject _ _)
  | clearing owned answer => exact .amend fun _ _ => clearUploadWriteClaim_marks
  | answered answer => exact .refl store

theorem beginDatasetFinalization_marks {request : FinalizeDatasetRequest} {token : ClaimToken} :
    store.MarkersKept (beginDatasetFinalization settings storage store request token).2 := by
  simp only [beginDatasetFinalization]
  split
  · split <;> exact .refl store
  · next dataset upload locked =>
      repeat' split
      all_goals
        first
        | exact .refl store
        | exact .commit (.refl store) locked (.unwritten rfl rfl rfl rfl)
        | exact .commit (.refl store) locked ⟨rfl, rfl, rfl, id⟩

theorem setUploadFailure_marks {request : FinalizeDatasetRequest} {token : ClaimToken}
    {owned : DatasetReservation} {failureCode : String} {retryable cleanupTemporary : Bool}
    {published : List CanonicalRole} {answer : HttpError}
    {deletions : DatasetObjectKey → Deletion} :
    store.MarkersKept (setUploadFailure store request token owned failureCode retryable
      cleanupTemporary published answer outcome deletions).2 := by
  unfold setUploadFailure
  split
  · exact .refl store
  · next dataset upload locked =>
      split
      · exact .refl store
      · have rows : store.SameRows (if cleanupTemporary then
            store.deleteObject upload.temporaryObjectKey (deletions upload.temporaryObjectKey)
          else (true, store)).2 := by
          split
          · exact sameRows_deleteObject ..
          · exact .refl store
        simp only
        split
        · exact .ofSame rows
        · exact .commit rows locked ⟨rfl, rfl, rfl, id⟩

theorem recoverAbortedFinalization_marks {request : FinalizeDatasetRequest} {token : ClaimToken}
    {owned : DatasetReservation} {failureCode : String} {published : List CanonicalRole}
    {afterCommit cancelled : Bool} {deletions : DatasetObjectKey → Deletion} :
    store.MarkersKept (recoverAbortedFinalization store request token owned failureCode published
      afterCommit cancelled outcome deletions).2 := by
  unfold recoverAbortedFinalization
  split
  · exact .refl store
  · next dataset upload locked =>
      split
      · exact .refl store
      · split
        · exact .refl store
        · split
          · exact .refl store
          · have rows : store.SameRows (cleanupPublishedKeys deletions
                (published.map owned.canonicalObjectKey) store).2 := sameRows_cleanup ..
            simp only
            split
            · exact .ofSame rows
            · simp only
              split
              · exact .commit rows locked ⟨rfl, rfl, rfl, id⟩
              · split
                · exact .setSession rows locked ⟨rfl, rfl, rfl, id⟩
                · exact .ofSame rows

theorem advanceDatasetFinalizer_marks {prepare : DatasetPreparation Content}
    {request : FinalizeDatasetRequest} {token : ClaimToken}
    {deletions : DatasetObjectKey → Deletion} {phase : DatasetFinalizePhase Content} :
    store.MarkersKept (advanceDatasetFinalizer sizeBytes sha256 settings storage prepare request
      token store outcome deletions phase).2 := by
  cases phase with
  | requested => exact beginDatasetFinalization_marks
  | starting owned task published =>
      simp only [advanceDatasetFinalizer]
      split
      · exact .refl store
      · exact .amend fun _ _ => touchFinalization_marks
  | operating owned task published =>
      cases task with
      | verify => exact .refl store
      | prepare verified => exact .refl store
      | publish verified snapshot role => exact .ofSame (sameRows_storeVerified ..)
  | operated owned result published =>
      simp only [advanceDatasetFinalizer]
      split
      · exact .refl store
      · exact .amend fun _ _ => touchFinalization_marks
  | cleaning owned remaining succeeded reason =>
      cases remaining with
      | nil => exact .refl store
      | cons role remaining => exact .ofSame (sameRows_deleteObject ..)
  | failing owned failureCode retryable cleanupTemporary published answer =>
      exact setUploadFailure_marks
  | committing owned verified snapshot published =>
      simp only [advanceDatasetFinalizer, commitDatasetFinalization]
      split
      · exact .refl store
      · next dataset upload locked =>
          repeat' split
          all_goals
            first
            | exact .refl store
            | exact .commit (.refl store) locked ⟨rfl, rfl, rfl, id⟩
  | recovering owned failureCode published afterCommit cancelled =>
      exact recoverAbortedFinalization_marks
  | removingStaging owned recovered cancelled => exact .ofSame (sameRows_deleteObject ..)
  | marking owned =>
      apply MarkersKept.amend
      intro row next same
      rcases Option.some.inj same with rfl
      exact ⟨rfl, rfl, rfl, id⟩
  | answered answer => exact .refl store

theorem advanceDeletion_marks {request : DeleteDatasetRequest}
    {deletions : DatasetObjectKey → Deletion} {pick : Nat} {phase : DeletePhase} :
    store.MarkersKept (advanceDeletion storage request store deletions pick phase).2 := by
  cases phase with
  | requested =>
      simp only [advanceDeletion, beginDeletion]
      repeat' split
      all_goals exact .ofSessions rfl
  | deleting remaining succeeded =>
      simp only [advanceDeletion]
      split
      · exact .refl store
      · exact .ofSame (sameRows_deleteObject ..)
  | failing =>
      simp only [advanceDeletion]
      split
      · exact .refl store
      · exact .ofSessions rfl
  | removing =>
      simp only [advanceDeletion]
      split
      · exact .refl store
      · intro uploadId next found
        exact .inr ⟨next, (Option.filter_eq_some_iff.mp found).1, .refl next⟩
  | answered answer => exact .refl store

theorem heartbeatDatasetProcess_marks (phase : DatasetPhase Content) :
    store.MarkersKept (heartbeatDatasetProcess store phase) := by
  unfold heartbeatDatasetProcess
  split
  · exact .amend fun _ _ => touchFinalization_marks
  · exact .amend fun _ _ => touchUploadWrite_marks
  · exact .refl store

/-- No request sets a marker of the cleanup. -/
theorem advance_marks {prepare : DatasetPreparation Content} (choice : DatasetChoice)
    (phase : DatasetPhase Content) :
    store.MarkersKept
      (advanceDatasetProcess sizeBytes sha256 settings storage prepare choice phase store).2 := by
  cases choice with
  | heartbeat => exact heartbeatDatasetProcess_marks phase
  | go outcome deletions pick uploadId datasetId =>
      cases phase with
      | initializer request phase => exact advanceInitializer_marks
      | writer request token phase => exact advanceLocalUpload_marks
      | presigned key content => exact .ofSame (sameRows_storeVerified ..)
      | finalizer request token phase => exact advanceDatasetFinalizer_marks
      | deleter request phase => exact advanceDeletion_marks

end

/-! ## The maintenance -/

section

variable {store after : DatasetStore Content}

theorem claimCleanup_unmarked_or_kept {row : DatasetUploadSession} {now : Time} {runId : Nat}
    (uncompleted : row.cleanupCompletedAt = none) :
    (row.claimCleanup now runId).Unmarked ∨ row.MarkersKept (row.claimCleanup now runId) := by
  by_cases same : row.cleanupClaimGeneration = some row.generation
  · exact .inr (.unwritten rfl (if_pos same) rfl rfl)
  · exact .inl ⟨if_neg same, uncompleted, rfl⟩

variable (settings storage) in
/-- A deletion by the maintenance, of the session as it is then, that gets as far as the
storage. -/
structure DatasetStore.ReachesStaged (store : DatasetStore Content) (uploadId : UploadId)
    (runId : Nat) (row : DatasetUploadSession) : Prop where
  found : store.sessions uploadId = some row
  claimed : row.CleanupClaimed uploadId runId
  holds : storage.Holds row.toDatasetReservation
  due : ∀ firstDeletedAt ∈ row.cleanupFirstDeletedAt,
    firstDeletedAt + seconds settings.confirmationGrace ≤ store.clock

/-- What a deletion by the maintenance does. -/
theorem deleteClaimed_cases {uploadId : UploadId} {row : DatasetUploadSession} {runId : Nat}
    {deletion : Deletion} (found : store.sessions uploadId = some row)
    (claimed : row.CleanupClaimed uploadId runId)
    (deleted : deleteClaimedStagingObject settings storage store uploadId row deletion =
      some after) :
    ∃ next, after.sessions = Function.update store.sessions uploadId (some next) ∧
      (row.MarkersKept next ∨
        store.ReachesStaged settings storage uploadId runId row ∧ deletion = .works ∧
          after.objects row.temporaryObjectKey = none ∧
          (row.cleanupFirstDeletedAt = none ∧ next = row.recordFirstDeletion store.clock ∨
            row.cleanupFirstDeletedAt ≠ none ∧ next = row.completeCleanup store.clock)) := by
  have rows : (store.deleteObject row.temporaryObjectKey deletion).2.sessions = store.sessions :=
    (sameRows_deleteObject ..).sessions
  simp only [deleteClaimedStagingObject] at deleted
  split at deleted
  · rcases Option.some.inj deleted with rfl
    exact ⟨_, rfl, .inl ⟨rfl, rfl, rfl, id⟩⟩
  · next holds =>
      split at deleted
      · cases deleted
      · next undue =>
          have reaches : store.ReachesStaged settings storage uploadId runId row := by
            refine ⟨found, claimed, not_not.mp holds, fun firstDeletedAt first => ?_⟩
            exact le_of_not_gt fun early => undue ⟨firstDeletedAt, first, early⟩
          split at deleted
          · rcases Option.some.inj deleted with rfl
            exact ⟨_, congrArg (Function.update · uploadId _) rows, .inl ⟨rfl, rfl, rfl, id⟩⟩
          · next works =>
              have works : deletion = .works :=
                of_decide_eq_true (Bool.not_eq_false _ ▸ works)
              rcases works with rfl
              have removed : (store.deleteObject row.temporaryObjectKey .works).2.objects
                  row.temporaryObjectKey = none := Function.update_self ..
              split at deleted
              · next first =>
                  rcases Option.some.inj deleted with rfl
                  exact ⟨_, congrArg (Function.update · uploadId _) rows,
                    .inr ⟨reaches, rfl, removed, .inl ⟨first, rfl⟩⟩⟩
              · next second =>
                  rcases Option.some.inj deleted with rfl
                  exact ⟨_, congrArg (Function.update · uploadId _) rows,
                    .inr ⟨reaches, rfl, removed, .inr ⟨second, rfl⟩⟩⟩

/-- Only a deletion that works sets a marker of the cleanup. -/
theorem disturb_marks {disturbance : DatasetDisturbance}
    (disturbed : disturbDatasetStore settings storage disturbance store = some after) :
    store.MarkersKept after ∨ ∃ uploadId runId row next,
      disturbance = .deleteStaging uploadId runId .works ∧
        store.ReachesStaged settings storage uploadId runId row ∧
        after.objects row.temporaryObjectKey = none ∧
        after.sessions = Function.update store.sessions uploadId (some next) ∧
        (row.cleanupFirstDeletedAt = none ∧ next = row.recordFirstDeletion store.clock ∨
          row.cleanupFirstDeletedAt ≠ none ∧ next = row.completeCleanup store.clock) := by
  cases disturbance with
  | tick elapsed =>
      rcases Option.some.inj disturbed with rfl
      exact .inl (.ofSessions rfl)
  | importDataset datasetId owner storageUri flatStorageUri =>
      simp only [disturbDatasetStore] at disturbed
      split at disturbed
      · cases disturbed
      · rcases Option.some.inj disturbed with rfl
        exact .inl (.ofSessions rfl)
  | createExperiment experimentId datasetId user =>
      simp only [disturbDatasetStore] at disturbed
      split at disturbed
      · cases disturbed
      · split at disturbed
        · rcases Option.some.inj disturbed with rfl
          exact .inl (.ofSessions rfl)
        · cases disturbed
  | deleteExperiment experimentId =>
      simp only [disturbDatasetStore] at disturbed
      split at disturbed
      · cases disturbed
      · rcases Option.some.inj disturbed with rfl
        exact .inl (.ofSessions rfl)
  | createJob experimentId datasetId =>
      simp only [disturbDatasetStore] at disturbed
      split at disturbed
      · cases disturbed
      · split at disturbed
        · rcases Option.some.inj disturbed with rfl
          exact .inl (.ofSessions rfl)
        · cases disturbed
  | claimCleanup uploadId runId =>
      simp only [disturbDatasetStore] at disturbed
      split at disturbed
      · cases disturbed
      · next dataset upload locked =>
          split at disturbed
          · next eligible =>
              rcases Option.some.inj disturbed with rfl
              refine .inl (.update rfl ?_ rfl)
              have marks : (upload.claimCleanup store.clock runId).Unmarked ∨
                  upload.MarkersKept (upload.claimCleanup store.clock runId) :=
                claimCleanup_unmarked_or_kept eligible.1.1
              rcases marks with unmarked | kept
              · exact .inl unmarked
              · exact .inr ⟨upload, (lock_eq_some locked).1, kept⟩
          · cases disturbed
  | deleteStaging uploadId runId deletion =>
      simp only [disturbDatasetStore] at disturbed
      split at disturbed
      · cases disturbed
      · next dataset upload locked =>
          have found := (lock_eq_some locked).1
          split at disturbed
          · next claimed =>
              rcases deleteClaimed_cases found claimed disturbed with
                ⟨next, sessions, kept | ⟨reaches, works, removed, marks⟩⟩
              · exact .inl (.update rfl (.inr ⟨upload, found, kept⟩) sessions)
              · rcases works with rfl
                exact .inr ⟨uploadId, runId, upload, next, rfl, reaches, removed, sessions, marks⟩
          · cases disturbed
  | interruptStaging uploadId runId deletion =>
      simp only [disturbDatasetStore] at disturbed
      split at disturbed
      · cases disturbed
      · split at disturbed
        · rcases Option.map_eq_some_iff.mp disturbed with ⟨middle, -, rfl⟩
          exact .inl (.ofSessions rfl)
        · cases disturbed

end

/-! ## Runs -/

section

variable {prepare : DatasetPreparation Content}

/-- Only a deletion by the maintenance that works sets a marker of the cleanup. -/
theorem step_marks (situation : DatasetSituation Content) (event : DatasetEvent Content) :
    let after :=
      ((datasetWorkforce sizeBytes sha256 settings storage prepare).step situation event).state
    situation.state.MarkersKept after ∨ ∃ uploadId runId row next,
      event = .disturb (.deleteStaging uploadId runId .works) ∧
        situation.state.ReachesStaged settings storage uploadId runId row ∧
        after.objects row.temporaryObjectKey = none ∧
        after.sessions = Function.update situation.state.sessions uploadId (some next) ∧
        (row.cleanupFirstDeletedAt = none ∧
            next = row.recordFirstDeletion situation.state.clock ∨
          row.cleanupFirstDeletedAt ≠ none ∧
            next = row.completeCleanup situation.state.clock) := by
  cases event with
  | launch launch =>
      simp only [Workforce.step]
      split
      · exact .inl (.refl _)
      · next phase state launched => exact .inl (.ofSame (launch_sameFrame launched).1)
  | proceed place choice =>
      cases found : situation.phases[place]? with
      | none =>
          simp only [Workforce.step, found]
          exact .inl (.refl _)
      | some phase =>
          rw [Workforce.step_proceed found, Workforce.state_move]
          exact .inl (advance_marks choice phase)
  | stop place => exact .inl (.refl _)
  | disturb disturbance =>
      simp only [Workforce.step]
      split
      · exact .inl (.refl _)
      · next state disturbed =>
          rcases disturb_marks disturbed with kept | ⟨uploadId, runId, row, next, rfl, deletes⟩
          · exact .inl kept
          · exact .inr ⟨uploadId, runId, row, next, rfl, deletes⟩

theorem datasetRun_snoc (events : List (DatasetEvent Content)) (event : DatasetEvent Content) :
    datasetRun sizeBytes sha256 settings storage prepare (events ++ [event]) =
      (datasetWorkforce sizeBytes sha256 settings storage prepare).step
        (datasetRun sizeBytes sha256 settings storage prepare events) event :=
  run_append ..

variable (sizeBytes sha256 settings storage prepare) in
/-- The event at `place` is a deletion by the maintenance that reaches the storage, at `time`,
and removes the object. -/
structure StagedDeletion (events : List (DatasetEvent Content)) (uploadId : UploadId)
    (key : DatasetObjectKey) (place : Nat) (time : Time) : Prop where
  reaches : ∃ runId row, events[place]? = some (.disturb (.deleteStaging uploadId runId .works)) ∧
    (datasetRun sizeBytes sha256 settings storage prepare
      (events.take place)).state.ReachesStaged settings storage uploadId runId row ∧
    row.temporaryObjectKey = key
  time : (datasetRun sizeBytes sha256 settings storage prepare (events.take place)).state.clock =
    time
  removed : (datasetRun sizeBytes sha256 settings storage prepare
    (events.take (place + 1))).state.objects key = none

variable {events : List (DatasetEvent Content)} {event : DatasetEvent Content}
  {uploadId : UploadId} {key : DatasetObjectKey} {place : Nat} {time : Time}

theorem StagedDeletion.lt
    (deletion : StagedDeletion sizeBytes sha256 settings storage prepare events uploadId key place
      time) : place < events.length := by
  rcases deletion.reaches with ⟨runId, row, found, -⟩
  exact (List.getElem?_eq_some_iff.mp found).1

theorem StagedDeletion.snoc
    (deletion : StagedDeletion sizeBytes sha256 settings storage prepare events uploadId key place
      time) :
    StagedDeletion sizeBytes sha256 settings storage prepare (events ++ [event]) uploadId key
      place time := by
  have before : place < events.length := deletion.lt
  have sameTake : (events ++ [event]).take place = events.take place :=
    List.take_append_of_le_length before.le
  have sameNext : (events ++ [event]).take (place + 1) = events.take (place + 1) :=
    List.take_append_of_le_length before
  rcases deletion.reaches with ⟨runId, row, found, reaches, same⟩
  refine ⟨⟨runId, row, ?_, ?_, same⟩, ?_, ?_⟩
  · rw [List.getElem?_append_left before]
    exact found
  · rw [sameTake]
    exact reaches
  · rw [sameTake]
    exact deletion.time
  · rw [sameNext]
    exact deletion.removed

/-- The deletion that the last event of a run makes. -/
theorem StagedDeletion.last {runId : Nat} {row : DatasetUploadSession}
    (reaches : (datasetRun sizeBytes sha256 settings storage prepare events).state.ReachesStaged
      settings storage uploadId runId row)
    (removed : (datasetRun sizeBytes sha256 settings storage prepare (events ++
      [.disturb (.deleteStaging uploadId runId .works)])).state.objects row.temporaryObjectKey =
        none) :
    StagedDeletion sizeBytes sha256 settings storage prepare
      (events ++ [.disturb (.deleteStaging uploadId runId .works)]) uploadId
      row.temporaryObjectKey events.length
      (datasetRun sizeBytes sha256 settings storage prepare events).state.clock := by
  have taken : ∀ event : DatasetEvent Content, (events ++ [event]).take events.length = events :=
    fun _ => List.take_left
  refine ⟨⟨runId, row, List.getElem?_concat_length, ?_, rfl⟩, ?_, ?_⟩
  · rw [taken]
    exact reaches
  · rw [taken]
  · rw [List.take_of_length_le (by simp)]
    exact removed

variable (sizeBytes sha256 settings storage prepare) in
/-- The markers of a session tell of deletions of its staged object: one for the first, and
two of them, far enough apart, for the completion. -/
structure CleanupRecorded (events : List (DatasetEvent Content)) (uploadId : UploadId)
    (row : DatasetUploadSession) : Prop where
  first : ∀ firstDeletedAt ∈ row.cleanupFirstDeletedAt, ∃ place,
    StagedDeletion sizeBytes sha256 settings storage prepare events uploadId
      row.temporaryObjectKey place firstDeletedAt
  completed : ∀ completedAt ∈ row.cleanupCompletedAt, ∃ firstDeletedAt place later,
    place < later ∧ firstDeletedAt + seconds settings.confirmationGrace ≤ completedAt ∧
      StagedDeletion sizeBytes sha256 settings storage prepare events uploadId
        row.temporaryObjectKey place firstDeletedAt ∧
      StagedDeletion sizeBytes sha256 settings storage prepare events uploadId
        row.temporaryObjectKey later completedAt
  beating : row.Beating

theorem CleanupRecorded.kept {row next : DatasetUploadSession}
    (recorded : CleanupRecorded sizeBytes sha256 settings storage prepare events uploadId row)
    (kept : row.MarkersKept next) :
    CleanupRecorded sizeBytes sha256 settings storage prepare (events ++ [event]) uploadId
      next where
  first firstDeletedAt marked := by
    rw [kept.firstDeleted] at marked
    rcases recorded.first firstDeletedAt marked with ⟨place, deletion⟩
    rw [kept.reservation]
    exact ⟨place, deletion.snoc⟩
  completed completedAt marked := by
    rw [kept.completed] at marked
    rcases recorded.completed completedAt marked with
      ⟨firstDeletedAt, place, later, before, apart, first, second⟩
    rw [kept.reservation]
    exact ⟨firstDeletedAt, place, later, before, apart, first.snoc, second.snoc⟩
  beating := kept.beating recorded.beating

theorem CleanupRecorded.unmarked {row : DatasetUploadSession} (unmarked : row.Unmarked) :
    CleanupRecorded sizeBytes sha256 settings storage prepare events uploadId row where
  first _ marked := by
    rw [unmarked.firstDeleted] at marked
    nomatch marked
  completed _ marked := by
    rw [unmarked.completed] at marked
    nomatch marked
  beating written := absurd unmarked.unwritten written

/-- A deletion that reaches the storage is recorded: as the first, or as the second. -/
theorem CleanupRecorded.deletes {runId : Nat} {row next : DatasetUploadSession}
    (recorded : CleanupRecorded sizeBytes sha256 settings storage prepare events uploadId row)
    (reaches : (datasetRun sizeBytes sha256 settings storage prepare events).state.ReachesStaged
      settings storage uploadId runId row)
    (removed : (datasetRun sizeBytes sha256 settings storage prepare (events ++
      [.disturb (.deleteStaging uploadId runId .works)])).state.objects row.temporaryObjectKey =
        none)
    (marks : row.cleanupFirstDeletedAt = none ∧ next = row.recordFirstDeletion
        (datasetRun sizeBytes sha256 settings storage prepare events).state.clock ∨
      row.cleanupFirstDeletedAt ≠ none ∧ next = row.completeCleanup
        (datasetRun sizeBytes sha256 settings storage prepare events).state.clock) :
    CleanupRecorded sizeBytes sha256 settings storage prepare
      (events ++ [.disturb (.deleteStaging uploadId runId .works)]) uploadId next := by
  have last : StagedDeletion sizeBytes sha256 settings storage prepare
      (events ++ [.disturb (.deleteStaging uploadId runId .works)]) uploadId
      row.temporaryObjectKey events.length _ := .last reaches removed
  rcases marks with ⟨-, rfl⟩ | ⟨before, rfl⟩
  · refine ⟨?_, ?_, fun written => absurd reaches.claimed.2.2.2.2.1 written⟩
    · intro firstDeletedAt marked
      rcases Option.some.inj marked with rfl
      exact ⟨events.length, last⟩
    · intro completedAt marked
      nomatch marked.symm.trans reaches.claimed.2.2.1
  · refine ⟨?_, ?_, fun written => absurd reaches.claimed.2.2.2.2.1 written⟩
    · intro firstDeletedAt marked
      rcases recorded.first firstDeletedAt marked with ⟨place, deletion⟩
      exact ⟨place, deletion.snoc⟩
    · intro completedAt marked
      rcases Option.some.inj marked with rfl
      rcases Option.ne_none_iff_exists'.mp before with ⟨firstDeletedAt, first⟩
      rcases recorded.first firstDeletedAt first with ⟨place, deletion⟩
      exact ⟨firstDeletedAt, place, events.length, deletion.lt,
        reaches.due firstDeletedAt first, deletion.snoc, last⟩

/-- In every run, the markers of a cleanup tell of its deletions. -/
theorem cleanup_recorded (events : List (DatasetEvent Content)) :
    ∀ uploadId row,
      (datasetRun sizeBytes sha256 settings storage prepare events).state.sessions uploadId =
        some row →
      CleanupRecorded sizeBytes sha256 settings storage prepare events uploadId row := by
  induction events using List.reverseRecOn with
  | nil => exact fun _ _ found => nomatch found
  | append_singleton events event recorded =>
      intro uploadId row found
      rw [datasetRun_snoc] at found
      rcases step_marks (datasetRun sizeBytes sha256 settings storage prepare events) event with
        kept | ⟨deletedId, runId, before, next, rfl, reaches, removed, sessions, marks⟩
      · rcases kept uploadId row found with unmarked | ⟨before, beforeFound, marks⟩
        · exact .unmarked unmarked
        · exact (recorded uploadId before beforeFound).kept marks
      · rw [← datasetRun_snoc] at removed
        rw [sessions] at found
        by_cases same : uploadId = deletedId
        · rcases same with rfl
          rw [Function.update_self] at found
          rcases Option.some.inj found with rfl
          exact (recorded uploadId before reaches.found).deletes reaches removed marks
        · rw [Function.update_of_ne same] at found
          exact (recorded uploadId row found).kept (.refl row)

end

/-! ## The whole -/

section

variable {store after : DatasetStore Content}

/-- The staged object of an abandoned session, which no other session names. -/
structure DatasetStore.Discardable (store : DatasetStore Content) (key : DatasetObjectKey)
    (uploadId : UploadId) (row : DatasetUploadSession) : Prop where
  found : store.sessions uploadId = some row
  abandoned : row.status.Abandoned
  staged : key = row.temporaryObjectKey
  ofSession : key = datasetTemporaryObjectKey row.datasetId uploadId
  alone : ∀ otherId other, store.sessions otherId = some other →
    (other.temporaryObjectKey = key → otherId = uploadId) ∧
      ∀ role, other.canonicalObjectKey role ≠ key

theorem discardable_of_claimed (sound : store.Sound settings) {uploadId : UploadId}
    {row : DatasetUploadSession} {runId : Nat} (found : store.sessions uploadId = some row)
    (claimed : row.CleanupClaimed uploadId runId) :
    store.Discardable row.temporaryObjectKey uploadId row := by
  refine ⟨found, claimed.2.2.2.1, rfl, claimed.2.2.2.2.2.2, fun otherId other otherFound => ?_⟩
  have valid := sound.keysValid otherId other otherFound
  have own : row.temporaryObjectKey = datasetTemporaryObjectKey row.datasetId uploadId :=
    claimed.2.2.2.2.2.2
  constructor
  · intro same
    exact congrArg DatasetObjectKey.uploadId (valid.1.symm.trans (same.trans own))
  · intro role same
    rw [valid.2 role (mem_canonicalRoles role)] at same
    exact datasetVerifiedObjectKey_ne_temporary _ _ _ _ _ _ (same.trans own)

theorem deleteClaimed_objects {uploadId : UploadId} {row : DatasetUploadSession}
    {deletion : Deletion} {key : DatasetObjectKey}
    (deleted : deleteClaimedStagingObject settings storage store uploadId row deletion =
      some after) (changed : after.objects key ≠ store.objects key) :
    key = row.temporaryObjectKey := by
  by_contra different
  have kept : (store.deleteObject row.temporaryObjectKey deletion).2.objects key =
      store.objects key := deleteObject_objects deletion different
  simp only [deleteClaimedStagingObject] at deleted
  repeat' split at deleted
  all_goals cases deleted
  · exact changed rfl
  all_goals exact changed kept

/-- What the maintenance deletes, or another change of the state by itself. -/
theorem disturb_discards (sound : store.Sound settings) {disturbance : DatasetDisturbance}
    (disturbed : disturbDatasetStore settings storage disturbance store = some after)
    {key : DatasetObjectKey} (changed : after.objects key ≠ store.objects key) :
    ∃ uploadId row, store.Discardable key uploadId row := by
  cases disturbance with
  | tick elapsed =>
      rcases Option.some.inj disturbed with rfl
      exact absurd rfl changed
  | importDataset datasetId owner storageUri flatStorageUri =>
      simp only [disturbDatasetStore] at disturbed
      split at disturbed
      · cases disturbed
      · rcases Option.some.inj disturbed with rfl
        exact absurd rfl changed
  | createExperiment experimentId datasetId user =>
      simp only [disturbDatasetStore] at disturbed
      split at disturbed
      · cases disturbed
      · split at disturbed
        · rcases Option.some.inj disturbed with rfl
          exact absurd rfl changed
        · cases disturbed
  | deleteExperiment experimentId =>
      simp only [disturbDatasetStore] at disturbed
      split at disturbed
      · cases disturbed
      · rcases Option.some.inj disturbed with rfl
        exact absurd rfl changed
  | createJob experimentId datasetId =>
      simp only [disturbDatasetStore] at disturbed
      split at disturbed
      · cases disturbed
      · split at disturbed
        · rcases Option.some.inj disturbed with rfl
          exact absurd rfl changed
        · cases disturbed
  | claimCleanup uploadId runId =>
      simp only [disturbDatasetStore] at disturbed
      split at disturbed
      · cases disturbed
      · split at disturbed
        · rcases Option.some.inj disturbed with rfl
          exact absurd rfl changed
        · cases disturbed
  | deleteStaging uploadId runId deletion =>
      simp only [disturbDatasetStore] at disturbed
      split at disturbed
      · cases disturbed
      · next dataset row locked =>
          split at disturbed
          · next claimed =>
              rcases deleteClaimed_objects disturbed changed with rfl
              exact ⟨uploadId, row, discardable_of_claimed sound (lock_eq_some locked).1 claimed⟩
          · cases disturbed
  | interruptStaging uploadId runId deletion =>
      simp only [disturbDatasetStore] at disturbed
      split at disturbed
      · cases disturbed
      · next dataset row locked =>
          split at disturbed
          · next claimed =>
              rcases Option.map_eq_some_iff.mp disturbed with ⟨middle, deleted, rfl⟩
              rcases deleteClaimed_objects deleted changed with rfl
              exact ⟨uploadId, row, discardable_of_claimed sound (lock_eq_some locked).1 claimed⟩
          · cases disturbed

def DatasetUploadSession.WriterGone (settings : DatasetSettings) (now : Time)
    (row : DatasetUploadSession) : Prop :=
  row.uploadWriteToken ≠ none →
    ∃ heartbeat ∈ row.uploadHeartbeatAt, heartbeat + seconds settings.uploadWriteStale ≤ now

theorem writerGone_of_eligible {row : DatasetUploadSession} {now : Time} {runId : Nat}
    (eligible : row.CleanupEligible settings now runId) (beating : row.Beating) :
    row.WriterGone settings now := by
  intro written
  rcases Option.ne_none_iff_exists'.mp (beating written) with ⟨heartbeat, beats⟩
  refine ⟨heartbeat, beats, le_of_not_gt fun fresh => ?_⟩
  apply eligible.2.2.1
  exact ⟨written, heartbeat, beats, sub_lt_iff_lt_add.mpr fresh⟩

/-- What a claim by the maintenance finds and leaves. -/
theorem claimCleanup_cases {uploadId : UploadId} {runId : Nat}
    (claimed : disturbDatasetStore settings storage (.claimCleanup uploadId runId) store =
      some after) :
    ∃ row, store.sessions uploadId = some row ∧ row.CleanupEligible settings store.clock runId ∧
      after.sessions uploadId = some (row.claimCleanup store.clock runId) := by
  simp only [disturbDatasetStore] at claimed
  split at claimed
  · cases claimed
  · next dataset row locked =>
      split at claimed
      · next eligible =>
          rcases Option.some.inj claimed with rfl
          exact ⟨row, (lock_eq_some locked).1, eligible.1, Function.update_self ..⟩
      · cases claimed

theorem abandoned_claimCleanup {row : DatasetUploadSession} {now : Time} {runId : Nat}
    (eligible : row.CleanupEligible settings now runId) :
    (row.claimCleanup now runId).status.Abandoned := by
  rcases eligible.2.1 with pending | abandoned
  · exact .inr (if_pos pending)
  · have same : (row.claimCleanup now runId).status = row.status :=
      if_neg fun pending =>
        UploadStatus.Terminal.not_active (.inr abandoned) (.inl pending)
    exact same ▸ abandoned

end

/-- In every run, the maintenance deletes only staged objects of sessions that are expired or
failed, takes no session from a writer that is alive, and the sessions it takes stay as they
are; a cleanup is complete only after two deletions, far enough apart. -/
theorem dataset_cleanup_safe (prepare : DatasetPreparation Content)
    (events later : List (DatasetEvent Content)) :
    (∀ disturbance after key,
        disturbDatasetStore settings storage disturbance
          (datasetRun sizeBytes sha256 settings storage prepare events).state = some after →
        after.objects key ≠
          (datasetRun sizeBytes sha256 settings storage prepare events).state.objects key →
        ∃ uploadId row, (datasetRun sizeBytes sha256 settings storage prepare
          events).state.Discardable key uploadId row) ∧
      (∀ uploadId runId after,
        disturbDatasetStore settings storage (.claimCleanup uploadId runId)
          (datasetRun sizeBytes sha256 settings storage prepare events).state = some after →
        ∃ row status,
          (datasetRun sizeBytes sha256 settings storage prepare events).state.sessions uploadId =
            some row ∧
          row.WriterGone settings
            (datasetRun sizeBytes sha256 settings storage prepare events).state.clock ∧
          status.Abandoned ∧
          (datasetRun sizeBytes sha256 settings storage prepare
            (events ++ .disturb (.claimCleanup uploadId runId) :: later)).state.Over uploadId
              row.datasetId status) ∧
      ∀ uploadId row completedAt,
        (datasetRun sizeBytes sha256 settings storage prepare events).state.sessions uploadId =
          some row → row.cleanupCompletedAt = some completedAt →
        ∃ firstDeletedAt place second, place < second ∧
          firstDeletedAt + seconds settings.confirmationGrace ≤ completedAt ∧
          StagedDeletion sizeBytes sha256 settings storage prepare events uploadId
            row.temporaryObjectKey place firstDeletedAt ∧
          StagedDeletion sizeBytes sha256 settings storage prepare events uploadId
            row.temporaryObjectKey second completedAt := by
  have coherent : DatasetSituation.Coherent sizeBytes sha256 settings
      (datasetRun sizeBytes sha256 settings storage prepare events) :=
    datasetRun_coherent prepare events
  refine ⟨?_, ?_, ?_⟩
  · intro disturbance after key disturbed changed
    exact disturb_discards coherent.store.sound disturbed changed
  · intro uploadId runId after claimed
    rcases claimCleanup_cases claimed with ⟨row, found, eligible, afterFound⟩
    refine ⟨row, _, found,
      writerGone_of_eligible eligible (cleanup_recorded events uploadId row found).beating,
      abandoned_claimCleanup eligible, ?_⟩
    have reached : datasetRun sizeBytes sha256 settings storage prepare
        (events ++ [.disturb (.claimCleanup uploadId runId)]) =
        { datasetRun sizeBytes sha256 settings storage prepare events with state := after } := by
      rw [datasetRun_snoc]
      simp only [Workforce.step, datasetWorkforce, claimed]
    have split : events ++ .disturb (.claimCleanup uploadId runId) :: later =
        (events ++ [.disturb (.claimCleanup uploadId runId)]) ++ later := by simp
    have appended : datasetRun sizeBytes sha256 settings storage prepare
        (events ++ .disturb (.claimCleanup uploadId runId) :: later) =
        run (datasetWorkforce sizeBytes sha256 settings storage prepare).step
          { datasetRun sizeBytes sha256 settings storage prepare events with state := after }
          later := by
      rw [← reached, split]
      exact run_append ..
    have afterCoherent : DatasetSituation.Coherent sizeBytes sha256 settings
        { datasetRun sizeBytes sha256 settings storage prepare events with state := after } := by
      rw [← reached]
      exact datasetRun_coherent prepare _
    rw [appended]
    exact over_run afterCoherent afterFound (.inr (abandoned_claimCleanup eligible)) later
  · intro uploadId row completedAt found completed
    exact (cleanup_recorded events uploadId row found).completed completedAt completed

end

end RvcOrchestrator.Manager

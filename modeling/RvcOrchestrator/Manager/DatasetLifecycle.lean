import RvcOrchestrator.Manager.DatasetPreservation

/-! # Dataset uploads: the life of a session

Statuses that are over stay, one session of a dataset is ahead of all others, a published
dataset has its objects, and whoever has lost its claim leaves the rows alone.
-/

namespace RvcOrchestrator.Manager

open RvcOrchestrator.Foundation RvcOrchestrator.Contracts DatasetStore

section

variable {Content : Type} {sizeBytes : Content → Nat} {sha256 : Content → String}
  {settings : DatasetSettings} {storage : StorageIdentity}
  {prepare : DatasetPreparation Content} {store middle after : DatasetStore Content}

/-! ## Writers and finalizers -/

def DatasetPhase.uploadId? : DatasetPhase Content → Option UploadId
  | writer request _ _ => some request.uploadId
  | finalizer request _ _ => some request.uploadId
  | initializer .. | presigned .. | deleter .. => none

def DatasetPhase.Superseded (store : DatasetStore Content) : DatasetPhase Content → Prop
  | .writer request token phase => phase.owned ≠ none ∧
      ∀ row, store.sessions request.uploadId = some row → row.uploadWriteToken ≠ some token
  | .finalizer request token phase => phase.owned ≠ none ∧
      ∀ row, store.sessions request.uploadId = some row → row.finalizationToken ≠ some token
  | _ => False

def DatasetStore.SameElsewhere (uploadId : UploadId) (store after : DatasetStore Content) : Prop :=
  ∀ otherId, otherId ≠ uploadId → after.sessions otherId = store.sessions otherId

namespace DatasetStore

variable {uploadId : UploadId}

theorem SameElsewhere.refl : SameElsewhere uploadId store store := fun _ _ => rfl

theorem SameElsewhere.ofRows (rows : store.SameRows after) : SameElsewhere uploadId store after :=
  fun _ _ => by rw [rows.sessions]

theorem SameElsewhere.update (rows : store.SameRows middle)
    {next : Option DatasetUploadSession}
    (sessions : after.sessions = Function.update middle.sessions uploadId next) :
    SameElsewhere uploadId store after := by
  intro otherId other
  rw [sessions, Function.update_of_ne other, rows.sessions]

theorem sameElsewhere_amend
    (update : DatasetUploadSession → Option DatasetUploadSession) :
    SameElsewhere uploadId store (store.amend uploadId update).2 := by
  unfold DatasetStore.amend
  split
  · exact .refl
  · exact .update (.refl store) rfl

theorem amend_of_none {update : DatasetUploadSession → Option DatasetUploadSession}
    (refused : ∀ row, store.sessions uploadId = some row → update row = none) :
    store.amend uploadId update = (false, store) := by
  unfold DatasetStore.amend
  cases found : store.sessions uploadId with
  | none => rfl
  | some row => rw [Option.bind_some, refused row found]

end DatasetStore

theorem sameElsewhere_localUpload (outcome : DatasetOutcome)
    (deletions : DatasetObjectKey → Deletion) (request : LocalUploadRequest Content)
    (token : ClaimToken) (phase : LocalUploadPhase) :
    SameElsewhere request.uploadId store (advanceLocalUpload settings storage sizeBytes request
      token store outcome deletions phase).2 := by
  cases phase with
  | requested =>
      simp only [advanceLocalUpload, beginLocalUpload]
      repeat' split
      all_goals first | exact .refl | exact .update (.refl store) rfl
  | startWriting owned =>
      simp only [advanceLocalUpload]
      split
      · exact .refl
      · exact sameElsewhere_amend _
  | writing owned =>
      simp only [advanceLocalUpload]
      repeat' split
      all_goals first | exact .refl | exact .ofRows (sameRows_writeUploadBody ..)
  | wrote owned result =>
      simp only [advanceLocalUpload]
      split
      · exact .refl
      · exact sameElsewhere_amend _
  | sealing owned =>
      simp only [advanceLocalUpload]
      repeat' split
      all_goals first | exact .refl | exact .update (.refl store) rfl
  | timingOut owned =>
      simp only [advanceLocalUpload]
      repeat' split
      all_goals first | exact .refl | exact .update (.refl store) rfl
  | cleaning owned clears answer => exact .ofRows (sameRows_deleteObject ..)
  | clearing owned answer => exact sameElsewhere_amend _
  | answered answer => exact .refl

theorem sameElsewhere_finalizer (outcome : DatasetOutcome)
    (deletions : DatasetObjectKey → Deletion) (request : FinalizeDatasetRequest)
    (token : ClaimToken) (phase : DatasetFinalizePhase Content) :
    SameElsewhere request.uploadId store (advanceDatasetFinalizer sizeBytes sha256 settings storage
      prepare request token store outcome deletions phase).2 := by
  cases phase with
  | requested =>
      simp only [advanceDatasetFinalizer, beginDatasetFinalization]
      repeat' split
      all_goals first | exact .refl | exact .update (.refl store) rfl
  | starting owned task published =>
      simp only [advanceDatasetFinalizer]
      split
      · exact .refl
      · exact sameElsewhere_amend _
  | operating owned task published =>
      cases task with
      | verify => exact .refl
      | prepare verified => exact .refl
      | publish verified snapshot role => exact .ofRows (sameRows_storeVerified ..)
  | operated owned result published =>
      simp only [advanceDatasetFinalizer]
      split
      · exact .refl
      · exact sameElsewhere_amend _
  | cleaning owned remaining succeeded reason =>
      cases remaining with
      | nil => exact .refl
      | cons role remaining => exact .ofRows (sameRows_deleteObject ..)
  | failing owned failureCode retryable cleanupTemporary published answer =>
      simp only [advanceDatasetFinalizer, setUploadFailure]
      split
      · exact .refl
      · next dataset upload locked =>
          split
          · exact .refl
          · have rows : store.SameRows (if cleanupTemporary then
                store.deleteObject upload.temporaryObjectKey
                  (deletions upload.temporaryObjectKey)
              else (true, store)).2 := by
              split
              · exact sameRows_deleteObject ..
              · exact .refl store
            split
            · exact .ofRows rows
            · exact .update rows rfl
  | committing owned verified snapshot published =>
      rcases commitDatasetFinalization_cases request token owned snapshot published outcome with
        same | ⟨dataset, upload, locked, finalizing, held, committed⟩
      · exact .ofRows (same ▸ .refl store)
      · exact .update (.refl store) (congrArg DatasetStore.sessions committed)
  | recovering owned failureCode published afterCommit cancelled =>
      simp only [advanceDatasetFinalizer, recoverAbortedFinalization]
      split
      · exact .refl
      · have rows : store.SameRows (cleanupPublishedKeys deletions
            (published.map owned.canonicalObjectKey) store).2 := sameRows_cleanup ..
        repeat' split
        all_goals first | exact .refl | exact .ofRows rows | exact .update rows rfl
  | removingStaging owned recovered cancelled => exact .ofRows (sameRows_deleteObject ..)
  | marking owned => exact sameElsewhere_amend _
  | answered answer => exact .refl

/-- A writer or a finalizer changes no session but its own. -/
theorem sameElsewhere_advance (choice : DatasetChoice) {phase : DatasetPhase Content}
    {uploadId : UploadId} (own : phase.uploadId? = some uploadId) :
    SameElsewhere uploadId store (advanceDatasetProcess sizeBytes sha256 settings storage prepare
      choice phase store).2 := by
  cases choice with
  | heartbeat =>
      cases phase with
      | writer request token phase =>
          rcases Option.some.inj own with rfl
          cases phase <;> first | exact .refl | exact sameElsewhere_amend _
      | finalizer request token phase =>
          rcases Option.some.inj own with rfl
          cases phase <;> first | exact .refl | exact sameElsewhere_amend _
      | _ => nomatch own
  | go outcome deletions pick freshId datasetId =>
      cases phase with
      | writer request token phase =>
          rcases Option.some.inj own with rfl
          exact sameElsewhere_localUpload outcome deletions request token phase
      | finalizer request token phase =>
          rcases Option.some.inj own with rfl
          exact sameElsewhere_finalizer outcome deletions request token phase
      | _ => nomatch own

/-! ### Without the claim -/

/-- No row of a dataset has changed, and the session has at most another failure code. -/
structure DatasetStore.OnlyNotes (uploadId : UploadId) (store after : DatasetStore Content) :
    Prop where
  datasets : after.datasets = store.datasets
  session : after.sessions uploadId = store.sessions uploadId ∨ ∃ failureCode,
    after.sessions uploadId =
      (store.sessions uploadId).map (·.setFailureCode store.clock failureCode)

namespace DatasetStore

variable {uploadId : UploadId}

theorem OnlyNotes.ofRows (rows : store.SameRows after) : OnlyNotes uploadId store after where
  datasets := rows.datasets
  session := .inl (by rw [rows.sessions])

theorem OnlyNotes.refl : OnlyNotes uploadId store store := .ofRows (.refl store)

theorem OnlyNotes.amend {update : DatasetUploadSession → Option DatasetUploadSession}
    (refused : ∀ row, store.sessions uploadId = some row → update row = none) :
    OnlyNotes uploadId store (store.amend uploadId update).2 := by
  rw [amend_of_none refused]
  exact .refl

end DatasetStore

theorem superseded_localUpload (outcome : DatasetOutcome)
    (deletions : DatasetObjectKey → Deletion) {request : LocalUploadRequest Content}
    {token : ClaimToken} {phase : LocalUploadPhase}
    (superseded : (DatasetPhase.writer request token phase).Superseded store) :
    OnlyNotes request.uploadId store (advanceLocalUpload settings storage sizeBytes request
      token store outcome deletions phase).2 := by
  rcases superseded with ⟨claimed, lost⟩
  have untouched (generation : Nat) (row : DatasetUploadSession)
      (found : store.sessions request.uploadId = some row) :
      row.touchUploadWrite store.clock token generation = none :=
    if_neg fun held => lost row found held.2.2.1
  have uncleared (generation : Nat) (row : DatasetUploadSession)
      (found : store.sessions request.uploadId = some row) :
      row.clearUploadWriteClaim store.clock token generation = none :=
    if_neg fun held => lost row found held.2.2
  cases phase with
  | requested => exact absurd rfl claimed
  | startWriting owned =>
      simp only [advanceLocalUpload]
      split
      · exact .refl
      · exact .amend (untouched _)
  | writing owned =>
      simp only [advanceLocalUpload]
      repeat' split
      all_goals first | exact .refl | exact .ofRows (sameRows_writeUploadBody ..)
  | wrote owned result =>
      simp only [advanceLocalUpload]
      split
      · exact .refl
      · exact .amend (untouched _)
  | sealing owned =>
      simp only [advanceLocalUpload]
      split
      · exact .refl
      · next dataset upload locked =>
          split
          · next held => exact absurd held.2.2.1 (lost upload (lock_eq_some locked).1)
          · exact .refl
  | timingOut owned =>
      simp only [advanceLocalUpload]
      split
      · exact .refl
      · next dataset upload locked =>
          split
          · next held => exact absurd held.2.2 (lost upload (lock_eq_some locked).1)
          · exact .refl
  | cleaning owned clears answer => exact .ofRows (sameRows_deleteObject ..)
  | clearing owned answer => exact .amend (uncleared _)
  | answered answer => exact absurd rfl claimed

theorem superseded_finalizer (outcome : DatasetOutcome)
    (deletions : DatasetObjectKey → Deletion) {request : FinalizeDatasetRequest}
    {token : ClaimToken} {phase : DatasetFinalizePhase Content}
    (superseded : (DatasetPhase.finalizer request token phase).Superseded store) :
    OnlyNotes request.uploadId store (advanceDatasetFinalizer sizeBytes sha256 settings storage
      prepare request token store outcome deletions phase).2 := by
  rcases superseded with ⟨claimed, lost⟩
  have untouched (generation : Nat) (row : DatasetUploadSession)
      (found : store.sessions request.uploadId = some row) :
      row.touchFinalization store.clock token generation = none :=
    if_neg fun held => lost row found held.2.2
  cases phase with
  | requested => exact absurd rfl claimed
  | starting owned task published =>
      simp only [advanceDatasetFinalizer]
      split
      · exact .refl
      · exact .amend (untouched _)
  | operating owned task published =>
      cases task with
      | verify => exact .refl
      | prepare verified => exact .refl
      | publish verified snapshot role => exact .ofRows (sameRows_storeVerified ..)
  | operated owned result published =>
      simp only [advanceDatasetFinalizer]
      split
      · exact .refl
      · exact .amend (untouched _)
  | cleaning owned remaining succeeded reason =>
      cases remaining with
      | nil => exact .refl
      | cons role remaining => exact .ofRows (sameRows_deleteObject ..)
  | failing owned failureCode retryable cleanupTemporary published answer =>
      simp only [advanceDatasetFinalizer, setUploadFailure]
      split
      · exact .refl
      · next dataset upload locked =>
          split
          · exact .refl
          · next held =>
              rw [not_or, not_or, not_not, not_not, not_not] at held
              exact absurd held.2.2 (lost upload (lock_eq_some locked).1)
  | committing owned verified snapshot published =>
      rcases commitDatasetFinalization_cases request token owned snapshot published outcome with
        same | ⟨dataset, upload, locked, -, held, -⟩
      · exact .ofRows (same ▸ .refl store)
      · exact absurd held (lost upload (lock_eq_some locked).1)
  | recovering owned failureCode published afterCommit cancelled =>
      simp only [advanceDatasetFinalizer, recoverAbortedFinalization]
      split
      · exact .refl
      · next dataset upload locked =>
          have found := (lock_eq_some locked).1
          have rows : store.SameRows (cleanupPublishedKeys deletions
              (published.map owned.canonicalObjectKey) store).2 := sameRows_cleanup ..
          split
          · exact .refl
          · split
            · exact .refl
            · split
              · exact .refl
              · next held =>
                  -- A session that is not completed here is not finalizing any more.
                  have ended : upload.status ≠ .finalizing := fun finalizing =>
                    held ⟨finalizing, lost upload found⟩
                  split
                  · exact .ofRows rows
                  · rw [if_neg ended]
                    split
                    · next failed =>
                        refine ⟨rows.datasets, .inr ⟨"partial_cleanup_failed", ?_⟩⟩
                        rw [found, failed]
                        exact Function.update_self ..
                    · exact .ofRows rows
  | removingStaging owned recovered cancelled => exact .ofRows (sameRows_deleteObject ..)
  | marking owned =>
      simp only [advanceDatasetFinalizer, DatasetStore.amend]
      split
      · exact .refl
      · next next noted =>
          rcases Option.bind_eq_some_iff.mp noted with ⟨row, found, same⟩
          refine ⟨rfl, .inr ⟨"staging_cleanup_pending", ?_⟩⟩
          rw [found, Option.map_some, Option.some.inj same]
          exact Function.update_self ..
  | answered answer => exact absurd rfl claimed

theorem superseded_advance (choice : DatasetChoice) {phase : DatasetPhase Content}
    {uploadId : UploadId} (own : phase.uploadId? = some uploadId)
    (superseded : phase.Superseded store) :
    OnlyNotes uploadId store (advanceDatasetProcess sizeBytes sha256 settings storage prepare
      choice phase store).2 := by
  cases phase with
  | writer request token phase =>
      rcases Option.some.inj own with rfl
      cases choice with
      | heartbeat =>
          cases phase with
          | writing owned =>
              exact .amend fun row found =>
                if_neg fun held => superseded.2 row found held.2.2.1
          | _ => exact .refl
      | go outcome deletions pick freshId datasetId =>
          exact superseded_localUpload outcome deletions superseded
  | finalizer request token phase =>
      rcases Option.some.inj own with rfl
      cases choice with
      | heartbeat =>
          cases phase with
          | operating owned task published =>
              exact .amend fun row found =>
                if_neg fun held => superseded.2 row found held.2.2
          | _ => exact .refl
      | go outcome deletions pick freshId datasetId =>
          exact superseded_finalizer outcome deletions superseded
  | _ => nomatch own

/-! ## The sessions of a dataset -/

def DatasetStore.Newest (store : DatasetStore Content) (uploadId : UploadId)
    (row : DatasetUploadSession) : Prop :=
  ∀ otherId other, store.sessions otherId = some other → other.datasetId = row.datasetId →
    otherId ≠ uploadId → other.generation < row.generation

theorem newest_of_unexpired (sound : store.Sound settings) {uploadId : UploadId}
    {row : DatasetUploadSession} (found : store.sessions uploadId = some row)
    (unexpired : row.status ≠ .expired) : store.Newest uploadId row := by
  intro otherId other otherFound sameDataset different
  have below := sound.highest found otherFound sameDataset unexpired
  have distinct : other.generation ≠ row.generation := by
    intro same
    have key := sound.sameKey otherId other uploadId row otherFound found sameDataset
    exact different (sound.distinct otherId other uploadId row otherFound found key.1 key.2 same)
  omega

theorem UploadStatus.Active.unexpired {status : UploadStatus} (active : status.Active) :
    status ≠ .expired := by
  rcases active with same | same <;> rw [same] <;> exact nofun

/-- The one session of a published dataset that is completed, with its objects. -/
structure DatasetStore.CompletedBy (sizeBytes : Content → Nat) (sha256 : Content → String)
    (store : DatasetStore Content) (datasetId : DatasetId) (dataset : Dataset)
    (uploadId : UploadId) (row : DatasetUploadSession) : Prop where
  found : store.sessions uploadId = some row
  ofDataset : row.datasetId = datasetId
  completed : row.status = .completed
  only : ∀ otherId other, store.sessions otherId = some other → other.datasetId = datasetId →
    other.status = .completed → otherId = uploadId
  newest : store.Newest uploadId row
  objects : ∀ role, ∃ content, store.objects (row.canonicalObjectKey role) = some content ∧
    dataset.Records sizeBytes sha256 role content

structure DatasetStore.Lawful (sizeBytes : Content → Nat) (sha256 : Content → String)
    (settings : DatasetSettings) (store : DatasetStore Content) : Prop where
  active : ∀ uploadId row, store.sessions uploadId = some row → row.status.Active →
    store.Newest uploadId row ∧
      ∀ otherId other, store.sessions otherId = some other → other.datasetId = row.datasetId →
        other.status.Active → otherId = uploadId
  published : ∀ datasetId dataset, store.datasets datasetId = some dataset → dataset.Published →
    ∃ uploadId row, store.CompletedBy sizeBytes sha256 datasetId dataset uploadId row
  quotas : ∀ ownerId, store.activeSessions ownerId ≤ settings.ownerMaxSessions ∧
    store.activeBytes ownerId ≤ settings.ownerMaxBytes

theorem DatasetStore.Coherent.lawful (coherent : store.Coherent sizeBytes sha256 settings) :
    store.Lawful sizeBytes sha256 settings where
  active uploadId row found active := by
    refine ⟨newest_of_unexpired coherent.sound found active.unexpired, ?_⟩
    intro otherId other otherFound sameDataset otherActive
    exact coherent.sound.only_unexpired otherFound found sameDataset otherActive.unexpired
      active.unexpired
  published datasetId dataset found published := by
    rcases coherent.published datasetId dataset found published with
      ⟨uploadId, row, rowFound, ofDataset, completed, objects⟩
    have unexpired : row.status ≠ .expired := by
      rw [completed]
      exact nofun
    refine ⟨uploadId, row, rowFound, ofDataset, completed, ?_,
      newest_of_unexpired coherent.sound rowFound unexpired, objects⟩
    intro otherId other otherFound otherDataset otherCompleted
    have otherUnexpired : other.status ≠ .expired := by
      rw [otherCompleted]
      exact nofun
    exact coherent.sound.only_unexpired otherFound rowFound (otherDataset.trans ofDataset.symm)
      otherUnexpired unexpired
  quotas ownerId := ⟨coherent.sound.sessionsWithin ownerId, coherent.sound.bytesWithin ownerId⟩

/-! ## Statuses that are over -/

/-- The session still has the status, or it is gone with its dataset. -/
structure DatasetStore.Over (uploadId : UploadId) (datasetId : DatasetId) (status : UploadStatus)
    (store : DatasetStore Content) : Prop where
  status : ∀ row, store.sessions uploadId = some row →
    row.datasetId = datasetId ∧ row.status = status
  stays : store.datasets datasetId ≠ none → store.sessions uploadId ≠ none
  uploadDrawn : uploadId ∈ store.uploads
  datasetDrawn : datasetId ∈ store.datasetIds

theorem DatasetStore.Over.move {actor : Option ClaimToken}
    {completing : Option (DatasetSnapshot Content)} {uploadId : UploadId} {datasetId : DatasetId}
    {status : UploadStatus} (ended : store.Over uploadId datasetId status)
    (terminal : status.Terminal)
    (move : RowsMove sizeBytes sha256 settings storage actor completing store after)
    (sound : store.Sound settings) : after.Over uploadId datasetId status where
  status next found := by
    rcases move.back sound ended.uploadDrawn found with ⟨row, rowFound, becomes⟩
    rcases ended.status row rowFound with ⟨ofDataset, same⟩
    have kept := becomes.terminal (same ▸ terminal)
    rw [becomes.reservation]
    exact ⟨ofDataset, kept.trans same⟩
  stays remains := by
    rcases Option.ne_none_iff_exists'.mp remains with ⟨dataset', found'⟩
    rcases move.dataset_back ended.datasetDrawn found' with ⟨dataset, found⟩
    have before : store.datasets datasetId ≠ none := found ▸ Option.some_ne_none dataset
    rcases Option.ne_none_iff_exists'.mp (ended.stays before) with ⟨row, rowFound⟩
    have parent : after.datasets row.datasetId ≠ none := (ended.status row rowFound).1 ▸ remains
    rcases move.forward sound rowFound parent with ⟨next, nextFound, -⟩
    exact nextFound ▸ Option.some_ne_none next
  uploadDrawn := move.uploads_subset ended.uploadDrawn
  datasetDrawn := move.datasetIds_subset ended.datasetDrawn

/-- What a step does to the rows. -/
theorem step_rows {situation : DatasetSituation Content}
    (coherent : DatasetSituation.Coherent sizeBytes sha256 settings situation)
    (event : DatasetEvent Content) :
    ∃ actor completing, RowsMove sizeBytes sha256 settings storage actor completing situation.state
      ((datasetWorkforce sizeBytes sha256 settings storage prepare).step situation event).state := by
  have idle : ∃ actor completing, RowsMove sizeBytes sha256 settings storage actor completing
      situation.state situation.state := ⟨none, none, .refl situation.state⟩
  cases event with
  | launch launch =>
      simp only [Workforce.step]
      split
      · exact idle
      · next phase state launched =>
          exact ⟨none, none, .ofSame (launch_sameFrame launched).1⟩
  | proceed place choice =>
      cases found : situation.phases[place]? with
      | none =>
          simp only [Workforce.step, found]
          exact idle
      | some phase =>
          rw [Workforce.step_proceed found, Workforce.state_move]
          exact ⟨_, _, advance_rows choice coherent.store.sound
            (coherent.fits phase (List.mem_of_getElem? found))⟩
  | stop place => exact idle
  | disturb disturbance =>
      simp only [Workforce.step]
      split
      · exact idle
      · next state disturbed => exact ⟨none, none, disturbDatasetStore_rows disturbed⟩

theorem over_run {situation : DatasetSituation Content}
    (coherent : DatasetSituation.Coherent sizeBytes sha256 settings situation)
    {uploadId : UploadId} {row : DatasetUploadSession}
    (found : situation.state.sessions uploadId = some row) (terminal : row.status.Terminal)
    (later : List (DatasetEvent Content)) :
    (run (datasetWorkforce sizeBytes sha256 settings storage prepare).step situation
      later).state.Over uploadId row.datasetId row.status := by
  have kept : DatasetSituation.Coherent sizeBytes sha256 settings
      (run (datasetWorkforce sizeBytes sha256 settings storage prepare).step situation later) ∧
    (run (datasetWorkforce sizeBytes sha256 settings storage prepare).step situation
      later).state.Over uploadId row.datasetId row.status := by
    apply run_preserves fun situation : DatasetSituation Content =>
      DatasetSituation.Coherent sizeBytes sha256 settings situation ∧
        situation.state.Over uploadId row.datasetId row.status
    · intro situation event kept
      rcases step_rows kept.1 event with ⟨actor, completing, move⟩
      exact ⟨kept.1.step storage prepare event, kept.2.move terminal move kept.1.store.sound⟩
    · rcases coherent.store.sound.parent uploadId row found with ⟨dataset, parent, -⟩
      refine ⟨coherent, ?_, ?_, coherent.store.sound.uploadDrawn uploadId row found,
        coherent.store.sound.datasetDrawn row.datasetId dataset parent⟩
      · intro other otherFound
        rw [Option.some.inj (found.symm.trans otherFound)]
        exact ⟨rfl, rfl⟩
      · intro _
        exact found ▸ Option.some_ne_none row
  exact kept.2

/-! ## The whole -/

/-- What the next move of a writer or a finalizer leaves alone: every session but its own, the
objects of completed sessions, and, once its session no longer carries its token, the row of
its dataset and all of its own row but the failure code. -/
structure ClaimRespected (store after : DatasetStore Content) (uploadId : UploadId)
    (phase : DatasetPhase Content) : Prop where
  elsewhere : SameElsewhere uploadId store after
  completed : ∀ completedId row role content, store.sessions completedId = some row →
    row.status = .completed → store.objects (row.canonicalObjectKey role) = some content →
    after.objects (row.canonicalObjectKey role) = some content
  superseded : phase.Superseded store → OnlyNotes uploadId store after

/-- In every run, sessions that are over keep their statuses, the active session of a dataset
is its newest, a published dataset has one completed session with its four objects, the quotas
of the owners hold, and the claims are respected. -/
theorem dataset_lifecycle (prepare : DatasetPreparation Content)
    (events later : List (DatasetEvent Content)) :
    (datasetRun sizeBytes sha256 settings storage prepare events).state.Lawful sizeBytes sha256
        settings ∧
      (∀ uploadId row,
        (datasetRun sizeBytes sha256 settings storage prepare events).state.sessions uploadId =
          some row → row.status.Terminal →
        (datasetRun sizeBytes sha256 settings storage prepare (events ++ later)).state.Over
          uploadId row.datasetId row.status) ∧
      ∀ place phase choice uploadId,
        (datasetRun sizeBytes sha256 settings storage prepare events).phases[place]? =
          some phase → phase.uploadId? = some uploadId →
        ClaimRespected (datasetRun sizeBytes sha256 settings storage prepare events).state
          (datasetRun sizeBytes sha256 settings storage prepare
            (events ++ [.proceed place choice])).state uploadId phase := by
  have coherent : DatasetSituation.Coherent sizeBytes sha256 settings
      (datasetRun sizeBytes sha256 settings storage prepare events) :=
    datasetRun_coherent prepare events
  refine ⟨coherent.store.lawful, ?_, ?_⟩
  · intro uploadId row found terminal
    have appended : datasetRun sizeBytes sha256 settings storage prepare (events ++ later) =
        run (datasetWorkforce sizeBytes sha256 settings storage prepare).step
          (datasetRun sizeBytes sha256 settings storage prepare events) later := run_append ..
    rw [appended]
    exact over_run coherent found terminal later
  · intro place phase choice uploadId found own
    have appended : (datasetRun sizeBytes sha256 settings storage prepare
        (events ++ [.proceed place choice])).state =
        (advanceDatasetProcess sizeBytes sha256 settings storage prepare choice phase
          (datasetRun sizeBytes sha256 settings storage prepare events).state).2 := by
      unfold datasetRun
      rw [run_append]
      exact (congrArg Workforce.Situation.state (Workforce.step_proceed found)).trans
        (Workforce.state_move place choice phase)
    rw [appended]
    refine ⟨sameElsewhere_advance choice own, ?_, superseded_advance choice own⟩
    intro completedId row role content rowFound completed present
    refine (objects_of_spares choice coherent.store.sound
      (coherent.fits phase (List.mem_of_getElem? found)) rowFound (.inr (.inl ⟨completed, ?_⟩))
      role).trans present
    intro request deletion isDeleter
    rw [isDeleter] at own
    nomatch own

/-- The sessions of one idempotency key of an owner. -/
structure DatasetStore.Generations (store : DatasetStore Content) : Prop where
  sameKey : ∀ uploadId row otherId other, store.sessions uploadId = some row →
    store.sessions otherId = some other → row.datasetId = other.datasetId →
    row.ownerId = other.ownerId ∧ row.idempotencyKey = other.idempotencyKey
  once : ∀ uploadId row otherId other, store.sessions uploadId = some row →
    store.sessions otherId = some other → row.ownerId = other.ownerId →
    row.idempotencyKey = other.idempotencyKey → row.generation = other.generation →
    uploadId = otherId
  below : ∀ uploadId row, store.sessions uploadId = some row → ∀ generation,
    1 ≤ generation → generation < row.generation → ∃ otherId other,
      store.sessions otherId = some other ∧ other.datasetId = row.datasetId ∧
        other.generation = generation ∧ other.status = .expired

/-- Repeated requests make generations of one dataset, numbered from one without gaps and each
once, of which all but the newest have expired. -/
theorem dataset_generations (prepare : DatasetPreparation Content)
    (events : List (DatasetEvent Content)) :
    (datasetRun sizeBytes sha256 settings storage prepare events).state.Generations := by
  have coherent : DatasetSituation.Coherent sizeBytes sha256 settings
      (datasetRun sizeBytes sha256 settings storage prepare events) :=
    datasetRun_coherent prepare events
  have sound := coherent.store.sound
  refine ⟨sound.sameKey, sound.distinct, fun uploadId row found generation first lower => ?_⟩
  -- Each step down goes to the predecessor.
  induction distance : row.generation - generation generalizing uploadId row with
  | zero => omega
  | succ gap induction =>
      rcases sound.predecessor uploadId row found with
        one | ⟨beforeId, before, beforeFound, ofDataset, next, expired⟩
      · omega
      · by_cases reached : before.generation = generation
        · exact ⟨beforeId, before, beforeFound, ofDataset, reached, expired⟩
        · rcases induction beforeId before beforeFound (by omega) (by omega) with
            ⟨otherId, other, otherFound, sameDataset, number, over_⟩
          exact ⟨otherId, other, otherFound, sameDataset.trans ofDataset, number, over_⟩

end

end RvcOrchestrator.Manager

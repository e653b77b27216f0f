import RvcOrchestrator.Manager.DatasetMoves

/-! # Dataset uploads: what each request does beside the rows

The objects a move may write or delete, and what it leaves alone: the clock, the tokens, the
experiments and the Jobs.
-/

namespace RvcOrchestrator.Manager

open RvcOrchestrator.Foundation RvcOrchestrator.Contracts

section

variable {Content : Type} {sizeBytes : Content → Nat} {sha256 : Content → String}
  {settings : DatasetSettings} {storage : StorageIdentity}

namespace DatasetStore

variable {store middle after : DatasetStore Content}

/-! ## What a move leaves alone -/

structure SameFrame (store after : DatasetStore Content) : Prop where
  clock : after.clock = store.clock
  experiments : after.experiments = store.experiments
  jobs : after.jobs = store.jobs
  tokens : after.tokens = store.tokens

/-- No upload is granted either. -/
structure StrictFrame (store after : DatasetStore Content) : Prop extends
    store.SameFrame after where
  grants : after.grants = store.grants

theorem SameFrame.refl (store : DatasetStore Content) : store.SameFrame store :=
  ⟨rfl, rfl, rfl, rfl⟩

theorem SameFrame.trans (first : store.SameFrame middle) (second : middle.SameFrame after) :
    store.SameFrame after :=
  ⟨second.clock.trans first.clock, second.experiments.trans first.experiments,
    second.jobs.trans first.jobs, second.tokens.trans first.tokens⟩

theorem StrictFrame.refl (store : DatasetStore Content) : store.StrictFrame store :=
  ⟨.refl store, rfl⟩

theorem StrictFrame.trans (first : store.StrictFrame middle) (second : middle.StrictFrame after) :
    store.StrictFrame after :=
  ⟨first.toSameFrame.trans second.toSameFrame, second.grants.trans first.grants⟩

theorem strictFrame_amend (uploadId : UploadId)
    (update : DatasetUploadSession → Option DatasetUploadSession) :
    store.StrictFrame (store.amend uploadId update).2 := by
  unfold DatasetStore.amend
  split <;> exact ⟨⟨rfl, rfl, rfl, rfl⟩, rfl⟩

theorem strictFrame_deleteObject (key : DatasetObjectKey) (deletion : Deletion) :
    store.StrictFrame (store.deleteObject key deletion).2 := by
  unfold deleteObject
  split <;> exact ⟨⟨rfl, rfl, rfl, rfl⟩, rfl⟩

theorem strictFrame_cleanup (deletions : DatasetObjectKey → Deletion)
    (keys : List DatasetObjectKey) :
    store.StrictFrame (cleanupPublishedKeys deletions keys store).2 := by
  induction keys generalizing store with
  | nil => exact .refl store
  | cons key later induction =>
      exact (strictFrame_deleteObject key (deletions key)).trans induction

theorem sameFrame_grantUpload (upload : DatasetReservation) :
    store.SameFrame (grantUpload storage store upload) := by
  unfold grantUpload
  split <;> exact ⟨rfl, rfl, rfl, rfl⟩

theorem strictFrame_storeVerified (key : DatasetObjectKey) (content : Content)
    (outcome : DatasetOutcome) :
    store.StrictFrame (storeVerifiedDatasetFile store key content outcome).2 := by
  unfold storeVerifiedDatasetFile
  repeat' split
  all_goals exact ⟨⟨rfl, rfl, rfl, rfl⟩, rfl⟩

theorem strictFrame_writeUploadBody (owned : DatasetReservation) (content : Content)
    (effective : Bool) :
    store.StrictFrame (writeUploadBody sizeBytes store owned content effective) := by
  unfold writeUploadBody
  split <;> exact ⟨⟨rfl, rfl, rfl, rfl⟩, rfl⟩

theorem sameFrame_uploadInitResponse (uploadId : UploadId) (upload : DatasetUploadSession)
    (outcome : DatasetOutcome) :
    store.SameFrame (uploadInitResponse storage store uploadId upload outcome).2 := by
  unfold uploadInitResponse
  repeat' split
  all_goals first | exact sameFrame_grantUpload _ | exact .refl store

theorem sameFrame_insertReservation (frame : store.SameFrame middle) (dataset : Dataset)
    (upload : DatasetUploadSession) (uploadId : UploadId) :
    store.SameFrame (insertReservation storage middle dataset upload uploadId) := by
  simp only [insertReservation]
  refine SameFrame.trans ?_ (sameFrame_grantUpload _)
  exact ⟨frame.clock, frame.experiments, frame.jobs, frame.tokens⟩

theorem sameFrame_reserveUpload (request : DatasetUploadInitRequest)
    (existing : Option DatasetId) (generation : Nat) (outcome : DatasetOutcome)
    (uploadId : UploadId) (datasetId : DatasetId) :
    store.SameFrame (reserveUpload settings storage store request existing generation outcome
      uploadId datasetId).2 := by
  unfold reserveUpload
  repeat' split
  all_goals
    first
    | exact .refl store
    | apply sameFrame_insertReservation
      exact ⟨rfl, rfl, rfl, rfl⟩

theorem sameFrame_initializer (request : DatasetUploadInitRequest) (outcome : DatasetOutcome)
    (uploadId : UploadId) (datasetId : DatasetId) (phase : InitializePhase) :
    store.SameFrame (advanceInitializer settings storage request store outcome uploadId datasetId
      phase).2 := by
  cases phase with
  | requested =>
      simp only [advanceInitializer]
      repeat' split
      all_goals exact .refl store
  | locking existing =>
      simp only [advanceInitializer, replayUpload]
      repeat' split
      all_goals
        first
        | exact ⟨rfl, rfl, rfl, rfl⟩
        | exact sameFrame_reserveUpload ..
        | exact sameFrame_uploadInitResponse ..
  | reserving existing generation => exact sameFrame_reserveUpload ..
  | raced =>
      simp only [advanceInitializer]
      repeat' split
      all_goals first | exact .refl store | exact sameFrame_uploadInitResponse ..
  | answered answer => exact .refl store

theorem strictFrame_localUpload (request : LocalUploadRequest Content) (token : ClaimToken)
    (outcome : DatasetOutcome) (deletions : DatasetObjectKey → Deletion)
    (phase : LocalUploadPhase) :
    store.StrictFrame (advanceLocalUpload settings storage sizeBytes request token store outcome
      deletions phase).2 := by
  cases phase with
  | requested =>
      simp only [advanceLocalUpload, beginLocalUpload]
      repeat' split
      all_goals exact ⟨⟨rfl, rfl, rfl, rfl⟩, rfl⟩
  | startWriting owned =>
      simp only [advanceLocalUpload]
      split
      · exact .refl store
      · exact strictFrame_amend ..
  | writing owned =>
      simp only [advanceLocalUpload]
      repeat' split
      all_goals first | exact .refl store | exact strictFrame_writeUploadBody ..
  | wrote owned result =>
      simp only [advanceLocalUpload]
      split
      · exact .refl store
      · exact strictFrame_amend ..
  | sealing owned =>
      simp only [advanceLocalUpload]
      repeat' split
      all_goals exact ⟨⟨rfl, rfl, rfl, rfl⟩, rfl⟩
  | timingOut owned =>
      simp only [advanceLocalUpload]
      repeat' split
      all_goals exact ⟨⟨rfl, rfl, rfl, rfl⟩, rfl⟩
  | cleaning owned clears answer => exact strictFrame_deleteObject ..
  | clearing owned answer => exact strictFrame_amend ..
  | answered answer => exact .refl store

theorem strictFrame_finalizer {prepare : DatasetPreparation Content}
    (request : FinalizeDatasetRequest) (token : ClaimToken) (outcome : DatasetOutcome)
    (deletions : DatasetObjectKey → Deletion) (phase : DatasetFinalizePhase Content) :
    store.StrictFrame (advanceDatasetFinalizer sizeBytes sha256 settings storage prepare request
      token store outcome deletions phase).2 := by
  cases phase with
  | requested =>
      simp only [advanceDatasetFinalizer, beginDatasetFinalization]
      repeat' split
      all_goals exact ⟨⟨rfl, rfl, rfl, rfl⟩, rfl⟩
  | starting owned task published =>
      simp only [advanceDatasetFinalizer]
      split
      · exact .refl store
      · exact strictFrame_amend ..
  | operating owned task published =>
      cases task with
      | verify => exact .refl store
      | prepare verified => exact .refl store
      | publish verified snapshot role => exact strictFrame_storeVerified ..
  | operated owned result published =>
      simp only [advanceDatasetFinalizer]
      split
      · exact .refl store
      · exact strictFrame_amend ..
  | cleaning owned remaining succeeded reason =>
      cases remaining with
      | nil => exact .refl store
      | cons role remaining => exact strictFrame_deleteObject ..
  | failing owned failureCode retryable cleanupTemporary published answer =>
      simp only [advanceDatasetFinalizer, setUploadFailure]
      split
      · exact .refl store
      · next dataset upload locked =>
          split
          · exact .refl store
          · have frame : store.StrictFrame (if cleanupTemporary then
                store.deleteObject upload.temporaryObjectKey
                  (deletions upload.temporaryObjectKey)
              else (true, store)).2 := by
              split
              · exact strictFrame_deleteObject ..
              · exact .refl store
            split
            · exact frame
            · exact frame.trans ⟨⟨rfl, rfl, rfl, rfl⟩, rfl⟩
  | committing owned verified snapshot published =>
      simp only [advanceDatasetFinalizer, commitDatasetFinalization]
      split
      · exact .refl store
      · split
        · exact .refl store
        · split
          · next effective => cases effective <;> exact ⟨⟨rfl, rfl, rfl, rfl⟩, rfl⟩
          · exact ⟨⟨rfl, rfl, rfl, rfl⟩, rfl⟩
  | recovering owned failureCode published afterCommit cancelled =>
      simp only [advanceDatasetFinalizer, recoverAbortedFinalization]
      split
      · exact .refl store
      · have frame : store.StrictFrame (cleanupPublishedKeys deletions
            (published.map owned.canonicalObjectKey) store).2 := strictFrame_cleanup ..
        repeat' split
        all_goals
          first
          | exact .refl store
          | exact frame
          | exact frame.trans ⟨⟨rfl, rfl, rfl, rfl⟩, rfl⟩
  | removingStaging owned recovered cancelled => exact strictFrame_deleteObject ..
  | marking owned => exact strictFrame_amend ..
  | answered answer => exact .refl store

theorem strictFrame_deletion (request : DeleteDatasetRequest)
    (deletions : DatasetObjectKey → Deletion) (pick : Nat) (phase : DeletePhase) :
    store.StrictFrame (advanceDeletion storage request store deletions pick phase).2 := by
  cases phase with
  | requested =>
      simp only [advanceDeletion, beginDeletion]
      repeat' split
      all_goals exact ⟨⟨rfl, rfl, rfl, rfl⟩, rfl⟩
  | deleting remaining succeeded =>
      simp only [advanceDeletion]
      split
      · exact .refl store
      · exact strictFrame_deleteObject ..
  | failing =>
      simp only [advanceDeletion]
      split <;> exact ⟨⟨rfl, rfl, rfl, rfl⟩, rfl⟩
  | removing =>
      simp only [advanceDeletion]
      split <;> exact ⟨⟨rfl, rfl, rfl, rfl⟩, rfl⟩
  | answered answer => exact .refl store

end DatasetStore

open DatasetStore

theorem strictFrame_heartbeat (phase : DatasetPhase Content) (store : DatasetStore Content) :
    store.StrictFrame (heartbeatDatasetProcess store phase) := by
  unfold heartbeatDatasetProcess
  repeat' split
  all_goals first | exact .refl store | exact strictFrame_amend ..

/-- Only initializers grant uploads. -/
theorem strictFrame_advance {prepare : DatasetPreparation Content} (choice : DatasetChoice)
    {phase : DatasetPhase Content} (store : DatasetStore Content)
    (other : ∀ request initializing, ¬phase = .initializer request initializing) :
    store.StrictFrame
      (advanceDatasetProcess sizeBytes sha256 settings storage prepare choice phase store).2 := by
  cases choice with
  | heartbeat => exact strictFrame_heartbeat phase store
  | go outcome deletions pick uploadId datasetId =>
      cases phase with
      | initializer request phase => exact absurd rfl (other request phase)
      | writer request token phase => exact strictFrame_localUpload ..
      | presigned key content => exact strictFrame_storeVerified ..
      | finalizer request token phase => exact strictFrame_finalizer ..
      | deleter request phase => exact strictFrame_deletion ..

theorem sameFrame_advance {prepare : DatasetPreparation Content} (choice : DatasetChoice)
    (phase : DatasetPhase Content) (store : DatasetStore Content) :
    store.SameFrame
      (advanceDatasetProcess sizeBytes sha256 settings storage prepare choice phase store).2 := by
  cases phase with
  | initializer request phase =>
      cases choice with
      | heartbeat => exact .refl store
      | go => exact sameFrame_initializer ..
  | _ => exact (strictFrame_advance choice store fun _ _ same => by cases same).toSameFrame

/-! ### Grants -/

/-- A grant that is new names the staged object of a session that waits for it. -/
def GrantsPending (store after : DatasetStore Content) : Prop :=
  ∀ grant ∈ after.grants, grant ∈ store.grants ∨
    ∃ uploadId row, after.sessions uploadId = some row ∧ row.status = .pending ∧
      grant.key = row.temporaryObjectKey

theorem grantsPending_of_eq {store after : DatasetStore Content}
    (same : after.grants = store.grants) : GrantsPending store after :=
  fun _ member => .inl (same ▸ member)

theorem grantsPending_grantUpload {store middle : DatasetStore Content}
    (same : middle.grants = store.grants) {uploadId : UploadId} {row : DatasetUploadSession}
    (found : middle.sessions uploadId = some row) (pending : row.status = .pending) :
    GrantsPending store (grantUpload storage middle row.toDatasetReservation) := by
  unfold grantUpload
  split
  · exact grantsPending_of_eq same
  · intro grant member
    rcases List.mem_cons.mp member with rfl | earlier
    · exact .inr ⟨uploadId, row, found, pending, rfl⟩
    · exact .inl (same ▸ earlier)

theorem grantsPending_uploadInitResponse {store : DatasetStore Content} {uploadId : UploadId}
    {upload : DatasetUploadSession} (outcome : DatasetOutcome)
    (found : store.sessions uploadId = some upload) :
    GrantsPending store (uploadInitResponse storage store uploadId upload outcome).2 := by
  simp only [uploadInitResponse]
  split
  · exact grantsPending_of_eq rfl
  · split
    · exact grantsPending_of_eq rfl
    · next pending =>
        split
        · exact grantsPending_grantUpload rfl found (not_not.mp pending)
        · exact grantsPending_of_eq rfl

theorem grantsPending_reserveUpload {store : DatasetStore Content}
    (request : DatasetUploadInitRequest) (existing : Option DatasetId) (generation : Nat)
    (outcome : DatasetOutcome) (uploadId : UploadId) (datasetId : DatasetId) :
    GrantsPending store (reserveUpload settings storage store request existing generation outcome
      uploadId datasetId).2 := by
  unfold reserveUpload
  repeat' split
  all_goals
    first
    | exact grantsPending_of_eq rfl
    | apply grantsPending_grantUpload
      · rfl
      · exact Function.update_self ..
      · rfl

theorem grantsPending_initializer {store : DatasetStore Content}
    (request : DatasetUploadInitRequest) (outcome : DatasetOutcome) (uploadId : UploadId)
    (datasetId : DatasetId) (phase : InitializePhase) :
    GrantsPending store (advanceInitializer settings storage request store outcome uploadId
      datasetId phase).2 := by
  cases phase with
  | requested =>
      simp only [advanceInitializer]
      repeat' split
      all_goals exact grantsPending_of_eq rfl
  | locking existing =>
      simp only [advanceInitializer, replayUpload]
      split
      · exact grantsPending_of_eq rfl
      · next dataset upload locked =>
          repeat' split
          all_goals
            first
            | exact grantsPending_of_eq rfl
            | exact grantsPending_reserveUpload request _ _ outcome uploadId datasetId
            | exact grantsPending_uploadInitResponse outcome (lock_eq_some locked).1
  | reserving existing generation =>
      exact grantsPending_reserveUpload request existing generation outcome uploadId datasetId
  | raced =>
      simp only [advanceInitializer]
      split
      · exact grantsPending_of_eq rfl
      · next raced upload found =>
          rcases Option.bind_eq_some_iff.mp found with ⟨racedId, -, made⟩
          rcases Option.map_eq_some_iff.mp made with ⟨row, rowFound, same⟩
          cases same
          split
          · exact grantsPending_of_eq rfl
          · exact grantsPending_uploadInitResponse outcome rowFound
  | answered answer => exact grantsPending_of_eq rfl

theorem grantsPending_advance {prepare : DatasetPreparation Content} (choice : DatasetChoice)
    (phase : DatasetPhase Content) (store : DatasetStore Content) :
    GrantsPending store
      (advanceDatasetProcess sizeBytes sha256 settings storage prepare choice phase store).2 := by
  cases phase with
  | initializer request phase =>
      cases choice with
      | heartbeat => exact grantsPending_of_eq rfl
      | go outcome deletions pick uploadId datasetId =>
          exact grantsPending_initializer request outcome uploadId datasetId phase
  | _ =>
      apply grantsPending_of_eq
      exact (strictFrame_advance choice store fun _ _ same => by cases same).grants

/-! ## The objects a move may touch -/

def DatasetFinalizePhase.Touches (store : DatasetStore Content) (uploadId : UploadId)
    (token : ClaimToken) (phase : DatasetFinalizePhase Content) (key : DatasetObjectKey) : Prop :=
  match phase with
  | .operating owned (.publish _ _ role) _ =>
      key = owned.canonicalObjectKey role ∧ store.objects key = none
  | .cleaning owned remaining _ _ => ∃ role ∈ remaining, key = owned.canonicalObjectKey role
  | .failing .. => ∃ row, store.sessions uploadId = some row ∧ key = row.temporaryObjectKey
  | .recovering owned _ published _ _ =>
      (∃ role ∈ published, key = owned.canonicalObjectKey role) ∧
        ∃ row, store.sessions uploadId = some row ∧ row.status ≠ .completed ∧
          (row.status = .finalizing → row.finalizationToken = some token)
  | .removingStaging owned _ _ => key = owned.temporaryObjectKey
  | _ => False

def LocalUploadPhase.Touches (phase : LocalUploadPhase) (key : DatasetObjectKey) : Prop :=
  match phase with
  | .writing owned | .cleaning owned _ _ => key = owned.temporaryObjectKey
  | _ => False

def DatasetPhase.Touches (store : DatasetStore Content) (key : DatasetObjectKey) :
    DatasetPhase Content → Prop
  | .initializer _ _ => False
  | .writer _ _ phase => phase.Touches key
  | .presigned own _ => key = own ∧ store.objects key = none
  | .finalizer request token phase => phase.Touches store request.uploadId token key
  | .deleter _ (.deleting remaining _) => key ∈ remaining
  | .deleter _ _ => False

section

variable {store : DatasetStore Content} {key other : DatasetObjectKey}

theorem deleteObject_objects (deletion : Deletion) (different : other ≠ key) :
    (store.deleteObject key deletion).2.objects other = store.objects other := by
  simp only [DatasetStore.deleteObject]
  split
  · exact Function.update_of_ne different none store.objects
  · rfl

theorem cleanup_objects {deletions : DatasetObjectKey → Deletion} {keys : List DatasetObjectKey}
    (apart : other ∉ keys) :
    (cleanupPublishedKeys deletions keys store).2.objects other = store.objects other := by
  induction keys generalizing store with
  | nil => rfl
  | cons key later induction =>
      rw [List.mem_cons, not_or] at apart
      exact (induction apart.2).trans (deleteObject_objects _ apart.1)

theorem storeVerified_objects (content : Content) (outcome : DatasetOutcome)
    (kept : other = key → store.objects other ≠ none) :
    (storeVerifiedDatasetFile store key content outcome).2.objects other = store.objects other := by
  by_cases same : other = key
  · have taken : (store.objects key).isSome := Option.isSome_iff_ne_none.mpr (same ▸ kept same)
    simp only [storeVerifiedDatasetFile, if_pos taken]
  · unfold storeVerifiedDatasetFile
    repeat' split
    all_goals first | rfl | exact Function.update_of_ne same _ store.objects

theorem writeUploadBody_objects (owned : DatasetReservation) (content : Content)
    (effective : Bool) (different : other ≠ owned.temporaryObjectKey) :
    (writeUploadBody sizeBytes store owned content effective).objects other =
      store.objects other := by
  unfold writeUploadBody
  split
  · exact Function.update_of_ne different _ store.objects
  · rfl

theorem amend_datasetObjects (uploadId : UploadId)
    (update : DatasetUploadSession → Option DatasetUploadSession) :
    (store.amend uploadId update).2.objects = store.objects := by
  unfold DatasetStore.amend
  split <;> rfl

theorem grantUpload_objects (upload : DatasetReservation) :
    (grantUpload storage store upload).objects = store.objects := by
  unfold grantUpload
  split <;> rfl

theorem uploadInitResponse_objects (uploadId : UploadId) (upload : DatasetUploadSession)
    (outcome : DatasetOutcome) :
    (uploadInitResponse storage store uploadId upload outcome).2.objects = store.objects := by
  unfold uploadInitResponse
  repeat' split
  all_goals first | rfl | exact grantUpload_objects _

theorem reserveUpload_objects (request : DatasetUploadInitRequest)
    (existing : Option DatasetId) (generation : Nat) (outcome : DatasetOutcome)
    (uploadId : UploadId) (datasetId : DatasetId) :
    (reserveUpload settings storage store request existing generation outcome uploadId
      datasetId).2.objects = store.objects := by
  unfold reserveUpload
  repeat' split
  all_goals first | rfl | exact grantUpload_objects _

theorem initializer_objects (request : DatasetUploadInitRequest) (outcome : DatasetOutcome)
    (uploadId : UploadId) (datasetId : DatasetId) (phase : InitializePhase) :
    (advanceInitializer settings storage request store outcome uploadId datasetId
      phase).2.objects = store.objects := by
  cases phase with
  | requested =>
      simp only [advanceInitializer]
      repeat' split
      all_goals rfl
  | locking existing =>
      simp only [advanceInitializer, replayUpload]
      repeat' split
      all_goals
        first
        | rfl
        | exact reserveUpload_objects ..
        | exact uploadInitResponse_objects ..
  | reserving existing generation => exact reserveUpload_objects ..
  | raced =>
      simp only [advanceInitializer]
      repeat' split
      all_goals first | rfl | exact uploadInitResponse_objects ..
  | answered answer => rfl

theorem localUpload_objects (request : LocalUploadRequest Content) (token : ClaimToken)
    (outcome : DatasetOutcome) (deletions : DatasetObjectKey → Deletion)
    {phase : LocalUploadPhase} (untouched : ¬phase.Touches other) :
    (advanceLocalUpload settings storage sizeBytes request token store outcome deletions
      phase).2.objects other = store.objects other := by
  cases phase with
  | requested =>
      simp only [advanceLocalUpload, beginLocalUpload]
      repeat' split
      all_goals rfl
  | startWriting owned =>
      simp only [advanceLocalUpload]
      split
      · rfl
      · rw [amend_datasetObjects]
  | writing owned =>
      simp only [advanceLocalUpload]
      repeat' split
      all_goals first | rfl | exact writeUploadBody_objects _ _ _ untouched
  | wrote owned result =>
      simp only [advanceLocalUpload]
      split
      · rfl
      · rw [amend_datasetObjects]
  | sealing owned =>
      simp only [advanceLocalUpload]
      repeat' split
      all_goals rfl
  | timingOut owned =>
      simp only [advanceLocalUpload]
      repeat' split
      all_goals rfl
  | cleaning owned clears answer => exact deleteObject_objects _ untouched
  | clearing owned answer => simp only [advanceLocalUpload, amend_datasetObjects]
  | answered answer => rfl

theorem finalizer_objects {prepare : DatasetPreparation Content}
    (request : FinalizeDatasetRequest) (token : ClaimToken) (outcome : DatasetOutcome)
    (deletions : DatasetObjectKey → Deletion) {phase : DatasetFinalizePhase Content}
    (untouched : ¬phase.Touches store request.uploadId token other) :
    (advanceDatasetFinalizer sizeBytes sha256 settings storage prepare request token store
      outcome deletions phase).2.objects other = store.objects other := by
  cases phase with
  | requested =>
      simp only [advanceDatasetFinalizer, beginDatasetFinalization]
      repeat' split
      all_goals rfl
  | starting owned task published =>
      simp only [advanceDatasetFinalizer]
      split
      · rfl
      · rw [amend_datasetObjects]
  | operating owned task published =>
      cases task with
      | verify => rfl
      | prepare verified => rfl
      | publish verified snapshot role =>
          apply storeVerified_objects
          intro same free
          exact untouched ⟨same, free⟩
  | operated owned result published =>
      simp only [advanceDatasetFinalizer]
      split
      · rfl
      · rw [amend_datasetObjects]
  | cleaning owned remaining succeeded reason =>
      cases remaining with
      | nil => rfl
      | cons role remaining =>
          apply deleteObject_objects
          intro same
          exact untouched ⟨role, List.mem_cons_self, same⟩
  | failing owned failureCode retryable cleanupTemporary published answer =>
      simp only [advanceDatasetFinalizer, setUploadFailure]
      split
      · rfl
      · next dataset upload locked =>
          have found := (DatasetStore.lock_eq_some locked).1
          have kept : (if cleanupTemporary then
              store.deleteObject upload.temporaryObjectKey (deletions upload.temporaryObjectKey)
            else (true, store)).2.objects other = store.objects other := by
            split
            · apply deleteObject_objects
              intro same
              exact untouched ⟨upload, found, same⟩
            · rfl
          split
          · rfl
          · split
            · exact kept
            · exact kept
  | committing owned verified snapshot published =>
      simp only [advanceDatasetFinalizer, commitDatasetFinalization]
      split
      · rfl
      · split
        · rfl
        · split
          · next effective => cases effective <;> rfl
          · rfl
  | recovering owned failureCode published afterCommit cancelled =>
      simp only [advanceDatasetFinalizer, recoverAbortedFinalization]
      split
      · rfl
      · next dataset upload locked =>
          have found := (DatasetStore.lock_eq_some locked).1
          split
          · rfl
          · split
            · rfl
            · next uncompleted =>
                split
                · rfl
                · next held =>
                    rw [not_and, not_not] at held
                    have kept : (cleanupPublishedKeys deletions
                        (published.map owned.canonicalObjectKey) store).2.objects other =
                        store.objects other := by
                      apply cleanup_objects
                      intro member
                      rcases List.mem_map.mp member with ⟨role, inPublished, same⟩
                      exact untouched ⟨⟨role, inPublished, same.symm⟩, upload, found, uncompleted,
                        held⟩
                    repeat' split
                    all_goals exact kept
  | removingStaging owned recovered cancelled => exact deleteObject_objects _ untouched
  | marking owned => simp only [advanceDatasetFinalizer, amend_datasetObjects]
  | answered answer => rfl

theorem deletion_objects (request : DeleteDatasetRequest)
    (deletions : DatasetObjectKey → Deletion) (pick : Nat) {phase : DeletePhase}
    (untouched : ∀ remaining succeeded, phase = .deleting remaining succeeded →
      other ∉ remaining) :
    (advanceDeletion storage request store deletions pick phase).2.objects other =
      store.objects other := by
  cases phase with
  | requested =>
      simp only [advanceDeletion, beginDeletion]
      repeat' split
      all_goals rfl
  | deleting remaining succeeded =>
      simp only [advanceDeletion]
      split
      · rfl
      · next key picked =>
          apply deleteObject_objects
          rintro rfl
          exact untouched remaining succeeded rfl (List.mem_of_getElem? picked)
  | failing =>
      simp only [advanceDeletion]
      split <;> rfl
  | removing =>
      simp only [advanceDeletion]
      split <;> rfl
  | answered answer => rfl

theorem advance_objects {prepare : DatasetPreparation Content} (choice : DatasetChoice)
    {phase : DatasetPhase Content} (untouched : ¬phase.Touches store other) :
    (advanceDatasetProcess sizeBytes sha256 settings storage prepare choice phase
      store).2.objects other = store.objects other := by
  cases choice with
  | heartbeat =>
      simp only [advanceDatasetProcess, heartbeatDatasetProcess]
      repeat' split
      all_goals first | rfl | rw [amend_datasetObjects]
  | go outcome deletions pick uploadId datasetId =>
      cases phase with
      | initializer request phase =>
          exact congrFun (initializer_objects request outcome uploadId datasetId phase) other
      | writer request token phase =>
          exact localUpload_objects request token outcome deletions untouched
      | presigned key content =>
          apply storeVerified_objects
          intro same free
          exact untouched ⟨same, free⟩
      | finalizer request token phase =>
          exact finalizer_objects request token outcome deletions untouched
      | deleter request phase =>
          apply deletion_objects
          rintro remaining succeeded rfl
          exact untouched

end

end

end RvcOrchestrator.Manager

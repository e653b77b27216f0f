import RvcOrchestrator.Manager.DatasetCoherence

/-! # Dataset uploads: every step keeps what holds -/

namespace RvcOrchestrator.Manager

open RvcOrchestrator.Foundation RvcOrchestrator.Contracts DatasetStore

section

variable {Content : Type} {sizeBytes : Content → Nat} {sha256 : Content → String}
  {settings : DatasetSettings} {storage : StorageIdentity}
  {prepare : DatasetPreparation Content} {store after : DatasetStore Content}

/-! ## The rows -/

theorem advance_rows (choice : DatasetChoice) (sound : store.Sound settings)
    {phase : DatasetPhase Content} (fits : phase.Fits sizeBytes sha256 store) :
    RowsMove sizeBytes sha256 settings storage phase.name phase.recording store
      (advanceDatasetProcess sizeBytes sha256 settings storage prepare choice phase store).2 := by
  cases choice with
  | heartbeat => exact heartbeatDatasetProcess_rows sound phase
  | go outcome deletions pick uploadId datasetId =>
      cases phase with
      | initializer request phase => exact (advanceInitializer_rows sound fits).1
      | writer request token phase => exact advanceLocalUpload_rows sound
      | presigned key content => exact .ofSame (sameRows_storeVerified ..)
      | finalizer request token phase => exact advanceDatasetFinalizer_rows sound
      | deleter request phase => exact advanceDeletion_rows

/-! ## Published datasets -/

theorem Dataset.Records.ofUri {dataset : Dataset} {role : CanonicalRole} {content : Content}
    (records : dataset.Records sizeBytes sha256 role content) (uri : Option DatasetUri) :
    Dataset.Records sizeBytes sha256 { dataset with storageUri := uri } role content := by
  cases role <;> exact records

/-- The objects of the completed sessions of published datasets stay. -/
def KeepsPublished (store after : DatasetStore Content) : Prop :=
  ∀ uploadId row dataset role content, store.sessions uploadId = some row →
    row.status = .completed → store.datasets row.datasetId = some dataset →
    dataset.Published → store.objects (row.canonicalObjectKey role) = some content →
    after.objects (row.canonicalObjectKey role) = some content

theorem DatasetStore.Publishes.move {actor : Option ClaimToken}
    {completing : Option (DatasetSnapshot Content)} {datasetId : DatasetId}
    {dataset dataset' : Dataset} (publishes : store.Publishes sizeBytes sha256 datasetId dataset)
    (move : RowsMove sizeBytes sha256 settings storage actor completing store after)
    (sound : store.Sound settings) (found : store.datasets datasetId = some dataset)
    (published : dataset.Published) (found' : after.datasets datasetId = some dataset')
    (records : ∀ role content, dataset.Records sizeBytes sha256 role content →
      dataset'.Records sizeBytes sha256 role content)
    (keeps : KeepsPublished store after) :
    after.Publishes sizeBytes sha256 datasetId dataset' := by
  rcases publishes with ⟨uploadId, row, rowFound, rfl, completed, objects⟩
  have parent : after.datasets row.datasetId ≠ none := by
    rw [found']
    exact Option.some_ne_none _
  rcases move.forward sound rowFound parent with ⟨next, nextFound, becomes⟩
  have reservation := becomes.reservation
  refine ⟨uploadId, next, nextFound, ?_, ?_, ?_⟩
  · rw [reservation]
  · rw [becomes.terminal (.inl completed), completed]
  · intro role
    rcases objects role with ⟨content, present, recorded⟩
    rw [reservation]
    exact ⟨content, keeps uploadId row dataset role content rowFound completed found published
      present, records role content recorded⟩

/-- A move that records nothing new keeps every published dataset complete. -/
theorem published_move {actor : Option ClaimToken}
    (published : ∀ datasetId dataset, store.datasets datasetId = some dataset →
      dataset.Published → store.Publishes sizeBytes sha256 datasetId dataset)
    (move : RowsMove sizeBytes sha256 settings storage actor none store after)
    (sound : store.Sound settings) (keeps : KeepsPublished store after) {datasetId : DatasetId}
    {dataset' : Dataset} (found' : after.datasets datasetId = some dataset')
    (isPublished : dataset'.Published) :
    after.Publishes sizeBytes sha256 datasetId dataset' := by
  -- What the dataset was before, where the move has left it as it was.
  have same (dataset : Dataset) (found : store.datasets datasetId = some dataset)
      (uri : Option DatasetUri) (sameRow : dataset' = { dataset with storageUri := uri }) :
      after.Publishes sizeBytes sha256 datasetId dataset' := by
    subst sameRow
    have before : dataset.Published := isPublished
    exact (published datasetId dataset found before).move move sound found before found'
      (fun _ _ records => records.ofUri uri) keeps
  cases move with
  | same rows => exact same dataset' (rows.datasets ▸ found') dataset'.storageUri rfl
  | session uploadId row next parent parent' rowFound parentFound _ follows _ datasets _ _ =>
      rw [datasets] at found'
      by_cases ofRow : datasetId = row.datasetId
      · subst ofRow
        rw [Function.update_self] at found'
        rcases Option.some.inj found' with rfl
        cases follows with
        | unchanged => exact same parent parentFound parent.storageUri rfl
        | adjusted _ _ _ _ _ unready =>
            rcases unready with rfl | rfl | rfl
            all_goals rcases isPublished with other | other <;> nomatch other
        | completes _ _ _ own => nomatch own
      · rw [Function.update_of_ne ofRow] at found'
        exact same dataset' found' dataset'.storageUri rfl
  | reserved request existing _ source _ newId reserves =>
      rcases reserves.datasets with ⟨uri, datasets⟩
      rw [datasets] at found'
      by_cases ofNew : datasetId = existing.getD newId
      · subst ofNew
        rw [Function.update_self] at found'
        rcases Option.some.inj found' with rfl
        cases existing with
        | none =>
            rcases Option.some.inj reserves.source with rfl
            rcases isPublished with other | other <;> nomatch other
        | some existing => exact same source reserves.source uri rfl
      · rw [Function.update_of_ne ofNew] at found'
        exact same dataset' found' dataset'.storageUri rfl
  | deletion ownId own own' ownFound moved _ datasets _ _ =>
      rw [datasets] at found'
      by_cases ofOwn : datasetId = ownId
      · subst ofOwn
        rw [Function.update_self] at found'
        rcases Option.some.inj found' with rfl
        rcases moved with rfl | rfl
        all_goals rcases isPublished with other | other <;> nomatch other
      · rw [Function.update_of_ne ofOwn] at found'
        exact same dataset' found' dataset'.storageUri rfl
  | imported newId own _ legacy _ datasets _ _ =>
      rw [datasets] at found'
      by_cases ofNew : datasetId = newId
      · subst ofNew
        rw [Function.update_self] at found'
        rcases Option.some.inj found' with rfl
        rcases isPublished with other | other <;> nomatch other.symm.trans legacy
      · rw [Function.update_of_ne ofNew] at found'
        exact same dataset' found' dataset'.storageUri rfl
  | removed goneId _ datasets _ _ =>
      rw [datasets] at found'
      by_cases gone : datasetId = goneId
      · rw [gone, Function.update_self] at found'
        nomatch found'
      · rw [Function.update_of_ne gone] at found'
        exact same dataset' found' dataset'.storageUri rfl

/-! ## Processes that do not move -/

theorem DatasetStore.Holds.move {actor : Option ClaimToken}
    {completing : Option (DatasetSnapshot Content)} {uploadId : UploadId} {token : ClaimToken}
    {owned : DatasetReservation} (holds : store.Holds uploadId token owned)
    (move : RowsMove sizeBytes sha256 settings storage actor completing store after)
    (sound : store.Sound settings) (other : actor ≠ some token) :
    after.Holds uploadId token owned where
  drawn := move.uploads_subset holds.drawn
  keys := holds.keys
  reservation next found := by
    rcases move.back sound holds.drawn found with ⟨row, rowFound, becomes⟩
    rw [becomes.reservation]
    exact holds.reservation row rowFound
  claim next found := by
    rcases move.back sound holds.drawn found with ⟨row, rowFound, becomes⟩
    rcases holds.claim row rowFound with ⟨unpending, claim⟩
    cases becomes with
    | keeps _ status token =>
        rw [status]
        exact ⟨unpending, fun finalizing => (token finalizing).trans (claim finalizing)⟩
    | expires _ _ status =>
        rw [status]
        exact ⟨nofun, nofun⟩
    | claims _ pending => exact absurd pending unpending
    | ends _ finalizing held own =>
        exact absurd (own.trans (held.symm.trans (claim finalizing))) other

/-- A session that another process finalizes is not completed by this move. -/
theorem uncompleted_move {actor : Option ClaimToken}
    {completing : Option (DatasetSnapshot Content)} {uploadId : UploadId} {token : ClaimToken}
    {owned : DatasetReservation} (holds : store.Holds uploadId token owned)
    (move : RowsMove sizeBytes sha256 settings storage actor completing store after)
    (sound : store.Sound settings) (other : actor ≠ some token)
    (uncompleted : ∀ row, store.sessions uploadId = some row → row.status ≠ .completed)
    {next : DatasetUploadSession} (found : after.sessions uploadId = some next) :
    next.status ≠ .completed := by
  rcases move.back sound holds.drawn found with ⟨row, rowFound, becomes⟩
  cases becomes with
  | keeps _ status => exact status ▸ uncompleted row rowFound
  | expires _ _ status =>
      rw [status]
      exact nofun
  | claims _ _ status =>
      rw [status]
      exact nofun
  | ends _ finalizing held own =>
      exact absurd (own.trans (held.symm.trans ((holds.claim row rowFound).2 finalizing))) other

/-- A session that is finalizing after the move of another process was so before. -/
theorem finalizing_back {actor : Option ClaimToken}
    {completing : Option (DatasetSnapshot Content)} {uploadId : UploadId} {token : ClaimToken}
    {owned : DatasetReservation} (holds : store.Holds uploadId token owned)
    (move : RowsMove sizeBytes sha256 settings storage actor completing store after)
    (sound : store.Sound settings) {next : DatasetUploadSession}
    (found : after.sessions uploadId = some next) (finalizing : next.status = .finalizing) :
    ∃ row, store.sessions uploadId = some row ∧ row.status = .finalizing ∧
      row.finalizationToken = some token ∧
      next.toDatasetReservation = row.toDatasetReservation := by
  rcases move.back sound holds.drawn found with ⟨row, rowFound, becomes⟩
  rcases holds.claim row rowFound with ⟨unpending, claim⟩
  have active := becomes.active (.inr finalizing)
  have before : row.status = .finalizing := active.resolve_left unpending
  exact ⟨row, rowFound, before, claim before, becomes.reservation⟩

theorem DatasetFinalizePhase.Fits.move {actor : Option ClaimToken}
    {completing : Option (DatasetSnapshot Content)} {uploadId : UploadId} {token : ClaimToken}
    {phase : DatasetFinalizePhase Content} (fits : phase.Fits sizeBytes sha256 store uploadId token)
    (move : RowsMove sizeBytes sha256 settings storage actor completing store after)
    (sound : store.Sound settings) (other : actor ≠ some token)
    (keeps : ∀ row role content, store.sessions uploadId = some row →
      row.status = .finalizing → row.finalizationToken = some token →
      store.objects (row.canonicalObjectKey role) = some content →
      after.objects (row.canonicalObjectKey role) = some content) :
    phase.Fits sizeBytes sha256 after uploadId token where
  holds owned own := (fits.holds owned own).move move sound other
  orderly := fits.orderly
  uncompleted claimed early next found := by
    rcases Option.ne_none_iff_exists'.mp claimed with ⟨owned, own⟩
    exact uncompleted_move (fits.holds owned own) move sound other
      (fits.uncompleted claimed early) found
  verified := fits.verified
  stored owned verified snapshot roles next own stored found finalizing role member := by
    have holds := fits.holds owned own
    rcases finalizing_back holds move sound found finalizing with
      ⟨row, rowFound, before, claim, -⟩
    have present := fits.stored owned verified snapshot roles row own stored rowFound before role
      member
    rw [← holds.reservation row rowFound] at present ⊢
    exact keeps row role _ rowFound before claim present

theorem DatasetStore.Discarded.move {actor : Option ClaimToken}
    {completing : Option (DatasetSnapshot Content)} {uploadId : UploadId}
    (discarded : store.Discarded uploadId)
    (move : RowsMove sizeBytes sha256 settings storage actor completing store after)
    (sound : store.Sound settings) (soundAfter : after.Sound settings) :
    after.Discarded uploadId := by
  refine ⟨move.uploads_subset discarded.1, ?_⟩
  intro next found
  rcases move.back sound discarded.1 found with ⟨row, rowFound, becomes⟩
  rcases discarded.2 row rowFound with ⟨terminal, deleting⟩
  have status := becomes.terminal terminal
  rw [status]
  refine ⟨terminal, ?_⟩
  intro completed
  rcases deleting completed with ⟨dataset, parent, begun⟩
  rcases soundAfter.parent uploadId next found with ⟨dataset', parent', -⟩
  refine ⟨dataset', parent', ?_⟩
  rw [becomes.reservation] at parent'
  apply move.deleting sound parent begun _ parent'
  intro otherId other otherFound ofDataset active
  have unexpired : row.status ≠ .expired := by
    rw [completed]
    exact nofun
  have otherUnexpired : other.status ≠ .expired := by
    intro expired
    rw [expired] at active
    rcases active with same | same <;> nomatch same
  have same := sound.only_unexpired rowFound otherFound ofDataset.symm unexpired otherUnexpired
  rw [same, otherFound] at rowFound
  rcases Option.some.inj rowFound with rfl
  exact terminal.not_active active

theorem DatasetPhase.Fits.move {actor : Option ClaimToken}
    {completing : Option (DatasetSnapshot Content)} {phase : DatasetPhase Content}
    (fits : phase.Fits sizeBytes sha256 store)
    (move : RowsMove sizeBytes sha256 settings storage actor completing store after)
    (sound : store.Sound settings) (soundAfter : after.Sound settings)
    (other : ∀ token, phase.name = some token → actor ≠ some token)
    (keeps : ∀ uploadId row role content, store.sessions uploadId = some row →
      row.status = .finalizing → row.finalizationToken = phase.name →
      store.objects (row.canonicalObjectKey role) = some content →
      after.objects (row.canonicalObjectKey role) = some content) :
    phase.Fits sizeBytes sha256 after := by
  cases phase with
  | initializer request phase =>
      cases phase with
      | reserving existing generation => exact Continues.move fits move sound
      | _ => trivial
  | writer request token phase => exact fits
  | presigned key content => exact fits
  | finalizer request token phase =>
      exact DatasetFinalizePhase.Fits.move fits move sound (other token rfl)
        (keeps request.uploadId)
  | deleter request phase =>
      cases phase with
      | deleting remaining succeeded =>
          intro key member
          exact (fits key member).move move sound soundAfter
      | _ => trivial

/-! ## The process that moves -/

section

variable {uploadId : UploadId} {token : ClaimToken} {owned : DatasetReservation}

theorem fits_answered (answer : DatasetAnswer DatasetId) :
    (DatasetFinalizePhase.answered answer : DatasetFinalizePhase Content).Fits sizeBytes sha256
      store uploadId token where
  holds _ own := nomatch own
  orderly := trivial
  uncompleted claimed := absurd rfl claimed
  verified _ _ own := nomatch own
  stored _ _ _ _ _ own := nomatch own

theorem fits_requested :
    (DatasetFinalizePhase.requested : DatasetFinalizePhase Content).Fits sizeBytes sha256 store
      uploadId token where
  holds _ own := nomatch own
  orderly := trivial
  uncompleted claimed := absurd rfl claimed
  verified _ _ own := nomatch own
  stored _ _ _ _ _ own := nomatch own

/-- A phase that no longer publishes needs only the claim. -/
theorem fits_of_holds {phase : DatasetFinalizePhase Content}
    (holds : store.Holds uploadId token owned) (own : phase.owned = some owned)
    (orderly : phase.Orderly) (nothingVerified : phase.verified? = none)
    (nothingStored : phase.stored? = none)
    (uncompleted : phase.committed = false →
      ∀ row, store.sessions uploadId = some row → row.status ≠ .completed) :
    phase.Fits sizeBytes sha256 store uploadId token where
  holds other otherOwn := by
    rw [own] at otherOwn
    exact Option.some.inj otherOwn ▸ holds
  orderly := orderly
  uncompleted _ := uncompleted
  verified _ _ _ verified := nomatch nothingVerified.symm.trans verified
  stored _ _ _ _ _ _ stored := nomatch nothingStored.symm.trans stored

/-- What a move that is nobody's claim leaves of a phase that still has its claim. -/
theorem DatasetFinalizePhase.Fits.drop {phase next : DatasetFinalizePhase Content}
    (fits : phase.Fits sizeBytes sha256 store uploadId token) (own : phase.owned = some owned)
    (early : phase.committed = false)
    (move : RowsMove sizeBytes sha256 settings storage none none store after)
    (sound : store.Sound settings) (nextOwn : next.owned = some owned) (orderly : next.Orderly)
    (nothingVerified : next.verified? = none) (nothingStored : next.stored? = none) :
    next.Fits sizeBytes sha256 after uploadId token := by
  have holds := fits.holds owned own
  have claimed : phase.owned ≠ none := own ▸ Option.some_ne_none owned
  refine fits_of_holds (holds.move move sound nofun) nextOwn orderly nothingVerified
    nothingStored fun _ row found => ?_
  exact uncompleted_move holds move sound nofun (fits.uncompleted claimed early) found

/-- A heartbeat keeps what holds of a finalizer. -/
theorem DatasetFinalizePhase.Fits.touch {phase : DatasetFinalizePhase Content}
    (fits : phase.Fits sizeBytes sha256 store uploadId token) (sound : store.Sound settings)
    (storage : StorageIdentity) (otherId : UploadId)
    {update : DatasetUploadSession → Option DatasetUploadSession}
    (keeps : ∀ row next, update row = some next →
      SessionBecomes none row next ∧ next.status = row.status) :
    phase.Fits sizeBytes sha256 (store.amend otherId update).2 uploadId token := by
  have move : RowsMove sizeBytes sha256 settings storage none none store
      (store.amend otherId update).2 := .amend sound otherId keeps
  apply fits.move move sound nofun
  intro row role content _ _ _ present
  rw [amend_datasetObjects]
  exact present

theorem fits_operating {task : FinalizationTask Content} {published : List CanonicalRole}
    (fits : (DatasetFinalizePhase.starting owned task published).Fits sizeBytes sha256 store
      uploadId token) :
    (DatasetFinalizePhase.operating owned task published).Fits sizeBytes sha256 store uploadId
      token := by
  cases task <;>
    exact ⟨fits.holds, fits.orderly, fits.uncompleted, fits.verified, fits.stored⟩

theorem beginDatasetFinalization_fits {request : FinalizeDatasetRequest}
    (sound : store.Sound settings) :
    (beginDatasetFinalization settings storage store request token).1.Fits sizeBytes sha256
      (beginDatasetFinalization settings storage store request token : _ × DatasetStore Content).2
      request.uploadId token := by
  simp only [beginDatasetFinalization]
  repeat' split
  all_goals first | exact fits_answered _ | skip
  next dataset upload locked _ _ _ _ valid _ _ _ =>
    rw [not_not] at valid
    have found := (lock_eq_some locked).1
    have claimed : (store.commit request.uploadId (upload.claimFinalization store.clock token)
        dataset.startProcessing).sessions request.uploadId =
        some (upload.claimFinalization store.clock token) := Function.update_self ..
    constructor
    · intro owned own
      rcases Option.some.inj own with rfl
      refine ⟨sound.uploadDrawn request.uploadId upload found, valid, ?_, ?_⟩
      · intro row rowFound
        rw [← Option.some.inj (claimed.symm.trans rowFound)]
        rfl
      · intro row rowFound
        rw [← Option.some.inj (claimed.symm.trans rowFound)]
        exact ⟨fun completed => (by cases completed), fun _ => rfl⟩
    · rfl
    · intro _ _ row rowFound
      rw [← Option.some.inj (claimed.symm.trans rowFound)]
      intro completed
      cases completed
    · intro _ _ _ verified
      cases verified
    · intro _ _ _ _ _ _ stored
      cases stored

theorem verifyDatasetUpload_cases (outcome : DatasetOutcome) :
    (∃ content, verifyDatasetUpload sizeBytes sha256 store owned outcome = .verified content ∧
        sizeBytes content = owned.expectedSizeBytes ∧ sha256 content = owned.expectedSha256) ∨
      ∃ failure, verifyDatasetUpload sizeBytes sha256 store owned outcome = .failed failure := by
  unfold verifyDatasetUpload
  split
  · exact .inr ⟨_, rfl⟩
  · exact .inr ⟨_, rfl⟩
  · exact .inr ⟨_, rfl⟩
  · exact .inr ⟨_, rfl⟩
  · exact .inr ⟨_, rfl⟩
  · split
    · exact .inr ⟨_, rfl⟩
    · next content _ =>
        split
        · exact .inr ⟨_, rfl⟩
        · split
          · exact .inr ⟨_, rfl⟩
          · next size =>
              split
              · exact .inr ⟨_, rfl⟩
              · next digest => exact .inl ⟨content, rfl, not_not.mp size, not_not.mp digest⟩

theorem prepareDatasetSnapshot_cases (verified : Content) (outcome : DatasetOutcome) :
    (∃ snapshot, prepareDatasetSnapshot prepare owned verified outcome =
        .prepared verified snapshot) ∨
      ∃ failure, prepareDatasetSnapshot prepare owned verified outcome = .failed failure := by
  unfold prepareDatasetSnapshot
  repeat' split
  all_goals first | exact .inr ⟨_, rfl⟩ | exact .inl ⟨_, rfl⟩

theorem storeVerified_stored {key : DatasetObjectKey} {content : Content}
    {outcome : DatasetOutcome} (stored : (storeVerifiedDatasetFile store key content outcome).1) :
    store.objects key = none ∧
      (storeVerifiedDatasetFile store key content outcome).2 = store.writeObject key content := by
  unfold storeVerifiedDatasetFile at stored ⊢
  split at stored
  · nomatch stored
  · next free =>
      rw [if_neg free]
      refine ⟨Option.not_isSome_iff_eq_none.mp free, ?_⟩
      split at stored <;> first | rfl | nomatch stored

theorem operating_fits (outcome : DatasetOutcome) (deletions : DatasetObjectKey → Deletion)
    {request : FinalizeDatasetRequest} {task : FinalizationTask Content}
    {published : List CanonicalRole} (sound : store.Sound settings)
    (fits : (DatasetFinalizePhase.operating owned task published).Fits sizeBytes sha256 store
      request.uploadId token) :
    (advanceDatasetFinalizer sizeBytes sha256 settings storage prepare request token store
        outcome deletions (.operating owned task published)).1.Fits sizeBytes sha256
      (advanceDatasetFinalizer sizeBytes sha256 settings storage prepare request token store
        outcome deletions (.operating owned task published)).2 request.uploadId token := by
  have holds := fits.holds owned rfl
  have uncompleted := fits.uncompleted (Option.some_ne_none owned) rfl
  have failed (failure : TaskFailure)
      (orderly : failure = .storage ∨ failure = .other ∨ published = []) :
      (DatasetFinalizePhase.operated owned (.failed failure) published).Fits sizeBytes sha256 store
        request.uploadId token :=
    fits_of_holds holds rfl orderly rfl rfl fun _ => uncompleted
  cases task with
  | verify =>
      have orderly : published = [] := fits.orderly
      simp only [advanceDatasetFinalizer]
      rcases verifyDatasetUpload_cases outcome with
        ⟨content, same, size, digest⟩ | ⟨failure, same⟩
      · rw [same]
        refine ⟨fits.holds, orderly, fun _ _ => uncompleted, ?_, fun _ _ _ _ _ _ h => by cases h⟩
        intro other verified own same
        rcases Option.some.inj own with rfl
        rcases Option.some.inj same with rfl
        exact ⟨size, digest⟩
      · rw [same]
        exact failed failure (.inr (.inr orderly))
  | prepare verified =>
      have orderly : published = [] := fits.orderly
      simp only [advanceDatasetFinalizer]
      rcases prepareDatasetSnapshot_cases verified outcome with ⟨snapshot, same⟩ | ⟨failure, same⟩
      · rw [same]
        exact ⟨fits.holds, orderly, fun _ _ => uncompleted, fits.verified,
          fun _ _ _ _ _ _ h => by cases h⟩
      · rw [same]
        exact failed failure (.inr (.inr orderly))
  | publish verified snapshot role =>
      have orderly : published = role.before := fits.orderly
      simp only [advanceDatasetFinalizer, publishCanonical]
      split
      · next stored =>
          rcases storeVerified_stored stored with ⟨free, written⟩
          rw [written]
          have move : RowsMove sizeBytes sha256 settings storage none none store
              (store.writeObject (owned.canonicalObjectKey role)
                (snapshot.content verified role)) := .ofSame (sameRows_writeObject ..)
          refine ⟨?_, congrArg (role :: ·) orderly, fun _ _ => uncompleted, fits.verified, ?_⟩
          · intro other own
            exact (fits.holds other own).move move sound (Option.some_ne_none _).symm
          · intro other content made roles row own same found finalizing otherRole member
            rcases Option.some.inj own with rfl
            rcases Option.some.inj same with ⟨rfl, rfl, rfl⟩
            rcases List.mem_cons.mp member with rfl | earlier
            · exact Function.update_self ..
            · have before := fits.stored owned verified snapshot published row rfl rfl found
                finalizing otherRole earlier
              have different : owned.canonicalObjectKey otherRole ≠
                  owned.canonicalObjectKey role := by
                intro sameKey
                rw [sameKey, free] at before
                cases before
              exact (Function.update_of_ne different _ store.objects).trans before
      · have move : RowsMove sizeBytes sha256 settings storage none none store
            (storeVerifiedDatasetFile store (owned.canonicalObjectKey role)
              (snapshot.content verified role) outcome).2 := .ofSame (sameRows_storeVerified ..)
        refine fits.drop rfl rfl move sound rfl ?_ rfl rfl
        split
        · exact .inr (.inl rfl)
        · exact .inl rfl

/-- What an operation leaves, behind the heartbeat that follows it. -/
theorem afterTask_fits {result : TaskResult Content} {published : List CanonicalRole}
    (fits : (DatasetFinalizePhase.operated owned result published).Fits sizeBytes sha256 store
      uploadId token) :
    (afterTask owned result published).Fits sizeBytes sha256 store uploadId token := by
  have holds := fits.holds owned rfl
  have uncompleted := fits.uncompleted (Option.some_ne_none owned) rfl
  have orderly := fits.orderly
  cases result with
  | verified verified =>
      exact ⟨fits.holds, orderly, fun _ _ => uncompleted, fits.verified,
        fun _ _ _ _ _ _ stored => nomatch stored⟩
  | prepared verified snapshot =>
      refine ⟨fits.holds, orderly, fun _ _ => uncompleted, fits.verified, ?_⟩
      intro _ _ _ roles _ _ stored _ _ role member
      rcases Option.some.inj stored with ⟨-, -, rfl⟩
      rw [show published = [] from orderly] at member
      nomatch member
  | published verified snapshot role =>
      have inOrder : published = role :: role.before := orderly
      simp only [afterTask]
      split
      · next next follows =>
          refine ⟨fits.holds, ?_, fun _ _ => uncompleted, fits.verified, fits.stored⟩
          exact inOrder.trans (CanonicalRole.before_of_next follows).symm
      · next last =>
          refine ⟨fits.holds, ?_, fun _ _ => uncompleted, fits.verified, fits.stored⟩
          intro other
          rw [inOrder]
          exact CanonicalRole.all_of_last last other
  | failed failure =>
      have failing (code : String) (retryable temporary : Bool) (answer : HttpError)
          (none : published = []) :
          (DatasetFinalizePhase.failing owned code retryable temporary published answer).Fits
            sizeBytes sha256 store uploadId token :=
        fits_of_holds holds rfl none rfl rfl fun _ => uncompleted
      cases failure with
      | storage => exact fits_of_holds holds rfl trivial rfl rfl fun _ => uncompleted
      | other => exact fits_of_holds holds rfl trivial rfl rfl fun _ => uncompleted
      | notFound => exact failing _ _ _ _ ((orderly.resolve_left nofun).resolve_left nofun)
      | mismatch code => exact failing _ _ _ _ ((orderly.resolve_left nofun).resolve_left nofun)
      | spool code => exact failing _ _ _ _ ((orderly.resolve_left nofun).resolve_left nofun)
      | preparation code retryable =>
          exact failing _ _ _ _ ((orderly.resolve_left nofun).resolve_left nofun)

/-- After its commit the session is completed, or the commit took no effect. -/
theorem holds_complete (holds : store.Holds uploadId token owned) {upload : DatasetUploadSession}
    (found : store.sessions uploadId = some upload) (dataset : Dataset) :
    (store.commit uploadId (upload.complete store.clock) dataset).Holds uploadId token owned := by
  have completed : (store.commit uploadId (upload.complete store.clock) dataset).sessions
      uploadId = some (upload.complete store.clock) := Function.update_self ..
  refine ⟨holds.drawn, holds.keys, ?_, ?_⟩
  · intro row rowFound
    rw [← Option.some.inj (completed.symm.trans rowFound)]
    exact holds.reservation upload found
  · intro row rowFound
    rw [← Option.some.inj (completed.symm.trans rowFound)]
    exact ⟨nofun, nofun⟩

theorem advanceDatasetFinalizer_fits (outcome : DatasetOutcome)
    (deletions : DatasetObjectKey → Deletion) {request : FinalizeDatasetRequest}
    {phase : DatasetFinalizePhase Content} (sound : store.Sound settings)
    (fits : phase.Fits sizeBytes sha256 store request.uploadId token) :
    (advanceDatasetFinalizer sizeBytes sha256 settings storage prepare request token store
        outcome deletions phase).1.Fits sizeBytes sha256
      (advanceDatasetFinalizer sizeBytes sha256 settings storage prepare request token store
        outcome deletions phase).2 request.uploadId token := by
  cases phase with
  | requested => exact beginDatasetFinalization_fits sound
  | starting owned task published =>
      have uncompleted := fits.uncompleted (Option.some_ne_none owned) rfl
      simp only [advanceDatasetFinalizer]
      split
      · exact fits_of_holds (fits.holds owned rfl) rfl trivial rfl rfl fun _ => uncompleted
      · have touched : (DatasetFinalizePhase.starting owned task published).Fits sizeBytes sha256
            (store.amend request.uploadId fun row =>
              row.touchFinalization store.clock token owned.generation).2 request.uploadId token :=
          fits.touch sound storage request.uploadId fun _ _ => touchFinalization_keeps
        split
        · exact fits_operating touched
        · exact fits_of_holds (touched.holds owned rfl) rfl trivial rfl rfl fun _ =>
            touched.uncompleted (Option.some_ne_none owned) rfl
  | operating owned task published => exact operating_fits outcome deletions sound fits
  | operated owned result published =>
      have uncompleted := fits.uncompleted (Option.some_ne_none owned) rfl
      simp only [advanceDatasetFinalizer]
      split
      · exact fits_of_holds (fits.holds owned rfl) rfl trivial rfl rfl fun _ => uncompleted
      · have touched : (DatasetFinalizePhase.operated owned result published).Fits sizeBytes sha256
            (store.amend request.uploadId fun row =>
              row.touchFinalization store.clock token owned.generation).2 request.uploadId token :=
          fits.touch sound storage request.uploadId fun _ _ => touchFinalization_keeps
        split
        · exact afterTask_fits touched
        · exact fits_of_holds (touched.holds owned rfl) rfl trivial rfl rfl fun _ =>
            touched.uncompleted (Option.some_ne_none owned) rfl
  | cleaning owned remaining succeeded reason =>
      have uncompleted := fits.uncompleted (Option.some_ne_none owned) rfl
      cases remaining with
      | nil =>
          cases reason with
          | leaseLost => exact fits_answered _
          | publishFailed =>
              exact fits_of_holds (fits.holds owned rfl) rfl rfl rfl rfl fun _ => uncompleted
      | cons role remaining =>
          have move : RowsMove sizeBytes sha256 settings storage none none store
              (store.deleteObject (owned.canonicalObjectKey role)
                (deletions (owned.canonicalObjectKey role))).2 :=
            .ofSame (sameRows_deleteObject ..)
          exact fits.drop rfl rfl move sound rfl trivial rfl rfl
  | failing owned failureCode retryable cleanupTemporary published answer =>
      have lost : (DatasetFinalizePhase.cleaning owned published true .leaseLost).Fits sizeBytes
          sha256 store request.uploadId token :=
        fits_of_holds (fits.holds owned rfl) rfl trivial rfl rfl fun _ =>
          fits.uncompleted (Option.some_ne_none owned) rfl
      simp only [advanceDatasetFinalizer, setUploadFailure]
      repeat' split
      all_goals first | exact lost | exact fits_answered _
  | committing owned verified snapshot published =>
      have holds := fits.holds owned rfl
      have lost : (DatasetFinalizePhase.cleaning owned published true .leaseLost).Fits sizeBytes
          sha256 store request.uploadId token :=
        fits_of_holds holds rfl trivial rfl rfl fun _ =>
          fits.uncompleted (Option.some_ne_none owned) rfl
      simp only [advanceDatasetFinalizer, commitDatasetFinalization]
      split
      · exact lost
      · next dataset upload locked =>
          have found := (lock_eq_some locked).1
          split
          · exact lost
          · split
            · next effective =>
                cases effective with
                | true =>
                    exact fits_of_holds (holds_complete holds found _) rfl trivial rfl rfl
                      fun uncommitted => by cases uncommitted
                | false =>
                    exact fits_of_holds holds rfl trivial rfl rfl
                      fun uncommitted => by cases uncommitted
            · exact fits_of_holds (holds_complete holds found _) rfl trivial rfl rfl
                fun uncommitted => by cases uncommitted
  | recovering owned failureCode published afterCommit cancelled =>
      simp only [advanceDatasetFinalizer, recoverAbortedFinalization]
      split
      · exact fits_answered _
      · split
        · exact fits_answered _
        · split
          · split
            · exact fits_of_holds (fits.holds owned rfl) rfl trivial rfl rfl
                fun uncommitted => by cases uncommitted
            · exact fits_answered _
          · split
            · exact fits_answered _
            · split <;> exact fits_answered _
  | removingStaging owned recovered cancelled =>
      simp only [advanceDatasetFinalizer]
      split
      · exact fits_answered _
      · have move : RowsMove sizeBytes sha256 settings storage none none store
            (store.deleteObject owned.temporaryObjectKey
              (deletions owned.temporaryObjectKey)).2 := .ofSame (sameRows_deleteObject ..)
        have holds := (fits.holds owned rfl).move move sound (Option.some_ne_none _).symm
        exact fits_of_holds holds rfl trivial rfl rfl fun uncommitted => by cases uncommitted
  | marking owned => exact fits_answered _
  | answered answer => exact fits_answered _

theorem beginDeletion_fits {request : DeleteDatasetRequest} (sound : store.Sound settings) :
    (DatasetPhase.deleter request (beginDeletion storage store request).1).Fits sizeBytes sha256
      (beginDeletion storage store request).2 := by
  simp only [beginDeletion]
  split
  · trivial
  · next dataset found =>
      repeat' split
      all_goals first | trivial | skip
      next _ _ unblocked uncleaned _ _ =>
        intro key member
        rcases List.mem_flatMap.mp member with ⟨row, listed, isKey⟩
        rcases List.mem_filterMap.mp listed with ⟨uploadId, ofDataset, rowFound⟩
        have sameDataset : row.datasetId = request.datasetId := by
          have held := (List.mem_filter.mp ofDataset).2
          rw [rowFound] at held
          exact of_decide_eq_true held
        have ofUpload : key.uploadId = uploadId := by
          have valid := sound.keysValid uploadId row rowFound
          rcases List.mem_cons.mp isKey with same | canonical
          · rw [same, valid.1]
            rfl
          · rcases List.mem_map.mp canonical with ⟨role, -, same⟩
            rw [← same, uploadId_canonicalObjectKey valid]
        have free : ¬row.BlocksDeletion store.clock := fun blocks =>
          unblocked (List.any_eq_true.mpr ⟨row, listed, decide_eq_true blocks⟩)
        have cleaned : ¬row.CleanupPending := fun pending =>
          uncleaned (List.any_eq_true.mpr ⟨row, listed, decide_eq_true pending⟩)
        have terminal : row.status.Terminal := by
          rcases row.status.active_or_terminal with active | terminal
          · have uncleanedRow := sound.uncleaned uploadId row rowFound active
            rcases active with pending | finalizing
            · exact absurd ⟨.inl pending, uncleanedRow⟩ cleaned
            · exact absurd (.inr (.inl finalizing)) free
          · exact terminal
        rw [ofUpload]
        refine ⟨sound.uploadDrawn uploadId row rowFound, ?_⟩
        intro other otherFound
        rcases Option.some.inj (rowFound.symm.trans otherFound) with rfl
        refine ⟨terminal, fun _ => ⟨dataset.startDeleting, ?_, .inl rfl⟩⟩
        rw [sameDataset]
        exact Function.update_self ..

theorem advanceDeletion_fits (deletions : DatasetObjectKey → Deletion) (pick : Nat)
    {request : DeleteDatasetRequest} {phase : DeletePhase} (sound : store.Sound settings)
    (fits : (DatasetPhase.deleter request phase : DatasetPhase Content).Fits sizeBytes sha256
      store) :
    (DatasetPhase.deleter request
        (advanceDeletion storage request store deletions pick phase).1).Fits sizeBytes sha256
      (advanceDeletion storage request store deletions pick phase).2 := by
  cases phase with
  | requested => exact beginDeletion_fits sound
  | deleting remaining succeeded =>
      simp only [advanceDeletion]
      split
      · repeat' split
        · exact fits
        · trivial
        · trivial
      · next key _ =>
          have move : RowsMove sizeBytes sha256 settings storage none none store
              (store.deleteObject key (deletions key)).2 := .ofSame (sameRows_deleteObject ..)
          intro other member
          exact (fits other (List.mem_of_mem_eraseIdx member)).move move sound (move.sound sound)
  | failing =>
      simp only [advanceDeletion]
      split <;> trivial
  | removing =>
      simp only [advanceDeletion]
      split <;> trivial
  | answered answer => trivial

def LocalUploadPhase.Staging (uploadId : UploadId) (phase : LocalUploadPhase) : Prop :=
  ∀ owned, phase.owned = some owned →
    owned.temporaryObjectKey = datasetTemporaryObjectKey owned.datasetId uploadId

theorem advanceLocalUpload_staging (outcome : DatasetOutcome)
    (deletions : DatasetObjectKey → Deletion) {request : LocalUploadRequest Content}
    {phase : LocalUploadPhase} (sound : store.Sound settings)
    (staging : phase.Staging request.uploadId) :
    (advanceLocalUpload settings storage sizeBytes request token store outcome deletions
      phase).1.Staging request.uploadId := by
  have same (next : LocalUploadPhase) (own : ∀ owned, next.owned = some owned →
      phase.owned = some owned) : next.Staging request.uploadId :=
    fun owned found => staging owned (own owned found)
  cases phase with
  | requested =>
      simp only [advanceLocalUpload, beginLocalUpload]
      repeat' split
      all_goals intro owned own
      all_goals first | (cases own; done) | skip
      next dataset upload locked _ _ _ _ _ _ _ _ =>
        rcases Option.some.inj own with rfl
        exact (sound.keysValid request.uploadId upload (lock_eq_some locked).1).1
  | startWriting owned =>
      simp only [advanceLocalUpload]
      repeat' split
      all_goals exact same _ fun _ own => own
  | writing owned =>
      simp only [advanceLocalUpload]
      repeat' split
      all_goals exact same _ fun _ own => own
  | wrote owned result =>
      simp only [advanceLocalUpload]
      repeat' split
      all_goals exact same _ fun _ own => own
  | sealing owned =>
      simp only [advanceLocalUpload]
      repeat' split
      all_goals first | exact same _ fun _ own => own | exact same _ fun _ own => by cases own
  | timingOut owned => exact same _ fun _ own => own
  | cleaning owned clears answer =>
      simp only [advanceLocalUpload]
      repeat' split
      all_goals first | exact same _ fun _ own => own | exact same _ fun _ own => by cases own
  | clearing owned answer => exact same _ fun _ own => by cases own
  | answered answer => exact same _ fun _ own => own

end

/-! ### Phases that end -/

theorem initializerPhase_eq_some {request : DatasetUploadInitRequest} {phase : InitializePhase}
    {next : DatasetPhase Content} (same : initializerPhase request phase = some next) :
    next = .initializer request phase := by
  cases phase <;> cases same <;> rfl

theorem localUploadPhase_eq_some {request : LocalUploadRequest Content} {token : ClaimToken}
    {phase : LocalUploadPhase} {next : DatasetPhase Content}
    (same : localUploadPhase request token phase = some next) :
    next = .writer request token phase := by
  cases phase <;> cases same <;> rfl

theorem datasetFinalizerPhase_eq_some {request : FinalizeDatasetRequest} {token : ClaimToken}
    {phase : DatasetFinalizePhase Content} {next : DatasetPhase Content}
    (same : datasetFinalizerPhase request token phase = some next) :
    next = .finalizer request token phase := by
  cases phase <;> cases same <;> rfl

theorem deleterPhase_eq_some {request : DeleteDatasetRequest} {phase : DeletePhase}
    {next : DatasetPhase Content} (same : deleterPhase request phase = some next) :
    next = .deleter request phase := by
  cases phase <;> cases same <;> rfl

theorem heartbeat_objects (phase : DatasetPhase Content) :
    (heartbeatDatasetProcess store phase).objects = store.objects := by
  unfold heartbeatDatasetProcess
  repeat' split
  all_goals first | rfl | rw [amend_datasetObjects]

theorem advance_fits (choice : DatasetChoice) (sound : store.Sound settings)
    {phase next : DatasetPhase Content} (fits : phase.Fits sizeBytes sha256 store)
    (advanced : (advanceDatasetProcess sizeBytes sha256 settings storage prepare choice phase
      store).1 = some next) :
    next.Fits sizeBytes sha256
      (advanceDatasetProcess sizeBytes sha256 settings storage prepare choice phase store).2 := by
  cases choice with
  | heartbeat =>
      rcases Option.some.inj advanced with rfl
      have move : RowsMove sizeBytes sha256 settings storage none none store
          (heartbeatDatasetProcess store phase) := heartbeatDatasetProcess_rows sound phase
      apply fits.move move sound (move.sound sound) fun _ _ => nofun
      intro uploadId row role content _ _ _ present
      rw [heartbeat_objects]
      exact present
  | go outcome deletions pick uploadId datasetId =>
      cases phase with
      | initializer request phase =>
          rw [initializerPhase_eq_some advanced]
          have rows : RowsMove sizeBytes sha256 settings storage none none store
                (advanceInitializer settings storage request store outcome uploadId datasetId
                  phase).2 ∧
              (advanceInitializer settings storage request store outcome uploadId datasetId
                phase).1.Fits (advanceInitializer settings storage request store outcome uploadId
                  datasetId phase).2 request := advanceInitializer_rows sound fits
          exact rows.2
      | writer request token phase =>
          rw [localUploadPhase_eq_some advanced]
          exact advanceLocalUpload_staging outcome deletions sound fits
      | presigned key content => nomatch advanced
      | finalizer request token phase =>
          rw [datasetFinalizerPhase_eq_some advanced]
          exact advanceDatasetFinalizer_fits outcome deletions sound fits
      | deleter request phase =>
          rw [deleterPhase_eq_some advanced]
          exact advanceDeletion_fits deletions pick sound fits

/-! ## Published datasets and the moves -/

theorem keepsPublished_advance (choice : DatasetChoice) (sound : store.Sound settings)
    {phase : DatasetPhase Content} (fits : phase.Fits sizeBytes sha256 store) :
    KeepsPublished store (advanceDatasetProcess sizeBytes sha256 settings storage prepare choice
      phase store).2 := by
  intro uploadId row dataset role content found completed parent published present
  refine (objects_of_spares choice sound fits found (.inr (.inl ⟨completed, ?_⟩)) role).trans present
  intro request deletion _ other otherParent
  rw [← Option.some.inj (parent.symm.trans otherParent)]
  exact published.not_deleting

/-- The commit of a finalization is made under its claim, or changes nothing. -/
theorem commitDatasetFinalization_cases (request : FinalizeDatasetRequest) (token : ClaimToken)
    (owned : DatasetReservation) (snapshot : DatasetSnapshot Content)
    (published : List CanonicalRole) (outcome : DatasetOutcome) :
    (commitDatasetFinalization sizeBytes sha256 store request token owned snapshot published
        outcome).2 = store ∨
      ∃ dataset upload, store.lockDatasetThenUpload request.uploadId = some (dataset, upload) ∧
        upload.status = .finalizing ∧ upload.finalizationToken = some token ∧
        (commitDatasetFinalization sizeBytes sha256 store request token owned snapshot published
            outcome).2 =
          store.commit request.uploadId (upload.complete store.clock)
            (dataset.finalize sizeBytes sha256 upload.toDatasetReservation snapshot) := by
  unfold commitDatasetFinalization
  split
  · exact .inl rfl
  · next dataset upload locked =>
      split
      · exact .inl rfl
      · next held =>
          rw [not_or, not_or, not_not, not_not, not_not] at held
          split
          · next cancelled effective =>
              cases effective with
              | true => exact .inr ⟨dataset, upload, locked, held.1, held.2.2, rfl⟩
              | false => exact .inl rfl
          · exact .inr ⟨dataset, upload, locked, held.1, held.2.2, rfl⟩

/-- The commit of a finalization publishes its dataset. -/
theorem published_complete (storage : StorageIdentity) {request : FinalizeDatasetRequest}
    {token : ClaimToken} {owned : DatasetReservation} {verified : Content}
    {snapshot : DatasetSnapshot Content} {published : List CanonicalRole} (coherent : store.Coherent sizeBytes sha256 settings)
    (fits : (DatasetFinalizePhase.committing owned verified snapshot published).Fits sizeBytes
      sha256 store request.uploadId token)
    {dataset : Dataset} {upload : DatasetUploadSession}
    (locked : store.lockDatasetThenUpload request.uploadId = some (dataset, upload))
    (finalizing : upload.status = .finalizing) (held : upload.finalizationToken = some token)
    {datasetId : DatasetId} {dataset' : Dataset}
    (found' : (store.commit request.uploadId (upload.complete store.clock) (dataset.finalize
      sizeBytes sha256 upload.toDatasetReservation snapshot)).datasets datasetId = some dataset')
    (isPublished : dataset'.Published) :
    (store.commit request.uploadId (upload.complete store.clock) (dataset.finalize sizeBytes sha256
      upload.toDatasetReservation snapshot)).Publishes sizeBytes sha256 datasetId dataset' := by
  rcases lock_eq_some locked with ⟨uploadFound, parent⟩
  have move : RowsMove sizeBytes sha256 settings storage (some token) (some snapshot) store
      (store.commit request.uploadId (upload.complete store.clock) (dataset.finalize sizeBytes
        sha256 upload.toDatasetReservation snapshot)) :=
    .commit (.refl store) locked (.ends rfl finalizing held rfl (.inr (.inr rfl)) rfl)
      (.completes finalizing rfl snapshot rfl)
  by_cases same : datasetId = upload.datasetId
  · subst same
    have sameRow : dataset.finalize sizeBytes sha256 upload.toDatasetReservation snapshot =
        dataset' := by
      have self : (store.commit request.uploadId (upload.complete store.clock) (dataset.finalize
          sizeBytes sha256 upload.toDatasetReservation snapshot)).datasets upload.datasetId =
          some (dataset.finalize sizeBytes sha256 upload.toDatasetReservation snapshot) :=
        Function.update_self ..
      exact Option.some.inj (self.symm.trans found')
    subst sameRow
    have holds := fits.holds owned rfl
    have reservation := holds.reservation upload uploadFound
    rcases fits.verified owned verified rfl rfl with ⟨size, digest⟩
    rcases coherent.sound.parent request.uploadId upload uploadFound with
      ⟨other, otherParent, originalSize, originalSha256⟩
    rcases Option.some.inj (parent.symm.trans otherParent) with rfl
    refine ⟨request.uploadId, upload.complete store.clock, Function.update_self .., rfl, rfl, ?_⟩
    intro role
    refine ⟨snapshot.content verified role, ?_, ?_⟩
    · have inAll : ∀ role, role ∈ published := fits.orderly
      have stored := fits.stored owned verified snapshot published upload rfl rfl uploadFound
        finalizing role (inAll role)
      rw [← reservation] at stored
      exact stored
    · rw [← reservation] at size digest
      cases role with
      | original => exact ⟨digest ▸ originalSha256, fun _ => size ▸ originalSize⟩
      | preparedFlat => exact ⟨rfl, fun _ => rfl⟩
      | manifest => exact ⟨rfl, fun sized => by rcases sized with other | other <;> nomatch other⟩
      | qualityReport =>
          exact ⟨rfl, fun sized => by rcases sized with other | other <;> nomatch other⟩
  · have found : store.datasets datasetId = some dataset' :=
      (Function.update_of_ne same _ store.datasets).symm.trans found'
    apply (coherent.published datasetId dataset' found isPublished).move move coherent.sound found
      isPublished found' (fun _ _ records => records)
    intro _ _ _ _ _ _ _ _ _ present
    exact present

theorem advance_published (choice : DatasetChoice)
    (coherent : store.Coherent sizeBytes sha256 settings) {phase : DatasetPhase Content}
    (fits : phase.Fits sizeBytes sha256 store) {datasetId : DatasetId} {dataset' : Dataset}
    (found' : (advanceDatasetProcess sizeBytes sha256 settings storage prepare choice phase
      store).2.datasets datasetId = some dataset')
    (isPublished : dataset'.Published) :
    (advanceDatasetProcess sizeBytes sha256 settings storage prepare choice phase
      store).2.Publishes sizeBytes sha256 datasetId dataset' := by
  have keeps : KeepsPublished store (advanceDatasetProcess sizeBytes sha256 settings storage
      prepare choice phase store).2 := keepsPublished_advance choice coherent.sound fits
  have quiet (actor : Option ClaimToken) (move : RowsMove sizeBytes sha256 settings storage actor
      none store (advanceDatasetProcess sizeBytes sha256 settings storage prepare choice phase
        store).2) := published_move coherent.published move coherent.sound keeps found' isPublished
  cases choice with
  | heartbeat => exact quiet none (heartbeatDatasetProcess_rows coherent.sound phase)
  | go outcome deletions pick uploadId freshId =>
      cases recording : phase.recording with
      | none =>
          apply quiet phase.name
          rw [← recording]
          exact advance_rows (.go outcome deletions pick uploadId freshId) coherent.sound fits
      | some snapshot =>
          cases phase with
          | finalizer request token phase =>
              cases phase with
              | committing owned verified snapshot published =>
                  rcases commitDatasetFinalization_cases request token owned snapshot published
                    outcome with same | ⟨dataset, upload, locked, finalizing, held, committed⟩
                  · exact quiet none (.ofSame (same ▸ .refl store))
                  · have sameStore : (advanceDatasetProcess sizeBytes sha256 settings storage prepare
                        (.go outcome deletions pick uploadId freshId) (.finalizer request token
                          (.committing owned verified snapshot published)) store).2 = _ := committed
                    rw [sameStore] at found' ⊢
                    exact published_complete storage coherent fits locked finalizing held found'
                      isPublished
              | _ => nomatch recording
          | _ => nomatch recording

/-! ## Launches and disturbances -/

theorem launch_sameFrame {launch : DatasetLaunch Content} {phase : DatasetPhase Content}
    (launched : launchDatasetProcess sizeBytes launch store = some (phase, after)) :
    store.SameRows after ∧ after.objects = store.objects ∧ after.grants = store.grants := by
  have drawn {token : ClaimToken} {own : DatasetPhase Content}
      (made : drawDatasetToken store token own = some (phase, after)) :
      store.SameRows after ∧ after.objects = store.objects ∧ after.grants = store.grants := by
    unfold drawDatasetToken at made
    split at made
    · nomatch made
    · cases made
      exact ⟨⟨rfl, rfl, rfl, rfl⟩, rfl, rfl⟩
  cases launch with
  | init request =>
      cases launched
      exact ⟨.refl store, rfl, rfl⟩
  | write request token => exact drawn launched
  | put grant content =>
      simp only [launchDatasetProcess] at launched
      split at launched
      · cases launched
        exact ⟨.refl store, rfl, rfl⟩
      · nomatch launched
  | finalize request token => exact drawn launched
  | delete request =>
      cases launched
      exact ⟨.refl store, rfl, rfl⟩

theorem launch_fits {launch : DatasetLaunch Content} {phase : DatasetPhase Content}
    (coherent : store.Coherent sizeBytes sha256 settings)
    (launched : launchDatasetProcess sizeBytes launch store = some (phase, after)) :
    phase.Fits sizeBytes sha256 after := by
  cases launch with
  | init request =>
      cases launched
      trivial
  | write request token =>
      simp only [launchDatasetProcess, drawDatasetToken] at launched
      split at launched
      · nomatch launched
      · cases launched
        exact fun _ own => nomatch own
  | put grant content =>
      simp only [launchDatasetProcess] at launched
      split at launched
      · next granted =>
          cases launched
          exact coherent.grants grant granted.1
      · nomatch launched
  | finalize request token =>
      simp only [launchDatasetProcess, drawDatasetToken] at launched
      split at launched
      · nomatch launched
      · cases launched
        exact fits_requested
  | delete request =>
      cases launched
      trivial

theorem deleteClaimed_beside {uploadId : UploadId} {upload : DatasetUploadSession} {runId : Nat}
    {deletion : Deletion} (claimed : upload.CleanupClaimed uploadId runId)
    (deleted : deleteClaimedStagingObject settings storage store uploadId upload deletion =
      some after) :
    after.tokens = store.tokens ∧ after.grants = store.grants ∧
      ∀ key, (∀ datasetId uploadId, key ≠ datasetTemporaryObjectKey datasetId uploadId) →
        after.objects key = store.objects key := by
  have frame : store.StrictFrame (store.deleteObject upload.temporaryObjectKey deletion).2 :=
    strictFrame_deleteObject ..
  have objects (key : DatasetObjectKey)
      (canonical : ∀ datasetId uploadId, key ≠ datasetTemporaryObjectKey datasetId uploadId) :
      (store.deleteObject upload.temporaryObjectKey deletion).2.objects key = store.objects key :=
    deleteObject_objects deletion fun same => canonical _ _ (same.trans claimed.2.2.2.2.2.2)
  simp only [deleteClaimedStagingObject] at deleted
  repeat' split at deleted
  all_goals cases deleted
  · exact ⟨rfl, rfl, fun _ _ => rfl⟩
  all_goals exact ⟨frame.tokens, frame.grants, objects⟩

/-- The maintenance deletes only staged objects. -/
theorem disturb_beside {disturbance : DatasetDisturbance}
    (disturbed : disturbDatasetStore settings storage disturbance store = some after) :
    after.tokens = store.tokens ∧ after.grants = store.grants ∧
      ∀ key, (∀ datasetId uploadId, key ≠ datasetTemporaryObjectKey datasetId uploadId) →
        after.objects key = store.objects key := by
  cases disturbance with
  | tick elapsed =>
      cases disturbed
      exact ⟨rfl, rfl, fun _ _ => rfl⟩
  | importDataset datasetId owner storageUri flatStorageUri =>
      simp only [disturbDatasetStore] at disturbed
      split at disturbed
      · cases disturbed
      · cases disturbed
        exact ⟨rfl, rfl, fun _ _ => rfl⟩
  | createExperiment experimentId datasetId user =>
      simp only [disturbDatasetStore] at disturbed
      split at disturbed
      · cases disturbed
      · split at disturbed
        · cases disturbed
          exact ⟨rfl, rfl, fun _ _ => rfl⟩
        · cases disturbed
  | deleteExperiment experimentId =>
      simp only [disturbDatasetStore] at disturbed
      split at disturbed
      · cases disturbed
      · cases disturbed
        exact ⟨rfl, rfl, fun _ _ => rfl⟩
  | createJob experimentId datasetId =>
      simp only [disturbDatasetStore] at disturbed
      split at disturbed
      · cases disturbed
      · split at disturbed
        · cases disturbed
          exact ⟨rfl, rfl, fun _ _ => rfl⟩
        · cases disturbed
  | claimCleanup uploadId runId =>
      simp only [disturbDatasetStore] at disturbed
      split at disturbed
      · cases disturbed
      · split at disturbed
        · cases disturbed
          exact ⟨rfl, rfl, fun _ _ => rfl⟩
        · cases disturbed
  | deleteStaging uploadId runId deletion =>
      simp only [disturbDatasetStore] at disturbed
      split at disturbed
      · cases disturbed
      · split at disturbed
        · next claimed => exact deleteClaimed_beside claimed disturbed
        · cases disturbed
  | interruptStaging uploadId runId deletion =>
      simp only [disturbDatasetStore] at disturbed
      split at disturbed
      · cases disturbed
      · split at disturbed
        · next claimed =>
            rcases Option.map_eq_some_iff.mp disturbed with ⟨middle, deleted, rfl⟩
            exact ⟨rfl, rfl, (deleteClaimed_beside claimed deleted).2.2⟩
        · cases disturbed

/-! ## Every step -/

theorem datasetNames (prepare : DatasetPreparation Content) :
    (datasetWorkforce sizeBytes sha256 settings storage prepare).Names DatasetPhase.name
      fun store token => token ∈ store.tokens where
  launched {launch state phase after} launched := by
    have drawn {token : ClaimToken} {own : DatasetPhase Content}
        (made : drawDatasetToken state token own = some (phase, after))
        (called : own.name = some token) :
        (∀ other, other ∈ state.tokens → other ∈ after.tokens) ∧
          ∀ name, phase.name = some name → name ∉ state.tokens ∧ name ∈ after.tokens := by
      unfold drawDatasetToken at made
      split at made
      · nomatch made
      · next fresh =>
          cases made
          refine ⟨fun other earlier => List.mem_cons_of_mem token earlier, ?_⟩
          intro name sameName
          rw [← Option.some.inj (called.symm.trans sameName)]
          exact ⟨fresh, List.mem_cons_self⟩
    cases launch with
    | init request =>
        cases launched
        exact ⟨fun _ drawn => drawn, fun _ own => nomatch own⟩
    | write request token => exact drawn launched rfl
    | put grant content =>
        simp only [datasetWorkforce, launchDatasetProcess] at launched
        split at launched
        · cases launched
          exact ⟨fun _ drawn => drawn, fun _ own => nomatch own⟩
        · nomatch launched
    | finalize request token => exact drawn launched rfl
    | delete request =>
        cases launched
        exact ⟨fun _ drawn => drawn, fun _ own => nomatch own⟩
  moved choice phase state := by
    have frame : state.SameFrame (advanceDatasetProcess sizeBytes sha256 settings storage prepare
        choice phase state).2 := sameFrame_advance choice phase state
    refine ⟨fun other drawn => ?_, fun next advanced => ?_⟩
    · rw [← frame.tokens] at drawn
      exact drawn
    · cases choice with
      | heartbeat =>
          rcases Option.some.inj advanced with rfl
          rfl
      | go outcome deletions pick uploadId datasetId =>
          cases phase with
          | initializer request phase =>
              rw [initializerPhase_eq_some advanced]
              rfl
          | writer request token phase =>
              rw [localUploadPhase_eq_some advanced]
              rfl
          | presigned key content => nomatch advanced
          | finalizer request token phase =>
              rw [datasetFinalizerPhase_eq_some advanced]
              rfl
          | deleter request phase =>
              rw [deleterPhase_eq_some advanced]
              rfl
  disturbed {disturbance state after} disturbed := by
    intro other drawn
    rw [(disturb_beside disturbed).1]
    exact drawn

/-- A session that one process finalizes is not claimed by a process at another place. -/
theorem foreign_of_named {situation : DatasetSituation Content}
    (named : Workforce.Named DatasetPhase.name
      (fun (store : DatasetStore Content) token => token ∈ store.tokens) situation)
    (sound : situation.state.Sound settings) {place : Nat} {phase other : DatasetPhase Content}
    (found : situation.phases[place]? = some phase)
    (apart : other ∈ situation.phases.eraseIdx place) {uploadId : UploadId}
    {row : DatasetUploadSession} (rowFound : situation.state.sessions uploadId = some row)
    (finalizing : row.status = .finalizing) (held : row.finalizationToken = other.name) :
    phase.name ≠ row.finalizationToken := by
  rw [held]
  intro same
  cases called : phase.name with
  | none =>
      have unheld : row.finalizationToken = none := held.trans (same.symm.trans called)
      exact sound.claimed uploadId row rowFound finalizing unheld
  | some token => exact named.apart found apart called (same.symm.trans called)

/-- What holds of the store and of every process is kept by every step, since no two processes
share a token. -/
theorem datasetPreserves (prepare : DatasetPreparation Content) :
    (datasetWorkforce sizeBytes sha256 settings storage prepare).PreservesApart
      (fun situation _ => Workforce.Named DatasetPhase.name (fun store token => token ∈ store.tokens)
        situation)
      (fun store => store.Coherent sizeBytes sha256 settings)
      (fun store phase => phase.Fits sizeBytes sha256 store) where
  launched situation launch phase after _ coherent launched := by
    rcases launch_sameFrame launched with ⟨rows, objects, grants⟩
    have move : RowsMove sizeBytes sha256 settings storage none none situation.state after :=
      .ofSame rows
    have soundAfter := move.sound coherent.sound
    refine ⟨⟨soundAfter, grants ▸ coherent.grants, ?_⟩, launch_fits coherent launched, ?_⟩
    · intro datasetId dataset found published
      apply published_move coherent.published move coherent.sound _ found published
      intro _ _ _ _ _ _ _ _ _ present
      rw [objects]
      exact present
    · intro other _ fits
      apply fits.move move coherent.sound soundAfter fun _ _ => nofun
      intro _ _ _ _ _ _ _ present
      rw [objects]
      exact present
  moved situation place choice phase named found coherent fits others := by
    have move : RowsMove sizeBytes sha256 settings storage phase.name phase.recording
        situation.state (advanceDatasetProcess sizeBytes sha256 settings storage prepare choice
          phase situation.state).2 := advance_rows choice coherent.sound fits
    have soundAfter := move.sound coherent.sound
    refine ⟨⟨soundAfter, ?_, ?_⟩, fun next advanced => ?_, fun other member => ?_⟩
    · intro grant member
      rcases grantsPending_advance choice phase situation.state grant member with
        earlier | ⟨uploadId, row, rowFound, -, key⟩
      · exact coherent.grants grant earlier
      · exact ⟨row.datasetId, uploadId, key.trans (soundAfter.keysValid uploadId row rowFound).1⟩
    · intro datasetId dataset datasetFound published
      exact advance_published choice coherent fits datasetFound published
    · exact advance_fits choice coherent.sound fits advanced
    · apply (others other member).move move coherent.sound soundAfter
      · intro token called same
        exact named.apart found member same called
      · intro uploadId row role content rowFound finalizing held present
        have foreign := foreign_of_named named coherent.sound found member rowFound finalizing held
        exact (objects_of_spares choice coherent.sound fits rowFound
          (.inr (.inr ⟨finalizing, foreign⟩)) role).trans present
  disturbed situation disturbance after _ coherent disturbed := by
    rcases disturb_beside disturbed with ⟨-, grants, objects⟩
    have move : RowsMove sizeBytes sha256 settings storage none none situation.state after :=
      disturbDatasetStore_rows disturbed
    have soundAfter := move.sound coherent.sound
    have keeps {uploadId : UploadId} {row : DatasetUploadSession} {role : CanonicalRole}
        {content : Content} (found : situation.state.sessions uploadId = some row)
        (present : situation.state.objects (row.canonicalObjectKey role) = some content) :
        after.objects (row.canonicalObjectKey role) = some content := by
      rw [objects _ (canonicalObjectKey_ne_staging (coherent.sound.keysValid uploadId row found)
        role)]
      exact present
    refine ⟨⟨soundAfter, grants ▸ coherent.grants, ?_⟩, ?_⟩
    · intro datasetId dataset found published
      apply published_move coherent.published move coherent.sound _ found published
      intro _ _ _ _ _ rowFound _ _ _ present
      exact keeps rowFound present
    · intro other _ fits
      apply fits.move move coherent.sound soundAfter fun _ _ => nofun
      intro _ _ _ _ rowFound _ _ present
      exact keeps rowFound present

structure DatasetSituation.Coherent (sizeBytes : Content → Nat) (sha256 : Content → String)
    (settings : DatasetSettings) (situation : DatasetSituation Content) : Prop where
  store : situation.state.Coherent sizeBytes sha256 settings
  fits : ∀ phase ∈ situation.phases, phase.Fits sizeBytes sha256 situation.state
  named : Workforce.Named DatasetPhase.name (fun store token => token ∈ store.tokens) situation

theorem DatasetSituation.Coherent.step {situation : DatasetSituation Content}
    (coherent : DatasetSituation.Coherent sizeBytes sha256 settings situation)
    (storage : StorageIdentity) (prepare : DatasetPreparation Content)
    (event : DatasetEvent Content) :
    DatasetSituation.Coherent sizeBytes sha256 settings
      ((datasetWorkforce sizeBytes sha256 settings storage prepare).step situation event) := by
  have preserves : (datasetWorkforce sizeBytes sha256 settings storage prepare).PreservesApart
      _ _ _ := datasetPreserves prepare
  have names : (datasetWorkforce sizeBytes sha256 settings storage prepare).Names _ _ :=
    datasetNames prepare
  have kept : DatasetStore.Coherent sizeBytes sha256 settings
        ((datasetWorkforce sizeBytes sha256 settings storage prepare).step situation event).state ∧
      _ := preserves.step coherent.named ⟨coherent.store, coherent.fits⟩
  exact ⟨kept.1, kept.2, names.step coherent.named event⟩

theorem DatasetSituation.Coherent.empty :
    DatasetSituation.Coherent sizeBytes sha256 settings
      (⟨.empty, []⟩ : DatasetSituation Content) where
  store := .empty sizeBytes sha256 settings
  fits _ member := nomatch member
  named := ⟨List.nodup_nil, fun _ member => nomatch member⟩

theorem datasetRun_coherent (prepare : DatasetPreparation Content)
    (events : List (DatasetEvent Content)) :
    DatasetSituation.Coherent sizeBytes sha256 settings
      (datasetRun sizeBytes sha256 settings storage prepare events) := by
  unfold datasetRun
  apply run_preserves (DatasetSituation.Coherent sizeBytes sha256 settings)
  · intro situation event coherent
    exact coherent.step storage prepare event
  · exact .empty

end

end RvcOrchestrator.Manager

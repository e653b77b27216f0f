import RvcOrchestrator.Manager.DatasetLifecycle

/-! # Dataset uploads: a finalization that fails

The keys to be removed are recorded only after a publication has returned. One that raises
although its object has become visible leaves an object that nobody removes, and that keeps
every later finalization of the session from publishing its own.
-/

namespace RvcOrchestrator.Manager

open RvcOrchestrator.Foundation RvcOrchestrator.Contracts DatasetStore

section

variable {Content : Type} {sizeBytes : Content → Nat} {sha256 : Content → String}
  {settings : DatasetSettings} {storage : StorageIdentity}
  {prepare : DatasetPreparation Content} {store middle after : DatasetStore Content}

/-! ## What a finalization may have published -/

def DatasetOutcome.raisesAfterEffect : DatasetOutcome → Bool
  | storageRaises effective | timesOut effective | aborts _ effective => effective
  | works | spoolRaises _ | preparationRaises .. => false

/-- The move is a publication under its claim that raises although its object has become
visible. -/
def leavesOrphan (situation : DatasetSituation Content) : DatasetEvent Content → Bool
  | .proceed place (.go outcome ..) =>
      match situation.phases[place]? with
      | some (.finalizer request token (.operating owned (.publish _ _ role) _)) =>
          outcome.raisesAfterEffect &&
            (situation.state.objects (owned.canonicalObjectKey role)).isNone &&
            (situation.state.sessions request.uploadId).any fun row =>
              row.status = .finalizing ∧ row.finalizationToken = some token
      | _ => false
  | _ => false

/-- The objects that a finalization which still has its claim may have published. -/
def DatasetFinalizePhase.Leaves : DatasetFinalizePhase Content → CanonicalRole → Prop
  | starting _ _ published | operating _ _ published | operated _ _ published
  | committing _ _ _ published | recovering _ _ published _ _ => fun role => role ∈ published
  | cleaning _ remaining succeeded _ => fun role => role ∈ remaining ∨ succeeded = false
  | failing _ _ retryable _ published _ => fun role => role ∈ published ∨ retryable = false
  | requested | removingStaging .. | marking _ | answered _ => fun _ => True

def DatasetFinalizePhase.Tidy (store : DatasetStore Content) (uploadId : UploadId)
    (phase : DatasetFinalizePhase Content) : Prop :=
  ∀ row, store.sessions uploadId = some row → row.status = .finalizing →
    ∀ role, phase.Leaves role ∨ store.objects (row.canonicalObjectKey role) = none

def DatasetPhase.Tidy (store : DatasetStore Content) : DatasetPhase Content → Prop
  | .finalizer request _ phase => phase.Tidy store request.uploadId
  | _ => True

/-- No canonical object belongs to a pending session, or to an upload that is yet to come. -/
structure DatasetStore.Tidy (store : DatasetStore Content) : Prop where
  drawn : ∀ datasetId uploadId extension role,
    store.objects (datasetVerifiedObjectKey datasetId uploadId extension role) ≠ none →
    uploadId ∈ store.uploads
  pending : ∀ uploadId row, store.sessions uploadId = some row → row.status = .pending →
    ∀ role, store.objects (row.canonicalObjectKey role) = none

theorem DatasetStore.Tidy.empty : (DatasetStore.empty : DatasetStore Content).Tidy where
  drawn _ _ _ _ present := absurd rfl present
  pending _ _ found := nomatch found

/-! ## Moves that end no finalization -/

/-- A session that is pending after a move which ends no finalization was pending before, or
is new. -/
theorem pending_back {completing : Option (DatasetSnapshot Content)}
    (move : RowsMove sizeBytes sha256 settings storage none completing store after)
    (sound : store.Sound settings) {uploadId : UploadId} {next : DatasetUploadSession}
    (found : after.sessions uploadId = some next) (pending : next.status = .pending) :
    (∃ row, store.sessions uploadId = some row ∧ row.status = .pending ∧
        next.toDatasetReservation = row.toDatasetReservation) ∨ uploadId ∉ store.uploads := by
  by_cases drawn : uploadId ∈ store.uploads
  · rcases move.back sound drawn found with ⟨row, rowFound, becomes⟩
    left
    refine ⟨row, rowFound, ?_, becomes.reservation⟩
    cases becomes with
    | keeps _ status => exact status.symm.trans pending
    | expires _ _ expired => nomatch expired.symm.trans pending
    | claims _ _ _ _ own => nomatch own
    | ends _ _ _ own => nomatch own
  · exact .inr drawn

theorem canonical_none_of_undrawn (tidy : store.Tidy) {row : DatasetReservation}
    {uploadId : UploadId} (valid : row.KeysValid uploadId) (undrawn : uploadId ∉ store.uploads)
    (role : CanonicalRole) : store.objects (row.canonicalObjectKey role) = none := by
  by_contra present
  rw [canonicalObjectKey_eq valid] at present
  exact undrawn (tidy.drawn _ _ _ _ present)

theorem DatasetStore.Tidy.quiet (tidy : store.Tidy) (sound : store.Sound settings)
    {completing : Option (DatasetSnapshot Content)}
    (move : RowsMove sizeBytes sha256 settings storage none completing store after)
    (objects : ∀ key, (∀ datasetId uploadId, key ≠ datasetTemporaryObjectKey datasetId uploadId) →
      after.objects key = store.objects key) : after.Tidy where
  drawn datasetId uploadId extension role present := by
    rw [objects _ fun otherId stagingId => datasetVerifiedObjectKey_ne_temporary datasetId otherId
      uploadId stagingId extension role] at present
    exact move.uploads_subset (tidy.drawn datasetId uploadId extension role present)
  pending uploadId next found pending role := by
    have valid := (move.sound sound).keysValid uploadId next found
    rw [objects _ (canonicalObjectKey_ne_staging valid role)]
    rcases pending_back move sound found pending with
      ⟨row, rowFound, rowPending, reservation⟩ | undrawn
    · rw [reservation]
      exact tidy.pending uploadId row rowFound rowPending role
    · exact canonical_none_of_undrawn tidy valid undrawn role

/-! ## Finalizations that do not move -/

theorem leaves_of_unowned {phase : DatasetFinalizePhase Content} (unowned : phase.owned = none)
    (role : CanonicalRole) : phase.Leaves role := by
  cases phase <;> trivial

theorem DatasetPhase.Tidy.move {actor : Option ClaimToken}
    {completing : Option (DatasetSnapshot Content)} {phase : DatasetPhase Content}
    (tidy : phase.Tidy store) (fits : phase.Fits sizeBytes sha256 store)
    (move : RowsMove sizeBytes sha256 settings storage actor completing store after)
    (sound : store.Sound settings)
    (keeps : ∀ uploadId row role, store.sessions uploadId = some row →
      row.status = .finalizing → row.finalizationToken = phase.name →
      after.objects (row.canonicalObjectKey role) =
        store.objects (row.canonicalObjectKey role)) : phase.Tidy after := by
  cases phase with
  | finalizer request token phase =>
      intro next found finalizing role
      cases own : phase.owned with
      | none => exact .inl (leaves_of_unowned own role)
      | some owned =>
          have holds := fits.holds owned own
          rcases finalizing_back holds move sound found finalizing with
            ⟨row, rowFound, before, held, reservation⟩
          rw [reservation, keeps request.uploadId row role rowFound before held]
          exact tidy row rowFound before role
  | _ => trivial

/-! ## The finalization that moves -/

/-- A publication that fails, and does not raise after its effect, changes nothing. -/
theorem storeVerified_idle {key : DatasetObjectKey} {content : Content} {outcome : DatasetOutcome}
    (failed : ¬(storeVerifiedDatasetFile store key content outcome).1 = true)
    (quiet : outcome.raisesAfterEffect = false) :
    (storeVerifiedDatasetFile store key content outcome).2 = store := by
  unfold storeVerifiedDatasetFile at failed ⊢
  split at failed
  · next taken => rw [if_pos taken]
  · next free =>
      rw [if_neg free]
      cases outcome with
      | works => exact absurd rfl failed
      | storageRaises effective =>
          cases effective
          · rfl
          · nomatch quiet
      | timesOut effective =>
          cases effective
          · rfl
          · nomatch quiet
      | aborts cancelled effective =>
          cases effective
          · rfl
          · nomatch quiet
      | spoolRaises failureCode => rfl
      | preparationRaises failureCode retryable => rfl

theorem deleteObject_removes {key : DatasetObjectKey} {deletion : Deletion}
    (worked : (store.deleteObject key deletion).1 = true) :
    (store.deleteObject key deletion).2.objects key = none := by
  have works : deletion = .works := of_decide_eq_true worked
  subst works
  exact Function.update_self ..

theorem cleanup_removes {deletions : DatasetObjectKey → Deletion} {keys : List DatasetObjectKey}
    (worked : (cleanupPublishedKeys deletions keys store).1 = true) {key : DatasetObjectKey}
    (member : key ∈ keys) :
    (cleanupPublishedKeys deletions keys store).2.objects key = none := by
  induction keys generalizing store with
  | nil => nomatch member
  | cons head later induction =>
      simp only [cleanupPublishedKeys, Bool.and_eq_true] at worked ⊢
      by_cases again : key ∈ later
      · exact induction worked.2 again
      · have first : key = head := (List.mem_cons.mp member).resolve_right again
        rw [cleanup_objects again, first]
        exact deleteObject_removes worked.1

section

variable {uploadId : UploadId} {token : ClaimToken} {owned : DatasetReservation}

theorem DatasetFinalizePhase.Tidy.next {phase next : DatasetFinalizePhase Content}
    (tidy : phase.Tidy store uploadId) (leaves : ∀ role, phase.Leaves role → next.Leaves role) :
    next.Tidy store uploadId := by
  intro row found finalizing role
  exact (tidy row found finalizing role).imp_left (leaves role)

theorem tidy_of_leaves {phase : DatasetFinalizePhase Content} (leaves : ∀ role, phase.Leaves role) :
    phase.Tidy store uploadId := fun _ _ _ role => .inl (leaves role)

/-- A heartbeat keeps what a finalization has not published. -/
theorem DatasetFinalizePhase.Tidy.touch {phase : DatasetFinalizePhase Content}
    (tidy : phase.Tidy store uploadId) (claimToken : ClaimToken) (generation : Nat) :
    phase.Tidy (store.amend uploadId fun row =>
      row.touchFinalization store.clock claimToken generation).2 uploadId := by
  intro next found finalizing role
  rw [amend_datasetObjects]
  unfold DatasetStore.amend at found
  split at found
  · exact tidy next found finalizing role
  · next row touched =>
      rcases Option.bind_eq_some_iff.mp touched with ⟨before, beforeFound, becomes⟩
      have same : row = next := by
        have self : Function.update store.sessions uploadId (some row) uploadId = some row :=
          Function.update_self ..
        exact Option.some.inj (self.symm.trans found)
      subst same
      have kept : SessionBecomes none before row ∧ row.status = before.status :=
        touchFinalization_keeps becomes
      rw [kept.1.reservation]
      exact tidy before beforeFound (kept.2.symm.trans finalizing) role

theorem operating_tidy (outcome : DatasetOutcome) (deletions : DatasetObjectKey → Deletion)
    {request : FinalizeDatasetRequest} {task : FinalizationTask Content}
    {published : List CanonicalRole}
    (fits : (DatasetFinalizePhase.operating owned task published).Fits sizeBytes sha256 store
      request.uploadId token)
    (tidy : (DatasetFinalizePhase.operating owned task published).Tidy store request.uploadId)
    (clean : ∀ verified snapshot role, task = .publish verified snapshot role →
      ∀ row, store.sessions request.uploadId = some row → row.status = .finalizing →
      row.finalizationToken = some token → store.objects (owned.canonicalObjectKey role) = none →
      outcome.raisesAfterEffect = false) :
    (advanceDatasetFinalizer sizeBytes sha256 settings storage prepare request token store outcome
        deletions (.operating owned task published)).1.Tidy
      (advanceDatasetFinalizer sizeBytes sha256 settings storage prepare request token store outcome
        deletions (.operating owned task published)).2 request.uploadId := by
  have holds := fits.holds owned rfl
  cases task with
  | verify => exact tidy.next fun _ member => member
  | prepare verified => exact tidy.next fun _ member => member
  | publish verified snapshot role =>
      simp only [advanceDatasetFinalizer, publishCanonical]
      intro row found finalizing other
      have rowFound : store.sessions request.uploadId = some row := by
        rw [← sameRows_storeVerified (owned.canonicalObjectKey role)
          (snapshot.content verified role) outcome |>.sessions]
        exact found
      have reservation := holds.reservation row rowFound
      have valid : row.KeysValid request.uploadId := reservation ▸ holds.keys
      rcases tidy row rowFound finalizing other with earlier | absent
      · left
        split
        · exact List.mem_cons_of_mem role earlier
        · exact earlier
      · by_cases same : other = role
        · split
          · exact .inl (same ▸ List.mem_cons_self)
          · next failed =>
              right
              have free : store.objects (owned.canonicalObjectKey role) = none := by
                rw [← reservation, ← same]
                exact absent
              have quiet := clean verified snapshot role rfl row rowFound finalizing
                ((holds.claim row rowFound).2 finalizing) free
              have idle : (storeVerifiedDatasetFile store (owned.canonicalObjectKey role)
                  (snapshot.content verified role) outcome).2 = store :=
                storeVerified_idle failed quiet
              rw [idle]
              exact absent
        · right
          have apart : row.canonicalObjectKey other ≠ owned.canonicalObjectKey role := by
            rw [← reservation]
            exact fun sameKey => same (canonicalObjectKey_injective valid sameKey)
          rw [storeVerified_objects _ _ fun sameKey => absurd sameKey apart]
          exact absent

theorem afterTask_leaves {result : TaskResult Content} {published : List CanonicalRole}
    (role : CanonicalRole) (member : role ∈ published) :
    (afterTask owned result published).Leaves role := by
  cases result with
  | verified verified => exact member
  | prepared verified snapshot => exact member
  | published verified snapshot publishing =>
      simp only [afterTask]
      split <;> exact member
  | failed failure =>
      cases failure with
      | storage => exact .inl member
      | other => exact member
      | _ => exact .inl member

/-- A claim that is held is found by the transactions that check it. -/
theorem holds_claim (holds : store.Holds uploadId token owned) {row : DatasetUploadSession}
    (found : store.sessions uploadId = some row) (finalizing : row.status = .finalizing) :
    row.generation = owned.generation ∧ row.finalizationToken = some token :=
  ⟨congrArg DatasetReservation.generation (holds.reservation row found),
    (holds.claim row found).2 finalizing⟩

theorem status_pending_of_checks {status : UploadStatus} (uncompleted : status ≠ .completed)
    (unabandoned : ¬status.Abandoned) (idle : status ≠ .finalizing) : status = .pending := by
  cases status with
  | pending => rfl
  | finalizing => exact absurd rfl idle
  | completed => exact absurd rfl uncompleted
  | failed => exact absurd (.inl rfl) unabandoned
  | expired => exact absurd (.inr rfl) unabandoned

theorem lock_of_found (sound : store.Sound settings) {row : DatasetUploadSession}
    (found : store.sessions uploadId = some row) :
    ∃ dataset, store.lockDatasetThenUpload uploadId = some (dataset, row) := by
  rcases sound.parent uploadId row found with ⟨dataset, parent, -⟩
  refine ⟨dataset, ?_⟩
  simp only [lockDatasetThenUpload, found, parent]

theorem beginDatasetFinalization_tidy {request : FinalizeDatasetRequest} (tidy : store.Tidy) :
    (beginDatasetFinalization settings storage store request token).1.Tidy
      (beginDatasetFinalization settings storage store request token).2 request.uploadId := by
  simp only [beginDatasetFinalization]
  repeat' split
  all_goals first | exact tidy_of_leaves fun _ => trivial | skip
  next dataset upload locked _ _ uncompleted unabandoned _ idle _ _ =>
    have found := (lock_eq_some locked).1
    have pending := status_pending_of_checks uncompleted unabandoned idle
    have claimed : (store.commit request.uploadId (upload.claimFinalization store.clock token)
        dataset.startProcessing).sessions request.uploadId =
        some (upload.claimFinalization store.clock token) := Function.update_self ..
    intro row rowFound _ role
    rw [← Option.some.inj (claimed.symm.trans rowFound)]
    exact .inr (tidy.pending request.uploadId upload found pending role)

theorem advanceDatasetFinalizer_tidy (outcome : DatasetOutcome)
    (deletions : DatasetObjectKey → Deletion) {request : FinalizeDatasetRequest}
    {phase : DatasetFinalizePhase Content} (sound : store.Sound settings)
    (storeTidy : store.Tidy) (fits : phase.Fits sizeBytes sha256 store request.uploadId token)
    (tidy : phase.Tidy store request.uploadId)
    (clean : ∀ owned verified snapshot role published,
      phase = .operating owned (.publish verified snapshot role) published →
      ∀ row, store.sessions request.uploadId = some row → row.status = .finalizing →
      row.finalizationToken = some token → store.objects (owned.canonicalObjectKey role) = none →
      outcome.raisesAfterEffect = false) :
    (advanceDatasetFinalizer sizeBytes sha256 settings storage prepare request token store outcome
        deletions phase).1.Tidy
      (advanceDatasetFinalizer sizeBytes sha256 settings storage prepare request token store outcome
        deletions phase).2 request.uploadId := by
  cases phase with
  | requested => exact beginDatasetFinalization_tidy storeTidy
  | starting owned task published =>
      simp only [advanceDatasetFinalizer]
      split
      · exact tidy.next fun _ member => member
      · have touched := tidy.touch token owned.generation
        split
        · exact touched.next fun _ member => member
        · exact touched.next fun _ member => .inl member
  | operating owned task published =>
      apply operating_tidy outcome deletions fits tidy
      rintro verified snapshot role rfl
      exact clean owned verified snapshot role published rfl
  | operated owned result published =>
      simp only [advanceDatasetFinalizer]
      split
      · exact tidy.next fun _ member => member
      · have touched := tidy.touch token owned.generation
        split
        · exact touched.next fun role member => afterTask_leaves role member
        · exact touched.next fun _ member => .inl member
  | cleaning owned remaining succeeded reason =>
      cases remaining with
      | nil =>
          cases reason with
          | leaseLost => exact tidy_of_leaves fun _ => trivial
          | publishFailed => exact tidy.next fun _ member => member
      | cons role remaining =>
          have holds := fits.holds owned rfl
          simp only [advanceDatasetFinalizer]
          intro row found finalizing other
          have rowFound : store.sessions request.uploadId = some row := by
            rw [← sameRows_deleteObject (owned.canonicalObjectKey role)
              (deletions (owned.canonicalObjectKey role)) |>.sessions]
            exact found
          have reservation := holds.reservation row rowFound
          cases worked : (store.deleteObject (owned.canonicalObjectKey role)
              (deletions (owned.canonicalObjectKey role))).1 with
          | false => exact .inl (.inr (Bool.and_false succeeded))
          | true =>
              by_cases same : other = role
              · right
                rw [same, reservation]
                exact deleteObject_removes worked
              · rcases tidy row rowFound finalizing other with (earlier | failed) | absent
                · exact .inl (.inl ((List.mem_cons.mp earlier).resolve_left same))
                · exact .inl (.inr (by rw [failed, Bool.false_and]))
                · right
                  rw [deleteObject_objects]
                  · exact absent
                  · rw [reservation]
                    exact fun sameKey => same (canonicalObjectKey_injective holds.keys sameKey)
  | failing owned failureCode retryable cleanupTemporary published answer =>
      have holds := fits.holds owned rfl
      simp only [advanceDatasetFinalizer, setUploadFailure]
      split
      · next unlocked =>
          intro row found
          rcases lock_of_found sound found with ⟨dataset, locked⟩
          cases unlocked.symm.trans locked
      · next dataset upload locked =>
          split
          · next lost =>
              intro row found finalizing
              have claim := holds_claim holds found finalizing
              rcases Option.some.inj ((lock_eq_some locked).1.symm.trans found) with rfl
              rcases lost with other | other | other
              · exact absurd claim.1 other
              · exact absurd finalizing other
              · exact absurd claim.2 other
          · repeat' split
            all_goals exact tidy_of_leaves fun _ => trivial
  | committing owned verified snapshot published =>
      have lost : (DatasetFinalizePhase.cleaning owned published true .leaseLost).Tidy store
          request.uploadId := tidy.next fun _ member => .inl member
      simp only [advanceDatasetFinalizer, commitDatasetFinalization]
      split
      · exact lost
      · next dataset upload locked =>
          split
          · exact lost
          · split
            · next cancelled effective =>
                cases effective with
                | false => exact tidy.next fun _ member => member
                | true =>
                    intro row found finalizing
                    have completed : (store.commit request.uploadId (upload.complete store.clock)
                        (dataset.finalize sizeBytes sha256 upload.toDatasetReservation
                          snapshot)).sessions request.uploadId =
                        some (upload.complete store.clock) := Function.update_self ..
                    rw [← Option.some.inj (completed.symm.trans found)] at finalizing
                    cases finalizing
            · exact tidy_of_leaves fun _ => trivial
  | recovering owned failureCode published afterCommit cancelled =>
      simp only [advanceDatasetFinalizer, recoverAbortedFinalization]
      repeat' split
      all_goals exact tidy_of_leaves fun _ => trivial
  | removingStaging owned recovered cancelled =>
      simp only [advanceDatasetFinalizer]
      split <;> exact tidy_of_leaves fun _ => trivial
  | marking owned => exact tidy_of_leaves fun _ => trivial
  | answered answer => exact tidy_of_leaves fun _ => trivial

end

/-! ## Sessions that are pending again -/

section

variable {token : ClaimToken}

def failureRemoval (store : DatasetStore Content) (key : DatasetObjectKey)
    (deletions : DatasetObjectKey → Deletion) (cleanupTemporary : Bool) :
    Bool × DatasetStore Content :=
  if cleanupTemporary then store.deleteObject key (deletions key) else (true, store)

theorem setUploadFailure_cases (request : FinalizeDatasetRequest) (owned : DatasetReservation)
    (failureCode : String) (retryable cleanupTemporary : Bool) (published : List CanonicalRole)
    (answer : HttpError) (outcome : DatasetOutcome) (deletions : DatasetObjectKey → Deletion) :
    store.SameRows (setUploadFailure store request token owned failureCode retryable
        cleanupTemporary published answer outcome deletions).2 ∨
      ∃ dataset upload failure,
        store.lockDatasetThenUpload request.uploadId = some (dataset, upload) ∧
        (setUploadFailure store request token owned failureCode retryable cleanupTemporary
            published answer outcome deletions).2 =
          (failureRemoval store upload.temporaryObjectKey deletions cleanupTemporary).2.commit
            request.uploadId
            (upload.failFinalization store.clock failure
              (retryable && (failureRemoval store upload.temporaryObjectKey deletions
                cleanupTemporary).1))
            (dataset.failProcessing failure
              (retryable && (failureRemoval store upload.temporaryObjectKey deletions
                cleanupTemporary).1)) := by
  unfold setUploadFailure
  split
  · exact .inl (.refl store)
  · next dataset upload locked =>
      split
      · exact .inl (.refl store)
      · have rows : store.SameRows (failureRemoval store upload.temporaryObjectKey deletions
            cleanupTemporary).2 := by
          unfold failureRemoval
          split
          · exact sameRows_deleteObject ..
          · exact .refl store
        cases outcome with
        | aborts cancelled effective =>
            cases effective with
            | false => exact .inl rows
            | true => exact .inr ⟨dataset, upload, _, locked, rfl⟩
        | _ => exact .inr ⟨dataset, upload, _, locked, rfl⟩

theorem recoverAbortedFinalization_cases (request : FinalizeDatasetRequest)
    (owned : DatasetReservation) (failureCode : String) (published : List CanonicalRole)
    (afterCommit cancelled : Bool) (outcome : DatasetOutcome)
    (deletions : DatasetObjectKey → Deletion) {row : DatasetUploadSession}
    (found : store.sessions request.uploadId = some row) (finalizing : row.status = .finalizing) :
    store.SameRows (recoverAbortedFinalization store request token owned failureCode published
        afterCommit cancelled outcome deletions).2 ∨
      ∃ dataset failure,
        (recoverAbortedFinalization store request token owned failureCode published afterCommit
            cancelled outcome deletions).2 =
          (cleanupPublishedKeys deletions (published.map owned.canonicalObjectKey)
              store).2.commit request.uploadId
            (row.failFinalization store.clock failure
              (cleanupPublishedKeys deletions (published.map owned.canonicalObjectKey) store).1)
            (dataset : Dataset) := by
  have rows : store.SameRows (cleanupPublishedKeys deletions
      (published.map owned.canonicalObjectKey) store).2 := sameRows_cleanup ..
  unfold recoverAbortedFinalization
  split
  · exact .inl (.refl store)
  · next dataset upload locked =>
      rcases Option.some.inj ((lock_eq_some locked).1.symm.trans found) with rfl
      repeat' split
      all_goals
        first
        | exact .inl (.refl store)
        | exact .inl rows
        | exact .inr ⟨_, _, rfl⟩

/-- A move that ends no finalization leaves its session finalizing. -/
theorem not_pending_of_move {uploadId : UploadId} {row next : DatasetUploadSession}
    (move : RowsMove sizeBytes sha256 settings storage none none store after)
    (sound : store.Sound settings) (rowFound : store.sessions uploadId = some row)
    (finalizing : row.status = .finalizing) (found : after.sessions uploadId = some next) :
    next.status ≠ .pending := by
  intro pending
  rcases pending_back move sound found pending with ⟨before, beforeFound, wasPending, -⟩ | undrawn
  · rw [← Option.some.inj (rowFound.symm.trans beforeFound), finalizing] at wasPending
    cases wasPending
  · exact undrawn (sound.uploadDrawn uploadId row rowFound)

theorem failureRemoval_objects {key other : DatasetObjectKey}
    {deletions : DatasetObjectKey → Deletion} (apart : other ≠ key) (cleanupTemporary : Bool) :
    (failureRemoval store key deletions cleanupTemporary).2.objects other =
      store.objects other := by
  unfold failureRemoval
  split
  · exact deleteObject_objects _ apart
  · rfl

/-- A failure that gives the session back does so where nothing was published. -/
theorem setUploadFailure_pending {request : FinalizeDatasetRequest} {owned : DatasetReservation}
    {failureCode : String} {retryable cleanupTemporary : Bool} {published : List CanonicalRole}
    {answer : HttpError} {outcome : DatasetOutcome} {deletions : DatasetObjectKey → Deletion}
    {row next : DatasetUploadSession} {role : CanonicalRole} (sound : store.Sound settings)
    (rowFound : store.sessions request.uploadId = some row) (finalizing : row.status = .finalizing)
    (absent : retryable = true → store.objects (row.canonicalObjectKey role) = none)
    (found : (setUploadFailure store request token owned failureCode retryable cleanupTemporary
      published answer outcome deletions).2.sessions request.uploadId = some next)
    (pending : next.status = .pending) :
    (setUploadFailure store request token owned failureCode retryable cleanupTemporary
      published answer outcome deletions).2.objects (row.canonicalObjectKey role) = none := by
  rcases setUploadFailure_cases request owned failureCode retryable cleanupTemporary published
    answer outcome deletions with rows | ⟨dataset, upload, failure, locked, failed⟩
  · rw [rows.sessions] at found
    rw [← Option.some.inj (rowFound.symm.trans found), finalizing] at pending
    cases pending
  · rcases Option.some.inj ((lock_eq_some locked).1.symm.trans rowFound) with rfl
    rw [failed] at found ⊢
    rcases Option.some.inj ((sessions_commit ..).symm.trans found) with rfl
    cases retryable with
    | false => cases pending
    | true =>
        have apart : upload.canonicalObjectKey role ≠ upload.temporaryObjectKey := by
          rw [(sound.keysValid request.uploadId upload rowFound).1]
          exact canonicalObjectKey_ne_staging
            (sound.keysValid request.uploadId upload rowFound) role _ _
        exact (failureRemoval_objects apart cleanupTemporary).trans (absent rfl)

/-- A recovery that gives the session back has removed what was published. -/
theorem recoverAbortedFinalization_pending {request : FinalizeDatasetRequest}
    {owned : DatasetReservation} {failureCode : String} {published : List CanonicalRole}
    {afterCommit cancelled : Bool} {outcome : DatasetOutcome}
    {deletions : DatasetObjectKey → Deletion} {row next : DatasetUploadSession}
    {role : CanonicalRole} (rowFound : store.sessions request.uploadId = some row)
    (finalizing : row.status = .finalizing)
    (reservation : row.toDatasetReservation = owned)
    (left : role ∈ published ∨ store.objects (row.canonicalObjectKey role) = none)
    (found : (recoverAbortedFinalization store request token owned failureCode published
      afterCommit cancelled outcome deletions).2.sessions request.uploadId = some next)
    (pending : next.status = .pending) :
    (recoverAbortedFinalization store request token owned failureCode published afterCommit
      cancelled outcome deletions).2.objects (row.canonicalObjectKey role) = none := by
  rcases recoverAbortedFinalization_cases request owned failureCode published afterCommit
    cancelled outcome deletions rowFound finalizing with rows | ⟨dataset, failure, recovered⟩
  · rw [rows.sessions] at found
    rw [← Option.some.inj (rowFound.symm.trans found), finalizing] at pending
    cases pending
  · rw [recovered] at found ⊢
    rcases Option.some.inj ((sessions_commit ..).symm.trans found) with rfl
    cases worked : (cleanupPublishedKeys deletions (published.map owned.canonicalObjectKey)
        store).1 with
    | false =>
        rw [worked] at pending
        cases pending
    | true =>
        by_cases member : row.canonicalObjectKey role ∈ published.map owned.canonicalObjectKey
        · exact cleanup_removes worked member
        · rcases left with inPublished | absent
          · rw [reservation] at member
            exact absurd (List.mem_map_of_mem inPublished) member
          · exact (cleanup_objects member).trans absent

/-- A finalization that gives its session back has removed what it had published. -/
theorem advanceDatasetFinalizer_pending (outcome : DatasetOutcome)
    (deletions : DatasetObjectKey → Deletion) {request : FinalizeDatasetRequest}
    {phase : DatasetFinalizePhase Content} (sound : store.Sound settings)
    (fits : phase.Fits sizeBytes sha256 store request.uploadId token)
    (tidy : phase.Tidy store request.uploadId) {row next : DatasetUploadSession}
    (rowFound : store.sessions request.uploadId = some row) (finalizing : row.status = .finalizing)
    (found : (advanceDatasetFinalizer sizeBytes sha256 settings storage prepare request token store
      outcome deletions phase).2.sessions request.uploadId = some next)
    (pending : next.status = .pending) (role : CanonicalRole) :
    (advanceDatasetFinalizer sizeBytes sha256 settings storage prepare request token store outcome
      deletions phase).2.objects (row.canonicalObjectKey role) = none := by
  have quiet (move : RowsMove sizeBytes sha256 settings storage none none store
      (advanceDatasetFinalizer sizeBytes sha256 settings storage prepare request token store
        outcome deletions phase).2) : False :=
    not_pending_of_move move sound rowFound finalizing found pending
  have touched (generation : Nat) : RowsMove sizeBytes sha256 settings storage none none store
      (store.amend request.uploadId fun row =>
        row.touchFinalization store.clock token generation).2 :=
    .amend sound request.uploadId fun _ _ => touchFinalization_keeps
  have kept (rows : store.SameRows (advanceDatasetFinalizer sizeBytes sha256 settings storage
      prepare request token store outcome deletions phase).2) : False := quiet (.ofSame rows)
  cases phase with
  | requested =>
      exfalso
      revert found kept
      simp only [advanceDatasetFinalizer, beginDatasetFinalization]
      repeat' split
      all_goals intro found kept
      all_goals first | exact kept (.refl store) | skip
      all_goals
        rcases Option.some.inj ((sessions_commit ..).symm.trans found) with rfl
        cases pending
  | starting owned task published =>
      exfalso
      apply quiet
      simp only [advanceDatasetFinalizer]
      split
      · exact .refl store
      · exact touched owned.generation
  | operating owned task published =>
      exfalso
      apply quiet
      cases task with
      | verify => exact .refl store
      | prepare verified => exact .refl store
      | publish verified snapshot role => exact .ofSame (sameRows_storeVerified ..)
  | operated owned result published =>
      exfalso
      apply quiet
      simp only [advanceDatasetFinalizer]
      split
      · exact .refl store
      · exact touched owned.generation
  | cleaning owned remaining succeeded reason =>
      exfalso
      apply quiet
      cases remaining with
      | nil => exact .refl store
      | cons role remaining => exact .ofSame (sameRows_deleteObject ..)
  | failing owned failureCode retryable cleanupTemporary published answer =>
      apply setUploadFailure_pending sound rowFound finalizing _ found pending
      intro retried
      have orderly : published = [] := fits.orderly
      rcases tidy row rowFound finalizing role with (member | unretryable) | absent
      · rw [orderly] at member
        cases member
      · rw [unretryable] at retried
        cases retried
      · exact absent
  | committing owned verified snapshot published =>
      exfalso
      rcases commitDatasetFinalization_cases request token owned snapshot published outcome with
        same | ⟨dataset, upload, locked, -, held, committed⟩
      · exact quiet (.ofSame (same ▸ .refl store))
      · have completed : (store.commit request.uploadId (upload.complete store.clock)
            (dataset.finalize sizeBytes sha256 upload.toDatasetReservation snapshot)).sessions
            request.uploadId = some (upload.complete store.clock) := Function.update_self ..
        have after := congrArg (DatasetStore.sessions · request.uploadId) committed
        rw [← Option.some.inj (completed.symm.trans (after.symm.trans found))] at pending
        cases pending
  | recovering owned failureCode published afterCommit cancelled =>
      have holds := fits.holds owned rfl
      exact recoverAbortedFinalization_pending rowFound finalizing
        (holds.reservation row rowFound) (tidy row rowFound finalizing role) found pending
  | removingStaging owned recovered cancelled =>
      exact (quiet (.ofSame (sameRows_deleteObject ..))).elim
  | marking owned =>
      refine (quiet (.amend sound request.uploadId fun row next noted => ?_)).elim
      rw [← Option.some.inj noted]
      exact ⟨setFailureCode_keeps _, rfl⟩
  | answered answer => exact (quiet (.refl store)).elim

end

/-! ## Every step -/

/-- A canonical object that a process touches is one of an upload that was reserved. -/
theorem touched_drawn (sound : store.Sound settings) {phase : DatasetPhase Content}
    (fits : phase.Fits sizeBytes sha256 store) {datasetId : DatasetId} {uploadId : UploadId}
    {extension : String} {role : CanonicalRole}
    (touches : phase.Touches store (datasetVerifiedObjectKey datasetId uploadId extension role)) :
    uploadId ∈ store.uploads := by
  have staging {key : DatasetObjectKey} (isStaging : ∃ otherId stagingId,
      key = datasetTemporaryObjectKey otherId stagingId)
      (same : datasetVerifiedObjectKey datasetId uploadId extension role = key) : False := by
    rcases isStaging with ⟨otherId, stagingId, rfl⟩
    exact datasetVerifiedObjectKey_ne_temporary _ _ _ _ _ _ same
  cases phase with
  | initializer request phase => exact touches.elim
  | writer request token phase =>
      cases phase with
      | writing owned => exact (staging ⟨_, _, fits _ rfl⟩ touches).elim
      | cleaning owned clears answer => exact (staging ⟨_, _, fits _ rfl⟩ touches).elim
      | _ => exact touches.elim
  | presigned key content => exact (staging fits touches.1).elim
  | finalizer request token phase =>
      have canonical (owned : DatasetReservation) (claimed : phase.owned = some owned)
          {other : CanonicalRole}
          (same : datasetVerifiedObjectKey datasetId uploadId extension role =
            owned.canonicalObjectKey other) : uploadId ∈ store.uploads := by
        have holds := fits.holds owned claimed
        have sameId := congrArg DatasetObjectKey.uploadId same
        rw [uploadId_verifiedObjectKey, uploadId_canonicalObjectKey holds.keys] at sameId
        exact sameId ▸ holds.drawn
      cases phase with
      | operating owned task published =>
          cases task with
          | publish verified snapshot publishing => exact canonical owned rfl touches.1
          | _ => exact touches.elim
      | cleaning owned remaining succeeded reason =>
          rcases touches with ⟨other, -, same⟩
          exact canonical owned rfl same
      | failing owned failureCode retryable cleanupTemporary published answer =>
          rcases touches with ⟨other, otherFound, same⟩
          exact (staging ⟨_, _, (sound.keysValid request.uploadId other otherFound).1⟩ same).elim
      | recovering owned failureCode published afterCommit cancelled =>
          rcases touches with ⟨⟨other, -, same⟩, -⟩
          exact canonical owned rfl same
      | removingStaging owned recovered cancelled =>
          exact (staging ⟨_, _, (fits.holds owned rfl).keys.1⟩ touches).elim
      | _ => exact touches.elim
  | deleter request phase =>
      cases phase with
      | deleting remaining succeeded =>
          have drawn := (fits _ touches).1
          rwa [uploadId_verifiedObjectKey] at drawn
      | _ => exact touches.elim

/-- The sessions that are pending after a move were so before, are new, or have lost their
objects. -/
theorem advance_pending (choice : DatasetChoice) (sound : store.Sound settings)
    {phase : DatasetPhase Content} (fits : phase.Fits sizeBytes sha256 store)
    (tidy : phase.Tidy store) {uploadId : UploadId} {next : DatasetUploadSession}
    (found : (advanceDatasetProcess sizeBytes sha256 settings storage prepare choice phase
      store).2.sessions uploadId = some next) (pending : next.status = .pending) :
    ((∃ row, store.sessions uploadId = some row ∧ row.status = .pending ∧
        next.toDatasetReservation = row.toDatasetReservation) ∨ uploadId ∉ store.uploads) ∨
      ∀ role, (advanceDatasetProcess sizeBytes sha256 settings storage prepare choice phase
        store).2.objects (next.canonicalObjectKey role) = none := by
  have quiet (move : RowsMove sizeBytes sha256 settings storage none phase.recording store
      (advanceDatasetProcess sizeBytes sha256 settings storage prepare choice phase store).2) :=
    pending_back move sound found pending
  have move : RowsMove sizeBytes sha256 settings storage phase.name phase.recording store
      (advanceDatasetProcess sizeBytes sha256 settings storage prepare choice phase store).2 :=
    advance_rows choice sound fits
  cases choice with
  | heartbeat => exact .inl (quiet (heartbeatDatasetProcess_rows sound phase))
  | go outcome deletions pick freshId datasetId =>
      cases phase with
      | initializer request phase => exact .inl (quiet move)
      | writer request token phase => exact .inl (quiet (advanceLocalUpload_rows sound))
      | presigned key content => exact .inl (quiet move)
      | finalizer request token phase =>
          by_cases drawn : uploadId ∈ store.uploads
          · rcases move.back sound drawn found with ⟨row, rowFound, becomes⟩
            by_cases own : uploadId = request.uploadId
            · subst own
              rcases row.status.active_or_terminal with (before | finalizing) | terminal
              · exact .inl (.inl ⟨row, rowFound, before, becomes.reservation⟩)
              · right
                rw [becomes.reservation]
                exact advanceDatasetFinalizer_pending outcome deletions sound fits tidy rowFound
                  finalizing found pending
              · have status := becomes.terminal terminal
                exact absurd (.inl (status.symm.trans pending)) terminal.not_active
            · have same : (advanceDatasetProcess sizeBytes sha256 settings storage prepare
                  (.go outcome deletions pick freshId datasetId) (.finalizer request token phase)
                  store).2.sessions uploadId = store.sessions uploadId :=
                sameElsewhere_finalizer outcome deletions request token phase uploadId own
              rw [same] at found
              exact .inl (.inl ⟨next, found, pending, rfl⟩)
          · exact .inl (.inr drawn)
      | deleter request phase => exact .inl (quiet move)

theorem DatasetStore.Tidy.advance (tidy : store.Tidy) (choice : DatasetChoice)
    (sound : store.Sound settings) {phase : DatasetPhase Content}
    (fits : phase.Fits sizeBytes sha256 store) (phaseTidy : phase.Tidy store) :
    (advanceDatasetProcess sizeBytes sha256 settings storage prepare choice phase
      store).2.Tidy := by
  have move : RowsMove sizeBytes sha256 settings storage phase.name phase.recording store
      (advanceDatasetProcess sizeBytes sha256 settings storage prepare choice phase store).2 :=
    advance_rows choice sound fits
  constructor
  · intro datasetId uploadId extension role present
    apply move.uploads_subset
    by_cases touches : phase.Touches store
        (datasetVerifiedObjectKey datasetId uploadId extension role)
    · exact touched_drawn sound fits touches
    · rw [advance_objects choice touches] at present
      exact tidy.drawn datasetId uploadId extension role present
  · intro uploadId next found pending role
    rcases advance_pending choice sound fits phaseTidy found pending with
      (⟨row, rowFound, rowPending, reservation⟩ | undrawn) | removed
    · rw [reservation, objects_of_spares choice sound fits rowFound (.inl rowPending)]
      exact tidy.pending uploadId row rowFound rowPending role
    · have valid := (move.sound sound).keysValid uploadId next found
      have absent := canonical_none_of_undrawn tidy valid undrawn role
      rw [advance_objects choice]
      · exact absent
      · intro touches
        rw [canonicalObjectKey_eq valid] at touches
        exact undrawn (touched_drawn sound fits touches)
    · exact removed role

theorem launch_tidy {launch : DatasetLaunch Content} {phase : DatasetPhase Content}
    (launched : launchDatasetProcess sizeBytes launch store = some (phase, after)) :
    phase.Tidy after := by
  cases launch with
  | init request =>
      cases launched
      trivial
  | write request token =>
      simp only [launchDatasetProcess, drawDatasetToken] at launched
      split at launched
      · cases launched
      · cases launched
        trivial
  | put grant content =>
      simp only [launchDatasetProcess] at launched
      split at launched
      · cases launched
        trivial
      · cases launched
  | finalize request token =>
      simp only [launchDatasetProcess, drawDatasetToken] at launched
      split at launched
      · cases launched
      · cases launched
        exact tidy_of_leaves fun _ => trivial
  | delete request =>
      cases launched
      trivial

theorem clean_of_leavesOrphan {situation : DatasetSituation Content} {place : Nat}
    {request : FinalizeDatasetRequest} {token : ClaimToken} {owned : DatasetReservation}
    {verified : Content} {snapshot : DatasetSnapshot Content} {role : CanonicalRole}
    {published : List CanonicalRole} {outcome : DatasetOutcome}
    {deletions : DatasetObjectKey → Deletion} {pick : Nat} {uploadId : UploadId}
    {datasetId : DatasetId}
    (found : situation.phases[place]? = some (.finalizer request token
      (.operating owned (.publish verified snapshot role) published)))
    (clean : leavesOrphan situation
      (.proceed place (.go outcome deletions pick uploadId datasetId)) = false)
    {row : DatasetUploadSession} (rowFound : situation.state.sessions request.uploadId = some row)
    (finalizing : row.status = .finalizing) (held : row.finalizationToken = some token)
    (free : situation.state.objects (owned.canonicalObjectKey role) = none) :
    outcome.raisesAfterEffect = false := by
  simpa [leavesOrphan, found, free, rowFound, finalizing, held] using clean

theorem advance_phase_tidy {situation : DatasetSituation Content}
    (coherent : DatasetSituation.Coherent sizeBytes sha256 settings situation) {place : Nat}
    {choice : DatasetChoice} (clean : leavesOrphan situation (.proceed place choice) = false)
    (tidy : situation.state.Tidy) {phase next : DatasetPhase Content}
    (found : situation.phases[place]? = some phase) (phaseTidy : phase.Tidy situation.state)
    (advanced : (advanceDatasetProcess sizeBytes sha256 settings storage prepare choice phase
      situation.state).1 = some next) :
    next.Tidy (advanceDatasetProcess sizeBytes sha256 settings storage prepare choice phase
      situation.state).2 := by
  have sound := coherent.store.sound
  have fits := coherent.fits phase (List.mem_of_getElem? found)
  cases choice with
  | heartbeat =>
      rcases Option.some.inj advanced with rfl
      have move : RowsMove sizeBytes sha256 settings storage none none situation.state
          (heartbeatDatasetProcess situation.state phase) := heartbeatDatasetProcess_rows sound phase
      apply phaseTidy.move fits move sound
      intro _ _ _ _ _ _
      exact congrFun (heartbeat_objects phase) _
  | go outcome deletions pick uploadId datasetId =>
      cases phase with
      | initializer request phase =>
          rw [initializerPhase_eq_some advanced]
          trivial
      | writer request token phase =>
          rw [localUploadPhase_eq_some advanced]
          trivial
      | presigned key content => nomatch advanced
      | finalizer request token phase =>
          rw [datasetFinalizerPhase_eq_some advanced]
          apply advanceDatasetFinalizer_tidy outcome deletions sound tidy fits phaseTidy
          rintro owned verified snapshot role published rfl row rowFound finalizing held free
          exact clean_of_leavesOrphan found clean rowFound finalizing held free
      | deleter request phase =>
          rw [deleterPhase_eq_some advanced]
          trivial

/-- What holds along runs in which no publication leaves an orphan. -/
theorem tidyPreserves (prepare : DatasetPreparation Content) :
    (datasetWorkforce sizeBytes sha256 settings storage prepare).PreservesApart
      (fun situation event => leavesOrphan situation event = false ∧
        DatasetSituation.Coherent sizeBytes sha256 settings situation)
      (fun store => store.Tidy) (fun store phase => phase.Tidy store) where
  launched situation launch phase after meets tidy launched := by
    rcases launch_sameFrame launched with ⟨rows, objects, -⟩
    have move : RowsMove sizeBytes sha256 settings storage none none situation.state after :=
      .ofSame rows
    have sound := meets.2.store.sound
    refine ⟨tidy.quiet sound move fun key _ => by rw [objects], launch_tidy launched, ?_⟩
    intro other member fits
    apply fits.move (meets.2.fits other member) move sound
    intro _ _ _ _ _ _
    rw [objects]
  moved situation place choice phase meets found tidy fits others := by
    have sound := meets.2.store.sound
    have member := List.mem_of_getElem? found
    have move : RowsMove sizeBytes sha256 settings storage phase.name phase.recording
        situation.state (advanceDatasetProcess sizeBytes sha256 settings storage prepare choice
          phase situation.state).2 := advance_rows choice sound (meets.2.fits phase member)
    refine ⟨tidy.advance choice sound (meets.2.fits phase member) fits, fun next advanced => ?_,
      fun other apart => ?_⟩
    · exact advance_phase_tidy meets.2 meets.1 tidy found fits advanced
    · apply (others other apart).move (meets.2.fits other (List.mem_of_mem_eraseIdx apart)) move sound
      intro uploadId row role rowFound finalizing held
      exact objects_of_spares choice sound (meets.2.fits phase member) rowFound
        (.inr (.inr ⟨finalizing, foreign_of_named meets.2.named sound found apart rowFound finalizing
          held⟩)) role
  disturbed situation disturbance after meets tidy disturbed := by
    rcases disturb_beside disturbed with ⟨-, -, objects⟩
    have move : RowsMove sizeBytes sha256 settings storage none none situation.state after :=
      disturbDatasetStore_rows disturbed
    have sound := meets.2.store.sound
    refine ⟨tidy.quiet sound move objects, fun other member fits => ?_⟩
    apply fits.move (meets.2.fits other member) move sound
    intro uploadId row role found _ _
    exact objects _ (canonicalObjectKey_ne_staging (sound.keysValid uploadId row found) role)

/-! ## A finalization alone, with working storage -/

def undisturbed : DatasetChoice := .go .works (fun _ => .works) 0 0 0

def DatasetStore.Fresh (store : DatasetStore Content) (uploadId : UploadId) (token : ClaimToken)
    (owned : DatasetReservation) : Prop :=
  ∃ row, store.sessions uploadId = some row ∧ row.toDatasetReservation = owned ∧
    row.status = .finalizing ∧ row.finalizationToken = some token ∧
    row.finalizationHeartbeatAt = some store.clock ∧ row.updatedAt = store.clock

section

variable {request : FinalizeDatasetRequest} {token : ClaimToken} {owned : DatasetReservation}

/-- While the clock stands still, a heartbeat writes what is already there. -/
theorem touch_fresh (fresh : store.Fresh request.uploadId token owned) :
    (store.amend request.uploadId fun row =>
      row.touchFinalization store.clock token owned.generation) = (true, store) := by
  rcases fresh with ⟨row, found, reservation, finalizing, held, heartbeat, updated⟩
  have touched : row.touchFinalization store.clock token owned.generation = some row := by
    have generation : row.generation = owned.generation :=
      congrArg DatasetReservation.generation reservation
    have current : row.generation = owned.generation ∧ row.status = .finalizing ∧
        row.finalizationToken = some token := ⟨generation, finalizing, held⟩
    simp only [DatasetUploadSession.touchFinalization, if_pos current, ← heartbeat]
    rw [← updated]
  have sameRow : (store.sessions request.uploadId).bind
      (fun row => row.touchFinalization store.clock token owned.generation) = some row := by
    rw [found, Option.bind_some, touched]
  unfold DatasetStore.amend
  rw [sameRow]
  simp only [← found, Function.update_eq_self]

variable (sizeBytes sha256 settings storage prepare)

def finalizesAlone (request : FinalizeDatasetRequest) (token : ClaimToken)
    (phase : DatasetFinalizePhase Content) (store : DatasetStore Content) (moves : Nat) :
    Option (DatasetPhase Content) × DatasetStore Content :=
  (datasetWorkforce sizeBytes sha256 settings storage prepare).solo
    (datasetFinalizerPhase request token phase) store (List.replicate moves undisturbed)

variable {sizeBytes sha256 settings storage prepare}

theorem finalizesAlone_step {phase next : DatasetFinalizePhase Content}
    (unanswered : datasetFinalizerPhase request token phase =
      some (.finalizer request token phase))
    (advanced : advanceDatasetFinalizer sizeBytes sha256 settings storage prepare request token
      store .works (fun _ => .works) phase = (next, after)) (moves : Nat) :
    finalizesAlone sizeBytes sha256 settings storage prepare request token phase store (moves + 1) =
      finalizesAlone sizeBytes sha256 settings storage prepare request token next after moves := by
  unfold finalizesAlone
  rw [unanswered, List.replicate_succ]
  apply Workforce.solo_of_advance
  simp only [datasetWorkforce, advanceDatasetProcess, undisturbed, advanced]

/-- A task whose operation works, between its heartbeats. -/
theorem finalizesAlone_task {task : FinalizationTask Content} {result : TaskResult Content}
    {published published' : List CanonicalRole}
    (fresh : store.Fresh request.uploadId token owned)
    (freshAfter : after.Fresh request.uploadId token owned)
    (operated : advanceDatasetFinalizer sizeBytes sha256 settings storage prepare request token
      store .works (fun _ => .works) (.operating owned task published) =
        (.operated owned result published', after)) (moves : Nat) :
    finalizesAlone sizeBytes sha256 settings storage prepare request token
        (.starting owned task published) store (moves + 3) =
      finalizesAlone sizeBytes sha256 settings storage prepare request token
        (afterTask owned result published') after moves := by
  have first : advanceDatasetFinalizer sizeBytes sha256 settings storage prepare request token
      store .works (fun _ => .works) (.starting owned task published) =
        (.operating owned task published, store) := by
    simp only [advanceDatasetFinalizer, touch_fresh fresh, if_pos]
  have last : advanceDatasetFinalizer sizeBytes sha256 settings storage prepare request token
      after .works (fun _ => .works) (.operated owned result published') =
        (afterTask owned result published', after) := by
    simp only [advanceDatasetFinalizer, touch_fresh freshAfter, if_pos]
  rw [finalizesAlone_step rfl first (moves + 2), finalizesAlone_step rfl operated (moves + 1),
    finalizesAlone_step rfl last moves]

def publishedStore (owned : DatasetReservation) (verified : Content)
    (snapshot : DatasetSnapshot Content) (store : DatasetStore Content) :
    List CanonicalRole → DatasetStore Content
  | [] => store
  | role :: published =>
      (publishedStore owned verified snapshot store published).writeObject
        (owned.canonicalObjectKey role) (snapshot.content verified role)

theorem publishedStore_rows (verified : Content) (snapshot : DatasetSnapshot Content)
    (published : List CanonicalRole) :
    store.SameRows (publishedStore owned verified snapshot store published) ∧
      (publishedStore owned verified snapshot store published).clock = store.clock := by
  induction published with
  | nil => exact ⟨.refl store, rfl⟩
  | cons role published induction =>
      exact ⟨induction.1.trans (sameRows_writeObject ..), induction.2⟩

theorem publishedStore_objects (verified : Content) (snapshot : DatasetSnapshot Content)
    {published : List CanonicalRole} (valid : owned.KeysValid request.uploadId)
    {role : CanonicalRole} (unpublished : role ∉ published) :
    (publishedStore owned verified snapshot store published).objects
        (owned.canonicalObjectKey role) =
      store.objects (owned.canonicalObjectKey role) := by
  induction published with
  | nil => rfl
  | cons earlier published induction =>
      rw [List.mem_cons, not_or] at unpublished
      have apart : owned.canonicalObjectKey role ≠ owned.canonicalObjectKey earlier :=
        fun same => unpublished.1 (canonicalObjectKey_injective valid same)
      exact (Function.update_of_ne apart _ _).trans (induction unpublished.2)

theorem publishedStore_fresh (verified : Content) (snapshot : DatasetSnapshot Content)
    (published : List CanonicalRole) (fresh : store.Fresh request.uploadId token owned) :
    (publishedStore owned verified snapshot store published).Fresh request.uploadId token owned := by
  rcases publishedStore_rows verified snapshot published with ⟨rows, clock⟩
  unfold DatasetStore.Fresh
  rw [rows.sessions, clock]
  exact fresh

theorem finalizesAlone_publish {verified : Content} {snapshot : DatasetSnapshot Content}
    {published : List CanonicalRole} {role : CanonicalRole}
    (fresh : store.Fresh request.uploadId token owned)
    (valid : owned.KeysValid request.uploadId) (unpublished : role ∉ published)
    (free : ∀ role, store.objects (owned.canonicalObjectKey role) = none) (moves : Nat) :
    finalizesAlone sizeBytes sha256 settings storage prepare request token
        (.starting owned (.publish verified snapshot role) published)
        (publishedStore owned verified snapshot store published) (moves + 3) =
      finalizesAlone sizeBytes sha256 settings storage prepare request token
        (afterTask owned (.published verified snapshot role) (role :: published))
        (publishedStore owned verified snapshot store (role :: published)) moves := by
  apply finalizesAlone_task (publishedStore_fresh verified snapshot published fresh)
    (publishedStore_fresh verified snapshot (role :: published) fresh)
  have absent : (publishedStore owned verified snapshot store published).objects _ = _ :=
    publishedStore_objects verified snapshot valid unpublished
  rw [free role] at absent
  simp only [advanceDatasetFinalizer, publishCanonical, storeVerifiedDatasetFile, absent]
  rfl

end

/-! ## What the claim says -/

structure Finalizable (sizeBytes : Content → Nat) (sha256 : Content → String)
    (storage : StorageIdentity) (prepare : DatasetPreparation Content)
    (store : DatasetStore Content) (user : DatasetUser) (row : DatasetUploadSession)
    (content : Content) (snapshot : DatasetSnapshot Content) : Prop where
  unwritten : row.uploadWriteToken = none
  unexpired : store.clock < row.expiresAt
  stored : storage.Holds row.toDatasetReservation
  mayUse : ∀ dataset, store.datasets row.datasetId = some dataset → user.MayUse dataset
  staged : store.objects row.temporaryObjectKey = some content
  size : sizeBytes content = row.expectedSizeBytes
  digest : sha256 content = row.expectedSha256
  prepared : prepare (datasetExtension row.filename) content = .ok snapshot

section

variable {request : FinalizeDatasetRequest} {token : ClaimToken} {row : DatasetUploadSession}
  {content : Content} {snapshot : DatasetSnapshot Content}

theorem begin_finalizable (sound : store.Sound settings)
    (finalizable : Finalizable sizeBytes sha256 storage prepare store request.user row content
      snapshot)
    (found : store.sessions request.uploadId = some row) (pending : row.status = .pending) :
    ∃ dataset, store.datasets row.datasetId = some dataset ∧
      beginDatasetFinalization settings storage store request token =
        (.starting row.toDatasetReservation .verify [],
          store.commit request.uploadId (row.claimFinalization store.clock token)
            dataset.startProcessing) := by
  rcases lock_of_found sound found with ⟨dataset, locked⟩
  have parent := (lock_eq_some locked).2
  refine ⟨dataset, parent, ?_⟩
  have valid : row.toDatasetReservation.KeysValid request.uploadId :=
    sound.keysValid request.uploadId row found
  have unexpired : ¬row.expiresAt ≤ store.clock := not_le.mpr finalizable.unexpired
  have unabandoned : ¬row.status.Abandoned := by
    rw [pending]
    decide
  simp only [beginDatasetFinalization, locked]
  rw [if_neg (not_not.mpr (finalizable.mayUse dataset parent)),
    if_neg (not_not.mpr finalizable.stored), if_neg (by rw [pending]; decide),
    if_neg unabandoned, if_neg (not_not.mpr valid), if_neg (by rw [pending]; decide),
    if_neg unexpired, if_neg (not_not.mpr finalizable.unwritten)]

/-- The four publications. -/
theorem finalizesAlone_publishAll {owned : DatasetReservation}
    (fresh : store.Fresh request.uploadId token owned) (valid : owned.KeysValid request.uploadId)
    (free : ∀ role, store.objects (owned.canonicalObjectKey role) = none) (moves : Nat) :
    finalizesAlone sizeBytes sha256 settings storage prepare request token
        (.starting owned (.publish content snapshot .original) []) store (moves + 12) =
      finalizesAlone sizeBytes sha256 settings storage prepare request token
        (.committing owned content snapshot canonicalRoles.reverse)
        (publishedStore owned content snapshot store canonicalRoles.reverse) moves := by
  refine (finalizesAlone_publish fresh valid List.not_mem_nil free (moves + 9)).trans ?_
  refine (finalizesAlone_publish fresh valid (by decide) free (moves + 6)).trans ?_
  refine (finalizesAlone_publish fresh valid (by decide) free (moves + 3)).trans ?_
  exact finalizesAlone_publish fresh valid (by decide) free moves

theorem finalizesAlone_commit {owned : DatasetReservation} {published : List CanonicalRole}
    (fresh : store.Fresh request.uploadId token owned)
    (parent : store.datasets owned.datasetId ≠ none) :
    ∃ next, (finalizesAlone sizeBytes sha256 settings storage prepare request token
        (.committing owned content snapshot published) store 2).2.sessions request.uploadId =
          some next ∧ next.status = .completed := by
  rcases fresh with ⟨row, found, reservation, finalizing, held, -⟩
  rcases Option.ne_none_iff_exists'.mp parent with ⟨dataset, parentFound⟩
  have locked : store.lockDatasetThenUpload request.uploadId = some (dataset, row) := by
    have ofRow : store.datasets row.datasetId = some dataset := by
      rw [reservation]
      exact parentFound
    simp only [lockDatasetThenUpload, found, ofRow]
  have generation : row.generation = owned.generation :=
    congrArg DatasetReservation.generation reservation
  have current : ¬(row.status ≠ .finalizing ∨ row.generation ≠ owned.generation ∨
      row.finalizationToken ≠ some token) := by
    rw [not_or, not_or, not_not, not_not, not_not]
    exact ⟨finalizing, generation, held⟩
  let committed := store.commit request.uploadId (row.complete store.clock)
    (dataset.finalize sizeBytes sha256 row.toDatasetReservation snapshot)
  have commits : advanceDatasetFinalizer sizeBytes sha256 settings storage prepare request token
      store .works (fun _ => .works) (.committing owned content snapshot published) =
        (.removingStaging owned false false, committed) := by
    simp only [advanceDatasetFinalizer, commitDatasetFinalization, locked, if_neg current]
    rfl
  have removes : advanceDatasetFinalizer sizeBytes sha256 settings storage prepare request token
      committed .works (fun _ => .works) (.removingStaging owned false false) =
        (.answered (some (.ok owned.datasetId)),
          (committed.deleteObject owned.temporaryObjectKey .works).2) := rfl
  have completed : committed.sessions request.uploadId = some (row.complete store.clock) :=
    sessions_commit ..
  rw [finalizesAlone_step rfl commits 1, finalizesAlone_step rfl removes 0]
  exact ⟨row.complete store.clock, completed, rfl⟩

/-- A finalization of a pending session without canonical objects completes it, when nothing
fails and nothing comes between its moves. -/
theorem finalizesAlone_completes (sound : store.Sound settings)
    (finalizable : Finalizable sizeBytes sha256 storage prepare store request.user row content
      snapshot)
    (found : store.sessions request.uploadId = some row) (pending : row.status = .pending)
    (free : ∀ role, store.objects (row.canonicalObjectKey role) = none) :
    ∃ next, (finalizesAlone sizeBytes sha256 settings storage prepare request token .requested
        store 21).2.sessions request.uploadId = some next ∧ next.status = .completed := by
  have begins : ∃ dataset, store.datasets row.datasetId = some dataset ∧
      beginDatasetFinalization settings storage store request token = _ :=
    begin_finalizable sound finalizable found pending
  rcases begins with ⟨dataset, parent, begun⟩
  have valid := sound.keysValid request.uploadId row found
  let claimed := store.commit request.uploadId (row.claimFinalization store.clock token)
    dataset.startProcessing
  let owned := row.toDatasetReservation
  have fresh : claimed.Fresh request.uploadId token owned :=
    ⟨row.claimFinalization store.clock token, sessions_commit .., rfl, rfl, rfl, rfl, rfl⟩
  have verified : advanceDatasetFinalizer sizeBytes sha256 settings storage prepare request token
      claimed .works (fun _ => .works) (.operating owned .verify []) =
        (.operated owned (.verified content) [], claimed) := by
    have staged : claimed.objects owned.temporaryObjectKey = some content := finalizable.staged
    have size : sizeBytes content = owned.expectedSizeBytes := finalizable.size
    have digest : sha256 content = owned.expectedSha256 := finalizable.digest
    simp [advanceDatasetFinalizer, verifyDatasetUpload, staged, size, digest]
  have prepared : advanceDatasetFinalizer sizeBytes sha256 settings storage prepare request token
      claimed .works (fun _ => .works) (.operating owned (.prepare content) []) =
        (.operated owned (.prepared content snapshot) [], claimed) := by
    have made : prepare (datasetExtension owned.filename) content = .ok snapshot :=
      finalizable.prepared
    simp only [advanceDatasetFinalizer, prepareDatasetSnapshot, made]
  have begin : advanceDatasetFinalizer sizeBytes sha256 settings storage prepare request token
      store .works (fun _ => .works) .requested = (.starting owned .verify [], claimed) := begun
  have owner : claimed.datasets owned.datasetId ≠ none := by
    have self : claimed.datasets owned.datasetId = some dataset.startProcessing :=
      Function.update_self ..
    rw [self]
    exact Option.some_ne_none _
  rw [finalizesAlone_step rfl begin 20, finalizesAlone_task fresh fresh verified 17, afterTask,
    finalizesAlone_task fresh fresh prepared 14, afterTask,
    finalizesAlone_publishAll fresh valid free 2]
  exact finalizesAlone_commit (publishedStore_fresh content snapshot _ fresh)
    (by rw [(publishedStore_rows content snapshot _).1.datasets]; exact owner)

end

/-- Every pending session can be finalized: none of its canonical objects exists, and a
finalization that finds the staged upload completes it when nothing fails and nothing else
happens. -/
def PendingFinalizable (sizeBytes : Content → Nat) (sha256 : Content → String)
    (settings : DatasetSettings) (storage : StorageIdentity) (prepare : DatasetPreparation Content)
    (situation : DatasetSituation Content) : Prop :=
  ∀ uploadId row, situation.state.sessions uploadId = some row → row.status = .pending →
    (∀ role, situation.state.objects (row.canonicalObjectKey role) = none) ∧
    ∀ user token content snapshot, token ∉ situation.state.tokens →
      Finalizable sizeBytes sha256 storage prepare situation.state user row content snapshot →
      ∃ next, (run (datasetWorkforce sizeBytes sha256 settings storage prepare).step situation
          (.launch (.finalize ⟨uploadId, user⟩ token) ::
            List.replicate 21 (.proceed situation.phases.length undisturbed))).state.sessions
              uploadId = some next ∧ next.status = .completed

/-- The launch of a finalization, with its moves after it. -/
theorem launched_completes {situation : DatasetSituation Content}
    (sound : situation.state.Sound settings) {uploadId : UploadId} {user : DatasetUser}
    {token : ClaimToken} {row : DatasetUploadSession} {content : Content}
    {snapshot : DatasetSnapshot Content} (fresh : token ∉ situation.state.tokens)
    (finalizable : Finalizable sizeBytes sha256 storage prepare situation.state user row content
      snapshot)
    (found : situation.state.sessions uploadId = some row) (pending : row.status = .pending)
    (free : ∀ role, situation.state.objects (row.canonicalObjectKey role) = none) :
    ∃ next, (run (datasetWorkforce sizeBytes sha256 settings storage prepare).step situation
        (.launch (.finalize ⟨uploadId, user⟩ token) ::
          List.replicate 21 (.proceed situation.phases.length undisturbed))).state.sessions
            uploadId = some next ∧ next.status = .completed := by
  -- The launch draws the token, and leaves everything else.
  let launched : DatasetStore Content :=
    { situation.state with tokens := token :: situation.state.tokens }
  let request : FinalizeDatasetRequest := ⟨uploadId, user⟩
  let phase : DatasetFinalizePhase Content := .requested
  have launch : (datasetWorkforce sizeBytes sha256 settings storage prepare).step situation
      (.launch (.finalize request token)) =
        ⟨launched, situation.phases ++ (datasetFinalizerPhase request token phase).toList⟩ := by
    have made : (datasetWorkforce sizeBytes sha256 settings storage prepare).launch
        (.finalize request token) situation.state =
          some (.finalizer request token phase, launched) := if_neg fresh
    simp only [Workforce.step, made]
    rfl
  have soundAfter : launched.Sound settings := by
    have move : RowsMove sizeBytes sha256 settings storage none none situation.state launched :=
      .ofSame ⟨rfl, rfl, rfl, rfl⟩
    exact move.sound sound
  have finalizableAfter : Finalizable sizeBytes sha256 storage prepare launched user row content
      snapshot :=
    ⟨finalizable.unwritten, finalizable.unexpired, finalizable.stored, finalizable.mayUse,
      finalizable.staged, finalizable.size, finalizable.digest, finalizable.prepared⟩
  have alone := Workforce.run_last (datasetWorkforce sizeBytes sha256 settings storage prepare)
    situation.phases (List.replicate 21 undisturbed) (datasetFinalizerPhase request token phase)
    launched
  rw [run_cons, launch, ← List.map_replicate, alone]
  have completes : ∃ next, (finalizesAlone sizeBytes sha256 settings storage prepare request token
      phase launched 21).2.sessions request.uploadId = some next ∧ next.status = .completed :=
    finalizesAlone_completes soundAfter finalizableAfter found pending free
  exact completes

theorem pendingFinalizable_of_tidy {situation : DatasetSituation Content}
    (coherent : DatasetSituation.Coherent sizeBytes sha256 settings situation)
    (tidy : situation.state.Tidy) :
    PendingFinalizable sizeBytes sha256 settings storage prepare situation := by
  intro uploadId row found pending
  have free := tidy.pending uploadId row found pending
  exact ⟨free, fun user token content snapshot fresh finalizable =>
    launched_completes coherent.store.sound fresh finalizable found pending free⟩

/-- In every run in which no publication under its claim raises after its object has become
visible, every pending session can be finalized. -/
theorem pending_finalizable (prepare : DatasetPreparation Content)
    {events : List (DatasetEvent Content)}
    (clean : Along (datasetWorkforce sizeBytes sha256 settings storage prepare).step
      (fun situation event => leavesOrphan situation event = false) ⟨.empty, []⟩ events) :
    PendingFinalizable sizeBytes sha256 settings storage prepare
      (datasetRun sizeBytes sha256 settings storage prepare events) := by
  apply pendingFinalizable_of_tidy (datasetRun_coherent prepare events)
  have start : DatasetStore.Tidy (⟨.empty, []⟩ : DatasetSituation Content).state ∧
      ∀ phase ∈ (⟨.empty, []⟩ : DatasetSituation Content).phases,
        phase.Tidy (⟨.empty, []⟩ : DatasetSituation Content).state :=
    ⟨.empty, List.forall_mem_nil _⟩
  have along := clean.withInvariant (DatasetSituation.Coherent sizeBytes sha256 settings)
    (fun _ event coherent => coherent.step storage prepare event) .empty
  exact ((tidyPreserves prepare).run start along).1

end

/-! ## A run that leaves an object behind, and one that does not -/

namespace DatasetSample

def settings : DatasetSettings where
  uploadMaxBytes := 100
  ownerMaxSessions := 2
  ownerMaxBytes := 50
  uploadTtl := 3600
  uploadWriteStale := 300
  finalizingStale := 1800
  cleanupGrace := 7200
  lateWriterGrace := 7200
  confirmationGrace := 60
  cleanupClaimStale := 900

def storage : StorageIdentity := ⟨.s3, "bucket"⟩

def sizeBytes (content : Nat) : Nat := content

def sha256 (_ : Nat) : String := "digest"

def prepare : DatasetPreparation Nat := fun _ verified =>
  .ok ⟨verified + 1, verified + 2, verified + 3, 0⟩

def request : DatasetUploadInitRequest where
  ownerId := "ada"
  idempotencyKey := "voice-0001"
  document := ⟨"voice", "voice.zip", "application/zip", 5, "digest"⟩

def moves (count : Nat) : List (DatasetEvent Nat) := List.replicate count (.proceed 0 undisturbed)

def publishing : List (DatasetEvent Nat) :=
  .launch (.init request) :: moves 2 ++
    .launch (.put ⟨.staging 0 0, 5, "digest", seconds 301⟩ 5) :: moves 1 ++
    .launch (.finalize ⟨0, ⟨"ada", false⟩⟩ 7) :: moves 8

def failing (outcome : DatasetOutcome) : List (DatasetEvent Nat) :=
  publishing ++ .proceed 0 (.go outcome (fun _ => .works) 0 0 0) :: moves 3

def run (events : List (DatasetEvent Nat)) : DatasetSituation Nat :=
  datasetRun sizeBytes sha256 settings storage prepare events

/-- The original is published by a request that raises. The session is pending again, its
original is there, and the next finalization fails on it. -/
theorem orphan_blocks :
    ((run (failing (.storageRaises true))).state.sessions 0).map
        (fun row => (row.status, row.originalObjectKey)) =
      some (.pending, .verified 0 0 .original ".zip") ∧
    (run (failing (.storageRaises true))).state.objects (.verified 0 0 .original ".zip") =
      some 5 ∧
    ((run (failing (.storageRaises true) ++ .launch (.finalize ⟨0, ⟨"ada", false⟩⟩ 8) ::
      moves 21)).state.sessions 0).map (·.status) = some .pending := by
  decide +kernel

theorem orphan_not_finalizable :
    ¬PendingFinalizable sizeBytes sha256 settings storage prepare
      (run (failing (.storageRaises true))) := by
  intro finalizable
  rcases orphan_blocks with ⟨row, present, -⟩
  rcases Option.map_eq_some_iff.mp row with ⟨row, found, same⟩
  have free := (finalizable 0 row found (congrArg Prod.fst same)).1 .original
  rw [show row.canonicalObjectKey .original = .verified 0 0 .original ".zip" from
    congrArg Prod.snd same, present] at free
  nomatch free

/-- Without the effect, the session can be finalized. -/
theorem retry_finalizable :
    PendingFinalizable sizeBytes sha256 settings storage prepare
      (run (failing (.storageRaises false))) :=
  pending_finalizable prepare (by decide +kernel)

end DatasetSample

end RvcOrchestrator.Manager

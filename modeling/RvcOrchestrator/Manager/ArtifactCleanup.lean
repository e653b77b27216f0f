import RvcOrchestrator.Manager.ArtifactSafety

/-! # When a cleaned-up session has left nothing behind -/

namespace RvcOrchestrator.Manager

open RvcOrchestrator.Foundation RvcOrchestrator.Contracts

variable {Content : Type}

/-! ## What the condition is about -/

namespace ObjectKey

def uploadId : ObjectKey → UploadId
  | .staging _ uploadId | .verified _ _ _ uploadId => uploadId

def kind : ObjectKey → CleanupKind
  | .staging _ _ => .staging
  | .verified _ _ _ _ => .canonical

end ObjectKey

def OperationOutcome.stores : OperationOutcome → Bool
  | .works => true
  | .storageRaises effective | .timesOut effective => effective
  | .spoolRaises _ => false

namespace ArtifactPhase

def storesAt (sizeBytes : Content → Nat) : ArtifactChoice → ArtifactPhase Content →
    Option ObjectKey
  | .go _ outcome _, .finalizer _ _ (.publishing owned _) =>
      if outcome.stores then some owned.canonicalObjectKey else none
  | .go _ outcome _, .presigned _ owned _ =>
      if outcome.stores then some owned.temporaryObjectKey else none
  | .go _ outcome _, .writer _ _ (.writing owned content) =>
      match outcome with
      | .works | .spoolRaises _ =>
          if sizeBytes content = owned.expectedSizeBytes then some owned.temporaryObjectKey
          else none
      | outcome => if outcome.stores then some owned.temporaryObjectKey else none
  | _, _ => none

def removing : ArtifactPhase Content → Option (UploadId × CleanupKind)
  | .cleaner uploadId _ (.deleted _ kind action true _)
  | .cleaner uploadId _ (.recording _ kind action true _) =>
      if action = .first then none else some (uploadId, kind)
  | _ => none

def marksUnseen : ArtifactChoice → ArtifactPhase Content → Option UploadId
  | .go _ _ _, .finalizer request _ (.marking _) => some request.uploadId
  | _, _ => none

def worksOn (uploadId : UploadId) : ArtifactPhase Content → Bool
  | .finalizer request _ _ => request.uploadId = uploadId
  | .writer other _ _ | .presigned other _ _ => other = uploadId
  | .cleaner _ _ _ => false

end ArtifactPhase

/-- No later pass will visit the key: its removal is recorded, or a cleaner that still has
its claim is about to record it. -/
def settled (situation : ArtifactSituation Content) (key : ObjectKey) : Bool :=
  (situation.state.sessions key.uploadId).any fun row =>
    row.status.Abandoned && ((row.marks key.kind).completedAt.isSome ||
      situation.phases.any fun phase =>
        phase.removing = some (key.uploadId, key.kind) && row.cleanupToken = phase.name)

/-- Nothing is stored where no later pass will visit it, and a canonical object is recorded
as not required only where there is none. -/
def leavesNothing (sizeBytes : Content → Nat) (situation : ArtifactSituation Content) :
    ArtifactEvent Content → Bool
  | .proceed place choice =>
      situation.phases[place]?.all fun phase =>
        ((ArtifactPhase.storesAt sizeBytes choice phase).all fun key => !settled situation key) &&
          (phase.marksUnseen choice).all fun uploadId =>
            (situation.state.sessions uploadId).all fun row =>
              (situation.state.objects row.canonicalObjectKey).isNone
  | _ => true

/-- A session that came to nothing, is cleaned up by its markers and has no finalizer or
uploader left has no object left. -/
def CleanedUp (situation : ArtifactSituation Content) : Prop :=
  ∀ uploadId row, situation.state.sessions uploadId = some row → row.status.Abandoned →
    row.stagingCleanup.completedAt ≠ none → row.canonicalCleanup.completedAt ≠ none →
    (∀ phase ∈ situation.phases, phase.worksOn uploadId = false) →
    situation.state.objects row.temporaryObjectKey = none ∧
      situation.state.objects row.canonicalObjectKey = none

open ArtifactStore UploadSession

section

variable {sizeBytes : Content → Nat} {sha256 : Content → String} {settings : ArtifactSettings}
  {storage : StorageIdentity} {store store' : ArtifactStore Content} {request : FinalizeRequest}
  {uploadId : UploadId} {token : ClaimToken} {now : Time} {outcome : OperationOutcome}
  {artifactId : UploadArtifactId} {key other : ObjectKey}

/-! ## What a move stores -/

theorem writeObject_absent {content : Content} (absent : store.objects other = none)
    (different : other ≠ key) : (store.writeObject key content).objects other = none :=
  (Function.update_of_ne different ..).trans absent

theorem storeVerifiedFile_absent {content : Content} (absent : store.objects other = none)
    (different : outcome.stores = true → other ≠ key) :
    (storeVerifiedFile store key content outcome).2.objects other = none := by
  unfold storeVerifiedFile
  split
  · split
    · exact absent
    · exact writeObject_absent absent (different rfl)
  · split
    · next effective stored =>
        rw [Bool.and_eq_true] at stored
        exact writeObject_absent absent (different stored.1)
    · exact absent
  · split
    · next effective stored =>
        rw [Bool.and_eq_true] at stored
        exact writeObject_absent absent (different stored.1)
    · exact absent
  · exact absent

theorem deleteCurrentObject_absent (absent : store.objects other = none) :
    (deleteCurrentObject store key outcome).2.objects other = none := by
  by_cases same : other = key
  · subst same
    have deleted : (store.deleteObject other).objects other = none := Function.update_self ..
    unfold deleteCurrentObject
    split
    · exact deleted
    · exact deleted
    · split
      · exact deleted
      · exact absent
    · split
      · exact deleted
      · exact absent
  · exact (deleteCurrentObject_objects same).trans absent

theorem commitFinalization_objects :
    (commitFinalization store request token now artifactId).2.objects = store.objects := by
  have committed : (commitFinalization store request token now artifactId).2 = store ∨
      Commits request.uploadId store (commitFinalization store request token now artifactId).2 :=
    commitFinalization_store
  rcases committed with same | ⟨_, _, _, _, _, _, _, _, same⟩
  · rw [same]
  · rw [same]

theorem writeUploadStream_absent {owned : UploadSession} {content : Content}
    (absent : store.objects key = none)
    (unstored : ArtifactPhase.storesAt sizeBytes (.go now outcome artifactId)
      (.writer uploadId token (.writing owned content)) ≠ some key) :
    (writeUploadStream sizeBytes store owned content outcome).2.objects key = none := by
  have complete (isComplete : ¬(if sizeBytes content = owned.expectedSizeBytes then
      some owned.temporaryObjectKey else none) = some key) :
      (if sizeBytes content = owned.expectedSizeBytes then
        (WriteResult.written, store.writeObject owned.temporaryObjectKey content)
        else (.refused, store)).2.objects key = none := by
    split
    · next fits =>
        rw [if_pos fits] at isComplete
        exact writeObject_absent absent fun same => isComplete (congrArg some same.symm)
    · exact absent
  have raised {effective : Bool} (notStored : ¬(if effective = true then
      some owned.temporaryObjectKey else none) = some key) :
      (if effective = true then store.writeObject owned.temporaryObjectKey content
        else store).objects key = none := by
    split
    · next stored =>
        rw [if_pos stored] at notStored
        exact writeObject_absent absent fun same => notStored (congrArg some same.symm)
    · exact absent
  cases outcome with
  | works => exact complete unstored
  | spoolRaises failureCode => exact complete unstored
  | storageRaises effective => exact raised unstored
  | timesOut effective => exact raised unstored

/-- Where there was no object there is none after a move that stores none. -/
theorem advanceArtifactProcess_absent {choice : ArtifactChoice} {phase : ArtifactPhase Content}
    (absent : store.objects key = none)
    (unstored : ArtifactPhase.storesAt sizeBytes choice phase ≠ some key) :
    (advanceArtifactProcess sizeBytes sha256 settings storage choice phase store).2.objects key =
      none := by
  have amended {update : UploadSession → Option UploadSession} {uploadId : UploadId} :
      (store.amend uploadId update).2.objects key = none := by rw [amend_objects, absent]
  cases choice with
  | heartbeat now =>
      simp only [advanceArtifactProcess, heartbeatArtifactProcess]
      split
      · exact amended
      · exact amended
      · exact amended
      · exact amended
      · exact absent
  | go now outcome artifactId =>
      cases phase with
      | finalizer request token phase =>
          cases phase with
          | requested => exact absent
          | recovering cutoff => exact amended
          | expiring => exact amended
          | claiming owned => exact amended
          | startReading owned => exact amended
          | reading owned => exact absent
          | read owned result => exact amended
          | resetting failureCode answer => exact amended
          | checking owned content => exact absent
          | startPublishing owned content => exact amended
          | publishing owned content =>
              apply storeVerifiedFile_absent absent
              intro stores same
              apply unstored
              simp only [ArtifactPhase.storesAt, stores, if_true, same]
          | published owned succeeded => exact amended
          | removingSpool owned => exact absent
          | committing owned =>
              simp only [advanceArtifactProcess, advanceFinalizer]
              rw [commitFinalization_objects, absent]
          | failing canonicalPublished failureCode answer => exact amended
          | marking answer => exact amended
          | answered answer => exact absent
      | writer uploadId token phase =>
          cases phase with
          | requested content => exact absent
          | expiringWrite holder => exact amended
          | expiring => exact amended
          | claiming owned content => exact amended
          | startWriting owned content => exact amended
          | writing owned content => exact writeUploadStream_absent absent unstored
          | wrote result => exact amended
          | sealing => exact amended
          | clearing => exact amended
          | timingOut => exact amended
          | losing => exact amended
          | ended => exact absent
      | presigned uploadId owned content =>
          apply storeVerifiedFile_absent absent
          intro stores same
          apply unstored
          simp only [ArtifactPhase.storesAt, stores, if_true, same]
      | cleaner uploadId token phase =>
          cases phase with
          | selecting started => exact absent
          | claiming started => exact amended
          | loading started => exact absent
          | mismatched candidate => exact amended
          | starting candidate actions =>
              cases actions with
              | nil => exact absent
              | cons action later => exact amended
          | deleting candidate kind action later => exact deleteCurrentObject_absent absent
          | deleted candidate kind action succeeded later => exact amended
          | recording candidate kind action succeeded later => exact amended
          | releasing => exact amended
          | ended => exact absent

/-! ## What a cleaner has removed -/

/-- An object of an abandoned session that is recorded as cleaned up is not there. -/
def ArtifactStore.Clean (store : ArtifactStore Content) : Prop :=
  ∀ uploadId row kind, store.sessions uploadId = some row → row.status.Abandoned →
    (row.marks kind).completedAt ≠ none → store.objects (row.objectKey kind) = none

def ArtifactPhase.Removed (store : ArtifactStore Content) (phase : ArtifactPhase Content) : Prop :=
  ∀ uploadId kind row, phase.removing = some (uploadId, kind) →
    store.sessions uploadId = some row → row.status.Abandoned → row.cleanupToken = phase.name →
    store.objects (row.objectKey kind) = none

theorem removing_eq {phase : ArtifactPhase Content} {kind : CleanupKind}
    (removes : phase.removing = some (uploadId, kind)) :
    ∃ token candidate action later, action ≠ .first ∧
      (phase = .cleaner uploadId token (.deleted candidate kind action true later) ∨
        phase = .cleaner uploadId token (.recording candidate kind action true later)) := by
  unfold ArtifactPhase.removing at removes
  split at removes
  · simp only [Option.ite_none_left_eq_some, Option.some.injEq, Prod.mk.injEq] at removes
    rcases removes with ⟨final, rfl, rfl⟩
    exact ⟨_, _, _, _, final, .inl rfl⟩
  · simp only [Option.ite_none_left_eq_some, Option.some.injEq, Prod.mk.injEq] at removes
    rcases removes with ⟨final, rfl, rfl⟩
    exact ⟨_, _, _, _, final, .inr rfl⟩
  · nomatch removes

/-- The session that a cleaner removes an object of had come to an end before. -/
theorem abandoned_of_removing {phase : ArtifactPhase Content} {kind : CleanupKind}
    {row row' : UploadSession} (fits : phase.Fits store)
    (removes : phase.removing = some (uploadId, kind))
    (found : store.sessions uploadId = some row)
    (absorbing : row.status.Terminal → row'.status = row.status)
    (abandoned : row'.status.Abandoned) : row.status.Abandoned := by
  rcases removing_eq removes with ⟨token, candidate, action, later, -, same⟩
  have ended : candidate.status.Terminal ∧ store.Reads uploadId candidate := by
    rcases same with rfl | rfl
    · exact ⟨(fits.due _ _ _ rfl candidate rfl kind action List.mem_cons_self).1,
        fits.reads uploadId candidate rfl⟩
    · exact ⟨(fits.due _ _ _ rfl candidate rfl kind action List.mem_cons_self).1,
        fits.reads uploadId candidate rfl⟩
  rcases ended with ⟨terminal, row₀, found₀, -, same₀⟩
  rcases Option.some.inj (found₀.symm.trans found) with rfl
  have rowTerminal : row₀.status.Terminal := same₀ terminal ▸ terminal
  exact absorbing rowTerminal ▸ abandoned

theorem ArtifactStore.Clean.advances {claimant : Option ClaimToken} {mark : Option (UploadId × CleanupKind)}
    (clean : store.Clean) (sound : store.Sound) (advances : Advances claimant mark store store')
    (kept : ∀ uploadId row kind, store.sessions uploadId = some row → row.status.Abandoned →
      (row.marks kind).completedAt ≠ none → store.objects (row.objectKey kind) = none →
      store'.objects (row.objectKey kind) = none)
    (marked : ∀ uploadId row kind, mark = some (uploadId, kind) →
      store.sessions uploadId = some row → row.status.Abandoned →
      store'.objects (row.objectKey kind) = none) : store'.Clean := by
  intro uploadId row' kind found' abandoned completed
  rcases advances.past uploadId row' found' with ⟨row, found, amends⟩
  rw [objectKey_of_declared amends.declared]
  rcases amends.marks kind completed with before | ⟨isMark, terminal⟩
  · have terminal : row.status.Terminal := (sound.consistent uploadId row found).cleaned kind before
    have abandonedBefore : row.status.Abandoned := amends.absorbing terminal ▸ abandoned
    exact kept uploadId row kind found abandonedBefore before
      (clean uploadId row kind found abandonedBefore before)
  · exact marked uploadId row kind isMark found (amends.absorbing terminal ▸ abandoned)

theorem ArtifactPhase.Removed.advances {claimant : Option ClaimToken} {mark : Option (UploadId × CleanupKind)}
    {phase : ArtifactPhase Content} (removed : phase.Removed store) (fits : phase.Fits store)
    (advances : Advances claimant mark store store')
    (elsewhere : ∀ token, claimant = some token → phase.removing ≠ none →
      phase.name ≠ some token)
    (kept : ∀ uploadId row kind, phase.removing = some (uploadId, kind) →
      store.sessions uploadId = some row → row.status.Abandoned → row.cleanupToken = phase.name →
      store.objects (row.objectKey kind) = none → store'.objects (row.objectKey kind) = none) :
    phase.Removed store' := by
  intro uploadId kind row' removes found' abandoned held
  rcases advances.past uploadId row' found' with ⟨row, found, amends⟩
  have abandonedBefore : row.status.Abandoned :=
    abandoned_of_removing fits removes found amends.absorbing abandoned
  rcases removing_eq removes with ⟨token, candidate, action, later, -, same⟩
  have named : phase.name = some token := by
    rcases same with rfl | rfl
    · rfl
    · rfl
  have heldBefore : row.cleanupToken = phase.name := by
    rw [named] at held ⊢
    rcases amends.cleanup token held with before | claims
    · exact before
    · exact absurd named (elsewhere token claims (by rw [removes]; exact Option.some_ne_none _))
  rw [objectKey_of_declared amends.declared]
  exact kept uploadId row kind removes found abandonedBefore heldBefore
    (removed uploadId kind row removes found abandonedBefore heldBefore)

/-- A session that is abandoned after a commit was so before, with the same row. -/
theorem ArtifactStore.Commits.abandoned {completedId : UploadId} (commits : Commits completedId store store')
    {row' : UploadSession} (found' : store'.sessions uploadId = some row')
    (abandoned : row'.status.Abandoned) : store.sessions uploadId = some row' := by
  rcases commits with ⟨token, now, artifactId, row, completed, found, updated, -, rfl⟩
  change Function.update store.sessions completedId (some completed) uploadId = some row' at found'
  by_cases same : uploadId = completedId
  · subst same
    rw [Function.update_self] at found'
    rcases Option.some.inj found' with rfl
    rcases completeUpload_eq updated with ⟨-, -, -, status, -⟩
    rw [status] at abandoned
    rcases abandoned with failed | expired
    · nomatch failed
    · nomatch expired
  · rw [Function.update_of_ne same] at found'
    exact found'

theorem ArtifactStore.Commits.objects {completedId : UploadId} (commits : Commits completedId store store') :
    store'.objects = store.objects := by
  rcases commits with ⟨_, _, _, _, _, _, _, _, rfl⟩
  rfl

/-! ## What the condition gives -/

variable {situation : ArtifactSituation Content} {phase : ArtifactPhase Content}
  {choice : ArtifactChoice} {place : Nat}

theorem objectKey_uploadId (sound : store.Sound) {row : UploadSession}
    (found : store.sessions uploadId = some row) (kind : CleanupKind) :
    (row.objectKey kind).uploadId = uploadId ∧ (row.objectKey kind).kind = kind := by
  cases kind with
  | canonical =>
      have key : row.objectKey .canonical = _ := sound.canonicalKeys uploadId row found
      rw [key]
      exact ⟨rfl, rfl⟩
  | staging =>
      have key : row.objectKey .staging = _ := sound.temporaryKeys uploadId row found
      rw [key]
      exact ⟨rfl, rfl⟩

theorem settled_eq_true (sound : situation.state.Sound) {row : UploadSession} {kind : CleanupKind}
    (found : situation.state.sessions uploadId = some row) (abandoned : row.status.Abandoned)
    (final : (row.marks kind).completedAt ≠ none ∨ ∃ remover ∈ situation.phases,
      remover.removing = some (uploadId, kind) ∧ row.cleanupToken = remover.name) :
    settled situation (row.objectKey kind) = true := by
  rcases objectKey_uploadId sound found kind with ⟨sameId, sameKind⟩
  simp only [settled, sameId, sameKind, found, Option.any_some, Bool.and_eq_true,
    decide_eq_true_eq, Bool.or_eq_true, List.any_eq_true]
  refine ⟨abandoned, ?_⟩
  rcases final with marked | ⟨remover, member, removes, held⟩
  · exact .inl (Option.isSome_iff_ne_none.mpr marked)
  · exact .inr ⟨remover, member, removes, held⟩

theorem unstored_of_settled (found : situation.phases[place]? = some phase)
    (meets : leavesNothing sizeBytes situation (.proceed place choice) = true)
    (isSettled : settled situation key = true) :
    ArtifactPhase.storesAt sizeBytes choice phase ≠ some key := by
  intro stores
  simp only [leavesNothing, found, Option.all_some, Bool.and_eq_true, stores] at meets
  rw [isSettled] at meets
  nomatch meets.1

theorem unseen_absent (found : situation.phases[place]? = some phase)
    (meets : leavesNothing sizeBytes situation (.proceed place choice) = true)
    (marks : phase.marksUnseen choice = some uploadId) {row : UploadSession}
    (held : situation.state.sessions uploadId = some row) :
    situation.state.objects row.canonicalObjectKey = none := by
  simp only [leavesNothing, found, Option.all_some, Bool.and_eq_true, marks, held] at meets
  exact Option.isNone_iff_eq_none.mp meets.2

/-- Under the condition a move brings back no object that is settled. -/
theorem settled_stays_absent (found : situation.phases[place]? = some phase)
    (meets : leavesNothing sizeBytes situation (.proceed place choice) = true)
    (sound : situation.state.Sound) {row : UploadSession} {kind : CleanupKind}
    (held : situation.state.sessions uploadId = some row) (abandoned : row.status.Abandoned)
    (final : (row.marks kind).completedAt ≠ none ∨ ∃ remover ∈ situation.phases,
      remover.removing = some (uploadId, kind) ∧ row.cleanupToken = remover.name)
    (absent : situation.state.objects (row.objectKey kind) = none) :
    (advanceArtifactProcess sizeBytes sha256 settings storage choice phase
      situation.state).2.objects (row.objectKey kind) = none :=
  advanceArtifactProcess_absent absent
    (unstored_of_settled found meets (settled_eq_true sound held abandoned final))

/-! ## Steps -/

theorem mark_eq {kind : CleanupKind} (marks : phase.mark = some (uploadId, kind)) :
    (∃ request token answer, phase = .finalizer request token (.marking answer) ∧
      request.uploadId = uploadId ∧ kind = .canonical) ∨
    ∃ token candidate action later, phase.removing = some (uploadId, kind) ∧
      phase = .cleaner uploadId token (.recording candidate kind action true later) := by
  unfold ArtifactPhase.mark at marks
  split at marks
  · rcases marks
    exact .inl ⟨_, _, _, rfl, rfl, rfl⟩
  · next other token candidate kind' action later =>
      have removes : (ArtifactPhase.cleaner other token
          (.recording candidate kind' action true later) : ArtifactPhase Content).removing =
          some (uploadId, kind) := marks
      simp only [Option.ite_none_left_eq_some, Option.some.injEq, Prod.mk.injEq] at marks
      rcases marks with ⟨-, rfl, rfl⟩
      exact .inr ⟨token, candidate, action, later, removes, rfl⟩
  · nomatch marks

theorem removing_of_claimant {claimToken : ClaimToken} (claims : phase.claimant = some claimToken) :
    phase.removing = none := by
  unfold ArtifactPhase.claimant at claims
  split at claims
  · rfl
  · rfl
  · nomatch claims

theorem clean_moved (sound : situation.state.Sound) (fits : phase.Fits situation.state)
    (removed : phase.Removed situation.state) (clean : situation.state.Clean)
    (found : situation.phases[place]? = some phase)
    (meets : leavesNothing sizeBytes situation (.proceed place choice) = true) :
    (advanceArtifactProcess sizeBytes sha256 settings storage choice phase
      situation.state).2.Clean := by
  have kept (uploadId : UploadId) (row : UploadSession) (kind : CleanupKind)
      (held : situation.state.sessions uploadId = some row) (abandoned : row.status.Abandoned)
      (marked : (row.marks kind).completedAt ≠ none)
      (absent : situation.state.objects (row.objectKey kind) = none) :
      (advanceArtifactProcess sizeBytes sha256 settings storage choice phase
        situation.state).2.objects (row.objectKey kind) = none :=
    settled_stays_absent found meets sound held abandoned (.inl marked) absent
  by_cases superseded : phase.Superseded situation.state
  · rcases superseded with ⟨kind, uploadId, token, claimed, unclaimed⟩
    have advances : Advances none none situation.state (advanceArtifactProcess sizeBytes sha256
        settings storage choice phase situation.state).2 :=
      .ofObjects (advanceArtifactProcess_idle claimed unclaimed).1
    exact clean.advances sound advances kept fun _ _ _ none => nomatch none
  cases choice with
  | heartbeat now =>
      have advances : Advances none none situation.state
          (heartbeatArtifactProcess now situation.state phase) :=
        heartbeatArtifactProcess_store phase
      exact clean.advances sound advances kept fun _ _ _ none => nomatch none
  | go now outcome artifactId =>
      rcases advanceArtifactProcess_store fits with advances | ⟨_, _, _, -, commits⟩
      · apply clean.advances sound advances kept
        intro uploadId row kind isMark held abandoned
        rcases mark_eq isMark with
          ⟨request, token, answer, rfl, rfl, rfl⟩ | ⟨token, candidate, action, later, removes, rfl⟩
        · apply advanceArtifactProcess_absent
          · exact unseen_absent found meets rfl held
          · intro stores
            nomatch stores
        · have owned : row.cleanupToken = some token := by
            by_contra lost
            apply superseded
            refine ⟨.cleanup, uploadId, token, rfl, ?_⟩
            intro other otherHeld
            rcases Option.some.inj (held.symm.trans otherHeld) with rfl
            exact lost
          have absent := removed uploadId kind row removes held abandoned owned
          apply settled_stays_absent found meets sound held abandoned _ absent
          exact .inr ⟨_, List.mem_of_getElem? found, removes, owned⟩
      · intro uploadId row kind held abandoned marked
        rw [commits.objects]
        exact clean uploadId row kind (commits.abandoned held abandoned) abandoned marked

/-- What another process has removed stays away, and so does what the mover had removed. -/
theorem removed_moved {other : ArtifactPhase Content} (sound : situation.state.Sound)
    (named : Workforce.Named ArtifactPhase.name (fun store token => token ∈ store.tokens) situation)
    (fits : phase.Fits situation.state) (member : other ∈ situation.phases)
    (otherFits : other.Fits situation.state) (removed : other.Removed situation.state)
    (found : situation.phases[place]? = some phase)
    (meets : leavesNothing sizeBytes situation (.proceed place choice) = true) :
    other.Removed (advanceArtifactProcess sizeBytes sha256 settings storage choice phase
      situation.state).2 := by
  rcases advanceArtifactProcess_store fits with advances | ⟨_, _, _, -, commits⟩
  · apply removed.advances otherFits advances
    · intro token claims removes isName
      have same : other = phase := named.eq member (List.mem_of_getElem? found) isName
        (ArtifactPhase.name_of_claimant claims)
      rw [same] at removes
      exact removes (removing_of_claimant claims)
    · intro uploadId row kind removes held abandoned owned absent
      exact settled_stays_absent found meets sound held abandoned
        (.inr ⟨other, member, removes, owned⟩) absent
  · intro uploadId kind row removes held abandoned owned
    rw [commits.objects]
    exact removed uploadId kind row removes (commits.abandoned held abandoned) abandoned owned

/-- A cleaner is removing an object only after it has deleted it. -/
theorem advanceCleaner_removing {cleaner : CleanupPhase} {kind : CleanupKind}
    (removes : (ArtifactPhase.cleaner uploadId token (advanceCleaner settings storage uploadId token
      store now outcome cleaner).1 : ArtifactPhase Content).removing = some (uploadId, kind)) :
    (ArtifactPhase.cleaner uploadId token cleaner : ArtifactPhase Content).removing =
        some (uploadId, kind) ∨
      ∃ candidate action later, cleaner = .deleting candidate kind action later ∧
        (advanceCleaner settings storage uploadId token store now outcome cleaner).2.objects
          (candidate.objectKey kind) = none := by
  have amended {update : UploadSession → Option UploadSession} {found missed : CleanupPhase}
      (removes : (ArtifactPhase.cleaner uploadId token
        (amending store uploadId update found missed).1 : ArtifactPhase Content).removing =
          some (uploadId, kind)) :
      (ArtifactPhase.cleaner uploadId token found : ArtifactPhase Content).removing =
          some (uploadId, kind) ∨
        (ArtifactPhase.cleaner uploadId token missed : ArtifactPhase Content).removing =
          some (uploadId, kind) :=
    amending_fst (fun phase : CleanupPhase => (ArtifactPhase.cleaner uploadId token phase :
      ArtifactPhase Content).removing = some (uploadId, kind)) removes
  cases cleaner with
  | selecting started =>
      simp only [advanceCleaner] at removes
      split at removes <;> cases removes
  | claiming started => rcases amended removes with same | same <;> cases same
  | loading started =>
      simp only [advanceCleaner, loadCandidate] at removes
      split at removes
      · cases removes
      · split at removes <;> cases removes
  | mismatched candidate => rcases amended removes with same | same <;> cases same
  | starting candidate actions =>
      cases actions with
      | nil => cases removes
      | cons action later => rcases amended removes with same | same <;> cases same
  | deleting candidate kind' action later =>
      cases outcome with
      | works =>
          have isKind : kind' = kind := by
            simp only [advanceCleaner, deleteCurrentObject, ArtifactPhase.removing,
              Option.ite_none_left_eq_some, Option.some.injEq, Prod.mk.injEq] at removes
            exact removes.2.2
          subst isKind
          exact .inr ⟨candidate, action, later, rfl, Function.update_self ..⟩
      | spoolRaises failureCode =>
          have isKind : kind' = kind := by
            simp only [advanceCleaner, deleteCurrentObject, ArtifactPhase.removing,
              Option.ite_none_left_eq_some, Option.some.injEq, Prod.mk.injEq] at removes
            exact removes.2.2
          subst isKind
          exact .inr ⟨candidate, action, later, rfl, Function.update_self ..⟩
      | storageRaises effective => cases removes
      | timesOut effective => cases removes
  | deleted candidate kind' action succeeded later =>
      rcases amended removes with same | missed
      · cases succeeded with
        | true => exact .inl same
        | false => cases same
      · cases missed
  | recording candidate kind' action succeeded later =>
      rcases amended removes with same | same <;> cases same
  | releasing => rcases amended removes with same | same <;> cases same
  | ended => cases removes

theorem removed_next {next : ArtifactPhase Content} (fits : phase.Fits store)
    (kept : phase.Removed (advanceArtifactProcess sizeBytes sha256 settings storage choice phase
      store).2)
    (advanced : (advanceArtifactProcess sizeBytes sha256 settings storage choice phase
      store).1 = some next) :
    next.Removed (advanceArtifactProcess sizeBytes sha256 settings storage choice phase
      store).2 := by
  intro uploadId kind row removes held abandoned owned
  have name : next.name = phase.name := advanceArtifactProcess_name advanced
  have grows : Grows store (advanceArtifactProcess sizeBytes sha256 settings storage choice phase
      store).2 := advanceArtifactProcess_grows fits
  have before (same : phase.removing = some (uploadId, kind)) :
      (advanceArtifactProcess sizeBytes sha256 settings storage choice phase store).2.objects
        (row.objectKey kind) = none :=
    kept uploadId kind row same held abandoned (owned.trans name)
  cases choice with
  | heartbeat now =>
      rcases Option.some.inj advanced with rfl
      exact before removes
  | go now outcome artifactId =>
      cases phase with
      | finalizer request token phase =>
          rw [finalizerPhase_eq advanced] at removes
          nomatch removes
      | writer other token phase =>
          rw [writerPhase_eq advanced] at removes
          nomatch removes
      | presigned other owned content => nomatch advanced
      | cleaner other token cleaner =>
          rw [cleanerPhase_eq advanced] at removes
          have isOther : other = uploadId := by
            rcases removing_eq removes with ⟨_, _, _, _, -, same | same⟩
            · injection same
            · injection same
          subst isOther
          rcases advanceCleaner_removing removes with same | ⟨candidate, action, later, rfl, absent⟩
          · exact before same
          · rcases (fits.reads other candidate rfl).grows grows with ⟨row', held', declared, -⟩
            rcases Option.some.inj (held.symm.trans held') with rfl
            rw [objectKey_of_declared declared]
            exact absent

theorem disturbArtifactStore_objects {disturbance : ArtifactDisturbance}
    (disturbed : disturbArtifactStore storage disturbance store = some store') :
    store'.objects = store.objects := by
  cases disturbance with
  | create uploadId request artifactType filename contentType size digest expiresAt now =>
      simp only [disturbArtifactStore, Option.ite_none_left_eq_some, Option.some.injEq] at disturbed
      rw [← disturbed.2]
  | recover uploadId cutoff now =>
      rcases Option.some.inj disturbed with rfl
      exact amend_objects _
  | expire uploadId now =>
      rcases Option.some.inj disturbed with rfl
      exact amend_objects _
  | expireWrite uploadId holder now =>
      rcases Option.some.inj disturbed with rfl
      exact amend_objects _
  | lease leaseId lease =>
      rcases Option.some.inj disturbed with rfl
      rfl

theorem launchArtifactProcess_removing {launch : ArtifactLaunch Content}
    (launched : launchArtifactProcess launch store = some (phase, store')) :
    phase.removing = none ∧ store'.objects = store.objects := by
  rcases launchArtifactProcess_eq launched with
    ⟨token, -, -, unread, rfl⟩ | ⟨_, upload, content, rfl, -, rfl⟩
  · refine ⟨?_, rfl⟩
    by_contra removes
    rcases Option.ne_none_iff_exists'.mp removes with ⟨⟨uploadId, kind⟩, removes⟩
    rcases removing_eq removes with ⟨_, _, _, _, -, rfl | rfl⟩
    · nomatch unread
    · nomatch unread
  · exact ⟨rfl, rfl⟩

theorem ArtifactPhase.Removed.ofNone (none : phase.removing = none) : phase.Removed store := by
  intro uploadId kind row removes
  nomatch none.symm.trans removes

end

section

variable (sizeBytes : Content → Nat) (sha256 : Content → String) (settings : ArtifactSettings)
  (storage : StorageIdentity)

theorem cleanup_preserved :
    (artifactWorkforce sizeBytes sha256 settings storage).Preserves
      (fun situation event => leavesNothing sizeBytes situation event = true ∧
        Workforce.Named ArtifactPhase.name (fun store token => token ∈ store.tokens) situation)
      (fun store => store.Sound ∧ store.Clean)
      (fun store phase => phase.Fits store ∧ phase.Removed store) where
  launched := by
    intro situation launch phase store' _ holds launched
    rcases launchArtifactProcess_store launched with ⟨advances, fits⟩
    rcases launchArtifactProcess_removing launched with ⟨unremoving, objects⟩
    refine ⟨⟨holds.1.advances advances, ?_⟩, ⟨fits, .ofNone unremoving⟩, ?_⟩
    · apply holds.2.advances holds.1 advances
      · intro _ _ _ _ _ _ absent
        rw [objects, absent]
      · exact fun _ _ _ none => nomatch none
    · intro other fitted
      refine ⟨fitted.1.grows advances.grows, ?_⟩
      apply fitted.2.advances fitted.1 advances
      · exact fun _ none => nomatch none
      · intro _ _ _ _ _ _ _ absent
        rw [objects, absent]
  moved := by
    intro situation place choice phase meets found holds fits
    have fitted := fits phase (List.mem_of_getElem? found)
    have grows : Grows situation.state (advanceArtifactProcess sizeBytes sha256 settings storage
        choice phase situation.state).2 :=
      advanceArtifactProcess_grows fitted.1
    have kept (other : ArtifactPhase Content) (member : other ∈ situation.phases) :
        other.Removed (advanceArtifactProcess sizeBytes sha256 settings storage choice phase
          situation.state).2 :=
      removed_moved holds.1 meets.2 fitted.1 member (fits other member).1 (fits other member).2 found
        meets.1
    refine ⟨⟨advanceArtifactProcess_sound _ _ _ fitted.1 holds.1,
      clean_moved holds.1 fitted.1 fitted.2 holds.2 found meets.1⟩, ?_,
      fun other member => ⟨(fits other member).1.grows grows, kept other member⟩⟩
    intro next advanced
    exact ⟨advanceArtifactProcess_fits fitted.1 advanced,
      removed_next fitted.1 (kept phase (List.mem_of_getElem? found)) advanced⟩
  disturbed := by
    intro situation disturbance store' _ holds disturbed
    have objects : store'.objects = situation.state.objects :=
      disturbArtifactStore_objects disturbed
    rcases disturbArtifactStore_sound holds.1 disturbed with ⟨sound, grows⟩
    rcases disturbArtifactStore_store disturbed with advances |
      ⟨_, _, _, _, _, _, _, _, _, creates⟩
    · refine ⟨⟨sound, ?_⟩, ?_⟩
      · apply holds.2.advances holds.1 advances
        · intro _ _ _ _ _ _ absent
          rw [objects, absent]
        · exact fun _ _ _ none => nomatch none
      · intro other fitted
        refine ⟨fitted.1.grows grows, ?_⟩
        apply fitted.2.advances fitted.1 advances
        · exact fun _ none => nomatch none
        · intro _ _ _ _ _ _ _ absent
          rw [objects, absent]
    · refine ⟨⟨sound, ?_⟩, ?_⟩
      · intro uploadId row kind found abandoned marked
        rw [objects]
        rcases creates.past found with ⟨-, rfl⟩ | ⟨-, before⟩
        · rcases abandoned with failed | expired
          · nomatch failed
          · nomatch expired
        · exact holds.2 uploadId row kind before abandoned marked
      · intro other fitted
        refine ⟨fitted.1.grows grows, ?_⟩
        intro uploadId kind row removes found abandoned owned
        rw [objects]
        rcases creates.past found with ⟨-, rfl⟩ | ⟨-, before⟩
        · rcases abandoned with failed | expired
          · nomatch failed
          · nomatch expired
        · exact fitted.2 uploadId kind row removes before abandoned owned

/-- In every run whose moves leave nothing behind, an abandoned session has no object of a
kind that is marked as cleaned up. -/
theorem artifactRun_clean {events : List (ArtifactEvent Content)}
    (along : Along (artifactWorkforce sizeBytes sha256 settings storage).step
      (fun situation event => leavesNothing sizeBytes situation event = true) ⟨.empty, []⟩ events) :
    (artifactRun sizeBytes sha256 settings storage events).state.Clean := by
  have named : Workforce.Named ArtifactPhase.name (fun store token => token ∈ store.tokens)
      (⟨.empty, []⟩ : ArtifactSituation Content) :=
    artifactRun_named sizeBytes sha256 settings storage []
  have clean : (empty : ArtifactStore Content).Clean := fun _ _ _ found => nomatch found
  have kept := (cleanup_preserved sizeBytes sha256 settings storage).run
    ⟨⟨Sound.empty, clean⟩, List.forall_mem_nil _⟩
    (along.withInvariant
      (Workforce.Named ArtifactPhase.name fun store token => token ∈ store.tokens)
      (fun _ event named => artifactWorkforce_names.step named event) named)
  exact kept.1.2

theorem cleaned_up_of_leavesNothing {events : List (ArtifactEvent Content)}
    (along : Along (artifactWorkforce sizeBytes sha256 settings storage).step
      (fun situation event => leavesNothing sizeBytes situation event = true) ⟨.empty, []⟩ events) :
    CleanedUp (artifactRun sizeBytes sha256 settings storage events) := by
  have clean := artifactRun_clean sizeBytes sha256 settings storage along
  intro uploadId row found abandoned staging canonical _
  exact ⟨clean uploadId row .staging found abandoned staging,
    clean uploadId row .canonical found abandoned canonical⟩

end

/-! ## A run that leaves an object behind, and one that does not -/

namespace UploadSample

def cleaned : List (ArtifactEvent Nat) :=
  [.launch (.clean 0 (seconds 8000) 2)] ++ proceed 8000 13 ++
    [.launch (.clean 0 (seconds 8100) 3)] ++ proceed 8100 13

/-- A finalizer publishes the canonical object and crashes. The next one recovers the session
and finds before its own publication that the lease is gone. -/
def leaking : List (ArtifactEvent Nat) :=
  uploaded ++ [.launch (.finalize request 0)] ++ proceed 2 8 ++
    [.stop 0, .launch (.finalize request 1)] ++ proceed 100 6 ++
    [.disturb (.lease 3 none)] ++ proceed 100 3 ++ cleaned

def tidy : List (ArtifactEvent Nat) :=
  uploaded ++ [.launch (.finalize request 0)] ++ proceed 2 5 ++
    [.disturb (.lease 3 none)] ++ proceed 3 3 ++ cleaned

end UploadSample

theorem canonical_object_left_behind : ¬CleanedUp (UploadSample.run UploadSample.leaking) := by
  intro cleaned
  have left := cleaned 0
  revert left
  decide +kernel

theorem cleaned_up_after_early_failure :
    ((UploadSample.run UploadSample.tidy).state.sessions 0).any (fun row =>
        row.status = .failed && row.stagingCleanup.completedAt.isSome &&
          row.canonicalCleanup.completedAt.isSome) = true ∧
      CleanedUp (UploadSample.run UploadSample.tidy) :=
  ⟨by decide +kernel,
    cleaned_up_of_leavesNothing id (fun _ => "digest") UploadSample.settings UploadSample.storage
      (by decide +kernel)⟩

end RvcOrchestrator.Manager

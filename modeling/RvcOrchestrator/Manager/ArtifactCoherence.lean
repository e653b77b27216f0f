import RvcOrchestrator.Manager.ArtifactAmendments

/-! # What holds of artifact uploads in every run -/

namespace RvcOrchestrator.Manager

open RvcOrchestrator.Foundation RvcOrchestrator.Contracts

variable {Content : Type}

/-! ## What a process holds -/

namespace FinalizePhase

def owned : FinalizePhase Content → Option UploadSession
  | .claiming owned | .startReading owned | .reading owned | .read owned _ | .checking owned _
  | .startPublishing owned _ | .publishing owned _ | .published owned _ | .removingSpool owned
  | .committing owned => some owned
  | _ => none

end FinalizePhase

namespace WritePhase

def owned : WritePhase Content → Option UploadSession
  | .claiming owned _ | .startWriting owned _ | .writing owned _ => some owned
  | _ => none

end WritePhase

namespace CleanupPhase

def candidate : CleanupPhase → Option UploadSession
  | .mismatched candidate | .starting candidate _ | .deleting candidate _ _ _
  | .deleted candidate _ _ _ _ | .recording candidate _ _ _ _ => some candidate
  | _ => none

def outstanding : CleanupPhase → List (CleanupKind × CleanupAction)
  | .starting _ actions => actions
  | .deleting _ kind action later | .deleted _ kind action _ later
  | .recording _ kind action _ later => (kind, action) :: later
  | _ => []

end CleanupPhase

namespace ArtifactPhase

def name : ArtifactPhase Content → Option ClaimToken
  | .finalizer _ token _ | .writer _ token _ | .cleaner _ token _ => some token
  | .presigned _ _ _ => none

def claimant : ArtifactPhase Content → Option ClaimToken
  | .finalizer _ token (.claiming _) | .cleaner _ token (.claiming _) => some token
  | _ => none

theorem name_of_claimant {phase : ArtifactPhase Content} {token : ClaimToken}
    (claims : phase.claimant = some token) : phase.name = some token := by
  unfold claimant at claims
  split at claims
  · exact claims
  · exact claims
  · nomatch claims

def snapshot : ArtifactPhase Content → Option (UploadId × UploadSession)
  | .finalizer request _ phase => phase.owned.map (request.uploadId, ·)
  | .writer uploadId _ phase => phase.owned.map (uploadId, ·)
  | .presigned uploadId owned _ => some (uploadId, owned)
  | .cleaner uploadId _ phase => phase.candidate.map (uploadId, ·)

def mark : ArtifactPhase Content → Option (UploadId × CleanupKind)
  | .finalizer request _ (.marking _) => some (request.uploadId, .canonical)
  | .cleaner uploadId _ (.recording _ kind action true _) =>
      if action = .first then none else some (uploadId, kind)
  | _ => none

end ArtifactPhase

/-! ## Stores that follow each other -/

namespace ArtifactStore

/-- No session disappears, and none leaves a terminal status. -/
def Grows (store store' : ArtifactStore Content) : Prop :=
  ∀ uploadId row, store.sessions uploadId = some row → ∃ row',
    store'.sessions uploadId = some row' ∧ row'.declared = row.declared ∧
      (row.status.Terminal → row'.status = row.status)

def Commits (uploadId : UploadId) (store store' : ArtifactStore Content) : Prop :=
  ∃ token now artifactId row completed, store.sessions uploadId = some row ∧
    completeUpload token now row artifactId = some completed ∧
    artifactTaken store (newArtifact row uploadId artifactId) = false ∧
    store' = { store with
      sessions := Function.update store.sessions uploadId (some completed)
      artifacts := store.artifacts ++ [newArtifact row uploadId artifactId] }

/-- The session is the one that was read as `owned`. -/
def Reads (store : ArtifactStore Content) (uploadId : UploadId) (owned : UploadSession) : Prop :=
  ∃ row, store.sessions uploadId = some row ∧ row.declared = owned.declared ∧
    (owned.status.Terminal → row.status = owned.status)

variable {store store' last : ArtifactStore Content} {uploadId : UploadId}
  {owned : UploadSession}

theorem Grows.refl : Grows store store := fun _ row found =>
  ⟨row, found, rfl, fun _ => rfl⟩

theorem Grows.trans (first : Grows store store') (second : Grows store' last) :
    Grows store last := by
  intro uploadId row found
  rcases first uploadId row found with ⟨row', found', declared, absorbing⟩
  rcases second uploadId row' found' with ⟨row'', found'', declared', absorbing'⟩
  refine ⟨row'', found'', declared'.trans declared, ?_⟩
  intro terminal
  exact (absorbing' (absorbing terminal ▸ terminal)).trans (absorbing terminal)

theorem Reads.ofFound (found : store.sessions uploadId = some owned) : store.Reads uploadId owned :=
  ⟨owned, found, rfl, fun _ => rfl⟩

theorem Reads.grows (reads : store.Reads uploadId owned) (grows : Grows store store') :
    store'.Reads uploadId owned := by
  rcases reads with ⟨row, found, declared, absorbing⟩
  rcases grows uploadId row found with ⟨row', found', declared', absorbing'⟩
  refine ⟨row', found', declared'.trans declared, ?_⟩
  intro terminal
  have same : row.status = owned.status := absorbing terminal
  exact (absorbing' (same ▸ terminal)).trans same

theorem Advances.grows {claimant : Option ClaimToken} {mark : Option (UploadId × CleanupKind)}
    (advances : Advances claimant mark store store') : Grows store store' := by
  intro uploadId row found
  rcases advances.kept uploadId row found with ⟨row', found', amends⟩
  exact ⟨row', found', amends.declared, amends.absorbing⟩

theorem completeUpload_eq {token : ClaimToken} {now : Time} {row completed : UploadSession}
    {artifactId : UploadArtifactId}
    (updated : completeUpload token now row artifactId = some completed) :
    row.status = .finalizing ∧ row.finalizationToken = some token ∧
      completed.declared = row.declared ∧ completed.status = .completed ∧
      completed.artifactId = some artifactId ∧ completed.dedupeKey = row.dedupeKey ∧
      completed.finalizationToken = none ∧ completed.cleanupToken = row.cleanupToken ∧
      completed.marks = row.marks := by
  simp only [completeUpload, Option.ite_none_right_eq_some, Option.some.injEq] at updated
  rcases updated with ⟨⟨finalizing, owned⟩, rfl⟩
  exact ⟨finalizing, owned, rfl, rfl, rfl, rfl, rfl, rfl, rfl⟩

theorem Commits.grows (commits : Commits uploadId store store') : Grows store store' := by
  rcases commits with ⟨token, now, artifactId, row, completed, found, updated, -, rfl⟩
  rcases completeUpload_eq updated with ⟨finalizing, -, declared, -⟩
  intro other before other_found
  by_cases same : other = uploadId
  · subst same
    rcases Option.some.inj (found.symm.trans other_found) with rfl
    refine ⟨completed, Function.update_self .., declared, ?_⟩
    intro terminal
    exact absurd terminal (open_of_finalizing finalizing)
  · exact ⟨before, (Function.update_of_ne same ..).trans other_found, rfl, fun _ => rfl⟩

/-- A session that a finalization is committed for was not completed, and then is. -/
theorem Commits.completes (commits : Commits uploadId store store') :
    (∃ row, store.sessions uploadId = some row ∧ row.status = .finalizing) ∧
      ∃ row', store'.sessions uploadId = some row' ∧ row'.status = .completed := by
  rcases commits with ⟨token, now, artifactId, row, completed, found, updated, -, rfl⟩
  rcases completeUpload_eq updated with ⟨finalizing, -, -, status, -⟩
  exact ⟨⟨row, found, finalizing⟩, completed, Function.update_self .., status⟩

end ArtifactStore

/-! ## What one move does -/

section

open ArtifactStore

variable {sizeBytes : Content → Nat} {sha256 : Content → String} {settings : ArtifactSettings}
  {storage : StorageIdentity} {store : ArtifactStore Content} {request : FinalizeRequest}
  {uploadId : UploadId} {token : ClaimToken} {now : Time} {outcome : OperationOutcome}
  {artifactId : UploadArtifactId}

theorem commitFinalization_store :
    (commitFinalization store request token now artifactId).2 = store ∨
      Commits request.uploadId store (commitFinalization store request token now artifactId).2 := by
  unfold commitFinalization
  split
  · exact .inl rfl
  · split
    · exact .inl rfl
    · next upload found =>
        split
        · exact .inl rfl
        · next completed updated =>
            dsimp only
            split
            · exact .inl rfl
            · next free =>
                exact .inr ⟨token, now, artifactId, upload, completed, found, updated,
                  Bool.eq_false_of_not_eq_true free, rfl⟩

theorem storeVerifiedFile_ledger (key : ObjectKey) (content : Content) :
    ∃ objects, (storeVerifiedFile store key content outcome).2 = { store with objects } := by
  unfold storeVerifiedFile
  split
  · split <;> exact ⟨_, rfl⟩
  · split <;> exact ⟨_, rfl⟩
  · split <;> exact ⟨_, rfl⟩
  · exact ⟨_, rfl⟩

theorem advanceFinalizer_store (phase : FinalizePhase Content) :
    Advances (ArtifactPhase.finalizer request token phase).claimant
        (ArtifactPhase.finalizer request token phase).mark store
        (advanceFinalizer sizeBytes sha256 settings storage request token store now outcome
          artifactId phase).2 ∨
      (∃ owned, phase = .committing owned) ∧ Commits request.uploadId store
        (advanceFinalizer sizeBytes sha256 settings storage request token store now outcome
          artifactId phase).2 := by
  cases phase with
  | requested => exact .inl .refl
  | recovering cutoff => exact .inl (.amend fun _ _ _ => recoverStaleFinalizing_amends)
  | expiring => exact .inl (.amend fun _ _ _ => expireUpload_amends)
  | claiming owned => exact .inl (.amend fun _ _ _ => claimFinalization_amends)
  | startReading owned => exact .inl (.amend fun _ _ _ => touchArtifactFinalization_amends)
  | reading owned => exact .inl .refl
  | read owned result => exact .inl (.amend fun _ _ _ => touchArtifactFinalization_amends)
  | resetting failureCode answer => exact .inl (.amend fun _ _ _ => resetFinalizing_amends)
  | checking owned content => exact .inl .refl
  | startPublishing owned content =>
      exact .inl (.amend fun _ _ _ => touchArtifactFinalization_amends)
  | publishing owned content => exact .inl (.ofObjects (storeVerifiedFile_ledger ..))
  | published owned succeeded => exact .inl (.amend fun _ _ _ => touchArtifactFinalization_amends)
  | removingSpool owned => exact .inl .refl
  | committing owned =>
      rcases commitFinalization_store with same | commits
      · exact .inl (.ofEq same)
      · exact .inr ⟨⟨owned, rfl⟩, commits⟩
  | failing canonicalPublished failureCode answer =>
      exact .inl (.amend fun _ _ _ => failFinalizing_amends)
  | marking answer => exact .inl (.amend fun _ _ _ => markCanonicalNotRequired_amends rfl)
  | answered answer => exact .inl .refl

theorem writeUploadStream_ledger (owned : UploadSession) (content : Content) :
    ∃ objects, (writeUploadStream sizeBytes store owned content outcome).2 =
      { store with objects } := by
  unfold writeUploadStream
  split
  · split <;> exact ⟨_, rfl⟩
  · split <;> exact ⟨_, rfl⟩
  · split <;> exact ⟨_, rfl⟩
  · split <;> exact ⟨_, rfl⟩

theorem advanceWriter_store {claimant : Option ClaimToken}
    {mark : Option (UploadId × CleanupKind)} (phase : WritePhase Content) :
    Advances claimant mark store
      (advanceWriter sizeBytes storage uploadId token store now outcome phase).2 := by
  cases phase with
  | requested content => exact .refl
  | expiringWrite holder => exact .amend fun _ _ _ => expireArtifactUploadWrite_amends
  | expiring => exact .amend fun _ _ _ => expireUpload_amends
  | claiming owned content => exact .amend fun _ _ _ => claimUploadWrite_amends
  | startWriting owned content => exact .amend fun _ _ _ => touchArtifactUploadWrite_amends
  | writing owned content => exact .ofObjects (writeUploadStream_ledger owned content)
  | wrote result => exact .amend fun _ _ _ => touchArtifactUploadWrite_amends
  | sealing => exact .amend fun _ _ _ => sealUpload_amends
  | clearing => exact .amend fun _ _ _ => clearArtifactUploadWrite_amends
  | timingOut => exact .amend fun _ _ _ => expireArtifactUploadWrite_amends
  | losing => exact .amend fun _ _ _ => expireArtifactUploadWrite_amends
  | ended => exact .refl

theorem deleteCurrentObject_ledger (key : ObjectKey) :
    ∃ objects, (deleteCurrentObject store key outcome).2 = { store with objects } := by
  unfold deleteCurrentObject
  split
  · exact ⟨_, rfl⟩
  · exact ⟨_, rfl⟩
  · split <;> exact ⟨_, rfl⟩
  · split <;> exact ⟨_, rfl⟩

theorem cleanupRecord_amends {claimant : Option ClaimToken} {marked : CleanupKind → Prop}
    {candidate row row' : UploadSession} {kind : CleanupKind} {action : CleanupAction}
    {succeeded : Bool} (allowed : succeeded = true → action ≠ .first → marked kind)
    (terminal : candidate.status.Terminal)
    (updated : cleanupRecord token now candidate kind action succeeded row = some row') :
    row.Amends claimant marked row' := by
  cases succeeded with
  | false => exact recordCleanupFailure_amends updated
  | true =>
      cases action with
      | first => exact recordFirstDelete_amends updated
      | onePass => exact recordCleanupComplete_amends (allowed rfl (by simp)) terminal updated
      | confirm => exact recordCleanupComplete_amends (allowed rfl (by simp)) terminal updated

/-- Every outstanding action of a cleaner is about an object of a session that had come
to an end. -/
def CleanupPhase.Due (phase : CleanupPhase) : Prop :=
  ∀ candidate, phase.candidate = some candidate → ∀ kind action,
    (kind, action) ∈ phase.outstanding →
      candidate.status.Terminal ∧ (kind = .canonical → candidate.status.Abandoned)

theorem advanceCleaner_store {phase : CleanupPhase} (due : phase.Due) :
    Advances (ArtifactPhase.cleaner uploadId token phase : ArtifactPhase Content).claimant
      (ArtifactPhase.cleaner uploadId token phase : ArtifactPhase Content).mark store
      (advanceCleaner settings storage uploadId token store now outcome phase).2 := by
  cases phase with
  | selecting started => exact .refl
  | claiming started => exact .amend fun _ _ _ => claimCleanup_amends
  | loading started => exact .refl
  | mismatched candidate => exact .amend fun _ _ _ => recordCleanupKeyMismatch_amends
  | starting candidate actions =>
      cases actions with
      | nil => exact .refl
      | cons action later => exact .amend fun _ _ _ => touchCleanupClaim_amends
  | deleting candidate kind action later => exact .ofObjects (deleteCurrentObject_ledger _)
  | deleted candidate kind action succeeded later =>
      exact .amend fun _ _ _ => touchCleanupClaim_amends
  | recording candidate kind action succeeded later =>
      apply Advances.amend
      intro row row' _ updated
      apply cleanupRecord_amends _ (due candidate rfl kind action List.mem_cons_self).1 updated
      intro isTrue later
      subst isTrue
      simp [ArtifactPhase.mark, later]
  | releasing => exact .amend fun _ _ _ => releaseCleanupClaim_amends
  | ended => exact .refl

theorem heartbeatArtifactProcess_store {claimant : Option ClaimToken}
    {mark : Option (UploadId × CleanupKind)} (phase : ArtifactPhase Content) :
    Advances claimant mark store (heartbeatArtifactProcess now store phase) := by
  unfold heartbeatArtifactProcess
  split
  · exact .amend fun _ _ _ => touchArtifactFinalization_amends
  · exact .amend fun _ _ _ => touchArtifactFinalization_amends
  · exact .amend fun _ _ _ => touchArtifactUploadWrite_amends
  · exact .amend fun _ _ _ => touchCleanupClaim_amends
  · exact .refl

/-! ## What the next phase holds -/

theorem amending_fst {Phase : Type} (Property : Phase → Prop)
    {update : UploadSession → Option UploadSession} {found missed : Phase}
    (holds : Property (amending store uploadId update found missed).1) :
    Property found ∨ Property missed := by
  unfold amending at holds
  dsimp only at holds
  split at holds
  · exact .inl holds
  · exact .inr holds

theorem amending_fst_of {Phase : Type} (Property : Phase → Prop)
    {update : UploadSession → Option UploadSession} {found missed : Phase}
    (ofFound : Property found) (ofMissed : Property missed) :
    Property (amending store uploadId update found missed).1 := by
  unfold amending
  dsimp only
  split
  · exact ofFound
  · exact ofMissed

theorem admitFinalization_owned {upload owned : UploadSession}
    (held : (admitFinalization upload now : FinalizePhase Content).owned = some owned) :
    upload = owned := by
  unfold admitFinalization at held
  split at held
  · nomatch held
  · split at held
    · nomatch held
    · split at held
      · nomatch held
      · exact Option.some.inj held

theorem beginFinalization_owned {owned : UploadSession}
    (held : (beginFinalization settings storage store request now).owned = some owned) :
    store.sessions request.uploadId = some owned := by
  unfold beginFinalization at held
  split at held
  · nomatch held
  split at held
  · nomatch held
  next upload found =>
  split at held
  · nomatch held
  split at held
  · nomatch held
  split at held
  · split at held
    · nomatch held
    · exact found.trans (congrArg some (admitFinalization_owned held))
  · nomatch held
  · nomatch held
  · split at held
    · nomatch held
    · nomatch held
  · exact found.trans (congrArg some (admitFinalization_owned held))

/-- A finalizer holds what it has held, or the session as it has just found it. -/
theorem advanceFinalizer_owned {phase : FinalizePhase Content} {owned : UploadSession}
    (held : (advanceFinalizer sizeBytes sha256 settings storage request token store now outcome
      artifactId phase).1.owned = some owned) :
    phase.owned = some owned ∨
      (advanceFinalizer sizeBytes sha256 settings storage request token store now outcome
        artifactId phase).2.sessions request.uploadId = some owned := by
  have amended {update : UploadSession → Option UploadSession} {found missed : FinalizePhase Content}
      (held : (amending store request.uploadId update found missed).1.owned = some owned) :
      found.owned = some owned ∨ missed.owned = some owned :=
    amending_fst (fun phase : FinalizePhase Content => phase.owned = some owned) held
  cases phase with
  | requested => exact .inr (beginFinalization_owned held)
  | recovering cutoff =>
      simp only [advanceFinalizer] at held
      split at held
      · next upload _ found => exact .inr (found.trans (congrArg some (admitFinalization_owned held)))
      · nomatch held
  | expiring => rcases amended held with same | same <;> nomatch same
  | claiming snapshot =>
      rcases amended held with same | missed
      · exact .inl same
      · nomatch missed
  | startReading snapshot =>
      rcases amended held with same | missed
      · exact .inl same
      · nomatch missed
  | reading snapshot => exact .inl held
  | read snapshot result =>
      rcases amended held with same | missed
      · cases result with
        | verified content => exact .inl same
        | notFound => nomatch same
        | mismatch failureCode => nomatch same
        | spoolFailed failureCode => nomatch same
        | readFailed => nomatch same
      · nomatch missed
  | resetting failureCode answer => rcases amended held with same | same <;> nomatch same
  | checking snapshot content =>
      simp only [advanceFinalizer, checkBeforePublishing] at held
      split at held
      · exact .inl held
      · split at held <;> nomatch held
  | startPublishing snapshot content =>
      rcases amended held with same | missed
      · exact .inl same
      · nomatch missed
  | publishing snapshot content => exact .inl held
  | published snapshot succeeded =>
      rcases amended held with same | missed
      · cases succeeded with
        | true => exact .inl same
        | false => nomatch same
      · nomatch missed
  | removingSpool snapshot =>
      simp only [advanceFinalizer] at held
      split at held
      · nomatch held
      · exact .inl held
  | committing snapshot =>
      simp only [advanceFinalizer, commitFinalization] at held
      repeat' split at held
      all_goals nomatch held
  | failing canonicalPublished failureCode answer =>
      rcases amended held with same | same
      · cases canonicalPublished <;> nomatch same
      · nomatch same
  | marking answer => rcases amended held with same | same <;> nomatch same
  | answered answer => nomatch held

theorem beginWriting_owned {content : Content} {owned : UploadSession}
    (held : (beginWriting storage store uploadId content now).owned = some owned) :
    store.sessions uploadId = some owned := by
  unfold beginWriting at held
  split at held
  · nomatch held
  next upload found =>
  split at held
  · nomatch held
  split at held
  · split at held <;> nomatch held
  split at held
  · nomatch held
  · exact found.trans held

theorem advanceWriter_owned {phase : WritePhase Content} {owned : UploadSession}
    (held : (advanceWriter sizeBytes storage uploadId token store now outcome phase).1.owned =
      some owned) :
    phase.owned = some owned ∨ store.sessions uploadId = some owned := by
  have amended {update : UploadSession → Option UploadSession} {found missed : WritePhase Content}
      (held : (amending store uploadId update found missed).1.owned = some owned) :
      found.owned = some owned ∨ missed.owned = some owned :=
    amending_fst (fun phase : WritePhase Content => phase.owned = some owned) held
  cases phase with
  | requested content => exact .inr (beginWriting_owned held)
  | expiringWrite holder => rcases amended held with same | same <;> nomatch same
  | expiring => rcases amended held with same | same <;> nomatch same
  | claiming snapshot content =>
      rcases amended held with same | missed
      · exact .inl same
      · nomatch missed
  | startWriting snapshot content =>
      rcases amended held with same | missed
      · exact .inl same
      · nomatch missed
  | writing snapshot content =>
      simp only [advanceWriter] at held
      split at held <;> nomatch held
  | wrote result =>
      rcases amended held with same | same
      · split at same <;> nomatch same
      · nomatch same
  | sealing => rcases amended held with same | same <;> nomatch same
  | clearing => rcases amended held with same | same <;> nomatch same
  | timingOut => rcases amended held with same | same <;> nomatch same
  | losing => rcases amended held with same | same <;> nomatch same
  | ended => nomatch held

theorem loadCandidate_candidate {candidate : UploadSession}
    (held : (loadCandidate settings storage store uploadId token now).candidate = some candidate) :
    store.sessions uploadId = some candidate := by
  unfold loadCandidate at held
  split at held
  · nomatch held
  · next row found =>
      split at held
      · rcases Option.some.inj held with rfl
        exact (Option.filter_eq_some_iff.mp found).1
      · rcases Option.some.inj held with rfl
        exact (Option.filter_eq_some_iff.mp found).1

theorem advanceCleaner_candidate {phase : CleanupPhase} {candidate : UploadSession}
    (held : (advanceCleaner settings storage uploadId token store now outcome phase).1.candidate =
      some candidate) :
    phase.candidate = some candidate ∨ store.sessions uploadId = some candidate := by
  have amended {update : UploadSession → Option UploadSession} {found missed : CleanupPhase}
      (held : (amending store uploadId update found missed).1.candidate = some candidate) :
      found.candidate = some candidate ∨ missed.candidate = some candidate :=
    amending_fst (fun phase : CleanupPhase => phase.candidate = some candidate) held
  cases phase with
  | selecting started =>
      simp only [advanceCleaner] at held
      split at held <;> nomatch held
  | claiming started => rcases amended held with same | same <;> nomatch same
  | loading started => exact .inr (loadCandidate_candidate held)
  | mismatched snapshot => rcases amended held with same | same <;> nomatch same
  | starting snapshot actions =>
      cases actions with
      | nil => nomatch held
      | cons action later =>
          rcases amended held with same | missed
          · exact .inl same
          · nomatch missed
  | deleting snapshot kind action later => exact .inl held
  | deleted snapshot kind action succeeded later =>
      rcases amended held with same | missed
      · exact .inl same
      · nomatch missed
  | recording snapshot kind action succeeded later =>
      rcases amended held with same | same
      · exact .inl same
      · exact .inl same
  | releasing => rcases amended held with same | same <;> nomatch same
  | ended => nomatch held

theorem cleanupActions_due {candidate : UploadSession} {kind : CleanupKind}
    {action : CleanupAction}
    (member : (kind, action) ∈ cleanupActions settings storage candidate now) :
    candidate.status.Terminal ∧ (kind = .canonical → candidate.status.Abandoned) := by
  unfold cleanupActions at member
  rcases List.mem_append.mp member with canonical | staging
  · simp only [Option.mem_toList, Option.map_eq_some_iff, Prod.mk.injEq] at canonical
    rcases canonical with ⟨found, chosen, rfl, rfl⟩
    unfold canonicalAction at chosen
    split at chosen
    · nomatch chosen
    · next due =>
        have abandoned : candidate.status.Abandoned :=
          Decidable.not_not.mp fun kept => due (.inl kept)
        exact ⟨.inr abandoned, fun _ => abandoned⟩
  · simp only [Option.mem_toList, Option.map_eq_some_iff, Prod.mk.injEq] at staging
    rcases staging with ⟨found, chosen, rfl, rfl⟩
    unfold stagingAction at chosen
    split at chosen
    · nomatch chosen
    · next due =>
        exact ⟨Decidable.not_not.mp fun kept => due (.inl kept), fun same => nomatch same⟩

theorem CleanupPhase.Due.fewer {phase next : CleanupPhase} (due : phase.Due)
    (same : next.candidate = phase.candidate) (fewer : next.outstanding ⊆ phase.outstanding) :
    next.Due := by
  intro candidate held kind action member
  exact due candidate (same.symm.trans held) kind action (fewer member)

theorem CleanupPhase.Due.ofNone {phase : CleanupPhase} (none : phase.candidate = none) :
    phase.Due := by
  intro candidate held
  nomatch none.symm.trans held

theorem advanceCleaner_due {phase : CleanupPhase} (due : phase.Due) :
    (advanceCleaner settings storage uploadId token store now outcome phase).1.Due := by
  cases phase with
  | selecting started =>
      simp only [advanceCleaner]
      split <;> exact .ofNone rfl
  | claiming started => exact amending_fst_of CleanupPhase.Due (.ofNone rfl) (.ofNone rfl)
  | loading started =>
      simp only [advanceCleaner, loadCandidate]
      split
      · exact .ofNone rfl
      · next row found =>
          split
          · intro candidate held kind action member
            rcases Option.some.inj held with rfl
            exact cleanupActions_due member
          · intro candidate held kind action member
            nomatch member
  | mismatched candidate => exact amending_fst_of CleanupPhase.Due (.ofNone rfl) (.ofNone rfl)
  | starting candidate actions =>
      cases actions with
      | nil => exact .ofNone rfl
      | cons action later =>
          exact amending_fst_of CleanupPhase.Due (due.fewer rfl (List.Subset.refl _)) (.ofNone rfl)
  | deleting candidate kind action later => exact due.fewer rfl (List.Subset.refl _)
  | deleted candidate kind action succeeded later =>
      exact amending_fst_of CleanupPhase.Due (due.fewer rfl (List.Subset.refl _)) (.ofNone rfl)
  | recording candidate kind action succeeded later =>
      have next : (CleanupPhase.starting candidate later).Due :=
        due.fewer rfl (List.subset_cons_self ..)
      exact amending_fst_of CleanupPhase.Due next next
  | releasing => exact amending_fst_of CleanupPhase.Due (.ofNone rfl) (.ofNone rfl)
  | ended => exact due

end

/-! ## Every process fits the store -/

structure ArtifactPhase.Fits (store : ArtifactStore Content) (phase : ArtifactPhase Content) :
    Prop where
  reads : ∀ uploadId owned, phase.snapshot = some (uploadId, owned) → store.Reads uploadId owned
  due : ∀ uploadId token cleaner, phase = .cleaner uploadId token cleaner → cleaner.Due

section

open ArtifactStore

variable {sizeBytes : Content → Nat} {sha256 : Content → String} {settings : ArtifactSettings}
  {storage : StorageIdentity} {store store' : ArtifactStore Content}
  {choice : ArtifactChoice} {phase next : ArtifactPhase Content}

theorem ArtifactPhase.Fits.grows (fits : phase.Fits store) (grows : Grows store store') :
    phase.Fits store' where
  reads uploadId owned held := (fits.reads uploadId owned held).grows grows
  due := fits.due

/-- A move amends the sessions, or it commits a finalization. -/
theorem advanceArtifactProcess_store (fits : phase.Fits store) :
    Advances phase.claimant phase.mark store
        (advanceArtifactProcess sizeBytes sha256 settings storage choice phase store).2 ∨
      ∃ request token owned, phase = .finalizer request token (.committing owned) ∧
        Commits request.uploadId store
          (advanceArtifactProcess sizeBytes sha256 settings storage choice phase store).2 := by
  cases choice with
  | heartbeat now => exact .inl (heartbeatArtifactProcess_store phase)
  | go now outcome artifactId =>
      cases phase with
      | finalizer request token phase =>
          rcases advanceFinalizer_store phase with advances | ⟨⟨owned, rfl⟩, commits⟩
          · exact .inl advances
          · exact .inr ⟨request, token, owned, rfl, commits⟩
      | writer uploadId token phase => exact .inl (advanceWriter_store phase)
      | presigned uploadId owned content =>
          exact .inl (.ofObjects (storeVerifiedFile_ledger ..))
      | cleaner uploadId token phase =>
          exact .inl (advanceCleaner_store (fits.due uploadId token phase rfl))

theorem advanceArtifactProcess_grows (fits : phase.Fits store) :
    Grows store (advanceArtifactProcess sizeBytes sha256 settings storage choice phase store).2 := by
  rcases advanceArtifactProcess_store fits with advances | ⟨request, token, owned, -, commits⟩
  · exact advances.grows
  · exact commits.grows

theorem finalizerPhase_eq {request : FinalizeRequest} {token : ClaimToken}
    {phase : FinalizePhase Content} (same : finalizerPhase request token phase = some next) :
    next = .finalizer request token phase := by
  unfold finalizerPhase at same
  split at same
  · nomatch same
  · exact (Option.some.inj same).symm

theorem writerPhase_eq {uploadId : UploadId} {token : ClaimToken} {phase : WritePhase Content}
    (same : writerPhase uploadId token phase = some next) :
    next = .writer uploadId token phase := by
  unfold writerPhase at same
  split at same
  · nomatch same
  · exact (Option.some.inj same).symm

theorem cleanerPhase_eq {uploadId : UploadId} {token : ClaimToken} {phase : CleanupPhase}
    (same : cleanerPhase uploadId token phase = some next) :
    next = .cleaner uploadId token phase := by
  unfold cleanerPhase at same
  split at same
  · nomatch same
  · exact (Option.some.inj same).symm

theorem advanceArtifactProcess_fits (fits : phase.Fits store)
    (advanced : (advanceArtifactProcess sizeBytes sha256 settings storage choice phase store).1 =
      some next) :
    next.Fits (advanceArtifactProcess sizeBytes sha256 settings storage choice phase store).2 := by
  have grows : Grows store
      (advanceArtifactProcess sizeBytes sha256 settings storage choice phase store).2 :=
    advanceArtifactProcess_grows fits
  cases choice with
  | heartbeat now =>
      rcases Option.some.inj advanced with rfl
      exact fits.grows grows
  | go now outcome artifactId =>
      cases phase with
      | finalizer request token phase =>
          rcases finalizerPhase_eq advanced with rfl
          constructor
          · intro uploadId owned held
            simp only [ArtifactPhase.snapshot, Option.map_eq_some_iff, Prod.mk.injEq] at held
            rcases held with ⟨snapshot, held, rfl, rfl⟩
            rcases advanceFinalizer_owned held with before | found
            · exact (fits.reads request.uploadId snapshot (by
                simp only [ArtifactPhase.snapshot, before, Option.map_some])).grows grows
            · exact .ofFound found
          · intro uploadId other cleaner same
            nomatch same
      | writer uploadId token phase =>
          rcases writerPhase_eq advanced with rfl
          constructor
          · intro other owned held
            simp only [ArtifactPhase.snapshot, Option.map_eq_some_iff, Prod.mk.injEq] at held
            rcases held with ⟨snapshot, held, rfl, rfl⟩
            rcases advanceWriter_owned held with before | found
            · exact (fits.reads uploadId snapshot (by
                simp only [ArtifactPhase.snapshot, before, Option.map_some])).grows grows
            · exact (Reads.ofFound found).grows grows
          · intro uploadId other cleaner same
            nomatch same
      | presigned uploadId owned content => nomatch advanced
      | cleaner uploadId token phase =>
          rcases cleanerPhase_eq advanced with rfl
          constructor
          · intro other owned held
            simp only [ArtifactPhase.snapshot, Option.map_eq_some_iff, Prod.mk.injEq] at held
            rcases held with ⟨snapshot, held, rfl, rfl⟩
            rcases advanceCleaner_candidate held with before | found
            · exact (fits.reads uploadId snapshot (by
                simp only [ArtifactPhase.snapshot, before, Option.map_some])).grows grows
            · exact (Reads.ofFound found).grows grows
          · intro uploadId' other cleaner same
            cases same
            exact advanceCleaner_due (fits.due uploadId token phase rfl)

end

end RvcOrchestrator.Manager

import RvcOrchestrator.Manager.ArtifactLedger

/-! # Artifact uploads are safe

Whatever requests, cleanups, recoveries and losses come in whatever order.
-/

namespace RvcOrchestrator.Manager

open RvcOrchestrator.Foundation RvcOrchestrator.Contracts

variable {Content : Type}

/-! ## Claims -/

inductive ClaimKind where
  | finalization
  | cleanup
deriving DecidableEq

def UploadSession.claim (row : UploadSession) : ClaimKind → Option ClaimToken
  | .finalization => row.finalizationToken
  | .cleanup => row.cleanupToken

def FinalizePhase.claimed : FinalizePhase Content → Bool
  | .startReading _ | .reading _ | .read _ _ | .resetting _ _ | .checking _ _
  | .startPublishing _ _ | .publishing _ _ | .published _ _ | .removingSpool _ | .committing _
  | .failing _ _ _ => true
  | _ => false

def CleanupPhase.claimed : CleanupPhase → Bool
  | .loading _ | .mismatched _ | .starting _ _ | .deleting _ _ _ _ | .deleted _ _ _ _ _
  | .recording _ _ _ _ _ | .releasing => true
  | _ => false

def ArtifactPhase.claim : ArtifactPhase Content → Option (ClaimKind × UploadId × ClaimToken)
  | .finalizer request token phase =>
      if phase.claimed then some (.finalization, request.uploadId, token) else none
  | .cleaner uploadId token phase =>
      if phase.claimed then some (.cleanup, uploadId, token) else none
  | _ => none

namespace ArtifactStore

def Unclaimed (store : ArtifactStore Content) (kind : ClaimKind) (uploadId : UploadId)
    (token : ClaimToken) : Prop :=
  ∀ row, store.sessions uploadId = some row → row.claim kind ≠ some token

end ArtifactStore

/-- The process has made a claim, and the session does not have it any more. -/
def ArtifactPhase.Superseded (store : ArtifactStore Content) (phase : ArtifactPhase Content) :
    Prop :=
  ∃ kind uploadId token, phase.claim = some (kind, uploadId, token) ∧
    store.Unclaimed kind uploadId token

open ArtifactStore UploadSession

section

variable {sizeBytes : Content → Nat} {sha256 : Content → String} {settings : ArtifactSettings}
  {storage : StorageIdentity} {store store' : ArtifactStore Content} {uploadId : UploadId}
  {token : ClaimToken} {now : Time} {outcome : OperationOutcome}
  {artifactId : UploadArtifactId} {request : FinalizeRequest}

/-! ## A superseded process is idle -/

/-- Without its claim an update does not find its row. -/
theorem amend_unclaimed {kind : ClaimKind} {update : UploadSession → Option UploadSession}
    (fenced : ∀ row, row.claim kind ≠ some token → update row = none)
    (unclaimed : store.Unclaimed kind uploadId token) :
    store.amend uploadId update = (false, store) := by
  rcases amend_eq store uploadId update with ⟨row, row', found, updated, -⟩ | unchanged
  · nomatch (fenced row (unclaimed row found)).symm.trans updated
  · exact unchanged

theorem amending_unclaimed {kind : ClaimKind} {update : UploadSession → Option UploadSession}
    {Phase : Type} {found missed : Phase}
    (fenced : ∀ row, row.claim kind ≠ some token → update row = none)
    (unclaimed : store.Unclaimed kind uploadId token) :
    amending store uploadId update found missed = (missed, store) := by
  simp [amending, amend_unclaimed fenced unclaimed]

theorem touchArtifactFinalization_fenced (row : UploadSession)
    (other : row.claim .finalization ≠ some token) :
    touchArtifactFinalization token now row = none :=
  if_neg fun guard => other guard.2

theorem resetFinalizing_fenced (failureCode : String) (row : UploadSession)
    (other : row.claim .finalization ≠ some token) :
    resetFinalizing token now row failureCode = none :=
  if_neg fun guard => other guard.2

theorem failFinalizing_fenced (failureCode : String) (row : UploadSession)
    (other : row.claim .finalization ≠ some token) :
    failFinalizing token now row failureCode = none :=
  if_neg fun guard => other guard.2

theorem completeUpload_fenced (row : UploadSession)
    (other : row.claim .finalization ≠ some token) :
    completeUpload token now row artifactId = none :=
  if_neg fun guard => other guard.2

theorem touchCleanupClaim_fenced (row : UploadSession) (other : row.claim .cleanup ≠ some token) :
    touchCleanupClaim token now row = none :=
  if_neg fun guard => other guard.2

theorem releaseCleanupClaim_fenced (row : UploadSession)
    (other : row.claim .cleanup ≠ some token) : releaseCleanupClaim token now row = none :=
  if_neg other

theorem recordCleanupKeyMismatch_fenced (candidate row : UploadSession)
    (other : row.claim .cleanup ≠ some token) :
    recordCleanupKeyMismatch token now row candidate = none :=
  if_neg fun guard => other guard.1

theorem cleanupRecord_fenced (candidate : UploadSession) (kind : CleanupKind)
    (action : CleanupAction) (succeeded : Bool) (row : UploadSession)
    (other : row.claim .cleanup ≠ some token) :
    cleanupRecord token now candidate kind action succeeded row = none := by
  have different : row.cleanupToken ≠ some token := other
  cases succeeded with
  | false => simp [cleanupRecord, recordCleanupFailure, different]
  | true =>
      cases action <;>
        simp [cleanupRecord, recordFirstDelete, recordCleanupComplete, different]

/-- A finalizer that has lost its claim changes nothing, and it ends or keeps on doing so. -/
theorem advanceFinalizer_idle {phase : FinalizePhase Content} (claimed : phase.claimed = true)
    (unclaimed : store.Unclaimed .finalization request.uploadId token) :
    (∃ objects, (advanceFinalizer sizeBytes sha256 settings storage request token store now outcome
        artifactId phase).2 = { store with objects }) ∧
      ((∃ answer, (advanceFinalizer sizeBytes sha256 settings storage request token store now
          outcome artifactId phase).1 = .answered answer) ∨
        (advanceFinalizer sizeBytes sha256 settings storage request token store now outcome
          artifactId phase).1.claimed = true) := by
  have amended {update : UploadSession → Option UploadSession} {found : FinalizePhase Content}
      {answer : FinalizeAnswer} (fenced : ∀ row, row.claim .finalization ≠ some token →
        update row = none) :
      (∃ objects, (amending store request.uploadId update found (.answered answer)).2 =
          { store with objects }) ∧
        ((∃ answer', (amending store request.uploadId update found (.answered answer)).1 =
            .answered answer') ∨
          (amending store request.uploadId update found (.answered answer)).1.claimed = true) := by
    rw [amending_unclaimed fenced unclaimed]
    exact ⟨⟨_, rfl⟩, .inl ⟨answer, rfl⟩⟩
  cases phase with
  | requested => cases claimed
  | recovering cutoff => cases claimed
  | expiring => cases claimed
  | claiming owned => cases claimed
  | startReading owned => exact amended touchArtifactFinalization_fenced
  | reading owned => exact ⟨⟨_, rfl⟩, .inr rfl⟩
  | read owned result => exact amended touchArtifactFinalization_fenced
  | resetting failureCode answer => exact amended (resetFinalizing_fenced failureCode)
  | checking owned content =>
      refine ⟨⟨_, rfl⟩, .inr ?_⟩
      simp only [advanceFinalizer, checkBeforePublishing]
      split
      · rfl
      · split <;> rfl
  | startPublishing owned content => exact amended touchArtifactFinalization_fenced
  | publishing owned content => exact ⟨storeVerifiedFile_ledger _ _, .inr rfl⟩
  | published owned succeeded => exact amended touchArtifactFinalization_fenced
  | removingSpool owned =>
      refine ⟨⟨_, rfl⟩, .inr ?_⟩
      simp only [advanceFinalizer]
      split <;> rfl
  | committing owned =>
      simp only [advanceFinalizer, commitFinalization]
      split
      · exact ⟨⟨_, rfl⟩, .inr rfl⟩
      · split
        · exact ⟨⟨_, rfl⟩, .inl ⟨_, rfl⟩⟩
        · next upload found =>
            rw [completeUpload_fenced upload (unclaimed upload found)]
            exact ⟨⟨_, rfl⟩, .inr rfl⟩
  | failing canonicalPublished failureCode answer =>
      exact amended (failFinalizing_fenced failureCode)
  | marking answer => cases claimed
  | answered answer => cases claimed

theorem advanceCleaner_idle {phase : CleanupPhase} (claimed : phase.claimed = true)
    (unclaimed : store.Unclaimed .cleanup uploadId token) :
    (∃ objects, (advanceCleaner settings storage uploadId token store now outcome phase).2 =
        { store with objects }) ∧
      ((advanceCleaner settings storage uploadId token store now outcome phase).1 = .ended ∨
        (advanceCleaner settings storage uploadId token store now outcome phase).1.claimed =
          true) := by
  have ended {update : UploadSession → Option UploadSession} {found : CleanupPhase}
      (fenced : ∀ row, row.claim .cleanup ≠ some token → update row = none) :
      (∃ objects, (amending store uploadId update found .ended).2 = { store with objects }) ∧
        ((amending store uploadId update found .ended).1 = .ended ∨
          (amending store uploadId update found .ended).1.claimed = true) := by
    rw [amending_unclaimed fenced unclaimed]
    exact ⟨⟨_, rfl⟩, .inl rfl⟩
  cases phase with
  | selecting started => cases claimed
  | claiming started => cases claimed
  | loading started =>
      refine ⟨⟨_, rfl⟩, ?_⟩
      simp only [advanceCleaner, loadCandidate]
      split
      · exact .inl rfl
      · split <;> exact .inr rfl
  | mismatched candidate =>
      simp only [advanceCleaner]
      rw [amending_unclaimed (recordCleanupKeyMismatch_fenced candidate) unclaimed]
      exact ⟨⟨_, rfl⟩, .inr rfl⟩
  | starting candidate actions =>
      cases actions with
      | nil => exact ⟨⟨_, rfl⟩, .inr rfl⟩
      | cons action later => exact ended touchCleanupClaim_fenced
  | deleting candidate kind action later => exact ⟨deleteCurrentObject_ledger _, .inr rfl⟩
  | deleted candidate kind action succeeded later => exact ended touchCleanupClaim_fenced
  | recording candidate kind action succeeded later =>
      simp only [advanceCleaner]
      rw [amending_unclaimed (cleanupRecord_fenced candidate kind action succeeded) unclaimed]
      exact ⟨⟨_, rfl⟩, .inr rfl⟩
  | releasing => exact ended releaseCleanupClaim_fenced
  | ended => cases claimed

theorem heartbeatArtifactProcess_idle {phase : ArtifactPhase Content} {kind : ClaimKind}
    (claimed : phase.claim = some (kind, uploadId, token))
    (unclaimed : store.Unclaimed kind uploadId token) :
    heartbeatArtifactProcess now store phase = store := by
  unfold heartbeatArtifactProcess
  split
  · rcases claimed
    rw [amend_unclaimed touchArtifactFinalization_fenced unclaimed]
  · rcases claimed
    rw [amend_unclaimed touchArtifactFinalization_fenced unclaimed]
  · nomatch claimed
  · rcases claimed
    rw [amend_unclaimed touchCleanupClaim_fenced unclaimed]
  · rfl

/-- What has lost its claim changes no row, and goes on without the claim if at all. -/
theorem advanceArtifactProcess_idle {choice : ArtifactChoice} {phase : ArtifactPhase Content}
    {kind : ClaimKind} (claimed : phase.claim = some (kind, uploadId, token))
    (unclaimed : store.Unclaimed kind uploadId token) :
    (∃ objects, (advanceArtifactProcess sizeBytes sha256 settings storage choice phase store).2 =
        { store with objects }) ∧
      ∀ next, (advanceArtifactProcess sizeBytes sha256 settings storage choice phase store).1 =
        some next → next.claim = some (kind, uploadId, token) := by
  cases choice with
  | heartbeat now =>
      refine ⟨⟨store.objects, heartbeatArtifactProcess_idle claimed unclaimed⟩, ?_⟩
      intro next same
      rcases Option.some.inj same with rfl
      exact claimed
  | go now outcome artifactId =>
      cases phase with
      | finalizer request own phase =>
          simp only [ArtifactPhase.claim, Option.ite_none_right_eq_some, Option.some.injEq,
            Prod.mk.injEq] at claimed
          rcases claimed with ⟨claimed, rfl, rfl, rfl⟩
          refine ⟨(advanceFinalizer_idle claimed unclaimed).1, ?_⟩
          intro next same
          have kept : (∃ answer, (advanceFinalizer sizeBytes sha256 settings storage request own
                store now outcome artifactId phase).1 = .answered answer) ∨
              (advanceFinalizer sizeBytes sha256 settings storage request own store now outcome
                artifactId phase).1.claimed = true :=
            (advanceFinalizer_idle claimed unclaimed).2
          simp only [advanceArtifactProcess] at same
          rcases kept with ⟨answer, answered⟩ | stillClaimed
          · rw [answered] at same
            nomatch same
          · rw [finalizerPhase_eq same]
            simp only [ArtifactPhase.claim, stillClaimed, if_true]
      | writer uploadId own phase => nomatch claimed
      | presigned uploadId owned content => nomatch claimed
      | cleaner uploadId own phase =>
          simp only [ArtifactPhase.claim, Option.ite_none_right_eq_some, Option.some.injEq,
            Prod.mk.injEq] at claimed
          rcases claimed with ⟨claimed, rfl, rfl, rfl⟩
          refine ⟨(advanceCleaner_idle claimed unclaimed).1, ?_⟩
          intro next same
          have kept : (advanceCleaner settings storage uploadId own store now outcome phase).1 =
                .ended ∨
              (advanceCleaner settings storage uploadId own store now outcome phase).1.claimed =
                true :=
            (advanceCleaner_idle claimed unclaimed).2
          simp only [advanceArtifactProcess] at same
          rcases kept with ended | stillClaimed
          · rw [ended] at same
            nomatch same
          · rw [cleanerPhase_eq same]
            simp only [ArtifactPhase.claim, stillClaimed, if_true]

/-! ## A lost claim stays lost -/

theorem amend_tokens (update : UploadSession → Option UploadSession) :
    (store.amend uploadId update).2.tokens = store.tokens := by
  rcases amend_eq store uploadId update with ⟨row, row', -, -, amended⟩ | unchanged
  · rw [amended]
  · rw [unchanged]

theorem advanceCleaner_tokens (phase : CleanupPhase) :
    (advanceCleaner settings storage uploadId token store now outcome phase).2.tokens =
      store.tokens := by
  cases phase with
  | selecting started => rfl
  | claiming started => exact amend_tokens _
  | loading started => rfl
  | mismatched candidate => exact amend_tokens _
  | starting candidate actions =>
      cases actions with
      | nil => rfl
      | cons action later => exact amend_tokens _
  | deleting candidate kind action later =>
      have deleted : ∃ objects, (deleteCurrentObject store (candidate.objectKey kind) outcome).2 =
          { store with objects } := deleteCurrentObject_ledger _
      rcases deleted with ⟨objects, same⟩
      simp only [advanceCleaner, same]
  | deleted candidate kind action succeeded later => exact amend_tokens _
  | recording candidate kind action succeeded later => exact amend_tokens _
  | releasing => exact amend_tokens _
  | ended => rfl

theorem advanceArtifactProcess_tokens (choice : ArtifactChoice) (phase : ArtifactPhase Content) :
    store.tokens ⊆
      (advanceArtifactProcess sizeBytes sha256 settings storage choice phase store).2.tokens := by
  cases choice with
  | heartbeat now =>
      have advances : Advances none none store (heartbeatArtifactProcess now store phase) :=
        heartbeatArtifactProcess_store phase
      exact advances.tokens
  | go now outcome artifactId =>
      cases phase with
      | finalizer request token phase =>
          simp only [advanceArtifactProcess]
          rcases advanceFinalizer_store phase with advances | ⟨-, commits⟩
          · exact advances.tokens
          · rcases commits with ⟨_, _, _, _, _, _, _, _, same⟩
            intro other member
            rw [same]
            exact member
      | writer uploadId token phase =>
          have advances : Advances none none store
              (advanceWriter sizeBytes storage uploadId token store now outcome phase).2 :=
            advanceWriter_store phase
          exact advances.tokens
      | presigned uploadId owned content =>
          have advances : Advances none none store
              (storeVerifiedFile store owned.temporaryObjectKey content outcome).2 :=
            .ofObjects (storeVerifiedFile_ledger _ _)
          exact advances.tokens
      | cleaner uploadId token phase =>
          intro other member
          simp only [advanceArtifactProcess]
          rw [advanceCleaner_tokens]
          exact member

theorem advanceArtifactProcess_name {choice : ArtifactChoice} {phase next : ArtifactPhase Content}
    (advanced : (advanceArtifactProcess sizeBytes sha256 settings storage choice phase store).1 =
      some next) : next.name = phase.name := by
  cases choice with
  | heartbeat now => rw [← Option.some.inj advanced]
  | go now outcome artifactId =>
      cases phase with
      | finalizer request token phase => rw [finalizerPhase_eq advanced]; rfl
      | writer uploadId token phase => rw [writerPhase_eq advanced]; rfl
      | presigned uploadId owned content => nomatch advanced
      | cleaner uploadId token phase => rw [cleanerPhase_eq advanced]; rfl

theorem artifactWorkforce_names :
    (artifactWorkforce sizeBytes sha256 settings storage).Names
      (ArtifactPhase.name : ArtifactPhase Content → Option ClaimToken) (fun store token => token ∈ store.tokens) where
  launched := by
    intro launch store phase after launched
    rcases launchArtifactProcess_eq launched with
      ⟨token, named, fresh, -, rfl⟩ | ⟨uploadId, upload, content, rfl, -, rfl⟩
    · refine ⟨fun other member => List.mem_cons_of_mem _ member, ?_⟩
      intro own isOwn
      rcases Option.some.inj (named.symm.trans isOwn) with rfl
      exact ⟨fresh, List.mem_cons_self⟩
    · exact ⟨fun _ => id, fun own isOwn => nomatch isOwn⟩
  moved choice phase store :=
    ⟨fun _ member => advanceArtifactProcess_tokens choice phase member,
      fun _ advanced => advanceArtifactProcess_name advanced⟩
  disturbed := by
    intro disturbance store after disturbed other member
    rcases disturbArtifactStore_store disturbed with advances |
      ⟨_, _, _, _, _, _, _, _, _, -, -, rfl⟩
    · exact advances.tokens member
    · exact member

theorem ArtifactPhase.name_of_claim {phase : ArtifactPhase Content} {kind : ClaimKind}
    (claimed : phase.claim = some (kind, uploadId, token)) : phase.name = some token := by
  cases phase with
  | finalizer request own phase =>
      simp only [ArtifactPhase.claim, Option.ite_none_right_eq_some, Option.some.injEq,
        Prod.mk.injEq] at claimed
      exact congrArg some claimed.2.2.2
  | writer uploadId own phase => nomatch claimed
  | presigned uploadId owned content => nomatch claimed
  | cleaner uploadId own phase =>
      simp only [ArtifactPhase.claim, Option.ite_none_right_eq_some, Option.some.injEq,
        Prod.mk.injEq] at claimed
      exact congrArg some claimed.2.2.2

def ArtifactStore.Lost (kind : ClaimKind) (uploadId : UploadId) (token : ClaimToken)
    (store : ArtifactStore Content) : Prop :=
  token ∈ store.tokens ∧ store.Unclaimed kind uploadId token

theorem ArtifactStore.Lost.advances {kind : ClaimKind} {claimant : Option ClaimToken}
    {mark : Option (UploadId × CleanupKind)} (lost : store.Lost kind uploadId token)
    (advances : Advances claimant mark store store') (other : claimant ≠ some token) :
    store'.Lost kind uploadId token := by
  refine ⟨advances.tokens lost.1, ?_⟩
  intro row' found' claimed
  rcases advances.past uploadId row' found' with ⟨row, found, amends⟩
  cases kind with
  | finalization =>
      rcases amends.finalization token claimed with before | own
      · exact lost.2 row found before
      · exact other own
  | cleanup =>
      rcases amends.cleanup token claimed with before | own
      · exact lost.2 row found before
      · exact other own

theorem ArtifactStore.Lost.commits {kind : ClaimKind} {completedId : UploadId}
    (lost : store.Lost kind uploadId token) (commits : Commits completedId store store') :
    store'.Lost kind uploadId token := by
  rcases commits with ⟨own, now, artifactId, row, completed, found, updated, -, rfl⟩
  rcases completeUpload_eq updated with ⟨-, -, -, -, -, -, finalization, cleanup, -⟩
  refine ⟨lost.1, ?_⟩
  intro row' found' claimed
  change Function.update store.sessions completedId (some completed) uploadId = some row' at found'
  by_cases same : uploadId = completedId
  · subst same
    rw [Function.update_self] at found'
    rcases Option.some.inj found' with rfl
    cases kind with
    | finalization => nomatch finalization.symm.trans claimed
    | cleanup => exact lost.2 row found (cleanup.symm.trans claimed)
  · rw [Function.update_of_ne same] at found'
    exact lost.2 row' found' claimed

theorem ArtifactStore.Lost.creates {kind : ClaimKind} {createdId : UploadId} {created : UploadSession}
    (lost : store.Lost kind uploadId token) (unclaimed : ∀ kind, created.claim kind = none)
    (creates : Creates createdId created store store') : store'.Lost kind uploadId token := by
  refine ⟨by rw [creates.2.2]; exact lost.1, ?_⟩
  intro row' found' claimed
  rcases creates.past found' with ⟨-, rfl⟩ | ⟨-, before⟩
  · nomatch (unclaimed kind).symm.trans claimed
  · exact lost.2 row' before claimed

end

section

variable (sizeBytes : Content → Nat) (sha256 : Content → String) (settings : ArtifactSettings)
  (storage : StorageIdentity)

def ClaimsAs (kind : ClaimKind) (uploadId : UploadId) (token : ClaimToken)
    (phase : ArtifactPhase Content) : Prop :=
  phase.name = some token → phase.claim = some (kind, uploadId, token)

theorem lost_preserved (kind : ClaimKind) (uploadId : UploadId) (token : ClaimToken) :
    (artifactWorkforce sizeBytes sha256 settings storage).Preserves (fun _ _ => True)
      (ArtifactStore.Lost kind uploadId token)
      (fun store phase => phase.Fits store ∧ ClaimsAs kind uploadId token phase) where
  launched := by
    intro situation launch phase store' _ lost launched
    rcases launchArtifactProcess_store launched with ⟨advances, fits⟩
    refine ⟨lost.advances advances (fun none => nomatch none), ⟨fits, ?_⟩,
      fun other fitted => ⟨fitted.1.grows advances.grows, fitted.2⟩⟩
    intro named
    rcases launchArtifactProcess_eq launched with
      ⟨own, isOwn, fresh, -, -⟩ | ⟨_, upload, content, rfl, -, -⟩
    · rcases Option.some.inj (isOwn.symm.trans named) with rfl
      exact absurd lost.1 fresh
    · nomatch named
  moved := by
    intro situation place choice phase _ found lost fits
    have fitted := fits phase (List.mem_of_getElem? found)
    have grows : Grows situation.state (advanceArtifactProcess sizeBytes sha256 settings storage
        choice phase situation.state).2 :=
      advanceArtifactProcess_grows fitted.1
    refine ⟨?_, ?_, fun other member =>
      ⟨(fits other member).1.grows grows, (fits other member).2⟩⟩
    · by_cases own : phase.name = some token
      · rcases (advanceArtifactProcess_idle (fitted.2 own) lost.2).1 with ⟨objects, same⟩
        simp only [artifactWorkforce]
        rw [same]
        exact lost
      · rcases advanceArtifactProcess_store fitted.1 with advances | ⟨_, _, _, -, commits⟩
        · exact lost.advances advances fun claims => own (ArtifactPhase.name_of_claimant claims)
        · exact lost.commits commits
    · intro next advanced
      refine ⟨advanceArtifactProcess_fits fitted.1 advanced, ?_⟩
      intro named
      have own : phase.name = some token := (advanceArtifactProcess_name advanced).symm.trans named
      exact (advanceArtifactProcess_idle (fitted.2 own) lost.2).2 next advanced
  disturbed := by
    intro situation disturbance store' _ lost disturbed
    rcases disturbArtifactStore_store disturbed with advances |
      ⟨_, _, _, _, _, _, _, _, _, creates⟩
    · exact ⟨lost.advances advances (fun none => nomatch none),
        fun other fitted => ⟨fitted.1.grows advances.grows, fitted.2⟩⟩
    · refine ⟨lost.creates ?_ creates,
        fun other fitted => ⟨fitted.1.grows creates.grows, fitted.2⟩⟩
      intro kind
      cases kind <;> rfl

theorem artifactRun_named (events : List (ArtifactEvent Content)) :
    Workforce.Named ArtifactPhase.name (fun store token => token ∈ store.tokens)
      (artifactRun sizeBytes sha256 settings storage events) :=
  artifactWorkforce_names.run .empty events

/-- A process that was superseded once stays so. -/
theorem superseded_stays {events later : List (ArtifactEvent Content)}
    {process process' : ArtifactPhase Content}
    (member : process ∈ (artifactRun sizeBytes sha256 settings storage events).phases)
    (superseded : process.Superseded (artifactRun sizeBytes sha256 settings storage events).state)
    (member' : process' ∈
      (artifactRun sizeBytes sha256 settings storage (events ++ later)).phases)
    (same : process'.name = process.name) :
    process'.Superseded
      (artifactRun sizeBytes sha256 settings storage (events ++ later)).state := by
  rcases superseded with ⟨kind, uploadId, token, claimed, unclaimed⟩
  have named : process.name = some token := process.name_of_claim claimed
  have names := artifactRun_named sizeBytes sha256 settings storage events
  have fits := (artifactRun_sound sizeBytes sha256 settings storage events).2
  have kept := (lost_preserved sizeBytes sha256 settings storage kind uploadId token).run
    ⟨⟨names.drawn member named, unclaimed⟩, fun other otherMember => ⟨fits other otherMember, by
      intro otherNamed
      rw [names.eq otherMember member otherNamed named]
      exact claimed⟩⟩
    (.ofForall (fun _ _ => trivial) _ later)
  rw [artifactRun_append] at member' ⊢
  exact ⟨kind, uploadId, token, (kept.2 process' member').2 (same.trans named), kept.1.2⟩

/-! ## Canonical objects -/

theorem amend_objects {store : ArtifactStore Content} {uploadId : UploadId}
    (update : UploadSession → Option UploadSession) :
    (store.amend uploadId update).2.objects = store.objects := by
  rcases amend_eq store uploadId update with ⟨row, row', -, -, amended⟩ | unchanged
  · rw [amended]
  · rw [unchanged]

theorem deleteCurrentObject_objects {store : ArtifactStore Content} {key other : ObjectKey}
    {outcome : OperationOutcome} (different : other ≠ key) :
    (deleteCurrentObject store key outcome).2.objects other = store.objects other := by
  have deleted : (store.deleteObject key).objects other = store.objects other :=
    Function.update_of_ne different ..
  unfold deleteCurrentObject
  split
  · exact deleted
  · exact deleted
  · split
    · exact deleted
    · rfl
  · split
    · exact deleted
    · rfl

/-- A cleaner deletes no object of a session that is completed. -/
theorem advanceCleaner_keeps_completed {store : ArtifactStore Content} {uploadId other : UploadId}
    {token : ClaimToken} {phase : CleanupPhase} {choice : ArtifactChoice} {row : UploadSession}
    (sound : store.Sound) (fits : (ArtifactPhase.cleaner uploadId token phase).Fits store)
    (found : store.sessions other = some row) (completed : row.status = .completed) :
    (advanceArtifactProcess sizeBytes sha256 settings storage choice
        (.cleaner uploadId token phase) store).2.objects row.canonicalObjectKey =
      store.objects row.canonicalObjectKey := by
  have kept {update : UploadSession → Option UploadSession} :
      (store.amend uploadId update).2.objects row.canonicalObjectKey =
        store.objects row.canonicalObjectKey := by rw [amend_objects]
  cases choice with
  | heartbeat now =>
      cases phase with
      | deleting candidate kind action later => exact kept
      | _ => rfl
  | go now outcome artifactId =>
      cases phase with
      | selecting started => rfl
      | claiming started => exact kept
      | loading started => rfl
      | mismatched candidate => exact kept
      | starting candidate actions =>
          cases actions with
          | nil => rfl
          | cons action later => exact kept
      | deleting candidate kind action later =>
          apply deleteCurrentObject_objects
          rcases fits.reads uploadId candidate rfl with ⟨current, currentFound, declared, absorbing⟩
          have due := fits.due uploadId token _ rfl candidate rfl kind action List.mem_cons_self
          rw [← objectKey_of_declared declared kind, sound.canonicalKeys other row found]
          cases kind with
          | staging =>
              intro same
              nomatch same.trans (sound.temporaryKeys uploadId current currentFound)
          | canonical =>
              intro same
              have sameKeys := same.trans (sound.canonicalKeys uploadId current currentFound)
              injection sameKeys with _ _ _ sameId
              rw [sameId, currentFound] at found
              rcases Option.some.inj found with rfl
              have abandoned : current.status.Abandoned := absorbing due.1 ▸ due.2 rfl
              rw [completed] at abandoned
              rcases abandoned with failed | expired
              · nomatch failed
              · nomatch expired
      | deleted candidate kind action succeeded later => exact kept
      | recording candidate kind action succeeded later => exact kept
      | releasing => exact kept
      | ended => rfl

/-! ## Commits -/

def FinalizeCommits (situation : ArtifactSituation Content) (event : ArtifactEvent Content)
    (uploadId : UploadId) : Prop :=
  ∃ place choice request token phase, event = .proceed place choice ∧
    situation.phases[place]? = some (.finalizer request token phase) ∧
    request.uploadId = uploadId ∧
    ((artifactWorkforce sizeBytes sha256 settings storage).step situation event).state.artifacts ≠
      situation.state.artifacts

theorem commits_of_finalizeCommits {situation : ArtifactSituation Content}
    {event : ArtifactEvent Content} {uploadId : UploadId}
    (fits : ∀ phase ∈ situation.phases, phase.Fits situation.state)
    (committed : FinalizeCommits sizeBytes sha256 settings storage situation event uploadId) :
    Commits uploadId situation.state
      ((artifactWorkforce sizeBytes sha256 settings storage).step situation event).state := by
  rcases committed with ⟨place, choice, request, token, phase, rfl, found, rfl, grown⟩
  rw [Workforce.step_proceed found, Workforce.state_move] at grown ⊢
  rcases advanceArtifactProcess_store (fits _ (List.mem_of_getElem? found)) with
    advances | ⟨request', token', owned, same, commits⟩
  · exact absurd advances.artifacts grown
  · injection same with sameRequest
    rcases sameRequest with rfl
    exact commits

/-! ## The whole -/

/-- What holds in the situation after `events`, and what holds from then on. -/
structure UploadSafety (events : List (ArtifactEvent Content)) : Prop where
  absorbing : ∀ later uploadId row,
    (artifactRun sizeBytes sha256 settings storage events).state.sessions uploadId = some row →
    row.status.Terminal → ∃ row',
      (artifactRun sizeBytes sha256 settings storage (events ++ later)).state.sessions uploadId =
        some row' ∧ row'.status = row.status
  commitsOnce : ∀ event later event' uploadId,
    FinalizeCommits sizeBytes sha256 settings storage
      (artifactRun sizeBytes sha256 settings storage events) event uploadId →
    ¬FinalizeCommits sizeBytes sha256 settings storage
      (artifactRun sizeBytes sha256 settings storage (events ++ event :: later)) event' uploadId
  completed : ∀ uploadId,
    (∃ row, (artifactRun sizeBytes sha256 settings storage events).state.sessions uploadId =
      some row ∧ row.status = .completed) ↔
    ∃ artifact, (artifactRun sizeBytes sha256 settings storage events).state.artifacts.filter
      (·.uploadSessionId = uploadId) = [artifact]
  recorded : ∀ artifact ∈ (artifactRun sizeBytes sha256 settings storage events).state.artifacts,
    ∃ row, (artifactRun sizeBytes sha256 settings storage events).state.sessions
        artifact.uploadSessionId = some row ∧
      row.artifactId = some artifact.id ∧ artifact.sizeBytes = row.expectedSizeBytes ∧
      artifact.sha256 = row.expectedSha256 ∧
      artifact.objectKey = canonicalObjectKey row.jobId row.attemptId row.artifactType
        artifact.uploadSessionId
  canonicalKept : ∀ place choice uploadId token phase other row,
    (artifactRun sizeBytes sha256 settings storage events).phases[place]? =
      some (.cleaner uploadId token phase) →
    (artifactRun sizeBytes sha256 settings storage events).state.sessions other = some row →
    row.status = .completed →
    ((artifactWorkforce sizeBytes sha256 settings storage).step
        (artifactRun sizeBytes sha256 settings storage events) (.proceed place choice)).state.objects
          row.canonicalObjectKey =
      (artifactRun sizeBytes sha256 settings storage events).state.objects row.canonicalObjectKey
  superseded : ∀ process ∈ (artifactRun sizeBytes sha256 settings storage events).phases,
    process.Superseded (artifactRun sizeBytes sha256 settings storage events).state →
    ∀ later place choice process',
    (artifactRun sizeBytes sha256 settings storage (events ++ later)).phases[place]? =
      some process' → process'.name = process.name →
    ∃ objects, ((artifactWorkforce sizeBytes sha256 settings storage).step
        (artifactRun sizeBytes sha256 settings storage (events ++ later))
        (.proceed place choice)).state =
      { (artifactRun sizeBytes sha256 settings storage (events ++ later)).state with objects }

theorem artifact_uploads_safe (events : List (ArtifactEvent Content)) :
    UploadSafety sizeBytes sha256 settings storage events := by
  rcases artifactRun_sound sizeBytes sha256 settings storage events with ⟨sound, fits⟩
  constructor
  · intro later uploadId row found terminal
    rcases artifactRun_grows sizeBytes sha256 settings storage events later uploadId row found with
      ⟨row', found', -, absorbing⟩
    exact ⟨row', found', absorbing terminal⟩
  · intro event later event' uploadId committed again
    rcases (commits_of_finalizeCommits _ _ _ _ fits committed).completes with
      ⟨-, row, found, completed⟩
    have fits' := (artifactRun_sound sizeBytes sha256 settings storage (events ++ event :: later)).2
    rcases (commits_of_finalizeCommits _ _ _ _ fits' again).completes with
      ⟨⟨last, lastFound, finalizing⟩, -⟩
    have step : (artifactWorkforce sizeBytes sha256 settings storage).step
        (artifactRun sizeBytes sha256 settings storage events) event =
        artifactRun sizeBytes sha256 settings storage (events ++ [event]) := by
      rw [artifactRun_append]
      rfl
    rw [step] at found
    have grown := artifactRun_grows sizeBytes sha256 settings storage (events ++ [event]) later
    rw [List.append_assoc, List.singleton_append] at grown
    rcases grown uploadId row found with ⟨row', found', -, absorbing⟩
    rcases Option.some.inj (found'.symm.trans lastFound) with rfl
    have same : row'.status = row.status := absorbing (.inl completed)
    nomatch finalizing.symm.trans (same.trans completed)
  · intro uploadId
    constructor
    · rintro ⟨row, found, completed⟩
      exact sound.completed uploadId row found completed
    · rintro ⟨artifact, only⟩
      have member : artifact ∈ _ := only ▸ List.mem_singleton_self artifact
      rcases List.mem_filter.mp member with ⟨recorded, same⟩
      rcases sound.recorded artifact recorded with ⟨row, found, completed, -⟩
      rw [of_decide_eq_true same] at found
      exact ⟨row, found, completed⟩
  · intro artifact member
    rcases sound.recorded artifact member with ⟨row, found, -, referred, same⟩
    refine ⟨row, found, referred, ?_, ?_, ?_⟩
    · rw [same]
      rfl
    · rw [same]
      rfl
    · rw [← sound.canonicalKeys _ row found, same]
      rfl
  · intro place choice uploadId token phase other row found held completed
    rw [Workforce.step_proceed found, Workforce.state_move]
    exact advanceCleaner_keeps_completed sizeBytes sha256 settings storage sound
      (fits _ (List.mem_of_getElem? found)) held completed
  · intro process member superseded later place choice process' found same
    rcases superseded_stays _ _ _ _ member superseded (List.mem_of_getElem? found) same with
      ⟨kind, uploadId, token, claimed, unclaimed⟩
    rw [Workforce.step_proceed found, Workforce.state_move]
    exact (advanceArtifactProcess_idle claimed unclaimed).1

end

end RvcOrchestrator.Manager

import RvcOrchestrator.Manager.ArtifactSafety

/-! # When a finalization that was interrupted can be repeated -/

namespace RvcOrchestrator.Manager

open RvcOrchestrator.Foundation RvcOrchestrator.Contracts ArtifactStore UploadSession

variable {Content : Type}

/-! ## The repetition -/

def retryFinalization (place : Nat) (request : FinalizeRequest) (token : ClaimToken)
    (clock : Nat → Time) (artifactId : UploadArtifactId) : List (ArtifactEvent Content) :=
  .launch (.finalize request token) ::
    ((List.range 12).map fun move => .go (clock move) .works artifactId).map (.proceed place)

/-- The session has been left behind by a finalizer, or it was recovered since. -/
def Interrupted (settings : ArtifactSettings) (row : UploadSession) (now : Time) : Prop :=
  row.status = .finalizing ∧ row.updatedAt ≤ now - seconds settings.finalizingStale ∨
    row.status = .pending ∧ row.uploadWriteToken = none ∧
      (row.storageBackend = .disk → row.uploadedAt ≠ none)

instance (settings : ArtifactSettings) (row : UploadSession) (now : Time) :
    Decidable (Interrupted settings row now) :=
  inferInstanceAs (Decidable (_ ∨ _))

/-- When the repetition looks at the expiry: after the recovery, if there is one. -/
def expiryCheck (row : UploadSession) (clock : Nat → Time) : Time :=
  if row.status = .finalizing then clock 1 else clock 0

def CompletedWithArtifact (store : ArtifactStore Content) (uploadId : UploadId) : Prop :=
  ∃ row artifact, store.sessions uploadId = some row ∧ row.status = .completed ∧
    artifact ∈ store.artifacts ∧ artifact.uploadSessionId = uploadId ∧
    row.artifactId = some artifact.id

section

variable (sizeBytes : Content → Nat) (sha256 : Content → String) (settings : ArtifactSettings)
  (storage : StorageIdentity)

/-- The lease is active and the session its own, the configured storage is the session's, and
the upload is there with its declared size and digest. -/
structure Intact (store : ArtifactStore Content) (request : FinalizeRequest)
    (row : UploadSession) : Prop where
  leased : uploadLeaseRefusal store request = none
  belongs : uploadBelongsToClaim row request = true
  stored : storage.Matches row
  uploaded : ∃ content, store.objects row.temporaryObjectKey = some content ∧
    sizeBytes content = row.expectedSizeBytes ∧ sha256 content = row.expectedSha256

end

/-! ## The moves of the repetition -/

section

variable {sizeBytes : Content → Nat} {sha256 : Content → String} {settings : ArtifactSettings}
  {storage : StorageIdentity} {origin store : ArtifactStore Content} {request : FinalizeRequest}
  {token : ClaimToken} {now : Time} {artifactId : UploadArtifactId} {owned row : UploadSession}

theorem amend_of_found {uploadId : UploadId} {update : UploadSession → Option UploadSession}
    {row' : UploadSession} (found : store.sessions uploadId = some row)
    (updated : update row = some row') :
    store.amend uploadId update =
      (true, { store with sessions := Function.update store.sessions uploadId (some row') }) := by
  simp [ArtifactStore.amend, found, updated]

/-- The store while the repetition holds its claim: nothing else has changed. -/
structure Holding (origin : ArtifactStore Content) (request : FinalizeRequest)
    (token : ClaimToken) (owned : UploadSession) (store : ArtifactStore Content) : Prop where
  objects : store.objects = origin.objects
  leases : store.leases = origin.leases
  artifacts : store.artifacts = origin.artifacts
  row : ∃ row, store.sessions request.uploadId = some row ∧ row.declared = owned.declared ∧
    row.status = .finalizing ∧ row.finalizationToken = some token

theorem amending_of_found {uploadId : UploadId} {update : UploadSession → Option UploadSession}
    {row' : UploadSession} {Phase : Type} (found missed : Phase)
    (held : store.sessions uploadId = some row) (updated : update row = some row') :
    amending store uploadId update found missed =
      (found, { store with sessions := Function.update store.sessions uploadId (some row') }) := by
  simp only [amending, amend_of_found held updated, if_true]

theorem Holding.touched (holding : Holding origin request token owned store) (now : Time)
    (found missed : FinalizePhase Content) :
    ∃ store', Holding origin request token owned store' ∧
      amending store request.uploadId (touchArtifactFinalization token now) found missed =
        (found, store') := by
  rcases holding.row with ⟨row, held, declared, finalizing, claimed⟩
  have updated : touchArtifactFinalization token now row = some { row with updatedAt := now } :=
    if_pos ⟨finalizing, claimed⟩
  refine ⟨_, ?_, amending_of_found found missed held updated⟩
  exact ⟨holding.objects, holding.leases, holding.artifacts, _, Function.update_self .., declared,
    finalizing, claimed⟩

theorem Holding.failed (holding : Holding origin request token owned store) (now : Time)
    (failureCode : String) (found missed : FinalizePhase Content) :
    ∃ store' row', store'.sessions request.uploadId = some row' ∧ row'.status = .failed ∧
      amending store request.uploadId (fun row => failFinalizing token now row failureCode) found
        missed = (found, store') := by
  rcases holding.row with ⟨row, held, declared, finalizing, claimed⟩
  have updated : failFinalizing token now row failureCode = some { row with
      status := .failed
      uploadWriteToken := none
      uploadHeartbeatAt := none
      finalizationToken := none
      failureCode := some failureCode
      dedupeKey := none
      finalizedAt := some now
      updatedAt := now } :=
    if_pos ⟨finalizing, claimed⟩
  exact ⟨_, _, Function.update_self .., rfl, amending_of_found found missed held updated⟩

/-- The last transaction of the repetition. -/
theorem Holding.committed (holding : Holding origin request token owned store) (now : Time)
    (leased : uploadLeaseRefusal origin request = none)
    (free : artifactTaken origin (newArtifact owned request.uploadId artifactId) = false) :
    ∃ store', CompletedWithArtifact store' request.uploadId ∧
      commitFinalization store request token now artifactId =
        (.answered (.ok artifactId), store') := by
  rcases holding.row with ⟨row, held, declared, finalizing, claimed⟩
  have leasedNow : uploadLeaseRefusal store request = none := by
    simpa only [uploadLeaseRefusal, requireUploadLease, holding.leases] using leased
  have freeNow : artifactTaken store (newArtifact row request.uploadId artifactId) = false := by
    rw [newArtifact_of_declared declared, artifactTaken, holding.artifacts]
    exact free
  cases updated : completeUpload token now row artifactId with
  | none =>
      rw [completeUpload, if_pos ⟨finalizing, claimed⟩] at updated
      cases updated
  | some completed =>
      rcases completeUpload_eq updated with ⟨-, -, -, status, referred, -⟩
      refine ⟨_, ?_, by
        simp only [commitFinalization, leasedNow, held, updated, freeNow, Bool.false_eq_true,
          if_false]; rfl⟩
      exact ⟨completed, newArtifact row request.uploadId artifactId, Function.update_self .., status,
        List.mem_append_right _ (List.mem_singleton_self _), rfl, referred⟩

/-! ### Alone -/

variable {choices : List ArtifactChoice}

theorem solo_finalizer {phase next : FinalizePhase Content} {store' : ArtifactStore Content}
    (advanced : advanceFinalizer sizeBytes sha256 settings storage request token store now .works
      artifactId phase = (next, store')) :
    (artifactWorkforce sizeBytes sha256 settings storage).solo
        (some (.finalizer request token phase)) store (.go now .works artifactId :: choices) =
      (artifactWorkforce sizeBytes sha256 settings storage).solo
        (finalizerPhase request token next) store' choices := by
  apply Workforce.solo_of_advance
  simp only [artifactWorkforce, advanceArtifactProcess, advanced]

/-- From the claim to the publication. -/
theorem Holding.reaches_publication (holding : Holding origin request token owned store)
    (leased : uploadLeaseRefusal origin request = none) {content : Content}
    (uploaded : origin.objects owned.temporaryObjectKey = some content)
    (size : sizeBytes content = owned.expectedSizeBytes)
    (digest : sha256 content = owned.expectedSha256) (first second third fourth fifth : Time) :
    ∃ store', Holding origin request token owned store' ∧
      (artifactWorkforce sizeBytes sha256 settings storage).solo
          (some (.finalizer request token (.startReading owned))) store
          (.go first .works artifactId :: .go second .works artifactId ::
            .go third .works artifactId :: .go fourth .works artifactId ::
            .go fifth .works artifactId :: choices) =
        (artifactWorkforce sizeBytes sha256 settings storage).solo
          (some (.finalizer request token (.publishing owned content))) store' choices := by
  rcases holding.touched first (.reading owned) (.answered (.error ownershipChanged)) with
    ⟨reading, claimsReading, toReading⟩
  have read : verifyObjectToSpool sizeBytes sha256 reading owned .works = .verified content := by
    simp [verifyObjectToSpool, claimsReading.objects, uploaded, size, digest]
  rcases claimsReading.touched third (.checking owned content) (.answered (.error ownershipChanged)) with
    ⟨checking, claimsChecking, toChecking⟩
  have checked : checkBeforePublishing checking request owned content .works =
      .startPublishing owned content := by
    have leasedNow : uploadLeaseRefusal checking request = none := by
      simpa only [uploadLeaseRefusal, requireUploadLease, claimsChecking.leases] using leased
    simp only [checkBeforePublishing, leasedNow]
  rcases claimsChecking.touched fifth (.publishing owned content)
    (.answered (.error ownershipChanged)) with ⟨publishing, claimsPublishing, toPublishing⟩
  refine ⟨publishing, claimsPublishing, ?_⟩
  refine Eq.trans (solo_finalizer toReading) ?_
  refine Eq.trans (solo_finalizer (Prod.ext (congrArg (FinalizePhase.read owned) read) rfl)) ?_
  refine Eq.trans (solo_finalizer toChecking) ?_
  refine Eq.trans (solo_finalizer (Prod.ext checked rfl)) ?_
  exact Eq.trans (solo_finalizer toPublishing) rfl

theorem Holding.completes (holding : Holding origin request token owned store)
    (leased : uploadLeaseRefusal origin request = none) (content : Content)
    (vacant : origin.objects owned.canonicalObjectKey = none)
    (free : artifactTaken origin (newArtifact owned request.uploadId artifactId) = false)
    (first second third fourth : Time) :
    ∃ store', CompletedWithArtifact store' request.uploadId ∧
      (artifactWorkforce sizeBytes sha256 settings storage).solo
          (some (.finalizer request token (.publishing owned content))) store
          (.go first .works artifactId :: .go second .works artifactId ::
            .go third .works artifactId :: .go fourth .works artifactId :: choices) =
        (none, store') := by
  have published : storeVerifiedFile store owned.canonicalObjectKey content .works =
      (true, store.writeObject owned.canonicalObjectKey content) := by
    simp [storeVerifiedFile, holding.objects, vacant]
  have toPublished : advanceFinalizer sizeBytes sha256 settings storage request token store first
      .works artifactId (.publishing owned content) =
      (.published owned true, store.writeObject owned.canonicalObjectKey content) := by
    simp only [advanceFinalizer, published]
  have holdingPublished : Holding { origin with
      objects := Function.update origin.objects owned.canonicalObjectKey (some content) } request
      token owned (store.writeObject owned.canonicalObjectKey content) :=
    ⟨by rw [ArtifactStore.writeObject, holding.objects], holding.leases, holding.artifacts, holding.row⟩
  rcases holdingPublished.touched second (.removingSpool owned)
    (.answered (.error ownershipChanged)) with ⟨removing, claimsRemoving, toRemoving⟩
  rcases claimsRemoving.committed fourth leased free with
    ⟨completed, done, toCompleted⟩
  refine ⟨completed, done, ?_⟩
  refine Eq.trans (solo_finalizer toPublished) ?_
  refine Eq.trans (solo_finalizer toRemoving) ?_
  refine Eq.trans (solo_finalizer rfl) ?_
  refine Eq.trans (solo_finalizer toCompleted) ?_
  cases choices <;> rfl

theorem Holding.fails (holding : Holding origin request token owned store) (content : Content)
    (occupied : origin.objects owned.canonicalObjectKey ≠ none) (first second third : Time) :
    ∃ store' row', store'.sessions request.uploadId = some row' ∧ row'.status = .failed ∧
      (artifactWorkforce sizeBytes sha256 settings storage).solo
          (some (.finalizer request token (.publishing owned content))) store
          (.go first .works artifactId :: .go second .works artifactId ::
            .go third .works artifactId :: choices) =
        (none, store') := by
  have refused : storeVerifiedFile store owned.canonicalObjectKey content .works =
      (false, store) := by
    simp [storeVerifiedFile, holding.objects, Option.isSome_iff_ne_none.mpr occupied]
  have toPublished : advanceFinalizer sizeBytes sha256 settings storage request token store first
      .works artifactId (.publishing owned content) = (.published owned false, store) := by
    simp only [advanceFinalizer, refused]
  rcases holding.touched second (.failing true "storage_publish_failed"
    ⟨503, "verified artifact publish failed"⟩) (.answered (.error ownershipChanged)) with
    ⟨failing, claimsFailing, toFailing⟩
  rcases claimsFailing.failed third "storage_publish_failed"
    (.answered (.error ⟨503, "verified artifact publish failed"⟩))
    (.answered (.error ownershipChanged)) with ⟨failed, row', held, status, toFailed⟩
  refine ⟨failed, row', held, status, ?_⟩
  refine Eq.trans (solo_finalizer toPublished) ?_
  refine Eq.trans (solo_finalizer toFailing) ?_
  refine Eq.trans (solo_finalizer toFailed) ?_
  cases choices <;> rfl

/-! ### The whole repetition -/

theorem not_completed {uploadId : UploadId} (held : store.sessions uploadId = some row)
    (incomplete : row.status ≠ .completed) : ¬CompletedWithArtifact store uploadId := by
  rintro ⟨other, _, otherHeld, completed, _⟩
  rcases Option.some.inj (held.symm.trans otherHeld) with rfl
  exact incomplete completed

theorem expireUpload_incomplete (held : store.sessions request.uploadId = some owned)
    (incomplete : owned.status ≠ .completed) :
    ¬CompletedWithArtifact (store.amend request.uploadId (expireUpload now)).2
      request.uploadId := by
  have advances : Advances none none store (store.amend request.uploadId (expireUpload now)).2 :=
    .amend fun _ _ _ => expireUpload_amends
  rcases advances.kept _ owned held with ⟨row', held', amends⟩
  exact not_completed held' fun completed => incomplete (amends.completed completed)

theorem solo_expiring :
    (artifactWorkforce sizeBytes sha256 settings storage).solo
        (some (.finalizer request token .expiring)) store (.go now .works artifactId :: choices) =
      (none, (store.amend request.uploadId (expireUpload now)).2) := by
  have ended : ∃ answer, advanceFinalizer sizeBytes sha256 settings storage request token store now
      .works artifactId .expiring =
      (.answered answer, (store.amend request.uploadId (expireUpload now)).2) := by
    simp only [advanceFinalizer, amending]
    split <;> exact ⟨_, rfl⟩
  rcases ended with ⟨answer, ended⟩
  refine Eq.trans (solo_finalizer ended) ?_
  cases choices <;> rfl

structure Claimable (row : UploadSession) : Prop where
  pending : row.status = .pending
  unwritten : row.uploadWriteToken = none
  unclaimed : row.finalizationToken = none
  uploaded : row.storageBackend = .disk → row.uploadedAt ≠ none

theorem admitFinalization_claimable (claimable : Claimable owned) :
    (admitFinalization owned now : FinalizePhase Content) =
      if owned.expiresAt ≤ now then .expiring else .claiming owned := by
  have uploaded : ¬(owned.storageBackend = .disk ∧ owned.uploadedAt = none) := fun missing =>
    claimable.uploaded missing.1 missing.2
  simp only [admitFinalization, claimable.unwritten, ne_eq, not_true, uploaded, if_false]

theorem solo_admitted (held : store.sessions request.uploadId = some owned)
    (claimable : Claimable owned)
    (intact : Intact sizeBytes sha256 storage store request owned)
    (free : artifactTaken store (newArtifact owned request.uploadId artifactId) = false)
    (checked t₀ t₁ t₂ t₃ t₄ t₅ t₆ t₇ t₈ t₉ : Time) (choices : List ArtifactChoice) :
    ∃ store', (CompletedWithArtifact store' request.uploadId ↔
        store.objects owned.canonicalObjectKey = none ∧ checked < owned.expiresAt) ∧
      (artifactWorkforce sizeBytes sha256 settings storage).solo
          (finalizerPhase request token (admitFinalization owned checked)) store
          (.go t₀ .works artifactId :: .go t₁ .works artifactId :: .go t₂ .works artifactId ::
            .go t₃ .works artifactId :: .go t₄ .works artifactId :: .go t₅ .works artifactId ::
            .go t₆ .works artifactId :: .go t₇ .works artifactId :: .go t₈ .works artifactId ::
            .go t₉ .works artifactId :: choices) = (none, store') := by
  rw [admitFinalization_claimable claimable]
  by_cases expired : owned.expiresAt ≤ checked
  · rw [if_pos expired]
    have incomplete : owned.status ≠ .completed := by simp [claimable.pending]
    refine ⟨_, ?_, solo_expiring⟩
    constructor
    · exact fun completed => absurd completed (expireUpload_incomplete held incomplete)
    · exact fun both => absurd both.2 (Int.not_lt.mpr expired)
  rw [if_neg expired]
  have updated : claimFinalization token t₀ owned = some { owned with
      status := .finalizing
      finalizationToken := some token
      failureCode := none
      updatedAt := t₀ } := by
    apply if_pos
    refine ⟨claimable.pending, claimable.unwritten, claimable.unclaimed, ?_⟩
    by_cases disk : owned.storageBackend = .disk
    · exact .inr (claimable.uploaded disk)
    · exact .inl disk
  have toStart : advanceFinalizer sizeBytes sha256 settings storage request token store t₀ .works
      artifactId (.claiming owned) = (.startReading owned, _) :=
    amending_of_found _ _ held updated
  have holding : Holding store request token owned { store with
      sessions := Function.update store.sessions request.uploadId (some { owned with
        status := .finalizing
        finalizationToken := some token
        failureCode := none
        updatedAt := t₀ }) } :=
    ⟨rfl, rfl, rfl, _, Function.update_self .., rfl, rfl, rfl⟩
  rcases intact.uploaded with ⟨content, uploaded, size, digest⟩
  rcases holding.reaches_publication intact.leased uploaded size digest t₁ t₂ t₃ t₄ t₅ with
    ⟨publishing, claimsPublishing, toPublishing⟩
  by_cases vacant : store.objects owned.canonicalObjectKey = none
  · rcases claimsPublishing.completes intact.leased content vacant free t₆ t₇ t₈ t₉ with
      ⟨completed, done, toCompleted⟩
    refine ⟨completed, ⟨fun _ => ⟨vacant, Int.not_le.mp expired⟩, fun _ => done⟩, ?_⟩
    refine Eq.trans (solo_finalizer toStart) ?_
    exact toPublishing.trans toCompleted
  · rcases claimsPublishing.fails content vacant t₆ t₇ t₈ with
      ⟨failed, row', held', status, toFailed⟩
    refine ⟨failed, ⟨fun completed => absurd completed (not_completed held' (by simp [status])),
      fun both => absurd both.1 vacant⟩, ?_⟩
    refine Eq.trans (solo_finalizer toStart) ?_
    exact toPublishing.trans toFailed

theorem requireUploadLease_of_intact (intact : Intact sizeBytes sha256 storage store request row) :
    ∃ attemptId, requireUploadLease store request = .ok attemptId := by
  cases required : requireUploadLease store request with
  | ok attemptId => exact ⟨attemptId, rfl⟩
  | error detail =>
      have refused := intact.leased
      rw [uploadLeaseRefusal, required] at refused
      nomatch refused

theorem beginFinalization_pending (intact : Intact sizeBytes sha256 storage store request row)
    (held : store.sessions request.uploadId = some row) (pending : row.status = .pending) :
    beginFinalization settings storage store request now = admitFinalization row now := by
  rcases requireUploadLease_of_intact intact with ⟨attemptId, required⟩
  have stored : ¬¬storage.Matches row := not_not_intro intact.stored
  simp only [beginFinalization, required, held, intact.belongs, Bool.true_eq_false, if_false, stored,
    pending]

theorem beginFinalization_stale (intact : Intact sizeBytes sha256 storage store request row)
    (held : store.sessions request.uploadId = some row) (finalizing : row.status = .finalizing)
    (stale : row.updatedAt ≤ now - seconds settings.finalizingStale) :
    beginFinalization settings storage store request now =
      .recovering (now - seconds settings.finalizingStale) := by
  rcases requireUploadLease_of_intact intact with ⟨attemptId, required⟩
  have stored : ¬¬storage.Matches row := not_not_intro intact.stored
  have late : ¬now - seconds settings.finalizingStale < row.updatedAt := Int.not_lt.mpr stale
  simp only [beginFinalization, required, held, intact.belongs, Bool.true_eq_false, if_false, stored,
    finalizing, late]

theorem Intact.ofDeclared {store' : ArtifactStore Content} {row' : UploadSession}
    (intact : Intact sizeBytes sha256 storage store request row)
    (same : row'.declared = row.declared) (objects : store'.objects = store.objects)
    (leases : store'.leases = store.leases) :
    Intact sizeBytes sha256 storage store' request row' where
  leased := by simpa only [uploadLeaseRefusal, requireUploadLease, leases] using intact.leased
  belongs := by
    have kept : uploadBelongsToClaim row'.declared request =
        uploadBelongsToClaim row.declared request := by rw [same]
    exact kept.trans intact.belongs
  stored := by
    have kept : storage.Matches row'.declared ↔ storage.Matches row.declared := by rw [same]
    exact kept.mpr intact.stored
  uploaded := by
    rcases intact.uploaded with ⟨content, uploaded, size, digest⟩
    have key : row'.objectKey .staging = row.objectKey .staging := objectKey_of_declared same .staging
    have sizes : row'.declared.expectedSizeBytes = row.declared.expectedSizeBytes := by rw [same]
    have digests : row'.declared.expectedSha256 = row.declared.expectedSha256 := by rw [same]
    refine ⟨content, ?_, size.trans sizes.symm, digest.trans digests.symm⟩
    rw [objects]
    exact (congrArg store.objects key).trans uploaded

theorem recoverStaleFinalizing_claimable (now : Time) {cutoff : Time} (finalizing : row.status = .finalizing)
    (stale : row.updatedAt ≤ cutoff) (consistent : row.Consistent) :
    ∃ recovered, recoverStaleFinalizing now row cutoff = some recovered ∧
      recovered.declared = row.declared ∧ Claimable recovered :=
  ⟨_, if_pos ⟨finalizing, stale⟩, rfl, rfl, rfl, rfl, consistent.uploaded finalizing⟩

theorem solo_interrupted {clock : Nat → Time}
    (held : store.sessions request.uploadId = some row)
    (interrupted : Interrupted settings row (clock 0)) (consistent : row.Consistent)
    (intact : Intact sizeBytes sha256 storage store request row)
    (free : artifactTaken store (newArtifact row request.uploadId artifactId) = false) :
    ∃ store', (CompletedWithArtifact store' request.uploadId ↔
        store.objects row.canonicalObjectKey = none ∧ expiryCheck row clock < row.expiresAt) ∧
      (artifactWorkforce sizeBytes sha256 settings storage).solo
          (some (.finalizer request token .requested)) store
          ((List.range 12).map fun move => .go (clock move) .works artifactId) = (none, store') := by
  rcases interrupted with ⟨finalizing, stale⟩ | ⟨pending, unwritten, uploaded⟩
  · rcases recoverStaleFinalizing_claimable (clock 1) finalizing stale consistent with
      ⟨recovered, updated, declared, claimable⟩
    have amended : (store.amend request.uploadId fun row => recoverStaleFinalizing (clock 1) row
        (clock 0 - seconds settings.finalizingStale)) = (true, { store with
          sessions := Function.update store.sessions request.uploadId (some recovered) }) :=
      amend_of_found held updated
    have recoveredHeld : (store.amend request.uploadId fun row => recoverStaleFinalizing (clock 1) row
        (clock 0 - seconds settings.finalizingStale)).2.sessions request.uploadId =
        some recovered := by
      rw [amended]
      exact Function.update_self ..
    have toAdmitted : advanceFinalizer sizeBytes sha256 settings storage request token store (clock 1)
        .works artifactId (.recovering (clock 0 - seconds settings.finalizingStale)) =
        (admitFinalization recovered (clock 1), (store.amend request.uploadId fun row =>
          recoverStaleFinalizing (clock 1) row
            (clock 0 - seconds settings.finalizingStale)).2) := by
      simp only [advanceFinalizer, recoveredHeld]
      rw [amended]
    rw [amended] at toAdmitted recoveredHeld
    have recoveredFree : artifactTaken store (newArtifact recovered request.uploadId artifactId) =
        false := by
      rw [newArtifact_of_declared declared]
      exact free
    rcases solo_admitted recoveredHeld claimable (intact.ofDeclared declared rfl rfl) recoveredFree
      (clock 1) (clock 2) (clock 3) (clock 4) (clock 5) (clock 6) (clock 7) (clock 8) (clock 9)
      (clock 10) (clock 11) [] with ⟨after, iff, alone⟩
    refine ⟨after, ?_, ?_⟩
    · have keys : recovered.declared.canonicalObjectKey = row.declared.canonicalObjectKey := by
        rw [declared]
      have expiries : recovered.declared.expiresAt = row.declared.expiresAt := by rw [declared]
      have key : recovered.canonicalObjectKey = row.canonicalObjectKey := keys
      have expiry : recovered.expiresAt = row.expiresAt := expiries
      rw [expiryCheck, if_pos finalizing, ← key, ← expiry]
      exact iff
    · refine Eq.trans (solo_finalizer
        (Prod.ext (beginFinalization_stale intact held finalizing stale) rfl)) ?_
      refine Eq.trans (solo_finalizer toAdmitted) ?_
      exact alone
  · have claimable : Claimable row :=
      ⟨pending, unwritten, consistent.unclaimed (by simp [pending]), uploaded⟩
    rcases solo_admitted held claimable intact free (clock 0) (clock 1) (clock 2) (clock 3) (clock 4)
      (clock 5) (clock 6) (clock 7) (clock 8) (clock 9) (clock 10)
      [.go (clock 11) .works artifactId] with ⟨after, iff, alone⟩
    refine ⟨after, ?_, ?_⟩
    · rw [expiryCheck, if_neg (by simp [pending])]
      exact iff
    · refine Eq.trans (solo_finalizer
        (Prod.ext (beginFinalization_pending intact held pending) rfl)) ?_
      exact alone

/-- As long as a session is open there is no artifact with its key. -/
theorem open_unrecorded {uploadId : UploadId} (sound : store.Sound)
    (held : store.sessions uploadId = some row) (isOpen : ¬row.status.Terminal) :
    ∀ artifact ∈ store.artifacts,
      (artifact.attemptId, artifact.artifactType, artifact.sha256) ≠ row.content := by
  intro artifact member recorded
  rcases sound.recorded artifact member with ⟨row', held', completed, -, same⟩
  have key : row'.content = row.content := by
    rw [same] at recorded
    exact recorded
  have kept : ¬row'.status.Abandoned := by
    rw [completed]
    simp [UploadStatus.Abandoned]
  have openRow : ¬row.status.Abandoned := fun abandoned => isOpen (.inr abandoned)
  -- The keys of the sessions are unique, and only an abandoned session has given its key up.
  have sameSession : uploadId = artifact.uploadSessionId :=
    sound.deduplicated _ _ row row' row.content held held'
      ((sound.consistent _ row held).deduplicated openRow)
      (key ▸ (sound.consistent _ row' held').deduplicated kept)
  rw [← sameSession, held] at held'
  rcases Option.some.inj held' with rfl
  exact isOpen (.inl completed)

/-- No artifact stands in the way of the session's own. -/
theorem artifactTaken_eq_false (sound : store.Sound)
    (held : store.sessions request.uploadId = some row) (isOpen : ¬row.status.Terminal)
    (unused : ∀ artifact ∈ store.artifacts, artifact.id ≠ artifactId) :
    artifactTaken store (newArtifact row request.uploadId artifactId) = false := by
  rw [artifactTaken, List.any_eq_false]
  intro other member taken
  simp only [Bool.or_eq_true, Bool.and_eq_true] at taken
  rcases taken with sameId | ⟨⟨attempt, type⟩, digest⟩
  · exact unused other member (of_decide_eq_true sameId)
  · have sameAttempt : other.attemptId = row.attemptId := of_decide_eq_true attempt
    have sameType : other.artifactType = row.artifactType := of_decide_eq_true type
    have sameDigest : other.sha256 = row.expectedSha256 := of_decide_eq_true digest
    apply open_unrecorded sound held isOpen other member
    rw [sameAttempt, sameType, sameDigest]
    rfl

/-- The last transaction of the holder of the claim records its artifact. -/
theorem commitFinalization_eq_ok_iff (sound : store.Sound)
    (unused : ∀ artifact ∈ store.artifacts, artifact.id ≠ artifactId) {token : ClaimToken}
    {now : Time} :
    (commitFinalization store request token now artifactId).1 = .answered (.ok artifactId) ↔
      uploadLeaseRefusal store request = none ∧ ∃ row,
        store.sessions request.uploadId = some row ∧ row.status = .finalizing ∧
          row.finalizationToken = some token := by
  unfold commitFinalization
  split
  · next detail refused => simp [refused]
  · next leased =>
      split
      · next absent => simp [absent]
      · next row held =>
          split
          · next changed =>
              have lost : ¬(row.status = .finalizing ∧ row.finalizationToken = some token) := by
                intro owned
                rw [completeUpload, if_pos owned] at changed
                cases changed
              simp [held, leased, lost]
          · next completed updated =>
              have owned : row.status = .finalizing ∧ row.finalizationToken = some token := by
                by_contra lost
                rw [completeUpload, if_neg lost] at updated
                cases updated
              have free := artifactTaken_eq_false sound held (open_of_finalizing owned.1) unused
              simp [held, leased, owned, free]

end

section

variable (sizeBytes : Content → Nat) (sha256 : Content → String) (settings : ArtifactSettings)
  (storage : StorageIdentity)

/-- An interrupted finalization can be repeated exactly if nobody has published the canonical
object and the session has not expired. -/
theorem interrupted_finalization_repeatable_iff (events : List (ArtifactEvent Content))
    (request : FinalizeRequest) (row : UploadSession) (token : ClaimToken) (clock : Nat → Time)
    (artifactId : UploadArtifactId)
    (held : (artifactRun sizeBytes sha256 settings storage events).state.sessions request.uploadId =
      some row)
    (interrupted : Interrupted settings row (clock 0))
    (intact : Intact sizeBytes sha256 storage
      (artifactRun sizeBytes sha256 settings storage events).state request row)
    (fresh : token ∉ (artifactRun sizeBytes sha256 settings storage events).state.tokens)
    (unused : ∀ artifact ∈ (artifactRun sizeBytes sha256 settings storage events).state.artifacts,
      artifact.id ≠ artifactId) :
    CompletedWithArtifact
        (artifactRun sizeBytes sha256 settings storage (events ++ retryFinalization
          (artifactRun sizeBytes sha256 settings storage events).phases.length request token clock
          artifactId)).state request.uploadId ↔
      (artifactRun sizeBytes sha256 settings storage events).state.objects row.canonicalObjectKey =
          none ∧
        expiryCheck row clock < row.expiresAt := by
  have sound := (artifactRun_sound sizeBytes sha256 settings storage events).1
  rw [artifactRun_append]
  generalize artifactRun sizeBytes sha256 settings storage events = situation at *
  rcases situation with ⟨store, phases⟩
  have launched : (artifactWorkforce sizeBytes sha256 settings storage).step ⟨store, phases⟩
      (.launch (.finalize request token)) =
      ⟨{ store with tokens := token :: store.tokens },
        phases ++ [.finalizer request token .requested]⟩ := by
    have fresh : token ∉ store.tokens := fresh
    simp [Workforce.step, artifactWorkforce, launchArtifactProcess, drawToken, fresh]
  rw [retryFinalization, run_cons, launched]
  have heldNow : ({ store with tokens := token :: store.tokens } :
      ArtifactStore Content).sessions request.uploadId = some row := held
  have consistent : row.Consistent := sound.consistent _ row held
  have isOpen : ¬row.status.Terminal := by
    rcases interrupted with ⟨finalizing, -⟩ | ⟨pending, -⟩
    · exact open_of_finalizing finalizing
    · exact open_of_pending pending
  have free : artifactTaken store (newArtifact row request.uploadId artifactId) = false :=
    artifactTaken_eq_false sound held isOpen unused
  rcases solo_interrupted heldNow interrupted consistent (intact.ofDeclared rfl rfl rfl) free with
    ⟨after, iff, alone⟩
  have whole := (artifactWorkforce sizeBytes sha256 settings storage).run_last phases
    ((List.range 12).map fun move => ArtifactChoice.go (clock move) .works artifactId)
    (some (.finalizer request token .requested)) { store with tokens := token :: store.tokens }
  rw [alone] at whole
  exact (congrArg (fun situation : ArtifactSituation Content =>
    CompletedWithArtifact situation.state request.uploadId) whole).to_iff.trans iff

end

/-! ## A repetition that succeeds, and one that does not -/

namespace UploadSample

/-- A finalizer stops after `moves` of its moves. -/
def stopped (moves : Nat) : List (ArtifactEvent Nat) :=
  uploaded ++ [.launch (.finalize request 0)] ++ proceed 2 moves ++ [.stop 0]

def retried (moves : Nat) : List (ArtifactEvent Nat) :=
  stopped moves ++ retryFinalization 0 request 1 (fun _ => seconds 100) 7

def left (moves : Nat) : Option UploadSession := (run (stopped moves)).state.sessions 0

end UploadSample

/-- The finalizer stops after its publication. -/
theorem own_publication_blocks_repetition :
    (UploadSample.left 8).any (fun row =>
        Interrupted UploadSample.settings row (seconds 100) && seconds 100 < row.expiresAt) = true ∧
      uploadLeaseRefusal (UploadSample.run (UploadSample.stopped 8)).state UploadSample.request =
        none ∧
      (UploadSample.run (UploadSample.stopped 8)).state.objects (stagingObjectKey 2 0) = some 5 ∧
      ((UploadSample.run (UploadSample.retried 8)).state.sessions 0).map
          (fun row => (row.status, row.failureCode)) =
        some (.failed, some "storage_publish_failed") ∧
      ¬CompletedWithArtifact (UploadSample.run (UploadSample.retried 8)).state 0 := by
  refine ⟨by decide +kernel, by decide +kernel, by decide +kernel, by decide +kernel, ?_⟩
  rintro ⟨row, _, held, completed, -⟩
  have status : ((UploadSample.run (UploadSample.retried 8)).state.sessions 0).map (·.status) =
      some .failed := by decide +kernel
  rw [held] at status
  nomatch completed.symm.trans (Option.some.inj status)

/-- The finalizer stops before its publication. -/
theorem repetition_before_publication :
    CompletedWithArtifact (UploadSample.run (UploadSample.retried 7)).state 0 :=
  (interrupted_finalization_repeatable_iff id (fun _ => "digest") UploadSample.settings
    UploadSample.storage (UploadSample.stopped 7) UploadSample.request
    ((UploadSample.left 7).get (by decide +kernel)) 1 (fun _ => seconds 100) 7 (by decide +kernel)
    (by decide +kernel) ⟨by decide +kernel, by decide +kernel, by decide +kernel, 5,
      by decide +kernel, by decide +kernel, by decide +kernel⟩
    (by decide +kernel) (by decide +kernel)).mpr ⟨by decide +kernel, by decide +kernel⟩

/-! ## The last transaction

The artifact table has a unique constraint of its own, which no finalization of a real Worker's
artifact ever meets. (A fake Worker outside production may also register artifacts without an
upload.)
-/

/-- As long as a session is open no artifact has its attempt, type and digest, so that the last
transaction of a finalization fails only for its lease or for its claim. -/
theorem finalization_neverConflicts (sizeBytes : Content → Nat)
    (sha256 : Content → String) (settings : ArtifactSettings) (storage : StorageIdentity)
    (events : List (ArtifactEvent Content)) :
    let store := (artifactRun sizeBytes sha256 settings storage events).state
    (∀ uploadId row, store.sessions uploadId = some row → ¬row.status.Terminal →
      ∀ artifact ∈ store.artifacts,
        (artifact.attemptId, artifact.artifactType, artifact.sha256) ≠
          (row.attemptId, row.artifactType, row.expectedSha256)) ∧
    ∀ request token now artifactId,
      (∀ artifact ∈ store.artifacts, artifact.id ≠ artifactId) →
        ((commitFinalization store request token now artifactId).1 = .answered (.ok artifactId) ↔
          uploadLeaseRefusal store request = none ∧ ∃ row,
            store.sessions request.uploadId = some row ∧ row.status = .finalizing ∧
              row.finalizationToken = some token) := by
  intro store
  have sound : store.Sound := (artifactRun_sound sizeBytes sha256 settings storage events).1
  exact ⟨fun _ _ held isOpen => open_unrecorded sound held isOpen,
    fun _ _ _ _ unused => commitFinalization_eq_ok_iff sound unused⟩

/-- A finalizer that has published is about to commit. -/
theorem finalization_neverConflicts_published :
    (commitFinalization (UploadSample.run (UploadSample.stopped 8)).state UploadSample.request 0
      (seconds 100) 7).1 = .answered (.ok 7) :=
  ((finalization_neverConflicts id (fun _ => "digest") UploadSample.settings UploadSample.storage
    (UploadSample.stopped 8)).2 UploadSample.request 0 (seconds 100) 7 (by decide +kernel)).mpr
    ⟨by decide +kernel, (UploadSample.left 8).get (by decide +kernel), by decide +kernel,
      by decide +kernel, by decide +kernel⟩

end RvcOrchestrator.Manager

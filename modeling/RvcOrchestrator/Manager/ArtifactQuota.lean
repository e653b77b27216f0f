import RvcOrchestrator.Manager.ArtifactInit
import RvcOrchestrator.Manager.ArtifactLedger

/-! # The quota of an attempt

A session that has left the quota does not come back, so between the count under the lock
and the insertion the sessions of the attempt can only become fewer.
-/

namespace RvcOrchestrator.Manager

open RvcOrchestrator.Foundation RvcOrchestrator.Contracts

variable {Content Digest : Type}

/-- If every element that is selected was selected before with the same size, then there
are not more of them, and they are not larger. -/
theorem filterMap_shrinks {α β : Type} (size : β → Nat) {before after : α → Option β}
    (kept : ∀ element selected, after element = some selected →
      ∃ earlier, before element = some earlier ∧ size selected = size earlier)
    (elements : List α) :
    (elements.filterMap after).length ≤ (elements.filterMap before).length ∧
      ((elements.filterMap after).map size).sum ≤ ((elements.filterMap before).map size).sum := by
  induction elements with
  | nil => exact ⟨le_refl _, le_refl _⟩
  | cons head tail induction =>
      cases selects : after head with
      | none =>
          rw [List.filterMap_cons_none selects]
          cases selected : before head with
          | none =>
              rw [List.filterMap_cons_none selected]
              exact induction
          | some earlier =>
              rw [List.filterMap_cons_some selected, List.length_cons, List.map_cons,
                List.sum_cons]
              omega
      | some selected =>
          rcases kept head selected selects with ⟨earlier, selectedBefore, same⟩
          rw [List.filterMap_cons_some selects, List.filterMap_cons_some selectedBefore]
          simp only [List.length_cons, List.map_cons, List.sum_cons]
          omega

/-! ## What the quota counts -/

theorem UploadSession.quotaSession_of_not_abandoned {row : UploadSession}
    (kept : ¬row.status.Abandoned) : row.QuotaSession := by
  cases status : row.status with
  | pending => exact .inl status
  | finalizing => exact .inr (.inl status)
  | completed => exact .inr (.inr (.inl status))
  | failed => exact absurd (.inl status) kept
  | expired => exact absurd (.inr status) kept

/-- No update brings a session back into the quota. -/
theorem UploadSession.Amends.quotaSession {claimant : Option ClaimToken}
    {marked : CleanupKind → Prop} {row row' : UploadSession}
    (amends : row.Amends claimant marked row') (counts : row'.QuotaSession) :
    row.QuotaSession := by
  by_cases abandoned : row.status.Abandoned
  · have same : row'.status = row.status := amends.absorbing (.inr abandoned)
    rcases counts with pending | finalizing | completed | ⟨-, unfinished⟩
    · exact .inl (same ▸ pending)
    · exact .inr (.inl (same ▸ finalizing))
    · exact .inr (.inr (.inl (same ▸ completed)))
    · refine .inr (.inr (.inr ⟨abandoned, ?_⟩))
      rcases unfinished with staging | canonical
      · left
        by_contra completed
        exact amends.marksKept .staging completed staging
      · right
        by_contra completed
        exact amends.marksKept .canonical completed canonical
  · exact quotaSession_of_not_abandoned abandoned

namespace ArtifactStore

variable {store store' : ArtifactStore Content} {attemptId : AttemptId} {uploadId : UploadId}
  {row : UploadSession}

theorem quotaSession_eq_some : store.quotaSession attemptId uploadId = some row ↔
    store.sessions uploadId = some row ∧ row.attemptId = attemptId ∧ row.QuotaSession := by
  simp [quotaSession, Option.filter_eq_some_iff]

structure Lightens (store store' : ArtifactStore Content) : Prop where
  uploads : store'.uploads = store.uploads
  kept : ∀ attemptId uploadId row', store'.quotaSession attemptId uploadId = some row' →
    ∃ row, store.quotaSession attemptId uploadId = some row ∧
      row'.expectedSizeBytes = row.expectedSizeBytes

theorem Lightens.sessionCount_le (lightens : Lightens store store') (attemptId : AttemptId) :
    store'.sessionCount attemptId ≤ store.sessionCount attemptId := by
  rw [sessionCount, sessionCount, quotaSessions, quotaSessions, lightens.uploads]
  exact (filterMap_shrinks _ (lightens.kept attemptId) store.uploads).1

theorem Lightens.activeBytes_le (lightens : Lightens store store') (attemptId : AttemptId) :
    store'.activeBytes attemptId ≤ store.activeBytes attemptId := by
  rw [activeBytes, activeBytes, quotaSessions, quotaSessions, lightens.uploads]
  exact (filterMap_shrinks _ (lightens.kept attemptId) store.uploads).2

theorem Advances.lightens {claimant : Option ClaimToken} {mark : Option (UploadId × CleanupKind)}
    (advances : Advances claimant mark store store') : Lightens store store' where
  uploads := advances.uploads
  kept attemptId uploadId row' counted := by
    rcases quotaSession_eq_some.mp counted with ⟨found', ofAttempt, counts⟩
    rcases advances.past uploadId row' found' with ⟨row, found, amends⟩
    have sameAttempt : row'.declared.attemptId = row.declared.attemptId :=
      congrArg UploadSession.attemptId amends.declared
    have sameSize : row'.declared.expectedSizeBytes = row.declared.expectedSizeBytes :=
      congrArg UploadSession.expectedSizeBytes amends.declared
    refine ⟨row, quotaSession_eq_some.mpr ⟨found, ?_, amends.quotaSession counts⟩, sameSize⟩
    exact sameAttempt.symm.trans ofAttempt

theorem Commits.lightens (commits : Commits uploadId store store') : Lightens store store' := by
  rcases commits with ⟨token, now, artifactId, row, completed, found, updated, -, rfl⟩
  rcases completeUpload_eq updated with ⟨finalizing, -, declared, -⟩
  constructor
  · rfl
  · intro attemptId other row' counted
    rcases quotaSession_eq_some.mp counted with ⟨found', ofAttempt, counts⟩
    change Function.update store.sessions uploadId (some completed) other = some row' at found'
    by_cases same : other = uploadId
    · subst same
      rw [Function.update_self] at found'
      rcases Option.some.inj found' with rfl
      have sameAttempt : completed.declared.attemptId = row.declared.attemptId :=
        congrArg UploadSession.attemptId declared
      have sameSize : completed.declared.expectedSizeBytes = row.declared.expectedSizeBytes :=
        congrArg UploadSession.expectedSizeBytes declared
      refine ⟨row, quotaSession_eq_some.mpr ⟨found, ?_, .inr (.inl finalizing)⟩, sameSize⟩
      exact sameAttempt.symm.trans ofAttempt
    · rw [Function.update_of_ne same] at found'
      exact ⟨row', quotaSession_eq_some.mpr ⟨found', ofAttempt, counts⟩, rfl⟩

/-! ### New sessions -/

def Known (store : ArtifactStore Content) : Prop :=
  ∀ uploadId ∈ store.uploads, ∃ row, store.sessions uploadId = some row

theorem Known.lightens (known : store.Known) (uploads : store'.uploads = store.uploads)
    (grows : Grows store store') : store'.Known := by
  intro uploadId member
  rcases known uploadId (uploads ▸ member) with ⟨row, found⟩
  rcases grows uploadId row found with ⟨row', found', -⟩
  exact ⟨row', found'⟩

theorem Known.creates (known : store.Known) (creates : Creates uploadId row store store') :
    store'.Known := by
  rcases creates with ⟨absent, -, rfl⟩
  intro other member
  by_cases same : other = uploadId
  · subst same
    exact ⟨row, Function.update_self ..⟩
  · rcases List.mem_cons.mp member with new | earlier
    · exact absurd new same
    · rcases known other earlier with ⟨before, found⟩
      exact ⟨before, (Function.update_of_ne same ..).trans found⟩

theorem Creates.quotaSessions (creates : Creates uploadId row store store') (known : store.Known)
    (counts : row.QuotaSession) (attemptId : AttemptId) :
    store'.quotaSessions attemptId =
      if row.attemptId = attemptId then row :: store.quotaSessions attemptId
      else store.quotaSessions attemptId := by
  rcases creates with ⟨absent, -, same⟩
  have uploads : store'.uploads = uploadId :: store.uploads := by rw [same]
  have sessions : store'.sessions = Function.update store.sessions uploadId (some row) := by
    rw [same]
  have others : store.uploads.filterMap (store'.quotaSession attemptId) =
      store.quotaSessions attemptId := by
    apply List.filterMap_congr
    intro other member
    have different : other ≠ uploadId := by
      rintro rfl
      rcases known other member with ⟨before, found⟩
      cases absent.symm.trans found
    rw [quotaSession, sessions, Function.update_of_ne different]
    rfl
  have own : store'.quotaSession attemptId uploadId =
      if row.attemptId = attemptId then some row else none := by
    rw [quotaSession, sessions, Function.update_self]
    by_cases here : row.attemptId = attemptId
    · simp [here, counts]
    · simp [here]
  rw [ArtifactStore.quotaSessions, uploads]
  split
  · next here =>
      rw [if_pos here] at own
      rw [List.filterMap_cons_some own, others]
  · next elsewhere =>
      rw [if_neg elsewhere] at own
      rw [List.filterMap_cons_none own, others]

/-! ### Attempts within their quota -/

structure WithinQuota (initSettings : UploadInitSettings) (store : ArtifactStore Content) :
    Prop where
  known : store.Known
  sessions : ∀ attemptId,
    store.sessionCount attemptId ≤ initSettings.artifactAttemptMaxSessions
  bytes : ∀ attemptId, store.activeBytes attemptId ≤ initSettings.artifactAttemptMaxBytes

variable {initSettings : UploadInitSettings}

theorem WithinQuota.lightens (within : WithinQuota initSettings store)
    (lightens : Lightens store store') (grows : Grows store store') :
    WithinQuota initSettings store' where
  known := within.known.lightens lightens.uploads grows
  sessions attemptId := (lightens.sessionCount_le attemptId).trans (within.sessions attemptId)
  bytes attemptId := (lightens.activeBytes_le attemptId).trans (within.bytes attemptId)

theorem WithinQuota.creates (within : WithinQuota initSettings store)
    (creates : Creates uploadId row store store') (counts : row.QuotaSession)
    (sessions : store.sessionCount row.attemptId < initSettings.artifactAttemptMaxSessions)
    (bytes : store.activeBytes row.attemptId + row.expectedSizeBytes ≤
      initSettings.artifactAttemptMaxBytes) :
    WithinQuota initSettings store' where
  known := within.known.creates creates
  sessions attemptId := by
    rw [sessionCount, creates.quotaSessions within.known counts]
    split
    · next own =>
        subst own
        exact sessions
    · exact within.sessions attemptId
  bytes attemptId := by
    rw [activeBytes, creates.quotaSessions within.known counts]
    split
    · next own =>
        subst own
        rw [List.map_cons, List.sum_cons, Nat.add_comm]
        exact bytes
    · exact within.bytes attemptId

end ArtifactStore

/-! ## The request that opens a session -/

section

variable {fingerprint : UploadDescription → Digest}
  {settings : ArtifactSettings} {initSettings : UploadInitSettings} {storage : StorageIdentity}
  {request : UploadInitRequest} {uploadId : UploadId} {store store' : UploadStore Content Digest}
  {stage : InitStage Digest} {choice : InitChoice}

/-- A transaction that is open afterwards was open before, and has kept its locks. -/
def KeepsLocks (before after : Locks UploadId AttemptId) (uploadId : UploadId) : Prop :=
  uploadId ∈ after.active → uploadId ∈ before.active ∧
    ∀ attemptId, before.Holds uploadId attemptId → after.Holds uploadId attemptId

theorem KeepsLocks.refl (locks : Locks UploadId AttemptId) : KeepsLocks locks locks uploadId :=
  fun active => ⟨active, fun _ holds => holds⟩

theorem keepsLocks_start {other : UploadId} (locks : Locks UploadId AttemptId)
    (different : other ≠ uploadId) : KeepsLocks locks (locks.start uploadId) other := by
  intro active
  rcases Locks.mem_active_start.mp active with same | earlier
  · exact absurd same different
  · exact ⟨earlier, fun _ holds => holds⟩

theorem keepsLocks_close {other : UploadId} (locks : Locks UploadId AttemptId) :
    KeepsLocks locks (locks.close uploadId) other := by
  intro active
  rcases Locks.mem_active_close.mp active with ⟨earlier, different⟩
  exact ⟨earlier, fun _ holds => Locks.close_holds.mpr ⟨holds, different⟩⟩

theorem keepsLocks_acquire {other : UploadId} {locks later : Locks UploadId AttemptId}
    {attemptId : AttemptId} (acquired : locks.acquire uploadId attemptId = some later) :
    KeepsLocks locks later other := by
  intro active
  rw [Locks.acquire_active acquired] at active
  exact ⟨active, fun _ holds => (Locks.acquire_holds acquired).mpr (.inl holds)⟩

/-! ### What a statement changes -/

/-- Only its own identifier and its own locks are concerned. -/
structure InitFrame (uploadId : UploadId) (store store' : UploadStore Content Digest) : Prop where
  drawn : store'.drawn = store.drawn
  locks : ∀ other, other ≠ uploadId → KeepsLocks store.locks store'.locks other

theorem InitFrame.refl : InitFrame uploadId store store where
  drawn := rfl
  locks _ _ := .refl _

theorem InitFrame.goOn (stage : InitStage Digest) :
    InitFrame uploadId store (goOnInit uploadId store stage).2 := by
  unfold goOnInit
  split
  · exact .refl
  · exact ⟨rfl, fun _ _ => keepsLocks_close _⟩

theorem goOnInit_ledger (stage : InitStage Digest) :
    (goOnInit uploadId store stage).2.ledger = store.ledger := by
  unfold goOnInit
  split <;> rfl

/-! ### What has been measured -/

def InitStage.measures : InitStage Digest → Bool
  | .counting _ | .summing _ | .inserting _ => true
  | _ => false

def InitStage.Fits (initSettings : UploadInitSettings) (store : UploadStore Content Digest)
    (request : UploadInitRequest) (uploadId : UploadId) (stage : InitStage Digest) : Prop :=
  uploadId ∈ store.locks.active →
    match stage with
    | .counting _ => store.locks.Holds uploadId request.attemptId
    | .summing _ =>
        store.locks.Holds uploadId request.attemptId ∧
          store.ledger.sessionCount request.attemptId < initSettings.artifactAttemptMaxSessions
    | .inserting _ =>
        store.locks.Holds uploadId request.attemptId ∧
          store.ledger.sessionCount request.attemptId < initSettings.artifactAttemptMaxSessions ∧
          store.ledger.activeBytes request.attemptId + request.sizeBytes ≤
            initSettings.artifactAttemptMaxBytes
    | _ => True

theorem InitStage.Fits.ofUnmeasured (unmeasured : stage.measures = false) :
    stage.Fits initSettings store request uploadId := by
  intro _
  cases stage with
  | counting reservation => cases unmeasured
  | summing reservation => cases unmeasured
  | inserting reservation => cases unmeasured
  | _ => trivial

/-- It still holds after a change that keeps the locks and adds nothing to the attempt. -/
theorem InitStage.Fits.kept (fits : stage.Fits initSettings store request uploadId)
    (locks : KeepsLocks store.locks store'.locks uploadId)
    (lighter : store.locks.Holds uploadId request.attemptId →
      store'.ledger.sessionCount request.attemptId ≤ store.ledger.sessionCount request.attemptId ∧
        store'.ledger.activeBytes request.attemptId ≤
          store.ledger.activeBytes request.attemptId) :
    stage.Fits initSettings store' request uploadId := by
  intro active
  have before := fits (locks active).1
  cases stage with
  | counting reservation => exact (locks active).2 _ before
  | summing reservation =>
      have fewer := (lighter before.1).1
      exact ⟨(locks active).2 _ before.1, lt_of_le_of_lt fewer before.2⟩
  | inserting reservation =>
      rcases before with ⟨holds, sessions, bytes⟩
      rcases lighter holds with ⟨fewer, smaller⟩
      refine ⟨(locks active).2 _ holds, lt_of_le_of_lt fewer sessions, ?_⟩
      omega
  | _ => trivial

theorem settleExisting_unmeasured (found : FoundUpload Digest) (now : Time) :
    (settleExisting request found now).measures = false := by
  unfold settleExisting
  split
  · split <;> rfl
  · unfold replaceExpired
    split <;> rfl

/-! ### One statement -/

variable [DecidableEq Digest]

theorem advanceInit_frame : InitFrame uploadId store
    (advanceInit fingerprint settings initSettings storage request uploadId choice store
      stage).2 := by
  unfold advanceInit
  split
  · exact .refl
  · cases stage with
    | requested => exact .refl
    | finding search =>
        simp only [advanceInitStage]
        split <;> exact .goOn _
    | deduplicating search =>
        simp only [advanceInitStage]
        split <;> exact .goOn _
    | recovering found cutoff => exact ⟨rfl, fun _ _ => .refl _⟩
    | refreshing id =>
        simp only [advanceInitStage]
        split <;> exact .refl
    | expiringWrite found holder => exact ⟨rfl, fun _ _ => .refl _⟩
    | expiring found => exact ⟨rfl, fun _ _ => .refl _⟩
    | reloading id expired =>
        simp only [advanceInitStage]
        split
        · exact .refl
        · split <;> exact .refl
    | replacing search generation => exact .goOn _
    | signing reservation =>
        simp only [advanceInitStage]
        split
        · exact ⟨rfl, fun _ different => keepsLocks_start _ different⟩
        · exact .refl
    | leasing reservation =>
        simp only [advanceInitStage]
        split
        · exact .goOn _
        · exact .refl
    | locking reservation =>
        simp only [advanceInitStage]
        split
        · exact .refl
        · next locks acquired => exact ⟨rfl, fun _ _ => keepsLocks_acquire acquired⟩
    | counting reservation =>
        simp only [advanceInitStage]
        split
        · exact .goOn _
        · exact .refl
    | summing reservation =>
        simp only [advanceInitStage]
        split
        · exact .goOn _
        · exact .refl
    | inserting reservation =>
        simp only [advanceInitStage, insertUpload]
        split <;> exact ⟨rfl, fun _ _ => keepsLocks_close _⟩
    | answering found => exact .refl
    | answered answer => exact .refl

open ArtifactStore

def Reserves (storage : StorageIdentity) (request : UploadInitRequest) (uploadId : UploadId)
    (store store' : UploadStore Content Digest) (stage : InitStage Digest) : Prop :=
  ∃ reservation now, stage = .inserting reservation ∧ uploadId ∈ store.locks.active ∧
    Creates uploadId (reservedUpload storage request uploadId reservation now) store.ledger
      store'.ledger

theorem advanceInit_ledger :
    Advances none none store.ledger (advanceInit fingerprint settings initSettings storage request
        uploadId choice store stage).2.ledger ∨
      Reserves storage request uploadId store (advanceInit fingerprint settings initSettings
        storage request uploadId choice store stage).2 stage := by
  unfold advanceInit
  split
  · exact .inl .refl
  · next opened =>
      have kept (next : InitStage Digest) :
          Advances none none store.ledger (goOnInit uploadId store next).2.ledger :=
        .ofEq (goOnInit_ledger next)
      cases stage with
      | requested => exact .inl .refl
      | finding search =>
          simp only [advanceInitStage]
          split <;> exact .inl (kept _)
      | deduplicating search =>
          simp only [advanceInitStage]
          split <;> exact .inl (kept _)
      | recovering found cutoff =>
          exact .inl (.amend fun _ _ _ => recoverStaleFinalizing_amends)
      | refreshing id =>
          simp only [advanceInitStage]
          split <;> exact .inl .refl
      | expiringWrite found holder =>
          exact .inl (.amend fun _ _ _ => expireArtifactUploadWrite_amends)
      | expiring found => exact .inl (.amend fun _ _ _ => expireUpload_amends)
      | reloading id expired =>
          simp only [advanceInitStage]
          split
          · exact .inl .refl
          · split <;> exact .inl .refl
      | replacing search generation => exact .inl (kept _)
      | signing reservation =>
          simp only [advanceInitStage]
          split <;> exact .inl .refl
      | leasing reservation =>
          simp only [advanceInitStage]
          split
          · exact .inl (kept _)
          · exact .inl .refl
      | locking reservation =>
          simp only [advanceInitStage]
          split <;> exact .inl .refl
      | counting reservation =>
          simp only [advanceInitStage]
          split
          · exact .inl (kept _)
          · exact .inl .refl
      | summing reservation =>
          simp only [advanceInitStage]
          split
          · exact .inl (kept _)
          · exact .inl .refl
      | inserting reservation =>
          simp only [advanceInitStage, insertUpload]
          split
          · exact .inl .refl
          · next free =>
              simp only [not_or] at free
              refine .inr ⟨reservation, choice.now, rfl, ?_, ?_, ?_, rfl⟩
              · by_contra closed
                exact opened ⟨rfl, closed⟩
              · simpa using free.1
              · exact Bool.eq_false_of_not_eq_true free.2.1
      | answering found => exact .inl .refl
      | answered answer => exact .inl .refl

theorem meetExisting_unmeasured (found : FoundUpload Digest) (now : Time)
    (search : UploadSearch) :
    (meetExisting fingerprint settings storage request found now search).measures = false := by
  cases search with
  | first =>
      simp only [meetExisting]
      split
      · rfl
      · split
        · rfl
        · split
          · rfl
          · exact settleExisting_unmeasured found now
  | beforeReservation reservation =>
      simp only [meetExisting]
      split
      · rfl
      · split <;> rfl
  | afterConflict =>
      simp only [meetExisting]
      split
      · rfl
      · split <;> rfl

theorem meetReplacement_unmeasured (found : Option (FoundUpload Digest)) (generation : Nat)
    (now : Time) (search : UploadSearch) :
    (meetReplacement fingerprint initSettings request found generation now search).measures =
      false := by
  cases search with
  | first =>
      simp only [meetReplacement]
      split
      · rfl
      · split <;> rfl
  | beforeReservation reservation =>
      simp only [meetReplacement]
      split <;> rfl
  | afterConflict =>
      simp only [meetReplacement]
      split
      · rfl
      · split <;> rfl

theorem advanceInit_fits (fits : stage.Fits initSettings store request uploadId) :
    (advanceInit fingerprint settings initSettings storage request uploadId choice store
      stage).1.Fits initSettings (advanceInit fingerprint settings initSettings storage request
        uploadId choice store stage).2 request uploadId := by
  unfold advanceInit
  split
  · exact .ofUnmeasured rfl
  · cases stage with
    | requested =>
        apply InitStage.Fits.ofUnmeasured
        simp only [advanceInitStage, beginInit]
        split
        · rfl
        · split
          · rfl
          · split <;> rfl
    | finding search =>
        apply InitStage.Fits.ofUnmeasured
        simp only [advanceInitStage]
        split
        · rfl
        · exact meetExisting_unmeasured _ _ _
    | deduplicating search =>
        apply InitStage.Fits.ofUnmeasured
        simp only [advanceInitStage]
        split
        · cases search <;> rfl
        · exact meetExisting_unmeasured _ _ _
    | recovering found cutoff =>
        apply InitStage.Fits.ofUnmeasured
        simp only [advanceInitStage]
        split
        · exact settleExisting_unmeasured _ _
        · rfl
    | refreshing id =>
        apply InitStage.Fits.ofUnmeasured
        simp only [advanceInitStage]
        split
        · rfl
        · exact settleExisting_unmeasured _ _
    | expiringWrite found holder => exact .ofUnmeasured rfl
    | expiring found =>
        apply InitStage.Fits.ofUnmeasured
        simp only [advanceInitStage]
        split <;> rfl
    | reloading id expired =>
        apply InitStage.Fits.ofUnmeasured
        simp only [advanceInitStage]
        split
        · rfl
        · split
          · unfold replaceExpired
            split <;> rfl
          · rfl
    | replacing search generation =>
        exact .ofUnmeasured (meetReplacement_unmeasured _ _ _ _)
    | signing reservation =>
        apply InitStage.Fits.ofUnmeasured
        simp only [advanceInitStage]
        split <;> rfl
    | leasing reservation =>
        apply InitStage.Fits.ofUnmeasured
        simp only [advanceInitStage]
        split <;> rfl
    | locking reservation =>
        simp only [advanceInitStage]
        split
        · exact .ofUnmeasured rfl
        · next locks acquired =>
            intro _
            exact (Locks.acquire_holds acquired).mpr (.inr ⟨rfl, rfl⟩)
    | counting reservation =>
        simp only [advanceInitStage]
        split
        · exact .ofUnmeasured rfl
        · next fewer =>
            intro active
            exact ⟨fits active, not_le.mp fewer⟩
    | summing reservation =>
        simp only [advanceInitStage]
        split
        · exact .ofUnmeasured rfl
        · next smaller =>
            intro active
            exact ⟨(fits active).1, (fits active).2, not_lt.mp smaller⟩
    | inserting reservation =>
        apply InitStage.Fits.ofUnmeasured
        simp only [advanceInitStage, insertUpload]
        split <;> rfl
    | answering found => exact .ofUnmeasured rfl
    | answered answer => exact .ofUnmeasured rfl

end

/-! ## Whole runs -/

section

open ArtifactStore

variable {sizeBytes : Content → Nat} {sha256 : Content → String}
  {fingerprint : UploadDescription → Digest} {settings : ArtifactSettings}
  {initSettings : UploadInitSettings} {storage : StorageIdentity}
  {store store' : UploadStore Content Digest}

def UploadPhase.name : UploadPhase Content Digest → Option UploadId
  | .artifact _ => none
  | .init _ uploadId _ => some uploadId

def UploadStore.Drawn (store : UploadStore Content Digest) (uploadId : UploadId) : Prop :=
  uploadId ∈ store.drawn

def UploadPhase.Fits (initSettings : UploadInitSettings) (store : UploadStore Content Digest) :
    UploadPhase Content Digest → Prop
  | .artifact phase => phase.Fits store.ledger
  | .init request uploadId stage => stage.Fits initSettings store request uploadId

structure UploadStore.Sound (initSettings : UploadInitSettings)
    (store : UploadStore Content Digest) : Prop where
  ledger : store.ledger.Sound
  within : WithinQuota initSettings store.ledger

theorem UploadStore.Sound.advances {claimant : Option ClaimToken}
    {mark : Option (UploadId × CleanupKind)} (sound : store.Sound initSettings)
    (advances : Advances claimant mark store.ledger store'.ledger) :
    store'.Sound initSettings where
  ledger := sound.ledger.advances advances
  within := sound.within.lightens advances.lightens advances.grows

theorem UploadStore.Sound.commits {uploadId : UploadId} (sound : store.Sound initSettings)
    (commits : Commits uploadId store.ledger store'.ledger) : store'.Sound initSettings where
  ledger := sound.ledger.commits commits
  within := sound.within.lightens commits.lightens commits.grows

/-- A request that waits sees of another step only that its attempt has become lighter. -/
theorem UploadPhase.Fits.lightens {phase : UploadPhase Content Digest}
    (fits : phase.Fits initSettings store) (grows : Grows store.ledger store'.ledger)
    (lightens : Lightens store.ledger store'.ledger)
    (locks : ∀ uploadId, phase.name = some uploadId →
      KeepsLocks store.locks store'.locks uploadId) : phase.Fits initSettings store' := by
  cases phase with
  | artifact phase => exact ArtifactPhase.Fits.grows fits grows
  | init request uploadId stage =>
      apply InitStage.Fits.kept fits (locks uploadId rfl)
      intro _
      exact ⟨lightens.sessionCount_le _, lightens.activeBytes_le _⟩

theorem launchUpload_keeps {launch : UploadLaunch Content} {phase : UploadPhase Content Digest}
    (sound : store.Sound initSettings) (launched : launchUpload launch store = some (phase, store')) :
    store'.Sound initSettings ∧ phase.Fits initSettings store' ∧
      ∀ other : UploadPhase Content Digest, other.Fits initSettings store →
        other.Fits initSettings store' := by
  cases launch with
  | artifact launch =>
      rcases Option.map_eq_some_iff.mp launched with ⟨⟨begun, ledger⟩, started, same⟩
      cases same
      rcases launchArtifactProcess_store started with ⟨advances, fits⟩
      refine ⟨sound.advances advances, fits, ?_⟩
      intro other fitted
      exact fitted.lightens advances.grows advances.lightens fun _ _ => .refl _
  | init request uploadId =>
      simp only [launchUpload, Option.ite_none_left_eq_some, Option.some.injEq,
        Prod.mk.injEq] at launched
      rcases launched with ⟨-, rfl, rfl⟩
      have begun : (InitStage.requested : InitStage Digest).Fits initSettings
          { store with drawn := uploadId :: store.drawn } request uploadId := .ofUnmeasured rfl
      refine ⟨⟨sound.ledger, sound.within⟩, begun, ?_⟩
      intro other fitted
      have same : Advances none none store.ledger store.ledger := .refl
      exact fitted.lightens same.grows same.lightens fun _ _ => .refl _

theorem disturbUploads_keeps {disturbance : UploadDisturbance} (sound : store.Sound initSettings)
    (disturbed : disturbUploads disturbance store = some store') :
    store'.Sound initSettings ∧
      ∀ other : UploadPhase Content Digest, other.Fits initSettings store →
        other.Fits initSettings store' := by
  cases disturbance with
  | lease leaseId lease =>
      rcases Option.some.inj disturbed with rfl
      have advances : Advances none none store.ledger
          { store.ledger with leases := Function.update store.ledger.leases leaseId lease } :=
        .ofSame rfl rfl (List.Subset.refl _) rfl
      refine ⟨sound.advances advances, ?_⟩
      intro other fitted
      exact fitted.lightens advances.grows advances.lightens fun _ _ => .refl _
  | abort uploadId =>
      rcases Option.some.inj disturbed with rfl
      have same : Advances none none store.ledger store.ledger := .refl
      refine ⟨⟨sound.ledger, sound.within⟩, ?_⟩
      intro other fitted
      exact fitted.lightens same.grows same.lightens fun _ _ => keepsLocks_close _

/-- A reservation is within the quota, and the requests that hold other locks see nothing
of it. -/
theorem Reserves.keeps {request : UploadInitRequest} {uploadId : UploadId}
    {stage : InitStage Digest} (reserves : Reserves storage request uploadId store store' stage)
    (sound : store.Sound initSettings) (fits : stage.Fits initSettings store request uploadId) :
    store'.Sound initSettings ∧ Grows store.ledger store'.ledger ∧
      ∀ other, other ≠ uploadId → ∀ attemptId, store.locks.Holds other attemptId →
        store'.ledger.quotaSessions attemptId = store.ledger.quotaSessions attemptId := by
  rcases reserves with ⟨reservation, now, rfl, active, creates⟩
  rcases fits active with ⟨holds, sessions, bytes⟩
  have counts : (reservedUpload storage request uploadId reservation now).QuotaSession := .inl rfl
  refine ⟨⟨sound.ledger.creates creates, ?_⟩, creates.grows, ?_⟩
  · exact sound.within.creates creates counts sessions bytes
  · intro other different attemptId locked
    rw [creates.quotaSessions sound.within.known counts, if_neg]
    rintro rfl
    exact different (locked.unique holds)

/-! ### All requests -/

variable [DecidableEq Digest]

theorem uploadNames :
    Workforce.Names
      (uploadWorkforce sizeBytes sha256 fingerprint settings initSettings storage)
      UploadPhase.name UploadStore.Drawn where
  launched := by
    intro launch store phase after launched
    cases launch with
    | artifact launch =>
        rcases Option.map_eq_some_iff.mp launched with ⟨begun, -, same⟩
        cases same
        refine ⟨fun _ drawn => drawn, ?_⟩
        intro own named
        cases named
    | init request uploadId =>
        simp only [uploadWorkforce, launchUpload, Option.ite_none_left_eq_some,
          Option.some.injEq, Prod.mk.injEq] at launched
        rcases launched with ⟨undrawn, rfl, rfl⟩
        refine ⟨fun _ drawn => List.mem_cons_of_mem _ drawn, ?_⟩
        intro own named
        rcases Option.some.inj named with rfl
        exact ⟨undrawn, List.mem_cons_self⟩
  moved choice phase store := by
    cases phase with
    | artifact phase =>
        refine ⟨fun _ drawn => drawn, ?_⟩
        intro next moved
        rcases Option.map_eq_some_iff.mp moved with ⟨advanced, -, same⟩
        cases same
        rfl
    | init request uploadId stage =>
        constructor
        · intro other drawn
          have same : (advanceInit fingerprint settings initSettings storage request uploadId
              choice.init store stage).2.drawn = store.drawn := advanceInit_frame.drawn
          exact (show other ∈ _ from same ▸ drawn)
        · intro next moved
          rcases Option.some.inj moved with rfl
          rfl
  disturbed := by
    intro disturbance store after disturbed other drawn
    cases disturbance with
    | lease leaseId lease =>
        cases disturbed
        exact drawn
    | abort uploadId =>
        cases disturbed
        exact drawn

theorem uploadWorkforce_preserves :
    Workforce.PreservesApart
      (uploadWorkforce sizeBytes sha256 fingerprint settings initSettings storage)
      (fun situation _ => Workforce.Named UploadPhase.name UploadStore.Drawn situation)
      (UploadStore.Sound initSettings) (fun store phase => phase.Fits initSettings store) where
  launched := by
    intro situation launch phase after _ sound launched
    rcases launchUpload_keeps sound launched with ⟨kept, fits, others⟩
    exact ⟨kept, fits, fun other _ => others other⟩
  moved := by
    intro situation place choice phase named found sound fits others
    cases phase with
    | artifact phase =>
        have grows : Grows situation.state.ledger (advanceArtifactProcess sizeBytes sha256
            settings storage choice.artifact phase situation.state.ledger).2 :=
          advanceArtifactProcess_grows fits
        have next : ∀ next, (advanceArtifactProcess sizeBytes sha256 settings storage
            choice.artifact phase situation.state.ledger).1.map .artifact = some next →
            UploadPhase.Fits initSettings { situation.state with
              ledger := (advanceArtifactProcess sizeBytes sha256 settings storage
                choice.artifact phase situation.state.ledger).2 } next := by
          intro next advanced
          rcases Option.map_eq_some_iff.mp advanced with ⟨own, isNext, rfl⟩
          exact advanceArtifactProcess_fits fits isNext
        rcases advanceArtifactProcess_store fits with advances | ⟨_, _, _, -, commits⟩
        · exact ⟨sound.advances advances, next, fun other member =>
            (others other member).lightens grows advances.lightens fun _ _ => .refl _⟩
        · exact ⟨sound.commits commits, next, fun other member =>
            (others other member).lightens grows commits.lightens fun _ _ => .refl _⟩
    | init request uploadId stage =>
        let after := advanceInit fingerprint settings initSettings storage request uploadId
          choice.init situation.state stage
        have frame : InitFrame uploadId situation.state after.2 := advanceInit_frame
        have effect : Advances none none situation.state.ledger after.2.ledger ∨
            Reserves storage request uploadId situation.state after.2 stage := advanceInit_ledger
        have apart : ∀ other ∈ situation.phases.eraseIdx place,
            other.name ≠ some uploadId := fun other member => named.apart found member rfl
        have next : ∀ next : UploadPhase Content Digest,
            some (.init request uploadId after.1) = some next →
              next.Fits initSettings after.2 := by
          intro next advanced
          rcases Option.some.inj advanced with rfl
          exact advanceInit_fits fits
        rcases effect with advances | reserves
        · refine ⟨sound.advances advances, next, ?_⟩
          intro other member
          apply (others other member).lightens advances.grows advances.lightens
          intro own isName
          apply frame.locks
          rintro rfl
          exact apart other member isName
        · rcases reserves.keeps sound fits with ⟨kept, grows, unseen⟩
          refine ⟨kept, next, ?_⟩
          intro other member
          cases other with
          | artifact other => exact ArtifactPhase.Fits.grows (others _ member) grows
          | init otherRequest otherId otherStage =>
              have different : otherId ≠ uploadId := by
                rintro rfl
                exact apart _ member rfl
              apply InitStage.Fits.kept (others _ member) (frame.locks otherId different)
              intro holds
              have same := unseen otherId different otherRequest.attemptId holds
              rw [sessionCount, sessionCount, activeBytes, activeBytes, same]
              exact ⟨le_refl _, le_refl _⟩
  disturbed := by
    intro situation disturbance after _ sound disturbed
    rcases disturbUploads_keeps sound disturbed with ⟨kept, others⟩
    exact ⟨kept, fun other _ => others other⟩

variable (sizeBytes sha256 fingerprint settings initSettings storage)

theorem uploadRun_sound (events : List (UploadEvent Content)) :
    (uploadRun sizeBytes sha256 fingerprint settings initSettings storage events :
      UploadSituation Content Digest).state.Sound initSettings := by
  let Kept (situation : UploadSituation Content Digest) : Prop :=
    Workforce.Named UploadPhase.name UploadStore.Drawn situation ∧
      situation.state.Sound initSettings ∧
        ∀ phase ∈ situation.phases, phase.Fits initSettings situation.state
  have empty : (UploadStore.empty : UploadStore Content Digest).Sound initSettings :=
    { ledger := .empty
      within :=
        { known := fun _ member => nomatch member
          sessions := fun _ => Nat.zero_le _
          bytes := fun _ => Nat.zero_le _ } }
  have kept : Kept (uploadRun sizeBytes sha256 fingerprint settings initSettings storage
      events) := by
    apply run_preserves Kept
    · rintro situation event ⟨named, sound, fits⟩
      exact ⟨uploadNames.step named event,
        uploadWorkforce_preserves.step named ⟨sound, fits⟩⟩
    · exact ⟨⟨List.nodup_nil, fun _ member => nomatch member⟩, empty,
        fun _ member => nomatch member⟩
  exact kept.2.1

/-- No set of sessions exceeds the quota of their attempt, and no content is twice in an
attempt. -/
structure AttemptQuotaKept (initSettings : UploadInitSettings) (store : ArtifactStore Content) :
    Prop where
  sessions : ∀ attemptId (ids : List UploadId), ids.Nodup →
    (∀ id ∈ ids, ∃ row, store.sessions id = some row ∧ row.attemptId = attemptId ∧
      row.QuotaSession) →
    ids.length ≤ initSettings.artifactAttemptMaxSessions
  bytes : ∀ attemptId (ids : List UploadId), ids.Nodup →
    (∀ id ∈ ids, ∃ row, store.sessions id = some row ∧ row.attemptId = attemptId ∧
      row.QuotaSession) →
    ((ids.filterMap store.sessions).map (·.expectedSizeBytes)).sum ≤
      initSettings.artifactAttemptMaxBytes
  deduplicated : ∀ first second firstRow secondRow, store.sessions first = some firstRow →
    store.sessions second = some secondRow → ¬firstRow.status.Abandoned →
    ¬secondRow.status.Abandoned → firstRow.attemptId = secondRow.attemptId →
    firstRow.artifactType = secondRow.artifactType →
    firstRow.expectedSha256 = secondRow.expectedSha256 → first = second

theorem selected_of_counted {ledger : ArtifactStore Content} {attemptId : AttemptId}
    {ids : List UploadId} (sound : ledger.Sound) (distinct : ids.Nodup)
    (counted : ∀ id ∈ ids, ∃ row, ledger.sessions id = some row ∧ row.attemptId = attemptId ∧
      row.QuotaSession) :
    ∃ selected, List.Perm selected (ids.filterMap ledger.sessions) ∧
      List.Sublist selected (ledger.quotaSessions attemptId) ∧
      (ids.filterMap ledger.sessions).length = ids.length := by
  have listed : ids ⊆ ledger.uploads := by
    intro id member
    rcases counted id member with ⟨row, found, -⟩
    exact sound.listed id row found
  have same : ids.filterMap (ledger.quotaSession attemptId) = ids.filterMap ledger.sessions := by
    apply List.filterMap_congr
    intro id member
    rcases counted id member with ⟨row, found, rest⟩
    rw [found, quotaSession_eq_some]
    exact ⟨found, rest⟩
  rcases distinct.subperm listed with ⟨chosen, permuted, sublist⟩
  refine ⟨chosen.filterMap (ledger.quotaSession attemptId), ?_, sublist.filterMap _, ?_⟩
  · rw [← same]
    exact permuted.filterMap _
  · apply le_antisymm (List.length_filterMap_le _ _)
    by_contra fewer
    rcases List.length_filterMap_lt_length_iff_exists.mp (not_le.mp fewer) with
      ⟨id, member, missing⟩
    rcases counted id member with ⟨row, found, -⟩
    cases missing.symm.trans found

theorem attemptQuota_kept (events : List (UploadEvent Content)) :
    AttemptQuotaKept initSettings (uploadRun sizeBytes sha256 fingerprint settings initSettings
      storage events : UploadSituation Content Digest).state.ledger := by
  have sound : (uploadRun sizeBytes sha256 fingerprint settings initSettings storage events :
      UploadSituation Content Digest).state.Sound initSettings :=
    uploadRun_sound sizeBytes sha256 fingerprint settings initSettings storage events
  constructor
  · intro attemptId ids distinct counted
    rcases selected_of_counted sound.ledger distinct counted with
      ⟨selected, permuted, sublist, length⟩
    calc ids.length = selected.length := by rw [permuted.length_eq, length]
      _ ≤ _ := sublist.length_le
      _ ≤ initSettings.artifactAttemptMaxSessions := sound.within.sessions attemptId
  · intro attemptId ids distinct counted
    rcases selected_of_counted sound.ledger distinct counted with
      ⟨selected, permuted, sublist, -⟩
    calc _ = (selected.map (·.expectedSizeBytes)).sum := (permuted.map _).sum_eq.symm
      _ ≤ _ := (sublist.map _).sum_le_sum fun _ _ => Nat.zero_le _
      _ ≤ initSettings.artifactAttemptMaxBytes := sound.within.bytes attemptId
  · intro first second firstRow secondRow found otherFound kept otherKept sameAttempt sameType
      sameDigest
    have key := (sound.ledger.consistent first firstRow found).deduplicated kept
    have otherKey := (sound.ledger.consistent second secondRow otherFound).deduplicated otherKept
    have same : secondRow.content = firstRow.content := by
      rw [UploadSession.content, UploadSession.content, sameAttempt, sameType, sameDigest]
    rw [same] at otherKey
    exact sound.ledger.deduplicated first second firstRow secondRow _ found otherFound key otherKey

end

end RvcOrchestrator.Manager

import RvcOrchestrator.Manager.ArtifactProcesses

/-! # What the updates of an upload session have in common -/

namespace RvcOrchestrator.Manager

open RvcOrchestrator.Foundation RvcOrchestrator.Contracts

/-! ## A row -/

namespace UploadSession

def declared (row : UploadSession) : UploadSession :=
  { row with
    artifactId := none
    dedupeKey := none
    status := .pending
    uploadWriteToken := none
    uploadHeartbeatAt := none
    finalizationToken := none
    cleanupToken := none
    cleanupHeartbeatAt := none
    uploadedAt := none
    finalizedAt := none
    stagingCleanup := ⟨none, none⟩
    canonicalCleanup := ⟨none, none⟩
    failureCode := none
    updatedAt := 0 }

def content (row : UploadSession) : AttemptId × ArtifactType × String :=
  (row.attemptId, row.artifactType, row.expectedSha256)

structure Consistent (row : UploadSession) : Prop where
  unclaimed : row.status ≠ .finalizing → row.finalizationToken = none
  uploaded : row.status = .finalizing → row.storageBackend = .disk → row.uploadedAt ≠ none
  deduplicated : ¬row.status.Abandoned → row.dedupeKey = some row.content
  cleaned : ∀ kind, (row.marks kind).completedAt ≠ none → row.status.Terminal

/-- What every update keeps. Only its claimant gains a claim by it, and only the objects
in `marked` are newly marked as cleaned up. -/
structure Amends (claimant : Option ClaimToken) (marked : CleanupKind → Prop)
    (row row' : UploadSession) : Prop where
  declared : row'.declared = row.declared
  artifactId : row'.artifactId = row.artifactId
  absorbing : row.status.Terminal → row'.status = row.status
  completed : row'.status = .completed → row.status = .completed
  dedupeKey : ∀ key, row'.dedupeKey = some key → row.dedupeKey = some key
  consistent : row.Consistent → row'.Consistent
  finalization : ∀ token, row'.finalizationToken = some token →
    row.finalizationToken = some token ∨ claimant = some token
  cleanup : ∀ token, row'.cleanupToken = some token →
    row.cleanupToken = some token ∨ claimant = some token
  marks : ∀ kind, (row'.marks kind).completedAt ≠ none →
    (row.marks kind).completedAt ≠ none ∨ marked kind ∧ row.status.Terminal
  marksKept : ∀ kind, (row.marks kind).completedAt ≠ none →
    (row'.marks kind).completedAt ≠ none

variable {claimant : Option ClaimToken} {marked : CleanupKind → Prop} {row row' : UploadSession}

theorem Amends.refl : Amends claimant marked row row where
  declared := rfl
  artifactId := rfl
  absorbing _ := rfl
  completed := id
  dedupeKey _ := id
  consistent := id
  finalization _ := .inl
  cleanup _ := .inl
  marks _ := .inl
  marksKept _ := id

theorem content_of_declared (same : row'.declared = row.declared) :
    row'.content = row.content := by
  have kept : row'.declared.content = row.declared.content := congrArg content same
  exact kept

theorem objectKey_of_declared (same : row'.declared = row.declared) (kind : CleanupKind) :
    row'.objectKey kind = row.objectKey kind := by
  have kept : row'.declared.objectKey kind = row.declared.objectKey kind :=
    congrArg (objectKey · kind) same
  cases kind
  · exact kept
  · exact kept

/-! ## Two rules -/

theorem Amends.ofSameStatus (declared : row'.declared = row.declared)
    (artifactId : row'.artifactId = row.artifactId) (status : row'.status = row.status)
    (dedupeKey : row'.dedupeKey = row.dedupeKey)
    (uploaded : row'.uploadedAt = none → row.uploadedAt = none)
    (finalization : row'.finalizationToken = row.finalizationToken)
    (cleanup : ∀ token, row'.cleanupToken = some token →
      row.cleanupToken = some token ∨ claimant = some token)
    (marks : ∀ kind, (row'.marks kind).completedAt ≠ none →
      (row.marks kind).completedAt ≠ none ∨ marked kind ∧ row.status.Terminal)
    (marksKept : ∀ kind, (row.marks kind).completedAt ≠ none →
      (row'.marks kind).completedAt ≠ none) :
    row.Amends claimant marked row' where
  declared := declared
  artifactId := artifactId
  absorbing _ := status
  completed := (status ▸ ·)
  dedupeKey key := (dedupeKey ▸ ·)
  consistent consistent := by
    constructor
    · rw [status, finalization]
      exact consistent.unclaimed
    · intro finalizing disk missing
      have kept : row'.declared.storageBackend = row.declared.storageBackend :=
        congrArg storageBackend declared
      exact consistent.uploaded (status ▸ finalizing) (kept.symm.trans disk) (uploaded missing)
    · rw [status, dedupeKey, content_of_declared declared]
      exact consistent.deduplicated
    · intro kind completed
      rw [status]
      rcases marks kind completed with before | ⟨-, terminal⟩
      · exact consistent.cleaned kind before
      · exact terminal
  finalization _ claimed := .inl (finalization ▸ claimed)
  cleanup := cleanup
  marks := marks
  marksKept := marksKept

/-- The session is open, and it is not claimed any more. -/
theorem Amends.ofUnclaimed (declared : row'.declared = row.declared)
    (artifactId : row'.artifactId = row.artifactId) (isOpen : ¬row.status.Terminal)
    (status : row'.status = .pending ∧ row'.dedupeKey = row.dedupeKey ∨
      row'.status.Abandoned ∧ row'.dedupeKey = none)
    (unclaimed : row.Consistent → row'.finalizationToken = none)
    (finalization : ∀ token, row'.finalizationToken = some token →
      row.finalizationToken = some token)
    (cleanup : row'.cleanupToken = row.cleanupToken) (marks : row'.marks = row.marks) :
    row.Amends claimant marked row' := by
  have left : row'.status ≠ .finalizing ∧ row'.status ≠ .completed := by
    rcases status with ⟨pending, -⟩ | ⟨failed | expired, -⟩
    · simp [pending]
    · simp [failed]
    · simp [expired]
  constructor
  · exact declared
  · exact artifactId
  · intro terminal
    exact absurd terminal isOpen
  · intro completed
    exact absurd completed left.2
  · intro key taken
    rcases status with ⟨-, same⟩ | ⟨-, released⟩
    · exact same ▸ taken
    · nomatch released.symm.trans taken
  · intro consistent
    constructor
    · exact fun _ => unclaimed consistent
    · intro finalizing
      exact absurd finalizing left.1
    · intro kept
      rcases status with ⟨-, same⟩ | ⟨abandoned, -⟩
      · rw [same, content_of_declared declared]
        exact consistent.deduplicated fun abandoned => isOpen (.inr abandoned)
      · exact absurd abandoned kept
    · intro kind completed
      rw [marks] at completed
      exact absurd (consistent.cleaned kind completed) isOpen
  · intro token claimed
    exact .inl (finalization token claimed)
  · intro token claimed
    exact .inl (cleanup ▸ claimed)
  · intro kind completed
    exact .inl (marks ▸ completed)
  · intro kind completed
    rw [marks]
    exact completed

end UploadSession

/-! ## The updates -/

open UploadSession

section

variable {claimant : Option ClaimToken} {marked : CleanupKind → Prop} {token : ClaimToken}
  {now cutoff : Time} {row row' candidate : UploadSession} {failureCode : String}

theorem open_of_pending (pending : row.status = .pending) : ¬row.status.Terminal := by
  simp [UploadStatus.Terminal, pending]

theorem open_of_finalizing (finalizing : row.status = .finalizing) : ¬row.status.Terminal := by
  simp [UploadStatus.Terminal, finalizing]

theorem claimUploadWrite_amends (updated : claimUploadWrite token now row = some row') :
    row.Amends claimant marked row' := by
  simp only [claimUploadWrite, Option.ite_none_right_eq_some, Option.some.injEq] at updated
  rcases updated with ⟨-, rfl⟩
  exact .ofSameStatus rfl rfl rfl rfl id rfl (fun _ => .inl) (fun _ => .inl) (fun _ => id)

theorem touchArtifactUploadWrite_amends
    (updated : touchArtifactUploadWrite token now row = some row') :
    row.Amends claimant marked row' := by
  simp only [touchArtifactUploadWrite, Option.ite_none_right_eq_some,
    Option.some.injEq] at updated
  rcases updated with ⟨-, rfl⟩
  exact .ofSameStatus rfl rfl rfl rfl id rfl (fun _ => .inl) (fun _ => .inl) (fun _ => id)

theorem clearArtifactUploadWrite_amends
    (updated : clearArtifactUploadWrite token now row = some row') :
    row.Amends claimant marked row' := by
  simp only [clearArtifactUploadWrite, Option.ite_none_right_eq_some,
    Option.some.injEq] at updated
  rcases updated with ⟨-, rfl⟩
  exact .ofSameStatus rfl rfl rfl rfl id rfl (fun _ => .inl) (fun _ => .inl) (fun _ => id)

theorem sealUpload_amends (updated : sealUpload token now row = some row') :
    row.Amends claimant marked row' := by
  simp only [sealUpload, Option.ite_none_right_eq_some, Option.some.injEq] at updated
  rcases updated with ⟨-, rfl⟩
  exact .ofSameStatus rfl rfl rfl rfl (fun missing => nomatch missing) rfl (fun _ => .inl)
    (fun _ => .inl) (fun _ => id)

theorem touchArtifactFinalization_amends
    (updated : touchArtifactFinalization token now row = some row') :
    row.Amends claimant marked row' := by
  simp only [touchArtifactFinalization, Option.ite_none_right_eq_some,
    Option.some.injEq] at updated
  rcases updated with ⟨-, rfl⟩
  exact .ofSameStatus rfl rfl rfl rfl id rfl (fun _ => .inl) (fun _ => .inl) (fun _ => id)

theorem expireArtifactUploadWrite_amends
    (updated : expireArtifactUploadWrite token now row = some row') :
    row.Amends claimant marked row' := by
  simp only [expireArtifactUploadWrite, Option.ite_none_right_eq_some,
    Option.some.injEq] at updated
  rcases updated with ⟨⟨pending, -, -⟩, rfl⟩
  refine .ofUnclaimed rfl rfl (open_of_pending pending) (.inr ⟨.inr rfl, rfl⟩) ?_ (fun _ => id)
    rfl rfl
  intro consistent
  exact consistent.unclaimed (by simp [pending])

theorem expireUpload_amends (updated : expireUpload now row = some row') :
    row.Amends claimant marked row' := by
  simp only [expireUpload, Option.ite_none_right_eq_some, Option.some.injEq] at updated
  rcases updated with ⟨⟨pending, -, unclaimed, -⟩, rfl⟩
  exact .ofUnclaimed rfl rfl (open_of_pending pending) (.inr ⟨.inr rfl, rfl⟩)
    (fun _ => unclaimed) (fun _ => id) rfl rfl

theorem recoverStaleFinalizing_amends
    (updated : recoverStaleFinalizing now row cutoff = some row') :
    row.Amends claimant marked row' := by
  simp only [recoverStaleFinalizing, Option.ite_none_right_eq_some, Option.some.injEq] at updated
  rcases updated with ⟨⟨finalizing, -⟩, rfl⟩
  exact .ofUnclaimed rfl rfl (open_of_finalizing finalizing) (.inl ⟨rfl, rfl⟩)
    (fun _ => rfl) (fun _ claimed => nomatch claimed) rfl rfl

theorem resetFinalizing_amends (updated : resetFinalizing token now row failureCode = some row') :
    row.Amends claimant marked row' := by
  simp only [resetFinalizing, Option.ite_none_right_eq_some, Option.some.injEq] at updated
  rcases updated with ⟨⟨finalizing, -⟩, rfl⟩
  exact .ofUnclaimed rfl rfl (open_of_finalizing finalizing) (.inl ⟨rfl, rfl⟩)
    (fun _ => rfl) (fun _ claimed => nomatch claimed) rfl rfl

theorem failFinalizing_amends (updated : failFinalizing token now row failureCode = some row') :
    row.Amends claimant marked row' := by
  simp only [failFinalizing, Option.ite_none_right_eq_some, Option.some.injEq] at updated
  rcases updated with ⟨⟨finalizing, -⟩, rfl⟩
  exact .ofUnclaimed rfl rfl (open_of_finalizing finalizing) (.inr ⟨.inl rfl, rfl⟩)
    (fun _ => rfl) (fun _ claimed => nomatch claimed) rfl rfl

theorem claimFinalization_amends (updated : claimFinalization token now row = some row') :
    row.Amends (some token) marked row' := by
  simp only [claimFinalization, Option.ite_none_right_eq_some, Option.some.injEq] at updated
  rcases updated with ⟨⟨pending, -, -, uploaded⟩, rfl⟩
  have kept : ¬row.status.Abandoned := fun abandoned => open_of_pending pending (.inr abandoned)
  constructor
  · rfl
  · rfl
  · intro terminal
    exact absurd terminal (open_of_pending pending)
  · intro completed
    nomatch completed
  · exact fun _ => id
  · intro consistent
    constructor
    · intro elsewhere
      exact absurd rfl elsewhere
    · intro _ disk
      exact uploaded.resolve_left (· disk)
    · exact fun _ => consistent.deduplicated kept
    · intro kind completed
      exact absurd (consistent.cleaned kind completed) (open_of_pending pending)
  · exact fun _ => .inr
  · exact fun _ => .inl
  · exact fun _ => .inl
  · exact fun _ => id

theorem markCanonicalNotRequired_amends (allowed : marked .canonical)
    (updated : markCanonicalNotRequired now row = some row') :
    row.Amends claimant marked row' := by
  simp only [markCanonicalNotRequired, Option.ite_none_right_eq_some,
    Option.some.injEq] at updated
  rcases updated with ⟨⟨failed, -⟩, rfl⟩
  refine .ofSameStatus rfl rfl rfl rfl id rfl (fun _ => .inl) ?_ ?_
  · intro kind completed
    cases kind with
    | canonical => exact .inr ⟨allowed, .inr (.inl failed)⟩
    | staging => exact .inl completed
  · intro kind completed
    cases kind with
    | canonical => exact Option.some_ne_none now
    | staging => exact completed

/-! ### Cleaning up -/

theorem claimCleanup_amends {storage : StorageIdentity} {settings : ArtifactSettings}
    (updated : claimCleanup token now row storage settings = some row') :
    row.Amends (some token) marked row' := by
  simp only [claimCleanup, Option.ite_none_right_eq_some, Option.some.injEq] at updated
  rcases updated with ⟨-, rfl⟩
  exact .ofSameStatus rfl rfl rfl rfl id rfl (fun _ => .inr) (fun _ => .inl) (fun _ => id)

theorem touchCleanupClaim_amends (updated : touchCleanupClaim token now row = some row') :
    row.Amends claimant marked row' := by
  simp only [touchCleanupClaim, Option.ite_none_right_eq_some, Option.some.injEq] at updated
  rcases updated with ⟨-, rfl⟩
  exact .ofSameStatus rfl rfl rfl rfl id rfl (fun _ => .inl) (fun _ => .inl) (fun _ => id)

theorem releaseCleanupClaim_amends (updated : releaseCleanupClaim token now row = some row') :
    row.Amends claimant marked row' := by
  simp only [releaseCleanupClaim, Option.ite_none_right_eq_some, Option.some.injEq] at updated
  rcases updated with ⟨-, rfl⟩
  exact .ofSameStatus rfl rfl rfl rfl id rfl (fun _ released => nomatch released) (fun _ => .inl)
    (fun _ => id)

theorem recordCleanupKeyMismatch_amends
    (updated : recordCleanupKeyMismatch token now row candidate = some row') :
    row.Amends claimant marked row' := by
  simp only [recordCleanupKeyMismatch, Option.ite_none_right_eq_some,
    Option.some.injEq] at updated
  rcases updated with ⟨-, rfl⟩
  exact .ofSameStatus rfl rfl rfl rfl id rfl (fun _ => .inl) (fun _ => .inl) (fun _ => id)

theorem recordCleanupFailure_amends {kind : CleanupKind}
    (updated : recordCleanupFailure token now row candidate kind = some row') :
    row.Amends claimant marked row' := by
  simp only [recordCleanupFailure, Option.ite_none_right_eq_some, Option.some.injEq] at updated
  rcases updated with ⟨-, rfl⟩
  exact .ofSameStatus rfl rfl rfl rfl id rfl (fun _ => .inl) (fun _ => .inl) (fun _ => id)

theorem recordFirstDelete_amends {kind : CleanupKind}
    (updated : recordFirstDelete token now row candidate kind = some row') :
    row.Amends claimant marked row' := by
  simp only [recordFirstDelete, Option.ite_none_right_eq_some, Option.some.injEq] at updated
  rcases updated with ⟨-, rfl⟩
  cases kind with
  | canonical =>
      refine .ofSameStatus rfl rfl rfl rfl id rfl (fun _ => .inl) ?_ ?_
      · intro kind completed
        cases kind <;> exact .inl completed
      · intro kind completed
        cases kind <;> exact completed
  | staging =>
      refine .ofSameStatus rfl rfl rfl rfl id rfl (fun _ => .inl) ?_ ?_
      · intro kind completed
        cases kind <;> exact .inl completed
      · intro kind completed
        cases kind <;> exact completed

theorem terminal_of_expects {kind : CleanupKind} (expected : kind.Expects row candidate)
    (terminal : candidate.status.Terminal) : row.status.Terminal := by
  cases kind with
  | canonical => exact .inr expected
  | staging =>
      have same : row.status = candidate.status := expected
      exact same ▸ terminal

theorem recordCleanupComplete_amends {kind : CleanupKind} {localSinglePass : Bool}
    (allowed : marked kind) (terminal : candidate.status.Terminal)
    (updated : recordCleanupComplete token now row candidate kind localSinglePass = some row') :
    row.Amends claimant marked row' := by
  simp only [recordCleanupComplete, Option.ite_none_right_eq_some, Option.some.injEq] at updated
  rcases updated with ⟨⟨-, -, expected, -⟩, rfl⟩
  cases kind with
  | canonical =>
      refine .ofSameStatus rfl rfl rfl rfl id rfl (fun _ => .inl) ?_ ?_
      · intro kind completed
        cases kind with
        | canonical => exact .inr ⟨allowed, terminal_of_expects expected terminal⟩
        | staging => exact .inl completed
      · intro kind completed
        cases kind with
        | canonical => exact Option.some_ne_none now
        | staging => exact completed
  | staging =>
      refine .ofSameStatus rfl rfl rfl rfl id rfl (fun _ => .inl) ?_ ?_
      · intro kind completed
        cases kind with
        | canonical => exact .inl completed
        | staging => exact .inr ⟨allowed, terminal_of_expects expected terminal⟩
      · intro kind completed
        cases kind with
        | canonical => exact completed
        | staging => exact Option.some_ne_none now

end

/-! ## Sessions amended one at a time -/

namespace ArtifactStore

variable {Content : Type}

/-- The sessions are those before, amended. `mark` is what is newly marked as cleaned up. -/
structure Advances (claimant : Option ClaimToken) (mark : Option (UploadId × CleanupKind))
    (store store' : ArtifactStore Content) : Prop where
  uploads : store'.uploads = store.uploads
  artifacts : store'.artifacts = store.artifacts
  tokens : store.tokens ⊆ store'.tokens
  kept : ∀ uploadId row, store.sessions uploadId = some row → ∃ row',
    store'.sessions uploadId = some row' ∧
      row.Amends claimant (fun kind => mark = some (uploadId, kind)) row'
  past : ∀ uploadId row', store'.sessions uploadId = some row' → ∃ row,
    store.sessions uploadId = some row ∧
      row.Amends claimant (fun kind => mark = some (uploadId, kind)) row'

variable {claimant : Option ClaimToken} {mark : Option (UploadId × CleanupKind)}
  {store store' : ArtifactStore Content} {uploadId : UploadId}

theorem Advances.ofSame (uploads : store'.uploads = store.uploads)
    (artifacts : store'.artifacts = store.artifacts) (tokens : store.tokens ⊆ store'.tokens)
    (sessions : store'.sessions = store.sessions) : Advances claimant mark store store' where
  uploads := uploads
  artifacts := artifacts
  tokens := tokens
  kept _ row found := ⟨row, sessions ▸ found, .refl⟩
  past _ row found := ⟨row, sessions ▸ found, .refl⟩

theorem Advances.refl : Advances claimant mark store store :=
  .ofSame rfl rfl (List.Subset.refl _) rfl

theorem Advances.ofEq (same : store' = store) : Advances claimant mark store store' := by
  subst same
  exact .refl

theorem Advances.ofObjects (same : ∃ objects, store' = { store with objects }) :
    Advances claimant mark store store' := by
  rcases same with ⟨objects, rfl⟩
  exact .ofSame rfl rfl (List.Subset.refl _) rfl

theorem amend_eq (store : ArtifactStore Content) (uploadId : UploadId)
    (update : UploadSession → Option UploadSession) :
    (∃ row row', store.sessions uploadId = some row ∧ update row = some row' ∧
      store.amend uploadId update = (true, { store with
        sessions := Function.update store.sessions uploadId (some row') })) ∨
    store.amend uploadId update = (false, store) := by
  unfold amend
  cases found : (store.sessions uploadId).bind update with
  | none => exact .inr rfl
  | some row' =>
      rcases Option.bind_eq_some_iff.mp found with ⟨row, before, updated⟩
      exact .inl ⟨row, row', before, updated, rfl⟩

theorem Advances.amend {update : UploadSession → Option UploadSession}
    (amends : ∀ row row', store.sessions uploadId = some row → update row = some row' →
      row.Amends claimant (fun kind => mark = some (uploadId, kind)) row') :
    Advances claimant mark store (store.amend uploadId update).2 := by
  rcases amend_eq store uploadId update with ⟨row, row', before, updated, amended⟩ | unchanged
  · rw [amended]
    constructor
    · rfl
    · rfl
    · exact List.Subset.refl _
    · intro other row other_found
      by_cases same : other = uploadId
      · subst same
        refine ⟨row', Function.update_self .., ?_⟩
        rw [before] at other_found
        rcases Option.some.inj other_found with rfl
        exact amends _ _ before updated
      · exact ⟨row, (Function.update_of_ne same ..).trans other_found, .refl⟩
    · intro other after other_found
      change Function.update store.sessions uploadId (some row') other = some after at other_found
      by_cases same : other = uploadId
      · subst same
        refine ⟨row, before, ?_⟩
        rw [Function.update_self] at other_found
        rcases Option.some.inj other_found with rfl
        exact amends _ _ before updated
      · rw [Function.update_of_ne same] at other_found
        exact ⟨after, other_found, .refl⟩
  · rw [unchanged]
    exact .refl

end ArtifactStore

end RvcOrchestrator.Manager

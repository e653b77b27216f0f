import RvcOrchestrator.Manager.ArtifactCoherence

/-! # The ledger of artifact uploads

In every run the sessions are consistent, and the artifacts are those of the completed
sessions.
-/

namespace RvcOrchestrator.Manager

open RvcOrchestrator.Foundation RvcOrchestrator.Contracts

variable {Content : Type}

namespace ArtifactStore

/-! ## Sessions -/

structure SessionsSound (store : ArtifactStore Content) : Prop where
  listed : ∀ uploadId row, store.sessions uploadId = some row → uploadId ∈ store.uploads
  temporaryKeys : ∀ uploadId row, store.sessions uploadId = some row →
    row.temporaryObjectKey = stagingObjectKey row.attemptId uploadId
  canonicalKeys : ∀ uploadId row, store.sessions uploadId = some row →
    row.canonicalObjectKey =
      canonicalObjectKey row.jobId row.attemptId row.artifactType uploadId
  consistent : ∀ uploadId row, store.sessions uploadId = some row → row.Consistent
  deduplicated : ∀ first second firstRow secondRow key, store.sessions first = some firstRow →
    store.sessions second = some secondRow → firstRow.dedupeKey = some key →
    secondRow.dedupeKey = some key → first = second

variable {store store' : ArtifactStore Content} {uploadId : UploadId}

theorem SessionsSound.ofPast (sound : store.SessionsSound)
    (uploads : store.uploads ⊆ store'.uploads)
    (past : ∀ uploadId row', store'.sessions uploadId = some row' → ∃ row,
      store.sessions uploadId = some row ∧ row'.declared = row.declared ∧
        (∀ key, row'.dedupeKey = some key → row.dedupeKey = some key) ∧
        (row.Consistent → row'.Consistent)) : store'.SessionsSound where
  listed uploadId row' found' := by
    rcases past uploadId row' found' with ⟨row, found, -⟩
    exact uploads (sound.listed uploadId row found)
  temporaryKeys uploadId row' found' := by
    rcases past uploadId row' found' with ⟨row, found, declared, -⟩
    have kept : row'.declared.temporaryObjectKey =
        stagingObjectKey row'.declared.attemptId uploadId := by
      rw [declared]
      exact sound.temporaryKeys uploadId row found
    exact kept
  canonicalKeys uploadId row' found' := by
    rcases past uploadId row' found' with ⟨row, found, declared, -⟩
    have kept : row'.declared.canonicalObjectKey = canonicalObjectKey row'.declared.jobId
        row'.declared.attemptId row'.declared.artifactType uploadId := by
      rw [declared]
      exact sound.canonicalKeys uploadId row found
    exact kept
  consistent uploadId row' found' := by
    rcases past uploadId row' found' with ⟨row, found, -, -, consistent⟩
    exact consistent (sound.consistent uploadId row found)
  deduplicated first second firstRow secondRow key firstFound secondFound firstKey secondKey := by
    rcases past first firstRow firstFound with ⟨row, found, -, kept, -⟩
    rcases past second secondRow secondFound with ⟨other, otherFound, -, otherKept, -⟩
    exact sound.deduplicated first second row other key found otherFound (kept key firstKey)
      (otherKept key secondKey)

/-! ## Artifacts -/

/-- The artifacts are those of the completed sessions, one of each. -/
structure Sound (store : ArtifactStore Content) : Prop extends SessionsSound store where
  recorded : ∀ artifact ∈ store.artifacts, ∃ row,
    store.sessions artifact.uploadSessionId = some row ∧ row.status = .completed ∧
      row.artifactId = some artifact.id ∧
      artifact = newArtifact row artifact.uploadSessionId artifact.id
  completed : ∀ uploadId row, store.sessions uploadId = some row → row.status = .completed →
    ∃ artifact, store.artifacts.filter (·.uploadSessionId = uploadId) = [artifact]

theorem newArtifact_of_declared {row row' : UploadSession} (same : row'.declared = row.declared)
    (uploadId : UploadId) (artifactId : UploadArtifactId) :
    newArtifact row' uploadId artifactId = newArtifact row uploadId artifactId := by
  have kept : newArtifact row'.declared uploadId artifactId =
      newArtifact row.declared uploadId artifactId := by rw [same]
  exact kept

theorem Sound.empty : (empty : ArtifactStore Content).Sound where
  listed _ _ found := nomatch found
  temporaryKeys _ _ found := nomatch found
  canonicalKeys _ _ found := nomatch found
  consistent _ _ found := nomatch found
  deduplicated _ _ _ _ _ found := nomatch found
  recorded _ member := nomatch member
  completed _ _ found := nomatch found

theorem Sound.advances {claimant : Option ClaimToken} {mark : Option (UploadId × CleanupKind)}
    (sound : store.Sound) (advances : Advances claimant mark store store') : store'.Sound where
  toSessionsSound := by
    apply sound.toSessionsSound.ofPast
    · exact fun _ member => advances.uploads ▸ member
    · intro uploadId row' found'
      rcases advances.past uploadId row' found' with ⟨row, found, amends⟩
      exact ⟨row, found, amends.declared, amends.dedupeKey, amends.consistent⟩
  recorded artifact member := by
    rw [advances.artifacts] at member
    rcases sound.recorded artifact member with ⟨row, found, completed, referred, same⟩
    rcases advances.kept _ row found with ⟨row', found', amends⟩
    refine ⟨row', found', ?_, amends.artifactId.trans referred, ?_⟩
    · exact (amends.absorbing (.inl completed)).trans completed
    · rw [newArtifact_of_declared amends.declared]
      exact same
  completed uploadId row' found' completed := by
    rcases advances.past uploadId row' found' with ⟨row, found, amends⟩
    rw [advances.artifacts]
    exact sound.completed uploadId row found (amends.completed completed)

/-- Before a session is completed there is no artifact of it. -/
theorem Sound.no_artifact (sound : store.Sound) {row : UploadSession}
    (found : store.sessions uploadId = some row) (incomplete : row.status ≠ .completed) :
    store.artifacts.filter (·.uploadSessionId = uploadId) = [] := by
  rw [List.filter_eq_nil_iff]
  intro artifact member same
  rcases sound.recorded artifact member with ⟨other, otherFound, completed, -⟩
  rw [of_decide_eq_true same, found] at otherFound
  rcases Option.some.inj otherFound with rfl
  exact incomplete completed

theorem completeUpload_consistent {token : ClaimToken} {now : Time}
    {row completed : UploadSession} {artifactId : UploadArtifactId}
    (updated : completeUpload token now row artifactId = some completed)
    (consistent : row.Consistent) : completed.Consistent := by
  rcases completeUpload_eq updated with ⟨finalizing, -, declared, status, -, dedupeKey, unclaimed,
    -, marks⟩
  constructor
  · exact fun _ => unclaimed
  · intro still
    nomatch status.symm.trans still
  · intro _
    rw [dedupeKey, UploadSession.content_of_declared declared]
    apply consistent.deduplicated
    intro abandoned
    exact open_of_finalizing finalizing (.inr abandoned)
  · exact fun _ _ => .inl status

theorem Sound.commits (sound : store.Sound) (commits : Commits uploadId store store') :
    store'.Sound := by
  rcases commits with ⟨token, now, artifactId, row, completed, found, updated, -, rfl⟩
  rcases completeUpload_eq updated with ⟨finalizing, -, declared, status, referred, dedupeKey, -⟩
  have none_before : store.artifacts.filter (·.uploadSessionId = uploadId) = [] :=
    sound.no_artifact found (by simp [finalizing])
  constructor
  · apply sound.toSessionsSound.ofPast
    · exact List.Subset.refl _
    · intro other row' found'
      change Function.update store.sessions uploadId (some completed) other = some row' at found'
      by_cases same : other = uploadId
      · subst same
        rw [Function.update_self] at found'
        rcases Option.some.inj found' with rfl
        exact ⟨row, found, declared, fun key taken => dedupeKey ▸ taken,
          completeUpload_consistent updated⟩
      · rw [Function.update_of_ne same] at found'
        exact ⟨row', found', rfl, fun _ => id, id⟩
  · intro artifact member
    dsimp only
    rcases List.mem_append.mp member with before | new
    · have other : artifact.uploadSessionId ≠ uploadId := by
        intro same
        have kept : artifact ∈ store.artifacts.filter (·.uploadSessionId = uploadId) :=
          List.mem_filter.mpr ⟨before, decide_eq_true same⟩
        rw [none_before] at kept
        nomatch kept
      rw [Function.update_of_ne other]
      exact sound.recorded artifact before
    · rcases List.mem_singleton.mp new with rfl
      refine ⟨completed, Function.update_self .., status, referred, ?_⟩
      exact (newArtifact_of_declared declared uploadId artifactId).symm
  · intro other row' found' isCompleted
    change Function.update store.sessions uploadId (some completed) other = some row' at found'
    by_cases same : other = uploadId
    · subst same
      refine ⟨newArtifact row other artifactId, ?_⟩
      rw [List.filter_append, none_before]
      simp [newArtifact]
    · rw [Function.update_of_ne same] at found'
      rcases sound.completed other row' found' isCompleted with ⟨artifact, only⟩
      refine ⟨artifact, ?_⟩
      rw [List.filter_append, only]
      simp [newArtifact, Ne.symm same]

/-! ## New sessions -/

theorem dedupeKeyTaken_eq_false {dedupeKey : Option (AttemptId × ArtifactType × String)}
    (sound : store.SessionsSound) (free : dedupeKeyTaken store dedupeKey = false)
    {row : UploadSession} (found : store.sessions uploadId = some row) :
    row.dedupeKey ≠ dedupeKey := by
  intro same
  have taken : dedupeKeyTaken store dedupeKey = true := by
    rw [dedupeKeyTaken, List.any_eq_true]
    refine ⟨uploadId, sound.listed uploadId row found, ?_⟩
    simp [found, same]
  exact Bool.noConfusion (taken.symm.trans free)

/-- A session is created under a new identifier and a dedupe key that no other has. -/
def Creates (uploadId : UploadId) (row : UploadSession) (store store' : ArtifactStore Content) :
    Prop :=
  store.sessions uploadId = none ∧ dedupeKeyTaken store row.dedupeKey = false ∧
    store' = { store with
      uploads := uploadId :: store.uploads
      sessions := Function.update store.sessions uploadId (some row) }

theorem Creates.grows {row : UploadSession} (creates : Creates uploadId row store store') :
    Grows store store' := by
  rcases creates with ⟨absent, -, rfl⟩
  intro other before found
  have different : other ≠ uploadId := by
    intro same
    rw [same, absent] at found
    nomatch found
  exact ⟨before, (Function.update_of_ne different ..).trans found, rfl, fun _ => rfl⟩

/-- The sessions of the new store are the one created and those before. -/
theorem Creates.past {row : UploadSession} (creates : Creates uploadId row store store')
    {other : UploadId} {row' : UploadSession} (found' : store'.sessions other = some row') :
    other = uploadId ∧ row' = row ∨ other ≠ uploadId ∧ store.sessions other = some row' := by
  rcases creates with ⟨-, -, rfl⟩
  change Function.update store.sessions uploadId (some row) other = some row' at found'
  by_cases same : other = uploadId
  · subst same
    rw [Function.update_self] at found'
    exact .inl ⟨rfl, (Option.some.inj found').symm⟩
  · rw [Function.update_of_ne same] at found'
    exact .inr ⟨same, found'⟩

theorem Sound.creates {storage : StorageIdentity} {request : FinalizeRequest}
    {artifactType : ArtifactType} {filename contentType digest : String} {size : Nat}
    {expiresAt now : Time} (sound : store.Sound)
    (creates : Creates uploadId (newUploadSession storage uploadId request artifactType filename
      contentType size digest expiresAt now) store store') : store'.Sound := by
  have free {other : UploadId} {row : UploadSession} (found : store.sessions other = some row) :
      row.dedupeKey ≠ some (request.attemptId, artifactType, digest) :=
    dedupeKeyTaken_eq_false sound.toSessionsSound creates.2.1 found
  have kept {other : UploadId} {row : UploadSession} (found : store.sessions other = some row) :
      store'.sessions other = some row := by
    rcases creates with ⟨absent, -, rfl⟩
    have different : other ≠ uploadId := by
      intro same
      rw [same, absent] at found
      nomatch found
    exact (Function.update_of_ne different ..).trans found
  have uploads : store'.uploads = uploadId :: store.uploads := by rw [creates.2.2]
  have artifacts : store'.artifacts = store.artifacts := by rw [creates.2.2]
  constructor
  · constructor
    · intro other row found
      rw [uploads]
      rcases creates.past found with ⟨rfl, -⟩ | ⟨-, before⟩
      · exact List.mem_cons_self
      · exact List.mem_cons_of_mem _ (sound.listed other row before)
    · intro other row found
      rcases creates.past found with ⟨rfl, rfl⟩ | ⟨-, before⟩
      · rfl
      · exact sound.temporaryKeys other row before
    · intro other row found
      rcases creates.past found with ⟨rfl, rfl⟩ | ⟨-, before⟩
      · rfl
      · exact sound.canonicalKeys other row before
    · intro other row found
      rcases creates.past found with ⟨-, rfl⟩ | ⟨-, before⟩
      · constructor
        · exact fun _ => rfl
        · intro finalizing
          nomatch finalizing
        · exact fun _ => rfl
        · intro kind completed
          cases kind <;> exact absurd rfl completed
      · exact sound.consistent other row before
    · intro first second firstRow secondRow key firstFound secondFound firstKey secondKey
      rcases creates.past firstFound with ⟨rfl, rfl⟩ | ⟨-, firstBefore⟩
      · rcases creates.past secondFound with ⟨rfl, -⟩ | ⟨-, secondBefore⟩
        · rfl
        · exact absurd (secondKey.trans firstKey.symm) (free secondBefore)
      · rcases creates.past secondFound with ⟨rfl, rfl⟩ | ⟨-, secondBefore⟩
        · exact absurd (firstKey.trans secondKey.symm) (free firstBefore)
        · exact sound.deduplicated first second firstRow secondRow key firstBefore secondBefore
            firstKey secondKey
  · intro artifact member
    rw [artifacts] at member
    rcases sound.recorded artifact member with ⟨row, found, rest⟩
    exact ⟨row, kept found, rest⟩
  · intro other row found completed
    rw [artifacts]
    rcases creates.past found with ⟨-, rfl⟩ | ⟨-, before⟩
    · nomatch completed
    · exact sound.completed other row before completed

end ArtifactStore

/-! ## Steps and runs -/

section

open ArtifactStore

variable (sizeBytes : Content → Nat) (sha256 : Content → String) (settings : ArtifactSettings)
  (storage : StorageIdentity)

variable {storage} {store store' : ArtifactStore Content}

theorem disturbArtifactStore_store {disturbance : ArtifactDisturbance}
    (disturbed : disturbArtifactStore storage disturbance store = some store') :
    Advances none none store store' ∨
      ∃ uploadId request artifactType filename contentType size digest expiresAt now,
        Creates uploadId (newUploadSession storage uploadId request artifactType filename
          contentType size digest expiresAt now) store store' := by
  cases disturbance with
  | create uploadId request artifactType filename contentType size digest expiresAt now =>
      simp only [disturbArtifactStore, Option.ite_none_left_eq_some, not_or] at disturbed
      rcases disturbed with ⟨⟨absent, -, free⟩, same⟩
      exact .inr ⟨uploadId, request, artifactType, filename, contentType, size, digest, expiresAt,
        now, by simpa using absent, Bool.eq_false_of_not_eq_true free, (Option.some.inj same).symm⟩
  | recover uploadId cutoff now =>
      rcases Option.some.inj disturbed with rfl
      exact .inl (.amend fun _ _ _ => recoverStaleFinalizing_amends)
  | expire uploadId now =>
      rcases Option.some.inj disturbed with rfl
      exact .inl (.amend fun _ _ _ => expireUpload_amends)
  | expireWrite uploadId holder now =>
      rcases Option.some.inj disturbed with rfl
      exact .inl (.amend fun _ _ _ => expireArtifactUploadWrite_amends)
  | lease leaseId lease =>
      rcases Option.some.inj disturbed with rfl
      exact .inl (.ofSame rfl rfl (List.Subset.refl _) rfl)

theorem disturbArtifactStore_sound {disturbance : ArtifactDisturbance} (sound : store.Sound)
    (disturbed : disturbArtifactStore storage disturbance store = some store') :
    store'.Sound ∧ Grows store store' := by
  rcases disturbArtifactStore_store disturbed with advances |
    ⟨uploadId, request, artifactType, filename, contentType, size, digest, expiresAt, now, creates⟩
  · exact ⟨sound.advances advances, advances.grows⟩
  · exact ⟨sound.creates creates, creates.grows⟩

theorem drawToken_eq {token : ClaimToken} {phase next : ArtifactPhase Content}
    (drawn : drawToken store token phase = some (next, store')) :
    token ∉ store.tokens ∧ next = phase ∧
      store' = { store with tokens := token :: store.tokens } := by
  simp only [drawToken, Option.ite_none_left_eq_some, Option.some.injEq, Prod.mk.injEq] at drawn
  rcases drawn with ⟨fresh, rfl, rfl⟩
  exact ⟨fresh, rfl, rfl⟩

/-- A launch draws the name of the process and changes nothing else. -/
theorem launchArtifactProcess_eq {launch : ArtifactLaunch Content} {phase : ArtifactPhase Content}
    (launched : launchArtifactProcess launch store = some (phase, store')) :
    (∃ token, phase.name = some token ∧ token ∉ store.tokens ∧ phase.snapshot = none ∧
        store' = { store with tokens := token :: store.tokens }) ∨
      (∃ uploadId upload content, phase = .presigned uploadId upload content ∧
        store.sessions uploadId = some upload ∧ store' = store) := by
  cases launch with
  | finalize request token =>
      rcases drawToken_eq launched with ⟨fresh, rfl, rfl⟩
      exact .inl ⟨token, rfl, fresh, rfl, rfl⟩
  | write uploadId content token =>
      rcases drawToken_eq launched with ⟨fresh, rfl, rfl⟩
      exact .inl ⟨token, rfl, fresh, rfl, rfl⟩
  | put uploadId content now =>
      simp only [launchArtifactProcess] at launched
      split at launched
      · nomatch launched
      · next upload found =>
          simp only [Option.ite_none_right_eq_some, Option.some.injEq, Prod.mk.injEq] at launched
          rcases launched with ⟨-, rfl, rfl⟩
          exact .inr ⟨uploadId, upload, content, rfl, found, rfl⟩
  | clean uploadId now token =>
      rcases drawToken_eq launched with ⟨fresh, rfl, rfl⟩
      exact .inl ⟨token, rfl, fresh, rfl, rfl⟩

theorem launchArtifactProcess_store {launch : ArtifactLaunch Content}
    {phase : ArtifactPhase Content}
    (launched : launchArtifactProcess launch store = some (phase, store')) :
    Advances none none store store' ∧ phase.Fits store' := by
  rcases launchArtifactProcess_eq launched with
    ⟨token, -, -, unread, rfl⟩ | ⟨uploadId, upload, content, rfl, found, rfl⟩
  · refine ⟨.ofSame rfl rfl (List.subset_cons_self ..) rfl, ?_, ?_⟩
    · intro uploadId owned held
      nomatch unread.symm.trans held
    · intro uploadId other cleaner same
      subst same
      exact .ofNone (Option.map_eq_none_iff.mp unread)
  · refine ⟨.refl, ?_, ?_⟩
    · intro other owned held
      rcases held
      exact .ofFound found
    · intro other token cleaner same
      nomatch same

theorem advanceArtifactProcess_sound {choice : ArtifactChoice} {phase : ArtifactPhase Content}
    (fits : phase.Fits store) (sound : store.Sound) :
    (advanceArtifactProcess sizeBytes sha256 settings storage choice phase store).2.Sound := by
  rcases advanceArtifactProcess_store fits with advances | ⟨request, token, owned, -, commits⟩
  · exact sound.advances advances
  · exact sound.commits commits

variable (storage)

/-- What every store has that is reached from `origin`. -/
def ArtifactStore.SoundSince (origin store : ArtifactStore Content) : Prop :=
  store.Sound ∧ Grows origin store

theorem artifactWorkforce_preserves (origin : ArtifactStore Content) :
    (artifactWorkforce sizeBytes sha256 settings storage).Preserves (fun _ _ => True)
      (SoundSince origin) (fun store phase => phase.Fits store) where
  launched := by
    intro situation launch phase store' _ holds launched
    rcases launchArtifactProcess_store launched with ⟨advances, fits⟩
    exact ⟨⟨holds.1.advances advances, holds.2.trans advances.grows⟩, fits,
      fun other fitted => fitted.grows advances.grows⟩
  moved := by
    intro situation place choice phase _ found holds fits
    have fitted : phase.Fits situation.state := fits phase (List.mem_of_getElem? found)
    have grows : Grows situation.state (advanceArtifactProcess sizeBytes sha256 settings storage
        choice phase situation.state).2 :=
      advanceArtifactProcess_grows fitted
    exact ⟨⟨advanceArtifactProcess_sound _ _ _ fitted holds.1, holds.2.trans grows⟩,
      fun next advanced => advanceArtifactProcess_fits fitted advanced,
      fun other member => (fits other member).grows grows⟩
  disturbed := by
    intro situation disturbance store' _ holds disturbed
    rcases disturbArtifactStore_sound holds.1 disturbed with ⟨sound, grows⟩
    exact ⟨⟨sound, holds.2.trans grows⟩, fun other fitted => fitted.grows grows⟩

theorem artifactRun_sound (events : List (ArtifactEvent Content)) :
    (artifactRun sizeBytes sha256 settings storage events).state.Sound ∧
      ∀ phase ∈ (artifactRun sizeBytes sha256 settings storage events).phases,
        phase.Fits (artifactRun sizeBytes sha256 settings storage events).state := by
  have holds : SoundSince .empty (empty : ArtifactStore Content) := ⟨.empty, .refl⟩
  have kept := (artifactWorkforce_preserves sizeBytes sha256 settings storage .empty).run
    ⟨holds, List.forall_mem_nil _⟩ (.ofForall (fun _ _ => trivial) ⟨.empty, []⟩ events)
  exact ⟨kept.1.1, kept.2⟩

theorem artifactRun_append (events later : List (ArtifactEvent Content)) :
    artifactRun sizeBytes sha256 settings storage (events ++ later) =
      run (artifactWorkforce sizeBytes sha256 settings storage).step
        (artifactRun sizeBytes sha256 settings storage events) later :=
  run_append _ _ _ _

/-- What holds after a run holds after every continuation of it. -/
theorem artifactRun_grows (events later : List (ArtifactEvent Content)) :
    Grows (artifactRun sizeBytes sha256 settings storage events).state
      (artifactRun sizeBytes sha256 settings storage (events ++ later)).state := by
  rcases artifactRun_sound sizeBytes sha256 settings storage events with ⟨sound, fits⟩
  have kept := (artifactWorkforce_preserves sizeBytes sha256 settings storage
    (artifactRun sizeBytes sha256 settings storage events).state).run
    ⟨⟨sound, Grows.refl⟩, fits⟩ (.ofForall (fun _ _ => trivial) _ later)
  rw [artifactRun_append]
  exact kept.1.2

end

end RvcOrchestrator.Manager

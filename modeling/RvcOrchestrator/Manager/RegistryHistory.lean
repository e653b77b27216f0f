import RvcOrchestrator.Manager.ModelRegistry
import RvcOrchestrator.Manager.Operations

/-! # Champions and their history

What every interleaving of registry requests keeps: one approved champion for an
experiment, one entry for a model, no change of what was revoked or when it was
approved, a version that counts the mutations, and answers that can be replayed.
-/

namespace RvcOrchestrator.Manager

open RvcOrchestrator.Foundation RvcOrchestrator.Contracts

/-! ## Entries -/

structure ChampionsSound (entries : Table RegistryEntryId ModelRegistryEntry) : Prop where
  single : ∀ first second firstEntry secondEntry, entries.find? first = some firstEntry →
    entries.find? second = some secondEntry →
    firstEntry.experimentId = secondEntry.experimentId →
    firstEntry.active = true → secondEntry.active = true → first = second
  approved : ∀ entryId entry, entries.find? entryId = some entry → entry.active = true →
    entry.status = .approved
  artifacts : ∀ first second firstEntry secondEntry, entries.find? first = some firstEntry →
    entries.find? second = some secondEntry →
    firstEntry.snapshot.model.id = secondEntry.snapshot.model.id → first = second

def EntriesKept (before after : Table RegistryEntryId ModelRegistryEntry) : Prop :=
  ∀ entryId entry, before.find? entryId = some entry →
    ∃ later, after.find? entryId = some later ∧ (entry.status = .revoked → later = entry) ∧
      ∀ time, entry.approvedAt = some time → later.approvedAt = some time

theorem EntriesKept.refl (entries : Table RegistryEntryId ModelRegistryEntry) :
    EntriesKept entries entries :=
  fun _ entry found => ⟨entry, found, fun _ => rfl, fun _ approved => approved⟩

theorem EntriesKept.trans {first second third : Table RegistryEntryId ModelRegistryEntry}
    (left : EntriesKept first second) (right : EntriesKept second third) :
    EntriesKept first third := by
  intro entryId entry found
  rcases left entryId entry found with ⟨middle, middleFound, revoked, approved⟩
  rcases right entryId middle middleFound with ⟨later, laterFound, revokedLater, approvedLater⟩
  refine ⟨later, laterFound, ?_, fun time at_ => approvedLater time (approved time at_)⟩
  intro wasRevoked
  have same := revoked wasRevoked
  rw [revokedLater (same ▸ wasRevoked), same]

section

variable {entries : Table RegistryEntryId ModelRegistryEntry} {experimentId : ExperimentId}
  {entryId : RegistryEntryId} {entry : ModelRegistryEntry}

theorem activeEntryId_eq_some (found : activeEntryId entries experimentId = some entryId) :
    ∃ entry, entries.find? entryId = some entry ∧ entry.experimentId = experimentId ∧
      entry.active = true := by
  rcases Option.map_eq_some_iff.mp found with ⟨⟨rowId, row⟩, isActive, rfl⟩
  have member := List.mem_of_find?_eq_some isActive
  have fits := List.find?_some isActive
  simp only [Bool.and_eq_true, decide_eq_true_eq] at fits
  exact ⟨row, entries.mem_rows_iff.mp member, fits.1, fits.2⟩

theorem activeEntryId_eq_none (none : activeEntryId entries experimentId = none)
    (found : entries.find? entryId = some entry) (ofExperiment : entry.experimentId = experimentId) :
    entry.active = false := by
  have absent := List.find?_eq_none.mp (Option.map_eq_none_iff.mp none) (entryId, entry)
    (entries.mem_rows_iff.mpr found)
  simpa [ofExperiment] using absent

/-- Vacating the slot deactivates every active entry of the experiment: there is at
most one. -/
theorem ChampionsSound.find?_vacateSlot (sound : ChampionsSound entries)
    (experimentId : ExperimentId) (now : Time) (entryId : RegistryEntryId) :
    (vacateSlot entries experimentId now).find? entryId =
      (entries.find? entryId).map fun entry =>
        if entry.experimentId = experimentId ∧ entry.active = true then entry.deactivated now
        else entry := by
  unfold vacateSlot
  rcases found : entries.find? entryId with _ | entry
  · split
    · exact found
    · exact (Table.find?_modify_eq_none_iff _ _ _ _).mpr found
  · split
    · next none =>
        rw [found, Option.map_some, if_neg]
        rintro ⟨ofExperiment, active⟩
        rw [activeEntryId_eq_none none found ofExperiment] at active
        cases active
    · next previous isActive =>
        rcases activeEntryId_eq_some isActive with ⟨champion, championFound, championOf, active⟩
        rw [Table.find?_modify_of_some _ _ _ found, Option.map_some]
        by_cases same : entryId = previous
        · subst same
          rw [found] at championFound
          injection championFound with same
          subst same
          rw [if_pos rfl, if_pos ⟨championOf, active⟩]
        · rw [if_neg same, if_neg]
          rintro ⟨ofExperiment, alsoActive⟩
          exact same (sound.single _ _ _ _ found championFound (ofExperiment.trans championOf.symm)
            alsoActive active)

/-- What an entry is after a promotion: the promoted one, or one that may have left
the slot. -/
theorem ChampionsSound.find?_promote (sound : ChampionsSound entries)
    (found : entries.find? entryId = some entry) (actorId : UserId) (now : Time)
    (other : RegistryEntryId) :
    ((vacateSlot entries entry.experimentId now).modify entryId fun _ =>
        entry.promoted actorId now).find? other =
      if other = entryId then some (entry.promoted actorId now)
      else (entries.find? other).map fun row =>
        if row.experimentId = entry.experimentId ∧ row.active = true then row.deactivated now
        else row := by
  rw [Table.find?_modify, sound.find?_vacateSlot]
  by_cases same : other = entryId
  · subst same
    rw [if_pos rfl, if_pos rfl, found]
    rfl
  · rw [if_neg same, if_neg same]

/-! ## What a change writes -/

inductive EntryChange (entries : Table RegistryEntryId ModelRegistryEntry) :
    Table RegistryEntryId ModelRegistryEntry → Prop
  | created {newId : RegistryEntryId} {entry : ModelRegistryEntry}
      (fresh : entries.find? newId = none) (inactive : entry.active = false)
      (unregistered : ∀ other row, entries.find? other = some row →
        row.snapshot.model.id ≠ entry.snapshot.model.id) :
      EntryChange entries (entries.insert newId entry fresh)
  | promoted {entryId : RegistryEntryId} {entry : ModelRegistryEntry}
      (found : entries.find? entryId = some entry) (live : entry.status ≠ .revoked)
      (actorId : UserId) (now : Time) :
      EntryChange entries ((vacateSlot entries entry.experimentId now).modify entryId fun _ =>
        entry.promoted actorId now)
  | revoked {entryId : RegistryEntryId} {entry : ModelRegistryEntry}
      (found : entries.find? entryId = some entry) (live : entry.status ≠ .revoked)
      (reason : RevokeReason) (actorId : UserId) (now : Time) :
      EntryChange entries (entries.modify entryId fun _ =>
        entry.revokedBecause reason actorId now)

theorem ChampionsSound.created (sound : ChampionsSound entries) {newId : RegistryEntryId}
    (fresh : entries.find? newId = none) (inactive : entry.active = false)
    (unregistered : ∀ other row, entries.find? other = some row →
      row.snapshot.model.id ≠ entry.snapshot.model.id) :
    ChampionsSound (entries.insert newId entry fresh) := by
  constructor
  case single =>
    intro first second firstEntry secondEntry firstFound secondFound same firstActive secondActive
    rw [Table.find?_insert_eq_some_iff] at firstFound secondFound
    rcases firstFound with ⟨-, rfl⟩ | firstFound
    · rw [inactive] at firstActive
      cases firstActive
    · rcases secondFound with ⟨-, rfl⟩ | secondFound
      · rw [inactive] at secondActive
        cases secondActive
      · exact sound.single _ _ _ _ firstFound secondFound same firstActive secondActive
  case approved =>
    intro entryId row found active
    rw [Table.find?_insert_eq_some_iff] at found
    rcases found with ⟨-, rfl⟩ | found
    · rw [inactive] at active
      cases active
    · exact sound.approved _ _ found active
  case artifacts =>
    intro first second firstEntry secondEntry firstFound secondFound same
    rw [Table.find?_insert_eq_some_iff] at firstFound secondFound
    rcases firstFound with ⟨rfl, rfl⟩ | firstFound
    · rcases secondFound with ⟨rfl, rfl⟩ | secondFound
      · rfl
      · exact absurd same.symm (unregistered _ _ secondFound)
    · rcases secondFound with ⟨rfl, rfl⟩ | secondFound
      · exact absurd same (unregistered _ _ firstFound)
      · exact sound.artifacts _ _ _ _ firstFound secondFound same

/-- Changing entries in place, each within its experiment and for its model, keeps the
champions sound if it leaves at most one active. -/
theorem ChampionsSound.of_map {after : Table RegistryEntryId ModelRegistryEntry}
    (sound : ChampionsSound entries)
    (from_ : ∀ entryId later, after.find? entryId = some later →
      ∃ entry, entries.find? entryId = some entry ∧
        later.snapshot.model.id = entry.snapshot.model.id)
    (single : ∀ first second firstEntry secondEntry, after.find? first = some firstEntry →
      after.find? second = some secondEntry →
      firstEntry.experimentId = secondEntry.experimentId →
      firstEntry.active = true → secondEntry.active = true → first = second)
    (approved : ∀ entryId later, after.find? entryId = some later → later.active = true →
      later.status = .approved) : ChampionsSound after where
  single := single
  approved := approved
  artifacts first second firstEntry secondEntry firstFound secondFound same := by
    rcases from_ first firstEntry firstFound with ⟨firstOld, firstOldFound, firstModel⟩
    rcases from_ second secondEntry secondFound with ⟨secondOld, secondOldFound, secondModel⟩
    exact sound.artifacts _ _ _ _ firstOldFound secondOldFound
      (firstModel.symm.trans (same.trans secondModel))

/-- An entry after a promotion is the promoted one, or another that is as it was or,
if it was the champion, has left the slot. -/
theorem ChampionsSound.promote_cases (sound : ChampionsSound entries)
    (found : entries.find? entryId = some entry) (actorId : UserId) (now : Time)
    {other : RegistryEntryId} {later : ModelRegistryEntry}
    (laterFound : ((vacateSlot entries entry.experimentId now).modify entryId fun _ =>
      entry.promoted actorId now).find? other = some later) :
    (other = entryId ∧ later = entry.promoted actorId now) ∨
      other ≠ entryId ∧ ∃ row, entries.find? other = some row ∧
        (later = row.deactivated now ∨
          later = row ∧ (row.experimentId = entry.experimentId → row.active = false)) := by
  rw [sound.find?_promote found] at laterFound
  by_cases same : other = entryId
  · rw [if_pos same] at laterFound
    injection laterFound with promoted
    exact .inl ⟨same, promoted.symm⟩
  · rw [if_neg same] at laterFound
    rcases Option.map_eq_some_iff.mp laterFound with ⟨row, rowFound, changed⟩
    refine .inr ⟨same, row, rowFound, ?_⟩
    split at changed
    · exact .inl changed.symm
    · next kept =>
        refine .inr ⟨changed.symm, ?_⟩
        intro ofExperiment
        rw [not_and, Bool.not_eq_true] at kept
        exact kept ofExperiment

theorem ChampionsSound.promoted (sound : ChampionsSound entries)
    (found : entries.find? entryId = some entry) (actorId : UserId) (now : Time) :
    ChampionsSound ((vacateSlot entries entry.experimentId now).modify entryId fun _ =>
      entry.promoted actorId now) := by
  refine sound.of_map ?_ ?_ ?_
  · intro other later laterFound
    rcases sound.promote_cases found actorId now laterFound with
      ⟨rfl, rfl⟩ | ⟨-, row, rowFound, rfl | ⟨rfl, -⟩⟩
    · exact ⟨entry, found, rfl⟩
    · exact ⟨row, rowFound, rfl⟩
    · exact ⟨later, rowFound, rfl⟩
  · intro first second firstEntry secondEntry firstFound secondFound same firstActive secondActive
    rcases sound.promote_cases found actorId now firstFound with
      ⟨rfl, rfl⟩ | ⟨-, firstRow, firstRowFound, rfl | ⟨rfl, firstIdle⟩⟩
    · rcases sound.promote_cases found actorId now secondFound with
        ⟨rfl, rfl⟩ | ⟨-, secondRow, secondRowFound, rfl | ⟨rfl, secondIdle⟩⟩
      · rfl
      · cases secondActive
      · rw [secondIdle same.symm] at secondActive
        cases secondActive
    · cases firstActive
    · rcases sound.promote_cases found actorId now secondFound with
        ⟨rfl, rfl⟩ | ⟨-, secondRow, secondRowFound, rfl | ⟨rfl, secondIdle⟩⟩
      · rw [firstIdle same] at firstActive
        cases firstActive
      · cases secondActive
      · exact sound.single _ _ _ _ firstRowFound secondRowFound same firstActive secondActive
  · intro other later laterFound active
    rcases sound.promote_cases found actorId now laterFound with
      ⟨-, rfl⟩ | ⟨-, row, rowFound, rfl | ⟨rfl, -⟩⟩
    · rfl
    · cases active
    · exact sound.approved _ _ rowFound active

theorem revoke_cases (reason : RevokeReason) (actorId : UserId) (now : Time)
    {other : RegistryEntryId} {later : ModelRegistryEntry}
    (laterFound : (entries.modify entryId fun _ =>
      entry.revokedBecause reason actorId now).find? other = some later) :
    (other = entryId ∧ later = entry.revokedBecause reason actorId now) ∨
      other ≠ entryId ∧ entries.find? other = some later := by
  rcases (Table.find?_modify_eq_some_iff _ _ _).mp laterFound with ⟨row, rowFound, changed⟩
  by_cases same : other = entryId
  · rw [if_pos same] at changed
    exact .inl ⟨same, changed⟩
  · rw [if_neg same] at changed
    exact .inr ⟨same, changed ▸ rowFound⟩

theorem ChampionsSound.revoked (sound : ChampionsSound entries)
    (found : entries.find? entryId = some entry) (reason : RevokeReason) (actorId : UserId)
    (now : Time) :
    ChampionsSound (entries.modify entryId fun _ => entry.revokedBecause reason actorId now) := by
  refine sound.of_map ?_ ?_ ?_
  · intro other later laterFound
    rcases revoke_cases reason actorId now laterFound with ⟨rfl, rfl⟩ | ⟨-, laterFound⟩
    · exact ⟨entry, found, rfl⟩
    · exact ⟨later, laterFound, rfl⟩
  · intro first second firstEntry secondEntry firstFound secondFound same firstActive secondActive
    rcases revoke_cases reason actorId now firstFound with ⟨-, rfl⟩ | ⟨-, firstFound⟩
    · cases firstActive
    · rcases revoke_cases reason actorId now secondFound with ⟨-, rfl⟩ | ⟨-, secondFound⟩
      · cases secondActive
      · exact sound.single _ _ _ _ firstFound secondFound same firstActive secondActive
  · intro other later laterFound active
    rcases revoke_cases reason actorId now laterFound with ⟨-, rfl⟩ | ⟨-, laterFound⟩
    · cases active
    · exact sound.approved _ _ laterFound active

theorem EntryChange.sound {after : Table RegistryEntryId ModelRegistryEntry}
    (change : EntryChange entries after) (sound : ChampionsSound entries) :
    ChampionsSound after := by
  cases change with
  | created fresh inactive unregistered => exact sound.created fresh inactive unregistered
  | promoted found live actorId now => exact sound.promoted found actorId now
  | revoked found live reason actorId now => exact sound.revoked found reason actorId now

theorem EntryChange.kept {after : Table RegistryEntryId ModelRegistryEntry}
    (change : EntryChange entries after) (sound : ChampionsSound entries) :
    EntriesKept entries after := by
  intro other row rowFound
  cases change with
  | created fresh inactive unregistered =>
      exact ⟨row, Table.find?_insert_of_some _ _ _ fresh rowFound, fun _ => rfl,
        fun _ approved => approved⟩
  | @promoted entryId entry found live actorId now =>
      rw [sound.find?_promote found]
      by_cases same : other = entryId
      · subst same
        rw [found] at rowFound
        injection rowFound with same
        subst same
        rw [if_pos rfl]
        refine ⟨_, rfl, fun revoked => absurd revoked live, ?_⟩
        intro time approved
        simp [ModelRegistryEntry.promoted, approved]
      · rw [if_neg same, rowFound, Option.map_some]
        refine ⟨_, rfl, ?_, ?_⟩
        · intro revoked
          rw [if_neg]
          rintro ⟨-, active⟩
          rw [sound.approved _ _ rowFound active] at revoked
          cases revoked
        · intro time approved
          split
          · exact approved
          · exact approved
  | @revoked entryId entry found live reason actorId now =>
      rw [Table.find?_modify_of_some _ _ _ rowFound]
      refine ⟨_, rfl, ?_, ?_⟩
      · intro wasRevoked
        rw [if_neg]
        rintro rfl
        rw [found] at rowFound
        injection rowFound with same
        subst same
        exact live wasRevoked
      · intro time approved
        split
        · next same =>
            subst same
            rw [found] at rowFound
            injection rowFound with same
            subst same
            exact approved
        · exact approved

end

section

variable {Digest : Type} [DecidableEq Digest] {platform : Platform}
  {secrets : RegistrySecrets Digest} {state : RegistryState Digest} {request : RegistryRequest}
  {memory : RegistryMemory Digest}

/-- The version of an experiment's registry, zero before its first mutation. -/
def registryVersion (registries : Table ExperimentId ExperimentModelRegistry)
    (experimentId : ExperimentId) : Nat :=
  (registries.find? experimentId).elim 0 ExperimentModelRegistry.rowVersion

omit [DecidableEq Digest] in
theorem requireRegistryVersion_eq_ok {registry : Option ExperimentModelRegistry} {expected : Nat}
    (accepted : requireRegistryVersion registry expected = .ok ()) :
    registry.elim 0 ExperimentModelRegistry.rowVersion = expected := by
  unfold requireRegistryVersion at accepted
  split at accepted
  · cases accepted
  · next same => exact Decidable.not_not.mp same

theorem requireRegistry_eq_ok (accepted : requireRegistry state request = .ok ()) :
    registryVersion state.registries request.experimentId =
      request.operation.expectedRegistryRowVersion := by
  unfold requireRegistry at accepted
  split at accepted
  · cases accepted
  · next checked => exact requireRegistryVersion_eq_ok checked

theorem requireEntry_eq_ok {expected : Nat} {entryId : RegistryEntryId}
    {experimentId : ExperimentId} {entry : ModelRegistryEntry}
    (accepted : requireEntry state experimentId entryId expected = .ok entry) :
    state.entries.find? entryId = some entry ∧ entry.experimentId = experimentId := by
  unfold requireEntry at accepted
  split at accepted
  · cases accepted
  · next row found =>
      split at accepted
      · cases accepted
      · next ofExperiment =>
          split at accepted
          · cases accepted
          · injection accepted with same
            subst same
            exact ⟨found, Decidable.not_not.mp ofExperiment⟩

omit [DecidableEq Digest] in
theorem requirePromotable_eq_ok {entry : ModelRegistryEntry}
    (accepted : requirePromotable entry = .ok ()) : entry.status ≠ .revoked := by
  unfold requirePromotable at accepted
  split at accepted
  · cases accepted
  · next live => exact live

/-- What a request that is carried out does to the entries. -/
inductive EntryMutation (platform : Platform) (state : RegistryState Digest)
    (request : RegistryRequest) : Table RegistryEntryId ModelRegistryEntry → Prop
  | registered {payload : ModelRegistryCandidateCreate} {context : CandidateContext}
      (asked : request.operation = .candidate payload)
      (eligible : candidateContext platform state.sources request.experimentId
        payload.sourceJobId payload.sourceAttemptId payload.modelArtifactId true = .ok context)
      (unregistered : ∀ other row, state.entries.find? other = some row →
        row.snapshot.model.id ≠ context.snapshot.model.id)
      (fresh : state.entries.find? request.newId = none) :
      EntryMutation platform state request
        (state.entries.insert request.newId (candidateEntry request context) fresh)
  | promoted {payload : ModelRegistryEntryPromote} {entry : ModelRegistryEntry}
      (asked : request.operation = .promote payload)
      (found : state.entries.find? request.entryId = some entry)
      (here : entry.experimentId = request.experimentId) (live : entry.status ≠ .revoked) :
      EntryMutation platform state request
        ((vacateSlot state.entries request.experimentId request.now).modify request.entryId
          fun _ => entry.promoted request.actorId request.now)
  | revoked {payload : ModelRegistryEntryRevoke} {entry : ModelRegistryEntry}
      (asked : request.operation = .revoke payload)
      (found : state.entries.find? request.entryId = some entry)
      (here : entry.experimentId = request.experimentId) (live : entry.status ≠ .revoked) :
      EntryMutation platform state request
        (state.entries.modify request.entryId fun _ =>
          entry.revokedBecause payload.reasonCode request.actorId request.now)

theorem EntryMutation.change {after : Table RegistryEntryId ModelRegistryEntry}
    (mutation : EntryMutation platform state request after) : EntryChange state.entries after := by
  cases mutation with
  | registered asked eligible unregistered fresh => exact .created fresh rfl unregistered
  | promoted asked found here live =>
      rw [← here]
      exact .promoted found live request.actorId request.now
  | @revoked payload entry asked found here live =>
      exact .revoked found live payload.reasonCode request.actorId request.now

theorem createCandidate_eq_ok {payload : ModelRegistryCandidateCreate}
    {fingerprint : Option Digest} {write : RegistryWrite}
    (asked : request.operation = .candidate payload)
    (accepted : createCandidate platform secrets state request payload fingerprint = .ok write) :
    registryVersion state.registries request.experimentId =
        payload.expectedRegistryRowVersion.1 ∧
      EntryMutation platform state request write.entries := by
  unfold createCandidate at accepted
  split at accepted
  · cases accepted
  · next versioned =>
      refine ⟨requireRegistryVersion_eq_ok versioned, ?_⟩
      split at accepted
      · cases accepted
      · split at accepted
        · cases accepted
        · split at accepted
          · cases accepted
          · next context eligible =>
              split at accepted
              · cases accepted
              · split at accepted
                · cases accepted
                · next unregistered =>
                    split at accepted
                    · next fresh =>
                        injection accepted with same
                        subst same
                        refine .registered asked eligible ?_ fresh
                        intro other row found registered
                        apply unregistered
                        exact List.any_eq_true.mpr ⟨(other, row),
                          state.entries.mem_rows_iff.mpr found, decide_eq_true registered⟩
                    · cases accepted

theorem promoteEntry_eq_ok {payload : ModelRegistryEntryPromote} {fingerprint : Option Digest}
    {write : RegistryWrite} (asked : request.operation = .promote payload)
    (accepted : promoteEntry platform secrets state request payload fingerprint = .ok write) :
    registryVersion state.registries request.experimentId =
        request.operation.expectedRegistryRowVersion ∧
      EntryMutation platform state request write.entries := by
  unfold promoteEntry at accepted
  split at accepted
  · cases accepted
  · next versioned =>
      refine ⟨requireRegistry_eq_ok versioned, ?_⟩
      split at accepted
      · cases accepted
      · next entry stored =>
          rcases requireEntry_eq_ok stored with ⟨found, ofExperiment⟩
          split at accepted
          · cases accepted
          · next promotable =>
              split at accepted
              · cases accepted
              · split at accepted
                · cases accepted
                · split at accepted
                  · cases accepted
                  · injection accepted with same
                    subst same
                    exact .promoted asked found ofExperiment (requirePromotable_eq_ok promotable)

theorem revokeEntry_eq_ok {payload : ModelRegistryEntryRevoke} {write : RegistryWrite}
    (asked : request.operation = .revoke payload)
    (accepted : revokeEntry state request payload = .ok write) :
    registryVersion state.registries request.experimentId =
        request.operation.expectedRegistryRowVersion ∧
      EntryMutation platform state request write.entries := by
  unfold revokeEntry at accepted
  split at accepted
  · cases accepted
  · next versioned =>
      refine ⟨requireRegistry_eq_ok versioned, ?_⟩
      split at accepted
      · cases accepted
      · next entry stored =>
          rcases requireEntry_eq_ok stored with ⟨found, ofExperiment⟩
          split at accepted
          · cases accepted
          · next live =>
              injection accepted with same
              subst same
              exact .revoked asked found ofExperiment live

/-- A change is based on the current version of the registry. -/
theorem registryChange_eq_ok {fingerprint : Option Digest} {write : RegistryWrite}
    (accepted : registryChange platform secrets state request fingerprint = .ok write) :
    registryVersion state.registries request.experimentId =
        request.operation.expectedRegistryRowVersion ∧
      EntryMutation platform state request write.entries := by
  unfold registryChange at accepted
  split at accepted
  · next payload isCandidate =>
      rw [isCandidate]
      exact createCandidate_eq_ok isCandidate accepted
  · next payload isPromotion => exact promoteEntry_eq_ok isPromotion accepted
  · next payload isRevocation => exact revokeEntry_eq_ok isRevocation accepted

/-! ## Transactions -/

/-- The clock has advanced since the registry was written last. -/
def ClockDiffers (registries : Table ExperimentId ExperimentModelRegistry)
    (request : RegistryRequest) : Prop :=
  ∀ registry, registries.find? request.experimentId = some registry →
    registry.updatedAt ≠ request.advancedAt

omit [DecidableEq Digest] in
theorem registryVersion_advanceRegistry {registries : Table ExperimentId ExperimentModelRegistry}
    (differs : ClockDiffers registries request) (experimentId : ExperimentId) :
    registryVersion (advanceRegistry registries request.experimentId request.advancedAt).2
        experimentId =
      registryVersion registries experimentId +
        if experimentId = request.experimentId then 1 else 0 := by
  unfold advanceRegistry
  split
  · next none =>
      simp only [registryVersion, Table.find?_insert]
      by_cases same : experimentId = request.experimentId
      · simp [same, none]
      · simp [same]
  · next registry found =>
      simp only [registryVersion, if_neg (differs registry found), Table.find?_modify]
      by_cases same : experimentId = request.experimentId
      · simp [same, found]
      · simp [same]

structure Mutated (platform : Platform) (secrets : RegistrySecrets Digest)
    (request : RegistryRequest) (memory : RegistryMemory Digest) (state : RegistryState Digest)
    (result : ModelRegistryMutationRead) : Prop where
  answer : (mutateRegistry platform secrets request memory state).1 = .ok (result, false)
  based : registryVersion state.registries request.experimentId =
    request.operation.expectedRegistryRowVersion
  registries : (mutateRegistry platform secrets request memory state).2.registries =
    (advanceRegistry state.registries request.experimentId request.advancedAt).2
  entries : EntryChange state.entries (mutateRegistry platform secrets request memory state).2.entries
  recorded : ∃ fresh, (mutateRegistry platform secrets request memory state).2.operations =
    state.operations.insert (request.actorId, actorKeyHash secrets request)
      ⟨request.operation.operationType, registryFingerprint secrets request, result⟩ fresh

theorem mutateRegistry_cases (platform : Platform) (secrets : RegistrySecrets Digest)
    (request : RegistryRequest) (memory : RegistryMemory Digest) (state : RegistryState Digest) :
    ((mutateRegistry platform secrets request memory state).2 = state ∧
      ∀ result, (mutateRegistry platform secrets request memory state).1 ≠ .ok (result, false)) ∨
    ∃ result, Mutated platform secrets request memory state result := by
  rcases done : mutateRegistry platform secrets request memory state with ⟨answer, after⟩
  have computed := done
  unfold mutateRegistry at computed
  split at computed
  · injection computed with answered same
    exact .inl ⟨same.symm, by simp [← answered]⟩
  · split at computed
    · injection computed with answered same
      exact .inl ⟨same.symm, by simp [← answered]⟩
    · injection computed with answered same
      exact .inl ⟨same.symm, by simp [← answered]⟩
    · next fresh =>
        split at computed
        · injection computed with answered same
          exact .inl ⟨same.symm, by simp [← answered]⟩
        · next write accepted =>
            injection computed with answered changed
            rcases registryChange_eq_ok accepted with ⟨based, entries⟩
            subst answered changed
            refine .inr ⟨⟨request.experimentId, (advanceRegistry state.registries
              request.experimentId request.advancedAt).1.rowVersion, write.activeEntryId,
              entryToRead write.entryId write.entry⟩, ?_⟩
            constructor
            case answer => rw [done]
            case based => exact based
            case registries => rw [done]
            case entries =>
              rw [done]
              exact entries.change
            case recorded =>
              rw [done]
              exact ⟨replay_eq_fresh_iff.mp fresh, rfl⟩

/-- The entries after a request that is carried out. -/
theorem Mutated.mutation {result : ModelRegistryMutationRead}
    (mutated : Mutated platform secrets request memory state result) :
    EntryMutation platform state request
      (mutateRegistry platform secrets request memory state).2.entries := by
  rcases done : mutateRegistry platform secrets request memory state with ⟨answer, after⟩
  have answered := mutated.answer
  rw [done] at answered
  unfold mutateRegistry at done
  split at done
  · cases done
    cases answered
  · split at done
    · cases done
      cases answered
    · cases done
      cases answered
    · split at done
      · cases done
        cases answered
      · next write accepted =>
          injection done with _ changed
          subst changed
          exact (registryChange_eq_ok accepted).2

/-- A request that passes the fence, is not recorded yet and has its change accepted is
carried out. -/
theorem Mutated.of_change {write : RegistryWrite}
    (locked : lockExperimentFence state request = .ok ())
    (fresh : registryReplay secrets state request = .fresh)
    (accepted : registryChange platform secrets state request memory.fingerprint = .ok write) :
    ∃ result, Mutated platform secrets request memory state result := by
  rcases mutateRegistry_cases platform secrets request memory state with ⟨-, never⟩ | mutated
  · refine absurd ?_ (never ⟨request.experimentId, (advanceRegistry state.registries
      request.experimentId request.advancedAt).1.rowVersion, write.activeEntryId,
      entryToRead write.entryId write.entry⟩)
    unfold mutateRegistry
    rw [locked]
    simp only
    split
    · next conflict => cases fresh.symm.trans conflict
    · next again => cases fresh.symm.trans again
    · rw [accepted]
  · exact mutated

/-! ## Requests that are sent again -/

omit [DecidableEq Digest] in
theorem registryOperation_document_injective {left right : RegistryOperation}
    (sameType : left.operationType = right.operationType)
    (sameDocument : left.document = right.document) : left = right := by
  cases left <;> cases right <;> try cases sameType
  case candidate.candidate payload other =>
      rcases payload with ⟨⟨version, _⟩, jobId, attemptId, artifactId⟩
      rcases other with ⟨⟨otherVersion, _⟩, otherJobId, otherAttemptId, otherArtifactId⟩
      simp only [RegistryOperation.document, Json.object.injEq, List.cons.injEq, Prod.mk.injEq,
        true_and, and_true, Json.int.injEq, Int.natCast_inj] at sameDocument
      rcases sameDocument with ⟨rfl, rfl, rfl, rfl⟩
      rfl
  case promote.promote payload other =>
      rcases payload with ⟨⟨version, _⟩, ⟨entryVersion, _⟩⟩
      rcases other with ⟨⟨otherVersion, _⟩, ⟨otherEntryVersion, _⟩⟩
      simp only [RegistryOperation.document, Json.object.injEq, List.cons.injEq, Prod.mk.injEq,
        true_and, and_true, Json.int.injEq, Int.natCast_inj] at sameDocument
      rcases sameDocument with ⟨rfl, rfl⟩
      rfl
  case revoke.revoke payload other =>
      rcases payload with ⟨⟨version, _⟩, ⟨entryVersion, _⟩, reason⟩
      rcases other with ⟨⟨otherVersion, _⟩, ⟨otherEntryVersion, _⟩, otherReason⟩
      simp only [RegistryOperation.document, Json.object.injEq, List.cons.injEq, Prod.mk.injEq,
        true_and, and_true, Json.int.injEq, Json.str.injEq, Int.natCast_inj] at sameDocument
      rcases sameDocument with ⟨rfl, rfl, sameReason⟩
      have injective : Function.Injective RevokeReason.value := by
        intro first second same
        cases first <;> cases second <;> first | rfl | exact absurd same (by decide)
      rw [injective sameReason]

/-- The same path and body. -/
def SameRequest (first second : RegistryRequest) : Prop :=
  first.path = second.path ∧ first.operation = second.operation

omit [DecidableEq Digest] in
theorem sameRequest_of_fingerprint (collisionFree : Function.Injective secrets.hmacSha256)
    {first second : RegistryRequest}
    (same : registryFingerprint secrets first = registryFingerprint secrets second) :
    SameRequest first second := by
  have sameDocument := collisionFree same
  simp only [RegistryOperation.canonical, Json.object.injEq, List.cons.injEq, Prod.mk.injEq,
    true_and, and_true, Json.str.injEq] at sameDocument
  rcases sameDocument with ⟨sameType, samePath, sameBody⟩
  have injective : Function.Injective RegistryOperationType.value := by
    intro left right same
    cases left <;> cases right <;> first | rfl | exact absurd same (by decide)
  exact ⟨samePath, registryOperation_document_injective (injective sameType) sameBody⟩

def Registered (secrets : RegistrySecrets Digest) (state : RegistryState Digest)
    (request : RegistryRequest) (response : ModelRegistryMutationRead) : Prop :=
  state.operations.find? (request.actorId, actorKeyHash secrets request) =
    some ⟨request.operation.operationType, registryFingerprint secrets request, response⟩

/-- The replay check answers the request with `response`. Behind the fence, where only
an actor who has lost their access is refused, it is answered so too and changes
nothing. -/
structure RegistryReplays (platform : Platform) (secrets : RegistrySecrets Digest)
    (state : RegistryState Digest) (request : RegistryRequest)
    (response : ModelRegistryMutationRead) : Prop where
  read : ∀ memory, readReplay secrets request state memory = .error (.ok (response, true))
  unchanged : ∀ memory, (mutateRegistry platform secrets request memory state).2 = state
  answer : ∀ memory,
    (mutateRegistry platform secrets request memory state).1 = .ok (response, true) ∨
      ∃ error, lockExperimentFence state request = .error error ∧
        (mutateRegistry platform secrets request memory state).1 = .error error

/-- The key belongs to another request, and this one is refused without effect. -/
structure RegistryRefuses (platform : Platform) (secrets : RegistrySecrets Digest)
    (state : RegistryState Digest) (request : RegistryRequest) : Prop where
  read : ∀ memory, readReplay secrets request state memory = .error (.error registryKeyConflict)
  unchanged : ∀ memory, (mutateRegistry platform secrets request memory state).2 = state
  answer : ∀ memory, ∃ error,
    (mutateRegistry platform secrets request memory state).1 = .error error

theorem mutateRegistry_of_again {response : ModelRegistryMutationRead}
    (again : registryReplay secrets state request = .again response)
    (memory : RegistryMemory Digest) :
    mutateRegistry platform secrets request memory state =
      match lockExperimentFence state request with
      | .error error => (.error error, state)
      | .ok () => (.ok (response, true), state) := by
  unfold mutateRegistry
  rcases lockExperimentFence state request with error | _
  · rfl
  · simp only
    split
    · next conflict => cases again.symm.trans conflict
    · next other =>
        injection again.symm.trans other with same
        rw [same]
    · next fresh => cases again.symm.trans fresh

theorem mutateRegistry_of_conflict (conflict : registryReplay secrets state request = .conflict)
    (memory : RegistryMemory Digest) :
    mutateRegistry platform secrets request memory state =
      match lockExperimentFence state request with
      | .error error => (.error error, state)
      | .ok () => (.error registryKeyConflict, state) := by
  unfold mutateRegistry
  rcases lockExperimentFence state request with error | _
  · rfl
  · simp only
    split
    · rfl
    · next again => cases conflict.symm.trans again
    · next fresh => cases conflict.symm.trans fresh

theorem Registered.replays {response : ModelRegistryMutationRead}
    (registered : Registered secrets state request response) :
    RegistryReplays platform secrets state request response := by
  have again : registryReplay secrets state request = .again response :=
    replay_eq_again_iff.mpr registered
  constructor
  case read =>
    intro memory
    simp only [readReplay, again]
  case unchanged =>
    intro memory
    rw [mutateRegistry_of_again again]
    split <;> rfl
  case answer =>
    intro memory
    rw [mutateRegistry_of_again again]
    split
    · next error refused => exact .inr ⟨error, refused, rfl⟩
    · exact .inl rfl

theorem RegistryRefuses.of_conflict (conflict : registryReplay secrets state request = .conflict) :
    RegistryRefuses platform secrets state request := by
  constructor
  case read =>
    intro memory
    simp only [readReplay, conflict]
  case unchanged =>
    intro memory
    rw [mutateRegistry_of_conflict conflict]
    split <;> rfl
  case answer =>
    intro memory
    rw [mutateRegistry_of_conflict conflict]
    split
    · next error _ => exact ⟨error, rfl⟩
    · exact ⟨_, rfl⟩

/-- Records stay. -/
theorem mutateRegistry_recorded (platform : Platform) (other : RegistryRequest)
    (memory : RegistryMemory Digest) {key : UserId × Digest}
    {record : ModelRegistryOperation Digest} (found : state.operations.find? key = some record) :
    (mutateRegistry platform secrets other memory state).2.operations.find? key = some record := by
  rcases mutateRegistry_cases platform secrets other memory state with
    ⟨same, -⟩ | ⟨result, mutated⟩
  · rw [same]
    exact found
  · rcases mutated.recorded with ⟨fresh, recorded⟩
    rw [recorded]
    exact Table.find?_insert_of_some _ _ _ fresh found

theorem registered_of_mutateRegistry {response : ModelRegistryMutationRead} {replayed : Bool}
    (answered : (mutateRegistry platform secrets request memory state).1 =
      .ok (response, replayed)) :
    Registered secrets (mutateRegistry platform secrets request memory state).2 request
      response := by
  rcases mutateRegistry_cases platform secrets request memory state with
    ⟨same, never⟩ | ⟨result, mutated⟩
  · rw [same]
    have original := answered
    unfold mutateRegistry at answered
    split at answered
    · cases answered
    · split at answered
      · cases answered
      · next body again =>
          injection answered with answered
          injection answered with sameBody _
          subst sameBody
          exact replay_eq_again_iff.mp again
      · split at answered
        · cases answered
        · injection answered with answered
          injection answered with _ isFresh
          exact absurd (isFresh ▸ original) (never response)
  · rcases mutated.recorded with ⟨fresh, recorded⟩
    rw [mutated.answer] at answered
    injection answered with answered
    injection answered with sameBody _
    subst sameBody
    rw [Registered, recorded]
    exact Table.find?_insert_self _ _ _ fresh

omit [DecidableEq Digest] in
theorem actorKeyHash_congr {other : RegistryRequest} (sameActor : other.actorId = request.actorId)
    (sameKey : other.idempotencyKey = request.idempotencyKey) :
    actorKeyHash secrets other = actorKeyHash secrets request := by
  rw [actorKeyHash, actorKeyHash, sameActor, sameKey]

theorem Registered.agree (collisionFree : Function.Injective secrets.hmacSha256)
    {other : RegistryRequest} {response otherResponse : ModelRegistryMutationRead}
    (sameActor : other.actorId = request.actorId)
    (sameKey : other.idempotencyKey = request.idempotencyKey)
    (registered : Registered secrets state request response)
    (otherRegistered : Registered secrets state other otherResponse) :
    SameRequest other request ∧ otherResponse = response := by
  rw [Registered, actorKeyHash_congr sameActor sameKey, sameActor,
    show state.operations.find? _ = _ from registered] at otherRegistered
  injection otherRegistered with same
  injection same with _ sameFingerprint sameResponse
  exact ⟨sameRequest_of_fingerprint collisionFree sameFingerprint.symm, sameResponse.symm⟩

/-- Only the replay check answers before the fence with a response. -/
theorem registered_of_read {read : RegistryRead Digest}
    (member : read ∈ registryReads platform secrets request)
    {response : ModelRegistryMutationRead} {replayed : Bool}
    (answered : read state memory = .error (.ok (response, replayed))) :
    Registered secrets state request response ∧ replayed = true := by
  have authenticated : authenticateActor request state memory ≠
      .error (.ok (response, replayed)) := by
    unfold authenticateActor
    split
    · simp
    · split <;> simp
  have visible : readVisibleExperiment request state memory ≠
      .error (.ok (response, replayed)) := by
    unfold readVisibleExperiment
    split
    · simp
    · split <;> simp
  have versioned : readRegistryVersion request state memory ≠
      .error (.ok (response, replayed)) := by
    unfold readRegistryVersion
    split <;> simp
  have unregistered : ∀ artifactId, readUnregistered artifactId state memory ≠
      .error (.ok (response, replayed)) := by
    intro artifactId
    unfold readUnregistered
    split <;> simp
  have stored : ∀ expected, readEntry request expected state memory ≠
      .error (.ok (response, replayed)) := by
    intro expected
    unfold readEntry
    split
    · simp
    · split <;> simp
  have context : ∀ payload, preflightContext platform secrets request payload state memory ≠
      .error (.ok (response, replayed)) := by
    intro payload
    unfold preflightContext
    split
    · simp
    · split <;> simp
  have frozen : preflightEntryContext platform secrets request state memory ≠
      .error (.ok (response, replayed)) := by
    unfold preflightEntryContext
    split
    · simp
    · split
      · simp
      · split
        · simp
        · split <;> simp
  have again : readReplay secrets request state memory = .error (.ok (response, replayed)) →
      Registered secrets state request response ∧ replayed = true := by
    intro answered
    unfold readReplay at answered
    split at answered
    · cases answered
    · next body again =>
        injection answered with answered
        injection answered with answered
        injection answered with sameBody isReplay
        subst sameBody
        exact ⟨replay_eq_again_iff.mp again, isReplay.symm⟩
    · cases answered
  unfold registryReads at member
  simp only [List.cons_append, List.nil_append, List.mem_cons] at member
  rcases member with rfl | rfl | rfl | member
  · exact absurd answered authenticated
  · exact absurd answered visible
  · exact again answered
  · split at member <;> simp only [List.mem_cons, List.not_mem_nil, or_false] at member
    · rcases member with rfl | rfl | rfl
      · exact absurd answered versioned
      · exact absurd answered (unregistered _)
      · exact absurd answered (context _)
    · rcases member with rfl | rfl | rfl
      · exact absurd answered versioned
      · exact absurd answered (stored _)
      · exact absurd answered frozen

/-! ## Runs -/

abbrev RegistryServing (Digest : Type) [DecidableEq Digest] :=
  Service.Serving (RegistryState Digest) RegistryRequest (RegistryMemory Digest) RegistryAnswer

abbrev RegistryEvent (Digest : Type) [DecidableEq Digest] :=
  Service.Event RegistryRequest (Surroundings Digest)

theorem registered_run (platform : Platform) (secrets : RegistrySecrets Digest)
    (surroundings : Surroundings Digest) (events : List (RegistryEvent Digest)) :
    let serving := run (modelRegistry platform secrets).step
      (.initial (.initial surroundings)) events
    ∀ request response replayed, (request, .ok (response, replayed)) ∈ serving.answers →
      Registered secrets serving.state request response := by
  intro serving request response replayed member
  have all := (modelRegistry platform secrets).run_answers (fun _ => True)
    (fun state request answer => ∀ response replayed, answer = .ok (response, replayed) →
      Registered secrets state request response)
    (fun _ _ _ _ => trivial) (fun _ _ _ => trivial)
    (fun other memory _ _ _ _ holds response replayed answered =>
      mutateRegistry_recorded platform other memory (holds response replayed answered))
    (fun _ _ _ _ _ holds response replayed answered => holds response replayed answered)
    (fun _ _ _ _ _ _ answered => registered_of_mutateRegistry answered)
    (fun _ _ member _ _ _ _ refused _ _ answered =>
      (registered_of_read member (answered ▸ refused)).1)
    (.initial surroundings) trivial events
  exact all _ member response replayed rfl

theorem championsSound_mutateRegistry (platform : Platform) (request : RegistryRequest)
    (memory : RegistryMemory Digest) (sound : ChampionsSound state.entries) :
    ChampionsSound (mutateRegistry platform secrets request memory state).2.entries := by
  rcases mutateRegistry_cases platform secrets request memory state with
    ⟨same, -⟩ | ⟨result, mutated⟩
  · rw [same]
    exact sound
  · exact mutated.entries.sound sound

theorem entriesKept_mutateRegistry (platform : Platform) (request : RegistryRequest)
    (memory : RegistryMemory Digest) (sound : ChampionsSound state.entries) :
    EntriesKept state.entries (mutateRegistry platform secrets request memory state).2.entries := by
  rcases mutateRegistry_cases platform secrets request memory state with
    ⟨same, -⟩ | ⟨result, mutated⟩
  · rw [same]
    exact EntriesKept.refl _
  · exact mutated.entries.kept sound

theorem championsSound_step (serving : RegistryServing Digest) (event : RegistryEvent Digest)
    (sound : ChampionsSound serving.state.entries) :
    ChampionsSound ((modelRegistry platform secrets).step serving event).state.entries ∧
      EntriesKept serving.state.entries
        ((modelRegistry platform secrets).step serving event).state.entries := by
  rcases (modelRegistry platform secrets).step_cases serving event with
    ⟨same, -⟩ | ⟨_, _, _, -, -, same, -⟩ | ⟨_, request, memory, -, -, changed, -⟩ |
      ⟨surroundings, -, changed, -⟩
  · rw [same]
    exact ⟨sound, EntriesKept.refl _⟩
  · rw [same]
    exact ⟨sound, EntriesKept.refl _⟩
  · rw [changed]
    exact ⟨championsSound_mutateRegistry platform request memory sound,
      entriesKept_mutateRegistry platform request memory sound⟩
  · rw [changed]
    exact ⟨sound, EntriesKept.refl _⟩

theorem championsSound_run (platform : Platform) (secrets : RegistrySecrets Digest)
    (serving : RegistryServing Digest) (events : List (RegistryEvent Digest))
    (sound : ChampionsSound serving.state.entries) :
    ChampionsSound (run (modelRegistry platform secrets).step serving events).state.entries ∧
      EntriesKept serving.state.entries
        (run (modelRegistry platform secrets).step serving events).state.entries := by
  refine run_preserves (fun later : RegistryServing Digest =>
    ChampionsSound later.state.entries ∧ EntriesKept serving.state.entries later.state.entries) ?_
    ⟨sound, EntriesKept.refl _⟩ events
  rintro later event ⟨laterSound, kept⟩
  rcases championsSound_step later event laterSound with ⟨nextSound, keptNext⟩
  exact ⟨nextSound, kept.trans keptNext⟩

/-- The registry versions that the committed mutations of an experiment were based on,
in the order of their commits. -/
def mutationsOf (answers : List (RegistryRequest × RegistryAnswer)) (experimentId : ExperimentId) :
    List Nat :=
  answers.filterMap fun entry =>
    match entry.2 with
    | .ok (_, false) =>
        if entry.1.experimentId = experimentId then
          some entry.1.operation.expectedRegistryRowVersion
        else none
    | _ => none

/-- The clock that a mutation writes differs from the stored one. -/
def ClocksDiffer (serving : RegistryServing Digest) (event : RegistryEvent Digest) : Prop :=
  ∀ place request memory, event = .proceed place →
    Service.Commits serving place request memory → ClockDiffers serving.state.registries request

/-- Each mutation is based on the number of mutations before it. -/
def VersionsCount (serving : RegistryServing Digest) : Prop :=
  ∀ experimentId, mutationsOf serving.answers experimentId =
    List.range (registryVersion serving.state.registries experimentId)

omit [DecidableEq Digest] in
theorem mutationsOf_append (answers : List (RegistryRequest × RegistryAnswer))
    (entry : RegistryRequest × RegistryAnswer) (experimentId : ExperimentId) :
    mutationsOf (answers ++ [entry]) experimentId =
      mutationsOf answers experimentId ++ mutationsOf [entry] experimentId :=
  List.filterMap_append

omit [DecidableEq Digest] in
theorem mutationsOf_of_not_fresh {answer : RegistryAnswer}
    (never : ∀ result, answer ≠ .ok (result, false)) (experimentId : ExperimentId) :
    mutationsOf [(request, answer)] experimentId = [] := by
  rcases answer with error | ⟨result, _ | _⟩
  · rfl
  · exact absurd rfl (never result)
  · rfl

theorem VersionsCount.mutateRegistry {serving : RegistryServing Digest}
    (counts : VersionsCount serving) (differs : ClockDiffers serving.state.registries request)
    (memory : RegistryMemory Digest) (experimentId : ExperimentId) :
    mutationsOf (serving.answers ++
        [(request, (mutateRegistry platform secrets request memory serving.state).1)])
        experimentId =
      List.range (registryVersion
        (mutateRegistry platform secrets request memory serving.state).2.registries
          experimentId) := by
  rw [mutationsOf_append]
  rcases mutateRegistry_cases platform secrets request memory serving.state with
    ⟨same, never⟩ | ⟨result, mutated⟩
  · rw [same, mutationsOf_of_not_fresh never, List.append_nil]
    exact counts experimentId
  · rw [mutated.registries, registryVersion_advanceRegistry differs, mutated.answer,
      counts experimentId]
    by_cases ofExperiment : experimentId = request.experimentId
    · rw [if_pos ofExperiment, List.range_succ, ofExperiment, mutated.based]
      simp [mutationsOf]
    · rw [if_neg ofExperiment]
      simp [mutationsOf, Ne.symm ofExperiment]

theorem VersionsCount.step {serving : RegistryServing Digest} (counts : VersionsCount serving)
    (belongs : (modelRegistry platform secrets).Belongs serving) {event : RegistryEvent Digest}
    (differ : ClocksDiffer serving event) :
    VersionsCount ((modelRegistry platform secrets).step serving event) := by
  intro experimentId
  rcases (modelRegistry platform secrets).step_cases serving event with
    ⟨same, answers⟩ | ⟨_, request, answer, -, refused, same, answers⟩ |
      ⟨place, request, memory, isProceed, commits, changed, answers⟩ |
      ⟨surroundings, -, changed, answers⟩
  · rw [same, answers]
    exact counts experimentId
  · rcases refused with ⟨read, pending, memory, found, refused⟩
    have member := belongs _ (List.mem_of_getElem? found) read List.mem_cons_self
    have never : ∀ result, answer ≠ .ok (result, false) := by
      rintro result rfl
      cases (registered_of_read member refused).2
    rw [same, answers, mutationsOf_append, mutationsOf_of_not_fresh never, List.append_nil]
    exact counts experimentId
  · rw [changed, answers]
    exact counts.mutateRegistry (differ place request memory isProceed commits) memory experimentId
  · rw [changed, answers]
    exact counts experimentId

theorem versionsCount_run (platform : Platform) (secrets : RegistrySecrets Digest)
    (surroundings : Surroundings Digest) {events : List (RegistryEvent Digest)}
    (differ : Along (modelRegistry platform secrets).step ClocksDiffer
      (.initial (.initial surroundings)) events) :
    VersionsCount (run (modelRegistry platform secrets).step
      (.initial (.initial surroundings)) events) := by
  have both := run_preserves_along (fun serving : RegistryServing Digest =>
      (modelRegistry platform secrets).Belongs serving ∧ VersionsCount serving)
    (fun _ event differ good => ⟨good.1.step event, good.2.step good.1 differ⟩)
    ⟨by simp [Service.Belongs, Service.Serving.initial], fun _ => rfl⟩ differ
  exact both.2

/-- For every interleaving of registry requests, whose clock readings differ from the
stored ones: champions are sound; revoked entries and times of approval never change
again; the version of a registry counts its mutations, each of which was based on its
own version; and a request that is sent again is answered as before without effect,
while another request under its key is refused without effect. -/
theorem model_registry_sound (platform : Platform) (secrets : RegistrySecrets Digest)
    (collisionFree : Function.Injective secrets.hmacSha256) (surroundings : Surroundings Digest)
    (events : List (RegistryEvent Digest))
    (differ : Along (modelRegistry platform secrets).step ClocksDiffer
      (.initial (.initial surroundings)) events) :
    let serving := run (modelRegistry platform secrets).step
      (.initial (.initial surroundings)) events
    ChampionsSound serving.state.entries ∧
    (∀ later, EntriesKept serving.state.entries
      (run (modelRegistry platform secrets).step serving later).state.entries) ∧
    (∀ experimentId, mutationsOf serving.answers experimentId =
      List.range (registryVersion serving.state.registries experimentId)) ∧
    ∀ first response replayed, (first, .ok (response, replayed)) ∈ serving.answers →
      ∀ request : RegistryRequest, request.actorId = first.actorId →
        request.idempotencyKey = first.idempotencyKey →
        (SameRequest request first →
          RegistryReplays platform secrets serving.state request response) ∧
        (¬SameRequest request first → RegistryRefuses platform secrets serving.state request) ∧
        ∀ later again, (request, .ok (later, again)) ∈ serving.answers →
          SameRequest request first ∧ later = response := by
  intro serving
  have registered := registered_run platform secrets surroundings events
  have empty : ChampionsSound (RegistryState.initial surroundings).entries := by
    constructor
    · intro _ _ _ _ found
      cases found
    · intro _ _ found
      cases found
    · intro _ _ _ _ found
      cases found
  have sound : ChampionsSound serving.state.entries :=
    (championsSound_run platform secrets (.initial (.initial surroundings)) events empty).1
  refine ⟨sound, fun later => (championsSound_run platform secrets serving later sound).2,
    versionsCount_run platform secrets surroundings differ, ?_⟩
  intro first response replayed answered request sameActor sameKey
  have done : Registered secrets serving.state first response :=
    registered first response replayed answered
  refine ⟨?_, ?_, ?_⟩
  · rintro ⟨samePath, sameOperation⟩
    apply Registered.replays
    rw [Registered, actorKeyHash_congr sameActor sameKey, sameActor, registryFingerprint,
      samePath, sameOperation]
    exact done
  · intro different
    apply RegistryRefuses.of_conflict
    rw [registryReplay, actorKeyHash_congr sameActor sameKey, sameActor,
      show serving.state.operations.find? _ = _ from done, replay, if_pos]
    refine .inr fun same => different ?_
    exact sameRequest_of_fingerprint collisionFree same.symm
  · intro later again laterAnswered
    exact done.agree collisionFree sameActor sameKey (registered request later again laterAnswered)

/-- A copy of a request that has passed its replay check when the other commits finds
another version than it expects. -/
theorem answers_of_overlap {serving : RegistryServing Digest} {seen : RegistryMemory Digest}
    {pending : List (RegistryRead Digest)}
    (flights : serving.flights =
      [⟨request, seen, readRegistryVersion request :: pending⟩, ⟨request, memory, []⟩])
    {result : ModelRegistryMutationRead}
    (mutated : Mutated platform secrets request memory serving.state result)
    (differs : ClockDiffers serving.state.registries request) :
    (run (modelRegistry platform secrets).step serving [.proceed 1, .proceed 0]).answers =
      serving.answers ++
        [(request, .ok (result, false)), (request, .error registryChanged)] := by
  have commits : Service.Commits serving 1 request memory := by
    rw [Service.Commits, flights]
    rfl
  have other : registryVersion
      (mutateRegistry platform secrets request memory serving.state).2.registries
        request.experimentId ≠ request.operation.expectedRegistryRowVersion := by
    rw [mutated.registries, registryVersion_advanceRegistry differs, if_pos rfl, mutated.based]
    exact Nat.succ_ne_self _
  have mismatch : requireRegistryVersion
      ((mutateRegistry platform secrets request memory serving.state).2.registries.find?
        request.experimentId) request.operation.expectedRegistryRowVersion =
        .error registryChanged := if_pos other
  have refused : readRegistryVersion request
      (mutateRegistry platform secrets request memory serving.state).2 seen =
        .error (.error registryChanged) := by
    simp only [readRegistryVersion, mismatch]
  rw [run_cons, (modelRegistry platform secrets).step_commit commits, run_cons, run_nil, flights,
    (modelRegistry platform secrets).step_answer rfl refused]
  simp only [show (modelRegistry platform secrets).commit request memory serving.state =
    mutateRegistry platform secrets request memory serving.state from rfl, mutated.answer,
    List.append_assoc, List.cons_append, List.nil_append]

end

/-! ## Two copies of one request -/

/-- Digests that are the digested value. -/
inductive SampleDigest where
  | text (value : String)
  | document (value : Json)
  | context (value : ContextDocument)
deriving DecidableEq

def registrySecrets : RegistrySecrets SampleDigest where
  sha256 := .text
  hmacSha256 := .document
  canonicalSha256 := .context

def completedJob : JobRow := { heldJob with status := .completed }

def completedAttempt : AttemptRow :=
  { heldAttempt with status := .completed, finishedAt := some 3000 }

def sampleProvenance : AttemptProvenance where
  engineMode := "rvc_webui"
  executionProvenanceVersion := some "worker-claim-v1"
  rvcCommitHash := some rvcReviewedCommit
  runtimeImageDigest := some "sha256:1"
  runtimeAssetManifestSha256 := some "2"

def sampleBinding (artifactId : ArtifactId) : VerifiedArtifactBinding where
  artifactId := artifactId
  artifact := ⟨1, 1, "final_small_model", "voice-1.pth", 8, "3", "s3://models/1", .null⟩
  upload := ⟨1, "completed", "jobs/1/model", "4", 8, "3"⟩

def sampleSources : Sources where
  jobs := .single 1 completedJob
  attempts := .single 1 completedAttempt
  provenance _ := sampleProvenance
  artifactIds _ _ artifactType := if artifactType = "final_small_model" then [7] else []
  verifiedArtifactBinding artifactId _ _ _ _ := .ok (some (sampleBinding artifactId))
  verifyCurrentArtifactBytes _ := .ok true
  approvedSampleRuntimeBundles := [("sha256:1", "2")]

def sampleSurroundings : Surroundings SampleDigest where
  accounts := .bootstrapped "ada" "ada@rvc.example" "hash-1" 0
  experiments := .single completedJob.experimentId "ada"
  sources := sampleSources

def sampleContext : CandidateContext where
  jobId := 1
  job := completedJob
  attemptId := 1
  attempt := completedAttempt
  provenance := sampleProvenance
  model := sampleBinding 7
  index := none
  jobConfigSha256 := samplePlatform.configSha256 plainConfig

theorem configMatchesJob_sample : configMatchesJob plainConfig.normal completedJob = true := by
  simp only [configMatchesJob, Bool.and_eq_true, decide_eq_true_eq]
  exact ⟨⟨⟨⟨⟨rfl, rfl⟩, rfl⟩, rfl⟩, rfl⟩, rfl⟩

theorem isEligible_sample :
    isEligible sampleSources completedJob.experimentId true 1 completedJob 1 completedAttempt
      plainConfig.normal = true := by
  have current : isCurrentAttempt completedJob 1 completedAttempt = true := by
    simp only [isCurrentAttempt, Bool.and_eq_true, decide_eq_true_eq]
    exact ⟨⟨⟨rfl, rfl⟩, rfl⟩, rfl⟩
  have bundle : (("sha256:1", "2") : String × String) ∈
      sampleSources.approvedSampleRuntimeBundles := List.mem_cons_self
  simp only [isEligible, configMatchesJob_sample, current, Bool.and_eq_true, decide_eq_true_eq]
  refine ⟨⟨⟨⟨⟨⟨⟨⟨⟨trivial, rfl⟩, trivial⟩, rfl⟩, rfl⟩, rfl⟩, rfl⟩, rfl⟩, rfl⟩, ?_⟩
  exact decide_eq_true bundle

theorem validatedJobConfig_completedJob :
    validatedJobConfig samplePlatform 1 completedJob (some completedAttempt) =
      .ok plainConfig.normal := by
  have stores := storesConfig_createdJob samplePlatform plainConfig 0
  refine validatedJobConfig_sample
    ⟨stores.jobName, stores.experimentId, stores.datasetId, stores.totalEpoch, stores.priority,
      stores.testSetId⟩ rfl rfl ?_
  intro row member
  rw [Option.mem_some_iff] at member
  subst member
  exact ⟨rfl, rfl⟩

theorem candidateContext_of_noIndex {sources : Sources} {experimentId : ExperimentId}
    {jobId : JobId} {job : JobRow} {attemptId : AttemptId} {attempt : AttemptRow}
    {modelArtifactId : ArtifactId} {requireCurrent : Bool} {config : JobConfig}
    {jobConfigSha256 : String} {model : VerifiedArtifactBinding}
    (jobFound : sources.jobs.find? jobId = some job)
    (attemptFound : sources.attempts.find? attemptId = some attempt)
    (valid : validatedJobConfig samplePlatform jobId job (some attempt) = .ok config)
    (hash : job.configSha256 = some jobConfigSha256)
    (eligible : isEligible sources experimentId requireCurrent jobId job attemptId attempt config =
      true)
    (models : sources.artifactIds jobId attemptId "final_small_model" = [modelArtifactId])
    (bound : sources.verifiedArtifactBinding modelArtifactId jobId attemptId "final_small_model"
      attempt.workerId = .ok (some model))
    (indexes : sources.artifactIds jobId attemptId "final_index" = []) :
    candidateContext samplePlatform sources experimentId jobId attemptId modelArtifactId
        requireCurrent =
      .ok ⟨jobId, job, attemptId, attempt, sources.provenance attemptId, model, none,
        jobConfigSha256⟩ := by
  simp only [candidateContext, jobFound, attemptFound, valid, hash, eligible, models, binding,
    bound, indexes, Bool.true_eq_false, if_false, ne_eq, not_true_eq_false]

theorem candidateContext_sample :
    candidateContext samplePlatform sampleSources completedJob.experimentId 1 1 7 true =
      .ok sampleContext := by
  have models : sampleSources.artifactIds 1 1 "final_small_model" = [7] := by decide
  have indexes : sampleSources.artifactIds 1 1 "final_index" = [] := by decide
  exact candidateContext_of_noIndex rfl rfl validatedJobConfig_completedJob rfl isEligible_sample
    models rfl indexes

def nominated : ModelRegistryCandidateCreate := ⟨⟨0, by decide⟩, 1, 1, 7⟩

def nomination : RegistryRequest where
  claims := ⟨"ada", "jti-1", 1⟩
  expectedActorId := none
  idempotencyKey := "key-1"
  path := "/experiments/1/model-registry/candidates"
  experimentId := completedJob.experimentId
  entryId := 0
  operation := .candidate nominated
  newId := 1
  now := 4000
  advancedAt := 4001

def sampleState : RegistryState SampleDigest := .initial sampleSurroundings

def sampleActor : User where
  rowVersion := 1
  email := "ada@rvc.example"
  passwordHash := "hash-1"
  role := .admin
  disabled := false
  accessTokenVersion := 1
  createdAt := 0
  updatedAt := 0

def readAll : RegistryMemory SampleDigest :=
  ⟨some sampleActor, none, some (.context sampleContext.document)⟩

theorem preflightContext_eq_ok (request : RegistryRequest)
    (payload : ModelRegistryCandidateCreate) (state : RegistryState SampleDigest)
    {context : CandidateContext}
    (found : candidateContext samplePlatform state.sources request.experimentId
      payload.sourceJobId payload.sourceAttemptId payload.modelArtifactId true = .ok context)
    (verified : verifyContextBytes state.sources context = .ok ())
    (memory : RegistryMemory SampleDigest) :
    preflightContext samplePlatform registrySecrets request payload state memory =
      .ok { memory with fingerprint := some (.context context.document) } := by
  simp only [preflightContext, found, verified]
  rfl

theorem candidateContext_nomination :
    candidateContext samplePlatform sampleState.sources nomination.experimentId
      nominated.sourceJobId nominated.sourceAttemptId nominated.modelArtifactId true =
      .ok sampleContext := by
  rw [show sampleState.sources = sampleSources from rfl,
    show nomination.experimentId = completedJob.experimentId from rfl]
  exact candidateContext_sample

theorem preflightContext_sample :
    preflightContext samplePlatform registrySecrets nomination nominated sampleState
      ⟨some sampleActor, none, none⟩ = .ok readAll := by
  have verified : verifyContextBytes sampleState.sources sampleContext = .ok () := rfl
  rw [preflightContext_eq_ok nomination nominated sampleState candidateContext_nomination
    verified]
  rfl

def sampleService := modelRegistry samplePlatform registrySecrets

abbrev SampleFlight :=
  Service.Flight (RegistryState SampleDigest) RegistryRequest (RegistryMemory SampleDigest)
    RegistryAnswer

def laterReads : List (RegistryRead SampleDigest) :=
  [readRegistryVersion nomination, readUnregistered nominated.modelArtifactId,
    preflightContext samplePlatform registrySecrets nomination nominated]

def checked : SampleFlight := ⟨nomination, ⟨some sampleActor, none, none⟩, laterReads⟩

/-- The request is sent twice. The second copy is about to commit when the first has
passed its replay check. -/
def overlapping : List (RegistryEvent SampleDigest) :=
  [.arrive nomination, .proceed 0, .proceed 0, .proceed 0,
    .arrive nomination, .proceed 1, .proceed 1, .proceed 1, .proceed 1, .proceed 1, .proceed 1]

def midway (memory : RegistryMemory SampleDigest) (pending : List (RegistryRead SampleDigest)) :
    RegistryServing SampleDigest :=
  ⟨sampleState, [checked, ⟨nomination, memory, pending⟩], []⟩

theorem step_midway {memory next : RegistryMemory SampleDigest} {read : RegistryRead SampleDigest}
    (accepted : read sampleState memory = .ok next)
    (pending : List (RegistryRead SampleDigest)) :
    sampleService.step (midway memory (read :: pending)) (.proceed 1) = midway next pending :=
  sampleService.step_read rfl accepted

theorem run_overlapping :
    run sampleService.step (.initial sampleState) overlapping = midway readAll [] := by
  have authenticated : authenticateActor nomination sampleState ⟨none, none, none⟩ =
      .ok ⟨some sampleActor, none, none⟩ := rfl
  have visible : readVisibleExperiment nomination sampleState
      ⟨some sampleActor, none, none⟩ = .ok ⟨some sampleActor, none, none⟩ := rfl
  have replayed : readReplay registrySecrets nomination sampleState
      ⟨some sampleActor, none, none⟩ = .ok ⟨some sampleActor, none, none⟩ := rfl
  have versioned : readRegistryVersion nomination sampleState
      ⟨some sampleActor, none, none⟩ = .ok ⟨some sampleActor, none, none⟩ := rfl
  have unregistered : readUnregistered nominated.modelArtifactId sampleState
      ⟨some sampleActor, none, none⟩ = .ok ⟨some sampleActor, none, none⟩ := rfl
  have first : run sampleService.step (.initial sampleState)
      [.arrive nomination, .proceed 0, .proceed 0, .proceed 0, .arrive nomination] =
        midway ⟨none, none, none⟩ ([authenticateActor nomination,
          readVisibleExperiment nomination, readReplay registrySecrets nomination] ++
            laterReads) := by
    rw [run_cons, run_cons, sampleService.step_read rfl rfl, run_cons,
      sampleService.step_read rfl rfl, run_cons, sampleService.step_read rfl rfl]
    rfl
  rw [show overlapping = [.arrive nomination, .proceed 0, .proceed 0, .proceed 0,
    .arrive nomination] ++ [.proceed 1, .proceed 1, .proceed 1, .proceed 1, .proceed 1,
    .proceed 1] from rfl, run_append, first, List.cons_append, List.cons_append, List.cons_append,
    List.nil_append, laterReads, run_cons, step_midway authenticated, run_cons,
    step_midway visible, run_cons, step_midway replayed, run_cons, step_midway versioned,
    run_cons, step_midway unregistered, run_cons, step_midway preflightContext_sample, run_nil]

theorem createCandidate_accepts {secrets : RegistrySecrets SampleDigest}
    {state : RegistryState SampleDigest} {request : RegistryRequest}
    {payload : ModelRegistryCandidateCreate} {context : CandidateContext}
    (versioned : requireRegistryVersion (state.registries.find? request.experimentId)
      payload.expectedRegistryRowVersion.1 = .ok ())
    (found : candidateContext samplePlatform state.sources request.experimentId
      payload.sourceJobId payload.sourceAttemptId payload.modelArtifactId true = .ok context)
    (empty : state.entries = .empty) :
    ∃ write, createCandidate samplePlatform secrets state request payload
      (some (secrets.canonicalSha256 context.document)) = .ok write := by
  have unregistered : requireUnregistered state payload.modelArtifactId = .ok () := by
    rw [requireUnregistered, empty]
    rfl
  have fresh : state.entries.find? request.newId = none := by
    rw [empty]
    rfl
  have absent : ¬(state.entries.rows.any fun row =>
      row.2.snapshot.model.id = context.snapshot.model.id) = true := by
    rw [empty]
    simp [Table.empty]
  simp only [createCandidate, versioned, unregistered, found, ne_eq, not_true_eq_false, if_false,
    if_neg absent, dif_pos fresh]
  exact ⟨_, rfl⟩

theorem mutated_nomination :
    ∃ result, Mutated samplePlatform registrySecrets nomination readAll sampleState result := by
  have versioned : requireRegistryVersion (sampleState.registries.find?
      nomination.experimentId) nominated.expectedRegistryRowVersion.1 = .ok () := rfl
  have locked : lockExperimentFence sampleState nomination = .ok () := rfl
  have fresh : registryReplay registrySecrets sampleState nomination = .fresh := rfl
  have change : registryChange samplePlatform registrySecrets sampleState nomination
      readAll.fingerprint = createCandidate samplePlatform registrySecrets sampleState
        nomination nominated (some (registrySecrets.canonicalSha256 sampleContext.document)) := rfl
  have created : ∃ write, createCandidate samplePlatform registrySecrets sampleState
      nomination nominated (some (registrySecrets.canonicalSha256 sampleContext.document)) =
        .ok write := createCandidate_accepts versioned candidateContext_nomination rfl
  rcases created with ⟨write, accepted⟩
  exact Mutated.of_change locked fresh (change.trans accepted)

def overlap : List (RegistryEvent SampleDigest) := overlapping ++ [.proceed 1, .proceed 0]

theorem clockDiffers_nomination : ClockDiffers sampleState.registries nomination := by
  intro registry found
  cases found

theorem clocksDiffer_overlap :
    Along sampleService.step ClocksDiffer (.initial sampleState) overlap := by
  have untouched : ∀ {serving : RegistryServing SampleDigest} {event : RegistryEvent SampleDigest},
      serving.state.registries = .empty → ClocksDiffer serving event := by
    intro serving event empty place request memory _ _ registry found
    rw [empty] at found
    cases found
  have reads : Along sampleService.step ClocksDiffer (.initial sampleState) overlapping :=
    ⟨untouched rfl, untouched rfl, untouched rfl, untouched rfl, untouched rfl, untouched rfl,
      untouched rfl, untouched rfl, untouched rfl, untouched rfl, untouched rfl, trivial⟩
  apply reads.append
  rw [run_overlapping]
  refine ⟨untouched rfl, ?_, trivial⟩
  have commits : Service.Commits (midway readAll []) 1 nomination readAll := rfl
  rw [sampleService.step_commit commits]
  intro place request memory isProceed commitsNext
  injection isProceed with same
  subst same
  cases commitsNext

theorem answers_overlap :
    ∃ result, (run sampleService.step (.initial sampleState) overlap).answers =
      [(nomination, .ok (result, false)), (nomination, .error registryChanged)] := by
  rcases mutated_nomination with ⟨result, mutated⟩
  refine ⟨result, ?_⟩
  rw [overlap, run_append, run_overlapping]
  exact answers_of_overlap rfl mutated clockDiffers_nomination

/-- The copy that committed would be replayed from then on. -/
theorem model_registry_sound_overlap :
    Function.Injective registrySecrets.hmacSha256 ∧
      Along (modelRegistry samplePlatform registrySecrets).step ClocksDiffer
        (.initial (.initial sampleSurroundings)) overlap ∧
      ∃ result, RegistryReplays samplePlatform registrySecrets
        (run (modelRegistry samplePlatform registrySecrets).step
          (.initial (.initial sampleSurroundings)) overlap).state nomination result := by
  have collisionFree : Function.Injective registrySecrets.hmacSha256 := by
    intro left right same
    injection same
  rcases answers_overlap with ⟨result, answers⟩
  have sound := model_registry_sound samplePlatform registrySecrets collisionFree
    sampleSurroundings overlap clocksDiffer_overlap
  have answered : (nomination, .ok (result, false)) ∈
      (run sampleService.step (.initial sampleState) overlap).answers := by
    rw [answers]
    exact List.mem_cons_self
  have replays := (sound.2.2.2 nomination result false answered nomination rfl rfl).1 ⟨rfl, rfl⟩
  exact ⟨collisionFree, clocksDiffer_overlap, result, replays⟩

/-- A copy whose replay check came before the commit of the other is refused. -/
theorem overlapping_copy_refused :
    ¬∀ events : List (RegistryEvent SampleDigest),
      Along (modelRegistry samplePlatform registrySecrets).step ClocksDiffer
        (.initial (.initial sampleSurroundings)) events →
      ∀ front back first request response replayed answer,
        (run (modelRegistry samplePlatform registrySecrets).step
          (.initial (.initial sampleSurroundings)) events).answers =
            front ++ (request, answer) :: back →
        (first, .ok (response, replayed)) ∈ front →
        request.actorId = first.actorId → request.idempotencyKey = first.idempotencyKey →
        SameRequest request first → answer = .ok (response, true) := by
  intro returned
  rcases answers_overlap with ⟨result, answers⟩
  have same := returned overlap clocksDiffer_overlap [(nomination, .ok (result, false))] []
    nomination nomination result false (.error registryChanged) answers List.mem_cons_self rfl rfl
    ⟨rfl, rfl⟩
  cases same

end RvcOrchestrator.Manager

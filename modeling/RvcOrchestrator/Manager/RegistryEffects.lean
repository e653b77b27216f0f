import RvcOrchestrator.Manager.RegistrySnapshots

/-! # Effects of registry mutations

What each mutation brings about, that nothing else brings it about, and that no mutation goes
unnoticed in the versions of the entries.
-/

namespace RvcOrchestrator.Manager

open RvcOrchestrator.Foundation RvcOrchestrator.Contracts

/-! ## Effects -/

inductive RegistryEffect where
  | registered (sourceJobId : JobId) (sourceAttemptId : AttemptId) (modelId : ArtifactId)
  | champion (entryId : RegistryEntryId)
  | revoked (entryId : RegistryEntryId) (reason : RevokeReason)
deriving DecidableEq

/-- The entry is there as the effect has it. A registration stays one when its entry is
promoted or revoked later. -/
def RegistryEffect.Shows (experimentId : ExperimentId) (entryId : RegistryEntryId)
    (entry : ModelRegistryEntry) : RegistryEffect → Prop
  | .registered sourceJobId sourceAttemptId modelId =>
      entry.experimentId = experimentId ∧ entry.snapshot.sourceJobId = sourceJobId ∧
        entry.snapshot.sourceAttemptId = sourceAttemptId ∧ entry.snapshot.model.id = modelId
  | .champion id =>
      entry.experimentId = experimentId ∧ entryId = id ∧ entry.status = .approved ∧
        entry.active = true
  | .revoked id reason =>
      entry.experimentId = experimentId ∧ entryId = id ∧ entry.status = .revoked ∧
        entry.revokeReason = some reason ∧ entry.active = false

def RegistryEffect.Holds (effect : RegistryEffect) (experimentId : ExperimentId)
    (entries : Table RegistryEntryId ModelRegistryEntry) : Prop :=
  ∃ entryId entry, entries.find? entryId = some entry ∧ effect.Shows experimentId entryId entry

def RegistryRequest.effect (request : RegistryRequest) : RegistryEffect :=
  match request.operation with
  | .candidate payload =>
      .registered payload.sourceJobId payload.sourceAttemptId payload.modelArtifactId
  | .promote _ => .champion request.entryId
  | .revoke payload => .revoked request.entryId payload.reasonCode

/-- No entry is lost, and none goes back to an earlier version. -/
def EntriesAdvance (before after : Table RegistryEntryId ModelRegistryEntry) : Prop :=
  ∀ entryId entry, before.find? entryId = some entry →
    ∃ later, after.find? entryId = some later ∧ later.experimentId = entry.experimentId ∧
      entry.rowVersion ≤ later.rowVersion

/-- An entry of the experiment is new or has a later version. -/
def EntryRenewed (experimentId : ExperimentId)
    (before after : Table RegistryEntryId ModelRegistryEntry) : Prop :=
  ∃ entryId later, after.find? entryId = some later ∧ later.experimentId = experimentId ∧
    ∀ entry, before.find? entryId = some entry → entry.rowVersion < later.rowVersion

section

variable {first second third : Table RegistryEntryId ModelRegistryEntry}
  {experimentId : ExperimentId}

theorem EntriesAdvance.refl (entries : Table RegistryEntryId ModelRegistryEntry) :
    EntriesAdvance entries entries :=
  fun _ entry found => ⟨entry, found, rfl, Nat.le_refl _⟩

theorem EntriesAdvance.trans (left : EntriesAdvance first second)
    (right : EntriesAdvance second third) : EntriesAdvance first third := by
  intro entryId entry found
  rcases left entryId entry found with ⟨middle, middleFound, ofSame, later⟩
  rcases right entryId middle middleFound with ⟨last, lastFound, stillOfSame, latest⟩
  exact ⟨last, lastFound, stillOfSame.trans ofSame, Nat.le_trans later latest⟩

theorem EntryRenewed.advance (renewed : EntryRenewed experimentId first second)
    (advance : EntriesAdvance second third) : EntryRenewed experimentId first third := by
  rcases renewed with ⟨entryId, later, found, here, newer⟩
  rcases advance entryId later found with ⟨last, lastFound, ofSame, latest⟩
  refine ⟨entryId, last, lastFound, ofSame.trans here, ?_⟩
  intro entry entryFound
  exact Nat.lt_of_lt_of_le (newer entry entryFound) latest

theorem EntryRenewed.after (advance : EntriesAdvance first second)
    (renewed : EntryRenewed experimentId second third) :
    EntryRenewed experimentId first third := by
  rcases renewed with ⟨entryId, later, found, here, newer⟩
  refine ⟨entryId, later, found, here, ?_⟩
  intro entry entryFound
  rcases advance entryId entry entryFound with ⟨middle, middleFound, -, older⟩
  exact Nat.lt_of_le_of_lt older (newer middle middleFound)

/-- Who is active is found. -/
theorem ChampionsSound.activeEntryId_eq_some_iff (sound : ChampionsSound first)
    {entryId : RegistryEntryId} :
    activeEntryId first experimentId = some entryId ↔
      ∃ entry, first.find? entryId = some entry ∧ entry.experimentId = experimentId ∧
        entry.active = true := by
  constructor
  · exact activeEntryId_eq_some
  · rintro ⟨entry, found, here, active⟩
    rcases isActive : activeEntryId first experimentId with _ | champion
    · rw [activeEntryId_eq_none isActive found here] at active
      cases active
    · rcases activeEntryId_eq_some isActive with ⟨row, rowFound, rowHere, rowActive⟩
      rw [sound.single _ _ _ _ rowFound found (rowHere.trans here.symm) rowActive active]

end

/-! ## What a mutation brings about -/

/-- A binding is found under the identifier of its artifact. -/
def Sources.Keyed (sources : Sources) : Prop :=
  ∀ artifactId jobId attemptId artifactType workerId binding,
    sources.verifiedArtifactBinding artifactId jobId attemptId artifactType workerId =
      .ok (some binding) → binding.artifactId = artifactId

theorem candidateContext_eq_ok {platform : Platform} {sources : Sources} (keyed : sources.Keyed)
    {experimentId : ExperimentId} {jobId : JobId} {attemptId : AttemptId}
    {modelArtifactId : ArtifactId} {requireCurrent : Bool} {context : CandidateContext}
    (accepted : candidateContext platform sources experimentId jobId attemptId modelArtifactId
      requireCurrent = .ok context) :
    context.jobId = jobId ∧ context.attemptId = attemptId ∧
      context.model.artifactId = modelArtifactId := by
  unfold candidateContext at accepted
  split at accepted
  · split at accepted
    · cases accepted
    · split at accepted
      · cases accepted
      · split at accepted
        · cases accepted
        · split at accepted
          · cases accepted
          · split at accepted
            · cases accepted
            · next model bound =>
                have same : model.artifactId = modelArtifactId := by
                  unfold binding at bound
                  split at bound
                  · cases bound
                  · cases bound
                  · next found =>
                      cases bound
                      exact keyed _ _ _ _ _ _ found
                split at accepted
                · cases accepted
                  exact ⟨rfl, rfl, same⟩
                · split at accepted
                  · cases accepted
                  · cases accepted
                    exact ⟨rfl, rfl, same⟩
                · cases accepted
  · cases accepted

section

variable {Digest : Type} [DecidableEq Digest] {platform : Platform}
  {secrets : RegistrySecrets Digest} {state : RegistryState Digest} {request : RegistryRequest}
  {after : Table RegistryEntryId ModelRegistryEntry}

namespace EntryMutation

theorem advance (mutation : EntryMutation platform state request after)
    (sound : ChampionsSound state.entries) : EntriesAdvance state.entries after := by
  intro other row rowFound
  cases mutation with
  | registered asked eligible unregistered fresh =>
      exact ⟨row, Table.find?_insert_of_some _ _ _ fresh rowFound, rfl, Nat.le_refl _⟩
  | @promoted payload entry asked found here live =>
      rw [← here, sound.find?_promote found]
      by_cases same : other = request.entryId
      · subst same
        rcases Option.some.inj (found.symm.trans rowFound) with rfl
        rw [if_pos rfl]
        exact ⟨_, rfl, rfl, Nat.le_succ _⟩
      · rw [if_neg same, rowFound, Option.map_some]
        refine ⟨_, rfl, ?_⟩
        split
        · exact ⟨rfl, Nat.le_succ _⟩
        · exact ⟨rfl, Nat.le_refl _⟩
  | revoked asked found here live =>
      rw [Table.find?_modify_of_some _ _ _ rowFound]
      refine ⟨_, rfl, ?_⟩
      split
      · next same =>
          subst same
          rcases Option.some.inj (found.symm.trans rowFound) with rfl
          exact ⟨rfl, Nat.le_succ _⟩
      · exact ⟨rfl, Nat.le_refl _⟩

theorem renewed (mutation : EntryMutation platform state request after)
    (sound : ChampionsSound state.entries) :
    EntryRenewed request.experimentId state.entries after := by
  cases mutation with
  | registered asked eligible unregistered fresh =>
      refine ⟨request.newId, _, Table.find?_insert_self _ _ _ fresh, rfl, ?_⟩
      intro entry found
      rw [fresh] at found
      cases found
  | @promoted payload entry asked found here live =>
      refine ⟨request.entryId, entry.promoted request.actorId request.now, ?_, here, ?_⟩
      · rw [← here, sound.find?_promote found, if_pos rfl]
      · intro before beforeFound
        rcases Option.some.inj (found.symm.trans beforeFound) with rfl
        exact Nat.lt_succ_self _
  | @revoked payload entry asked found here live =>
      refine ⟨request.entryId, entry.revokedBecause payload.reasonCode request.actorId request.now,
        ?_, here, ?_⟩
      · rw [Table.find?_modify_self, found]
        rfl
      · intro before beforeFound
        rcases Option.some.inj (found.symm.trans beforeFound) with rfl
        exact Nat.lt_succ_self _

/-- A mutation has its effect. -/
theorem holds (mutation : EntryMutation platform state request after)
    (sound : ChampionsSound state.entries) (keyed : state.sources.Keyed) :
    request.effect.Holds request.experimentId after := by
  cases mutation with
  | registered asked eligible unregistered fresh =>
      rcases candidateContext_eq_ok keyed eligible with ⟨job, attempt, model⟩
      refine ⟨request.newId, _, Table.find?_insert_self _ _ _ fresh, ?_⟩
      rw [RegistryRequest.effect, asked]
      exact ⟨rfl, job, attempt, model⟩
  | @promoted payload entry asked found here live =>
      refine ⟨request.entryId, entry.promoted request.actorId request.now, ?_, ?_⟩
      · rw [← here, sound.find?_promote found, if_pos rfl]
      · rw [RegistryRequest.effect, asked]
        exact ⟨here, rfl, rfl, rfl⟩
  | @revoked payload entry asked found here live =>
      refine ⟨request.entryId, entry.revokedBecause payload.reasonCode request.actorId request.now,
        ?_, ?_⟩
      · rw [Table.find?_modify_self, found]
        rfl
      · rw [RegistryRequest.effect, asked]
        exact ⟨here, rfl, rfl, rfl, rfl⟩

/-- And no other effect. -/
theorem only (mutation : EntryMutation platform state request after)
    (sound : ChampionsSound state.entries) (keyed : state.sources.Keyed)
    {effect : RegistryEffect} {experimentId : ExperimentId}
    (holds : effect.Holds experimentId after) :
    effect.Holds experimentId state.entries ∨
      request.experimentId = experimentId ∧ request.effect = effect := by
  rcases holds with ⟨other, later, laterFound, shows_⟩
  cases mutation with
  | registered asked eligible unregistered fresh =>
      rw [Table.find?_insert_eq_some_iff] at laterFound
      rcases laterFound with ⟨-, rfl⟩ | laterFound
      · rcases candidateContext_eq_ok keyed eligible with ⟨job, attempt, model⟩
        cases effect with
        | registered sourceJobId sourceAttemptId modelId =>
            rcases shows_ with ⟨here, ofJob, ofAttempt, ofModel⟩
            refine .inr ⟨here, ?_⟩
            rw [RegistryRequest.effect, asked]
            exact congr (congr (congrArg _ (job.symm.trans ofJob)) (attempt.symm.trans ofAttempt))
              (model.symm.trans ofModel)
        | champion id => cases shows_.2.2.1
        | revoked id reason => cases shows_.2.2.1
      · exact .inl ⟨other, later, laterFound, shows_⟩
  | promoted asked found here live =>
      rw [← here] at laterFound
      rcases sound.promote_cases found request.actorId request.now laterFound with
        ⟨same, rfl⟩ | ⟨-, row, rowFound, rfl | ⟨rfl, -⟩⟩
      · cases effect with
        | registered sourceJobId sourceAttemptId modelId => exact .inl ⟨_, _, found, shows_⟩
        | champion id =>
            refine .inr ⟨here.symm.trans shows_.1, ?_⟩
            rw [RegistryRequest.effect, asked]
            exact congrArg _ (same.symm.trans shows_.2.1)
        | revoked id reason => cases shows_.2.2.1
      · cases effect with
        | registered sourceJobId sourceAttemptId modelId => exact .inl ⟨_, _, rowFound, shows_⟩
        | champion id => cases shows_.2.2.2
        | revoked id reason =>
            rcases shows_ with ⟨ofExperiment, isEntry, isRevoked, because, -⟩
            have idle : row.active = false := by
              by_contra active
              have approved := sound.approved _ _ rowFound (Bool.not_eq_false _ ▸ active)
              cases approved.symm.trans isRevoked
            exact .inl ⟨_, _, rowFound, ofExperiment, isEntry, isRevoked, because, idle⟩
      · exact .inl ⟨_, _, rowFound, shows_⟩
  | revoked asked found here live =>
      rcases revoke_cases _ request.actorId request.now laterFound with
        ⟨same, rfl⟩ | ⟨-, laterFound⟩
      · cases effect with
        | registered sourceJobId sourceAttemptId modelId => exact .inl ⟨_, _, found, shows_⟩
        | champion id => cases shows_.2.2.1
        | revoked id reason =>
            rcases shows_ with ⟨ofExperiment, isEntry, -, because, -⟩
            refine .inr ⟨here.symm.trans ofExperiment, ?_⟩
            rw [RegistryRequest.effect, asked]
            exact congr (congrArg _ (same.symm.trans isEntry)) (Option.some.inj because)
      · exact .inl ⟨_, _, laterFound, shows_⟩

end EntryMutation

/-! ## Between two moments -/

/-- The mutations of the experiment among the answers, in the order of their commits. -/
def committedMutations (experimentId : ExperimentId)
    (answers : List (RegistryRequest × RegistryAnswer)) : List RegistryRequest :=
  answers.filterMap fun answered =>
    match answered.2 with
    | .ok (_, false) => if answered.1.experimentId = experimentId then some answered.1 else none
    | _ => none

def committedBetween (before after : RegistryServing Digest) (experimentId : ExperimentId) :
    List RegistryRequest :=
  committedMutations experimentId (after.answers.drop before.answers.length)

theorem committedMutations_append (experimentId : ExperimentId)
    (answers more : List (RegistryRequest × RegistryAnswer)) :
    committedMutations experimentId (answers ++ more) =
      committedMutations experimentId answers ++ committedMutations experimentId more :=
  List.filterMap_append

theorem committedMutations_of_not_fresh {answer : RegistryAnswer}
    (never : ∀ result, answer ≠ .ok (result, false)) (experimentId : ExperimentId) :
    committedMutations experimentId [(request, answer)] = [] := by
  rcases answer with error | ⟨result, _ | _⟩
  · rfl
  · exact absurd rfl (never result)
  · rfl

/-- An event commits a mutation, or it leaves the entries alone. -/
theorem step_mutates {serving : RegistryServing Digest}
    (belongs : (modelRegistry platform secrets).Belongs serving) (event : RegistryEvent Digest) :
    (∃ more, ((modelRegistry platform secrets).step serving event).answers =
        serving.answers ++ more ∧
      (∀ experimentId, committedMutations experimentId more = []) ∧
      ((modelRegistry platform secrets).step serving event).state.entries =
        serving.state.entries) ∨
    ∃ request memory result, ((modelRegistry platform secrets).step serving event).answers =
        serving.answers ++ [(request, .ok (result, false))] ∧
      ((modelRegistry platform secrets).step serving event).state =
        (mutateRegistry platform secrets request memory serving.state).2 ∧
      Mutated platform secrets request memory serving.state result := by
  rcases (modelRegistry platform secrets).step_cases serving event with
    ⟨same, answers⟩ | ⟨_, request, answer, -, refused, same, answers⟩ |
      ⟨place, request, memory, -, -, changed, answers⟩ | ⟨surroundings, -, changed, answers⟩
  · exact .inl ⟨[], by rw [answers, List.append_nil], fun _ => rfl, by rw [same]⟩
  · rcases refused with ⟨read, pending, memory, found, refused⟩
    have member := belongs _ (List.mem_of_getElem? found) read List.mem_cons_self
    have never : ∀ result, answer ≠ .ok (result, false) := by
      rintro result rfl
      cases (registered_of_read member refused).2
    exact .inl ⟨_, answers, committedMutations_of_not_fresh never, by rw [same]⟩
  · rcases mutateRegistry_cases platform secrets request memory serving.state with
      ⟨same, never⟩ | ⟨result, mutated⟩
    · refine .inl ⟨_, answers, committedMutations_of_not_fresh never, ?_⟩
      rw [changed, show (modelRegistry platform secrets).commit request memory serving.state =
        mutateRegistry platform secrets request memory serving.state from rfl, same]
    · refine .inr ⟨request, memory, result, ?_, changed, mutated⟩
      rw [answers, ← mutated.answer]
      rfl
  · refine .inl ⟨[], by rw [answers, List.append_nil], fun _ => rfl, ?_⟩
    rw [changed]
    rfl

/-- An effect is in the entries of its experiment. -/
theorem RegistryEffect.holds_iff_mem {effect : RegistryEffect} {experimentId : ExperimentId}
    {entries : Table RegistryEntryId ModelRegistryEntry} :
    effect.Holds experimentId entries ↔
      ∃ row ∈ entries.rows.filter (fun row => row.2.experimentId = experimentId),
        effect.Shows experimentId row.1 row.2 := by
  constructor
  · rintro ⟨entryId, entry, found, shows_⟩
    have here : entry.experimentId = experimentId := by
      cases effect with
      | registered sourceJobId sourceAttemptId modelId => exact shows_.1
      | champion id => exact shows_.1
      | revoked id reason => exact shows_.1
    exact ⟨(entryId, entry), List.mem_filter.mpr ⟨entries.mem_rows_iff.mpr found,
      decide_eq_true here⟩, shows_⟩
  · rintro ⟨⟨entryId, entry⟩, member, shows_⟩
    exact ⟨entryId, entry, entries.mem_rows_iff.mp (List.mem_filter.mp member).1, shows_⟩

/-- What the mutations of the experiment since a moment have brought about. -/
structure Since (before : RegistryServing Digest) (experimentId : ExperimentId)
    (after : RegistryServing Digest) (mutations : List RegistryRequest) : Prop where
  advance : EntriesAdvance before.state.entries after.state.entries
  renewed : mutations ≠ [] →
    EntryRenewed experimentId before.state.entries after.state.entries
  last : ∀ request, mutations.getLast? = some request →
    request.effect.Holds experimentId after.state.entries
  only : ∀ effect : RegistryEffect, effect.Holds experimentId after.state.entries →
    effect.Holds experimentId before.state.entries ∨
      ∃ request ∈ mutations, request.effect = effect

namespace Since

variable {before middle after : RegistryServing Digest} {experimentId : ExperimentId}
  {mutations : List RegistryRequest}

theorem start (serving : RegistryServing Digest) (experimentId : ExperimentId) :
    Since serving experimentId serving [] where
  advance := EntriesAdvance.refl _
  renewed none := absurd rfl none
  last _ none := by cases none
  only _ holds := .inl holds

theorem congr (since : Since before experimentId middle mutations)
    (same : after.state.entries = middle.state.entries) :
    Since before experimentId after mutations := by
  constructor
  case advance => exact same ▸ since.advance
  case renewed => exact same ▸ since.renewed
  case last => exact same ▸ since.last
  case only => exact same ▸ since.only

theorem mutated (since : Since before experimentId middle mutations)
    (mutation : EntryMutation platform middle.state request after.state.entries)
    (sound : ChampionsSound middle.state.entries) (keyed : middle.state.sources.Keyed) :
    Since before experimentId after
      (mutations ++ if request.experimentId = experimentId then [request] else []) := by
  have advance := mutation.advance sound
  constructor
  case advance => exact since.advance.trans advance
  case renewed =>
    intro some
    by_cases here : request.experimentId = experimentId
    · exact (here ▸ mutation.renewed sound).after since.advance
    · rw [if_neg here, List.append_nil] at some
      exact (since.renewed some).advance advance
  case last =>
    intro last isLast
    by_cases here : request.experimentId = experimentId
    · rw [if_pos here, List.getLast?_concat] at isLast
      cases isLast
      exact here ▸ mutation.holds sound keyed
    · rw [if_neg here, List.append_nil] at isLast
      rw [RegistryEffect.holds_iff_mem, mutation.elsewhere here, ← RegistryEffect.holds_iff_mem]
      exact since.last last isLast
  case only =>
    intro effect holds
    rcases mutation.only sound keyed holds with held | ⟨here, same⟩
    · rcases since.only effect held with held | ⟨earlier, member, same⟩
      · exact .inl held
      · exact .inr ⟨earlier, List.mem_append_left _ member, same⟩
    · rw [if_pos here]
      exact .inr ⟨request, List.mem_append_right _ (List.mem_singleton.mpr rfl), same⟩

end Since

/-- Whatever becomes of the artifacts, bindings are found under their identifiers. -/
def KeyedSources (_ : RegistryServing Digest) (event : RegistryEvent Digest) : Prop :=
  ∀ surroundings, event = .disturb surroundings → surroundings.sources.Keyed

theorem sources_mutateRegistry (platform : Platform) (secrets : RegistrySecrets Digest)
    (request : RegistryRequest) (memory : RegistryMemory Digest) (state : RegistryState Digest) :
    (mutateRegistry platform secrets request memory state).2.sources = state.sources := by
  unfold mutateRegistry
  split
  · rfl
  · split
    · rfl
    · rfl
    · split <;> rfl

theorem keyed_step {serving : RegistryServing Digest} (keyed : serving.state.sources.Keyed)
    {event : RegistryEvent Digest} (keyedEvent : KeyedSources serving event) :
    ((modelRegistry platform secrets).step serving event).state.sources.Keyed := by
  rcases (modelRegistry platform secrets).step_cases serving event with
    ⟨same, -⟩ | ⟨_, _, _, -, -, same, -⟩ | ⟨_, request, memory, -, -, changed, -⟩ |
      ⟨surroundings, isDisturb, changed, -⟩
  · rw [same]
    exact keyed
  · rw [same]
    exact keyed
  · rw [changed, show (modelRegistry platform secrets).commit request memory serving.state =
      mutateRegistry platform secrets request memory serving.state from rfl,
      sources_mutateRegistry]
    exact keyed
  · rw [changed]
    exact keyedEvent surroundings isDisturb

theorem since_run {before : RegistryServing Digest}
    (belongs : (modelRegistry platform secrets).Belongs before)
    (sound : ChampionsSound before.state.entries) (keyed : before.state.sources.Keyed)
    {events : List (RegistryEvent Digest)}
    (keyedEvents : Along (modelRegistry platform secrets).step KeyedSources before events)
    (experimentId : ExperimentId) :
    Since before experimentId (run (modelRegistry platform secrets).step before events)
      (committedBetween before (run (modelRegistry platform secrets).step before events)
        experimentId) := by
  have all := run_preserves_along (fun serving : RegistryServing Digest =>
      (modelRegistry platform secrets).Belongs serving ∧ ChampionsSound serving.state.entries ∧
        serving.state.sources.Keyed ∧ ∃ more, serving.answers = before.answers ++ more ∧
          Since before experimentId serving (committedMutations experimentId more))
    ?_ ⟨belongs, sound, keyed, [], (List.append_nil _).symm, Since.start before experimentId⟩
    keyedEvents
  · rcases all with ⟨-, -, -, more, answers, since⟩
    rw [committedBetween, answers, List.drop_left]
    exact since
  · rintro serving event keyedEvent ⟨belongs, sound, keyed, more, answers, since⟩
    refine ⟨belongs.step event, (championsSound_step serving event sound).1,
      keyed_step keyed keyedEvent, ?_⟩
    rcases step_mutates belongs event with
      ⟨new, answered, none, same⟩ | ⟨request, memory, result, answered, changed, mutated⟩
    · refine ⟨more ++ new, by rw [answered, answers, List.append_assoc], ?_⟩
      rw [committedMutations_append, none, List.append_nil]
      exact since.congr same
    · refine ⟨more ++ [(request, .ok (result, false))],
        by rw [answered, answers, List.append_assoc], ?_⟩
      have next : Since before experimentId ((modelRegistry platform secrets).step serving event)
          _ := since.mutated (changed ▸ mutated.mutation) sound keyed
      rw [committedMutations_append]
      convert next using 2
      by_cases here : request.experimentId = experimentId
      · simp [committedMutations, here]
      · simp [committedMutations, here]

end

end RvcOrchestrator.Manager

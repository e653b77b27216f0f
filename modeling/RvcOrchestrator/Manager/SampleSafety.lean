import RvcOrchestrator.Manager.SampleLedger

/-! # Runs of sample registrations -/

namespace RvcOrchestrator.Manager

open RvcOrchestrator.Foundation RvcOrchestrator.Contracts

variable {inspect : String → Option SamplePcmInspection}

section

variable {platform : Platform} {settings : Settings} {sampleMaxBytes : Nat}
  {store store' : SampleStore}

/-! ## Launches and disturbances -/

structure SampleKnown (platform : Platform) (store : SampleStore) (phase : SamplePhase inspect) :
    Prop where
  drawn : phase.token ∈ store.tokens
  fits : SampleFits platform store phase

theorem SampleStore.Sound.withTokens (sound : store.Sound inspect) {tokens : List ClaimToken}
    {locks : Locks SampleTransaction SampleResource}
    (drawn : ∀ transaction ∈ locks.active, transaction.token ∈ tokens) :
    SampleStore.Sound inspect { store with tokens, locks } :=
  { sound with drawn }

/-- A launch changes nothing that the other requests see. -/
theorem SampleFits.launch {phase : SamplePhase inspect} (fits : SampleFits platform store phase)
    {token : ClaimToken} (other : phase.token ≠ token) (tokens : List ClaimToken) :
    SampleFits platform
      { store with
        tokens
        locks := store.locks.start ⟨token, false⟩ } phase := by
  apply fits.unnoticed
  · exact ⟨[], (List.append_nil _).symm⟩
  · rintro transaction verified stage rfl active
    constructor
    · rcases Locks.mem_active_start.mp active with rfl | earlier
      · exact absurd rfl other
      · exact earlier
    · exact
        { ledger := fun resource _ => resource.kept_refl _
          samples := ⟨[], (List.append_nil _).symm, fun _ member => nomatch member⟩
          holds := fun _ holds => holds }

theorem SampleFits.withTokens {phase : SamplePhase inspect} (fits : SampleFits platform store phase)
    (tokens : List ClaimToken) : SampleFits platform { store with tokens } phase := by
  apply fits.unnoticed
  · exact ⟨[], (List.append_nil _).symm⟩
  · intro transaction verified stage _ active
    exact ⟨active,
      { ledger := fun resource _ => resource.kept_refl _
        samples := ⟨[], (List.append_nil _).symm, fun _ member => nomatch member⟩
        holds := fun _ holds => holds }⟩

theorem launchSample_keeps {request : SampleRequest} {phase : SamplePhase inspect}
    (sound : store.Sound inspect)
    (launched : launchSample platform settings sampleMaxBytes inspect request store =
      some (phase, store')) :
    store'.Sound inspect ∧ SampleKnown platform store' phase ∧
      ∀ other : SamplePhase inspect, SampleKnown platform store other →
        SampleKnown platform store' other := by
  unfold launchSample at launched
  split at launched
  · cases launched
  · next undrawn =>
      simp only at launched
      have different : ∀ other : SamplePhase inspect, SampleKnown platform store other →
          other.token ≠ request.token := by
        intro other known same
        exact undrawn (same ▸ known.drawn)
      split at launched
      · cases launched
        refine ⟨sound.withTokens ?_, ⟨List.mem_cons_self, trivial⟩, ?_⟩
        · intro transaction active
          exact List.mem_cons_of_mem _ (sound.drawn transaction active)
        · intro other known
          exact ⟨List.mem_cons_of_mem _ known.drawn, known.fits.withTokens _⟩
      · cases launched
        refine ⟨sound.withTokens ?_, ⟨List.mem_cons_self, fun _ => rfl⟩, ?_⟩
        · intro transaction active
          rcases Locks.mem_active_start.mp active with rfl | earlier
          · exact List.mem_cons_self
          · exact List.mem_cons_of_mem _ (sound.drawn transaction earlier)
        · intro other known
          exact ⟨List.mem_cons_of_mem _ known.drawn,
            known.fits.launch (different other known) _⟩

/-- Attempts stay and keep their Jobs. -/
theorem perform_owned {ledger : Ledger} (sound : Assignment.Sound ledger.view)
    (operation : Operation) {attemptId : AttemptId} {jobId : JobId}
    (owned : ∃ attempt, ledger.attempts.find? attemptId = some attempt ∧ attempt.jobId = jobId) :
    ∃ attempt, (perform platform settings ledger operation).attempts.find? attemptId =
      some attempt ∧ attempt.jobId = jobId := by
  rcases owned with ⟨attempt, found, ofJob⟩
  rcases perform_does platform settings operation sound with ⟨actions, -, steps⟩
  rcases Assignment.Steps.attemptKept steps _ _ (attemptView found) with
    ⟨state, stateFound, sameJob, -⟩
  rcases find?_map_eq_some stateFound with ⟨later, laterFound, rfl⟩
  exact ⟨later, laterFound, sameJob.trans ofJob⟩

theorem disturbSamples_keeps {disturbance : SampleDisturbance} (sound : store.Sound inspect)
    (disturbed : disturbSamples platform settings disturbance store = some store') :
    store'.Sound inspect ∧ ∀ other : SamplePhase inspect, SampleKnown platform store other →
      SampleKnown platform store' other := by
  cases disturbance with
  | perform operation =>
      simp only [disturbSamples] at disturbed
      split at disturbed
      · next kept =>
          cases disturbed
          constructor
          · exact
              { sound with
                ledger := (perform_does platform settings operation sound.ledger).sound sound.ledger
                owned := fun sample member =>
                  perform_owned sound.ledger operation (sound.owned sample member) }
          · intro other known
            refine ⟨known.drawn, known.fits.unnoticed ⟨[], (List.append_nil _).symm⟩ ?_⟩
            intro transaction verified stage _ active
            refine ⟨active, ?_, ?_, fun _ holds => holds⟩
            · intro resource holds
              exact List.all_eq_true.mp kept _ holds
            · exact ⟨[], (List.append_nil _).symm, fun _ member => nomatch member⟩
      · cases disturbed
  | abort aborted =>
      cases disturbed
      constructor
      · exact sound.withLocks fun transaction active =>
          sound.drawn transaction (Locks.mem_active_close.mp active).1
      · intro other known
        refine ⟨known.drawn, known.fits.unnoticed ⟨[], (List.append_nil _).symm⟩ ?_⟩
        intro transaction verified stage _ active
        rcases Locks.mem_active_close.mp active with ⟨earlier, different⟩
        refine ⟨earlier, fun resource _ => resource.kept_refl _, ?_, ?_⟩
        · exact ⟨[], (List.append_nil _).symm, fun _ member => nomatch member⟩
        · exact fun resource holds => Locks.close_holds.mpr ⟨holds, different⟩

end

/-! ## Names -/

section

variable (platform : Platform) (settings : Settings) (sampleMaxBytes : Nat)

abbrev SampleSituation (inspect : String → Option SamplePcmInspection) :=
  Workforce.Situation SampleStore (SamplePhase inspect)

abbrev SampleEvent := Workforce.Event SampleRequest SampleChoice SampleDisturbance

def sampleName (phase : SamplePhase inspect) : Option ClaimToken := some phase.token

def SampleTokenDrawn (store : SampleStore) (token : ClaimToken) : Prop := token ∈ store.tokens

theorem endSample_named {store before : SampleStore} {transaction : SampleTransaction}
    {verified : VerifiedSample inspect} {answer : Except HttpError Sample}
    (tokens : store.tokens = before.tokens) :
    (endSample store transaction verified answer).2.tokens = before.tokens ∧
      ∀ next, (endSample store transaction verified answer).1 = some next →
        next.token = transaction.token := by
  refine ⟨tokens, ?_⟩
  intro next moved
  rcases Option.some.inj moved with rfl
  rfl

theorem goOn_named {store : SampleStore} {transaction : SampleTransaction}
    {verified : VerifiedSample inspect} {stage : SampleStage}
    {locks : Locks SampleTransaction SampleResource} :
    (goOn store transaction verified stage locks).2.tokens = store.tokens ∧
      ∀ next, (goOn store transaction verified stage locks).1 = some next →
        next.token = transaction.token := by
  refine ⟨rfl, ?_⟩
  intro next moved
  rcases Option.some.inj moved with rfl
  rfl

theorem advanceSample_named (choice : SampleChoice) (phase : SamplePhase inspect)
    (store : SampleStore) :
    (advanceSample platform choice phase store).2.tokens = store.tokens ∧
      ∀ next, (advanceSample platform choice phase store).1 = some next →
        next.token = phase.token := by
  cases phase with
  | answered token payload answer => exact ⟨rfl, fun _ moved => nomatch moved⟩
  | running transaction verified stage =>
      simp only [advanceSample, SamplePhase.token]
      split
      · exact ⟨rfl, fun next moved => by rcases Option.some.inj moved with rfl; rfl⟩
      · split
        · cases stage <;> simp only [advanceSampleStage, lockSampleClaim] <;> (repeat' split) <;>
            first | exact goOn_named | exact endSample_named rfl
        · cases stage <;> simp only [raiseSample] <;> (repeat' split) <;>
            exact endSample_named rfl

theorem sampleNames : Workforce.Names (sampleRegistry platform settings sampleMaxBytes inspect)
    sampleName SampleTokenDrawn where
  launched := by
    intro request store phase after launched
    simp only [sampleRegistry, launchSample] at launched
    split at launched
    · cases launched
    · next undrawn =>
        split at launched
        all_goals
          cases launched
          refine ⟨fun token drawn => List.mem_cons_of_mem _ drawn, ?_⟩
          intro own named
          rcases Option.some.inj named with rfl
          exact ⟨undrawn, List.mem_cons_self⟩
  moved choice phase store := by
    rcases advanceSample_named platform choice phase store with ⟨tokens, named⟩
    constructor
    · intro token drawn
      exact (show token ∈ (advanceSample platform choice phase store).2.tokens from
        tokens ▸ drawn)
    · intro next moved
      exact congrArg some (named next moved)
  disturbed := by
    intro disturbance store after disturbed token drawn
    cases disturbance with
    | perform operation =>
        simp only [sampleRegistry, disturbSamples] at disturbed
        split at disturbed
        · cases disturbed
          exact drawn
        · cases disturbed
    | abort transaction =>
        cases disturbed
        exact drawn

/-! ## Runs -/

theorem sampleRegistry_preserves :
    Workforce.Preserves (sampleRegistry platform settings sampleMaxBytes inspect)
      (fun situation _ => Workforce.Named sampleName SampleTokenDrawn situation)
      (SampleStore.Sound inspect) (SampleKnown platform) where
  launched situation request phase state _ sound launched := launchSample_keeps sound launched
  moved situation place choice phase named found sound known := by
    have member : phase ∈ situation.phases := List.mem_of_getElem? found
    have moves : MoveFits platform situation.state phase
        (advanceSample platform choice phase situation.state) :=
      advanceSample_fits sound (known phase member).fits
    have tokens : (advanceSample platform choice phase situation.state).2.tokens =
        situation.state.tokens := moves.tokens
    refine ⟨moves.sound, ?_, ?_⟩
    · intro next moved
      rcases moves.next next moved with ⟨fits, sameToken⟩
      refine ⟨?_, fits⟩
      rw [sameToken]
      exact tokens ▸ (known phase member).drawn
    · intro other otherMember
      have drawn : other.token ∈ (advanceSample platform choice phase situation.state).2.tokens :=
        tokens ▸ (known other otherMember).drawn
      by_cases same : other.token = phase.token
      · have own : other = phase :=
          named.eq otherMember member (congrArg some same) rfl
        exact ⟨drawn, own ▸ moves.own⟩
      · exact ⟨drawn, (known other otherMember).fits.evolves moves.evolves same⟩
  disturbed situation disturbance state _ sound disturbed := disturbSamples_keeps sound disturbed

structure SampleHeld (platform : Platform) (situation : SampleSituation inspect) : Prop where
  named : Workforce.Named sampleName SampleTokenDrawn situation
  sound : situation.state.Sound inspect
  known : ∀ phase ∈ situation.phases, SampleKnown platform situation.state phase

variable {platform settings sampleMaxBytes} {situation : SampleSituation inspect}

theorem SampleHeld.step (held : SampleHeld platform situation) (event : SampleEvent) :
    SampleHeld platform
      ((sampleRegistry platform settings sampleMaxBytes inspect).step situation event) := by
  have preserves : Workforce.Preserves (sampleRegistry platform settings sampleMaxBytes inspect)
      _ _ _ := sampleRegistry_preserves platform settings sampleMaxBytes
  constructor
  · exact (sampleNames platform settings sampleMaxBytes).step held.named event
  · exact (preserves.step held.named ⟨held.sound, held.known⟩).1
  · exact (preserves.step held.named ⟨held.sound, held.known⟩).2

theorem SampleHeld.start : SampleHeld platform (⟨.empty, []⟩ : SampleSituation inspect) where
  named := ⟨List.nodup_nil, fun _ member => nomatch member⟩
  sound :=
    { ledger := Assignment.Sound.empty
      identities := List.nodup_nil
      registered := fun _ member => nomatch member
      owned := fun _ member => nomatch member
      sizes := fun _ => Nat.zero_le _
      durations := fun _ => by
        simp [samplesOf, SampleStore.empty, totalDurationSeconds,
          sampleMaxTotalOutputDurationSeconds]
      drawn := fun _ member => nomatch member }
  known _ member := nomatch member

theorem SampleHeld.run (held : SampleHeld platform situation) (events : List SampleEvent) :
    SampleHeld platform
      (Foundation.run (sampleRegistry platform settings sampleMaxBytes inspect).step situation
        events) := by
  apply run_preserves (SampleHeld platform)
  · intro situation event held
    exact held.step event
  · exact held

/-! ## What is written -/

structure WrittenUnder (platform : Platform) (store : SampleStore)
    (verified : VerifiedSample inspect) (sample : Sample) (now : Time) : Prop where
  registered : sample = verified.sample sample.id
  fresh : ∀ other ∈ store.samples, other.identity ≠ sample.identity
  claim : ∃ lease job attempt worker,
    CurrentClaim platform store.ledger verified lease job attempt worker ∧ now < lease.expiresAt

/-- A step writes no sample, or one whose registration has come to its commit. -/
def WritesLawfully (platform : Platform) (situation : SampleSituation inspect)
    (event : SampleEvent) (after : SampleStore) : Prop :=
  after.samples = situation.state.samples ∨
    ∃ place choice transaction verified lease sample,
      event = .proceed place choice ∧
      situation.phases[place]? = some (.running transaction verified (.registering lease sample)) ∧
      after.samples = situation.state.samples ++ [sample] ∧
      WrittenUnder platform situation.state verified sample choice.now

/-- Only a registration that comes to its commit in time writes a sample. -/
theorem advanceSample_samples (choice : SampleChoice) (phase : SamplePhase inspect)
    (store : SampleStore) :
    (advanceSample platform choice phase store).2.samples = store.samples ∨
      ∃ transaction verified lease sample,
        phase = .running transaction verified (.registering lease sample) ∧
        transaction ∈ store.locks.active ∧ choice.now < lease.expiresAt ∧
        (advanceSample platform choice phase store).2.samples = store.samples ++ [sample] := by
  cases phase with
  | answered => exact .inl rfl
  | running transaction verified stage =>
      simp only [advanceSample]
      split
      · exact .inl rfl
      · next active =>
          rw [not_not] at active
          cases stage with
          | registering lease sample =>
              split
              · simp only [advanceSampleStage]
                split
                · exact .inl rfl
                · next timely =>
                    exact .inr ⟨transaction, verified, lease, sample, rfl, active,
                      requireFencedLeaseTime_eq_ok timely, rfl⟩
              · next effective _ =>
                  simp only [raiseSample]
                  split
                  · exact .inl rfl
                  · next timely =>
                      cases effective with
                      | false => exact .inl rfl
                      | true =>
                          exact .inr ⟨transaction, verified, lease, sample, rfl, active,
                            requireFencedLeaseTime_eq_ok timely, rfl⟩
          | _ =>
              refine .inl ?_
              split
              · simp only [advanceSampleStage, lockSampleClaim]
                repeat' split
                all_goals rfl
              · rfl

theorem writesLawfully_step (held : SampleHeld platform situation) (event : SampleEvent) :
    WritesLawfully platform situation event
      ((sampleRegistry platform settings sampleMaxBytes inspect).step situation event).state := by
  cases event with
  | launch request =>
      refine .inl ?_
      simp only [Workforce.step, sampleRegistry, launchSample]
      split
      · rfl
      · next launched =>
          split at launched
          · cases launched
          · split at launched
            all_goals
              cases launched
              rfl
  | proceed place choice =>
      cases found : situation.phases[place]? with
      | none => simp only [Workforce.step, found, WritesLawfully, true_or]
      | some phase =>
          rw [Workforce.step_proceed found, Workforce.state_move]
          have moved : (advanceSample platform choice phase situation.state).2.samples =
              situation.state.samples ∨ _ := advanceSample_samples choice phase situation.state
          rcases moved with same | ⟨transaction, verified, lease, sample, rfl, active, timely, written⟩
          · exact .inl same
          · refine .inr ⟨place, choice, transaction, verified, lease, sample, rfl, found, written, ?_⟩
            rcases (held.known _ (List.mem_of_getElem? found)).fits active with
              ⟨registers, claim, fresh, within, id, rfl⟩
            refine ⟨rfl, fresh, lease, ?_⟩
            rcases claim.current with ⟨job, attempt, worker, current⟩
            exact ⟨job, attempt, worker, current, timely⟩
  | stop place => exact .inl rfl
  | disturb disturbance =>
      refine .inl ?_
      simp only [Workforce.step, sampleRegistry]
      split
      · rfl
      · next disturbed =>
          cases disturbance with
          | perform operation =>
              simp only [disturbSamples] at disturbed
              split at disturbed
              · cases disturbed
                rfl
              · cases disturbed
          | abort transaction =>
              cases disturbed
              rfl

/-- A registration of an identity that is taken writes nothing. -/
theorem samples_of_taken (held : SampleHeld platform situation) {place : Nat}
    {choice : SampleChoice} {transaction : SampleTransaction} {verified : VerifiedSample inspect}
    {stage : SampleStage} {sample : Sample}
    (found : situation.phases[place]? = some (.running transaction verified stage))
    (taken : sample ∈ situation.state.samples) (same : sample.identity = verified.identity) :
    ((sampleRegistry platform settings sampleMaxBytes inspect).step situation
      (.proceed place choice)).state.samples = situation.state.samples := by
  rcases writesLawfully_step held (.proceed place choice) with
    unchanged | ⟨otherPlace, otherChoice, otherTransaction, other, lease, written, moved, running,
      -, under⟩
  · exact unchanged
  · cases moved
    rw [found] at running
    cases running
    rw [under.registered] at under
    exact absurd same (under.fresh sample taken)

/-! ## Registering again -/

/-- The sample is stored, and its registration is repeated while its claim runs and nobody
holds what the request locks. -/
structure Repeats (platform : Platform) (store : SampleStore) (transaction : SampleTransaction)
    (verified : VerifiedSample inspect) (lease : LeaseRow) (existing : Sample) : Prop where
  active : transaction ∈ store.locks.active
  stored : existing ∈ store.samples
  registered : ∃ other : VerifiedSample inspect, existing = other.sample existing.id ∧
    verified.payload.contents = other.payload.contents
  claim : ∃ job attempt worker,
    CurrentClaim platform store.ledger verified lease job attempt worker
  free : ∀ resource ∈ .registration verified.payload.attemptId :: sampleClaimRows verified,
    store.locks.Free transaction resource

theorem Repeats.storedAsRegistered {store : SampleStore} {transaction : SampleTransaction}
    {verified : VerifiedSample inspect} {lease : LeaseRow} {existing : Sample}
    (repeats : Repeats platform store transaction verified lease existing)
    (sound : store.Sound inspect) : StoredAsRegistered store verified existing := by
  rcases repeats.registered with ⟨other, registered, same⟩
  have identity : existing.identity = verified.identity := by
    rw [registered]
    simp only [SampleRegistrationRequest.contents, SampleRegistrationRequest.mk.injEq] at same
    simp only [VerifiedSample.sample_identity, VerifiedSample.identity,
      SampleRegistrationRequest.identity, same]
  refine ⟨repeats.stored, identity, ?_⟩
  have ofJob : existing.jobId = verified.jobId := by
    rcases repeats.claim with ⟨job, attempt, worker, current⟩
    rcases sound.owned existing repeats.stored with ⟨row, rowFound, ofJob⟩
    rw [show existing.attemptId = verified.payload.attemptId from congrArg Prod.fst identity,
      current.attemptFound] at rowFound
    rw [← ofJob, ← Option.some.inj rowFound]
    exact current.attemptOf.1
  simp only [replays, ofJob, decide_true, Bool.true_and]
  rw [registered]
  exact (verified.matches_sample_iff other existing.id).mpr same

theorem findSample_of_stored {store : SampleStore} {verified : VerifiedSample inspect}
    {existing : Sample} (sound : store.Sound inspect) (stored : existing ∈ store.samples)
    (identity : existing.identity = verified.identity) :
    findSample store verified.identity = some existing := by
  cases found : findSample store verified.identity with
  | none => exact absurd identity (fresh_of_find found existing stored)
  | some sample =>
      unfold findSample at found
      have same := List.find?_some found
      have unique : sample = existing :=
        List.inj_on_of_nodup_map sound.identities (List.mem_of_find?_eq_some found) stored
          ((of_decide_eq_true same).trans identity.symm)
      rw [unique]

/-- A registration that is repeated alone is answered with the stored sample. -/
theorem solo_repeats {store : SampleStore} {transaction : SampleTransaction}
    {verified : VerifiedSample inspect} {lease : LeaseRow} {existing : Sample}
    (repeats : Repeats platform store transaction verified lease existing)
    (sound : store.Sound inspect) {first second third fourth fifth : SampleChoice}
    (timely : ∀ choice ∈ [first, second, third, fourth, fifth],
      choice.database = .works ∧ choice.now < lease.expiresAt) :
    let alone := (sampleRegistry platform settings sampleMaxBytes inspect).solo
      (some (.running transaction verified .verified)) store [first, second, third, fourth, fifth]
    alone.1 = some (.answered transaction.token verified.payload (.ok existing)) ∧
      alone.2.samples = store.samples ∧ alone.2.ledger = store.ledger := by
  intro alone
  simp only [List.forall_mem_cons] at timely
  rcases timely with ⟨⟨firstWorks, firstTimely⟩, ⟨secondWorks, secondTimely⟩,
    ⟨thirdWorks, thirdTimely⟩, ⟨fourthWorks, fourthTimely⟩, ⟨fifthWorks, fifthTimely⟩, -⟩
  rcases repeats.claim with ⟨job, attempt, worker, current⟩
  have matching := repeats.storedAsRegistered sound
  rcases Locks.acquire_of_free repeats.active (repeats.free _ List.mem_cons_self) with
    ⟨registering, registered⟩
  have stillActive : transaction ∈ registering.active :=
    Locks.acquire_active registered ▸ repeats.active
  have stillFree : ∀ resource ∈ sampleClaimRows verified,
      registering.Free transaction resource := by
    intro resource member holder holds
    rcases (Locks.acquire_holds registered).mp holds with earlier | ⟨own, -⟩
    · exact repeats.free resource (List.mem_cons_of_mem _ member) holder earlier
    · exact own
  rcases Locks.acquireAll_of_free stillActive stillFree with ⟨claiming, claimed⟩
  have active : transaction ∈ claiming.active := Locks.acquireAll_active claimed ▸ stillActive
  have inStore : findSample store verified.identity = some existing :=
    findSample_of_stored sound matching.stored matching.identity
  have found : findSample { store with locks := claiming } verified.identity = some existing :=
    inStore
  have ends : alone = (some (.answered transaction.token verified.payload (.ok existing)),
      { store with locks := claiming.close transaction }) := by
    have inTime : requireFencedLeaseTime lease fifth.now = .ok () := by
      simp [requireFencedLeaseTime, current.active, current.unreleased, fifthTimely]
    simp only [alone, Workforce.solo, sampleRegistry, advanceSample, firstWorks, secondWorks,
      thirdWorks, fourthWorks, fifthWorks, advanceSampleStage, repeats.active, not_true_eq_false,
      if_false, registered, goOn, stillActive, lockSampleClaim, claimed,
      current.lock secondTimely, active, current.fenceClaim thirdTimely, found,
      matching.matching, if_true, inTime, endSample, Except.map]
  rw [ends]
  exact ⟨rfl, rfl, rfl⟩

end

/-- Whatever the order of registrations and other requests: an identity has one sample and an
attempt stays within its limits; a sample is written only under a running claim that has
not been cancelled and has not expired; what is answered is stored and has the contents of
the registration; a registration of a taken identity writes nothing, and one that is
repeated is answered with the stored sample. -/
theorem sample_ledger (platform : Platform) (settings : Settings) (sampleMaxBytes : Nat)
    (inspect : String → Option SamplePcmInspection) (events : List SampleEvent) :
    let registry := sampleRegistry platform settings sampleMaxBytes inspect
    let situation := run registry.step ⟨.empty, []⟩ events
    let samples := situation.state.samples
    (samples.map Sample.identity).Nodup ∧
      (∀ attemptId, totalSizeBytes (samplesOf attemptId samples) ≤ sampleMaxTotalOutputBytes ∧
        totalDurationSeconds (samplesOf attemptId samples) ≤
          sampleMaxTotalOutputDurationSeconds) ∧
      (∀ event, WritesLawfully platform situation event (registry.step situation event).state) ∧
      (∀ token payload sample, .answered token payload (.ok sample) ∈ situation.phases →
        Confirms inspect situation.state payload sample) ∧
      (∀ place choice transaction verified stage sample,
        situation.phases[place]? = some (.running transaction verified stage) →
        sample ∈ samples → sample.identity = verified.identity →
        (registry.step situation (.proceed place choice)).state.samples = samples) ∧
      ∀ transaction verified lease existing first second third fourth fifth,
        Repeats platform situation.state transaction verified lease existing →
        (∀ choice ∈ [first, second, third, fourth, fifth],
          choice.database = .works ∧ choice.now < lease.expiresAt) →
        let alone := registry.solo (some (.running transaction verified .verified))
          situation.state [first, second, third, fourth, fifth]
        alone.1 = some (.answered transaction.token verified.payload (.ok existing)) ∧
          alone.2.samples = samples ∧ alone.2.ledger = situation.state.ledger := by
  intro registry situation samples
  have held : SampleHeld platform situation := SampleHeld.start.run events
  refine ⟨held.sound.identities, ?_, writesLawfully_step held, ?_, ?_, ?_⟩
  · intro attemptId
    exact ⟨held.sound.sizes attemptId, held.sound.durations attemptId⟩
  · intro token payload sample answered
    exact (held.known _ answered).fits
  · intro place choice transaction verified stage sample found taken same
    exact samples_of_taken held found taken same
  · intro transaction verified lease existing first second third fourth fifth repeats timely
    exact solo_repeats repeats held.sound timely

/-! ## A registration that is repeated -/

namespace SampleRun

def config : JobConfig :=
  { plainConfig with
    autoInferenceSamples := { AutoInferenceSamplesConfig.default with
      enabled := true
      testSetId := some "test-1"
      valid := rfl }
    artifacts := { ArtifactCollectionConfig.default with collectSamples := true }
    valid := by decide +kernel }

/-- The SHA-256 digest of the document of the configuration. No other digest is used. -/
def sha256 : Sha256 where
  digest _ := "036e3a6e8d42392d0bf38638f6a2795bcef4c8081001f2ba5b5a2213f2fda5bc"
  wellFormed _ := by decide +kernel

def platform : Platform := ⟨sha256, wholeLax⟩

def settings : Settings :=
  { sampleSettings with
    approvedSampleRuntimeBundles := [("image", "assets")] }

def capabilities : WorkerCapabilities :=
  { sampleCapabilities with
    fixedTestSetInferenceReady := true
    runtimeImageDigest := some "image"
    runtimeAssetManifestSha256 := some "assets" }

def plan : SamplePlan where
  testSetId := "test-1"
  items := [⟨1, "input"⟩]
  inferenceConfig := resolvedInferenceConfig config
  inferenceConfigSha256 := "inference"
  sha256 := "plan"
  distinctItems := List.nodup_singleton _

def request : ClaimRequest :=
  { sampleRequest with
    capabilities := capabilities
    catalog := { sampleCatalog with
      verifiedTestSetTransfer := fun jobId _ config =>
        some ⟨"test-1", resolvedInferenceConfig config, [⟨1, .testSetItem jobId 1⟩]⟩ } }

def admission : JobAdmission := { sampleAdmission with sampleGate := .ok plan }

def values : SampleMetricValues := ⟨1 / 2, 1 / 4, 0, 0⟩

def inspection : SamplePcmInspection := ⟨40000, 1, 2, values⟩

def inspected (sha256 : String) : Option SamplePcmInspection :=
  if sha256 = "output" then some inspection else none

def payload : SampleRegistrationRequest where
  leaseId := 1
  attemptId := 1
  testSetId := "test-1"
  testSetItemId := 1
  artifactId := 1
  samplePlanSha256 := "plan"
  inputSha256 := "input"
  modelSha256 := "model"
  indexSha256 := some "index"
  inferenceF0Method := .rmvpe
  inferenceConfigSha256 := "inference"
  nativeInferenceManifestSha256 := "manifest"
  nativeInferenceRequestSha256 := "request"
  outputSizeBytes := 160044
  outputSha256 := "output"
  outputSampleRateHz := 40000
  outputChannels := 1
  outputDurationSeconds := 2
  metrics := values
  rvcCommitHash := "7ef19867780cf703841ebafb565a4e47d1ea86ff"
  runtimeImageDigest := "image"
  runtimeAssetManifestSha256 := "assets"
  size := by decide
  sampleRate := by decide
  channels := by decide
  duration := by decide +kernel

def binding (role : NativeSampleRole) : BindingRead :=
  some (some ⟨"audio/wav", "audio/wav", 160044, 160044,
    some ⟨payload.rvcCommitHash, "image", "assets", "manifest", "request", role⟩⟩)

def sources : SampleSources where
  planVerifiable := true
  modelBinding := binding .model
  indexBinding := binding .index
  outputBinding := binding .output
  bytes := .ok ()

def registration (token : ClaimToken) : SampleRequest := ⟨token, 1, 1, payload, sources, 2000⟩

/-- A Worker claims the Job and registers a sample, and the registration comes again. -/
def registered : List SampleEvent :=
  [.disturb (.perform (.registerWorker .verified 1 ⟨"worker-1", capabilities⟩ 0)),
    .disturb (.perform (.createJob admission 1 config 0)),
    .disturb (.perform (.claim ⟨1000, []⟩ request)), .launch (registration 0)] ++
    List.replicate 7 (.proceed 0 ⟨2000, ⟨0⟩, .works⟩) ++ [.launch (registration 1)]

def verified : VerifiedSample inspected where
  workerId := 1
  jobId := 1
  payload := payload
  config := config
  plan := plan
  inspection := inspection
  inspected := rfl
  planned := by decide +kernel
  audible := by decide +kernel

def repeated : Workforce.Situation SampleStore (SamplePhase inspected) :=
  run (sampleRegistry platform settings sampleMaxOutputBytes inspected).step ⟨.empty, []⟩ registered

def lease : LeaseRow where
  jobId := 1
  attemptId := 1
  workerId := 1
  expiresAt := leaseExpiry settings 1000
  lastRenewedAt := 1000
  releasedAt := none
  active := true

theorem repeats :
    Repeats platform repeated.state ⟨1, false⟩ verified lease (verified.sample ⟨0⟩) := by
  have run : (⟨1, false⟩ : SampleTransaction) ∈ repeated.state.locks.active ∧
      repeated.state.locks.held = [] ∧ verified.sample ⟨0⟩ ∈ repeated.state.samples ∧
      lockCurrentSampleClaim platform repeated.state.ledger verified 2000 = .ok lease := by
    decide +kernel
  rcases run with ⟨active, unlocked, stored, locked⟩
  exact
    { active := active
      stored := stored
      registered := ⟨verified, rfl, rfl⟩
      claim := (lockCurrentSampleClaim_eq_ok locked).1
      free := fun resource _ other holds => by
        rw [Locks.Holds, unlocked] at holds
        cases holds }

end SampleRun

open SampleRun in
/-- The repetition is answered with the sample of the first registration. -/
theorem sample_ledger_repeated :
    let alone := (sampleRegistry platform settings sampleMaxOutputBytes inspected).solo
      (some (.running ⟨1, false⟩ verified .verified)) repeated.state
      (List.replicate 5 ⟨2000, ⟨0⟩, .works⟩)
    repeated.state.samples = [verified.sample ⟨0⟩] ∧
      alone.1 = some (.answered 1 payload (.ok (verified.sample ⟨0⟩))) ∧
      alone.2.samples = repeated.state.samples ∧ alone.2.ledger = repeated.state.ledger :=
  ⟨by decide +kernel,
    (sample_ledger platform settings sampleMaxOutputBytes inspected registered).2.2.2.2.2
      ⟨1, false⟩ verified lease (verified.sample ⟨0⟩) _ _ _ _ _ repeats (by decide +kernel)⟩

end RvcOrchestrator.Manager

import RvcOrchestrator.Manager.SampleRegistration

/-! # The ledger of samples

Whatever the order of registrations and other requests, an attempt has one sample of each
identity and stays within its limits, and a sample is only written under a running claim.
-/

namespace RvcOrchestrator.Manager

open RvcOrchestrator.Foundation RvcOrchestrator.Contracts

variable {platform : Platform} {settings : Settings} {sampleMaxBytes : Nat}
  {inspect : String → Option SamplePcmInspection}

/-! ## A running claim -/

structure CurrentClaim (platform : Platform) (ledger : Ledger) (verified : VerifiedSample inspect)
    (lease : LeaseRow) (job : JobRow) (attempt : AttemptRow) (worker : WorkerRow) : Prop where
  leaseFound : ledger.leases.find? verified.payload.leaseId = some lease
  jobFound : ledger.jobs.find? verified.jobId = some job
  attemptFound : ledger.attempts.find? verified.payload.attemptId = some attempt
  workerFound : ledger.workers.find? verified.workerId = some worker
  config : validatedJobConfig platform verified.jobId job (some attempt) = .ok verified.config
  active : lease.active = true
  unreleased : lease.releasedAt = none
  leaseOf : lease.jobId = verified.jobId ∧ lease.attemptId = verified.payload.attemptId ∧
    lease.workerId = verified.workerId
  jobOf : job.workerId = some verified.workerId ∧
    job.currentAttemptId = some verified.payload.attemptId
  plan : job.testSetId = some verified.payload.testSetId ∧
    job.samplePlan.map SamplePlan.sha256 = some verified.payload.samplePlanSha256
  uncancelled : job.cancelRequestedAt = none
  running : job.status ∉ terminalJobStatuses
  attemptOf : attempt.jobId = verified.jobId ∧ attempt.workerId = verified.workerId
  unfinished : attempt.finishedAt = none
  attemptRunning : attempt.status ∉ terminalJobStatuses
  runtime : attempt.runtimeImageDigest = some verified.payload.runtimeImageDigest ∧
    attempt.runtimeAssetManifestSha256 = some verified.payload.runtimeAssetManifestSha256
  occupied : worker.currentJobId = some verified.jobId

section

variable {ledger after : Ledger} {verified : VerifiedSample inspect} {lease : LeaseRow}
  {job : JobRow} {attempt : AttemptRow} {worker : WorkerRow} {now : Time}

theorem lockCurrentSampleClaim_eq_ok
    (accepted : lockCurrentSampleClaim platform ledger verified now = .ok lease) :
    (∃ job attempt worker, CurrentClaim platform ledger verified lease job attempt worker) ∧
      now < lease.expiresAt := by
  simp only [lockCurrentSampleClaim] at accepted
  split at accepted
  · next job attempt jobFound attemptFound =>
      split at accepted
      · cases accepted
      · next config valid =>
          split at accepted
          · next row worker leaseFound workerFound =>
              split at accepted
              · cases accepted
              · next current =>
                  cases accepted
                  simp only [not_or, not_not, Bool.not_eq_false, not_le] at current
                  rcases current with ⟨active, unreleased, unexpired, leaseJob, leaseAttempt,
                    leaseWorker, jobWorker, jobAttempt, testSet, plan, uncancelled, running,
                    attemptJob, attemptWorker, unfinished, attemptRunning, image, manifest,
                    occupied, same⟩
                  exact ⟨⟨job, attempt, worker, leaseFound, jobFound, attemptFound, workerFound,
                    same ▸ valid, active, unreleased, ⟨leaseJob, leaseAttempt, leaseWorker⟩,
                    ⟨jobWorker, jobAttempt⟩, ⟨testSet, plan⟩, uncancelled, running,
                    ⟨attemptJob, attemptWorker⟩, unfinished, attemptRunning, ⟨image, manifest⟩,
                    occupied⟩, unexpired⟩
          · cases accepted
  · cases accepted

theorem CurrentClaim.lock (current : CurrentClaim platform ledger verified lease job attempt worker)
    (unexpired : now < lease.expiresAt) :
    lockCurrentSampleClaim platform ledger verified now = .ok lease := by
  simp [lockCurrentSampleClaim, current.jobFound, current.attemptFound, current.config,
    current.leaseFound, current.workerFound, current.active, current.unreleased, unexpired,
    current.leaseOf, current.jobOf, current.plan, current.uncancelled, current.running,
    current.attemptOf, current.unfinished, current.attemptRunning, current.runtime,
    current.occupied]

theorem CurrentClaim.fence
    (current : CurrentClaim platform ledger verified lease job attempt worker) :
    acquireSampleRegistrationJobFence platform ledger verified = .ok () := by
  rcases validatedJobConfig_eq_ok current.config with ⟨-, hash, -, ofAttempt⟩
  have attemptHash := (ofAttempt attempt rfl).2
  simp [acquireSampleRegistrationJobFence, current.jobFound, current.attemptFound,
    current.config, current.jobOf, current.plan, hash, attemptHash, current.uncancelled,
    current.running, current.attemptOf, current.unfinished, current.attemptRunning,
    current.runtime]

theorem CurrentClaim.fenceClaim
    (current : CurrentClaim platform ledger verified lease job attempt worker)
    (unexpired : now < lease.expiresAt) :
    fenceSampleClaim platform ledger verified now = .ok lease := by
  rw [fenceSampleClaim, current.fence]
  exact current.lock unexpired

theorem fenceSampleClaim_eq_ok
    (accepted : fenceSampleClaim platform ledger verified now = .ok lease) :
    ∃ job attempt worker, CurrentClaim platform ledger verified lease job attempt worker := by
  unfold fenceSampleClaim at accepted
  split at accepted
  · cases accepted
  · exact (lockCurrentSampleClaim_eq_ok accepted).1

/-- A change of the ledger that leaves the rows of a claim alone leaves the claim. -/
theorem CurrentClaim.kept
    (current : CurrentClaim platform ledger verified lease job attempt worker)
    (kept : ∀ resource ∈ sampleClaimRows verified, resource.kept ledger after = true) :
    CurrentClaim platform after verified lease job attempt worker := by
  simp only [sampleClaimRows, List.forall_mem_cons, SampleResource.kept, decide_eq_true_eq] at kept
  rcases kept with ⟨sameLease, sameJob, sameAttempt, sameWorker, -⟩
  exact
    { current with
      leaseFound := sameLease ▸ current.leaseFound
      jobFound := sameJob ▸ current.jobFound
      attemptFound := sameAttempt ▸ current.attemptFound
      workerFound := sameWorker ▸ current.workerFound }

end

theorem requireFencedLeaseTime_eq_ok {lease : LeaseRow} {now : Time}
    (accepted : requireFencedLeaseTime lease now = .ok ()) : now < lease.expiresAt := by
  unfold requireFencedLeaseTime at accepted
  split at accepted
  · cases accepted
  · next valid =>
      simp only [not_or, not_le] at valid
      exact valid.2.2

/-! ## The invariant -/

structure SampleStore.Sound (inspect : String → Option SamplePcmInspection)
    (store : SampleStore) : Prop where
  ledger : Assignment.Sound store.ledger.view
  identities : (store.samples.map Sample.identity).Nodup
  registered : ∀ sample ∈ store.samples, ∃ verified : VerifiedSample inspect,
    sample = verified.sample sample.id
  owned : ∀ sample ∈ store.samples, ∃ attempt,
    store.ledger.attempts.find? sample.attemptId = some attempt ∧ attempt.jobId = sample.jobId
  sizes : ∀ attemptId,
    totalSizeBytes (samplesOf attemptId store.samples) ≤ sampleMaxTotalOutputBytes
  durations : ∀ attemptId,
    totalDurationSeconds (samplesOf attemptId store.samples) ≤ sampleMaxTotalOutputDurationSeconds
  drawn : ∀ transaction ∈ store.locks.active, transaction.token ∈ store.tokens

/-- The first transaction of a request, with the lock on the attempt's registrations. -/
structure Registers (store : SampleStore) (transaction : SampleTransaction)
    (verified : VerifiedSample inspect) : Prop where
  first : transaction.second = false
  registration : store.locks.Holds transaction (.registration verified.payload.attemptId)

structure ClaimHeld (platform : Platform) (store : SampleStore) (transaction : SampleTransaction)
    (verified : VerifiedSample inspect) (lease : LeaseRow) : Prop where
  rows : ∀ resource ∈ sampleClaimRows verified, store.locks.Holds transaction resource
  current : ∃ job attempt worker,
    CurrentClaim platform store.ledger verified lease job attempt worker

def Fresh (store : SampleStore) (verified : VerifiedSample inspect) : Prop :=
  ∀ sample ∈ store.samples, sample.identity ≠ verified.identity

structure WithinLimits (store : SampleStore) (verified : VerifiedSample inspect) : Prop where
  sizes : totalSizeBytes (samplesOf verified.payload.attemptId store.samples) +
    verified.payload.outputSizeBytes ≤ sampleMaxTotalOutputBytes
  durations : totalDurationSeconds (samplesOf verified.payload.attemptId store.samples) +
    verified.inspection.durationSeconds ≤ sampleMaxTotalOutputDurationSeconds

structure StoredAsRegistered (store : SampleStore) (verified : VerifiedSample inspect)
    (sample : Sample) : Prop where
  stored : sample ∈ store.samples
  identity : sample.identity = verified.identity
  matching : replays verified sample = true

def StageFits (platform : Platform) (store : SampleStore) (transaction : SampleTransaction)
    (verified : VerifiedSample inspect) : SampleStage → Prop
  | .verified => transaction.second = false
  | .attemptLocked => Registers store transaction verified
  | .claimLocked => Registers store transaction verified ∧
      ∃ lease, ClaimHeld platform store transaction verified lease
  | .fenced lease => Registers store transaction verified ∧
      ClaimHeld platform store transaction verified lease
  | .replaying lease existing => ClaimHeld platform store transaction verified lease ∧
      StoredAsRegistered store verified existing
  | .limiting lease => Registers store transaction verified ∧
      ClaimHeld platform store transaction verified lease ∧ Fresh store verified
  | .inserting lease => Registers store transaction verified ∧
      ClaimHeld platform store transaction verified lease ∧ Fresh store verified ∧
      WithinLimits store verified
  | .registering lease sample => Registers store transaction verified ∧
      ClaimHeld platform store transaction verified lease ∧ Fresh store verified ∧
      WithinLimits store verified ∧ ∃ id, sample = verified.sample id
  | .raced => True
  | .relocking existing => StoredAsRegistered store verified existing
  | .refencing existing => StoredAsRegistered store verified existing ∧
      ∃ lease, ClaimHeld platform store transaction verified lease

/-- A sample that was registered with the contents of a payload. -/
structure Confirms (inspect : String → Option SamplePcmInspection) (store : SampleStore)
    (payload : SampleRegistrationRequest) (sample : Sample) : Prop where
  stored : sample ∈ store.samples
  identity : sample.identity = payload.identity
  same : ∃ verified : VerifiedSample inspect,
    sample = verified.sample sample.id ∧ payload.contents = verified.payload.contents

def SampleFits (platform : Platform) (store : SampleStore) : SamplePhase inspect → Prop
  | .running transaction verified stage =>
      transaction ∈ store.locks.active → StageFits platform store transaction verified stage
  | .answered _ payload (.ok sample) => Confirms inspect store payload sample
  | .answered _ _ (.error _) => True

def SamplePhase.token : SamplePhase inspect → ClaimToken
  | .running transaction .. => transaction.token
  | .answered token .. => token

/-! ## What other requests leave alone -/

/-- What the request with a token does, as the others see it. -/
structure Evolves (token : ClaimToken) (before after : SampleStore) : Prop where
  ledger : after.ledger = before.ledger
  samples : ∃ new, after.samples = before.samples ++ new ∧ ∀ sample ∈ new, ∃ transaction,
    transaction.token = token ∧
      before.locks.Holds transaction (.registration sample.attemptId)
  active : ∀ transaction ∈ after.locks.active, transaction.token ≠ token →
    transaction ∈ before.locks.active
  holds : ∀ transaction resource, transaction.token ≠ token →
    before.locks.Holds transaction resource → after.locks.Holds transaction resource

structure Gains (before after : SampleStore) : Prop where
  ledger : after.ledger = before.ledger
  samples : after.samples = before.samples
  active : after.locks.active = before.locks.active
  holds : ∀ transaction resource, before.locks.Holds transaction resource →
    after.locks.Holds transaction resource

section

variable {before after : SampleStore} {transaction : SampleTransaction}
  {verified : VerifiedSample inspect} {lease : LeaseRow} {token : ClaimToken}

theorem samplesOf_append_of_other {attemptId : AttemptId} {samples new : List Sample}
    (others : ∀ sample ∈ new, sample.attemptId ≠ attemptId) :
    samplesOf attemptId (samples ++ new) = samplesOf attemptId samples := by
  have none_of : new.filter (fun sample => sample.attemptId = attemptId) = [] := by
    rw [List.filter_eq_nil_iff]
    intro sample member same
    exact others sample member (of_decide_eq_true same)
  rw [samplesOf, List.filter_append, none_of, List.append_nil, samplesOf]

/-- How a store may change without a stage of a request noticing it. -/
structure Unnoticed (transaction : SampleTransaction) (before after : SampleStore) : Prop where
  ledger : ∀ resource, before.locks.Holds transaction resource →
    resource.kept before.ledger after.ledger = true
  samples : ∃ new, after.samples = before.samples ++ new ∧ ∀ sample ∈ new,
    ¬before.locks.Holds transaction (.registration sample.attemptId)
  holds : ∀ resource, before.locks.Holds transaction resource →
    after.locks.Holds transaction resource

theorem SampleResource.kept_refl (ledger : Ledger) (resource : SampleResource) :
    resource.kept ledger ledger = true := by
  cases resource <;> simp [SampleResource.kept]

theorem Gains.unnoticed (gains : Gains before after) : Unnoticed transaction before after where
  ledger resource _ := by
    rw [gains.ledger]
    exact resource.kept_refl _
  samples := ⟨[], by rw [gains.samples, List.append_nil], fun _ member => nomatch member⟩
  holds := gains.holds transaction

theorem Evolves.unnoticed (evolves : Evolves token before after)
    (other : transaction.token ≠ token) : Unnoticed transaction before after where
  ledger resource _ := by
    rw [evolves.ledger]
    exact resource.kept_refl _
  samples := by
    rcases evolves.samples with ⟨new, appended, locked⟩
    refine ⟨new, appended, ?_⟩
    intro sample member holds
    rcases locked sample member with ⟨writer, ofToken, writerHolds⟩
    exact other (holds.unique writerHolds ▸ ofToken)
  holds resource := evolves.holds transaction resource other

theorem Registers.unnoticed (registers : Registers before transaction verified)
    (unnoticed : Unnoticed transaction before after) : Registers after transaction verified where
  first := registers.first
  registration := unnoticed.holds _ registers.registration

theorem ClaimHeld.unnoticed (held : ClaimHeld platform before transaction verified lease)
    (unnoticed : Unnoticed transaction before after) :
    ClaimHeld platform after transaction verified lease where
  rows resource member := unnoticed.holds _ (held.rows resource member)
  current := by
    rcases held.current with ⟨job, attempt, worker, current⟩
    exact ⟨job, attempt, worker,
      current.kept fun resource member => unnoticed.ledger _ (held.rows resource member)⟩

theorem Unnoticed.samplesOf (unnoticed : Unnoticed transaction before after)
    (registers : Registers before transaction verified) :
    samplesOf verified.payload.attemptId after.samples =
      samplesOf verified.payload.attemptId before.samples := by
  rcases unnoticed.samples with ⟨new, appended, others⟩
  rw [appended]
  apply samplesOf_append_of_other
  intro sample member same
  exact others sample member (same ▸ registers.registration)

theorem Fresh.unnoticed (fresh : Fresh before verified)
    (registers : Registers before transaction verified)
    (unnoticed : Unnoticed transaction before after) : Fresh after verified := by
  rcases unnoticed.samples with ⟨new, appended, others⟩
  intro sample member same
  rw [appended] at member
  rcases List.mem_append.mp member with earlier | added
  · exact fresh sample earlier same
  · have ofAttempt : sample.attemptId = verified.payload.attemptId := congrArg Prod.fst same
    exact others sample added (ofAttempt ▸ registers.registration)

theorem WithinLimits.unnoticed (within : WithinLimits before verified)
    (registers : Registers before transaction verified)
    (unnoticed : Unnoticed transaction before after) : WithinLimits after verified where
  sizes := by
    rw [unnoticed.samplesOf registers]
    exact within.sizes
  durations := by
    rw [unnoticed.samplesOf registers]
    exact within.durations

theorem StoredAsRegistered.grows {sample : Sample}
    (stored : StoredAsRegistered before verified sample)
    (grows : ∃ new, after.samples = before.samples ++ new) :
    StoredAsRegistered after verified sample where
  stored := by
    rcases grows with ⟨new, appended⟩
    rw [appended]
    exact List.mem_append_left _ stored.stored
  identity := stored.identity
  matching := stored.matching

theorem Unnoticed.grows (unnoticed : Unnoticed transaction before after) :
    ∃ new, after.samples = before.samples ++ new := by
  rcases unnoticed.samples with ⟨new, appended, -⟩
  exact ⟨new, appended⟩

theorem StageFits.unnoticed {stage : SampleStage}
    (fits : StageFits platform before transaction verified stage)
    (unnoticed : Unnoticed transaction before after) :
    StageFits platform after transaction verified stage := by
  cases stage with
  | verified => exact fits
  | attemptLocked => exact Registers.unnoticed fits unnoticed
  | claimLocked =>
      rcases fits with ⟨registers, lease, held⟩
      exact ⟨registers.unnoticed unnoticed, lease, held.unnoticed unnoticed⟩
  | fenced lease => exact ⟨fits.1.unnoticed unnoticed, fits.2.unnoticed unnoticed⟩
  | replaying lease existing =>
      exact ⟨fits.1.unnoticed unnoticed, fits.2.grows unnoticed.grows⟩
  | limiting lease =>
      rcases fits with ⟨registers, held, fresh⟩
      exact ⟨registers.unnoticed unnoticed, held.unnoticed unnoticed,
        fresh.unnoticed registers unnoticed⟩
  | inserting lease =>
      rcases fits with ⟨registers, held, fresh, within⟩
      exact ⟨registers.unnoticed unnoticed, held.unnoticed unnoticed,
        fresh.unnoticed registers unnoticed, within.unnoticed registers unnoticed⟩
  | registering lease sample =>
      rcases fits with ⟨registers, held, fresh, within, named⟩
      exact ⟨registers.unnoticed unnoticed, held.unnoticed unnoticed,
        fresh.unnoticed registers unnoticed, within.unnoticed registers unnoticed, named⟩
  | raced => trivial
  | relocking existing => exact StoredAsRegistered.grows fits unnoticed.grows
  | refencing existing =>
      rcases fits with ⟨stored, lease, held⟩
      exact ⟨stored.grows unnoticed.grows, lease, held.unnoticed unnoticed⟩

theorem Confirms.grows {payload : SampleRegistrationRequest} {sample : Sample}
    (confirms : Confirms inspect before payload sample)
    (grows : ∃ new, after.samples = before.samples ++ new) :
    Confirms inspect after payload sample where
  stored := by
    rcases grows with ⟨new, appended⟩
    rw [appended]
    exact List.mem_append_left _ confirms.stored
  identity := confirms.identity
  same := confirms.same

/-- A phase fits as long as its transaction, if it is still open, notices nothing. -/
theorem SampleFits.unnoticed {phase : SamplePhase inspect} (fits : SampleFits platform before phase)
    (grows : ∃ new, after.samples = before.samples ++ new)
    (unnoticed : ∀ transaction verified stage, phase = .running transaction verified stage →
      transaction ∈ after.locks.active →
        transaction ∈ before.locks.active ∧ Unnoticed transaction before after) :
    SampleFits platform after phase := by
  match phase with
  | .running transaction verified stage =>
      intro active
      rcases unnoticed transaction verified stage rfl active with ⟨earlier, unnoticed⟩
      exact (fits earlier).unnoticed unnoticed
  | .answered _ _ (.ok _) => exact Confirms.grows fits grows
  | .answered _ _ (.error _) => trivial

theorem SampleFits.gains {phase : SamplePhase inspect} (fits : SampleFits platform before phase)
    (gains : Gains before after) : SampleFits platform after phase := by
  apply fits.unnoticed
  · exact ⟨[], by rw [gains.samples, List.append_nil]⟩
  · intro transaction verified stage _ active
    exact ⟨gains.active ▸ active, gains.unnoticed⟩

theorem SampleFits.evolves {phase : SamplePhase inspect} (fits : SampleFits platform before phase)
    (evolves : Evolves token before after) (other : phase.token ≠ token) :
    SampleFits platform after phase := by
  apply fits.unnoticed
  · rcases evolves.samples with ⟨new, appended, -⟩
    exact ⟨new, appended⟩
  · rintro transaction verified stage rfl active
    exact ⟨evolves.active transaction active other, evolves.unnoticed other⟩

end

/-! ## What a move does -/

structure MoveFits (platform : Platform) (store : SampleStore) (phase : SamplePhase inspect)
    (move : SampleMove inspect) : Prop where
  sound : move.2.Sound inspect
  next : ∀ next, move.1 = some next → SampleFits platform move.2 next ∧ next.token = phase.token
  evolves : Evolves phase.token store move.2
  tokens : move.2.tokens = store.tokens
  own : SampleFits platform move.2 phase

section

variable {store store' : SampleStore} {transaction : SampleTransaction}
  {verified : VerifiedSample inspect} {stage : SampleStage}
  {locks : Locks SampleTransaction SampleResource} {resources : List SampleResource}

theorem SampleStore.Sound.withLocks (sound : store.Sound inspect)
    (drawn : ∀ transaction ∈ locks.active, transaction.token ∈ store.tokens) :
    SampleStore.Sound inspect { store with locks } :=
  { sound with drawn }

theorem gains_acquire {resource : SampleResource}
    (acquired : store.locks.acquire transaction resource = some locks) :
    Gains store { store with locks } where
  ledger := rfl
  samples := rfl
  active := Locks.acquire_active acquired
  holds _ _ holds := (Locks.acquire_holds acquired).mpr (.inl holds)

theorem gains_acquireAll (acquired : store.locks.acquireAll transaction resources = some locks) :
    Gains store { store with locks } where
  ledger := rfl
  samples := rfl
  active := Locks.acquireAll_active acquired
  holds _ _ holds := Locks.acquireAll_keeps acquired holds

theorem Gains.refl (store : SampleStore) : Gains store store :=
  ⟨rfl, rfl, rfl, fun _ _ holds => holds⟩

theorem Gains.evolves (gains : Gains store store') (token : ClaimToken) :
    Evolves token store store' where
  ledger := gains.ledger
  samples := ⟨[], by rw [gains.samples, List.append_nil], fun _ member => nomatch member⟩
  active _ member _ := gains.active ▸ member
  holds transaction resource _ := gains.holds transaction resource

theorem goOn_fits {next : SampleStage} (sound : store.Sound inspect)
    (fits : SampleFits platform store (.running transaction verified stage))
    (gains : Gains store { store with locks })
    (stageFits : StageFits platform { store with locks } transaction verified next) :
    MoveFits platform store (.running transaction verified stage)
      (goOn store transaction verified next locks) where
  sound := sound.withLocks fun transaction active => sound.drawn transaction (gains.active ▸ active)
  next phase moved := by
    rcases Option.some.inj moved with rfl
    exact ⟨fun _ => stageFits, rfl⟩
  evolves := gains.evolves _
  tokens := rfl
  own := fits.gains gains

/-- A request that waits is where it was. -/
theorem goOn_waits (sound : store.Sound inspect)
    (fits : SampleFits platform store (.running transaction verified stage))
    (active : transaction ∈ store.locks.active) :
    MoveFits platform store (.running transaction verified stage)
      (goOn store transaction verified stage store.locks) :=
  goOn_fits sound fits (.refl store) (fits active)

theorem endSample_writes {answer : Except HttpError Sample} (sound : store'.Sound inspect)
    (ledger : store'.ledger = store.ledger) (sameLocks : store'.locks = store.locks)
    (tokens : store'.tokens = store.tokens)
    (written : ∃ new, store'.samples = store.samples ++ new ∧ ∀ sample ∈ new,
      store.locks.Holds transaction (.registration sample.attemptId))
    (confirms : ∀ sample, answer = .ok sample → Confirms inspect store' verified.payload sample) :
    MoveFits platform store (.running transaction verified stage)
      (endSample store' transaction verified answer) where
  sound := by
    apply sound.withLocks
    intro other active
    exact sound.drawn other (Locks.mem_active_close.mp active).1
  next phase moved := by
    rcases Option.some.inj moved with rfl
    match answer, confirms with
    | .ok sample, confirms =>
        have confirmed := confirms sample rfl
        exact ⟨⟨confirmed.stored, confirmed.identity, confirmed.same⟩, rfl⟩
    | .error _, _ => exact ⟨trivial, rfl⟩
  evolves :=
    { ledger := ledger
      samples := by
        rcases written with ⟨new, appended, locked⟩
        exact ⟨new, appended, fun sample member => ⟨transaction, rfl, locked sample member⟩⟩
      active := fun other active _ =>
        sameLocks ▸ (Locks.mem_active_close.mp active).1
      holds := fun other resource different holds =>
        Locks.close_holds.mpr ⟨sameLocks ▸ holds, fun same =>
          different (congrArg SampleTransaction.token same)⟩ }
  tokens := tokens
  own := fun active => absurd rfl (Locks.mem_active_close.mp active).2

/-- The end of a request that writes nothing. -/
theorem endSample_fits {answer : Except HttpError Sample} (sound : store.Sound inspect)
    (confirms : ∀ sample, answer = .ok sample → Confirms inspect store verified.payload sample) :
    MoveFits platform store (.running transaction verified stage)
      (endSample store transaction verified answer) :=
  endSample_writes sound rfl rfl rfl
    ⟨[], (List.append_nil _).symm, fun _ member => nomatch member⟩ confirms

theorem endSample_fails {error : HttpError} (sound : store.Sound inspect) :
    MoveFits platform store (.running transaction verified stage)
      (endSample store transaction verified (.error error)) :=
  endSample_fits sound fun _ answered => nomatch answered

/-- A sample that is found as it would be registered. -/
theorem StoredAsRegistered.confirms {sample : Sample} (sound : store.Sound inspect)
    (stored : StoredAsRegistered store verified sample) :
    Confirms inspect store verified.payload sample where
  stored := stored.stored
  identity := stored.identity
  same := by
    rcases sound.registered sample stored.stored with ⟨other, registered⟩
    have replayed := stored.matching
    simp only [replays, Bool.and_eq_true] at replayed
    have matching := replayed.2
    rw [registered] at matching
    exact ⟨other, registered, (verified.matches_sample_iff other sample.id).mp matching⟩

theorem storedAsRegistered_of_find {sample : Sample}
    (found : findSample store verified.identity = some sample)
    (matching : replays verified sample = true) : StoredAsRegistered store verified sample where
  stored := List.mem_of_find?_eq_some found
  identity := by
    unfold findSample at found
    have same := List.find?_some found
    exact of_decide_eq_true same
  matching := matching

theorem fresh_of_find (missing : findSample store verified.identity = none) :
    Fresh store verified := by
  intro sample member same
  have different := List.find?_eq_none.mp missing sample member
  exact different (decide_eq_true same)

/-! ### The new sample -/

theorem samplesOf_append (attemptId : AttemptId) (samples : List Sample) (sample : Sample) :
    samplesOf attemptId (samples ++ [sample]) =
      samplesOf attemptId samples ++ if sample.attemptId = attemptId then [sample] else [] := by
  by_cases same : sample.attemptId = attemptId <;> simp [samplesOf, same]

theorem SampleStore.Sound.register {lease : LeaseRow} (sound : store.Sound inspect)
    (held : ClaimHeld platform store transaction verified lease) (fresh : Fresh store verified)
    (within : WithinLimits store verified) (id : SampleId) :
    SampleStore.Sound inspect { store with samples := store.samples ++ [verified.sample id] } where
  ledger := sound.ledger
  identities := by
    rw [List.map_append, List.nodup_append]
    refine ⟨sound.identities, List.pairwise_singleton _ _, ?_⟩
    intro identity earlier other new same
    rcases List.mem_map.mp earlier with ⟨sample, member, rfl⟩
    rw [List.map_singleton, List.mem_singleton] at new
    exact fresh sample member (same.trans new)
  registered sample member := by
    rcases List.mem_append.mp member with earlier | new
    · exact sound.registered sample earlier
    · rw [List.mem_singleton.mp new]
      exact ⟨verified, rfl⟩
  owned sample member := by
    rcases List.mem_append.mp member with earlier | new
    · exact sound.owned sample earlier
    · rw [List.mem_singleton.mp new]
      rcases held.current with ⟨job, attempt, worker, current⟩
      exact ⟨attempt, current.attemptFound, current.attemptOf.1⟩
  sizes attemptId := by
    rw [samplesOf_append]
    split
    · next same =>
        rw [totalSizeBytes, List.map_append, List.sum_append, ← same]
        simpa [totalSizeBytes, VerifiedSample.sample, newSample] using within.sizes
    · rw [List.append_nil]
      exact sound.sizes attemptId
  durations attemptId := by
    rw [samplesOf_append]
    split
    · next same =>
        rw [totalDurationSeconds, List.map_append, List.sum_append, ← same]
        simpa [totalDurationSeconds, VerifiedSample.sample, newSample] using within.durations
    · rw [List.append_nil]
      exact sound.durations attemptId
  drawn := sound.drawn

theorem confirms_new (id : SampleId) :
    Confirms inspect { store with samples := store.samples ++ [verified.sample id] }
      verified.payload (verified.sample id) where
  stored := List.mem_append_right _ List.mem_cons_self
  identity := rfl
  same := ⟨verified, rfl, rfl⟩

/-- The commit of a new sample. -/
theorem endSample_registers {answer : Except HttpError Sample} {id : SampleId}
    {lease : LeaseRow} (sound : store.Sound inspect)
    (registers : Registers store transaction verified)
    (held : ClaimHeld platform store transaction verified lease) (fresh : Fresh store verified) (within : WithinLimits store verified)
    (own : ∀ sample, answer = .ok sample → sample = verified.sample id) :
    MoveFits platform store (.running transaction verified stage)
      (endSample { store with samples := store.samples ++ [verified.sample id] } transaction
        verified answer) := by
  apply endSample_writes
  · exact sound.register held fresh within id
  · rfl
  · rfl
  · rfl
  · refine ⟨[verified.sample id], rfl, ?_⟩
    intro sample member
    rw [List.mem_singleton.mp member]
    exact registers.registration
  · intro sample answered
    rw [own sample answered]
    exact confirms_new id

/-! ### The stages -/

variable {choice : SampleChoice}

theorem lockSampleClaim_fits {next : SampleStage} (sound : store.Sound inspect)
    (fits : SampleFits platform store (.running transaction verified stage))
    (active : transaction ∈ store.locks.active)
    (stageFits : ∀ locks lease, Gains store { store with locks } →
      ClaimHeld platform { store with locks } transaction verified lease →
      StageFits platform { store with locks } transaction verified next) :
    MoveFits platform store (.running transaction verified stage)
      (lockSampleClaim platform store transaction verified stage next choice.now) := by
  unfold lockSampleClaim
  split
  · exact goOn_waits sound fits active
  · next locks acquired =>
      split
      · exact endSample_fails sound
      · next lease locked =>
          have gains := gains_acquireAll acquired
          refine goOn_fits sound fits gains (stageFits locks lease gains ?_)
          exact
            { rows := fun resource member => Locks.acquireAll_takes acquired member
              current := (lockCurrentSampleClaim_eq_ok locked).1 }

theorem fenceSampleClaim_held {lease : LeaseRow} {now : Time}
    (held : ∃ lease, ClaimHeld platform store transaction verified lease)
    (fenced : fenceSampleClaim platform store.ledger verified now = .ok lease) :
    ClaimHeld platform store transaction verified lease := by
  rcases held with ⟨_, held⟩
  exact ⟨held.rows, fenceSampleClaim_eq_ok fenced⟩

theorem sampleAttemptTotals_eq_ok {samples : List Sample} {attemptId : AttemptId} {sizeBytes : Nat}
    {durationSeconds : ℚ}
    (summed : sampleAttemptTotals samples attemptId = .ok (sizeBytes, durationSeconds)) :
    sizeBytes = totalSizeBytes (samplesOf attemptId samples) ∧
      durationSeconds = totalDurationSeconds (samplesOf attemptId samples) := by
  unfold sampleAttemptTotals at summed
  split at summed
  · cases summed
  · cases summed
    exact ⟨rfl, rfl⟩

/-- The rollback after a violated constraint. -/
theorem race_fits (sound : store.Sound inspect) (first : transaction.second = false)
    (active : transaction ∈ store.locks.active) :
    MoveFits platform store (.running transaction verified stage)
      (goOn store ⟨transaction.token, true⟩ verified .raced
        ((store.locks.close transaction).start ⟨transaction.token, true⟩)) := by
  have different : transaction ≠ ⟨transaction.token, true⟩ := by
    intro same
    rw [same] at first
    cases first
  constructor
  · apply sound.withLocks
    intro other member
    rcases Locks.mem_active_start.mp member with rfl | closed
    · exact sound.drawn transaction active
    · exact sound.drawn other (Locks.mem_active_close.mp closed).1
  · intro next moved
    rcases Option.some.inj moved with rfl
    exact ⟨fun _ => trivial, rfl⟩
  · constructor
    · rfl
    · exact ⟨[], (List.append_nil _).symm, fun _ member => nomatch member⟩
    · intro other member otherToken
      rcases Locks.mem_active_start.mp member with rfl | closed
      · exact absurd rfl otherToken
      · exact (Locks.mem_active_close.mp closed).1
    · intro other resource otherToken holds
      refine Locks.start_holds.mpr (Locks.close_holds.mpr ⟨holds, ?_⟩)
      intro same
      exact otherToken (congrArg SampleTransaction.token same)
  · rfl
  · intro still
    rcases Locks.mem_active_start.mp still with same | closed
    · exact absurd same different
    · exact absurd rfl (Locks.mem_active_close.mp closed).2

theorem advanceSampleStage_fits (sound : store.Sound inspect)
    (fits : StageFits platform store transaction verified stage)
    (active : transaction ∈ store.locks.active) :
    MoveFits platform store (.running transaction verified stage)
      (advanceSampleStage platform choice transaction verified stage store) := by
  have phaseFits : SampleFits platform store (.running transaction verified stage) := fun _ => fits
  cases stage with
  | verified =>
      simp only [advanceSampleStage]
      split
      · exact endSample_fails sound
      · next locks acquired =>
          refine goOn_fits sound phaseFits (gains_acquire acquired) ?_
          exact ⟨fits, (Locks.acquire_holds acquired).mpr (.inr ⟨rfl, rfl⟩)⟩
  | attemptLocked =>
      refine lockSampleClaim_fits sound phaseFits active ?_
      intro locks lease gains held
      exact ⟨Registers.unnoticed fits gains.unnoticed, lease, held⟩
  | claimLocked =>
      simp only [advanceSampleStage]
      split
      · exact endSample_fails sound
      · next lease fenced =>
          exact goOn_fits sound phaseFits (.refl store)
            ⟨fits.1, fenceSampleClaim_held fits.2 fenced⟩
  | fenced lease =>
      simp only [advanceSampleStage]
      split
      · next missing =>
          exact goOn_fits sound phaseFits (.refl store) ⟨fits.1, fits.2, fresh_of_find missing⟩
      · next existing found =>
          split
          · next matching =>
              exact goOn_fits sound phaseFits (.refl store)
                ⟨fits.2, storedAsRegistered_of_find found matching⟩
          · exact endSample_fails sound
  | replaying lease existing =>
      refine endSample_fits sound ?_
      intro sample answered
      cases timely : requireFencedLeaseTime lease choice.now with
      | error error =>
          rw [timely] at answered
          cases answered
      | ok _ =>
          rw [timely] at answered
          cases answered
          exact fits.2.confirms sound
  | limiting lease =>
      rcases fits with ⟨registers, held, fresh⟩
      simp only [advanceSampleStage]
      split
      · exact endSample_fails sound
      · next sizeBytes durationSeconds summed =>
          split
          · exact endSample_fails sound
          · next within =>
              rcases sampleAttemptTotals_eq_ok summed with ⟨rfl, rfl⟩
              simp only [not_or, not_lt] at within
              exact goOn_fits sound phaseFits (.refl store) ⟨registers, held, fresh, within.1,
                within.2⟩
  | inserting lease =>
      simp only [advanceSampleStage]
      split
      · exact goOn_waits sound phaseFits active
      · next locks acquired =>
          have unnoticed : Unnoticed transaction store { store with locks } :=
            (gains_acquireAll acquired).unnoticed
          split
          · exact race_fits sound fits.1.first active
          · refine goOn_fits sound phaseFits (gains_acquireAll acquired) ?_
            have kept : StageFits platform { store with locks } transaction verified
                (.inserting lease) := StageFits.unnoticed fits unnoticed
            rcases kept with ⟨registers, held, fresh, within⟩
            exact ⟨registers, held, fresh, within, choice.sampleId, rfl⟩
  | registering lease sample =>
      rcases fits with ⟨registers, held, fresh, within, id, rfl⟩
      simp only [advanceSampleStage]
      split
      · exact endSample_fails sound
      · refine endSample_registers sound registers held fresh within ?_
        intro sample answered
        cases answered
        rfl
  | raced =>
      simp only [advanceSampleStage]
      split
      · exact endSample_fails sound
      · next raced found =>
          rcases Option.filter_eq_some_iff.mp found with ⟨found, matching⟩
          exact goOn_fits sound phaseFits (.refl store) (storedAsRegistered_of_find found matching)
  | relocking existing =>
      refine lockSampleClaim_fits sound phaseFits active ?_
      intro locks lease gains held
      exact ⟨StoredAsRegistered.grows fits ⟨[], by rw [gains.samples, List.append_nil]⟩, lease,
        held⟩
  | refencing existing =>
      simp only [advanceSampleStage]
      split
      · exact endSample_fails sound
      · next lease fenced =>
          exact goOn_fits sound phaseFits (.refl store)
            ⟨fenceSampleClaim_held fits.2 fenced, fits.1⟩

theorem raiseSample_fits {effective : Bool} (sound : store.Sound inspect)
    (fits : StageFits platform store transaction verified stage) :
    MoveFits platform store (.running transaction verified stage)
      (raiseSample choice effective transaction verified stage store) := by
  cases stage with
  | registering lease sample =>
      rcases fits with ⟨registers, held, fresh, within, id, rfl⟩
      simp only [raiseSample]
      split
      · exact endSample_fails sound
      · cases effective with
        | false => exact endSample_fails sound
        | true =>
            exact endSample_registers sound registers held fresh within fun _ answered =>
              nomatch answered
  | _ => exact endSample_fails sound

theorem advanceSample_fits {phase : SamplePhase inspect} (sound : store.Sound inspect)
    (fits : SampleFits platform store phase) :
    MoveFits platform store phase (advanceSample platform choice phase store) := by
  cases phase with
  | answered token payload answer =>
      exact ⟨sound, fun _ moved => (nomatch moved), (Gains.refl store).evolves token, rfl, fits⟩
  | running transaction verified stage =>
      simp only [advanceSample]
      split
      · refine ⟨sound, ?_, (Gains.refl store).evolves _, rfl, fits⟩
        intro next moved
        rcases Option.some.inj moved with rfl
        exact ⟨trivial, rfl⟩
      · next active =>
          rw [not_not] at active
          split
          · exact advanceSampleStage_fits sound (fits active) active
          · exact raiseSample_fits sound (fits active)

end

end RvcOrchestrator.Manager

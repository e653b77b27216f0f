import RvcOrchestrator.Manager.Assignment.Protocol

/-! # Coherence of the four assignment tables

Workers, Jobs, attempts and leases each record a part of who works on what.
`Coherent` says that the four records tell one story, `Numbered` that a Job's
attempts are counted without gaps, and `Settled` what each stored status
excludes. All three are preserved by every step of the protocol.
-/

namespace RvcOrchestrator.Manager.Assignment

open RvcOrchestrator.Foundation RvcOrchestrator.Contracts

/-! ## The invariants -/

structure Coherent (state : State) : Prop where
  leaseAttempt : ∀ {leaseId lease}, state.leases.find? leaseId = some lease →
    ∃ attempt, state.attempts.find? lease.attemptId = some attempt ∧
      attempt.jobId = lease.jobId ∧ attempt.workerId = lease.workerId ∧
      (lease.Open ↔ attempt.finishedAt = none)
  leaseUnique : ∀ {left right leftLease rightLease},
    state.leases.find? left = some leftLease →
    state.leases.find? right = some rightLease →
    leftLease.attemptId = rightLease.attemptId → left = right
  openWorker : ∀ {leaseId lease}, state.leases.find? leaseId = some lease → lease.Open →
    state.workers.find? lease.workerId = some (some lease.jobId)
  openJob : ∀ {leaseId lease}, state.leases.find? leaseId = some lease → lease.Open →
    ∃ job, state.jobs.find? lease.jobId = some job ∧ job.workerId = some lease.workerId ∧
      job.currentAttemptId = some lease.attemptId ∧ job.status.Leased
  boundWorker : ∀ {worker job}, state.workers.find? worker = some (some job) →
    ∃ leaseId lease, state.leases.find? leaseId = some lease ∧ lease.Open ∧
      lease.workerId = worker ∧ lease.jobId = job
  leasedJob : ∀ {jobId job}, state.jobs.find? jobId = some job → job.status.Leased →
    ∃ leaseId lease, state.leases.find? leaseId = some lease ∧ lease.Open ∧
      lease.jobId = jobId
  currentAttempt : ∀ {jobId job attemptId}, state.jobs.find? jobId = some job →
    job.currentAttemptId = some attemptId →
    ∃ attempt, state.attempts.find? attemptId = some attempt ∧
      attempt.jobId = jobId ∧ attempt.status = job.status

structure Numbered (state : State) : Prop where
  bounded : ∀ {attemptId attempt}, state.attempts.find? attemptId = some attempt →
    ∃ job, state.jobs.find? attempt.jobId = some job ∧
      1 ≤ attempt.attemptNumber ∧ attempt.attemptNumber ≤ job.attemptCount
  unique : ∀ {left right leftAttempt rightAttempt},
    state.attempts.find? left = some leftAttempt →
    state.attempts.find? right = some rightAttempt →
    leftAttempt.jobId = rightAttempt.jobId →
    leftAttempt.attemptNumber = rightAttempt.attemptNumber → left = right
  used : ∀ {jobId job number}, state.jobs.find? jobId = some job →
    1 ≤ number → number ≤ job.attemptCount →
    ∃ attemptId attempt, state.attempts.find? attemptId = some attempt ∧
      attempt.jobId = jobId ∧ attempt.attemptNumber = number

structure Settled (state : State) : Prop where
  attemptOver : ∀ {attemptId attempt}, state.attempts.find? attemptId = some attempt →
    (attempt.finishedAt = none ↔ ¬attempt.status.Terminal)
  unfinishedUnsealed : ∀ {attemptId attempt},
    state.attempts.find? attemptId = some attempt →
    attempt.finishedAt = none → attempt.watermarks = none
  queuedJob : ∀ {jobId job}, state.jobs.find? jobId = some job → job.status = .queued →
    job.workerId = none ∧ job.currentAttemptId = none ∧ job.cancelRequestedAt = none
  failedJob : ∀ {jobId job}, state.jobs.find? jobId = some job → job.status = .failed →
    job.cancelRequestedAt = none
  neverRetrying : ∀ {jobId job}, state.jobs.find? jobId = some job →
    job.status ≠ .retrying
  activeOpen : ∀ {leaseId lease}, state.leases.find? leaseId = some lease →
    (lease.active = true ↔ lease.releasedAt = none)

/-! ## Consequences -/

namespace Coherent

variable {state : State} (coherent : Coherent state)
include coherent

/-- One Job, one open lease. -/
theorem open_lease_unique {left right : LeaseId} {leftLease rightLease : LeaseState}
    (leftFound : state.leases.find? left = some leftLease) (leftOpen : leftLease.Open)
    (rightFound : state.leases.find? right = some rightLease) (rightOpen : rightLease.Open)
    (sameJob : leftLease.jobId = rightLease.jobId) : left = right := by
  obtain ⟨job, jobFound, -, leftCurrent, -⟩ := coherent.openJob leftFound leftOpen
  obtain ⟨other, otherFound, -, rightCurrent, -⟩ := coherent.openJob rightFound rightOpen
  rw [← sameJob, jobFound] at otherFound
  injection otherFound with equal
  subst equal
  rw [leftCurrent] at rightCurrent
  injection rightCurrent with sameAttempt
  exact coherent.leaseUnique leftFound rightFound sameAttempt

/-- One Worker, one open lease. -/
theorem worker_lease_unique {left right : LeaseId} {leftLease rightLease : LeaseState}
    (leftFound : state.leases.find? left = some leftLease) (leftOpen : leftLease.Open)
    (rightFound : state.leases.find? right = some rightLease) (rightOpen : rightLease.Open)
    (sameWorker : leftLease.workerId = rightLease.workerId) : left = right := by
  have leftBound := coherent.openWorker leftFound leftOpen
  have rightBound := coherent.openWorker rightFound rightOpen
  rw [← sameWorker, leftBound] at rightBound
  injection rightBound with rightBound
  injection rightBound with sameJob
  exact coherent.open_lease_unique leftFound leftOpen rightFound rightOpen sameJob

/-- The lease of an unfinished current attempt is open, and its attempt has
the status of its Job. -/
theorem binding_of_unfinished {leaseId : LeaseId} {lease : LeaseState} {job : JobState}
    {attempt : AttemptState} (leaseFound : state.leases.find? leaseId = some lease)
    (jobFound : state.jobs.find? lease.jobId = some job)
    (attemptFound : state.attempts.find? lease.attemptId = some attempt)
    (unfinished : attempt.finishedAt = none) :
    Binding state leaseId lease job attempt ∧ attempt.status = job.status := by
  obtain ⟨found, sameAttempt, -, -, openIff⟩ := coherent.leaseAttempt leaseFound
  rw [attemptFound] at sameAttempt
  injection sameAttempt with equal
  subst equal
  have leaseOpen := openIff.mpr unfinished
  obtain ⟨held, heldFound, -, current, leased⟩ := coherent.openJob leaseFound leaseOpen
  rw [jobFound] at heldFound
  injection heldFound with equal
  subst equal
  obtain ⟨running, runningFound, -, sameStatus⟩ := coherent.currentAttempt jobFound current
  rw [attemptFound] at runningFound
  injection runningFound with equal
  subst equal
  exact ⟨⟨leaseFound, leaseOpen, jobFound, attemptFound, current, leased, unfinished⟩,
    sameStatus⟩

end Coherent

/-- The attempt of a lease is an attempt of the lease's Job. -/
theorem Binding.attempt_job {state : State} {leaseId : LeaseId} {lease : LeaseState}
    {job : JobState} {attempt : AttemptState} (binding : Binding state leaseId lease job attempt)
    (coherent : Coherent state) :
    attempt.jobId = lease.jobId ∧ attempt.workerId = lease.workerId := by
  obtain ⟨found, sameAttempt, job, worker, -⟩ := coherent.leaseAttempt binding.leaseFound
  rw [binding.attemptFound] at sameAttempt
  injection sameAttempt with equal
  exact equal ▸ ⟨job, worker⟩

/-- An attempt of another Job is another attempt. -/
theorem Binding.attempt_ne {state : State} {leaseId : LeaseId} {lease : LeaseState}
    {job : JobState} {attempt : AttemptState} (binding : Binding state leaseId lease job attempt)
    (coherent : Coherent state) {attemptId : AttemptId} {other : AttemptState}
    (otherFound : state.attempts.find? attemptId = some other)
    (otherJob : other.jobId ≠ lease.jobId) : attemptId ≠ lease.attemptId := by
  rintro rfl
  rw [binding.attemptFound] at otherFound
  injection otherFound with same
  exact otherJob (same ▸ (binding.attempt_job coherent).1)

/-! ## One step -/

namespace Coherent

variable {state : State} (coherent : Coherent state)
include coherent

theorem register {worker : WorkerId} (fresh : state.workers.find? worker = none) :
    Coherent { state with workers := state.workers.insert worker none fresh } where
  leaseAttempt := coherent.leaseAttempt
  leaseUnique := coherent.leaseUnique
  openWorker found leaseOpen :=
    Table.find?_insert_of_some _ _ _ fresh (coherent.openWorker found leaseOpen)
  openJob := coherent.openJob
  boundWorker bound := by
    rcases (Table.find?_insert_eq_some_iff _ _ _ fresh).mp bound with ⟨-, impossible⟩ | bound
    · cases impossible
    · exact coherent.boundWorker bound
  leasedJob := coherent.leasedJob
  currentAttempt := coherent.currentAttempt

theorem create {job : JobId} {events : List JobStatusEvent}
    (fresh : state.jobs.find? job = none) :
    Coherent { state with
      jobs := state.jobs.insert job ⟨.queued, none, none, 0, none⟩ fresh
      events := events } where
  leaseAttempt := coherent.leaseAttempt
  leaseUnique := coherent.leaseUnique
  openWorker := coherent.openWorker
  openJob found leaseOpen := by
    obtain ⟨held, heldFound, rest⟩ := coherent.openJob found leaseOpen
    exact ⟨held, Table.find?_insert_of_some _ _ _ fresh heldFound, rest⟩
  boundWorker := coherent.boundWorker
  leasedJob found leased := by
    rcases (Table.find?_insert_eq_some_iff _ _ _ fresh).mp found with ⟨-, rfl⟩ | found
    · exact absurd rfl leased.1
    · exact coherent.leasedJob found leased
  currentAttempt found current := by
    rcases (Table.find?_insert_eq_some_iff _ _ _ fresh).mp found with ⟨-, rfl⟩ | found
    · cases current
    · exact coherent.currentAttempt found current

/-- A new expiry is invisible to every field by which a lease is compared. -/
theorem extend (leaseId : LeaseId) (expiry : Time) :
    Coherent { state with
      leases := state.leases.modify leaseId fun row => { row with expiresAt := expiry } } := by
  let changed (other : LeaseId) (lease : LeaseState) : LeaseState :=
    if other = leaseId then { lease with expiresAt := expiry } else lease
  have sameFields : ∀ other lease, (changed other lease).jobId = lease.jobId ∧
      (changed other lease).attemptId = lease.attemptId ∧
      (changed other lease).workerId = lease.workerId ∧
      ((changed other lease).Open ↔ lease.Open) := by
    intro other lease
    by_cases equal : other = leaseId <;> simp [changed, equal]
  constructor
  case leaseAttempt =>
    intro other lease found
    obtain ⟨old, oldFound, rfl⟩ := (Table.find?_modify_eq_some_iff ..).mp found
    obtain ⟨job, attempt, worker, openIff⟩ := sameFields other old
    rw [attempt, job, worker, openIff]
    exact coherent.leaseAttempt oldFound
  case leaseUnique =>
    intro left right leftLease rightLease leftFound rightFound sameAttempt
    obtain ⟨oldLeft, oldLeftFound, rfl⟩ := (Table.find?_modify_eq_some_iff ..).mp leftFound
    obtain ⟨oldRight, oldRightFound, rfl⟩ := (Table.find?_modify_eq_some_iff ..).mp rightFound
    rw [(sameFields left oldLeft).2.1, (sameFields right oldRight).2.1] at sameAttempt
    exact coherent.leaseUnique oldLeftFound oldRightFound sameAttempt
  case openWorker =>
    intro other lease found leaseOpen
    obtain ⟨old, oldFound, rfl⟩ := (Table.find?_modify_eq_some_iff ..).mp found
    obtain ⟨job, -, worker, openIff⟩ := sameFields other old
    rw [job, worker]
    exact coherent.openWorker oldFound (openIff.mp leaseOpen)
  case openJob =>
    intro other lease found leaseOpen
    obtain ⟨old, oldFound, rfl⟩ := (Table.find?_modify_eq_some_iff ..).mp found
    obtain ⟨job, attempt, worker, openIff⟩ := sameFields other old
    rw [job, attempt, worker]
    exact coherent.openJob oldFound (openIff.mp leaseOpen)
  case boundWorker =>
    intro worker job bound
    obtain ⟨other, lease, found, leaseOpen, ofWorker, ofJob⟩ := coherent.boundWorker bound
    obtain ⟨sameJob, -, sameWorker, openIff⟩ := sameFields other lease
    exact ⟨other, changed other lease, Table.find?_modify_of_some _ _ _ found,
      openIff.mpr leaseOpen, sameWorker.trans ofWorker, sameJob.trans ofJob⟩
  case leasedJob =>
    intro jobId job jobFound leased
    obtain ⟨other, lease, found, leaseOpen, ofJob⟩ := coherent.leasedJob jobFound leased
    obtain ⟨sameJob, -, -, openIff⟩ := sameFields other lease
    exact ⟨other, changed other lease, Table.find?_modify_of_some _ _ _ found,
      openIff.mpr leaseOpen, sameJob.trans ofJob⟩
  case currentAttempt => exact coherent.currentAttempt

theorem assign {workerId : WorkerId} {jobId : JobId} {attemptId : AttemptId}
    {leaseId : LeaseId} {now expiry : Time} {job : JobState}
    (idle : state.workers.find? workerId = some none)
    (found : state.jobs.find? jobId = some job) (queued : job.status = .queued)
    (freshAttempt : state.attempts.find? attemptId = none)
    (freshLease : state.leases.find? leaseId = none) :
    Coherent (state.assign workerId jobId attemptId leaseId now expiry (job.attemptCount + 1)
      freshAttempt freshLease) := by
  -- Neither the Worker nor the Job has an open lease yet.
  have otherWorker : ∀ {other lease}, state.leases.find? other = some lease → lease.Open →
      lease.workerId ≠ workerId := by
    intro other lease leaseFound leaseOpen equal
    have bound := coherent.openWorker leaseFound leaseOpen
    rw [equal, idle] at bound
    cases bound
  have otherJob : ∀ {other lease}, state.leases.find? other = some lease → lease.Open →
      lease.jobId ≠ jobId := by
    intro other lease leaseFound leaseOpen equal
    obtain ⟨held, heldFound, -, -, leased⟩ := coherent.openJob leaseFound leaseOpen
    rw [equal, found] at heldFound
    injection heldFound with heldEqual
    exact leased.1 (heldEqual ▸ queued)
  have knownAttempt : ∀ {other lease}, state.leases.find? other = some lease →
      lease.attemptId ≠ attemptId := by
    intro other lease leaseFound equal
    obtain ⟨attempt, attemptFound, -⟩ := coherent.leaseAttempt leaseFound
    rw [equal, freshAttempt] at attemptFound
    cases attemptFound
  constructor
  case leaseAttempt =>
    intro other lease leaseFound
    rcases (Table.find?_insert_eq_some_iff _ _ _ freshLease).mp leaseFound with
      ⟨-, rfl⟩ | leaseFound
    · exact ⟨_, Table.find?_insert_self _ _ _ freshAttempt, rfl, rfl, by simp [LeaseState.Open]⟩
    · obtain ⟨attempt, attemptFound, rest⟩ := coherent.leaseAttempt leaseFound
      exact ⟨attempt, Table.find?_insert_of_some _ _ _ freshAttempt attemptFound, rest⟩
  case leaseUnique =>
    intro left right leftLease rightLease leftFound rightFound sameAttempt
    rcases (Table.find?_insert_eq_some_iff _ _ _ freshLease).mp leftFound with
        ⟨leftNew, rfl⟩ | leftOld <;>
      rcases (Table.find?_insert_eq_some_iff _ _ _ freshLease).mp rightFound with
        ⟨rightNew, rfl⟩ | rightOld
    · exact leftNew.trans rightNew.symm
    · exact absurd sameAttempt.symm (knownAttempt rightOld)
    · exact absurd sameAttempt (knownAttempt leftOld)
    · exact coherent.leaseUnique leftOld rightOld sameAttempt
  case openWorker =>
    intro other lease leaseFound leaseOpen
    rcases (Table.find?_insert_eq_some_iff _ _ _ freshLease).mp leaseFound with
      ⟨-, rfl⟩ | leaseFound
    · simp [State.assign, idle]
    · rw [State.assign, Table.find?_modify_of_ne _ _ _ (otherWorker leaseFound leaseOpen)]
      exact coherent.openWorker leaseFound leaseOpen
  case openJob =>
    intro other lease leaseFound leaseOpen
    rcases (Table.find?_insert_eq_some_iff _ _ _ freshLease).mp leaseFound with
      ⟨-, rfl⟩ | leaseFound
    · exact ⟨_, Table.find?_modify_of_some _ _ _ found, by simp, by simp, by simp; decide⟩
    · rw [State.assign, Table.find?_modify_of_ne _ _ _ (otherJob leaseFound leaseOpen)]
      exact coherent.openJob leaseFound leaseOpen
  case boundWorker =>
    intro worker bound boundFound
    by_cases equal : worker = workerId
    · subst equal
      simp only [State.assign, Table.find?_modify_self, idle, Option.map_some,
        Option.some.injEq] at boundFound
      subst boundFound
      exact ⟨leaseId, _, Table.find?_insert_self _ _ _ freshLease, by simp [LeaseState.Open]⟩
    · rw [State.assign, Table.find?_modify_of_ne _ _ _ equal] at boundFound
      obtain ⟨other, lease, leaseFound, rest⟩ := coherent.boundWorker boundFound
      exact ⟨other, lease, Table.find?_insert_of_some _ _ _ freshLease leaseFound, rest⟩
  case leasedJob =>
    intro other held heldFound leased
    by_cases equal : other = jobId
    · subst equal
      exact ⟨leaseId, _, Table.find?_insert_self _ _ _ freshLease, by simp [LeaseState.Open]⟩
    · rw [State.assign, Table.find?_modify_of_ne _ _ _ equal] at heldFound
      obtain ⟨otherLease, lease, leaseFound, rest⟩ := coherent.leasedJob heldFound leased
      exact ⟨otherLease, lease, Table.find?_insert_of_some _ _ _ freshLease leaseFound, rest⟩
  case currentAttempt =>
    intro other held current heldFound currentFound
    by_cases equal : other = jobId
    · subst equal
      simp only [State.assign, Table.find?_modify_self, found, Option.map_some,
        Option.some.injEq] at heldFound
      subst heldFound
      simp only [Option.some.injEq] at currentFound
      subst currentFound
      exact ⟨_, Table.find?_insert_self _ _ _ freshAttempt, by simp⟩
    · rw [State.assign, Table.find?_modify_of_ne _ _ _ equal] at heldFound
      obtain ⟨attempt, attemptFound, rest⟩ := coherent.currentAttempt heldFound currentFound
      exact ⟨attempt, Table.find?_insert_of_some _ _ _ freshAttempt attemptFound, rest⟩

theorem advance {leaseId : LeaseId} {lease : LeaseState} {job : JobState}
    {attempt : AttemptState} {target : JobStatus} {occurredAt : Time}
    (binding : Binding state leaseId lease job attempt)
    (allowed : target ∈ allowedJobTransitions job.status) (running : ¬target.Terminal) :
    Coherent (state.advance lease job.status target occurredAt) := by
  have targetLeased : target.Leased :=
    (leased_or_terminal_of_allowed binding.leased allowed).resolve_right running
  have ofJob := (binding.attempt_job coherent).1
  constructor
  case leaseAttempt =>
    intro other otherLease found
    obtain ⟨held, heldFound, sameJob, sameWorker, openIff⟩ := coherent.leaseAttempt found
    refine ⟨_, Table.find?_modify_of_some _ _ _ heldFound, ?_⟩
    by_cases equal : otherLease.attemptId = lease.attemptId <;>
      simp [equal, sameJob, sameWorker, openIff]
  case leaseUnique => exact coherent.leaseUnique
  case openWorker => exact coherent.openWorker
  case openJob =>
    intro other otherLease found leaseOpen
    obtain ⟨held, heldFound, ofWorker, current, leased⟩ := coherent.openJob found leaseOpen
    refine ⟨_, Table.find?_modify_of_some _ _ _ heldFound, ?_⟩
    by_cases equal : otherLease.jobId = lease.jobId
    · rw [if_pos equal]
      exact ⟨ofWorker, current, targetLeased⟩
    · rw [if_neg equal]
      exact ⟨ofWorker, current, leased⟩
  case boundWorker => exact coherent.boundWorker
  case leasedJob =>
    intro jobId held heldFound leased
    by_cases equal : jobId = lease.jobId
    · exact ⟨leaseId, lease, binding.leaseFound, binding.leaseOpen, equal.symm⟩
    · rw [State.advance, Table.find?_modify_of_ne _ _ _ equal] at heldFound
      exact coherent.leasedJob heldFound leased
  case currentAttempt =>
    intro jobId held attemptId heldFound current
    by_cases equal : jobId = lease.jobId
    · subst equal
      simp only [State.advance, Table.find?_modify_self, binding.jobFound, Option.map_some,
        Option.some.injEq] at heldFound
      subst heldFound
      rw [binding.current] at current
      injection current with current
      subst current
      exact ⟨_, Table.find?_modify_of_some _ _ _ binding.attemptFound, by simp [ofJob]⟩
    · rw [State.advance, Table.find?_modify_of_ne _ _ _ equal] at heldFound
      obtain ⟨other, otherFound, otherJob, sameStatus⟩ :=
        coherent.currentAttempt heldFound current
      have different := binding.attempt_ne coherent otherFound (otherJob ▸ equal)
      exact ⟨other, by rw [State.advance, Table.find?_modify_of_ne _ _ _ different, otherFound],
        otherJob, sameStatus⟩

theorem finish {leaseId : LeaseId} {lease : LeaseState} {job : JobState}
    {attempt : AttemptState} {target : JobStatus} {closer : Closer} {now occurredAt : Time}
    {watermarks : Option (Nat × Nat)} (binding : Binding state leaseId lease job attempt)
    (terminal : target.Terminal) :
    Coherent (state.finish leaseId lease job.status target closer now occurredAt watermarks) := by
  have bound := coherent.openWorker binding.leaseFound binding.leaseOpen
  have ofJob := (binding.attempt_job coherent).1
  -- A lease is open afterwards exactly if it was open and is not the closed one.
  have stillOpen : ∀ {other otherLease}, (state.finish leaseId lease job.status target closer
        now occurredAt watermarks).leases.find? other = some otherLease → otherLease.Open →
      other ≠ leaseId ∧ state.leases.find? other = some otherLease := by
    intro other otherLease found leaseOpen
    obtain ⟨old, oldFound, changed⟩ := (Table.find?_modify_eq_some_iff ..).mp found
    by_cases equal : other = leaseId
    · rw [if_pos equal] at changed
      subst changed
      exact absurd leaseOpen.1 (by simp)
    · rw [if_neg equal] at changed
      exact ⟨equal, changed ▸ oldFound⟩
  have keepsOpen : ∀ {other otherLease}, state.leases.find? other = some otherLease →
      other ≠ leaseId → (state.finish leaseId lease job.status target closer now occurredAt
        watermarks).leases.find? other = some otherLease := by
    intro other otherLease found different
    rw [State.finish, Table.find?_modify_of_ne _ _ _ different, found]
  constructor
  case leaseAttempt =>
    intro other otherLease found
    obtain ⟨old, oldFound, changed⟩ := (Table.find?_modify_eq_some_iff ..).mp found
    obtain ⟨held, heldFound, sameJob, sameWorker, openIff⟩ := coherent.leaseAttempt oldFound
    by_cases equal : other = leaseId
    · rw [if_pos equal] at changed
      subst equal changed
      rw [binding.leaseFound] at oldFound
      injection oldFound with oldEqual
      subst oldEqual
      exact ⟨_, Table.find?_modify_of_some _ _ _ heldFound,
        by simp [sameJob, sameWorker, LeaseState.Open]⟩
    · rw [if_neg equal] at changed
      subst changed
      have different : otherLease.attemptId ≠ lease.attemptId := fun sameAttempt =>
        equal (coherent.leaseUnique oldFound binding.leaseFound sameAttempt)
      exact ⟨held, by rw [State.finish, Table.find?_modify_of_ne _ _ _ different, heldFound],
        sameJob, sameWorker, openIff⟩
  case leaseUnique =>
    intro left right leftLease rightLease leftFound rightFound sameAttempt
    obtain ⟨oldLeft, oldLeftFound, rfl⟩ := (Table.find?_modify_eq_some_iff ..).mp leftFound
    obtain ⟨oldRight, oldRightFound, rfl⟩ := (Table.find?_modify_eq_some_iff ..).mp rightFound
    apply coherent.leaseUnique oldLeftFound oldRightFound
    by_cases leftEqual : left = leaseId <;> by_cases rightEqual : right = leaseId <;>
      simpa [leftEqual, rightEqual] using sameAttempt
  case openWorker =>
    intro other otherLease found leaseOpen
    obtain ⟨different, oldFound⟩ := stillOpen found leaseOpen
    have otherWorker : otherLease.workerId ≠ lease.workerId := fun sameWorker =>
      different (coherent.worker_lease_unique oldFound leaseOpen binding.leaseFound
        binding.leaseOpen sameWorker)
    rw [State.finish, Table.find?_modify_of_ne _ _ _ otherWorker]
    exact coherent.openWorker oldFound leaseOpen
  case openJob =>
    intro other otherLease found leaseOpen
    obtain ⟨different, oldFound⟩ := stillOpen found leaseOpen
    have otherJob : otherLease.jobId ≠ lease.jobId := fun sameJob =>
      different (coherent.open_lease_unique oldFound leaseOpen binding.leaseFound
        binding.leaseOpen sameJob)
    rw [State.finish, Table.find?_modify_of_ne _ _ _ otherJob]
    exact coherent.openJob oldFound leaseOpen
  case boundWorker =>
    intro worker boundJob boundFound
    by_cases equal : worker = lease.workerId
    · subst equal
      simp [State.finish, bound] at boundFound
    · rw [State.finish, Table.find?_modify_of_ne _ _ _ equal] at boundFound
      obtain ⟨other, otherLease, found, leaseOpen, ofWorker, rest⟩ :=
        coherent.boundWorker boundFound
      have different : other ≠ leaseId := by
        rintro rfl
        rw [binding.leaseFound] at found
        injection found with same
        exact equal (ofWorker.symm.trans (congrArg LeaseState.workerId same).symm)
      exact ⟨other, otherLease, keepsOpen found different, leaseOpen, ofWorker, rest⟩
  case leasedJob =>
    intro jobId held heldFound leased
    by_cases equal : jobId = lease.jobId
    · subst equal
      simp only [State.finish, Table.find?_modify_self, binding.jobFound, Option.map_some,
        Option.some.injEq] at heldFound
      subst heldFound
      exact absurd terminal leased.2.2
    · rw [State.finish, Table.find?_modify_of_ne _ _ _ equal] at heldFound
      obtain ⟨other, otherLease, found, leaseOpen, otherJob⟩ :=
        coherent.leasedJob heldFound leased
      have different : other ≠ leaseId := by
        rintro rfl
        rw [binding.leaseFound] at found
        injection found with same
        exact equal (otherJob.symm.trans (congrArg LeaseState.jobId same).symm)
      exact ⟨other, otherLease, keepsOpen found different, leaseOpen, otherJob⟩
  case currentAttempt =>
    intro jobId held attemptId heldFound current
    by_cases equal : jobId = lease.jobId
    · subst equal
      simp only [State.finish, Table.find?_modify_self, binding.jobFound, Option.map_some,
        Option.some.injEq] at heldFound
      subst heldFound
      rw [binding.current] at current
      injection current with current
      subst current
      exact ⟨_, Table.find?_modify_of_some _ _ _ binding.attemptFound, by simp [ofJob]⟩
    · rw [State.finish, Table.find?_modify_of_ne _ _ _ equal] at heldFound
      obtain ⟨other, otherFound, otherJob, sameStatus⟩ :=
        coherent.currentAttempt heldFound current
      have different := binding.attempt_ne coherent otherFound (otherJob ▸ equal)
      exact ⟨other, by rw [State.finish, Table.find?_modify_of_ne _ _ _ different, otherFound],
        otherJob, sameStatus⟩

/-- A Job that no Worker holds may change, as long as it stays unheld and its
current attempt keeps its status or is dropped. -/
theorem changeUnheld {jobId : JobId} {job : JobState} {change : JobState → JobState}
    {events : List JobStatusEvent} (found : state.jobs.find? jobId = some job)
    (unheld : ¬job.status.Leased) (staysUnheld : ¬(change job).status.Leased)
    (dropped : (change job).currentAttemptId = none) :
    Coherent { state with jobs := state.jobs.modify jobId change, events := events } where
  leaseAttempt := coherent.leaseAttempt
  leaseUnique := coherent.leaseUnique
  openWorker := coherent.openWorker
  openJob {leaseId lease} leaseFound leaseOpen := by
    obtain ⟨held, heldFound, ofWorker, current, leased⟩ :=
      coherent.openJob leaseFound leaseOpen
    have different : lease.jobId ≠ jobId := by
      intro equal
      rw [equal, found] at heldFound
      injection heldFound with same
      exact unheld (same ▸ leased)
    exact ⟨held, by rw [Table.find?_modify_of_ne _ _ _ different, heldFound], ofWorker,
      current, leased⟩
  boundWorker := coherent.boundWorker
  leasedJob heldFound leased := by
    obtain ⟨old, oldFound, rfl⟩ := (Table.find?_modify_eq_some_iff ..).mp heldFound
    split at leased
    · next equal =>
        rw [equal, found] at oldFound
        injection oldFound with same
        exact absurd leased (same ▸ staysUnheld)
    · exact coherent.leasedJob oldFound leased
  currentAttempt heldFound current := by
    obtain ⟨old, oldFound, rfl⟩ := (Table.find?_modify_eq_some_iff ..).mp heldFound
    split at current
    · next equal =>
        rw [equal, found] at oldFound
        injection oldFound with same
        rw [← same, dropped] at current
        cases current
    · next different =>
        rw [if_neg different]
        exact coherent.currentAttempt oldFound current

theorem requestCancel (jobId : JobId) (now : Time) :
    Coherent { state with
      jobs := state.jobs.modify jobId fun row => { row with cancelRequestedAt := some now } } := by
  let changed (other : JobId) (job : JobState) : JobState :=
    if other = jobId then { job with cancelRequestedAt := some now } else job
  have sameFields : ∀ other job, (changed other job).workerId = job.workerId ∧
      (changed other job).currentAttemptId = job.currentAttemptId ∧
      (changed other job).status = job.status := by
    intro other job
    by_cases equal : other = jobId <;> simp [changed, equal]
  constructor
  case leaseAttempt => exact coherent.leaseAttempt
  case leaseUnique => exact coherent.leaseUnique
  case openWorker => exact coherent.openWorker
  case openJob =>
    intro leaseId lease leaseFound leaseOpen
    obtain ⟨held, heldFound, rest⟩ := coherent.openJob leaseFound leaseOpen
    obtain ⟨worker, current, status⟩ := sameFields lease.jobId held
    refine ⟨changed lease.jobId held, Table.find?_modify_of_some _ _ _ heldFound, ?_⟩
    rw [worker, current, status]
    exact rest
  case boundWorker => exact coherent.boundWorker
  case leasedJob =>
    intro other held heldFound leased
    obtain ⟨old, oldFound, rfl⟩ := (Table.find?_modify_eq_some_iff ..).mp heldFound
    exact coherent.leasedJob oldFound ((sameFields other old).2.2 ▸ leased)
  case currentAttempt =>
    intro other held attemptId heldFound current
    obtain ⟨old, oldFound, rfl⟩ := (Table.find?_modify_eq_some_iff ..).mp heldFound
    obtain ⟨-, sameCurrent, sameStatus⟩ := sameFields other old
    obtain ⟨attempt, attemptFound, ofJob, status⟩ :=
      coherent.currentAttempt oldFound (sameCurrent ▸ current)
    exact ⟨attempt, attemptFound, ofJob, status.trans sameStatus.symm⟩

end Coherent

namespace Numbered

variable {state : State} (numbered : Numbered state)
include numbered

/-- Numbering only reads the counters of the Jobs and the numbers of the
attempts. -/
theorem of_same {next : State}
    (sameCounts : ∀ jobId, (next.jobs.find? jobId).map JobState.attemptCount =
      (state.jobs.find? jobId).map JobState.attemptCount)
    (sameNumbers : ∀ attemptId,
      (next.attempts.find? attemptId).map (fun row => (row.jobId, row.attemptNumber)) =
        (state.attempts.find? attemptId).map fun row => (row.jobId, row.attemptNumber)) :
    Numbered next := by
  have oldJob : ∀ {jobId job}, next.jobs.find? jobId = some job →
      ∃ old, state.jobs.find? jobId = some old ∧ old.attemptCount = job.attemptCount := by
    intro jobId job found
    have same := sameCounts jobId
    rw [found, Option.map_some, eq_comm, Option.map_eq_some_iff] at same
    exact same
  have newJob : ∀ {jobId job}, state.jobs.find? jobId = some job →
      ∃ new, next.jobs.find? jobId = some new ∧ new.attemptCount = job.attemptCount := by
    intro jobId job found
    have same := sameCounts jobId
    rw [found, Option.map_some, Option.map_eq_some_iff] at same
    exact same
  have oldAttempt : ∀ {attemptId attempt}, next.attempts.find? attemptId = some attempt →
      ∃ old, state.attempts.find? attemptId = some old ∧ old.jobId = attempt.jobId ∧
        old.attemptNumber = attempt.attemptNumber := by
    intro attemptId attempt found
    have same := sameNumbers attemptId
    rw [found, Option.map_some, eq_comm, Option.map_eq_some_iff] at same
    simpa only [Prod.mk.injEq] using same
  constructor
  case bounded =>
    intro attemptId attempt found
    obtain ⟨old, oldFound, sameJob, sameNumber⟩ := oldAttempt found
    obtain ⟨job, jobFound, positive, atMost⟩ := numbered.bounded oldFound
    obtain ⟨new, newFound, sameCount⟩ := newJob jobFound
    exact ⟨new, sameJob ▸ newFound, sameNumber ▸ positive, by omega⟩
  case unique =>
    intro left right leftAttempt rightAttempt leftFound rightFound sameJob sameNumber
    obtain ⟨oldLeft, oldLeftFound, leftJob, leftNumber⟩ := oldAttempt leftFound
    obtain ⟨oldRight, oldRightFound, rightJob, rightNumber⟩ := oldAttempt rightFound
    exact numbered.unique oldLeftFound oldRightFound
      (leftJob.trans (sameJob.trans rightJob.symm))
      (leftNumber.trans (sameNumber.trans rightNumber.symm))
  case used =>
    intro jobId job number found positive atMost
    obtain ⟨old, oldFound, sameCount⟩ := oldJob found
    obtain ⟨attemptId, attempt, attemptFound, ofJob, ofNumber⟩ :=
      numbered.used oldFound positive (by omega)
    have same := sameNumbers attemptId
    rw [attemptFound, Option.map_some, Option.map_eq_some_iff] at same
    obtain ⟨new, newFound, newSame⟩ := same
    simp only [Prod.mk.injEq] at newSame
    exact ⟨attemptId, new, newFound, newSame.1.trans ofJob, newSame.2.trans ofNumber⟩

theorem create {job : JobId} {events : List JobStatusEvent}
    (fresh : state.jobs.find? job = none) :
    Numbered { state with
      jobs := state.jobs.insert job ⟨.queued, none, none, 0, none⟩ fresh
      events := events } where
  bounded found := by
    obtain ⟨held, heldFound, rest⟩ := numbered.bounded found
    exact ⟨held, Table.find?_insert_of_some _ _ _ fresh heldFound, rest⟩
  unique := numbered.unique
  used found positive atMost := by
    rcases (Table.find?_insert_eq_some_iff _ _ _ fresh).mp found with ⟨-, rfl⟩ | found
    · exact absurd atMost (by simp only; omega)
    · exact numbered.used found positive atMost

theorem assign {workerId : WorkerId} {jobId : JobId} {attemptId : AttemptId}
    {leaseId : LeaseId} {now expiry : Time} {job : JobState}
    (found : state.jobs.find? jobId = some job)
    (freshAttempt : state.attempts.find? attemptId = none)
    (freshLease : state.leases.find? leaseId = none) :
    Numbered (state.assign workerId jobId attemptId leaseId now expiry (job.attemptCount + 1)
      freshAttempt freshLease) := by
  -- Every earlier attempt of the Job has a smaller number than the new one.
  have smaller : ∀ {other attempt}, state.attempts.find? other = some attempt →
      attempt.jobId = jobId → attempt.attemptNumber ≤ job.attemptCount := by
    intro other attempt attemptFound ofJob
    obtain ⟨held, heldFound, -, atMost⟩ := numbered.bounded attemptFound
    rw [ofJob, found] at heldFound
    injection heldFound with same
    exact same ▸ atMost
  constructor
  case bounded =>
    intro other attempt attemptFound
    rcases (Table.find?_insert_eq_some_iff _ _ _ freshAttempt).mp attemptFound with
      ⟨-, rfl⟩ | attemptFound
    · exact ⟨_, Table.find?_modify_of_some _ _ _ found, by simp⟩
    · obtain ⟨held, heldFound, positive, atMost⟩ := numbered.bounded attemptFound
      refine ⟨_, Table.find?_modify_of_some _ _ _ heldFound, positive, ?_⟩
      split
      · next equal => exact Nat.le_succ_of_le (smaller attemptFound equal)
      · exact atMost
  case unique =>
    intro left right leftAttempt rightAttempt leftFound rightFound sameJob sameNumber
    rcases (Table.find?_insert_eq_some_iff _ _ _ freshAttempt).mp leftFound with
        ⟨leftNew, rfl⟩ | leftOld <;>
      rcases (Table.find?_insert_eq_some_iff _ _ _ freshAttempt).mp rightFound with
        ⟨rightNew, rfl⟩ | rightOld
    · exact leftNew.trans rightNew.symm
    · have atMost := smaller rightOld sameJob.symm
      simp only at sameNumber
      omega
    · have atMost := smaller leftOld sameJob
      simp only at sameNumber
      omega
    · exact numbered.unique leftOld rightOld sameJob sameNumber
  case used =>
    intro other held number heldFound positive atMost
    by_cases equal : other = jobId
    · subst equal
      simp only [State.assign, Table.find?_modify_self, found, Option.map_some,
        Option.some.injEq] at heldFound
      subst heldFound
      rcases Nat.lt_or_eq_of_le atMost with less | latest
      · obtain ⟨earlier, attempt, attemptFound, rest⟩ :=
          numbered.used found positive (Nat.lt_succ_iff.mp less)
        exact ⟨earlier, attempt, Table.find?_insert_of_some _ _ _ freshAttempt attemptFound,
          rest⟩
      · exact ⟨attemptId, _, Table.find?_insert_self _ _ _ freshAttempt, rfl, latest.symm⟩
    · rw [State.assign, Table.find?_modify_of_ne _ _ _ equal] at heldFound
      obtain ⟨earlier, attempt, attemptFound, rest⟩ := numbered.used heldFound positive atMost
      exact ⟨earlier, attempt, Table.find?_insert_of_some _ _ _ freshAttempt attemptFound,
        rest⟩

theorem step {action : Action} {next : State} (taken : Step state action next) :
    Numbered next := by
  cases taken with
  | register => exact numbered.of_same (fun _ => rfl) fun _ => rfl
  | create fresh => exact numbered.create fresh
  | extend => exact numbered.of_same (fun _ => rfl) fun _ => rfl
  | assign _ found _ freshAttempt freshLease =>
      exact numbered.assign found freshAttempt freshLease
  | advance | finish | requeue | discard | requestCancel =>
      apply numbered.of_same
      all_goals
        intro key
        try simp only [State.advance, State.finish, State.requeue, State.discard,
          Table.find?_modify]
        try split
        all_goals simp [Function.comp_def]

end Numbered

namespace Settled

variable {state : State} (settled : Settled state)
include settled

/-- The rows of the next state are old rows or rows that meet the invariant on
their own. -/
theorem of_rows {next : State}
    (attempts : ∀ {attemptId attempt}, next.attempts.find? attemptId = some attempt →
      state.attempts.find? attemptId = some attempt ∨
        (attempt.finishedAt = none ↔ ¬attempt.status.Terminal) ∧
        (attempt.finishedAt = none → attempt.watermarks = none))
    (jobs : ∀ {jobId job}, next.jobs.find? jobId = some job →
      state.jobs.find? jobId = some job ∨
        (job.status = .queued →
          job.workerId = none ∧ job.currentAttemptId = none ∧ job.cancelRequestedAt = none) ∧
        (job.status = .failed → job.cancelRequestedAt = none) ∧ job.status ≠ .retrying)
    (leases : ∀ {leaseId lease}, next.leases.find? leaseId = some lease →
      (∃ old, state.leases.find? leaseId = some old ∧ lease.active = old.active ∧
        lease.releasedAt = old.releasedAt) ∨ (lease.active = true ↔ lease.releasedAt = none)) :
    Settled next where
  attemptOver found := (attempts found).elim settled.attemptOver And.left
  unfinishedUnsealed found := (attempts found).elim settled.unfinishedUnsealed And.right
  queuedJob found := (jobs found).elim settled.queuedJob And.left
  failedJob found := (jobs found).elim settled.failedJob fun new => new.2.1
  neverRetrying found := (jobs found).elim settled.neverRetrying fun new => new.2.2
  activeOpen found := by
    rcases leases found with ⟨old, oldFound, sameActive, sameReleased⟩ | new
    · rw [sameActive, sameReleased]
      exact settled.activeOpen oldFound
    · exact new

/-- As `of_rows`, for a step that changes one Job and nothing else. -/
theorem of_job {jobId : JobId} {job : JobState} {change : JobState → JobState}
    {events : List JobStatusEvent} (found : state.jobs.find? jobId = some job)
    (queued : (change job).status = .queued → (change job).workerId = none ∧
      (change job).currentAttemptId = none ∧ (change job).cancelRequestedAt = none)
    (failed : (change job).status = .failed → (change job).cancelRequestedAt = none)
    (notRetrying : (change job).status ≠ .retrying) :
    Settled { state with jobs := state.jobs.modify jobId change, events := events } := by
  refine settled.of_rows (fun found => Or.inl found) ?_
    fun found => .inl ⟨_, found, rfl, rfl⟩
  intro other row rowFound
  rcases (Table.find?_modify_eq_some_iff ..).mp rowFound with ⟨old, oldFound, rfl⟩
  split
  · next equal =>
      rw [equal, found] at oldFound
      injection oldFound with same
      subst same
      exact .inr ⟨queued, failed, notRetrying⟩
  · exact .inl oldFound

theorem step {action : Action} {next : State} (taken : Step state action next) :
    Settled next := by
  cases taken with
  | register =>
      exact settled.of_rows Or.inl Or.inl fun found => .inl ⟨_, found, rfl, rfl⟩
  | create fresh =>
      refine settled.of_rows (fun found => Or.inl found) ?_
        fun found => .inl ⟨_, found, rfl, rfl⟩
      intro jobId job found
      rcases (Table.find?_insert_eq_some_iff _ _ _ fresh).mp found with ⟨-, rfl⟩ | found
      · exact .inr ⟨fun _ => ⟨rfl, rfl, rfl⟩, fun _ => rfl, by decide⟩
      · exact .inl found
  | extend =>
      refine settled.of_rows (fun found => Or.inl found) (fun found => Or.inl found) ?_
      intro leaseId lease found
      rcases (Table.find?_modify_eq_some_iff ..).mp found with ⟨old, oldFound, rfl⟩
      refine .inl ⟨old, oldFound, ?_⟩
      split <;> exact ⟨rfl, rfl⟩
  | assign idle found queued freshAttempt freshLease =>
      apply settled.of_rows
      · intro attemptId attempt attemptFound
        rcases (Table.find?_insert_eq_some_iff _ _ _ freshAttempt).mp attemptFound with
          ⟨-, rfl⟩ | attemptFound
        · exact .inr ⟨iff_of_true rfl (show ¬JobStatus.assigned.Terminal by decide), fun _ => rfl⟩
        · exact .inl attemptFound
      · intro jobId job jobFound
        rcases (Table.find?_modify_eq_some_iff ..).mp jobFound with ⟨old, oldFound, rfl⟩
        split
        · exact .inr (by simp)
        · exact .inl oldFound
      · intro leaseId lease leaseFound
        rcases (Table.find?_insert_eq_some_iff _ _ _ freshLease).mp leaseFound with
          ⟨-, rfl⟩ | leaseFound
        · exact .inr (iff_of_true rfl rfl)
        · exact .inl ⟨_, leaseFound, rfl, rfl⟩
  | @advance leaseId lease job attempt target occurredAt binding notRequested allowed running =>
      have leased := (leased_or_terminal_of_allowed binding.leased allowed).resolve_right running
      apply settled.of_rows
      · intro attemptId other attemptFound
        rcases (Table.find?_modify_eq_some_iff ..).mp attemptFound with ⟨old, oldFound, rfl⟩
        split
        · next equal =>
            rw [equal, binding.attemptFound] at oldFound
            injection oldFound with same
            subst same
            have unsealed := settled.unfinishedUnsealed binding.attemptFound
            exact .inr ⟨iff_of_true binding.unfinished running, unsealed⟩
        · exact .inl oldFound
      · intro jobId other jobFound
        rcases (Table.find?_modify_eq_some_iff ..).mp jobFound with ⟨old, oldFound, rfl⟩
        split
        · exact .inr ⟨fun queued => absurd queued leased.1,
            fun failed => absurd (by simp only at failed; rw [failed]; decide) running,
            leased.2.1⟩
        · exact .inl oldFound
      · intro other row found
        exact .inl ⟨_, found, rfl, rfl⟩
  | @finish leaseId lease job attempt target closer now occurredAt watermarks binding
      cancellation allowed terminal revoked expired =>
      apply settled.of_rows
      · intro attemptId other attemptFound
        rcases (Table.find?_modify_eq_some_iff ..).mp attemptFound with ⟨old, oldFound, rfl⟩
        split
        · exact .inr ⟨iff_of_false (by simp) (not_not_intro terminal), by simp⟩
        · exact .inl oldFound
      · intro jobId other jobFound
        rcases (Table.find?_modify_eq_some_iff ..).mp jobFound with ⟨old, oldFound, rfl⟩
        split
        · next equal =>
            rw [equal, binding.jobFound] at oldFound
            injection oldFound with same
            subst same
            refine .inr ⟨?_, ?_, ?_⟩
            · rintro rfl
              exact absurd terminal (by decide)
            · -- A failed attempt has no pending cancellation and was not revoked.
              rintro rfl
              cases closer with
              | administrator => cases revoked rfl
              | worker | reaper =>
                  by_contra requested
                  cases cancellation requested
            · rintro rfl
              exact absurd terminal (by decide)
        · exact .inl oldFound
      · intro other row found
        rcases (Table.find?_modify_eq_some_iff ..).mp found with ⟨old, oldFound, rfl⟩
        split
        · exact .inr (iff_of_false (by simp) (by simp))
        · exact .inl ⟨old, oldFound, rfl, rfl⟩
  | requeue found failed current =>
      exact settled.of_job found (fun _ => ⟨rfl, rfl, rfl⟩) (fun _ => rfl) (by simp)
  | @discard jobId job target now found queued closing =>
      have unrequested := (settled.queuedJob found queued).2.2
      rcases closing with rfl | rfl
      · exact settled.of_job found (by simp) (fun _ => unrequested) (by simp)
      · exact settled.of_job found (by simp) (by simp) (by simp)
  | @requestCancel jobId job now found notQueued running =>
      have notRetrying := settled.neverRetrying found
      refine settled.of_job found (fun queued => absurd queued notQueued) ?_ notRetrying
      intro failed
      exact absurd (by simp only at failed; rw [failed]; decide) running

end Settled

/-! ## Every reachable state -/

structure Sound (state : State) : Prop extends Coherent state, Numbered state, Settled state

theorem Sound.empty : Sound .empty := by
  constructor <;> constructor <;> simp [State.empty]

theorem Coherent.step {state next : State} {action : Action} (coherent : Coherent state)
    (settled : Settled state) (taken : Step state action next) : Coherent next := by
  cases taken with
  | register fresh => exact coherent.register fresh
  | create fresh => exact coherent.create fresh
  | extend => exact coherent.extend _ _
  | assign idle found queued freshAttempt freshLease =>
      exact coherent.assign idle found queued freshAttempt freshLease
  | advance binding _ allowed running => exact coherent.advance binding allowed running
  | finish binding _ _ terminal => exact coherent.finish binding terminal
  | requeue found failed _ =>
      exact coherent.changeUnheld found (fun leased => leased.2.2 (by rw [failed]; decide))
        (show ¬JobStatus.queued.Leased by decide) rfl
  | discard found queued closing =>
      refine coherent.changeUnheld found (fun leased => leased.1 queued) ?_
        (settled.queuedJob found queued).2.1
      rcases closing with rfl | rfl
      · exact show ¬JobStatus.failed.Leased by decide
      · exact show ¬JobStatus.cancelled.Leased by decide
  | requestCancel => exact coherent.requestCancel _ _

theorem Sound.step {state next : State} {action : Action} (sound : Sound state)
    (taken : Step state action next) : Sound next where
  toCoherent := sound.toCoherent.step sound.toSettled taken
  toNumbered := sound.toNumbered.step taken
  toSettled := sound.toSettled.step taken

theorem Sound.steps {state last : State} {actions : List Action} (sound : Sound state)
    (taken : Steps Step state actions last) : Sound last :=
  taken.preserves (fun _ _ _ step holds => Sound.step holds step) sound

end RvcOrchestrator.Manager.Assignment

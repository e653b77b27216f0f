import RvcOrchestrator.Manager.Records
import RvcOrchestrator.Manager.TelemetrySeal

/-! # Epoch progress

Status updates and metrics both move the epoch of a Job. Within an attempt it only goes
forward, and it starts anew with each claim and each return to the queue.
-/

namespace RvcOrchestrator.Manager

open RvcOrchestrator.Foundation RvcOrchestrator.Contracts
open Assignment (Action Sound)

/-! ## Steps of an epoch -/

def Restarted (added : List JobStatusEvent) (jobId : JobId) : Prop :=
  ∃ event ∈ added, event.jobId = jobId ∧ (event.status = .queued ∨ event.status = .assigned)

def Reached (earlier later : Option Int) : Prop :=
  ∀ epoch ∈ earlier, ∃ reached ∈ later, epoch ≤ reached

theorem Reached.refl (epoch : Option Int) : Reached epoch epoch :=
  fun reached member => ⟨reached, member, le_rfl⟩

theorem Reached.trans {first middle last : Option Int} (left : Reached first middle)
    (right : Reached middle last) : Reached first last := by
  intro epoch member
  rcases left epoch member with ⟨between, betweenMember, before⟩
  rcases right between betweenMember with ⟨reached, reachedMember, after⟩
  exact ⟨reached, reachedMember, before.trans after⟩

/-- The Job goes on with its attempt. A new epoch is one of its configuration. -/
structure JobAdvances (before after : JobRow) : Prop where
  totalEpoch : after.totalEpoch = before.totalEpoch
  attempt : after.currentAttemptId = before.currentAttemptId
  reached : Reached before.currentEpoch after.currentEpoch
  bounds : ∀ epoch ∈ after.currentEpoch, epoch ∈ before.currentEpoch ∨
    0 ≤ epoch ∧ epoch ≤ before.totalEpoch

structure JobRests (before after : JobRow) : Prop where
  totalEpoch : after.totalEpoch = before.totalEpoch
  attempt : after.currentAttemptId = before.currentAttemptId
  epoch : after.currentEpoch = before.currentEpoch

theorem JobRests.refl (job : JobRow) : JobRests job job :=
  ⟨rfl, rfl, rfl⟩

theorem JobRests.advances {before after : JobRow} (rests : JobRests before after) :
    JobAdvances before after where
  totalEpoch := rests.totalEpoch
  attempt := rests.attempt
  reached := rests.epoch ▸ .refl before.currentEpoch
  bounds _ member := .inl (rests.epoch ▸ member)

theorem JobAdvances.refl (job : JobRow) : JobAdvances job job :=
  (JobRests.refl job).advances

/-- The Job starts anew. If it has an attempt, it is one that the ledger did not know. -/
structure JobRestarts (ledger : Ledger) (before after : JobRow) : Prop where
  totalEpoch : after.totalEpoch = before.totalEpoch
  epoch : after.currentEpoch = none
  attempt : ∀ attemptId ∈ after.currentAttemptId, ledger.attempts.find? attemptId = none

structure EpochStep (Continues : JobRow → JobRow → Prop) (before after : Ledger)
    (added : List JobStatusEvent) : Prop where
  events : after.events = before.events ++ added
  attempts : ∀ attemptId, after.attempts.find? attemptId = none →
    before.attempts.find? attemptId = none
  jobs : ∀ jobId job, before.jobs.find? jobId = some job →
    ∃ later, after.jobs.find? jobId = some later ∧
      (Restarted added jobId ∧ JobRestarts before job later ∨
        ¬Restarted added jobId ∧ Continues job later)
  created : ∀ jobId job, before.jobs.find? jobId = none → after.jobs.find? jobId = some job →
    job.currentEpoch = none

section

variable {Continues : JobRow → JobRow → Prop} {ledger next : Ledger}
  {added : List JobStatusEvent}

theorem EpochStep.weaken {Weaker : JobRow → JobRow → Prop}
    (weaker : ∀ before after, Continues before after → Weaker before after)
    (step : EpochStep Continues ledger next added) : EpochStep Weaker ledger next added where
  events := step.events
  attempts := step.attempts
  jobs jobId job found := by
    rcases step.jobs jobId job found with ⟨later, laterFound, restarted | ⟨quiet, continues⟩⟩
    · exact ⟨later, laterFound, .inl restarted⟩
    · exact ⟨later, laterFound, .inr ⟨quiet, weaker job later continues⟩⟩
  created := step.created

theorem restarted_append {first second : List JobStatusEvent} {jobId : JobId} :
    Restarted (first ++ second) jobId ↔ Restarted first jobId ∨ Restarted second jobId := by
  simp only [Restarted, List.mem_append, or_and_right, exists_or]

theorem not_restarted_nil (jobId : JobId) : ¬Restarted [] jobId := by
  rintro ⟨event, member, -⟩
  cases member

/-- A Job that rests is where its last restart has left it. -/
theorem EpochStep.trans {middle last : Ledger} {first second : List JobStatusEvent}
    (left : EpochStep JobRests ledger middle first)
    (right : EpochStep JobRests middle last second) :
    EpochStep JobRests ledger last (first ++ second) where
  events := by rw [right.events, left.events, List.append_assoc]
  attempts attemptId unknown := left.attempts attemptId (right.attempts attemptId unknown)
  jobs jobId job found := by
    rcases left.jobs jobId job found with ⟨between, betweenFound, earlier⟩
    rcases right.jobs jobId between betweenFound with ⟨later, laterFound, rest⟩
    refine ⟨later, laterFound, ?_⟩
    rw [restarted_append]
    have total : between.totalEpoch = job.totalEpoch := by
      rcases earlier with ⟨-, restarts⟩ | ⟨-, rests⟩
      · exact restarts.totalEpoch
      · exact rests.totalEpoch
    rcases rest with ⟨again, restarts⟩ | ⟨quiet, rests⟩
    · refine .inl ⟨.inr again, restarts.totalEpoch.trans total, restarts.epoch, ?_⟩
      exact fun attemptId member => left.attempts attemptId (restarts.attempt attemptId member)
    · rcases earlier with ⟨once, restarts⟩ | ⟨still, restsBefore⟩
      · refine .inl ⟨.inl once, rests.totalEpoch.trans total, rests.epoch.trans restarts.epoch, ?_⟩
        intro attemptId member
        exact restarts.attempt attemptId (rests.attempt ▸ member)
      · refine .inr ⟨not_or.mpr ⟨still, quiet⟩, ?_⟩
        exact ⟨rests.totalEpoch.trans total, rests.attempt.trans restsBefore.attempt,
          rests.epoch.trans restsBefore.epoch⟩
  created jobId job absent found := by
    cases between : middle.jobs.find? jobId with
    | none => exact right.created jobId job between found
    | some row =>
        have fresh := left.created jobId row absent between
        rcases right.jobs jobId row between with ⟨later, laterFound, rest⟩
        rw [found] at laterFound
        rcases Option.some.inj laterFound with rfl
        rcases rest with ⟨-, restarts⟩ | ⟨-, rests⟩
        · exact restarts.epoch
        · exact rests.epoch.trans fresh

/-! ## Requests -/

theorem EpochStep.of_same (unchanged : ∀ job, Continues job job)
    (jobs : next.jobs = ledger.jobs) (attempts : next.attempts = ledger.attempts)
    (events : next.events = ledger.events) : EpochStep Continues ledger next [] where
  events := by rw [events, List.append_nil]
  attempts attemptId unknown := attempts ▸ unknown
  jobs jobId job found := ⟨job, jobs ▸ found, .inr ⟨not_restarted_nil jobId, unchanged job⟩⟩
  created jobId job absent found := by
    rw [jobs, absent] at found
    cases found

section

variable {workers : Table WorkerId WorkerRow} {attempts : Table AttemptId AttemptRow}
  {leases : Table LeaseId LeaseRow} {events : List JobStatusEvent} {logs : List JobLog}
  {metrics : List Metric} {batches : List IngestBatch} {outbox : List OutboxEvent}

/-- One Job row changes, and all events are its own. -/
theorem EpochStep.of_modify {jobId : JobId} {change : JobRow → JobRow}
    (unchanged : ∀ job, Continues job job)
    (known : ∀ attemptId, attempts.find? attemptId = none →
      ledger.attempts.find? attemptId = none)
    (appended : events = ledger.events ++ added)
    (own : ∀ event ∈ added, event.jobId = jobId)
    (changed : ∀ job, ledger.jobs.find? jobId = some job →
      Restarted added jobId ∧ JobRestarts ledger job (change job) ∨
        ¬Restarted added jobId ∧ Continues job (change job)) :
    EpochStep Continues ledger ⟨workers, ledger.jobs.modify jobId change, attempts, leases, events,
      logs, metrics, batches, outbox⟩ added where
  events := appended
  attempts := known
  jobs other job found := by
    refine ⟨_, Table.find?_modify_of_some _ _ _ found, ?_⟩
    by_cases same : other = jobId
    · rw [if_pos same]
      subst same
      exact changed job found
    · rw [if_neg same]
      refine .inr ⟨?_, unchanged job⟩
      rintro ⟨event, member, ofJob, -⟩
      exact same (ofJob.symm.trans (own event member))
  created other job absent found := by
    rw [show _ = none from (Table.find?_modify_eq_none_iff _ _ _ _).mpr absent] at found
    cases found

end

end

section

variable {platform : Platform} {settings : Settings} {ledger next : Ledger} {jobId : JobId}

def Rests (before after : Ledger) : Prop :=
  ∃ added, EpochStep JobRests before after added

theorem Rests.refl (ledger : Ledger) : Rests ledger ledger :=
  ⟨[], .of_same JobRests.refl rfl rfl rfl⟩

theorem Rests.trans {middle last : Ledger} (left : Rests ledger middle)
    (right : Rests middle last) : Rests ledger last := by
  rcases left with ⟨first, earlier⟩
  rcases right with ⟨second, later⟩
  exact ⟨first ++ second, earlier.trans later⟩

theorem committed_rests {Response : Type} {outcome : Outcome Response}
    (accepted : ∀ {response next}, outcome = .ok (response, next) → Rests ledger next) :
    Rests ledger (committed ledger outcome) := by
  match outcome with
  | .ok (_, next) => exact accepted rfl
  | .error _ => exact .refl ledger

theorem unknown_of_modify {key attemptId : AttemptId} {change : AttemptRow → AttemptRow}
    (unknown : (ledger.attempts.modify key change).find? attemptId = none) :
    ledger.attempts.find? attemptId = none :=
  (Table.find?_modify_eq_none_iff _ _ _ _).mp unknown

theorem registerWorker_rests {bootstrap : BootstrapToken} {workerId reply : WorkerId}
    {payload : WorkerRegisterRequest} {moment : Time}
    (accepted : registerWorker ledger bootstrap workerId payload moment = .ok (reply, next)) :
    Rests ledger next := by
  unfold registerWorker at accepted
  repeat' split at accepted
  all_goals cases accepted
  exact ⟨[], .of_same JobRests.refl rfl rfl rfl⟩

theorem reEnrollWorker_rests {bootstrap : BootstrapToken} {reply : WorkerId}
    {payload : WorkerReEnrollRequest}
    (accepted : reEnrollWorker ledger bootstrap payload = .ok (reply, next)) :
    Rests ledger next := by
  unfold reEnrollWorker at accepted
  repeat' split at accepted
  all_goals cases accepted
  exact ⟨[], .of_same JobRests.refl rfl rfl rfl⟩

theorem cancelAssignment_rests (workerId : WorkerId) (leaseId : LeaseId) (lease : LeaseRow)
    (previous : JobStatus) (now : Time) :
    Rests ledger (cancelAssignment settings ledger workerId leaseId lease previous now) := by
  refine ⟨_, .of_modify JobRests.refl (fun _ unknown => unknown_of_modify unknown) rfl ?_ ?_⟩
  · simp
  · intro job found
    refine .inr ⟨?_, rfl, rfl, rfl⟩
    simp [Restarted]

theorem revokeWorkerToken_rests {workerId : WorkerId} {payload : WorkerTokenRevokeRequest}
    {now : Time}
    (accepted : revokeWorkerToken settings ledger workerId payload now = .ok ((), next)) :
    Rests ledger next := by
  unfold revokeWorkerToken at accepted
  simp only at accepted
  repeat' split at accepted
  all_goals cases accepted
  · exact ⟨[], .of_same JobRests.refl rfl rfl rfl⟩
  · exact cancelAssignment_rests ..

/-- An abandoned Job goes back into the queue, or is over where it stands. -/
theorem closeAbandoned_rests (leaseId : LeaseId) (lease : LeaseRow) (job : JobRow)
    (valid : Bool) (recoveredAt : Time) :
    Rests ledger (closeAbandoned settings ledger leaseId lease job valid recoveredAt) := by
  unfold closeAbandoned
  simp only
  generalize (!job.cancelRequestedAt.isSome && valid &&
    decide (0 < settings.leaseRecoveryMaxAttempts) &&
    decide (job.attemptCount < settings.leaseRecoveryMaxAttempts)) = requeued
  refine ⟨_, .of_modify JobRests.refl (fun _ unknown => unknown_of_modify unknown)
    (List.append_assoc _ _ _) ?_ ?_⟩
  · cases requeued <;> simp
  · intro row found
    have closing : ¬Restarted [(⟨lease.jobId, some lease.attemptId, some job.status,
        if job.cancelRequestedAt.isSome = true then .cancelled else .failed, recoveredAt,
        .manager⟩ : JobStatusEvent)] lease.jobId := by
      rintro ⟨event, member, -, status⟩
      rw [List.mem_singleton.mp member] at status
      cases cancelled : job.cancelRequestedAt.isSome <;> simp [cancelled] at status
    rw [restarted_append]
    cases requeued with
    | true =>
        refine .inl ⟨.inr ⟨_, List.mem_cons_of_mem _ List.mem_cons_self, rfl, .inl rfl⟩, rfl, rfl, ?_⟩
        intro attemptId impossible
        cases impossible
    | false => exact .inr ⟨not_or.mpr ⟨closing, not_restarted_nil _⟩, rfl, rfl, rfl⟩

theorem recover_rests (recovery : Recovery) :
    Rests ledger (recover platform settings ledger recovery) := by
  apply run_preserves (Rests ledger)
  · intro current leaseId rests
    apply rests.trans
    unfold recoverLease
    repeat' split
    all_goals first
      | exact .refl _
      | exact closeAbandoned_rests ..
  · exact .refl ledger

theorem heartbeat_rests {workerId : WorkerId} {payload : WorkerHeartbeatRequest} {moment : Time}
    {response : WorkerHeartbeatResponse}
    (accepted : heartbeat platform settings ledger workerId payload moment = .ok (response, next)) :
    Rests ledger next := by
  unfold heartbeat at accepted
  simp only at accepted
  repeat' split at accepted
  all_goals cases accepted
  all_goals exact ⟨[], .of_same JobRests.refl rfl rfl rfl⟩

theorem renewLease_rests {workerId : WorkerId} {leaseId : LeaseId} {checkedAt moment : Time}
    {response : LeaseRenewResponse}
    (accepted : renewLease platform settings ledger workerId jobId leaseId checkedAt moment =
      .ok (response, next)) :
    Rests ledger next := by
  unfold renewLease at accepted
  split at accepted
  · cases accepted
  · cases accepted
    exact ⟨[], .of_same JobRests.refl rfl rfl rfl⟩

theorem createJob_rests {admission : JobAdmission} {reply : JobId} {config : JobConfig}
    {moment : Time}
    (accepted : createJob platform settings ledger admission jobId config moment =
      .ok (reply, next)) :
    Rests ledger next := by
  unfold createJob at accepted
  split at accepted
  · cases accepted
  · split at accepted
    · cases accepted
    · split at accepted
      · next fresh =>
          cases accepted
          refine ⟨_, rfl, fun _ unknown => unknown, ?_, ?_⟩
          · intro other job found
            refine ⟨job, Table.find?_insert_of_some _ _ _ fresh found, .inr ⟨?_, .refl job⟩⟩
            rintro ⟨event, member, ofJob, -⟩
            rw [List.mem_singleton.mp member] at ofJob
            rw [← ofJob, fresh] at found
            cases found
          · intro other job absent found
            rcases (Table.find?_insert_eq_some_iff _ _ _ fresh).mp found with
              ⟨-, created⟩ | earlier
            · rw [created]
              rfl
            · rw [absent] at earlier
              cases earlier
      · cases accepted

theorem cancelJob_rests {owns : Bool} {moment : Time}
    (accepted : cancelJob ledger jobId owns moment = .ok ((), next)) :
    Rests ledger next := by
  unfold cancelJob at accepted
  repeat' split at accepted
  all_goals cases accepted
  · refine ⟨_, .of_modify JobRests.refl (fun _ unknown => unknown) rfl ?_ ?_⟩
    · simp
    · intro job found
      refine .inr ⟨?_, rfl, rfl, rfl⟩
      simp [Restarted]
  · refine ⟨[], .of_modify JobRests.refl (fun _ unknown => unknown) ?_ ?_ ?_⟩
    · exact (List.append_nil _).symm
    · simp
    · exact fun job found => .inr ⟨not_restarted_nil _, rfl, rfl, rfl⟩

theorem retryJob_rests {owns : Bool} {moment : Time}
    (accepted : retryJob platform ledger jobId owns moment = .ok ((), next)) :
    Rests ledger next := by
  unfold retryJob at accepted
  repeat' split at accepted
  all_goals cases accepted
  refine ⟨_, .of_modify JobRests.refl (fun _ unknown => unknown) rfl ?_ ?_⟩
  · simp
  · intro job found
    refine .inl ⟨?_, rfl, rfl, ?_⟩
    · simp [Restarted]
    · intro attemptId impossible
      cases impossible

theorem quarantine_rests (now : Time) :
    Rests ledger (quarantineInvalidQueuedJobConfig ledger jobId now) := by
  refine ⟨_, .of_modify JobRests.refl (fun _ unknown => unknown) rfl ?_ ?_⟩
  · simp
  · intro job found
    refine .inr ⟨?_, rfl, rfl, rfl⟩
    simp [Restarted]

/-- The attempt of a claim is new. -/
theorem assignJob_rests {request : ClaimRequest} {job : JobRow} {configSha256 : String}
    (freshAttempt : ledger.attempts.find? request.attemptId = none)
    (freshLease : ledger.leases.find? request.leaseId = none) :
    Rests ledger
      (assignJob settings ledger request jobId job configSha256 freshAttempt freshLease) := by
  refine ⟨_, .of_modify JobRests.refl ?_ rfl ?_ ?_⟩
  · intro attemptId unknown
    by_contra known
    rcases Option.ne_none_iff_exists'.mp known with ⟨attempt, found⟩
    have still := Table.find?_insert_of_some _ request.attemptId
      { jobId := jobId
        workerId := request.workerId
        attemptNumber := job.attemptCount + 1
        engineMode := request.capabilities.engineMode
        runtimeImageDigest := request.capabilities.runtimeImageDigest
        runtimeAssetManifestSha256 := request.capabilities.runtimeAssetManifestSha256
        jobConfigSha256 := some configSha256
        status := .assigned
        startedAt := request.now
        finishedAt := none
        errorCode := none
        errorMessage := none
        telemetryCounts := none } freshAttempt found
    rw [show _ = none from unknown] at still
    cases still
  · simp
  · intro row found
    refine .inl ⟨?_, rfl, rfl, ?_⟩
    · simp [Restarted]
    · intro attemptId claimed
      rcases Option.some.inj claimed with rfl
      exact freshAttempt

theorem claimFirst_rests {request : ClaimRequest} {entries : List (JobId × JobRow)}
    {response : Option JobClaim}
    (accepted : claimFirst platform settings request entries ledger = .ok (response, next)) :
    Rests ledger next := by
  induction entries generalizing ledger with
  | nil =>
      cases accepted
      exact .refl _
  | cons entry rest induction =>
      unfold claimFirst at accepted
      split at accepted
      · exact (quarantine_rests request.now).trans (induction accepted)
      · split at accepted
        · cases accepted
        · exact induction accepted
        · rcases commitClaim_eq_ok accepted with ⟨hash, freshAttempt, freshLease, -, -, rfl⟩
          exact assignJob_rests freshAttempt freshLease

theorem claimJob_rests {request : ClaimRequest} {response : Option JobClaim}
    (accepted : claimJob platform settings ledger request = .ok (response, next)) :
    Rests ledger next := by
  unfold claimJob at accepted
  split at accepted
  · cases accepted
  · repeat' split at accepted
    · cases accepted
    · cases accepted
    · cases accepted
      exact .refl ledger
    · cases accepted
    · exact claimFirst_rests accepted

end

/-! ## Status updates -/

section

variable {platform : Platform} {settings : Settings} {ledger next : Ledger} {jobId : JobId}

theorem recordUpdate_advances {job : JobRow} {update : JobStatusUpdate}
    (checked : validateCurrentEpoch job update.currentEpoch = .ok ()) :
    JobAdvances job (recordUpdate update job) := by
  refine ⟨rfl, rfl, ?_, (recordUpdate_rewritten checked).epoch⟩
  unfold recordUpdate validateCurrentEpoch at *
  intro stored member
  split at checked
  · next absent =>
      rw [absent]
      exact ⟨stored, member, le_rfl⟩
  · next reported present =>
      rw [present]
      split at checked
      · cases checked
      · split at checked
        · cases checked
        · next forward =>
            rw [show job.currentEpoch = some stored from member, Option.any_some,
              decide_eq_true_eq, not_lt] at forward
            exact ⟨reported.1, rfl, forward⟩

/-- A Worker that holds the Job neither queues nor assigns it. -/
theorem unqueued_of_allowed {previous target : JobStatus} (leased : previous.Leased)
    (allowed : target ∈ allowedJobTransitions previous) :
    target ≠ .queued ∧ target ≠ .assigned := by
  cases previous <;> cases target <;>
    first | decide | exact absurd leased (by decide) | exact absurd allowed (by decide)

theorem not_restarted_statusEvents {attemptId : AttemptId} {previous target : JobStatus}
    {occurredAt : Time} (leased : previous.Leased)
    (allowed : target = previous ∨ target ∈ allowedJobTransitions previous) :
    ¬Restarted (statusEvents jobId attemptId previous target occurredAt) jobId := by
  unfold statusEvents
  split
  · exact not_restarted_nil jobId
  · next moved =>
      rintro ⟨event, member, -, restart⟩
      rw [List.mem_singleton.mp member] at restart
      rcases allowed with same | entered
      · exact moved same.symm
      · rcases unqueued_of_allowed leased entered with ⟨notQueued, notAssigned⟩
        rcases restart with queued | assigned
        · exact notQueued queued
        · exact notAssigned assigned

theorem mem_statusEvents_job {attemptId : AttemptId} {previous target : JobStatus}
    {occurredAt : Time} {event : JobStatusEvent}
    (member : event ∈ statusEvents jobId attemptId previous target occurredAt) :
    event.jobId = jobId := by
  unfold statusEvents at member
  split at member
  · cases member
  · rw [List.mem_singleton.mp member]

theorem commitStatus_epochStep {workerId : WorkerId} {update : JobStatusUpdate}
    {attemptId : AttemptId} {expectedStatus : JobStatus} {inventory : ArtifactInventory}
    {clock : StatusClock} {ack : StatusAck} (sound : Sound ledger.view)
    (accepted : commitStatus platform settings ledger workerId jobId update attemptId
      expectedStatus inventory clock = .ok (ack, next)) :
    ∃ added, EpochStep JobAdvances ledger next added := by
  unfold commitStatus at accepted
  split at accepted
  · cases accepted
  · next claim locked =>
      rcases lockCurrentStatusClaim_eq_ok locked with ⟨leaseFound, jobFound, attemptFound,
        -, ofJob, ofAttempt, -, -, -, -, unfinished, -⟩
      subst ofJob ofAttempt
      rcases sound.binding_of_unfinished (leaseView leaseFound) (jobView jobFound)
        (attemptView attemptFound) unfinished with ⟨binding, -⟩
      split at accepted
      · cases accepted
      · cases accepted
      · next target targeted checked =>
          have quiet : ¬Restarted (statusEvents claim.lease.jobId claim.lease.attemptId
              claim.job.status target update.occurredAt) claim.lease.jobId :=
            not_restarted_statusEvents binding.leased (validateTarget_eq_ok targeted).1
          have advances := recordUpdate_advances checked
          split at accepted
          · repeat' split at accepted
            all_goals cases accepted
            refine ⟨_, .of_modify JobAdvances.refl (fun _ unknown => unknown_of_modify unknown) rfl
              (fun event member => mem_statusEvents_job member) ?_⟩
            intro row found
            rw [jobFound] at found
            rcases Option.some.inj found with rfl
            exact .inr ⟨quiet, advances.1, advances.2, advances.3, advances.4⟩
          · cases accepted
            refine ⟨_, .of_modify JobAdvances.refl (fun _ unknown => unknown_of_modify unknown) rfl
              (fun event member => mem_statusEvents_job member) ?_⟩
            intro row found
            rw [jobFound] at found
            rcases Option.some.inj found with rfl
            exact .inr ⟨quiet, advances.1, advances.2, advances.3, advances.4⟩

theorem Rests.epochStep {next : Ledger} (rests : Rests ledger next) :
    ∃ added, EpochStep JobAdvances ledger next added := by
  rcases rests with ⟨added, step⟩
  exact ⟨added, step.weaken fun _ _ => JobRests.advances⟩

theorem start_rests (operation : Operation) :
    Rests ledger (operation.start platform settings ledger) := by
  cases operation with
  | claim recovery => exact recover_rests recovery
  | heartbeat recovery => exact recover_rests recovery
  | _ => exact .refl ledger

/-- Only a status update moves an epoch. -/
theorem perform_epochStep (sound : Sound ledger.view) (operation : Operation) :
    ∃ added, EpochStep JobAdvances ledger (perform platform settings ledger operation) added := by
  have resting : Rests (operation.start platform settings ledger)
      (perform platform settings ledger operation) →
      ∃ added, EpochStep JobAdvances ledger (perform platform settings ledger operation) added :=
    fun commit => ((start_rests operation).trans commit).epochStep
  cases operation with
  | registerWorker => exact resting (committed_rests fun accepted => registerWorker_rests accepted)
  | reEnrollWorker => exact resting (committed_rests fun accepted => reEnrollWorker_rests accepted)
  | revokeWorkerToken =>
      exact resting (committed_rests fun accepted => revokeWorkerToken_rests accepted)
  | recoverExpiredLeases recovery => exact resting (recover_rests recovery)
  | claim => exact resting (committed_rests fun accepted => claimJob_rests accepted)
  | heartbeat => exact resting (committed_rests fun accepted => heartbeat_rests accepted)
  | renewLease => exact resting (committed_rests fun accepted => renewLease_rests accepted)
  | createJob => exact resting (committed_rests fun accepted => createJob_rests accepted)
  | cancelJob => exact resting (committed_rests fun accepted => cancelJob_rests accepted)
  | retryJob => exact resting (committed_rests fun accepted => retryJob_rests accepted)
  | updateJobStatus earlier workerId jobId update inventory samples inventoryAtCommit clock =>
      unfold perform Operation.commit Operation.start committed
      simp only
      split
      · next response next accepted =>
          unfold updateJobStatus at accepted
          split at accepted
          · cases accepted
          · exact commitStatus_epochStep sound accepted
      · exact (Rests.refl ledger).epochStep

/-! ## Metrics -/

/-- The totals of Jobs do not change. -/
theorem EpochStep.total {added : List JobStatusEvent}
    (step : EpochStep JobAdvances ledger next added) {job : JobRow}
    (found : ledger.jobs.find? jobId = some job) :
    ∃ later, next.jobs.find? jobId = some later ∧ later.totalEpoch = job.totalEpoch := by
  rcases step.jobs jobId job found with ⟨later, laterFound, ⟨-, restarts⟩ | ⟨-, advances⟩⟩
  · exact ⟨later, laterFound, restarts.totalEpoch⟩
  · exact ⟨later, laterFound, advances.totalEpoch⟩

theorem EpochsFit.stepped {Entry : Type} {checked : CheckedBatch Entry}
    {added : List JobStatusEvent} (fit : EpochsFit ledger jobId checked)
    (step : EpochStep JobAdvances ledger next added) : EpochsFit next jobId checked := by
  rcases fit with ⟨job, found, bounds⟩
  rcases step.total found with ⟨later, laterFound, total⟩
  exact ⟨later, laterFound, total ▸ bounds⟩

theorem IngestFits.stepped {phase : IngestPhase} {added : List JobStatusEvent}
    (fits : IngestFits ledger phase) (step : EpochStep JobAdvances ledger next added) :
    IngestFits next phase := by
  cases phase with
  | logs => exact EpochsFit.stepped fits step
  | metrics => exact EpochsFit.stepped fits step

theorem projectEpoch_advances {epochs : List Int} {row : JobRow}
    (bounds : ∀ epoch ∈ epochs, 0 ≤ epoch ∧ epoch ≤ row.totalEpoch) :
    JobAdvances row (projectEpoch epochs row) := by
  have rewritten := projectEpoch_rewritten bounds
  unfold projectEpoch at rewritten ⊢
  split
  · exact .refl row
  · next projected largest =>
      split
      · next forward =>
          simp only [largest, forward, if_true] at rewritten
          refine ⟨rfl, rfl, ?_, rewritten.epoch⟩
          intro stored member
          rw [show row.currentEpoch = some stored from member, Option.all_some,
            decide_eq_true_eq] at forward
          exact ⟨projected, rfl, forward.le⟩
      · exact .refl row

theorem writeBatch_epochStep {Entry Row : Type} {kind : TelemetryKind Entry Row}
    {workerId : WorkerId} {batch : TelemetryBatch Entry} {checked : CheckedBatch Entry}
    {clock : WriteClock} {ack : OperationAck} (fit : EpochsFit ledger jobId checked)
    (accepted : writeBatch platform settings kind ledger workerId jobId batch checked clock =
      .ok (ack, next)) :
    ∃ added, EpochStep JobAdvances ledger next added := by
  rcases writeBatch_eq_ok accepted with rfl | ⟨-, -, -, rfl⟩
  · exact (Rests.refl _).epochStep
  · unfold storeBatch
    split
    · exact ⟨[], .of_same JobAdvances.refl rfl rfl rfl⟩
    · refine ⟨[], .of_modify JobAdvances.refl (fun _ unknown => unknown)
        (List.append_nil _).symm ?_ ?_⟩
      · intro event impossible
        cases impossible
      · intro row found
        rcases fit with ⟨job, jobFound, bounds⟩
        rw [jobFound] at found
        rcases Option.some.inj found with rfl
        refine .inr ⟨not_restarted_nil jobId, projectEpoch_advances ?_⟩
        intro epoch member
        rcases List.mem_filterMap.mp member with ⟨pair, pairMember, reported⟩
        exact bounds pair pairMember epoch reported

theorem committed_epochStep {Response : Type} {outcome : Outcome Response}
    (accepted : ∀ {response next}, outcome = .ok (response, next) →
      ∃ added, EpochStep JobAdvances ledger next added) :
    ∃ added, EpochStep JobAdvances ledger (committed ledger outcome) added := by
  match outcome with
  | .ok (_, next) => exact accepted rfl
  | .error _ => exact (Rests.refl ledger).epochStep

theorem commitIngest_epochStep {text : TelemetryText} (choice : IngestChoice)
    {phase : IngestPhase} (fits : IngestFits ledger phase) :
    ∃ added, EpochStep JobAdvances ledger
      (commitIngest platform settings text ledger choice phase) added := by
  cases phase with
  | logs => exact committed_epochStep fun accepted => writeBatch_epochStep fits accepted
  | metrics => exact committed_epochStep fun accepted => writeBatch_epochStep fits accepted

def AttemptOver (ledger : Ledger) : IngestPhase → Prop
  | .logs _ _ batch _ => ∃ attempt, ledger.attempts.find? batch.attemptId = some attempt ∧
      attempt.finishedAt ≠ none
  | .metrics _ _ batch _ => ∃ attempt, ledger.attempts.find? batch.attemptId = some attempt ∧
      attempt.finishedAt ≠ none

/-- A batch that arrives late, or whose attempt has ended since it was checked. -/
theorem writeBatch_over {Entry Row : Type} {kind : TelemetryKind Entry Row}
    {workerId : WorkerId} {batch : TelemetryBatch Entry} {checked : CheckedBatch Entry}
    {clock : WriteClock} {ack : OperationAck} {attempt : AttemptRow}
    (found : ledger.attempts.find? batch.attemptId = some attempt)
    (finished : attempt.finishedAt ≠ none)
    (accepted : writeBatch platform settings kind ledger workerId jobId batch checked clock =
      .ok (ack, next)) :
    next.jobs = ledger.jobs := by
  rcases writeBatch_eq_ok accepted with rfl | ⟨fence, -, -, rfl⟩
  · rfl
  · rcases fence with late | fenced
    · simp only [storeBatch, late, if_true]
    · rcases acquireActiveTelemetryWriteFence_eq_ok fenced with
        ⟨lease, job, row, presents, -, running⟩
      have same := presents.attemptFound
      rw [show (telemetryClaim kind workerId jobId batch).attemptId = batch.attemptId from rfl,
        found] at same
      rcases Option.some.inj same with rfl
      exact absurd running.unfinished finished

theorem commitIngest_over {text : TelemetryText} {choice : IngestChoice} {phase : IngestPhase}
    (ended : AttemptOver ledger phase) :
    (commitIngest platform settings text ledger choice phase).jobs = ledger.jobs := by
  have unchanged : ∀ {outcome : Outcome OperationAck},
      (∀ {ack next}, outcome = .ok (ack, next) → next.jobs = ledger.jobs) →
      (committed ledger outcome).jobs = ledger.jobs := by
    intro outcome accepted
    match outcome with
    | .ok (_, next) => exact accepted rfl
    | .error _ => rfl
  cases phase with
  | logs =>
      rcases ended with ⟨attempt, found, finished⟩
      exact unchanged fun accepted => writeBatch_over found finished accepted
  | metrics =>
      rcases ended with ⟨attempt, found, finished⟩
      exact unchanged fun accepted => writeBatch_over found finished accepted

end

/-! ## Runs -/

def EpochsBounded (ledger : Ledger) : Prop :=
  ∀ jobId job, ledger.jobs.find? jobId = some job →
    ∀ epoch ∈ job.currentEpoch, 0 ≤ epoch ∧ epoch ≤ job.totalEpoch

theorem EpochsBounded.stepped {ledger next : Ledger} {added : List JobStatusEvent}
    (bounded : EpochsBounded ledger) (step : EpochStep JobAdvances ledger next added) :
    EpochsBounded next := by
  intro jobId job found epoch member
  cases earlier : ledger.jobs.find? jobId with
  | none =>
      rw [step.created jobId job earlier found] at member
      cases member
  | some row =>
      rcases step.jobs jobId row earlier with ⟨later, laterFound, moved⟩
      rw [found] at laterFound
      rcases Option.some.inj laterFound with rfl
      rcases moved with ⟨-, restarts⟩ | ⟨-, advances⟩
      · rw [restarts.epoch] at member
        cases member
      · rw [advances.totalEpoch]
        rcases advances.bounds epoch member with old | new
        · exact bounded jobId row earlier epoch old
        · exact new

section

variable (platform : Platform) (settings : Settings) {text : TelemetryText}
  {situation : Workforce.Situation Ledger IngestPhase}

structure EpochHeld (situation : Workforce.Situation Ledger IngestPhase) : Prop where
  sound : Sound situation.state.view
  bounded : EpochsBounded situation.state
  fits : ∀ phase ∈ situation.phases, IngestFits situation.state phase

theorem step_epochStep (held : EpochHeld situation) (event : IntakeEvent) :
    ∃ added, EpochStep JobAdvances situation.state
      ((intake platform settings text).step situation event).state added := by
  cases event with
  | launch request =>
      simp only [Workforce.step]
      split
      · exact (Rests.refl _).epochStep
      · next phase state launched =>
          rcases Option.map_eq_some_iff.mp launched with ⟨started, -, same⟩
          cases same
          exact (Rests.refl _).epochStep
  | proceed place choice =>
      cases found : situation.phases[place]? with
      | none =>
          simp only [Workforce.step, found]
          exact (Rests.refl _).epochStep
      | some phase =>
          rw [Workforce.step_proceed found, Workforce.state_move]
          exact commitIngest_epochStep choice (held.fits phase (List.mem_of_getElem? found))
  | stop place => exact (Rests.refl _).epochStep
  | disturb operation => exact perform_epochStep held.sound operation

theorem EpochHeld.step (held : EpochHeld situation) (event : IntakeEvent) :
    EpochHeld ((intake platform settings text).step situation event) := by
  rcases step_epochStep platform settings held event with ⟨added, stepped⟩
  refine ⟨?_, held.bounded.stepped stepped, ?_⟩
  · rcases step_view platform settings text situation event with same | ⟨operation, rfl⟩
    · rw [same]
      exact held.sound
    · exact (perform_does platform settings operation held.sound).sound held.sound
  · intro phase member
    have earlier : phase ∈ situation.phases → IngestFits
        ((intake platform settings text).step situation event).state phase :=
      fun old => (held.fits phase old).stepped stepped
    cases event with
    | launch request =>
        simp only [Workforce.step] at member earlier ⊢
        cases launched : (intake platform settings text).launch request situation.state with
        | none =>
            simp only [launched] at member earlier ⊢
            exact earlier member
        | some outcome =>
            rcases Option.map_eq_some_iff.mp launched with ⟨started, accepted, rfl⟩
            simp only [launched] at member earlier ⊢
            rcases List.mem_append.mp member with old | last
            · exact earlier old
            · rw [List.mem_singleton.mp last]
              exact launchIngest_fits accepted
    | proceed place choice =>
        cases found : situation.phases[place]? with
        | none =>
            simp only [Workforce.step, found] at member earlier ⊢
            exact earlier member
        | some own =>
            rw [Workforce.step_proceed found] at member
            exact earlier (List.mem_of_mem_eraseIdx member)
    | stop place => exact earlier (List.mem_of_mem_eraseIdx member)
    | disturb operation => exact earlier member

theorem EpochHeld.run (held : EpochHeld situation) (events : List IntakeEvent) :
    EpochHeld (Foundation.run (intake platform settings text).step situation events) := by
  apply run_preserves EpochHeld
  · intro situation event held
    exact held.step platform settings event
  · exact held

/-! ### One attempt -/

/-- The attempt is known, and while it is the Job's own the epoch is not behind. -/
structure AttemptReached (jobId : JobId) (attemptId : AttemptId) (epoch : Option Int)
    (ledger : Ledger) : Prop where
  known : ledger.attempts.find? attemptId ≠ none
  present : ledger.jobs.find? jobId ≠ none
  reached : ∀ job, ledger.jobs.find? jobId = some job → job.currentAttemptId = some attemptId →
    Reached epoch job.currentEpoch

/-- A Job that has left an attempt does not return to it. -/
theorem AttemptReached.stepped {jobId : JobId} {attemptId : AttemptId} {epoch : Option Int}
    {ledger next : Ledger} {added : List JobStatusEvent}
    (attemptReached : AttemptReached jobId attemptId epoch ledger)
    (step : EpochStep JobAdvances ledger next added) :
    AttemptReached jobId attemptId epoch next := by
  rcases Option.ne_none_iff_exists'.mp attemptReached.present with ⟨row, rowFound⟩
  rcases step.jobs jobId row rowFound with ⟨later, laterFound, moved⟩
  refine ⟨fun unknown => attemptReached.known (step.attempts attemptId unknown), ?_, ?_⟩
  · rw [laterFound]
    exact Option.some_ne_none later
  · intro job found current
    rw [laterFound] at found
    rcases Option.some.inj found with rfl
    rcases moved with ⟨-, restarts⟩ | ⟨-, advances⟩
    · exact absurd (restarts.attempt attemptId current) attemptReached.known
    · have before := attemptReached.reached row rowFound (advances.attempt ▸ current)
      exact before.trans advances.reached

theorem AttemptReached.run (held : EpochHeld situation) {jobId : JobId} {attemptId : AttemptId}
    {epoch : Option Int} (attemptReached : AttemptReached jobId attemptId epoch situation.state)
    (events : List IntakeEvent) :
    AttemptReached jobId attemptId epoch
      (Foundation.run (intake platform settings text).step situation events).state := by
  induction events generalizing situation with
  | nil => exact attemptReached
  | cons event events induction =>
      rcases step_epochStep platform settings held event with ⟨added, stepped⟩
      exact induction (held.step platform settings event) (attemptReached.stepped stepped)

end

/-- As long as a Job is in one attempt, its epoch goes forward. -/
def ForwardInAttempts (before after : Ledger) : Prop :=
  ∀ jobId job later attemptId, before.jobs.find? jobId = some job →
    after.jobs.find? jobId = some later → job.currentAttemptId = some attemptId →
    later.currentAttemptId = some attemptId → Reached job.currentEpoch later.currentEpoch

/-- Whatever the order of ingests and other requests: an epoch is one of its Job's
configuration, each step that claims or queues a Job leaves it without one, each other step
loses none and takes none back, the same holds over all steps of an attempt, and no ingest
for an attempt that is over changes a Job. -/
theorem currentEpoch_progress (platform : Platform) (settings : Settings) (text : TelemetryText)
    (events : List IntakeEvent) :
    let situation := run (intake platform settings text).step ⟨.empty, []⟩ events
    EpochsBounded situation.state ∧
      (∀ event, ∃ added, EpochStep JobAdvances situation.state
        ((intake platform settings text).step situation event).state added) ∧
      (∀ further, ForwardInAttempts situation.state
        (run (intake platform settings text).step situation further).state) ∧
      ∀ place choice phase, situation.phases[place]? = some phase →
        AttemptOver situation.state phase →
        ((intake platform settings text).step situation (.proceed place choice)).state.jobs =
          situation.state.jobs := by
  intro situation
  have start : EpochHeld ⟨.empty, []⟩ :=
    ⟨Sound.empty, fun _ _ found => (nomatch found), fun _ member => (nomatch member)⟩
  have held : EpochHeld situation := start.run platform settings events
  refine ⟨held.bounded, step_epochStep platform settings held, ?_, ?_⟩
  · intro further jobId job later attemptId found laterFound current laterCurrent
    have reached : AttemptReached jobId attemptId job.currentEpoch situation.state := by
      refine ⟨?_, found ▸ Option.some_ne_none job, ?_⟩
      · rcases held.sound.currentAttempt (jobView found) current with ⟨state, stateFound, -, -⟩
        rcases find?_map_eq_some stateFound with ⟨attempt, attemptFound, -⟩
        rw [attemptFound]
        exact Option.some_ne_none attempt
      · intro row rowFound _
        rw [found] at rowFound
        rcases Option.some.inj rowFound with rfl
        exact .refl job.currentEpoch
    exact (reached.run platform settings held further).reached later laterFound laterCurrent
  · intro place choice phase found ended
    rw [Workforce.step_proceed found, Workforce.state_move]
    exact commitIngest_over ended

end RvcOrchestrator.Manager
